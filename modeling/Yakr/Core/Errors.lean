import Mathlib.Data.List.Infix

/-!
# Yakr.Core.Errors

**Exceptions.** The `YakrError` hierarchy of `errors.py` and the built-in and
library exceptions the modelled functions raise or catch. Which `except` clause
catches what is a predicate here, so that a handler in the model names the same
classes as the handler in the source.
-/

namespace Yakr

/-- The classes of `errors.py`; `yakrError` is the base class itself. -/
inductive YakrKind where
  | yakrError
  | decrypt
  | duplicateSeq
  | contactNotFound
  | messageExpired
  | rekeyRequired
deriving DecidableEq, Repr

/-- A raised exception. -/
inductive PyExc where
  /-- `ValueError` and its subclasses (`binascii.Error`, `JSONDecodeError`,
  `UnicodeDecodeError`). -/
  | valueError (msg : String)
  | keyError (key : String)
  | typeError (msg : String)
  | attributeError (msg : String)
  | zeroDivisionError
  | structError
  | runtimeError (msg : String)
  /-- `httpx.HTTPError` and its subclasses. -/
  | httpError (msg : String)
  /-- `nacl.exceptions.CryptoError`. -/
  | cryptoError
  /-- `cryptography.exceptions.InvalidSignature`. -/
  | invalidSignature
  /-- `typer.Exit`. -/
  | exit (code : Int)
  | yakr (kind : YakrKind) (msg : String)
  /-- Any other exception, by its class name. -/
  | other (className : String)
deriving DecidableEq, Repr

namespace PyExc

/-- `except ValueError`. -/
def isValueError : PyExc → Bool
  | valueError _ => true
  | _ => false

/-- `except RuntimeError`. -/
def isRuntimeError : PyExc → Bool
  | runtimeError _ => true
  | _ => false

/-- `except YakrError`. -/
def isYakrError : PyExc → Bool
  | yakr _ _ => true
  | _ => false

/-- `except DuplicateSeqError`. -/
def isDuplicateSeqError : PyExc → Bool
  | yakr .duplicateSeq _ => true
  | _ => false

/-- `except (httpx.HTTPError, ValueError)`. -/
def isHttpOrValueError : PyExc → Bool
  | httpError _ => true
  | valueError _ => true
  | _ => false

/-- `except (RuntimeError, httpx.HTTPError, ValueError)`. -/
def isDeliveryError : PyExc → Bool
  | runtimeError _ => true
  | httpError _ => true
  | valueError _ => true
  | _ => false

end PyExc

/-- Python's `needle in hay` on strings. -/
def strContains (needle hay : String) : Bool := decide (needle.toList <:+: hay.toList)

end Yakr
