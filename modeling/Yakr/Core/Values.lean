import Yakr.Core.Encoding
import Yakr.Core.Packages

/-!
# Yakr.Core.Values

**Conversions of decoded values.** What `int(x)`, `str(x)` and `bytes(x)` do to
the values `json.loads` and `cbor2.loads` return, with the exceptions they raise.
The parsers of the wire formats apply them to whatever a peer sent.
-/

namespace Yakr

open Lib

variable (P : Packages)

/-! ### Texts -/

/-- White space that `str.strip` removes. -/
def isPySpace (c : Char) : Bool :=
  c = ' ' || ('\t' ≤ c && c ≤ '\r') || ('\x1c' ≤ c && c ≤ '\x1f') || c = '\x85' || c = '\xa0'
    || c = '\u1680' || ('\u2000' ≤ c && c ≤ '\u200a') || c = '\u2028' || c = '\u2029'
    || c = '\u202f' || c = '\u205f' || c = '\u3000'

/-- `value.strip()` on characters. -/
def stripChars (cs : List Char) : List Char :=
  ((cs.dropWhile isPySpace).reverse.dropWhile isPySpace).reverse

/-- `value.strip()`. -/
def strip (value : String) : String := String.ofList (stripChars value.toList)

/-- `value.rstrip("/")`. -/
def rstripSlash (value : String) : String :=
  String.ofList ((value.toList.reverse.dropWhile (· = '/')).reverse)

/-- `value.split(",")` on characters. -/
def splitComma : List Char → List (List Char)
  | [] => [[]]
  | c :: cs =>
      match splitComma cs with
      | [] => [[c]]
      | part :: parts => if c = ',' then [] :: part :: parts else (c :: part) :: parts

/-- `tuple(part.strip() for part in value.split(",") if part.strip())`. -/
def splitNames (value : String) : List String :=
  ((splitComma value.toList).map stripChars).filterMap fun part =>
    if part = [] then none else some (String.ofList part)

/-- Digits with single underscores between them. -/
def isDigitGroup : List Char → Bool
  | [] => false
  | [c] => c.isDigit
  | c :: d :: rest =>
      c.isDigit && (if d = '_' then isDigitGroup rest else isDigitGroup (d :: rest))

/-- `int(text)` for ASCII texts. -/
def intOfText (value : String) : Option Int :=
  let digits (negative : Bool) (cs : List Char) : Option Int :=
    if isDigitGroup cs then
      let n : Int := Nat.ofDigitChars 10 (cs.filter Char.isDigit) 0
      some (if negative then -n else n)
    else none
  match stripChars value.toList with
  | '-' :: rest => digits true rest
  | '+' :: rest => digits false rest
  | cs => digits false cs

/-! ### JSON values -/

/-- `int(value)`. -/
def pyInt : Json → Except PyExc Int
  | .int n => .ok n
  | .bool b => .ok (if b then 1 else 0)
  | .str s =>
      match intOfText s with
      | some n => .ok n
      | none => .error (.valueError "invalid literal for int() with base 10")
  | .float literal =>
      match P.floatToInt literal with
      | some n => .ok n
      | none => .error (.valueError "cannot convert float to integer")
  | _ => .error (.typeError "int() argument must be a string, a bytes-like object or a real number")

/-- `str(value)`. -/
def pyStr : Json → String
  | .str s => s
  | .int n => toString n
  | .bool true => "True"
  | .bool false => "False"
  | .null => "None"
  | v => P.reprJson v

/-- `bool(value)`. -/
def pyBool : Json → Bool
  | .null => false
  | .bool b => b
  | .int n => n ≠ 0
  | .float literal => !P.floatIsZero literal
  | .str s => s ≠ ""
  | .arr items => !items.isEmpty
  | .obj entries => !entries.isEmpty

/-- `payload[key]` of a decoded value. -/
def subscript (payload : Json) (key : String) : Except PyExc Json :=
  match payload with
  | .obj entries =>
      match Json.lookup key entries with
      | some v => .ok v
      | none => .error (.keyError key)
  | .arr _ => .error (.typeError "list indices must be integers or slices, not str")
  | .str _ => .error (.typeError "string indices must be integers, not 'str'")
  | _ => .error (.typeError "object is not subscriptable")

/-- `payload.get(key)` of a decoded value; `none` stands for a missing key. -/
def dictGet (payload : Json) (key : String) : Except PyExc (Option Json) :=
  match payload with
  | .obj entries => .ok (Json.lookup key entries)
  | _ => .error (.attributeError "object has no attribute 'get'")

/-! ### CBOR values -/

/-- `int(value)`. -/
def cborInt : Cbor → Except PyExc Int
  | .int n => .ok n
  | .bool b => .ok (if b then 1 else 0)
  | .text s =>
      match intOfText s with
      | some n => .ok n
      | none => .error (.valueError "invalid literal for int() with base 10")
  | _ => .error (.typeError "int() argument must be a string, a bytes-like object or a real number")

/-- `str(value)`. -/
def cborStr : Cbor → String
  | .text s => s
  | .int n => toString n
  | .bool true => "True"
  | .bool false => "False"
  | .null => "None"
  | v => P.reprCbor v

/-- `bytes(value)`: an integer gives that many zero bytes. -/
def cborBytes : Cbor → Except PyExc Bytes
  | .bytes b => .ok b
  | .int n =>
      if n < 0 then .error (.valueError "negative count")
      else .ok (List.replicate n.toNat 0)
  | .bool b => .ok (if b then [0] else [])
  | .array items =>
      items.mapM fun item =>
        match item with
        | .int n =>
            if 0 ≤ n ∧ n < 256 then .ok (UInt8.ofNat n.toNat)
            else .error (.valueError "bytes must be in range(0, 256)")
        | _ => .error (.typeError "object cannot be interpreted as an integer")
  | .text _ => .error (.typeError "string argument without an encoding")
  | _ => .error (.typeError "cannot convert object to bytes")

/-- `payload[key]`. -/
def cborGet (entries : List (String × Cbor)) (key : String) : Except PyExc Cbor :=
  match entries.reverse.lookup key with
  | some v => .ok v
  | none => .error (.keyError key)

/-- `payload.get(key, default)`. -/
def cborGetD (entries : List (String × Cbor)) (key : String) (default : Cbor) : Cbor :=
  (entries.reverse.lookup key).getD default

/-- The items a `for` loop over the value visits. -/
def cborItems : Cbor → Except PyExc (List Cbor)
  | .array items => .ok items
  | .text s => .ok (s.toList.map fun c => .text (String.ofList [c]))
  | .bytes b => .ok (b.map fun x => .int x.toNat)
  | .map entries => .ok (entries.map fun e => .text e.1)
  | _ => .error (.typeError "object is not iterable")

end Yakr
