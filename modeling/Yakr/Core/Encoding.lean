import Yakr.Core.Errors
import Yakr.Lib.Base64

/-!
# Yakr.Core.Encoding

**Text encodings with their exceptions.** `b64encode` and `b64decode` of
`identity.py` (and their copies in the other modules), UTF-8, and the dictionary
of strings the ratchet keeps.
-/

namespace Yakr

open Lib

/-- `value.encode("utf-8")`. -/
def encodeUtf8 (value : String) : Bytes := Bytes.ofUtf8 value

theorem encodeUtf8_injective : Function.Injective encodeUtf8 := fun a b h => by
  have hdecoded := congrArg Bytes.toUtf8 h
  rw [encodeUtf8, encodeUtf8, Bytes.toUtf8_ofUtf8, Bytes.toUtf8_ofUtf8] at hdecoded
  exact Option.some.inj hdecoded

/-- `data.decode("utf-8")`. -/
def decodeUtf8 (data : Bytes) : Except PyExc String :=
  match data.toUtf8 with
  | some s => .ok s
  | none => .error (.valueError "'utf-8' codec can't decode byte")

/-- `urlsafe_b64encode(data)` without its padding. -/
def b64encode (data : Bytes) : String := Base64.encode data

/-- `urlsafe_b64decode` of the text with its padding restored. -/
def b64decode (value : String) : Except PyExc Bytes :=
  if value.toList.any (fun c => 128 ≤ c.toNat) then
    .error (.valueError "string argument should contain only ASCII characters")
  else
    match Base64.decode value with
    | .ok data => .ok data
    | .error .danglingDigit =>
        .error (.valueError ("Invalid base64-encoded string: number of data characters "
          ++ "cannot be 1 more than a multiple of 4"))
    | .error .incorrectPadding => .error (.valueError "Incorrect padding")

/-- Every byte string survives its text form. -/
@[simp] theorem b64decode_b64encode (data : Bytes) : b64decode (b64encode data) = .ok data := by
  have hascii : ((b64encode data).toList.any fun c => decide (128 ≤ c.toNat)) = false := by
    rw [List.any_eq_false]
    intro c hc
    have := Base64.encode_ascii data c hc
    simpa using this
  rw [b64decode, hascii, b64encode, Base64.decode_encode]
  rfl

theorem b64encode_injective : Function.Injective b64encode := fun a b h => by
  have hdecoded := congrArg b64decode h
  rw [b64decode_b64encode, b64decode_b64encode] at hdecoded
  exact Except.ok.inj hdecoded

end Yakr
