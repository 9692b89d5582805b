import Yakr.Lib.Bytes

/-!
# Yakr.Lib.Base64

**URL-safe base64 without padding.** The encoder writes the alphabet
`A–Z a–z 0–9 - _` and drops the trailing `=`; the decoder is the lenient one of
many base libraries: characters outside the alphabet are skipped, a complete pad
sequence ends the input, and only a dangling group is an error.

`decode_encode` is the round trip, by induction over groups of three bytes.
-/

namespace Lib
namespace Base64

/-! ### The alphabet -/

/-- The character of a six-bit digit. -/
def digitChar (n : Nat) : Char :=
  if n < 26 then Char.ofNat (n + 65)
  else if n < 52 then Char.ofNat (n + 71)
  else if n < 62 then Char.ofNat (n - 4)
  else if n = 62 then '-'
  else '_'

/-- The six-bit digit of a character; both alphabets are read. -/
def charDigit (c : Char) : Option Nat :=
  let n := c.toNat
  if 65 ≤ n ∧ n < 91 then some (n - 65)
  else if 97 ≤ n ∧ n < 123 then some (n - 71)
  else if 48 ≤ n ∧ n < 58 then some (n + 4)
  else if n = 43 ∨ n = 45 then some 62
  else if n = 47 ∨ n = 95 then some 63
  else none

theorem charDigit_digitChar {n : Nat} (h : n < 64) : charDigit (digitChar n) = some n := by
  have table : ∀ m < 64, charDigit (digitChar m) = some m := by decide
  exact table n h

theorem digitChar_ne_pad {n : Nat} (h : n < 64) : digitChar n ≠ '=' := by
  have table : ∀ m < 64, digitChar m ≠ '=' := by decide
  exact table n h

/-! ### Encoding -/

/-- Encoding of a byte string, three bytes a group, no padding. -/
def encodeChars : Bytes → List Char
  | b0 :: b1 :: b2 :: rest =>
      digitChar (b0.toNat / 4)
        :: digitChar (b0.toNat % 4 * 16 + b1.toNat / 16)
        :: digitChar (b1.toNat % 16 * 4 + b2.toNat / 64)
        :: digitChar (b2.toNat % 64)
        :: encodeChars rest
  | [b0, b1] =>
      [digitChar (b0.toNat / 4), digitChar (b0.toNat % 4 * 16 + b1.toNat / 16),
        digitChar (b1.toNat % 16 * 4)]
  | [b0] => [digitChar (b0.toNat / 4), digitChar (b0.toNat % 4 * 16)]
  | [] => []

/-- Unpadded URL-safe base64 text. -/
def encode (b : Bytes) : String := String.ofList (encodeChars b)

/-! ### Decoding -/

/-- Why an input is not base64. -/
inductive Error where
  /-- One digit is left over after the last complete group. -/
  | danglingDigit
  /-- The last group is short of its padding. -/
  | incorrectPadding
deriving DecidableEq, Repr

/-- The digits read so far of the current group: how many, the bits they leave
for the next byte, and the pad characters seen since the last digit. -/
structure Group where
  digits : Nat := 0
  left : Nat := 0
  pads : Nat := 0

/-- Decode with the state of the current group. -/
def decodeFrom : Group → List Char → Except Error Bytes
  | g, [] =>
      if g.digits = 0 then .ok []
      else if g.digits = 1 then .error .danglingDigit
      else .error .incorrectPadding
  | g, c :: rest =>
      if c = '=' then
        -- two digits need two pads, three digits one: then nothing more is read
        if 2 ≤ g.digits ∧ 4 ≤ g.digits + (g.pads + 1) then .ok []
        else decodeFrom { g with pads := if 2 ≤ g.digits then g.pads + 1 else g.pads } rest
      else
        match charDigit c with
        | none => decodeFrom g rest
        | some d =>
            match g.digits with
            | 0 => decodeFrom { digits := 1, left := d } rest
            | 1 =>
                (decodeFrom { digits := 2, left := d % 16 } rest).map
                  (UInt8.ofNat (g.left * 4 + d / 16) :: ·)
            | 2 =>
                (decodeFrom { digits := 3, left := d % 4 } rest).map
                  (UInt8.ofNat (g.left * 16 + d / 4) :: ·)
            | _ => (decodeFrom {} rest).map (UInt8.ofNat (g.left * 64 + d) :: ·)

/-- The pad characters that complete a text to a multiple of four. -/
def padding (value : String) : List Char :=
  List.replicate ((4 - value.toList.length % 4) % 4) '='

/-- Decoding of unpadded text: the padding is restored first. -/
def decode (value : String) : Except Error Bytes :=
  decodeFrom {} (value.toList ++ padding value)

/-! ### Round trip -/

section Digit

variable {n left : Nat} (h : n < 64) (rest : List Char)
include h

theorem decodeFrom_first :
    decodeFrom {} (digitChar n :: rest) = decodeFrom { digits := 1, left := n } rest := by
  rw [decodeFrom, if_neg (digitChar_ne_pad h), charDigit_digitChar h]
  rfl

theorem decodeFrom_second :
    decodeFrom { digits := 1, left := left } (digitChar n :: rest) =
      (decodeFrom { digits := 2, left := n % 16 } rest).map
        (UInt8.ofNat (left * 4 + n / 16) :: ·) := by
  rw [decodeFrom, if_neg (digitChar_ne_pad h), charDigit_digitChar h]
  rfl

theorem decodeFrom_third :
    decodeFrom { digits := 2, left := left } (digitChar n :: rest) =
      (decodeFrom { digits := 3, left := n % 4 } rest).map
        (UInt8.ofNat (left * 16 + n / 4) :: ·) := by
  rw [decodeFrom, if_neg (digitChar_ne_pad h), charDigit_digitChar h]
  rfl

theorem decodeFrom_fourth :
    decodeFrom { digits := 3, left := left } (digitChar n :: rest) =
      (decodeFrom {} rest).map (UInt8.ofNat (left * 64 + n) :: ·) := by
  rw [decodeFrom, if_neg (digitChar_ne_pad h), charDigit_digitChar h]
  rfl

end Digit

theorem length_encodeChars_mod (b : Bytes) :
    (4 - (encodeChars b).length % 4) % 4 = (3 - b.length % 3) % 3 := by
  induction b using encodeChars.induct with
  | case1 b0 b1 b2 rest ih =>
      simp only [encodeChars, List.length_cons]
      omega
  | case2 b0 b1 => rfl
  | case3 b0 => rfl
  | case4 => rfl

/-- **Round trip of one input.** Decoding the encoding followed by its padding
gives the bytes back. -/
theorem decodeFrom_encodeChars (b : Bytes) :
    decodeFrom {} (encodeChars b ++ List.replicate ((3 - b.length % 3) % 3) '=') = .ok b := by
  induction b using encodeChars.induct with
  | case1 b0 b1 b2 rest ih =>
      have h0 := b0.toNat_lt
      have h1 := b1.toNat_lt
      have h2 := b2.toNat_lt
      have hpad : (3 - (b0 :: b1 :: b2 :: rest).length % 3) % 3 = (3 - rest.length % 3) % 3 := by
        simp only [List.length_cons]
        omega
      have e0 : b0.toNat / 4 * 4 + (b0.toNat % 4 * 16 + b1.toNat / 16) / 16 = b0.toNat := by omega
      have e1 : (b0.toNat % 4 * 16 + b1.toNat / 16) % 16 * 16
          + (b1.toNat % 16 * 4 + b2.toNat / 64) / 4 = b1.toNat := by omega
      have e2 : (b1.toNat % 16 * 4 + b2.toNat / 64) % 4 * 64 + b2.toNat % 64 = b2.toNat := by omega
      rw [hpad]
      simp only [encodeChars, List.cons_append]
      rw [decodeFrom_first (by omega), decodeFrom_second (by omega),
        decodeFrom_third (by omega), decodeFrom_fourth (by omega), ih, e0, e1, e2]
      simp only [UInt8.ofNat_toNat]
      rfl
  | case2 b0 b1 =>
      have h0 := b0.toNat_lt
      have h1 := b1.toNat_lt
      have e0 : b0.toNat / 4 * 4 + (b0.toNat % 4 * 16 + b1.toNat / 16) / 16 = b0.toNat := by omega
      have e1 : (b0.toNat % 4 * 16 + b1.toNat / 16) % 16 * 16
          + (b1.toNat % 16 * 4) / 4 = b1.toNat := by omega
      simp only [encodeChars, List.cons_append, List.nil_append]
      rw [decodeFrom_first (by omega), decodeFrom_second (by omega),
        decodeFrom_third (by omega), e0, e1]
      simp only [UInt8.ofNat_toNat]
      rfl
  | case3 b0 =>
      have h0 := b0.toNat_lt
      have e0 : b0.toNat / 4 * 4 + (b0.toNat % 4 * 16) / 16 = b0.toNat := by omega
      simp only [encodeChars, List.cons_append, List.nil_append]
      rw [decodeFrom_first (by omega), decodeFrom_second (by omega), e0]
      simp only [UInt8.ofNat_toNat]
      rfl
  | case4 => rfl

/-- Every byte string is read back from its encoding. -/
@[simp] theorem decode_encode (b : Bytes) : decode (encode b) = .ok b := by
  rw [decode, padding, encode, String.toList_ofList, length_encodeChars_mod]
  exact decodeFrom_encodeChars b

/-- What all characters of the alphabet have, all characters of an encoding have. -/
theorem encode_chars {p : Char → Prop} (hdigit : ∀ n < 64, p (digitChar n)) (b : Bytes) :
    ∀ c ∈ (encode b).toList, p c := by
  rw [encode, String.toList_ofList]
  induction b using encodeChars.induct with
  | case1 b0 b1 b2 rest ih =>
      have h0 := b0.toNat_lt
      have h1 := b1.toNat_lt
      have h2 := b2.toNat_lt
      intro c hc
      simp only [encodeChars, List.mem_cons] at hc
      rcases hc with rfl | rfl | rfl | rfl | hc
      · exact hdigit _ (by omega)
      · exact hdigit _ (by omega)
      · exact hdigit _ (by omega)
      · exact hdigit _ (by omega)
      · exact ih c hc
  | case2 b0 b1 =>
      have h0 := b0.toNat_lt
      have h1 := b1.toNat_lt
      intro c hc
      simp only [encodeChars, List.mem_cons, List.not_mem_nil, or_false] at hc
      rcases hc with rfl | rfl | rfl
      · exact hdigit _ (by omega)
      · exact hdigit _ (by omega)
      · exact hdigit _ (by omega)
  | case3 b0 =>
      have h0 := b0.toNat_lt
      intro c hc
      simp only [encodeChars, List.mem_cons, List.not_mem_nil, or_false] at hc
      rcases hc with rfl | rfl
      · exact hdigit _ (by omega)
      · exact hdigit _ (by omega)
  | case4 =>
      intro c hc
      simp [encodeChars] at hc

/-- The encoding is ASCII text. -/
theorem encode_ascii (b : Bytes) : ∀ c ∈ (encode b).toList, c.toNat < 128 :=
  encode_chars (by decide) b

/-- Two byte strings with one encoding are equal. -/
theorem encode_injective : Function.Injective encode := by
  intro a b h
  have : Except.ok (ε := Error) a = .ok b := by
    rw [← decode_encode a, h, decode_encode]
  exact Except.ok.inj this

theorem encode_eq_empty {b : Bytes} : encode b = "" ↔ b = [] :=
  ⟨fun h => encode_injective h, fun h => by subst h; rfl⟩

end Base64
end Lib
