import Mathlib.Data.List.Basic
import Mathlib.Data.Nat.Digits.Defs
import Mathlib.Tactic.Ring

/-!
# Yakr.Lib.Bytes

**Byte strings.** Wire formats are sequences of bytes: fixed-width big-endian
integers, hexadecimal text and UTF-8 text. This module fixes the representation
(`Bytes`, a list of `UInt8`) and gives the three encodings with the facts a
header parser needs: the width of an encoded integer and its round trip.
-/

namespace Lib

/-- A byte string. -/
abbrev Bytes := List UInt8

namespace Bytes

/-! ### Big-endian integers -/

/-- `n` in big-endian order on exactly `width` bytes (the high part is dropped
when `n` does not fit). -/
def ofNatBE : Nat → Nat → Bytes
  | 0, _ => []
  | width + 1, n => ofNatBE width (n / 256) ++ [UInt8.ofNat (n % 256)]

/-- The integer a byte string denotes, most significant byte first. -/
def toNatBE (b : Bytes) : Nat := b.foldl (fun acc x => acc * 256 + x.toNat) 0

@[simp] theorem length_ofNatBE (width n : Nat) : (ofNatBE width n).length = width := by
  induction width generalizing n with
  | zero => rfl
  | succ width ih => simp [ofNatBE, ih]

theorem toNatBE_concat (b : Bytes) (x : UInt8) :
    toNatBE (b ++ [x]) = toNatBE b * 256 + x.toNat := by
  simp [toNatBE]

/-- The integer of a byte string fits its length. -/
theorem toNatBE_lt (b : Bytes) : toNatBE b < 256 ^ b.length := by
  -- the digits read so far are the high part of the integer
  have hfold : ∀ (b : Bytes) (acc : Nat),
      b.foldl (fun acc x => acc * 256 + x.toNat) acc < (acc + 1) * 256 ^ b.length := by
    intro b
    induction b with
    | nil => intro acc; simp
    | cons x b ih =>
        intro acc
        have hx : x.toNat < 256 := x.toNat_lt
        have hrest := ih (acc * 256 + x.toNat)
        have hstep : (acc * 256 + x.toNat + 1) * 256 ^ b.length
            ≤ (acc + 1) * 256 * 256 ^ b.length := Nat.mul_le_mul_right _ (by omega)
        rw [List.foldl_cons, List.length_cons, pow_succ, Nat.mul_comm (256 ^ b.length) 256,
          ← Nat.mul_assoc]
        omega
  have h := hfold b 0
  rwa [Nat.zero_add, Nat.one_mul] at h

/-- An integer is read back up to its high part. -/
theorem toNatBE_ofNatBE_mod (width n : Nat) : toNatBE (ofNatBE width n) = n % 256 ^ width := by
  induction width generalizing n with
  | zero =>
      rw [pow_zero, Nat.mod_one]
      rfl
  | succ width ih =>
      have hmod : (UInt8.ofNat (n % 256)).toNat = n % 256 := by
        rw [UInt8.toNat_ofNat']
        exact Nat.mod_eq_of_lt (Nat.mod_lt _ (by norm_num))
      rw [ofNatBE, toNatBE_concat, ih, hmod, pow_succ, Nat.mul_comm (256 ^ width) 256, Nat.mod_mul]
      omega

/-- An integer that fits its width is read back. -/
theorem toNatBE_ofNatBE {width n : Nat} (h : n < 256 ^ width) :
    toNatBE (ofNatBE width n) = n := by
  rw [toNatBE_ofNatBE_mod, Nat.mod_eq_of_lt h]

/-- A byte string is its integer written on its length. -/
theorem ofNatBE_toNatBE {n : Nat} {b : Bytes} (hlen : b.length = n) :
    ofNatBE n (toNatBE b) = b := by
  induction n generalizing b with
  | zero =>
      rw [List.length_eq_zero_iff.mp hlen]
      rfl
  | succ n ih =>
      have hne : b ≠ [] := by
        rintro rfl
        cases hlen
      -- the last byte is the low-order digit
      obtain ⟨front, last, rfl⟩ : ∃ front last, b = front ++ [last] :=
        ⟨_, _, (List.dropLast_append_getLast hne).symm⟩
      have hlast : last.toNat < 256 := last.toNat_lt
      have hfront : front.length = n := by simpa using hlen
      have hdiv : (toNatBE front * 256 + last.toNat) / 256 = toNatBE front := by omega
      have hmod : (toNatBE front * 256 + last.toNat) % 256 = last.toNat := by omega
      rw [toNatBE_concat, ofNatBE, hdiv, hmod, ih hfront, UInt8.ofNat_toNat]

/-! ### Slices -/

/-- The first block of an append, when its length is known. -/
theorem take_append_of_length {a b : Bytes} {n : Nat} (h : a.length = n) :
    (a ++ b).take n = a := by
  subst h
  exact List.take_left

/-- What follows the first block of an append, when its length is known. -/
theorem drop_append_of_length {a b : Bytes} {n : Nat} (h : a.length = n) :
    (a ++ b).drop n = b := by
  subst h
  exact List.drop_left

/-! ### Hexadecimal and UTF-8 text -/

/-- The two lower-case hexadecimal digits of a byte. -/
def hexByte (b : UInt8) : List Char :=
  [Nat.digitChar (b.toNat / 16), Nat.digitChar (b.toNat % 16)]

/-- Lower-case hexadecimal text of a byte string. -/
def hex (b : Bytes) : String := String.ofList (b.flatMap hexByte)

theorem digitChar_inj {a b : Nat} (ha : a < 16) (hb : b < 16)
    (h : Nat.digitChar a = Nat.digitChar b) : a = b := by
  have hall : ∀ a < 16, ∀ b < 16, Nat.digitChar a = Nat.digitChar b → a = b := by decide
  exact hall a ha b hb h

theorem hexByte_inj {a b : UInt8} (h : hexByte a = hexByte b) : a = b := by
  have hba : a.toNat < 256 := a.toNat_lt
  have hbb : b.toNat < 256 := b.toNat_lt
  simp only [hexByte, List.cons.injEq, and_true] at h
  have hhigh := digitChar_inj (by omega) (by omega) h.1
  have hlow := digitChar_inj (by omega) (by omega) h.2
  exact UInt8.toNat.inj (by omega)

/-- Hexadecimal text determines the bytes. -/
theorem flatMap_hexByte_inj : ∀ {a b : Bytes}, a.flatMap hexByte = b.flatMap hexByte → a = b
  | [], [], _ => rfl
  | [], _ :: _, h => by cases h
  | _ :: _, [], h => by cases h
  | x :: a, y :: b, h => by
      rw [List.flatMap_cons, List.flatMap_cons] at h
      obtain ⟨hhead, htail⟩ := List.append_inj h rfl
      rw [hexByte_inj hhead, flatMap_hexByte_inj htail]

theorem length_flatMap_hexByte (a : Bytes) : (a.flatMap hexByte).length = 2 * a.length := by
  induction a with
  | nil => rfl
  | cons x a ih =>
      rw [List.flatMap_cons, List.length_append, ih]
      simp only [hexByte, List.length_cons, List.length_nil]
      omega

/-- UTF-8 encoding of a text. -/
def ofUtf8 (s : String) : Bytes := s.toList.flatMap String.utf8EncodeChar

/-- A continuation byte `10xxxxxx`. -/
def isContinuation (b : UInt8) : Bool := 0x80 ≤ b && b < 0xC0

/-- The payload bits of a continuation byte. -/
def continuationBits (b : UInt8) : Nat := b.toNat % 64

/-- Strict UTF-8 decoding: overlong forms, surrogates, values above `0x10FFFF`
and truncated sequences are rejected. -/
def utf8Chars : Bytes → Option (List Char)
  | [] => some []
  | b0 :: rest =>
      if b0 < 0x80 then (utf8Chars rest).map (Char.ofNat b0.toNat :: ·)
      else
        match rest with
        | [] => none
        | b1 :: rest1 =>
            if 0xC2 ≤ b0 && b0 < 0xE0 && isContinuation b1 then
              (utf8Chars rest1).map
                (Char.ofNat ((b0.toNat % 32) * 64 + continuationBits b1) :: ·)
            else
              match rest1 with
              | [] => none
              | b2 :: rest2 =>
                  let n := (b0.toNat % 16) * 4096 + continuationBits b1 * 64
                    + continuationBits b2
                  if 0xE0 ≤ b0 && b0 < 0xF0 && isContinuation b1 && isContinuation b2
                      && 0x800 ≤ n && !(0xD800 ≤ n && n < 0xE000) then
                    (utf8Chars rest2).map (Char.ofNat n :: ·)
                  else
                    match rest2 with
                    | [] => none
                    | b3 :: rest3 =>
                        let n := (b0.toNat % 8) * 262144 + continuationBits b1 * 4096
                          + continuationBits b2 * 64 + continuationBits b3
                        if 0xF0 ≤ b0 && b0 < 0xF5 && isContinuation b1 && isContinuation b2
                            && isContinuation b3 && 0x10000 ≤ n && n ≤ 0x10FFFF then
                          (utf8Chars rest3).map (Char.ofNat n :: ·)
                        else none

/-- The text a byte string encodes, if it is UTF-8. -/
def toUtf8 (b : Bytes) : Option String := (utf8Chars b).map String.ofList

theorem toNat_ofNat {n : Nat} (h : n < 256) : (UInt8.ofNat n).toNat = n := by
  rw [UInt8.toNat_ofNat']
  exact Nat.mod_eq_of_lt h

section Lead

/-! A byte given by a number, against a byte `a` that stands for `k`. -/

variable {a : UInt8} {n k : Nat} (hn : n < 256) (ha : a.toNat = k)
include hn ha

theorem ofNat_lt (h : n < k) : UInt8.ofNat n < a := by
  rwa [UInt8.lt_iff_toNat_lt, toNat_ofNat hn, ha]

theorem not_ofNat_lt (h : k ≤ n) : ¬ UInt8.ofNat n < a := by
  rw [UInt8.lt_iff_toNat_lt, toNat_ofNat hn, ha]
  exact Nat.not_lt.mpr h

theorem le_ofNat (h : k ≤ n) : a ≤ UInt8.ofNat n := by
  rwa [UInt8.le_iff_toNat_le, toNat_ofNat hn, ha]

end Lead

/-- Six bits of a character make a continuation byte. -/
theorem isContinuation_ofNat (m : Nat) : isContinuation (UInt8.ofNat (m % 64 + 128)) = true := by
  have h : m % 64 + 128 < 256 := by omega
  have hlow : (0x80 : UInt8) ≤ UInt8.ofNat (m % 64 + 128) := le_ofNat (k := 128) h rfl (by omega)
  have hhigh : UInt8.ofNat (m % 64 + 128) < 0xC0 := ofNat_lt (k := 192) h rfl (by omega)
  simp only [isContinuation, hlow, hhigh, decide_true, Bool.and_self]

theorem continuationBits_ofNat (m : Nat) :
    continuationBits (UInt8.ofNat (m % 64 + 128)) = m % 64 := by
  rw [continuationBits, toNat_ofNat (by omega)]
  omega

/-! The four forms of a character `v`, each in front of `rest`. -/

section Forms

variable {v : Nat} (rest : Bytes)

theorem utf8Chars_one (h : v ≤ 0x7f) :
    utf8Chars (UInt8.ofNat v :: rest) = (utf8Chars rest).map (Char.ofNat v :: ·) := by
  have hlt : v < 256 := by omega
  have hb : UInt8.ofNat v < 0x80 := ofNat_lt (k := 128) hlt rfl (by omega)
  rw [utf8Chars.eq_def]
  simp only [if_pos hb, toNat_ofNat hlt]

theorem utf8Chars_two (hlow : 0x7f < v) (hhigh : v ≤ 0x7ff) :
    utf8Chars (UInt8.ofNat (v / 64 % 32 + 192) :: UInt8.ofNat (v % 64 + 128) :: rest)
      = (utf8Chars rest).map (Char.ofNat v :: ·) := by
  have hlt : v / 64 % 32 + 192 < 256 := by omega
  have hone : ¬ UInt8.ofNat (v / 64 % 32 + 192) < 0x80 :=
    not_ofNat_lt (k := 128) hlt rfl (by omega)
  have hmin : (0xC2 : UInt8) ≤ UInt8.ofNat (v / 64 % 32 + 192) :=
    le_ofNat (k := 194) hlt rfl (by omega)
  have hmax : UInt8.ofNat (v / 64 % 32 + 192) < 0xE0 := ofNat_lt (k := 224) hlt rfl (by omega)
  have hv : (v / 64 % 32 + 192) % 32 * 64 + v % 64 = v := by omega
  rw [utf8Chars.eq_def]
  simp only [if_neg hone, hmin, hmax, isContinuation_ofNat, decide_true, Bool.and_self, if_true,
    toNat_ofNat hlt, continuationBits_ofNat, hv]

theorem utf8Chars_three (hlow : 0x7ff < v) (hhigh : v ≤ 0xffff)
    (hscalar : ¬ (0xD800 ≤ v ∧ v < 0xE000)) :
    utf8Chars (UInt8.ofNat (v / 4096 % 16 + 224) :: UInt8.ofNat (v / 64 % 64 + 128)
        :: UInt8.ofNat (v % 64 + 128) :: rest)
      = (utf8Chars rest).map (Char.ofNat v :: ·) := by
  have hlt : v / 4096 % 16 + 224 < 256 := by omega
  have hone : ¬ UInt8.ofNat (v / 4096 % 16 + 224) < 0x80 :=
    not_ofNat_lt (k := 128) hlt rfl (by omega)
  have htwo : ¬ UInt8.ofNat (v / 4096 % 16 + 224) < 0xE0 :=
    not_ofNat_lt (k := 224) hlt rfl (by omega)
  have hmin : (0xE0 : UInt8) ≤ UInt8.ofNat (v / 4096 % 16 + 224) :=
    le_ofNat (k := 224) hlt rfl (by omega)
  have hmax : UInt8.ofNat (v / 4096 % 16 + 224) < 0xF0 := ofNat_lt (k := 240) hlt rfl (by omega)
  have hv : (v / 4096 % 16 + 224) % 16 * 4096 + v / 64 % 64 * 64 + v % 64 = v := by omega
  have hlong : 0x800 ≤ v := by omega
  rw [utf8Chars.eq_def]
  simp only [if_neg hone, htwo, hmin, hmax, isContinuation_ofNat, decide_true, decide_false,
    Bool.and_self, Bool.and_false, Bool.false_and, Bool.false_eq_true, if_false,
    toNat_ofNat hlt, continuationBits_ofNat, hv, hlong, ← Bool.decide_and, hscalar,
    Bool.not_false, if_true]

theorem utf8Chars_four (hlow : 0xffff < v) (hhigh : v ≤ 0x10ffff) :
    utf8Chars (UInt8.ofNat (v / 262144 % 8 + 240) :: UInt8.ofNat (v / 4096 % 64 + 128)
        :: UInt8.ofNat (v / 64 % 64 + 128) :: UInt8.ofNat (v % 64 + 128) :: rest)
      = (utf8Chars rest).map (Char.ofNat v :: ·) := by
  have hlt : v / 262144 % 8 + 240 < 256 := by omega
  have hone : ¬ UInt8.ofNat (v / 262144 % 8 + 240) < 0x80 :=
    not_ofNat_lt (k := 128) hlt rfl (by omega)
  have htwo : ¬ UInt8.ofNat (v / 262144 % 8 + 240) < 0xE0 :=
    not_ofNat_lt (k := 224) hlt rfl (by omega)
  have hthree : ¬ UInt8.ofNat (v / 262144 % 8 + 240) < 0xF0 :=
    not_ofNat_lt (k := 240) hlt rfl (by omega)
  have hmin : (0xF0 : UInt8) ≤ UInt8.ofNat (v / 262144 % 8 + 240) :=
    le_ofNat (k := 240) hlt rfl (by omega)
  have hmax : UInt8.ofNat (v / 262144 % 8 + 240) < 0xF5 := ofNat_lt (k := 245) hlt rfl (by omega)
  have hv : (v / 262144 % 8 + 240) % 8 * 262144 + v / 4096 % 64 * 4096 + v / 64 % 64 * 64
      + v % 64 = v := by omega
  have hlong : 0x10000 ≤ v := by omega
  rw [utf8Chars.eq_def]
  simp only [if_neg hone, htwo, hthree, hmin, hmax, isContinuation_ofNat, decide_true,
    decide_false, Bool.and_self, Bool.and_false, Bool.false_and, Bool.false_eq_true, if_false,
    toNat_ofNat hlt, continuationBits_ofNat, hv, hlong, hhigh, if_true]

end Forms

/-- A character is read back from its bytes. -/
theorem utf8Chars_encodeChar (c : Char) (rest : Bytes) :
    utf8Chars (String.utf8EncodeChar c ++ rest) = (utf8Chars rest).map (c :: ·) := by
  have hvalid : c.val.toNat < 0xD800 ∨ 0xDFFF < c.val.toNat ∧ c.val.toNat < 0x110000 := c.valid
  have hc : Char.ofNat c.val.toNat = c := Char.ofNat_toNat c
  rw [String.utf8EncodeChar]
  generalize c.val.toNat = v at hvalid hc
  subst hc
  by_cases hone : v ≤ 0x7f
  · rw [if_pos hone]
    exact utf8Chars_one rest hone
  by_cases htwo : v ≤ 0x7ff
  · rw [if_neg hone, if_pos htwo]
    exact utf8Chars_two rest (by omega) htwo
  by_cases hthree : v ≤ 0xffff
  · rw [if_neg hone, if_neg htwo, if_pos hthree]
    exact utf8Chars_three rest (by omega) hthree (by omega)
  · rw [if_neg hone, if_neg htwo, if_neg hthree]
    exact utf8Chars_four rest (by omega) (by omega)

theorem utf8Chars_flatMap (cs : List Char) :
    utf8Chars (cs.flatMap String.utf8EncodeChar) = some cs := by
  induction cs with
  | nil => rfl
  | cons c cs ih => rw [List.flatMap_cons, utf8Chars_encodeChar, ih, Option.map_some]

/-- A text is read back from its bytes. -/
@[simp] theorem toUtf8_ofUtf8 (s : String) : toUtf8 (ofUtf8 s) = some s := by
  rw [toUtf8, ofUtf8, utf8Chars_flatMap, Option.map_some, String.ofList_toList]

/-! ### Separated fields -/

/-- Joined fields have the length of the fields and of the separators between them. -/
theorem length_intercalate (sep field : Bytes) (fields : List Bytes) :
    (sep.intercalate (field :: fields)).length
      = ((field :: fields).map List.length).sum + fields.length * sep.length := by
  induction fields generalizing field with
  | nil => simp
  | cons next fields ih =>
      rw [List.intercalate_cons_cons, List.length_append, List.length_append, ih]
      simp only [List.map_cons, List.sum_cons, List.length_cons]
      ring

/-- A separator splits joined fields again when their lengths are known. -/
theorem intercalate_inj {sep : Bytes} {xs ys : List Bytes}
    (hlen : xs.map List.length = ys.map List.length)
    (h : sep.intercalate xs = sep.intercalate ys) : xs = ys := by
  induction xs generalizing ys with
  | nil =>
      cases ys with
      | nil => rfl
      | cons y ys => cases hlen
  | cons x xs ih =>
      cases ys with
      | nil => cases hlen
      | cons y ys =>
          obtain ⟨hxy, hlen⟩ := List.cons.inj hlen
          cases xs with
          | nil =>
              obtain rfl : ys = [] := List.map_eq_nil_iff.mp hlen.symm
              simpa using h
          | cons x' xs =>
              cases ys with
              | nil => cases hlen
              | cons y' ys =>
                  rw [List.intercalate_cons_cons, List.intercalate_cons_cons] at h
                  obtain ⟨hhead, htail⟩ := List.append_inj h (by simp [hxy])
                  rw [List.append_cancel_right hhead, ih hlen htail]

end Bytes
end Lib
