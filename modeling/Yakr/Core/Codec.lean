import Yakr.Core.Encoding
import Yakr.Core.Plain

/-!
# Yakr.Core.Codec

**CBOR.** What the program relies on of `cbor2`: a value of texts, byte strings,
integers, constants, arrays and maps with distinct keys is read back from its
encoding. `Codec` is an executable instance: items in the format of CBOR with the
shortest heads, as `cbor2.dumps` writes them.
-/

namespace Yakr

open Lib

mutual

/-- A value that survives `cbor2.loads(cbor2.dumps(value))`. -/
def Cbor.Storable : Cbor → Prop
  | .array items => Cbor.StorableItems items
  | .map entries => (entries.map Prod.fst).Nodup ∧ Cbor.StorableEntries entries
  | .other _ => False
  | _ => True

def Cbor.StorableItems : List Cbor → Prop
  | [] => True
  | v :: vs => v.Storable ∧ Cbor.StorableItems vs

def Cbor.StorableEntries : List (String × Cbor) → Prop
  | [] => True
  | (_, v) :: es => v.Storable ∧ Cbor.StorableEntries es

end

/-- A storable value is read back from its encoding. -/
structure Packages.CborLaws (P : Packages) : Prop where
  loads_dumps : ∀ {v : Cbor}, v.Storable → P.cborLoads (P.cborDumps v) = .ok v

namespace Codec

/-! ### Heads -/

/-- The bytes of an argument of 24 or more, without the zero bytes CBOR never writes
in front. -/
def width (n : Nat) : Nat :=
  if n < 2 ^ 8 then 1 else if n < 2 ^ 16 then 2 else if n < 2 ^ 32 then 4 else 8

/-- The low bits of the initial byte that announce a width. -/
def widthCode : Nat → Nat
  | 1 => 24
  | 2 => 25
  | 4 => 26
  | _ => 27

/-- The head of an item. An argument of 2^64 or more, which no machine holds, is written in
ones under a reserved code. -/
def head (major n : Nat) : Bytes :=
  if n < 24 then [UInt8.ofNat (major * 32 + n)]
  else if n < 2 ^ 64 then
    UInt8.ofNat (major * 32 + widthCode (width n)) :: Bytes.ofNatBE (width n) n
  else UInt8.ofNat (major * 32 + 28) :: (List.replicate n 1 ++ [0])

/-- The ones in front, and what follows the byte after them. -/
def countOnes : Bytes → Nat × Bytes
  | [] => (0, [])
  | b :: rest => if b = 1 then ((countOnes rest).1 + 1, (countOnes rest).2) else (0, rest)

/-- The argument of a head after its initial byte. -/
def argument (code : Nat) (rest : Bytes) : Option (Nat × Bytes) :=
  if code < 24 then some (code, rest)
  else if code < 28 then
    let size := 2 ^ (code - 24)
    if rest.length < size then none
    else some (Bytes.toNatBE (rest.take size), rest.drop size)
  else if code = 28 then some (countOnes rest)
  else none

/-- The major type, the argument and what follows. -/
def readHead : Bytes → Option (Nat × Nat × Bytes)
  | [] => none
  | b :: rest => (argument (b.toNat % 32) rest).map fun r => (b.toNat / 32, r.1, r.2)

/-! ### Items -/

mutual

/-- `cbor2.dumps`. -/
def dumps : Cbor → Bytes
  | .int (.ofNat n) => head 0 n
  | .int (.negSucc n) => head 1 n
  | .bytes b => head 2 b.length ++ b
  | .text s => head 3 (encodeUtf8 s).length ++ encodeUtf8 s
  | .array items => head 4 items.length ++ dumpsItems items
  | .map entries => head 5 entries.length ++ dumpsEntries entries
  | .bool b => head 7 (if b then 21 else 20)
  | .null => head 7 22
  | .other encoding => encoding

def dumpsItems : List Cbor → Bytes
  | [] => []
  | v :: vs => dumps v ++ dumpsItems vs

def dumpsEntries : List (String × Cbor) → Bytes
  | [] => []
  | (k, v) :: es => dumps (.text k) ++ (dumps v ++ dumpsEntries es)

end

/-- The first `n` bytes and what follows. -/
def split (n : Nat) (b : Bytes) : Option (Bytes × Bytes) :=
  if b.length < n then none else some (b.take n, b.drop n)

/-- An item without parts. -/
def readScalar (major n : Nat) (rest : Bytes) : Option (Cbor × Bytes) :=
  match major with
  | 0 => some (.int n, rest)
  | 1 => some (.int (.negSucc n), rest)
  | 2 => (split n rest).map fun r => (.bytes r.1, r.2)
  | 3 => (split n rest).bind fun r => r.1.toUtf8.map fun s => (.text s, r.2)
  | 7 =>
      if n = 20 then some (.bool false, rest)
      else if n = 21 then some (.bool true, rest)
      else if n = 22 then some (.null, rest)
      else none
  | _ => none

mutual

/-- One item at the front. -/
def read : (fuel : Nat) → Bytes → Option (Cbor × Bytes)
  | 0, _ => none
  | fuel + 1, bytes =>
      match readHead bytes with
      | none => none
      | some (major, n, rest) =>
          if major = 4 then (readItems fuel n rest).map fun r => (.array r.1, r.2)
          else if major = 5 then (readEntries fuel n rest).map fun r => (.map r.1, r.2)
          else readScalar major n rest

/-- So many items. -/
def readItems : (fuel count : Nat) → Bytes → Option (List Cbor × Bytes)
  | _, 0, bytes => some ([], bytes)
  | 0, _ + 1, _ => none
  | fuel + 1, count + 1, bytes =>
      match read fuel bytes with
      | none => none
      | some (v, rest) => (readItems fuel count rest).map fun r => (v :: r.1, r.2)

/-- So many entries whose keys are texts. -/
def readEntries : (fuel count : Nat) → Bytes → Option (List (String × Cbor) × Bytes)
  | _, 0, bytes => some ([], bytes)
  | 0, _ + 1, _ => none
  | fuel + 1, count + 1, bytes =>
      match read fuel bytes with
      | some (.text k, rest) =>
          match read fuel rest with
          | none => none
          | some (v, rest) => (readEntries fuel count rest).map fun r => ((k, v) :: r.1, r.2)
      | _ => none

end

/-- `cbor2.loads`; `cbor2` reads one item and ignores what follows. -/
def loads (bytes : Bytes) : Except PyExc Cbor :=
  match read (2 * bytes.length) bytes with
  | some (v, _) => .ok v
  | none => .error (.other "CBORDecodeError")

/-! ### Round trip -/

theorem toNat_initial {major code : Nat} (hmajor : major < 8) (hcode : code < 32) :
    (UInt8.ofNat (major * 32 + code)).toNat / 32 = major
      ∧ (UInt8.ofNat (major * 32 + code)).toNat % 32 = code := by
  rw [Bytes.toNat_ofNat (by omega)]
  constructor
  · omega
  · omega

theorem countOnes_replicate (n : Nat) (rest : Bytes) :
    countOnes (List.replicate n 1 ++ 0 :: rest) = (n, rest) := by
  induction n with
  | zero => rfl
  | succ n ih => rw [List.replicate_succ, List.cons_append, countOnes, if_pos rfl, ih]

theorem lt_width {n : Nat} (h : n < 2 ^ 64) : n < 256 ^ width n := by
  unfold width
  split_ifs
  · omega
  · omega
  · omega
  · omega

theorem widthCode_width (n : Nat) : 24 ≤ widthCode (width n) ∧ widthCode (width n) < 28
    ∧ 2 ^ (widthCode (width n) - 24) = width n := by
  unfold width
  split_ifs
  · decide
  · decide
  · decide
  · decide

/-- A head is read back. -/
theorem readHead_head {major : Nat} (hmajor : major < 8) (n : Nat) (rest : Bytes) :
    readHead (head major n ++ rest) = some (major, n, rest) := by
  unfold head
  by_cases hsmall : n < 24
  · obtain ⟨hdiv, hmod⟩ := toNat_initial hmajor (show n < 32 by omega)
    rw [if_pos hsmall, List.singleton_append, readHead, hdiv, hmod, argument, if_pos hsmall]
    rfl
  rw [if_neg hsmall]
  by_cases hfits : n < 2 ^ 64
  · obtain ⟨hlow, hhigh, hsize⟩ := widthCode_width n
    obtain ⟨hdiv, hmod⟩ := toNat_initial hmajor (show widthCode (width n) < 32 by omega)
    have hlen := Bytes.length_ofNatBE (width n) n
    have henough : ¬ (Bytes.ofNatBE (width n) n ++ rest).length < width n := by
      rw [List.length_append, hlen]
      omega
    rw [if_pos hfits, List.cons_append, readHead, hdiv, hmod, argument, if_neg (by omega),
      if_pos hhigh]
    simp only [hsize, henough, if_false, Bytes.take_append_of_length hlen,
      Bytes.drop_append_of_length hlen, Bytes.toNatBE_ofNatBE (lt_width hfits), Option.map_some]
  · obtain ⟨hdiv, hmod⟩ := toNat_initial hmajor (show 28 < 32 by omega)
    rw [if_neg hfits, List.cons_append, List.append_assoc, List.singleton_append, readHead, hdiv,
      hmod, argument, if_neg (by omega), if_neg (by omega), if_pos rfl, countOnes_replicate]
    rfl

theorem length_head_pos (major n : Nat) : 0 < (head major n).length := by
  unfold head
  split_ifs
  · exact Nat.zero_lt_one
  · exact Nat.succ_pos _
  · exact Nat.succ_pos _

theorem split_append (b rest : Bytes) : split b.length (b ++ rest) = some (b, rest) := by
  have henough : ¬ (b ++ rest).length < b.length := by simp
  rw [split, if_neg henough, List.take_left, List.drop_left]

/-- An item without parts is read back from its head and what follows it. -/
theorem read_scalar {major n : Nat} {v : Cbor} {body rest : Bytes} (fuel : Nat)
    (hmajor : major < 8) (hflat : major ≠ 4 ∧ major ≠ 5)
    (hscalar : readScalar major n (body ++ rest) = some (v, rest)) :
    read (fuel + 1) (head major n ++ body ++ rest) = some (v, rest) := by
  rw [List.append_assoc, read, readHead_head hmajor]
  simp only [if_neg hflat.1, if_neg hflat.2, hscalar]

theorem read_text (fuel : Nat) (s : String) (rest : Bytes) :
    read (fuel + 1) (dumps (.text s) ++ rest) = some (.text s, rest) := by
  rw [dumps]
  refine read_scalar fuel (by omega) (by omega) ?_
  simp only [readScalar, split_append, encodeUtf8, Option.bind_some, Bytes.toUtf8_ofUtf8,
    Option.map_some]

theorem length_dumps_pos {v : Cbor} (hv : v.Storable) : 0 < (dumps v).length := by
  have happend : ∀ major n (b : Bytes), 0 < (head major n ++ b).length := by
    intro major n b
    rw [List.length_append]
    exact Nat.add_pos_left (length_head_pos major n) _
  cases v with
  | int n =>
      cases n with
      | ofNat n => rw [dumps]; exact length_head_pos 0 n
      | negSucc n => rw [dumps]; exact length_head_pos 1 n
  | bytes b => rw [dumps]; exact happend _ _ _
  | text s => rw [dumps]; exact happend _ _ _
  | array items => rw [dumps]; exact happend _ _ _
  | map entries => rw [dumps]; exact happend _ _ _
  | bool b => rw [dumps]; exact length_head_pos 7 _
  | null => rw [dumps]; exact length_head_pos 7 22
  | other encoding => cases hv

mutual

/-- A value is read back from its encoding. -/
theorem read_dumps : ∀ (v : Cbor) (fuel : Nat) (rest : Bytes), v.Storable →
    2 * (dumps v).length ≤ fuel + 1 → read fuel (dumps v ++ rest) = some (v, rest)
  | v, 0, rest, hv, hlen => by
      have := length_dumps_pos hv
      omega
  | .int (.ofNat n), fuel + 1, rest, _, _ => by
      rw [dumps, ← List.append_nil (head 0 n)]
      exact read_scalar fuel (by omega) (by omega) rfl
  | .int (.negSucc n), fuel + 1, rest, _, _ => by
      rw [dumps, ← List.append_nil (head 1 n)]
      exact read_scalar fuel (by omega) (by omega) rfl
  | .bytes b, fuel + 1, rest, _, _ => by
      rw [dumps]
      refine read_scalar fuel (by omega) (by omega) ?_
      simp only [readScalar, split_append, Option.map_some]
  | .text s, fuel + 1, rest, _, _ => read_text fuel s rest
  | .bool true, fuel + 1, rest, _, _ => by
      rw [dumps, ← List.append_nil (head 7 _)]
      exact read_scalar fuel (by omega) (by omega) rfl
  | .bool false, fuel + 1, rest, _, _ => by
      rw [dumps, ← List.append_nil (head 7 _)]
      exact read_scalar fuel (by omega) (by omega) rfl
  | .null, fuel + 1, rest, _, _ => by
      rw [dumps, ← List.append_nil (head 7 _)]
      exact read_scalar fuel (by omega) (by omega) rfl
  | .array items, fuel + 1, rest, hv, hlen => by
      have hhead := length_head_pos 4 items.length
      rw [Cbor.Storable] at hv
      rw [dumps, List.length_append] at hlen
      rw [dumps, List.append_assoc, read, readHead_head (by omega)]
      simp only [if_true, readItems_dumps items fuel rest hv (by omega), Option.map_some]
  | .map entries, fuel + 1, rest, hv, hlen => by
      have hhead := length_head_pos 5 entries.length
      rw [Cbor.Storable] at hv
      rw [dumps, List.length_append] at hlen
      rw [dumps, List.append_assoc, read, readHead_head (by omega)]
      simp only [show ¬ (5 : Nat) = 4 by omega, if_false, if_true,
        readEntries_dumps entries fuel rest hv.2 (by omega), Option.map_some]

theorem readItems_dumps : ∀ (vs : List Cbor) (fuel : Nat) (rest : Bytes),
    Cbor.StorableItems vs → 2 * (dumpsItems vs).length ≤ fuel →
    readItems fuel vs.length (dumpsItems vs ++ rest) = some (vs, rest)
  | [], fuel, rest, _, _ => by
      rw [dumpsItems, List.length_nil, readItems]
      rfl
  | v :: vs, 0, rest, hv, hlen => by
      have := length_dumps_pos hv.1
      rw [dumpsItems, List.length_append] at hlen
      omega
  | v :: vs, fuel + 1, rest, hv, hlen => by
      have hpos := length_dumps_pos hv.1
      rw [dumpsItems, List.length_append] at hlen
      rw [dumpsItems, List.append_assoc, List.length_cons, readItems,
        read_dumps v fuel _ hv.1 (by omega)]
      simp only [readItems_dumps vs fuel rest hv.2 (by omega), Option.map_some]

theorem readEntries_dumps : ∀ (es : List (String × Cbor)) (fuel : Nat) (rest : Bytes),
    Cbor.StorableEntries es → 2 * (dumpsEntries es).length ≤ fuel →
    readEntries fuel es.length (dumpsEntries es ++ rest) = some (es, rest)
  | [], fuel, rest, _, _ => by
      rw [dumpsEntries, List.length_nil, readEntries]
      rfl
  | (k, v) :: es, 0, rest, hv, hlen => by
      have := length_dumps_pos hv.1
      rw [dumpsEntries, List.length_append, List.length_append] at hlen
      omega
  | (k, v) :: es, fuel + 1, rest, hv, hlen => by
      have hpos := length_dumps_pos hv.1
      have hkey : 0 < (dumps (.text k)).length := length_dumps_pos trivial
      rw [dumpsEntries, List.length_append, List.length_append] at hlen
      obtain ⟨fuel, rfl⟩ : ∃ m, fuel = m + 1 := ⟨fuel - 1, by omega⟩
      rw [dumpsEntries, List.append_assoc, List.append_assoc, List.length_cons, readEntries,
        read_text fuel k]
      simp only [read_dumps v (fuel + 1) _ hv.1 (by omega),
        readEntries_dumps es (fuel + 1) rest hv.2 (by omega), Option.map_some]

end

end Codec

/-- The executable instance with a CBOR that reads what it writes. -/
def codedPackages (P : Packages) : Packages :=
  { P with cborDumps := Codec.dumps, cborLoads := Codec.loads }

theorem codedPackages_cborLaws (P : Packages) : (codedPackages P).CborLaws where
  loads_dumps {v} hv := by
    have hread := Codec.read_dumps v (2 * (Codec.dumps v).length) [] hv (Nat.le_succ _)
    rw [List.append_nil] at hread
    show Codec.loads (Codec.dumps v) = .ok v
    rw [Codec.loads, hread]

end Yakr
