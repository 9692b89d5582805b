import Mathlib.Algebra.Group.Int.Defs
import Mathlib.Algebra.Group.Nat.Defs
import Mathlib.Tactic.Common

/-!
# Yakr.Core.RustWords

**Casts between words of 64 bits.** Rust keeps times as `u64` and hands them to SQLite and
CBOR as `i64`. A cast keeps the bits, so it keeps exactly the values both types have.
-/

namespace Yakr
namespace Rust

/-- `value as u64` of a wider or signed integer. -/
def asU64OfInt (n : Int) : UInt64 := UInt64.ofNat (n % 2 ^ 64).toNat

/-- `value as i64`. -/
def asI64 (n : UInt64) : Int := if n.toNat < 2 ^ 63 then n.toNat else (n.toNat : Int) - 2 ^ 64

/-- An integer that fits a signed word of 64 bits. -/
def IsWord64 (n : Int) : Prop := -(2 ^ 63) ≤ n ∧ n < 2 ^ 63

instance (n : Int) : Decidable (IsWord64 n) := inferInstanceAs (Decidable (_ ∧ _))

theorem toNat_asU64OfInt (n : Int) : ((asU64OfInt n).toNat : Int) = n % 2 ^ 64 := by
  have hnonneg : 0 ≤ n % 2 ^ 64 := Int.emod_nonneg _ (by decide)
  have hlt : n % 2 ^ 64 < 2 ^ 64 := Int.emod_lt_of_pos _ (by decide)
  have hnat : (asU64OfInt n).toNat = (n % 2 ^ 64).toNat := by
    rw [asU64OfInt, UInt64.toNat_ofNat_of_lt']
    show (n % 2 ^ 64).toNat < 2 ^ 64
    omega
  rw [hnat]
  omega

/-- Reading an integer as an unsigned word and writing it as a signed one keeps exactly the
signed words. -/
theorem asI64_asU64OfInt (n : Int) : asI64 (asU64OfInt n) = n ↔ IsWord64 n := by
  have hnat := toNat_asU64OfInt n
  unfold asI64 IsWord64
  split <;> omega

/-- A small unsigned word is the same number in both types. -/
theorem asI64_of_lt {n : UInt64} (h : n.toNat < 2 ^ 63) : asI64 n = n.toNat := if_pos h

theorem asU64OfInt_asI64 (n : UInt64) : asU64OfInt (asI64 n) = n := by
  have hlt : n.toNat < 2 ^ 64 := n.toNat_lt
  have hnat := toNat_asU64OfInt (asI64 n)
  refine UInt64.toNat_inj.mp ?_
  unfold asI64 at hnat ⊢
  split at hnat
  · rename_i h
    rw [if_pos h]
    omega
  · rename_i h
    rw [if_neg h]
    omega

end Rust
end Yakr
