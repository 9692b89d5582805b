import Mathlib.Order.Bounds.Basic
import Yakr.Core.RustSession

/-!
# Yakr.Languages.Padding

**Padding in both languages.** A padded plaintext is its length on four bytes, the plaintext and
zeros up to a size class. The length in front makes the frame readable whatever the plaintext
looks like, and the class is the only thing its own length shows.

`PadsTo` says what a padding mode makes of a plaintext; Python and Rust both make it, and refuse
the plaintexts that fit no class (`padding_sound`).
-/

namespace Yakr

open Lib Effect

/-- The classes a framed plaintext of this length fits. -/
def fittingClasses (plaintextLen : Nat) (mode : PrivacyMode) : Set Nat :=
  { classSize | classSize ∈ sizeClasses mode ∧ plaintextLen + 4 ≤ classSize }

section Classes

variable {n : Nat} {mode : PrivacyMode}

/-- The class of a plaintext that fits one is the smallest. -/
theorem selectSizeClass_isLeast {classSize : Nat} (h : selectSizeClass n mode = some classSize)
    (hfits : n + 4 ≤ classSize) : IsLeast (fittingClasses n mode) classSize := by
  have h4 : size4K = 4096 := rfl
  have h32 : size32K = 32768 := rfl
  cases mode with
  | fast => cases h
  | balanced =>
      have hclass : classSize = size4K := by
        by_cases hsmall : n + 4 ≤ size4K
        · simpa [selectSizeClass, sizeClasses, hsmall] using h.symm
        · simpa [selectSizeClass, sizeClasses, hsmall] using h.symm
      subst hclass
      exact ⟨⟨List.mem_singleton_self _, hfits⟩, fun k hk =>
        Nat.le_of_eq (List.mem_singleton.mp hk.1).symm⟩
  | high =>
      by_cases hsmall : n + 4 ≤ size4K
      · have hclass : classSize = size4K := by
          simpa [selectSizeClass, sizeClasses, hsmall] using h.symm
        subst hclass
        refine ⟨⟨List.mem_cons_self, hfits⟩, fun k hk => ?_⟩
        rcases List.mem_cons.mp hk.1 with rfl | hk
        · exact Nat.le_refl _
        · rw [List.mem_singleton.mp hk]
          decide
      · have hclass : classSize = size32K := by
          by_cases hlarge : n + 4 ≤ size32K
          · simpa [selectSizeClass, sizeClasses, hsmall, hlarge] using h.symm
          · simpa [selectSizeClass, sizeClasses, hsmall, hlarge] using h.symm
        subst hclass
        refine ⟨⟨List.mem_cons_of_mem _ List.mem_cons_self, hfits⟩, fun k hk => ?_⟩
        rcases List.mem_cons.mp hk.1 with rfl | hk'
        · exact absurd hk.2 hsmall
        · exact Nat.le_of_eq (List.mem_singleton.mp hk').symm

/-- The class that is selected when none fits is the largest. -/
theorem selectSizeClass_largest {classSize k : Nat} (h : selectSizeClass n mode = some classSize)
    (hlarge : classSize < n + 4) (hk : k ∈ sizeClasses mode) : k < n + 4 := by
  unfold selectSizeClass at h
  by_cases hfast : mode = .fast
  · rw [if_pos hfast] at h
    cases h
  · rw [if_neg hfast] at h
    cases hfind : (sizeClasses mode).find? fun classSize => n + 4 ≤ classSize with
    | some found =>
        rw [hfind] at h
        cases h
        have hfits := List.find?_some hfind
        rw [decide_eq_true_eq] at hfits
        omega
    | none =>
        have hnot := List.find?_eq_none.mp hfind k hk
        rw [decide_eq_true_eq] at hnot
        omega

end Classes

/-! ### Python -/

section Pad

variable {plaintext data : Bytes} {mode : PrivacyMode}

/-- A padded plaintext: the smallest class that fits. -/
theorem length_padPlaintext {padded : Bytes} {added : Nat} (hmode : mode ≠ .fast)
    (h : padPlaintext plaintext mode = .ok (padded, added)) :
    IsLeast (fittingClasses plaintext.length mode) padded.length := by
  unfold padPlaintext at h
  cases hclass : selectSizeClass plaintext.length mode with
  | none => exact absurd hclass (selectSizeClass_ne_none hmode)
  | some classSize =>
      rw [hclass] at h
      by_cases hbig : 2 ^ 32 ≤ plaintext.length
      · simp only [if_pos hbig, reduceCtorEq] at h
      · by_cases hfit : classSize < (Bytes.ofNatBE 4 plaintext.length ++ plaintext).length
        · simp only [if_neg hbig, if_pos hfit, reduceCtorEq] at h
        · simp only [if_neg hbig, if_neg hfit, Except.ok.injEq, Prod.mk.injEq] at h
          rw [List.length_append, Bytes.length_ofNatBE] at hfit
          have hlength : padded.length = classSize := by
            rw [← h.1, List.length_append, List.length_append, Bytes.length_ofNatBE,
              List.length_replicate]
            omega
          rw [hlength]
          exact selectSizeClass_isLeast hclass (by omega)

/-- Padding raises exactly when the framed plaintext fits no class of a padding mode. -/
theorem padPlaintext_raises_iff :
    (∃ e, padPlaintext plaintext mode = .error e)
      ↔ mode ≠ .fast ∧ ∀ classSize ∈ sizeClasses mode, classSize < plaintext.length + 4 := by
  unfold padPlaintext
  cases hclass : selectSizeClass plaintext.length mode with
  | none =>
      have hfast : mode = .fast := by
        by_contra hmode
        exact selectSizeClass_ne_none hmode hclass
      refine iff_of_false ?_ fun h => h.1 hfast
      rintro ⟨e, h⟩
      cases h
  | some classSize =>
      have hmode : mode ≠ .fast := by
        intro hfast
        rw [selectSizeClass, if_pos hfast] at hclass
        cases hclass
      have hbound := selectSizeClass_le hclass
      have hword : size32K < 2 ^ 32 := by decide
      have hlength : (Bytes.ofNatBE 4 plaintext.length ++ plaintext).length
          = plaintext.length + 4 := by
        rw [List.length_append, Bytes.length_ofNatBE]
        omega
      dsimp only
      rw [hlength]
      by_cases hfit : plaintext.length + 4 ≤ classSize
      · rw [if_neg (by omega), if_neg (by omega)]
        refine iff_of_false ?_ fun h => ?_
        · rintro ⟨e, h⟩
          cases h
        have hlt := h.2 classSize (selectSizeClass_isLeast hclass hfit).1.1
        omega
      · refine iff_of_true ?_ ⟨hmode, fun k hk => selectSizeClass_largest hclass (by omega) hk⟩
        by_cases hbig : 2 ^ 32 ≤ plaintext.length
        · rw [if_pos hbig]
          exact ⟨_, rfl⟩
        · rw [if_neg hbig, if_pos (by omega)]
          exact ⟨_, rfl⟩

/-- What unpadding refuses: less than a length, or a length that promises too much. -/
theorem unpadPlaintext_raises_iff :
    (∃ e, unpadPlaintext data = .error e)
      ↔ data.length < 4 ∨ data.length < 4 + Bytes.toNatBE (data.take 4) := by
  unfold unpadPlaintext
  by_cases hshort : data.length < 4
  · rw [if_pos hshort]
    exact iff_of_true ⟨_, rfl⟩ (Or.inl hshort)
  · rw [if_neg hshort]
    dsimp only
    by_cases hlength : data.length < 4 + Bytes.toNatBE (data.take 4)
    · rw [if_pos hlength]
      exact iff_of_true ⟨_, rfl⟩ (Or.inr hlength)
    · rw [if_neg hlength]
      refine iff_of_false ?_ fun h => h.elim hshort hlength
      rintro ⟨e, h⟩
      cases h

/-! ### Rust -/

/-- Rust pads like Python; what Python raises for a length beyond 32 bits fits no class. -/
theorem padPlaintext_alike (plaintext : Bytes) (mode : PrivacyMode) :
    Alike Eq (padPlaintext plaintext mode) (Rust.padPlaintext plaintext mode) := by
  unfold padPlaintext Rust.padPlaintext
  cases hclass : selectSizeClass plaintext.length mode with
  | none => exact rfl
  | some classSize =>
      have hbound := selectSizeClass_le hclass
      have hword : size32K < 2 ^ 32 := by decide
      dsimp only
      by_cases hfit : classSize < (Bytes.ofNatBE 4 plaintext.length ++ plaintext).length
      · rw [if_pos hfit, if_pos hfit]
        split
        · exact trivial
        · exact trivial
      · have hlength := hfit
        rw [List.length_append, Bytes.length_ofNatBE] at hlength
        rw [if_neg hfit, if_neg hfit, if_neg (by omega)]
        exact rfl

theorem decodePaddedPlaintext_alike (data : Bytes) (mode : PrivacyMode) :
    Alike Eq (decodePaddedPlaintext data mode) (Rust.decodePaddedPlaintext data mode) := by
  unfold decodePaddedPlaintext Rust.decodePaddedPlaintext
  by_cases hmode : mode = .fast
  · rw [if_pos hmode, if_pos hmode]
    exact rfl
  · rw [if_neg hmode, if_neg hmode]
    unfold unpadPlaintext Rust.unpadPlaintext
    by_cases hshort : data.length < 4
    · rw [if_pos hshort, if_pos hshort]
      exact trivial
    · rw [if_neg hshort, if_neg hshort]
      dsimp only
      split
      · exact trivial
      · exact rfl

end Pad

/-- A plaintext that ends in zeros and looks like a frame itself comes back. -/
example : (padPlaintext [0, 0, 0, 1, 7, 0] .balanced).toOption.map (fun padded =>
    (padded.1.length, (decodePaddedPlaintext padded.1 .balanced).toOption))
      = some (4096, some [0, 0, 0, 1, 7, 0]) := by decide +kernel

end Yakr
