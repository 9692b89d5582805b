import Mathlib.Logic.Relation

/-!
# Yakr.Lib.System

**Runs of a system.** A system is a step function with a condition on which actions
are admitted in which state. A run is any number of admitted steps; an invariant
that every admitted step keeps is kept by every run. A schedule is a list of
actions that are admitted one after another, which can be decided where the
condition can.
-/

namespace Lib
namespace System

variable {σ α : Type*} (admits : σ → α → Prop) (step : σ → α → σ)

/-- One admitted step. -/
def Next (s s' : σ) : Prop := ∃ a, admits s a ∧ s' = step s a

/-- Any number of admitted steps. -/
abbrev Run : σ → σ → Prop := Relation.ReflTransGen (Next admits step)

/-- The actions are admitted one after another. -/
def Schedule (s : σ) : List α → Prop
  | [] => True
  | a :: as => admits s a ∧ Schedule (step s a) as

instance decidableSchedule [∀ s a, Decidable (admits s a)] (s : σ) :
    (as : List α) → Decidable (Schedule admits step s as)
  | [] => .isTrue trivial
  | a :: as =>
      have := decidableSchedule (step s a) as
      inferInstanceAs (Decidable (_ ∧ _))

variable {admits step} {s s' : σ}

/-- A schedule is a run. -/
theorem Schedule.run {as : List α} (h : Schedule admits step s as) :
    Run admits step s (as.foldl step s) := by
  induction as generalizing s with
  | nil => exact .refl
  | cons a as ih => exact .head ⟨a, h.1, rfl⟩ (ih h.2)

/-- What every admitted step keeps is kept by every run. -/
theorem Run.invariant {motive : σ → Prop} (hrun : Run admits step s s') (hs : motive s)
    (hstep : ∀ t a, motive t → admits t a → motive (step t a)) : motive s' := by
  induction hrun with
  | refl => exact hs
  | tail _ hnext ih =>
      obtain ⟨a, hadmits, rfl⟩ := hnext
      exact hstep _ a ih hadmits

end System
end Lib
