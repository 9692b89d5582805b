import Mathlib.Logic.Function.Iterate

/-!
# Yakr.Lib.Chain

**Symmetric key chains.** A chain is driven by one function that turns a chain
key into an output and the next chain key. A sender and a receiver that start
from one key and take the same number of steps hold the same outputs; what a
party needs to know is only how far it is along the chain.
-/

namespace Lib
namespace Chain

variable {κ μ : Type} (step : κ → μ × κ)

/-- The chain key after `n` steps. -/
def keyAt (start : κ) (n : Nat) : κ := (fun k => (step k).2)^[n] start

/-- The output of step `n`. -/
def outputAt (start : κ) (n : Nat) : μ := (step (keyAt step start n)).1

variable (start : κ)

@[simp] theorem keyAt_zero : keyAt step start 0 = start := rfl

/-- One more step of the chain. -/
theorem step_keyAt (n : Nat) :
    step (keyAt step start n) = (outputAt step start n, keyAt step start (n + 1)) := by
  rw [outputAt, keyAt, keyAt, Function.iterate_succ_apply']

end Chain
end Lib
