import Mathlib.Data.List.Induction

/-!
# Yakr.Lib.Machine

**Machines that answer, and what they refine.** A machine answers each input and goes on
in a new state; its log keeps what was asked and answered. A specification is a relation
that says which answers an input may get and what follows. A machine whose every step is
one of the specification's, for related states, has only logs of the specification.

Inputs that carry the time of their arrival are *timed* when they arrive in order.
-/

namespace Lib
namespace Machine

variable {σ τ ι ο : Type*}

/-- A state, and the inputs that led to it with their answers, oldest first. -/
structure Log (σ ι ο : Type*) where
  state : σ
  events : List (ι × ο) := []

/-- One more input. -/
def Log.ask (step : σ → ι → ο × σ) (log : Log σ ι ο) (i : ι) : Log σ ι ο :=
  { state := (step log.state i).2
    events := log.events ++ [(i, (step log.state i).1)] }

/-- The log of a machine that is asked one input after another. -/
def run (step : σ → ι → ο × σ) (s : σ) (inputs : List ι) : Log σ ι ο :=
  inputs.foldl (Log.ask step) { state := s }

section Run

variable (step : σ → ι → ο × σ) (s : σ) (inputs : List ι) (i : ι)

@[simp] theorem run_nil : run step s [] = { state := s } := rfl

@[simp] theorem run_concat :
    run step s (inputs ++ [i]) = (run step s inputs).ask step i := by
  rw [run, List.foldl_append]
  rfl

theorem inputs_eq : (run step s inputs).events.map Prod.fst = inputs := by
  induction inputs using List.reverseRecOn with
  | nil => rfl
  | append_singleton inputs i ih =>
      rw [run_concat, Log.ask, List.map_append, ih]
      rfl

end Run

/-! ### Conditions and invariants -/

/-- Every input meets a condition in the state it is asked in. -/
def Meets (step : σ → ι → ο × σ) (cond : σ → ι → Prop) (s : σ) : List ι → Prop
  | [] => True
  | i :: inputs => cond s i ∧ Meets step cond (step s i).2 inputs

instance decidableMeets (step : σ → ι → ο × σ) (cond : σ → ι → Prop)
    [∀ s i, Decidable (cond s i)] (s : σ) :
    (inputs : List ι) → Decidable (Meets step cond s inputs)
  | [] => .isTrue trivial
  | i :: inputs =>
      have := decidableMeets step cond (step s i).2 inputs
      inferInstanceAs (Decidable (_ ∧ _))

theorem run_state_cons (step : σ → ι → ο × σ) (s : σ) (i : ι) (inputs : List ι) :
    (run step s (i :: inputs)).state = (run step (step s i).2 inputs).state := by
  induction inputs using List.reverseRecOn with
  | nil => rfl
  | append_singleton inputs j ih =>
      rw [← List.cons_append, run_concat, run_concat, Log.ask, Log.ask, ih]

@[simp] theorem meets_concat {step : σ → ι → ο × σ} {cond : σ → ι → Prop} {s : σ}
    {inputs : List ι} {i : ι} :
    Meets step cond s (inputs ++ [i])
      ↔ Meets step cond s inputs ∧ cond (run step s inputs).state i := by
  induction inputs generalizing s with
  | nil => simp [Meets]
  | cons j inputs ih =>
      rw [List.cons_append, Meets, ih, Meets, run_state_cons, and_assoc]

/-- What every step keeps whose input meets the condition holds after such a run. -/
theorem Meets.invariant {step : σ → ι → ο × σ} {cond : σ → ι → Prop} {motive : σ → Prop} {s : σ}
    {inputs : List ι} (h : Meets step cond s inputs)
    (hstep : ∀ s i, cond s i → motive s → motive (step s i).2) (hstart : motive s) :
    motive (run step s inputs).state := by
  induction inputs using List.reverseRecOn with
  | nil => exact hstart
  | append_singleton inputs i ih =>
      obtain ⟨hinputs, hi⟩ := meets_concat.mp h
      rw [run_concat]
      exact hstep _ i hi (ih hinputs)

/-- What every step keeps holds after every run. -/
theorem run_invariant {step : σ → ι → ο × σ} {motive : σ → Prop} {s : σ}
    (hstep : ∀ s i, motive s → motive (step s i).2) (hstart : motive s) (inputs : List ι) :
    motive (run step s inputs).state := by
  induction inputs using List.reverseRecOn with
  | nil => exact hstart
  | append_singleton inputs i ih =>
      rw [run_concat]
      exact hstep _ i ih

/-- A run is that of the inputs which were done, where the others leave the state. -/
theorem run_succeeded {step : σ → ι → ο × σ} {done : ο → Bool} {s : σ}
    (hskip : ∀ s i, done (step s i).1 = false → (step s i).2 = s) (inputs : List ι) :
    (run step s (((run step s inputs).events.filter fun event => done event.2).map
      Prod.fst)).state = (run step s inputs).state := by
  induction inputs using List.reverseRecOn with
  | nil => rfl
  | append_singleton inputs i ih =>
      rw [run_concat, Log.ask]
      dsimp only
      rw [List.filter_append, List.map_append]
      cases hdone : done (step (run step s inputs).state i).1 with
      | true =>
          have hlast : [(i, (step (run step s inputs).state i).1)].filter
              (fun event => done event.2) = [(i, (step (run step s inputs).state i).1)] := by
            simp [hdone]
          rw [hlast, List.map_singleton, run_concat, Log.ask, ih]
      | false =>
          have hlast : [(i, (step (run step s inputs).state i).1)].filter
              (fun event => done event.2) = [] := by
            simp [hdone]
          rw [hlast, List.map_nil, List.append_nil, ih, hskip _ i hdone]

/-- The beginning of such a run is one. -/
theorem Meets.of_append {step : σ → ι → ο × σ} {cond : σ → ι → Prop} {s : σ}
    {inputs rest : List ι} (h : Meets step cond s (inputs ++ rest)) : Meets step cond s inputs := by
  induction inputs generalizing s with
  | nil => exact trivial
  | cons i inputs ih => exact ⟨h.1, ih h.2⟩

/-! ### Refinement -/

/-- The events lead the specification from one state to another. -/
inductive Trace (spec : τ → ι → ο → τ → Prop) (t : τ) : List (ι × ο) → τ → Prop
  | nil : Trace spec t [] t
  | concat {events : List (ι × ο)} {t' t'' : τ} {i : ι} {o : ο} :
      Trace spec t events t' → spec t' i o t'' → Trace spec t (events ++ [(i, o)]) t''

/-- **Simulation.** A relation that holds at the start and that every step keeps, with a
step of the specification, makes every log a trace of the specification. -/
theorem trace_of_simulation {step : σ → ι → ο × σ} {spec : τ → ι → ο → τ → Prop} {s : σ} {t : τ}
    {good : List ι → Prop} {related : List ι → σ → τ → Prop}
    (hgoodInit : ∀ inputs i, good (inputs ++ [i]) → good inputs)
    (hstart : related [] s t)
    (hstep : ∀ inputs i s t, good (inputs ++ [i]) → related inputs s t →
      ∃ t', spec t i (step s i).1 t' ∧ related (inputs ++ [i]) (step s i).2 t')
    {inputs : List ι} (hgood : good inputs) :
    ∃ t', Trace spec t (run step s inputs).events t'
      ∧ related inputs (run step s inputs).state t' := by
  induction inputs using List.reverseRecOn with
  | nil => exact ⟨t, .nil, hstart⟩
  | append_singleton inputs i ih =>
      obtain ⟨t', htrace, hrelated⟩ := ih (hgoodInit inputs i hgood)
      obtain ⟨t'', hspec, hrelated'⟩ := hstep inputs i _ t' hgood hrelated
      rw [run_concat]
      exact ⟨t'', htrace.concat hspec, hrelated'⟩

/-! ### Timed inputs -/

/-- Nothing has arrived after `now`. -/
def Before (inputs : List (Int × ι)) (now : Int) : Prop := ∀ i ∈ inputs, i.1 ≤ now

/-- The inputs arrive in the order of the list. -/
def Timed (inputs : List (Int × ι)) : Prop := inputs.Pairwise fun i j => i.1 ≤ j.1

instance (inputs : List (Int × ι)) : Decidable (Timed inputs) :=
  inferInstanceAs (Decidable (inputs.Pairwise _))

instance (inputs : List (Int × ι)) (now : Int) : Decidable (Before inputs now) :=
  inferInstanceAs (Decidable (∀ i ∈ inputs, i.1 ≤ now))

variable {inputs : List (Int × ι)} {i : Int × ι} {now : Int}

@[simp] theorem before_nil : Before ([] : List (Int × ι)) now := fun _ h => nomatch h

@[simp] theorem before_concat : Before (inputs ++ [i]) now ↔ Before inputs now ∧ i.1 ≤ now := by
  simp [Before, or_imp, forall_and]

@[simp] theorem timed_concat : Timed (inputs ++ [i]) ↔ Timed inputs ∧ Before inputs i.1 := by
  simp [Timed, Before, List.pairwise_append]

end Machine
end Lib
