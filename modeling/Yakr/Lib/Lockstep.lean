import Yakr.Lib.Effect

/-!
# Yakr.Lib.Lockstep

**Two runs in lockstep.** A computation with errors is run from two states that are related. It
steps in lockstep with another when the outcomes are equal, values and exceptions alike, and the
states are related again. A relation that every part of a program keeps this way is kept by the
program, and nothing that it answers tells the states apart.
-/

namespace Lib
namespace Effect

variable {ε σ σ' τ τ' α β : Type}

/-- The same outcome, with related states. -/
inductive Together (R : σ → σ' → Prop) : EStateM.Result ε σ α → EStateM.Result ε σ' α → Prop
  | ok (a : α) {s : σ} {s' : σ'} (h : R s s') : Together R (.ok a s) (.ok a s')
  | error (e : ε) {s : σ} {s' : σ'} (h : R s s') : Together R (.error e s) (.error e s')

theorem Together.outcome_eq {R : σ → σ' → Prop} {r : EStateM.Result ε σ α}
    {r' : EStateM.Result ε σ' α} (h : Together R r r') : outcome r = outcome r' := by
  cases h with
  | ok a h => rfl
  | error e h => rfl

theorem Together.after {R : σ → σ' → Prop} {r : EStateM.Result ε σ α}
    {r' : EStateM.Result ε σ' α} (h : Together R r r') : R (after r) (after r') := by
  cases h with
  | ok a h => exact h
  | error e h => exact h

theorem Together.mono {R S : σ → σ' → Prop} {r : EStateM.Result ε σ α}
    {r' : EStateM.Result ε σ' α} (h : Together R r r') (hRS : ∀ s s', R s s' → S s s') :
    Together S r r' := by
  cases h with
  | ok a h => exact .ok a (hRS _ _ h)
  | error e h => exact .error e (hRS _ _ h)

/-- Runs on a part of the states, which is put back. -/
theorem Together.onPart {Q : τ → τ' → Prop} {R : σ → σ' → Prop} {get : σ → τ} {put : σ → τ → σ}
    {get' : σ' → τ'} {put' : σ' → τ' → σ'} {n : EStateM ε τ α} {n' : EStateM ε τ' α} {s : σ} {s' : σ'}
    (h : Together Q (n.run (get s)) (n'.run (get' s')))
    (hput : ∀ t t', Q t t' → R (put s t) (put' s' t')) :
    Together R ((onPart get put n).run s) ((onPart get' put' n').run s') := by
  unfold Effect.onPart
  unfold EStateM.run at h ⊢
  dsimp only
  generalize n (get s) = r at h
  generalize n' (get' s') = r' at h
  cases h with
  | ok a h => exact .ok a (hput _ _ h)
  | error e h => exact .error e (hput _ _ h)

/-- From related states, the same outcome and related states. -/
def Lockstep (R : σ → σ' → Prop) (m : EStateM ε σ α) (m' : EStateM ε σ' α) : Prop :=
  ∀ s s', R s s' → Together R (m.run s) (m'.run s')

/-- What follows on a run. -/
theorem Together.bind {R : σ → σ' → Prop} {m : EStateM ε σ α} {m' : EStateM ε σ' α} {s : σ} {s' : σ'}
    (h : Together R (m.run s) (m'.run s')) {f : α → EStateM ε σ β} {f' : α → EStateM ε σ' β}
    (hf : ∀ a, Lockstep R (f a) (f' a)) :
    Together R ((m >>= f).run s) ((m' >>= f').run s') := by
  rw [EStateM.run_bind, EStateM.run_bind]
  generalize m.run s = r at h
  generalize m'.run s' = r' at h
  cases h with
  | ok a h => exact hf a _ _ h
  | error e h => exact .error e h

namespace Lockstep

variable {R : σ → σ' → Prop} {m : EStateM ε σ α} {m' : EStateM ε σ' α}

/-- One computation, from one state. -/
theorem self (m : EStateM ε σ α) : Lockstep Eq m m := by
  intro s s' hs
  subst hs
  cases m.run s with
  | ok a t => exact .ok a rfl
  | error e t => exact .error e rfl

theorem pure (a : α) : Lockstep R (pure a : EStateM ε σ α) (pure a : EStateM ε σ' α) :=
  fun _ _ h => .ok a h

theorem raise (e : ε) : Lockstep R (throw e : EStateM ε σ α) (throw e : EStateM ε σ' α) :=
  fun _ _ h => .error e h

theorem orRaise (x : Except ε α) :
    Lockstep R (orRaise x : EStateM ε σ α) (orRaise x : EStateM ε σ' α) := by
  cases x with
  | ok a => exact pure a
  | error e => exact raise e

theorem modify {f : σ → σ} {f' : σ' → σ'} (h : ∀ s s', R s s' → R (f s) (f' s')) :
    Lockstep R (modify f : EStateM ε σ PUnit) (modify f' : EStateM ε σ' PUnit) :=
  fun s s' hs => .ok _ (h s s' hs)

theorem bind (hm : Lockstep R m m') {f : α → EStateM ε σ β} {f' : α → EStateM ε σ' β}
    (hf : ∀ a, Lockstep R (f a) (f' a)) : Lockstep R (m >>= f) (m' >>= f') :=
  fun s s' hs => (hm s s' hs).bind hf

/-- The states are read, and what follows is in lockstep whatever related states were read. -/
theorem get_bind {f : σ → EStateM ε σ β} {f' : σ' → EStateM ε σ' β}
    (hf : ∀ s s', R s s' → Lockstep R (f s) (f' s')) : Lockstep R (get >>= f) (get >>= f') :=
  fun s s' hs => hf s s' hs s s' hs

theorem tryCatch (hm : Lockstep R m m') {handler : ε → EStateM ε σ α}
    {handler' : ε → EStateM ε σ' α} (hh : ∀ e, Lockstep R (handler e) (handler' e)) :
    Lockstep R (tryCatch m handler) (tryCatch m' handler') := by
  intro s s' hs
  have htogether := hm s s' hs
  rw [run_tryCatch, run_tryCatch]
  generalize m.run s = r at htogether
  generalize m'.run s' = r' at htogether
  cases htogether with
  | ok a h => exact .ok a h
  | error e h => exact hh e _ _ h

theorem ite (c : Prop) [Decidable c] {n : EStateM ε σ α} {n' : EStateM ε σ' α}
    (hm : Lockstep R m m') (hn : Lockstep R n n') :
    Lockstep R (if c then m else n) (if c then m' else n') := by
  by_cases hc : c
  · rw [if_pos hc, if_pos hc]
    exact hm
  · rw [if_neg hc, if_neg hc]
    exact hn

/-- A check before the rest. -/
theorem guard {c : Prop} [Decidable c] {e : ε} {f : PUnit → EStateM ε σ α}
    {f' : PUnit → EStateM ε σ' α} (hf : Lockstep R (f ⟨⟩) (f' ⟨⟩)) :
    Lockstep R (if c then throw e >>= f else f ⟨⟩) (if c then throw e >>= f' else f' ⟨⟩) :=
  .ite c (fun _ _ hs => .error e hs) hf

/-- Work on a part of the states. -/
theorem onPart {Q : τ → τ' → Prop} {get : σ → τ} {put : σ → τ → σ} {get' : σ' → τ'}
    {put' : σ' → τ' → σ'} {n : EStateM ε τ α} {n' : EStateM ε τ' α} (hn : Lockstep Q n n')
    (hget : ∀ s s', R s s' → Q (get s) (get' s'))
    (hput : ∀ s s' t t', R s s' → Q t t' → R (put s t) (put' s' t')) :
    Lockstep R (onPart get put n) (onPart get' put' n') :=
  fun s s' hs => (hn _ _ (hget s s' hs)).onPart fun t t' ht => hput s s' t t' hs ht

end Lockstep

end Effect
end Lib
