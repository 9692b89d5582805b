import Mathlib.Logic.Relation
import Mathlib.Tactic.Common

/-!
# Yakr.Lib.Effect

**State that survives an exception.** In `EStateM ε σ` a raised exception keeps
the state it was raised in, as an object of an imperative language keeps the
fields a failing method had already assigned. Core Lean has the run lemmas of the
plain operations; this module adds those of branching, raising at any type,
handling, and running a computation on a part of the state. `Steps` says that a
computation, returning or raising, is a run of a step relation: an invariant of the
relation is then one of the computation.
-/

namespace Lib
namespace Effect

variable {ε σ τ α β : Type}

/-- A pure result or a raised exception. -/
def orRaise : Except ε α → EStateM ε σ α
  | .ok a => pure a
  | .error e => throw e

/-- The value of a result, if it is one. -/
def value? : EStateM.Result ε σ α → Option α
  | .ok a _ => some a
  | .error _ _ => none

/-- The state after a run, whether it returned or raised. -/
def after : EStateM.Result ε σ α → σ
  | .ok _ s => s
  | .error _ s => s

/-- What a run returned or raised, without its state. -/
def outcome : EStateM.Result ε σ α → Except ε α
  | .ok a _ => .ok a
  | .error e _ => .error e

/-- Run a computation on a part of the state, which is read by `get` and put
back by `put` also when the computation raises. -/
def onPart (get : σ → τ) (put : σ → τ → σ) (m : EStateM ε τ α) : EStateM ε σ α := fun s =>
  match m.run (get s) with
  | .ok a t => .ok a (put s t)
  | .error e t => .error e (put s t)

section Run

variable (s : σ)

@[simp] theorem after_ok (a : α) : after (.ok a s : EStateM.Result ε σ α) = s := rfl

@[simp] theorem after_error (e : ε) : after (.error e s : EStateM.Result ε σ α) = s := rfl

@[simp] theorem outcome_ok (a : α) : outcome (.ok a s : EStateM.Result ε σ α) = .ok a := rfl

@[simp] theorem outcome_error (e : ε) :
    outcome (.error e s : EStateM.Result ε σ α) = .error e := rfl

@[simp] theorem run_orRaise_ok (a : α) :
    (orRaise (.ok a) : EStateM ε σ α).run s = .ok a s := rfl

@[simp] theorem run_orRaise_error (e : ε) :
    (orRaise (.error e) : EStateM ε σ α).run s = .error e s := rfl

@[simp] theorem run_raise (e : ε) : (throw e : EStateM ε σ α).run s = .error e s := rfl

@[simp] theorem run_ite (c : Prop) [Decidable c] (x y : EStateM ε σ α) :
    (if c then x else y).run s = if c then x.run s else y.run s := by
  split <;> rfl

theorem run_tryCatch (x : EStateM ε σ α) (handler : ε → EStateM ε σ α) :
    (tryCatch x handler : EStateM ε σ α).run s =
      match x.run s with
      | .ok a s' => .ok a s'
      | .error e s' => (handler e).run s' := by
  show EStateM.tryCatch x handler s = _
  unfold EStateM.tryCatch EStateM.run
  cases x s <;> rfl

@[simp] theorem run_map (f : α → β) (x : EStateM ε σ α) :
    (f <$> x).run s =
      match x.run s with
      | .ok a s' => .ok (f a) s'
      | .error e s' => .error e s' := rfl

end Run

/-! ### Values -/

/-- The value of a result that is known to be one. -/
def returned (x : Except ε α) (h : x.isOk = true) : α :=
  match x, h with
  | .ok a, _ => a

theorem eq_ok_returned (x : Except ε α) (h : x.isOk = true) : x = .ok (returned x h) := by
  cases x with
  | error e => cases h
  | ok a => rfl

/-- The value and the state of a run that is known to return. -/
def ran (r : EStateM.Result ε σ α) (h : (value? r).isSome = true) : α × σ :=
  match r, h with
  | .ok a s, _ => (a, s)

/-- A run without a value has raised. -/
theorem eq_error_after {r : EStateM.Result ε σ α} (h : value? r = none) :
    ∃ e, r = .error e (after r) := by
  cases r with
  | error e s => exact ⟨e, rfl⟩
  | ok a s => cases h

theorem eq_ok_ran (r : EStateM.Result ε σ α) (h : (value? r).isSome = true) :
    r = .ok (ran r h).1 (ran r h).2 := by
  cases r with
  | error e s => cases h
  | ok a s => rfl

/-! ### Inversion -/

theorem outcome_eq_ok {r : EStateM.Result ε σ α} {a : α} :
    outcome r = .ok a ↔ ∃ s, r = .ok a s := by
  cases r with
  | error e s => simp
  | ok b s => simp

theorem ok_bind (a : α) (f : α → Except ε β) : (Except.ok a >>= f) = f a := rfl

/-- A sequence returns when its parts do. -/
theorem bind_ok {x : Except ε α} {f : α → Except ε β} {b : β} :
    (x >>= f) = .ok b ↔ ∃ a, x = .ok a ∧ f a = .ok b := by
  cases x with
  | error e =>
      constructor
      · intro h
        cases h
      · rintro ⟨a, ha, -⟩
        cases ha
  | ok a =>
      constructor
      · exact fun h => ⟨a, rfl, h⟩
      · rintro ⟨a', ha, h⟩
        cases ha
        exact h

/-- A sequence whose first part returns `a` returns when what follows `a` does. -/
theorem bind_returns {x : Except ε α} {f : α → Except ε β} {a : α} (hx : x = .ok a)
    (hf : ∃ b, f a = .ok b) : ∃ b, (x >>= f) = .ok b := by
  subst hx
  exact hf

/-- What a list is mapped to, element by element. -/
theorem mapM_ok_mem {f : α → Except ε β} {l : List α} {bs : List β}
    (h : l.mapM f = .ok bs) :
    (∀ b ∈ bs, ∃ a ∈ l, f a = .ok b) ∧ ∀ a ∈ l, ∃ b ∈ bs, f a = .ok b := by
  induction l generalizing bs with
  | nil =>
      obtain rfl := Except.ok.inj h
      exact ⟨nofun, nofun⟩
  | cons a l ih =>
      rw [List.mapM_cons] at h
      obtain ⟨b, hb, h⟩ := bind_ok.mp h
      obtain ⟨bs', hbs, h⟩ := bind_ok.mp h
      obtain rfl := Except.ok.inj h
      obtain ⟨hfrom, hto⟩ := ih hbs
      constructor
      · intro y hy
        rcases List.mem_cons.mp hy with rfl | hy
        · exact ⟨a, List.mem_cons_self, hb⟩
        · obtain ⟨x, hx, hfx⟩ := hfrom y hy
          exact ⟨x, List.mem_cons_of_mem _ hx, hfx⟩
      · intro x hx
        rcases List.mem_cons.mp hx with rfl | hx
        · exact ⟨b, List.mem_cons_self, hb⟩
        · obtain ⟨y, hy, hfx⟩ := hto x hx
          exact ⟨y, List.mem_cons_of_mem _ hy, hfx⟩

theorem mapM_returns {f : α → Except ε β} {l : List α}
    (h : ∀ a ∈ l, ∃ b, f a = .ok b) : ∃ bs, l.mapM f = .ok bs := by
  induction l with
  | nil => exact ⟨[], rfl⟩
  | cons a l ih =>
      obtain ⟨b, hb⟩ := h a List.mem_cons_self
      obtain ⟨bs, hbs⟩ := ih fun x hx => h x (List.mem_cons_of_mem _ hx)
      rw [List.mapM_cons]
      exact bind_returns hb (bind_returns hbs ⟨b :: bs, rfl⟩)

/-- A sequence with state returns when its parts do. -/
theorem run_bind_ok {x : EStateM ε σ α} {f : α → EStateM ε σ β} {b : β} {s s'' : σ} :
    (x >>= f).run s = .ok b s'' ↔ ∃ a s', x.run s = .ok a s' ∧ (f a).run s' = .ok b s'' := by
  rw [EStateM.run_bind]
  cases x.run s with
  | error e s' =>
      constructor
      · intro h
        cases h
      · rintro ⟨a, t, ha, -⟩
        cases ha
  | ok a s' =>
      constructor
      · exact fun h => ⟨a, s', rfl, h⟩
      · rintro ⟨a', t, ha, h⟩
        cases ha
        exact h

/-- Raising a given result succeeds only on a value, and leaves the state alone. -/
theorem run_orRaise_eq_ok {x : Except ε α} {a : α} {s s' : σ} :
    (orRaise x : EStateM ε σ α).run s = .ok a s' ↔ x = .ok a ∧ s' = s := by
  cases x with
  | error e =>
      constructor
      · intro h
        cases h
      · rintro ⟨h, -⟩
        cases h
  | ok b =>
      rw [run_orRaise_ok]
      constructor
      · intro h
        cases h
        exact ⟨rfl, rfl⟩
      · rintro ⟨h, rfl⟩
        cases h
        rfl

/-- A sequence that raises a given result first. -/
theorem run_orRaise_bind_ok {x : Except ε α} {f : α → EStateM ε σ β} {b : β} {s s' : σ} :
    (orRaise x >>= f).run s = .ok b s' ↔ ∃ a, x = .ok a ∧ (f a).run s = .ok b s' := by
  cases x with
  | ok a => simp [EStateM.run_bind]
  | error e => simp [EStateM.run_bind]

theorem run_orRaise_bind (x : Except ε α) (f : α → EStateM ε σ β) (s : σ) :
    (orRaise x >>= f).run s =
      match x with
      | .ok a => (f a).run s
      | .error e => .error e s := by
  cases x with
  | ok a => rfl
  | error e => rfl

/-- A sequence that reads the state first. -/
theorem run_get_bind (f : σ → EStateM ε σ β) (s : σ) : (get >>= f).run s = (f s).run s := rfl

/-- A run is determined by that of its first part, and by the rest from where it ends. -/
theorem run_bind_congr {m : EStateM ε σ α} {f g : α → EStateM ε σ β}
    (h : ∀ a s, (f a).run s = (g a).run s) (s : σ) : (m >>= f).run s = (m >>= g).run s := by
  rw [EStateM.run_bind, EStateM.run_bind]
  cases m.run s with
  | ok a s' => exact h a s'
  | error e s' => rfl

theorem run_modify_bind (g : σ → σ) (f : PUnit → EStateM ε σ β) (s : σ) :
    (modify g >>= f).run s = (f ⟨⟩).run (g s) := rfl

/-- What a computation on a part leaves. -/
theorem after_onPart {get : σ → τ} {put : σ → τ → σ} {m : EStateM ε τ α} {s : σ} :
    after ((onPart get put m).run s) = put s (after (m.run (get s))) := by
  show after (match m.run (get s) with
    | .ok a t => .ok a (put s t)
    | .error e t => .error e (put s t)) = _
  cases m.run (get s) with
  | ok a t => rfl
  | error e t => rfl

/-- A computation on a part returns when it returns on that part. -/
theorem run_onPart_ok {get : σ → τ} {put : σ → τ → σ} {m : EStateM ε τ α} {a : α} {s s' : σ} :
    (onPart get put m).run s = .ok a s' ↔ ∃ t, m.run (get s) = .ok a t ∧ s' = put s t := by
  show (match m.run (get s) with
    | .ok a t => EStateM.Result.ok a (put s t)
    | .error e t => .error e (put s t)) = .ok a s' ↔ _
  cases m.run (get s) with
  | ok b t =>
      constructor
      · intro h
        cases h
        exact ⟨t, rfl, rfl⟩
      · rintro ⟨t', h, rfl⟩
        cases h
        rfl
  | error e t =>
      constructor
      · intro h
        cases h
      · rintro ⟨t', h, -⟩
        cases h

theorem run_onPart_error {get : σ → τ} {put : σ → τ → σ} {m : EStateM ε τ α} {e : ε} {s s' : σ} :
    (onPart get put m).run s = .error e s' ↔ ∃ t, m.run (get s) = .error e t ∧ s' = put s t := by
  show (match m.run (get s) with
    | .ok a t => EStateM.Result.ok a (put s t)
    | .error e t => .error e (put s t)) = .error e s' ↔ _
  cases m.run (get s) with
  | ok b t =>
      constructor
      · intro h
        cases h
      · rintro ⟨t', h, -⟩
        cases h
  | error e' t =>
      constructor
      · intro h
        cases h
        exact ⟨t, rfl, rfl⟩
      · rintro ⟨t', h, rfl⟩
        cases h
        rfl

/-- A guarded sequence returns when the guard lets it and what follows it does. -/
theorem run_guard_bind_ok {c : Prop} [Decidable c] {e : ε} {f : PUnit → EStateM ε σ β} {b : β}
    {s s' : σ} :
    (if c then throw e >>= f else f ⟨⟩ : EStateM ε σ β).run s = .ok b s'
      ↔ ¬ c ∧ (f ⟨⟩).run s = .ok b s' := by
  by_cases hc : c
  · rw [if_pos hc]
    constructor
    · intro h
      cases h
    · exact fun h => absurd hc h.1
  · rw [if_neg hc]
    exact ⟨fun h => ⟨hc, h⟩, fun h => h.2⟩

/-! ### Steps -/

/-- Whatever it returns or raises, the computation takes steps of `S` only. -/
def Steps (S : σ → σ → Prop) (m : EStateM ε σ α) : Prop :=
  ∀ s, Relation.ReflTransGen S s (after (m.run s))

/-- Steps that keep a value. -/
theorem eq_of_steps {f : σ → τ} {s s' : σ}
    (h : Relation.ReflTransGen (fun s s' => f s' = f s) s s') : f s' = f s := by
  induction h with
  | refl => rfl
  | tail _ hstep ih => exact hstep.trans ih

namespace Steps

variable {S : σ → σ → Prop} {m : EStateM ε σ α}

theorem pure (a : α) : Steps S (pure a : EStateM ε σ α) := fun _ => .refl

theorem raise (e : ε) : Steps S (throw e : EStateM ε σ α) := fun _ => .refl

theorem get : Steps S (get : EStateM ε σ σ) := fun _ => .refl

theorem modify {f : σ → σ} (h : ∀ s, S s (f s)) : Steps S (modify f : EStateM ε σ PUnit) :=
  fun s => .single (h s)

theorem orRaise (x : Except ε α) : Steps S (orRaise x : EStateM ε σ α) := by
  cases x with
  | ok a => exact pure a
  | error e => exact raise e

theorem bind (hm : Steps S m) {f : α → EStateM ε σ β} (hf : ∀ a, Steps S (f a)) :
    Steps S (m >>= f) := by
  intro s
  have hs := hm s
  rw [EStateM.run_bind]
  cases hrun : m.run s with
  | error e t =>
      rw [hrun] at hs
      exact hs
  | ok a t =>
      rw [hrun] at hs
      exact hs.trans (hf a t)

/-- What follows a pure result may rest on it. -/
theorem orRaise_bind {x : Except ε α} {f : α → EStateM ε σ β} (hf : ∀ a, x = .ok a → Steps S (f a)) :
    Steps S (Effect.orRaise x >>= f) := by
  intro s
  cases x with
  | error e => exact .refl
  | ok a => exact hf a rfl s

theorem map (hm : Steps S m) (f : α → β) : Steps S (f <$> m) := by
  intro s
  have hs := hm s
  rw [run_map]
  cases hrun : m.run s with
  | error e t =>
      rw [hrun] at hs
      exact hs
  | ok a t =>
      rw [hrun] at hs
      exact hs

theorem tryCatch (hm : Steps S m) {handler : ε → EStateM ε σ α} (hh : ∀ e, Steps S (handler e)) :
    Steps S (tryCatch m handler) := by
  intro s
  have hs := hm s
  rw [run_tryCatch]
  cases hrun : m.run s with
  | ok a t =>
      rw [hrun] at hs
      exact hs
  | error e t =>
      rw [hrun] at hs
      exact hs.trans (hh e t)

theorem mono {T : σ → σ → Prop} (hm : Steps S m) (h : ∀ s s', S s s' → T s s') : Steps T m :=
  fun s => Relation.ReflTransGen.mono h _ _ (hm s)

theorem ite (c : Prop) [Decidable c] {m' : EStateM ε σ α} (hm : Steps S m) (hm' : Steps S m') :
    Steps S (if c then m else m') := by
  split
  · exact hm
  · exact hm'

/-- A guard takes no step. -/
theorem guard {c : Prop} [Decidable c] {e : ε} {f : PUnit → EStateM ε σ β} (hf : Steps S (f ⟨⟩)) :
    Steps S (if c then throw e >>= f else f ⟨⟩) := by
  split
  · exact fun _ => .refl
  · exact hf

/-- A computation on a part takes the step that it takes there. -/
theorem onPart {get : σ → τ} {put : σ → τ → σ} {m : EStateM ε τ α}
    (h : ∀ s, S s (put s (after (m.run (get s))))) : Steps S (onPart get put m) := by
  intro s
  rw [after_onPart]
  exact .single (h s)

/-- What every step keeps, the computation keeps. -/
theorem invariant {motive : σ → Prop} (hm : Steps S m)
    (hstep : ∀ s s', motive s → S s s' → motive s') {s : σ} (hs : motive s) :
    motive (after (m.run s)) := by
  have hrun := hm s
  generalize after (m.run s) = t at hrun
  induction hrun with
  | refl => exact hs
  | tail _ hnext ih => exact hstep _ _ ih hnext

end Steps

/-- If it raises, the computation has taken steps of `S` only. -/
def Raises (S : σ → σ → Prop) (m : EStateM ε σ α) : Prop :=
  ∀ s e s', m.run s = .error e s' → Relation.ReflTransGen S s s'

namespace Raises

variable {S : σ → σ → Prop} {m : EStateM ε σ α}

theorem of_steps (hm : Steps S m) : Raises S m := by
  intro s e s' hrun
  have hs := hm s
  rw [hrun] at hs
  exact hs

theorem modify {f : σ → σ} : Raises S (modify f : EStateM ε σ PUnit) := nofun

theorem ite (c : Prop) [Decidable c] {m' : EStateM ε σ α} (hm : Raises S m)
    (hm' : Raises S m') : Raises S (if c then m else m') := by
  split
  · exact hm
  · exact hm'

theorem guard {c : Prop} [Decidable c] {e : ε} {f : PUnit → EStateM ε σ β}
    (hf : Raises S (f ⟨⟩)) : Raises S (if c then throw e >>= f else f ⟨⟩) := by
  split
  · intro s e' s' hrun
    cases hrun
    exact .refl
  · exact hf

/-- Only the last part of a sequence may do more than steps, when it returns. -/
theorem bind (hm : Steps S m) {f : α → EStateM ε σ β} (hf : ∀ a, Raises S (f a)) :
    Raises S (m >>= f) := by
  intro s e s' hrun
  have hs := hm s
  rw [EStateM.run_bind] at hrun
  cases hm : m.run s with
  | error e' t =>
      rw [hm] at hs hrun
      cases hrun
      exact hs
  | ok a t =>
      rw [hm] at hs hrun
      exact hs.trans (hf a t e s' hrun)

/-- What cannot raise may follow. -/
theorem bind_pure (hm : Raises S m) (f : α → β) :
    Raises S (m >>= fun a => Pure.pure (f a) : EStateM ε σ β) := by
  intro s e s' hrun
  rw [EStateM.run_bind] at hrun
  cases hs : m.run s with
  | error e' t =>
      rw [hs] at hrun
      cases hrun
      exact hm s e s' hs
  | ok a t =>
      rw [hs] at hrun
      cases hrun

end Raises

/-- Whatever the computation returns has a property. -/
def Returns (Q : α → Prop) (m : EStateM ε σ α) : Prop := ∀ s a s', m.run s = .ok a s' → Q a

namespace Returns

variable {Q : α → Prop}

theorem pure {a : α} (h : Q a) : Returns Q (pure a : EStateM ε σ α) := by
  intro s a' s' hrun
  cases hrun
  exact h

theorem raise (e : ε) : Returns Q (throw e : EStateM ε σ α) := nofun

/-- Only the last part of a sequence returns. -/
theorem bind {m : EStateM ε σ β} {f : β → EStateM ε σ α} (hf : ∀ b, Returns Q (f b)) :
    Returns Q (m >>= f) := by
  intro s a s' hrun
  obtain ⟨b, t, -, hlast⟩ := run_bind_ok.mp hrun
  exact hf b t a s' hlast

/-- What the first part returns may decide what the last part returns. -/
theorem seq {R : β → Prop} {m : EStateM ε σ β} {f : β → EStateM ε σ α} (hm : Returns R m)
    (hf : ∀ b, R b → Returns Q (f b)) : Returns Q (m >>= f) := by
  intro s a s' hrun
  obtain ⟨b, t, hfirst, hlast⟩ := run_bind_ok.mp hrun
  exact hf b (hm s b t hfirst) t a s' hlast

theorem tryCatch {m : EStateM ε σ α} {handler : ε → EStateM ε σ α} (hm : Returns Q m)
    (hh : ∀ e, Returns Q (handler e)) : Returns Q (tryCatch m handler) := by
  intro s a s' hrun
  rw [run_tryCatch] at hrun
  cases hfirst : m.run s with
  | ok b t =>
      rw [hfirst] at hrun
      cases hrun
      exact hm s a s' hfirst
  | error e t =>
      rw [hfirst] at hrun
      exact hh e t a s' hrun

theorem ite (c : Prop) [Decidable c] {m m' : EStateM ε σ α} (hm : Returns Q m)
    (hm' : Returns Q m') : Returns Q (if c then m else m') := by
  split
  · exact hm
  · exact hm'

theorem guard {c : Prop} [Decidable c] {e : ε} {f : PUnit → EStateM ε σ α}
    (hf : Returns Q (f ⟨⟩)) : Returns Q (if c then throw e >>= f else f ⟨⟩) := by
  intro s a s' hrun
  exact hf s a s' (run_guard_bind_ok.mp hrun).2

end Returns

/-- The steps of what follows may rest on what the first part returns. -/
theorem Steps.bind_returns {S : σ → σ → Prop} {R : β → Prop} {m : EStateM ε σ β}
    {f : β → EStateM ε σ α} (hm : Steps S m) (hreturns : Returns R m)
    (hf : ∀ b, R b → Steps S (f b)) : Steps S (m >>= f) := by
  intro s
  have hs := hm s
  rw [EStateM.run_bind]
  cases hrun : m.run s with
  | error e t =>
      rw [hrun] at hs
      exact hs
  | ok b t =>
      rw [hrun] at hs
      exact hs.trans (hf b (hreturns s b t hrun) t)

/-- Whatever the computation raises has a property. -/
def Throws (Q : ε → Prop) (m : EStateM ε σ α) : Prop :=
  ∀ s e s', m.run s = .error e s' → Q e

namespace Throws

variable {Q : ε → Prop}

theorem pure (a : α) : Throws Q (pure a : EStateM ε σ α) := by
  intro s e s' hrun
  cases hrun

theorem raise {e : ε} (h : Q e) : Throws Q (throw e : EStateM ε σ α) := by
  intro s e' s' hrun
  cases hrun
  exact h

theorem get : Throws Q (get : EStateM ε σ σ) := by
  intro s e s' hrun
  cases hrun

theorem bind {f : α → EStateM ε σ β} (hm : Throws Q m) (hf : ∀ a, Throws Q (f a)) :
    Throws Q (m >>= f) := by
  intro s e s' hrun
  rw [EStateM.run_bind] at hrun
  cases hfirst : m.run s with
  | ok a t =>
      rw [hfirst] at hrun
      exact hf a t e s' hrun
  | error e' t =>
      rw [hfirst] at hrun
      cases hrun
      exact hm s e s' hfirst

theorem ite (c : Prop) [Decidable c] {m' : EStateM ε σ α} (hm : Throws Q m) (hm' : Throws Q m') :
    Throws Q (if c then m else m') := by
  split
  · exact hm
  · exact hm'

theorem guard {c : Prop} [Decidable c] {e : ε} {f : PUnit → EStateM ε σ β} (he : Q e)
    (hf : Throws Q (f ⟨⟩)) : Throws Q (if c then throw e >>= f else f ⟨⟩) :=
  .ite c (.bind (.raise he) fun _ => hf) hf

end Throws

/-! ### Triples -/

/-- Started where `p` holds, the computation returns only values and states with `Q`. -/
def Triple (p : σ → Prop) (m : EStateM ε σ α) (Q : α → σ → Prop) : Prop :=
  ∀ s, p s → ∀ a s', m.run s = .ok a s' → Q a s'

namespace Triple

variable {p : σ → Prop} {Q : α → σ → Prop}

theorem pure {a : α} (h : ∀ s, p s → Q a s) : Triple p (pure a : EStateM ε σ α) Q := by
  intro s hs a' s' hrun
  cases hrun
  exact h s hs

theorem raise (e : ε) : Triple p (throw e : EStateM ε σ α) Q := by
  intro s hs a s' hrun
  cases hrun

/-- What holds between two parts of a sequence. -/
theorem seq {R : β → σ → Prop} {m : EStateM ε σ β} {f : β → EStateM ε σ α} (hm : Triple p m R)
    (hf : ∀ b, Triple (R b) (f b) Q) : Triple p (m >>= f) Q := by
  intro s hs a s' hrun
  obtain ⟨b, t, hfirst, hlast⟩ := run_bind_ok.mp hrun
  exact hf b t (hm s hs b t hfirst) a s' hlast

/-- The last part of a sequence may need nothing of the others. -/
theorem last {m : EStateM ε σ β} {f : β → EStateM ε σ α}
    (hf : ∀ b, Triple (fun _ => True) (f b) Q) : Triple p (m >>= f) Q :=
  seq (R := fun _ _ => True) (fun _ _ _ _ _ => trivial) hf

/-- A handler starts wherever the exception was raised. -/
theorem tryCatch {m : EStateM ε σ α} {handler : ε → EStateM ε σ α} (hm : Triple p m Q)
    (hh : ∀ e, Triple (fun _ => True) (handler e) Q) : Triple p (tryCatch m handler) Q := by
  intro s hs a s' hrun
  rw [run_tryCatch] at hrun
  cases hfirst : m.run s with
  | ok b t =>
      rw [hfirst] at hrun
      cases hrun
      exact hm s hs a s' hfirst
  | error e t =>
      rw [hfirst] at hrun
      exact hh e t trivial a s' hrun

theorem ite (c : Prop) [Decidable c] {m m' : EStateM ε σ α} (hm : c → Triple p m Q)
    (hm' : ¬ c → Triple p m' Q) : Triple p (if c then m else m') Q := by
  split
  · rename_i hc
    exact hm hc
  · rename_i hc
    exact hm' hc

theorem guard {c : Prop} [Decidable c] {e : ε} {f : PUnit → EStateM ε σ α}
    (hf : Triple p (f ⟨⟩) Q) : Triple p (if c then throw e >>= f else f ⟨⟩) Q := by
  intro s hs a s' hrun
  exact hf s hs a s' (run_guard_bind_ok.mp hrun).2

/-- What is known of the returned value alone. -/
theorem returns {R : α → Prop} {m : EStateM ε σ α} (hm : Triple (fun _ => True) m Q)
    (h : ∀ a s, Q a s → R a) : Returns R m := by
  intro s a s' hrun
  exact h a s' (hm s trivial a s' hrun)

end Triple

/-- The steps of what follows may rest on the state in which the first part returns. -/
theorem Steps.bind_triple {S : σ → σ → Prop} {R : β → σ → Prop} {m : EStateM ε σ β}
    {f : β → EStateM ε σ α} (hm : Steps S m) (htriple : Triple (fun _ => True) m R)
    (hf : ∀ b s, R b s → Relation.ReflTransGen S s (after ((f b).run s))) :
    Steps S (m >>= f) := by
  intro s
  have hs := hm s
  rw [EStateM.run_bind]
  cases hrun : m.run s with
  | error e t =>
      rw [hrun] at hs
      exact hs
  | ok b t =>
      rw [hrun] at hs
      exact hs.trans (hf b t (htriple s trivial b t hrun))

/-! ### Two computations side by side -/

/-- Both results are exceptions, or they are related values. -/
def Alike {ε' : Type} (R : α → β → Prop) : Except ε α → Except ε' β → Prop
  | .ok a, .ok b => R a b
  | .error _, .error _ => True
  | _, _ => False

namespace Alike

variable {ε' γ δ : Type} {R : α → β → Prop} {S : γ → δ → Prop}

/-- Sequences of related parts are related. -/
theorem bind {x : Except ε α} {y : Except ε' β} {f : α → Except ε γ} {g : β → Except ε' δ}
    (hxy : Alike R x y) (hfg : ∀ a b, x = .ok a → R a b → Alike S (f a) (g b)) :
    Alike S (x >>= f) (y >>= g) := by
  cases x with
  | error e =>
      cases y with
      | error e' => trivial
      | ok b => cases hxy
  | ok a =>
      cases y with
      | error e' => cases hxy
      | ok b => exact hfg a b rfl hxy

theorem map {x : Except ε α} {y : Except ε' β} {f : α → γ} {g : β → δ} (hxy : Alike R x y)
    (hfg : ∀ a b, R a b → S (f a) (g b)) : Alike S (x.map f) (y.map g) := by
  cases x with
  | error e =>
      cases y with
      | error e' => trivial
      | ok b => cases hxy
  | ok a =>
      cases y with
      | error e' => cases hxy
      | ok b => exact hfg a b hxy

/-- A check made on both sides. -/
theorem check {c d : Prop} [Decidable c] [Decidable d] {e : ε} {e' : ε'} {x : Except ε α}
    {y : Except ε' β} (hcd : c ↔ d) (hxy : ¬ c → Alike R x y) :
    Alike R (if c then .error e else x) (if d then .error e' else y) := by
  by_cases hc : c
  · rw [if_pos hc, if_pos (hcd.mp hc)]
    trivial
  · rw [if_neg hc, if_neg (mt hcd.mpr hc)]
    exact hxy hc

/-- A branch taken on both sides. -/
theorem branch {c d : Prop} [Decidable c] [Decidable d] {x x' : Except ε α} {y y' : Except ε' β}
    (hcd : c ↔ d) (hthen : c → Alike R x y) (helse : ¬ c → Alike R x' y') :
    Alike R (if c then x else x') (if d then y else y') := by
  by_cases hc : c
  · rw [if_pos hc, if_pos (hcd.mp hc)]
    exact hthen hc
  · rw [if_neg hc, if_neg (mt hcd.mpr hc)]
    exact helse hc

end Alike
end Effect
end Lib
