import Mathlib.Data.List.Basic
import Yakr.Lib.Effect

/-!
# Yakr.Lib.Worklist

**Work lists with retries.** A worker goes over a list of items; each item is done, dropped or
put off. As long as a pass gets something done, the items that were put off are tried again.
Every pass but the last shortens the list, so a list as long as the items is passed over no
more often than that (`drain_fuel`).

`Tries` says which item is tried in which state in the course of the work. What every attempt
that is made keeps, the work keeps (`Tries.steps`). Two workers whose every attempt ends alike end
alike, and items that are never done and change nothing can be left out (`work_matches`).
-/

namespace Lib

open Effect

namespace Worklist

variable {ε σ τ ι : Type}

/-- What became of an item. -/
inductive Verdict where
  /-- It is tried again in the next pass. -/
  | later
  | drop
  | done
deriving DecidableEq, Repr

/-- One pass: whether some item was done, and the items put off, in order. -/
def pass (handle : ι → EStateM ε σ Verdict) : List ι → EStateM ε σ (Bool × List ι)
  | [] => pure (false, [])
  | i :: items => do
      let verdict ← handle i
      let (progressed, putOff) ← pass handle items
      return (decide (verdict = .done) || progressed,
        if verdict = .later then i :: putOff else putOff)

/-- Passes until one gets nothing done, as many as the fuel allows. -/
def drain (handle : (round : Nat) → ι → EStateM ε σ Verdict) :
    (fuel round : Nat) → List ι → EStateM ε σ Unit
  | _, _, [] => pure ()
  | 0, _, _ :: _ => pure ()
  | fuel + 1, round, i :: items => do
      let (progressed, putOff) ← pass (handle round) (i :: items)
      if progressed then drain handle fuel (round + 1) putOff

/-- The whole list. -/
def work (handle : (round : Nat) → ι → EStateM ε σ Verdict) (items : List ι) : EStateM ε σ Unit :=
  drain handle items.length 0 items

section Pass

variable {handle : ι → EStateM ε σ Verdict} {items : List ι} {i : ι} {s s' : σ}

@[simp] theorem pass_nil : pass handle [] = pure (false, []) := rfl

theorem run_pass_cons :
    (pass handle (i :: items)).run s =
      match (handle i).run s with
      | .error e s' => .error e s'
      | .ok verdict s' =>
          match (pass handle items).run s' with
          | .error e s'' => .error e s''
          | .ok (progressed, putOff) s'' =>
              .ok (decide (verdict = .done) || progressed,
                if verdict = .later then i :: putOff else putOff) s'' := by
  simp only [pass, EStateM.run_bind]
  cases (handle i).run s with
  | error e s' => rfl
  | ok verdict s' =>
      dsimp only
      cases (pass handle items).run s' with
      | error e s'' => rfl
      | ok result s'' => rfl

/-- A pass over one more item. -/
theorem pass_cons_ok {result : Bool × List ι} :
    (pass handle (i :: items)).run s = .ok result s' ↔
      ∃ verdict t progressed putOff, (handle i).run s = .ok verdict t
        ∧ (pass handle items).run t = .ok (progressed, putOff) s'
        ∧ result = (decide (verdict = .done) || progressed,
          if verdict = .later then i :: putOff else putOff) := by
  rw [run_pass_cons]
  cases (handle i).run s with
  | error e t => simp
  | ok verdict t =>
      dsimp only
      cases hpass : (pass handle items).run t with
      | error e t' => simp [hpass]
      | ok rest t' =>
          constructor
          · intro h
            cases h
            exact ⟨verdict, t, rest.1, rest.2, rfl, hpass, rfl⟩
          · rintro ⟨verdict', t₁, progressed, putOff, hverdict, hrest, rfl⟩
            cases hverdict
            rw [hpass] at hrest
            cases hrest
            rfl

/-- What is put off was on the list, and a pass that got something done shortens it. -/
theorem pass_shortens {progressed : Bool} {putOff : List ι}
    (h : (pass handle items).run s = .ok (progressed, putOff) s') :
    putOff.Sublist items ∧ (progressed = true → putOff.length < items.length) := by
  induction items generalizing s progressed putOff with
  | nil =>
      cases h
      exact ⟨.slnil, nofun⟩
  | cons i items ih =>
      obtain ⟨verdict, t, progressed', putOff', -, hrest, hresult⟩ := pass_cons_ok.mp h
      obtain ⟨hsub, hlt⟩ := ih hrest
      simp only [Prod.mk.injEq] at hresult
      obtain ⟨rfl, rfl⟩ := hresult
      have hlength := hsub.length_le
      cases verdict with
      | later =>
          refine ⟨hsub.cons_cons i, fun hprogressed => ?_⟩
          have := hlt (by simpa using hprogressed)
          simpa using this
      | drop =>
          refine ⟨hsub.cons i, fun hprogressed => ?_⟩
          have := hlt (by simpa using hprogressed)
          simp only [reduceCtorEq, if_false, List.length_cons]
          omega
      | done =>
          refine ⟨hsub.cons i, fun _ => ?_⟩
          simp only [reduceCtorEq, if_false, List.length_cons]
          omega

/-- Whatever each item keeps, a pass keeps. -/
theorem steps_pass {S : σ → σ → Prop} (h : ∀ i ∈ items, Steps S (handle i)) :
    Steps S (pass handle items) := by
  induction items with
  | nil => exact .pure _
  | cons i items ih =>
      refine (h i List.mem_cons_self).bind fun verdict => ?_
      refine (ih fun j hj => h j (List.mem_cons_of_mem i hj)).bind fun rest => ?_
      exact .pure _

end Pass

section Drain

variable {handle : (round : Nat) → ι → EStateM ε σ Verdict} {items : List ι} {s : σ}

@[simp] theorem drain_nil (fuel round : Nat) : drain handle fuel round [] = pure () := by
  cases fuel <;> rfl

theorem run_drain_succ (fuel round : Nat) :
    (drain handle (fuel + 1) round items).run s =
      match (pass (handle round) items).run s with
      | .error e s' => .error e s'
      | .ok (progressed, putOff) s' =>
          if progressed then (drain handle fuel (round + 1) putOff).run s' else .ok () s' := by
  cases items with
  | nil =>
      rw [drain_nil]
      rfl
  | cons i items =>
      simp only [drain, EStateM.run_bind]
      cases (pass (handle round) (i :: items)).run s with
      | error e s' => rfl
      | ok rest s' =>
          obtain ⟨progressed, putOff⟩ := rest
          cases progressed <;> rfl

/-- More fuel than there are items changes nothing. -/
theorem drain_fuel (fuel round : Nat) (h : items.length ≤ fuel) :
    (drain handle fuel round items).run s
      = (drain handle items.length round items).run s := by
  -- every pass that goes on shortens the list, so the induction is on the fuel
  suffices hall : ∀ (fuel fuel' round : Nat) (items : List ι) (s : σ), items.length ≤ fuel →
      items.length ≤ fuel' →
      (drain handle fuel round items).run s = (drain handle fuel' round items).run s from
    hall fuel items.length round items s h (Nat.le_refl _)
  intro fuel
  induction fuel with
  | zero =>
      intro fuel' round items s hitems _
      obtain rfl : items = [] := List.length_eq_zero_iff.mp (Nat.le_zero.mp hitems)
      rw [drain_nil, drain_nil]
  | succ fuel ih =>
      intro fuel' round items s hitems hitems'
      cases fuel' with
      | zero =>
          obtain rfl : items = [] := List.length_eq_zero_iff.mp (Nat.le_zero.mp hitems')
          rw [drain_nil, drain_nil]
      | succ fuel' =>
          rw [run_drain_succ, run_drain_succ]
          cases hpass : (pass (handle round) items).run s with
          | error e s' => rfl
          | ok rest s' =>
              obtain ⟨progressed, putOff⟩ := rest
              cases progressed with
              | false => rfl
              | true =>
                  have hlt := (pass_shortens hpass).2 rfl
                  exact ih fuel' (round + 1) putOff s' (by omega) (by omega)

/-- Whatever each item keeps, the loop keeps. -/
theorem steps_drain {S : σ → σ → Prop} (h : ∀ round i, i ∈ items → Steps S (handle round i))
    (fuel round : Nat) : Steps S (drain handle fuel round items) := by
  induction fuel generalizing round items with
  | zero => cases items <;> exact .pure ()
  | succ fuel ih =>
      cases items with
      | nil => exact .pure ()
      | cons i items =>
          intro s
          rw [run_drain_succ]
          have hpass := steps_pass (fun j hj => h round j hj) s
          cases hrun : (pass (handle round) (i :: items)).run s with
          | error e s' =>
              rw [hrun] at hpass
              exact hpass
          | ok rest s' =>
              obtain ⟨progressed, putOff⟩ := rest
              rw [hrun] at hpass
              cases progressed with
              | false => exact hpass
              | true =>
                  refine hpass.trans (ih (fun round j hj => h round j ?_) (round + 1) s')
                  exact (pass_shortens hrun).1.subset hj

theorem steps_work {S : σ → σ → Prop} (h : ∀ round i, i ∈ items → Steps S (handle round i)) :
    Steps S (work handle items) := steps_drain h items.length 0

end Drain

/-! ### Attempts -/

/-- The attempts of a pass: the item tried, the items after it, and the state it is tried in. -/
inductive PassTries (handle : ι → EStateM ε σ Verdict) :
    List ι → σ → (item : ι) → (rest : List ι) → σ → Prop
  | head {i : ι} {items : List ι} {s : σ} : PassTries handle (i :: items) s i items s
  | tail {i j : ι} {items rest : List ι} {verdict : Verdict} {s s' t : σ}
      (hrun : (handle i).run s = .ok verdict s') (h : PassTries handle items s' j rest t) :
      PassTries handle (i :: items) s j rest t

/-- The attempts of the passes from a round on. -/
inductive Tries (handle : (round : Nat) → ι → EStateM ε σ Verdict) :
    (round : Nat) → List ι → σ → (round' : Nat) → (item : ι) → (rest : List ι) → σ → Prop
  | pass {round : Nat} {items rest : List ι} {s t : σ} {i : ι}
      (h : PassTries (handle round) items s i rest t) : Tries handle round items s round i rest t
  | next {round round' : Nat} {items putOff rest : List ι} {s s' t : σ} {i : ι}
      (hpass : (pass (handle round) items).run s = .ok (true, putOff) s')
      (h : Tries handle (round + 1) putOff s' round' i rest t) :
      Tries handle round items s round' i rest t

section Attempts

variable {S : σ → σ → Prop} {s t t' : σ} {i j : ι} {items rest : List ι} {verdict : Verdict}

theorem PassTries.mem {handle : ι → EStateM ε σ Verdict}
    (h : PassTries handle items s i rest t) : i ∈ items := by
  induction h with
  | head => exact List.mem_cons_self
  | tail _ _ ih => exact List.mem_cons_of_mem _ ih

/-- An attempt that returns is followed by one at the next item, in the state it leaves. -/
theorem PassTries.next {handle : ι → EStateM ε σ Verdict}
    (h : PassTries handle items s i (j :: rest) t) (hrun : (handle i).run t = .ok verdict t') :
    PassTries handle items s j rest t' := by
  generalize hrest : j :: rest = rest' at h
  induction h with
  | head =>
      subst hrest
      exact .tail hrun .head
  | tail hrun' _ ih => exact .tail hrun' (ih hrun hrest)

theorem Tries.mem {handle : (round : Nat) → ι → EStateM ε σ Verdict} {round round' : Nat}
    (h : Tries handle round items s round' i rest t) : i ∈ items := by
  induction h with
  | pass h => exact h.mem
  | next hpass _ ih => exact (pass_shortens hpass).1.subset ih

theorem Tries.following {handle : (round : Nat) → ι → EStateM ε σ Verdict} {round round' : Nat}
    (h : Tries handle round items s round' i (j :: rest) t)
    (hrun : (handle round' i).run t = .ok verdict t') :
    Tries handle round items s round' j rest t' := by
  generalize hrest : j :: rest = rest' at h
  induction h with
  | pass h =>
      subst hrest
      exact .pass (h.next hrun)
  | next hpass _ ih => exact .next hpass (ih hrun hrest)

/-- The work goes on from an attempt with what every item keeps. -/
theorem PassTries.steps {handle : ι → EStateM ε σ Verdict}
    (hsteps : ∀ i, Steps S (handle i)) (h : PassTries handle items s i rest t) :
    Relation.ReflTransGen S (after ((handle i).run t)) (after ((pass handle items).run s)) := by
  induction h with
  | @head i items s =>
      rw [run_pass_cons]
      cases (handle i).run s with
      | error e s' => exact .refl
      | ok verdict s' =>
          have hpassed : Steps S (pass handle items) := steps_pass fun j _ => hsteps j
          have hrest := hpassed s'
          dsimp only
          cases hpass : (pass handle items).run s' with
          | error e s'' =>
              rw [hpass] at hrest
              exact hrest
          | ok result s'' =>
              rw [hpass] at hrest
              exact hrest
  | @tail i j items rest verdict s s' t hrun _ ih =>
      rw [run_pass_cons, hrun]
      dsimp only
      cases hpass : (pass handle items).run s' with
      | error e s'' =>
          rw [hpass] at ih
          exact ih
      | ok result s'' =>
          rw [hpass] at ih
          exact ih

theorem Tries.steps {handle : (round : Nat) → ι → EStateM ε σ Verdict} {fuel round round' : Nat}
    (hfuel : items.length ≤ fuel) (hsteps : ∀ round i, Steps S (handle round i))
    (h : Tries handle round items s round' i rest t) :
    Relation.ReflTransGen S (after ((handle round' i).run t))
      (after ((drain handle fuel round items).run s)) := by
  induction h generalizing fuel with
  | @pass round items rest s t i h =>
      have hpass := h.steps (hsteps round)
      have hne : items ≠ [] := List.ne_nil_of_mem h.mem
      obtain ⟨fuel, rfl⟩ : ∃ n, fuel = n + 1 := by
        refine Nat.exists_eq_succ_of_ne_zero fun hzero => hne ?_
        exact List.length_eq_zero_iff.mp (Nat.le_zero.mp (hzero ▸ hfuel))
      rw [run_drain_succ]
      cases hrun : (Worklist.pass (handle round) items).run s with
      | error e s' =>
          rw [hrun] at hpass
          exact hpass
      | ok result s' =>
          obtain ⟨progressed, putOff⟩ := result
          rw [hrun] at hpass
          cases progressed with
          | false => exact hpass
          | true => exact hpass.trans (steps_drain (fun round i _ => hsteps round i) _ _ s')
  | @next round round' items putOff rest s s' t i hpass _ ih =>
      have hshort := (pass_shortens hpass).2 rfl
      obtain ⟨fuel, rfl⟩ : ∃ n, fuel = n + 1 :=
        Nat.exists_eq_succ_of_ne_zero (by omega)
      rw [run_drain_succ, hpass]
      exact ih (by omega)

/-- An attempt that raises ends the pass. -/
theorem PassTries.raises {e : ε} {handle : ι → EStateM ε σ Verdict}
    (h : PassTries handle items s i rest t) (hrun : (handle i).run t = .error e t') :
    (pass handle items).run s = .error e t' := by
  induction h with
  | head => rw [run_pass_cons, hrun]
  | tail hrun' _ ih =>
      rw [run_pass_cons, hrun']
      dsimp only
      rw [ih hrun]

/-- An attempt that raises ends the work. -/
theorem Tries.raises {e : ε} {handle : (round : Nat) → ι → EStateM ε σ Verdict}
    {fuel round round' : Nat} (hfuel : items.length ≤ fuel)
    (h : Tries handle round items s round' i rest t)
    (hrun : (handle round' i).run t = .error e t') :
    (drain handle fuel round items).run s = .error e t' := by
  induction h generalizing fuel with
  | @pass round items rest s t i h =>
      have hne : items ≠ [] := List.ne_nil_of_mem h.mem
      obtain ⟨fuel, rfl⟩ : ∃ n, fuel = n + 1 := by
        refine Nat.exists_eq_succ_of_ne_zero fun hzero => hne ?_
        exact List.length_eq_zero_iff.mp (Nat.le_zero.mp (hzero ▸ hfuel))
      rw [run_drain_succ, h.raises hrun]
  | next hpass _ ih =>
      have hshort := (pass_shortens hpass).2 rfl
      obtain ⟨fuel, rfl⟩ : ∃ n, fuel = n + 1 :=
        Nat.exists_eq_succ_of_ne_zero (by omega)
      rw [run_drain_succ, hpass]
      exact ih (by omega) hrun

/-- What every item keeps when it returns holds at every attempt. -/
theorem PassTries.invariant {I : σ → Prop} {handle : ι → EStateM ε σ Verdict}
    (h : PassTries handle items s i rest t)
    (hkeeps : ∀ i ∈ items, ∀ s verdict s', I s → (handle i).run s = .ok verdict s' → I s')
    (hI : I s) : I t := by
  induction h with
  | head => exact hI
  | tail hrun _ ih =>
      refine ih (fun j hj => hkeeps j (List.mem_cons_of_mem _ hj)) ?_
      exact hkeeps _ List.mem_cons_self _ _ _ hI hrun

theorem pass_invariant {I : σ → Prop} {handle : ι → EStateM ε σ Verdict} {result : Bool × List ι}
    (hrun : (pass handle items).run s = .ok result t)
    (hkeeps : ∀ i ∈ items, ∀ s verdict s', I s → (handle i).run s = .ok verdict s' → I s')
    (hI : I s) : I t := by
  induction items generalizing s result with
  | nil =>
      cases hrun
      exact hI
  | cons i items ih =>
      obtain ⟨verdict, s', progressed, putOff, hhead, hrest, -⟩ := pass_cons_ok.mp hrun
      exact ih hrest (fun j hj => hkeeps j (List.mem_cons_of_mem i hj))
        (hkeeps i List.mem_cons_self _ _ _ hI hhead)

theorem drain_invariant {I : σ → Prop} {handle : (round : Nat) → ι → EStateM ε σ Verdict}
    {fuel round : Nat} (hrun : (drain handle fuel round items).run s = .ok () t)
    (hkeeps : ∀ round, ∀ i ∈ items, ∀ s verdict s', I s →
      (handle round i).run s = .ok verdict s' → I s')
    (hI : I s) : I t := by
  induction fuel generalizing round items s with
  | zero =>
      cases items with
      | nil =>
          cases hrun
          exact hI
      | cons i items =>
          cases hrun
          exact hI
  | succ fuel ih =>
      rw [run_drain_succ] at hrun
      cases hpass : (pass (handle round) items).run s with
      | error e s' =>
          rw [hpass] at hrun
          cases hrun
      | ok result s' =>
          have hI' := pass_invariant hpass (hkeeps round) hI
          obtain ⟨progressed, putOff⟩ := result
          rw [hpass] at hrun
          cases progressed with
          | false =>
              cases hrun
              exact hI'
          | true =>
              exact ih hrun (fun round j hj =>
                hkeeps round j ((pass_shortens hpass).1.subset hj)) hI'

theorem work_invariant {I : σ → Prop} {handle : (round : Nat) → ι → EStateM ε σ Verdict}
    (hrun : (work handle items).run s = .ok () t)
    (hkeeps : ∀ round, ∀ i ∈ items, ∀ s verdict s', I s →
      (handle round i).run s = .ok verdict s' → I s')
    (hI : I s) : I t := drain_invariant hrun hkeeps hI

theorem Tries.invariant {I : σ → Prop} {handle : (round : Nat) → ι → EStateM ε σ Verdict}
    {round round' : Nat} (h : Tries handle round items s round' i rest t)
    (hkeeps : ∀ round, ∀ i ∈ items, ∀ s verdict s', I s →
      (handle round i).run s = .ok verdict s' → I s')
    (hI : I s) : I t := by
  induction h with
  | pass h => exact h.invariant (hkeeps _) hI
  | next hpass _ ih =>
      refine ih (fun round j hj => hkeeps round j ((pass_shortens hpass).1.subset hj)) ?_
      exact pass_invariant hpass (hkeeps _) hI

/-- What every attempt that is made keeps, a pass keeps. -/
theorem pass_keeps {I : σ → Prop} {handle : ι → EStateM ε σ Verdict}
    (h : ∀ i rest t, PassTries handle items s i rest t → I t → I (after ((handle i).run t)))
    (hI : I s) : I (after ((pass handle items).run s)) := by
  induction items generalizing s with
  | nil => exact hI
  | cons i items ih =>
      have hhead := h i items s .head hI
      rw [run_pass_cons]
      cases hrun : (handle i).run s with
      | error e s' =>
          rw [hrun] at hhead
          exact hhead
      | ok verdict s' =>
          rw [hrun] at hhead
          have hrest := ih (s := s') (fun j rest t ht => h j rest t (.tail hrun ht)) hhead
          dsimp only
          cases hpass : (pass handle items).run s' with
          | error e s'' =>
              rw [hpass] at hrest
              exact hrest
          | ok result s'' =>
              rw [hpass] at hrest
              exact hrest

theorem drain_keeps {I : σ → Prop} {handle : (round : Nat) → ι → EStateM ε σ Verdict}
    (fuel round : Nat)
    (h : ∀ round' i rest t, Tries handle round items s round' i rest t → I t →
      I (after ((handle round' i).run t)))
    (hI : I s) : I (after ((drain handle fuel round items).run s)) := by
  induction fuel generalizing round items s with
  | zero => cases items <;> exact hI
  | succ fuel ih =>
      have hpass := pass_keeps (fun i rest t ht => h round i rest t (.pass ht)) hI
      rw [run_drain_succ]
      cases hrun : (pass (handle round) items).run s with
      | error e s' =>
          rw [hrun] at hpass
          exact hpass
      | ok result s' =>
          obtain ⟨progressed, putOff⟩ := result
          rw [hrun] at hpass
          cases progressed with
          | false => exact hpass
          | true => exact ih (round + 1) (fun round' i rest t ht => h round' i rest t
              (.next hrun ht)) hpass

end Attempts

/-! ### Two workers -/

section Two

variable {α β : Type} {V : α → β → Prop} {R : σ → τ → Prop}

/-- Both return related values or both raise one error, in related states. -/
def Related (V : α → β → Prop) (R : σ → τ → Prop) :
    EStateM.Result ε σ α → EStateM.Result ε τ β → Prop
  | .ok a s, .ok b t => V a b ∧ R s t
  | .error e s, .error e' t => e = e' ∧ R s t
  | _, _ => False

/-- Both return the same value or both raise the same error, in related states. -/
abbrev Matches (R : σ → τ → Prop) :
    EStateM.Result ε σ α → EStateM.Result ε τ α → Prop := Related Eq R

theorem Related.of_ok {x : EStateM.Result ε σ α} {b : β} {t : τ} (h : Related V R x (.ok b t)) :
    ∃ a s, x = .ok a s ∧ V a b ∧ R s t := by
  cases x with
  | ok a s => exact ⟨a, s, rfl, h⟩
  | error e s => exact h.elim

theorem Related.of_ok_left {y : EStateM.Result ε τ β} {a : α} {s : σ}
    (h : Related V R (.ok a s) y) : ∃ b t, y = .ok b t ∧ V a b ∧ R s t := by
  cases y with
  | ok b t => exact ⟨b, t, rfl, h⟩
  | error e t => exact h.elim

theorem Related.of_error_left {y : EStateM.Result ε τ β} {e : ε} {s : σ}
    (h : Related V R (.error e s) y) : ∃ t, y = .error e t ∧ R s t := by
  cases y with
  | ok b t => exact h.elim
  | error e' t =>
      obtain ⟨rfl, hR⟩ := h
      exact ⟨t, rfl, hR⟩

theorem Matches.refl (x : EStateM.Result ε σ α) : Matches Eq x x := by
  cases x with
  | ok a s => exact ⟨rfl, rfl⟩
  | error e s => exact ⟨rfl, rfl⟩

theorem Matches.eq {x y : EStateM.Result ε σ α} (h : Matches Eq x y) : x = y := by
  cases x with
  | ok a s =>
      obtain ⟨b, t, rfl, rfl, rfl⟩ := h.of_ok_left
      rfl
  | error e s =>
      obtain ⟨t, rfl, rfl⟩ := h.of_error_left
      rfl

/-- Related computations, one after another. -/
theorem Related.bind {γ δ : Type} {W : γ → δ → Prop} {m : EStateM ε σ α} {n : EStateM ε τ β}
    {f : α → EStateM ε σ γ} {g : β → EStateM ε τ δ} {s : σ} {t : τ}
    (h : Related V R (m.run s) (n.run t))
    (hf : ∀ a b s' t', m.run s = .ok a s' → n.run t = .ok b t' → V a b → R s' t' →
      Related W R ((f a).run s') ((g b).run t')) :
    Related W R ((m >>= f).run s) ((n >>= g).run t) := by
  rw [EStateM.run_bind, EStateM.run_bind]
  cases hm : m.run s with
  | ok a s' =>
      rw [hm] at h
      obtain ⟨b, t', hn, hV, hR⟩ := h.of_ok_left
      rw [hn]
      exact hf a b s' t' hm hn hV hR
  | error e s' =>
      rw [hm] at h
      obtain ⟨t', hn, hR⟩ := h.of_error_left
      rw [hn]
      exact ⟨rfl, hR⟩

variable {first : (round : Nat) → ι → EStateM ε σ Verdict}
  {second : (round : Nat) → ι → EStateM ε τ Verdict} {keep : ι → Bool}
  {items : List ι} {s : σ} {t : τ}

/-- The second pass gets something done when the first does, and puts off the items it keeps
of those that the first puts off. -/
def KeptOf (keep : ι → Bool) (x y : Bool × List ι) : Prop :=
  y = (x.1, x.2.filter keep)

theorem pass_matches (round : Nat)
    (hkept : ∀ i rest s' t', PassTries (first round) items s i rest s' → keep i = true →
      R s' t' → Matches R ((first round i).run s') ((second round i).run t'))
    (hleft : ∀ i rest s' t', PassTries (first round) items s i rest s' → keep i = false →
      R s' t' → ∃ verdict s'', verdict ≠ .done ∧ (first round i).run s' = .ok verdict s''
        ∧ R s'' t')
    (hR : R s t) :
    Related (KeptOf keep) R ((pass (first round) items).run s)
      ((pass (second round) (items.filter keep)).run t) := by
  induction items generalizing s t with
  | nil => exact ⟨rfl, hR⟩
  | cons i items ih =>
      have hrest : ∀ {verdict s' t'}, (first round i).run s = .ok verdict s' → R s' t' →
          Related (KeptOf keep) R ((pass (first round) items).run s')
            ((pass (second round) (items.filter keep)).run t') := fun hrun hR' =>
        ih (fun j rest s' t' ht => hkept j rest s' t' (.tail hrun ht))
          (fun j rest s' t' ht => hleft j rest s' t' (.tail hrun ht)) hR'
      cases hkeep : keep i with
      | true =>
          rw [List.filter_cons_of_pos hkeep]
          refine (hkept i items s t .head hkeep hR).bind
            fun verdict _ s' t' hrun _ hverdict hR' => ?_
          subst hverdict
          refine (hrest hrun hR').bind fun rest rest' s t _ _ hkeptOf hR => ?_
          refine ⟨?_, hR⟩
          rw [hkeptOf]
          cases verdict with
          | later => simp [KeptOf, List.filter_cons_of_pos hkeep]
          | drop => simp [KeptOf]
          | done => simp [KeptOf]
      | false =>
          have hne : ¬ keep i = true := by simp [hkeep]
          rw [List.filter_cons_of_neg hne, run_pass_cons]
          obtain ⟨verdict, s', hverdict, hrun, hR'⟩ := hleft i items s t .head hkeep hR
          have hrest' := hrest hrun hR'
          rw [hrun]
          dsimp only
          cases hfirst : (pass (first round) items).run s' with
          | error e s'' =>
              rw [hfirst] at hrest'
              exact hrest'
          | ok rest s'' =>
              rw [hfirst] at hrest'
              obtain ⟨rest', t', hsecond, hkeptOf, hR''⟩ := hrest'.of_ok_left
              rw [hsecond]
              refine ⟨?_, hR''⟩
              rw [hkeptOf]
              cases verdict with
              | done => exact absurd rfl hverdict
              | later => simp [KeptOf, List.filter_cons_of_neg hne]
              | drop => simp [KeptOf]

/-- **Two workers end alike** when every attempt at an item that both have ends alike, and the
items that only the first has are never done and do not matter to the relation. -/
theorem drain_matches (fuel fuel' round : Nat) (hfuel : items.length ≤ fuel)
    (hfuel' : (items.filter keep).length ≤ fuel')
    (hkept : ∀ k i rest s' t', Tries first round items s k i rest s' → keep i = true → R s' t' →
      Matches R ((first k i).run s') ((second k i).run t'))
    (hleft : ∀ k i rest s' t', Tries first round items s k i rest s' → keep i = false →
      R s' t' → ∃ verdict s'', verdict ≠ .done ∧ (first k i).run s' = .ok verdict s'' ∧ R s'' t')
    (hR : R s t) :
    Matches R ((drain first fuel round items).run s)
      ((drain second fuel' round (items.filter keep)).run t) := by
  induction fuel generalizing fuel' round items s t with
  | zero =>
      obtain rfl : items = [] := List.length_eq_zero_iff.mp (Nat.le_zero.mp hfuel)
      rw [List.filter_nil, drain_nil, drain_nil]
      exact ⟨rfl, hR⟩
  | succ fuel ih =>
      -- one unit of fuel more than there are kept items is no difference
      have hsame : (drain second (fuel' + 1) round (items.filter keep)).run t
          = (drain second fuel' round (items.filter keep)).run t := by
        rw [drain_fuel (fuel' + 1) round (by omega), drain_fuel fuel' round hfuel']
      have hpass : Related (KeptOf keep) R ((pass (first round) items).run s)
          ((pass (second round) (items.filter keep)).run t) := pass_matches round
        (fun i rest s' t' ht => hkept round i rest s' t' (.pass ht))
        (fun i rest s' t' ht => hleft round i rest s' t' (.pass ht)) hR
      rw [← hsame, run_drain_succ, run_drain_succ]
      cases hfirst : (pass (first round) items).run s with
      | error e s' =>
          rw [hfirst] at hpass
          obtain ⟨t', hsecond, hR'⟩ := hpass.of_error_left
          rw [hsecond]
          exact ⟨rfl, hR'⟩
      | ok rest s' =>
          rw [hfirst] at hpass
          obtain ⟨rest', t', hsecond, hkeptOf, hR'⟩ := hpass.of_ok_left
          obtain ⟨progressed, putOff⟩ := rest
          rw [hsecond, hkeptOf]
          cases progressed with
          | false => exact ⟨rfl, hR'⟩
          | true =>
              have hshort := pass_shortens hfirst
              have hlt : putOff.length < items.length := hshort.2 rfl
              have hle : (putOff.filter keep).length ≤ (items.filter keep).length :=
                (hshort.1.filter keep).length_le
              exact ih fuel' (round + 1) (by omega) (by omega)
                (fun k i rest s' t' ht => hkept k i rest s' t' (.next hfirst ht))
                (fun k i rest s' t' ht => hleft k i rest s' t' (.next hfirst ht)) hR'

theorem work_matches
    (hkept : ∀ k i rest s' t', Tries first 0 items s k i rest s' → keep i = true → R s' t' →
      Matches R ((first k i).run s') ((second k i).run t'))
    (hleft : ∀ k i rest s' t', Tries first 0 items s k i rest s' → keep i = false →
      R s' t' → ∃ verdict s'', verdict ≠ .done ∧ (first k i).run s' = .ok verdict s'' ∧ R s'' t')
    (hR : R s t) :
    Matches R ((work first items).run s) ((work second (items.filter keep)).run t) :=
  drain_matches items.length _ 0 (Nat.le_refl _) (Nat.le_refl _) hkept hleft hR

end Two

end Worklist
end Lib
