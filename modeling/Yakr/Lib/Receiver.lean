import Mathlib.Logic.Relation

/-!
# Yakr.Lib.Receiver

**A receiver of numbered chains.** The receiver of a ratchet reads one chain of
message keys at a time, the chain of its present peer key, at increasing
positions. It may run ahead, storing the keys of the positions it passes, and it
turns to the chain of another peer key with the key pair it holds, which it
replaces by a fresh one as it turns.

A position is *spent* when no later state of the receiver can derive its message
key again. Reading a position spends it, unless its key is among the stored ones:
the stored key stays where it is.
-/

namespace Lib

variable {κ π σ μ : Type*}

/-- What a receiver knows: its own key, the peer key whose chain it reads, where
that chain starts, the next position, the stored keys of passed positions, and
every own key it has ever drawn. -/
structure Receiver (κ π σ μ : Type*) where
  own : κ
  peer : π
  start : σ
  next : Nat
  stored : Nat → Option μ
  drawn : List κ

namespace Receiver

/-- The keys a receiver works with: the message keys of a chain, and which chains
can be derived from an own key and a peer key. -/
structure Scheme (κ π σ μ : Type*) where
  key : σ → Nat → μ
  Derived : κ → π → σ → Prop

/-- No two chains meet: a message key determines its chain among those of one
position, and a chain the own key it was derived from. -/
structure Scheme.Disjoint (S : Scheme κ π σ μ) (IsPeer : π → Prop) : Prop where
  key : ∀ {a b : σ} {n : Nat}, S.key a n = S.key b n → a = b
  own : ∀ {a b : κ} {q : π} {s : σ}, IsPeer q → S.Derived a q s → S.Derived b q s → a = b

/-- The keys of the positions from `lo` to `hi` of a chain, over the stored ones. -/
def storeRange (S : Scheme κ π σ μ) (start : σ) (lo hi : Nat) (stored : Nat → Option μ) :
    Nat → Option μ :=
  fun i => if lo ≤ i ∧ i < hi then some (S.key start i) else stored i

variable (S : Scheme κ π σ μ)

/-- Reading position `n` of the chain of peer key `q` with message key `k`, having drawn
the own key `g`. -/
inductive Reads : Receiver κ π σ μ → κ → π → Nat → μ → Receiver κ π σ μ → Prop
  /-- A passed position, with its stored key. -/
  | passed {r : Receiver κ π σ μ} {g : κ} {n : Nat} {k : μ} (hn : n < r.next)
      (hk : r.stored n = some k) : Reads r g r.peer n k { r with drawn := g :: r.drawn }
  /-- A position ahead, storing the keys of those in between. -/
  | ahead {r : Receiver κ π σ μ} {g : κ} {n : Nat} (hn : r.next ≤ n) :
      Reads r g r.peer n (S.key r.start n)
        { r with
          next := n + 1
          stored := storeRange S r.start r.next n r.stored
          drawn := g :: r.drawn }
  /-- A position of the chain of another peer key; the drawn key becomes the own key. -/
  | turned {r : Receiver κ π σ μ} {g : κ} {q : π} {n : Nat} {s : σ} (hq : q ≠ r.peer)
      (hs : S.Derived r.own q s) :
      Reads r g q n (S.key s n)
        { own := g, peer := q, start := s, next := n + 1
          stored := storeRange S s 0 n fun _ => none
          drawn := g :: r.drawn }

/-- What else can happen to a receiver that has drawn the own key `g`. -/
inductive Disturbs : Receiver κ π σ μ → κ → Receiver κ π σ μ → Prop
  /-- A failed attempt may forget stored keys and leave keys it had stored ahead. -/
  | failed {r : Receiver κ π σ μ} {g : κ} {stored : Nat → Option μ}
      (h : ∀ i k, stored i = some k →
        r.stored i = some k ∨ r.next ≤ i ∧ k = S.key r.start i) :
      Disturbs r g { r with stored, drawn := g :: r.drawn }
  /-- The drawn key becomes the own key. -/
  | rekeyed {r : Receiver κ π σ μ} {g : κ} :
      Disturbs r g { r with own := g, drawn := g :: r.drawn }

/-! ### What every state satisfies -/

/-- Stored keys are those of the chain, and the chain comes from a key the receiver
has drawn, if from any. -/
structure Sound (r : Receiver κ π σ μ) : Prop where
  own : r.own ∈ r.drawn
  stored : ∀ {i k}, r.stored i = some k → k = S.key r.start i
  start : ∀ {a}, S.Derived a r.peer r.start → a ∈ r.drawn

variable {S} {r r' : Receiver κ π σ μ} {g : κ} {IsPeer : π → Prop}

theorem Sound.disturbs (h : Sound S r) (hstep : Disturbs S r g r') : Sound S r' := by
  cases hstep with
  | failed hstored =>
      refine ⟨List.mem_cons_of_mem _ h.own, fun hi => ?_,
        fun ha => List.mem_cons_of_mem _ (h.start ha)⟩
      rcases hstored _ _ hi with hold | ⟨-, hnew⟩
      · exact h.stored hold
      · exact hnew
  | rekeyed =>
      exact ⟨List.mem_cons_self, h.stored, fun ha => List.mem_cons_of_mem _ (h.start ha)⟩

/-- Every message key a sound receiver reads with is that of the chain it then reads. -/
theorem Sound.key_eq (h : Sound S r) {q : π} {n : Nat} {k : μ} (hread : Reads S r g q n k r') :
    k = S.key r'.start n := by
  cases hread with
  | passed hn hk => exact h.stored hk
  | ahead hn => rfl
  | turned hq hs => rfl

theorem Sound.reads (h : Sound S r) (hS : S.Disjoint IsPeer) {q : π} (hpeer : IsPeer q) {n : Nat}
    {k : μ} (hread : Reads S r g q n k r') : Sound S r' := by
  cases hread with
  | passed hn hk =>
      exact ⟨List.mem_cons_of_mem _ h.own, h.stored, fun ha => List.mem_cons_of_mem _ (h.start ha)⟩
  | ahead hn =>
      refine ⟨List.mem_cons_of_mem _ h.own, fun {i k} hi => ?_,
        fun ha => List.mem_cons_of_mem _ (h.start ha)⟩
      simp only [storeRange] at hi
      by_cases hrange : r.next ≤ i ∧ i < n
      · rw [if_pos hrange] at hi
        exact (Option.some.inj hi).symm
      · rw [if_neg hrange] at hi
        exact h.stored hi
  | turned hq hs =>
      refine ⟨List.mem_cons_self, fun {i k} hi => ?_, fun {a} ha => ?_⟩
      · simp only [storeRange] at hi
        split at hi
        · exact (Option.some.inj hi).symm
        · cases hi
      · rw [hS.own hpeer ha hs]
        exact List.mem_cons_of_mem _ h.own

theorem Reads.drawn {q : π} {n : Nat} {k : μ} (hread : Reads S r g q n k r') :
    r'.drawn = g :: r.drawn := by
  cases hread <;> rfl

theorem Disturbs.drawn (hstep : Disturbs S r g r') : r'.drawn = g :: r.drawn := by
  cases hstep <;> rfl

/-- `motive` survives whatever happens to a receiver that draws fresh keys. -/
structure Kept (S : Scheme κ π σ μ) (motive : Receiver κ π σ μ → Prop) : Prop where
  disturbs : ∀ {r r' g}, Sound S r → g ∉ r.drawn → Disturbs S r g r' → motive r → motive r'
  reads : ∀ {r r' g q n k}, Sound S r → g ∉ r.drawn → Reads S r g q n k r' → motive r → motive r'

/-! ### Spent positions -/

/-- Position `n` of the chain that starts at `s`, read under the peer key `q`, is spent:
it is behind the receiver and its key is not stored, or the receiver has turned away
from the chain and replaced the own key it was derived with. -/
inductive Spent (S : Scheme κ π σ μ) (q : π) (n : Nat) (s : σ) (r : Receiver κ π σ μ) : Prop
  | behind (hpeer : r.peer = q) (hstart : r.start = s) (hn : n < r.next)
      (hstored : r.stored n = none)
  | left (hown : ∀ {a}, S.Derived a q s → a ∈ r.drawn ∧ a ≠ r.own)
      (hstart : r.peer = q → r.start ≠ s)

/-- The message key of a spent position is not derived again. -/
theorem Spent.key_ne {q : π} {n : Nat} {s : σ} (h : Spent S q n s r) (hr : Sound S r)
    (hS : S.Disjoint IsPeer) {k : μ} (hread : Reads S r g q n k r') : k ≠ S.key s n := by
  intro hk
  have hsame : r'.start = s := hS.key ((hr.key_eq hread).symm.trans hk)
  cases h with
  | behind hpeer hstart hn hstored =>
      cases hread with
      | passed _ hfound =>
          rw [hstored] at hfound
          cases hfound
      | ahead hahead => exact absurd hn (Nat.not_lt.mpr hahead)
      | turned hq _ => exact hq hpeer.symm
  | left hown hstart =>
      cases hread with
      | passed _ _ => exact hstart rfl hsame
      | ahead _ => exact hstart rfl hsame
      | turned _ hs =>
          -- the chain it would turn to is derived from the own key the receiver holds now
          have hderived : S.Derived r.own q s := by
            rw [← hsame]
            exact hs
          exact (hown hderived).2 rfl

/-- A position stays spent when the drawn key is a fresh one. -/
theorem Spent.disturbs {q : π} {n : Nat} {s : σ} (h : Spent S q n s r) (hg : g ∉ r.drawn)
    (hstep : Disturbs S r g r') : Spent S q n s r' := by
  cases hstep with
  | @failed stored hstored =>
      cases h with
      | behind hpeer hstart hn hnone =>
          refine .behind hpeer hstart hn ?_
          show stored n = none
          cases hfound : stored n with
          | none => rfl
          | some k =>
              rcases hstored n k hfound with hold | ⟨hahead, -⟩
              · rw [hnone] at hold
                cases hold
              · exact absurd hn (Nat.not_lt.mpr hahead)
      | left hown hstart =>
          exact .left (fun ha => ⟨List.mem_cons_of_mem _ (hown ha).1, (hown ha).2⟩) hstart
  | rekeyed =>
      cases h with
      | behind hpeer hstart hn hnone => exact .behind hpeer hstart hn hnone
      | left hown hstart =>
          refine .left (fun ha => ⟨List.mem_cons_of_mem _ (hown ha).1, ?_⟩) hstart
          rintro rfl
          exact hg (hown ha).1

theorem Spent.reads {q : π} {n : Nat} {s : σ} (h : Spent S q n s r) (hr : Sound S r)
    (hg : g ∉ r.drawn) {q' : π} {m : Nat} {k : μ} (hread : Reads S r g q' m k r') : Spent S q n s r' := by
  cases hread with
  | passed _ _ =>
      cases h with
      | behind hpeer hstart hn hnone => exact .behind hpeer hstart hn hnone
      | left hown hstart =>
          exact .left (fun ha => ⟨List.mem_cons_of_mem _ (hown ha).1, (hown ha).2⟩) hstart
  | ahead hm =>
      cases h with
      | behind hq hstart hn hnone =>
          refine .behind hq hstart (by show n < m + 1; omega) ?_
          simp only [storeRange]
          rw [if_neg (by omega)]
          exact hnone
      | left hown hstart =>
          exact .left (fun ha => ⟨List.mem_cons_of_mem _ (hown ha).1, (hown ha).2⟩) hstart
  | turned hne hs =>
      have hown : ∀ {a}, S.Derived a q s → a ∈ r.drawn := by
        intro a ha
        cases h with
        | behind hq hstart _ _ => exact hr.start (by rw [hq, hstart]; exact ha)
        | left hown _ => exact (hown ha).1
      refine .left (fun {a} ha => ⟨List.mem_cons_of_mem _ (hown ha), ?_⟩) ?_
      · rintro rfl
        exact hg (hown ha)
      · rintro rfl rfl
        cases h with
        | behind hq _ _ _ => exact hne hq.symm
        | left hown' _ => exact (hown' hs).2 rfl

/-- A spent position stays spent. -/
theorem Spent.kept (q : π) (n : Nat) (s : σ) : Kept S (Spent S q n s) where
  disturbs _ hg hstep h := h.disturbs hg hstep
  reads hr hg hread h := h.reads hr hg hread

/-- **Reading spends**: after a read whose key was not stored, its position is spent. -/
theorem Reads.spent {q : π} {n : Nat} {k : μ} (hread : Reads S r g q n k r')
    (hstored : r.peer = q → r.stored n = none) : Spent S q n r'.start r' := by
  cases hread with
  | passed _ hk =>
      rw [hstored rfl] at hk
      cases hk
  | ahead hn =>
      refine .behind rfl rfl (Nat.lt_succ_self n) ?_
      simp only [storeRange]
      rw [if_neg (by omega)]
      exact hstored rfl
  | turned _ _ =>
      refine .behind rfl rfl (Nat.lt_succ_self n) ?_
      simp only [storeRange]
      rw [if_neg (by omega)]

/-- After a read whose key was stored, the key is still there and its position behind. -/
theorem Reads.again {q : π} {n : Nat} {k k' : μ} (hr : Sound S r) (hread : Reads S r g q n k r')
    (hpeer : r.peer = q) (hstored : r.stored n = some k') :
    r'.peer = q ∧ n < r'.next ∧ r'.stored n = some k := by
  cases hread with
  | passed hn hk => exact ⟨rfl, hn, hk⟩
  | ahead hn =>
      refine ⟨rfl, Nat.lt_succ_self n, ?_⟩
      simp only [storeRange]
      rw [if_neg (by omega), hstored, hr.stored hstored]
  | turned hq _ => exact absurd hpeer.symm hq

end Receiver
end Lib
