import Mathlib.Data.Multiset.Filter
import Yakr.Lib.Machine
import Yakr.Relay.BlobStore

/-!
# Yakr.Relay.Mailbox

**What the blob store is for.** A client of a relay may rely on a mailbox that never forgets
a blob it accepted and shows the unexpired ones under a tag. The store, which counts live
rows, keeps dead ones until a sweep and filters when it reads, refines that mailbox: at any
time from now on the two have the same unexpired blobs.
-/

namespace Yakr

open Lib Effect Machine

namespace Mailbox

/-- The blobs that have not expired. -/
def live (now : Int) (held : Multiset StoredBlob) : Multiset StoredBlob :=
  held.filter fun b => now < b.expiresAt

/-- The blobs under a tag. -/
def under (mailboxTag : Bytes) (held : Multiset StoredBlob) : Multiset StoredBlob :=
  held.filter fun b => b.mailboxTag = mailboxTag

/-- What a blob has to meet to be stored. -/
structure Admits (maxBlobSize maxBlobsPerTag : Nat) (held : Multiset StoredBlob)
    (blob : StoredBlob) : Prop where
  tag : blob.mailboxTag.length = 32
  size : blob.ciphertext.length ≤ maxBlobSize
  fresh : blob.storedAt < blob.expiresAt
  ttl : blob.expiresAt ≤ blob.storedAt + 24 * 60 * 60 * 1000
  room : (under blob.mailboxTag (live blob.storedAt held)).card < maxBlobsPerTag

/-- The mailbox. Its state is every blob it has ever accepted: a store adds the blob, at the
time of the call, or changes nothing, a fetch and a sweep change nothing. -/
inductive Step (maxBlobSize maxBlobsPerTag : Nat) (held : Multiset StoredBlob) :
    Int × BlobCall → BlobAnswer → Multiset StoredBlob → Prop
  | stored {b : StoredBlob} :
      Admits maxBlobSize maxBlobsPerTag held b →
      Step maxBlobSize maxBlobsPerTag held
        (b.storedAt, .store b.mailboxTag b.expiresAt b.ciphertext b.consumeToken) .stored
        (b ::ₘ held)
  | refused {b : StoredBlob} {e : PyExc} :
      ¬ Admits maxBlobSize maxBlobsPerTag held b →
      Step maxBlobSize maxBlobsPerTag held
        (b.storedAt, .store b.mailboxTag b.expiresAt b.ciphertext b.consumeToken) (.refused e)
        held
  | fetched {now : Int} {mailboxTag : Bytes} {blobs : List StoredBlob} :
      blobs.Pairwise (fun a b => a.storedAt ≤ b.storedAt) →
      (blobs : Multiset StoredBlob) = under mailboxTag (live now held) →
      Step maxBlobSize maxBlobsPerTag held (now, .fetch mailboxTag) (.fetched blobs) held
  | swept {now : Int} {count : Nat} :
      Step maxBlobSize maxBlobsPerTag held (now, .sweepExpired) (.swept count) held

section Live

variable {now now' : Int} {tag : Bytes} {b : StoredBlob} {held : Multiset StoredBlob}

theorem live_cons :
    live now (b ::ₘ held) = if now < b.expiresAt then b ::ₘ live now held else live now held := by
  rw [live, Multiset.filter_cons]
  split
  · rw [Multiset.singleton_add]
    rfl
  · rw [Multiset.zero_add]
    rfl

theorem under_cons :
    under tag (b ::ₘ held)
      = if b.mailboxTag = tag then b ::ₘ under tag held else under tag held := by
  rw [under, Multiset.filter_cons]
  split
  · rw [Multiset.singleton_add]
    rfl
  · rw [Multiset.zero_add]
    rfl

/-- Blobs expire, they do not come back. -/
theorem live_le (h : now ≤ now') : live now' held ≤ live now held :=
  Multiset.monotone_filter_right held fun _ hb => Int.lt_of_le_of_lt h hb

theorem under_mono {held' : Multiset StoredBlob} (h : held ≤ held') :
    under tag held ≤ under tag held' := Multiset.filter_le_filter _ h

end Live

/-- The bound on a tag, at a time and from then on. -/
theorem card_under_live_cons {size perTag : Nat} {held : Multiset StoredBlob} {b : StoredBlob}
    {now : Int} {tag : Bytes} (hadmits : Admits size perTag held b) (hnow : b.storedAt ≤ now)
    (hheld : (under tag (live now held)).card ≤ perTag) :
    (under tag (live now (b ::ₘ held))).card ≤ perTag := by
  rw [live_cons]
  split
  · rw [under_cons]
    split
    · rename_i htag
      subst htag
      have hle : (under b.mailboxTag (live now held)).card
          ≤ (under b.mailboxTag (live b.storedAt held)).card :=
        Multiset.card_le_card (under_mono (live_le hnow))
      have hroom := hadmits.room
      rw [Multiset.card_cons]
      omega
    · exact hheld
  · exact hheld

end Mailbox

namespace BlobStore

open Mailbox

/-! ### The calls of the store -/

theorem coe_unexpired (tag : Bytes) (now : Int) (blobs : List StoredBlob) :
    (unexpired tag now blobs : Multiset StoredBlob) = under tag (live now blobs) := by
  rw [under, live, Multiset.filter_filter, Multiset.filter_coe]
  rfl

theorem store_admitted {s : BlobStore} {b : StoredBlob}
    (h : Admits s.maxBlobSize s.maxBlobsPerTag s.blobs b) :
    (store b.mailboxTag b.expiresAt b.ciphertext b.consumeToken b.storedAt).run s
      = .ok () { s with blobs := s.blobs ++ [b] } := by
  have hcount : (unexpired b.mailboxTag b.storedAt s.blobs).length < s.maxBlobsPerTag := by
    rw [← Multiset.coe_card, coe_unexpired]
    exact h.room
  have htag : ¬ b.mailboxTag.length ≠ 32 := not_not.mpr h.tag
  have hsize : ¬ b.ciphertext.length > s.maxBlobSize := Nat.not_lt.mpr h.size
  have hfresh : ¬ b.expiresAt ≤ b.storedAt := Int.not_le.mpr h.fresh
  have httl : ¬ b.expiresAt > b.storedAt + maxRelayBlobTtlMs := Int.not_lt.mpr h.ttl
  simp only [store, EStateM.run_bind, EStateM.run_get, if_neg htag, if_neg hsize, if_neg hfresh,
    if_neg httl, if_neg (Nat.not_le.mpr hcount), EStateM.run_modify]

/-- A call that is refused leaves the store as it was. -/
theorem store_refused {s : BlobStore} {b : StoredBlob}
    (h : ¬ Admits s.maxBlobSize s.maxBlobsPerTag s.blobs b) :
    ∃ e, (store b.mailboxTag b.expiresAt b.ciphertext b.consumeToken b.storedAt).run s
      = .error e s := by
  simp only [store, EStateM.run_bind, EStateM.run_get]
  by_cases htag : b.mailboxTag.length ≠ 32
  · exact ⟨_, by simp only [if_pos htag]; rfl⟩
  by_cases hsize : b.ciphertext.length > s.maxBlobSize
  · exact ⟨_, by simp only [if_neg htag, if_pos hsize]; rfl⟩
  by_cases hfresh : b.expiresAt ≤ b.storedAt
  · exact ⟨_, by simp only [if_neg htag, if_neg hsize, if_pos hfresh]; rfl⟩
  by_cases httl : b.expiresAt > b.storedAt + maxRelayBlobTtlMs
  · exact ⟨_, by simp only [if_neg htag, if_neg hsize, if_neg hfresh, if_pos httl]; rfl⟩
  by_cases hcount : (unexpired b.mailboxTag b.storedAt s.blobs).length ≥ s.maxBlobsPerTag
  · refine ⟨.valueError "mailbox tag blob limit exceeded", ?_⟩
    simp only [if_neg htag, if_neg hsize, if_neg hfresh, if_neg httl, if_pos hcount]
    rfl
  · refine absurd ⟨not_not.mp htag, Nat.not_lt.mp hsize, Int.not_le.mp hfresh,
      Int.not_lt.mp httl, ?_⟩ h
    rw [← coe_unexpired, Multiset.coe_card]
    exact Nat.not_le.mp hcount

theorem coe_fetch (s : BlobStore) (tag : Bytes) (now : Int) :
    (s.fetch tag now : Multiset StoredBlob) = under tag (live now s.blobs) := by
  rw [← coe_unexpired]
  exact Multiset.coe_eq_coe.mpr (orderBy_perm _ _)

/-- A sweep takes only what no later call shows. -/
theorem live_swept {blobs : List StoredBlob} {now now' : Int} (h : now ≤ now') :
    live now' (blobs.filter fun b => ¬ b.expiresAt ≤ now : List StoredBlob)
      = live now' (blobs : Multiset StoredBlob) := by
  rw [live, live, ← Multiset.filter_coe, Multiset.filter_filter]
  refine Multiset.filter_congr fun b _ => and_iff_left_of_imp fun hb => ?_
  simpa using Int.lt_of_le_of_lt h hb

/-! ### The refinement -/

/-- The store and the mailbox after the calls: at any time from then on they have the same
unexpired blobs, and no tag has too many. -/
structure Agrees (size perTag : Nat) (calls : List (Int × BlobCall)) (s : BlobStore)
    (held : Multiset StoredBlob) : Prop where
  size_eq : s.maxBlobSize = size
  perTag_eq : s.maxBlobsPerTag = perTag
  live_eq : ∀ now, Before calls now → live now s.blobs = live now held
  bound : ∀ now, Before calls now → ∀ tag, (under tag (live now held)).card ≤ perTag

section

variable {size perTag : Nat} {calls : List (Int × BlobCall)} {s : BlobStore}
  {held : Multiset StoredBlob}

theorem Agrees.admits_iff (h : Agrees size perTag calls s held) {b : StoredBlob}
    (hnow : Before calls b.storedAt) :
    Admits s.maxBlobSize s.maxBlobsPerTag s.blobs b ↔ Admits size perTag held b := by
  have hroom : (under b.mailboxTag (live b.storedAt s.blobs)).card < perTag
      ↔ (under b.mailboxTag (live b.storedAt held)).card < perTag := by
    rw [h.live_eq _ hnow]
  rw [h.size_eq, h.perTag_eq]
  constructor
  · rintro ⟨htag, hsize, hfresh, httl, hcount⟩
    exact ⟨htag, hsize, hfresh, httl, hroom.mp hcount⟩
  · rintro ⟨htag, hsize, hfresh, httl, hcount⟩
    exact ⟨htag, hsize, hfresh, httl, hroom.mpr hcount⟩

/-- The calls go on, the blobs stay. -/
theorem Agrees.later (h : Agrees size perTag calls s held) (call : Int × BlobCall) :
    Agrees size perTag (calls ++ [call]) s held :=
  ⟨h.size_eq, h.perTag_eq, fun now hnow => h.live_eq now (before_concat.mp hnow).1,
    fun now hnow => h.bound now (before_concat.mp hnow).1⟩

theorem Agrees.stored (h : Agrees size perTag calls s held) {b : StoredBlob} {call : BlobCall}
    (hadmits : Admits size perTag held b) :
    Agrees size perTag (calls ++ [(b.storedAt, call)]) { s with blobs := s.blobs ++ [b] }
      (b ::ₘ held) := by
  refine ⟨h.size_eq, h.perTag_eq, fun now hnow => ?_, fun now hnow tag => ?_⟩
  · obtain ⟨hbefore, -⟩ := before_concat.mp hnow
    have hcons : ((s.blobs ++ [b] : List StoredBlob) : Multiset StoredBlob) = b ::ₘ s.blobs := by
      rw [Multiset.cons_coe, Multiset.coe_eq_coe]
      exact List.perm_append_singleton b s.blobs
    rw [hcons, live_cons, live_cons, h.live_eq now hbefore]
  · obtain ⟨hbefore, hle⟩ := before_concat.mp hnow
    exact card_under_live_cons hadmits hle (h.bound now hbefore tag)

theorem Agrees.swept (h : Agrees size perTag calls s held) {now : Int} {call : BlobCall} :
    Agrees size perTag (calls ++ [(now, call)])
      { s with blobs := s.blobs.filter fun b => ¬ b.expiresAt ≤ now } held := by
  refine ⟨h.size_eq, h.perTag_eq, fun now' hnow => ?_, (h.later (now, call)).bound⟩
  obtain ⟨hbefore, hle⟩ := before_concat.mp hnow
  rw [live_swept hle]
  exact h.live_eq now' hbefore

/-- One call. -/
theorem Agrees.step (h : Agrees size perTag calls s held) (call : Int × BlobCall)
    (hnow : Before calls call.1) :
    ∃ held', Mailbox.Step size perTag held call (s.step call).1 held'
      ∧ Agrees size perTag (calls ++ [call]) (s.step call).2 held' := by
  obtain ⟨now, call⟩ := call
  cases call with
  | store tag expiresAt ciphertext token =>
      let b : StoredBlob :=
        { mailboxTag := tag, expiresAt, ciphertext, storedAt := now, consumeToken := token }
      by_cases hadmits : Admits size perTag held b
      · have hrun := store_admitted ((h.admits_iff hnow).mpr hadmits)
        rw [BlobStore.step, hrun]
        exact ⟨_, .stored hadmits, h.stored hadmits⟩
      · obtain ⟨e, hrun⟩ := store_refused fun hs => hadmits ((h.admits_iff hnow).mp hs)
        rw [BlobStore.step, hrun]
        exact ⟨_, .refused hadmits, h.later _⟩
  | fetch tag =>
      refine ⟨held, .fetched (pairwise_orderBy _ _) ?_, h.later _⟩
      rw [coe_fetch, h.live_eq now hnow]
  | sweepExpired => exact ⟨held, .swept, h.swept⟩

/-- What is refused changes nothing. -/
theorem state_eq_of_refused {call : Int × BlobCall} {e : PyExc} {s' : BlobStore}
    (h : s.step call = (.refused e, s')) : s' = s := by
  obtain ⟨now, call⟩ := call
  cases call with
  | store tag expiresAt ciphertext token =>
      let b : StoredBlob :=
        { mailboxTag := tag, expiresAt, ciphertext, storedAt := now, consumeToken := token }
      by_cases hadmits : Admits s.maxBlobSize s.maxBlobsPerTag s.blobs b
      · rw [BlobStore.step, store_admitted hadmits] at h
        cases h
      · obtain ⟨e', hrun⟩ := store_refused hadmits
        rw [BlobStore.step, hrun] at h
        cases h
        rfl
  | fetch tag => cases h
  | sweepExpired => cases h

end

/-- The log of a new store. -/
def log (size perTag : Nat) (calls : List (Int × BlobCall)) :
    Log BlobStore (Int × BlobCall) BlobAnswer :=
  run BlobStore.step { maxBlobSize := size, maxBlobsPerTag := perTag } calls

/-- **The relay mailbox.** Calls at nondecreasing times are answered as the mailbox answers
them, a call that is refused leaves the store as it was, and no tag holds more unexpired blobs
than allowed. -/
theorem refines_mailbox (size perTag : Nat) (calls : List (Int × BlobCall)) (h : Timed calls) :
    (∃ held, Trace (Mailbox.Step size perTag) 0 (log size perTag calls).events held)
      ∧ (∀ call e s', (log size perTag calls).state.step call = (.refused e, s') →
          s' = (log size perTag calls).state)
      ∧ ∀ now, Before calls now → ∀ tag,
          (unexpired tag now (log size perTag calls).state.blobs).length ≤ perTag := by
  have hstart : Agrees size perTag [] { maxBlobSize := size, maxBlobsPerTag := perTag } 0 :=
    ⟨rfl, rfl, fun _ _ => rfl, fun _ _ _ => Nat.zero_le _⟩
  obtain ⟨held, htrace, hagrees⟩ : ∃ held,
      Trace (Mailbox.Step size perTag) 0 (log size perTag calls).events held
        ∧ Agrees size perTag calls (log size perTag calls).state held :=
    trace_of_simulation
      (fun _ _ hgood => (timed_concat.mp hgood).1) hstart
      (fun _ call _ _ hgood hrelated => hrelated.step call (timed_concat.mp hgood).2) h
  refine ⟨⟨held, htrace⟩, fun call e s' hcall => ?_, fun now hnow tag => ?_⟩
  · exact state_eq_of_refused hcall
  · rw [← Multiset.coe_card, coe_unexpired, hagrees.live_eq now hnow]
    exact hagrees.bound now hnow tag

/-! ### One blob at a time -/

namespace Sample

def tag : Bytes := List.replicate 32 7

/-- Calls of a store that keeps one blob for a tag: the second blob comes while the first is
live, the third when it has expired and is not swept yet. -/
def calls : List (Int × BlobCall) :=
  [(0, .store tag 10 [1] none), (5, .store tag 20 [2] none), (10, .store tag 20 [3] none),
    (12, .fetch tag), (15, .sweepExpired), (19, .fetch tag), (20, .fetch tag)]

/-- The third blob as it is kept. -/
def third : StoredBlob :=
  { mailboxTag := tag, expiresAt := 20, ciphertext := [3], storedAt := 10 }

end Sample

/-- The second blob is refused, the third is stored and shown until it expires. -/
theorem refines_mailbox_one :
    (log 4 1 Sample.calls).events.map Prod.snd
        = [.stored, .refused (.valueError "mailbox tag blob limit exceeded"), .stored,
          .fetched [Sample.third], .swept 1, .fetched [Sample.third], .fetched []]
      ∧ (∃ held, Trace (Mailbox.Step 4 1) 0 (log 4 1 Sample.calls).events held)
      ∧ (∀ call e s', (log 4 1 Sample.calls).state.step call = (.refused e, s') →
          s' = (log 4 1 Sample.calls).state)
      ∧ ∀ now, Before Sample.calls now → ∀ tag,
          (unexpired tag now (log 4 1 Sample.calls).state.blobs).length ≤ 1 :=
  ⟨by decide +kernel, refines_mailbox 4 1 Sample.calls (by decide)⟩

end BlobStore
end Yakr
