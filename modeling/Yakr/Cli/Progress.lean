import Yakr.Cli.FetchSteps

/-!
# Yakr.Cli.Progress

**The recorded number never falls.** A fetch works on a contact object that it loaded, and writes
the object back at several points; receipts load and write the same row in between. The last
received number of the row is never above that of the object, and no step of a fetch lowers
either (`onward_handleItem`).
-/

namespace Yakr

open Lib Effect Worklist

variable {P : Packages}

/-! ### The recorded number -/

/-- The last received number of a contact's row. -/
def recordedSeq (store : FileLocalStore) (name : String) : Option Int :=
  (Table.find ContactDict.name name store.contacts).map ContactDict.lastRecvSeq

/-- The row of the contact records the number `n` or a later one. -/
def Records (name : String) (n : Int) (w : World) : Prop :=
  ∃ m, recordedSeq w.store name = some m ∧ n ≤ m

/-- The fetch works on the contact `name`, and its object is not behind the row. -/
structure NotBehind (name : String) (f : Fetching) : Prop where
  contact : f.contact.name = name
  seq : ∃ n, recordedSeq f.world.store name = some n ∧ n ≤ f.contact.lastRecvSeq

/-- A step of a fetch on the contact `name`. -/
def Onward (name : String) (f f' : Fetching) : Prop :=
  NotBehind name f → NotBehind name f' ∧ ∀ n, Records name n f.world → Records name n f'.world

namespace Onward

variable {name : String} {f f' f'' : Fetching}

theorem refl (f : Fetching) : Onward name f f := fun h => ⟨h, fun _ hn => hn⟩

theorem trans (h : Onward name f f') (h' : Onward name f' f'') : Onward name f f'' := by
  intro hnot
  obtain ⟨hnot', hrecords⟩ := h hnot
  obtain ⟨hnot'', hrecords'⟩ := h' hnot'
  exact ⟨hnot'', fun n hn => hrecords' n (hrecords n hn)⟩

theorem of_steps (h : Relation.ReflTransGen (Onward name) f f') : Onward name f f' := by
  induction h with
  | refl => exact refl f
  | tail _ hstep ih => exact ih.trans hstep

/-- A step that leaves the contacts of the store alone and does not take the object back. -/
theorem of_same (hname : f'.contact.name = f.contact.name)
    (hseq : f.contact.lastRecvSeq ≤ f'.contact.lastRecvSeq)
    (hrow : recordedSeq f'.world.store f.contact.name = recordedSeq f.world.store f.contact.name) :
    Onward name f f' := by
  intro hnot
  obtain ⟨n, hn, hle⟩ := hnot.seq
  have hrow' : recordedSeq f'.world.store name = recordedSeq f.world.store name := by
    rw [← hnot.contact]
    exact hrow
  refine ⟨⟨hname.trans hnot.contact, n, hrow'.trans hn, Int.le_trans hle hseq⟩, fun m hm => ?_⟩
  obtain ⟨k, hk, hmk⟩ := hm
  exact ⟨k, hrow'.trans hk, hmk⟩

/-- A message is accepted under the next number. -/
theorem opening (ratchet : RatchetState) {inner : InnerMessage}
    (hseq : inner.seq = f.contact.lastRecvSeq + 1) : Onward name f (f.opening ratchet inner) := by
  refine .of_same rfl ?_ rfl
  show f.contact.lastRecvSeq ≤ inner.seq
  omega

/-- A step that writes the object to its row. -/
theorem of_saved (hcontact : f'.contact = f.contact)
    (hrows : f'.world.store.contacts = (f.world.store.saveContact P f.contact).contacts) :
    Onward name f f' := by
  intro hnot
  have hrow : recordedSeq f'.world.store name = some f.contact.lastRecvSeq := by
    rw [recordedSeq, hrows, ← hnot.contact]
    have hfind : Table.find ContactDict.name f.contact.name
        (f.world.store.saveContact P f.contact).contacts = some (f.contact.toDict P) :=
      Table.find_upsert_self (r := f.contact.toDict P)
    rw [hfind]
    rfl
  obtain ⟨n, hn, hle⟩ := hnot.seq
  refine ⟨⟨by rw [hcontact]; exact hnot.contact, _, hrow, by rw [hcontact]⟩, fun m hm => ?_⟩
  obtain ⟨k, hk, hmk⟩ := hm
  have hsame : k = n := Option.some.inj (hk.symm.trans hn)
  exact ⟨_, hrow, Int.le_trans hmk (hsame ▸ hle)⟩

end Onward

/-! ### Senders -/

/-- A way of sending receipts that leaves the recorded numbers alone. -/
def KeepsRecords (send : Sender) : Prop :=
  ∀ contactName deliveredId route w name,
    recordedSeq (after ((send contactName deliveredId route).run w)).store name
      = recordedSeq w.store name

theorem keepsRecords_sendDeliveryReceipt (outside : Outside) (identity : Identity) :
    KeepsRecords (sendDeliveryReceipt P outside identity) := by
  intro contactName deliveredId route w name
  rcases sendDeliveryReceipt_cases (P := P) outside identity contactName deliveredId route w with
    ⟨e, hrun⟩ | ⟨c, hcontact, hsent⟩
  · rw [hrun]
    rfl
  · by_cases hname : name = c.name
    · subst hname
      obtain ⟨c', -, hseq, -, hown⟩ := hsent.own
      -- the contact was loaded from the row that is written
      have hrow : recordedSeq w.store c.name = some c.lastRecvSeq := by
        obtain ⟨d, hfind, hload, hname⟩ := getContact_ok hcontact
        rw [recordedSeq, hname, hfind]
        exact congrArg some (Contact.fromDict_ok hload).2.2.1.symm
      rw [recordedSeq, hown, hrow]
      exact congrArg some hseq
    · rw [recordedSeq, hsent.others name hname]
      rfl

/-! ### Steps of a fetch -/

section Steps

variable {name : String} {send : Sender} {polls : Polls} {identity : Identity}
  {contactName : String} {route : Option String} {quiet : Bool} {f f' : Fetching}

/-- **Nothing that a fetch does lowers the recorded number.** -/
theorem FetchStep.onward (hsend : KeepsRecords send)
    (hstep : FetchStep P send polls identity contactName f f') : Onward name f f' := by
  cases hstep with
  | refused ratchet => exact .of_same rfl (Int.le_refl _) rfl
  | accepted ratchet hseq => exact .opening ratchet hseq
  | text ratchet hseq attempt deliveredId =>
      refine (Onward.opening ratchet hseq).trans ?_
      exact .of_saved (P := P) rfl FileLocalStore.received_contacts
  | receipt ratchet hseq htype hid =>
      exact (Onward.opening ratchet hseq).trans (.of_same rfl (Int.le_refl _) rfl)
  | acknowledged id =>
      unfold Fetching.acknowledged
      cases f.world.store.findProfileAckPending contactName id with
      | none => exact .refl f
      | some pending =>
          obtain ⟨version, names, hacked⟩ :=
            applyPeerProfileAckPending_eq f.contact pending.1 pending.2
          dsimp only
          rw [hacked]
          exact .of_same rfl (Int.le_refl _) rfl
  | profile tag round item hread hupdate => exact .of_same rfl (Int.le_refl _) rfl
  | presence hsave =>
      refine .of_same rfl (Int.le_refl _) ?_
      rw [recordedSeq, recordedSeq, savePresence_contacts hsave]
  | saved => exact .of_saved (P := P) rfl rfl
  | counted fetched => exact .of_same rfl (Int.le_refl _) rfl
  | sent deliveredId route' => exact .of_same rfl (Int.le_refl _) (hsend _ _ _ _ _)
  | refreshed hload => exact .of_same rfl (Int.le_refl _) rfl

/-- **No attempt lowers the recorded number**, whether it returns or raises. -/
theorem onward_handleItem (hsend : KeepsRecords send) (tag round : Nat) (item : Json) :
    Steps (Onward name)
      (handleItem P send polls identity contactName route quiet tag round item) :=
  (steps_handleItem tag round item).mono fun _ _ hstep => hstep.onward hsend

end Steps

/-! ### The attempts of a fetch -/

section Fetch

variable {send : Sender} {env : Settings} {polls : Polls} {identity : Identity}
  {contactName : String} {route : Option String} {wide quiet : Bool} {w w' : World}

/-- The queued receipts that go out before the poll leave the recorded numbers alone. -/
theorem steps_openFetch (hsend : KeepsRecords send) (contact : Contact) (name : String) :
    Steps (fun w w' => recordedSeq w'.store name = recordedSeq w.store name)
      (openFetch P send env polls identity contactName route wide quiet contact) := by
  have hflush : ∀ queue, Steps (fun w w' : World =>
      recordedSeq w'.store name = recordedSeq w.store name) (flushReceipts send route queue) := by
    intro queue
    induction queue with
    | nil => exact .pure 0
    | cons pending rest ih =>
        refine Steps.bind (fun w => .single (hsend _ _ _ w name)) fun sent => ?_
        exact ih.bind fun _ => .pure _
  unfold openFetch
  refine (Steps.orRaise _).bind fun _ => Steps.get.bind fun w => (hflush _).bind fun flushed => ?_
  exact steps_before (.orRaise _) (Steps.get.bind fun _ => .orRaise _)

theorem openFetch_notBehind {contact : Contact} {plan : Plan} (hsend : KeepsRecords send)
    (hcontact : w.store.getContact P contactName = .ok (some contact))
    (hopen : (openFetch P send env polls identity contactName route wide quiet contact).run w
      = .ok plan w') : NotBehind contactName { world := w', contact } := by
  obtain ⟨d, hfind, hload, hname⟩ := getContact_ok hcontact
  have hrow : recordedSeq w'.store contactName = recordedSeq w.store contactName := by
    have hsteps : Steps _
        (openFetch P send env polls identity contactName route wide quiet contact) :=
      steps_openFetch hsend contact contactName
    have hflushed := hsteps w
    rw [hopen] at hflushed
    exact eq_of_steps (f := fun w : World => recordedSeq w.store contactName) hflushed
  refine ⟨hname, contact.lastRecvSeq, ?_, Int.le_refl _⟩
  rw [hrow, recordedSeq, hfind]
  exact congrArg some (Contact.fromDict_ok hload).2.2.1.symm

/-- At every attempt of a fetch the contact object is not behind its row. -/
theorem FetchTries.notBehind {tag round : Nat} {item : Json} {rest : List Json} {f : Fetching}
    (hsend : KeepsRecords send)
    (h : FetchTries P send env polls identity contactName route wide quiet w tag round item rest
      f) : NotBehind contactName f := by
  refine h.invariant (fun tag round mailboxTag item f verdict f' _ hf hrun => ?_)
    fun contact plan w' hcontact hopen => openFetch_notBehind hsend hcontact hopen
  have hsteps : Steps (Onward contactName)
      (handleItem P send polls identity contactName route quiet tag round item) :=
    onward_handleItem hsend tag round item
  have hitem := hsteps f
  rw [hrun] at hitem
  exact (Onward.of_steps hitem hf).1

/-- What is recorded after an attempt, or later, stays recorded to the end of the fetch. -/
theorem FetchTries.records {tag round : Nat} {item : Json} {rest : List Json} {f : Fetching}
    {n : Int} (hsend : KeepsRecords send)
    (h : FetchTries P send env polls identity contactName route wide quiet w tag round item rest f)
    (hn : Records contactName n (after ((handleItem P send polls identity contactName route quiet
      tag round item).run f)).world) :
    Records contactName n
      (after ((fetchWith P send env polls identity contactName route wide quiet).run w)) := by
  have hitems : ∀ tag round item, Steps (Onward contactName)
      (handleItem P send polls identity contactName route quiet tag round item) :=
    onward_handleItem hsend
  obtain ⟨f', hsteps, hworld⟩ := h.steps hitems
  have hnot := (Onward.of_steps (hitems tag round item f) (h.notBehind hsend)).1
  rw [hworld]
  exact (Onward.of_steps hsteps hnot).2 n hn

end Fetch

end Yakr
