import Yakr.Cli.Resends

/-!
# Yakr.Cli.Isolation

**A contact's rows are its own.** Five tables have rows of contacts, and the commands write them
through objects that were loaded under a name, with names that were passed on beside them, and with
names of queued rows. Whatever the peers and the servers send, commands that work on other contacts
leave every row of a contact as it was (`contacts_isolated`).
-/

namespace Yakr

open Lib Effect

variable {P : Packages}

/-! ### The rows of a contact -/

/-- The rows of one contact, table by table. -/
structure ContactRows where
  contacts : List ContactDict
  outboundPending : List OutboundPending
  inboundMessages : List InboundMessage
  pendingReceipts : List PendingReceipt
  profileAckPending : List ProfileAckPending

namespace FileLocalStore

def rowsOf (name : String) (store : FileLocalStore) : ContactRows where
  contacts := store.contacts.filter fun r => r.name = name
  outboundPending := store.outboundPending.filter fun r => r.key.1 = name
  inboundMessages := store.inboundMessages.filter fun r => r.key.1 = name
  pendingReceipts := store.pendingReceipts.filter fun r => r.key.1 = name
  profileAckPending := store.profileAckPending.filter fun r => r.key.1 = name

section Writes

variable {name : String} {store : FileLocalStore}

@[simp] theorem rowsOf_saveContact {c : Contact} (h : c.name ≠ name) :
    (store.saveContact P c).rowsOf name = store.rowsOf name := by
  simp only [rowsOf, saveContact, ContactRows.mk.injEq, and_true]
  exact Table.filter_part_upsert id h

@[simp] theorem rowsOf_atomicCommitSend {c : Contact} (h : c.name ≠ name) (msgId : String)
    (seq : Int) (body : String) (outer : OuterBlob) (now : Int) :
    (store.atomicCommitSend P c msgId seq body outer now).rowsOf name = store.rowsOf name := by
  simp only [rowsOf, atomicCommitSend, saveContact, ContactRows.mk.injEq, and_true]
  refine ⟨Table.filter_part_upsert id h, Table.filter_part_upsert Prod.fst ?_⟩
  exact h

@[simp] theorem rowsOf_markOutboundDelivered {contactName : String} (h : contactName ≠ name)
    (msgId : String) :
    (store.markOutboundDelivered contactName msgId).rowsOf name = store.rowsOf name := by
  simp only [rowsOf, markOutboundDelivered, ContactRows.mk.injEq, and_true, true_and]
  refine Table.filter_part_delete Prod.fst ?_
  exact h

@[simp] theorem rowsOf_deletePendingReceipt {contactName : String} (h : contactName ≠ name)
    (deliveredId : String) :
    (store.deletePendingReceipt contactName deliveredId).rowsOf name = store.rowsOf name := by
  simp only [rowsOf, deletePendingReceipt, ContactRows.mk.injEq, and_true, true_and]
  refine Table.filter_part_delete Prod.fst ?_
  exact h

@[simp] theorem rowsOf_savePendingReceipt {contactName : String} (h : contactName ≠ name)
    (deliveredId : String) (route : Option String) (now : Int) :
    (store.savePendingReceipt contactName deliveredId route now).rowsOf name
      = store.rowsOf name := by
  simp only [rowsOf, savePendingReceipt, ContactRows.mk.injEq, and_true, true_and]
  refine Table.filter_part_upsert Prod.fst ?_
  exact h

@[simp] theorem rowsOf_deleteProfileAckPending {contactName : String} (h : contactName ≠ name)
    (msgId : String) :
    (store.deleteProfileAckPending contactName msgId).rowsOf name = store.rowsOf name := by
  simp only [rowsOf, deleteProfileAckPending, ContactRows.mk.injEq, true_and]
  refine Table.filter_part_delete Prod.fst ?_
  exact h

theorem rowsOf_saveProfileAckPending {contactName msgId : String} {version : Int}
    {names : List String} {store' : FileLocalStore} (h : contactName ≠ name)
    (hsave : store.saveProfileAckPending contactName msgId version names = .ok store') :
    store'.rowsOf name = store.rowsOf name := by
  unfold saveProfileAckPending at hsave
  obtain ⟨u, -, hsave⟩ := bind_ok.mp hsave
  cases hsave
  simp only [rowsOf, ContactRows.mk.injEq, true_and]
  refine Table.filter_part_upsert Prod.fst ?_
  exact h

theorem rowsOf_savePresence {payload : PresencePayload} {store' : FileLocalStore}
    (hsave : store.savePresence payload = .ok store') :
    store'.rowsOf name = store.rowsOf name := by
  unfold savePresence at hsave
  obtain ⟨u, -, hsave⟩ := bind_ok.mp hsave
  cases hsave
  rfl

@[simp] theorem rowsOf_received {c : Contact} (h : c.name ≠ name) (identity : Identity)
    (nonce : Nonce) (inner : InnerMessage) (deliveredId receiptRoute : Option String) (now : Int) :
    (FileLocalStore.received P identity nonce c inner deliveredId receiptRoute now store).rowsOf name
      = store.rowsOf name := by
  have hinbound : ∀ store : FileLocalStore,
      (insertInbound (inboundRow P identity nonce c inner now) store).rowsOf name
        = store.rowsOf name := by
    intro store
    simp only [rowsOf, insertInbound, ContactRows.mk.injEq, and_true, true_and]
    refine Table.filter_part_insertNew Prod.fst ?_
    exact h
  unfold FileLocalStore.received
  cases deliveredId with
  | none => simp [hinbound, h]
  | some id => simp [hinbound, h]

end Writes

end FileLocalStore

/-! ### Work on another contact -/

/-- Every other name. -/
def OtherThan (name other : String) : Prop := other ≠ name

section Sending

variable {outside : Outside} {identity : Identity} {contactName name : String} {marks : Prop}
  {h h' : Handling} {w w' : World}

/-- The object keeps its name, and its row and those beside it are not of the contact `name`. -/
theorem SendStep.isolated (hstep : SendStep P outside identity contactName marks h h')
    (hne : contactName ≠ name) (hname : h.contact.name = contactName) :
    h'.contact.name = contactName
      ∧ h'.world.store.rowsOf name = h.world.store.rowsOf name := by
  have hother : h.contact.name ≠ name := by rwa [hname]
  cases hstep with
  | delivery n hdelivery =>
      cases hdelivery with
      | exchanged exchanges hposted => exact ⟨hname, rfl⟩
      | refreshed hold hexpired hserved =>
          -- the refreshed contact is written under the name of the object
          exact ⟨hname, FileLocalStore.rowsOf_saveContact hother⟩
  | drew encryptions => exact ⟨hname, rfl⟩
  | sealed ratchet nextSendSeq => exact ⟨hname, rfl⟩
  | saved => exact ⟨hname, by simp [hother]⟩
  | committed seq body now hsealed => exact ⟨hname, by simp [hother]⟩
  | marked msgId hmarks => exact ⟨hname, by simp [hne]⟩
  | noted hsave => exact ⟨hname, FileLocalStore.rowsOf_saveProfileAckPending hne hsave⟩
  | receipted hseals hanswered => exact ⟨hname, by simp [hne]⟩
  | queued deliveredId route now => exact ⟨hname, by simp [hne]⟩

/-- Commands that send to other contacts. -/
theorem WorldStep.isolated (hstep : WorldStep P outside identity (OtherThan name) marks w w') :
    w'.store.rowsOf name = w.store.rowsOf name := by
  cases hstep with
  | drew encryptions => rfl
  | localProfile profile => rfl
  | presence hsave => exact FileLocalStore.rowsOf_savePresence hsave
  | @handled contactName contact _ hne hcontact hsteps =>
      -- the object that was loaded has the name that it was loaded under
      obtain ⟨_, -, -, hname⟩ := getContact_ok hcontact
      have hkept : ∀ h, Relation.ReflTransGen (SendStep P outside identity contactName marks)
          { world := w, contact } h →
          h.contact.name = contactName ∧ h.world.store.rowsOf name = w.store.rowsOf name := by
        intro h hsteps
        induction hsteps with
        | refl => exact ⟨hname, rfl⟩
        | tail _ hstep ih =>
            obtain ⟨hname', hrows⟩ := hstep.isolated hne ih.1
            exact ⟨hname', hrows.trans ih.2⟩
      exact (hkept _ hsteps).2

theorem isolated_of_steps {α : Type} {m : EStateM PyExc World α}
    (hm : Steps (WorldStep P outside identity (OtherThan name) marks) m) (w : World) :
    (after (m.run w)).store.rowsOf name = w.store.rowsOf name :=
  eq_of_steps (f := fun w : World => w.store.rowsOf name)
    ((hm.mono fun _ _ => WorldStep.isolated) w)

end Sending

section Fetch

variable {outside : Outside} {polls : Polls} {identity : Identity} {contactName name : String}
  {f f' : Fetching}

/-- A step of a fetch from another contact, with the sending of receipts in it. -/
theorem FetchStep.isolated
    (hstep : FetchStep P (sendDeliveryReceipt P outside identity) polls identity contactName f f')
    (hworks : OtherThan name contactName) (hname : f.contact.name = contactName) :
    f'.contact.name = contactName
      ∧ f'.world.store.rowsOf name = f.world.store.rowsOf name := by
  have hne : contactName ≠ name := hworks
  have hother : f.contact.name ≠ name := by rwa [hname]
  cases hstep with
  | refused ratchet => exact ⟨hname, rfl⟩
  | accepted ratchet hseq => exact ⟨hname, rfl⟩
  | @text ratchet inner hseq attempt deliveredId =>
      exact ⟨hname, FileLocalStore.rowsOf_received (c := (f.opening ratchet inner).contact)
        hother identity _ _ _ _ _⟩
  | receipt ratchet hseq htype hid =>
      exact ⟨hname, FileLocalStore.rowsOf_markOutboundDelivered hne _⟩
  | acknowledged id =>
      unfold Fetching.acknowledged
      split
      · exact ⟨hname, rfl⟩
      · rename_i version relayNames _
        obtain ⟨version, names, hacked⟩ :=
          applyPeerProfileAckPending_eq f.contact version relayNames
        rw [hacked]
        exact ⟨hname, FileLocalStore.rowsOf_deleteProfileAckPending hne _⟩
  | profile tag round item hread hupdate => exact ⟨hname, rfl⟩
  | presence hsave => exact ⟨hname, FileLocalStore.rowsOf_savePresence hsave⟩
  | saved => exact ⟨hname, FileLocalStore.rowsOf_saveContact hother⟩
  | counted fetched => exact ⟨hname, rfl⟩
  | sent deliveredId route =>
      exact ⟨hname, isolated_of_steps (worldSteps_sendDeliveryReceipt hworks deliveredId route) _⟩
  | refreshed hload => exact ⟨hname, rfl⟩

/-- **One fetch from another contact**, whether it returns or raises. -/
theorem isolated_fetch (outside : Outside) (polls : Polls) (identity : Identity)
    (route : Option String) (wide quiet : Bool) (w : World)
    (hworks : OtherThan name contactName) :
    (after ((fetchContactInbound P outside polls identity contactName route wide quiet).run
      w)).store.rowsOf name = w.store.rowsOf name := by
  rcases fetch_cases (P := P) outside polls identity contactName route wide quiet w with
    hsame | ⟨contact, hcontact, hopened⟩
  · rw [hsame]
  · obtain ⟨_, -, -, hname⟩ := getContact_ok hcontact
    have hopening : Steps (WorldStep P outside identity (OtherThan name) False)
        (openFetch P (sendDeliveryReceipt P outside identity) outside.env polls identity
          contactName route wide quiet contact) := worldSteps_openFetch hworks contact
    have hbefore := isolated_of_steps hopening w
    rcases hopened with ⟨e, hraised⟩ | ⟨plan, w', f, hopen, hsteps, hworld⟩
    · rwa [hraised] at hbefore
    · rw [hopen] at hbefore
      have hkept : f.contact.name = contactName
          ∧ f.world.store.rowsOf name = w'.store.rowsOf name := by
        clear hworld
        induction hsteps with
        | refl => exact ⟨hname, rfl⟩
        | tail _ hstep ih =>
            obtain ⟨hname', hrows⟩ := FetchStep.isolated hstep hworks ih.1
            exact ⟨hname', hrows.trans ih.2⟩
      rw [hworld]
      exact hkept.2.trans hbefore

end Fetch

/-! ### Runs -/

/-- The command may work on the contact. An empty name stands for all contacts in a broadcast, and
the sweep goes over the pending messages of all. -/
def Operation.WorksOn (name : String) : Operation → Prop
  | .send _ _ contactName .. => contactName = name
  | .fetch _ _ contactName .. => contactName = name
  | .flush _ contactName _ => ∀ only ∈ contactName, only = name
  | .resend _ _ contactName _ => contactName = name
  | .presence _ _ _ contactName => ∀ only ∈ contactName, only ≠ "" → only = name
  | .push _ _ contactName => contactName = name
  | .sweep _ => True

/-- **One command on other contacts.** -/
theorem isolated_execute {name : String} (identity : Identity) (w : World) {operation : Operation}
    (hother : ¬ operation.WorksOn name) :
    (Operation.execute P identity w operation).store.rowsOf name = w.store.rowsOf name := by
  cases operation with
  | send outside dummy contactName message route =>
      exact isolated_of_steps (worldSteps_sendCmd hother dummy message route) w
  | fetch outside polls contactName route wide quiet =>
      exact isolated_fetch outside polls identity route wide quiet w hother
  | flush outside contactName route =>
      obtain ⟨only, hfound, hworks⟩ : ∃ only ∈ contactName, only ≠ name := by
        simpa [Operation.WorksOn] using hother
      obtain rfl := hfound
      refine isolated_of_steps (worldSteps_flushReceipts route fun row hrow => ?_) w
      rw [(mem_listPendingReceipts hrow).2]
      exact hworks
  | resend outside now contactName route =>
      exact isolated_of_steps (worldSteps_resendPendingForContact hother now route) w
  | presence outside announce payloads contactName =>
      obtain ⟨only, hfound, hnonempty, hworks⟩ :
          ∃ only ∈ contactName, only ≠ "" ∧ only ≠ name := by
        simpa [Operation.WorksOn] using hother
      refine isolated_of_steps (worldSteps_broadcastPresence announce payloads
        fun target htarget => ?_) w
      rw [htarget only hfound hnonempty]
      exact hworks
  | push outside built contactName =>
      exact isolated_of_steps (worldSteps_profilePush hother built) w
  | sweep now => exact absurd trivial hother

/-- **Contacts are isolated.** Whatever the peers and the servers send and wherever a command
raises, a run of commands on other contacts leaves every row of a contact. -/
theorem contacts_isolated (P : Packages) (identity : Identity) (w : World) (name : String)
    (operations : List Operation) (hothers : ∀ operation ∈ operations, ¬ operation.WorksOn name) :
    (Operation.run P identity w operations).store.rowsOf name = w.store.rowsOf name := by
  induction operations generalizing w with
  | nil => rfl
  | cons operation operations ih =>
      have hfirst := isolated_execute (P := P) identity w (hothers operation List.mem_cons_self)
      have hrest := ih (Operation.execute P identity w operation) fun this hthis =>
        hothers this (List.mem_cons_of_mem _ hthis)
      exact hrest.trans hfirst

open PendingSample in
/-- What is sent to Bob leaves the receipt that is owed to Carol. -/
theorem greeting_leaves_others :
    (Operation.run plainPackages Sample.alice
        { start with store := start.store.savePendingReceipt "carol" "00" none 0 }
        [greeting, resending, .flush unreachable (some "bob") none]).store.rowsOf "carol"
      = (start.store.savePendingReceipt "carol" "00" none 0).rowsOf "carol" := by
  have hne : ¬ "bob" = "carol" := by decide
  refine contacts_isolated plainPackages Sample.alice _ "carol" _ fun operation hoperation => ?_
  simp only [List.mem_cons, List.not_mem_nil, or_false] at hoperation
  rcases hoperation with rfl | rfl | rfl
  · exact hne
  · exact hne
  · intro hworks
    exact hne (hworks "bob" rfl)

end Yakr
