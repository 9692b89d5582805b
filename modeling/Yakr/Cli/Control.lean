import Yakr.Cli.Junk
import Yakr.Cli.Progress

/-!
# Yakr.Cli.Control

**Profiles, presences and receipts.** A message that `decrypt_inbound` accepts has moved the last
received number of the contact object; the row of the contact follows when the object is saved.
Each type of control message has its own way to that save. A body that does not decode ends the
fetch before it, and a presence that is refused or stale, a profile without a body and a receipt
without an id are passed over.

`Handled` says when the way is gone to its end. These are the messages that take their number for
good (`control_consumes_iff`).
-/

namespace Yakr

open Lib Effect Worklist

variable {P : Packages}

/-- Profiles, presences and receipts. -/
def MessageType.isControl (type : MessageType) : Bool :=
  type.isProfile || type.isPresence || type.isReceipt

/-- When a fetch handles an accepted control message up to the save of the contact. -/
def Handled (P : Packages) (polls : Polls) (contactName : String) (quiet : Bool) (now : Int)
    (store : FileLocalStore) (contact : Contact) (inner : InnerMessage) : Prop :=
  match inner.type with
  | .profile =>
      -- whatever is refused after the decoding is refused with a `ValueError`
      inner.body ≠ "" ∧ ∃ profile, DeliveryProfile.fromB64 P inner.body = .ok profile
        ∧ ∀ e, (updateVerdict P contact profile now = .error e
          ∨ updateVerdict P contact profile now = .ok ()
            ∧ shown polls quiet (profileLine contactName profile) = .error e) →
          e.isValueError = true
  | .presence =>
      ∃ payload store', presenceVerdict P contact inner now = .ok (some payload)
        ∧ store.savePresence payload = .ok store'
        ∧ shown polls quiet (presenceLine payload) = .ok ()
  | .receipt =>
      pyBool P inner.messageId = true ∧ ∃ id, sqlText P inner.messageId = .ok id
        ∧ receiptShown polls quiet (store.hasOutbound contactName id) inner.messageId = .ok ()
  | _ => False

/-- The profile is the old one, or an update that was accepted. -/
def ProfileAllowed (P : Packages) (now : Int) (inner : InnerMessage) (c c' : Contact) : Prop :=
  c'.deliveryProfile = c.deliveryProfile
    ∨ ∃ profile, DeliveryProfile.fromB64 P inner.body = .ok profile
      ∧ acceptDeliveryProfileUpdate P c.deliveryProfile profile now = .ok ()
      ∧ c'.deliveryProfile = some profile

section Item

variable {send : Sender} {env : Settings} {polls : Polls} {identity : Identity}
  {contactName : String} {route : Option String} {wide quiet : Bool} {f : Fetching}
  {inner : InnerMessage} {attempt : Attempt} {outer : OuterBlob}

theorem updateVerdict_ok {contact : Contact} {profile : DeliveryProfile} {now : Int}
    (h : updateVerdict P contact profile now = .ok ()) :
    acceptDeliveryProfileUpdate P contact.deliveryProfile profile now = .ok () := by
  obtain ⟨u, -, haccept⟩ := bind_ok.mp h
  exact haccept

/-- A handled profile. -/
theorem handleProfile_handled (htype : inner.type = .profile)
    (h : Handled P polls contactName quiet attempt.now f.world.store f.contact inner) :
    ∃ g : Fetching,
      (handleInner P send polls identity contactName route quiet attempt outer inner).run f
        = .ok () (g.saved P)
      ∧ g.contact.lastRecvSeq = f.contact.lastRecvSeq ∧ g.contact.name = f.contact.name
      ∧ ProfileAllowed P attempt.now inner f.contact g.contact := by
  simp only [Handled, htype] at h
  obtain ⟨hbody, profile, hprofile, hvalue⟩ := h
  rw [handleInner_profile attempt outer (by simp [htype, MessageType.isProfile]) hbody,
    handleProfile_run, hprofile]
  dsimp only
  cases hverdict : updateVerdict P f.contact profile attempt.now with
  | error e =>
      refine ⟨f, ?_, rfl, rfl, Or.inl rfl⟩
      exact if_pos (hvalue e (Or.inl hverdict))
  | ok u =>
      have hallowed : ProfileAllowed P attempt.now inner f.contact (f.withProfile profile).contact :=
        Or.inr ⟨profile, hprofile, updateVerdict_ok hverdict, rfl⟩
      refine ⟨f.withProfile profile, ?_, rfl, rfl, hallowed⟩
      dsimp only
      cases hshown : shown polls quiet (profileLine contactName profile) with
      | error e => exact if_pos (hvalue e (Or.inr ⟨hverdict, hshown⟩))
      | ok u' => rfl

/-- A handled presence. -/
theorem handlePresence_handled (htype : inner.type = .presence)
    (h : Handled P polls contactName quiet attempt.now f.world.store f.contact inner) :
    ∃ g : Fetching,
      (handleInner P send polls identity contactName route quiet attempt outer inner).run f
        = .ok () (g.saved P)
      ∧ g.contact.lastRecvSeq = f.contact.lastRecvSeq ∧ g.contact.name = f.contact.name
      ∧ ProfileAllowed P attempt.now inner f.contact g.contact := by
  simp only [Handled, htype] at h
  obtain ⟨payload, store', hverdict, hsave, hshown⟩ := h
  refine ⟨{ f with world := { f.world with store := store' } }, ?_, rfl, rfl, Or.inl rfl⟩
  rw [handleInner_presence attempt outer htype, hverdict]
  dsimp only
  rw [hsave]
  dsimp only
  rw [hshown]

theorem acknowledged_contact (f : Fetching) (contactName id : String) :
    (f.acknowledged contactName id).contact.lastRecvSeq = f.contact.lastRecvSeq
      ∧ (f.acknowledged contactName id).contact.name = f.contact.name
      ∧ (f.acknowledged contactName id).contact.deliveryProfile = f.contact.deliveryProfile := by
  unfold Fetching.acknowledged
  cases f.world.store.findProfileAckPending contactName id with
  | none => exact ⟨rfl, rfl, rfl⟩
  | some pending =>
      dsimp only
      unfold applyPeerProfileAckPending
      split
      · exact ⟨rfl, rfl, rfl⟩
      · exact ⟨rfl, rfl, rfl⟩

/-- A receipt is handled by `handleReceipt` when it has an id, and else passed over. -/
theorem handleInner_receipt (htype : inner.type = .receipt) :
    (handleInner P send polls identity contactName route quiet attempt outer inner).run f
      = if pyBool P inner.messageId then
          (handleReceipt P polls contactName quiet inner).run f
        else .ok () f := by
  rw [handleInner_other attempt outer (by simp [htype, MessageType.isProfile])
    (by simp [htype, MessageType.isPresence])]
  unfold handleOther
  cases pyBool P inner.messageId with
  | true => rw [if_pos (by simp [htype, MessageType.isReceipt]), if_pos rfl]
  | false =>
      rw [if_neg (by simp), if_neg (by simp [htype, MessageType.isText]),
        if_neg Bool.false_ne_true]
      rfl

/-- A handled receipt. -/
theorem handleReceipt_handled (htype : inner.type = .receipt)
    (h : Handled P polls contactName quiet attempt.now f.world.store f.contact inner) :
    ∃ g : Fetching,
      (handleInner P send polls identity contactName route quiet attempt outer inner).run f
        = .ok () (g.saved P)
      ∧ g.contact.lastRecvSeq = f.contact.lastRecvSeq ∧ g.contact.name = f.contact.name
      ∧ ProfileAllowed P attempt.now inner f.contact g.contact := by
  simp only [Handled, htype] at h
  obtain ⟨hid, id, hsql, hshown⟩ := h
  obtain ⟨hseq, hname, hprofile⟩ :=
    acknowledged_contact (f.delivered contactName id) contactName id
  refine ⟨(f.delivered contactName id).acknowledged contactName id, ?_, hseq, hname,
    Or.inl hprofile⟩
  rw [handleInner_receipt htype, if_pos hid, handleReceipt_run, hsql]
  dsimp only
  rw [hshown]

/-- A handled control message: the fetch goes on from the saved contact. -/
theorem handleInner_handled
    (h : Handled P polls contactName quiet attempt.now f.world.store f.contact inner) :
    ∃ g : Fetching,
      (handleInner P send polls identity contactName route quiet attempt outer inner).run f
        = .ok () (g.saved P)
      ∧ g.contact.lastRecvSeq = f.contact.lastRecvSeq ∧ g.contact.name = f.contact.name
      ∧ ProfileAllowed P attempt.now inner f.contact g.contact := by
  cases htype : inner.type with
  | profile => exact handleProfile_handled htype h
  | presence => exact handlePresence_handled htype h
  | receipt => exact handleReceipt_handled htype h
  | text =>
      simp only [Handled, htype] at h
  | other value =>
      simp only [Handled, htype] at h

/-- A control message that is not handled is passed over, or what it raises ends the fetch. -/
theorem handleInner_unhandled (hcontrol : inner.type.isControl = true)
    (h : ¬ Handled P polls contactName quiet attempt.now f.world.store f.contact inner) :
    (handleInner P send polls identity contactName route quiet attempt outer inner).run f = .ok () f
      ∨ ∃ e g, (handleInner P send polls identity contactName route quiet attempt outer inner).run f
        = .error e g := by
  cases htype : inner.type with
  | profile =>
      simp only [Handled, htype] at h
      by_cases hbody : inner.body = ""
      · left
        have hplain : ¬ (inner.type.isProfile = true ∧ inner.body ≠ "") := fun hp => hp.2 hbody
        rw [handleInner_other attempt outer hplain (by simp [htype, MessageType.isPresence])]
        unfold handleOther
        rw [if_neg (by simp [htype, MessageType.isReceipt]),
          if_neg (by simp [htype, MessageType.isText])]
        rfl
      · right
        rw [handleInner_profile attempt outer (by simp [htype, MessageType.isProfile]) hbody,
          handleProfile_run]
        cases hprofile : DeliveryProfile.fromB64 P inner.body with
        | error e => exact ⟨e, _, rfl⟩
        | ok profile =>
            have hraised : ∃ e, (updateVerdict P f.contact profile attempt.now = .error e
                ∨ updateVerdict P f.contact profile attempt.now = .ok ()
                  ∧ shown polls quiet (profileLine contactName profile) = .error e)
                ∧ e.isValueError = false := by
              by_contra hnone
              refine h ⟨hbody, profile, hprofile, fun e he => ?_⟩
              by_contra hvalue
              exact hnone ⟨e, he, by simpa using hvalue⟩
            obtain ⟨e, hverdict | ⟨hverdict, hshown⟩, hvalue⟩ := hraised
            · simp [hverdict, hvalue]
            · simp [hverdict, hshown, hvalue]
  | presence =>
      simp only [Handled, htype] at h
      rw [handleInner_presence attempt outer htype]
      cases hverdict : presenceVerdict P f.contact inner attempt.now with
      | error e =>
          dsimp only
          split
          · exact Or.inl rfl
          · exact Or.inr ⟨e, _, rfl⟩
      | ok found =>
          cases found with
          | none => exact Or.inl rfl
          | some payload =>
              dsimp only
              cases hsave : f.world.store.savePresence payload with
              | error e =>
                  dsimp only
                  split
                  · exact Or.inl rfl
                  · exact Or.inr ⟨e, _, rfl⟩
              | ok store' =>
                  dsimp only
                  cases hshown : shown polls quiet (presenceLine payload) with
                  | error e => exact Or.inr ⟨e, _, rfl⟩
                  | ok u => exact absurd ⟨payload, store', hverdict, hsave, hshown⟩ h
  | receipt =>
      simp only [Handled, htype] at h
      rw [handleInner_receipt htype]
      by_cases hid : pyBool P inner.messageId = true
      · right
        rw [if_pos hid, handleReceipt_run]
        cases hsql : sqlText P inner.messageId with
        | error e => exact ⟨e, _, rfl⟩
        | ok id =>
            dsimp only
            cases hshown : receiptShown polls quiet (f.world.store.hasOutbound contactName id)
                inner.messageId with
            | error e => exact ⟨e, _, rfl⟩
            | ok u => exact absurd ⟨hid, id, hsql, hshown⟩ h
      · exact Or.inl (if_neg hid)
  | text =>
      rw [htype] at hcontrol
      cases hcontrol
  | other value =>
      rw [htype] at hcontrol
      cases hcontrol

/-- A blob that went through a relay. -/
theorem OuterBlob.fromRelayJson_toRelayJson (b : OuterBlob) (h : b.version = 1) :
    OuterBlob.fromRelayJson P b.toRelayJson = .ok b := by
  simp [fromRelayJson, toRelayJson, subscript, Json.lookup, List.lookup_cons, pyStr, pyInt,
    bind, Except.bind, pure, Except.pure, ← h]

end Item

/-! ### The slot -/

section Fetch

variable {env : Settings} {polls : Polls} {identity : Identity} {contactName : String}
  {route : Option String} {wide quiet : Bool} {w : World} {tag round : Nat} {item : Json}
  {rest : List Json} {f : Fetching} {inner : InnerMessage} {outer : OuterBlob} {c : Contact}

/-- What a control message is owed that is accepted at an attempt of a fetch: the fetch goes on,
with the contact saved under the message's number, its profile changed by an accepted update at
most; the number stays recorded to the end, however the fetch ends, and the next item is tried. -/
def ConsumesSlot (P : Packages) (send : Sender) (env : Settings) (polls : Polls)
    (identity : Identity) (contactName : String) (route : Option String) (wide quiet : Bool)
    (w : World) (tag round : Nat) (item : Json) (rest : List Json) (f : Fetching)
    (inner : InnerMessage) : Prop :=
  ∃ f', (handleItem P send polls identity contactName route quiet tag round item).run f
      = .ok .done f'
    ∧ Table.find ContactDict.name contactName f'.world.store.contacts
      = some (f'.contact.toDict P)
    ∧ f'.contact.lastRecvSeq = inner.seq
    ∧ ProfileAllowed P (polls.attempt tag round item).now inner f.contact f'.contact
    ∧ Records contactName inner.seq
      (after ((fetchWith P send env polls identity contactName route wide quiet).run w))
    ∧ ∀ next later, rest = next :: later →
      FetchTries P send env polls identity contactName route wide quiet w tag round next later f'

/-- The row of a saved contact. -/
theorem find_saved (f : Fetching) :
    Table.find ContactDict.name f.contact.name (f.saved P).world.store.contacts
      = some ((f.saved P).contact.toDict P) :=
  Table.find_upsert_self (r := f.contact.toDict P)

theorem consumesSlot_of_handled {send : Sender} (hsend : KeepsRecords send)
    (htries : FetchTries P send env polls identity contactName route wide quiet w tag round item
      rest f)
    (houter : OuterBlob.fromRelayJson P item = .ok outer)
    (haccepted : (decryptInbound P (polls.attempt tag round item).generated
      (polls.attempt tag round item).now outer).run f.contact = .ok inner c)
    (hhandled : Handled P polls contactName quiet (polls.attempt tag round item).now f.world.store
      f.contact inner) :
    ConsumesSlot P send env polls identity contactName route wide quiet w tag round item rest f
      inner := by
  obtain ⟨r, -, rfl⟩ := decryptInbound_ok haccepted
  -- the checks read nothing of the contact that the decryption has changed
  obtain ⟨g, hrun, hseq, hname, hallowed⟩ := handleInner_handled (P := P)
    (f := f.accepting { f.contact with ratchet := some r, lastRecvSeq := inner.seq } inner)
    hhandled
  have hdone : (handleItem P send polls identity contactName route quiet tag round item).run f
      = .ok .done (g.saved P) := by
    rw [handleItem_accepted houter haccepted, hrun]
  have hrow := find_saved (P := P) g
  rw [hname.trans (htries.notBehind hsend).contact] at hrow
  refine ⟨g.saved P, hdone, hrow, hseq, hallowed, htries.records hsend ?_, fun next later hrest => ?_⟩
  · rw [hdone]
    exact ⟨_, congrArg (Option.map ContactDict.lastRecvSeq) hrow, Int.le_of_eq hseq.symm⟩
  · subst hrest
    exact htries.following hdone

/-- A control message that is not handled ends the fetch, or its number is not recorded. -/
theorem unrecorded_of_unhandled {send : Sender} (hsend : KeepsRecords send)
    (htries : FetchTries P send env polls identity contactName route wide quiet w tag round item
      rest f)
    (houter : OuterBlob.fromRelayJson P item = .ok outer)
    (haccepted : (decryptInbound P (polls.attempt tag round item).generated
      (polls.attempt tag round item).now outer).run f.contact = .ok inner c)
    (hcontrol : inner.type.isControl = true)
    (hunhandled : ¬ Handled P polls contactName quiet (polls.attempt tag round item).now
      f.world.store f.contact inner) :
    (∃ e w', (handleItem P send polls identity contactName route quiet tag round item).run f
          = .error e w'
        ∧ (fetchWith P send env polls identity contactName route wide quiet).run w
          = .error e w'.world)
      ∨ ∃ f', (handleItem P send polls identity contactName route quiet tag round item).run f
          = .ok .done f'
        ∧ ¬ Records contactName inner.seq f'.world := by
  obtain ⟨r, hcheck, hc⟩ := decryptInbound_ok haccepted
  have hitem : (handleItem P send polls identity contactName route quiet tag round item).run f
      = _ := handleItem_accepted houter haccepted
  have hpassed : ¬ Handled P polls contactName quiet (polls.attempt tag round item).now
      (f.accepting c inner).world.store (f.accepting c inner).contact inner := by
    rw [hc]
    exact hunhandled
  have hinner : (handleInner P send polls identity contactName route quiet
        (polls.attempt tag round item) outer inner).run (f.accepting c inner)
          = .ok () (f.accepting c inner)
      ∨ ∃ e g, (handleInner P send polls identity contactName route quiet
        (polls.attempt tag round item) outer inner).run (f.accepting c inner)
          = EStateM.Result.error e g := handleInner_unhandled hcontrol hpassed
  rcases hinner with hrun | ⟨e, g, hrun⟩
  · right
    rw [hrun] at hitem
    refine ⟨_, hitem, fun hrecords => ?_⟩
    obtain ⟨n, hn, hle⟩ := (htries.notBehind hsend).seq
    obtain ⟨m, hm, hmle⟩ := hrecords
    have hsame : m = n := Option.some.inj (hm.symm.trans hn)
    have hnext := (checkInner_ok.mp hcheck).2.1
    omega
  · left
    rw [hrun] at hitem
    exact ⟨e, g, hitem, htries.raises hitem⟩

/-- **Control messages.** A control message that a fetch accepts consumes its slot exactly when it
is handled; one that is not ends the fetch with what it raises, or is passed over with its number
not recorded. -/
theorem control_consumes_iff {outside : Outside}
    (htries : FetchTries P (sendDeliveryReceipt P outside identity) outside.env polls identity
      contactName route wide quiet w tag round item rest f)
    (houter : OuterBlob.fromRelayJson P item = .ok outer)
    (haccepted : (decryptInbound P (polls.attempt tag round item).generated
      (polls.attempt tag round item).now outer).run f.contact = .ok inner c)
    (hcontrol : inner.type.isControl = true) :
    (Handled P polls contactName quiet (polls.attempt tag round item).now f.world.store f.contact
        inner
      ↔ ConsumesSlot P (sendDeliveryReceipt P outside identity) outside.env polls identity
          contactName route wide quiet w tag round item rest f inner)
    ∧ (¬ Handled P polls contactName quiet (polls.attempt tag round item).now f.world.store
          f.contact inner →
        (∃ e w', (fetchContactInbound P outside polls identity contactName route wide quiet).run w
          = .error e w')
        ∨ ∃ f', (handleItem P (sendDeliveryReceipt P outside identity) polls identity contactName
              route quiet tag round item).run f = .ok .done f'
            ∧ ¬ Records contactName inner.seq f'.world) := by
  have hsend : KeepsRecords (sendDeliveryReceipt P outside identity) :=
    keepsRecords_sendDeliveryReceipt outside identity
  constructor
  · constructor
    · exact consumesSlot_of_handled hsend htries houter haccepted
    · intro hconsumes
      by_contra hunhandled
      obtain ⟨f', hrun, hrow, hseq, -⟩ := hconsumes
      rcases unrecorded_of_unhandled hsend htries houter haccepted hcontrol hunhandled with
        ⟨e, w', hraised, -⟩ | ⟨f'', hdone, hnot⟩
      · rw [hraised] at hrun
        cases hrun
      · rw [hdone] at hrun
        cases hrun
        refine hnot ⟨_, congrArg (Option.map ContactDict.lastRecvSeq) hrow, ?_⟩
        exact Int.le_of_eq hseq.symm
  · intro hunhandled
    rcases unrecorded_of_unhandled hsend htries houter haccepted hcontrol hunhandled with
      ⟨e, w', -, hraised⟩ | hpassed
    · exact Or.inl ⟨e, w'.world, hraised⟩
    · exact Or.inr hpassed

end Fetch

namespace ControlSample

open JunkSample (owner outside polls)

def key (n : UInt8) : PrivateKey := BytesN.fill 32 n

/-- The two ends of a session. -/
def ratchet (isInitiator : Bool) : RatchetState :=
  .fromMaster plainPackages (List.replicate 32 5) isInitiator false (key 3)

def sender : Contact :=
  { name := "bob"
    signingPublic := [1]
    agreementPublic := [2]
    masterSecret := List.replicate 32 5
    conversationId := "pairwise"
    ratchet := some (ratchet false)
    privacyMode := .fast }

def paired : World := { store := { contacts := [sender.toDict plainPackages] } }

/-- Bob's first payload, without padding. -/
def payload (inner : InnerMessage) : Bytes :=
  match (RatchetState.encrypt plainPackages (key 6) (BytesN.fill 24 7) inner.toBytes).run
      (ratchet true) with
  | .ok payload _ => payload
  | .error _ _ => []

def blob (inner : InnerMessage) : OuterBlob :=
  { version := 1, mailboxTag := [], expiresAt := 0, ciphertext := payload inner }

/-- The item with a message. -/
def item (inner : InnerMessage) : Json := (blob inner).toRelayJson

theorem fromRelayJson_item (inner : InnerMessage) :
    OuterBlob.fromRelayJson plainPackages (item inner) = .ok (blob inner) :=
  OuterBlob.fromRelayJson_toRelayJson _ rfl

/-- A receipt for a message that was never sent. -/
def receipt : InnerMessage := .receipt "pairwise" "device" 1 "unknown" 0

/-- A profile whose body is no base64. -/
def garbled : InnerMessage := .profile "pairwise" "device" 1 "A" 0

/-- What the ratchet opens of a payload. -/
def opened (inner : InnerMessage) : Except PyExc Bytes :=
  outcome ((RatchetState.decrypt plainPackages (key 4) (blob inner).ciphertext).run (ratchet false))

theorem accepted_of_opened {inner : InnerMessage} (hwell : inner.Wellformed)
    (hcheck : checkInner sender inner 0 = .ok ()) (hopened : opened inner = .ok inner.toBytes) :
    ∃ c, (decryptInbound plainPackages (key 4) 0 (blob inner)).run sender = .ok inner c := by
  have hratchet : sender.ratchet = some (ratchet false) := rfl
  have hplain : decodePaddedPlaintext inner.toBytes sender.privacyMode = .ok inner.toBytes := rfl
  obtain ⟨r, hrun⟩ := outcome_eq_ok.mp hopened
  rw [decryptInbound_run hratchet, decryptOuter_run hratchet]
  simp only [hrun, hplain, InnerMessage.fromBytes_toBytes _ hwell, hcheck]
  exact ⟨_, rfl⟩

theorem receipt_accepted :
    ∃ c, (decryptInbound plainPackages (key 4) 0 (blob receipt)).run sender = .ok receipt c :=
  accepted_of_opened (InnerMessage.wellformed_receipt ..) (checkInner_ok.mpr (by decide))
    (by decide +kernel)

theorem garbled_accepted :
    ∃ c, (decryptInbound plainPackages (key 4) 0 (blob garbled)).run sender = .ok garbled c :=
  accepted_of_opened (InnerMessage.wellformed_profile ..) (checkInner_ok.mpr (by decide))
    (by decide +kernel)

/-- The tags and addresses of a fetch from bob. -/
def plan : Plan × World :=
  ran ((openFetch plainPackages (sendDeliveryReceipt plainPackages outside owner) outside.env
    (polls []) owner "bob" none false true sender).run paired) (by decide +kernel)

theorem plan_eq : (plan.1.tags.isEmpty, plan.1.bases, plan.1.hints)
    = (false, ["https://relay"], []) := by decide +kernel

theorem queueOf_item (inner : InnerMessage) (tag : String) :
    queueOf plainPackages (polls [item inner]) tag ["https://relay"] [] = .ok [item inner] := rfl

/-- The first attempt of a fetch that finds one message. -/
theorem fetchTries_item (inner : InnerMessage) :
    FetchTries plainPackages (sendDeliveryReceipt plainPackages outside owner) outside.env
      (polls [item inner]) owner "bob" none false true paired 0 0 (item inner) []
      { world := plan.2, contact := sender } := by
  have hcontact : paired.store.getContact plainPackages "bob" = .ok (some sender) := by
    decide +kernel
  have hopen : (openFetch plainPackages (sendDeliveryReceipt plainPackages outside owner)
      outside.env (polls [item inner]) owner "bob" none false true sender).run paired
        = .ok plan.1 plan.2 := eq_ok_ran _ _
  have hplan := plan_eq
  simp only [Prod.mk.injEq] at hplan
  obtain ⟨htags, hbases, hhints⟩ := hplan
  refine .intro hcontact hopen ?_
  rw [hbases, hhints]
  cases hlist : plan.1.tags with
  | nil =>
      rw [hlist] at htags
      cases htags
  | cons tag tags => exact .here (queueOf_item inner tag.tagB64) (.pass .head)

end ControlSample

open ControlSample JunkSample in
/-- A receipt for a message that was never sent consumes its slot. -/
theorem receipt_consumes :
    ConsumesSlot plainPackages (sendDeliveryReceipt plainPackages outside owner) outside.env
      (polls [item receipt]) owner "bob" none false true paired 0 0 (item receipt) []
      { world := plan.2, contact := sender } receipt := by
  obtain ⟨c, haccepted⟩ := receipt_accepted
  refine (control_consumes_iff (fetchTries_item receipt) (fromRelayJson_item receipt) haccepted
    rfl).1.mp ?_
  exact ⟨rfl, "unknown", rfl, rfl⟩

open ControlSample JunkSample in
/-- A fetch that accepts a profile whose body is no base64 raises. -/
theorem garbled_not_consumed :
    ∃ c, (decryptInbound plainPackages (key 4) 0 (blob garbled)).run sender = .ok garbled c
      ∧ garbled.type.isControl = true
      ∧ ∃ e w, (fetchContactInbound plainPackages outside (polls [item garbled]) owner "bob" none
        false true).run paired = .error e w := by
  obtain ⟨c, haccepted⟩ := garbled_accepted
  have hbody : (DeliveryProfile.fromB64 plainPackages garbled.body).isOk = false := by
    decide +kernel
  cases hprofile : DeliveryProfile.fromB64 plainPackages garbled.body with
  | ok profile =>
      rw [hprofile] at hbody
      cases hbody
  | error e =>
      have hitem : (handleItem plainPackages (sendDeliveryReceipt plainPackages outside owner)
          (polls [item garbled]) owner "bob" none true 0 0 (item garbled)).run
            { world := plan.2, contact := sender } = _ :=
        handleItem_accepted (fromRelayJson_item garbled) haccepted
      rw [handleInner_profile _ _ rfl (by decide), handleProfile_run, hprofile] at hitem
      exact ⟨c, haccepted, rfl, e, _, (fetchTries_item garbled).raises hitem⟩

end Yakr
