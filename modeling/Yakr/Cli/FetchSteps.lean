import Yakr.Cli.Attempts
import Yakr.Cli.SendSteps
import Yakr.Store.Persistence
import Yakr.Store.Receiving

/-!
# Yakr.Cli.FetchSteps

**What an attempt at an item can do.** Each handler of a fetch gets an equation that says what it
makes of the state it starts from. An attempt is made of the few things `FetchStep` lists: a blob
that is refused moves the ratchet, a message that is accepted takes the next number, its handler
changes rows and the contact object and writes the object to its row (`steps_handleItem`). The
commit of a text is one thing together with its acceptance, for no other write comes in between.
-/

namespace Yakr

open Lib Effect Worklist

variable {P : Packages}

section Steps

variable {send : Sender} {polls : Polls} {identity : Identity} {contactName : String}
  {route : Option String} {quiet : Bool}

/-! ### Profiles -/

/-- Whether an update is verified and accepted. -/
def updateVerdict (P : Packages) (contact : Contact) (profile : DeliveryProfile) (now : Int) :
    Except PyExc Unit := do
  verifyDeliveryProfile P profile contact.signingPublic
  acceptDeliveryProfileUpdate P contact.deliveryProfile profile now

theorem applyDeliveryProfileUpdate_eq (contact : Contact) (profile : DeliveryProfile) (now : Int) :
    applyDeliveryProfileUpdate P contact profile contact.signingPublic now
      = (updateVerdict P contact profile now).map fun _ =>
          { contact with deliveryProfile := some profile } := by
  unfold applyDeliveryProfileUpdate updateVerdict
  cases verifyDeliveryProfile P profile contact.signingPublic with
  | error e => rfl
  | ok u =>
      show (acceptDeliveryProfileUpdate P contact.deliveryProfile profile now >>= _)
        = (acceptDeliveryProfileUpdate P contact.deliveryProfile profile now).map _
      cases acceptDeliveryProfileUpdate P contact.deliveryProfile profile now with
      | error e => rfl
      | ok u' => rfl

/-- The fetch once its contact object is saved. -/
def Fetching.saved (P : Packages) (f : Fetching) : Fetching :=
  { f with world := { f.world with store := f.world.store.saveContact P f.contact } }

/-- The fetch with a profile for its contact object. -/
def Fetching.withProfile (f : Fetching) (profile : DeliveryProfile) : Fetching :=
  { f with contact := { f.contact with deliveryProfile := some profile } }

/-- Whether a line can be shown. -/
def shown (polls : Polls) (quiet : Bool) (text : String) : Except PyExc Unit :=
  if quiet then .ok () else polls.console text

theorem report_eq (text : String) : report polls quiet text = orRaise (shown polls quiet text) := by
  unfold report shown
  cases quiet with
  | true => rfl
  | false => rfl

/-- The line about a profile that was accepted. -/
def profileLine (contactName : String) (profile : DeliveryProfile) : String :=
  "[green]Updated delivery profile for " ++ contactName ++ " (v" ++ toString profile.version
    ++ ")[/green]"

theorem handleProfile_run (now : Int) (inner : InnerMessage) (f : Fetching) :
    (handleProfile P polls contactName quiet now inner).run f =
      match DeliveryProfile.fromB64 P inner.body with
      | .error e => .error e f
      | .ok profile =>
          match updateVerdict P f.contact profile now with
          | .error e => if e.isValueError then .ok () (f.saved P) else .error e f
          | .ok () =>
              match shown polls quiet (profileLine contactName profile) with
              | .error e =>
                  if e.isValueError then .ok () ((f.withProfile profile).saved P)
                  else .error e (f.withProfile profile)
              | .ok () => .ok () ((f.withProfile profile).saved P) := by
  unfold handleProfile
  cases DeliveryProfile.fromB64 P inner.body with
  | error e => rfl
  | ok profile =>
      rw [EStateM.run_bind, run_orRaise_ok]
      dsimp only
      rw [run_get_bind, applyDeliveryProfileUpdate_eq]
      cases updateVerdict P f.contact profile now with
      | error e =>
          dsimp only [Except.map]
          cases e.isValueError with
          | true => rfl
          | false => rfl
      | ok u =>
          dsimp only [Except.map]
          rw [run_modify_bind, report_eq]
          show (tryCatch (orRaise (shown polls quiet (profileLine contactName profile))) _ >>= _ :
            FetchM Unit).run (f.withProfile profile) = _
          rw [EStateM.run_bind, run_tryCatch]
          cases shown polls quiet (profileLine contactName profile) with
          | error e =>
              rw [run_orRaise_error]
              dsimp only
              cases e.isValueError with
              | true => rfl
              | false => rfl
          | ok u' => rfl

/-! ### Presence -/

/-- What a presence message comes to: nothing to apply, or a payload to save. -/
def presenceVerdict (P : Packages) (contact : Contact) (inner : InnerMessage) (now : Int) :
    Except PyExc (Option PresencePayload) := do
  let payload ← PresencePayload.fromB64 P inner.body
  if payload.operatorName ≠ contact.name then
    throw (.yakr .yakrError ("presence operator '" ++ payload.operatorName
      ++ "' does not match contact '" ++ contact.name ++ "'"))
  else if isPresenceFresh payload now then return some payload
  else return none

theorem applyPresenceMessage_run (contact : Contact) (inner : InnerMessage) (now : Int)
    (store : FileLocalStore) :
    (applyPresenceMessage P contact inner now).run store =
      if inner.type.isPresence then
        match presenceVerdict P contact inner now with
        | .error e => .error e store
        | .ok none => .ok none store
        | .ok (some payload) =>
            match store.savePresence payload with
            | .error e => .error e store
            | .ok store' => .ok (some payload) store'
      else .ok none store := by
  unfold applyPresenceMessage
  cases inner.type.isPresence with
  | false => rfl
  | true =>
      simp only [Bool.not_true, Bool.false_eq_true, if_false, if_true]
      unfold presenceVerdict
      rw [EStateM.run_bind]
      cases PresencePayload.fromB64 P inner.body with
      | error e => rfl
      | ok payload =>
          simp only [run_orRaise_ok, bind, Except.bind]
          by_cases hname : payload.operatorName ≠ contact.name
          · rw [if_pos hname, if_pos hname]
            rfl
          · rw [if_neg hname, if_neg hname]
            cases isPresenceFresh payload now with
            | false => rfl
            | true =>
                show (do
                    set (← orRaise ((← get).savePresence payload))
                    return some payload : FileLocalStore.StoreM (Option PresencePayload)).run store
                  = _
                rw [run_get_bind, if_pos rfl]
                dsimp only [pure, Except.pure]
                cases store.savePresence payload with
                | error e => rfl
                | ok store' => rfl

theorem savePresence_contacts {store store' : FileLocalStore} {payload : PresencePayload}
    (h : store.savePresence payload = .ok store') : store'.contacts = store.contacts := by
  unfold FileLocalStore.savePresence at h
  obtain ⟨u, -, h⟩ := bind_ok.mp h
  obtain rfl := Except.ok.inj h
  rfl

/-! ### Receipts and texts -/

/-- The fetch once the row of a delivered message is deleted. -/
def Fetching.delivered (f : Fetching) (contactName id : String) : Fetching :=
  { f with world := { f.world with
      store := f.world.store.markOutboundDelivered contactName id } }

/-- The fetch once the profile that a message carried counts as acknowledged. -/
def Fetching.acknowledged (f : Fetching) (contactName id : String) : Fetching :=
  match f.world.store.findProfileAckPending contactName id with
  | none => f
  | some (profileVersion, relayNames) =>
      { f with
        world := { f.world with store := f.world.store.deleteProfileAckPending contactName id }
        contact := applyPeerProfileAckPending f.contact profileVersion relayNames }

/-- An acknowledgement changes what is acknowledged, and nothing else of the contact. -/
theorem applyPeerProfileAckPending_eq (contact : Contact) (profileVersion : Int)
    (relayNames : List String) : ∃ version names,
      applyPeerProfileAckPending contact profileVersion relayNames
        = { contact with
            peerAckedMyProfileVersion := version
            peerAckedMyRelayNames := names } := by
  unfold applyPeerProfileAckPending
  split
  · exact ⟨_, _, rfl⟩
  · exact ⟨_, _, rfl⟩

/-- The line about a receipt, shown when a row was deleted. -/
def receiptShown (polls : Polls) (quiet : Bool) (deleted : Bool) (messageId : Json) :
    Except PyExc Unit :=
  if deleted && !quiet then do
    let id ← firstTwelve messageId
    shown polls quiet ("[green]Delivery receipt for " ++ id ++ "…[/green]")
  else .ok ()

theorem handleReceipt_run (inner : InnerMessage) (f : Fetching) :
    (handleReceipt P polls contactName quiet inner).run f =
      match sqlText P inner.messageId with
      | .error e => .error e f
      | .ok id =>
          match receiptShown polls quiet (f.world.store.hasOutbound contactName id)
              inner.messageId with
          | .error e => .error e (f.delivered contactName id)
          | .ok () =>
              .ok () (((f.delivered contactName id).acknowledged contactName id).saved P) := by
  have hrest : ∀ (id : String) (f : Fetching), (do
      match (← get).world.store.findProfileAckPending contactName id with
      | none => pure ()
      | some (profileVersion, relayNames) =>
          Fetching.onStore (modify (FileLocalStore.deleteProfileAckPending contactName id))
          modify fun f =>
            { f with contact := applyPeerProfileAckPending f.contact profileVersion relayNames }
      Fetching.save P : FetchM Unit).run f = .ok () ((f.acknowledged contactName id).saved P) := by
    intro id f
    rw [run_get_bind, Fetching.acknowledged]
    cases f.world.store.findProfileAckPending contactName id with
    | none => rfl
    | some pending => rfl
  unfold handleReceipt
  cases sqlText P inner.messageId with
  | error e => rfl
  | ok id =>
      rw [EStateM.run_bind, run_orRaise_ok]
      dsimp only
      rw [run_get_bind]
      have hmark : (Fetching.onStore (modify (FileLocalStore.markOutboundDelivered contactName id)) :
          FetchM Unit).run f = .ok () (f.delivered contactName id) := rfl
      rw [EStateM.run_bind, hmark]
      dsimp only
      unfold receiptShown
      by_cases hdeleted : (f.world.store.hasOutbound contactName id && !quiet) = true
      · rw [if_pos hdeleted, if_pos hdeleted]
        cases firstTwelve inner.messageId with
        | error e => rfl
        | ok text =>
            rw [EStateM.run_bind, run_orRaise_ok]
            dsimp only [bind, Except.bind]
            rw [report_eq]
            cases shown polls quiet ("[green]Delivery receipt for " ++ text ++ "…[/green]") with
            | error e => rfl
            | ok u => exact hrest id _
      · rw [if_neg hdeleted, if_neg hdeleted]
        exact hrest id _

theorem run_onStore {α : Type} (m : FileLocalStore.StoreM α) (f : Fetching) :
    (Fetching.onStore m).run f =
      match m.run f.world.store with
      | .ok a store => .ok a { f with world := { f.world with store } }
      | .error e store => .error e { f with world := { f.world with store } } := by
  cases hm : m.run f.world.store with
  | ok a store => exact run_onPart_ok.mpr ⟨store, hm, rfl⟩
  | error e store => exact run_onPart_error.mpr ⟨store, hm, rfl⟩

/-- The line about a receipt that stays queued. -/
def queuedLine (deliveredId : String) : String :=
  "[yellow]Receipt for " ++ String.ofList (deliveredId.toList.take 12)
    ++ "… queued (relay unreachable)[/yellow]"

/-- What follows the commit of a text. -/
def finishText (P : Packages) (send : Sender) (polls : Polls) (contactName : String)
    (quiet : Bool) (deliveredId : String) (receiptRoute : Option String) (body : String) :
    FetchM Unit := do
  report polls quiet ("[cyan]" ++ contactName ++ "[/cyan]: " ++ body)
  modify fun f => { f with fetched := f.fetched + 1 }
  let sent ← Fetching.onDevice (send contactName deliveredId receiptRoute)
  if !sent then report polls quiet (queuedLine deliveredId)
  refreshContactSendState P
  Fetching.save P

/-- The commit of a text on the contact object as it stands. -/
def commitText (P : Packages) (identity : Identity) (attempt : Attempt) (inner : InnerMessage)
    (deliveredId : String) (receiptRoute : Option String) (f : Fetching) : FetchM Unit :=
  Fetching.onStore (FileLocalStore.atomicCommitReceiveText P identity attempt.nonce attempt.synced
    f.contact inner (some deliveredId) receiptRoute attempt.now)

/-- A text is committed, and then its receipt is sent; receipts take no route. -/
theorem handleText_run (attempt : Attempt) (outer : OuterBlob) (inner : InnerMessage)
    (f : Fetching) :
    (handleText P send polls identity contactName route quiet attempt outer inner).run f =
      match (commitText P identity attempt inner (messageId P outer.ciphertext) none f).run f with
      | .error e f' => .error e f'
      | .ok _ f' =>
          (finishText P send polls contactName quiet (messageId P outer.ciphertext) none
            inner.body).run f' := by
  unfold handleText commitText resolveContactRoute
  dsimp only
  rw [run_get_bind, EStateM.run_bind]
  cases (Fetching.onStore (FileLocalStore.atomicCommitReceiveText P identity attempt.nonce
      attempt.synced f.contact inner (some (messageId P outer.ciphertext)) none
      attempt.now)).run f with
  | error e f' => rfl
  | ok u f' => rfl

/-! ### Accepted messages -/

/-- A message that is neither a profile with a body nor a presence is handled by its type alone. -/
theorem handleInner_other (attempt : Attempt) (outer : OuterBlob) {inner : InnerMessage}
    (hprofile : ¬ (inner.type.isProfile = true ∧ inner.body ≠ ""))
    (hpresence : inner.type.isPresence = false) (f : Fetching) :
    (handleInner P send polls identity contactName route quiet attempt outer inner).run f
      = (handleOther P send polls identity contactName route quiet attempt outer inner).run f := by
  have hcond : ¬ (inner.type.isProfile && decide (inner.body ≠ "")) = true := by
    simpa only [Bool.and_eq_true, decide_eq_true_eq] using hprofile
  unfold handleInner
  rw [if_neg hcond, run_get_bind]
  have hnone : (Fetching.onStore (applyPresenceMessage P f.contact inner attempt.now)).run f
      = .ok none f := by
    rw [run_onStore, applyPresenceMessage_run, if_neg (by simp [hpresence])]
  rw [EStateM.run_bind, run_tryCatch, hnone]

/-- A profile with a body. -/
theorem handleInner_profile (attempt : Attempt) (outer : OuterBlob) {inner : InnerMessage}
    (htype : inner.type.isProfile = true) (hbody : inner.body ≠ "") :
    handleInner P send polls identity contactName route quiet attempt outer inner
      = handleProfile P polls contactName quiet attempt.now inner := by
  have hcond : (inner.type.isProfile && decide (inner.body ≠ "")) = true := by
    simp [htype, hbody]
  rw [handleInner, if_pos hcond]

/-- The line about a presence that was applied. -/
def presenceLine (payload : PresencePayload) : String :=
  "[green]Updated presence for " ++ payload.operatorName ++ " → " ++ payload.reachableUrl
    ++ "[/green]"

/-- A presence message; one that is refused or stale is handled no further. -/
theorem handleInner_presence (attempt : Attempt) (outer : OuterBlob) {inner : InnerMessage}
    (htype : inner.type = .presence) (f : Fetching) :
    (handleInner P send polls identity contactName route quiet attempt outer inner).run f =
      match presenceVerdict P f.contact inner attempt.now with
      | .error e => if e.isYakrError then .ok () f else .error e f
      | .ok none => .ok () f
      | .ok (some payload) =>
          match f.world.store.savePresence payload with
          | .error e => if e.isYakrError then .ok () f else .error e f
          | .ok store =>
              match shown polls quiet (presenceLine payload) with
              | .error e =>
                  .error e (Fetching.saved P { f with world := { f.world with store } })
              | .ok () => .ok () (Fetching.saved P { f with world := { f.world with store } }) := by
  have hcond : ¬ (inner.type.isProfile && decide (inner.body ≠ "")) = true := by
    simp [htype, MessageType.isProfile]
  have hother : (handleOther P send polls identity contactName route quiet attempt outer inner)
      = pure () := by
    simp [handleOther, htype, MessageType.isReceipt, MessageType.isText]
  unfold handleInner
  rw [if_neg hcond, run_get_bind, EStateM.run_bind, run_tryCatch, run_onStore,
    applyPresenceMessage_run, if_pos (by simp [htype, MessageType.isPresence])]
  cases presenceVerdict P f.contact inner attempt.now with
  | error e =>
      dsimp only
      cases e.isYakrError with
      | true =>
          simp only [if_true]
          show (handleOther P send polls identity contactName route quiet attempt outer inner).run f
            = _
          rw [hother]
          rfl
      | false => rfl
  | ok found =>
      cases found with
      | none =>
          show (handleOther P send polls identity contactName route quiet attempt outer inner).run f
            = _
          rw [hother]
          rfl
      | some payload =>
          dsimp only
          cases f.world.store.savePresence payload with
          | error e =>
              dsimp only
              cases e.isYakrError with
              | true =>
                  simp only [if_true]
                  show (handleOther P send polls identity contactName route quiet attempt outer
                    inner).run f = _
                  rw [hother]
                  rfl
              | false => rfl
          | ok store =>
              dsimp only
              rw [report_eq]
              show (orRaise (shown polls quiet (presenceLine payload)) : FetchM Unit).run
                (Fetching.saved P { f with world := { f.world with store } }) = _
              cases shown polls quiet (presenceLine payload) with
              | error e => rfl
              | ok u => rfl

/-- The fetch with an accepted message. -/
def Fetching.accepting (f : Fetching) (c : Contact) (inner : InnerMessage) : Fetching :=
  { f with
    contact := c
    world := { f.world with accepted := f.world.accepted ++ [inner] } }

/-- An item that is accepted comes to what its message comes to. -/
theorem handleItem_accepted {tag round : Nat} {item : Json} {outer : OuterBlob} {f : Fetching}
    {inner : InnerMessage} {c : Contact}
    (houter : OuterBlob.fromRelayJson P item = .ok outer)
    (haccepted : (decryptInbound P (polls.attempt tag round item).generated
      (polls.attempt tag round item).now outer).run f.contact = .ok inner c) :
    (handleItem P send polls identity contactName route quiet tag round item).run f
      = match (handleInner P send polls identity contactName route quiet
          (polls.attempt tag round item) outer inner).run (f.accepting c inner) with
        | .ok () f' => .ok .done f'
        | .error e f' => .error e f' := by
  have hopen : (openBlob P (polls.attempt tag round item) outer).run f
      = .ok (.ok inner) { f with contact := c } := by
    unfold openBlob
    have hsession : (Fetching.onSession (decryptInbound P (polls.attempt tag round item).generated
        (polls.attempt tag round item).now outer)).run f = .ok inner { f with contact := c } :=
      run_onPart_ok.mpr ⟨c, haccepted, rfl⟩
    rw [run_tryCatch, run_map, hsession]
  unfold handleItem
  rw [houter, EStateM.run_bind, run_orRaise_ok]
  dsimp only
  rw [EStateM.run_bind, hopen]
  dsimp only
  rw [run_modify_bind]
  show ((handleInner P send polls identity contactName route quiet (polls.attempt tag round item)
    outer inner >>= fun _ => pure Verdict.done : FetchM Verdict)).run (f.accepting c inner) = _
  rw [EStateM.run_bind]
  cases (handleInner P send polls identity contactName route quiet (polls.attempt tag round item)
      outer inner).run (f.accepting c inner) with
  | ok u f' => rfl
  | error e f' => rfl

/-- A refused item leaves the fetch with the ratchet that the attempt at it has left. -/
theorem handleItem_rejected {tag round : Nat} {item : Json} {outer : OuterBlob} {f : Fetching}
    {e : PyExc} {c : Contact} (houter : OuterBlob.fromRelayJson P item = .ok outer)
    (hrefused : (decryptInbound P (polls.attempt tag round item).generated
      (polls.attempt tag round item).now outer).run f.contact = .error e c) :
    after ((handleItem P send polls identity contactName route quiet tag round item).run f)
      = { f with contact := c } := by
  have hsession : (Fetching.onSession (decryptInbound P (polls.attempt tag round item).generated
      (polls.attempt tag round item).now outer)).run f = .error e { f with contact := c } :=
    run_onPart_error.mpr ⟨c, hrefused, rfl⟩
  unfold handleItem
  rw [houter, EStateM.run_bind, run_orRaise_ok]
  dsimp only
  rw [EStateM.run_bind]
  unfold openBlob
  rw [run_tryCatch, run_map, hsession]
  dsimp only
  cases e.isDuplicateSeqError with
  | true => rfl
  | false =>
      cases e.isYakrError with
      | true => rfl
      | false => rfl

/-! ### One thing at a time -/

/-- The fetch with a message accepted: the object counts it, and its ratchet has moved. -/
def Fetching.opening (f : Fetching) (ratchet : RatchetState) (inner : InnerMessage) : Fetching :=
  f.accepting { f.contact with ratchet := some ratchet, lastRecvSeq := inner.seq } inner

/-- The fetch with a text committed. -/
def Fetching.committed (P : Packages) (identity : Identity) (attempt : Attempt) (f : Fetching)
    (inner : InnerMessage) (deliveredId : String) : Fetching :=
  { f with world := { f.world with
      store := FileLocalStore.received P identity attempt.nonce f.contact inner (some deliveredId)
        none attempt.now f.world.store } }

/-- What a fetch does, one thing at a time. -/
inductive FetchStep (P : Packages) (send : Sender) (polls : Polls) (identity : Identity)
    (contactName : String) : Fetching → Fetching → Prop
  | refused {f : Fetching} (ratchet : Option RatchetState) :
      FetchStep P send polls identity contactName f { f with contact := { f.contact with ratchet } }
  | accepted {f : Fetching} (ratchet : RatchetState) {inner : InnerMessage}
      (hseq : inner.seq = f.contact.lastRecvSeq + 1) :
      FetchStep P send polls identity contactName f (f.opening ratchet inner)
  | text {f : Fetching} (ratchet : RatchetState) {inner : InnerMessage}
      (hseq : inner.seq = f.contact.lastRecvSeq + 1) (attempt : Attempt) (deliveredId : String) :
      FetchStep P send polls identity contactName f
        ((f.opening ratchet inner).committed P identity attempt inner deliveredId)
  | receipt {f : Fetching} (ratchet : RatchetState) {inner : InnerMessage} {id : String}
      (hseq : inner.seq = f.contact.lastRecvSeq + 1) (htype : inner.type.isReceipt = true)
      (hid : sqlText P inner.messageId = .ok id) :
      FetchStep P send polls identity contactName f
        ((f.opening ratchet inner).delivered contactName id)
  | acknowledged {f : Fetching} (id : String) :
      FetchStep P send polls identity contactName f (f.acknowledged contactName id)
  | profile {f : Fetching} {text : String} {profile : DeliveryProfile} (tag round : Nat)
      (item : Json) (hread : DeliveryProfile.fromB64 P text = .ok profile)
      (hupdate : updateVerdict P f.contact profile (polls.attempt tag round item).now = .ok ()) :
      FetchStep P send polls identity contactName f (f.withProfile profile)
  | presence {f : Fetching} {payload : PresencePayload} {store : FileLocalStore}
      (hsave : f.world.store.savePresence payload = .ok store) :
      FetchStep P send polls identity contactName f { f with world := { f.world with store } }
  | saved {f : Fetching} : FetchStep P send polls identity contactName f (f.saved P)
  | counted {f : Fetching} (fetched : Nat) :
      FetchStep P send polls identity contactName f { f with fetched }
  | sent {f : Fetching} (deliveredId : String) (route : Option String) :
      FetchStep P send polls identity contactName f
        { f with world := after ((send contactName deliveredId route).run f.world) }
  | refreshed {f : Fetching} {persisted : Contact}
      (hload : f.world.store.getContact P f.contact.name = .ok (some persisted)) :
      FetchStep P send polls identity contactName f
        { f with
          contact := { f.contact with
            nextSendSeq := persisted.nextSendSeq
            ratchet := persisted.ratchet } }

theorem steps_save : Steps (FetchStep P send polls identity contactName) (Fetching.save P) :=
  .modify fun _ => .saved

theorem steps_report (text : String) :
    Steps (FetchStep P send polls identity contactName) (report polls quiet text) :=
  .ite _ (.pure _) (.orRaise _)

theorem steps_refreshContactSendState :
    Steps (FetchStep P send polls identity contactName) (refreshContactSendState P) := by
  intro f
  unfold refreshContactSendState
  rw [run_get_bind]
  cases hload : f.world.store.getContact P f.contact.name with
  | error e => exact .refl
  | ok found =>
      rw [EStateM.run_bind, run_orRaise_ok]
      cases found with
      | none => exact .refl
      | some persisted => exact .single (.refreshed hload)

theorem steps_finishText (deliveredId : String) (receiptRoute : Option String) (body : String) :
    Steps (FetchStep P send polls identity contactName)
      (finishText P send polls contactName quiet deliveredId receiptRoute body) := by
  have hlast : Steps (FetchStep P send polls identity contactName)
      (do refreshContactSendState P; Fetching.save P) :=
    steps_refreshContactSendState.bind fun _ => steps_save
  unfold finishText
  refine (steps_report _).bind fun _ => (Steps.modify fun _ => .counted _).bind fun _ => ?_
  refine Steps.bind ?_ fun sent => steps_before (steps_report _) hlast
  exact .onPart fun _ => .sent _ _

theorem steps_handleProfile (tag round : Nat) (item : Json) (inner : InnerMessage) :
    Steps (FetchStep P send polls identity contactName)
      (handleProfile P polls contactName quiet (polls.attempt tag round item).now inner) := by
  intro f
  rw [handleProfile_run]
  cases hread : DeliveryProfile.fromB64 P inner.body with
  | error e => exact .refl
  | ok profile =>
      dsimp only
      cases hupdate : updateVerdict P f.contact profile (polls.attempt tag round item).now with
      | error e =>
          dsimp only
          split
          · exact .single .saved
          · exact .refl
      | ok u =>
          have hprofile : FetchStep P send polls identity contactName f (f.withProfile profile) :=
            .profile tag round item hread hupdate
          dsimp only
          cases shown polls quiet (profileLine contactName profile) with
          | error e =>
              dsimp only
              split
              · exact .tail (.single hprofile) .saved
              · exact .single hprofile
          | ok u' => exact .tail (.single hprofile) .saved

section Accepted

variable {f : Fetching} {ratchet : RatchetState} {inner : InnerMessage} {attempt : Attempt}
  {outer : OuterBlob}

/-- A text that was accepted. -/
theorem steps_handleText (hseq : inner.seq = f.contact.lastRecvSeq + 1) :
    Relation.ReflTransGen (FetchStep P send polls identity contactName) f
      (after ((handleText P send polls identity contactName route quiet attempt outer inner).run
        (f.opening ratchet inner))) := by
  rw [handleText_run]
  unfold commitText
  rw [run_onStore]
  by_cases hcommits : FileLocalStore.Commits (f.opening ratchet inner).world.store inner
      (some (messageId P outer.ciphertext))
  · have hcommitted : FetchStep P send polls identity contactName f
        ((f.opening ratchet inner).committed P identity attempt inner
          (messageId P outer.ciphertext)) := .text ratchet hseq attempt _
    rw [FileLocalStore.commit_run hcommits]
    cases attempt.synced with
    | ok u => exact .head hcommitted (steps_finishText _ none inner.body _)
    | error e => exact .single hcommitted
  · obtain ⟨e, hrun⟩ := FileLocalStore.commit_refused P identity attempt.nonce attempt.synced
      (f.opening ratchet inner).contact none attempt.now hcommits
    rw [hrun]
    exact .single (.accepted ratchet hseq)

/-- A receipt that was accepted. -/
theorem steps_handleReceipt (hseq : inner.seq = f.contact.lastRecvSeq + 1)
    (htype : inner.type.isReceipt = true) :
    Relation.ReflTransGen (FetchStep P send polls identity contactName) f
      (after ((handleReceipt P polls contactName quiet inner).run (f.opening ratchet inner))) := by
  rw [handleReceipt_run]
  cases hid : sqlText P inner.messageId with
  | error e => exact .single (.accepted ratchet hseq)
  | ok id =>
      have hdelivered : FetchStep P send polls identity contactName f
          ((f.opening ratchet inner).delivered contactName id) := .receipt ratchet hseq htype hid
      dsimp only
      cases receiptShown polls quiet ((f.opening ratchet inner).world.store.hasOutbound contactName
          id) inner.messageId with
      | error e => exact .single hdelivered
      | ok u => exact .tail (.tail (.single hdelivered) (.acknowledged id)) .saved

theorem steps_handleOther (hseq : inner.seq = f.contact.lastRecvSeq + 1) :
    Relation.ReflTransGen (FetchStep P send polls identity contactName) f
      (after ((handleOther P send polls identity contactName route quiet attempt outer inner).run
        (f.opening ratchet inner))) := by
  unfold handleOther
  split
  · rename_i hreceipt
    exact steps_handleReceipt hseq (Bool.and_eq_true_iff.mp hreceipt).1
  · split
    · exact steps_handleText hseq
    · exact .single (.accepted ratchet hseq)

/-- A presence that was accepted. -/
theorem steps_handlePresence (hseq : inner.seq = f.contact.lastRecvSeq + 1)
    (htype : inner.type = .presence) :
    Relation.ReflTransGen (FetchStep P send polls identity contactName) f
      (after ((handleInner P send polls identity contactName route quiet attempt outer inner).run
        (f.opening ratchet inner))) := by
  have haccepted : FetchStep P send polls identity contactName f (f.opening ratchet inner) :=
    .accepted ratchet hseq
  rw [handleInner_presence attempt outer htype]
  cases presenceVerdict P (f.opening ratchet inner).contact inner attempt.now with
  | error e =>
      dsimp only
      split
      · exact .single haccepted
      · exact .single haccepted
  | ok found =>
      cases found with
      | none => exact .single haccepted
      | some payload =>
          dsimp only
          cases hsave : (f.opening ratchet inner).world.store.savePresence payload with
          | error e =>
              dsimp only
              split
              · exact .single haccepted
              · exact .single haccepted
          | ok store =>
              dsimp only
              have hsaved := Relation.ReflTransGen.tail
                (.tail (.single haccepted) (.presence hsave)) .saved
              cases shown polls quiet (presenceLine payload) with
              | error e => exact hsaved
              | ok u => exact hsaved

theorem steps_handleInner (tag round : Nat) (item : Json)
    (hseq : inner.seq = f.contact.lastRecvSeq + 1) :
    Relation.ReflTransGen (FetchStep P send polls identity contactName) f
      (after ((handleInner P send polls identity contactName route quiet
        (polls.attempt tag round item) outer inner).run (f.opening ratchet inner))) := by
  by_cases hprofile : inner.type.isProfile = true ∧ inner.body ≠ ""
  · rw [handleInner_profile _ outer hprofile.1 hprofile.2]
    exact .head (.accepted ratchet hseq) (steps_handleProfile tag round item inner _)
  · by_cases hpresence : inner.type = .presence
    · exact steps_handlePresence hseq hpresence
    · have hno : inner.type.isPresence = false := by
        cases htype : inner.type with
        | presence => exact absurd htype hpresence
        | _ => rfl
      rw [handleInner_other _ outer hprofile hno]
      exact steps_handleOther hseq

end Accepted

/-- An attempt at an item, whether it returns or raises. -/
theorem steps_handleItem (tag round : Nat) (item : Json) :
    Steps (FetchStep P send polls identity contactName)
      (handleItem P send polls identity contactName route quiet tag round item) := by
  intro f
  cases houter : OuterBlob.fromRelayJson P item with
  | error e =>
      unfold handleItem
      rw [houter]
      exact .refl
  | ok outer =>
      cases hrun : (decryptInbound P (polls.attempt tag round item).generated
          (polls.attempt tag round item).now outer).run f.contact with
      | error e c =>
          obtain ⟨ratchet, rfl⟩ := decryptInbound_error hrun
          rw [handleItem_rejected houter hrun]
          exact .single (.refused ratchet)
      | ok inner c =>
          obtain ⟨ratchet, hcheck, rfl⟩ := decryptInbound_ok hrun
          have hinner : Relation.ReflTransGen (FetchStep P send polls identity contactName) f
              (after ((handleInner P send polls identity contactName route quiet
                (polls.attempt tag round item) outer inner).run (f.opening ratchet inner))) :=
            steps_handleInner tag round item (checkInner_ok.mp hcheck).2.1
          rw [handleItem_accepted houter hrun]
          cases hhandled : (handleInner P send polls identity contactName route quiet
              (polls.attempt tag round item) outer inner).run (f.opening ratchet inner) with
          | ok u f' =>
              rw [hhandled] at hinner
              unfold Fetching.opening at hhandled
              rw [hhandled]
              exact hinner
          | error e f' =>
              rw [hhandled] at hinner
              unfold Fetching.opening at hhandled
              rw [hhandled]
              exact hinner

end Steps

end Yakr
