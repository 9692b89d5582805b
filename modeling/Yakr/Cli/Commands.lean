import Yakr.Cli.Fetch

/-!
# Yakr.Cli.Commands

**The commands that send.** `send_cmd` of `main.py`, `resend_pending_for_contact` of `network.py`,
`broadcast_presence` of `presence_cmds.py`, `profile_push` of `profile_cmds.py` and
`receipts_flush` of `receipt_cmds.py`. Each loads its own contact object, seals what it sends,
writes the contact before the delivery and does not read it again. A command may raise at any
point; what it has written by then stays written.

`Operation.execute` is one command run to its end on a device, a run is a list of them.
-/

namespace Yakr

open Lib Effect

variable (P : Packages)

/-- What the next encryption draws. -/
def nextDraws (outside : Outside) : EStateM PyExc World Draws := do
  let n := (← get).encryptions
  modify fun w => { w with encryptions := w.encryptions + 1 }
  return outside.draws n

/-- A method of the store. -/
def onFiles {α : Type} (m : FileLocalStore.StoreM α) : HandlingM α :=
  onPart (fun h => h.world.store) (fun h store => { h with world := { h.world with store } }) m

/-- `atomic_commit_send` with its exceptions: a statement that fails is rolled back with those
before it. -/
def commitSend (now : Int) (body : String) (encrypted : EncryptedMessage) : HandlingM Unit := do
  let contact := (← get).contact
  onFiles do
    FileLocalStore.transaction do
      FileLocalStore.injectFault "outbound_pending"
      orRaise (sqlInteger encrypted.innerMessage.seq)
      modify (FileLocalStore.atomicCommitSend P contact encrypted.msgId
        encrypted.innerMessage.seq body encrypted.outerBlob now)

/-! ### `send_cmd` -/

/-- What `_send_dummy_blob` draws. -/
structure DummyDraws where
  now : Int
  payload : BytesN (size4K - 40)
  nonce : BytesN 24
  tag : BytesN 16

/-- The blob of `_send_dummy_blob` and the relay it goes to: the first of the tags, the first of the
relays. An explicit route is looked up as it is written, also `auto`. -/
def dummyBlob (env : Settings) (identity : Identity) (contact : Contact) (route : Option String)
    (store : FileLocalStore) (draws : DummyDraws) : Except PyExc (OuterBlob × String) := do
  let deriver := mailboxDeriver P identity contact true
  let direction := sendDirection identity contact
  let mailboxSecret := deriveMailboxSecret P contact.masterSecret direction
  match ← fetchTagsForMode P deriver draws.now direction .high mailboxSecret 0 with
  | [] => throw (.other "IndexError")
  | decoy :: _ =>
      let outer : OuterBlob :=
        { version := 1
          mailboxTag := decoy.tag
          expiresAt := draws.now + defaultBlobTtlMs
          ciphertext := generateDummyCiphertext size4K draws.payload draws.nonce draws.tag }
      match ← deliveryMailboxUrls P env contact route (some store) draws.now with
      | [] => throw (.other "IndexError")
      | relayUrl :: _ => return (outer, relayUrl)

/-- `_send_dummy_blob`, which does not look at the status of the answer. -/
def sendDummyBlob (outside : Outside) (identity : Identity) (route : Option String)
    (draws : DummyDraws) : HandlingM Unit := do
  let h ← get
  let (outer, relayUrl) ← orRaise
    (dummyBlob P outside.env identity h.contact route h.world.store draws)
  let _ ← postBlob outside outer relayUrl

/-- The part of `send_cmd` that has loaded the contact. In the high privacy mode a dummy follows the
message. -/
def sendText (outside : Outside) (identity : Identity) (draws : Draws) (dummy : DummyDraws)
    (message : String) (route : Option String) : HandlingM Delivery := do
  orRaise (openSession (← get).contact)
  let encrypted ← onContact (encryptText P identity draws message)
  commitSend P draws.now message encrypted
  let delivery ←
    deliverEncrypted P outside encrypted.outerBlob route true draws.now recursionLimit true
  if (← get).contact.privacyMode = .high then
    sendDummyBlob P outside identity route dummy
  return delivery

/-- `send_cmd`. -/
def sendCmd (outside : Outside) (identity : Identity) (dummy : DummyDraws)
    (contactName message : String) (route : Option String) : EStateM PyExc World Delivery := do
  let draws ← nextDraws outside
  match ← orRaise ((← get).store.getContact P contactName) with
  | none => throw (.yakr .contactNotFound ("unknown contact: " ++ contactName))
  | some contact => withContact contact (sendText P outside identity draws dummy message route)

/-! ### `resend_pending_for_contact` -/

/-- A delivery whose `RuntimeError` is passed over. -/
def deliverPending (outside : Outside) (blob : OuterBlob) (route : Option String) (now : Int) :
    HandlingM Bool :=
  tryCatch
    (do
      let _ ← deliverEncrypted P outside blob route true now recursionLimit true
      return true)
    fun e => if e.isRuntimeError then pure false else throw e

/-- `mark_outbound_delivered` with its result. -/
def markDelivered (contactName msgId : String) : HandlingM Bool := do
  let found := (← get).world.store.hasOutbound contactName msgId
  changeStore (FileLocalStore.markOutboundDelivered contactName msgId)
  return found

/-- A row is sent again as it is stored; one without a stored blob is sealed anew under its old
number. -/
def resendRow (outside : Outside) (identity : Identity) (contactName : String)
    (route : Option String) (row : OutboundPending) : HandlingM Nat := do
  let draws ← onWorld (nextDraws outside)
  match ← orRaise ((← get).world.store.loadOutboundOuter contactName row.msgId) with
  | some outer =>
      if ← deliverPending P outside outer route draws.now then
        return if ← markDelivered contactName row.msgId then 1 else 0
      else return 0
  | none =>
      modify fun h => { h with contact := { h.contact with nextSendSeq := row.seq } }
      orRaise (openSession (← get).contact)
      let encrypted ← onContact (encryptText P identity draws row.body)
      commitSend P draws.now row.body encrypted
      if ← deliverPending P outside encrypted.outerBlob route draws.now then
        if encrypted.msgId ≠ row.msgId then
          let _ ← markDelivered contactName row.msgId
        return if ← markDelivered contactName encrypted.msgId then 1 else 0
      else return 0

/-- The loop over the rows, which were listed before it. -/
def resendRows (outside : Outside) (identity : Identity) (contactName : String)
    (route : Option String) : List OutboundPending → HandlingM Nat
  | [] => return 0
  | row :: rows => do
      let resent ← resendRow P outside identity contactName route row
      let others ← resendRows outside identity contactName route rows
      return resent + others

/-- `resend_pending_for_contact`. -/
def resendPendingForContact (outside : Outside) (identity : Identity) (now : Int)
    (contactName : String) (route : Option String) : EStateM PyExc World Nat := do
  let store := (← get).store
  match ← orRaise (store.getContact P contactName) with
  | none => throw (.valueError ("unknown contact: " ++ contactName))
  | some contact =>
      withContact contact
        (resendRows P outside identity contactName route
          (store.listOutboundPending contactName now))

/-! ### `broadcast_presence` -/

/-- A payload for one contact; `announce` is the line about its delivery. -/
def pushPresence (outside : Outside) (identity : Identity)
    (announce : (delivered : Bool) → Except PyExc Unit) (payload : PresencePayload) :
    HandlingM Nat := do
  let draws ← onWorld (nextDraws outside)
  let encrypted ← onContact (encryptPresence P identity draws payload)
  saveHandled P
  tryCatch
    (do
      let _ ←
        deliverEncrypted P outside encrypted.outerBlob none true draws.now recursionLimit true
      orRaise (announce true)
      return 1)
    fun e => do
      if !e.isRuntimeError then throw e
      orRaise (announce false)
      return 0

/-- The payloads for one contact. -/
def pushPresences (outside : Outside) (identity : Identity)
    (announce : (delivered : Bool) → Except PyExc Unit) : List PresencePayload → HandlingM Nat
  | [] => return 0
  | payload :: payloads => do
      let delivered ← pushPresence P outside identity announce payload
      let others ← pushPresences outside identity announce payloads
      return delivered + others

/-- The loop over the contacts; a name without a contact is passed over. -/
def presenceTo (outside : Outside) (identity : Identity)
    (announce : (contactName : String) → (delivered : Bool) → Except PyExc Unit)
    (payloads : List PresencePayload) : List String → EStateM PyExc World Nat
  | [] => return 0
  | contactName :: contactNames => do
      let delivered ←
        match ← orRaise ((← get).store.getContact P contactName) with
        | none => pure 0
        | some contact =>
            withContact contact do
              orRaise (openSession (← get).contact)
              pushPresences P outside identity (announce contactName) payloads
      let others ← presenceTo outside identity announce payloads contactNames
      return delivered + others

/-- The payloads that were sent are saved. -/
def savePresences : List PresencePayload → EStateM PyExc World Unit
  | [] => pure ()
  | payload :: payloads => do
      let store ← orRaise ((← get).store.savePresence payload)
      modify fun w => { w with store }
      savePresences payloads

/-- `broadcast_presence`. -/
def broadcastPresence (outside : Outside) (identity : Identity)
    (announce : (contactName : String) → (delivered : Bool) → Except PyExc Unit)
    (payloads : List PresencePayload) (contactName : Option String) :
    EStateM PyExc World Nat := do
  if payloads.isEmpty then return 0
  let targets ←
    match contactName with
    | some name => if name = "" then pure (← get).store.listContacts else pure [name]
    | none => pure (← get).store.listContacts
  let delivered ← presenceTo P outside identity announce payloads targets
  savePresences payloads
  return delivered

/-! ### `profile_push` -/

/-- `deliver_encrypted` without a store: nothing is refreshed, and no relay of the store is
known. -/
def deliverWithoutStore (outside : Outside) (blob : OuterBlob) (now : Int) :
    HandlingM Delivery := do
  if ← deliverDirect outside blob true then return .direct
  let contact := (← get).contact
  let relayUrls ← orRaise (deliveryMailboxUrls P outside.env contact none none now)
  match ← tryRelays outside blob relayUrls with
  | some relayUrl => return .relay relayUrl
  | none =>
      throw (.runtimeError ("all relay delivery attempts failed for " ++ contact.name))

/-- The local profile; `built` is what `build_local_profile` makes when there is none. -/
def localProfileOr (built : Except PyExc DeliveryProfile) : EStateM PyExc World DeliveryProfile := do
  match ← orRaise ((← get).store.loadLocalProfile P) with
  | some profile => return profile
  | none =>
      let profile ← orRaise built
      modify fun w => { w with store := w.store.saveLocalProfile P profile }
      return profile

/-- The part of `profile_push` that has the contact and the profile. -/
def pushProfile (outside : Outside) (identity : Identity) (draws : Draws) (contactName : String)
    (profile : DeliveryProfile) : HandlingM Delivery := do
  orRaise (openSession (← get).contact)
  let encrypted ← onContact (encryptProfile P identity draws profile)
  saveHandled P
  let store ← orRaise ((← get).world.store.saveProfileAckPending contactName encrypted.msgId
    profile.version (relayNamesFromProfile profile))
  changeStore fun _ => store
  deliverWithoutStore P outside encrypted.outerBlob draws.now

/-- `profile_push`. -/
def profilePush (outside : Outside) (identity : Identity) (built : Except PyExc DeliveryProfile)
    (contactName : String) : EStateM PyExc World Delivery := do
  let draws ← nextDraws outside
  match ← orRaise ((← get).store.getContact P contactName) with
  | none => throw (.exit 1)
  | some contact =>
      let profile ← localProfileOr P built
      withContact contact (pushProfile P outside identity draws contactName profile)

/-! ### Runs -/

/-- One command, with what it gets from outside. -/
inductive Operation where
  | send (outside : Outside) (dummy : DummyDraws) (contactName message : String)
      (route : Option String)
  | fetch (outside : Outside) (polls : Polls) (contactName : String) (route : Option String)
      (wide quiet : Bool)
  | flush (outside : Outside) (contactName route : Option String)
  | resend (outside : Outside) (now : Int) (contactName : String) (route : Option String)
  | presence (outside : Outside)
      (announce : (contactName : String) → (delivered : Bool) → Except PyExc Unit)
      (payloads : List PresencePayload) (contactName : Option String)
  | push (outside : Outside) (built : Except PyExc DeliveryProfile) (contactName : String)
  | sweep (now : Int)

/-- The device after a command, whether it returns or raises. -/
def Operation.execute (identity : Identity) (w : World) : Operation → World
  | .send outside dummy contactName message route =>
      after ((sendCmd P outside identity dummy contactName message route).run w)
  | .fetch outside polls contactName route wide quiet =>
      after ((fetchContactInbound P outside polls identity contactName route wide quiet).run w)
  | .flush outside contactName route =>
      after ((flushReceipts (sendDeliveryReceipt P outside identity) route
        (w.store.listPendingReceipts contactName)).run w)
  | .resend outside now contactName route =>
      after ((resendPendingForContact P outside identity now contactName route).run w)
  | .presence outside announce payloads contactName =>
      after ((broadcastPresence P outside identity announce payloads contactName).run w)
  | .push outside built contactName =>
      after ((profilePush P outside identity built contactName).run w)
  | .sweep now => { w with store := w.store.sweepExpiredOutbound now }

/-- The device after a run of commands. -/
def Operation.run (identity : Identity) (w : World) (operations : List Operation) : World :=
  operations.foldl (Operation.execute P identity) w

end Yakr
