import Yakr.Core.Session
import Yakr.Core.Sql

/-!
# Yakr.Core.Store

**`FileLocalStore` of `store.py`.** The database of one device as a record of
tables, its statements as functions on the record. A statement that writes runs in
a transaction of its own, so it changes the record as a whole or not at all.
Clock readings are arguments. A contact is also written to a file of its own, which nothing
reads while the database has the contact; of that file only the outcome is an argument, where
it matters.
-/

namespace Yakr

open Lib Effect

variable (P : Packages)

/-! ### Rows -/

/-- A row of `outbound_pending`; the three columns of the outer blob are nullable. -/
structure OutboundPending where
  contactName : String
  msgId : String
  seq : Int
  body : String
  createdAt : Int
  validUntil : Int
  outerCiphertextB64 : Option String := none
  mailboxTagB64 : Option String := none
  outerExpiresAt : Option Int := none
deriving DecidableEq, Repr

/-- A row of `inbound_messages`. -/
structure InboundMessage where
  contactName : String
  seq : Int
  validUntil : Int
  receivedAt : Int
  localCiphertext : Bytes
deriving DecidableEq, Repr

/-- A row of `pending_receipts`. -/
structure PendingReceipt where
  contactName : String
  deliveredId : String
  route : Option String
  createdAt : Int
deriving DecidableEq, Repr

/-- A row of `profile_ack_pending`. -/
structure ProfileAckPending where
  contactName : String
  msgId : String
  profileVersion : Int
  relayNames : String
deriving DecidableEq, Repr

namespace OutboundPending

/-- The primary key. -/
def key (r : OutboundPending) : String × String := (r.contactName, r.msgId)

end OutboundPending

namespace InboundMessage

/-- The primary key. -/
def key (r : InboundMessage) : String × Int := (r.contactName, r.seq)

end InboundMessage

namespace PendingReceipt

/-- The primary key. -/
def key (r : PendingReceipt) : String × String := (r.contactName, r.deliveredId)

end PendingReceipt

namespace ProfileAckPending

/-- The primary key. -/
def key (r : ProfileAckPending) : String × String := (r.contactName, r.msgId)

end ProfileAckPending

structure FileLocalStore where
  contacts : List ContactDict := []
  outboundPending : List OutboundPending := []
  inboundMessages : List InboundMessage := []
  pendingReceipts : List PendingReceipt := []
  profileAckPending : List ProfileAckPending := []
  relayPresence : List PresencePayload := []
  /-- The text of `profiles/local.profile`, if the file exists. -/
  localProfile : Option String := none
  /-- `test_fault`: where a transaction is to fail. -/
  testFault : Option String := none

namespace FileLocalStore

/-! ### Contacts -/

/-- `get_contact`. -/
def getContact (store : FileLocalStore) (name : String) : Except PyExc (Option Contact) :=
  mapPresent (Contact.fromDict P) (Table.find ContactDict.name name store.contacts)

/-- `save_contact`, and `atomic_persist_contact`, which writes the same row. -/
def saveContact (contact : Contact) (store : FileLocalStore) : FileLocalStore :=
  { store with contacts := Table.upsert ContactDict.name (contact.toDict P) store.contacts }

/-- `list_contacts`. -/
def listContacts (store : FileLocalStore) : List String :=
  orderByText id (store.contacts.map ContactDict.name)

/-! ### Outbound messages -/

/-- `atomic_commit_send`: the contact and the pending row in one transaction. -/
def atomicCommitSend (contact : Contact) (msgId : String) (seq : Int) (body : String)
    (outer : OuterBlob) (now : Int) (store : FileLocalStore) : FileLocalStore :=
  { store.saveContact P contact with
    outboundPending := Table.upsert OutboundPending.key
      { contactName := contact.name
        msgId, seq, body
        createdAt := now
        validUntil := messageValidUntil now
        outerCiphertextB64 := some (b64encode outer.ciphertext)
        mailboxTagB64 := some (b64encode outer.mailboxTag)
        outerExpiresAt := some outer.expiresAt }
      store.outboundPending }

/-- The outer blob of a row; an empty or missing column means there is none. -/
def outerOf (row : OutboundPending) : Except PyExc (Option OuterBlob) :=
  match row.outerCiphertextB64, row.mailboxTagB64, row.outerExpiresAt with
  | some ciphertext, some tag, some expiresAt =>
      if ciphertext = "" ∨ tag = "" then .ok none
      else do
        let mailboxTag ← b64decode tag
        let ciphertext ← b64decode ciphertext
        return some { version := 1, mailboxTag, expiresAt, ciphertext }
  | _, _, _ => .ok none

/-- `load_outbound_outer`. -/
def loadOutboundOuter (store : FileLocalStore) (contactName msgId : String) :
    Except PyExc (Option OuterBlob) :=
  match Table.find OutboundPending.key (contactName, msgId) store.outboundPending with
  | none => .ok none
  | some row => outerOf row

/-- `mark_outbound_delivered`, without its result: whether a row was deleted. -/
def markOutboundDelivered (contactName msgId : String) (store : FileLocalStore) :
    FileLocalStore :=
  { store with
    outboundPending :=
      Table.delete OutboundPending.key (contactName, msgId) store.outboundPending }

/-- The result of `mark_outbound_delivered`. -/
def hasOutbound (store : FileLocalStore) (contactName msgId : String) : Bool :=
  store.outboundPending.any fun r => r.key = (contactName, msgId)

/-- `list_outbound_pending`. -/
def listOutboundPending (store : FileLocalStore) (contactName : String) (now : Int) :
    List OutboundPending :=
  orderBy OutboundPending.seq
    (store.outboundPending.filter fun r => r.contactName = contactName ∧ r.validUntil > now)

/-- Whether a sweep deletes a row with these times. -/
def sweeps (validUntil since now : Int) : Bool := validUntil ≤ now || since ≤ now - messageTtlMs

/-- `sweep_expired_outbound`. -/
def sweepExpiredOutbound (now : Int) (store : FileLocalStore) : FileLocalStore :=
  { store with
    outboundPending := store.outboundPending.filter fun r => !sweeps r.validUntil r.createdAt now }

/-! ### Inbound messages -/

/-- `INSERT OR IGNORE INTO inbound_messages`. -/
def insertInbound (row : InboundMessage) (store : FileLocalStore) : FileLocalStore :=
  { store with
    inboundMessages := Table.insertNew InboundMessage.key row store.inboundMessages }

/-- What `InnerMessage.from_bytes(unwrap_local_ciphertext(identity, …))` makes of a row. -/
def openInbound (identity : Identity) (row : InboundMessage) : Except PyExc InnerMessage := do
  InnerMessage.fromBytes P (← unwrapLocalCiphertext P identity row.localCiphertext)

/-- `list_inbound_messages_timed`: sequence number, body and arrival of the texts that live. -/
def listInboundMessagesTimed (store : FileLocalStore) (contactName : String)
    (identity : Identity) (now : Int) : List (Int × String × Int) :=
  (orderBy InboundMessage.receivedAt (orderBy InboundMessage.seq
    (store.inboundMessages.filter fun r => r.contactName = contactName ∧ r.validUntil > now)))
  |>.filterMap fun row =>
    match openInbound P identity row with
    | .error _ => none
    | .ok inner =>
        if isMessageExpired inner.validUntil now then none
        else if inner.type.isText then some (inner.seq, inner.body, row.receivedAt)
        else none

/-- `sweep_expired_messages`. -/
def sweepExpiredMessages (now : Int) (store : FileLocalStore) : FileLocalStore :=
  { store with
    inboundMessages :=
      store.inboundMessages.filter fun r => !sweeps r.validUntil r.receivedAt now }

/-! ### Receipts -/

/-- `save_pending_receipt`. -/
def savePendingReceipt (contactName deliveredId : String) (route : Option String) (now : Int)
    (store : FileLocalStore) : FileLocalStore :=
  { store with
    pendingReceipts := Table.upsert PendingReceipt.key
      { contactName, deliveredId, route, createdAt := now } store.pendingReceipts }

/-- `list_pending_receipts`. -/
def listPendingReceipts (store : FileLocalStore) (contactName : Option String) :
    List PendingReceipt :=
  orderBy PendingReceipt.createdAt
    (match contactName with
    | none => store.pendingReceipts
    | some name => store.pendingReceipts.filter fun r => r.contactName = name)

/-- `delete_pending_receipt`. -/
def deletePendingReceipt (contactName deliveredId : String) (store : FileLocalStore) :
    FileLocalStore :=
  { store with
    pendingReceipts :=
      Table.delete PendingReceipt.key (contactName, deliveredId) store.pendingReceipts }

/-! ### Receiving -/

/-- A method of the store that raises. -/
abbrev StoreM := EStateM PyExc FileLocalStore

/-- `BEGIN IMMEDIATE` and what follows it up to `commit`; an exception rolls back. -/
def transaction {α : Type} (body : StoreM α) : StoreM α := fun store =>
  match body.run store with
  | .ok a store' => .ok a store'
  | .error e _ => .error e store

/-- `if self.test_fault == …`. -/
def injectFault (fault : String) : StoreM Unit := do
  if (← get).testFault = some fault then throw (.other "OperationalError")

/-- `atomic_commit_receive_text`: the contact, the message and the receipt to send in one
transaction, then the contact's file, with the outcome of writing it. -/
def atomicCommitReceiveText (identity : Identity) (nonce : Nonce) (synced : Except PyExc Unit)
    (contact : Contact) (inner : InnerMessage) (deliveredId receiptRoute : Option String)
    (now : Int) : StoreM Unit := do
  let wrapped ← orRaise (wrapLocalCiphertext P identity nonce inner.toBytes)
  transaction do
    modify (saveContact P contact)
    injectFault "inbound_message"
    orRaise (sqlInteger inner.seq)
    orRaise (sqlInteger inner.validUntil)
    modify (insertInbound
      { contactName := contact.name
        seq := inner.seq
        validUntil := inner.validUntil
        receivedAt := now
        localCiphertext := wrapped })
    match deliveredId with
    | some deliveredId =>
        injectFault "pending_receipt"
        modify (savePendingReceipt contact.name deliveredId receiptRoute now)
    | none => pure ()
  orRaise synced

/-! ### Profiles -/

/-- `load_local_profile`. -/
def loadLocalProfile (store : FileLocalStore) : Except PyExc (Option DeliveryProfile) :=
  mapPresent (fun text => DeliveryProfile.fromB64 P (strip text)) store.localProfile

/-- `save_local_profile`. -/
def saveLocalProfile (profile : DeliveryProfile) (store : FileLocalStore) : FileLocalStore :=
  { store with localProfile := some (profile.toB64 P) }

/-- `save_profile_ack_pending`. -/
def saveProfileAckPending (contactName msgId : String) (profileVersion : Int)
    (relayNames : List String) (store : FileLocalStore) : Except PyExc FileLocalStore := do
  sqlInteger profileVersion
  return { store with
    profileAckPending := Table.upsert ProfileAckPending.key
      { contactName, msgId, profileVersion, relayNames := ",".intercalate relayNames }
      store.profileAckPending }

/-- The row `take_profile_ack_pending` returns. -/
def findProfileAckPending (store : FileLocalStore) (contactName msgId : String) :
    Option (Int × List String) :=
  (Table.find ProfileAckPending.key (contactName, msgId) store.profileAckPending).map fun row =>
    (row.profileVersion, splitNames row.relayNames)

/-- What `take_profile_ack_pending` deletes. -/
def deleteProfileAckPending (contactName msgId : String) (store : FileLocalStore) :
    FileLocalStore :=
  { store with
    profileAckPending :=
      Table.delete ProfileAckPending.key (contactName, msgId) store.profileAckPending }

/-! ### Presence -/

/-- `save_presence`. -/
def savePresence (payload : PresencePayload) (store : FileLocalStore) :
    Except PyExc FileLocalStore := do
  sqlInteger payload.validUntil
  return { store with
    relayPresence := Table.upsert PresencePayload.operatorName
      { payload with reachableUrl := rstripSlash payload.reachableUrl, protocol := presenceProtocol }
      store.relayPresence }

/-- `load_presence`. -/
def loadPresence (store : FileLocalStore) (operatorName : String) : Option PresencePayload :=
  Table.find PresencePayload.operatorName operatorName store.relayPresence

/-- `list_presences`. -/
def listPresences (store : FileLocalStore) : List PresencePayload :=
  orderByText PresencePayload.operatorName store.relayPresence

end FileLocalStore
end Yakr
