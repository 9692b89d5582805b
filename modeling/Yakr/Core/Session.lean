import Yakr.Core.Identity
import Yakr.Core.Message
import Yakr.Core.Presence

/-!
# Yakr.Core.Session

**`session.py`: sealing and opening messages for one contact.** A method runs on
the contact it was opened for and keeps what it had assigned when it raises. What
a call draws from outside (the clock, a ratchet key, a nonce) is its argument;
one call reads the clock once.
-/

namespace Yakr

open Lib Effect

variable (P : Packages)

/-! ### Re-keying limits of `hybrid_pq.py` -/

def pqRekeyMaxMessages : Int := 10000
def pqRekeyMaxAgeMs : Int := 7 * 24 * 60 * 60 * 1000

/-- `needs_pq_rekey`. -/
def needsPqRekey (hybrid : Bool) (sessionStartedAt messagesSent now : Int) : Bool :=
  hybrid && (now - sessionStartedAt ≥ pqRekeyMaxAgeMs || messagesSent ≥ pqRekeyMaxMessages)

/-! ### Directions and tags -/

/-- `_direction`. -/
def direction (sender recipient : String) : String := sender ++ "->" ++ recipient

/-- `send_direction`. -/
def sendDirection (identity : Identity) (contact : Contact) : String :=
  direction identity.name contact.name

/-- `recv_direction`. -/
def recvDirection (identity : Identity) (contact : Contact) : String :=
  direction contact.name identity.name

/-- The epoch length of a session, from the profile the peer published. -/
def mailboxEpochSecs (contact : Contact) : Int :=
  match contact.deliveryProfile with
  | some profile => profile.mailboxEpochSecs
  | none => 3600

/-- `mailbox_deriver`. -/
def mailboxDeriver (identity : Identity) (contact : Contact) (outbound : Bool) :
    MailboxTagDeriver :=
  { secret := deriveMailboxSecret P contact.masterSecret
      (if outbound then sendDirection identity contact else recvDirection identity contact)
    epochSecs := mailboxEpochSecs contact }

/-! ### Methods -/

/-- A method of `Session`, on its contact. -/
abbrev SessionM := EStateM PyExc Contact

/-- `Session.__init__`. -/
def openSession (contact : Contact) : Except PyExc Unit :=
  if contact.ratchet.isNone then
    .error (.valueError "contact missing double ratchet state; re-pair required")
  else .ok ()

/-- A method of the contact's ratchet. -/
def onRatchet {α : Type} (m : RatchetM α) : SessionM α := fun c =>
  match c.ratchet with
  | none => .error (.attributeError "'NoneType' object has no attribute") c
  | some r =>
      match m.run r with
      | .ok a r' => .ok a { c with ratchet := some r' }
      | .error e r' => .error e { c with ratchet := some r' }

/-- `contact.ratchet.to_dict()`. -/
def ratchetDict : SessionM RatchetDict := onRatchet (return (← get).toDict)

/-- `contact.ratchet = RatchetState.from_dict(snapshot)`, for a snapshot that shares
its skipped keys with the ratchet it was taken from. -/
def rollbackRatchet (snapshot : RatchetDict) : SessionM Unit :=
  onRatchet (RatchetState.restoreSnapshot snapshot)

/-- What a call draws from outside. -/
structure Draws where
  now : Int
  ratchetPrivate : PrivateKey
  nonce : Nonce

structure EncryptedMessage where
  outerBlob : OuterBlob
  innerMessage : InnerMessage
  msgId : String
  mailboxTag : MailboxTag
  paddingBytes : Nat := 0

/-- `_require_fresh_session`. -/
def requireFreshSession (now : Int) : SessionM Unit := do
  let c ← get
  if needsPqRekey c.hybridPq c.sessionStartedAt c.nextSendSeq now then
    throw (.yakr .rekeyRequired "PQ session rekey required")

/-- `_encrypt_inner`. -/
def encryptInner (draws : Draws) (inner : InnerMessage) : SessionM (Bytes × Nat) := do
  let (padded, paddingBytes) ← orRaise (padPlaintext inner.toBytes (← get).privacyMode)
  let payload ← onRatchet (RatchetState.encrypt P draws.ratchetPrivate draws.nonce padded)
  return (payload, paddingBytes)

/-- `_outer_blob`. -/
def outerBlob (ciphertext : Bytes) (tag : MailboxTag) (now : Int) : OuterBlob :=
  { version := 1, mailboxTag := tag.tag, expiresAt := now + defaultBlobTtlMs, ciphertext }

/-- The common body of the four `encrypt_*` methods, which differ in the inner
message they build for a conversation, a device and a sequence number. -/
def encryptMessage (identity : Identity) (draws : Draws)
    (build : (conversationId senderDeviceId : String) → (seq : Int) → InnerMessage) :
    SessionM EncryptedMessage := do
  requireFreshSession draws.now
  let c ← get
  let inner := build c.conversationId (identity.deviceId P) c.nextSendSeq
  let (ciphertext, paddingBytes) ← encryptInner P draws inner
  let c ← get
  let tag ← orRaise
    ((mailboxDeriver P identity c true).derive P draws.now (sendDirection identity c))
  modify fun c => { c with nextSendSeq := c.nextSendSeq + 1 }
  return { outerBlob := outerBlob ciphertext tag draws.now
           innerMessage := inner
           msgId := messageId P ciphertext
           mailboxTag := tag
           paddingBytes }

/-- `encrypt_text`. -/
def encryptText (identity : Identity) (draws : Draws) (body : String) :
    SessionM EncryptedMessage :=
  encryptMessage P identity draws fun conversationId deviceId seq =>
    InnerMessage.text conversationId deviceId seq body draws.now

/-- `encrypt_receipt`. -/
def encryptReceipt (identity : Identity) (draws : Draws) (deliveredMessageId : String) :
    SessionM EncryptedMessage :=
  encryptMessage P identity draws fun conversationId deviceId seq =>
    InnerMessage.receipt conversationId deviceId seq deliveredMessageId draws.now

/-- `encrypt_profile`. -/
def encryptProfile (identity : Identity) (draws : Draws) (profile : DeliveryProfile) :
    SessionM EncryptedMessage :=
  encryptMessage P identity draws fun conversationId deviceId seq =>
    InnerMessage.profile conversationId deviceId seq (profile.toB64 P) draws.now

/-- `encrypt_presence`. -/
def encryptPresence (identity : Identity) (draws : Draws) (payload : PresencePayload) :
    SessionM EncryptedMessage :=
  encryptMessage P identity draws fun conversationId deviceId seq =>
    InnerMessage.presence conversationId deviceId seq payload.toB64 payload.validUntil draws.now

/-- How `decrypt_outer` reports an exception of the ratchet. -/
def decryptFailure : PyExc → PyExc
  | .valueError msg =>
      if strContains "already received" msg then .yakr .duplicateSeq "duplicate message"
      else .yakr .decrypt "unable to decrypt blob"
  | _ => .yakr .decrypt "unable to decrypt blob"

/-- The checks of `decrypt_outer` on a decoded message, each of which rolls the
ratchet back. -/
def checkInner (contact : Contact) (inner : InnerMessage) (now : Int) : Except PyExc Unit :=
  if inner.conversationId ≠ contact.conversationId then
    .error (.yakr .decrypt "conversation mismatch")
  else if inner.seq ≤ contact.lastRecvSeq then
    .error (.yakr .duplicateSeq ("duplicate seq " ++ toString inner.seq))
  else if inner.seq ≠ contact.lastRecvSeq + 1 then
    .error (.yakr .duplicateSeq ("out-of-order seq " ++ toString inner.seq ++ ", expected "
      ++ toString (contact.lastRecvSeq + 1)))
  else enforceMessageTtl inner.validUntil now

/-- `decrypt_outer`. -/
def decryptOuter (generated : PrivateKey) (now : Int) (outer : OuterBlob) :
    SessionM InnerMessage := do
  let contact ← get
  let ratchetBefore ← ratchetDict
  let padded ← tryCatch (onRatchet (RatchetState.decrypt P generated outer.ciphertext))
    fun e => throw (decryptFailure e)
  match decodePaddedPlaintext padded contact.privacyMode with
  | .error _ =>
      rollbackRatchet ratchetBefore
      throw (.yakr .decrypt "invalid padded plaintext")
  | .ok plaintext =>
      -- a plaintext that does not decode raises past the rollback
      let inner ← orRaise (InnerMessage.fromBytes P plaintext)
      match checkInner contact inner now with
      | .error e =>
          rollbackRatchet ratchetBefore
          throw e
      | .ok () =>
          modify fun c => { c with lastRecvSeq := inner.seq }
          return inner

/-- `decrypt_inbound`: only texts advance the ratchet. -/
def decryptInbound (generated : PrivateKey) (now : Int) (outer : OuterBlob) :
    SessionM InnerMessage := do
  let ratchetBefore ← ratchetDict
  let inner ← decryptOuter P generated now outer
  if !inner.type.isText then rollbackRatchet ratchetBefore
  return inner

/-! ### The local message store -/

/-- `device_storage_key`. -/
def deviceStorageKey (identity : Identity) : Bytes :=
  hkdfDerive P identity.signingPrivate.1 (encodeUtf8 "yakr/v1.0/local-message-store")

/-- `wrap_local_ciphertext` with the nonce it draws. -/
def wrapLocalCiphertext (identity : Identity) (nonce : Nonce) (payload : Bytes) :
    Except PyExc Bytes :=
  xchachaEncrypt P nonce (deviceStorageKey P identity) payload []

/-- `unwrap_local_ciphertext`. -/
def unwrapLocalCiphertext (identity : Identity) (payload : Bytes) : Except PyExc Bytes :=
  xchachaDecrypt P (deviceStorageKey P identity) payload []

end Yakr
