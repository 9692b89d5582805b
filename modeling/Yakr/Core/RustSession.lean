import Yakr.Core.RustMessage
import Yakr.Core.RustPairing
import Yakr.Core.RustProfile

/-!
# Yakr.Core.RustSession

**Sessions in Rust: `session.rs`, with `from_dict` of `ratchet.rs`.** A session opens a
message with the ratchet of its contact and puts the ratchet back, from the dictionary it
took before, when the message is refused.

As with the ratchet, a panic (an addition that overflows, a division by zero) is an error
here. The text of an error of `serde_json` is the parameter `jsonError`.
-/

namespace Yakr

open Lib Effect

namespace Rust

variable (P : Packages)

/-! ### The dictionary of a ratchet -/

namespace RatchetState

/-- `b64decode` of `ratchet.rs`: no bytes for a text that is no encoding. -/
def decodeText (value : String) : Bytes := (base64urlDecode value).getD []

/-- A key that has to be there. -/
def requiredKey (field value : String) : Except String (BytesN 32) :=
  match arrayOf 32 (decodeText value) with
  | some key => .ok key
  | none => .error field

/-- `from_dict`. -/
def fromDict (dict : RatchetDict) : Except String RatchetState := do
  if dict.version ≠ 2 then throw "unsupported ratchet version; re-pair required"
  let rootKey ← requiredKey "root_key" dict.rootKey
  let dhSelfPrivate ← requiredKey "dh_self_private" dict.dhSelfPrivate
  let dhSelfPublic ← requiredKey "dh_self_public" dict.dhSelfPublic
  return { rootKey, dhSelfPrivate, dhSelfPublic
           dhPeerPublic := arrayOf 32 (decodeText dict.dhPeerPublic)
           sendChainKey := arrayOf 32 (decodeText dict.sendChainKey)
           recvChainKey := arrayOf 32 (decodeText dict.recvChainKey)
           sendN := dict.sendN
           recvN := dict.recvN
           prevSendN := dict.prevSendN
           skippedKeys := dict.skippedKeys
           hybrid := dict.hybrid
           pendingPairingDhRatchetPeer :=
            arrayOf 32 (decodeText dict.pendingPairingDhRatchetPeer) }

end RatchetState

/-! ### Errors, times and padding -/

/-- `YakrError`. -/
inductive YakrError where
  | contactNotFound (name : String)
  | decrypt (text : String)
  | duplicateSeq
  | messageExpired
  | rekeyRequired
  | other (text : String)
deriving DecidableEq

/-- `a + b` of two `u64`. -/
def addU64 (a b : UInt64) : Except YakrError UInt64 :=
  if a.toNat + b.toNat < 2 ^ 64 then .ok (a + b) else .error (.other "attempt to add with overflow")

def messageTtlMs : UInt64 := 24 * 60 * 60 * 1000
def pqRekeyMaxMessages : UInt64 := 10000
def pqRekeyMaxAgeMs : UInt64 := 7 * 24 * 60 * 60 * 1000

/-- `message_valid_until`, with the addition that stops at the largest word. -/
def messageValidUntil (createdAtMs : UInt64) : UInt64 :=
  UInt64.ofNat (min (createdAtMs.toNat + messageTtlMs.toNat) (2 ^ 64 - 1))

/-- `enforce_message_ttl`. -/
def enforceMessageTtl (validUntil now : UInt64) : Except YakrError Unit :=
  if validUntil ≤ now then .error .messageExpired else .ok ()

/-- `needs_pq_rekey`; the age stops at zero. -/
def needsPqRekey (hybrid : Bool) (sessionStartedAtMs messagesSent now : UInt64) : Bool :=
  hybrid && (decide (pqRekeyMaxAgeMs.toNat ≤ now.toNat - sessionStartedAtMs.toNat)
    || decide (pqRekeyMaxMessages ≤ messagesSent))

/-- `pad_plaintext`. -/
def padPlaintext (plaintext : Bytes) (mode : PrivacyMode) : Except String (Bytes × Nat) :=
  match selectSizeClass plaintext.length mode with
  | none => .ok (plaintext, 0)
  | some classSize =>
      let framed := Bytes.ofNatBE 4 plaintext.length ++ plaintext
      if classSize < framed.length then .error "plaintext exceeds maximum size class"
      else
        .ok (framed ++ List.replicate (classSize - framed.length) 0,
          classSize - plaintext.length)

/-- `unpad_plaintext`. -/
def unpadPlaintext (padded : Bytes) : Except String Bytes :=
  if padded.length < 4 then .error "padded payload too short"
  else
    let length := Bytes.toNatBE (padded.take 4)
    if padded.length < 4 + length then .error "invalid padded length prefix"
    else .ok ((padded.drop 4).take length)

/-- `decode_padded_plaintext`. -/
def decodePaddedPlaintext (data : Bytes) (mode : PrivacyMode) : Except String Bytes :=
  if mode = .fast then .ok data else unpadPlaintext data

/-! ### Tags and blobs -/

structure MailboxTag where
  tag : BytesN 32
  epoch : UInt64
  direction : String
deriving DecidableEq

structure OuterBlob where
  version : UInt32
  mailboxTag : BytesN 32
  expiresAt : UInt64
  ciphertext : Bytes
deriving DecidableEq

structure EncryptedMessage where
  outerBlob : OuterBlob
  innerMessage : InnerMessage
  msgId : String
  mailboxTag : MailboxTag
  paddingBytes : Nat
deriving DecidableEq

/-- `derive_mailbox_secret`. -/
def deriveMailboxSecret (masterSecret : BytesN 32) (direction : String) : BytesN 32 :=
  P.hkdf masterSecret.1 (mailboxTagInfo ++ encodeUtf8 direction) [] 32

/-- `current_epoch`. -/
def currentEpoch (now epochSecs : UInt64) : Except YakrError UInt64 :=
  if epochSecs = 0 then .error (.other "attempt to divide by zero")
  else .ok (now / 1000 / epochSecs)

/-- `derive` for the current epoch. -/
def deriveTag (mailboxSecret : BytesN 32) (direction : String) (now epochSecs : UInt64) :
    Except YakrError MailboxTag := do
  let epoch ← currentEpoch now epochSecs
  return { tag := P.hmacSha256 mailboxSecret.1
            (encodeUtf8 (direction ++ "|" ++ toString epoch.toNat))
           epoch, direction }

/-- `device_id`. -/
def Identity.deviceId (identity : Identity) : String :=
  String.ofList ((P.ed25519Public identity.signingPrivate).1.hex.toList.take 16)

/-- `message_id`. -/
def messageId (ciphertext : Bytes) : String :=
  (P.sha256 (encodeUtf8 "yakr/v0.1/message-id|" ++ ciphertext)).1.hex

/-! ### Contacts without an invite -/

/-- `establish_classical`, with the keys of a bundle that decodes and the ratchet key it draws. -/
def Contact.establishClassical (own : Identity) (remoteName : String)
    (remoteSigning remoteAgreement : BytesN 32) (generated : PrivateKey) : Contact :=
  let master := P.hkdf (sharedSecret P own.agreementPrivate remoteAgreement).1 masterInfo [] 32
  { name := remoteName
    signingPublic := remoteSigning
    agreementPublic := remoteAgreement
    masterSecret := master
    conversationId := conversationIdFor own.name remoteName
    contactId := none
    transcriptHash := none
    ratchet := some
      (RatchetState.fromMaster P master.1 (decide (own.name < remoteName)) false generated)
    hybridPq := false
    sessionStartedAt := 0 }

/-! ### Methods -/

/-- A method of `Session`, on its contact. -/
abbrev SessionM := EStateM YakrError Contact

/-- What a call draws from outside. -/
structure Draws where
  now : UInt64
  ratchetPrivate : PrivateKey
  nonce : Nonce

/-- `Session::new`. -/
def openSession (contact : Contact) : Except YakrError Unit :=
  if contact.ratchet.isNone then
    .error (.other "contact missing double ratchet state; re-pair required")
  else .ok ()

/-- A method of the contact's ratchet, with what becomes of its errors. -/
def onRatchet {α : Type} (report : String → YakrError) (m : RatchetM α) : SessionM α := fun c =>
  match c.ratchet with
  | none => .error (.other "missing ratchet") c
  | some r =>
      match m.run r with
      | .ok a r' => .ok a { c with ratchet := some r' }
      | .error e r' => .error (report e) { c with ratchet := some r' }

/-- `send_direction`. -/
def sendDirection (identity : Identity) (contact : Contact) : String :=
  identity.name ++ "->" ++ contact.name

/-- `require_fresh_session`. -/
def requireFreshSession (now : UInt64) : SessionM Unit := do
  let c ← get
  if needsPqRekey c.hybridPq c.sessionStartedAt c.nextSendSeq now then throw .rekeyRequired

/-- `encrypt_inner`. -/
def encryptInner (draws : Draws) (inner : InnerMessage) : SessionM (Bytes × Nat) := do
  match padPlaintext inner.toBytes (← get).privacyMode with
  | .error e => throw (.other e)
  | .ok (padded, paddingBytes) =>
      let ciphertext ← onRatchet .other
        (RatchetState.encrypt P draws.ratchetPrivate draws.nonce padded)
      return (ciphertext, paddingBytes)

/-- `outer_blob`. -/
def outerBlob (ciphertext : Bytes) (tag : MailboxTag) (now : UInt64) :
    Except YakrError OuterBlob := do
  let expiresAt ← addU64 now messageTtlMs
  return { version := 1, mailboxTag := tag.tag, expiresAt, ciphertext }

/-- `encrypt_text`. -/
def encryptText (identity : Identity) (draws : Draws) (body : String) :
    SessionM EncryptedMessage := do
  requireFreshSession draws.now
  let c ← get
  let inner := InnerMessage.text c.conversationId (identity.deviceId P) c.nextSendSeq body
    draws.now (messageValidUntil draws.now)
  let (ciphertext, paddingBytes) ← encryptInner P draws inner
  let c ← get
  let direction := sendDirection identity c
  let tag ← orRaise (deriveTag P (deriveMailboxSecret P c.masterSecret direction) direction
    draws.now c.mailboxEpochSecs)
  let outer ← orRaise (outerBlob ciphertext tag draws.now)
  let nextSendSeq ← orRaise (addU64 c.nextSendSeq 1)
  modify fun c => { c with nextSendSeq }
  return { outerBlob := outer
           innerMessage := inner
           msgId := messageId P outer.ciphertext
           mailboxTag := tag
           paddingBytes }

/-- How `decrypt_outer` reports an error of the ratchet. -/
def decryptFailure (e : String) : YakrError :=
  if strContains "already received" e then .duplicateSeq else .decrypt e

/-- `restore_ratchet`: a dictionary that is refused changes nothing. -/
def restoreRatchet (snapshot : RatchetDict) : SessionM Unit :=
  match RatchetState.fromDict snapshot with
  | .ok r => modify fun c => { c with ratchet := some r }
  | .error _ => pure ()

/-- The checks of `decrypt_outer` on a plaintext. The sum cannot overflow: a number above
the largest word would have been a duplicate. -/
def checkPlaintext (jsonError : Bytes → String) (contact : Contact) (now : UInt64)
    (padded : Bytes) : Except YakrError InnerMessage :=
  match decodePaddedPlaintext padded contact.privacyMode with
  | .error e => .error (.decrypt e)
  | .ok plaintext =>
      match InnerMessage.fromBytes plaintext with
      | none => .error (.decrypt (jsonError plaintext))
      | some inner =>
          if inner.conversationId ≠ contact.conversationId then
            .error (.decrypt "conversation mismatch")
          else if inner.seq ≤ contact.lastRecvSeq then .error .duplicateSeq
          else if inner.seq ≠ contact.lastRecvSeq + 1 then .error .duplicateSeq
          else (enforceMessageTtl inner.validUntil now).map fun _ => inner

/-- `decrypt_outer`. -/
def decryptOuter (jsonError : Bytes → String) (generated : PrivateKey) (now : UInt64)
    (outer : OuterBlob) : SessionM InnerMessage := do
  let contact ← get
  let snapshot ← onRatchet .other (return (← get).toDict)
  let padded ← onRatchet decryptFailure (RatchetState.decrypt P generated outer.ciphertext)
  match checkPlaintext jsonError contact now padded with
  | .error e =>
      -- every check but the ratchet's own puts the ratchet back first
      restoreRatchet snapshot
      throw e
  | .ok inner =>
      modify fun c => { c with lastRecvSeq := inner.seq }
      return inner

end Rust
end Yakr
