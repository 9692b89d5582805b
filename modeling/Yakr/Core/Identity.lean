import Yakr.Core.DeliveryProfile
import Yakr.Core.Privacy
import Yakr.Core.Ratchet

/-!
# Yakr.Core.Identity

**Identities and contacts of `identity.py`.** `Contact` is everything one device
knows about one peer: keys, counters, the ratchet and the peer's profile. It is
stored as the dictionary `to_dict` builds.
-/

namespace Yakr

open Lib

variable (P : Packages)

structure Identity where
  name : String
  signingPrivate : PrivateKey
  agreementPrivate : PrivateKey
  kemPublic : Bytes := []
  kemPrivate : Bytes := []
  pqSigningPublic : Bytes := []
  pqSigningPrivate : Bytes := []
deriving DecidableEq, Repr

namespace Identity

/-- `signing_public_bytes`. -/
def signingPublicBytes (identity : Identity) : Bytes := (P.ed25519Public identity.signingPrivate).1

/-- `agreement_public_bytes`. -/
def agreementPublicBytes (identity : Identity) : Bytes :=
  (P.x25519Public identity.agreementPrivate).1

/-- `device_id`: the first 16 hexadecimal digits of the signing key. -/
def deviceId (identity : Identity) : String :=
  String.ofList ((identity.signingPublicBytes P).hex.toList.take 16)

end Identity

structure Contact where
  name : String
  signingPublic : Bytes
  agreementPublic : Bytes
  masterSecret : Bytes
  conversationId : String
  nextSendSeq : Int := 1
  lastRecvSeq : Int := 0
  contactId : Option Bytes := none
  transcriptHash : Option Bytes := none
  ratchet : Option RatchetState := none
  deliveryProfile : Option DeliveryProfile := none
  peerAckedMyProfileVersion : Int := 0
  peerAckedMyRelayNames : List String := []
  hybridPq : Bool := false
  sessionStartedAt : Int := 0
  privacyMode : PrivacyMode := .fast
deriving DecidableEq, Repr

/-- The dictionary of `Contact.to_dict`; an optional field is an optional key. -/
structure ContactDict where
  name : String
  signingPublic : String
  agreementPublic : String
  masterSecret : String
  conversationId : String
  nextSendSeq : Int
  lastRecvSeq : Int
  contactId : Option String
  transcriptHash : Option String
  ratchet : Option RatchetDict
  deliveryProfile : Option String
  peerAckedMyProfileVersion : Option Int
  peerAckedMyRelayNames : Option String
  hybridPq : Option Int
  sessionStartedAt : Option Int
  privacyMode : Option PrivacyMode
deriving DecidableEq, Repr

/-- `fn(payload[key]) if key in payload else None`. -/
def mapPresent {α β : Type} (f : α → Except PyExc β) : Option α → Except PyExc (Option β)
  | none => .ok none
  | some a => (f a).map some

namespace Contact

/-- `to_dict`. -/
def toDict (c : Contact) : ContactDict :=
  { name := c.name
    signingPublic := b64encode c.signingPublic
    agreementPublic := b64encode c.agreementPublic
    masterSecret := b64encode c.masterSecret
    conversationId := c.conversationId
    nextSendSeq := c.nextSendSeq
    lastRecvSeq := c.lastRecvSeq
    contactId := c.contactId.map b64encode
    transcriptHash := c.transcriptHash.map b64encode
    ratchet := c.ratchet.map RatchetState.toDict
    deliveryProfile := c.deliveryProfile.map (DeliveryProfile.toB64 P)
    peerAckedMyProfileVersion :=
      if c.peerAckedMyProfileVersion = 0 then none else some c.peerAckedMyProfileVersion
    peerAckedMyRelayNames :=
      if c.peerAckedMyRelayNames = [] then none
      else some (",".intercalate c.peerAckedMyRelayNames)
    hybridPq := if c.hybridPq then some 1 else none
    sessionStartedAt := if c.sessionStartedAt = 0 then none else some c.sessionStartedAt
    privacyMode := if c.privacyMode = .fast then none else some c.privacyMode }

/-- `from_dict`. -/
def fromDict (d : ContactDict) : Except PyExc Contact := do
  let ratchet ← mapPresent RatchetState.fromDict d.ratchet
  let deliveryProfile ← mapPresent (DeliveryProfile.fromB64 P) d.deliveryProfile
  let contactId ← mapPresent b64decode d.contactId
  let transcriptHash ← mapPresent b64decode d.transcriptHash
  let signingPublic ← b64decode d.signingPublic
  let agreementPublic ← b64decode d.agreementPublic
  let masterSecret ← b64decode d.masterSecret
  return { name := d.name
           signingPublic, agreementPublic, masterSecret
           conversationId := d.conversationId
           nextSendSeq := d.nextSendSeq
           lastRecvSeq := d.lastRecvSeq
           contactId, transcriptHash, ratchet, deliveryProfile
           peerAckedMyProfileVersion := d.peerAckedMyProfileVersion.getD 0
           peerAckedMyRelayNames := (d.peerAckedMyRelayNames.map splitNames).getD []
           hybridPq := d.hybridPq.getD 0 ≠ 0
           sessionStartedAt := d.sessionStartedAt.getD 0
           privacyMode := d.privacyMode.getD .fast }

end Contact

/-- `conversation_id_for`. -/
def conversationIdFor (a b : String) : String :=
  let (left, right) := if b < a then (b, a) else (a, b)
  "pairwise_" ++ left ++ "_" ++ right

/-- `value or default` on a list. -/
def listOr {α : Type} (value : Option (List α)) (default : List α) : List α :=
  match value with
  | some (x :: xs) => x :: xs
  | _ => default

/-- `create_delivery_profile`, with the TLS pin of the identity. -/
def createDeliveryProfile (identity : Identity) (relayDescriptors : List RelayDescriptor)
    (directHints : Option (List String)) (mailboxEpochSecs : Int)
    (mailboxDirectionSalt : Option Bytes) (blobClasses : Option (List Int))
    (receiptPolicy : String) (ttlMs : Int) (version : Option Int) (endpointTlsSpkiSha256 : Bytes)
    (now : Int) : DeliveryProfile :=
  let unsigned : DeliveryProfile :=
    { protocol := protocolV5
      version := match version with
        | some n => if n = 0 then 1 else n
        | none => 1
      validFrom := now
      validUntil := now + ttlMs
      directHints := listOr directHints []
      relayDescriptors
      mailboxEpochSecs
      mailboxDirectionSalt := listOr mailboxDirectionSalt []
      blobClasses := listOr blobClasses [4096]
      receiptPolicy
      signature := []
      endpointTlsSpkiSha256 }
  { unsigned with
    signature := P.ed25519Sign identity.signingPrivate (unsigned.unsignedPayload P) }

/-- `apply_delivery_profile_update`: verify, check against a replay, store. -/
def applyDeliveryProfileUpdate (contact : Contact) (profile : DeliveryProfile)
    (signingPublic : Bytes) (now : Int) : Except PyExc Contact := do
  verifyDeliveryProfile P profile signingPublic
  acceptDeliveryProfileUpdate P contact.deliveryProfile profile now
  return { contact with deliveryProfile := some profile }

/-- `apply_peer_profile_ack_from_bytes`. -/
def applyPeerProfileAckFromBytes (contact : Contact) (profileBytes signingPublic : Bytes) :
    Except PyExc Contact :=
  if profileBytes = [] then .ok contact
  else do
    let profile ← DeliveryProfile.fromBytes P profileBytes
    verifyDeliveryProfile P profile signingPublic
    return { contact with
      peerAckedMyProfileVersion := profile.version
      peerAckedMyRelayNames := relayNamesFromProfile profile }

/-- `apply_peer_profile_ack_pending`. -/
def applyPeerProfileAckPending (contact : Contact) (profileVersion : Int)
    (relayNames : List String) : Contact :=
  if contact.peerAckedMyProfileVersion < profileVersion then
    { contact with
      peerAckedMyProfileVersion := profileVersion
      peerAckedMyRelayNames := relayNames }
  else contact

end Yakr
