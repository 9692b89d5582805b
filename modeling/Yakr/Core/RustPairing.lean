import Yakr.Core.Pairing
import Yakr.Core.RustRatchet

/-!
# Yakr.Core.RustPairing

**Invite pairing in Rust: `pairing.rs`, `invite.rs`, `identity.rs`, `hybrid_pq.rs` and
`hybrid.rs`.** Every key is an array of 32 bytes here, and a contact has no delivery profile.

The ML-KEM package of Rust checks a private key when it loads it. Which byte strings it takes
is the parameter `loads`; `kem_generate_keypair` only returns such.
-/

namespace Yakr

open Lib

namespace Rust

variable (P : Packages)

structure Identity where
  name : String
  signingPrivate : PrivateKey
  agreementPrivate : PrivateKey
  kemPublic : Bytes := []
  kemPrivate : Bytes := []
deriving DecidableEq

structure InviteBundle where
  protocol : String
  inviterName : String
  signingPublic : BytesN 32
  agreementPublic : BytesN 32
  inviteSecret : BytesN 32
  rendezvousHint : String
  expiresAt : UInt64
  capabilities : List String
  signature : Bytes
  kemPublic : Bytes := []
deriving DecidableEq

structure PairingRequest where
  inviteSecret : BytesN 32
  joinerName : String
  joinerSigningPublic : BytesN 32
  joinerAgreementPublic : BytesN 32
  joinerEphemeralPublic : BytesN 32
  joinerRatchetPublic : BytesN 32
  kemCiphertext : Bytes := []
deriving DecidableEq

structure PairingResponse where
  inviterEphemeralPublic : BytesN 32
  inviterRatchetPublic : BytesN 32
  transcriptHash : BytesN 32
deriving DecidableEq

structure Contact where
  name : String
  signingPublic : BytesN 32
  agreementPublic : BytesN 32
  masterSecret : BytesN 32
  conversationId : String
  nextSendSeq : UInt64 := 1
  lastRecvSeq : UInt64 := 0
  contactId : Option (BytesN 32)
  transcriptHash : Option (BytesN 32)
  ratchet : Option RatchetState
  hybridPq : Bool
  sessionStartedAt : UInt64
  privacyMode : PrivacyMode := .fast
  mailboxEpochSecs : UInt64 := 3600
deriving DecidableEq

/-- `invite_supports_hybrid`. -/
def inviteSupportsHybrid (bundle : InviteBundle) : Bool :=
  bundle.capabilities.any (fun c => c = hybridPqCapability) && !bundle.kemPublic.isEmpty

/-- `contact_id_for`. -/
def contactIdFor (signingPublic agreementPublic : BytesN 32) : BytesN 32 :=
  P.sha256 (signingPublic.1 ++ agreementPublic.1)

/-- `conversation_id_for`; texts are compared by code points in both languages. -/
def conversationIdFor (a b : String) : String :=
  let (left, right) := if a < b then (a, b) else (b, a)
  "pairwise_" ++ left ++ "_" ++ right

/-! ### Key agreement -/

/-- `kem_decapsulate`. -/
def kemDecapsulate (loads : Bytes → Bool) (secretKey ciphertext : Bytes) : Except String Bytes :=
  if secretKey.length ≠ kemSecretKeySize then .error "invalid ML-KEM-768 secret key length"
  else if ciphertext.length ≠ kemCiphertextSize then
    .error "invalid ML-KEM-768 ciphertext length"
  else if !loads secretKey then .error "invalid secret key"
  else .ok (P.kemDecrypt secretKey ciphertext).1

/-- `derive_hybrid_master`, which takes a secret of any length. -/
def deriveHybridMaster (identityShared ephemeralShared pqSecret transcriptHash : Bytes) :
    BytesN 32 :=
  P.hkdf (identityShared ++ ephemeralShared ++ pqSecret) hybridMasterInfo transcriptHash 32

/-- `derive_pair_master`. -/
def derivePairMaster (identityShared ephemeralShared transcriptHash : BytesN 32)
    (pqSecret : Option Bytes) : BytesN 32 :=
  match pqSecret with
  | some pq => deriveHybridMaster P identityShared.1 ephemeralShared.1 pq transcriptHash.1
  | none => P.hkdf (identityShared.1 ++ ephemeralShared.1) pairMasterInfo transcriptHash.1 32

/-! ### The transcript -/

/-- `validate_pairing_request_for_invite`. -/
def validatePairingRequestForInvite (invite : InviteBundle) (request : PairingRequest) :
    Except String Unit :=
  if request.inviteSecret ≠ invite.inviteSecret then .error "pairing invite secret mismatch"
  else if request.joinerRatchetPublic.1.length ≠ 32 then
    .error "pairing request missing joiner ratchet public key"
  else if inviteSupportsHybrid invite then
    if request.kemCiphertext.isEmpty then .error "hybrid invite requires kem ciphertext"
    else .ok ()
  else if !request.kemCiphertext.isEmpty then
    .error "unexpected kem ciphertext on classical invite"
  else .ok ()

/-- What the loop of `pairing_transcript` feeds the hasher from part `i` on: a separator
before every part but the first. -/
def hashed : (i : Nat) → List Bytes → Bytes
  | _, [] => []
  | i, part :: parts => (if 0 < i then encodeUtf8 "|" else []) ++ part ++ hashed (i + 1) parts

/-- `pairing_transcript`. -/
def pairingTranscript (invite : InviteBundle) (request : PairingRequest)
    (inviterEphemeralPublic inviterRatchetPublic : BytesN 32) : Except String (BytesN 32) := do
  validatePairingRequestForInvite invite request
  let parts :=
    [encodeUtf8 invite.protocol, invite.inviteSecret.1, invite.signingPublic.1,
      invite.agreementPublic.1, request.joinerSigningPublic.1, request.joinerAgreementPublic.1,
      request.joinerEphemeralPublic.1, inviterEphemeralPublic.1, request.joinerRatchetPublic.1,
      inviterRatchetPublic.1]
    ++ if inviteSupportsHybrid invite then [request.kemCiphertext] else []
  return P.sha256 (hashed 0 parts)

/-! ### The two completions -/

/-- The secret the inviter decapsulates, for a hybrid invite. -/
def inviterPqSecret (loads : Bytes → Bool) (identity : Identity) (invite : InviteBundle)
    (request : PairingRequest) : Except String (Option Bytes) :=
  if inviteSupportsHybrid invite then
    if request.kemCiphertext.isEmpty then .error "hybrid invite requires kem ciphertext"
    else if identity.kemPrivate.isEmpty then .error "inviter missing ML-KEM secret key"
    else (kemDecapsulate P loads identity.kemPrivate request.kemCiphertext).map some
  else .ok none

/-- `inviter_complete_pairing`, with the ratchet key that was given or drawn. -/
def inviterCompletePairing (loads : Bytes → Bool) (identity : Identity) (invite : InviteBundle)
    (request : PairingRequest) (inviterEphemeralPrivate inviterRatchetPrivate : PrivateKey)
    (now : UInt64) : Except String (PairingResponse × Contact) := do
  let inviterEphemeralPublic := P.x25519Public inviterEphemeralPrivate
  let inviterRatchetPublic := P.x25519Public inviterRatchetPrivate
  let transcriptHash ←
    pairingTranscript P invite request inviterEphemeralPublic inviterRatchetPublic
  let pqSecret ← inviterPqSecret P loads identity invite request
  let hybrid := inviteSupportsHybrid invite
  let identityShared := sharedSecret P identity.agreementPrivate request.joinerAgreementPublic
  let ephemeralShared := sharedSecret P inviterEphemeralPrivate request.joinerEphemeralPublic
  let master := derivePairMaster P identityShared ephemeralShared transcriptHash pqSecret
  let ratchet := RatchetState.fromMaster P master.1 true hybrid inviterRatchetPrivate
  let contact : Contact :=
    { name := request.joinerName
      signingPublic := request.joinerSigningPublic
      agreementPublic := request.joinerAgreementPublic
      masterSecret := master
      conversationId := conversationIdFor identity.name request.joinerName
      contactId :=
        some (contactIdFor P request.joinerSigningPublic request.joinerAgreementPublic)
      transcriptHash := some transcriptHash
      ratchet := some { ratchet with
        pendingPairingDhRatchetPeer := some request.joinerRatchetPublic }
      hybridPq := hybrid
      sessionStartedAt := now }
  return ({ inviterEphemeralPublic, inviterRatchetPublic, transcriptHash }, contact)

/-- The checks `joiner_complete_pairing` makes before it derives anything; they leave the
secret of a hybrid pairing. -/
def checkPairingResponse (invite : InviteBundle) (request : PairingRequest)
    (secrets : PairingSecrets) (response : PairingResponse) : Except String (Option Bytes) := do
  if response.inviterRatchetPublic.1.length ≠ 32 then
    throw "pairing response missing inviter ratchet public key"
  let expected ← pairingTranscript P invite request response.inviterEphemeralPublic
    response.inviterRatchetPublic
  if expected ≠ response.transcriptHash then .error "pairing transcript mismatch"
  else if inviteSupportsHybrid invite then
    match secrets.pqSecret with
    | some pq => .ok (some pq)
    | none => .error "missing PQ shared secret for hybrid pairing"
  else .ok none

/-- `joiner_complete_pairing`. -/
def joinerCompletePairing (identity : Identity) (invite : InviteBundle)
    (request : PairingRequest) (secrets : PairingSecrets) (response : PairingResponse)
    (now : UInt64) : Except String Contact := do
  let pqSecret ← checkPairingResponse P invite request secrets response
  let hybrid := inviteSupportsHybrid invite
  let identityShared := sharedSecret P identity.agreementPrivate invite.agreementPublic
  let ephemeralShared := sharedSecret P secrets.ephemeralPrivate response.inviterEphemeralPublic
  let master := derivePairMaster P identityShared ephemeralShared response.transcriptHash pqSecret
  let ratchet := RatchetState.pairingRecvInit P response.inviterRatchetPublic
    (RatchetState.fromMaster P master.1 false hybrid secrets.ratchetPrivate)
  return { name := invite.inviterName
           signingPublic := invite.signingPublic
           agreementPublic := invite.agreementPublic
           masterSecret := master
           conversationId := conversationIdFor invite.inviterName identity.name
           contactId := some (contactIdFor P invite.signingPublic invite.agreementPublic)
           transcriptHash := some response.transcriptHash
           ratchet := some ratchet
           hybridPq := hybrid
           sessionStartedAt := now }

end Rust
end Yakr
