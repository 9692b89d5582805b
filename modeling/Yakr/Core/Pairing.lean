import Yakr.Core.Invite

/-!
# Yakr.Core.Pairing

**Invite pairing of `pairing.py` and the key agreement of `hybrid_pq.py`.** The
joiner answers an invite with a request, the inviter completes its side and
responds, and the joiner completes its own: each ends with a `Contact`. Requests
and responses are the values themselves; keys that `generate()` draws are
arguments.
-/

namespace Yakr

open Lib Effect

variable (P : Packages)

/-! ### Hybrid keys -/

def hybridMasterInfo : Bytes := encodeUtf8 "yakr/v0.6/hybrid-master"
def pairMasterInfo : Bytes := encodeUtf8 "yakr/v0.4/pair-master"

/-- `kem_encapsulate`, with the randomness it draws. -/
def kemEncapsulate (publicKey random : Bytes) : Except PyExc (Bytes × Bytes) :=
  if publicKey.length ≠ kemPublicKeySize then
    .error (.valueError "invalid ML-KEM-768 public key length")
  else .ok ((P.kemEncrypt publicKey random).1, (P.kemEncrypt publicKey random).2.1)

/-- `kem_decapsulate`. -/
def kemDecapsulate (secretKey ciphertext : Bytes) : Except PyExc Bytes :=
  if secretKey.length ≠ kemSecretKeySize then
    .error (.valueError "invalid ML-KEM-768 secret key length")
  else if ciphertext.length ≠ kemCiphertextSize then
    .error (.valueError "invalid ML-KEM-768 ciphertext length")
  else .ok (P.kemDecrypt secretKey ciphertext)

/-- `derive_hybrid_master`. -/
def deriveHybridMaster (identityShared ephemeralShared pqSecret transcriptHash : Bytes) :
    Except PyExc Bytes :=
  if pqSecret.length ≠ kemPlaintextSize then
    .error (.valueError "invalid PQ shared secret length")
  else
    .ok (hkdfDerive P (identityShared ++ ephemeralShared ++ pqSecret) hybridMasterInfo 32
      transcriptHash)

/-- `invite_tag_for_secret`. -/
def inviteTagForSecret (inviteSecret : Bytes) : Except PyExc String :=
  if inviteSecret.length ≠ 32 then .error (.valueError "invite_secret must be 32 bytes")
  else .ok (b64encode (P.sha256 inviteSecret).1)

/-! ### Messages -/

structure PairingRequest where
  inviteSecret : Bytes
  joinerName : String
  joinerSigningPublic : Bytes
  joinerAgreementPublic : Bytes
  joinerEphemeralPublic : Bytes
  joinerRatchetPublic : Bytes
  joinerProfile : Bytes := []
  kemCiphertext : Bytes := []
deriving DecidableEq, Repr

namespace PairingRequest

/-- `from_bytes` on the decoded value. -/
def ofCbor : Cbor → Except PyExc PairingRequest
  | .map entries => do
      let inviteSecret ← cborBytes (← cborGet entries "invite_secret")
      let joinerName ← cborGet entries "joiner_name"
      let joinerSigningPublic ← cborBytes (← cborGet entries "joiner_signing_public")
      let joinerAgreementPublic ← cborBytes (← cborGet entries "joiner_agreement_public")
      let joinerEphemeralPublic ← cborBytes (← cborGet entries "joiner_ephemeral_public")
      let joinerRatchetPublic ←
        cborBytes (cborGetD entries "joiner_ratchet_public" (.bytes []))
      let joinerProfile ← cborBytes (cborGetD entries "joiner_profile" (.bytes []))
      let kemCiphertext ← cborBytes (cborGetD entries "kem_ciphertext" (.bytes []))
      return { inviteSecret
               joinerName := cborStr P joinerName
               joinerSigningPublic, joinerAgreementPublic, joinerEphemeralPublic
               joinerRatchetPublic, joinerProfile, kemCiphertext }
  | _ => .error (.valueError "invalid pairing request")

/-- `from_bytes`. -/
def fromBytes (data : Bytes) : Except PyExc PairingRequest := do
  ofCbor P (← P.cborLoads data)

end PairingRequest

structure PairingResponse where
  inviterEphemeralPublic : Bytes
  inviterRatchetPublic : Bytes
  transcriptHash : Bytes
  inviterProfile : Bytes := []
deriving DecidableEq, Repr

structure PairingSecrets where
  ephemeralPrivate : PrivateKey
  ratchetPrivate : PrivateKey
  pqSecret : Option Bytes := none
deriving DecidableEq, Repr

/-- The ciphertext and the secret the joiner draws for a hybrid invite. -/
def encapsulateForInvite (invite : InviteBundle) (kemRandom : Bytes) :
    Except PyExc (Bytes × Option Bytes) :=
  if inviteSupportsHybrid invite then
    (kemEncapsulate P invite.kemPublic kemRandom).map fun drawn => (drawn.1, some drawn.2)
  else .ok ([], none)

/-- `build_pairing_request`, with the keys and the randomness it draws. -/
def buildPairingRequest (identity : Identity) (invite : InviteBundle) (joinerName : String)
    (joinerProfile : Bytes) (ephemeralPrivate ratchetPrivate : PrivateKey) (kemRandom : Bytes) :
    Except PyExc (PairingRequest × PairingSecrets) := do
  let (kemCiphertext, pqSecret) ← encapsulateForInvite P invite kemRandom
  let request : PairingRequest :=
    { inviteSecret := invite.inviteSecret
      joinerName
      joinerSigningPublic := identity.signingPublicBytes P
      joinerAgreementPublic := identity.agreementPublicBytes P
      joinerEphemeralPublic := (P.x25519Public ephemeralPrivate).1
      joinerRatchetPublic := (P.x25519Public ratchetPrivate).1
      joinerProfile
      kemCiphertext }
  return (request, { ephemeralPrivate, ratchetPrivate, pqSecret })

/-- `validate_pairing_request_for_invite`. -/
def validatePairingRequestForInvite (invite : InviteBundle) (request : PairingRequest) :
    Except PyExc Unit :=
  if request.inviteSecret ≠ invite.inviteSecret then
    .error (.valueError "pairing invite secret mismatch")
  else if request.joinerRatchetPublic.length ≠ 32 then
    .error (.valueError "pairing request missing joiner ratchet public key")
  else if inviteSupportsHybrid invite then
    if request.kemCiphertext = [] then
      .error (.valueError "hybrid invite requires kem ciphertext")
    else .ok ()
  else if request.kemCiphertext ≠ [] then
    .error (.valueError "unexpected kem ciphertext on classical invite")
  else .ok ()

/-- `b"|".join(parts)`. -/
def joinParts (parts : List Bytes) : Bytes := (encodeUtf8 "|").intercalate parts

/-- The byte strings `pairing_transcript` hashes. -/
def transcriptParts (invite : InviteBundle) (request : PairingRequest)
    (inviterEphemeralPublic inviterRatchetPublic : Bytes) : List Bytes :=
  [encodeUtf8 invite.protocol, invite.inviteSecret, invite.signingPublic,
    invite.agreementPublic, request.joinerSigningPublic, request.joinerAgreementPublic,
    request.joinerEphemeralPublic, inviterEphemeralPublic, request.joinerRatchetPublic,
    inviterRatchetPublic]
  ++ if inviteSupportsHybrid invite then [request.kemCiphertext] else []

/-- `pairing_transcript`. -/
def pairingTranscript (invite : InviteBundle) (request : PairingRequest)
    (inviterEphemeralPublic inviterRatchetPublic : Bytes) : Except PyExc Bytes := do
  validatePairingRequestForInvite invite request
  return (P.sha256 (joinParts
    (transcriptParts invite request inviterEphemeralPublic inviterRatchetPublic))).1

/-! ### Key agreement -/

/-- `derive_pair_master` and `derive_pair_master_joiner`, which differ in whose
private keys and whose public keys they take. -/
def derivePairMaster (agreementPrivate : PrivateKey) (peerAgreementPublic : Bytes)
    (ephemeralPrivate : PrivateKey) (peerEphemeralPublic transcriptHash : Bytes)
    (pqSecret : Option Bytes) : Except PyExc Bytes := do
  let identityShared ← x25519SharedSecret P agreementPrivate peerAgreementPublic
  let ephemeralShared ← x25519SharedSecret P ephemeralPrivate peerEphemeralPublic
  match pqSecret with
  | some pqSecret => deriveHybridMaster P identityShared ephemeralShared pqSecret transcriptHash
  | none =>
      return hkdfDerive P (identityShared ++ ephemeralShared) pairMasterInfo 32 transcriptHash

/-- `contact_id_for`. -/
def contactIdFor (signingPublic agreementPublic : Bytes) : Bytes :=
  (P.sha256 (signingPublic ++ agreementPublic)).1

/-- `profile_from_pairing_bytes`. -/
def profileFromPairingBytes (data signingPublic : Bytes) :
    Except PyExc (Option DeliveryProfile) :=
  if data = [] then .ok none
  else do
    let profile ← DeliveryProfile.fromBytes P data
    verifyDeliveryProfile P profile signingPublic
    return some profile

/-! ### The two completions -/

/-- The secret the inviter decapsulates, for a hybrid invite. -/
def inviterPqSecret (identity : Identity) (invite : InviteBundle) (request : PairingRequest) :
    Except PyExc (Option Bytes) :=
  if inviteSupportsHybrid invite then
    if request.kemCiphertext = [] then
      .error (.valueError "hybrid invite requires kem ciphertext")
    else if identity.kemPrivate = [] then
      .error (.valueError "inviter missing ML-KEM secret key")
    else (kemDecapsulate P identity.kemPrivate request.kemCiphertext).map some
  else .ok none

/-- `inviter_complete_pairing`. -/
def inviterCompletePairing (identity : Identity) (invite : InviteBundle)
    (request : PairingRequest) (inviterEphemeralPrivate inviterRatchetPrivate : PrivateKey)
    (inviterProfile : Bytes) (now : Int) : Except PyExc (PairingResponse × Contact) := do
  validatePairingRequestForInvite invite request
  let inviterEphemeralPublic := (P.x25519Public inviterEphemeralPrivate).1
  let inviterRatchetPublic := (P.x25519Public inviterRatchetPrivate).1
  let transcriptHash ←
    pairingTranscript P invite request inviterEphemeralPublic inviterRatchetPublic
  let pqSecret ← inviterPqSecret P identity invite request
  let hybrid := inviteSupportsHybrid invite
  let master ← derivePairMaster P identity.agreementPrivate request.joinerAgreementPublic
    inviterEphemeralPrivate request.joinerEphemeralPublic transcriptHash pqSecret
  let ratchet := RatchetState.fromMaster P master true hybrid inviterRatchetPrivate
  let deliveryProfile ←
    profileFromPairingBytes P request.joinerProfile request.joinerSigningPublic
  let contact : Contact :=
    { name := request.joinerName
      signingPublic := request.joinerSigningPublic
      agreementPublic := request.joinerAgreementPublic
      masterSecret := master
      conversationId := conversationIdFor identity.name request.joinerName
      contactId :=
        some (contactIdFor P request.joinerSigningPublic request.joinerAgreementPublic)
      transcriptHash := some transcriptHash
      ratchet := some { ratchet with
        pendingPairingDhRatchetPeer := some request.joinerRatchetPublic }
      deliveryProfile
      hybridPq := hybrid
      sessionStartedAt := now }
  let contact ←
    applyPeerProfileAckFromBytes P contact inviterProfile (identity.signingPublicBytes P)
  return ({ inviterEphemeralPublic, inviterRatchetPublic, transcriptHash, inviterProfile },
    contact)

/-- A ratchet method run for its effect. -/
def runRatchet (m : RatchetM Unit) (ratchet : RatchetState) : Except PyExc RatchetState :=
  match m.run ratchet with
  | .ok _ ratchet => .ok ratchet
  | .error e _ => .error e

/-- The checks `joiner_complete_pairing` makes before it derives anything. -/
def checkPairingResponse (invite : InviteBundle) (request : PairingRequest)
    (secrets : PairingSecrets) (response : PairingResponse) : Except PyExc Unit := do
  let transcript ← pairingTranscript P invite request response.inviterEphemeralPublic
    response.inviterRatchetPublic
  if response.transcriptHash ≠ transcript then .error (.valueError "pairing transcript mismatch")
  else if response.inviterRatchetPublic.length ≠ 32 then
    .error (.valueError "pairing response missing inviter ratchet public key")
  else do
    validatePairingRequestForInvite invite request
    if inviteSupportsHybrid invite ∧ secrets.pqSecret.isNone then
      .error (.valueError "missing PQ shared secret for hybrid pairing")
    else .ok ()

/-- `joiner_complete_pairing`. -/
def joinerCompletePairing (identity : Identity) (invite : InviteBundle)
    (request : PairingRequest) (secrets : PairingSecrets) (response : PairingResponse)
    (now : Int) : Except PyExc Contact := do
  checkPairingResponse P invite request secrets response
  let hybrid := inviteSupportsHybrid invite
  let pqSecret := if hybrid then secrets.pqSecret else none
  let master ← derivePairMaster P identity.agreementPrivate invite.agreementPublic
    secrets.ephemeralPrivate response.inviterEphemeralPublic response.transcriptHash pqSecret
  let ratchet ← runRatchet (RatchetState.pairingRecvInit P response.inviterRatchetPublic)
    (RatchetState.fromMaster P master false hybrid secrets.ratchetPrivate)
  let deliveryProfile ← profileFromPairingBytes P response.inviterProfile invite.signingPublic
  let contact : Contact :=
    { name := invite.inviterName
      signingPublic := invite.signingPublic
      agreementPublic := invite.agreementPublic
      masterSecret := master
      conversationId := conversationIdFor invite.inviterName identity.name
      contactId := some (contactIdFor P invite.signingPublic invite.agreementPublic)
      transcriptHash := some response.transcriptHash
      ratchet := some ratchet
      deliveryProfile
      hybridPq := hybrid
      sessionStartedAt := now }
  applyPeerProfileAckFromBytes P contact request.joinerProfile (identity.signingPublicBytes P)

/-! ### Joining -/

/-- `contact_name or invite.inviter_name`. -/
def aliasOr (contactName : Option String) (inviterName : String) : String :=
  match contactName with
  | some name => if name = "" then inviterName else name
  | none => inviterName

/-- `finish_offline_pairing` on a parsed response, and the end of `invite_accept`,
which names its contact in the same way. -/
def finishOfflinePairing (identity : Identity) (invite : InviteBundle) (request : PairingRequest)
    (secrets : PairingSecrets) (response : PairingResponse) (contactName : Option String)
    (now : Int) : Except PyExc Contact := do
  let contact ← joinerCompletePairing P identity invite request secrets response now
  return { contact with name := aliasOr contactName invite.inviterName }

end Yakr
