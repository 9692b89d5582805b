import Yakr.Core.Identity

/-!
# Yakr.Core.Invite

**Invites of `invite.py`.** An invite is a signed bundle of the inviter's public
keys and a secret that only its holders know.
-/

namespace Yakr

open Lib

variable (P : Packages)

def protocolV4 : String := "yakr-v0.4"
def protocolV6 : String := "yakr-v0.6"
def hybridPqCapability : String := "hybrid_pq"
def defaultInviteTtlMs : Int := 24 * 60 * 60 * 1000

structure InviteBundle where
  protocol : String
  inviterName : String
  signingPublic : Bytes
  agreementPublic : Bytes
  inviteSecret : Bytes
  rendezvousHint : String
  expiresAt : Int
  capabilities : List String
  signature : Bytes
  kemPublic : Bytes := []
  pqSigningPublic : Bytes := []
  pqSignature : Bytes := []
  rendezvousTlsSpkiSha256 : Bytes := []
deriving DecidableEq, Repr

namespace InviteBundle

/-- An entry that is written only when it is not empty. -/
def optionalBytes (key : String) (value : Bytes) : List (String × Cbor) :=
  if value = [] then [] else [(key, .bytes value)]

/-- The entries every invite has. -/
def baseDict (b : InviteBundle) : List (String × Cbor) :=
  [("protocol", .text b.protocol), ("inviter_name", .text b.inviterName),
    ("signing_public", .bytes b.signingPublic), ("agreement_public", .bytes b.agreementPublic),
    ("invite_secret", .bytes b.inviteSecret), ("rendezvous_hint", .text b.rendezvousHint),
    ("expires_at", .int b.expiresAt), ("capabilities", .array (b.capabilities.map .text))]

/-- `_unsigned_dict`. -/
def unsignedDict (b : InviteBundle) : List (String × Cbor) :=
  b.baseDict
  ++ optionalBytes "kem_public" b.kemPublic
  ++ optionalBytes "pq_signing_public" b.pqSigningPublic
  ++ optionalBytes "rendezvous_tls_spki_sha256" b.rendezvousTlsSpkiSha256

/-- `unsigned_payload`. -/
def unsignedPayload (b : InviteBundle) : Bytes := P.cborDumps (.map b.unsignedDict)

/-- The entries of `to_bytes`. -/
def signedDict (b : InviteBundle) : List (String × Cbor) :=
  b.unsignedDict ++ [("signature", .bytes b.signature)] ++ optionalBytes "pq_signature" b.pqSignature

/-- `to_bytes`. -/
def toBytes (b : InviteBundle) : Bytes := P.cborDumps (.map b.signedDict)

/-- `from_bytes` on the decoded value. -/
def ofCbor : Cbor → Except PyExc InviteBundle
  | .map entries => do
      let protocol ← cborGet entries "protocol"
      let inviterName ← cborGet entries "inviter_name"
      let signingPublic ← cborBytes (← cborGet entries "signing_public")
      let agreementPublic ← cborBytes (← cborGet entries "agreement_public")
      let inviteSecret ← cborBytes (← cborGet entries "invite_secret")
      let rendezvousHint ← cborGet entries "rendezvous_hint"
      let expiresAt ← cborInt (← cborGet entries "expires_at")
      let capabilities ← cborItems (← cborGet entries "capabilities")
      let signature ← cborBytes (← cborGet entries "signature")
      let kemPublic ← cborBytes (cborGetD entries "kem_public" (.bytes []))
      let pqSigningPublic ← cborBytes (cborGetD entries "pq_signing_public" (.bytes []))
      let pqSignature ← cborBytes (cborGetD entries "pq_signature" (.bytes []))
      let rendezvousTlsSpkiSha256 ←
        cborBytes (cborGetD entries "rendezvous_tls_spki_sha256" (.bytes []))
      return { protocol := cborStr P protocol
               inviterName := cborStr P inviterName
               signingPublic, agreementPublic, inviteSecret
               rendezvousHint := cborStr P rendezvousHint
               expiresAt
               capabilities := capabilities.map (cborStr P)
               signature, kemPublic, pqSigningPublic, pqSignature, rendezvousTlsSpkiSha256 }
  | _ => .error (.valueError "invalid invite bundle")

/-- `from_bytes`. -/
def fromBytes (data : Bytes) : Except PyExc InviteBundle := do
  ofCbor P (← P.cborLoads data)

end InviteBundle

/-- `invite_supports_hybrid`. -/
def inviteSupportsHybrid (bundle : InviteBundle) : Bool :=
  bundle.capabilities.contains hybridPqCapability && !bundle.kemPublic.isEmpty

/-- `create_invite`, with the invite secret it draws. -/
def createInvite (identity : Identity) (rendezvousHint : String) (rendezvousTls : Bytes)
    (ttlMs : Int) (hybridPq : Bool) (now : Int) (inviteSecret : BytesN 32) :
    Except PyExc InviteBundle :=
  let classical : InviteBundle :=
    { protocol := protocolV4
      inviterName := identity.name
      signingPublic := identity.signingPublicBytes P
      agreementPublic := identity.agreementPublicBytes P
      inviteSecret := inviteSecret.1
      rendezvousHint
      expiresAt := now + ttlMs
      capabilities := ["direct_p2p", "friend_relay", "store_forward"]
      signature := []
      rendezvousTlsSpkiSha256 := rendezvousTls }
  if hybridPq then
    if identity.kemPublic = [] then
      .error (.valueError "identity missing ML-KEM keypair for hybrid invite")
    else
      let hybrid : InviteBundle :=
        { classical with
          protocol := protocolV6
          capabilities := classical.capabilities ++ [hybridPqCapability] }
      if identity.pqSigningPrivate ≠ [] then
        let payload := P.cborDumps (.map (hybrid.baseDict
          ++ [("kem_public", .bytes identity.kemPublic),
            ("pq_signing_public", .bytes identity.pqSigningPublic)]
          ++ InviteBundle.optionalBytes "rendezvous_tls_spki_sha256" rendezvousTls))
        .ok { hybrid with
          kemPublic := identity.kemPublic
          pqSigningPublic := identity.pqSigningPublic
          signature := P.ed25519Sign identity.signingPrivate payload
          pqSignature := P.mlDsaSign identity.pqSigningPrivate payload }
      else
        -- what is signed here has no `kem_public` entry, the bundle has
        .ok { hybrid with
          signature := P.ed25519Sign identity.signingPrivate (hybrid.unsignedPayload P)
          kemPublic := identity.kemPublic }
  else
    .ok { classical with
      signature := P.ed25519Sign identity.signingPrivate (classical.unsignedPayload P) }

/-- `verify_invite`. -/
def verifyInvite (bundle : InviteBundle) (now : Int) : Except PyExc Unit :=
  if bundle.protocol ≠ protocolV4 ∧ bundle.protocol ≠ protocolV6 then
    .error (.valueError "unsupported invite protocol")
  else if bundle.expiresAt ≤ now then .error (.valueError "invite expired")
  else do
    ed25519Check P bundle.signingPublic bundle.signature (bundle.unsignedPayload P)
    if bundle.pqSignature ≠ [] then
      if bundle.pqSigningPublic = [] then
        throw (.valueError "invite missing PQ signing public key")
      if !P.mlDsaVerify bundle.pqSigningPublic (bundle.unsignedPayload P) bundle.pqSignature then
        throw (.valueError "invalid PQ invite signature")

/-- What a pairing reads from an invite is what its inviter put there. -/
structure InviteBundle.IssuedBy (identity : Identity) (invite : InviteBundle) : Prop where
  inviterName : invite.inviterName = identity.name
  signingPublic : invite.signingPublic = identity.signingPublicBytes P
  agreementPublic : invite.agreementPublic = identity.agreementPublicBytes P
  kemPublic : inviteSupportsHybrid invite = true → invite.kemPublic = identity.kemPublic

/-- Every invite an identity creates is its own. -/
theorem issuedBy_createInvite {identity : Identity} {hint : String} {tls : Bytes} {ttl now : Int}
    {hybrid : Bool} {secret : BytesN 32} {invite : InviteBundle}
    (h : createInvite P identity hint tls ttl hybrid now secret = .ok invite) :
    invite.IssuedBy P identity := by
  unfold createInvite at h
  cases hybrid with
  | false =>
      obtain rfl := Except.ok.inj h
      exact ⟨rfl, rfl, rfl, by simp [inviteSupportsHybrid]⟩
  | true =>
      simp only [if_true] at h
      split at h
      · cases h
      · split at h
        · obtain rfl := Except.ok.inj h
          exact ⟨rfl, rfl, rfl, fun _ => rfl⟩
        · obtain rfl := Except.ok.inj h
          exact ⟨rfl, rfl, rfl, fun _ => rfl⟩

end Yakr
