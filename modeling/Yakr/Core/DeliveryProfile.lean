import Yakr.Core.Values
import Yakr.Core.Crypto

/-!
# Yakr.Core.DeliveryProfile

**Signed delivery profiles of `delivery_profile.py`.** A profile tells its readers
which relays and direct addresses reach its owner and the epoch length of the
mailbox tags. It is a CBOR map signed with Ed25519.
-/

namespace Yakr

open Lib

variable (P : Packages)

def protocolV5 : String := "yakr-v0.5"

structure RelayDescriptor where
  name : String
  role : String
  url : String
  wrapSecret : Bytes
  tlsSpkiSha256 : Bytes := []
  capabilityGeneration : Int := 0
  capabilityIssuanceSalt : Bytes := []
deriving DecidableEq, Repr

namespace RelayDescriptor

/-- `to_dict`. -/
def toCbor (d : RelayDescriptor) : Cbor :=
  .map ([("name", .text d.name), ("role", .text d.role), ("url", .text d.url),
      ("wrap_secret", .bytes d.wrapSecret)]
    ++ (if d.tlsSpkiSha256 = [] then [] else [("tls_spki_sha256", .bytes d.tlsSpkiSha256)])
    ++ (if d.capabilityIssuanceSalt = [] then []
        else [("capability_generation", .int d.capabilityGeneration),
          ("capability_issuance_salt", .bytes d.capabilityIssuanceSalt)]))

/-- `from_dict`. -/
def ofCbor : Cbor → Except PyExc RelayDescriptor
  | .map entries => do
      let name ← cborGet entries "name"
      let role ← cborGet entries "role"
      let url ← cborGet entries "url"
      let wrapSecret ← cborBytes (← cborGet entries "wrap_secret")
      let tlsSpkiSha256 ← cborBytes (cborGetD entries "tls_spki_sha256" (.bytes []))
      let capabilityGeneration ← cborInt (cborGetD entries "capability_generation" (.int 0))
      let capabilityIssuanceSalt ←
        cborBytes (cborGetD entries "capability_issuance_salt" (.bytes []))
      return { name := cborStr P name
               role := cborStr P role
               url := rstripSlash (cborStr P url)
               wrapSecret, tlsSpkiSha256, capabilityGeneration, capabilityIssuanceSalt }
  | _ => .error (.typeError "object is not subscriptable")

end RelayDescriptor

structure DeliveryProfile where
  protocol : String
  version : Int
  validFrom : Int
  validUntil : Int
  directHints : List String
  relayDescriptors : List RelayDescriptor
  mailboxEpochSecs : Int
  mailboxDirectionSalt : Bytes
  blobClasses : List Int
  receiptPolicy : String
  signature : Bytes
  endpointTlsSpkiSha256 : Bytes := []
deriving DecidableEq, Repr

namespace DeliveryProfile

/-- The signed entries. -/
def unsignedEntries (p : DeliveryProfile) : List (String × Cbor) :=
  [("protocol", .text p.protocol), ("version", .int p.version),
    ("valid_from", .int p.validFrom), ("valid_until", .int p.validUntil),
    ("direct_hints", .array (p.directHints.map .text)),
    ("relay_descriptors", .array (p.relayDescriptors.map RelayDescriptor.toCbor)),
    ("mailbox_params", .map [("epoch_secs", .int p.mailboxEpochSecs),
      ("direction_salt", .bytes p.mailboxDirectionSalt)]),
    ("blob_classes", .array (p.blobClasses.map .int)),
    ("receipt_policy", .text p.receiptPolicy),
    ("endpoint_tls_spki_sha256", .bytes p.endpointTlsSpkiSha256)]

/-- `unsigned_payload`. -/
def unsignedPayload (p : DeliveryProfile) : Bytes := P.cborDumps (.map p.unsignedEntries)

/-- `to_bytes`. -/
def toBytes (p : DeliveryProfile) : Bytes :=
  P.cborDumps (.map (p.unsignedEntries ++ [("signature", .bytes p.signature)]))

/-- `from_bytes` on the decoded value. -/
def ofCbor : Cbor → Except PyExc DeliveryProfile
  | .map entries => do
      let mailboxParams ← cborGet entries "mailbox_params"
      let protocol ← cborGet entries "protocol"
      let version ← cborInt (← cborGet entries "version")
      let validFrom ← cborInt (← cborGet entries "valid_from")
      let validUntil ← cborInt (← cborGet entries "valid_until")
      let directHints ← cborItems (← cborGet entries "direct_hints")
      let descriptors ← cborItems (← cborGet entries "relay_descriptors")
      let relayDescriptors ← descriptors.mapM (RelayDescriptor.ofCbor P)
      let params ←
        match mailboxParams with
        | .map params => pure params
        | _ => throw (.typeError "object is not subscriptable")
      let mailboxEpochSecs ← cborInt (← cborGet params "epoch_secs")
      let mailboxDirectionSalt ← cborBytes (← cborGet params "direction_salt")
      let classes ← cborItems (← cborGet entries "blob_classes")
      let blobClasses ← classes.mapM cborInt
      let receiptPolicy ← cborGet entries "receipt_policy"
      let signature ← cborBytes (← cborGet entries "signature")
      let endpointTlsSpkiSha256 ←
        cborBytes (cborGetD entries "endpoint_tls_spki_sha256" (.bytes []))
      return { protocol := cborStr P protocol
               version, validFrom, validUntil
               directHints := directHints.map (cborStr P)
               relayDescriptors, mailboxEpochSecs, mailboxDirectionSalt, blobClasses
               receiptPolicy := cborStr P receiptPolicy
               signature, endpointTlsSpkiSha256 }
  | _ => .error (.valueError "invalid delivery profile")

/-- `from_bytes`. -/
def fromBytes (data : Bytes) : Except PyExc DeliveryProfile := do
  ofCbor P (← P.cborLoads data)

/-- `to_b64`. -/
def toB64 (p : DeliveryProfile) : String := b64encode (p.toBytes P)

/-- `from_b64`. -/
def fromB64 (value : String) : Except PyExc DeliveryProfile := do
  fromBytes P (← b64decode value)

end DeliveryProfile

/-- `Ed25519PublicKey.from_public_bytes(public).verify(signature, data)`. -/
def ed25519Check (signingPublic signature data : Bytes) : Except PyExc Unit :=
  if h : signingPublic.length = 32 then
    if P.ed25519Verify ⟨signingPublic, h⟩ signature data then .ok ()
    else .error .invalidSignature
  else .error (.valueError "An Ed25519 public key is 32 bytes long")

/-- `verify_delivery_profile`. -/
def verifyDeliveryProfile (profile : DeliveryProfile) (signingPublic : Bytes) :
    Except PyExc Unit :=
  if profile.protocol ≠ protocolV5 then
    .error (.valueError "unsupported delivery profile protocol")
  else ed25519Check P signingPublic profile.signature (profile.unsignedPayload P)

/-- `profile_is_expired`, and `profile_is_stale`, which is the same. -/
def profileIsExpired (profile : DeliveryProfile) (now : Int) : Bool := profile.validUntil < now

/-- `accept_delivery_profile_update`. -/
def acceptDeliveryProfileUpdate (current : Option DeliveryProfile) (incoming : DeliveryProfile)
    (now : Int) : Except PyExc Unit :=
  if profileIsExpired incoming now then .error (.valueError "delivery profile expired")
  else
    match current with
    | none => .ok ()
    | some current =>
        if incoming.version < current.version then
          .error (.valueError ("delivery profile rollback rejected: incoming v"
            ++ toString incoming.version ++ " < stored v" ++ toString current.version))
        else if incoming.version = current.version ∧ incoming.toBytes P ≠ current.toBytes P then
          .error (.valueError ("delivery profile version conflict at v"
            ++ toString incoming.version))
        else .ok ()

/-- `mailbox_descriptors`. -/
def mailboxDescriptors (profile : DeliveryProfile) : List RelayDescriptor :=
  profile.relayDescriptors.filter fun d => d.role = "mailbox" ∨ d.role = "both"

/-- `relay_names_from_profile`. -/
def relayNamesFromProfile (profile : DeliveryProfile) : List String :=
  (mailboxDescriptors profile).map (·.name)

end Yakr
