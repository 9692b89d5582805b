import Yakr.Core.Codec
import Yakr.Core.DeliveryProfile

/-!
# Yakr.Core.CapabilityGrant

**Relay capability grants of `capability_grant.py`.** A relay signs a grant that names a
capability, the permissions it carries and the public key whose owner may use it; the owner
signs every request. Clock readings are arguments.
-/

namespace Yakr

open Lib

variable (P : Packages)

def grantProtocol : String := "yakr-relay-capability-grant-v1"
def defaultCapabilityTtlMs : Int := 24 * 60 * 60 * 1000
def timestampSkewMs : Int := 5 * 60 * 1000

/-- `normalize_permission`. -/
def normalizePermission (permission : String) : String :=
  if permission = "store" then "post" else permission

structure CapabilityGrant where
  capabilityId : Bytes
  capabilityGeneration : Int
  relayName : String
  relayTlsSpkiSha256 : Bytes
  permissions : List String
  expiresAt : Int
  authPublic : Bytes
  relaySignature : Bytes
deriving DecidableEq, Repr

namespace CapabilityGrant

/-- The signed entries. -/
def unsignedEntries (g : CapabilityGrant) : List (String × Cbor) :=
  [("protocol", .text grantProtocol), ("capability_id", .bytes g.capabilityId),
    ("capability_generation", .int g.capabilityGeneration), ("relay_name", .text g.relayName),
    ("relay_tls_spki_sha256", .bytes g.relayTlsSpkiSha256),
    ("permissions", .array (g.permissions.map .text)), ("expires_at", .int g.expiresAt),
    ("auth_public", .bytes g.authPublic)]

/-- `unsigned_payload`. -/
def unsignedPayload (g : CapabilityGrant) : Bytes := P.cborDumps (.map g.unsignedEntries)

/-- What `to_bytes` encodes. -/
def toCbor (g : CapabilityGrant) : Cbor :=
  .map (g.unsignedEntries ++ [("relay_signature", .bytes g.relaySignature)])

/-- `to_bytes`. -/
def toBytes (g : CapabilityGrant) : Bytes := P.cborDumps g.toCbor

/-- `from_bytes` on the decoded value. -/
def ofCbor : Cbor → Except PyExc CapabilityGrant
  | .map entries => do
      if cborStr P (cborGetD entries "protocol" .null) ≠ grantProtocol then
        throw (.valueError "unsupported capability grant protocol")
      let capabilityId ← cborBytes (← cborGet entries "capability_id")
      let capabilityGeneration ← cborInt (← cborGet entries "capability_generation")
      let relayName ← cborGet entries "relay_name"
      let relayTlsSpkiSha256 ← cborBytes (← cborGet entries "relay_tls_spki_sha256")
      let permissions ← cborItems (← cborGet entries "permissions")
      let expiresAt ← cborInt (← cborGet entries "expires_at")
      let authPublic ← cborBytes (← cborGet entries "auth_public")
      let relaySignature ← cborBytes (← cborGet entries "relay_signature")
      return { capabilityId, capabilityGeneration
               relayName := cborStr P relayName
               relayTlsSpkiSha256
               permissions := permissions.map (cborStr P)
               expiresAt, authPublic, relaySignature }
  | _ => .error (.valueError "invalid capability grant")

/-- `from_bytes`. -/
def fromBytes (data : Bytes) : Except PyExc CapabilityGrant := do
  ofCbor P (← P.cborLoads data)

/-- `to_b64`. -/
def toB64 (g : CapabilityGrant) : String := b64encode (g.toBytes P)

/-- `from_b64`. -/
def fromB64 (value : String) : Except PyExc CapabilityGrant := do
  fromBytes P (← b64decode value)

end CapabilityGrant

/-- `issue_capability_grant`. -/
def issueCapabilityGrant (relaySigningPrivate : PrivateKey) (capabilityId : Bytes)
    (capabilityGeneration : Int) (relayName : String) (relayTlsSpkiSha256 : Bytes)
    (permissions : List String) (authPublic : Bytes) (ttlMs now : Int) :
    Except PyExc CapabilityGrant :=
  if capabilityId.length ≠ 16 then .error (.valueError "capability_id must be 16 bytes")
  else if relayTlsSpkiSha256.length ≠ 32 then
    .error (.valueError "relay_tls_spki_sha256 must be 32 bytes")
  else
    let grant : CapabilityGrant :=
      { capabilityId, capabilityGeneration, relayName, relayTlsSpkiSha256, permissions
        expiresAt := now + ttlMs
        authPublic
        relaySignature := [] }
    .ok { grant with
      relaySignature := P.ed25519Sign relaySigningPrivate (grant.unsignedPayload P) }

/-- `verify_capability_grant`. -/
def verifyCapabilityGrant (grant : CapabilityGrant) (relaySigningPublic : Bytes)
    (relayName : String) (relayTlsSpkiSha256 : Bytes) (now : Int) : Except PyExc Unit :=
  if grant.expiresAt ≤ now then .error (.valueError "capability grant expired")
  else if grant.relayName ≠ relayName then
    .error (.valueError "capability grant relay name mismatch")
  else if grant.relayTlsSpkiSha256 ≠ relayTlsSpkiSha256 then
    .error (.valueError "capability grant TLS pin mismatch")
  else ed25519Check P relaySigningPublic grant.relaySignature (grant.unsignedPayload P)

/-- `capability_request_signing_input`. -/
def capabilityRequestSigningInput (method path : String) (body : Bytes) (timestampMs : Int)
    (nonce : Bytes) : Bytes :=
  List.intercalate (encodeUtf8 "\n")
    [encodeUtf8 method.toUpper, encodeUtf8 path, (P.sha256 body).1,
      encodeUtf8 (toString timestampMs), nonce]

/-- `verify_capability_request`. -/
def verifyCapabilityRequest (grant : CapabilityGrant) (authPublic signature : Bytes)
    (method path : String) (body : Bytes) (timestampMs : Int) (nonce : Bytes) (now : Int) :
    Except PyExc Unit :=
  if authPublic ≠ grant.authPublic then
    .error (.valueError "capability auth public key mismatch")
  else if |timestampMs - now| > timestampSkewMs then
    .error (.valueError "capability request timestamp out of range")
  else if nonce.length ≠ 16 then .error (.valueError "nonce must be 16 bytes")
  else
    ed25519Check P authPublic signature
      (capabilityRequestSigningInput P method path body timestampMs nonce)

/-- `grant_allows_permission`. -/
def grantAllowsPermission (grant : CapabilityGrant) (permission : String) : Bool :=
  grant.permissions.contains (normalizePermission permission)
    || grant.permissions.contains permission

/-! ### A grant is read back -/

namespace CapabilityGrant

variable {P}

theorem storable_toCbor (g : CapabilityGrant) : g.toCbor.Storable := by
  have hpermissions : Cbor.StorableItems (g.permissions.map .text) := by
    induction g.permissions with
    | nil => exact trivial
    | cons p permissions ih => exact ⟨trivial, ih⟩
  simp [toCbor, unsignedEntries, Cbor.Storable, Cbor.StorableEntries, hpermissions]

theorem ofCbor_toCbor (g : CapabilityGrant) : ofCbor P g.toCbor = .ok g := by
  have hpermissions : g.permissions.map (cborStr P ∘ Cbor.text) = g.permissions := by
    simp [Function.comp_def, cborStr]
  simp [ofCbor, toCbor, unsignedEntries, cborGet, cborGetD, List.lookup_cons, cborBytes, cborInt,
    cborItems, cborStr, bind, Except.bind, pure, Except.pure, hpermissions]

theorem fromBytes_toBytes (hcbor : P.CborLaws) (g : CapabilityGrant) :
    fromBytes P (g.toBytes P) = .ok g := by
  rw [fromBytes, toBytes, hcbor.loads_dumps g.storable_toCbor]
  exact ofCbor_toCbor g

theorem fromB64_toB64 (hcbor : P.CborLaws) (g : CapabilityGrant) :
    fromB64 P (g.toB64 P) = .ok g := by
  rw [fromB64, toB64, b64decode_b64encode]
  exact fromBytes_toBytes hcbor g

end CapabilityGrant
end Yakr
