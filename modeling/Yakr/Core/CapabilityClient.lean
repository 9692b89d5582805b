import Yakr.Core.CapabilityGrant
import Yakr.Core.HttpClient
import Yakr.Relay.App

/-!
# Yakr.Core.CapabilityClient

**The relays a device advertises: `relay_authorization.py`, `capability_client.py`.** A device may
list the relays its contacts operate, and its own. For the operators it is paired with it asks
their relays for capability grants, which it keeps in a table of their own beside the store.

What a relay answers is an argument of each call that asks it, the random bytes are drawn before.
-/

namespace Yakr

open Lib Effect

variable (P : Packages)

/-! ### Relays to advertise -/

/-- `_with_operator_tls`. -/
def withOperatorTls (descriptor : RelayDescriptor) (contact : Contact) : RelayDescriptor :=
  if descriptor.tlsSpkiSha256 ≠ [] then descriptor
  else
    match contact.deliveryProfile with
    | none => descriptor
    | some profile =>
        if profile.endpointTlsSpkiSha256 = [] then descriptor
        else
          { name := descriptor.name
            role := descriptor.role
            url := descriptor.url
            wrapSecret := descriptor.wrapSecret
            tlsSpkiSha256 := profile.endpointTlsSpkiSha256 }

/-- `relays_operated_by_contact`. -/
def relaysOperatedByContact (contact : Contact) : List RelayDescriptor :=
  match contact.deliveryProfile with
  | none => []
  | some profile =>
      (profile.relayDescriptors.filter fun d => d.name = contact.name).map fun d =>
        withOperatorTls d contact

/-- The loop of `authorized_publish_relays`: one descriptor for each address. -/
def firstOfEachUrl (seenUrls : List String) : List RelayDescriptor → List RelayDescriptor
  | [] => []
  | d :: descriptors =>
      if seenUrls.contains (rstripSlash d.url) then firstOfEachUrl seenUrls descriptors
      else d :: firstOfEachUrl (rstripSlash d.url :: seenUrls) descriptors

/-- `authorized_publish_relays`. -/
def authorizedPublishRelays (identityName : String) (contacts : List Contact)
    (selfRelay : Option RelayDescriptor) : Except PyExc (List RelayDescriptor) :=
  match selfRelay with
  | none => .ok (firstOfEachUrl [] (contacts.flatMap relaysOperatedByContact))
  | some own =>
      if own.name ≠ identityName then
        .error (.valueError "self-operated relay name must match identity name")
      else
        .ok (own :: firstOfEachUrl [rstripSlash own.url]
          (contacts.flatMap relaysOperatedByContact))

/-- `assert_publish_relays_allowed`. -/
def assertPublishRelaysAllowed (relayDescriptors authorized : List RelayDescriptor) :
    Except PyExc Unit :=
  match relayDescriptors.find? fun d =>
      !(authorized.map fun a => rstripSlash a.url).contains (rstripSlash d.url) with
  | none => .ok ()
  | some d =>
      .error (.valueError ("cannot advertise relay '" ++ d.name ++ "' at " ++ d.url
        ++ ": not paired with that relay operator"))

/-- `self_relay_descriptor`. -/
def selfRelayDescriptor (identity : Identity) (relayUrl relayName : String) (wrapSecret : Bytes)
    (endpointTlsSpkiSha256 : Bytes) : Option RelayDescriptor :=
  if relayName ≠ identity.name then none
  else
    some { name := identity.name
           role := "both"
           url := rstripSlash relayUrl
           wrapSecret
           tlsSpkiSha256 := endpointTlsSpkiSha256 }

/-! ### Grants -/

def capabilityHkdfInfo : Bytes := encodeUtf8 "yakr-relay-capability-v1"
def defaultCapabilityPermissions : List String := ["post", "fetch"]

/-- A row of `capability_grants`. -/
structure StoredGrant where
  relayName : String
  capabilityGeneration : Int
  grantB64 : String
  authPrivateB64 : String
  issuanceSaltB64 : String
  relayTlsSpkiSha256 : Bytes
  expiresAt : Int
deriving DecidableEq, Repr

namespace StoredGrant

/-- The primary key. -/
def key (r : StoredGrant) : String × Int := (r.relayName, r.capabilityGeneration)

end StoredGrant

/-- The store of a device with the table of its grants. -/
structure Publisher where
  store : FileLocalStore
  capabilityGrants : List StoredGrant := []

abbrev PublishM := EStateM PyExc Publisher

namespace Publisher

/-- `load_capability_grant`: the row of the newest generation. -/
def loadCapabilityGrant (publisher : Publisher) (relayName : String) : Option StoredGrant :=
  (orderBy (fun r => -r.capabilityGeneration)
    (publisher.capabilityGrants.filter fun r => r.relayName = relayName)).head?

/-- `save_capability_grant`. -/
def saveCapabilityGrant (relayName : String) (grant : CapabilityGrant)
    (authPrivate issuanceSalt relayTlsSpkiSha256 : Bytes) : PublishM Unit := do
  orRaise (sqlInteger grant.capabilityGeneration)
  orRaise (sqlInteger grant.expiresAt)
  modify fun publisher => { publisher with
    capabilityGrants := Table.upsert StoredGrant.key
      { relayName
        capabilityGeneration := grant.capabilityGeneration
        grantB64 := grant.toB64 P
        authPrivateB64 := b64encode authPrivate
        issuanceSaltB64 := b64encode issuanceSalt
        relayTlsSpkiSha256
        expiresAt := grant.expiresAt }
      publisher.capabilityGrants }

end Publisher

/-- `value.to_bytes(8, "big")`. -/
def toBytes8 (value : Int) : Except PyExc Bytes :=
  if 0 ≤ value ∧ value < 2 ^ 64 then .ok (Bytes.ofNatBE 8 value.toNat)
  else .error (.other "OverflowError")

/-- `derive_capability_material`: the id and the private key. -/
def deriveCapabilityMaterial (masterSecret : Bytes) (relayName : String)
    (relayTlsSpkiSha256 : Bytes) (capabilityGeneration : Int) (issuanceSalt : Bytes) :
    Except PyExc (Bytes × PrivateKey) := do
  if issuanceSalt.length ≠ 16 then throw (.valueError "issuance_salt must be 16 bytes")
  let generation ← toBytes8 capabilityGeneration
  let seedMaterial := encodeUtf8 relayName ++ relayTlsSpkiSha256 ++ generation ++ issuanceSalt
  let capabilitySeed := hkdfDerive P masterSecret capabilityHkdfInfo 32 seedMaterial
  return (hkdfDerive P capabilitySeed (encodeUtf8 "id") 16,
    P.hkdf capabilitySeed (encodeUtf8 "auth") [] 32)

/-- `_descriptor_for_relay`. -/
def descriptorForRelay (profile : Option DeliveryProfile) (relayName : String) :
    Option RelayDescriptor :=
  profile.bind fun profile => profile.relayDescriptors.find? fun d => d.name = relayName

/-- `capability_material_params`, with the salt it draws where it finds none. -/
def capabilityMaterialParams (publisher : Publisher) (relayName : String)
    (operatorProfile : Option DeliveryProfile) (drawn : BytesN 16) : Except PyExc (Int × Bytes) :=
  let ofStored : Except PyExc (Int × Bytes) :=
    match publisher.loadCapabilityGrant relayName with
    | some stored => do return (stored.capabilityGeneration, ← b64decode stored.issuanceSaltB64)
    | none => .ok (1, drawn.1)
  match descriptorForRelay operatorProfile relayName with
  | some d =>
      if d.capabilityIssuanceSalt = [] then ofStored
      else
        .ok (if d.capabilityGeneration = 0 then 1 else d.capabilityGeneration,
          d.capabilityIssuanceSalt)
  | none => ofStored

/-- `enrich_descriptor_capabilities` with the salt it draws. -/
def enrichDescriptorCapabilities (publisher : Publisher) (salt : BytesN 16)
    (descriptor : RelayDescriptor) : Except PyExc RelayDescriptor := do
  match ← publisher.store.getContact P descriptor.name with
  | none => return descriptor
  | some _ =>
      let generation : Int :=
        match publisher.loadCapabilityGrant descriptor.name with
        | none => 1
        | some stored => stored.capabilityGeneration + 1
      return { name := descriptor.name
               role := descriptor.role
               url := descriptor.url
               wrapSecret := descriptor.wrapSecret
               tlsSpkiSha256 := descriptor.tlsSpkiSha256
               capabilityGeneration :=
                 if descriptor.capabilityIssuanceSalt ≠ []
                     ∧ generation ≤ descriptor.capabilityGeneration then
                   descriptor.capabilityGeneration + 1
                 else generation
               capabilityIssuanceSalt := salt.1 }

/-- `enrich_profile_capability_descriptors`; `salts i` is what is drawn for the `i`-th one. -/
def enrichProfileCapabilityDescriptors (publisher : Publisher) (salts : Nat → BytesN 16)
    (descriptors : List RelayDescriptor) : Except PyExc (List RelayDescriptor) :=
  (descriptors.zipIdx).mapM fun d => enrichDescriptorCapabilities P publisher (salts d.2) d.1

/-! ### Asking for grants -/

/-- The response to `/v1/capabilities/issue`; `grant` is what `response.json()["grant"]` gives. -/
structure IssueResponse where
  statusCode : Int
  text : String
  grant : Except PyExc String

/-- What asking relays gives, and what is drawn and read while they are asked. -/
structure RelayAnswers where
  /-- `relay_supports_capabilities`, by the address of the relay. -/
  supports : String → Except PyExc Bool
  /-- The request for a grant, by the address of the relay. -/
  issue : String → CapabilityIssueRequest → Except PyExc IssueResponse
  /-- The salt that is drawn where there is none. -/
  drawn : BytesN 16
  /-- The clock. -/
  now : Int

/-- `issue_relay_ticket`. -/
def issueRelayTicket (identity : Identity) (relayName : String) (permissions : List String)
    (contactId : Bytes) (ttlMs now : Int) : RelayTicket :=
  let unsigned : RelayTicket :=
    { issuerSigningPublic := identity.signingPublicBytes P
      relayName, permissions, contactId
      expiresAt := now + ttlMs
      signature := [] }
  { unsigned with
    signature := P.ed25519Sign identity.signingPrivate (unsigned.unsignedPayload P) }

/-- `RelayTicket.to_b64`. -/
def RelayTicket.toB64 (t : RelayTicket) : String :=
  b64encode (P.cborDumps (.map [("issuer_signing_public", .bytes t.issuerSigningPublic),
    ("relay_name", .text t.relayName), ("permissions", .array (t.permissions.map .text)),
    ("contact_id", .bytes t.contactId), ("expires_at", .int t.expiresAt),
    ("signature", .bytes t.signature)]))

/-- `_bootstrap_ticket`. -/
def bootstrapTicket (identity : Identity) (contact : Contact) (relayName : String)
    (permissions : List String) (now : Int) : Except PyExc String :=
  match contact.contactId with
  | none => .error (.valueError "contact missing contact_id for capability bootstrap")
  | some contactId =>
      .ok ((issueRelayTicket P identity relayName permissions contactId (60 * 60 * 1000) now).toB64
        P)

variable (U : UrlTables)

/-- `_relay_tls_pin`; the device's own identity is stored. -/
def relayTlsPin (identity : Identity) (relayUrl : String) (store : FileLocalStore)
    (contact : Contact) : Except PyExc Bytes := do
  match ← resolveTlsPinForUrl P U (.ok (some identity)) relayUrl (some store) (some contact) with
  | none => throw (.valueError ("no TLS SPKI pin for relay " ++ relayUrl))
  | some pin =>
      if pin.length ≠ 32 then throw (.valueError ("no TLS SPKI pin for relay " ++ relayUrl))
      return pin

/-- The id of the grant that a new one of this generation supersedes. -/
def supersededId (publisher : Publisher) (relayName : String) (generation : Int) :
    Except PyExc (Option String) :=
  match publisher.loadCapabilityGrant relayName with
  | none => .ok none
  | some stored =>
      if stored.capabilityGeneration < generation then do
        let previous ← CapabilityGrant.fromBytes P (← b64decode stored.grantB64)
        return some (b64encode previous.capabilityId)
      else .ok none

/-- `issue_capability_from_relay` without a key to verify the grant with. -/
def issueCapabilityFromRelay (answers : RelayAnswers) (identity : Identity) (contact : Contact)
    (relayUrl relayName : String) (operatorProfile : Option DeliveryProfile) :
    PublishM CapabilityGrant := do
  let publisher ← get
  let tlsPin ← orRaise (relayTlsPin P U identity relayUrl publisher.store contact)
  let (generation, issuanceSalt) ←
    orRaise (capabilityMaterialParams publisher relayName operatorProfile answers.drawn)
  let (capabilityId, authPrivate) ←
    orRaise (deriveCapabilityMaterial P contact.masterSecret relayName tlsPin generation
      issuanceSalt)
  let ticket ←
    orRaise (bootstrapTicket P identity contact relayName ["store", "fetch"] answers.now)
  let supersedesCapabilityId ← orRaise (supersededId P publisher relayName generation)
  let response ← orRaise (answers.issue relayUrl
    { authPublic := b64encode (P.ed25519Public authPrivate).1
      capabilityId := b64encode capabilityId
      capabilityGeneration := generation
      issuanceSalt := b64encode issuanceSalt
      permissions := defaultCapabilityPermissions
      ticket := some ticket
      supersedesCapabilityId })
  if response.statusCode ≠ 201 then
    throw (.runtimeError ("capability issue failed: " ++ toString response.statusCode ++ " "
      ++ response.text))
  let grant ← orRaise (do CapabilityGrant.fromB64 P (← response.grant))
  Publisher.saveCapabilityGrant P relayName grant authPrivate.1 issuanceSalt tlsPin
  return grant

/-- The loop of `sync_profile_capability_grants`. -/
def syncDescriptors (answers : RelayAnswers) (identity : Identity) (profile : DeliveryProfile) :
    List RelayDescriptor → PublishM (List CapabilityGrant)
  | [] => pure []
  | descriptor :: descriptors => do
      if descriptor.capabilityIssuanceSalt = [] then
        syncDescriptors answers identity profile descriptors
      else
        match ← orRaise ((← get).store.getContact P descriptor.name) with
        | none => syncDescriptors answers identity profile descriptors
        | some operatorContact =>
            if ← orRaise (answers.supports descriptor.url) then
              let grant ← issueCapabilityFromRelay P U answers identity operatorContact
                descriptor.url descriptor.name (some profile)
              return grant :: (← syncDescriptors answers identity profile descriptors)
            else syncDescriptors answers identity profile descriptors

/-- `sync_profile_capability_grants`. -/
def syncProfileCapabilityGrants (answers : RelayAnswers) (identity : Identity)
    (profile : DeliveryProfile) : PublishM (List CapabilityGrant) :=
  syncDescriptors P U answers identity profile profile.relayDescriptors

end Yakr
