import Yakr.Core.RelayTicket
import Yakr.Relay.BlobStore
import Yakr.Relay.CapabilityStore
import Yakr.Relay.PairingStore

/-!
# Yakr.Relay.App

**The HTTP interface of a relay: `app.py`.** A relay is its three stores; a request runs one
route, which reads the clock as often as its code does. Payloads are the values the framework
has parsed from the body; a body it refuses reaches no route.

The relay also remembers the capability checks that passed. No route reads that list.
-/

namespace Yakr

open Lib Effect

variable (P : Packages)

/-! ### Requests and responses -/

structure BlobStoreRequest where
  mailboxTag : String
  expiresAt : Int
  ciphertext : String
  ticket : Option String := none
deriving DecidableEq, Repr

structure BlobResponse where
  mailboxTag : String
  expiresAt : Int
  ciphertext : String
  storedAt : Int
deriving DecidableEq, Repr

structure CapabilityIssueRequest where
  authPublic : String
  capabilityId : String
  capabilityGeneration : Int
  issuanceSalt : String
  permissions : List String
  ticket : Option String := none
  supersedesCapabilityId : Option String := none
deriving DecidableEq, Repr

structure FetchRequest where
  mailboxTags : List String
  ticket : Option String := none
deriving DecidableEq, Repr

/-- What the capability check reads of a request: its body and its four headers. -/
structure SignedHttp where
  body : Bytes
  grant : Option String := none
  timestamp : Option String := none
  nonce : Option String := none
  signature : Option String := none
deriving DecidableEq, Repr

/-- A request, by its route. -/
inductive RelayRequest where
  | healthz
  | issueCapability (request : CapabilityIssueRequest)
  | registerCapability (grant : String)
  | revokeCapability (capabilityId ticket : String)
  | storeBlob (http : SignedHttp) (payload : BlobStoreRequest)
  | fetchBlobsPost (http : SignedHttp) (payload : FetchRequest)
  | fetchBlobsLegacy (mailboxTag : String)
  /-- With the status and text of the next relay's answer, or what the POST to it raises. -/
  | relayPacket (packet : String) (ticket : Option String) (forwarded : Except PyExc (Nat × String))
  | ingestPacket (inner : String) (ticket : Option String)
  | pairRegister (inviteSecret : String)
  | pairStoreRequest (request : String)
  | pairPending (inviteTag : String)
  | pairStoreResponse (inviteSecret response : String)
  | pairFetchResponse (inviteTag : String)

/-- The content of a response. -/
inductive Content where
  | object (entries : List (String × String))
  | blobs (items : List BlobResponse)
deriving DecidableEq, Repr

structure RelayResponse where
  statusCode : Nat
  content : Content
deriving DecidableEq, Repr

structure HttpException where
  statusCode : Nat
  detail : String
deriving DecidableEq, Repr

/-- An exception that no handler expects. -/
def internalServerError : HttpException := { statusCode := 500, detail := "Internal Server Error" }

/-- `str(exc)`; the class name stands for the texts of the packages. -/
def PyExc.text : PyExc → String
  | valueError msg => msg
  | keyError key => "'" ++ key ++ "'"
  | typeError msg => msg
  | attributeError msg => msg
  | zeroDivisionError => "division by zero"
  | structError => "struct.error"
  | runtimeError msg => msg
  | httpError msg => msg
  | cryptoError => "Decryption failed. Ciphertext failed verification"
  | invalidSignature => ""
  | exit code => toString code
  | yakr _ msg => msg
  | other className => className

/-! ### The relay -/

inductive RelayRole where
  | entry
  | mailbox
  | both
deriving DecidableEq, Repr

namespace RelayRole

def text : RelayRole → String
  | entry => "entry"
  | mailbox => "mailbox"
  | both => "both"

end RelayRole

structure RelayRuntime where
  role : RelayRole
  wrapSecret : Option Bytes
  name : String
  requireTickets : Bool := false
  requireCapabilities : Bool := false
  relayIssuancePublic : Bytes := []
  relayIssuancePrivate : Bytes := []
  relayTlsSpkiSha256 : Bytes := []
deriving DecidableEq, Repr

/-- A request as its signature covers it. -/
structure SignedRequest where
  grant : CapabilityGrant
  method : String
  path : String
  body : Bytes
  timestampMs : Int
  nonce : Bytes
  signature : Bytes
deriving DecidableEq, Repr

/-- A capability check that passed. -/
structure PassedCheck where
  permission : String
  request : SignedRequest
  /-- The header that the nonce was read from. -/
  nonceB64 : String
  /-- The clock reading that is kept with it. -/
  consumedAt : Int
deriving DecidableEq, Repr

structure Relay where
  blobs : BlobStore := {}
  pairing : PairingStore := {}
  capabilities : CapabilityGrantStore := {}
  /-- How often the clock has been read. -/
  readings : Nat := 0
  /-- The capability checks that passed, oldest first. -/
  passed : List PassedCheck := []

/-- The body of a `try`. -/
abbrev BodyM := EStateM PyExc Relay

/-- A route. -/
abbrev RouteM := EStateM HttpException Relay

namespace Relay

variable (runtime : RelayRuntime) (clock : Nat → Int)

/-- `int(time.time() * 1000)`. -/
def tick {ε : Type} : EStateM ε Relay Int := do
  let r ← get
  set { r with readings := r.readings + 1 }
  return clock r.readings

def onBlobs {α : Type} (m : EStateM PyExc BlobStore α) : BodyM α :=
  onPart Relay.blobs (fun r blobs => { r with blobs := blobs }) m

def onPairing {α : Type} (m : EStateM PyExc PairingStore α) : BodyM α :=
  onPart Relay.pairing (fun r pairing => { r with pairing := pairing }) m

def onCapabilities {α : Type} (m : EStateM PyExc CapabilityGrantStore α) : BodyM α :=
  onPart Relay.capabilities (fun r capabilities => { r with capabilities := capabilities }) m

/-- `except … as exc: raise HTTPException(…) from exc`. -/
def rescue {α : Type} (body : BodyM α) (handler : PyExc → HttpException) : RouteM α := fun r =>
  match body.run r with
  | .ok a r' => .ok a r'
  | .error e r' => .error (handler e) r'

/-- `except ValueError`, and what it lets through. -/
def onValueError (handler : String → HttpException) (e : PyExc) : HttpException :=
  if e.isValueError then handler e.text else internalServerError

/-! ### Authorization -/

/-- `verify_relay_ticket` at its clock reading. -/
def verifyTicket (ticket : RelayTicket) (permission : String) : BodyM Unit := do
  let now ← tick clock
  orRaise (verifyRelayTicket P ticket runtime.name permission now)

/-- The loop of `_check_bootstrap_ticket`. -/
def verifyAny (ticket : RelayTicket) : List String → BodyM Unit
  | [] => throw (.valueError "relay ticket missing store or fetch permission")
  | permission :: permissions =>
      tryCatch (verifyTicket P runtime clock ticket permission) fun e =>
        if e.isValueError then verifyAny ticket permissions else throw e

/-- `except Exception` of the three checks. -/
def unauthorized (kind : String) (e : PyExc) : HttpException :=
  { statusCode := 401, detail := "invalid " ++ kind ++ ": " ++ e.text }

/-- `_check_bootstrap_ticket`. -/
def checkBootstrapTicket (ticketB64 : Option String) : RouteM Unit :=
  match ticketB64 with
  | none => throw { statusCode := 401, detail := "relay ticket required for capability issue" }
  | some ticketB64 =>
      rescue
        (do
          let ticket ← orRaise (RelayTicket.fromB64 P ticketB64)
          verifyAny P runtime clock ticket ["store", "fetch"])
        (unauthorized "relay ticket")

/-- `_check_ticket`. -/
def checkTicket (ticketB64 : Option String) (permission : String) : RouteM Unit := do
  if ¬ runtime.requireTickets then return
  match ticketB64 with
  | none => throw { statusCode := 401, detail := "relay ticket required" }
  | some ticketB64 =>
      rescue
        (do
          let ticket ← orRaise (RelayTicket.fromB64 P ticketB64)
          verifyTicket P runtime clock ticket permission)
        (unauthorized "relay ticket")

/-- White space that `int` strips from the text of a header, which is Latin-1. -/
def isHeaderSpace (c : Char) : Bool :=
  isPySpace c || ('\x1c' ≤ c && c ≤ '\x1f') || c = '\x85' || c = '\xa0'

/-- `int` of the text of a header. -/
def intOfHeader (value : String) : Except PyExc Int :=
  let stripped :=
    ((value.toList.dropWhile isHeaderSpace).reverse.dropWhile isHeaderSpace).reverse
  match intOfText (String.ofList stripped) with
  | some n => .ok n
  | none => .error (.valueError "invalid literal for int() with base 10")

/-- The guarded part of `_check_capability`. -/
def verifyCapability (permission method path : String) (body : Bytes)
    (grantB64 timestampRaw nonceB64 signatureB64 : String) : BodyM Unit := do
  let grant ← orRaise (CapabilityGrant.fromB64 P grantB64)
  let now ← tick clock
  orRaise (verifyCapabilityGrant P grant runtime.relayIssuancePublic runtime.name
    runtime.relayTlsSpkiSha256 now)
  let now ← tick clock
  let registered ← orRaise ((← get).capabilities.isRegistered P grant now)
  if ¬ registered then throw (.valueError "capability grant not registered")
  if ¬ grantAllowsPermission grant permission then
    throw (.valueError ("capability missing permission: " ++ permission))
  let signature ← orRaise (b64decode signatureB64)
  let timestampMs ← orRaise (intOfHeader timestampRaw)
  let nonce ← orRaise (b64decode nonceB64)
  let now ← tick clock
  orRaise (verifyCapabilityRequest P grant grant.authPublic signature method path body
    timestampMs nonce now)
  let now ← tick clock
  onCapabilities (CapabilityGrantStore.consumeNonce nonceB64 now)
  let request : SignedRequest := { grant, method, path, body, timestampMs, nonce, signature }
  modify fun r =>
    { r with passed := r.passed ++ [{ permission, request, nonceB64, consumedAt := now }] }

/-- `_check_capability`. -/
def checkCapability (http : SignedHttp) (permission method path : String) : RouteM Unit := do
  if ¬ runtime.requireCapabilities then return
  if runtime.relayIssuancePublic = [] then
    throw { statusCode := 500, detail := "relay missing issuance public key" }
  match http.grant, http.timestamp, http.nonce, http.signature with
  | some grantB64, some timestampRaw, some nonceB64, some signatureB64 =>
      if grantB64 = "" ∨ timestampRaw = "" ∨ nonceB64 = "" ∨ signatureB64 = "" then
        throw { statusCode := 401, detail := "capability headers required" }
      rescue
        (verifyCapability P runtime clock permission method path http.body grantB64 timestampRaw
          nonceB64 signatureB64)
        (unauthorized "capability")
  | _, _, _, _ => throw { statusCode := 401, detail := "capability headers required" }

/-- `_authorize_request`. -/
def authorizeRequest (http : SignedHttp) (permission method path : String)
    (ticketB64 : Option String) : RouteM Unit :=
  if runtime.requireCapabilities then
    checkCapability P runtime clock http permission method path
  else checkTicket P runtime clock ticketB64 permission

/-! ### Capability routes -/

/-- The status of an error of the capability routes and of `ingest_packet`. -/
def badRequest (detail : String) : HttpException := { statusCode := 400, detail }

/-- `CapabilityGrantStore.register` at its two clock readings. -/
def registerGrant (grant : CapabilityGrant) : BodyM Unit := do
  let verifiedAt ← tick clock
  let registeredAt ← tick clock
  onCapabilities (CapabilityGrantStore.register P grant runtime.relayIssuancePublic runtime.name
    runtime.relayTlsSpkiSha256 verifiedAt registeredAt)

/-- The teardown of a superseded capability. -/
def supersede (capabilityId : Bytes) : BodyM Unit := do
  let now ← tick clock
  onCapabilities (CapabilityGrantStore.revokeWithOverlap capabilityId now none)

/-- The guarded part of `issue_capability`. -/
def issueGrant (request : CapabilityIssueRequest) : BodyM CapabilityGrant := do
  let authPublic ← orRaise (b64decode request.authPublic)
  let capabilityId ← orRaise (b64decode request.capabilityId)
  let issuanceSalt ← orRaise (b64decode request.issuanceSalt)
  if capabilityId.length ≠ 16 then throw (.valueError "capability_id must be 16 bytes")
  if issuanceSalt.length ≠ 16 then throw (.valueError "issuance_salt must be 16 bytes")
  let relayPrivate ← orRaise (loadPrivate runtime.relayIssuancePrivate)
  let now ← tick clock
  let grant ← orRaise (issueCapabilityGrant P relayPrivate capabilityId
    request.capabilityGeneration runtime.name runtime.relayTlsSpkiSha256 request.permissions
    authPublic defaultCapabilityTtlMs now)
  match request.supersedesCapabilityId with
  | some superseded =>
      if superseded ≠ "" then
        let supersededId ← orRaise (b64decode superseded)
        supersede clock supersededId
  | none => pure ()
  registerGrant P runtime clock grant
  return grant

/-- `issue_capability`. -/
def issueCapability (request : CapabilityIssueRequest) : RouteM RelayResponse := do
  if runtime.relayIssuancePrivate = [] then
    throw { statusCode := 500, detail := "relay missing issuance private key" }
  checkBootstrapTicket P runtime clock request.ticket
  let grant ← rescue (issueGrant P runtime clock request) fun e => badRequest e.text
  return { statusCode := 201
           content := .object [("status", "issued"), ("grant", grant.toB64 P)] }

/-- `register_capability`. -/
def registerCapability (grantB64 : String) : RouteM RelayResponse := do
  if runtime.relayIssuancePublic = [] then
    throw { statusCode := 500, detail := "relay missing issuance public key" }
  let grant ← rescue
    (do
      let grant ← orRaise (CapabilityGrant.fromB64 P grantB64)
      registerGrant P runtime clock grant
      return grant)
    fun e => badRequest e.text
  return { statusCode := 201
           content := .object
            [("status", "registered"), ("capability_id", b64encode grant.capabilityId)] }

/-- `revoke_capability`. -/
def revokeCapability (capabilityId ticket : String) : RouteM RelayResponse := do
  checkBootstrapTicket P runtime clock (some ticket)
  rescue
    (do
      let id ← orRaise (b64decode capabilityId)
      if id.length ≠ 16 then throw (.valueError "capability_id must be 16 bytes")
      let now ← tick clock
      onCapabilities (CapabilityGrantStore.revokeImmediately id now))
    fun e => badRequest e.text
  return { statusCode := 200
           content := .object [("status", "revoked"), ("capability_id", capabilityId)] }

/-! ### Blob routes -/

/-- The status of a refused store. -/
def storeError (detail : String) : HttpException :=
  { statusCode := if strContains "blob limit exceeded" detail then 429 else 400, detail }

/-- `BlobStore.store` at its clock reading. -/
def keepBlob (mailboxTag : Bytes) (expiresAt : Int) (ciphertext : Bytes) : BodyM Unit := do
  let now ← tick clock
  onBlobs (BlobStore.store mailboxTag expiresAt ciphertext none now)

/-- `BlobStore.fetch` at its clock reading. -/
def readBlobs {ε : Type} (mailboxTag : Bytes) : EStateM ε Relay (List StoredBlob) := do
  let now ← tick clock
  return (← get).blobs.fetch mailboxTag now

/-- The `BlobResponse` of a blob. -/
def blobResponse (b : StoredBlob) : BlobResponse :=
  { mailboxTag := b64encode b.mailboxTag
    expiresAt := b.expiresAt
    ciphertext := b64encode b.ciphertext
    storedAt := b.storedAt }

/-- `store_blob`. -/
def storeBlob (http : SignedHttp) (payload : BlobStoreRequest) : RouteM RelayResponse := do
  if runtime.role = .entry then
    throw { statusCode := 405, detail := "entry relay does not store blobs directly" }
  authorizeRequest P runtime clock http "store" "POST" "/v1/blobs" payload.ticket
  rescue
    (do
      let mailboxTag ← orRaise (b64decode payload.mailboxTag)
      let ciphertext ← orRaise (b64decode payload.ciphertext)
      keepBlob clock mailboxTag payload.expiresAt ciphertext)
    (onValueError storeError)
  return { statusCode := 201, content := .object [("status", "stored")] }

/-- The tag of a fetch request. -/
def decodeTag (mailboxTag : String) : RouteM Bytes :=
  rescue (orRaise (b64decode mailboxTag)) fun _ => badRequest "invalid mailbox_tag"

/-- The inner loop of `fetch_blobs_post`: a blob is shown once for each ciphertext and time. -/
def addNew (items : List BlobResponse) (b : StoredBlob) : List BlobResponse :=
  if items.any fun i => i.ciphertext = b64encode b.ciphertext ∧ i.storedAt = b.storedAt then items
  else items ++ [blobResponse b]

/-- The loop of `fetch_blobs_post`. -/
def collectBlobs : (mailboxTags : List String) → (items : List BlobResponse) →
    RouteM (List BlobResponse)
  | [], items => return items
  | mailboxTag :: mailboxTags, items => do
      let tagBytes ← decodeTag mailboxTag
      let blobs ← readBlobs clock tagBytes
      collectBlobs mailboxTags (blobs.foldl addNew items)

/-- `fetch_blobs_post`. -/
def fetchBlobsPost (http : SignedHttp) (payload : FetchRequest) : RouteM RelayResponse := do
  if runtime.role = .entry then
    throw { statusCode := 405, detail := "entry relay does not fetch blobs" }
  authorizeRequest P runtime clock http "fetch" "POST" "/v1/fetch" payload.ticket
  if payload.mailboxTags = [] then throw (badRequest "mailbox_tags required")
  let items ← collectBlobs clock payload.mailboxTags []
  return { statusCode := 200, content := .blobs items }

/-- `fetch_blobs_legacy`. -/
def fetchBlobsLegacy (mailboxTag : String) : RouteM RelayResponse := do
  let tagBytes ← decodeTag mailboxTag
  let blobs ← readBlobs clock tagBytes
  return { statusCode := 200, content := .blobs (blobs.map blobResponse) }

/-! ### Relay routes -/

/-- `relay_packet`; `forwarded` is what the POST to the next relay comes to. -/
def relayPacket (packet : String) (ticket : Option String)
    (forwarded : Except PyExc (Nat × String)) : RouteM RelayResponse := do
  if runtime.role = .mailbox then throw { statusCode := 405, detail := "not an entry relay" }
  checkTicket P runtime clock ticket "forward"
  match runtime.wrapSecret with
  | none => throw { statusCode := 500, detail := "entry relay missing wrap secret" }
  | some wrapSecret =>
      let (nextUrl, _) ← rescue
        (do
          let packet ← orRaise (b64decode packet)
          orRaise (decodeEntryPacket P packet wrapSecret))
        fun _ => badRequest "invalid relay packet"
      match forwarded with
      | .error _ => throw internalServerError
      | .ok (status, text) =>
          if status ≠ 201 ∧ status ≠ 202 then
            throw { statusCode := 502, detail := "forward failed: " ++ text }
          return { statusCode := 202
                   content := .object [("status", "forwarded"), ("next_relay", nextUrl)] }

/-- The error of `ingest_packet`. -/
def ingestError (e : PyExc) : HttpException :=
  if e.isValueError then storeError e.text else badRequest "invalid ingest packet"

/-- `ingest_packet`. -/
def ingestPacket (inner : String) (ticket : Option String) : RouteM RelayResponse := do
  if runtime.role = .entry then throw { statusCode := 405, detail := "not a mailbox relay" }
  checkTicket P runtime clock ticket "store"
  match runtime.wrapSecret with
  | none => throw { statusCode := 500, detail := "mailbox relay missing wrap secret" }
  | some wrapSecret =>
      rescue
        (do
          let inner ← orRaise (b64decode inner)
          let outer ← orRaise (decodeMailboxPacket P inner wrapSecret)
          keepBlob clock outer.mailboxTag outer.expiresAt outer.ciphertext)
        ingestError
      return { statusCode := 201, content := .object [("status", "stored")] }

/-! ### Pairing routes -/

/-- The status of a refused pairing call. -/
def pairError (detail : String) : HttpException :=
  { statusCode := if strContains "consumed" detail then 409 else 400, detail }

/-- `pair_register`. -/
def pairRegister (inviteSecret : String) : RouteM RelayResponse := do
  let inviteTag ← rescue
    (do
      let secret ← orRaise (b64decode inviteSecret)
      let now ← tick clock
      onPairing (PairingStore.register P secret now))
    (onValueError pairError)
  return { statusCode := 201
           content := .object [("invite_tag", inviteTag), ("status", "registered")] }

/-- The error of `pair_store_request`. -/
def pairRequestError (e : PyExc) : HttpException :=
  if e.isValueError then pairError e.text else badRequest "invalid pairing request"

/-- `pair_store_request`. -/
def pairStoreRequest (request : String) : RouteM RelayResponse := do
  let inviteTag ← rescue
    (do
      let pairingRequest ← orRaise (b64decode request)
      let parsed ← orRaise (PairingRequest.fromBytes P pairingRequest)
      let now ← tick clock
      onPairing (PairingStore.storeRequest P parsed.inviteSecret pairingRequest now))
    pairRequestError
  return { statusCode := 202
           content := .object [("invite_tag", inviteTag), ("status", "stored")] }

/-- `pair_pending`. -/
def pairPending (inviteTag : String) : RouteM RelayResponse := do
  match (← get).pairing.getPendingRequest inviteTag with
  | none => throw { statusCode := 404, detail := "no pending request" }
  | some pending =>
      return { statusCode := 200, content := .object [("request", b64encode pending)] }

/-- `pair_store_response`. -/
def pairStoreResponse (inviteSecret response : String) : RouteM RelayResponse := do
  let inviteTag ← rescue
    (do
      let secret ← orRaise (b64decode inviteSecret)
      let response ← orRaise (b64decode response)
      onPairing (PairingStore.storeResponse P secret response))
    (onValueError pairError)
  return { statusCode := 201
           content := .object [("invite_tag", inviteTag), ("status", "complete")] }

/-- `pair_fetch_response`. -/
def pairFetchResponse (inviteTag : String) : RouteM RelayResponse := do
  match (← get).pairing.getResponse inviteTag with
  | none => throw { statusCode := 404, detail := "response not ready" }
  | some response =>
      return { statusCode := 200, content := .object [("response", b64encode response)] }

/-- `healthz`. -/
def healthz : RouteM RelayResponse := do
  let issuance :=
    if runtime.relayIssuancePublic = [] then []
    else [("capability_issuance_public", b64encode runtime.relayIssuancePublic)]
  return { statusCode := 200
           content := .object
            ([("status", "ok"), ("role", runtime.role.text), ("name", runtime.name)] ++ issuance) }

/-! ### The machine -/

/-- The route of a request. -/
def route : RelayRequest → RouteM RelayResponse
  | .healthz => healthz runtime
  | .issueCapability request => issueCapability P runtime clock request
  | .registerCapability grant => registerCapability P runtime clock grant
  | .revokeCapability capabilityId ticket => revokeCapability P runtime clock capabilityId ticket
  | .storeBlob http payload => storeBlob P runtime clock http payload
  | .fetchBlobsPost http payload => fetchBlobsPost P runtime clock http payload
  | .fetchBlobsLegacy mailboxTag => fetchBlobsLegacy clock mailboxTag
  | .relayPacket packet ticket forwarded => relayPacket P runtime clock packet ticket forwarded
  | .ingestPacket inner ticket => ingestPacket P runtime clock inner ticket
  | .pairRegister inviteSecret => pairRegister P clock inviteSecret
  | .pairStoreRequest request => pairStoreRequest P clock request
  | .pairPending inviteTag => pairPending inviteTag
  | .pairStoreResponse inviteSecret response => pairStoreResponse P inviteSecret response
  | .pairFetchResponse inviteTag => pairFetchResponse inviteTag

end Relay

/-- What happens to a relay. -/
inductive RelayEvent where
  | request (request : RelayRequest)
  /-- One round of the sweeper. -/
  | sweep
  /-- The process starts again, with an overlap window for a store without a file. -/
  | restart (overlapWindowMs : Int)

namespace Relay

variable (runtime : RelayRuntime) (clock : Nat → Int)

/-- The sweeper's round. -/
def sweepExpired : BodyM Unit := do
  let now ← tick clock
  let _ ← onBlobs (BlobStore.sweepExpired now)
  let now ← tick clock
  let _ ← onPairing (PairingStore.sweepExpired now)

/-- One event; a request is answered. -/
def step (r : Relay) : RelayEvent → Option (Except HttpException RelayResponse) × Relay
  | .request request =>
      let result := (route P runtime clock request).run r
      (some (outcome result), after result)
  | .sweep => (none, after ((sweepExpired clock).run r))
  | .restart overlapWindowMs =>
      (none, { r with capabilities := .load overlapWindowMs r.capabilities.file })

end Relay
end Yakr
