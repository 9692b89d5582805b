import Mathlib
import Yakr.Core.CapabilitySession
import Yakr.Languages.Profiles
import Yakr.Relay.Honoured

/-!
# Yakr.Relay.Sessions

**A device and a relay that asks for capabilities.** The device makes sure of a session before each
call: it takes the newest grant of its store, or asks the relay for one, and signs the call with the
key of the grant. Either request may be lost on its way, or its answer. The invariant is that every
grant in the store can be used (`Ready`); it is kept because the device only stores what the relay
has just registered, and because of the overlap window also when it asks for the next generation
while it still uses the last.
-/

namespace Yakr

open Lib Effect Machine

variable {P : Packages} {runtime : RelayRuntime} {clock : Nat → Int}

namespace Relay

open CapabilityGrantStore

/-! ### A device at work -/

/-- What becomes of a request on its way. -/
inductive Transit where
  | answered
  /-- The relay answers, and the device reads nothing. -/
  | unanswered
  | undelivered
deriving DecidableEq, Repr

def Transit.carry {σ α : Type} (m : EStateM PyExc σ α) : Transit → EStateM PyExc σ α
  | .answered => m
  | .unanswered => do
      let _ ← m
      throw (.httpError "timed out")
  | .undelivered => throw (.httpError "unreachable")

variable (P runtime clock)

/-- A request and its answer; a refusal is one. -/
def exchange (request : RelayRequest) : EStateM PyExc Relay (Except HttpException RelayResponse) :=
  fun r =>
    let result := (route P runtime clock request).run r
    .ok (outcome result) (after result)

/-- What a device reads of the answer to a request for a grant. -/
def issueResponse : Except HttpException RelayResponse → IssueResponse
  | .error e =>
      { statusCode := e.statusCode, text := e.detail, grant := .error (.keyError "grant") }
  | .ok response =>
      { statusCode := response.statusCode
        text := ""
        grant :=
          match response.content with
          | .object entries =>
              match entries.lookup "grant" with
              | some grant => .ok grant
              | none => .error (.keyError "grant")
          | .blobs _ => .error (.typeError "list indices must be integers or slices, not str") }

/-- `/v1/capabilities/issue` over the network. -/
def askForGrant (transit : Transit) (_relayUrl : String) (request : CapabilityIssueRequest) :
    EStateM PyExc Relay IssueResponse := do
  return issueResponse (← transit.carry (exchange P runtime clock (.issueCapability request)))

/-- The requests that a device authorizes with a capability. -/
inductive DeviceCall where
  | store (body : Bytes) (payload : BlobStoreRequest)
  | fetch (body : Bytes) (payload : FetchRequest)

namespace DeviceCall

/-- The permissions that the device asks for. -/
def permissions : DeviceCall → List String
  | store _ _ => ["post"]
  | fetch _ _ => ["fetch"]

/-- The permission that the relay checks. -/
def permission : DeviceCall → String
  | store _ _ => "store"
  | fetch _ _ => "fetch"

def path : DeviceCall → String
  | store _ _ => "/v1/blobs"
  | fetch _ _ => "/v1/fetch"

def body : DeviceCall → Bytes
  | store body _ => body
  | fetch body _ => body

def request (http : SignedHttp) : DeviceCall → RelayRequest
  | store _ payload => .storeBlob http payload
  | fetch _ payload => .fetchBlobsPost http payload

end DeviceCall

/-- A call with what it needs: the session, how the two requests fare, the time stamp and the
nonce. -/
structure Use where
  call : DeviceCall
  session : SessionRequest
  issueTransit : Transit
  callTransit : Transit
  signedAt : Int
  nonce : BytesN 16

/-- What is asked for the session. -/
def Use.request (use : Use) : SessionRequest :=
  { use.session with permissions := use.call.permissions }

variable (U : UrlTables)

/-- The authorized request of `send_encrypted` and of `fetch_relay_blobs`. -/
def authorizedCall (use : Use) : ClientM Relay (Except HttpException RelayResponse) := do
  let session ←
    ensureCapabilitySession P U (askForGrant P runtime clock use.issueTransit) use.request
  let http ← orRaise (capabilityHeadersForRequest P session "POST" use.call.path use.call.body
    use.signedAt use.nonce)
  Client.onServer (use.callTransit.carry (exchange P runtime clock (use.call.request http)))

/-- What happens: the device calls, or others ask the relay, or it sweeps or restarts. -/
inductive DeviceEvent where
  | use (use : Use)
  | other (event : RelayEvent)

/-- One event; a call ends in an answer or raises. -/
def deviceStep (s : Client Relay) :
    DeviceEvent → Option (Except PyExc (Except HttpException RelayResponse)) × Client Relay
  | .use use =>
      let result := (authorizedCall P runtime clock U use).run s
      (some (outcome result), after result)
  | .other event => (none, { s with server := (step P runtime clock s.server event).2 })

variable {P runtime clock U}

/-! ### The grants of the device -/

/-- The row holds the session. -/
def Stores (P : Packages) (row : StoredGrant) (session : CapabilitySession) : Prop :=
  (b64decode row.grantB64 >>= CapabilityGrant.fromBytes P) = .ok session.grant
    ∧ (b64decode row.authPrivateB64 >>= loadPrivate) = .ok session.authPrivate

theorem Stores.unique {row : StoredGrant} {session session' : CapabilitySession}
    (h : Stores P row session) (h' : Stores P row session') : session = session' := by
  obtain ⟨grant, authPrivate⟩ := session
  obtain ⟨grant', authPrivate'⟩ := session'
  obtain rfl : grant = grant' := Except.ok.inj (h.1.symm.trans h'.1)
  obtain rfl : authPrivate = authPrivate' := Except.ok.inj (h.2.symm.trans h'.2)
  rfl

/-- The device can sign for a grant that the relay takes. -/
structure Usable (P : Packages) (runtime : RelayRuntime) (clock : Nat → Int)
    (session : CapabilitySession) (r : Relay) : Prop where
  key : session.grant.authPublic = (P.ed25519Public session.authPrivate).1
  honoured : Honoured P runtime clock session.grant r

/-- Every grant of the device for this relay can be used. -/
structure Ready (P : Packages) (runtime : RelayRuntime) (clock : Nat → Int) (relayName : String)
    (s : Client Relay) : Prop where
  kept : Kept s.server
  rows : ∀ row ∈ s.publisher.capabilityGrants, row.relayName = relayName →
    ∃ session, Stores P row session ∧ Usable P runtime clock session s.server

section Ready

variable {relayName : String} {s : Client Relay} {r' : Relay}

theorem ready_spares (h : Ready P runtime clock relayName s) (hkept : Kept r')
    (hspares : ∀ row ∈ s.publisher.capabilityGrants, row.relayName = relayName →
      ∀ session, Stores P row session → Spares P session.grant.capabilityId s.server r') :
    Ready P runtime clock relayName { s with server := r' } := by
  refine ⟨hkept, fun row hrow hname => ?_⟩
  obtain ⟨session, hstores, husable⟩ := h.rows row hrow hname
  exact ⟨session, hstores, husable.key,
    honoured_spares husable.honoured (hspares row hrow hname session hstores)⟩

/-- No other generation has an id that the device uses. -/
def NoCollision (P : Packages) (relayName : String) (publisher : Publisher)
    (issue : CapabilityIssueRequest) : Prop :=
  ∀ row ∈ publisher.capabilityGrants, row.relayName = relayName → ∀ session, Stores P row session →
    b64decode issue.capabilityId = .ok session.grant.capabilityId →
      issue.capabilityGeneration = session.grant.capabilityGeneration

theorem ready_issue (hcbor : P.CborLaws) (hclock : Monotone clock)
    (h : Ready P runtime clock relayName s) {issue : CapabilityIssueRequest}
    (hids : NoCollision P relayName s.publisher issue) :
    Ready P runtime clock relayName
      { s with server := after ((route P runtime clock (.issueCapability issue)).run s.server) } := by
  refine ⟨kept_route _ h.kept, fun row hrow hname => ?_⟩
  obtain ⟨session, hstores, husable⟩ := h.rows row hrow hname
  exact ⟨session, hstores, husable.key, honoured_outcome hcbor hclock husable.honoured h.kept.wide
    (issueCapability_outcome issue s.server) (readings_route P runtime clock _ s.server)
    (hids row hrow hname session hstores)⟩

/-- A row that is saved holds its session. -/
theorem stores_saved (hcbor : P.CborLaws) (relayName : String) (session : CapabilitySession)
    (issuanceSalt relayTlsSpkiSha256 : Bytes) :
    Stores P
      { relayName
        capabilityGeneration := session.grant.capabilityGeneration
        grantB64 := session.grant.toB64 P
        authPrivateB64 := b64encode session.authPrivate.1
        issuanceSaltB64 := b64encode issuanceSalt
        relayTlsSpkiSha256
        expiresAt := session.grant.expiresAt } session := by
  refine ⟨CapabilityGrant.fromB64_toB64 hcbor session.grant, ?_⟩
  rw [b64decode_b64encode, ok_bind]
  exact loadPrivate_val session.authPrivate

theorem ready_save (hcbor : P.CborLaws) (h : Ready P runtime clock relayName s)
    {session : CapabilitySession} (husable : Usable P runtime clock session s.server)
    (issuanceSalt tlsPin : Bytes) :
    Ready P runtime clock relayName { s with
      publisher := after ((Publisher.saveCapabilityGrant P relayName session.grant
        session.authPrivate.1 issuanceSalt tlsPin).run s.publisher) } := by
  refine ⟨h.kept, ?_⟩
  unfold Publisher.saveCapabilityGrant
  cases hgeneration : sqlInteger session.grant.capabilityGeneration with
  | error e => exact h.rows
  | ok u =>
      cases hexpires : sqlInteger session.grant.expiresAt with
      | error e => exact h.rows
      | ok u' =>
          intro row hrow hname
          rcases Table.mem_upsert.mp hrow with ⟨hold, -⟩ | rfl
          · exact h.rows row hold hname
          · exact ⟨session, stores_saved hcbor relayName session issuanceSalt tlsPin, husable⟩

end Ready

/-! ### Making sure of a session -/

section Ensure

variable {relayName : String} {s : Client Relay} {request : SessionRequest}

theorem loadCapabilityGrant_mem {publisher : Publisher} {stored : StoredGrant}
    (h : publisher.loadCapabilityGrant relayName = some stored) :
    stored ∈ publisher.capabilityGrants ∧ stored.relayName = relayName := by
  have hmem := (orderBy_perm _ _).mem_iff.mp (List.mem_of_mem_head? h)
  obtain ⟨hrow, hname⟩ := List.mem_filter.mp hmem
  exact ⟨hrow, of_decide_eq_true hname⟩

/-- A session that is given from the store. -/
theorem storedSession_some {permissions : List String} {now : Int} {stored : StoredGrant}
    {session : CapabilitySession}
    (h : storedSession P permissions now stored = .ok (some session)) :
    Stores P stored session ∧ now + 60000 < session.grant.expiresAt
      ∧ ∀ p ∈ permissions, p ∈ session.grant.permissions := by
  unfold storedSession at h
  obtain ⟨grantBytes, hgrantBytes, h⟩ := bind_ok.mp h
  obtain ⟨grant, hgrant, h⟩ := bind_ok.mp h
  obtain ⟨privateBytes, hprivateBytes, h⟩ := bind_ok.mp h
  obtain ⟨authPrivate, hauthPrivate, h⟩ := bind_ok.mp h
  split at h
  · rename_i hgood
    cases h
    refine ⟨⟨bind_ok.mpr ⟨_, hgrantBytes, hgrant⟩, bind_ok.mpr ⟨_, hprivateBytes, hauthPrivate⟩⟩,
      hgood.1, fun p hp => ?_⟩
    simpa using List.all_eq_true.mp hgood.2 p hp
  · cases h

/-- A row that lasts and allows what is wanted is given. -/
theorem storedSession_of_stores {permissions : List String} {now : Int} {stored : StoredGrant}
    {session : CapabilitySession} (h : Stores P stored session)
    (hlasts : now + 60000 < session.grant.expiresAt)
    (hpermissions : ∀ p ∈ permissions, p ∈ session.grant.permissions) :
    storedSession P permissions now stored = .ok (some session) := by
  obtain ⟨hgrant, hprivate⟩ := h
  obtain ⟨grantBytes, hgrantBytes, hgrant⟩ := bind_ok.mp hgrant
  obtain ⟨privateBytes, hprivateBytes, hprivate⟩ := bind_ok.mp hprivate
  have hall : permissions.all session.grant.permissions.contains = true := by
    rw [List.all_eq_true]
    intro p hp
    simpa using hpermissions p hp
  unfold storedSession
  rw [hgrantBytes, ok_bind, hgrant, ok_bind, hprivateBytes, ok_bind, hprivate, ok_bind,
    if_pos ⟨hlasts, hall⟩]
  rfl

/-- What is asked for. -/
theorem issueRequest_fields {U : UrlTables} {profile : Option DeliveryProfile}
    {publisher : Publisher} {issue : CapabilityIssueRequest} {authPrivate : PrivateKey}
    {salt pin : Bytes}
    (h : issueRequest P U request profile publisher = .ok (issue, authPrivate, salt, pin)) :
    issue.authPublic = b64encode (P.ed25519Public authPrivate).1
      ∧ issue.permissions = request.permissions := by
  unfold issueRequest at h
  obtain ⟨tlsPin, -, h⟩ := bind_ok.mp h
  obtain ⟨params, -, h⟩ := bind_ok.mp h
  obtain ⟨material, -, h⟩ := bind_ok.mp h
  obtain ⟨ticket, -, h⟩ := bind_ok.mp h
  obtain ⟨superseded, -, h⟩ := bind_ok.mp h
  cases h
  exact ⟨rfl, rfl⟩

/-- A grant that is received is the one of the response. -/
theorem receivedGrant_ok {tlsPin : Bytes} {response : IssueResponse} {grant : CapabilityGrant}
    (h : receivedGrant P request tlsPin response = .ok grant) :
    (response.grant >>= CapabilityGrant.fromB64 P) = .ok grant := by
  unfold receivedGrant at h
  by_cases hstatus : response.statusCode ≠ 201
  · rw [if_pos hstatus] at h
    cases h
  rw [if_neg hstatus] at h
  obtain ⟨text, htext, h⟩ := bind_ok.mp h
  obtain ⟨g, hg, h⟩ := bind_ok.mp h
  refine bind_ok.mpr ⟨text, htext, ?_⟩
  cases hkey : request.relayIssuancePublic with
  | none =>
      rw [hkey] at h
      cases h
      exact hg
  | some issuancePublic =>
      rw [hkey] at h
      obtain ⟨u, -, h⟩ := bind_ok.mp h
      cases h
      exact hg

variable (P runtime clock) in
/-- A request that is carried is answered, or it is not known whether it was. -/
theorem askForGrant_cases (transit : Transit) (url : String) (issue : CapabilityIssueRequest)
    (r : Relay) :
    (∃ e, (askForGrant P runtime clock transit url issue).run r = .error e r)
      ∨ (∃ e, (askForGrant P runtime clock transit url issue).run r
        = .error e (after ((route P runtime clock (.issueCapability issue)).run r)))
      ∨ (askForGrant P runtime clock transit url issue).run r
        = .ok (issueResponse (outcome ((route P runtime clock (.issueCapability issue)).run r)))
          (after ((route P runtime clock (.issueCapability issue)).run r)) := by
  cases transit with
  | answered => exact Or.inr (Or.inr rfl)
  | unanswered => exact Or.inr (Or.inl ⟨_, rfl⟩)
  | undelivered => exact Or.inl ⟨_, rfl⟩

/-- The grant in a response is one that the relay has just registered. -/
theorem issued_of_response (hcbor : P.CborLaws) {issue : CapabilityIssueRequest} {r : Relay}
    {tlsPin : Bytes} {grant : CapabilityGrant}
    (h : receivedGrant P request tlsPin
      (issueResponse (outcome ((route P runtime clock (.issueCapability issue)).run r)))
        = .ok grant) :
    b64decode issue.authPublic = .ok grant.authPublic ∧ grant.permissions = issue.permissions
      ∧ (∃ n, r.readings ≤ n
        ∧ n < (after ((route P runtime clock (.issueCapability issue)).run r)).readings
        ∧ grant.expiresAt = clock n + defaultCapabilityTtlMs)
      ∧ Honoured P runtime clock grant
        (after ((route P runtime clock (.issueCapability issue)).run r)) := by
  have houtcome : IssueOutcome P runtime clock issue r
      ((route P runtime clock (.issueCapability issue)).run r) := issueCapability_outcome issue r
  have hgrant := receivedGrant_ok h
  cases hrun : (route P runtime clock (.issueCapability issue)).run r with
  | error e r' =>
      rw [hrun] at hgrant
      cases hgrant
  | ok response r' =>
      rw [hrun] at houtcome hgrant
      obtain ⟨g, -, hcontent, hpublic, hpermissions, hexpires, hhonoured⟩ :=
        honoured_issued hcbor houtcome
      have hsame : (Except.ok (g.toB64 P) >>= CapabilityGrant.fromB64 P) = .ok grant := by
        simpa [issueResponse, hcontent, List.lookup_cons] using hgrant
      rw [ok_bind, CapabilityGrant.fromB64_toB64 hcbor] at hsame
      obtain rfl := Except.ok.inj hsame
      exact ⟨hpublic, hpermissions, hexpires, hhonoured⟩

/-- What making sure of a session leaves, and what it gives. -/
structure Ensured (P : Packages) (runtime : RelayRuntime) (clock : Nat → Int) (relayName : String)
    (request : SessionRequest) (s : Client Relay)
    (result : EStateM.Result PyExc (Client Relay) CapabilitySession) : Prop where
  ready : Ready P runtime clock relayName (after result)
  readings : s.server.readings ≤ (after result).server.readings
  nonces : (after result).server.capabilities.seenNonces = s.server.capabilities.seenNonces
  passed : (after result).server.passed = s.server.passed
  usable : ∀ session s', result = .ok session s' → Usable P runtime clock session s'.server
  permissions : ∀ session s', result = .ok session s' →
    ∀ p ∈ request.permissions, p ∈ session.grant.permissions
  lasts : ∀ session s', result = .ok session s' →
    request.now + 60000 < session.grant.expiresAt
      ∨ ∃ n, s.server.readings ≤ n ∧ n < s'.server.readings
        ∧ session.grant.expiresAt = clock n + defaultCapabilityTtlMs

/-- What has been raised leaves nothing to say of a session. -/
theorem ensured_raised {s' : Client Relay} (e : PyExc)
    (hready : Ready P runtime clock relayName s')
    (hreadings : s.server.readings ≤ s'.server.readings)
    (hnonces : s'.server.capabilities.seenNonces = s.server.capabilities.seenNonces)
    (hpassed : s'.server.passed = s.server.passed) :
    Ensured P runtime clock relayName request s (.error e s') where
  ready := hready
  readings := hreadings
  nonces := hnonces
  passed := hpassed
  usable _ _ hrun := by cases hrun
  permissions _ _ hrun := by cases hrun
  lasts _ _ hrun := by cases hrun

theorem ensured_error (e : PyExc) (h : Ready P runtime clock relayName s) :
    Ensured P runtime clock relayName request s (.error e s) :=
  ensured_raised e h le_rfl rfl rfl

theorem ensured_session {s' : Client Relay} {session : CapabilitySession}
    (hready : Ready P runtime clock relayName s')
    (hreadings : s.server.readings ≤ s'.server.readings)
    (hnonces : s'.server.capabilities.seenNonces = s.server.capabilities.seenNonces)
    (hpassed : s'.server.passed = s.server.passed)
    (husable : Usable P runtime clock session s'.server)
    (hpermissions : ∀ p ∈ request.permissions, p ∈ session.grant.permissions)
    (hlasts : request.now + 60000 < session.grant.expiresAt
      ∨ ∃ n, s.server.readings ≤ n ∧ n < s'.server.readings
        ∧ session.grant.expiresAt = clock n + defaultCapabilityTtlMs) :
    Ensured P runtime clock relayName request s (.ok session s') where
  ready := hready
  readings := hreadings
  nonces := hnonces
  passed := hpassed
  usable _ _ hrun := by
    cases hrun
    exact husable
  permissions _ _ hrun := by
    cases hrun
    exact hpermissions
  lasts _ _ hrun := by
    cases hrun
    exact hlasts

theorem seenNonces_superseded (id : Bytes) (now : Int) (s : CapabilityGrantStore) :
    (superseded id now s).seenNonces = s.seenNonces := by
  rw [after_supersede]
  exact (keepsNonces_revokeWithOverlap id now none s).1

variable (P runtime clock) in
theorem seenNonces_issue (issue : CapabilityIssueRequest) (r : Relay) :
    (after ((route P runtime clock (.issueCapability issue)).run r)).capabilities.seenNonces
      = r.capabilities.seenNonces := by
  have houtcome : IssueOutcome P runtime clock issue r
      ((route P runtime clock (.issueCapability issue)).run r) := issueCapability_outcome issue r
  generalize (route P runtime clock (.issueCapability issue)).run r = result at houtcome
  cases houtcome with
  | kept hsame => exact congrArg CapabilityGrantStore.seenNonces hsame
  | torn hj hsame =>
      exact (congrArg CapabilityGrantStore.seenNonces hsame).trans (seenNonces_superseded _ _ _)
  | issued torn hn hlast hgrant hverified htorn hsame =>
      refine (congrArg CapabilityGrantStore.seenNonces hsame).trans ?_
      show torn.seenNonces = _
      rcases htorn with rfl | ⟨id, rfl⟩
      · rfl
      · exact seenNonces_superseded _ _ _

variable (P runtime clock) in
theorem passed_issue (issue : CapabilityIssueRequest) (r : Relay) :
    (after ((route P runtime clock (.issueCapability issue)).run r)).passed = r.passed := by
  have hsteps : Steps (Quiet clock) (issueCapability P runtime clock issue) :=
    steps_issueCapability issue
  exact (Quiet.of_steps (hsteps r)).passed

variable {U : UrlTables} {profile : Option DeliveryProfile}

/-- Issuing raises, or gives the grant of the relay. -/
theorem ensured_issue (hcbor : P.CborLaws) (hclock : Monotone clock)
    (h : Ready P runtime clock relayName s) (hname : request.relayName = relayName)
    (hids : ∀ issue authPrivate salt pin,
      issueRequest P U request profile s.publisher = .ok (issue, authPrivate, salt, pin) →
        NoCollision P relayName s.publisher issue) (transit : Transit) :
    Ensured P runtime clock relayName request s
      ((issueCapabilitySession P U (askForGrant P runtime clock transit) request profile).run
        s) := by
  subst hname
  rw [issueCapabilitySession_run]
  cases hissue : issueRequest P U request profile s.publisher with
  | error e => exact ensured_error e h
  | ok asked =>
      obtain ⟨issue, authPrivate, salt, pin⟩ := asked
      have hafter := ready_issue hcbor hclock h (hids issue authPrivate salt pin hissue)
      have hreadings := readings_route P runtime clock (.issueCapability issue) s.server
      have hnonces := seenNonces_issue P runtime clock issue s.server
      have hpassed := passed_issue P runtime clock issue s.server
      have hraised : ∀ e, Ensured P runtime clock request.relayName request s (.error e
          { s with server := after ((route P runtime clock (.issueCapability issue)).run
              s.server) }) := fun e =>
        ensured_raised e hafter hreadings hnonces hpassed
      dsimp only
      rcases askForGrant_cases P runtime clock transit
        request.relayUrl issue s.server with ⟨e, hask⟩ | ⟨e, hask⟩ | hask
      · rw [hask]
        exact ensured_error e h
      · -- the answer is lost, and the relay may have registered a grant all the same
        rw [hask]
        exact hraised e
      rw [hask]
      dsimp only
      cases hgrant : receivedGrant P request pin (issueResponse
        (outcome ((route P runtime clock (.issueCapability issue)).run s.server))) with
      | error e => exact hraised e
      | ok grant =>
          dsimp only
          obtain ⟨hpublic, hpermissions, hexpires, hhonoured⟩ := issued_of_response hcbor hgrant
          obtain ⟨hasked, hwanted⟩ := issueRequest_fields hissue
          have hkey : grant.authPublic = (P.ed25519Public authPrivate).1 := by
            rw [hasked, b64decode_b64encode] at hpublic
            exact (Except.ok.inj hpublic).symm
          have husable : Usable P runtime clock { grant, authPrivate }
              (after ((route P runtime clock (.issueCapability issue)).run s.server)) :=
            ⟨hkey, hhonoured⟩
          have hsaved := ready_save hcbor hafter husable salt pin
          cases hsave : (Publisher.saveCapabilityGrant P request.relayName grant authPrivate.1 salt
            pin).run s.publisher with
          | error e publisher =>
              rw [hsave] at hsaved
              exact ensured_raised e hsaved hreadings hnonces hpassed
          | ok u publisher =>
              rw [hsave] at hsaved
              have hgiven : ∀ p ∈ request.permissions, p ∈ grant.permissions := by
                intro p hp
                rw [hpermissions, hwanted]
                exact hp
              exact ensured_session hsaved hreadings hnonces hpassed husable hgiven
                (Or.inr hexpires)

/-- Making sure of a session raises, or gives a grant that the relay takes. -/
theorem ensured (hcbor : P.CborLaws) (hclock : Monotone clock)
    (h : Ready P runtime clock relayName s) (hname : request.relayName = relayName)
    (hids : ∀ profile issue authPrivate salt pin,
      issueRequest P U request profile s.publisher = .ok (issue, authPrivate, salt, pin) →
        NoCollision P relayName s.publisher issue) (transit : Transit) :
    Ensured P runtime clock relayName request s
      ((ensureCapabilitySession P U (askForGrant P runtime clock transit) request).run s) := by
  rcases ensureCapabilitySession_cases P U (askForGrant P runtime clock transit) request s with
    ⟨e, hrun⟩ | ⟨stored, session, hload, hstored, hrun⟩ | ⟨profile, -, hrun⟩
  · rw [hrun]
    exact ensured_error e h
  · -- the row is one of the device's own, so the relay takes its grant
    rw [hrun]
    obtain ⟨hrow, hrelay⟩ := loadCapabilityGrant_mem hload
    obtain ⟨session', hstores', husable⟩ := h.rows stored hrow (hrelay.trans hname)
    obtain ⟨hstores, hlasts, hpermissions⟩ := storedSession_some hstored
    obtain rfl := hstores.unique hstores'
    exact ensured_session h le_rfl rfl rfl husable hpermissions (Or.inl hlasts)
  · rw [hrun]
    exact ensured_issue hcbor hclock h hname (hids profile) transit

end Ensure

/-! ### Calls that are let through -/

end Relay

/-- No encoding and no signature is empty. -/
structure Packages.HeaderLaws (P : Packages) : Prop where
  dumps_ne : ∀ {v : Cbor}, v.Storable → P.cborDumps v ≠ []
  sign_ne : ∀ key data, P.ed25519Sign key data ≠ []

theorem b64encode_ne_empty {data : Bytes} (h : data ≠ []) : b64encode data ≠ "" := fun hempty =>
  h (b64encode_injective hempty)

/-- The headers of a device. -/
def CapabilitySession.http (P : Packages) (session : CapabilitySession) (method path : String)
    (body : Bytes) (signedAt : Int) (nonce : BytesN 16) : SignedHttp :=
  { body
    grant := some (session.grant.toB64 P)
    timestamp := some (toString signedAt)
    nonce := some (b64encode nonce.1)
    signature := some (b64encode (P.ed25519Sign session.authPrivate
      (capabilityRequestSigningInput P method path body signedAt nonce.1))) }

theorem capabilityHeadersForRequest_eq (session : CapabilitySession) (method path : String)
    (body : Bytes) (signedAt : Int) (nonce : BytesN 16) :
    capabilityHeadersForRequest P session method path body signedAt nonce
      = .ok (session.http P method path body signedAt nonce) := by
  have hlength : ¬ nonce.1.length ≠ 16 := not_not.mpr nonce.2
  unfold capabilityHeadersForRequest capabilityRequestHeaders signCapabilityRequest
  simp only [Option.getD_none, if_true, if_neg hlength]
  rfl

namespace Relay

section Check

variable {session : CapabilitySession} {r : Relay} {permission method path : String} {body : Bytes}
  {signedAt : Int} {nonce : BytesN 16}

theorem verifyCapabilityRequest_session (hsign : P.SignatureLaws)
    (hkey : session.grant.authPublic = (P.ed25519Public session.authPrivate).1) {now : Int}
    (hskew : |signedAt - now| ≤ timestampSkewMs) :
    verifyCapabilityRequest P session.grant session.grant.authPublic
      (P.ed25519Sign session.authPrivate
        (capabilityRequestSigningInput P method path body signedAt nonce.1)) method path body
      signedAt nonce.1 now = .ok () := by
  unfold verifyCapabilityRequest
  rw [if_neg (not_not.mpr rfl), if_neg (Int.not_lt.mpr hskew), if_neg (not_not.mpr nonce.2), hkey]
  unfold ed25519Check
  rw [dif_pos (P.ed25519Public session.authPrivate).2, if_pos (hsign.verify_sign _ _)]

/-- A nonce that is not remembered is not after a pruning either. -/
theorem find_pruned {s : CapabilityGrantStore} {nonceB64 : String}
    (h : ∀ seen ∈ s.seenNonces, seen.1 ≠ nonceB64) (now : Int) :
    Table.find Prod.fst nonceB64 (s.pruneNonces now).seenNonces = none := by
  rw [Table.find, List.find?_eq_none]
  intro seen hseen
  simpa using h seen (List.mem_filter.mp hseen).1

/-- What the signature and the grant of a device say to the relay. -/
theorem verifyCapability_session (hcbor : P.CborLaws) (hsign : P.SignatureLaws)
    (husable : Usable P runtime clock session r)
    (hallowed : grantAllowsPermission session.grant permission = true)
    (hfresh : ∀ seen ∈ r.capabilities.seenNonces, seen.1 ≠ b64encode nonce.1)
    (hclock : ∀ j, r.readings ≤ j →
      j < (after ((verifyCapability P runtime clock permission method path body
        (session.grant.toB64 P) (toString signedAt) (b64encode nonce.1)
        (b64encode (P.ed25519Sign session.authPrivate
          (capabilityRequestSigningInput P method path body signedAt nonce.1)))).run r)).readings →
      clock j < session.grant.expiresAt ∧ |signedAt - clock j| ≤ timestampSkewMs) :
    (verifyCapability P runtime clock permission method path body (session.grant.toB64 P)
      (toString signedAt) (b64encode nonce.1) (b64encode (P.ed25519Sign session.authPrivate
        (capabilityRequestSigningInput P method path body signedAt nonce.1)))).run r
      = .ok ()
        { r with
          readings := r.readings + 4
          capabilities := consumed (b64encode nonce.1) (clock (r.readings + 3)) r.capabilities
          passed := r.passed ++
            [{ permission
               request :=
                { grant := session.grant, method, path, body
                  timestampMs := signedAt
                  nonce := nonce.1
                  signature := P.ed25519Sign session.authPrivate
                    (capabilityRequestSigningInput P method path body signedAt nonce.1) }
               nonceB64 := b64encode nonce.1
               consumedAt := clock (r.readings + 3) }] } := by
  obtain ⟨reg, hreg, hgeneration, hends⟩ := husable.honoured.registered
  have hdecode := CapabilityGrant.fromB64_toB64 hcbor session.grant
  unfold verifyCapability at hclock ⊢
  simp only [hdecode, run_orRaise_bind, run_tick_bind, run_get_bind, b64decode_b64encode,
    intOfHeader_toString] at hclock ⊢
  -- each clock reading comes before what is judged by it, so it is one of the call
  cases hverified : verifyCapabilityGrant P session.grant runtime.relayIssuancePublic runtime.name
    runtime.relayTlsSpkiSha256 (clock r.readings) with
  | error e =>
      rw [hverified] at hclock
      have hlive := (hclock r.readings le_rfl (Nat.lt_succ_self _)).1
      exact absurd (hverified.symm.trans (husable.honoured.verified _ hlive)) (by simp)
  | ok u =>
  rw [hverified] at hclock
  dsimp only at hclock ⊢
  have hregistered := CapabilityGrantStore.isRegistered_of_registered hreg (clock (r.readings + 1))
  rw [hregistered] at hclock ⊢
  dsimp only at hclock ⊢
  by_cases hin : reg.grant.capabilityGeneration = session.grant.capabilityGeneration
      ∧ ∀ ended ∈ reg.overlapUntilMs, clock (r.readings + 1) < ended
  case neg =>
    rw [if_pos (by simpa using hin)] at hclock
    have hlive := (hclock (r.readings + 1) (Nat.le_succ _) (Nat.lt_succ_self _)).1
    exact absurd ⟨hgeneration, fun ended hended => hlive.trans_le (hends ended hended)⟩ hin
  rw [if_neg (by simpa using hin), if_neg (not_not.mpr hallowed)] at hclock ⊢
  simp only [run_orRaise_bind, run_tick_bind] at hclock ⊢
  cases hrequest : verifyCapabilityRequest P session.grant session.grant.authPublic
    (P.ed25519Sign session.authPrivate
      (capabilityRequestSigningInput P method path body signedAt nonce.1)) method path body
    signedAt nonce.1 (clock (r.readings + 1 + 1)) with
  | error e =>
      rw [hrequest] at hclock
      have hskew := (hclock (r.readings + 2) (by omega) (Nat.lt_succ_self _)).2
      exact absurd (hrequest.symm.trans (verifyCapabilityRequest_session hsign husable.key hskew))
        (by simp)
  | ok u' =>
  have hconsumed := (run_consumeNonce_ok (r := { r with readings := r.readings + 1 + 1 + 1 + 1 })
    (u := ())).mpr ⟨find_pruned hfresh (clock (r.readings + 1 + 1 + 1)), rfl⟩
  dsimp only
  rw [EStateM.run_bind, hconsumed]
  rfl

theorem after_rescue {α : Type} (m : BodyM α) (handler : PyExc → HttpException) (r : Relay) :
    after ((rescue m handler).run r) = after (m.run r) := by
  cases hrun : m.run r with
  | ok a r' => rw [run_rescue_ok.mpr hrun, after_ok, after_ok]
  | error e r' => rw [run_rescue_error.mpr ⟨e, hrun, rfl⟩, after_error, after_error]

/-- What comes after a computation, whether it returns or raises, comes after it in a sequence. -/
theorem steps_after_bind {ε α β : Type} {S : Relay → Relay → Prop} {m : EStateM ε Relay α}
    {f : α → EStateM ε Relay β} (hf : ∀ a, Steps S (f a)) (r : Relay) :
    Relation.ReflTransGen S (after (m.run r)) (after ((m >>= f).run r)) := by
  rw [EStateM.run_bind]
  cases m.run r with
  | error e r' => exact .refl
  | ok a r' => exact hf a r'

/-- The call is let through: one more check has passed, with the nonce of the device. -/
def LetThrough (permission : String) (nonce : BytesN 16) (r r' : Relay) : Prop :=
  ∃ check : PassedCheck, r'.passed = r.passed ++ [check] ∧ check.permission = permission
    ∧ check.nonceB64 = b64encode nonce.1

/-- What `_check_capability` does with the headers of a device. -/
theorem checkCapability_session (hcbor : P.CborLaws) (hsign : P.SignatureLaws)
    (hheaders : P.HeaderLaws) (hrequired : runtime.requireCapabilities = true)
    (hissuance : runtime.relayIssuancePublic ≠ []) (husable : Usable P runtime clock session r)
    (hallowed : grantAllowsPermission session.grant permission = true)
    (hfresh : ∀ seen ∈ r.capabilities.seenNonces, seen.1 ≠ b64encode nonce.1)
    (hclock : ∀ j, r.readings ≤ j →
      j < (after ((checkCapability P runtime clock (session.http P method path body signedAt nonce)
        permission method path).run r)).readings →
      clock j < session.grant.expiresAt ∧ |signedAt - clock j| ≤ timestampSkewMs) :
    ∃ r', (checkCapability P runtime clock (session.http P method path body signedAt nonce)
        permission method path).run r = .ok () r'
      ∧ LetThrough permission nonce r r' := by
  have hpresent : ¬ (session.grant.toB64 P = "" ∨ toString signedAt = ""
      ∨ b64encode nonce.1 = "" ∨ b64encode (P.ed25519Sign session.authPrivate
        (capabilityRequestSigningInput P method path body signedAt nonce.1)) = "") := by
    rintro (hgrant | hstamp | hnonce | hsignature)
    · exact b64encode_ne_empty (hheaders.dumps_ne session.grant.storable_toCbor) hgrant
    · have hread := intOfHeader_toString signedAt
      rw [hstamp] at hread
      cases hread
    · refine b64encode_ne_empty (fun hempty => ?_) hnonce
      have hlength := nonce.2
      rw [hempty] at hlength
      cases hlength
    · exact b64encode_ne_empty (hheaders.sign_ne _ _) hsignature
  have hrun : (checkCapability P runtime clock (session.http P method path body signedAt nonce)
      permission method path).run r
      = (rescue (verifyCapability P runtime clock permission method path body
          (session.grant.toB64 P) (toString signedAt) (b64encode nonce.1)
          (b64encode (P.ed25519Sign session.authPrivate
            (capabilityRequestSigningInput P method path body signedAt nonce.1))))
        (unauthorized "capability")).run r := by
    unfold checkCapability CapabilitySession.http
    rw [if_neg (not_not.mpr hrequired), if_neg hissuance]
    dsimp only
    rw [if_neg hpresent]
  -- the readings of the verification are those of the check, which only rephrases what it raises
  rw [hrun] at hclock ⊢
  have hverified := verifyCapability_session hcbor hsign husable hallowed hfresh fun j hj hlt =>
    hclock j hj (by rwa [after_rescue])
  exact ⟨_, run_rescue_ok.mpr hverified, _, rfl, rfl, rfl⟩

end Check

section Calls

variable (P clock) in
/-- The routes of a device's calls check the capability first; what follows is calm. -/
theorem route_call (hrole : runtime.role ≠ .entry) (hrequired : runtime.requireCapabilities = true)
    (call : DeviceCall) (http : SignedHttp) :
    ∃ k : Unit → RouteM RelayResponse, (∀ u, Steps (Calm clock) (k u))
      ∧ ∀ r, (route P runtime clock (call.request http)).run r
        = (checkCapability P runtime clock http call.permission "POST" call.path >>= k).run r := by
  cases call with
  | store body payload =>
      refine ⟨fun _ => do
        rescue
          (do
            let mailboxTag ← orRaise (b64decode payload.mailboxTag)
            let ciphertext ← orRaise (b64decode payload.ciphertext)
            keepBlob clock mailboxTag payload.expiresAt ciphertext)
          (onValueError storeError)
        return { statusCode := 201, content := .object [("status", "stored")] }, fun u => ?_,
        fun r => ?_⟩
      · refine .bind (steps_rescue ?_) fun _ => .pure _
        exact .bind (.orRaise _) fun _ => .bind (.orRaise _) fun _ => calm_keepBlob _ _ _
      · show (storeBlob P runtime clock http payload).run r = _
        unfold storeBlob authorizeRequest
        rw [if_neg hrole, if_pos hrequired]
        rfl
  | fetch body payload =>
      refine ⟨fun _ => do
        if payload.mailboxTags = [] then throw (badRequest "mailbox_tags required")
        let items ← collectBlobs clock payload.mailboxTags []
        return { statusCode := 200, content := .blobs items }, fun u => ?_, fun r => ?_⟩
      · refine .guard (.bind ((steps_collectBlobs _ _).mono fun _ _ h => h.toCalm) fun _ => .pure _)
      · show (fetchBlobsPost P runtime clock http payload).run r = _
        unfold fetchBlobsPost authorizeRequest
        rw [if_neg hrole, if_pos hrequired]
        rfl

variable {session : CapabilitySession} {r : Relay} {call : DeviceCall} {signedAt : Int}
  {nonce : BytesN 16}

theorem not_names_call (http : SignedHttp) (id : Bytes) : ¬ Names P (call.request http) id := by
  cases call with
  | store body payload => exact fun h => h
  | fetch body payload => exact fun h => h

/-- A call with the headers of a session is let through. -/
theorem letThrough_call (hcbor : P.CborLaws) (hsign : P.SignatureLaws) (hheaders : P.HeaderLaws)
    (hrole : runtime.role ≠ .entry) (hrequired : runtime.requireCapabilities = true)
    (hissuance : runtime.relayIssuancePublic ≠ []) (husable : Usable P runtime clock session r)
    (hallowed : grantAllowsPermission session.grant call.permission = true)
    (hfresh : ∀ seen ∈ r.capabilities.seenNonces, seen.1 ≠ b64encode nonce.1)
    (hclock : ∀ j, r.readings ≤ j →
      j < (after ((route P runtime clock (call.request
        (session.http P "POST" call.path call.body signedAt nonce))).run r)).readings →
      clock j < session.grant.expiresAt ∧ |signedAt - clock j| ≤ timestampSkewMs) :
    LetThrough call.permission nonce r (after ((route P runtime clock (call.request
      (session.http P "POST" call.path call.body signedAt nonce))).run r)) := by
  obtain ⟨k, hk, hroute⟩ := route_call P clock hrole hrequired call
    (session.http P "POST" call.path call.body signedAt nonce)
  rw [hroute] at hclock ⊢
  have hcalm := Calm.of_steps (steps_after_bind (m := checkCapability P runtime clock
    (session.http P "POST" call.path call.body signedAt nonce) call.permission "POST" call.path)
    hk r)
  obtain ⟨r', hrun, check, hpassed, hcheck⟩ := checkCapability_session hcbor hsign hheaders
    hrequired hissuance husable hallowed hfresh fun j hj hlt =>
      hclock j hj (hlt.trans_le hcalm.readings)
  rw [hrun] at hcalm
  exact ⟨check, hcalm.passed.trans hpassed, hcheck⟩

end Calls

/-! ### Runs of a device and a relay -/

/-- The relay checks capabilities, and mailboxes are its own. -/
structure Demands (runtime : RelayRuntime) : Prop where
  requireCapabilities : runtime.requireCapabilities = true
  issuance : runtime.relayIssuancePublic ≠ []
  role : runtime.role ≠ .entry

/-- The device calls this relay with a clock that is within the tolerance of the relay's, the nonce
is not one of the remembered ones, and no id of the device is that of another generation. -/
structure UseAllowed (P : Packages) (runtime : RelayRuntime) (clock : Nat → Int) (U : UrlTables)
    (relayName : String) (s : Client Relay) (use : Use) : Prop where
  relayName_eq : use.session.relayName = relayName
  clocks : ∀ j, s.server.readings ≤ j →
    j < (deviceStep P runtime clock U s (.use use)).2.server.readings →
      clock j ≤ use.session.now + 60000 ∧ |use.signedAt - clock j| ≤ timestampSkewMs
  fresh : ∀ seen ∈ s.server.capabilities.seenNonces, seen.1 ≠ b64encode use.nonce.1
  ids : ∀ profile issue authPrivate salt pin,
    issueRequest P U use.request profile s.publisher = .ok (issue, authPrivate, salt, pin) →
      NoCollision P relayName s.publisher issue

/-- What may happen: the device calls so, or others leave its grants. -/
def Allowed (P : Packages) (runtime : RelayRuntime) (clock : Nat → Int) (U : UrlTables)
    (relayName : String) (s : Client Relay) : DeviceEvent → Prop
  | .use use => UseAllowed P runtime clock U relayName s use
  | .other event => KeepsWindow event
      ∧ ∀ row ∈ s.publisher.capabilityGrants, row.relayName = relayName →
        ∀ session, Stores P row session → Foreign P session.grant.capabilityId event

section Runs

variable {U : UrlTables} {relayName : String} {s : Client Relay} {use : Use}

theorem run_carry {σ α : Type} (m : EStateM PyExc σ α) (transit : Transit) (s : σ) :
    (∃ e, (transit.carry m).run s = .error e s)
      ∨ (∃ e, (transit.carry m).run s = .error e (after (m.run s)))
      ∨ (transit.carry m).run s = m.run s := by
  cases transit with
  | answered => exact Or.inr (Or.inr rfl)
  | unanswered =>
      refine Or.inr (Or.inl ?_)
      unfold Transit.carry
      rw [EStateM.run_bind]
      cases m.run s with
      | error e s' => exact ⟨e, rfl⟩
      | ok a s' => exact ⟨_, rfl⟩
  | undelivered => exact Or.inl ⟨_, rfl⟩

variable (P runtime clock U) in
/-- A call raises before it is sent, or is carried to the relay with the headers of a session. -/
theorem authorizedCall_cases (use : Use) (s : Client Relay) :
    (∃ e s', (ensureCapabilitySession P U (askForGrant P runtime clock use.issueTransit)
          use.request).run s = .error e s'
        ∧ (authorizedCall P runtime clock U use).run s = .error e s')
      ∨ ∃ session s', (ensureCapabilitySession P U (askForGrant P runtime clock use.issueTransit)
            use.request).run s = .ok session s'
          ∧ ((∃ e, (authorizedCall P runtime clock U use).run s = .error e s')
            ∨ ∃ result, (authorizedCall P runtime clock U use).run s = result
              ∧ after result = { s' with
                server := after ((route P runtime clock (use.call.request (session.http P "POST"
                  use.call.path use.call.body use.signedAt use.nonce))).run s'.server) }) := by
  unfold authorizedCall
  rw [EStateM.run_bind]
  cases hensure : (ensureCapabilitySession P U (askForGrant P runtime clock use.issueTransit)
    use.request).run s with
  | error e s' => exact Or.inl ⟨e, s', rfl, rfl⟩
  | ok session s' =>
      refine Or.inr ⟨session, s', rfl, ?_⟩
      dsimp only
      rw [capabilityHeadersForRequest_eq, run_orRaise_bind]
      dsimp only
      rw [Client.run_onServer]
      rcases run_carry (exchange P runtime clock (use.call.request (session.http P "POST"
        use.call.path use.call.body use.signedAt use.nonce))) use.callTransit s'.server with
        ⟨e, hrun⟩ | ⟨e, hrun⟩ | hrun
      · rw [hrun]
        exact Or.inl ⟨e, rfl⟩
      · rw [hrun]
        exact Or.inr ⟨_, rfl, rfl⟩
      · rw [hrun]
        exact Or.inr ⟨_, rfl, rfl⟩

/-- A call with a session that is carried is answered. -/
theorem deviceStep_answered {session : CapabilitySession} {s' : Client Relay}
    (hensure : (ensureCapabilitySession P U (askForGrant P runtime clock use.issueTransit)
      use.request).run s = .ok session s')
    (hcarried : use.callTransit = .answered) :
    ∃ answer, (deviceStep P runtime clock U s (.use use)).1 = some (.ok answer) := by
  unfold deviceStep authorizedCall
  dsimp only
  rw [EStateM.run_bind, hensure]
  dsimp only
  rw [capabilityHeadersForRequest_eq, run_orRaise_bind]
  dsimp only
  rw [Client.run_onServer, hcarried]
  exact ⟨_, rfl⟩

theorem ready_call (h : Ready P runtime clock relayName s) (call : DeviceCall) (http : SignedHttp) :
    Ready P runtime clock relayName
      { s with server := after ((route P runtime clock (call.request http)).run s.server) } :=
  ready_spares h (kept_route _ h.kept) fun _ _ _ _ _ => spares_route (not_names_call http _) _

/-- What is asked for allows what is done. -/
theorem allowed_of_permissions {call : DeviceCall} {grant : CapabilityGrant}
    (h : ∀ p ∈ call.permissions, p ∈ grant.permissions) :
    grantAllowsPermission grant call.permission = true := by
  unfold grantAllowsPermission
  rw [Bool.or_eq_true, List.contains_iff_mem, List.contains_iff_mem]
  cases call with
  | store body payload => exact Or.inl (h "post" (List.mem_singleton.mpr rfl))
  | fetch body payload => exact Or.inr (h "fetch" (List.mem_singleton.mpr rfl))

/-- One call: the device stays ready, and an answer comes with a check that was passed. -/
theorem ready_use (hcbor : P.CborLaws) (hsign : P.SignatureLaws) (hheaders : P.HeaderLaws)
    (hdemands : Demands runtime) (hclock : Monotone clock)
    (h : Ready P runtime clock relayName s)
    (hallowed : UseAllowed P runtime clock U relayName s use) :
    let s' := (deviceStep P runtime clock U s (.use use)).2
    Ready P runtime clock relayName s'
      ∧ ∀ answer, (deviceStep P runtime clock U s (.use use)).1 = some (.ok answer) →
        LetThrough use.call.permission use.nonce s.server s'.server := by
  have hname : use.request.relayName = relayName := hallowed.relayName_eq
  have hensured := ensured hcbor hclock h hname hallowed.ids use.issueTransit
  have hclocks := hallowed.clocks
  unfold deviceStep at hclocks ⊢
  dsimp only at hclocks ⊢
  rcases authorizedCall_cases P runtime clock U use s with
    ⟨e, s', hensure, hrun⟩ | ⟨session, s', hensure, ⟨e, hrun⟩ | ⟨result, hrun, hafter⟩⟩
  · rw [hensure] at hensured
    rw [hrun]
    exact ⟨hensured.ready, fun answer hanswer => by cases hanswer⟩
  · rw [hensure] at hensured
    rw [hrun]
    exact ⟨hensured.ready, fun answer hanswer => by cases hanswer⟩
  rw [hensure] at hensured
  rw [hrun, hafter] at hclocks ⊢
  -- the relay is asked in the state that making sure of the session has left
  refine ⟨ready_call hensured.ready _ _, fun answer _ => ?_⟩
  have hbefore : s.server.readings ≤ s'.server.readings := hensured.readings
  have hcalled := readings_route P runtime clock
    (use.call.request (session.http P "POST" use.call.path use.call.body use.signedAt use.nonce))
    s'.server
  have hlive : ∀ j, s'.server.readings ≤ j →
      j < (after ((route P runtime clock (use.call.request (session.http P "POST" use.call.path
        use.call.body use.signedAt use.nonce))).run s'.server)).readings →
      clock j < session.grant.expiresAt ∧ |use.signedAt - clock j| ≤ timestampSkewMs := by
    intro j hj hlt
    obtain ⟨hnow, hskew⟩ := hclocks j (hbefore.trans hj) hlt
    refine ⟨?_, hskew⟩
    rcases hensured.lasts session s' rfl with hlasts | ⟨n, hfrom, hto, hexpires⟩
    · exact hnow.trans_lt hlasts
    · -- the grant was issued by the clock of the relay during this call
      have hskew' := (hclocks n hfrom (hto.trans_le hcalled)).2
      have htwice : clock j - clock n ≤ 2 * timestampSkewMs := by
        rw [abs_le] at hskew hskew'
        omega
      rw [hexpires]
      unfold timestampSkewMs defaultCapabilityTtlMs at *
      omega
  have hlet := letThrough_call hcbor hsign hheaders hdemands.role hdemands.requireCapabilities
    hdemands.issuance (hensured.usable session s' rfl)
    (allowed_of_permissions (hensured.permissions session s' rfl))
    (by rw [show s'.server.capabilities.seenNonces = _ from hensured.nonces]; exact hallowed.fresh)
    hlive
  obtain ⟨check, hpassed, hcheck⟩ := hlet
  exact ⟨check, hpassed.trans (by rw [show s'.server.passed = _ from hensured.passed]), hcheck⟩

/-- Every event leaves the device ready. -/
theorem ready_deviceStep (hcbor : P.CborLaws) (hsign : P.SignatureLaws) (hheaders : P.HeaderLaws)
    (hdemands : Demands runtime) (hclock : Monotone clock)
    (h : Ready P runtime clock relayName s) {event : DeviceEvent}
    (hallowed : Allowed P runtime clock U relayName s event) :
    Ready P runtime clock relayName (deviceStep P runtime clock U s event).2 := by
  cases event with
  | use use => exact (ready_use hcbor hsign hheaders hdemands hclock h hallowed).1
  | other event =>
      obtain ⟨hwindow, hforeign⟩ := hallowed
      exact ready_spares h (kept_step hwindow h.kept) fun row hrow hname session hstores =>
        spares_step (hforeign row hrow hname session hstores) h.kept

theorem ready_run (hcbor : P.CborLaws) (hsign : P.SignatureLaws) (hheaders : P.HeaderLaws)
    (hdemands : Demands runtime) (hclock : Monotone clock)
    (hstart : Ready P runtime clock relayName s) {events : List DeviceEvent}
    (hmeets : Meets (deviceStep P runtime clock U) (Allowed P runtime clock U relayName) s events) :
    Ready P runtime clock relayName (run (deviceStep P runtime clock U) s events).state :=
  hmeets.invariant (fun _ _ hevent hready =>
    ready_deviceStep hcbor hsign hheaders hdemands hclock hready hevent) hstart

end Runs

namespace SessionSample

open CapabilityGrantStore CapabilityGrantStore.Sample

theorem cborLaws : packages.CborLaws := codedPackages_cborLaws plainPackages

theorem signatureLaws : packages.SignatureLaws where
  verify_sign key data := by simp [packages, codedPackages, plainPackages]

theorem headerLaws : packages.HeaderLaws where
  dumps_ne hv := by
    have hpos := Codec.length_dumps_pos hv
    exact List.ne_nil_of_length_pos hpos
  sign_ne key data := by
    have hlength := (Plain.digest 32 (key.1 ++ data)).2
    intro hempty
    rw [show (Plain.digest 32 (key.1 ++ data)).1 = [] from hempty] at hlength
    cases hlength

def authKey : PrivateKey := BytesN.fill 32 2

def session : CapabilitySession := { grant := grant 0, authPrivate := authKey }

/-- The relay has registered the grant and runs with the default overlap window. -/
def registered : Relay :=
  { capabilities := accept packages (grant 0) 0 {}
    readings := 1 }

def row : StoredGrant :=
  { relayName := "relay"
    capabilityGeneration := session.grant.capabilityGeneration
    grantB64 := session.grant.toB64 packages
    authPrivateB64 := b64encode session.authPrivate.1
    issuanceSaltB64 := b64encode []
    relayTlsSpkiSha256 := []
    expiresAt := session.grant.expiresAt }

def device : Client Relay :=
  { publisher := { store := {}, capabilityGrants := [row] }, server := registered }

theorem stores_row : Stores packages row session :=
  stores_saved cborLaws "relay" session [] []

/-- The device can use its grant. -/
theorem ready_device : Ready packages relay (fun _ => 0) "relay" device where
  kept := ⟨saved_save _, ⟨by decide, fun file hfile => by
    obtain rfl := Option.some.inj hfile
    decide⟩⟩
  rows r hr _ := by
    obtain rfl := List.mem_singleton.mp hr
    refine ⟨session, stores_row, rfl, fun now hlive => verified_until verified_grant hlive, ?_, ?_⟩
    · exact ⟨0, Nat.zero_lt_one, le_rfl⟩
    · refine ⟨{ grant := grant 0 }, registered_accept_self cborLaws 0, rfl, fun ended hended => ?_⟩
      cases hended

def contact : Contact :=
  { name := "bob"
    signingPublic := []
    agreementPublic := []
    masterSecret := []
    conversationId := "" }

def tables : UrlTables := { lower := id, nfkcSafe := fun _ => true, bracketedHost := fun _ => true }

/-- A blob is stored with the grant of the device. -/
def use : Use :=
  { call := .store [] { mailboxTag := "AA", expiresAt := 1, ciphertext := "" }
    session :=
      { relayUrl := "https://relay"
        relayName := "relay"
        identity := { name := "alice", signingPrivate := authKey, agreementPrivate := authKey }
        contact
        now := 0
        ticketedAt := 0
        verifiedAt := 0
        drawn := BytesN.fill 16 3 }
    issueTransit := .answered
    callTransit := .answered
    signedAt := 0
    nonce := BytesN.fill 16 4 }

/-- Nothing is asked for, as the device has no pin of the relay and needs none. -/
theorem issueRequest_use (profile : Option DeliveryProfile) :
    ∃ e, issueRequest packages tables use.request profile device.publisher = .error e := by
  refine ⟨.valueError "no TLS SPKI pin for relay https://relay", ?_⟩
  have hpin : relayTlsPin packages tables use.request.identity use.request.relayUrl
      device.publisher.store use.request.contact
      = .error (.valueError "no TLS SPKI pin for relay https://relay") := by
    decide +kernel
  unfold issueRequest
  rw [hpin]
  rfl

theorem useAllowed : UseAllowed packages relay (fun _ => 0) tables "relay" device use where
  relayName_eq := rfl
  clocks j _ _ := by decide
  fresh seen hseen := absurd hseen List.not_mem_nil
  ids profile issue authPrivate salt pin h := by
    obtain ⟨e, he⟩ := issueRequest_use profile
    rw [he] at h
    cases h

theorem answered : ∃ answer, (deviceStep packages relay (fun _ => 0) tables device
    (.use use)).1 = some (.ok answer) := by
  have hstored : storedSession packages use.call.permissions 0 row = .ok (some session) := by
    refine storedSession_of_stores stores_row (by decide) ?_
    intro p hp
    exact hp
  have hload : device.publisher.loadCapabilityGrant "relay" = some row := rfl
  exact deviceStep_answered (ensureCapabilitySession_stored hload hstored) rfl

end SessionSample

end Relay

end Yakr
