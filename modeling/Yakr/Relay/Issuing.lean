import Yakr.Relay.Routes

/-!
# Yakr.Relay.Issuing

**Is issuing a capability all or nothing?** The route signs a grant, begins the teardown of the
capability it supersedes and then registers the grant. Registering may still refuse the grant,
and the teardown has been written by then.

`issueCapability_iff` says for which relays and requests an answer other than 201 leaves the
store as it was, and an answer of 201 has changed the two records it should and no others.
-/

namespace Yakr

open Lib Effect

variable {P : Packages} {runtime : RelayRuntime} {clock : Nat → Int}

/-! ### The teardown of a record -/

namespace CapabilityGrantStore

variable {s : CapabilityGrantStore} {id : Bytes} {record : GrantRecord} {now : Int}
  {grant : CapabilityGrant}

/-- A record whose overlap window has begun. -/
def overlapping (s : CapabilityGrantStore) (record : GrantRecord) (now : Int) : GrantRecord :=
  { record with revokedAt := some now, overlapUntilMs := some (now + s.overlapWindowMs) }

/-- The store once the window of a record has begun. -/
def teardown (id : Bytes) (record : GrantRecord) (now : Int) (s : CapabilityGrantStore) :
    CapabilityGrantStore :=
  (setRecord id (s.overlapping record now) s).save

/-- A teardown that begins is seen. -/
theorem teardown_ne (hrecord : s.record id = some record) (hrevoked : record.revokedAt = none) :
    teardown id record now s ≠ s := by
  intro hsame
  have htorn : (teardown id record now s).record id = some (s.overlapping record now) :=
    record_setRecord_self
  rw [hsame, hrecord] at htorn
  rw [Option.some.inj htorn] at hrevoked
  cases hrevoked

/-- The teardown of a capability that may not be registered. -/
def superseded (id : Bytes) (now : Int) (s : CapabilityGrantStore) : CapabilityGrantStore :=
  match s.record id with
  | none => s
  | some record => teardown id record now s

theorem run_supersede (id : Bytes) (now : Int) (s : CapabilityGrantStore) :
    (revokeWithOverlap id now none).run s = .ok () (superseded id now s) := by
  rw [superseded]
  simp only [revokeWithOverlap, EStateM.run_bind, EStateM.run_get]
  cases s.record id with
  | none => rfl
  | some record => rfl

/-- A teardown changes no grant, so it decides no registration. -/
theorem newest_superseded_iff (s : CapabilityGrantStore) (grant : CapabilityGrant) (id : Bytes)
    (now : Int) : Newest P (superseded id now s) grant ↔ Newest P s grant := by
  rw [superseded]
  cases hrecord : s.record id with
  | none => exact Iff.rfl
  | some record =>
      by_cases hid : id = grant.capabilityId
      · have hself : (teardown id record now s).record grant.capabilityId
            = some (s.overlapping record now) := by
          rw [← hid]
          exact record_setRecord_self
        rw [hid] at hrecord
        simp only [Newest, hself, hrecord, Option.some.injEq, forall_eq']
        rfl
      · have hother : (teardown id record now s).record grant.capabilityId
            = s.record grant.capabilityId := record_setRecord_of_ne hid
        simp only [Newest, hother]

/-- What an accepted rotation has done: the new grant is registered, the window of the
superseded capability has begun if it was registered, no other record has changed, and the
file holds what the memory holds. -/
structure Rotated (P : Packages) (grant : CapabilityGrant) (supersededId : Option Bytes)
    (s s' : CapabilityGrantStore) : Prop where
  registered : ∃ registeredAt,
    s'.record grant.capabilityId = some { grantB64 := grant.toB64 P, registeredAt }
  overlapping : ∀ id ∈ supersededId, ∀ record, s.record id = some record →
    ∃ now, s'.record id = some (s.overlapping record now)
  others : ∀ key, key ≠ b64encode grant.capabilityId →
    (∀ id ∈ supersededId, key = b64encode id → s.record id = none) →
      Table.find Prod.fst key s'.active = Table.find Prod.fst key s.active
  nonces : s'.seenNonces = s.seenNonces
  window : s'.overlapWindowMs = s.overlapWindowMs
  saved : s'.file = some
    { active := s'.active, seenNonces := s'.seenNonces, overlapWindowMs := s'.overlapWindowMs }

theorem find_setRecord_of_ne {key : String} (h : key ≠ b64encode id) :
    Table.find Prod.fst key (setRecord id record s).active = Table.find Prod.fst key s.active :=
  Table.find_upsert_of_ne (r := (b64encode id, record)) (Ne.symm h)

/-- A registration that supersedes nothing. -/
theorem rotated_accept {supersededId : Option Bytes}
    (hnone : ∀ id ∈ supersededId, s.record id = none) (registeredAt : Int) :
    Rotated P grant supersededId s (accept P grant registeredAt s) where
  registered := ⟨registeredAt, record_setRecord_self⟩
  overlapping id hid record hrecord := by
    rw [hnone id hid] at hrecord
    cases hrecord
  others key hkey _ := find_setRecord_of_ne hkey
  nonces := rfl
  window := rfl
  saved := rfl

/-- A registration after the teardown of another capability. -/
theorem rotated_teardown (hrecord : s.record id = some record) (hne : id ≠ grant.capabilityId)
    (now registeredAt : Int) :
    Rotated P grant (some id) s (accept P grant registeredAt (teardown id record now s)) where
  registered := ⟨registeredAt, record_setRecord_self⟩
  overlapping id' hid record' hrecord' := by
    obtain rfl : id = id' := Option.some.inj hid
    obtain rfl : record = record' := Option.some.inj (hrecord.symm.trans hrecord')
    refine ⟨now, ?_⟩
    rw [accept, record_save, record_setRecord_of_ne (Ne.symm hne), teardown, record_save,
      record_setRecord_self]
  others key hkey habsent := by
    have hother : key ≠ b64encode id := by
      intro heq
      rw [habsent id rfl heq] at hrecord
      cases hrecord
    exact (find_setRecord_of_ne hkey).trans (find_setRecord_of_ne hother)
  nonces := rfl
  window := rfl
  saved := rfl

/-- A registered capability cannot be its own successor: the registration takes the teardown
back. -/
theorem Rotated.ne {s' : CapabilityGrantStore} (h : Rotated P grant (some id) s s')
    (hrecord : s.record id = some record) : id ≠ grant.capabilityId := by
  intro heq
  obtain ⟨registeredAt, hnew⟩ := h.registered
  obtain ⟨now, hold⟩ := h.overlapping id rfl record hrecord
  rw [heq, hnew] at hold
  cases congrArg GrantRecord.revokedAt (Option.some.inj hold)

end CapabilityGrantStore

/-! ### The route -/

namespace Relay

open CapabilityGrantStore

/-- The public key and the capability id that a request asks for, and the key that signs. -/
def issueFields (runtime : RelayRuntime) (request : CapabilityIssueRequest) :
    Except PyExc (Bytes × Bytes × PrivateKey) := do
  let authPublic ← b64decode request.authPublic
  let capabilityId ← b64decode request.capabilityId
  let issuanceSalt ← b64decode request.issuanceSalt
  if capabilityId.length ≠ 16 then throw (.valueError "capability_id must be 16 bytes")
  if issuanceSalt.length ≠ 16 then throw (.valueError "issuance_salt must be 16 bytes")
  let relayPrivate ← loadPrivate runtime.relayIssuancePrivate
  return (authPublic, capabilityId, relayPrivate)

/-- The grant that is issued for them at a clock reading. -/
def grantOf (P : Packages) (runtime : RelayRuntime) (request : CapabilityIssueRequest) (now : Int)
    (fields : Bytes × Bytes × PrivateKey) : Except PyExc CapabilityGrant :=
  issueCapabilityGrant P fields.2.2 fields.2.1 request.capabilityGeneration runtime.name
    runtime.relayTlsSpkiSha256 request.permissions fields.1 defaultCapabilityTtlMs now

/-- The grant that a request is given at a clock reading. -/
def issuedGrant (P : Packages) (runtime : RelayRuntime) (request : CapabilityIssueRequest)
    (now : Int) : Except PyExc CapabilityGrant :=
  issueFields runtime request >>= grantOf P runtime request now

/-- The capability that a request supersedes, if it names one. -/
def supersededId (request : CapabilityIssueRequest) : Except PyExc (Option Bytes) :=
  match request.supersedesCapabilityId with
  | none => .ok none
  | some superseded => if superseded = "" then .ok none else (b64decode superseded).map some

/-- The relay when the grant is signed and the teardown of the superseded capability has
begun. -/
def tornDown (clock : Nat → Int) (supersededId : Option Bytes) (r : Relay) : Relay :=
  match supersededId with
  | none => { r with readings := r.readings + 1 }
  | some id =>
      { r with
        readings := r.readings + 2
        capabilities := superseded id (clock (r.readings + 1)) r.capabilities }

theorem tornDown_absent (clock : Nat → Int) {supersededId : Option Bytes} {r : Relay}
    (h : ∀ id ∈ supersededId, r.capabilities.record id = none) :
    (tornDown clock supersededId r).capabilities = r.capabilities := by
  cases supersededId with
  | none => rfl
  | some id =>
      show superseded id (clock (r.readings + 1)) r.capabilities = r.capabilities
      rw [superseded, h id rfl]

theorem tornDown_present (clock : Nat → Int) {id : Bytes} {record : GrantRecord} {r : Relay}
    (h : r.capabilities.record id = some record) :
    tornDown clock (some id) r = { r with
      readings := r.readings + 2
      capabilities := teardown id record (clock (r.readings + 1)) r.capabilities } := by
  rw [tornDown, superseded, h]

/-- The readings of the ticket check. -/
def Reads (r r' : Relay) : Prop := ∃ n, r' = { r with readings := n }

theorem Reads.of_steps {r r' : Relay} (h : Relation.ReflTransGen Reads r r') : Reads r r' := by
  induction h with
  | refl => exact ⟨r.readings, rfl⟩
  | tail _ hstep ih =>
      obtain ⟨n, rfl⟩ := ih
      obtain ⟨m, rfl⟩ := hstep
      exact ⟨m, rfl⟩

theorem reads_tick {ε : Type} : Steps Reads (tick clock : EStateM ε Relay Int) := fun r =>
  .single ⟨r.readings + 1, rfl⟩

theorem reads_verifyAny (ticket : RelayTicket) (permissions : List String) :
    Steps Reads (verifyAny P runtime clock ticket permissions) := by
  induction permissions with
  | nil => exact .raise _
  | cons permission permissions ih =>
      refine .tryCatch (.bind reads_tick fun _ => .orRaise _) fun e => ?_
      exact .ite _ ih (.raise e)

/-- The ticket check reads the clock and does nothing else. -/
theorem reads_checkBootstrapTicket (P : Packages) (runtime : RelayRuntime) (clock : Nat → Int)
    (ticketB64 : Option String) (r : Relay) :
    Reads r (after ((checkBootstrapTicket P runtime clock ticketB64).run r)) := by
  have hsteps : Steps Reads (checkBootstrapTicket P runtime clock ticketB64) := by
    cases ticketB64 with
    | none => exact .raise _
    | some ticketB64 =>
        exact steps_rescue (.bind (.orRaise _) fun ticket => reads_verifyAny ticket _)
  exact .of_steps (hsteps r)

section Issue

variable {request : CapabilityIssueRequest} {grant : CapabilityGrant} {r : Relay} {e : PyExc}

theorem orRaise_bind {ε σ α β : Type} (x : Except ε α) (f : α → Except ε β) :
    (orRaise (x >>= f) : EStateM ε σ β) = orRaise x >>= fun a => orRaise (f a) := by
  cases x with
  | error e => rfl
  | ok a => rfl

/-- The steps of the route before the clock is read, at once. -/
theorem issueGrant_eq (request : CapabilityIssueRequest) :
    issueGrant P runtime clock request = (do
      let fields ← orRaise (issueFields runtime request)
      let now ← tick clock
      let grant ← orRaise (grantOf P runtime request now fields)
      match request.supersedesCapabilityId with
      | some superseded =>
          if superseded ≠ "" then
            let supersededId ← orRaise (b64decode superseded)
            supersede clock supersededId
      | none => pure ()
      registerGrant P runtime clock grant
      return grant) := by
  unfold issueGrant issueFields
  simp only [orRaise_bind, bind_assoc]
  refine bind_congr fun authPublic => bind_congr fun capabilityId => bind_congr fun salt => ?_
  by_cases hid : capabilityId.length ≠ 16
  · rw [if_pos hid, if_pos hid]
    rfl
  rw [if_neg hid, if_neg hid]
  by_cases hsalt : salt.length ≠ 16
  · rw [if_pos hsalt, if_pos hsalt]
    rfl
  rw [if_neg hsalt, if_neg hsalt, orRaise_bind, bind_assoc]
  rfl

theorem issuedGrant_fields {now : Int} (h : issuedGrant P runtime request now = .ok grant) :
    ∃ fields, issueFields runtime request = .ok fields
      ∧ grantOf P runtime request now fields = .ok grant := bind_ok.mp h

/-- A request that is given no grant reads the clock at most. -/
theorem issueGrant_refused (h : issuedGrant P runtime request (clock r.readings) = .error e) :
    ∃ r', (issueGrant P runtime clock request).run r = .error e r' ∧ Reads r r' := by
  rw [issueGrant_eq]
  cases hfields : issueFields runtime request with
  | error e' =>
      rw [issuedGrant, hfields] at h
      cases h
      exact ⟨r, rfl, r.readings, rfl⟩
  | ok fields =>
      have hgrant : grantOf P runtime request (clock r.readings) fields = .error e := by
        rw [issuedGrant, hfields] at h
        exact h
      refine ⟨{ r with readings := r.readings + 1 }, ?_, r.readings + 1, rfl⟩
      simp only [EStateM.run_bind, run_orRaise_ok, run_tick, hgrant, run_orRaise_error]

/-- Nor is anything torn down when the name of the superseded capability is malformed. -/
theorem issueGrant_misnamed (h : issuedGrant P runtime request (clock r.readings) = .ok grant)
    (hid : supersededId request = .error e) :
    (issueGrant P runtime clock request).run r
      = .error e { r with readings := r.readings + 1 } := by
  obtain ⟨fields, hfields, hgrant⟩ := issuedGrant_fields h
  rw [issueGrant_eq]
  unfold supersededId at hid
  cases hname : request.supersedesCapabilityId with
  | none =>
      rw [hname] at hid
      cases hid
  | some superseded =>
      simp only [hname] at hid
      by_cases hempty : superseded = ""
      · rw [if_pos hempty] at hid
        cases hid
      · rw [if_neg hempty] at hid
        cases hdecode : b64decode superseded with
        | ok id =>
            rw [hdecode] at hid
            cases hid
        | error e' =>
            rw [hdecode] at hid
            cases hid
            simp only [hfields, EStateM.run_bind, run_orRaise_ok, run_tick, hgrant, ne_eq, hempty,
              not_false_eq_true, if_true, hdecode, run_orRaise_error]

/-- The grant is registered after the teardown. -/
theorem issueGrant_issued {superseded : Option Bytes}
    (h : issuedGrant P runtime request (clock r.readings) = .ok grant)
    (hid : supersededId request = .ok superseded) :
    (issueGrant P runtime clock request).run r
      = (do registerGrant P runtime clock grant; return grant).run
          (tornDown clock superseded r) := by
  obtain ⟨fields, hfields, hgrant⟩ := issuedGrant_fields h
  rw [issueGrant_eq]
  simp only [hfields, EStateM.run_bind, run_orRaise_ok, run_tick, hgrant]
  unfold supersededId at hid
  cases hname : request.supersedesCapabilityId with
  | none =>
      rw [hname] at hid
      cases hid
      rfl
  | some text =>
      simp only [hname] at hid
      by_cases hempty : text = ""
      · rw [if_pos hempty] at hid
        cases hid
        simp only [hempty, ne_eq, not_true_eq_false, if_false]
        rfl
      · rw [if_neg hempty] at hid
        cases hdecode : b64decode text with
        | error e =>
            rw [hdecode] at hid
            cases hid
        | ok id =>
            rw [hdecode] at hid
            cases hid
            have htear : (onCapabilities
                  (revokeWithOverlap id (clock (r.readings + 1)) none)).run
                { r with readings := r.readings + 1 + 1 } = .ok () (tornDown clock (some id) r) :=
              run_onPart_ok.mpr ⟨_, run_supersede id _ r.capabilities, rfl⟩
            simp only [ne_eq, hempty, not_false_eq_true, if_true, EStateM.run_bind, hdecode,
              run_orRaise_ok, supersede, run_tick, htear]

theorem registerGrant_ok (hverified : Verified P runtime grant (clock r.readings))
    (hnewest : Newest P r.capabilities grant) :
    (do registerGrant P runtime clock grant; return grant).run r =
      .ok grant { r with
        readings := r.readings + 2
        capabilities := accept P grant (clock (r.readings + 1)) r.capabilities } := by
  have hregister : (onCapabilities (CapabilityGrantStore.register P grant
        runtime.relayIssuancePublic runtime.name runtime.relayTlsSpkiSha256 (clock r.readings)
        (clock (r.readings + 1)))).run { r with readings := r.readings + 2 }
      = .ok () { r with
          readings := r.readings + 2
          capabilities := accept P grant (clock (r.readings + 1)) r.capabilities } :=
    run_onPart_ok.mpr ⟨_, run_register _ hverified hnewest, rfl⟩
  simp only [registerGrant, EStateM.run_bind, run_tick, hregister, EStateM.run_pure]

theorem registerGrant_refused (P : Packages) (runtime : RelayRuntime) (clock : Nat → Int)
    (grant : CapabilityGrant) (r : Relay)
    (h : ¬ (Verified P runtime grant (clock r.readings) ∧ Newest P r.capabilities grant)) :
    ∃ e r', (do registerGrant P runtime clock grant; return grant).run r = .error e r'
      ∧ r'.capabilities = r.capabilities := by
  obtain ⟨e, hrun⟩ := run_register_refused (clock (r.readings + 1)) h
  have hregister : (onCapabilities (CapabilityGrantStore.register P grant
        runtime.relayIssuancePublic runtime.name runtime.relayTlsSpkiSha256 (clock r.readings)
        (clock (r.readings + 1)))).run { r with readings := r.readings + 2 }
      = .error e { r with readings := r.readings + 2 } :=
    run_onPart_error.mpr ⟨_, hrun, rfl⟩
  refine ⟨e, { r with readings := r.readings + 2 }, ?_, rfl⟩
  simp only [registerGrant, EStateM.run_bind, run_tick, hregister]

/-- A grant is given the capability id of its request. -/
theorem issuedGrant_capabilityId {grant' : CapabilityGrant} {now now' : Int}
    (h : issuedGrant P runtime request now = .ok grant)
    (h' : issuedGrant P runtime request now' = .ok grant') :
    grant'.capabilityId = grant.capabilityId := by
  have hgrantOf : ∀ {fields : Bytes × Bytes × PrivateKey} {g : CapabilityGrant} {t : Int},
      grantOf P runtime request t fields = .ok g → g.capabilityId = fields.2.1 := by
    intro fields g t hg
    unfold grantOf issueCapabilityGrant at hg
    split_ifs at hg
    cases hg
    rfl
  obtain ⟨fields, hfields, hgrant⟩ := issuedGrant_fields h
  obtain ⟨fields', hfields', hgrant'⟩ := issuedGrant_fields h'
  obtain rfl : fields = fields' := Except.ok.inj (hfields.symm.trans hfields')
  rw [hgrantOf hgrant, hgrantOf hgrant']

/-- All or nothing: a refused request leaves the store as it was, an accepted one is answered
201 with the grant it has rotated in. -/
def AllOrNothing (P : Packages) (runtime : RelayRuntime) (request : CapabilityIssueRequest)
    (r : Relay) : EStateM.Result HttpException Relay RelayResponse → Prop
  | .error _ r' => r'.capabilities = r.capabilities
  | .ok response r' =>
      ∃ grant superseded now, issuedGrant P runtime request now = .ok grant
        ∧ supersededId request = .ok superseded
        ∧ response = { statusCode := 201
                       content := .object [("status", "issued"), ("grant", grant.toB64 P)] }
        ∧ Rotated P grant superseded r.capabilities r'.capabilities

theorem not_allOrNothing_error {r' : Relay} {x : HttpException}
    (h : r'.capabilities ≠ r.capabilities) : ¬ AllOrNothing P runtime request r (.error x r') := h

/-- The relay can issue and the ticket is good; the clock has been read `n` times by then. -/
def Ticketed (P : Packages) (runtime : RelayRuntime) (clock : Nat → Int)
    (request : CapabilityIssueRequest) (r : Relay) (n : Nat) : Prop :=
  runtime.relayIssuancePrivate ≠ []
    ∧ (checkBootstrapTicket P runtime clock request.ticket).run r
      = .ok () { r with readings := n }

/-- The relay registers the grant it has issued. -/
def Registers (P : Packages) (runtime : RelayRuntime) (grant : CapabilityGrant) (verifiedAt : Int)
    (s : CapabilityGrantStore) : Prop :=
  Verified P runtime grant verifiedAt ∧ Newest P s grant

/-- A registered capability is superseded only by another one that is sure to be registered
(or its teardown writes what is there already). -/
def RotatesSafely (P : Packages) (runtime : RelayRuntime) (clock : Nat → Int)
    (request : CapabilityIssueRequest) (r : Relay) : Prop :=
  ∀ n grant id record, Ticketed P runtime clock request r n →
    issuedGrant P runtime request (clock n) = .ok grant →
    supersededId request = .ok (some id) → r.capabilities.record id = some record →
      (Registers P runtime grant (clock (n + 2)) r.capabilities → id ≠ grant.capabilityId)
        ∧ (¬ Registers P runtime grant (clock (n + 2)) r.capabilities →
            teardown id record (clock (n + 1)) r.capabilities = r.capabilities)

/-- Without a good ticket nothing happens. -/
theorem issueCapability_unticketed (h : ∀ n, ¬ Ticketed P runtime clock request r n) :
    ∃ e r', (issueCapability P runtime clock request).run r = .error e r'
      ∧ r'.capabilities = r.capabilities := by
  unfold issueCapability
  by_cases hkey : runtime.relayIssuancePrivate = []
  · rw [if_pos hkey]
    exact ⟨_, r, rfl, rfl⟩
  · rw [if_neg hkey]
    have hreads := reads_checkBootstrapTicket P runtime clock request.ticket r
    cases hticket : (checkBootstrapTicket P runtime clock request.ticket).run r with
    | ok u r₁ =>
        rw [hticket] at hreads
        obtain ⟨n, rfl⟩ := hreads
        exact absurd ⟨hkey, hticket⟩ (h n)
    | error e r₁ =>
        rw [hticket] at hreads
        obtain ⟨n, rfl⟩ := hreads
        refine ⟨e, { r with readings := n }, ?_, rfl⟩
        simp only [EStateM.run_bind, hticket]

/-- With one, the answer is that of the guarded part. -/
theorem issueCapability_ticketed {n : Nat} (h : Ticketed P runtime clock request r n) :
    (issueCapability P runtime clock request).run r =
      match (issueGrant P runtime clock request).run { r with readings := n } with
      | .error e r' => .error (badRequest e.text) r'
      | .ok grant r' =>
          .ok { statusCode := 201
                content := .object [("status", "issued"), ("grant", grant.toB64 P)] } r' := by
  unfold issueCapability
  rw [if_neg h.1]
  simp only [EStateM.run_bind, h.2]
  cases hgrant : (issueGrant P runtime clock request).run { r with readings := n } with
  | error e r' => simp only [run_rescue_error.mpr ⟨e, hgrant, rfl⟩]
  | ok grant r' => simp only [run_rescue_ok.mpr hgrant, EStateM.run_pure]

/-- **Issuing.** The route is all or nothing exactly for a request that rotates safely. -/
theorem issueCapability_iff (request : CapabilityIssueRequest) (r : Relay) :
    AllOrNothing P runtime request r ((issueCapability P runtime clock request).run r)
      ↔ RotatesSafely P runtime clock request r := by
  by_cases hticketed : ∃ n, Ticketed P runtime clock request r n
  case neg =>
    obtain ⟨e, r', hrun, hsame⟩ := issueCapability_unticketed (fun n hn => hticketed ⟨n, hn⟩)
    rw [hrun]
    exact iff_of_true hsame fun n _ _ _ hn => absurd ⟨n, hn⟩ hticketed
  obtain ⟨n, hn⟩ := hticketed
  -- the number of readings is the one of this ticket check
  have hunique : ∀ m, Ticketed P runtime clock request r m → m = n := by
    intro m hm
    have hstate := hm.2.symm.trans hn.2
    injection hstate with _ hreadings
    exact congrArg Relay.readings hreadings
  have hvacuous : ∀ {superseded : Option Bytes}, supersededId request = .ok superseded →
      (∀ id ∈ superseded, r.capabilities.record id = none) →
        RotatesSafely P runtime clock request r := by
    intro superseded hid habsent m grant id record hm hgrant hsome hrecord
    rw [hsome] at hid
    cases hid
    rw [habsent id rfl] at hrecord
    cases hrecord
  rw [issueCapability_ticketed hn]
  cases hissued : issuedGrant P runtime request (clock n) with
  | error e =>
      obtain ⟨r', hrun, m, rfl⟩ := issueGrant_refused (r := { r with readings := n }) hissued
      rw [hrun]
      refine iff_of_true rfl fun m grant id record hm hgrant => ?_
      obtain rfl := hunique m hm
      rw [hissued] at hgrant
      cases hgrant
  | ok grant =>
      cases hid : supersededId request with
      | error e =>
          rw [issueGrant_misnamed (r := { r with readings := n }) hissued hid]
          refine iff_of_true rfl fun m grant id record hm hgrant hsome => ?_
          rw [hid] at hsome
          cases hsome
      | ok superseded =>
          rw [issueGrant_issued (r := { r with readings := n }) hissued hid]
          by_cases habsent : ∀ id ∈ superseded, r.capabilities.record id = none
          · refine iff_of_true ?_ (hvacuous hid habsent)
            have hsame := tornDown_absent clock (r := { r with readings := n }) habsent
            generalize tornDown clock superseded { r with readings := n } = t at hsame
            by_cases hregisters : Registers P runtime grant (clock t.readings) t.capabilities
            · rw [registerGrant_ok hregisters.1 hregisters.2]
              refine ⟨grant, superseded, clock n, hissued, hid, rfl, ?_⟩
              rw [← show t.capabilities = r.capabilities from hsame] at habsent ⊢
              exact rotated_accept habsent _
            · obtain ⟨e, r', hrun, hkept⟩ := registerGrant_refused P runtime clock grant t
                hregisters
              rw [hrun]
              exact hkept.trans hsame
          · obtain ⟨id, hmem, hpresent⟩ : ∃ id ∈ superseded, r.capabilities.record id ≠ none := by
              simpa using habsent
            obtain rfl : superseded = some id := hmem
            obtain ⟨record, hrecord⟩ := Option.ne_none_iff_exists'.mp hpresent
            rw [tornDown_present clock (r := { r with readings := n }) hrecord]
            have hnewest : Newest P (teardown id record (clock (n + 1)) r.capabilities) grant
                ↔ Newest P r.capabilities grant := by
              have hsame := newest_superseded_iff (P := P) r.capabilities grant id (clock (n + 1))
              rwa [superseded, hrecord] at hsame
            -- the condition is about this grant and this record
            have hsafe : RotatesSafely P runtime clock request r
                ↔ (Registers P runtime grant (clock (n + 2)) r.capabilities →
                    id ≠ grant.capabilityId)
                  ∧ (¬ Registers P runtime grant (clock (n + 2)) r.capabilities →
                    teardown id record (clock (n + 1)) r.capabilities = r.capabilities) := by
              refine ⟨fun h => h n grant id record hn hissued hid hrecord, fun h => ?_⟩
              intro m grant' id' record' hm hgrant' hid' hrecord'
              obtain rfl := hunique m hm
              obtain rfl : grant = grant' := Except.ok.inj (hissued.symm.trans hgrant')
              obtain rfl : id = id' := Option.some.inj (Except.ok.inj (hid.symm.trans hid'))
              obtain rfl : record = record' := Option.some.inj (hrecord.symm.trans hrecord')
              exact h
            rw [hsafe]
            by_cases hregisters : Registers P runtime grant (clock (n + 2)) r.capabilities
            · rw [registerGrant_ok hregisters.1 (hnewest.mpr hregisters.2)]
              constructor
              · intro h
                obtain ⟨grant', superseded', now, hissued', hid', -, hrotated⟩ := h
                obtain rfl : some id = superseded' := Except.ok.inj (hid.symm.trans hid')
                have hne := hrotated.ne hrecord
                rw [issuedGrant_capabilityId hissued hissued'] at hne
                exact ⟨fun _ => hne, fun hrefused => absurd hregisters hrefused⟩
              · intro h
                exact ⟨grant, some id, clock n, hissued, hid, rfl,
                  rotated_teardown hrecord (h.1 hregisters) _ _⟩
            · obtain ⟨e, r', hrun, hkept⟩ := registerGrant_refused P runtime clock grant
                { r with
                  readings := n + 2
                  capabilities := teardown id record (clock (n + 1)) r.capabilities }
                fun h => hregisters ⟨h.1, hnewest.mp h.2⟩
              rw [hrun]
              constructor
              · intro hsame
                exact ⟨fun h => absurd h hregisters, fun _ => hkept.symm.trans hsame⟩
              · intro h
                exact hkept.trans (h.2 hregisters)

end Issue

namespace Sample

open CapabilityGrantStore.Sample

/-- A ticket of the relay's operator. -/
def ticket : RelayTicket :=
  let ticket : RelayTicket :=
    { issuerSigningPublic := (packages.ed25519Public relayKey).1
      relayName := "relay"
      permissions := ["store"]
      contactId := []
      expiresAt := 1
      signature := [] }
  { ticket with signature := packages.ed25519Sign relayKey (ticket.unsignedPayload packages) }

def ticketCbor : Cbor :=
  .map [("issuer_signing_public", .bytes ticket.issuerSigningPublic),
    ("relay_name", .text "relay"), ("permissions", .array [.text "store"]),
    ("contact_id", .bytes []), ("expires_at", .int 1), ("signature", .bytes ticket.signature)]

/-- The second generation of a capability is registered. -/
def renewed : Relay :=
  { capabilities := accept packages (CapabilityGrantStore.Sample.grant 2) 0 {} }

/-- A request for its first generation, to supersede what is registered. -/
def outdated : CapabilityIssueRequest :=
  { authPublic := b64encode (List.replicate 32 2)
    capabilityId := b64encode (List.replicate 16 1)
    capabilityGeneration := 1
    issuanceSalt := b64encode (List.replicate 16 4)
    permissions := ["post"]
    ticket := some (b64encode (packages.cborDumps ticketCbor))
    supersedesCapabilityId := some (b64encode (List.replicate 16 1)) }

theorem ticket_fromB64 :
    RelayTicket.fromB64 packages (b64encode (packages.cborDumps ticketCbor)) = .ok ticket := by
  have hread : packages.cborLoads (packages.cborDumps ticketCbor) = .ok ticketCbor :=
    (codedPackages_cborLaws plainPackages).loads_dumps
      (by simp [ticketCbor, Cbor.Storable, Cbor.StorableEntries, Cbor.StorableItems])
  rw [RelayTicket.fromB64, b64decode_b64encode]
  show (packages.cborLoads (packages.cborDumps ticketCbor) >>= RelayTicket.ofCbor packages) = _
  rw [hread]
  rfl

theorem ticketed : Ticketed packages relay (fun _ => 0) outdated renewed 1 := by
  have hverified : verifyRelayTicket packages ticket relay.name "store" 0 = .ok () := by
    decide +kernel
  have hany : (verifyAny packages relay (fun _ => 0) ticket ["store", "fetch"]).run renewed
      = .ok () { renewed with readings := 1 } := by
    rw [verifyAny, run_tryCatch]
    simp only [verifyTicket, EStateM.run_bind, run_tick, hverified, run_orRaise_ok]
    rfl
  refine ⟨by decide, ?_⟩
  simp only [outdated, checkBootstrapTicket]
  exact run_rescue_ok.mpr (run_orRaise_bind_ok.mpr ⟨ticket, ticket_fromB64, hany⟩)

/-- What is registered. -/
def current : GrantRecord :=
  { grantB64 := (CapabilityGrantStore.Sample.grant 2).toB64 packages, registeredAt := 0 }

theorem record_renewed : renewed.capabilities.record (List.replicate 16 1) = some current :=
  record_setRecord_self

theorem issued_outdated : ∃ g, issuedGrant packages relay outdated 0 = .ok g
    ∧ g.capabilityId = List.replicate 16 1 ∧ g.capabilityGeneration = 1 := by
  have hkey : loadPrivate relay.relayIssuancePrivate = .ok relayKey := loadPrivate_val relayKey
  have hfields : issueFields relay outdated
      = .ok (List.replicate 32 2, List.replicate 16 1, relayKey) := by
    simp [issueFields, outdated, bind, Except.bind, pure, Except.pure, hkey]
  obtain ⟨g, hgrant, hid, hgeneration⟩ : ∃ g, grantOf packages relay outdated 0
      (List.replicate 32 2, List.replicate 16 1, relayKey) = .ok g
        ∧ g.capabilityId = List.replicate 16 1 ∧ g.capabilityGeneration = 1 := by
    unfold grantOf issueCapabilityGrant
    rw [if_neg (by decide), if_neg (by decide)]
    exact ⟨_, rfl, rfl, rfl⟩
  exact ⟨g, bind_ok.mpr ⟨_, hfields, hgrant⟩, hid, hgeneration⟩

theorem not_registers {g : CapabilityGrant} (hid : g.capabilityId = List.replicate 16 1)
    (hgeneration : g.capabilityGeneration = 1) (now : Int) :
    ¬ Registers packages relay g now renewed.capabilities := by
  intro h
  obtain ⟨prev, hprev, hle⟩ := h.2 _ (by rw [hid]; exact record_renewed)
  have hread := CapabilityGrant.fromB64_toB64 (codedPackages_cborLaws plainPackages)
    (CapabilityGrantStore.Sample.grant 2)
  obtain rfl : CapabilityGrantStore.Sample.grant 2 = prev := Except.ok.inj (hread.symm.trans hprev)
  rw [hgeneration] at hle
  exact absurd hle (by decide)

end Sample

open CapabilityGrantStore.Sample Relay.Sample in
/-- The rollback is refused, and the registered capability is being torn down. -/
theorem not_allOrNothing_outdated :
    ¬ AllOrNothing packages relay outdated renewed
      ((issueCapability packages relay (fun _ => 0) outdated).run renewed) := by
  obtain ⟨g, hissued, hid, hgeneration⟩ := issued_outdated
  have hsuperseded : supersededId outdated = .ok (some (List.replicate 16 1)) := by
    have hne : b64encode (List.replicate 16 1) ≠ "" := by decide
    simp only [supersededId, outdated, if_neg hne, b64decode_b64encode]
    rfl
  have hrefused : ¬ (Verified packages relay g 0
      ∧ Newest packages (teardown (List.replicate 16 1) current 0 renewed.capabilities) g) := by
    intro h
    refine not_registers hid hgeneration 0 ⟨h.1, ?_⟩
    rw [← newest_superseded_iff _ g (List.replicate 16 1) 0, superseded, record_renewed]
    exact h.2
  have hgrant : ∀ r, (issueGrant packages relay (fun _ => 0) outdated).run r
      = (do registerGrant packages relay (fun _ => 0) g; return g).run
          (tornDown (fun _ => 0) (some (List.replicate 16 1)) r) :=
    fun _ => issueGrant_issued hissued hsuperseded
  rw [issueCapability_ticketed ticketed, hgrant,
    tornDown_present (fun _ => 0) (r := { renewed with readings := 1 }) record_renewed]
  obtain ⟨e, r', hrun, hkept⟩ := registerGrant_refused packages relay (fun _ => 0) g
    { renewed with
      readings := 3
      capabilities := teardown (List.replicate 16 1) current 0 renewed.capabilities } hrefused
  rw [hrun]
  refine not_allOrNothing_error fun hsame => ?_
  exact teardown_ne record_renewed rfl (hkept.symm.trans hsame)

end Relay
end Yakr
