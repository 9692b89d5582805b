import Mathlib
import Yakr.Relay.Actions
import Yakr.Relay.Issuing

/-!
# Yakr.Relay.Honoured

**Grants that a relay takes until they expire.** A grant that was registered is *honoured*: until
it expires its signature verifies and its id is registered, at most in an overlap window that ends
later. Every event that does not name the id leaves it so (`spares_step`), and issuing a grant, with
the teardown of the one before, leaves every grant so whose id is not taken by another generation
(`honoured_outcome`). The window is the point: a relay whose window is shorter than the life of a
grant cuts off grants that a device may still use.
-/

namespace Yakr

open Lib Effect Machine

variable {P : Packages} {runtime : RelayRuntime} {clock : Nat → Int}

/-! ### What others leave -/

namespace CapabilityGrantStore

variable {s : CapabilityGrantStore} {id id' : Bytes} {now : Int}

/-- The overlap window, also of the file, is no shorter than the life of a grant. -/
def Wide (s : CapabilityGrantStore) : Prop :=
  defaultCapabilityTtlMs ≤ s.overlapWindowMs
    ∧ ∀ file ∈ s.file, defaultCapabilityTtlMs ≤ file.overlapWindowMs

theorem Wide.save (h : Wide s) : Wide s.save := by
  refine ⟨h.1, fun file hfile => ?_⟩
  obtain rfl := Option.some.inj hfile
  exact h.1

theorem wide_register (h : Wide s) (grant : CapabilityGrant) (verifiedAt registeredAt : Int) :
    Wide (after ((register P grant runtime.relayIssuancePublic runtime.name
      runtime.relayTlsSpkiSha256 verifiedAt registeredAt).run s)) := by
  by_cases hregisters : Verified P runtime grant verifiedAt ∧ Newest P s grant
  · rw [run_register registeredAt hregisters.1 hregisters.2]
    exact Wide.save h
  · obtain ⟨e, hrun⟩ := run_register_refused registeredAt hregisters
    rw [hrun]
    exact h

theorem wide_revokeWithOverlap (h : Wide s) (id : Bytes) (now : Int) (window : Option Int) :
    Wide (after ((revokeWithOverlap id now window).run s)) := by
  simp only [revokeWithOverlap, EStateM.run_bind, EStateM.run_get]
  cases s.record id with
  | none => exact h
  | some record => exact Wide.save h

/-- A nonce is refused, or it is remembered and saved; what has passed is pruned either way. -/
theorem after_consumeNonce (s : CapabilityGrantStore) (nonceB64 : String) (now : Int) :
    after ((consumeNonce nonceB64 now).run s) = s.pruneNonces now
      ∨ ∃ seenNonces, after ((consumeNonce nonceB64 now).run s) = save { s with seenNonces } := by
  simp only [consumeNonce, EStateM.run_bind, EStateM.run_modify, EStateM.run_get]
  split
  · exact Or.inl rfl
  · exact Or.inr ⟨_, rfl⟩

theorem wide_consumeNonce (h : Wide s) (nonceB64 : String) (now : Int) :
    Wide (after ((consumeNonce nonceB64 now).run s)) := by
  rcases after_consumeNonce s nonceB64 now with hafter | ⟨seenNonces, hafter⟩
  · rw [hafter]
    exact h
  · rw [hafter]
    exact Wide.save h

theorem wide_load {overlapWindowMs : Int} (h : Wide s)
    (hwindow : defaultCapabilityTtlMs ≤ overlapWindowMs) : Wide (load overlapWindowMs s.file) := by
  cases hfile : s.file with
  | none => exact ⟨hwindow, by simp [load]⟩
  | some file =>
      have hwide : defaultCapabilityTtlMs ≤ file.overlapWindowMs := h.2 file hfile
      refine ⟨hwide, fun file' hfile' => ?_⟩
      obtain rfl := Option.some.inj hfile'
      exact hwide

/-- A registration is about one id. -/
theorem registered_register_of_ne {grant : CapabilityGrant} (hne : grant.capabilityId ≠ id)
    (verifiedAt registeredAt : Int) :
    registered P (after ((register P grant runtime.relayIssuancePublic runtime.name
      runtime.relayTlsSpkiSha256 verifiedAt registeredAt).run s)) id = registered P s id := by
  by_cases hregisters : Verified P runtime grant verifiedAt ∧ Newest P s grant
  · rw [run_register registeredAt hregisters.1 hregisters.2]
    exact registered_accept_of_ne hne
  · obtain ⟨e, hrun⟩ := run_register_refused registeredAt hregisters
    rw [hrun]
    rfl

theorem registered_revokeWithOverlap_of_ne (hne : id ≠ id') (now : Int) (window : Option Int) :
    registered P (after ((revokeWithOverlap id now window).run s)) id' = registered P s id' := by
  obtain ⟨s', hrun, -, -, hothers, -⟩ := run_revokeWithOverlap P s id now window
  rw [hrun]
  exact hothers id' hne

theorem registered_consumeNonce (nonceB64 : String) (now : Int) :
    registered P (after ((consumeNonce nonceB64 now).run s)) id = registered P s id := by
  rcases after_consumeNonce s nonceB64 now with hafter | ⟨seenNonces, hafter⟩
  · rw [hafter]
    rfl
  · rw [hafter]
    rfl

theorem saved_consumeNonce (h : Saved s) (nonceB64 : String) (now : Int) :
    Saved (after ((consumeNonce nonceB64 now).run s)) := by
  rcases after_consumeNonce s nonceB64 now with hafter | ⟨seenNonces, hafter⟩
  · rw [hafter]
    exact h.pruneNonces now
  · rw [hafter]
    exact saved_save _

end CapabilityGrantStore

namespace Relay

open CapabilityGrantStore

/-- The two stores of a relay that the grants rest on. -/
structure Kept (r : Relay) : Prop where
  saved : Saved r.capabilities
  wide : Wide r.capabilities

/-- What is registered under an id stays. -/
structure Spares (P : Packages) (id : Bytes) (r r' : Relay) : Prop where
  readings : r.readings ≤ r'.readings
  registered : registered P r'.capabilities id = registered P r.capabilities id

namespace Spares

variable {id : Bytes} {r r' r'' : Relay}

theorem of_capabilities (hreadings : r.readings ≤ r'.readings)
    (h : r'.capabilities = r.capabilities) : Spares P id r r' := ⟨hreadings, by rw [h]⟩

theorem refl (r : Relay) : Spares P id r r := of_capabilities le_rfl rfl

theorem trans (h : Spares P id r r') (h' : Spares P id r' r'') : Spares P id r r'' :=
  ⟨h.readings.trans h'.readings, h'.registered.trans h.registered⟩

theorem of_steps (h : Relation.ReflTransGen (Spares P id) r r') : Spares P id r r' := by
  induction h with
  | refl => exact .refl r
  | tail _ hstep ih => exact ih.trans hstep

end Spares

section Actions

variable {names : Bytes → Prop} {id : Bytes} {r r' : Relay}

theorem Action.kept (h : Action P runtime names r r') (hkept : Kept r) : Kept r' := by
  cases h with
  | tick => exact ⟨hkept.saved, hkept.wide⟩
  | keep => exact ⟨hkept.saved, hkept.wide⟩
  | pair => exact ⟨hkept.saved, hkept.wide⟩
  | pass => exact ⟨hkept.saved, hkept.wide⟩
  | register hnames verifiedAt registeredAt =>
      exact ⟨(keepsNonces_register _ _ _ _).2 hkept.saved, wide_register hkept.wide _ _ _⟩
  | revoke hnames now window =>
      exact ⟨(keepsNonces_revokeWithOverlap _ _ _ _).2 hkept.saved,
        wide_revokeWithOverlap hkept.wide _ _ _⟩
  | consume nonceB64 now =>
      exact ⟨saved_consumeNonce hkept.saved _ _, wide_consumeNonce hkept.wide _ _⟩

theorem Action.spares (h : Action P runtime names r r') (hid : ¬ names id) : Spares P id r r' := by
  cases h with
  | tick => exact .of_capabilities (Nat.le_succ _) rfl
  | keep => exact .of_capabilities le_rfl rfl
  | pair => exact .of_capabilities le_rfl rfl
  | pass => exact .of_capabilities le_rfl rfl
  | @register grant hnames verifiedAt registeredAt =>
      have hne : grant.capabilityId ≠ id := by
        rintro rfl
        exact hid hnames
      exact ⟨le_rfl, registered_register_of_ne hne _ _⟩
  | @revoke id' hnames now window =>
      have hne : id' ≠ id := by
        rintro rfl
        exact hid hnames
      exact ⟨le_rfl, registered_revokeWithOverlap_of_ne hne _ _⟩
  | consume nonceB64 now => exact ⟨le_rfl, registered_consumeNonce _ _⟩

theorem Action.readings_le (h : Action P runtime names r r') : r.readings ≤ r'.readings := by
  cases h with
  | tick => exact Nat.le_succ _
  | _ => exact le_rfl

variable (P runtime clock) in
theorem readings_route (request : RelayRequest) (r : Relay) :
    r.readings ≤ (after ((route P runtime clock request).run r)).readings :=
  (actions_route request).invariant (motive := fun r' => r.readings ≤ r'.readings)
    (fun _ _ h haction => h.trans haction.readings_le) le_rfl

theorem kept_route (request : RelayRequest) (hkept : Kept r) :
    Kept (after ((route P runtime clock request).run r)) :=
  (actions_route request).invariant (fun _ _ hkept haction => Action.kept haction hkept) hkept

theorem spares_route {request : RelayRequest} (h : ¬ Names P request id) (r : Relay) :
    Spares P id r (after ((route P runtime clock request).run r)) := by
  refine .of_steps ?_
  exact ((actions_route request).mono fun _ _ haction => haction.spares h) r

end Actions

/-! ### Events of others -/

variable (clock) in
/-- The capabilities of a relay are left by a sweep. -/
theorem sweep_capabilities (r : Relay) :
    r.readings ≤ (after ((sweepExpired clock).run r)).readings
      ∧ (after ((sweepExpired clock).run r)).capabilities = r.capabilities := by
  let S : Relay → Relay → Prop := fun r r' =>
    r.readings ≤ r'.readings ∧ r'.capabilities = r.capabilities
  have htick : Steps S (tick clock : BodyM Int) := fun r => .single ⟨Nat.le_succ _, rfl⟩
  have hsteps : Steps S (sweepExpired clock) := by
    refine htick.bind fun _ => Steps.bind ?_ fun _ => htick.bind fun _ =>
      Steps.bind ?_ fun _ => .pure _
    · exact .onPart fun r => ⟨le_rfl, rfl⟩
    · exact .onPart fun r => ⟨le_rfl, rfl⟩
  refine hsteps.invariant (motive := fun r' =>
    r.readings ≤ r'.readings ∧ r'.capabilities = r.capabilities) ?_ ⟨le_rfl, rfl⟩
  intro r' r'' h hstep
  exact ⟨h.1.trans hstep.1, hstep.2.trans h.2⟩

/-- A restart does not shorten the overlap window. -/
def KeepsWindow : RelayEvent → Prop
  | .restart overlapWindowMs => defaultCapabilityTtlMs ≤ overlapWindowMs
  | _ => True

/-- An event that neither registers nor revokes an id. -/
def Foreign (P : Packages) (id : Bytes) : RelayEvent → Prop
  | .request request => ¬ Names P request id
  | _ => True

theorem kept_step {r : Relay} {event : RelayEvent} (h : KeepsWindow event) (hkept : Kept r) :
    Kept (step P runtime clock r event).2 := by
  cases event with
  | request request => exact kept_route request hkept
  | sweep =>
      obtain ⟨-, hsame⟩ := sweep_capabilities clock r
      exact ⟨hsame ▸ hkept.saved, hsame ▸ hkept.wide⟩
  | restart overlapWindowMs => exact ⟨saved_load overlapWindowMs _, wide_load hkept.wide h⟩

theorem spares_step {id : Bytes} {r : Relay} {event : RelayEvent} (h : Foreign P id event)
    (hkept : Kept r) : Spares P id r (step P runtime clock r event).2 := by
  cases event with
  | request request => exact spares_route h r
  | sweep =>
      obtain ⟨hreadings, hsame⟩ := sweep_capabilities clock r
      exact .of_capabilities hreadings hsame
  | restart overlapWindowMs =>
      -- the file has what is in use, as every change has been saved
      refine ⟨le_rfl, registered_congr ?_⟩
      show (load overlapWindowMs r.capabilities.file).record id = _
      rw [CapabilityGrantStore.record, hkept.saved.active_load overlapWindowMs,
        CapabilityGrantStore.record]

/-! ### What issuing does -/

section Issuing

variable {request : CapabilityIssueRequest} {grant : CapabilityGrant} {r : Relay}

/-- The fields of a grant that is issued. -/
structure IssuedFor (request : CapabilityIssueRequest) (now : Int) (grant : CapabilityGrant) :
    Prop where
  capabilityId : b64decode request.capabilityId = .ok grant.capabilityId
  authPublic : b64decode request.authPublic = .ok grant.authPublic
  capabilityGeneration : grant.capabilityGeneration = request.capabilityGeneration
  permissions : grant.permissions = request.permissions
  expiresAt : grant.expiresAt = now + defaultCapabilityTtlMs

theorem issuedFor_of_issuedGrant {now : Int}
    (h : issuedGrant P runtime request now = .ok grant) : IssuedFor request now grant := by
  obtain ⟨fields, hfields, hgrant⟩ := issuedGrant_fields h
  unfold issueFields at hfields
  obtain ⟨authPublic, hpublic, hfields⟩ := bind_ok.mp hfields
  obtain ⟨capabilityId, hid, hfields⟩ := bind_ok.mp hfields
  obtain ⟨issuanceSalt, -, hfields⟩ := bind_ok.mp hfields
  by_cases hlength : capabilityId.length ≠ 16
  · rw [if_pos hlength] at hfields
    cases hfields
  rw [if_neg hlength] at hfields
  by_cases hsalt : issuanceSalt.length ≠ 16
  · rw [if_pos hsalt] at hfields
    cases hfields
  rw [if_neg hsalt] at hfields
  obtain ⟨relayPrivate, -, hfields⟩ := bind_ok.mp hfields
  obtain rfl := Except.ok.inj hfields
  unfold grantOf issueCapabilityGrant at hgrant
  split_ifs at hgrant
  cases hgrant
  exact ⟨hid, hpublic, rfl, rfl, rfl⟩

/-- What a relay signed once it takes until the grant expires. -/
theorem verified_until {t now : Int} (h : Verified P runtime grant t)
    (hlive : now < grant.expiresAt) : Verified P runtime grant now := by
  unfold Verified verifyCapabilityGrant at h ⊢
  split_ifs at h with hexpired hname hpin
  rw [if_neg (Int.not_le.mpr hlive), if_neg hname, if_neg hpin]
  exact h

/-- What the route does to the grants: nothing, the teardown of the superseded id alone, or both
the teardown and the registration of the grant that it answers with. -/
inductive IssueOutcome (P : Packages) (runtime : RelayRuntime) (clock : Nat → Int)
    (request : CapabilityIssueRequest) (r : Relay) :
    EStateM.Result HttpException Relay RelayResponse → Prop
  | kept {e : HttpException} {r' : Relay} (h : r'.capabilities = r.capabilities) :
      IssueOutcome P runtime clock request r (.error e r')
  | torn {e : HttpException} {r' : Relay} {id : Bytes} {j : Nat} (hj : r.readings ≤ j)
      (h : r'.capabilities = superseded id (clock j) r.capabilities) :
      IssueOutcome P runtime clock request r (.error e r')
  | issued {r' : Relay} {grant : CapabilityGrant} {n : Nat} {verifiedAt registeredAt : Int}
      (torn : CapabilityGrantStore) (hn : r.readings ≤ n) (hlast : n < r'.readings)
      (hgrant : IssuedFor request (clock n) grant) (hverified : Verified P runtime grant verifiedAt)
      (htorn : torn = r.capabilities
        ∨ ∃ id, torn = superseded id (clock (n + 1)) r.capabilities)
      (h : r'.capabilities = accept P grant registeredAt torn) :
      IssueOutcome P runtime clock request r
        (.ok { statusCode := 201
               content := .object [("status", "issued"), ("grant", grant.toB64 P)] } r')

variable (clock) in
theorem tornDown_capabilities (superseded : Option Bytes) (r : Relay) :
    (tornDown clock superseded r).capabilities = r.capabilities
      ∨ ∃ id, (tornDown clock superseded r).capabilities
        = CapabilityGrantStore.superseded id (clock (r.readings + 1)) r.capabilities := by
  cases superseded with
  | none => exact Or.inl rfl
  | some id => exact Or.inr ⟨id, rfl⟩

variable (clock) in
theorem readings_tornDown (superseded : Option Bytes) (r : Relay) :
    r.readings < (tornDown clock superseded r).readings := by
  cases superseded with
  | none => exact Nat.lt_succ_self _
  | some id => exact Nat.lt_add_of_pos_right (by decide)

theorem issueCapability_outcome (request : CapabilityIssueRequest) (r : Relay) :
    IssueOutcome P runtime clock request r ((issueCapability P runtime clock request).run r) := by
  by_cases hticketed : ∃ n, Ticketed P runtime clock request r n
  case neg =>
    obtain ⟨e, r', hrun, hsame⟩ := issueCapability_unticketed fun n hn => hticketed ⟨n, hn⟩
    rw [hrun]
    exact .kept hsame
  obtain ⟨n, hn⟩ := hticketed
  have hreadings : r.readings ≤ n := by
    have hsteps : Steps (Quiet clock) (checkBootstrapTicket P runtime clock request.ticket) :=
      steps_checkBootstrapTicket request.ticket
    have hquiet := Quiet.of_steps (hsteps r)
    rw [hn.2] at hquiet
    exact hquiet.readings
  rw [issueCapability_ticketed hn]
  cases hissued : issuedGrant P runtime request (clock n) with
  | error e =>
      obtain ⟨r', hrun, m, rfl⟩ := issueGrant_refused (r := { r with readings := n }) hissued
      rw [hrun]
      exact .kept rfl
  | ok grant =>
      cases hid : supersededId request with
      | error e =>
          rw [issueGrant_misnamed (r := { r with readings := n }) hissued hid]
          exact .kept rfl
      | ok superseded =>
          rw [issueGrant_issued (r := { r with readings := n }) hissued hid]
          have htorn := tornDown_capabilities clock superseded { r with readings := n }
          have hlast := readings_tornDown clock superseded { r with readings := n }
          -- the teardown comes first and stays, also when the registration is refused
          generalize tornDown clock superseded { r with readings := n } = t at htorn hlast
          by_cases hregisters : Registers P runtime grant (clock t.readings) t.capabilities
          · rw [registerGrant_ok hregisters.1 hregisters.2]
            exact .issued t.capabilities hreadings
              (hlast.trans (Nat.lt_add_of_pos_right (by decide)))
              (issuedFor_of_issuedGrant hissued) hregisters.1 htorn rfl
          · obtain ⟨e, r', hrun, hkept⟩ := registerGrant_refused P runtime clock grant t hregisters
            rw [hrun]
            rcases htorn with hsame | ⟨id, htorn⟩
            · exact .kept (hkept.trans hsame)
            · exact .torn (hreadings.trans (Nat.le_succ n)) (hkept.trans htorn)

end Issuing

/-! ### Grants that are honoured -/

/-- The relay takes a grant until it expires. -/
structure Honoured (P : Packages) (runtime : RelayRuntime) (clock : Nat → Int)
    (grant : CapabilityGrant) (r : Relay) : Prop where
  verified : ∀ now < grant.expiresAt, Verified P runtime grant now
  issued : ∃ j < r.readings, grant.expiresAt ≤ clock j + defaultCapabilityTtlMs
  registered : ∃ reg, registered P r.capabilities grant.capabilityId = some reg
    ∧ reg.grant.capabilityGeneration = grant.capabilityGeneration
    ∧ ∀ ended ∈ reg.overlapUntilMs, grant.expiresAt ≤ ended

section Honoured

variable {grant : CapabilityGrant} {r r' : Relay}

theorem honoured_spares (h : Honoured P runtime clock grant r)
    (hspares : Spares P grant.capabilityId r r') : Honoured P runtime clock grant r' where
  verified := h.verified
  issued := by
    obtain ⟨j, hj, hexpires⟩ := h.issued
    exact ⟨j, hj.trans_le hspares.readings, hexpires⟩
  registered := by
    rw [hspares.registered]
    exact h.registered

theorem after_supersede (id : Bytes) (now : Int) (s : CapabilityGrantStore) :
    superseded id now s = after ((revokeWithOverlap id now none).run s) := by
  rw [run_supersede]
  rfl

/-- A teardown gives every grant the time it has left. -/
theorem registered_torn (hclock : Monotone clock) (h : Honoured P runtime clock grant r)
    (hwide : Wide r.capabilities) {id : Bytes} {j : Nat} (hj : r.readings ≤ j) :
    ∃ reg, registered P (superseded id (clock j) r.capabilities) grant.capabilityId = some reg
      ∧ reg.grant.capabilityGeneration = grant.capabilityGeneration
      ∧ ∀ ended ∈ reg.overlapUntilMs, grant.expiresAt ≤ ended := by
  obtain ⟨reg, hreg, hgeneration, hends⟩ := h.registered
  obtain ⟨s', hrun, -, -, hothers, hself⟩ :=
    run_revokeWithOverlap P r.capabilities id (clock j) none
  rw [after_supersede, hrun]
  by_cases hid : id = grant.capabilityId
  · subst hid
    refine ⟨_, hself.trans (congrArg _ hreg), hgeneration, fun ended hended => ?_⟩
    obtain rfl := Option.some.inj hended
    -- the window opens after the grant was issued, and is as long as a grant lives
    obtain ⟨i, hi, hexpires⟩ := h.issued
    have htime : clock i ≤ clock j := hclock (hi.le.trans hj)
    have hwindow : defaultCapabilityTtlMs ≤ r.capabilities.overlapWindowMs := hwide.1
    show grant.expiresAt ≤ clock j + r.capabilities.overlapWindowMs
    omega
  · exact ⟨reg, (hothers _ hid).trans hreg, hgeneration, hends⟩

end Honoured

section Outcome

variable {request : CapabilityIssueRequest} {grant : CapabilityGrant} {r : Relay}
  {result : EStateM.Result HttpException Relay RelayResponse}

/-- Issuing a grant honours the ones before, as long as no other generation has its id. -/
theorem honoured_outcome (hcbor : P.CborLaws) (hclock : Monotone clock)
    (h : Honoured P runtime clock grant r) (hwide : Wide r.capabilities)
    (houtcome : IssueOutcome P runtime clock request r result)
    (hreadings : r.readings ≤ (after result).readings)
    (hid : b64decode request.capabilityId = .ok grant.capabilityId →
      request.capabilityGeneration = grant.capabilityGeneration) :
    Honoured P runtime clock grant (after result) := by
  refine ⟨h.verified, ?_, ?_⟩
  · obtain ⟨j, hj, hexpires⟩ := h.issued
    exact ⟨j, hj.trans_le hreadings, hexpires⟩
  cases houtcome with
  | @kept e r' hsame =>
      show ∃ reg, registered P r'.capabilities _ = some reg ∧ _
      rw [hsame]
      exact h.registered
  | @torn e r' id j hj htorn =>
      show ∃ reg, registered P r'.capabilities _ = some reg ∧ _
      rw [htorn]
      exact registered_torn hclock h hwide hj
  | @issued r' g n verifiedAt registeredAt torn hn hlast hgrant hverified htorn haccepted =>
      show ∃ reg, registered P r'.capabilities _ = some reg ∧ _
      rw [haccepted]
      by_cases hsame : g.capabilityId = grant.capabilityId
      · -- the id is issued again, for the same generation: the new grant has no end
        have hdecoded : b64decode request.capabilityId = .ok grant.capabilityId :=
          hsame ▸ hgrant.capabilityId
        refine ⟨{ grant := g }, ?_, hgrant.capabilityGeneration.trans (hid hdecoded), ?_⟩
        · rw [← hsame]
          exact registered_accept_self hcbor registeredAt
        · intro ended hended
          cases hended
      · rw [registered_accept_of_ne hsame]
        rcases htorn with rfl | ⟨id, rfl⟩
        · exact h.registered
        · exact registered_torn hclock h hwide (hn.trans (Nat.le_succ n))

/-- The grant that is answered is honoured. -/
theorem honoured_issued (hcbor : P.CborLaws) {response : RelayResponse} {r' : Relay}
    (houtcome : IssueOutcome P runtime clock request r (.ok response r')) :
    ∃ grant : CapabilityGrant, response.statusCode = 201
      ∧ response.content = .object [("status", "issued"), ("grant", grant.toB64 P)]
      ∧ b64decode request.authPublic = .ok grant.authPublic
      ∧ grant.permissions = request.permissions
      ∧ (∃ n, r.readings ≤ n ∧ n < r'.readings
        ∧ grant.expiresAt = clock n + defaultCapabilityTtlMs)
      ∧ Honoured P runtime clock grant r' := by
  cases houtcome with
  | @issued r' g n verifiedAt registeredAt torn hn hlast hgrant hverified htorn haccepted =>
      refine ⟨g, rfl, rfl, hgrant.authPublic, hgrant.permissions, ⟨n, hn, hlast, hgrant.expiresAt⟩,
        ?_⟩
      refine ⟨fun now hlive => verified_until hverified hlive, ⟨n, hlast, hgrant.expiresAt.le⟩,
        { grant := g }, ?_, rfl, ?_⟩
      · rw [haccepted]
        exact registered_accept_self hcbor registeredAt
      · intro ended hended
        cases hended

end Outcome

end Relay

end Yakr
