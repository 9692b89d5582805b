import Yakr.Relay.Check

/-!
# Yakr.Relay.Routes

**What the routes leave alone.** A quiet step writes no blob, passes no check and forgets a
nonce only after its ten minutes. Every route is quiet but the three that reach the blobs,
and so is a capability check that fails.
-/

namespace Yakr

open Lib Effect

variable {P : Packages} {runtime : RelayRuntime} {clock : Nat → Int}

/-! ### The calls of the capability store -/

namespace CapabilityGrantStore

/-- The call keeps the nonces, in memory and in the file. -/
def KeepsNonces (m : EStateM PyExc CapabilityGrantStore Unit) : Prop :=
  ∀ s, (after (m.run s)).seenNonces = s.seenNonces ∧ (Saved s → Saved (after (m.run s)))

theorem keepsNonces_register (grant : CapabilityGrant) (verifiedAt registeredAt : Int) :
    KeepsNonces (register P grant runtime.relayIssuancePublic runtime.name
      runtime.relayTlsSpkiSha256 verifiedAt registeredAt) := by
  intro s
  by_cases h : Verified P runtime grant verifiedAt ∧ Newest P s grant
  · rw [run_register registeredAt h.1 h.2]
    exact ⟨rfl, fun _ => saved_save _⟩
  · obtain ⟨e, hrun⟩ := run_register_refused registeredAt h
    rw [hrun]
    exact ⟨rfl, id⟩

theorem keepsNonces_revokeWithOverlap (id : Bytes) (now : Int) (window : Option Int) :
    KeepsNonces (revokeWithOverlap id now window) := by
  intro s
  obtain ⟨s', hrun, hnonces, hsaved, -⟩ := run_revokeWithOverlap plainPackages s id now window
  rw [hrun]
  exact ⟨hnonces, hsaved⟩

end CapabilityGrantStore

namespace Relay

open CapabilityGrantStore

/-- No check passes, and no nonce is forgotten before its time. -/
structure Calm (clock : Nat → Int) (r r' : Relay) : Prop where
  passed : r'.passed = r.passed
  readings : r.readings ≤ r'.readings
  saved : Saved r.capabilities → Saved r'.capabilities
  remembers : ∀ seen ∈ r.capabilities.seenNonces, seen ∈ r'.capabilities.seenNonces
    ∨ ∃ j < r'.readings, 10 * 60 * 1000 < clock j - seen.2

/-- Nor does a blob come or go. -/
structure Quiet (clock : Nat → Int) (r r' : Relay) : Prop extends Calm clock r r' where
  blobs : r'.blobs = r.blobs

namespace Calm

variable {r r' r'' : Relay}

theorem refl (r : Relay) : Calm clock r r where
  passed := rfl
  readings := le_rfl
  saved := id
  remembers _ h := .inl h

theorem trans (h : Calm clock r r') (h' : Calm clock r' r'') : Calm clock r r'' where
  passed := h'.passed.trans h.passed
  readings := h.readings.trans h'.readings
  saved hsaved := h'.saved (h.saved hsaved)
  remembers seen hseen := by
    rcases h.remembers seen hseen with hkept | ⟨j, hj, hlate⟩
    · exact h'.remembers seen hkept
    · exact .inr ⟨j, hj.trans_le h'.readings, hlate⟩

theorem of_steps (h : Relation.ReflTransGen (Calm clock) r r') : Calm clock r r' := by
  induction h with
  | refl => exact .refl r
  | tail _ hstep ih => exact ih.trans hstep

/-- Only the grants may differ. -/
theorem of_capabilities {capabilities : CapabilityGrantStore}
    (hnonces : capabilities.seenNonces = r.capabilities.seenNonces)
    (hsaved : Saved r.capabilities → Saved capabilities) :
    Calm clock r { r with capabilities := capabilities } where
  passed := rfl
  readings := le_rfl
  saved := hsaved
  remembers _ hseen := .inl (hnonces ▸ hseen)

end Calm

theorem Quiet.of_steps {r r' : Relay} (h : Relation.ReflTransGen (Quiet clock) r r') :
    Quiet clock r r' := by
  induction h with
  | refl => exact { Calm.refl r with blobs := rfl }
  | tail _ hstep ih =>
      exact { ih.toCalm.trans hstep.toCalm with blobs := hstep.blobs.trans ih.blobs }

/-! ### The parts of the routes -/

theorem steps_tick {ε : Type} : Steps (Quiet clock) (tick clock : EStateM ε Relay Int) := fun r =>
  .single
    { blobs := rfl
      passed := rfl
      readings := Nat.le_succ r.readings
      saved := id
      remembers := fun _ h => .inl h }

theorem steps_onPairing {α : Type} (m : EStateM PyExc PairingStore α) :
    Steps (Quiet clock) (onPairing m) :=
  .onPart fun _ =>
    { blobs := rfl
      passed := rfl
      readings := le_rfl
      saved := id
      remembers := fun _ h => .inl h }

theorem steps_onCapabilities {m : EStateM PyExc CapabilityGrantStore Unit} (h : KeepsNonces m) :
    Steps (Quiet clock) (onCapabilities m) :=
  .onPart fun r =>
    { Calm.of_capabilities (r := r) (h r.capabilities).1 (h r.capabilities).2 with blobs := rfl }

theorem steps_rescue {α : Type} {S : Relay → Relay → Prop} {body : BodyM α}
    {handler : PyExc → HttpException} (h : Steps S body) : Steps S (rescue body handler) := by
  intro r
  have hafter : after ((rescue body handler).run r) = after (body.run r) := by
    cases hbody : body.run r with
    | ok a r' =>
        rw [run_rescue_ok.mpr hbody]
        rfl
    | error e r' =>
        rw [run_rescue_error.mpr ⟨e, hbody, rfl⟩]
        rfl
  rw [hafter]
  exact h r

/-! ### Tickets -/

theorem steps_verifyTicket (ticket : RelayTicket) (permission : String) :
    Steps (Quiet clock) (verifyTicket P runtime clock ticket permission) :=
  .bind steps_tick fun _ => .orRaise _

theorem steps_verifyAny (ticket : RelayTicket) (permissions : List String) :
    Steps (Quiet clock) (verifyAny P runtime clock ticket permissions) := by
  induction permissions with
  | nil => exact .raise _
  | cons permission permissions ih =>
      refine .tryCatch (steps_verifyTicket ticket permission) fun e => ?_
      exact .ite _ ih (.raise e)

theorem steps_checkBootstrapTicket (ticketB64 : Option String) :
    Steps (Quiet clock) (checkBootstrapTicket P runtime clock ticketB64) := by
  cases ticketB64 with
  | none => exact .raise _
  | some ticketB64 =>
      exact steps_rescue (.bind (.orRaise _) fun ticket => steps_verifyAny ticket _)

theorem steps_checkTicket (ticketB64 : Option String) (permission : String) :
    Steps (Quiet clock) (checkTicket P runtime clock ticketB64 permission) := by
  refine .ite _ (.pure _) ?_
  cases ticketB64 with
  | none => exact .raise _
  | some ticketB64 =>
      exact steps_rescue (.bind (.orRaise _) fun ticket => steps_verifyTicket ticket permission)

/-! ### The routes that reach no blob -/

theorem steps_registerGrant (grant : CapabilityGrant) :
    Steps (Quiet clock) (registerGrant P runtime clock grant) :=
  .bind steps_tick fun verifiedAt => .bind steps_tick fun registeredAt =>
    steps_onCapabilities (keepsNonces_register grant verifiedAt registeredAt)

theorem steps_supersede (capabilityId : Bytes) :
    Steps (Quiet clock) (supersede clock capabilityId) :=
  .bind steps_tick fun now =>
    steps_onCapabilities (keepsNonces_revokeWithOverlap capabilityId now none)

theorem steps_issueGrant (request : CapabilityIssueRequest) :
    Steps (Quiet clock) (issueGrant P runtime clock request) := by
  refine .bind (.orRaise _) fun authPublic => .bind (.orRaise _) fun capabilityId =>
    .bind (.orRaise _) fun issuanceSalt => ?_
  refine .guard (.guard (.bind (.orRaise _) fun relayPrivate => .bind steps_tick fun now =>
    .bind (.orRaise _) fun grant => ?_))
  have hregister : Steps (Quiet clock) (do registerGrant P runtime clock grant; return grant) :=
    .bind (steps_registerGrant grant) fun _ => .pure grant
  cases request.supersedesCapabilityId with
  | none => exact hregister
  | some superseded =>
      exact .ite _ (.bind (.orRaise _) fun id => .bind (steps_supersede id) fun _ => hregister)
        hregister

theorem steps_issueCapability (request : CapabilityIssueRequest) :
    Steps (Quiet clock) (issueCapability P runtime clock request) := by
  rw [issueCapability]
  refine .guard ?_
  exact .bind (steps_checkBootstrapTicket request.ticket) fun _ =>
    .bind (steps_rescue (steps_issueGrant request)) fun _ => .pure _

theorem steps_registerCapability (grantB64 : String) :
    Steps (Quiet clock) (registerCapability P runtime clock grantB64) := by
  rw [registerCapability]
  refine .guard ?_
  refine .bind (steps_rescue ?_) fun _ => .pure _
  exact .bind (.orRaise _) fun grant => .bind (steps_registerGrant grant) fun _ => .pure _

theorem steps_revokeCapability (capabilityId ticket : String) :
    Steps (Quiet clock) (revokeCapability P runtime clock capabilityId ticket) := by
  refine .bind (steps_checkBootstrapTicket _) fun _ => .bind (steps_rescue ?_) fun _ => .pure _
  exact .bind (.orRaise _) fun id => .guard (.bind steps_tick fun now =>
    steps_onCapabilities (keepsNonces_revokeWithOverlap id now (some 0)))

theorem steps_readBlobs {ε : Type} (mailboxTag : Bytes) :
    Steps (Quiet clock) (readBlobs clock mailboxTag : EStateM ε Relay (List StoredBlob)) :=
  .bind steps_tick fun _ => .bind .get fun _ => .pure _

theorem steps_decodeTag (mailboxTag : String) : Steps (Quiet clock) (decodeTag mailboxTag) :=
  steps_rescue (.orRaise _)

theorem steps_fetchBlobsLegacy (mailboxTag : String) :
    Steps (Quiet clock) (fetchBlobsLegacy clock mailboxTag) :=
  .bind (steps_decodeTag mailboxTag) fun tagBytes => .bind (steps_readBlobs tagBytes) fun _ =>
    .pure _

theorem steps_collectBlobs (mailboxTags : List String) (items : List BlobResponse) :
    Steps (Quiet clock) (collectBlobs clock mailboxTags items) := by
  induction mailboxTags generalizing items with
  | nil => exact .pure items
  | cons mailboxTag mailboxTags ih =>
      exact .bind (steps_decodeTag mailboxTag) fun tagBytes =>
        .bind (steps_readBlobs tagBytes) fun _ => ih _

theorem steps_relayPacket (packet : String) (ticket : Option String)
    (forwarded : Except PyExc (Nat × String)) :
    Steps (Quiet clock) (relayPacket P runtime clock packet ticket forwarded) := by
  rw [relayPacket]
  refine .guard ?_
  refine .bind (steps_checkTicket ticket "forward") fun _ => ?_
  cases runtime.wrapSecret with
  | none => exact .raise _
  | some wrapSecret =>
      refine .bind (steps_rescue (.bind (.orRaise _) fun _ => .orRaise _)) fun next => ?_
      cases forwarded with
      | error e => exact .raise _
      | ok response => exact .guard (.pure _)

theorem steps_pairRegister (inviteSecret : String) :
    Steps (Quiet clock) (pairRegister P clock inviteSecret) := by
  refine .bind (steps_rescue ?_) fun _ => .pure _
  exact .bind (.orRaise _) fun _ => .bind steps_tick fun _ => steps_onPairing _

theorem steps_pairStoreRequest (request : String) :
    Steps (Quiet clock) (pairStoreRequest P clock request) := by
  refine .bind (steps_rescue ?_) fun _ => .pure _
  exact .bind (.orRaise _) fun _ => .bind (.orRaise _) fun _ => .bind steps_tick fun _ =>
    steps_onPairing _

theorem steps_pairPending (inviteTag : String) : Steps (Quiet clock) (pairPending inviteTag) := by
  refine .bind .get fun r => ?_
  cases r.pairing.getPendingRequest inviteTag with
  | none => exact .raise _
  | some pending => exact .pure _

theorem steps_pairStoreResponse (inviteSecret response : String) :
    Steps (Quiet clock) (pairStoreResponse P inviteSecret response) := by
  refine .bind (steps_rescue ?_) fun _ => .pure _
  exact .bind (.orRaise _) fun _ => .bind (.orRaise _) fun _ => steps_onPairing _

theorem steps_pairFetchResponse (inviteTag : String) :
    Steps (Quiet clock) (pairFetchResponse inviteTag) := by
  refine .bind .get fun r => ?_
  cases r.pairing.getResponse inviteTag with
  | none => exact .raise _
  | some response => exact .pure _

/-! ### The capability check -/

/-- A nonce that is refused has pruned the others. -/
theorem quiet_consumeNonce {nonceB64 : String} {r r' : Relay} {e : PyExc} {j : Nat}
    (hj : j < r.readings)
    (h : (onCapabilities (CapabilityGrantStore.consumeNonce nonceB64 (clock j))).run r
      = .error e r') : Quiet clock r r' := by
  have hr' : r' = { r with capabilities := pruneNonces (clock j) r.capabilities } := by
    obtain ⟨s, hrun, rfl⟩ := run_onPart_error.mp h
    simp only [CapabilityGrantStore.consumeNonce, run_modify_bind, run_get_bind, run_ite] at hrun
    split at hrun
    · cases hrun
      rfl
    · cases hrun
  subst hr'
  exact
    { blobs := rfl
      passed := rfl
      readings := le_rfl
      saved := fun hsaved => hsaved.pruneNonces _
      remembers := fun seen hseen => by
        by_cases hlate : clock j - seen.2 ≤ 10 * 60 * 1000
        · exact .inl (List.mem_filter.mpr ⟨hseen, decide_eq_true hlate⟩)
        · exact .inr ⟨j, hj, Int.not_le.mp hlate⟩ }

theorem raises_consume {nonceB64 : String} (f : Int → Relay → Relay) :
    Raises (Quiet clock) (do
      let now ← tick clock
      onCapabilities (CapabilityGrantStore.consumeNonce nonceB64 now)
      modify (f now)) := by
  intro r e r' hrun
  rw [run_tick_bind, EStateM.run_bind] at hrun
  split at hrun
  · cases hrun
  · rename_i e' r'' hconsume
    cases hrun
    exact (steps_tick (ε := PyExc) r).tail (quiet_consumeNonce (Nat.lt_succ_self _) hconsume)

/-- A check that fails is quiet. -/
theorem raises_verifyCapability {permission method path : String} {body : Bytes}
    {grantB64 timestampRaw nonceB64 signatureB64 : String} :
    Raises (Quiet clock) (verifyCapability P runtime clock permission method path body grantB64
      timestampRaw nonceB64 signatureB64) := by
  rw [verifyCapability]
  refine .bind (.orRaise _) fun grant => .bind steps_tick fun _ => .bind (.orRaise _) fun _ =>
    .bind steps_tick fun _ => .bind .get fun _ => .bind (.orRaise _) fun registered => ?_
  refine .guard (.guard ?_)
  refine .bind (.orRaise _) fun signature => .bind (.orRaise _) fun timestampMs =>
    .bind (.orRaise _) fun nonce => .bind steps_tick fun _ => .bind (.orRaise _) fun _ => ?_
  exact raises_consume _

theorem raises_rescue {α : Type} {S : Relay → Relay → Prop} {body : BodyM α}
    {handler : PyExc → HttpException} (h : Raises S body) : Raises S (rescue body handler) := by
  intro r e r' hrun
  obtain ⟨e', hbody, -⟩ := run_rescue_error.mp hrun
  exact h r e' r' hbody

theorem raises_checkCapability {http : SignedHttp} {permission method path : String} :
    Raises (Quiet clock) (checkCapability P runtime clock http permission method path) := by
  rw [checkCapability]
  refine .ite _ (.of_steps (.pure _)) (.guard ?_)
  split
  · exact .guard (raises_rescue raises_verifyCapability)
  · exact .of_steps (.raise _)

/-! ### The routes that reach the blobs -/

theorem calm_onBlobs {α : Type} (m : EStateM PyExc BlobStore α) :
    Steps (Calm clock) (onBlobs m) :=
  .onPart fun _ =>
    { passed := rfl
      readings := le_rfl
      saved := id
      remembers := fun _ h => .inl h }

theorem calm_keepBlob (mailboxTag : Bytes) (expiresAt : Int) (ciphertext : Bytes) :
    Steps (Calm clock) (keepBlob clock mailboxTag expiresAt ciphertext) :=
  .bind (steps_tick.mono fun _ _ h => h.toCalm) fun _ => calm_onBlobs _

theorem calm_ingestPacket (inner : String) (ticket : Option String) :
    Steps (Calm clock) (ingestPacket P runtime clock inner ticket) := by
  rw [ingestPacket]
  refine .guard ?_
  refine .bind ((steps_checkTicket ticket "store").mono fun _ _ h => h.toCalm) fun _ => ?_
  cases runtime.wrapSecret with
  | none => exact .raise _
  | some wrapSecret =>
      refine .bind (steps_rescue ?_) fun _ => .pure _
      exact .bind (.orRaise _) fun _ => .bind (.orRaise _) fun outer => calm_keepBlob _ _ _

theorem calm_sweepExpired : Steps (Calm clock) (sweepExpired clock) :=
  .bind (steps_tick.mono fun _ _ h => h.toCalm) fun _ => .bind (calm_onBlobs _) fun _ =>
    .bind (steps_tick.mono fun _ _ h => h.toCalm) fun _ =>
      .bind ((steps_onPairing _).mono fun _ _ h => h.toCalm) fun _ => .pure _

/-- What comes after a passed check. -/
theorem authorized_of_passes (hrequired : runtime.requireCapabilities = true) {http : SignedHttp}
    {permission method path : String} {ticket : Option String} {α : Type} {k : Unit → RouteM α}
    {S : Relay → Relay → Prop} (hk : Steps S (k ())) {r r₁ : Relay} {check : PassedCheck}
    (hpasses : Passes P runtime clock r http permission method path check r₁) :
    Relation.ReflTransGen S r₁
      (after ((authorizeRequest P runtime clock http permission method path ticket >>= k).run
        r)) := by
  rw [authorizeRequest, if_pos hrequired, EStateM.run_bind,
    (checkCapability_iff hrequired).mpr ⟨check, hpasses⟩]
  exact hk r₁

/-- What comes after an authorization comes after a passed check. -/
theorem authorized_cases (hrequired : runtime.requireCapabilities = true) {http : SignedHttp}
    {permission method path : String} {ticket : Option String} {α : Type} {k : Unit → RouteM α}
    {S : Relay → Relay → Prop} (hk : Steps S (k ())) (r : Relay) :
    (∃ e r', (authorizeRequest P runtime clock http permission method path ticket >>= k).run r
        = .error e r' ∧ Quiet clock r r')
      ∨ ∃ check r₁, Passes P runtime clock r http permission method path check r₁
        ∧ Relation.ReflTransGen S r₁
          (after ((authorizeRequest P runtime clock http permission method path ticket >>= k).run
            r)) := by
  cases hrun : (checkCapability P runtime clock http permission method path).run r with
  | error e r' =>
      refine .inl ⟨e, r', ?_, .of_steps (raises_checkCapability r e r' hrun)⟩
      rw [authorizeRequest, if_pos hrequired, EStateM.run_bind, hrun]
  | ok u r₁ =>
      obtain ⟨check, hpasses⟩ := (checkCapability_iff hrequired).mp hrun
      exact .inr ⟨check, r₁, hpasses, authorized_of_passes hrequired hk hpasses⟩

/-- A store that is authorized changes the blobs only. -/
theorem storeBlob_of_passes (hrequired : runtime.requireCapabilities = true)
    (hrole : runtime.role ≠ .entry) {http : SignedHttp} {payload : BlobStoreRequest} {r r₁ : Relay}
    {check : PassedCheck}
    (hpasses : Passes P runtime clock r http "store" "POST" "/v1/blobs" check r₁) :
    (step P runtime clock r (.request (.storeBlob http payload))).2.capabilities = r₁.capabilities
      ∧ (step P runtime clock r (.request (.storeBlob http payload))).2.passed = r₁.passed := by
  let S : Relay → Relay → Prop := fun r r' =>
    (r'.capabilities, r'.passed) = (r.capabilities, r.passed)
  have htick : Steps S (tick clock : BodyM Int) := fun r => .single rfl
  have hsteps : Relation.ReflTransGen S r₁
      (after ((storeBlob P runtime clock http payload).run r)) := by
    rw [storeBlob, run_ite, if_neg hrole]
    refine authorized_of_passes hrequired ?_ hpasses
    refine .bind (steps_rescue ?_) fun _ => .pure _
    exact .bind (.orRaise _) fun _ => .bind (.orRaise _) fun _ => .bind htick fun _ =>
      .onPart fun r => rfl
  exact Prod.mk.inj (eq_of_steps hsteps)

theorem storeBlob_cases (P : Packages) (clock : Nat → Int)
    (hrequired : runtime.requireCapabilities = true) (http : SignedHttp)
    (payload : BlobStoreRequest) (r : Relay) :
    (∃ e r', (storeBlob P runtime clock http payload).run r = .error e r' ∧ Quiet clock r r')
      ∨ ∃ check r₁, Passes P runtime clock r http "store" "POST" "/v1/blobs" check r₁
        ∧ Calm clock r₁ (after ((storeBlob P runtime clock http payload).run r)) := by
  rw [storeBlob, run_ite]
  split
  · exact .inl ⟨_, r, rfl, { Calm.refl r with blobs := rfl }⟩
  · refine Or.imp_right (fun ⟨check, r₁, hpasses, hsteps⟩ => ⟨check, r₁, hpasses, .of_steps hsteps⟩)
      (authorized_cases hrequired ?_ r)
    refine .bind (steps_rescue ?_) fun _ => .pure _
    exact .bind (.orRaise _) fun _ => .bind (.orRaise _) fun _ => calm_keepBlob _ _ _

theorem fetchBlobsPost_cases (P : Packages) (clock : Nat → Int)
    (hrequired : runtime.requireCapabilities = true) (http : SignedHttp)
    (payload : FetchRequest) (r : Relay) :
    (∃ e r', (fetchBlobsPost P runtime clock http payload).run r = .error e r' ∧ Quiet clock r r')
      ∨ ∃ check r₁, Passes P runtime clock r http "fetch" "POST" "/v1/fetch" check r₁
        ∧ Quiet clock r₁ (after ((fetchBlobsPost P runtime clock http payload).run r)) := by
  rw [fetchBlobsPost, run_ite]
  split
  · exact .inl ⟨_, r, rfl, { Calm.refl r with blobs := rfl }⟩
  · refine Or.imp_right (fun ⟨check, r₁, hpasses, hsteps⟩ => ⟨check, r₁, hpasses, .of_steps hsteps⟩)
      (authorized_cases hrequired ?_ r)
    exact .guard (.bind (steps_collectBlobs _ _) fun _ => .pure _)

end Relay
end Yakr
