import Yakr.Relay.Check
import Yakr.Relay.Registry

/-!
# Yakr.Relay.Binding

**A capability id is bound to the grant that is registered for it, generation by generation.**
The check compares the presented grant with the registered one by id and generation only.
While no two grants of one id and generation differ, that is enough: whatever passes has the
key, the permissions and the expiry of the registered grant.
-/

namespace Yakr

open Lib Effect Machine

variable (P : Packages) (runtime : RelayRuntime)

namespace CapabilityGrantStore

/-- Two grants give the same key the same permissions until the same time. -/
def Agrees (g g' : CapabilityGrant) : Prop :=
  g.authPublic = g'.authPublic ∧ g.permissions = g'.permissions ∧ g.expiresAt = g'.expiresAt

theorem Agrees.symm {g g' : CapabilityGrant} (h : Agrees g g') : Agrees g' g :=
  ⟨h.1.symm, h.2.1.symm, h.2.2.symm⟩

theorem Agrees.trans {g g' g'' : CapabilityGrant} (h : Agrees g g') (h' : Agrees g' g'') :
    Agrees g g'' := ⟨h.1.trans h'.1, h.2.1.trans h'.2.1, h.2.2.trans h'.2.2⟩

instance (g g' : CapabilityGrant) : Decidable (Agrees g g') := inferInstanceAs (Decidable (_ ∧ _))

/-- A registration of the generation that is registered already agrees with it. -/
def KeepsBinding (s : CapabilityGrantStore) : Int × CapabilityCall → Prop
  | (now, .register grant _) => Verified P runtime grant now →
      ∀ r ∈ registered P s grant.capabilityId,
        r.grant.capabilityGeneration = grant.capabilityGeneration → Agrees r.grant grant
  | _ => True

instance (s : CapabilityGrantStore) :
    (c : Int × CapabilityCall) → Decidable (KeepsBinding P runtime s c)
  | (now, .register grant _) => inferInstanceAs (Decidable (Verified P runtime grant now →
      ∀ r ∈ registered P s grant.capabilityId,
        r.grant.capabilityGeneration = grant.capabilityGeneration → Agrees r.grant grant))
  | (_, .supersede _) => inferInstanceAs (Decidable True)
  | (_, .revokeImmediately _) => inferInstanceAs (Decidable True)
  | (_, .consumeNonce _) => inferInstanceAs (Decidable True)
  | (_, .restart _) => inferInstanceAs (Decidable True)

/-- The grants that have been registered. -/
def accepted (events : List ((Int × CapabilityCall) × Except PyExc Unit)) :
    List CapabilityGrant :=
  events.filterMap fun
    | ((_, .register grant _), .ok _) => some grant
    | _ => none

/-- Of the grants that were ever registered, those that still count as registered agree with
the one the store holds. -/
def Binds (overlapWindowMs : Int) (calls : List (Int × CapabilityCall)) : Prop :=
  let log := log P runtime overlapWindowMs calls
  ∀ grant ∈ accepted log.events, ∀ now, isRegistered P log.state grant now = .ok true →
    ∃ r ∈ registered P log.state grant.capabilityId, Agrees r.grant grant

variable {P runtime}

section Accepted

variable {events : List ((Int × CapabilityCall) × Except PyExc Unit)} {c : Int × CapabilityCall}
  {answer : Except PyExc Unit}

theorem accepted_concat_of_ne
    (h : ∀ grant registeredAt, c.2 = .register grant registeredAt → answer ≠ .ok ()) :
    accepted (events ++ [(c, answer)]) = accepted events := by
  rw [accepted, List.filterMap_append, ← accepted]
  obtain ⟨now, c⟩ := c
  cases c with
  | register grant registeredAt =>
      cases answer with
      | ok u => exact (h grant registeredAt rfl rfl).elim
      | error e => simp
  | supersede id => simp
  | revokeImmediately id => simp
  | consumeNonce nonceB64 => simp
  | restart overlapWindowMs => simp

theorem accepted_concat_register {now registeredAt : Int} {grant : CapabilityGrant} :
    accepted (events ++ [((now, .register grant registeredAt), .ok ())])
      = accepted events ++ [grant] := by
  rw [accepted, List.filterMap_append, ← accepted]
  rfl

end Accepted

/-- Each grant that was registered has been followed by a later generation, or agrees with the
grant that is registered now. -/
def Followed (P : Packages) (events : List ((Int × CapabilityCall) × Except PyExc Unit))
    (s : CapabilityGrantStore) : Prop :=
  ∀ grant ∈ accepted events, ∃ r, registered P s grant.capabilityId = some r
    ∧ (grant.capabilityGeneration < r.grant.capabilityGeneration
      ∨ grant.capabilityGeneration = r.grant.capabilityGeneration ∧ Agrees r.grant grant)

theorem Followed.step {events : List ((Int × CapabilityCall) × Except PyExc Unit)}
    {s : CapabilityGrantStore} {c : Int × CapabilityCall} (hcbor : P.CborLaws) (hsaved : Saved s)
    (h : Followed P events s) (hcall : KeepsBinding P runtime s c) :
    Followed P (events ++ [(c, (step P runtime s c).1)]) (step P runtime s c).2 := by
  have hchange := change_step runtime hcbor hsaved c
  generalize (CapabilityGrantStore.step P runtime s c).1 = answer at hchange ⊢
  generalize (CapabilityGrantStore.step P runtime s c).2 = s' at hchange ⊢
  intro grant hgrant
  cases hchange with
  | kept hother _ hsame =>
      rw [accepted_concat_of_ne hother] at hgrant
      rw [hsame]
      exact h grant hgrant
  | @registered now registeredAt newer s' hverified hnewest hself hother =>
      rw [accepted_concat_register, List.mem_append, List.mem_singleton] at hgrant
      rcases hgrant with hgrant | rfl
      · obtain ⟨r, hregistered, hr⟩ := h grant hgrant
        by_cases hid : newer.capabilityId = grant.capabilityId
        · rw [← hid] at hregistered ⊢
          have hle := hnewest r hregistered
          refine ⟨_, hself, ?_⟩
          rcases hr with hlt | ⟨hgeneration, hagrees⟩
          · exact .inl (lt_of_lt_of_le hlt hle)
          · rcases hle.lt_or_eq with hlt | heq
            · exact .inl (hgeneration ▸ hlt)
            · have hsame := hcall hverified r hregistered heq
              exact .inr ⟨hgeneration.trans heq, hsame.symm.trans hagrees⟩
        · rw [hother _ hid]
          exact ⟨r, hregistered, hr⟩
      · exact ⟨_, hself, .inr ⟨rfl, rfl, rfl, rfl⟩⟩
  | @revoked c id window r s' hrevocation hregistered hself hother =>
      have hnot : ∀ grant registeredAt, c.2 = .register grant registeredAt →
          (.ok () : Except PyExc Unit) ≠ .ok () := by
        intro grant registeredAt hc
        rw [hc] at hrevocation
        cases hrevocation
      rw [accepted_concat_of_ne hnot] at hgrant
      obtain ⟨r', hregistered', hr⟩ := h grant hgrant
      by_cases hid : id = grant.capabilityId
      · subst hid
        rw [hregistered] at hregistered'
        cases hregistered'
        exact ⟨_, hself, hr⟩
      · exact ⟨r', (hother _ hid).trans hregistered', hr⟩

section Runs

variable {overlapWindowMs : Int}

theorem followed_log (hcbor : P.CborLaws) {calls : List (Int × CapabilityCall)}
    (h : Meets (step P runtime) (KeepsBinding P runtime) { overlapWindowMs := overlapWindowMs }
      calls) :
    Followed P (log P runtime overlapWindowMs calls).events
      (log P runtime overlapWindowMs calls).state := by
  induction calls using List.reverseRecOn with
  | nil => exact fun _ hgrant => nomatch hgrant
  | append_singleton calls c ih =>
      obtain ⟨hcalls, hcall⟩ := meets_concat.mp h
      rw [log, run_concat]
      exact (ih hcalls).step hcbor (saved_log runtime P overlapWindowMs calls) hcall

/-- The registered grant is one of those that were. -/
theorem mem_accepted (hcbor : P.CborLaws) (calls : List (Int × CapabilityCall)) {id : Bytes}
    {r : Registration}
    (hregistered : registered P (log P runtime overlapWindowMs calls).state id = some r) :
    r.grant ∈ accepted (log P runtime overlapWindowMs calls).events
      ∧ r.grant.capabilityId = id := by
  induction calls using List.reverseRecOn generalizing r with
  | nil => cases hregistered
  | append_singleton calls c ih =>
      have hchange := change_step runtime hcbor (saved_log runtime P overlapWindowMs calls) c
      rw [state_log_concat] at hregistered
      rw [events_log_concat]
      generalize (step P runtime _ c).1 = answer at hchange ⊢
      generalize (step P runtime _ c).2 = s' at hchange hregistered
      cases hchange with
      | kept hother _ hsame =>
          rw [accepted_concat_of_ne hother]
          exact ih ((hsame id).symm.trans hregistered)
      | @registered now registeredAt grant s' _ _ hself hother =>
          rw [accepted_concat_register]
          by_cases hid : grant.capabilityId = id
          · subst hid
            rw [hself] at hregistered
            cases hregistered
            exact ⟨List.mem_append_right _ (List.mem_singleton_self _), rfl⟩
          · obtain ⟨hmem, heq⟩ := ih ((hother id hid).symm.trans hregistered)
            exact ⟨List.mem_append_left _ hmem, heq⟩
      | @revoked c id' window r' s' hrevocation hregistered' hself hother =>
          have hnot : ∀ grant registeredAt, c.2 = .register grant registeredAt →
              (.ok () : Except PyExc Unit) ≠ .ok () := by
            intro grant registeredAt hc
            rw [hc] at hrevocation
            cases hrevocation
          rw [accepted_concat_of_ne hnot]
          by_cases hid : id' = id
          · subst hid
            rw [hself] at hregistered
            cases hregistered
            have hbefore := ih hregistered'
            exact hbefore
          · exact ih ((hother id hid).symm.trans hregistered)

end Runs

/-- **At most one grant of an id counts as registered**, up to what it permits whom, at every
moment of a run exactly when no registration gives a generation to another grant. -/
theorem binds_iff_keepsBinding (hcbor : P.CborLaws) (runtime : RelayRuntime)
    (overlapWindowMs : Int) (calls : List (Int × CapabilityCall)) :
    (∀ earlier, earlier <+: calls → Binds P runtime overlapWindowMs earlier)
      ↔ Meets (step P runtime) (KeepsBinding P runtime) { overlapWindowMs := overlapWindowMs }
        calls := by
  constructor
  · intro hbinds
    induction calls using List.reverseRecOn with
    | nil => exact trivial
    | append_singleton calls c ih =>
        refine meets_concat.mpr ⟨ih fun earlier hearlier =>
          hbinds earlier (hearlier.trans (List.prefix_append _ _)), ?_⟩
        obtain ⟨now, c⟩ := c
        cases c with
        | register grant registeredAt =>
            intro hverified r hmember hgeneration
            have hregistered : registered P (log P runtime overlapWindowMs calls).state
                grant.capabilityId = some r := hmember
            -- the grant before still counts as registered, so it agrees with the new one
            obtain ⟨hmem, hid⟩ := mem_accepted hcbor calls hregistered
            have hstep := step_register registeredAt hverified
              (newest_of_registered hregistered hgeneration.le)
            have hself : registered P (accept P grant registeredAt
                (log P runtime overlapWindowMs calls).state) grant.capabilityId = some { grant } :=
              registered_accept_self hcbor registeredAt
            have hcurrent := hbinds _ List.prefix_rfl r.grant
            rw [events_log_concat, state_log_concat, hstep, accepted_concat_register, hid] at hcurrent
            obtain ⟨r', hr', hagrees⟩ := hcurrent (List.mem_append_left _ hmem) now
              (isRegistered_iff.mpr ⟨{ grant }, hid ▸ hself, hgeneration.symm, nofun⟩)
            rw [hself] at hr'
            cases hr'
            exact hagrees.symm
        | supersede id => exact trivial
        | revokeImmediately id => exact trivial
        | consumeNonce nonceB64 => exact trivial
        | restart overlapWindowMs => exact trivial
  · rintro hmeets earlier ⟨rest, rfl⟩ grant hgrant now hok
    obtain ⟨r, hregistered, hgeneration, -⟩ := isRegistered_iff.mp hok
    obtain ⟨r', hregistered', hr⟩ := followed_log hcbor hmeets.of_append grant hgrant
    rw [hregistered] at hregistered'
    cases hregistered'
    rcases hr with hlt | ⟨-, hagrees⟩
    · omega
    · exact ⟨r, hregistered, hagrees⟩

/-- If its generation is the registered one, the grant agrees with one of those that were
registered with that generation. -/
def Vouched (P : Packages)
    (log : Log CapabilityGrantStore (Int × CapabilityCall) (Except PyExc Unit))
    (grant : CapabilityGrant) : Prop :=
  ∀ r ∈ registered P log.state grant.capabilityId,
    r.grant.capabilityGeneration = grant.capabilityGeneration →
      ∃ g ∈ accepted log.events, g.capabilityId = grant.capabilityId
        ∧ g.capabilityGeneration = grant.capabilityGeneration ∧ Agrees g grant

/-- **The registered grant binds.** After a run that gives no generation to two grants, a request
with a grant of the run passes the check only if the registered grant of its id has the same
key, permissions and expiry. -/
theorem registered_agrees_of_check (hcbor : P.CborLaws) (runtime : RelayRuntime)
    (hrequired : runtime.requireCapabilities = true) (overlapWindowMs : Int)
    (calls : List (Int × CapabilityCall))
    (hcalls : Meets (step P runtime) (KeepsBinding P runtime)
      { overlapWindowMs := overlapWindowMs } calls)
    (clock : Nat → Int) (relay : Relay)
    (hstore : relay.capabilities = (log P runtime overlapWindowMs calls).state)
    (http : SignedHttp) (permission method path text : String) (grant : CapabilityGrant)
    (htext : http.grant = some text) (hgrant : CapabilityGrant.fromB64 P text = .ok grant)
    (hvouched : Vouched P (log P runtime overlapWindowMs calls) grant)
    (hpassed : outcome ((Relay.checkCapability P runtime clock http permission method path).run
      relay) = .ok ()) :
    ∃ r ∈ registered P relay.capabilities grant.capabilityId, Agrees r.grant grant := by
  obtain ⟨relay', hrun⟩ := outcome_eq_ok.mp hpassed
  obtain ⟨check, hpasses⟩ := (Relay.checkCapability_iff hrequired).mp hrun
  obtain ⟨text', htext', hgrant'⟩ := hpasses.grant
  rw [htext] at htext'
  cases htext'
  rw [hgrant] at hgrant'
  have hpresented : check.request.grant = grant := (Except.ok.inj hgrant').symm
  have hregistered := hpasses.registered
  rw [hpresented, hstore] at hregistered
  rw [hstore]
  obtain ⟨r, hr, hgeneration, -⟩ := isRegistered_iff.mp hregistered
  obtain ⟨g, hg, hid, hsame, hagrees⟩ := hvouched r hr hgeneration
  -- the grant of the run is of the registered generation, so the registered one agrees with it
  obtain ⟨r', hr', hfollowed⟩ := followed_log hcbor hcalls g hg
  rw [hid, hr] at hr'
  cases hr'
  rcases hfollowed with hlater | ⟨-, hbound⟩
  · omega
  · exact ⟨r, hr, hbound.trans hagrees⟩

namespace Sample

/-- A grant for another key, of the same id and generation. -/
def otherGrant : CapabilityGrant := grantFor (List.replicate 32 4) 0

/-- It is registered after the owner's. -/
def registeredTwice : List (Int × CapabilityCall) := registeredOnce ++ [(0, .register otherGrant 0)]

theorem state_registeredTwice : (log packages relay 0 registeredTwice).state
    = accept packages otherGrant 0 (log packages relay 0 registeredOnce).state := by
  have hverified : Verified packages relay otherGrant 0 := by decide +kernel
  have hnewest : Newest packages (log packages relay 0 registeredOnce).state otherGrant :=
    newest_of_registered registered_registeredOnce (by decide +kernel)
  rw [registeredTwice, state_log_concat, step_register 0 hverified hnewest]

/-- The owner's request, at a relay with the store of some calls. -/
def checked (calls : List (Int × CapabilityCall)) : Except HttpException Unit :=
  outcome ((Relay.checkCapability packages relay (fun _ => 0)
    (Relay.Sample.http (b64encode Relay.Sample.nonce)) "store" "POST" "/v1/blobs").run
      { capabilities := (log packages relay 0 calls).state })

/-- It passes while the id is registered with the owner's generation. -/
theorem checked_ok {calls : List (Int × CapabilityCall)} {g : CapabilityGrant}
    (hregistered : registered packages (log packages relay 0 calls).state (grant 0).capabilityId
      = some { grant := g })
    (hgeneration : g.capabilityGeneration = (grant 0).capabilityGeneration)
    (hnonces : (log packages relay 0 calls).state.seenNonces = []) : checked calls = .ok () := by
  refine outcome_eq_ok.mpr ⟨_, (Relay.checkCapability_iff rfl).mpr ⟨_, Relay.Sample.passes
    (isRegistered_iff.mpr ⟨_, hregistered, hgeneration, nofun⟩) (b64decode_b64encode _)
    (by decide +kernel) ?_⟩⟩
  rw [CapabilityGrantStore.pruneNonces, hnonces]
  rfl

end Sample

open CapabilityGrantStore.Sample in
/-- The owner's request passes under the owner's grant. -/
theorem registered_agrees_registeredOnce :
    ∃ r ∈ registered packages (log packages relay 0 registeredOnce).state (grant 0).capabilityId,
      Agrees r.grant (grant 0) := by
  have hcbor := codedPackages_cborLaws plainPackages
  refine registered_agrees_of_check hcbor relay rfl 0 registeredOnce (by decide +kernel)
    (fun _ => 0) { capabilities := (log packages relay 0 registeredOnce).state } rfl
    (Relay.Sample.http (b64encode Relay.Sample.nonce)) "store" "POST" "/v1/blobs" _ (grant 0) rfl
    (CapabilityGrant.fromB64_toB64 hcbor _) ?_ ?_
  · intro r hr hgeneration
    exact ⟨grant 0, (mem_accepted hcbor _ registered_registeredOnce).1, rfl, rfl, rfl, rfl, rfl⟩
  · exact checked_ok registered_registeredOnce rfl (by rw [state_registeredOnce]; rfl)

open CapabilityGrantStore.Sample in
/-- It still passes when the id is registered for another key. -/
theorem not_bound_registeredTwice :
    Timed registeredTwice ∧ checked registeredTwice = .ok ()
      ∧ ∃ r ∈ registered packages (log packages relay 0 registeredTwice).state
        (grant 0).capabilityId, ¬ Agrees r.grant (grant 0) := by
  have hregistered : registered packages (log packages relay 0 registeredTwice).state
      (grant 0).capabilityId = some { grant := otherGrant } := by
    rw [state_registeredTwice]
    exact registered_accept_self (codedPackages_cborLaws plainPackages) 0
  refine ⟨by decide, checked_ok hregistered rfl ?_, _, hregistered, by decide +kernel⟩
  rw [state_registeredTwice, state_registeredOnce]
  rfl

end CapabilityGrantStore
end Yakr
