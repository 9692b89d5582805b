import Yakr.Relay.Registry

/-!
# Yakr.Relay.Revocation

**What is revoked stays revoked, unless it is revived.** A revocation ends one generation of
a capability when its overlap window has passed. A later call can bring the generation back:
a registration of the same generation drops the end of the window, and a second supersession
moves it. In every run, these are the only ways.
-/

namespace Yakr

open Lib Effect Machine

variable (P : Packages) (runtime : RelayRuntime)

namespace CapabilityGrantStore

/-- The call ends a generation of a capability, from a time on. -/
def Ends (s : CapabilityGrantStore) (c : Int × CapabilityCall) (id : Bytes)
    (generation ended : Int) : Prop :=
  ∃ window r, s.revocation c.2 = some (id, window) ∧ registered P s id = some r
    ∧ r.grant.capabilityGeneration = generation ∧ c.1 + window = ended

/-- No grant of a generation that some call has ended, or of an earlier one, is registered. -/
def Permanent (overlapWindowMs : Int) (calls : List (Int × CapabilityCall)) : Prop :=
  ∀ earlier c later, calls = earlier ++ c :: later →
    ∀ id generation ended,
      Ends P (log P runtime overlapWindowMs earlier).state c id generation ended →
      ∀ grant now, grant.capabilityId = id → grant.capabilityGeneration ≤ generation →
        ended ≤ now → Before calls now →
        isRegistered P (log P runtime overlapWindowMs calls).state grant now ≠ .ok true

/-- A registration renews no generation whose overlap window has an end, and a supersession
does not move that end past the old one. -/
def NoRevival (s : CapabilityGrantStore) : Int × CapabilityCall → Prop
  | (now, .register grant _) => Verified P runtime grant now →
      ∀ r ∈ registered P s grant.capabilityId, r.overlapUntilMs.isSome →
        r.grant.capabilityGeneration ≠ grant.capabilityGeneration
  | (now, .supersede id) => ∀ r ∈ registered P s id, ∀ ended ∈ r.overlapUntilMs,
      now + s.overlapWindowMs ≤ max ended now
  | _ => True

instance (s : CapabilityGrantStore) :
    (c : Int × CapabilityCall) → Decidable (NoRevival P runtime s c)
  | (now, .register grant _) => inferInstanceAs (Decidable (Verified P runtime grant now →
      ∀ r ∈ registered P s grant.capabilityId, r.overlapUntilMs.isSome →
        r.grant.capabilityGeneration ≠ grant.capabilityGeneration))
  | (now, .supersede id) => inferInstanceAs (Decidable (∀ r ∈ registered P s id,
      ∀ ended ∈ r.overlapUntilMs, now + s.overlapWindowMs ≤ max ended now))
  | (_, .revokeImmediately _) => inferInstanceAs (Decidable True)
  | (_, .consumeNonce _) => inferInstanceAs (Decidable True)
  | (_, .restart _) => inferInstanceAs (Decidable True)

variable {P runtime}

/-- The generation is over at a time: the registered grant is of a later one, or its window
has passed. -/
def Over (P : Packages) (s : CapabilityGrantStore) (id : Bytes) (generation now : Int) : Prop :=
  ∃ r, registered P s id = some r ∧ (generation < r.grant.capabilityGeneration
    ∨ r.grant.capabilityGeneration = generation ∧ ∃ ended ∈ r.overlapUntilMs, ended ≤ now)

section Over

variable {s s' : CapabilityGrantStore} {id : Bytes} {generation ended now : Int}
  {c : Int × CapabilityCall}

theorem Over.not_isRegistered (h : Over P s id generation now) {grant : CapabilityGrant}
    (hid : grant.capabilityId = id) (hle : grant.capabilityGeneration ≤ generation) :
    isRegistered P s grant now ≠ .ok true := by
  subst hid
  obtain ⟨r, hregistered, hover⟩ := h
  intro hok
  obtain ⟨r', hregistered', hgeneration, hopen⟩ := isRegistered_iff.mp hok
  rw [hregistered] at hregistered'
  cases hregistered'
  rcases hover with hlater | ⟨-, ended, hended, hpassed⟩
  · omega
  · exact absurd (hopen ended hended) (Int.not_lt.mpr hpassed)

/-- A revocation makes the generation over, once its window has passed. -/
theorem over_of_ends (hcbor : P.CborLaws) (hsaved : Saved s)
    (hends : Ends P s c id generation ended) (hnow : ended ≤ now) :
    Over P (step P runtime s c).2 id generation now := by
  obtain ⟨window, r, hrevocation, hregistered, hgeneration, hended⟩ := hends
  have hchange := change_step runtime hcbor hsaved c
  generalize (step P runtime s c).1 = answer at hchange
  generalize (step P runtime s c).2 = s' at hchange ⊢
  cases hchange with
  | kept _ hnone _ =>
      rw [hnone id window hrevocation] at hregistered
      cases hregistered
  | registered => cases hrevocation
  | revoked hrevocation' hregistered' hself hother =>
      rw [hrevocation] at hrevocation'
      cases hrevocation'
      rw [hregistered] at hregistered'
      cases hregistered'
      exact ⟨_, hself, .inr ⟨hgeneration, _, rfl, hended ▸ hnow⟩⟩

/-- A call that revives nothing leaves it over. -/
theorem Over.step (hcbor : P.CborLaws) (hsaved : Saved s) (h : Over P s id generation now)
    (hcall : NoRevival P runtime s c) (hnow : c.1 ≤ now) :
    Over P (step P runtime s c).2 id generation now := by
  obtain ⟨r, hregistered, hover⟩ := h
  have hchange := change_step runtime hcbor hsaved c
  generalize (CapabilityGrantStore.step P runtime s c).1 = answer at hchange
  generalize (CapabilityGrantStore.step P runtime s c).2 = s' at hchange ⊢
  cases hchange with
  | kept _ _ hsame => exact ⟨r, (hsame id).trans hregistered, hover⟩
  | @registered time registeredAt grant s' hverified hnewest hself hother =>
      by_cases hid : grant.capabilityId = id
      · subst hid
        have hle := hnewest r hregistered
        refine ⟨_, hself, .inl ?_⟩
        rcases hover with hlater | ⟨hgeneration, ended, hended, -⟩
        · exact lt_of_lt_of_le hlater hle
        · have hne := hcall hverified r hregistered (by rw [Option.mem_def.mp hended]; rfl)
          show generation < grant.capabilityGeneration
          omega
      · exact ⟨r, (hother id hid).trans hregistered, hover⟩
  | @revoked c' id' window r' s' hrevocation hregistered' hself hother =>
      by_cases hid : id' = id
      · subst hid
        rw [hregistered] at hregistered'
        cases hregistered'
        refine ⟨_, hself, hover.imp id fun ⟨hgeneration, ended, hended, hpassed⟩ =>
          ⟨hgeneration, _, rfl, ?_⟩⟩
        obtain ⟨time, c⟩ := c
        cases c with
        | supersede id =>
            cases hrevocation
            have hmax := hcall r hregistered ended hended
            exact hmax.trans (max_le hpassed hnow)
        | revokeImmediately id =>
            cases hrevocation
            simpa using hnow
        | register grant registeredAt => cases hrevocation
        | consumeNonce nonceB64 => cases hrevocation
        | restart overlapWindowMs => cases hrevocation
      · exact ⟨r, (hother id hid).trans hregistered, hover⟩

end Over

section Runs

variable {overlapWindowMs : Int}

/-- While nothing is revived, what a call has ended stays over. -/
theorem over_log (hcbor : P.CborLaws) {earlier later : List (Int × CapabilityCall)}
    {c : Int × CapabilityCall} {id : Bytes} {generation ended now : Int}
    (hcalls : Meets (step P runtime) (NoRevival P runtime) { overlapWindowMs := overlapWindowMs }
      (earlier ++ c :: later))
    (hends : Ends P (log P runtime overlapWindowMs earlier).state c id generation ended)
    (hended : ended ≤ now) (hnow : Before (earlier ++ c :: later) now) :
    Over P (log P runtime overlapWindowMs (earlier ++ c :: later)).state id generation now := by
  induction later using List.reverseRecOn with
  | nil =>
      rw [state_log_concat]
      exact over_of_ends hcbor (saved_log runtime P overlapWindowMs earlier) hends hended
  | append_singleton later d ih =>
      have happend : earlier ++ c :: (later ++ [d]) = (earlier ++ c :: later) ++ [d] := by simp
      rw [happend] at hcalls hnow ⊢
      obtain ⟨hmeets, hcall⟩ := meets_concat.mp hcalls
      obtain ⟨hbefore, hle⟩ := before_concat.mp hnow
      rw [state_log_concat]
      exact (ih hmeets hbefore).step hcbor (saved_log runtime P overlapWindowMs _) hcall hle

/-- The end of an overlap window comes from a revocation of the grant that has it. -/
theorem exists_ends (hcbor : P.CborLaws) (calls : List (Int × CapabilityCall)) {id : Bytes}
    {r : Registration} {ended : Int}
    (hregistered : registered P (log P runtime overlapWindowMs calls).state id = some r)
    (hended : r.overlapUntilMs = some ended) :
    ∃ earlier c later, calls = earlier ++ c :: later
      ∧ Ends P (log P runtime overlapWindowMs earlier).state c id r.grant.capabilityGeneration
        ended := by
  induction calls using List.reverseRecOn with
  | nil => cases hregistered
  | append_singleton calls c ih =>
      have hbefore : registered P (log P runtime overlapWindowMs calls).state id = some r →
          ∃ earlier d later, calls ++ [c] = earlier ++ d :: later
            ∧ Ends P (log P runtime overlapWindowMs earlier).state d id
              r.grant.capabilityGeneration ended := by
        intro h
        obtain ⟨earlier, d, later, rfl, hends⟩ := ih h
        exact ⟨earlier, d, later ++ [c], by simp, hends⟩
      have hchange := change_step runtime hcbor
        (saved_log runtime P overlapWindowMs calls) c
      rw [state_log_concat] at hregistered
      generalize (step P runtime _ c).1 = answer at hchange
      generalize (step P runtime _ c).2 = s' at hchange hregistered
      cases hchange with
      | kept _ _ hsame => exact hbefore ((hsame id).symm.trans hregistered)
      | @registered now registeredAt grant s' _ _ hself hother =>
          by_cases hid : grant.capabilityId = id
          · subst hid
            rw [hself] at hregistered
            cases hregistered
            cases hended
          · exact hbefore ((hother id hid).symm.trans hregistered)
      | @revoked c id' window r' s' hrevocation hregistered' hself hother =>
          by_cases hid : id' = id
          · subst hid
            rw [hself] at hregistered
            cases hregistered
            cases hended
            exact ⟨calls, c, [], rfl, window, r', hrevocation, hregistered', rfl, rfl⟩
          · exact hbefore ((hother id hid).symm.trans hregistered)

/-- A revival breaks the promise: some grant of the generation is registered afterwards. -/
theorem not_permanent_concat (hcbor : P.CborLaws) {calls : List (Int × CapabilityCall)}
    {c : Int × CapabilityCall} (htimed : Before calls c.1)
    (hcall : ¬ NoRevival P runtime (log P runtime overlapWindowMs calls).state c) :
    ¬ Permanent P runtime overlapWindowMs (calls ++ [c]) := by
  obtain ⟨now, c⟩ := c
  have hsaved := saved_log runtime P overlapWindowMs calls
  -- whoever holds the end of a window holds it from a call that ended the generation
  have hviolated : ∀ (id : Bytes) (r : Registration) (ended : Int) (r' : Registration),
      registered P (log P runtime overlapWindowMs calls).state id = some r →
      r.overlapUntilMs = some ended →
      registered P (step P runtime (log P runtime overlapWindowMs calls).state (now, c)).2 id
        = some r' →
      r'.grant.capabilityGeneration = r.grant.capabilityGeneration →
      (∀ ended' ∈ r'.overlapUntilMs, max ended now < ended') →
      ¬ Permanent P runtime overlapWindowMs (calls ++ [(now, c)]) := by
    intro id r ended r' hregistered hended hregistered' hgeneration hopen hpermanent
    obtain ⟨earlier, d, later, hcalls, hends⟩ := exists_ends hcbor calls hregistered hended
    have hsplit : calls ++ [(now, c)] = earlier ++ d :: (later ++ [(now, c)]) := by simp [hcalls]
    let grant := { r'.grant with capabilityId := id }
    refine hpermanent earlier d _ hsplit id _ ended hends grant (max ended now) rfl hgeneration.le
      (le_max_left _ _) ?_ ?_
    · exact before_concat.mpr
        ⟨fun e he => (htimed e he).trans (le_max_right _ _), le_max_right _ _⟩
    · rw [state_log_concat]
      exact isRegistered_iff.mpr ⟨r', hregistered', rfl, hopen⟩
  cases c with
  | register grant registeredAt =>
      simp only [NoRevival, not_forall, not_not] at hcall
      obtain ⟨hverified, r, hregistered, hended, hgeneration⟩ := hcall
      obtain ⟨ended, hended⟩ := Option.isSome_iff_exists.mp hended
      refine hviolated grant.capabilityId r ended { grant } hregistered hended ?_ hgeneration.symm
        nofun
      rw [step_register registeredAt hverified
        (newest_of_registered hregistered hgeneration.le)]
      exact registered_accept_self hcbor registeredAt
  | supersede id =>
      simp only [NoRevival, not_forall] at hcall
      obtain ⟨r, hregistered, ended, hended, hmoved⟩ := hcall
      obtain ⟨s', hstep, -, -, hself⟩ := step_revocation P runtime
        (s := (log P runtime overlapWindowMs calls).state) (c := (now, .supersede id)) rfl
      rw [hregistered] at hself
      let moved : Registration :=
        { r with
          overlapUntilMs :=
            some (now + (log P runtime overlapWindowMs calls).state.overlapWindowMs) }
      refine hviolated id r ended moved hregistered hended ?_ rfl fun ended' hended' => ?_
      · rw [hstep]
        exact hself
      · obtain rfl := Option.some.inj hended'
        exact Int.not_le.mp hmoved
  | revokeImmediately id => exact (hcall trivial).elim
  | consumeNonce nonceB64 => exact (hcall trivial).elim
  | restart overlapWindowMs => exact (hcall trivial).elim

/-- Before the first revocation there is nothing to revive. -/
theorem permanent_nil : Permanent P runtime overlapWindowMs [] := by
  intro earlier c later hcalls
  cases earlier with
  | nil => cases hcalls
  | cons d earlier => cases hcalls

end Runs

/-- **Revocation is permanent** in a run, at every moment of it, exactly when no call of the run
revives what an earlier one has ended. -/
theorem permanent_iff_noRevival (hcbor : P.CborLaws) (runtime : RelayRuntime)
    (overlapWindowMs : Int) (calls : List (Int × CapabilityCall)) (htimed : Timed calls) :
    (∀ earlier, earlier <+: calls → Permanent P runtime overlapWindowMs earlier)
      ↔ Meets (step P runtime) (NoRevival P runtime) { overlapWindowMs := overlapWindowMs }
        calls := by
  constructor
  · intro hpermanent
    induction calls using List.reverseRecOn with
    | nil => exact trivial
    | append_singleton calls c ih =>
        obtain ⟨hcalls, hbefore⟩ := timed_concat.mp htimed
        refine meets_concat.mpr ⟨ih hcalls fun earlier hearlier =>
          hpermanent earlier (hearlier.trans (List.prefix_append _ _)), ?_⟩
        by_contra hcall
        exact not_permanent_concat hcbor hbefore hcall (hpermanent _ List.prefix_rfl)
  · rintro hmeets earlier ⟨rest, rfl⟩
    rintro before c later rfl id generation ended hends grant now hid hle hended hnow
    exact (over_log hcbor hmeets.of_append hends hended hnow).not_isRegistered hid hle

namespace Sample

/-- A grant is registered and revoked. -/
def revoked : List (Int × CapabilityCall) :=
  registeredOnce ++ [(1, .revokeImmediately (grant 0).capabilityId)]

/-- It is posted again. -/
def reposted : List (Int × CapabilityCall) := revoked ++ [(2, .register (grant 0) 2)]

end Sample

open CapabilityGrantStore.Sample in
/-- A revocation keeps the promise. -/
theorem permanent_revoked : Permanent packages relay 0 revoked :=
  (permanent_iff_noRevival (codedPackages_cborLaws plainPackages) relay 0 revoked
    (by decide)).mpr (by decide +kernel) revoked List.prefix_rfl

open CapabilityGrantStore.Sample in
/-- A grant that is posted again after its revocation is registered again. -/
theorem not_permanent_reposted :
    Timed reposted ∧ ¬ ∀ earlier, earlier <+: reposted → Permanent packages relay 0 earlier := by
  refine ⟨by decide, fun h => ?_⟩
  obtain ⟨s, hstep, -, -, hrevoked⟩ := step_revocation packages relay
    (s := (log packages relay 0 registeredOnce).state)
    (c := (1, .revokeImmediately (grant 0).capabilityId)) rfl
  rw [registered_registeredOnce] at hrevoked
  have hrevival : ¬ NoRevival packages relay (log packages relay 0 revoked).state
      (2, .register (grant 0) 2) := by
    intro hcall
    rw [revoked, state_log_concat, hstep] at hcall
    exact hcall (by decide +kernel) _ hrevoked rfl rfl
  exact not_permanent_concat (codedPackages_cborLaws plainPackages) (by decide) hrevival
    (h reposted List.prefix_rfl)

end CapabilityGrantStore
end Yakr
