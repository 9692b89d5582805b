import Mathlib
import Yakr.Relay.Routes

/-!
# Yakr.Relay.Replay

**A signed request passes once, in one spelling.** The relay remembers the nonce header of
every request that passed, for ten minutes, and a signature is good for five minutes either
way. So a request passes at most once, unless its nonce is spelled in another way the second
time (the decoder skips what is no digit, and padding), or the clock jumps between the reading
that verifies the signature and the reading that forgets old nonces.
-/

namespace Yakr

open Lib Effect Machine

variable (P : Packages) (runtime : RelayRuntime) (clock : Nat → Int)

namespace Relay

/-- The headers of a request that is checked, with the method and path it is signed for. -/
def signedHttp : RelayEvent → Option (SignedHttp × String × String)
  | .request (.storeBlob http _) => some (http, "POST", "/v1/blobs")
  | .request (.fetchBlobsPost http _) => some (http, "POST", "/v1/fetch")
  | _ => none

/-- The headers carry the signed request. -/
def Carries (http : SignedHttp) (method path : String) (request : SignedRequest) : Prop :=
  http.grant.map (CapabilityGrant.fromB64 P) = some (.ok request.grant)
    ∧ method = request.method ∧ path = request.path ∧ http.body = request.body
    ∧ http.timestamp.map intOfHeader = some (.ok request.timestampMs)
    ∧ http.nonce.map b64decode = some (.ok request.nonce)
    ∧ http.signature.map b64decode = some (.ok request.signature)

instance (http : SignedHttp) (method path : String) (request : SignedRequest) :
    Decidable (Carries P http method path request) := inferInstanceAs (Decidable (_ ∧ _))

/-- A request that passed before comes back with the nonce spelled as it was, and is checked
while the nonce is remembered. -/
def KeepsSpelling (r : Relay) (event : RelayEvent) : Prop :=
  ∀ signed ∈ signedHttp event, ∀ earlier ∈ r.passed,
    Carries P signed.1 signed.2.1 signed.2.2 earlier.request →
      signed.1.nonce = some earlier.nonceB64
        ∧ clock (r.readings + 3) - earlier.consumedAt ≤ 10 * 60 * 1000

instance (r : Relay) (event : RelayEvent) : Decidable (KeepsSpelling P clock r event) :=
  inferInstanceAs (Decidable (∀ signed ∈ signedHttp event, ∀ earlier ∈ r.passed, _))

variable {P runtime clock}

theorem Passes.carries {r r' : Relay} {http : SignedHttp} {permission method path : String}
    {check : PassedCheck} (h : Passes P runtime clock r http permission method path check r') :
    Carries P http method path check.request := by
  obtain ⟨grantB64, hgrant, hdecoded⟩ := h.grant
  obtain ⟨timestampRaw, htimestamp, hstamp⟩ := h.timestamp
  obtain ⟨signatureB64, hsignature, hsig⟩ := h.signature
  refine ⟨?_, h.method_eq.symm, h.path_eq.symm, h.body_eq.symm, ?_, ?_, ?_⟩
  · rw [hgrant, Option.map_some, hdecoded]
  · rw [htimestamp, Option.map_some, hstamp]
  · rw [h.nonce.1, Option.map_some, h.nonce.2]
  · rw [hsignature, Option.map_some, hsig]

/-! ### One event -/

/-- An event is calm, or it is a request whose check passes. -/
theorem calm_or_passes (P : Packages) (clock : Nat → Int)
    (hrequired : runtime.requireCapabilities = true) (r : Relay) (event : RelayEvent) (hsaved : r.capabilities.Saved) :
    Calm clock r (step P runtime clock r event).2
      ∨ ∃ http permission method path check r₁, signedHttp event = some (http, method, path)
        ∧ Passes P runtime clock r http permission method path check r₁
        ∧ Calm clock r₁ (step P runtime clock r event).2 := by
  have hquiet : ∀ {ε α : Type} {m : EStateM ε Relay α}, Steps (Quiet clock) m →
      Calm clock r (after (m.run r)) := fun h => (Quiet.of_steps (h r)).toCalm
  cases event with
  | request request =>
      cases request with
      | storeBlob http payload =>
          rcases storeBlob_cases P clock hrequired http payload r with
            ⟨e, r', hrun, h⟩ | ⟨check, r₁, hpasses, hcalm⟩
          · left
            show Calm clock r (after ((storeBlob P runtime clock http payload).run r))
            rw [hrun]
            exact h.toCalm
          · exact .inr ⟨http, _, _, _, check, r₁, rfl, hpasses, hcalm⟩
      | fetchBlobsPost http payload =>
          rcases fetchBlobsPost_cases P clock hrequired http payload r with
            ⟨e, r', hrun, h⟩ | ⟨check, r₁, hpasses, hcalm⟩
          · left
            show Calm clock r (after ((fetchBlobsPost P runtime clock http payload).run r))
            rw [hrun]
            exact h.toCalm
          · exact .inr ⟨http, _, _, _, check, r₁, rfl, hpasses, hcalm.toCalm⟩
      | healthz => exact .inl (.refl r)
      | issueCapability request => exact .inl (hquiet (steps_issueCapability request))
      | registerCapability grant => exact .inl (hquiet (steps_registerCapability grant))
      | revokeCapability id ticket => exact .inl (hquiet (steps_revokeCapability id ticket))
      | fetchBlobsLegacy mailboxTag => exact .inl (hquiet (steps_fetchBlobsLegacy mailboxTag))
      | relayPacket packet ticket forwarded =>
          exact .inl (hquiet (steps_relayPacket packet ticket forwarded))
      | ingestPacket inner ticket => exact .inl (.of_steps (calm_ingestPacket inner ticket r))
      | pairRegister inviteSecret => exact .inl (hquiet (steps_pairRegister inviteSecret))
      | pairStoreRequest request => exact .inl (hquiet (steps_pairStoreRequest request))
      | pairPending inviteTag => exact .inl (hquiet (steps_pairPending inviteTag))
      | pairStoreResponse inviteSecret response =>
          exact .inl (hquiet (steps_pairStoreResponse inviteSecret response))
      | pairFetchResponse inviteTag => exact .inl (hquiet (steps_pairFetchResponse inviteTag))
  | sweep => exact .inl (.of_steps (calm_sweepExpired r))
  | restart overlapWindowMs =>
      refine .inl ⟨rfl, le_rfl, fun _ => CapabilityGrantStore.saved_load _ _, fun seen hseen => ?_⟩
      exact .inl (hsaved.mem_load overlapWindowMs hseen)

/-! ### Runs -/

/-- No request has passed twice, and the nonce of each is remembered until its time. -/
structure Remembers (clock : Nat → Int) (r : Relay) : Prop where
  nodup : (r.passed.map PassedCheck.request).Nodup
  saved : r.capabilities.Saved
  kept : ∀ check ∈ r.passed, (check.nonceB64, check.consumedAt) ∈ r.capabilities.seenNonces
    ∨ ∃ j < r.readings, 10 * 60 * 1000 < clock j - check.consumedAt

section Remembers

variable {r r' : Relay}

theorem Remembers.calm (h : Remembers clock r) (hcalm : Calm clock r r') : Remembers clock r' where
  nodup := by
    rw [hcalm.passed]
    exact h.nodup
  saved := hcalm.saved h.saved
  kept check hcheck := by
    rw [hcalm.passed] at hcheck
    rcases h.kept check hcheck with hseen | ⟨j, hj, hlate⟩
    · exact hcalm.remembers _ hseen
    · exact .inr ⟨j, hj.trans_le hcalm.readings, hlate⟩

/-- A check that passes adds a request that has not passed before. -/
theorem Remembers.passes (h : Remembers clock r) (hclock : Monotone clock) {http : SignedHttp}
    {permission method path : String} {check : PassedCheck}
    (hpasses : Passes P runtime clock r http permission method path check r')
    (hspelling : ∀ earlier ∈ r.passed, Carries P http method path earlier.request →
      http.nonce = some earlier.nonceB64
        ∧ clock (r.readings + 3) - earlier.consumedAt ≤ 10 * 60 * 1000) :
    Remembers clock r' := by
  have hfresh := hpasses.fresh
  rw [Table.find, List.find?_eq_none] at hfresh
  rw [hpasses.state]
  refine ⟨?_, CapabilityGrantStore.saved_save _, fun earlier hearlier => ?_⟩
  · rw [List.map_append, List.nodup_append]
    refine ⟨h.nodup, List.nodup_singleton _, ?_⟩
    intro request hrequest request' hrequest' hsame
    obtain ⟨earlier, hearlier, rfl⟩ := List.mem_map.mp hrequest
    obtain rfl : check.request = request' := (List.mem_singleton.mp hrequest').symm
    -- the nonce of the earlier request is remembered, under the header that came again
    obtain ⟨hnonce, hrecent⟩ := hspelling earlier hearlier (hsame ▸ hpasses.carries)
    rcases h.kept earlier hearlier with hseen | ⟨j, hj, hlate⟩
    · refine hfresh _ (List.mem_filter.mpr ⟨hseen, decide_eq_true hrecent⟩) ?_
      have hheader := hpasses.nonce.1
      rw [hnonce] at hheader
      simpa using Option.some.inj hheader
    · have hmono : clock j ≤ clock (r.readings + 3) := hclock (by omega)
      omega
  · rcases List.mem_append.mp hearlier with hearlier | hearlier
    · rcases h.kept earlier hearlier with hseen | ⟨j, hj, hlate⟩
      · by_cases hrecent : clock (r.readings + 3) - earlier.consumedAt ≤ 10 * 60 * 1000
        · have hpruned : (earlier.nonceB64, earlier.consumedAt)
              ∈ (r.capabilities.pruneNonces (clock (r.readings + 3))).seenNonces :=
            List.mem_filter.mpr ⟨hseen, decide_eq_true hrecent⟩
          have hne := hfresh _ hpruned
          exact .inl (Table.mem_upsert.mpr (.inl ⟨hpruned, by simpa using hne⟩))
        · exact .inr ⟨r.readings + 3, Nat.lt_succ_self _, Int.not_le.mp hrecent⟩
      · exact .inr ⟨j, by show j < r.readings + 4; omega, hlate⟩
    · obtain rfl := List.mem_singleton.mp hearlier
      rw [hpasses.consumedAt_eq]
      exact .inl (Table.mem_upsert.mpr (.inr rfl))

end Remembers

theorem remembers_run (hclock : Monotone clock) (hrequired : runtime.requireCapabilities = true)
    {start : Relay} (hstart : Remembers clock start) {events : List RelayEvent}
    (h : Meets (step P runtime clock) (KeepsSpelling P clock) start events) :
    Remembers clock (run (step P runtime clock) start events).state := by
  refine h.invariant (fun r event hevent hremembers => ?_) hstart
  rcases calm_or_passes P clock hrequired r event hremembers.saved with
    hcalm | ⟨http, permission, method, path, check, r₁, hhttp, hpasses, hcalm⟩
  · exact hremembers.calm hcalm
  · exact (hremembers.passes hclock hpasses (hevent _ hhttp)).calm hcalm

namespace Sample

open CapabilityGrantStore CapabilityGrantStore.Sample

/-- A relay at which the owner's grant is registered. -/
def start : Relay := { capabilities := (log packages relay 0 registeredOnce).state }

/-- The owner's request, with a spelling of the nonce. -/
def store (nonceB64 : String) : RelayEvent :=
  .request (.storeBlob (http nonceB64)
    { mailboxTag := "AA"
      expiresAt := 1
      ciphertext := "" })

def spelling : String := "AwMDAwMDAwMDAwMDAwMDAw"

/-- The check of the request. -/
def checkOf (nonceB64 : String) : PassedCheck :=
  { permission := "store", request := signed, nonceB64, consumedAt := 0 }

/-- The relay after the request: it has passed, and its header is remembered. -/
theorem after_store {r : Relay} {nonceB64 : String}
    (hactive : r.capabilities.active = start.capabilities.active)
    (hnonce : b64decode nonceB64 = .ok nonce) (hpresent : nonceB64 ≠ "")
    (hfresh : Table.find Prod.fst nonceB64 (r.capabilities.pruneNonces 0).seenNonces = none) :
    (step packages relay (fun _ => 0) r (store nonceB64)).2.capabilities
        = consumed nonceB64 0 r.capabilities
      ∧ (step packages relay (fun _ => 0) r (store nonceB64)).2.passed
        = r.passed ++ [checkOf nonceB64] := by
  have hregistered : registered packages r.capabilities (grant 0).capabilityId
      = some { grant := grant 0 } := by
    rw [← registered_registeredOnce]
    refine registered_congr ?_
    rw [record, hactive]
    rfl
  have hpasses := passes (isRegistered_iff.mpr ⟨_, hregistered, rfl, fun _ h => by cases h⟩) hnonce hpresent hfresh
  exact storeBlob_of_passes rfl (by decide) hpasses

theorem saved_start : start.capabilities.Saved := saved_log relay packages 0 registeredOnce

theorem seenNonces_start : start.capabilities.seenNonces = [] := by
  rw [start, state_registeredOnce]
  rfl

/-- After the first request. -/
theorem after_first :
    (step packages relay (fun _ => 0) start (store spelling)).2.capabilities
        = consumed spelling 0 start.capabilities
      ∧ (step packages relay (fun _ => 0) start (store spelling)).2.passed
        = [checkOf spelling] := by
  refine after_store rfl (by decide +kernel) (by decide) ?_
  rw [CapabilityGrantStore.pruneNonces, seenNonces_start]
  rfl

end Sample

end Relay
end Yakr
