import Yakr.Core.Codec
import Yakr.Core.Plain
import Yakr.Lib.Machine
import Yakr.Relay.App

/-!
# Yakr.Relay.Registry

**The capability store as a machine of its own.** The routes of a relay call its capability
store at their clock readings; here the calls stand alone, each with the time of its arrival.
What the later checks read of the store is, for each capability id, the grant that is
registered and the end of its overlap window; `Change` says all that a call can do to these.
-/

namespace Yakr

open Lib Effect Machine

variable (P : Packages) (runtime : RelayRuntime)

/-- A call of the store. -/
inductive CapabilityCall where
  | register (grant : CapabilityGrant) (registeredAt : Int)
  /-- `revoke_with_overlap` with the store's own window, as `issue_capability` calls it. -/
  | supersede (capabilityId : Bytes)
  | revokeImmediately (capabilityId : Bytes)
  | consumeNonce (nonceB64 : String)
  | restart (overlapWindowMs : Int)
deriving DecidableEq, Repr

/-- A registered grant, with the end of its overlap window once it is revoked. -/
structure Registration where
  grant : CapabilityGrant
  overlapUntilMs : Option Int := none
deriving DecidableEq, Repr

namespace CapabilityGrantStore

/-- A call at its clock reading. -/
def call (now : Int) : CapabilityCall → EStateM PyExc CapabilityGrantStore Unit
  | .register grant registeredAt =>
      register P grant runtime.relayIssuancePublic runtime.name runtime.relayTlsSpkiSha256 now
        registeredAt
  | .supersede capabilityId => revokeWithOverlap capabilityId now none
  | .revokeImmediately capabilityId => revokeImmediately capabilityId now
  | .consumeNonce nonceB64 => consumeNonce nonceB64 now
  | .restart overlapWindowMs => modify fun s => load overlapWindowMs s.file

/-- One call, and its answer. -/
def step (s : CapabilityGrantStore) (c : Int × CapabilityCall) :
    Except PyExc Unit × CapabilityGrantStore :=
  let result := (call P runtime c.1 c.2).run s
  (outcome result, after result)

/-- The log of a new store. -/
def log (overlapWindowMs : Int) (calls : List (Int × CapabilityCall)) :
    Log CapabilityGrantStore (Int × CapabilityCall) (Except PyExc Unit) :=
  run (step P runtime) { overlapWindowMs := overlapWindowMs } calls

@[simp] theorem state_log_concat (overlapWindowMs : Int) (calls : List (Int × CapabilityCall))
    (c : Int × CapabilityCall) :
    (log P runtime overlapWindowMs (calls ++ [c])).state
      = (step P runtime (log P runtime overlapWindowMs calls).state c).2 := by
  rw [log, run_concat]
  rfl

theorem events_log_concat (overlapWindowMs : Int) (calls : List (Int × CapabilityCall))
    (c : Int × CapabilityCall) :
    (log P runtime overlapWindowMs (calls ++ [c])).events
      = (log P runtime overlapWindowMs calls).events
        ++ [(c, (step P runtime (log P runtime overlapWindowMs calls).state c).1)] := by
  rw [log, run_concat]
  rfl

/-- The grant of a record. -/
def registration (record : GrantRecord) : Option Registration :=
  match CapabilityGrant.fromB64 P record.grantB64 with
  | .ok grant => some { grant, overlapUntilMs := record.overlapUntilMs }
  | .error _ => none

/-- The grant that is registered under an id. -/
def registered (s : CapabilityGrantStore) (capabilityId : Bytes) : Option Registration :=
  (s.record capabilityId).bind (registration P)

/-- The id that a call revokes, with the overlap window it leaves. -/
def revocation (s : CapabilityGrantStore) : CapabilityCall → Option (Bytes × Int)
  | .supersede capabilityId => some (capabilityId, s.overlapWindowMs)
  | .revokeImmediately capabilityId => some (capabilityId, 0)
  | _ => none

/-- The relay's signature, name and pin, and the expiry. -/
def Verified (grant : CapabilityGrant) (now : Int) : Prop :=
  verifyCapabilityGrant P grant runtime.relayIssuancePublic runtime.name
    runtime.relayTlsSpkiSha256 now = .ok ()

instance (grant : CapabilityGrant) (now : Int) : Decidable (Verified P runtime grant now) :=
  inferInstanceAs (Decidable (verifyCapabilityGrant P grant runtime.relayIssuancePublic
    runtime.name runtime.relayTlsSpkiSha256 now = .ok ()))

/-- What a call does to the registered grants. -/
inductive Change (s : CapabilityGrantStore) :
    Int × CapabilityCall → Except PyExc Unit → CapabilityGrantStore → Prop
  | kept {c : Int × CapabilityCall} {answer : Except PyExc Unit} {s' : CapabilityGrantStore} :
      (∀ grant registeredAt, c.2 = .register grant registeredAt → answer ≠ .ok ()) →
      (∀ id window, s.revocation c.2 = some (id, window) → registered P s id = none) →
      (∀ id, registered P s' id = registered P s id) → Change s c answer s'
  | registered {now registeredAt : Int} {grant : CapabilityGrant} {s' : CapabilityGrantStore} :
      Verified P runtime grant now →
      (∀ r, registered P s grant.capabilityId = some r →
        r.grant.capabilityGeneration ≤ grant.capabilityGeneration) →
      registered P s' grant.capabilityId = some { grant } →
      (∀ id, grant.capabilityId ≠ id → registered P s' id = registered P s id) →
      Change s (now, .register grant registeredAt) (.ok ()) s'
  | revoked {c : Int × CapabilityCall} {id : Bytes} {window : Int} {r : Registration}
      {s' : CapabilityGrantStore} :
      s.revocation c.2 = some (id, window) → registered P s id = some r →
      registered P s' id = some { r with overlapUntilMs := some (c.1 + window) } →
      (∀ id', id ≠ id' → registered P s' id' = registered P s id') → Change s c (.ok ()) s'

/-! ### Records -/

section Records

variable {s : CapabilityGrantStore} {id id' : Bytes} {record : GrantRecord}

@[simp] theorem record_save : s.save.record id = s.record id := rfl

@[simp] theorem record_pruneNonces {now : Int} :
    (pruneNonces now s).record id = s.record id := rfl

theorem record_setRecord_self : (setRecord id record s).record id = some record := by
  have hfind := @Table.find_upsert_self _ _ _ Prod.fst (b64encode id, record) s.active
  exact congrArg (Option.map Prod.snd) hfind

theorem record_setRecord_of_ne (h : id ≠ id') :
    (setRecord id record s).record id' = s.record id' :=
  congrArg (Option.map Prod.snd)
    (Table.find_upsert_of_ne fun hkey => h (b64encode_injective hkey))

end Records

/-- What is not yet in the file is nothing but forgotten nonces. -/
def Saved (s : CapabilityGrantStore) : Prop :=
  match s.file with
  | none => s.active = [] ∧ s.seenNonces = []
  | some file => file.active = s.active ∧ s.seenNonces ⊆ file.seenNonces

theorem saved_save (s : CapabilityGrantStore) : Saved s.save := ⟨rfl, fun _ h => h⟩

theorem Saved.pruneNonces {s : CapabilityGrantStore} (h : Saved s) (now : Int) :
    Saved (pruneNonces now s) := by
  rw [Saved] at h ⊢
  rw [CapabilityGrantStore.pruneNonces]
  cases hfile : s.file with
  | none =>
      rw [hfile] at h
      exact ⟨h.1, by simp [h.2]⟩
  | some file =>
      rw [hfile] at h
      exact ⟨h.1, fun seen hseen => h.2 (List.mem_of_mem_filter hseen)⟩

theorem saved_load (overlapWindowMs : Int) (file : Option CapabilityFile) :
    Saved (load overlapWindowMs file) := by
  cases file with
  | none => exact ⟨rfl, rfl⟩
  | some file => exact ⟨rfl, fun _ h => h⟩

/-- A restart forgets no nonce. -/
theorem Saved.mem_load {s : CapabilityGrantStore} (h : Saved s) (overlapWindowMs : Int)
    {seen : String × Int} (hseen : seen ∈ s.seenNonces) :
    seen ∈ (load overlapWindowMs s.file).seenNonces := by
  rw [Saved] at h
  cases hfile : s.file with
  | none =>
      rw [hfile] at h
      rw [h.2] at hseen
      cases hseen
  | some file =>
      rw [hfile] at h
      exact h.2 hseen

theorem Saved.active_load {s : CapabilityGrantStore} (h : Saved s) (overlapWindowMs : Int) :
    (load overlapWindowMs s.file).active = s.active := by
  rw [Saved] at h
  cases hfile : s.file with
  | none =>
      rw [hfile] at h
      exact h.1.symm
  | some file =>
      rw [hfile] at h
      exact h.1

/-! ### What a call does -/

section Calls

variable {P runtime} {s : CapabilityGrantStore} {now : Int} {id : Bytes}

theorem registered_congr {s' : CapabilityGrantStore} (h : s'.record id = s.record id) :
    registered P s' id = registered P s id := by
  rw [registered, registered, h]

theorem registered_eq_some {r : Registration} :
    registered P s id = some r ↔ ∃ record, s.record id = some record
      ∧ CapabilityGrant.fromB64 P record.grantB64 = .ok r.grant
      ∧ record.overlapUntilMs = r.overlapUntilMs := by
  rw [registered, Option.bind_eq_some_iff]
  refine exists_congr fun record => and_congr_right fun _ => ?_
  rw [registration]
  obtain ⟨g, overlapUntil⟩ := r
  cases CapabilityGrant.fromB64 P record.grantB64 with
  | error e => simp
  | ok grant => simp

/-- The grant that is registered under the id can be read and is of no later generation. -/
def Newest (P : Packages) (s : CapabilityGrantStore) (grant : CapabilityGrant) : Prop :=
  ∀ record, s.record grant.capabilityId = some record →
    ∃ prev, CapabilityGrant.fromB64 P record.grantB64 = .ok prev
      ∧ prev.capabilityGeneration ≤ grant.capabilityGeneration

theorem newest_of_registered {grant : CapabilityGrant} {r : Registration}
    (h : registered P s grant.capabilityId = some r)
    (hle : r.grant.capabilityGeneration ≤ grant.capabilityGeneration) : Newest P s grant := by
  intro record hrecord
  obtain ⟨record', hrecord', hgrant, -⟩ := registered_eq_some.mp h
  rw [hrecord] at hrecord'
  cases hrecord'
  exact ⟨r.grant, hgrant, hle⟩

theorem newest_new (overlapWindowMs : Int) (grant : CapabilityGrant) :
    Newest P { overlapWindowMs := overlapWindowMs } grant := nofun

/-- The store with a newly registered grant. -/
def accept (P : Packages) (grant : CapabilityGrant) (registeredAt : Int)
    (s : CapabilityGrantStore) : CapabilityGrantStore :=
  (setRecord grant.capabilityId { grantB64 := grant.toB64 P, registeredAt } s).save

theorem registered_accept_self (hcbor : P.CborLaws) {grant : CapabilityGrant} (registeredAt : Int) :
    registered P (accept P grant registeredAt s) grant.capabilityId = some { grant } :=
  registered_eq_some.mpr
    ⟨_, record_setRecord_self, CapabilityGrant.fromB64_toB64 hcbor grant, rfl⟩

theorem registered_accept_of_ne {grant : CapabilityGrant} {registeredAt : Int}
    (h : grant.capabilityId ≠ id) :
    registered P (accept P grant registeredAt s) id = registered P s id :=
  registered_congr (record_setRecord_of_ne h)

/-- A verified grant of no older generation takes the place of the one before. -/
theorem run_register {grant : CapabilityGrant} (registeredAt : Int)
    (hverified : Verified P runtime grant now) (hnewest : Newest P s grant) :
    (register P grant runtime.relayIssuancePublic runtime.name runtime.relayTlsSpkiSha256 now
      registeredAt).run s = .ok () (accept P grant registeredAt s) := by
  rw [Verified] at hverified
  simp only [register, EStateM.run_bind, hverified, run_orRaise_ok, EStateM.run_get]
  cases hrecord : s.record grant.capabilityId with
  | none => rfl
  | some existing =>
      obtain ⟨prev, hprev, hle⟩ := hnewest existing hrecord
      simp only [EStateM.run_bind, hprev, run_orRaise_ok, Int.not_lt.mpr hle, if_false]
      rfl

theorem step_register {grant : CapabilityGrant} (registeredAt : Int)
    (hverified : Verified P runtime grant now) (hnewest : Newest P s grant) :
    step P runtime s (now, .register grant registeredAt)
      = (.ok (), accept P grant registeredAt s) := by
  rw [step, call, run_register registeredAt hverified hnewest]
  rfl

/-- Every other grant is refused. -/
theorem run_register_refused {grant : CapabilityGrant} (registeredAt : Int)
    (h : ¬ (Verified P runtime grant now ∧ Newest P s grant)) :
    ∃ e, (register P grant runtime.relayIssuancePublic runtime.name runtime.relayTlsSpkiSha256 now
      registeredAt).run s = .error e s := by
  simp only [register, EStateM.run_bind]
  cases hverified : verifyCapabilityGrant P grant runtime.relayIssuancePublic runtime.name
      runtime.relayTlsSpkiSha256 now with
  | error e => exact ⟨e, rfl⟩
  | ok _ =>
      simp only [run_orRaise_ok, EStateM.run_get]
      cases hrecord : s.record grant.capabilityId with
      | none =>
          refine absurd ⟨hverified, fun record hsome => ?_⟩ h
          rw [hrecord] at hsome
          cases hsome
      | some existing =>
          simp only [EStateM.run_bind]
          cases hprev : CapabilityGrant.fromB64 P existing.grantB64 with
          | error e => exact ⟨e, rfl⟩
          | ok prev =>
              have hlt : grant.capabilityGeneration < prev.capabilityGeneration := by
                by_contra hle
                refine h ⟨hverified, fun record hsome => ?_⟩
                rw [hrecord] at hsome
                cases hsome
                exact ⟨prev, hprev, Int.not_lt.mp hle⟩
              simp only [run_orRaise_ok, hlt, if_true]
              exact ⟨_, rfl⟩

theorem step_register_refused {grant : CapabilityGrant} (registeredAt : Int)
    (h : ¬ (Verified P runtime grant now ∧ Newest P s grant)) :
    ∃ e, step P runtime s (now, .register grant registeredAt) = (.error e, s) := by
  obtain ⟨e, hrun⟩ := run_register_refused registeredAt h
  refine ⟨e, ?_⟩
  rw [step, call, hrun]
  rfl

/-- A revocation writes the end of the window into the record, if there is one. -/
theorem run_revokeWithOverlap (P : Packages) (s : CapabilityGrantStore) (id : Bytes) (now : Int)
    (window : Option Int) :
    ∃ s', (revokeWithOverlap id now window).run s = .ok () s'
      ∧ s'.seenNonces = s.seenNonces
      ∧ (Saved s → Saved s')
      ∧ (∀ id', id ≠ id' → registered P s' id' = registered P s id')
      ∧ registered P s' id = (registered P s id).map fun r =>
        { r with overlapUntilMs := some (now + window.getD s.overlapWindowMs) } := by
  simp only [revokeWithOverlap, EStateM.run_bind, EStateM.run_get]
  cases hrecord : s.record id with
  | none => exact ⟨s, rfl, rfl, fun h => h, fun _ _ => rfl, by simp [registered, hrecord]⟩
  | some record =>
      let revoked : GrantRecord :=
        { record with
          revokedAt := some now
          overlapUntilMs := some (now + window.getD s.overlapWindowMs) }
      refine ⟨(setRecord id revoked s).save, rfl, rfl, fun _ => saved_save _,
        fun id' hne => registered_congr (record_setRecord_of_ne hne), ?_⟩
      rw [registered, record_save, record_setRecord_self, registered, hrecord, Option.bind_some,
        Option.bind_some, registration, registration]
      cases CapabilityGrant.fromB64 P record.grantB64 with
      | error e => rfl
      | ok grant => rfl

theorem step_revocation (P : Packages) (runtime : RelayRuntime) {c : Int × CapabilityCall}
    {window : Option Int} (hcall : call P runtime c.1 c.2 = revokeWithOverlap id c.1 window) :
    ∃ s', step P runtime s c = (.ok (), s')
      ∧ (Saved s → Saved s')
      ∧ (∀ id', id ≠ id' → registered P s' id' = registered P s id')
      ∧ registered P s' id = (registered P s id).map fun r =>
        { r with overlapUntilMs := some (c.1 + window.getD s.overlapWindowMs) } := by
  obtain ⟨s', hrun, -, h⟩ := run_revokeWithOverlap P s id c.1 window
  refine ⟨s', ?_, h⟩
  rw [step, hcall, hrun]
  rfl

/-- A revocation, as a change of the registered grants. -/
theorem change_revocation {c : Int × CapabilityCall} (window : Option Int)
    (hcall : call P runtime c.1 c.2 = revokeWithOverlap id c.1 window)
    (hwindow : s.revocation c.2 = some (id, window.getD s.overlapWindowMs)) :
    Change P runtime s c (step P runtime s c).1 (step P runtime s c).2 := by
  obtain ⟨s', hstep, -, hother, hself⟩ := step_revocation P runtime (s := s) hcall
  rw [hstep]
  cases hregistered : registered P s id with
  | none =>
      refine .kept (fun grant registeredAt hc => ?_) (fun id' window' h => ?_) fun id' => ?_
      · rw [hc] at hwindow
        cases hwindow
      · rw [hwindow] at h
        cases h
        exact hregistered
      · by_cases hid : id = id'
        · subst hid
          rw [hself, hregistered]
          rfl
        · exact hother id' hid
  | some r =>
      rw [hregistered] at hself
      exact .revoked hwindow hregistered hself hother

variable (runtime)

/-- What a call does. -/
theorem change_step (hcbor : P.CborLaws) (hsaved : Saved s) (c : Int × CapabilityCall) :
    Change P runtime s c (step P runtime s c).1 (step P runtime s c).2 := by
  obtain ⟨now, c⟩ := c
  cases c with
  | register grant registeredAt =>
      by_cases h : Verified P runtime grant now ∧ Newest P s grant
      · rw [step_register registeredAt h.1 h.2]
        refine .registered h.1 (fun r hr => ?_) (registered_accept_self hcbor registeredAt)
          fun id hne => registered_accept_of_ne hne
        obtain ⟨record, hrecord, hgrant, -⟩ := registered_eq_some.mp hr
        obtain ⟨prev, hprev, hle⟩ := h.2 record hrecord
        rw [hgrant] at hprev
        cases hprev
        exact hle
      · obtain ⟨e, hstep⟩ := step_register_refused registeredAt h
        rw [hstep]
        exact .kept (fun _ _ _ h => by cases h) (fun _ _ h => by cases h) fun _ => rfl
  | supersede id => exact change_revocation none rfl rfl
  | revokeImmediately id => exact change_revocation (some 0) rfl rfl
  | consumeNonce nonceB64 =>
      refine .kept (fun _ _ h => by cases h) (fun _ _ h => by cases h) fun id => registered_congr ?_
      simp only [step, call, consumeNonce, EStateM.run_bind, EStateM.run_modify, EStateM.run_get]
      split <;> rfl
  | restart overlapWindowMs =>
      refine .kept (fun _ _ h => by cases h) (fun _ _ h => by cases h) fun id => registered_congr ?_
      have hactive := hsaved.active_load overlapWindowMs
      show (load overlapWindowMs s.file).record id = _
      rw [record, hactive, record]

/-- Every call saves what it changes. -/
theorem saved_step (hsaved : Saved s) (c : Int × CapabilityCall) :
    Saved (step P runtime s c).2 := by
  obtain ⟨now, c⟩ := c
  cases c with
  | register grant registeredAt =>
      by_cases h : Verified P runtime grant now ∧ Newest P s grant
      · rw [step_register registeredAt h.1 h.2]
        exact saved_save _
      · obtain ⟨e, hstep⟩ := step_register_refused registeredAt h
        rw [hstep]
        exact hsaved
  | supersede id =>
      obtain ⟨s', hstep, hkept, -⟩ :=
        step_revocation P runtime (s := s) (c := (now, .supersede id)) rfl
      rw [hstep]
      exact hkept hsaved
  | revokeImmediately id =>
      obtain ⟨s', hstep, hkept, -⟩ :=
        step_revocation P runtime (s := s) (c := (now, .revokeImmediately id)) rfl
      rw [hstep]
      exact hkept hsaved
  | consumeNonce nonceB64 =>
      simp only [step, call, consumeNonce, EStateM.run_bind, EStateM.run_modify, EStateM.run_get]
      split
      · exact hsaved.pruneNonces now
      · exact saved_save _
  | restart overlapWindowMs => exact saved_load _ _

theorem saved_log (P : Packages) (overlapWindowMs : Int) (calls : List (Int × CapabilityCall)) :
    Saved (log P runtime overlapWindowMs calls).state := by
  have hempty : Saved { overlapWindowMs := overlapWindowMs } := ⟨rfl, rfl⟩
  exact run_invariant (motive := Saved) (fun _ c hsaved => saved_step runtime hsaved c) hempty calls

end Calls

/-! ### What is registered -/

section Registered

variable {P} {s : CapabilityGrantStore} {grant : CapabilityGrant} {now : Int} {r : Registration}

theorem isRegistered_of_registered (h : registered P s grant.capabilityId = some r) (now : Int) :
    isRegistered P s grant now
      = .ok (decide (r.grant.capabilityGeneration = grant.capabilityGeneration
        ∧ ∀ ended ∈ r.overlapUntilMs, now < ended)) := by
  obtain ⟨record, hrecord, hgrant, hended⟩ := registered_eq_some.mp h
  rw [isRegistered, hrecord]
  simp only [hgrant, hended, bind, Except.bind, pure, Except.pure]
  by_cases hgeneration : r.grant.capabilityGeneration = grant.capabilityGeneration
  · cases r.overlapUntilMs with
    | none => simp [hgeneration]
    | some ended =>
        have hflip : decide (ended ≤ now) = !decide (now < ended) := by
          simp only [← decide_not, Int.not_lt]
        simp [hgeneration, hflip]
  · simp [hgeneration]

theorem isRegistered_iff :
    isRegistered P s grant now = .ok true ↔ ∃ r, registered P s grant.capabilityId = some r
      ∧ r.grant.capabilityGeneration = grant.capabilityGeneration
      ∧ ∀ ended ∈ r.overlapUntilMs, now < ended := by
  constructor
  · intro h
    cases hregistered : registered P s grant.capabilityId with
    | none =>
        rw [isRegistered] at h
        cases hrecord : s.record grant.capabilityId with
        | none =>
            rw [hrecord] at h
            cases h
        | some record =>
            rw [hrecord] at h
            obtain ⟨stored, hstored, -⟩ := bind_ok.mp h
            have hsome : registered P s grant.capabilityId
                = some { grant := stored, overlapUntilMs := record.overlapUntilMs } :=
              registered_eq_some.mpr ⟨record, hrecord, hstored, rfl⟩
            rw [hregistered] at hsome
            cases hsome
    | some r =>
        rw [isRegistered_of_registered hregistered now] at h
        exact ⟨r, rfl, of_decide_eq_true (Except.ok.inj h)⟩
  · rintro ⟨r, hregistered, hr⟩
    rw [isRegistered_of_registered hregistered now, decide_eq_true hr]

end Registered

/-! ### A relay and its grants -/

namespace Sample

abbrev packages : Packages := codedPackages plainPackages

def relayKey : PrivateKey := BytesN.fill 32 9

def relay : RelayRuntime :=
  { role := .mailbox
    wrapSecret := none
    name := "relay"
    requireCapabilities := true
    relayIssuancePublic := (packages.ed25519Public relayKey).1
    relayIssuancePrivate := relayKey.1
    relayTlsSpkiSha256 := List.replicate 32 5 }

/-- What the relay signs for the owner of a key. -/
def grantFor (authPublic : Bytes) (generation : Int) : CapabilityGrant :=
  let grant : CapabilityGrant :=
    { capabilityId := List.replicate 16 1
      capabilityGeneration := generation
      relayName := relay.name
      relayTlsSpkiSha256 := relay.relayTlsSpkiSha256
      permissions := ["post"]
      expiresAt := defaultCapabilityTtlMs
      authPublic
      relaySignature := [] }
  { grant with relaySignature := packages.ed25519Sign relayKey (grant.unsignedPayload packages) }

/-- The grant of a mailbox owner. -/
def grant (generation : Int) : CapabilityGrant := grantFor (List.replicate 32 2) generation

/-- The grant is registered. -/
def registeredOnce : List (Int × CapabilityCall) := [(0, .register (grant 0) 0)]

theorem verified_grant : Verified packages relay (grant 0) 0 := by decide +kernel

theorem state_registeredOnce : (log packages relay 0 registeredOnce).state
    = accept packages (grant 0) 0 { overlapWindowMs := 0 } :=
  congrArg Prod.snd (step_register 0 verified_grant (newest_new 0 _))

theorem registered_registeredOnce :
    registered packages (log packages relay 0 registeredOnce).state (grant 0).capabilityId
      = some { grant := grant 0 } := by
  rw [state_registeredOnce]
  exact registered_accept_self (codedPackages_cborLaws plainPackages) 0

end Sample

end CapabilityGrantStore
end Yakr
