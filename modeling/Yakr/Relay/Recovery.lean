import Yakr.Lib.Lockstep
import Yakr.Relay.Replay

/-!
# Yakr.Relay.Recovery

**A relay that starts again.** The capability store is in memory, and its file is written after each
change but one: forgetting old nonces is not written at once. So a restart brings back nonces that
had been forgotten. As the clock does not go back they are forgotten again before anything is
looked up among them, and no answer tells a relay that was restarted from one that was not
(`restarts_unnoticed`).
-/

namespace Yakr

open Lib Effect Machine

variable {P : Packages} {runtime : RelayRuntime} {clock : Nat → Int} {window : Int}

namespace CapabilityGrantStore

/-! ### What a restart brings back -/

/-- The nonces that `_prune_nonces` keeps. -/
def fresh (now : Int) (seen : List (String × Int)) : List (String × Int) :=
  seen.filter fun nonce => now - nonce.2 ≤ 10 * 60 * 1000

/-- What was forgotten before is forgotten later. -/
theorem fresh_fresh {t now : Int} (h : t ≤ now) (seen : List (String × Int)) :
    fresh now (fresh t seen) = fresh now seen := by
  unfold fresh
  rw [List.filter_filter]
  refine List.filter_congr fun nonce _ => ?_
  have hearlier : now - nonce.2 ≤ 10 * 60 * 1000 → t - nonce.2 ≤ 10 * 60 * 1000 := by omega
  simpa only [Bool.and_eq_left_iff_imp, decide_eq_true_eq] using hearlier

/-- At a time, two stores are the same but for what is forgotten then. -/
structure SameAt (t : Int) (s s' : CapabilityGrantStore) : Prop where
  active : s.active = s'.active
  overlapWindowMs : s.overlapWindowMs = s'.overlapWindowMs
  nonces : fresh t s.seenNonces = fresh t s'.seenNonces

/-- A restart makes no difference at the time. -/
def Recovers (window t : Int) (s : CapabilityGrantStore) : Prop :=
  SameAt t (load window s.file) s

/-- A store that restarts, beside one that does not. -/
structure Beside (window t : Int) (s s' : CapabilityGrantStore) : Prop where
  same : SameAt t s s'
  recovers : Recovers window t s

namespace SameAt

variable {t t' : Int} {s s' s'' : CapabilityGrantStore}

theorem refl (t : Int) (s : CapabilityGrantStore) : SameAt t s s := ⟨rfl, rfl, rfl⟩

theorem trans (h : SameAt t s s') (h' : SameAt t s' s'') : SameAt t s s'' :=
  ⟨h.active.trans h'.active, h.overlapWindowMs.trans h'.overlapWindowMs, h.nonces.trans h'.nonces⟩

theorem later (h : SameAt t s s') (hle : t ≤ t') : SameAt t' s s' := by
  refine ⟨h.active, h.overlapWindowMs, ?_⟩
  rw [← fresh_fresh hle s.seenNonces, h.nonces, fresh_fresh hle]

theorem record (h : SameAt t s s') (id : Bytes) : s.record id = s'.record id := by
  unfold CapabilityGrantStore.record
  rw [h.active]

theorem isRegistered (h : SameAt t s s') (grant : CapabilityGrant) (now : Int) :
    s.isRegistered P grant now = s'.isRegistered P grant now := by
  unfold CapabilityGrantStore.isRegistered
  rw [h.record]

theorem setRecord (h : SameAt t s s') (id : Bytes) (record : GrantRecord) :
    SameAt t (setRecord id record s) (setRecord id record s') := by
  refine ⟨?_, h.overlapWindowMs, h.nonces⟩
  unfold CapabilityGrantStore.setRecord
  dsimp only
  rw [h.active]

end SameAt

section Beside

variable {t t' : Int} {s s' : CapabilityGrantStore}

/-- A store that has just been saved recovers as it is. -/
theorem recovers_save (window t : Int) (s : CapabilityGrantStore) : Recovers window t s.save :=
  ⟨rfl, rfl, rfl⟩

theorem Beside.save (h : SameAt t s s') : Beside window t s.save s'.save :=
  ⟨⟨h.active, h.overlapWindowMs, h.nonces⟩, recovers_save window t s⟩

theorem Beside.later (h : Beside window t s s') (hle : t ≤ t') : Beside window t' s s' :=
  ⟨h.same.later hle, h.recovers.later hle⟩

/-- A restart keeps the pair. -/
theorem Beside.restart (h : Beside window t s s') : Beside window t (load window s.file) s' := by
  refine ⟨h.recovers.trans h.same, ?_⟩
  unfold Recovers
  cases hfile : s.file with
  | none => exact .refl t _
  | some file => exact .refl t _

/-- What is forgotten at the time makes no difference. -/
theorem Beside.pruneNonces (h : Beside window t s s') :
    Beside window t (pruneNonces t s) (pruneNonces t s') := by
  refine ⟨⟨h.same.active, h.same.overlapWindowMs, ?_⟩,
    ⟨h.recovers.active, h.recovers.overlapWindowMs, ?_⟩⟩
  · exact congrArg (fresh t) h.same.nonces
  · exact h.recovers.nonces.trans (fresh_fresh (Int.le_refl t) s.seenNonces).symm

theorem seenNonces_pruneNonces (now : Int) (s : CapabilityGrantStore) :
    (CapabilityGrantStore.pruneNonces now s).seenNonces = fresh now s.seenNonces := rfl

/-! ### Every call in lockstep -/

/-- A change that is saved. -/
theorem lockstep_saved {ε : Type} {f : CapabilityGrantStore → CapabilityGrantStore}
    (hf : ∀ s s', SameAt t s s' → SameAt t (f s) (f s')) :
    Lockstep (Beside window t)
      (do modify f; modify CapabilityGrantStore.save : EStateM ε CapabilityGrantStore Unit)
      (do modify f; modify CapabilityGrantStore.save) :=
  fun s s' h => .ok _ (.save (hf s s' h.same))

theorem lockstep_register (grant : CapabilityGrant) (relaySigningPublic : Bytes)
    (relayName : String) (relayTlsSpkiSha256 : Bytes) (verifiedAt registeredAt : Int) :
    Lockstep (Beside window t)
      (register P grant relaySigningPublic relayName relayTlsSpkiSha256 verifiedAt registeredAt)
      (register P grant relaySigningPublic relayName relayTlsSpkiSha256 verifiedAt
        registeredAt) := by
  have hsaved : Lockstep (Beside window t)
      (do
        modify (setRecord grant.capabilityId { grantB64 := grant.toB64 P, registeredAt })
        modify CapabilityGrantStore.save : EStateM PyExc CapabilityGrantStore Unit) _ :=
    lockstep_saved fun s s' h => h.setRecord _ _
  unfold register
  refine (Lockstep.orRaise _).bind fun _ => Lockstep.get_bind fun s s' h => ?_
  rw [h.same.record]
  cases s'.record grant.capabilityId with
  | none => exact hsaved
  | some existing =>
      refine (Lockstep.orRaise _).bind fun prev => ?_
      exact Lockstep.guard hsaved

theorem lockstep_revokeWithOverlap (id : Bytes) (now : Int) (overlapWindowMs : Option Int) :
    Lockstep (Beside window t) (revokeWithOverlap id now overlapWindowMs)
      (revokeWithOverlap id now overlapWindowMs) := by
  unfold revokeWithOverlap
  refine Lockstep.get_bind fun s s' h => ?_
  dsimp only
  rw [h.same.record, h.same.overlapWindowMs]
  cases s'.record id with
  | none => exact .pure _
  | some record => exact lockstep_saved fun s s' h => h.setRecord _ _

/-- A nonce is looked up among those that are not forgotten at the time. -/
theorem lockstep_consumeNonce (nonceB64 : String) (now : Int) :
    Lockstep (Beside window now) (consumeNonce nonceB64 now) (consumeNonce nonceB64 now) := by
  intro s s' h
  have hpruned := h.pruneNonces
  unfold consumeNonce
  rw [run_modify_bind, run_modify_bind, run_get_bind, run_get_bind, seenNonces_pruneNonces,
    seenNonces_pruneNonces, h.same.nonces]
  by_cases hseen : (Table.find Prod.fst nonceB64 (fresh now s'.seenNonces)).isSome = true
  · rw [if_pos hseen]
    exact .error _ hpruned
  · rw [if_neg hseen]
    refine .ok _ (.save ⟨h.same.active, h.same.overlapWindowMs, ?_⟩)
    show fresh now (Table.upsert Prod.fst (nonceB64, now) (fresh now s.seenNonces)) = _
    rw [h.same.nonces]
    rfl

end Beside

end CapabilityGrantStore

/-! ### Every route in lockstep -/

namespace Relay

open CapabilityGrantStore (Beside)

/-- A relay that restarts, beside one that does not: they differ only in nonces that are forgotten at
the last clock reading. -/
structure SideBySide (clock : Nat → Int) (window : Int) (r r' : Relay) : Prop where
  blobs : r.blobs = r'.blobs
  pairing : r.pairing = r'.pairing
  readings : r.readings = r'.readings
  passed : r.passed = r'.passed
  capabilities : Beside window (clock (r.readings - 1)) r.capabilities r'.capabilities

section Parts

variable {ε α : Type}

theorem lockstep_tick (hclock : Monotone clock) :
    Lockstep (SideBySide clock window) (tick clock : EStateM ε Relay Int) (tick clock) := by
  intro r r' h
  have hlater : Beside window (clock r.readings) r.capabilities r'.capabilities :=
    h.capabilities.later (hclock (Nat.sub_le r.readings 1))
  unfold tick
  rw [run_get_bind, run_get_bind, h.readings]
  rw [h.readings] at hlater
  exact .ok _ ⟨h.blobs, h.pairing, rfl, h.passed, hlater⟩

theorem lockstep_onBlobs (m : EStateM PyExc BlobStore α) :
    Lockstep (SideBySide clock window) (onBlobs m) (onBlobs m) := by
  refine Lockstep.onPart (Lockstep.self m) (fun r r' h => h.blobs) fun r r' b b' h hb => ?_
  exact ⟨hb, h.pairing, h.readings, h.passed, h.capabilities⟩

theorem lockstep_onPairing (m : EStateM PyExc PairingStore α) :
    Lockstep (SideBySide clock window) (onPairing m) (onPairing m) := by
  refine Lockstep.onPart (Lockstep.self m) (fun r r' h => h.pairing) fun r r' b b' h hb => ?_
  exact ⟨h.blobs, hb, h.readings, h.passed, h.capabilities⟩

theorem lockstep_onCapabilities {m : EStateM PyExc CapabilityGrantStore α}
    (hm : ∀ t, Lockstep (Beside window t) m m) :
    Lockstep (SideBySide clock window) (onCapabilities m) (onCapabilities m) := by
  intro r r' h
  exact (hm _ _ _ h.capabilities).onPart fun s s' hs =>
    ⟨h.blobs, h.pairing, h.readings, h.passed, hs⟩

theorem lockstep_rescue {body : BodyM α} (hbody : Lockstep (SideBySide clock window) body body)
    (handler : PyExc → HttpException) :
    Lockstep (SideBySide clock window) (rescue body handler) (rescue body handler) := by
  intro r r' h
  have htogether := hbody r r' h
  unfold rescue
  unfold EStateM.run at htogether ⊢
  dsimp only
  generalize body r = x at htogether
  generalize body r' = x' at htogether
  cases htogether with
  | ok a h => exact .ok a h
  | error e h => exact .error _ h

end Parts

section Checks

variable (hclock : Monotone clock)
include hclock

theorem lockstep_verifyTicket (ticket : RelayTicket) (permission : String) :
    Lockstep (SideBySide clock window) (verifyTicket P runtime clock ticket permission)
      (verifyTicket P runtime clock ticket permission) :=
  (lockstep_tick hclock).bind fun _ => .orRaise _

theorem lockstep_verifyAny (ticket : RelayTicket) (permissions : List String) :
    Lockstep (SideBySide clock window) (verifyAny P runtime clock ticket permissions)
      (verifyAny P runtime clock ticket permissions) := by
  induction permissions with
  | nil => exact .raise _
  | cons permission permissions ih =>
      exact (lockstep_verifyTicket hclock ticket permission).tryCatch fun e =>
        .ite _ ih (.raise e)

theorem lockstep_checkBootstrapTicket (ticketB64 : Option String) :
    Lockstep (SideBySide clock window) (checkBootstrapTicket P runtime clock ticketB64)
      (checkBootstrapTicket P runtime clock ticketB64) := by
  unfold checkBootstrapTicket
  cases ticketB64 with
  | none => exact .raise _
  | some ticketB64 =>
      exact lockstep_rescue ((Lockstep.orRaise _).bind fun ticket =>
        lockstep_verifyAny hclock ticket _) _

theorem lockstep_checkTicket (ticketB64 : Option String) (permission : String) :
    Lockstep (SideBySide clock window) (checkTicket P runtime clock ticketB64 permission)
      (checkTicket P runtime clock ticketB64 permission) := by
  unfold checkTicket
  refine .ite _ (.pure _) ?_
  cases ticketB64 with
  | none => exact .raise _
  | some ticketB64 =>
      exact lockstep_rescue ((Lockstep.orRaise _).bind fun ticket =>
        lockstep_verifyTicket hclock ticket permission) _

/-- The nonce is looked up at the last clock reading. -/
theorem lockstep_consume {α : Type} {rest : Int → BodyM α}
    (hrest : ∀ now, Lockstep (SideBySide clock window) (rest now) (rest now)) (nonceB64 : String) :
    Lockstep (SideBySide clock window)
      (do
        let now ← tick clock
        onCapabilities (CapabilityGrantStore.consumeNonce nonceB64 now)
        rest now)
      (do
        let now ← tick clock
        onCapabilities (CapabilityGrantStore.consumeNonce nonceB64 now)
        rest now) := by
  intro r r' h
  have hlater : Beside window (clock r.readings) r.capabilities r'.capabilities :=
    h.capabilities.later (hclock (Nat.sub_le r.readings 1))
  have hticked : Together (SideBySide clock window)
      ((onCapabilities (CapabilityGrantStore.consumeNonce nonceB64 (clock r.readings))).run
        { r with readings := r.readings + 1 })
      ((onCapabilities (CapabilityGrantStore.consumeNonce nonceB64 (clock r.readings))).run
        { r' with readings := r.readings + 1 }) := by
    refine Together.onPart (Q := Beside window (clock r.readings)) ?_ fun s s' hs => ?_
    · exact CapabilityGrantStore.lockstep_consumeNonce nonceB64 (clock r.readings) _ _ hlater
    · exact ⟨h.blobs, h.pairing, rfl, h.passed, hs⟩
  rw [run_tick_bind, run_tick_bind, ← h.readings]
  exact hticked.bind fun _ => hrest _

theorem lockstep_verifyCapability (permission method path : String) (body : Bytes)
    (grantB64 timestampRaw nonceB64 signatureB64 : String) :
    Lockstep (SideBySide clock window)
      (verifyCapability P runtime clock permission method path body grantB64 timestampRaw nonceB64
        signatureB64)
      (verifyCapability P runtime clock permission method path body grantB64 timestampRaw nonceB64
        signatureB64) := by
  unfold verifyCapability
  refine (Lockstep.orRaise _).bind fun grant => (lockstep_tick hclock).bind fun now =>
    (Lockstep.orRaise _).bind fun _ => (lockstep_tick hclock).bind fun now =>
    Lockstep.get_bind fun r r' h => ?_
  rw [h.capabilities.same.isRegistered]
  refine (Lockstep.orRaise _).bind fun registered => Lockstep.guard (Lockstep.guard ?_)
  refine (Lockstep.orRaise _).bind fun signature => (Lockstep.orRaise _).bind fun timestampMs =>
    (Lockstep.orRaise _).bind fun nonce => (lockstep_tick hclock).bind fun now =>
    (Lockstep.orRaise _).bind fun _ => lockstep_consume hclock (fun now => ?_) nonceB64
  refine .modify fun r r' h => ?_
  exact ⟨h.blobs, h.pairing, h.readings, congrArg (· ++ _) h.passed, h.capabilities⟩

theorem lockstep_checkCapability (http : SignedHttp) (permission method path : String) :
    Lockstep (SideBySide clock window)
      (checkCapability P runtime clock http permission method path)
      (checkCapability P runtime clock http permission method path) := by
  unfold checkCapability
  refine .ite _ (.pure _) (.guard ?_)
  split
  · exact .guard (lockstep_rescue (lockstep_verifyCapability hclock _ _ _ _ _ _ _ _) _)
  · exact .raise _

theorem lockstep_authorizeRequest (http : SignedHttp) (permission method path : String)
    (ticketB64 : Option String) :
    Lockstep (SideBySide clock window)
      (authorizeRequest P runtime clock http permission method path ticketB64)
      (authorizeRequest P runtime clock http permission method path ticketB64) :=
  .ite _ (lockstep_checkCapability hclock http permission method path)
    (lockstep_checkTicket hclock ticketB64 permission)

end Checks

section Routes

variable (hclock : Monotone clock)
include hclock

theorem lockstep_registerGrant (grant : CapabilityGrant) :
    Lockstep (SideBySide clock window) (registerGrant P runtime clock grant)
      (registerGrant P runtime clock grant) :=
  (lockstep_tick hclock).bind fun _ => (lockstep_tick hclock).bind fun _ =>
    lockstep_onCapabilities fun _ => CapabilityGrantStore.lockstep_register _ _ _ _ _ _

theorem lockstep_supersede (capabilityId : Bytes) :
    Lockstep (SideBySide clock window) (supersede clock capabilityId)
      (supersede clock capabilityId) :=
  (lockstep_tick hclock).bind fun _ =>
    lockstep_onCapabilities fun _ => CapabilityGrantStore.lockstep_revokeWithOverlap _ _ _

theorem lockstep_issueGrant (request : CapabilityIssueRequest) :
    Lockstep (SideBySide clock window) (issueGrant P runtime clock request)
      (issueGrant P runtime clock request) := by
  have hregister : ∀ grant : CapabilityGrant, Lockstep (SideBySide clock window)
      (do
        registerGrant P runtime clock grant
        return grant : BodyM CapabilityGrant) _ := fun grant =>
    (lockstep_registerGrant hclock grant).bind fun _ => .pure grant
  unfold issueGrant
  refine (Lockstep.orRaise _).bind fun authPublic => (Lockstep.orRaise _).bind fun capabilityId =>
    (Lockstep.orRaise _).bind fun issuanceSalt => Lockstep.guard (Lockstep.guard ?_)
  refine (Lockstep.orRaise _).bind fun relayPrivate => (lockstep_tick hclock).bind fun now =>
    (Lockstep.orRaise _).bind fun grant => ?_
  cases request.supersedesCapabilityId with
  | none => exact hregister grant
  | some superseded =>
      refine .ite _ ?_ (hregister grant)
      exact (Lockstep.orRaise _).bind fun supersededId =>
        (lockstep_supersede hclock supersededId).bind fun _ => hregister grant

theorem lockstep_issueCapability (request : CapabilityIssueRequest) :
    Lockstep (SideBySide clock window) (issueCapability P runtime clock request)
      (issueCapability P runtime clock request) := by
  unfold issueCapability
  refine .guard ((lockstep_checkBootstrapTicket hclock request.ticket).bind fun _ => ?_)
  exact (lockstep_rescue (lockstep_issueGrant hclock request) _).bind fun _ => .pure _

theorem lockstep_registerCapability (grantB64 : String) :
    Lockstep (SideBySide clock window) (registerCapability P runtime clock grantB64)
      (registerCapability P runtime clock grantB64) := by
  unfold registerCapability
  refine .guard ((lockstep_rescue ?_ _).bind fun _ => .pure _)
  exact (Lockstep.orRaise _).bind fun grant =>
    (lockstep_registerGrant hclock grant).bind fun _ => .pure grant

theorem lockstep_revokeCapability (capabilityId ticket : String) :
    Lockstep (SideBySide clock window) (revokeCapability P runtime clock capabilityId ticket)
      (revokeCapability P runtime clock capabilityId ticket) := by
  unfold revokeCapability
  refine (lockstep_checkBootstrapTicket hclock (some ticket)).bind fun _ =>
    (lockstep_rescue ?_ _).bind fun _ => .pure _
  refine (Lockstep.orRaise _).bind fun id => .guard ((lockstep_tick hclock).bind fun now => ?_)
  exact lockstep_onCapabilities fun _ => CapabilityGrantStore.lockstep_revokeWithOverlap _ _ _

theorem lockstep_keepBlob (mailboxTag : Bytes) (expiresAt : Int) (ciphertext : Bytes) :
    Lockstep (SideBySide clock window) (keepBlob clock mailboxTag expiresAt ciphertext)
      (keepBlob clock mailboxTag expiresAt ciphertext) :=
  (lockstep_tick hclock).bind fun _ => lockstep_onBlobs _

theorem lockstep_readBlobs {ε : Type} (mailboxTag : Bytes) :
    Lockstep (SideBySide clock window)
      (readBlobs clock mailboxTag : EStateM ε Relay (List StoredBlob))
      (readBlobs clock mailboxTag) := by
  unfold readBlobs
  refine (lockstep_tick hclock).bind fun now => Lockstep.get_bind fun r r' h => ?_
  rw [h.blobs]
  exact .pure _

theorem lockstep_storeBlob (http : SignedHttp) (payload : BlobStoreRequest) :
    Lockstep (SideBySide clock window) (storeBlob P runtime clock http payload)
      (storeBlob P runtime clock http payload) := by
  unfold storeBlob
  refine .guard ((lockstep_authorizeRequest hclock http _ _ _ _).bind fun _ =>
    (lockstep_rescue ?_ _).bind fun _ => .pure _)
  exact (Lockstep.orRaise _).bind fun _ => (Lockstep.orRaise _).bind fun _ =>
    lockstep_keepBlob hclock _ _ _

omit hclock in
theorem lockstep_decodeTag (mailboxTag : String) :
    Lockstep (SideBySide clock window) (decodeTag mailboxTag) (decodeTag mailboxTag) :=
  lockstep_rescue (.orRaise _) _

theorem lockstep_collectBlobs (mailboxTags : List String) (items : List BlobResponse) :
    Lockstep (SideBySide clock window) (collectBlobs clock mailboxTags items)
      (collectBlobs clock mailboxTags items) := by
  induction mailboxTags generalizing items with
  | nil => exact .pure items
  | cons mailboxTag mailboxTags ih =>
      exact (lockstep_decodeTag mailboxTag).bind fun tagBytes =>
        (lockstep_readBlobs hclock tagBytes).bind fun blobs => ih _

theorem lockstep_fetchBlobsPost (http : SignedHttp) (payload : FetchRequest) :
    Lockstep (SideBySide clock window) (fetchBlobsPost P runtime clock http payload)
      (fetchBlobsPost P runtime clock http payload) := by
  unfold fetchBlobsPost
  refine .guard ((lockstep_authorizeRequest hclock http _ _ _ _).bind fun _ => .guard ?_)
  exact (lockstep_collectBlobs hclock _ _).bind fun _ => .pure _

theorem lockstep_fetchBlobsLegacy (mailboxTag : String) :
    Lockstep (SideBySide clock window) (fetchBlobsLegacy clock mailboxTag)
      (fetchBlobsLegacy clock mailboxTag) :=
  (lockstep_decodeTag mailboxTag).bind fun tagBytes =>
    (lockstep_readBlobs hclock tagBytes).bind fun _ => .pure _

theorem lockstep_relayPacket (packet : String) (ticket : Option String)
    (forwarded : Except PyExc (Nat × String)) :
    Lockstep (SideBySide clock window) (relayPacket P runtime clock packet ticket forwarded)
      (relayPacket P runtime clock packet ticket forwarded) := by
  unfold relayPacket
  refine .guard ((lockstep_checkTicket hclock ticket "forward").bind fun _ => ?_)
  cases runtime.wrapSecret with
  | none => exact .raise _
  | some wrapSecret =>
      have hdecoded : Lockstep (SideBySide clock window)
          (do
            let packet ← orRaise (b64decode packet)
            orRaise (decodeEntryPacket P packet wrapSecret) : BodyM _) _ :=
        (Lockstep.orRaise _).bind fun _ => .orRaise _
      refine (lockstep_rescue hdecoded _).bind fun decoded => ?_
      cases forwarded with
      | error e => exact .raise _
      | ok answer => exact .guard (.pure _)

theorem lockstep_ingestPacket (inner : String) (ticket : Option String) :
    Lockstep (SideBySide clock window) (ingestPacket P runtime clock inner ticket)
      (ingestPacket P runtime clock inner ticket) := by
  unfold ingestPacket
  refine .guard ((lockstep_checkTicket hclock ticket "store").bind fun _ => ?_)
  cases runtime.wrapSecret with
  | none => exact .raise _
  | some wrapSecret =>
      refine (lockstep_rescue ?_ _).bind fun _ => .pure _
      exact (Lockstep.orRaise _).bind fun _ => (Lockstep.orRaise _).bind fun _ =>
        lockstep_keepBlob hclock _ _ _

theorem lockstep_pairRegister (inviteSecret : String) :
    Lockstep (SideBySide clock window) (pairRegister P clock inviteSecret)
      (pairRegister P clock inviteSecret) := by
  unfold pairRegister
  refine (lockstep_rescue ?_ _).bind fun _ => .pure _
  exact (Lockstep.orRaise _).bind fun _ => (lockstep_tick hclock).bind fun _ => lockstep_onPairing _

theorem lockstep_pairStoreRequest (request : String) :
    Lockstep (SideBySide clock window) (pairStoreRequest P clock request)
      (pairStoreRequest P clock request) := by
  unfold pairStoreRequest
  refine (lockstep_rescue ?_ _).bind fun _ => .pure _
  exact (Lockstep.orRaise _).bind fun _ => (Lockstep.orRaise _).bind fun _ =>
    (lockstep_tick hclock).bind fun _ => lockstep_onPairing _

omit hclock in
theorem lockstep_pairPending (inviteTag : String) :
    Lockstep (SideBySide clock window) (pairPending inviteTag) (pairPending inviteTag) := by
  unfold pairPending
  refine Lockstep.get_bind fun r r' h => ?_
  rw [h.pairing]
  cases r'.pairing.getPendingRequest inviteTag with
  | none => exact .raise _
  | some pending => exact .pure _

omit hclock in
theorem lockstep_pairStoreResponse (inviteSecret response : String) :
    Lockstep (SideBySide clock window) (pairStoreResponse P inviteSecret response)
      (pairStoreResponse P inviteSecret response) := by
  unfold pairStoreResponse
  refine (lockstep_rescue ?_ _).bind fun _ => .pure _
  exact (Lockstep.orRaise _).bind fun _ => (Lockstep.orRaise _).bind fun _ => lockstep_onPairing _

omit hclock in
theorem lockstep_pairFetchResponse (inviteTag : String) :
    Lockstep (SideBySide clock window) (pairFetchResponse inviteTag)
      (pairFetchResponse inviteTag) := by
  unfold pairFetchResponse
  refine Lockstep.get_bind fun r r' h => ?_
  rw [h.pairing]
  cases r'.pairing.getResponse inviteTag with
  | none => exact .raise _
  | some response => exact .pure _

/-- **Every route.** -/
theorem lockstep_route (request : RelayRequest) :
    Lockstep (SideBySide clock window) (route P runtime clock request)
      (route P runtime clock request) := by
  cases request with
  | healthz => exact .pure _
  | issueCapability request => exact lockstep_issueCapability hclock request
  | registerCapability grant => exact lockstep_registerCapability hclock grant
  | revokeCapability capabilityId ticket => exact lockstep_revokeCapability hclock capabilityId ticket
  | storeBlob http payload => exact lockstep_storeBlob hclock http payload
  | fetchBlobsPost http payload => exact lockstep_fetchBlobsPost hclock http payload
  | fetchBlobsLegacy mailboxTag => exact lockstep_fetchBlobsLegacy hclock mailboxTag
  | relayPacket packet ticket forwarded => exact lockstep_relayPacket hclock packet ticket forwarded
  | ingestPacket inner ticket => exact lockstep_ingestPacket hclock inner ticket
  | pairRegister inviteSecret => exact lockstep_pairRegister hclock inviteSecret
  | pairStoreRequest request => exact lockstep_pairStoreRequest hclock request
  | pairPending inviteTag => exact lockstep_pairPending inviteTag
  | pairStoreResponse inviteSecret response => exact lockstep_pairStoreResponse inviteSecret response
  | pairFetchResponse inviteTag => exact lockstep_pairFetchResponse inviteTag

theorem lockstep_sweepExpired :
    Lockstep (SideBySide clock window) (sweepExpired clock) (sweepExpired clock) :=
  (lockstep_tick hclock).bind fun _ => (lockstep_onBlobs _).bind fun _ =>
    (lockstep_tick hclock).bind fun _ => (lockstep_onPairing _).bind fun _ => .pure _

end Routes

end Relay

/-! ### Runs -/

def RelayEvent.isRestart : RelayEvent → Bool
  | .restart _ => true
  | _ => false

namespace Relay

/-- The answers to the requests of a run. -/
def answers (log : Log Relay RelayEvent (Option (Except HttpException RelayResponse))) :
    List (Except HttpException RelayResponse) :=
  log.events.filterMap Prod.snd

theorem answers_ask (log : Log Relay RelayEvent (Option (Except HttpException RelayResponse)))
    (event : RelayEvent) :
    answers (log.ask (step P runtime clock) event)
      = answers log ++ (step P runtime clock log.state event).1.toList := by
  unfold answers Log.ask
  rw [List.filterMap_append]
  cases (step P runtime clock log.state event).1 with
  | none => simp
  | some answer => simp

/-- One event that both relays have. -/
theorem sideBySide_step (hclock : Monotone clock) {r r' : Relay} (h : SideBySide clock window r r')
    {event : RelayEvent} (hevent : event.isRestart = false) :
    (step P runtime clock r event).1 = (step P runtime clock r' event).1
      ∧ SideBySide clock window (step P runtime clock r event).2
        (step P runtime clock r' event).2 := by
  cases event with
  | request request =>
      have hroute : Lockstep (SideBySide clock window) (route P runtime clock request)
          (route P runtime clock request) := lockstep_route hclock request
      have htogether := hroute r r' h
      exact ⟨congrArg some htogether.outcome_eq, htogether.after⟩
  | sweep => exact ⟨rfl, (lockstep_sweepExpired hclock r r' h).after⟩
  | restart overlapWindowMs => cases hevent

/-- A restart, with the window that the relay was started with. -/
theorem sideBySide_restart {r r' : Relay} (h : SideBySide clock window r r') :
    SideBySide clock window (step P runtime clock r (.restart window)).2 r' :=
  ⟨h.blobs, h.pairing, h.readings, h.passed, h.capabilities.restart⟩

/-- A relay as it is started: the stores of blobs and of pairings are databases, and the capabilities
are read from their file. -/
def started (window : Int) (file : Option CapabilityFile) (blobs : BlobStore)
    (pairing : PairingStore) : Relay where
  blobs := blobs
  pairing := pairing
  capabilities := .load window file

theorem sideBySide_started (clock : Nat → Int) (window : Int) (file : Option CapabilityFile)
    (blobs : BlobStore) (pairing : PairingStore) :
    SideBySide clock window (started window file blobs pairing)
      (started window file blobs pairing) := by
  refine ⟨rfl, rfl, rfl, rfl, .refl _ _, ?_⟩
  unfold CapabilityGrantStore.Recovers
  cases file with
  | none => exact .refl _ _
  | some file => exact .refl _ _

/-- What a run that restarts and the run without restarts have in common. -/
structure Unnoticed (P : Packages) (runtime : RelayRuntime) (clock : Nat → Int) (start : Relay)
    (events : List RelayEvent) : Prop where
  answers : answers (run (step P runtime clock) start events)
    = answers (run (step P runtime clock) start (events.filter fun event => !event.isRestart))
  blobs : (run (step P runtime clock) start events).state.blobs
    = (run (step P runtime clock) start (events.filter fun event => !event.isRestart)).state.blobs
  pairing : (run (step P runtime clock) start events).state.pairing
    = (run (step P runtime clock) start (events.filter fun event => !event.isRestart)).state.pairing
  record : ∀ id, (run (step P runtime clock) start events).state.capabilities.record id
    = (run (step P runtime clock) start
      (events.filter fun event => !event.isRestart)).state.capabilities.record id

/-- **Restarts go unnoticed.** Whatever is asked, and wherever between the requests and the sweeps the
relay starts again, every answer is that of a relay that was never restarted; so are the blobs, the
pairings and the registered grants. -/
theorem restarts_unnoticed (P : Packages) (runtime : RelayRuntime) {clock : Nat → Int}
    (hclock : Monotone clock) {window : Int} (file : Option CapabilityFile) (blobs : BlobStore)
    (pairing : PairingStore) {events : List RelayEvent}
    (hwindow : ∀ overlapWindowMs, .restart overlapWindowMs ∈ events → overlapWindowMs = window) :
    Unnoticed P runtime clock (started window file blobs pairing) events := by
  let start := started window file blobs pairing
  let kept (events : List RelayEvent) := events.filter fun event => !event.isRestart
  have hrun : SideBySide clock window (run (step P runtime clock) start events).state
        (run (step P runtime clock) start (kept events)).state
      ∧ answers (run (step P runtime clock) start events)
        = answers (run (step P runtime clock) start (kept events)) := by
    induction events using List.reverseRecOn with
    | nil => exact ⟨sideBySide_started clock window file blobs pairing, rfl⟩
    | append_singleton events event ih =>
        obtain ⟨hbeside, hanswers⟩ := ih fun overlapWindowMs hmem =>
          hwindow overlapWindowMs (List.mem_append_left _ hmem)
        cases hevent : event.isRestart with
        | false =>
            have hkept : kept (events ++ [event]) = kept events ++ [event] := by
              simp [kept, hevent]
            have hboth : _ ∧ SideBySide clock window (step P runtime clock _ event).2
                (step P runtime clock _ event).2 := sideBySide_step hclock hbeside hevent
            obtain ⟨hanswer, hnext⟩ := hboth
            rw [hkept, run_concat, run_concat, answers_ask, answers_ask, hanswers, hanswer]
            exact ⟨hnext, rfl⟩
        | true =>
            have hkept : kept (events ++ [event]) = kept events := by
              simp [kept, hevent]
            cases event with
            | request request => cases hevent
            | sweep => cases hevent
            | restart overlapWindowMs =>
                obtain rfl := hwindow overlapWindowMs (List.mem_append_right _ (by simp))
                have hrestarted : SideBySide clock overlapWindowMs
                    (step P runtime clock (run (step P runtime clock) start events).state
                      (.restart overlapWindowMs)).2
                    (run (step P runtime clock) start (kept events)).state :=
                  sideBySide_restart hbeside
                rw [hkept, run_concat, answers_ask, hanswers]
                exact ⟨hrestarted, List.append_nil _⟩
  obtain ⟨hbeside, hanswers⟩ := hrun
  exact ⟨hanswers, hbeside.blobs, hbeside.pairing, hbeside.capabilities.same.record⟩

open CapabilityGrantStore.Sample Relay.Sample in
/-- A restart between two requests with one nonce, of a relay whose file has an old nonce. -/
theorem restart_between_stores :
    Unnoticed packages relay (fun n => (n : Int))
      (started 0 (some { active := [], seenNonces := [("old", -600001)], overlapWindowMs := 0 }) {} {})
      [store spelling, .restart 0, .sweep, store spelling] := by
  refine restarts_unnoticed packages relay (fun n n' h => Int.ofNat_le.mpr h) _ {} {} ?_
  intro overlapWindowMs hmem
  simpa [store] using hmem

end Relay

end Yakr
