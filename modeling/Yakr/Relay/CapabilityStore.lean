import Yakr.Core.CapabilityGrant
import Yakr.Lib.Effect
import Yakr.Lib.Table

/-!
# Yakr.Relay.CapabilityStore

**The grants a relay honours: `CapabilityGrantStore` of `capability_store.py`.** For each
capability id the store keeps one grant, as text, with the times of its revocation, and for
each nonce the time it was used. Every change but the pruning of nonces is written to a file
at once, which a restart reads back. Clock readings are arguments.
-/

namespace Yakr

open Lib Effect

variable (P : Packages)

def defaultCapabilityOverlapMs : Int := 48 * 60 * 60 * 1000

/-- A record of `_active`. -/
structure GrantRecord where
  grantB64 : String
  registeredAt : Int
  revokedAt : Option Int := none
  overlapUntilMs : Option Int := none
deriving DecidableEq, Repr

/-- The content of `capability_grants.json`. -/
structure CapabilityFile where
  active : List (String × GrantRecord)
  seenNonces : List (String × Int)
  overlapWindowMs : Int
deriving DecidableEq, Repr

structure CapabilityGrantStore where
  overlapWindowMs : Int := defaultCapabilityOverlapMs
  active : List (String × GrantRecord) := []
  seenNonces : List (String × Int) := []
  /-- The file, if it exists. -/
  file : Option CapabilityFile := none
deriving DecidableEq, Repr

namespace CapabilityGrantStore

/-- `__post_init__` with `_load`. -/
def load (overlapWindowMs : Int) : Option CapabilityFile → CapabilityGrantStore
  | none => { overlapWindowMs := overlapWindowMs }
  | some file =>
      { overlapWindowMs := file.overlapWindowMs
        active := file.active
        seenNonces := file.seenNonces
        file := some file }

/-- `_save`. -/
def save (s : CapabilityGrantStore) : CapabilityGrantStore :=
  { s with
    file := some
      { active := s.active
        seenNonces := s.seenNonces
        overlapWindowMs := s.overlapWindowMs } }

/-- `_prune_nonces`. -/
def pruneNonces (now : Int) (s : CapabilityGrantStore) : CapabilityGrantStore :=
  { s with seenNonces := s.seenNonces.filter fun seen => now - seen.2 ≤ 10 * 60 * 1000 }

/-- The record of a capability id. -/
def record (s : CapabilityGrantStore) (capabilityId : Bytes) : Option GrantRecord :=
  (Table.find Prod.fst (b64encode capabilityId) s.active).map Prod.snd

/-- `self._active[key] = record`. -/
def setRecord (capabilityId : Bytes) (record : GrantRecord) (s : CapabilityGrantStore) :
    CapabilityGrantStore :=
  { s with active := Table.upsert Prod.fst (b64encode capabilityId, record) s.active }

/-- `register`; the first clock reading is that of `verify_capability_grant`. -/
def register (grant : CapabilityGrant) (relaySigningPublic : Bytes) (relayName : String)
    (relayTlsSpkiSha256 : Bytes) (verifiedAt registeredAt : Int) :
    EStateM PyExc CapabilityGrantStore Unit := do
  orRaise (verifyCapabilityGrant P grant relaySigningPublic relayName relayTlsSpkiSha256 verifiedAt)
  match (← get).record grant.capabilityId with
  | none => pure ()
  | some existing =>
      let prev ← orRaise (CapabilityGrant.fromB64 P existing.grantB64)
      if grant.capabilityGeneration < prev.capabilityGeneration then
        throw (.valueError "capability generation rollback rejected")
  modify (setRecord grant.capabilityId { grantB64 := grant.toB64 P, registeredAt })
  modify save

/-- `revoke_with_overlap`. -/
def revokeWithOverlap (capabilityId : Bytes) (now : Int) (overlapWindowMs : Option Int) :
    EStateM PyExc CapabilityGrantStore Unit := do
  let s ← get
  let window := overlapWindowMs.getD s.overlapWindowMs
  match s.record capabilityId with
  | none => pure ()
  | some record =>
      modify (setRecord capabilityId
        { record with revokedAt := some now, overlapUntilMs := some (now + window) })
      modify save

/-- `revoke_immediately`. -/
def revokeImmediately (capabilityId : Bytes) (now : Int) :
    EStateM PyExc CapabilityGrantStore Unit :=
  revokeWithOverlap capabilityId now (some 0)

/-- `is_registered`. -/
def isRegistered (s : CapabilityGrantStore) (grant : CapabilityGrant) (now : Int) :
    Except PyExc Bool :=
  match s.record grant.capabilityId with
  | none => .ok false
  | some record => do
      let stored ← CapabilityGrant.fromB64 P record.grantB64
      if stored.capabilityGeneration ≠ grant.capabilityGeneration then return false
      match record.overlapUntilMs with
      | some overlapUntil => return ! decide (now ≥ overlapUntil)
      | none => return true

/-- `consume_nonce`. -/
def consumeNonce (nonceB64 : String) (now : Int) : EStateM PyExc CapabilityGrantStore Unit := do
  modify (pruneNonces now)
  if (Table.find Prod.fst nonceB64 (← get).seenNonces).isSome then
    throw (.valueError "capability nonce replay")
  modify fun s => { s with seenNonces := Table.upsert Prod.fst (nonceB64, now) s.seenNonces }
  modify save

end CapabilityGrantStore
end Yakr
