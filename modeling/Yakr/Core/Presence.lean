import Yakr.Core.Message

/-!
# Yakr.Core.Presence

**Presence payloads of `presence.py`.** A relay operator tells its contacts, for
half an hour at a time, under which address its relay is reachable.
-/

namespace Yakr

open Lib

variable (P : Packages)

def presenceProtocol : String := "yakr-v1.1/presence"

structure PresencePayload where
  operatorName : String
  reachableUrl : String
  relayActive : Bool
  validUntil : Int
  protocol : String := presenceProtocol
deriving DecidableEq, Repr

namespace PresencePayload

/-- `to_bytes`. -/
def toBytes (p : PresencePayload) : Bytes :=
  encodeUtf8 (Json.dumps (.obj [("operator_name", .str p.operatorName),
    ("protocol", .str p.protocol), ("reachable_url", .str (rstripSlash p.reachableUrl)),
    ("relay_active", .bool p.relayActive), ("valid_until", .int p.validUntil)]))

/-- `from_bytes` on the decoded value. -/
def ofJson (payload : Json) : Except PyExc PresencePayload := do
  match ← dictGet payload "protocol" with
  | some (.str protocol) =>
      if protocol ≠ presenceProtocol then
        throw (.valueError "unsupported presence protocol")
  | _ => throw (.valueError "unsupported presence protocol")
  let operatorName ← subscript payload "operator_name"
  let reachableUrl ← subscript payload "reachable_url"
  let relayActive ← subscript payload "relay_active"
  let validUntil ← pyInt P (← subscript payload "valid_until")
  return { operatorName := pyStr P operatorName
           reachableUrl := rstripSlash (pyStr P reachableUrl)
           relayActive := pyBool P relayActive
           validUntil }

/-- `from_bytes`. -/
def fromBytes (data : Bytes) : Except PyExc PresencePayload := do
  ofJson P (← InnerMessage.loadPayload data)

/-- `to_b64`. -/
def toB64 (p : PresencePayload) : String := b64encode p.toBytes

/-- `from_b64`. -/
def fromB64 (value : String) : Except PyExc PresencePayload := do
  fromBytes P (← b64decode value)

/-- `for_operator`. -/
def forOperator (operatorName reachableUrl : String) (now : Int) : PresencePayload :=
  { operatorName
    reachableUrl := rstripSlash reachableUrl
    relayActive := true
    validUntil := now + presenceTtlMs }

end PresencePayload

/-- `is_presence_fresh`. -/
def isPresenceFresh (payload : PresencePayload) (now : Int) : Bool :=
  payload.relayActive && payload.validUntil > now

end Yakr
