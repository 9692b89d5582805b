import Yakr.Core.DeliveryProfile
import Yakr.Core.Message

/-!
# Yakr.Core.RelayTicket

**What relays read: tickets of `relay_ticket.py`, onion packets of `onion.py`.** A ticket
names a relay and some permissions and is signed by whoever issued it. An onion packet wraps
an outer blob for the mailbox relay, and that for the entry relay.
-/

namespace Yakr

open Lib

variable (P : Packages)

/-! ### Tickets -/

structure RelayTicket where
  issuerSigningPublic : Bytes
  relayName : String
  permissions : List String
  contactId : Bytes
  expiresAt : Int
  signature : Bytes
deriving DecidableEq, Repr

namespace RelayTicket

/-- `unsigned_payload`. -/
def unsignedPayload (t : RelayTicket) : Bytes :=
  P.cborDumps (.map [("issuer_signing_public", .bytes t.issuerSigningPublic),
    ("relay_name", .text t.relayName), ("permissions", .array (t.permissions.map .text)),
    ("contact_id", .bytes t.contactId), ("expires_at", .int t.expiresAt)])

/-- `from_bytes` on the decoded value. -/
def ofCbor : Cbor → Except PyExc RelayTicket
  | .map entries => do
      let issuerSigningPublic ← cborBytes (← cborGet entries "issuer_signing_public")
      let relayName ← cborGet entries "relay_name"
      let permissions ← cborItems (← cborGet entries "permissions")
      let contactId ← cborBytes (← cborGet entries "contact_id")
      let expiresAt ← cborInt (← cborGet entries "expires_at")
      let signature ← cborBytes (← cborGet entries "signature")
      return { issuerSigningPublic
               relayName := cborStr P relayName
               permissions := permissions.map (cborStr P)
               contactId, expiresAt, signature }
  | _ => .error (.valueError "invalid relay ticket")

/-- `from_b64`. -/
def fromB64 (value : String) : Except PyExc RelayTicket := do
  ofCbor P (← P.cborLoads (← b64decode value))

end RelayTicket

/-- `verify_relay_ticket`. -/
def verifyRelayTicket (ticket : RelayTicket) (relayName permission : String) (now : Int) :
    Except PyExc Unit :=
  if ticket.expiresAt ≤ now then .error (.valueError "relay ticket expired")
  else if ticket.relayName ≠ relayName then .error (.valueError "relay ticket name mismatch")
  else if ¬ ticket.permissions.contains permission then
    .error (.valueError "relay ticket missing permission")
  else ed25519Check P ticket.issuerSigningPublic ticket.signature (ticket.unsignedPayload P)

/-! ### Onion packets -/

/-- `data[key]` of what `cbor2.loads` returned. -/
def cborSubscript (data : Cbor) (key : String) : Except PyExc Cbor :=
  match data with
  | .map entries => cborGet entries key
  | _ => .error (.typeError "object is not subscriptable")

/-- `decode_mailbox_instruction`. -/
def decodeMailboxInstruction (payload : Bytes) : Except PyExc OuterBlob := do
  let data ← P.cborLoads payload
  let mailboxTag ← cborBytes (← cborSubscript data "mailbox_tag")
  let expiresAt ← cborInt (← cborSubscript data "expires_at")
  let ciphertext ← cborBytes (← cborSubscript data "ciphertext")
  return { version := 1, mailboxTag, expiresAt, ciphertext }

/-- `decode_mailbox_packet`. -/
def decodeMailboxPacket (innerCiphertext mailboxWrapSecret : Bytes) : Except PyExc OuterBlob := do
  decodeMailboxInstruction P (← xchachaDecrypt P mailboxWrapSecret innerCiphertext [])

/-- `decode_forward_instruction`. -/
def decodeForwardInstruction (payload : Bytes) : Except PyExc (String × Bytes) := do
  let data ← P.cborLoads payload
  let nextRelay ← cborSubscript data "next_relay"
  let inner ← cborBytes (← cborSubscript data "inner")
  return (cborStr P nextRelay, inner)

/-- `decode_entry_packet`. -/
def decodeEntryPacket (packet entryWrapSecret : Bytes) : Except PyExc (String × Bytes) := do
  let data ← P.cborLoads packet
  let ciphertext ← cborBytes (← cborSubscript data "entry_ciphertext")
  decodeForwardInstruction P (← xchachaDecrypt P entryWrapSecret ciphertext [])

end Yakr
