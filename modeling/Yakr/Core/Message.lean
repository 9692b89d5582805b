import Yakr.Core.Values
import Yakr.Core.Crypto

/-!
# Yakr.Core.Message

**Inner messages and outer blobs of `message.py`, lifetimes of `ephemeral.py`.**
An inner message travels as compact JSON with sorted keys inside the ratchet; an
outer blob is what a relay stores.
-/

namespace Yakr

open Lib

variable (P : Packages)

/-! ### Lifetimes -/

def messageTtlMs : Int := 24 * 60 * 60 * 1000
def presenceTtlMs : Int := 30 * 60 * 1000
def defaultBlobTtlMs : Int := messageTtlMs

/-- `message_valid_until`. -/
def messageValidUntil (createdAtMs : Int) : Int := createdAtMs + messageTtlMs

/-- `is_message_expired`. -/
def isMessageExpired (validUntilMs now : Int) : Bool := now > validUntilMs

/-- `enforce_message_ttl`. -/
def enforceMessageTtl (validUntilMs now : Int) : Except PyExc Unit :=
  if isMessageExpired validUntilMs now then
    .error (.yakr .messageExpired "message TTL expired")
  else .ok ()

/-! ### Inner messages -/

/-- The `type` field: one of the four kinds, or whatever else a peer sent. -/
inductive MessageType where
  | text
  | receipt
  | profile
  | presence
  | other (value : Json)

namespace MessageType

def toJson : MessageType → Json
  | text => .str "text"
  | receipt => .str "receipt"
  | profile => .str "profile"
  | presence => .str "presence"
  | other value => value

def ofJson : Json → MessageType
  | .str s =>
      if s = "text" then text
      else if s = "receipt" then receipt
      else if s = "profile" then profile
      else if s = "presence" then presence
      else other (.str s)
  | value => other value

/-- `inner.type == "text"`. -/
def isText : MessageType → Bool
  | text => true
  | _ => false

/-- `inner.type == "receipt"`. -/
def isReceipt : MessageType → Bool
  | receipt => true
  | _ => false

/-- `inner.type == "profile"`. -/
def isProfile : MessageType → Bool
  | profile => true
  | _ => false

/-- `inner.type == "presence"`. -/
def isPresence : MessageType → Bool
  | presence => true
  | _ => false

end MessageType

structure InnerMessage where
  version : Int
  conversationId : String
  senderDeviceId : String
  seq : Int
  createdAt : Int
  validUntil : Int
  type : MessageType
  body : String := ""
  /-- `message_id`, `null` when there is none. -/
  messageId : Json := .null

namespace InnerMessage

/-- `asdict` of a message, keys sorted. -/
def toJson (m : InnerMessage) : Json :=
  .obj [("body", .str m.body), ("conversation_id", .str m.conversationId),
    ("created_at", .int m.createdAt), ("message_id", m.messageId),
    ("sender_device_id", .str m.senderDeviceId), ("seq", .int m.seq),
    ("type", m.type.toJson), ("valid_until", .int m.validUntil), ("version", .int m.version)]

/-- `to_bytes`. -/
def toBytes (m : InnerMessage) : Bytes := encodeUtf8 m.toJson.dumps

/-- `json.loads(data.decode("utf-8"))`. -/
def loadPayload (data : Bytes) : Except PyExc Json := do
  let text ← decodeUtf8 data
  match Json.loads text with
  | some payload => return payload
  | none => throw (.valueError "JSONDecodeError")

/-- The fields of a decoded message, read in the order of `from_bytes`. -/
def ofJson (payload : Json) : Except PyExc InnerMessage := do
  let createdAt ← pyInt P (← subscript payload "created_at")
  let validUntil ←
    match ← dictGet payload "valid_until" with
    | some v => pyInt P v
    | none => pure (createdAt + messageTtlMs)
  let version ← pyInt P (← subscript payload "version")
  let conversationId ← subscript payload "conversation_id"
  let senderDeviceId ← subscript payload "sender_device_id"
  let seq ← pyInt P (← subscript payload "seq")
  let type ← subscript payload "type"
  let body ← dictGet payload "body"
  let messageId ← dictGet payload "message_id"
  return { version
           conversationId := pyStr P conversationId
           senderDeviceId := pyStr P senderDeviceId
           seq, createdAt, validUntil
           type := MessageType.ofJson type
           body := pyStr P (body.getD (.str ""))
           messageId := messageId.getD .null }

/-- `from_bytes`. -/
def fromBytes (data : Bytes) : Except PyExc InnerMessage := do
  ofJson P (← loadPayload data)

/-- The fields every constructor fills in the same way. -/
def make (conversationId senderDeviceId : String) (seq now : Int) (type : MessageType) :
    InnerMessage :=
  { version := 1, conversationId, senderDeviceId, seq
    createdAt := now
    validUntil := messageValidUntil now
    type }

/-- `InnerMessage.text`. -/
def text (conversationId senderDeviceId : String) (seq : Int) (body : String) (now : Int) :
    InnerMessage :=
  { make conversationId senderDeviceId seq now .text with body }

/-- `InnerMessage.receipt`. -/
def receipt (conversationId senderDeviceId : String) (seq : Int) (messageId : String)
    (now : Int) : InnerMessage :=
  { make conversationId senderDeviceId seq now .receipt with messageId := .str messageId }

/-- `InnerMessage.profile`. -/
def profile (conversationId senderDeviceId : String) (seq : Int) (profileB64 : String)
    (now : Int) : InnerMessage :=
  { make conversationId senderDeviceId seq now .profile with body := profileB64 }

/-- `InnerMessage.presence` with the lifetime of its payload. -/
def presence (conversationId senderDeviceId : String) (seq : Int) (presenceB64 : String)
    (validUntil now : Int) : InnerMessage :=
  { make conversationId senderDeviceId seq now .presence with body := presenceB64, validUntil }

/-- A message whose open fields hold JSON that survives its text form. -/
def Wellformed (m : InnerMessage) : Prop :=
  m.messageId.integral ∧ m.type.toJson.integral ∧ MessageType.ofJson m.type.toJson = m.type

/-- **Round trip.** A well-formed message is read back from its bytes. -/
theorem fromBytes_toBytes {m : InnerMessage} (h : m.Wellformed) :
    fromBytes P m.toBytes = .ok m := by
  obtain ⟨hid, htype, hback⟩ := h
  have hintegral : m.toJson.integral := by
    simp [toJson, Json.integral, Json.integralEntries, hid, htype]
  have hload : loadPayload m.toBytes = .ok m.toJson := by
    rw [loadPayload, toBytes, encodeUtf8, decodeUtf8, Bytes.toUtf8_ofUtf8]
    simp only [bind, Except.bind, Json.loads_dumps m.toJson hintegral]
    rfl
  rw [fromBytes, hload]
  show ofJson P m.toJson = .ok m
  simp [ofJson, toJson, subscript, dictGet, Json.lookup, pyInt, pyStr, bind, Except.bind, pure,
    Except.pure, List.lookup_cons, hback]

theorem wellformed_text (c d : String) (seq : Int) (body : String) (now : Int) :
    (text c d seq body now).Wellformed := ⟨rfl, rfl, rfl⟩

theorem wellformed_receipt (c d : String) (seq : Int) (messageId : String) (now : Int) :
    (receipt c d seq messageId now).Wellformed := ⟨rfl, rfl, rfl⟩

theorem wellformed_profile (c d : String) (seq : Int) (profileB64 : String) (now : Int) :
    (profile c d seq profileB64 now).Wellformed := ⟨rfl, rfl, rfl⟩

theorem wellformed_presence (c d : String) (seq : Int) (presenceB64 : String)
    (validUntil now : Int) : (presence c d seq presenceB64 validUntil now).Wellformed :=
  ⟨rfl, rfl, rfl⟩

end InnerMessage

/-! ### Outer blobs -/

structure OuterBlob where
  version : Int
  mailboxTag : Bytes
  expiresAt : Int
  ciphertext : Bytes
deriving DecidableEq, Repr

/-- `OuterBlob.from_relay_json`. -/
def OuterBlob.fromRelayJson (payload : Json) : Except PyExc OuterBlob := do
  let mailboxTag ← b64decode (pyStr P (← subscript payload "mailbox_tag"))
  let expiresAt ← pyInt P (← subscript payload "expires_at")
  let ciphertext ← b64decode (pyStr P (← subscript payload "ciphertext"))
  return { version := 1, mailboxTag, expiresAt, ciphertext }

/-- `OuterBlob.to_relay_json`. -/
def OuterBlob.toRelayJson (b : OuterBlob) : Json :=
  .obj [("mailbox_tag", .str (b64encode b.mailboxTag)), ("expires_at", .int b.expiresAt),
    ("ciphertext", .str (b64encode b.ciphertext))]

/-- `message_id`: the hexadecimal digest of a ciphertext. -/
def messageId (ciphertext : Bytes) : String :=
  Bytes.hex (P.sha256 (encodeUtf8 "yakr/v0.1/message-id|" ++ ciphertext)).1

end Yakr
