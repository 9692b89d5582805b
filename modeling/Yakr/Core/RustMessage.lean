import Yakr.Core.Message
import Yakr.Lib.JsonDocument
import Yakr.Lib.JsonWriter

/-!
# Yakr.Core.RustMessage

**Inner messages in Rust: `inner_message.rs`.** The message is a `serde` structure here:
its integers are machine integers, its body is optional, and `serde_json` writes every
character from the space on as it is. A decoded `Value` keeps an object as a map sorted by
key, and an integer of more than 64 bits as a float.

How `serde_json` writes a float again is the parameter `floatText`; it has none for a number
out of range. (`-0` is such a float there and the integer zero here. No canonical text holds it.)
-/

namespace Yakr

open Lib

namespace Rust

/-! ### `serde_json` -/

/-- A character inside a string literal. -/
def escapeChar (c : Char) : List Char :=
  if 0x7f ≤ c.toNat then [c] else Json.escapeChar c

/-- `serde_json::to_vec`. -/
def toVec (v : Json) : Bytes := encodeUtf8 (String.ofList (Json.renderWith escapeChar v))

/-- `Map::insert`, in the order of the keys. -/
def insertEntry (key : String) (value : Json) : List (String × Json) → List (String × Json)
  | [] => [(key, value)]
  | (k, v) :: entries =>
      if key < k then (key, value) :: (k, v) :: entries
      else if key = k then (key, value) :: entries
      else (k, v) :: insertEntry key value entries

/-- The map of entries that are inserted one after another. -/
def toMap (entries : List (String × Json)) : List (String × Json) :=
  entries.foldl (fun map e => insertEntry e.1 e.2 map) []

/-- The words Python writes for floats that are no numbers. -/
def isNonFinite (literal : String) : Bool :=
  literal = "NaN" || literal = "Infinity" || literal = "-Infinity"

mutual

/-- No word among the values. `serde_json` takes none, wherever it stands. -/
def isStandard : Json → Bool
  | .float literal => !isNonFinite literal
  | .arr items => areStandard items
  | .obj entries => entriesStandard entries
  | _ => true

def areStandard : List Json → Bool
  | [] => true
  | v :: vs => isStandard v && areStandard vs

def entriesStandard : List (String × Json) → Bool
  | [] => true
  | (_, v) :: es => isStandard v && entriesStandard es

end

mutual

/-- The `Value` of a decoded text, none where `serde_json` refuses a number. -/
def toValue (floatText : String → Option String) : Json → Option Json
  | .int n =>
      if -2 ^ 63 ≤ n ∧ n < 2 ^ 64 then some (.int n)
      else (floatText (String.ofList (Json.renderInt n))).map .float
  | .float literal => if isNonFinite literal then none else (floatText literal).map .float
  | .arr items => (toValues floatText items).map .arr
  | .obj entries => (toEntries floatText entries).map fun entries => .obj (toMap entries)
  | v => some v

def toValues (floatText : String → Option String) : List Json → Option (List Json)
  | [] => some []
  | v :: vs => do
      let v ← toValue floatText v
      let vs ← toValues floatText vs
      return v :: vs

def toEntries (floatText : String → Option String) :
    List (String × Json) → Option (List (String × Json))
  | [] => some []
  | (k, v) :: es => do
      let v ← toValue floatText v
      let es ← toEntries floatText es
      return (k, v) :: es

end

/-- `serde_json::from_slice` to a `Value`. -/
def fromSlice (floatText : String → Option String) (data : Bytes) : Option Json := do
  toValue floatText (← Json.loads (← data.toUtf8))

/-- `Value::get`. -/
def valueGet (value : Json) (key : String) : Option Json :=
  match value with
  | .obj entries => entries.lookup key
  | _ => none

/-- `Value::as_str`. -/
def asStr : Json → Option String
  | .str s => some s
  | _ => none

/-- `Value::as_u64`. -/
def asU64 : Json → Option UInt64
  | .int n => if 0 ≤ n ∧ n < 2 ^ 64 then some (UInt64.ofNat n.toNat) else none
  | _ => none

/-! ### Messages -/

/-- `MessageType`. -/
inductive MessageType where
  | text
  | receipt
  | profile
  | presence
deriving DecidableEq, Repr

/-- The name of a type, in snake case. -/
def MessageType.name : MessageType → String
  | text => "text"
  | receipt => "receipt"
  | profile => "profile"
  | presence => "presence"

/-- `InnerMessage`. -/
structure InnerMessage where
  version : UInt32
  conversationId : String
  senderDeviceId : String
  seq : UInt64
  createdAt : UInt64
  validUntil : UInt64
  messageType : MessageType
  body : Option String
  messageId : Option String
deriving DecidableEq

/-- The `Value` of an optional text. -/
def optionValue : Option String → Json
  | some s => .str s
  | none => .null

namespace InnerMessage

/-- `text`. -/
def text (conversationId senderDeviceId : String) (seq : UInt64) (body : String)
    (createdAt validUntil : UInt64) : InnerMessage :=
  { version := 1, conversationId, senderDeviceId, seq, createdAt, validUntil
    messageType := .text
    body := some body
    messageId := none }

/-- `serde_json::to_value` of a message: its fields are inserted in the order of their
declaration. -/
def toValue (m : InnerMessage) : Json :=
  .obj (toMap
    [("version", .int m.version.toNat), ("conversation_id", .str m.conversationId),
      ("sender_device_id", .str m.senderDeviceId), ("seq", .int m.seq.toNat),
      ("created_at", .int m.createdAt.toNat), ("valid_until", .int m.validUntil.toNat),
      ("type", .str m.messageType.name), ("body", optionValue m.body),
      ("message_id", optionValue m.messageId)])

/-- `to_bytes`. -/
def toBytes (m : InnerMessage) : Bytes := toVec m.toValue

end InnerMessage

/-! ### The derived decoder

`Deserialize` is derived for the message: an object, each field at most once, every field but
the optional ones present, other fields skipped; or the nine fields as an array. The texts of
skipped fields are decoded here as everything else is, where `serde_json` looks for their end
only. -/

/-- An unsigned integer below a bound: digits alone. -/
def readUnsigned (bound : Nat) (v : Json.Marked) : Option Nat :=
  match v.value with
  | .int n => if v.negative = false ∧ 0 ≤ n ∧ n < bound then some n.toNat else none
  | _ => none

def readU32 (v : Json.Marked) : Option UInt32 := (readUnsigned (2 ^ 32) v).map UInt32.ofNat

def readU64 (v : Json.Marked) : Option UInt64 := (readUnsigned (2 ^ 64) v).map UInt64.ofNat

def readString (v : Json.Marked) : Option String := asStr v.value

def readOption (v : Json.Marked) : Option (Option String) :=
  match v.value with
  | .null => some none
  | .str s => some (some s)
  | _ => none

/-- The type of a name. -/
def MessageType.ofName (name : String) : Option MessageType :=
  if name = "text" then some text
  else if name = "receipt" then some receipt
  else if name = "profile" then some profile
  else if name = "presence" then some presence
  else none

/-- A unit variant: its name, or an object with the name as its one key and `null`. -/
def readType (v : Json.Marked) : Option MessageType :=
  match v.value with
  | .str name => MessageType.ofName name
  | .obj [(name, .null)] => MessageType.ofName name
  | _ => none

/-- The values a key has in an object. -/
def valuesOf (key : String) (entries : List (String × Json.Marked)) : List Json.Marked :=
  (entries.filter fun e => e.1 = key).map (·.2)

/-- A field that has to be there. -/
def required {α : Type} (key : String) (read : Json.Marked → Option α)
    (entries : List (String × Json.Marked)) : Option α :=
  match valuesOf key entries with
  | [v] => read v
  | _ => none

/-- A field that may be absent. -/
def optional (key : String) (entries : List (String × Json.Marked)) : Option (Option String) :=
  match valuesOf key entries with
  | [] => some none
  | [v] => readOption v
  | _ => none

namespace InnerMessage

/-- `visit_map`. -/
def visitMap (entries : List (String × Json.Marked)) : Option InnerMessage := do
  guard (entriesStandard (entries.map Json.eraseEntry) = true)
  let version ← required "version" readU32 entries
  let conversationId ← required "conversation_id" readString entries
  let senderDeviceId ← required "sender_device_id" readString entries
  let seq ← required "seq" readU64 entries
  let createdAt ← required "created_at" readU64 entries
  let validUntil ← required "valid_until" readU64 entries
  let messageType ← required "type" readType entries
  let body ← optional "body" entries
  let messageId ← optional "message_id" entries
  return { version, conversationId, senderDeviceId, seq, createdAt, validUntil, messageType, body
           messageId }

/-- `visit_seq`. -/
def visitSeq : List Json.Marked → Option InnerMessage
  | [version, conversationId, senderDeviceId, seq, createdAt, validUntil, messageType, body,
      messageId] => do
      let version ← readU32 version
      let conversationId ← readString conversationId
      let senderDeviceId ← readString senderDeviceId
      let seq ← readU64 seq
      let createdAt ← readU64 createdAt
      let validUntil ← readU64 validUntil
      let messageType ← readType messageType
      let body ← readOption body
      let messageId ← readOption messageId
      return { version, conversationId, senderDeviceId, seq, createdAt, validUntil, messageType
               body, messageId }
  | _ => none

/-- `deserialize_struct`. -/
def visit : Json.Document → Option InnerMessage
  | .object entries => visitMap entries
  | .array items => visitSeq items
  | .scalar _ => none

/-- `from_bytes`. -/
def fromBytes (data : Bytes) : Option InnerMessage := do
  visit (← Json.readDocument (← data.toUtf8))

end InnerMessage

/-- `InnerMessageFields`. -/
structure InnerMessageFields where
  conversationId : String
  seq : UInt64
  body : String
deriving DecidableEq

/-- `InnerMessageError`. -/
inductive InnerMessageError where
  | invalidJson
  | missingField (field : String)
  | wrongType (field : String)
  | notCanonical
deriving DecidableEq

/-- `ok_or`. -/
def okOr {α : Type} (e : InnerMessageError) : Option α → Except InnerMessageError α
  | some a => .ok a
  | none => .error e

/-- `verify_inner_message_json`. -/
def verifyInnerMessageJson (floatText : String → Option String) (jsonRaw : Bytes) :
    Except InnerMessageError InnerMessageFields := do
  let payload ← okOr .invalidJson (fromSlice floatText jsonRaw)
  let conversationId ← okOr (.missingField "conversation_id")
    ((valueGet payload "conversation_id").bind asStr)
  let seq ← okOr (.wrongType "seq") ((valueGet payload "seq").bind asU64)
  let body ← okOr (.missingField "body") ((valueGet payload "body").bind asStr)
  if toVec payload ≠ jsonRaw then .error .notCanonical
  else .ok { conversationId, seq, body }

end Rust
end Yakr
