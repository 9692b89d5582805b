import Mathlib.Data.String.Basic
import Yakr.Core.RustMessage

/-!
# Yakr.Languages.Messages

**Do the two languages write one text for a message, and read it alike?** Both sort
the keys and leave out white space. Python writes every character beyond the printable
ASCII range as an escape; Rust writes it as it is. So the texts are equal exactly when no
such character occurs, and it is the same condition under which Rust takes Python's text
for canonical.
-/

namespace Yakr

open Lib

namespace Rust

/-! ### One message in both languages -/

/-- The message type of Python. -/
def MessageType.counterpart : MessageType → Yakr.MessageType
  | text => .text
  | receipt => .receipt
  | profile => .profile
  | presence => .presence

/-- The message of Python with the same fields; its body is a text. -/
def InnerMessage.counterpart (m : InnerMessage) (body : String) : Yakr.InnerMessage where
  version := m.version.toNat
  conversationId := m.conversationId
  senderDeviceId := m.senderDeviceId
  seq := m.seq.toNat
  createdAt := m.createdAt.toNat
  validUntil := m.validUntil.toNat
  type := m.messageType.counterpart
  body := body
  messageId := optionValue m.messageId

variable {m : InnerMessage} {body : String} {floatText : String → Option String}

theorem MessageType.toJson_counterpart (t : MessageType) :
    t.counterpart.toJson = .str t.name := by
  cases t <;> rfl

theorem toValue_optionValue (s : Option String) :
    toValue floatText (optionValue s) = some (optionValue s) := by
  cases s with
  | none => rw [optionValue, toValue] <;> nofun
  | some s => rw [optionValue, toValue] <;> nofun

/-- The `Value` of a message is what Python dumps. -/
theorem InnerMessage.toValue_eq (hbody : m.body = some body) :
    m.toValue = (m.counterpart body).toJson := by
  simp [-String.lt_iff_ltb, toValue, toMap, insertEntry, Yakr.InnerMessage.toJson, counterpart,
    hbody, optionValue, MessageType.toJson_counterpart]

theorem toValue_nat {n : Nat} (h : n < 2 ^ 64) : toValue floatText (.int n) = some (.int n) := by
  have hrange : -2 ^ 63 ≤ (n : Int) ∧ (n : Int) < 2 ^ 64 := by omega
  rw [toValue, if_pos hrange]

theorem toValue_str (s : String) : toValue floatText (.str s) = some (.str s) := by
  rw [toValue] <;> nofun

/-- `serde_json` keeps what Python dumps. -/
theorem toValue_counterpart (m : InnerMessage) (body : String) :
    toValue floatText (m.counterpart body).toJson = some (m.counterpart body).toJson := by
  have hversion : m.version.toNat < 2 ^ 64 := lt_trans m.version.toNat_lt (by norm_num)
  rw [Yakr.InnerMessage.toJson, toValue]
  simp only [InnerMessage.counterpart, toEntries, toValue_str, toValue_nat hversion,
    toValue_nat m.seq.toNat_lt, toValue_nat m.createdAt.toNat_lt,
    toValue_nat m.validUntil.toNat_lt, toValue_optionValue, MessageType.toJson_counterpart]
  simp [-String.lt_iff_ltb, toMap, insertEntry]

theorem integral_counterpart (m : InnerMessage) (body : String) :
    (m.counterpart body).toJson.integral := by
  have hid : (optionValue m.messageId).integral := by
    cases m.messageId with
    | none => rfl
    | some id => rfl
  simp [Yakr.InnerMessage.toJson, InnerMessage.counterpart, Json.integral, Json.integralEntries,
    MessageType.toJson_counterpart, hid]

/-- `serde_json` reads what Python dumps. -/
theorem fromSlice_counterpart (m : InnerMessage) (body : String) :
    fromSlice floatText (m.counterpart body).toBytes = some (m.counterpart body).toJson := by
  have htext : (m.counterpart body).toBytes.toUtf8 = some (m.counterpart body).toJson.dumps :=
    Bytes.toUtf8_ofUtf8 _
  have hload := Json.loads_dumps _ (integral_counterpart m body)
  rw [fromSlice, htext, Option.bind_eq_bind, Option.bind_some, hload, Option.bind_eq_bind,
    Option.bind_some]
  exact toValue_counterpart m body

/-! ### Characters both write alike -/

/-- Every character is an ASCII character other than DEL. -/
def Plain (s : String) : Prop := s.toList.all fun c => c.toNat < 0x7f

instance (s : String) : Decidable (Plain s) := inferInstanceAs (Decidable (_ = _))

/-- Every text of the message is plain. -/
structure InnerMessage.PlainTexts (m : InnerMessage) (body : String) : Prop where
  conversationId : Plain m.conversationId
  senderDeviceId : Plain m.senderDeviceId
  body : Plain body
  messageId : ∀ id ∈ m.messageId, Plain id

theorem escapeChar_of_lt {c : Char} (h : c.toNat < 0x7f) : escapeChar c = Json.escapeChar c := by
  rw [escapeChar, if_neg (by omega)]

theorem escapeChar_of_le {c : Char} (h : 0x7f ≤ c.toNat) : escapeChar c = [c] := by
  rw [escapeChar, if_pos h]

/-- Rust and Python write one text for a value exactly when its texts are plain. -/
theorem toVec_eq_iff {v : Json} (hv : v.integral) :
    toVec v = encodeUtf8 v.dumps ↔ v.allChars fun c => c.toNat < 0x7f := by
  have hagree : ∀ c : Char, decide (c.toNat < 0x7f) = true → escapeChar c = Json.escapeChar c :=
    fun c hc => escapeChar_of_lt (by simpa using hc)
  have hdiffer : ∀ c : Char, decide (c.toNat < 0x7f) = false →
      ∃ d ∈ escapeChar c, ¬ Json.Printable d := by
    intro c hc
    have hle : 0x7f ≤ c.toNat := by simpa using hc
    refine ⟨c, by rw [escapeChar_of_le hle]; exact List.mem_singleton.mpr rfl, fun h => ?_⟩
    exact absurd h.2 (by omega)
  have hrender := Json.renderWith_eq_render_iff hagree hdiffer hv
  rw [← hrender, toVec, Json.dumps]
  constructor
  · intro h
    exact String.ofList_injective (encodeUtf8_injective h)
  · intro h
    rw [h]

theorem InnerMessage.allChars_iff (m : InnerMessage) (body : String) :
    ((m.counterpart body).toJson.allChars fun c => c.toNat < 0x7f) ↔ m.PlainTexts body := by
  have htype : Plain m.messageType.name := by cases m.messageType <;> decide
  have hid : (optionValue m.messageId).allChars (fun c => c.toNat < 0x7f)
      ↔ ∀ id ∈ m.messageId, Plain id := by
    cases m.messageId with
    | none => simp [optionValue, Json.allChars]
    | some id => simp [optionValue, Json.allChars, Plain]
  have hentry : ∀ (key : String) (v : Json) (es : List (String × Json)), Plain key →
      (Json.allCharsEntries (fun c => c.toNat < 0x7f) ((key, v) :: es)
        ↔ (v.allChars fun c => c.toNat < 0x7f)
          ∧ Json.allCharsEntries (fun c => c.toNat < 0x7f) es) := by
    intro key v es hkey
    rw [Json.allCharsEntries, show key.toList.all _ = true from hkey, Bool.true_and,
      Bool.and_eq_true]
  have hstr : ∀ s : String, ((Json.str s).allChars fun c => c.toNat < 0x7f) ↔ Plain s :=
    fun _ => Iff.rfl
  have hint : ∀ n : Int, ((Json.int n).allChars fun c => c.toNat < 0x7f) := fun _ => rfl
  have hnil : Json.allCharsEntries (fun c => c.toNat < 0x7f) [] := rfl
  rw [Yakr.InnerMessage.toJson, Json.allChars]
  simp only [hentry _ _ _ (show Plain "body" by decide),
    hentry _ _ _ (show Plain "conversation_id" by decide),
    hentry _ _ _ (show Plain "created_at" by decide),
    hentry _ _ _ (show Plain "message_id" by decide),
    hentry _ _ _ (show Plain "sender_device_id" by decide),
    hentry _ _ _ (show Plain "seq" by decide), hentry _ _ _ (show Plain "type" by decide),
    hentry _ _ _ (show Plain "valid_until" by decide),
    hentry _ _ _ (show Plain "version" by decide), InnerMessage.counterpart,
    MessageType.toJson_counterpart, hstr, hid, hint, hnil, htype, true_and, and_true]
  constructor
  · intro h
    exact ⟨h.2.1, h.2.2.2, h.1, h.2.2.1⟩
  · intro h
    exact ⟨h.body, h.conversationId, h.messageId, h.senderDeviceId⟩

theorem asU64_toNat (n : UInt64) : asU64 (.int n.toNat) = some n := by
  have hrange : 0 ≤ (n.toNat : Int) ∧ (n.toNat : Int) < 2 ^ 64 := by
    have := n.toNat_lt
    omega
  rw [asU64, if_pos hrange, Int.toNat_natCast, UInt64.ofNat_toNat]

/-- Once the fields are found, what is left is the comparison. -/
theorem verifyInnerMessageJson_eq {data : Bytes} {payload : Json} {conversationId : String}
    {seq : UInt64} (hpayload : fromSlice floatText data = some payload)
    (hid : (valueGet payload "conversation_id").bind asStr = some conversationId)
    (hseq : (valueGet payload "seq").bind asU64 = some seq)
    (hbody : (valueGet payload "body").bind asStr = some body) :
    verifyInnerMessageJson floatText data =
      if toVec payload ≠ data then .error .notCanonical
      else .ok { conversationId, seq, body } := by
  rw [verifyInnerMessageJson, hpayload]
  simp only [okOr, bind, Except.bind, hid, hseq, hbody]

theorem get_counterpart (m : InnerMessage) (body : String) :
    (valueGet (m.counterpart body).toJson "conversation_id").bind asStr = some m.conversationId
      ∧ (valueGet (m.counterpart body).toJson "seq").bind asU64 = some m.seq
      ∧ (valueGet (m.counterpart body).toJson "body").bind asStr = some body := by
  have hid : valueGet (m.counterpart body).toJson "conversation_id"
      = some (.str m.conversationId) := by
    simp [valueGet, Yakr.InnerMessage.toJson, InnerMessage.counterpart, List.lookup_cons]
  have hseq : valueGet (m.counterpart body).toJson "seq" = some (.int m.seq.toNat) := by
    simp [valueGet, Yakr.InnerMessage.toJson, InnerMessage.counterpart, List.lookup_cons]
  have hbody : valueGet (m.counterpart body).toJson "body" = some (.str body) := by
    simp [valueGet, Yakr.InnerMessage.toJson, InnerMessage.counterpart]
  rw [hid, hseq, hbody, Option.bind_some, Option.bind_some, Option.bind_some, asU64_toNat, asStr,
    asStr]
  exact ⟨rfl, rfl, rfl⟩

/-- Python's text of a message is canonical for Rust exactly when its texts are plain. -/
theorem verifyInnerMessageJson_iff :
    verifyInnerMessageJson floatText (m.counterpart body).toBytes
        = .ok { conversationId := m.conversationId, seq := m.seq, body }
      ↔ m.PlainTexts body := by
  obtain ⟨hid, hseq, hbody⟩ := get_counterpart m body
  rw [← m.allChars_iff, ← toVec_eq_iff (integral_counterpart m body),
    verifyInnerMessageJson_eq (fromSlice_counterpart m body) hid hseq hbody]
  by_cases h : toVec (m.counterpart body).toJson = (m.counterpart body).toBytes
  · rw [if_neg (not_not.mpr h)]
    exact ⟨fun _ => h, fun _ => rfl⟩
  · rw [if_pos h]
    exact ⟨nofun, fun heq => absurd heq h⟩

/-- **Canonical JSON.** Rust takes Python's text of a message for canonical, with the fields
of the message, and writes the same text, exactly when every text of the message consists
of ASCII characters other than DEL. -/
theorem canonicalMessage_iff (hbody : m.body = some body) :
    verifyInnerMessageJson floatText (m.counterpart body).toBytes
        = .ok { conversationId := m.conversationId, seq := m.seq, body }
      ∧ m.toBytes = (m.counterpart body).toBytes
      ↔ m.PlainTexts body := by
  have hbytes : m.toBytes = (m.counterpart body).toBytes ↔ m.PlainTexts body := by
    rw [← m.allChars_iff, ← toVec_eq_iff (integral_counterpart m body), InnerMessage.toBytes,
      InnerMessage.toValue_eq hbody]
    rfl
  rw [verifyInnerMessageJson_iff, hbytes, and_self]

namespace MessageSample

/-- A text of a Rust device. -/
def sent (body : String) : InnerMessage :=
  .text "pairwise_alice_bob" "abc123" 1 body 1700000000000 1700086400000

theorem hello_canonical :
    verifyInnerMessageJson (fun _ => none) ((sent "hello").counterpart "hello").toBytes
        = .ok { conversationId := (sent "hello").conversationId, seq := (sent "hello").seq
                body := "hello" }
      ∧ (sent "hello").toBytes = ((sent "hello").counterpart "hello").toBytes
      ↔ (sent "hello").PlainTexts "hello" :=
  canonicalMessage_iff rfl

/-- Python escapes the last letter of the body, Rust does not. -/
theorem not_canonical_accent :
    verifyInnerMessageJson (fun _ => none) ((sent "caf\u00e9").counterpart "caf\u00e9").toBytes
        = .error .notCanonical
      ∧ (sent "caf\u00e9").toBytes ≠ ((sent "caf\u00e9").counterpart "caf\u00e9").toBytes := by
  decide +kernel

end MessageSample
end Rust
end Yakr
