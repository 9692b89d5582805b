import Mathlib.Data.List.Forall2
import Yakr.Core.Plain
import Yakr.Languages.Messages
import Yakr.Lib.Effect

/-!
# Yakr.Languages.Decoding

**Do the two languages decode the same messages?** Python takes what `int` and `str` make
something of, fills in `valid_until`, reads the last of several entries with one key and
turns a `null` body into the text `None`. The derived decoder of Rust takes each field once,
in its exact shape, fills in nothing but the optional fields, and also takes the nine fields
as an array and the type as an object. What both read alike is the plain shape: an object
with every key at most once, digits for integers, texts for texts, and `valid_until` present.
-/

namespace Yakr

open Lib Effect

namespace Rust

open Json (Marked Document)

variable {P : Packages} {entries : List (String × Marked)} {m : InnerMessage}

/-! ### Shapes of entries -/

/-- Digits that denote a number below a bound. -/
def IsWord (bound : Nat) (v : Marked) : Prop :=
  ∃ n : Nat, v.value = .int n ∧ v.negative = false ∧ n < bound

def IsText (v : Marked) : Prop := ∃ s, v.value = .str s

/-- The name of a message type. -/
def IsKind (v : Marked) : Prop := ∃ t : MessageType, v.value = .str t.name

/-- The name of a message type, or an object that has it as its key. -/
def IsVariant (v : Marked) : Prop :=
  ∃ t : MessageType, v.value = .str t.name ∨ v.value = .obj [(t.name, .null)]

def IsOptional (v : Marked) : Prop := v.value = .null ∨ IsText v

/-- The key occurs once, with a value of a shape. -/
def Once (key : String) (shape : Marked → Prop) (entries : List (String × Marked)) : Prop :=
  ∃ v, valuesOf key entries = [v] ∧ shape v

/-- The key does not occur, or it occurs once with a value of a shape. -/
def AtMostOnce (key : String) (shape : Marked → Prop) (entries : List (String × Marked)) : Prop :=
  valuesOf key entries = [] ∨ Once key shape entries

/-- The fields of a message in their exact shapes, given the shapes of its type and of its
body. -/
structure Fields (kind body : Marked → Prop) (entries : List (String × Marked)) : Prop where
  standard : entriesStandard (entries.map Json.eraseEntry) = true
  version : Once "version" (IsWord (2 ^ 32)) entries
  conversationId : Once "conversation_id" IsText entries
  senderDeviceId : Once "sender_device_id" IsText entries
  seq : Once "seq" (IsWord (2 ^ 64)) entries
  createdAt : Once "created_at" (IsWord (2 ^ 64)) entries
  validUntil : Once "valid_until" (IsWord (2 ^ 64)) entries
  type : Once "type" kind entries
  body : AtMostOnce "body" body entries
  messageId : AtMostOnce "message_id" IsOptional entries

/-- The shape both languages read alike. -/
abbrev PlainFields : List (String × Marked) → Prop := Fields IsKind IsText

/-- The shape Rust takes. -/
abbrev StrictFields : List (String × Marked) → Prop := Fields IsVariant IsOptional

/-- The nine fields in the order of their declaration. -/
def NineFields (items : List Marked) : Prop :=
  List.Forall₂ (fun shape v => shape v)
    [IsWord (2 ^ 32), IsText, IsText, IsWord (2 ^ 64), IsWord (2 ^ 64), IsWord (2 ^ 64),
      IsVariant, IsOptional, IsOptional] items

/-- An unsigned integer of 64 bits. -/
def Word (n : Int) : Prop := 0 ≤ n ∧ n < 2 ^ 64

instance (n : Int) : Decidable (Word n) := inferInstanceAs (Decidable (_ ∧ _))

/-- What `int` makes of the last entry with a key. -/
def HasWord (P : Packages) (key : String) (n : Int) (payload : List (String × Json)) : Prop :=
  ∃ v, Json.lookup key payload = some v ∧ pyInt P v = .ok n ∧ Word n

/-- The shape Python takes, with a message type and integers that Rust has too. -/
structure LenientFields (P : Packages) (payload : List (String × Json)) : Prop where
  lifetime : ∃ createdAt, HasWord P "created_at" createdAt payload
    ∧ (Json.lookup "valid_until" payload = none ∧ Word (createdAt + messageTtlMs)
      ∨ ∃ validUntil, HasWord P "valid_until" validUntil payload)
  version : ∃ n, HasWord P "version" n payload
  conversationId : (Json.lookup "conversation_id" payload).isSome
  senderDeviceId : (Json.lookup "sender_device_id" payload).isSome
  seq : ∃ n, HasWord P "seq" n payload
  type : ∃ t : MessageType, Json.lookup "type" payload = some (.str t.name)

/-! ### Readers of one value -/

section Readers

variable {v : Marked} {key : String}

theorem readUnsigned_eq_some {bound n : Nat} :
    readUnsigned bound v = some n ↔ v.value = .int n ∧ v.negative = false ∧ n < bound := by
  unfold readUnsigned
  cases hv : v.value with
  | int k =>
      simp only [Json.int.injEq]
      split_ifs with h
      · obtain ⟨hneg, hlow, hhigh⟩ := h
        rw [Option.some.injEq]
        constructor
        · rintro rfl
          exact ⟨(Int.toNat_of_nonneg hlow).symm, hneg, by omega⟩
        · rintro ⟨rfl, -, -⟩
          exact Int.toNat_natCast n
      · refine ⟨nofun, fun hn => absurd ⟨hn.2.1, ?_, ?_⟩ h⟩
        · omega
        · omega
  | null => simp
  | bool b => simp
  | float l => simp
  | str s => simp
  | arr vs => simp
  | obj es => simp

theorem readU32_eq_some {n : UInt32} :
    readU32 v = some n ↔ v.value = .int n.toNat ∧ v.negative = false := by
  rw [readU32, Option.map_eq_some_iff]
  constructor
  · rintro ⟨k, hk, rfl⟩
    obtain ⟨hv, hneg, hlt⟩ := readUnsigned_eq_some.mp hk
    rw [UInt32.toNat_ofNat_of_lt' hlt]
    exact ⟨hv, hneg⟩
  · rintro ⟨hv, hneg⟩
    exact ⟨n.toNat, readUnsigned_eq_some.mpr ⟨hv, hneg, n.toNat_lt⟩, UInt32.ofNat_toNat⟩

theorem readU64_eq_some {n : UInt64} :
    readU64 v = some n ↔ v.value = .int n.toNat ∧ v.negative = false := by
  rw [readU64, Option.map_eq_some_iff]
  constructor
  · rintro ⟨k, hk, rfl⟩
    obtain ⟨hv, hneg, hlt⟩ := readUnsigned_eq_some.mp hk
    rw [UInt64.toNat_ofNat_of_lt' hlt]
    exact ⟨hv, hneg⟩
  · rintro ⟨hv, hneg⟩
    exact ⟨n.toNat, readUnsigned_eq_some.mpr ⟨hv, hneg, n.toNat_lt⟩, UInt64.ofNat_toNat⟩

theorem readString_eq_some {s : String} : readString v = some s ↔ v.value = .str s := by
  rw [readString]
  cases v.value with
  | str t => simp [asStr]
  | null => simp [asStr]
  | bool b => simp [asStr]
  | int n => simp [asStr]
  | float l => simp [asStr]
  | arr vs => simp [asStr]
  | obj es => simp [asStr]

theorem readOption_eq_some {o : Option String} :
    readOption v = some o ↔ v.value = optionValue o := by
  rw [readOption]
  cases hv : v.value with
  | str t => cases o <;> simp [optionValue]
  | null => cases o <;> simp [optionValue]
  | bool b => cases o <;> simp [optionValue]
  | int n => cases o <;> simp [optionValue]
  | float l => cases o <;> simp [optionValue]
  | arr vs => cases o <;> simp [optionValue]
  | obj es => cases o <;> simp [optionValue]

theorem ofName_eq_some {name : String} {t : MessageType} :
    MessageType.ofName name = some t ↔ name = t.name := by
  constructor
  · intro h
    unfold MessageType.ofName at h
    split_ifs at h with htext hreceipt hprofile hpresence
    · cases h
      exact htext
    · cases h
      exact hreceipt
    · cases h
      exact hprofile
    · cases h
      exact hpresence
  · rintro rfl
    cases t <;> decide

theorem readType_eq_some {t : MessageType} :
    readType v = some t ↔ v.value = .str t.name ∨ v.value = .obj [(t.name, .null)] := by
  unfold readType
  split
  · rename_i name hv
    rw [hv, ofName_eq_some]
    simp
  · rename_i name hv
    rw [hv, ofName_eq_some]
    simp
  · rename_i hstr hobj
    refine ⟨nofun, ?_⟩
    rintro (h | h)
    · exact (hstr _ h).elim
    · exact (hobj _ h).elim

theorem required_eq_some {α : Type} {read : Marked → Option α} {a : α} :
    required key read entries = some a ↔ ∃ v, valuesOf key entries = [v] ∧ read v = some a := by
  unfold required
  split
  · rename_i v hv
    rw [hv]
    simp
  · rename_i hne
    refine ⟨nofun, ?_⟩
    rintro ⟨v, hv, -⟩
    exact (hne v hv).elim

theorem optional_eq_some {o : Option String} :
    optional key entries = some o ↔ valuesOf key entries = [] ∧ o = none
      ∨ ∃ v, valuesOf key entries = [v] ∧ v.value = optionValue o := by
  unfold optional
  split
  · rename_i hv
    rw [hv]
    simp [eq_comm]
  · rename_i v hv
    rw [hv, readOption_eq_some]
    simp
  · rename_i hnil hne
    refine ⟨nofun, ?_⟩
    rintro (⟨h, -⟩ | ⟨v, h, -⟩)
    · exact (hnil h).elim
    · exact (hne v h).elim

end Readers

/-! ### What Rust reads -/

/-- The entries hold the fields of a message, each in a shape the decoder takes. -/
structure Reads (entries : List (String × Marked)) (m : InnerMessage) : Prop where
  standard : entriesStandard (entries.map Json.eraseEntry) = true
  version : required "version" readU32 entries = some m.version
  conversationId : required "conversation_id" readString entries = some m.conversationId
  senderDeviceId : required "sender_device_id" readString entries = some m.senderDeviceId
  seq : required "seq" readU64 entries = some m.seq
  createdAt : required "created_at" readU64 entries = some m.createdAt
  validUntil : required "valid_until" readU64 entries = some m.validUntil
  type : required "type" readType entries = some m.messageType
  body : optional "body" entries = some m.body
  messageId : optional "message_id" entries = some m.messageId

theorem visitMap_eq_some : InnerMessage.visitMap entries = some m ↔ Reads entries m := by
  constructor
  · intro h
    simp only [InnerMessage.visitMap, bind, Option.bind_eq_some_iff, Option.guard_eq_some', pure,
      Option.some.injEq] at h
    obtain ⟨-, hstandard, version, hversion, conversationId, hconversation, senderDeviceId,
      hsender, seq, hseq, createdAt, hcreated, validUntil, hvalid, messageType, htype, body, hbody,
      messageId, hid, rfl⟩ := h
    exact ⟨hstandard, hversion, hconversation, hsender, hseq, hcreated, hvalid, htype, hbody, hid⟩
  · intro h
    simp only [InnerMessage.visitMap, bind, Option.bind_eq_some_iff, Option.guard_eq_some', pure,
      Option.some.injEq]
    exact ⟨⟨⟩, h.standard, _, h.version, _, h.conversationId, _, h.senderDeviceId, _, h.seq, _,
      h.createdAt, _, h.validUntil, _, h.type, _, h.body, _, h.messageId, rfl⟩

/-- A field is read exactly when it occurs once in its shape. -/
theorem exists_required_iff {α : Type} {key : String} {read : Marked → Option α}
    {shape : Marked → Prop} (hshape : ∀ v, shape v ↔ ∃ a, read v = some a) :
    Once key shape entries ↔ ∃ a, required key read entries = some a := by
  constructor
  · rintro ⟨v, hv, hs⟩
    obtain ⟨a, ha⟩ := (hshape v).mp hs
    exact ⟨a, required_eq_some.mpr ⟨v, hv, ha⟩⟩
  · rintro ⟨a, ha⟩
    obtain ⟨v, hv, hread⟩ := required_eq_some.mp ha
    exact ⟨v, hv, (hshape v).mpr ⟨a, hread⟩⟩

theorem isWord32_iff (v : Marked) : IsWord (2 ^ 32) v ↔ ∃ n, readU32 v = some n := by
  constructor
  · rintro ⟨n, hv, hneg, hlt⟩
    exact ⟨UInt32.ofNat n, readU32_eq_some.mpr ⟨by rw [UInt32.toNat_ofNat_of_lt' hlt, hv], hneg⟩⟩
  · rintro ⟨n, hn⟩
    obtain ⟨hv, hneg⟩ := readU32_eq_some.mp hn
    exact ⟨n.toNat, hv, hneg, n.toNat_lt⟩

theorem isWord64_iff (v : Marked) : IsWord (2 ^ 64) v ↔ ∃ n, readU64 v = some n := by
  constructor
  · rintro ⟨n, hv, hneg, hlt⟩
    exact ⟨UInt64.ofNat n, readU64_eq_some.mpr ⟨by rw [UInt64.toNat_ofNat_of_lt' hlt, hv], hneg⟩⟩
  · rintro ⟨n, hn⟩
    obtain ⟨hv, hneg⟩ := readU64_eq_some.mp hn
    exact ⟨n.toNat, hv, hneg, n.toNat_lt⟩

theorem isText_iff (v : Marked) : IsText v ↔ ∃ s, readString v = some s := by
  simp only [IsText, readString_eq_some]

theorem isVariant_iff (v : Marked) : IsVariant v ↔ ∃ t, readType v = some t := by
  simp only [IsVariant, readType_eq_some]

theorem isOptional_iff (v : Marked) : IsOptional v ↔ ∃ o, v.value = optionValue o := by
  constructor
  · rintro (h | ⟨s, h⟩)
    · exact ⟨none, h⟩
    · exact ⟨some s, h⟩
  · rintro ⟨o, h⟩
    cases o with
    | none => exact Or.inl h
    | some s => exact Or.inr ⟨s, h⟩

theorem exists_optional_iff {key : String} :
    AtMostOnce key IsOptional entries ↔ ∃ o, optional key entries = some o := by
  constructor
  · rintro (h | ⟨v, hv, hshape⟩)
    · exact ⟨none, optional_eq_some.mpr (Or.inl ⟨h, rfl⟩)⟩
    · obtain ⟨o, ho⟩ := (isOptional_iff v).mp hshape
      exact ⟨o, optional_eq_some.mpr (Or.inr ⟨v, hv, ho⟩)⟩
  · rintro ⟨o, ho⟩
    rcases optional_eq_some.mp ho with ⟨h, -⟩ | ⟨v, hv, hval⟩
    · exact Or.inl h
    · exact Or.inr ⟨v, hv, (isOptional_iff v).mpr ⟨o, hval⟩⟩

/-- Rust takes an object exactly when it has the strict shape. -/
theorem strictFields_iff : StrictFields entries ↔ ∃ m, Reads entries m := by
  constructor
  · intro h
    obtain ⟨version, hversion⟩ := (exists_required_iff isWord32_iff).mp h.version
    obtain ⟨conversationId, hconversation⟩ := (exists_required_iff isText_iff).mp h.conversationId
    obtain ⟨senderDeviceId, hsender⟩ := (exists_required_iff isText_iff).mp h.senderDeviceId
    obtain ⟨seq, hseq⟩ := (exists_required_iff isWord64_iff).mp h.seq
    obtain ⟨createdAt, hcreated⟩ := (exists_required_iff isWord64_iff).mp h.createdAt
    obtain ⟨validUntil, hvalid⟩ := (exists_required_iff isWord64_iff).mp h.validUntil
    obtain ⟨messageType, htype⟩ := (exists_required_iff isVariant_iff).mp h.type
    obtain ⟨body, hbody⟩ := exists_optional_iff.mp h.body
    obtain ⟨messageId, hid⟩ := exists_optional_iff.mp h.messageId
    exact ⟨{ version, conversationId, senderDeviceId, seq, createdAt, validUntil, messageType, body
             messageId },
      ⟨h.standard, hversion, hconversation, hsender, hseq, hcreated, hvalid, htype, hbody, hid⟩⟩
  · rintro ⟨m, h⟩
    exact ⟨h.standard, (exists_required_iff isWord32_iff).mpr ⟨_, h.version⟩,
      (exists_required_iff isText_iff).mpr ⟨_, h.conversationId⟩,
      (exists_required_iff isText_iff).mpr ⟨_, h.senderDeviceId⟩,
      (exists_required_iff isWord64_iff).mpr ⟨_, h.seq⟩,
      (exists_required_iff isWord64_iff).mpr ⟨_, h.createdAt⟩,
      (exists_required_iff isWord64_iff).mpr ⟨_, h.validUntil⟩,
      (exists_required_iff isVariant_iff).mpr ⟨_, h.type⟩, exists_optional_iff.mpr ⟨_, h.body⟩,
      exists_optional_iff.mpr ⟨_, h.messageId⟩⟩

/-- The plain shape is the strict one with a text as type and no `null` as body. -/
theorem plainFields_iff : PlainFields entries ↔
    StrictFields entries ∧ Once "type" IsKind entries ∧ AtMostOnce "body" IsText entries := by
  constructor
  · intro h
    refine ⟨{ h with type := ?_, body := ?_ }, h.type, h.body⟩
    · obtain ⟨v, hv, t, ht⟩ := h.type
      exact ⟨v, hv, t, Or.inl ht⟩
    · rcases h.body with hnil | ⟨v, hv, htext⟩
      · exact Or.inl hnil
      · exact Or.inr ⟨v, hv, Or.inr htext⟩
  · rintro ⟨h, htype, hbody⟩
    exact { h with type := htype, body := hbody }

/-! ### What Python reads -/

/-- `from_bytes` makes a message of the entries. -/
structure PyReads (P : Packages) (payload : List (String × Json)) (m : Yakr.InnerMessage) :
    Prop where
  createdAt : ∃ v, Json.lookup "created_at" payload = some v ∧ pyInt P v = .ok m.createdAt
  validUntil : Json.lookup "valid_until" payload = none
      ∧ m.validUntil = m.createdAt + messageTtlMs
    ∨ ∃ v, Json.lookup "valid_until" payload = some v ∧ pyInt P v = .ok m.validUntil
  version : ∃ v, Json.lookup "version" payload = some v ∧ pyInt P v = .ok m.version
  conversationId : ∃ v, Json.lookup "conversation_id" payload = some v
    ∧ m.conversationId = pyStr P v
  senderDeviceId : ∃ v, Json.lookup "sender_device_id" payload = some v
    ∧ m.senderDeviceId = pyStr P v
  seq : ∃ v, Json.lookup "seq" payload = some v ∧ pyInt P v = .ok m.seq
  type : ∃ v, Json.lookup "type" payload = some v ∧ m.type = Yakr.MessageType.ofJson v
  body : m.body = pyStr P ((Json.lookup "body" payload).getD (.str ""))
  messageId : m.messageId = (Json.lookup "message_id" payload).getD .null

theorem subscript_obj_ok {payload : List (String × Json)} {key : String} {v : Json} :
    subscript (.obj payload) key = .ok v ↔ Json.lookup key payload = some v := by
  rw [subscript]
  cases Json.lookup key payload with
  | none => exact iff_of_false (fun h => by cases h) fun h => by cases h
  | some w => exact ⟨fun h => congrArg some (Except.ok.inj h), fun h => congrArg _ (Option.some.inj h)⟩

/-- The `valid_until` of an object. -/
def validUntilOf (P : Packages) (payload : List (String × Json)) (createdAt : Int) :
    Except PyExc Int :=
  match Json.lookup "valid_until" payload with
  | some v => pyInt P v
  | none => .ok (createdAt + messageTtlMs)

theorem validUntilOf_ok {payload : List (String × Json)} {createdAt n : Int} :
    validUntilOf P payload createdAt = .ok n
      ↔ Json.lookup "valid_until" payload = none ∧ n = createdAt + messageTtlMs
        ∨ ∃ v, Json.lookup "valid_until" payload = some v ∧ pyInt P v = .ok n := by
  rw [validUntilOf]
  cases Json.lookup "valid_until" payload with
  | none => simp [eq_comm]
  | some v => simp

/-- `from_bytes` on an object, with `valid_until` as one step. -/
theorem ofJson_obj (payload : List (String × Json)) :
    Yakr.InnerMessage.ofJson P (.obj payload) = (do
      let createdAt ← pyInt P (← subscript (.obj payload) "created_at")
      let validUntil ← validUntilOf P payload createdAt
      let version ← pyInt P (← subscript (.obj payload) "version")
      let conversationId ← subscript (.obj payload) "conversation_id"
      let senderDeviceId ← subscript (.obj payload) "sender_device_id"
      let seq ← pyInt P (← subscript (.obj payload) "seq")
      let type ← subscript (.obj payload) "type"
      return { version
               conversationId := pyStr P conversationId
               senderDeviceId := pyStr P senderDeviceId
               seq, createdAt, validUntil
               type := Yakr.MessageType.ofJson type
               body := pyStr P ((Json.lookup "body" payload).getD (.str ""))
               messageId := (Json.lookup "message_id" payload).getD .null }) := by
  rw [Yakr.InnerMessage.ofJson]
  cases hlookup : Json.lookup "valid_until" payload with
  | none =>
      simp only [dictGet, validUntilOf, hlookup]
      rfl
  | some v =>
      simp only [dictGet, validUntilOf, hlookup]
      rfl

theorem ofJson_obj_ok {payload : List (String × Json)} {m : Yakr.InnerMessage} :
    Yakr.InnerMessage.ofJson P (.obj payload) = .ok m ↔ PyReads P payload m := by
  rw [ofJson_obj]
  constructor
  · intro h
    obtain ⟨vc, hvc, h⟩ := bind_ok.mp h
    obtain ⟨createdAt, hcreated, h⟩ := bind_ok.mp h
    obtain ⟨validUntil, hvalid, h⟩ := bind_ok.mp h
    obtain ⟨vv, hvv, h⟩ := bind_ok.mp h
    obtain ⟨version, hversion, h⟩ := bind_ok.mp h
    obtain ⟨conversationId, hconversation, h⟩ := bind_ok.mp h
    obtain ⟨senderDeviceId, hsender, h⟩ := bind_ok.mp h
    obtain ⟨vs, hvs, h⟩ := bind_ok.mp h
    obtain ⟨seq, hseq, h⟩ := bind_ok.mp h
    obtain ⟨type, htype, h⟩ := bind_ok.mp h
    cases h
    exact ⟨⟨vc, subscript_obj_ok.mp hvc, hcreated⟩, validUntilOf_ok.mp hvalid,
      ⟨vv, subscript_obj_ok.mp hvv, hversion⟩, ⟨_, subscript_obj_ok.mp hconversation, rfl⟩,
      ⟨_, subscript_obj_ok.mp hsender, rfl⟩, ⟨vs, subscript_obj_ok.mp hvs, hseq⟩,
      ⟨_, subscript_obj_ok.mp htype, rfl⟩, rfl, rfl⟩
  · intro h
    obtain ⟨vc, hvc, hcreated⟩ := h.createdAt
    obtain ⟨vv, hvv, hversion⟩ := h.version
    obtain ⟨conversationId, hconversation, hcid⟩ := h.conversationId
    obtain ⟨senderDeviceId, hsender, hsid⟩ := h.senderDeviceId
    obtain ⟨vs, hvs, hseq⟩ := h.seq
    obtain ⟨type, htype, hkind⟩ := h.type
    have hvalid : validUntilOf P payload m.createdAt = .ok m.validUntil :=
      validUntilOf_ok.mpr h.validUntil
    have hbody := h.body
    have hid := h.messageId
    simp only [subscript_obj_ok.mpr hvc, subscript_obj_ok.mpr hvv, subscript_obj_ok.mpr hvs,
      subscript_obj_ok.mpr hconversation, subscript_obj_ok.mpr hsender, subscript_obj_ok.mpr htype,
      hcreated, hversion, hseq, hvalid, ← hcid, ← hsid, ← hkind, ← hbody, ← hid, bind, Except.bind,
      pure, Except.pure]

/-- The last entry with a key. -/
theorem lookup_erase (key : String) (entries : List (String × Marked)) :
    Json.lookup key (entries.map Json.eraseEntry)
      = (valuesOf key entries).getLast?.map Marked.value := by
  induction entries using List.reverseRecOn with
  | nil => rfl
  | append_singleton entries e ih =>
      rw [Json.lookup] at ih ⊢
      rw [List.map_append, List.reverse_append, valuesOf, List.filter_append]
      by_cases hkey : e.1 = key
      · simp [Json.eraseEntry, hkey]
      · have hkey' : (key == e.1) = false := by
          rw [beq_eq_false_iff_ne]
          exact fun h => hkey h.symm
        simp only [List.map_cons, List.map_nil, List.reverse_cons, List.reverse_nil,
          List.nil_append, List.singleton_append, List.lookup_cons, Json.eraseEntry, hkey', ih]
        simp [hkey, valuesOf]

theorem lookup_of_once {key : String} {v : Marked} (h : valuesOf key entries = [v]) :
    Json.lookup key (entries.map Json.eraseEntry) = some v.value := by
  rw [lookup_erase, h]
  rfl

theorem lookup_of_none {key : String} (h : valuesOf key entries = []) :
    Json.lookup key (entries.map Json.eraseEntry) = none := by
  rw [lookup_erase, h]
  rfl

/-! ### Objects -/

/-- The message of Python with the same fields; an absent body is empty. -/
abbrev InnerMessage.asPython (m : InnerMessage) : Yakr.InnerMessage :=
  m.counterpart (m.body.getD "")

theorem ofJson_name (t : MessageType) : Yakr.MessageType.ofJson (.str t.name) = t.counterpart := by
  cases t <;> rfl

theorem ofJson_obj_ne (t : MessageType) (es : List (String × Json)) :
    Yakr.MessageType.ofJson (.obj es) ≠ t.counterpart := by
  cases t <;> nofun

/-- What Rust reads of a shape, Python reads as the same message exactly when the type is a
text and the body is not `null`. -/
theorem Reads.pyReads_iff (h : Reads entries m) :
    PyReads P (entries.map Json.eraseEntry) m.asPython
      ↔ Once "type" IsKind entries ∧ AtMostOnce "body" IsText entries := by
  obtain ⟨vt, hvt, htype⟩ := required_eq_some.mp h.type
  constructor
  · intro hpy
    constructor
    · obtain ⟨v, hv, hkind⟩ := hpy.type
      obtain rfl : vt.value = v := Option.some.inj ((lookup_of_once hvt).symm.trans hv)
      rcases readType_eq_some.mp htype with hstr | hobj
      · exact ⟨vt, hvt, m.messageType, hstr⟩
      · rw [hobj] at hkind
        exact absurd hkind.symm (ofJson_obj_ne _ _)
    · rcases optional_eq_some.mp h.body with ⟨hnil, -⟩ | ⟨v, hv, hval⟩
      · exact Or.inl hnil
      · refine Or.inr ⟨v, hv, ?_⟩
        cases hbody : m.body with
        | some s => exact ⟨s, by rw [hval, hbody, optionValue]⟩
        | none =>
            -- `str(None)` is not the empty body
            have hnone := hpy.body
            rw [lookup_of_once hv, hval, hbody] at hnone
            simp only [InnerMessage.counterpart, hbody, Option.getD_none, Option.getD_some,
              optionValue, pyStr] at hnone
            exact absurd hnone (by decide)
  · rintro ⟨⟨vk, hvk, t, ht⟩, hbody⟩
    obtain rfl : vt = vk := List.singleton_inj.mp (hvt.symm.trans hvk)
    have hkind : m.messageType = t := by
      rcases readType_eq_some.mp htype with hstr | hobj
      · rw [ht] at hstr
        have hread := readType_eq_some.mpr (Or.inl ht)
        exact Option.some.inj (htype.symm.trans hread)
      · rw [ht] at hobj
        cases hobj
    have hword : ∀ {key : String} {n : UInt64}, required key readU64 entries = some n →
        ∃ v, Json.lookup key (entries.map Json.eraseEntry) = some v
          ∧ pyInt P v = .ok (n.toNat : Int) := by
      intro key n hn
      obtain ⟨v, hv, hread⟩ := required_eq_some.mp hn
      exact ⟨_, lookup_of_once hv, by rw [(readU64_eq_some.mp hread).1, pyInt]⟩
    have htext : ∀ {key : String} {text : String}, required key readString entries = some text →
        ∃ v, Json.lookup key (entries.map Json.eraseEntry) = some v ∧ text = pyStr P v := by
      intro key text hs
      obtain ⟨v, hv, hread⟩ := required_eq_some.mp hs
      exact ⟨_, lookup_of_once hv, by rw [readString_eq_some.mp hread, pyStr]⟩
    obtain ⟨vv, hvv, hversion⟩ := required_eq_some.mp h.version
    refine ⟨hword h.createdAt, Or.inr (hword h.validUntil),
      ⟨_, lookup_of_once hvv, by rw [(readU32_eq_some.mp hversion).1, pyInt]; rfl⟩,
      htext h.conversationId, htext h.senderDeviceId, hword h.seq,
      ⟨_, lookup_of_once hvt, by rw [ht, ofJson_name, ← hkind]; rfl⟩, ?_, ?_⟩
    · rcases hbody with hnil | ⟨v, hv, s, hs⟩
      · rcases optional_eq_some.mp h.body with ⟨-, hnone⟩ | ⟨v, hv, -⟩
        · rw [lookup_of_none hnil]
          simp only [InnerMessage.counterpart, hnone, Option.getD_none, pyStr]
        · rw [hnil] at hv
          cases hv
      · rcases optional_eq_some.mp h.body with ⟨hnil, -⟩ | ⟨w, hw, hval⟩
        · rw [hnil] at hv
          cases hv
        · obtain rfl : v = w := List.singleton_inj.mp (hv.symm.trans hw)
          rw [lookup_of_once hv]
          cases hb : m.body with
          | none =>
              rw [hs, hb] at hval
              cases hval
          | some b =>
              rw [hs, hb] at hval
              cases hval
              simp only [InnerMessage.counterpart, hb, Option.getD_some, hs, pyStr]
    · rcases optional_eq_some.mp h.messageId with ⟨hnil, hnone⟩ | ⟨v, hv, hval⟩
      · rw [lookup_of_none hnil]
        simp only [InnerMessage.counterpart, hnone, optionValue, Option.getD_none]
      · rw [lookup_of_once hv]
        simp only [InnerMessage.counterpart, Option.getD_some, hval]

/-- A message Python made whose type and integers Rust has too. -/
structure Common (m : Yakr.InnerMessage) : Prop where
  type : ∃ t : MessageType, m.type = t.counterpart
  version : Word m.version
  seq : Word m.seq
  createdAt : Word m.createdAt
  validUntil : Word m.validUntil

/-- The JSON values of the four types are their names. -/
theorem ofJson_eq_counterpart {v : Json} {t : MessageType}
    (h : Yakr.MessageType.ofJson v = t.counterpart) : v = .str t.name := by
  unfold Yakr.MessageType.ofJson at h
  split at h
  · split_ifs at h with htext hreceipt hprofile hpresence
    · subst htext
      cases t <;> first | rfl | cases h
    · subst hreceipt
      cases t <;> first | rfl | cases h
    · subst hprofile
      cases t <;> first | rfl | cases h
    · subst hpresence
      cases t <;> first | rfl | cases h
    · cases t <;> cases h
  · cases t <;> cases h

/-- Python takes an object, with such a type and such integers, exactly when it has the lenient
shape. -/
theorem lenientFields_iff {payload : List (String × Json)} :
    LenientFields P payload ↔ ∃ m, PyReads P payload m ∧ Common m := by
  constructor
  · intro h
    obtain ⟨createdAt, ⟨vc, hvc, hcreated, hcword⟩, hvalid⟩ := h.lifetime
    obtain ⟨version, vv, hvv, hversion, hvword⟩ := h.version
    obtain ⟨conversationId, hconversation⟩ := Option.isSome_iff_exists.mp h.conversationId
    obtain ⟨senderDeviceId, hsender⟩ := Option.isSome_iff_exists.mp h.senderDeviceId
    obtain ⟨seq, vs, hvs, hseq, hsword⟩ := h.seq
    obtain ⟨t, ht⟩ := h.type
    obtain ⟨validUntil, huntil, huword⟩ : ∃ validUntil,
        (Json.lookup "valid_until" payload = none ∧ validUntil = createdAt + messageTtlMs
          ∨ ∃ v, Json.lookup "valid_until" payload = some v ∧ pyInt P v = .ok validUntil)
        ∧ Word validUntil := by
      rcases hvalid with ⟨hnone, hword⟩ | ⟨n, v, hv, hint, hword⟩
      · exact ⟨_, Or.inl ⟨hnone, rfl⟩, hword⟩
      · exact ⟨n, Or.inr ⟨v, hv, hint⟩, hword⟩
    exact ⟨{ version
             conversationId := pyStr P conversationId
             senderDeviceId := pyStr P senderDeviceId
             seq, createdAt, validUntil
             type := t.counterpart
             body := pyStr P ((Json.lookup "body" payload).getD (.str ""))
             messageId := (Json.lookup "message_id" payload).getD .null },
      ⟨⟨vc, hvc, hcreated⟩, huntil, ⟨vv, hvv, hversion⟩, ⟨_, hconversation, rfl⟩,
        ⟨_, hsender, rfl⟩, ⟨vs, hvs, hseq⟩, ⟨_, ht, (ofJson_name t).symm⟩, rfl, rfl⟩,
      ⟨⟨t, rfl⟩, hvword, hsword, hcword, huword⟩⟩
  · rintro ⟨m, h, hc⟩
    obtain ⟨vc, hvc, hcreated⟩ := h.createdAt
    obtain ⟨vv, hvv, hversion⟩ := h.version
    obtain ⟨conversationId, hconversation, -⟩ := h.conversationId
    obtain ⟨senderDeviceId, hsender, -⟩ := h.senderDeviceId
    obtain ⟨vs, hvs, hseq⟩ := h.seq
    obtain ⟨vt, hvt, hkind⟩ := h.type
    obtain ⟨t, ht⟩ := hc.type
    refine ⟨⟨m.createdAt, ⟨vc, hvc, hcreated, hc.createdAt⟩, ?_⟩, ⟨_, vv, hvv, hversion, hc.version⟩,
      by rw [hconversation]; rfl, by rw [hsender]; rfl, ⟨_, vs, hvs, hseq, hc.seq⟩, t, ?_⟩
    · rcases h.validUntil with ⟨hnone, heq⟩ | ⟨v, hv, hint⟩
      · exact Or.inl ⟨hnone, heq ▸ hc.validUntil⟩
      · exact Or.inr ⟨_, v, hv, hint, hc.validUntil⟩
    · rw [hvt, ofJson_eq_counterpart (hkind.symm.trans ht)]

/-! ### Documents -/

/-- Rust takes an array exactly when it holds the nine fields. -/
theorem nineFields_iff {items : List Marked} :
    NineFields items ↔ ∃ m, InnerMessage.visitSeq items = some m := by
  constructor
  · intro h
    obtain ⟨version, rest1, hversion, h1, rfl⟩ := List.forall₂_cons_left_iff.mp h
    obtain ⟨conversationId, rest2, hconversation, h2, rfl⟩ := List.forall₂_cons_left_iff.mp h1
    obtain ⟨senderDeviceId, rest3, hsender, h3, rfl⟩ := List.forall₂_cons_left_iff.mp h2
    obtain ⟨seq, rest4, hseq, h4, rfl⟩ := List.forall₂_cons_left_iff.mp h3
    obtain ⟨createdAt, rest5, hcreated, h5, rfl⟩ := List.forall₂_cons_left_iff.mp h4
    obtain ⟨validUntil, rest6, hvalid, h6, rfl⟩ := List.forall₂_cons_left_iff.mp h5
    obtain ⟨messageType, rest7, htype, h7, rfl⟩ := List.forall₂_cons_left_iff.mp h6
    obtain ⟨body, rest8, hbody, h8, rfl⟩ := List.forall₂_cons_left_iff.mp h7
    obtain ⟨messageId, rest9, hid, h9, rfl⟩ := List.forall₂_cons_left_iff.mp h8
    obtain rfl := List.forall₂_nil_left_iff.mp h9
    obtain ⟨_, hversion⟩ := (isWord32_iff _).mp hversion
    obtain ⟨_, hconversation⟩ := (isText_iff _).mp hconversation
    obtain ⟨_, hsender⟩ := (isText_iff _).mp hsender
    obtain ⟨_, hseq⟩ := (isWord64_iff _).mp hseq
    obtain ⟨_, hcreated⟩ := (isWord64_iff _).mp hcreated
    obtain ⟨_, hvalid⟩ := (isWord64_iff _).mp hvalid
    obtain ⟨_, htype⟩ := (isVariant_iff _).mp htype
    obtain ⟨_, hbody⟩ := (isOptional_iff _).mp hbody
    obtain ⟨_, hid⟩ := (isOptional_iff _).mp hid
    rw [← readOption_eq_some] at hbody hid
    simp [InnerMessage.visitSeq, hversion, hconversation, hsender, hseq, hcreated, hvalid, htype,
      hbody, hid]
  · rintro ⟨m, h⟩
    unfold InnerMessage.visitSeq at h
    split at h
    · simp only [bind, Option.bind_eq_some_iff] at h
      obtain ⟨_, hversion, _, hconversation, _, hsender, _, hseq, _, hcreated, _, hvalid, _, htype,
        _, hbody, _, hid, -⟩ := h
      rw [readOption_eq_some] at hbody hid
      exact .cons ((isWord32_iff _).mpr ⟨_, hversion⟩) (.cons ((isText_iff _).mpr ⟨_, hconversation⟩)
        (.cons ((isText_iff _).mpr ⟨_, hsender⟩) (.cons ((isWord64_iff _).mpr ⟨_, hseq⟩)
          (.cons ((isWord64_iff _).mpr ⟨_, hcreated⟩) (.cons ((isWord64_iff _).mpr ⟨_, hvalid⟩)
            (.cons ((isVariant_iff _).mpr ⟨_, htype⟩) (.cons ((isOptional_iff _).mpr ⟨_, hbody⟩)
              (.cons ((isOptional_iff _).mpr ⟨_, hid⟩) .nil))))))))
    · cases h

/-- The two decoders agree on a byte string. What Python accepts with a type and integers that
Rust has too, Rust accepts with the same fields; what Rust accepts, Python accepts with the
same fields. -/
def DecodesAlike (P : Packages) (data : Bytes) : Prop :=
  (∀ m, Yakr.InnerMessage.fromBytes P data = .ok m → Common m →
    ∃ r, InnerMessage.fromBytes data = some r ∧ m = r.asPython)
  ∧ ∀ r, InnerMessage.fromBytes data = some r →
    Yakr.InnerMessage.fromBytes P data = .ok r.asPython

/-- The top level of a JSON text on which the decoders agree: an object in the plain shape, or
anything that neither of them takes. -/
def Agreed (P : Packages) : Document → Prop
  | .object entries =>
      PlainFields entries
        ∨ ¬ StrictFields entries ∧ ¬ LenientFields P (entries.map Json.eraseEntry)
  | .array items => ¬ NineFields items
  | .scalar _ => True

/-- The document of a byte string. -/
def document (data : Bytes) : Option Document := data.toUtf8.bind Json.readDocument

theorem fromBytes_of_document {data : Bytes} {d : Document} (h : document data = some d) :
    Yakr.InnerMessage.fromBytes P data = Yakr.InnerMessage.ofJson P d.value := by
  obtain ⟨text, htext, hread⟩ := Option.bind_eq_some_iff.mp h
  have hload : Json.loads text = some d.value := by rw [Json.loads_eq_value, hread]; rfl
  rw [Yakr.InnerMessage.fromBytes, Yakr.InnerMessage.loadPayload, decodeUtf8, htext]
  simp only [bind, Except.bind, hload, pure, Except.pure]

theorem fromBytes_no_document {data : Bytes} (h : document data = none) (m : Yakr.InnerMessage) :
    Yakr.InnerMessage.fromBytes P data ≠ .ok m := by
  intro hok
  obtain ⟨payload, hload, -⟩ := bind_ok.mp hok
  obtain ⟨text, htext, hjson⟩ := bind_ok.mp hload
  rw [decodeUtf8] at htext
  cases hutf : data.toUtf8 with
  | none =>
      rw [hutf] at htext
      cases htext
  | some s =>
      rw [hutf] at htext
      obtain rfl : s = text := Except.ok.inj htext
      rw [document, hutf, Option.bind_some] at h
      rw [Json.loads_eq_value, h] at hjson
      cases hjson

/-- What is no object is no message to Python. -/
theorem ofJson_ne_ok {v : Json} (hv : ∀ es, v ≠ .obj es) (m : Yakr.InnerMessage) :
    Yakr.InnerMessage.ofJson P v ≠ .ok m := by
  intro h
  obtain ⟨created, hcreated, -⟩ := bind_ok.mp h
  cases v with
  | obj es => exact hv es rfl
  | null => cases hcreated
  | bool b => cases hcreated
  | int n => cases hcreated
  | float l => cases hcreated
  | str s => cases hcreated
  | arr vs => cases hcreated

theorem fromBytes_eq_visit {data : Bytes} {d : Document} (h : document data = some d) :
    InnerMessage.fromBytes data = InnerMessage.visit d := by
  obtain ⟨text, htext, hread⟩ := Option.bind_eq_some_iff.mp h
  rw [InnerMessage.fromBytes]
  simp only [bind, htext, Option.bind_some, hread]

/-- On an object the decoders agree exactly when it has the plain shape, or neither takes it. -/
theorem decodesAlike_object {data : Bytes} (h : document data = some (.object entries)) :
    DecodesAlike P data ↔ Agreed P (.object entries) := by
  have hrust : ∀ r, InnerMessage.fromBytes data = some r ↔ Reads entries r := by
    intro r
    rw [fromBytes_eq_visit h]
    exact visitMap_eq_some
  have hpy : ∀ m, Yakr.InnerMessage.fromBytes P data = .ok m
      ↔ PyReads P (entries.map Json.eraseEntry) m := by
    intro m
    rw [fromBytes_of_document h]
    exact ofJson_obj_ok
  constructor
  · rintro ⟨hlenient, hstrict⟩
    by_cases hshape : StrictFields entries
    · obtain ⟨r, hr⟩ := strictFields_iff.mp hshape
      have hread := (hpy _).mp (hstrict r ((hrust r).mpr hr))
      exact Or.inl (plainFields_iff.mpr ⟨hshape, hr.pyReads_iff.mp hread⟩)
    · refine Or.inr ⟨hshape, fun hfields => ?_⟩
      obtain ⟨m, hm, hcommon⟩ := lenientFields_iff.mp hfields
      obtain ⟨r, hr, -⟩ := hlenient m ((hpy m).mpr hm) hcommon
      exact hshape (strictFields_iff.mpr ⟨r, (hrust r).mp hr⟩)
  · rintro (hplain | ⟨hstrict, hlenient⟩)
    · obtain ⟨hshape, hkind⟩ := plainFields_iff.mp hplain
      obtain ⟨r, hr⟩ := strictFields_iff.mp hshape
      have hread := (hpy _).mpr (hr.pyReads_iff.mpr hkind)
      refine ⟨fun m hm _ => ⟨r, (hrust r).mpr hr, Except.ok.inj (hm.symm.trans hread)⟩,
        fun r' hr' => ?_⟩
      exact (hpy _).mpr (((hrust r').mp hr').pyReads_iff.mpr hkind)
    · refine ⟨fun m hm hcommon => ?_, fun r hr => ?_⟩
      · exact (hlenient (lenientFields_iff.mpr ⟨m, (hpy m).mp hm, hcommon⟩)).elim
      · exact (hstrict (strictFields_iff.mpr ⟨r, (hrust r).mp hr⟩)).elim

/-- The text of an object is a document with its entries. -/
theorem document_dumps {payload : List (String × Json)} (h : (Json.obj payload).integral) :
    ∃ entries, document (encodeUtf8 (Json.obj payload).dumps) = some (.object entries)
      ∧ entries.map Json.eraseEntry = payload := by
  have hload := Json.loads_dumps _ h
  rw [Json.loads_eq_value] at hload
  obtain ⟨d, hread, hvalue⟩ := Option.map_eq_some_iff.mp hload
  have hdoc : document (encodeUtf8 (Json.obj payload).dumps) = some d := by
    rw [document, encodeUtf8, Bytes.toUtf8_ofUtf8]
    exact hread
  cases d with
  | object entries => exact ⟨entries, hdoc, Json.obj.inj hvalue⟩
  | array items => cases hvalue
  | scalar v => exact absurd hvalue (Json.readDocument_scalar hread payload)

namespace MessageSample

/-- The inner message of the protocol document, which has no `valid_until`. -/
def documented : List (String × Json) :=
  [("version", .int 1), ("conversation_id", .str "pairwise_alice_bob"),
    ("sender_device_id", .str "abc123"), ("seq", .int 1), ("created_at", .int 1700000000000),
    ("type", .str "text"), ("body", .str "hello"), ("message_id", .null)]

/-- What Python makes of it. -/
def accepted : Yakr.InnerMessage :=
  .text "pairwise_alice_bob" "abc123" 1 "hello" 1700000000000

theorem accepted_reads : PyReads plainPackages documented accepted where
  createdAt := ⟨_, rfl, rfl⟩
  validUntil := Or.inl ⟨rfl, rfl⟩
  version := ⟨_, rfl, rfl⟩
  conversationId := ⟨_, rfl, rfl⟩
  senderDeviceId := ⟨_, rfl, rfl⟩
  seq := ⟨_, rfl, rfl⟩
  type := ⟨_, rfl, rfl⟩
  body := rfl
  messageId := rfl

theorem accepted_common : Common accepted where
  type := ⟨.text, rfl⟩
  version := by decide
  seq := by decide
  createdAt := by decide
  validUntil := by decide

end MessageSample
end Rust
end Yakr
