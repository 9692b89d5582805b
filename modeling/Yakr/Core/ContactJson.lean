import Yakr.Core.Identity
import Yakr.Core.Values
import Yakr.Lib.JsonSpaced

/-!
# Yakr.Core.ContactJson

**Contacts as JSON text.** What `json.dumps` writes of `Contact.to_dict` and of `RatchetState.to_dict`,
and the two `from_dict` on what `json.loads` reads. The ratchet is a JSON text inside the text of
its contact.
-/

namespace Yakr

open Lib

variable (P : Packages)

/-! ### Payloads -/

/-- `json.loads(text)`. -/
def jsonLoads (text : String) : Except PyExc Json :=
  match Json.loads text with
  | some payload => .ok payload
  | none => .error (.valueError "JSONDecodeError")

/-- `payload.get(key, default)`. -/
def dictGetD (payload : Json) (key : String) (default : Json) : Except PyExc Json := do
  return (← dictGet payload key).getD default

/-- The items of a dictionary that an object was read into: a key that occurs again keeps its place
and takes the new value. -/
def jsonItems (entries : List (String × Json)) : List (String × Json) :=
  entries.foldl (fun items e => Table.put Prod.fst e items) []

/-- The object of the fields that are there. -/
def presentFields (fields : List (String × Option Json)) : Json :=
  .obj (fields.filterMap fun field => field.2.map fun v => (field.1, v))

/-! ### The ratchet -/

/-- The payload of `RatchetState.to_dict`. -/
def RatchetDict.toJson (d : RatchetDict) : Json :=
  .obj [("version", .int d.version), ("root_key", .str d.rootKey),
    ("dh_self_private", .str d.dhSelfPrivate), ("dh_self_public", .str d.dhSelfPublic),
    ("dh_peer_public", .str d.dhPeerPublic), ("send_chain_key", .str d.sendChainKey),
    ("recv_chain_key", .str d.recvChainKey), ("send_n", .int d.sendN), ("recv_n", .int d.recvN),
    ("prev_send_n", .int d.prevSendN),
    ("skipped_keys", .obj (d.skippedKeys.map fun e => (e.1, .str e.2))), ("hybrid", .bool d.hybrid),
    ("pending_pairing_dh_ratchet_peer", .str d.pendingPairingDhRatchetPeer)]

/-- `RatchetState.from_dict`. The counters `to_dict` writes are not negative. -/
def RatchetState.fromJson (payload : Json) : Except PyExc RatchetState := do
  if (← pyInt P (← dictGetD payload "version" (.int 0))) ≠ 2 then
    throw (.valueError "unsupported ratchet version; re-pair required")
  let peer ← decodeText (pyStr P (← dictGetD payload "dh_peer_public" (.str "")))
  let sendChain ← decodeText (pyStr P (← dictGetD payload "send_chain_key" (.str "")))
  let recvChain ← decodeText (pyStr P (← dictGetD payload "recv_chain_key" (.str "")))
  let skipped ← dictGetD payload "skipped_keys" (.obj [])
  let pendingPeer ← decodeText
    (pyStr P (← dictGetD payload "pending_pairing_dh_ratchet_peer" (.str "")))
  let rootKey ← decodeText (pyStr P (← subscript payload "root_key"))
  let dhSelfPrivate ← decodeText (pyStr P (← subscript payload "dh_self_private"))
  let dhSelfPublic ← decodeText (pyStr P (← subscript payload "dh_self_public"))
  let sendN ← pyInt P (← dictGetD payload "send_n" (.int 0))
  let recvN ← pyInt P (← dictGetD payload "recv_n" (.int 0))
  let prevSendN ← pyInt P (← dictGetD payload "prev_send_n" (.int 0))
  let hybrid ← dictGetD payload "hybrid" (.bool false)
  return { rootKey, dhSelfPrivate, dhSelfPublic
           dhPeerPublic := orNone peer
           sendChainKey := orNone sendChain
           recvChainKey := orNone recvChain
           sendN := sendN.toNat
           recvN := recvN.toNat
           prevSendN := prevSendN.toNat
           skippedKeys := match skipped with
             | .obj entries => (jsonItems entries).map fun e => (e.1, pyStr P e.2)
             | _ => []
           hybrid := pyBool P hybrid
           pendingPairingDhRatchetPeer := orNone pendingPeer }

/-! ### The contact -/

/-- The mode as it is written. -/
def PrivacyMode.text : PrivacyMode → String
  | .fast => "fast"
  | .balanced => "balanced"
  | .high => "high"

/-- The mode of a text. Python would keep any other text, which no contact is ever given. -/
def PrivacyMode.ofText (value : String) : Except PyExc PrivacyMode :=
  if value = "fast" then .ok .fast
  else if value = "balanced" then .ok .balanced
  else if value = "high" then .ok .high
  else .error (.valueError "not a privacy mode")

@[simp] theorem PrivacyMode.ofText_text (mode : PrivacyMode) : ofText mode.text = .ok mode := by
  cases mode with
  | fast => rfl
  | balanced => rfl
  | high => rfl

/-- The fields of `Contact.to_dict`. -/
def ContactDict.fields (d : ContactDict) : List (String × Option Json) :=
  [("name", some (.str d.name)), ("signing_public", some (.str d.signingPublic)),
    ("agreement_public", some (.str d.agreementPublic)),
    ("master_secret", some (.str d.masterSecret)),
    ("conversation_id", some (.str d.conversationId)),
    ("next_send_seq", some (.int d.nextSendSeq)), ("last_recv_seq", some (.int d.lastRecvSeq)),
    ("contact_id", d.contactId.map .str), ("transcript_hash", d.transcriptHash.map .str),
    ("ratchet", d.ratchet.map fun r => .str r.toJson.dumpsSpaced),
    ("delivery_profile", d.deliveryProfile.map .str),
    ("peer_acked_my_profile_version", d.peerAckedMyProfileVersion.map .int),
    ("peer_acked_my_relay_names", d.peerAckedMyRelayNames.map .str),
    ("hybrid_pq", d.hybridPq.map .int), ("session_started_at", d.sessionStartedAt.map .int),
    ("privacy_mode", d.privacyMode.map fun mode => .str mode.text)]

/-- The payload of `Contact.to_dict`. -/
def ContactDict.toJson (d : ContactDict) : Json := presentFields d.fields

/-- `Contact.from_dict`. -/
def Contact.fromJson (payload : Json) : Except PyExc Contact := do
  let ratchet ← mapPresent (fun v => do RatchetState.fromJson P (← jsonLoads (pyStr P v)))
    (← dictGet payload "ratchet")
  let deliveryProfile ← mapPresent (fun v => DeliveryProfile.fromB64 P (pyStr P v))
    (← dictGet payload "delivery_profile")
  let names ← dictGet payload "peer_acked_my_relay_names"
  let contactId ← mapPresent (fun v => b64decode (pyStr P v)) (← dictGet payload "contact_id")
  let transcriptHash ← mapPresent (fun v => b64decode (pyStr P v))
    (← dictGet payload "transcript_hash")
  let name ← subscript payload "name"
  let signingPublic ← b64decode (pyStr P (← subscript payload "signing_public"))
  let agreementPublic ← b64decode (pyStr P (← subscript payload "agreement_public"))
  let masterSecret ← b64decode (pyStr P (← subscript payload "master_secret"))
  let conversationId ← subscript payload "conversation_id"
  let nextSendSeq ← pyInt P (← dictGetD payload "next_send_seq" (.int 1))
  let lastRecvSeq ← pyInt P (← dictGetD payload "last_recv_seq" (.int 0))
  let version ← pyInt P (← dictGetD payload "peer_acked_my_profile_version" (.int 0))
  let hybridPq ← pyInt P (← dictGetD payload "hybrid_pq" (.int 0))
  let sessionStartedAt ← pyInt P (← dictGetD payload "session_started_at" (.int 0))
  let privacyMode ←
    PrivacyMode.ofText (pyStr P (← dictGetD payload "privacy_mode" (.str "fast")))
  return { name := pyStr P name
           signingPublic, agreementPublic, masterSecret
           conversationId := pyStr P conversationId
           nextSendSeq, lastRecvSeq, contactId, transcriptHash, ratchet, deliveryProfile
           peerAckedMyProfileVersion := version
           peerAckedMyRelayNames :=
             -- each part is stripped, so that the strip of the whole text takes nothing more
             (names.map fun v => splitNames (pyStr P v)).getD []
           hybridPq := hybridPq ≠ 0
           sessionStartedAt, privacyMode }

/-- `Contact.from_dict(json.loads(json.dumps(contact.to_dict())))`. -/
def Contact.reload (c : Contact) : Except PyExc Contact := do
  Contact.fromJson P (← jsonLoads (c.toDict P).toJson.dumpsSpaced)

/-! ### Reading what was written -/

@[simp] theorem pyInt_int (n : Int) : pyInt P (.int n) = .ok n := rfl

@[simp] theorem pyStr_str (s : String) : pyStr P (.str s) = s := rfl

section Lookup

variable {key : String} {es : List (String × Json)}

theorem lookup_cons {k : String} {v : Json} :
    Json.lookup key ((k, v) :: es)
      = (Json.lookup key es).or (if key = k then some v else none) := by
  rw [Json.lookup, List.reverse_cons, List.lookup_append]
  by_cases hk : key = k
  · simp [Json.lookup, hk]
  · have hbeq : (key == k) = false := beq_eq_false_iff_ne.mpr hk
    simp [Json.lookup, List.lookup_cons, hk, hbeq]

/-- A field is found when it is there. -/
theorem lookup_presentFields {fields : List (String × Option Json)}
    (h : (fields.map Prod.fst).Nodup) :
    Json.lookup key (fields.filterMap fun field => field.2.map fun v => (field.1, v))
      = (fields.lookup key).join := by
  induction fields with
  | nil => rfl
  | cons field fields ih =>
      obtain ⟨k, v⟩ := field
      obtain ⟨hfresh, hnodup⟩ := List.nodup_cons.mp h
      have hrest := ih hnodup
      by_cases hk : key = k
      · subst hk
        have hnone : fields.lookup key = none := by
          rw [List.lookup_eq_none_iff]
          intro field hfield
          have hne : key ≠ field.1 := fun hsame => hfresh (by
            show key ∈ fields.map Prod.fst
            rw [hsame]
            exact List.mem_map_of_mem hfield)
          exact bne_iff_ne.mpr hne
        rw [hnone] at hrest
        cases v with
        | none => simp [hrest]
        | some v => simp [lookup_cons, hrest]
      · have hbeq : (key == k) = false := beq_eq_false_iff_ne.mpr hk
        cases v with
        | none => simp [List.lookup_cons, hbeq, hrest]
        | some v => simp [List.lookup_cons, lookup_cons, hbeq, hk, hrest]

end Lookup

/-- The items of an object without repeated keys are its entries. -/
theorem jsonItems_eq {entries : List (String × Json)} (h : (entries.map Prod.fst).Nodup) :
    jsonItems entries = entries := by
  have hfold : ∀ (rest items : List (String × Json)), ((items ++ rest).map Prod.fst).Nodup →
      rest.foldl (fun items e => Table.put Prod.fst e items) items = items ++ rest := by
    intro rest
    induction rest with
    | nil => intro items _; rw [List.foldl_nil, List.append_nil]
    | cons e rest ih =>
        intro items hnodup
        have hfresh : ¬ items.any fun x => x.1 = e.1 := by
          intro hany
          obtain ⟨x, hx, hsame⟩ := List.any_eq_true.mp hany
          rw [List.map_append, List.map_cons] at hnodup
          exact (List.nodup_append.mp hnodup).2.2 x.1 (List.mem_map_of_mem hx) e.1
            List.mem_cons_self (of_decide_eq_true hsame)
        rw [List.foldl_cons, Table.put, if_neg hfresh, ih _ (by rwa [List.append_assoc]),
          List.append_assoc]
        rfl
  exact hfold entries [] h

theorem RatchetDict.integral_toJson (d : RatchetDict) : d.toJson.integral := by
  have hskipped : Json.integralEntries (d.skippedKeys.map fun e => (e.1, Json.str e.2)) := by
    induction d.skippedKeys with
    | nil => rfl
    | cons e es ih => simpa [Json.integralEntries, Json.integral] using ih
  simp [RatchetDict.toJson, Json.integral, Json.integralEntries, hskipped]

/-- The ratchet is read from its payload as from the dictionary. -/
theorem RatchetState.fromJson_toJson {d : RatchetDict} (h : (d.skippedKeys.map Prod.fst).Nodup) :
    RatchetState.fromJson P d.toJson = RatchetState.fromDict d := by
  have hitems : jsonItems (d.skippedKeys.map fun e => (e.1, Json.str e.2))
      = d.skippedKeys.map fun e => (e.1, Json.str e.2) :=
    jsonItems_eq (by rwa [List.map_map])
  have hskipped : ((d.skippedKeys.map fun e => (e.1, Json.str e.2)).map
      fun e => (e.1, pyStr P e.2)) = d.skippedKeys := by
    rw [List.map_map]
    exact List.map_id _
  rw [RatchetState.fromJson, RatchetState.fromDict, RatchetDict.toJson]
  simp only [dictGetD, dictGet, subscript, lookup_cons, bind, Except.bind, pure, Except.pure]
  simp only [Json.lookup, List.reverse_nil, List.lookup_nil, Option.or_none,
    Option.or_some, String.reduceEq, if_false, if_true, Option.getD_some, Option.getD_none,
    pyInt_int, pyStr_str, pyBool, hitems, hskipped, Int.toNat_natCast]

theorem ContactDict.dictGet_toJson (d : ContactDict) (key : String) :
    dictGet d.toJson key = .ok (d.fields.lookup key).join :=
  congrArg Except.ok (lookup_presentFields (by simp [ContactDict.fields]))

theorem ContactDict.subscript_toJson {d : ContactDict} {key : String} {v : Json}
    (h : (d.fields.lookup key).join = some v) : subscript d.toJson key = .ok v := by
  have hlookup : Json.lookup key (d.fields.filterMap fun field => field.2.map fun v => (field.1, v))
      = some v := (lookup_presentFields (by simp [ContactDict.fields])).trans h
  show (match Json.lookup key _ with | some v => Except.ok v | none => _) = _
  rw [hlookup]

theorem ContactDict.dictGetD_toJson {d : ContactDict} {key : String} {v default : Json}
    (h : (d.fields.lookup key).join.getD default = v) :
    dictGetD d.toJson key default = .ok v := by
  rw [dictGetD, d.dictGet_toJson]
  exact congrArg Except.ok h

/-- A number that is written when it is there, and is read with the default it stands for. -/
theorem pyInt_present (n : Option Int) (default : Int) :
    pyInt P ((n.map Json.int).getD (.int default)) = .ok (n.getD default) := by
  cases n with
  | none => rfl
  | some n => rfl

theorem ofText_present (mode : Option PrivacyMode) :
    PrivacyMode.ofText (pyStr P ((mode.map fun mode => Json.str mode.text).getD (.str "fast")))
      = .ok (mode.getD .fast) := by
  cases mode with
  | none => rfl
  | some mode => exact mode.ofText_text

theorem mapPresent_str {α : Type} (f : String → Except PyExc α) (v : Option String) :
    mapPresent (fun v => f (pyStr P v)) (v.map Json.str) = mapPresent f v := by
  cases v with
  | none => rfl
  | some s => rfl

/-- The ratchet's text inside the text of its contact. -/
theorem mapPresent_ratchet {ratchet : Option RatchetDict}
    (h : ∀ r ∈ ratchet, (r.skippedKeys.map Prod.fst).Nodup) :
    mapPresent (fun v => do RatchetState.fromJson P (← jsonLoads (pyStr P v)))
        (ratchet.map fun r => Json.str r.toJson.dumpsSpaced)
      = mapPresent RatchetState.fromDict ratchet := by
  cases ratchet with
  | none => rfl
  | some r =>
      have hload : jsonLoads r.toJson.dumpsSpaced = .ok r.toJson := by
        rw [jsonLoads, Json.loads_dumpsSpaced _ r.integral_toJson]
      rw [Option.map_some, mapPresent, mapPresent, pyStr_str, hload]
      exact congrArg _ (RatchetState.fromJson_toJson P (h r rfl))

theorem integralEntries_presentFields {fields : List (String × Option Json)}
    (h : ∀ field ∈ fields, ∀ v ∈ field.2, v.integral) :
    Json.integralEntries (fields.filterMap fun field => field.2.map fun v => (field.1, v)) := by
  induction fields with
  | nil => rfl
  | cons field fields ih =>
      obtain ⟨key, v⟩ := field
      have hrest := ih fun field hfield => h field (List.mem_cons_of_mem _ hfield)
      cases v with
      | none => exact hrest
      | some v =>
          have hv := h (key, some v) List.mem_cons_self v rfl
          rw [List.filterMap_cons, Option.map_some]
          simp only [Json.integralEntries, hv, hrest, Bool.and_self]

theorem ContactDict.integral_toJson (d : ContactDict) : d.toJson.integral := by
  have hpresent : ∀ {α : Type} (f : α → Json) (a : Option α), (∀ a, (f a).integral) →
      ∀ v ∈ a.map f, v.integral := by
    intro α f a hf v hv
    obtain ⟨a, -, rfl⟩ := Option.map_eq_some_iff.mp hv
    exact hf a
  refine integralEntries_presentFields ?_
  simp only [ContactDict.fields, List.forall_mem_cons, List.not_mem_nil, false_implies, implies_true,
    and_true, Option.mem_some_iff, forall_eq']
  refine ⟨rfl, rfl, rfl, rfl, rfl, rfl, rfl, ?_⟩
  exact ⟨hpresent _ _ fun _ => rfl, hpresent _ _ fun _ => rfl, hpresent _ _ fun _ => rfl,
    hpresent _ _ fun _ => rfl, hpresent _ _ fun _ => rfl, hpresent _ _ fun _ => rfl,
    hpresent _ _ fun _ => rfl, hpresent _ _ fun _ => rfl, hpresent _ _ fun _ => rfl⟩

/-- The contact is read from its payload as from the dictionary. -/
theorem Contact.fromJson_toJson {d : ContactDict}
    (hskipped : ∀ r ∈ d.ratchet, (r.skippedKeys.map Prod.fst).Nodup) :
    Contact.fromJson P d.toJson = Contact.fromDict P d := by
  have hratchet : (d.fields.lookup "ratchet").join
      = d.ratchet.map fun r => .str r.toJson.dumpsSpaced := by
    simp [ContactDict.fields, List.lookup_cons]
  have hprofile : (d.fields.lookup "delivery_profile").join = d.deliveryProfile.map .str := by
    simp [ContactDict.fields, List.lookup_cons]
  have hnames : (d.fields.lookup "peer_acked_my_relay_names").join
      = d.peerAckedMyRelayNames.map .str := by simp [ContactDict.fields, List.lookup_cons]
  have hid : (d.fields.lookup "contact_id").join = d.contactId.map .str := by
    simp [ContactDict.fields, List.lookup_cons]
  have htranscript : (d.fields.lookup "transcript_hash").join = d.transcriptHash.map .str := by
    simp [ContactDict.fields, List.lookup_cons]
  have hname : subscript d.toJson "name" = .ok (.str d.name) :=
    ContactDict.subscript_toJson (by simp [ContactDict.fields])
  have hsigning : subscript d.toJson "signing_public" = .ok (.str d.signingPublic) :=
    ContactDict.subscript_toJson (by simp [ContactDict.fields, List.lookup_cons])
  have hagreement : subscript d.toJson "agreement_public" = .ok (.str d.agreementPublic) :=
    ContactDict.subscript_toJson (by simp [ContactDict.fields, List.lookup_cons])
  have hmaster : subscript d.toJson "master_secret" = .ok (.str d.masterSecret) :=
    ContactDict.subscript_toJson (by simp [ContactDict.fields, List.lookup_cons])
  have hconversation : subscript d.toJson "conversation_id" = .ok (.str d.conversationId) :=
    ContactDict.subscript_toJson (by simp [ContactDict.fields, List.lookup_cons])
  have hsend : dictGetD d.toJson "next_send_seq" (.int 1) = .ok (.int d.nextSendSeq) :=
    ContactDict.dictGetD_toJson (by simp [ContactDict.fields, List.lookup_cons])
  have hrecv : dictGetD d.toJson "last_recv_seq" (.int 0) = .ok (.int d.lastRecvSeq) :=
    ContactDict.dictGetD_toJson (by simp [ContactDict.fields, List.lookup_cons])
  have hversion : dictGetD d.toJson "peer_acked_my_profile_version" (.int 0)
      = .ok ((d.peerAckedMyProfileVersion.map .int).getD (.int 0)) :=
    ContactDict.dictGetD_toJson (by simp [ContactDict.fields, List.lookup_cons])
  have hhybrid : dictGetD d.toJson "hybrid_pq" (.int 0)
      = .ok ((d.hybridPq.map .int).getD (.int 0)) :=
    ContactDict.dictGetD_toJson (by simp [ContactDict.fields, List.lookup_cons])
  have hstarted : dictGetD d.toJson "session_started_at" (.int 0)
      = .ok ((d.sessionStartedAt.map .int).getD (.int 0)) :=
    ContactDict.dictGetD_toJson (by simp [ContactDict.fields, List.lookup_cons])
  have hmode : dictGetD d.toJson "privacy_mode" (.str "fast")
      = .ok ((d.privacyMode.map fun mode => .str mode.text).getD (.str "fast")) :=
    ContactDict.dictGetD_toJson (by simp [ContactDict.fields, List.lookup_cons])
  have hbind : ∀ {α β : Type} (a : α) (f : α → Except PyExc β), (Except.ok a >>= f) = f a :=
    fun _ _ => rfl
  have hsplit : (d.peerAckedMyRelayNames.map .str).map (fun v => splitNames (pyStr P v))
      = d.peerAckedMyRelayNames.map splitNames := by
    rw [Option.map_map]
    rfl
  rw [Contact.fromJson, Contact.fromDict]
  simp only [d.dictGet_toJson, hratchet, hprofile, hnames, hid, htranscript, hname, hsigning,
    hagreement, hmaster, hconversation, hsend, hrecv, hversion, hhybrid, hstarted, hmode, hbind,
    pyInt_int, pyStr_str, pyInt_present, ofText_present, mapPresent_str,
    mapPresent_ratchet P hskipped, hsplit]

end Yakr
