import Yakr.Core.Codec
import Yakr.Core.Store
import Yakr.Lib.Effect

/-!
# Yakr.Store.Profiles

**What comes back from a stored profile.** The store keeps a profile as the base64 text of
its CBOR map. Reading it back gives the profile in canonical form: addresses of its relays
without a slash at the end, and a capability generation only where there is a salt. Both
forms have the same bytes after one round, so a profile that has been read once is read
unchanged from then on.
-/

namespace Yakr

open Lib Effect

variable {P : Packages}

/-! ### Texts -/

theorem dropWhile_eq_self {α : Type} {p : α → Bool} {xs : List α} (h : ∀ x ∈ xs, p x = false) :
    xs.dropWhile p = xs := by
  cases xs with
  | nil => rfl
  | cons x xs => rw [List.dropWhile_cons, h x List.mem_cons_self, if_neg Bool.false_ne_true]

theorem strip_eq_self {value : String} (h : ∀ c ∈ value.toList, isPySpace c = false) :
    strip value = value := by
  have hback : ∀ c ∈ value.toList.reverse, isPySpace c = false :=
    fun c hc => h c (List.mem_reverse.mp hc)
  rw [strip, stripChars, dropWhile_eq_self h, dropWhile_eq_self hback, List.reverse_reverse,
    String.ofList_toList]

/-- The text of a stored value has no white space around it. -/
theorem strip_b64encode (data : Bytes) : strip (b64encode data) = b64encode data :=
  strip_eq_self (Base64.encode_chars (by decide) data)

theorem rstripSlash_rstripSlash (s : String) : rstripSlash (rstripSlash s) = rstripSlash s := by
  have hidem : ∀ cs : List Char,
      (cs.dropWhile (· = '/')).dropWhile (· = '/') = cs.dropWhile (· = '/') := by
    intro cs
    induction cs with
    | nil => rfl
    | cons c cs ih =>
        by_cases hc : c = '/'
        · rw [List.dropWhile_cons_of_pos (by simpa using hc), ih]
        · rw [List.dropWhile_cons_of_neg (by simpa using hc),
            List.dropWhile_cons_of_neg (by simpa using hc)]
  simp only [rstripSlash, String.toList_ofList, List.reverse_reverse, hidem]

/-! ### Storable values -/

theorem storableItems_map {α : Type} {f : α → Cbor} (h : ∀ a, (f a).Storable) (xs : List α) :
    Cbor.StorableItems (xs.map f) := by
  induction xs with
  | nil => exact trivial
  | cons x xs ih => exact ⟨h x, ih⟩

namespace RelayDescriptor

theorem storable_toCbor (d : RelayDescriptor) : d.toCbor.Storable := by
  unfold toCbor
  split_ifs
  · simp [Cbor.Storable, Cbor.StorableEntries]
  · simp [Cbor.Storable, Cbor.StorableEntries]
  · simp [Cbor.Storable, Cbor.StorableEntries]
  · simp [Cbor.Storable, Cbor.StorableEntries]

/-- The descriptor as it is read back. -/
def canonical (d : RelayDescriptor) : RelayDescriptor :=
  { d with
    url := rstripSlash d.url
    capabilityGeneration := if d.capabilityIssuanceSalt = [] then 0 else d.capabilityGeneration }

/-- A descriptor is read back in canonical form. -/
theorem ofCbor_toCbor (d : RelayDescriptor) : ofCbor P d.toCbor = .ok d.canonical := by
  unfold toCbor canonical
  split_ifs with htls hsalt hsalt
  · simp [ofCbor, cborGet, cborGetD, List.lookup_cons, cborBytes, cborInt, cborStr, bind, Except.bind,
      pure, Except.pure, htls, hsalt]
  · simp [ofCbor, cborGet, cborGetD, List.lookup_cons, cborBytes, cborInt, cborStr, bind, Except.bind,
      pure, Except.pure, htls]
  · simp [ofCbor, cborGet, cborGetD, List.lookup_cons, cborBytes, cborInt, cborStr, bind, Except.bind,
      pure, Except.pure, hsalt]
  · simp [ofCbor, cborGet, cborGetD, List.lookup_cons, cborBytes, cborInt, cborStr, bind, Except.bind,
      pure, Except.pure]

@[simp] theorem canonical_canonical (d : RelayDescriptor) : d.canonical.canonical = d.canonical := by
  unfold canonical
  by_cases hsalt : d.capabilityIssuanceSalt = []
  · simp [hsalt, rstripSlash_rstripSlash]
  · simp [hsalt, rstripSlash_rstripSlash]

/-- The canonical form of a descriptor that was read is written alike. -/
theorem toCbor_canonical {d : RelayDescriptor} (h : rstripSlash d.url = d.url) :
    d.canonical.toCbor = d.toCbor := by
  unfold toCbor canonical
  rw [h]
  by_cases hsalt : d.capabilityIssuanceSalt = []
  · simp [hsalt]
  · simp [hsalt]

end RelayDescriptor

namespace DeliveryProfile

/-- The profile as it is read back. -/
def canonical (p : DeliveryProfile) : DeliveryProfile :=
  { p with relayDescriptors := p.relayDescriptors.map RelayDescriptor.canonical }

@[simp] theorem canonical_canonical (p : DeliveryProfile) : p.canonical.canonical = p.canonical := by
  simp [canonical, Function.comp_def]

theorem storable_entries (p : DeliveryProfile) :
    (Cbor.map (p.unsignedEntries ++ [("signature", .bytes p.signature)])).Storable := by
  have htexts : Cbor.StorableItems (p.directHints.map .text) :=
    storableItems_map (fun _ => by simp [Cbor.Storable]) _
  have hrelays : Cbor.StorableItems (p.relayDescriptors.map RelayDescriptor.toCbor) :=
    storableItems_map RelayDescriptor.storable_toCbor _
  have hclasses : Cbor.StorableItems (p.blobClasses.map .int) :=
    storableItems_map (fun _ => by simp [Cbor.Storable]) _
  simp [unsignedEntries, Cbor.Storable, Cbor.StorableEntries, htexts, hrelays, hclasses]

theorem mapM_eq_ok {α β : Type} {f : α → Except PyExc β} {g : α → β}
    (h : ∀ a, f a = .ok (g a)) (xs : List α) : xs.mapM f = .ok (xs.map g) := by
  induction xs with
  | nil => rfl
  | cons x xs ih =>
      rw [List.mapM_cons, h x, ih]
      rfl

theorem ofCbor_entries (p : DeliveryProfile) :
    ofCbor P (.map (p.unsignedEntries ++ [("signature", .bytes p.signature)]))
      = .ok p.canonical := by
  have hhints : p.directHints.map (cborStr P ∘ Cbor.text) = p.directHints := by
    simp [Function.comp_def, cborStr]
  have hrelays : p.relayDescriptors.mapM (RelayDescriptor.ofCbor P ∘ RelayDescriptor.toCbor)
      = .ok (p.relayDescriptors.map RelayDescriptor.canonical) :=
    mapM_eq_ok RelayDescriptor.ofCbor_toCbor _
  have hclasses : p.blobClasses.mapM (cborInt ∘ Cbor.int) = .ok (p.blobClasses.map id) :=
    mapM_eq_ok (fun _ => rfl) _
  simp [ofCbor, unsignedEntries, cborGet, cborGetD, List.lookup_cons, cborBytes, cborInt, cborItems,
    cborStr, bind, Except.bind, pure, Except.pure, canonical, hhints, hrelays, hclasses]

/-- A profile is read back in canonical form. -/
theorem fromBytes_toBytes (hcbor : P.CborLaws) (p : DeliveryProfile) :
    fromBytes P (p.toBytes P) = .ok p.canonical := by
  rw [fromBytes, toBytes, hcbor.loads_dumps p.storable_entries]
  exact p.ofCbor_entries

theorem fromB64_toB64 (hcbor : P.CborLaws) (p : DeliveryProfile) :
    fromB64 P (p.toB64 P) = .ok p.canonical := by
  rw [fromB64, toB64, b64decode_b64encode]
  exact p.fromBytes_toBytes hcbor

end DeliveryProfile

/-! ### Profiles that were read -/

/-- No address ends with a slash. -/
def StrippedUrls (p : DeliveryProfile) : Prop :=
  ∀ d ∈ p.relayDescriptors, rstripSlash d.url = d.url

theorem RelayDescriptor.ofCbor_url {v : Cbor} {d : RelayDescriptor} (h : ofCbor P v = .ok d) :
    rstripSlash d.url = d.url := by
  cases v with
  | map entries =>
      unfold ofCbor at h
      obtain ⟨name, -, h⟩ := bind_ok.mp h
      obtain ⟨role, -, h⟩ := bind_ok.mp h
      obtain ⟨url, -, h⟩ := bind_ok.mp h
      obtain ⟨secret, -, h⟩ := bind_ok.mp h
      obtain ⟨wrapSecret, -, h⟩ := bind_ok.mp h
      obtain ⟨pin, -, h⟩ := bind_ok.mp h
      obtain ⟨generation, -, h⟩ := bind_ok.mp h
      obtain ⟨salt, -, h⟩ := bind_ok.mp h
      obtain rfl := Except.ok.inj h
      exact rstripSlash_rstripSlash _
  | _ => cases h

/-- The addresses of a profile that was read. -/
theorem DeliveryProfile.fromBytes_strippedUrls {data : Bytes} {p : DeliveryProfile}
    (h : fromBytes P data = .ok p) : StrippedUrls p := by
  obtain ⟨v, -, h⟩ := bind_ok.mp h
  cases v with
  | map entries =>
      unfold ofCbor at h
      obtain ⟨params, -, h⟩ := bind_ok.mp h
      obtain ⟨protocol, -, h⟩ := bind_ok.mp h
      obtain ⟨rawVersion, -, h⟩ := bind_ok.mp h
      obtain ⟨version, -, h⟩ := bind_ok.mp h
      obtain ⟨rawFrom, -, h⟩ := bind_ok.mp h
      obtain ⟨validFrom, -, h⟩ := bind_ok.mp h
      obtain ⟨rawUntil, -, h⟩ := bind_ok.mp h
      obtain ⟨validUntil, -, h⟩ := bind_ok.mp h
      obtain ⟨rawHints, -, h⟩ := bind_ok.mp h
      obtain ⟨directHints, -, h⟩ := bind_ok.mp h
      obtain ⟨rawDescriptors, -, h⟩ := bind_ok.mp h
      obtain ⟨descriptors, -, h⟩ := bind_ok.mp h
      obtain ⟨relayDescriptors, hrelays, h⟩ := bind_ok.mp h
      have hstripped : ∀ d ∈ relayDescriptors, rstripSlash d.url = d.url := by
        intro d hd
        obtain ⟨raw, -, hraw⟩ := (mapM_ok_mem hrelays).1 d hd
        exact RelayDescriptor.ofCbor_url hraw
      cases params with
      | map params =>
          obtain ⟨params, -, h⟩ := bind_ok.mp h
          obtain ⟨rawEpoch, -, h⟩ := bind_ok.mp h
          obtain ⟨mailboxEpochSecs, -, h⟩ := bind_ok.mp h
          obtain ⟨rawSalt, -, h⟩ := bind_ok.mp h
          obtain ⟨mailboxDirectionSalt, -, h⟩ := bind_ok.mp h
          obtain ⟨rawClasses, -, h⟩ := bind_ok.mp h
          obtain ⟨classes, -, h⟩ := bind_ok.mp h
          obtain ⟨blobClasses, -, h⟩ := bind_ok.mp h
          obtain ⟨receiptPolicy, -, h⟩ := bind_ok.mp h
          obtain ⟨rawSignature, -, h⟩ := bind_ok.mp h
          obtain ⟨signature, -, h⟩ := bind_ok.mp h
          obtain ⟨pin, -, h⟩ := bind_ok.mp h
          obtain rfl := Except.ok.inj h
          exact hstripped
      | _ => cases h
  | _ => cases h

theorem DeliveryProfile.fromB64_strippedUrls {value : String} {p : DeliveryProfile}
    (h : fromB64 P value = .ok p) : StrippedUrls p := by
  obtain ⟨data, -, h⟩ := bind_ok.mp h
  exact fromBytes_strippedUrls h

/-- A profile that was read is written as its canonical form is. -/
theorem DeliveryProfile.toBytes_canonical {p : DeliveryProfile} (h : StrippedUrls p) :
    p.canonical.toBytes P = p.toBytes P := by
  have hrelays : p.canonical.relayDescriptors.map RelayDescriptor.toCbor
      = p.relayDescriptors.map RelayDescriptor.toCbor := by
    rw [canonical, List.map_map]
    exact List.map_congr_left fun d hd => RelayDescriptor.toCbor_canonical (h d hd)
  rw [toBytes, toBytes, unsignedEntries, unsignedEntries, hrelays]
  rfl

/-- The local profile that was saved is loaded in canonical form. -/
theorem FileLocalStore.loadLocalProfile_saved (hcbor : P.CborLaws) {store : FileLocalStore}
    {p : DeliveryProfile} (h : store.localProfile = some (p.toB64 P)) :
    store.loadLocalProfile P = .ok (some p.canonical) := by
  rw [FileLocalStore.loadLocalProfile, h]
  have hstrip : strip (p.toB64 P) = p.toB64 P := strip_b64encode _
  simp only [mapPresent, hstrip, p.fromB64_toB64 hcbor]
  rfl

end Yakr
