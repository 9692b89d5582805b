import Yakr.Core.RustInvite
import Yakr.Languages.Profiles

/-!
# Yakr.Languages.Invites

**An invite in the other language.** What Rust keeps of an invite and writes again is the
entries every invite has and the ML-KEM key. The signature covers the ML-DSA key and the TLS
pin as well, so an invite that has one of them comes back with another payload than the signed
one, and so does an invite whose expiry is no signed word of 64 bits.

* `Rust.InviteBundle.ofCbor_signedDict`: what Rust reads from the bytes of an invite;
* `InviteBundle.ofCbor_unsignedMap`: what Python reads from the bytes Rust writes;
* `survives_iff`: which accepted invites survive.
-/

namespace Yakr

open Lib

variable {P : Packages}

/-! ### Lookups -/

theorem lookup_append_of_none {key : String} {xs ys : List (String × Cbor)}
    (h : xs.lookup key = none) : (xs ++ ys).lookup key = ys.lookup key := by
  rw [List.lookup_append, h, Option.none_or]

theorem lookup_append_of_some {key : String} {v : Cbor} {xs ys : List (String × Cbor)}
    (h : xs.lookup key = some v) : (xs ++ ys).lookup key = some v := by
  rw [List.lookup_append, h, Option.some_or]

namespace InviteBundle

theorem lookup_optionalBytes (key : String) (value : Bytes) :
    (optionalBytes key value).lookup key
      = if value = [] then none else some (.bytes value) := by
  unfold optionalBytes
  split
  · rfl
  · simp

theorem lookup_optionalBytes_of_ne {key key' : String} (value : Bytes) (h : key' ≠ key) :
    (optionalBytes key value).lookup key' = none := by
  have hbeq : (key' == key) = false := by simpa using h
  unfold optionalBytes
  split
  · rfl
  · simp [List.lookup_cons, hbeq]

variable (b : InviteBundle)

theorem lookup_unsignedDict {key : String} {v : Cbor} (h : b.baseDict.lookup key = some v) :
    b.unsignedDict.lookup key = some v := by
  rw [unsignedDict, List.append_assoc, List.append_assoc]
  exact lookup_append_of_some h

theorem lookup_signedDict {key : String} {v : Cbor} (h : b.baseDict.lookup key = some v) :
    b.signedDict.lookup key = some v := by
  rw [signedDict, List.append_assoc]
  exact lookup_append_of_some (b.lookup_unsignedDict h)

theorem lookup_kem :
    b.unsignedDict.lookup "kem_public"
      = if b.kemPublic = [] then none else some (.bytes b.kemPublic) := by
  rw [unsignedDict, List.append_assoc, List.append_assoc, lookup_append_of_none (by rfl),
    List.lookup_append, lookup_optionalBytes, List.lookup_append,
    lookup_optionalBytes_of_ne _ (by decide), lookup_optionalBytes_of_ne _ (by decide),
    Option.or_none, Option.or_none]

theorem lookup_pqSigning :
    b.unsignedDict.lookup "pq_signing_public"
      = if b.pqSigningPublic = [] then none else some (.bytes b.pqSigningPublic) := by
  rw [unsignedDict, List.append_assoc, List.append_assoc, lookup_append_of_none (by rfl),
    lookup_append_of_none (lookup_optionalBytes_of_ne _ (by decide)), List.lookup_append,
    lookup_optionalBytes, lookup_optionalBytes_of_ne _ (by decide), Option.or_none]

theorem lookup_rendezvousTls :
    b.unsignedDict.lookup "rendezvous_tls_spki_sha256"
      = if b.rendezvousTlsSpkiSha256 = [] then none
        else some (.bytes b.rendezvousTlsSpkiSha256) := by
  rw [unsignedDict, List.append_assoc, List.append_assoc, lookup_append_of_none (by rfl),
    lookup_append_of_none (lookup_optionalBytes_of_ne _ (by decide)),
    lookup_append_of_none (lookup_optionalBytes_of_ne _ (by decide)), lookup_optionalBytes]

theorem lookup_signature : b.signedDict.lookup "signature" = some (.bytes b.signature) := by
  have hunsigned : b.unsignedDict.lookup "signature" = none := by
    rw [unsignedDict, List.append_assoc, List.append_assoc, lookup_append_of_none (by rfl),
      lookup_append_of_none (lookup_optionalBytes_of_ne _ (by decide)),
      lookup_append_of_none (lookup_optionalBytes_of_ne _ (by decide)),
      lookup_optionalBytes_of_ne _ (by decide)]
  rw [signedDict, List.append_assoc, lookup_append_of_none hunsigned]
  rfl

theorem lookup_signedDict_kem :
    b.signedDict.lookup "kem_public"
      = if b.kemPublic = [] then none else some (.bytes b.kemPublic) := by
  rw [signedDict, List.append_assoc, List.lookup_append, lookup_kem, List.lookup_append,
    lookup_optionalBytes_of_ne _ (by decide)]
  split <;> rfl

/-! ### Storable maps -/

theorem storableEntries_append {xs ys : List (String × Cbor)} (hx : Cbor.StorableEntries xs)
    (hy : Cbor.StorableEntries ys) : Cbor.StorableEntries (xs ++ ys) := by
  induction xs with
  | nil => exact hy
  | cons x xs ih => exact ⟨hx.1, ih hx.2⟩

theorem storableItems_text (texts : List String) : Cbor.StorableItems (texts.map .text) := by
  induction texts with
  | nil => exact trivial
  | cons s texts ih => exact ⟨trivial, ih⟩

theorem storable_optionalBytes (key : String) (value : Bytes) :
    Cbor.StorableEntries (optionalBytes key value) := by
  unfold optionalBytes
  split
  · exact trivial
  · exact ⟨trivial, trivial⟩

theorem keys_optionalBytes (key : String) (value : Bytes) :
    ((optionalBytes key value).map Prod.fst).Sublist [key] := by
  unfold optionalBytes
  split
  · exact List.nil_sublist _
  · exact List.Sublist.refl _

/-- The keys of an invite, in the order they are written. -/
def keys : List String :=
  ["protocol", "inviter_name", "signing_public", "agreement_public", "invite_secret",
    "rendezvous_hint", "expires_at", "capabilities", "kem_public", "pq_signing_public",
    "rendezvous_tls_spki_sha256", "signature", "pq_signature"]

theorem keys_signedDict : (b.signedDict.map Prod.fst).Sublist keys := by
  simp only [signedDict, unsignedDict, List.map_append]
  have hbase : (b.baseDict.map Prod.fst).Sublist (keys.take 8) := List.Sublist.refl _
  exact ((((hbase.append (keys_optionalBytes _ _)).append (keys_optionalBytes _ _)).append
    (keys_optionalBytes _ _)).append (List.Sublist.refl ["signature"])).append
      (keys_optionalBytes _ _)

theorem storableEntries_unsignedDict : Cbor.StorableEntries b.unsignedDict := by
  have hbase : Cbor.StorableEntries b.baseDict :=
    ⟨trivial, trivial, trivial, trivial, trivial, trivial, trivial,
      storableItems_text b.capabilities, trivial⟩
  exact storableEntries_append (storableEntries_append (storableEntries_append hbase
    (storable_optionalBytes _ _)) (storable_optionalBytes _ _)) (storable_optionalBytes _ _)

theorem storable_signedDict : (Cbor.map b.signedDict).Storable :=
  ⟨List.Nodup.sublist b.keys_signedDict (by decide),
    storableEntries_append (storableEntries_append b.storableEntries_unsignedDict
      ⟨trivial, trivial⟩) (storable_optionalBytes _ _)⟩

theorem storable_unsignedDict : (Cbor.map b.unsignedDict).Storable := by
  have hkeys : (b.unsignedDict.map Prod.fst).Sublist (b.signedDict.map Prod.fst) := by
    rw [signedDict, List.append_assoc, List.map_append]
    exact List.sublist_append_left _ _
  exact ⟨List.Nodup.sublist (hkeys.trans b.keys_signedDict) (by decide),
    b.storableEntries_unsignedDict⟩

/-- Equal payloads have equal entries. -/
theorem unsignedDict_eq (hcbor : P.CborLaws) {b b' : InviteBundle}
    (h : b.unsignedPayload P = b'.unsignedPayload P) : b.unsignedDict = b'.unsignedDict := by
  have hread := hcbor.loads_dumps b.storable_unsignedDict
  have hread' := hcbor.loads_dumps b'.storable_unsignedDict
  rw [unsignedPayload, unsignedPayload] at h
  rw [h, hread', Except.ok.injEq, Cbor.map.injEq] at hread
  exact hread.symm

end InviteBundle

namespace Rust

/-! ### What Rust reads -/

theorem isCborInteger_of_isWord64 {n : Int} (h : IsWord64 n) : isCborInteger n = true := by
  have hlow : -(2 ^ 64) ≤ n := by
    have := h.1
    omega
  have hhigh : n < 2 ^ 64 := by
    have := h.2
    omega
  rw [isCborInteger, Bool.and_eq_true, decide_eq_true_eq, decide_eq_true_eq]
  exact ⟨hlow, hhigh⟩

namespace InviteBundle

/-- What Rust keeps of an invite with three keys of 32 bytes. -/
def ofInvite (invite : Yakr.InviteBundle) (signingPublic agreementPublic inviteSecret : BytesN 32) :
    InviteBundle :=
  { protocol := invite.protocol
    inviterName := invite.inviterName
    signingPublic, agreementPublic, inviteSecret
    rendezvousHint := invite.rendezvousHint
    expiresAt := asU64OfInt invite.expiresAt
    capabilities := invite.capabilities
    signature := invite.signature
    kemPublic := invite.kemPublic }

section Read

variable {invite : Yakr.InviteBundle} {signingPublic agreementPublic inviteSecret : BytesN 32}
  (hsigning : invite.signingPublic = signingPublic.1)
  (hagreement : invite.agreementPublic = agreementPublic.1)
  (hsecret : invite.inviteSecret = inviteSecret.1)
include hsigning hagreement hsecret

/-- What Rust reads from the entries of an invite. -/
theorem ofCbor_signedDict :
    ofCbor (.map invite.signedDict)
      = if isCborInteger invite.expiresAt then
          .ok (ofInvite invite signingPublic agreementPublic inviteSecret)
        else .error "missing expires_at" := by
  have hlookup : ∀ {key v}, invite.baseDict.lookup key = some v →
      mapField (.map invite.signedDict) key = some v := invite.lookup_signedDict
  have htext : ∀ {key s}, invite.baseDict.lookup key = some (.text s) →
      mapText (.map invite.signedDict) key = .ok s := by
    intro key s h
    rw [mapText, hlookup h]
  have harray : ∀ {key} {data : BytesN 32}, invite.baseDict.lookup key = some (.bytes data.1) →
      requiredArray (.map invite.signedDict) key = .ok data := by
    intro key data h
    rw [requiredArray, requiredBytes, mapBytes, hlookup h]
    simp only [bind, Except.bind, arrayOf_val]
    rfl
  have hsignature : requiredBytes (.map invite.signedDict) "signature" = .ok invite.signature := by
    have hfield : mapField (.map invite.signedDict) "signature" = some (.bytes invite.signature) :=
      invite.lookup_signature
    rw [requiredBytes, mapBytes, hfield]
  have htexts : mapTexts (.map invite.signedDict) "capabilities" = invite.capabilities := by
    rw [mapTexts, hlookup (show invite.baseDict.lookup "capabilities"
      = some (.array (invite.capabilities.map .text)) from rfl)]
    simp [List.filterMap_map]
  have hkem : (mapBytes (.map invite.signedDict) "kem_public").getD [] = invite.kemPublic := by
    have hfield : mapField (.map invite.signedDict) "kem_public"
        = if invite.kemPublic = [] then none else some (.bytes invite.kemPublic) :=
      invite.lookup_signedDict_kem
    rw [mapBytes, hfield]
    split_ifs with hnil
    · exact hnil.symm
    · rfl
  have hexpiry : mapExpiry (.map invite.signedDict)
      = if isCborInteger invite.expiresAt then .ok (asU64OfInt invite.expiresAt)
        else .error "missing expires_at" := by
    rw [mapExpiry, hlookup (show invite.baseDict.lookup "expires_at"
      = some (.int invite.expiresAt) from rfl)]
  have hsigning' : invite.baseDict.lookup "signing_public" = some (.bytes signingPublic.1) := by
    rw [← hsigning]
    rfl
  have hagreement' :
      invite.baseDict.lookup "agreement_public" = some (.bytes agreementPublic.1) := by
    rw [← hagreement]
    rfl
  have hsecret' : invite.baseDict.lookup "invite_secret" = some (.bytes inviteSecret.1) := by
    rw [← hsecret]
    rfl
  rw [ofCbor, htext (s := invite.protocol) rfl, htext (s := invite.inviterName) rfl,
    harray hsigning', harray hagreement', harray hsecret', htext (s := invite.rendezvousHint) rfl, hexpiry, hsignature, htexts, hkem]
  by_cases hint : isCborInteger invite.expiresAt
  · rw [if_pos hint, if_pos hint]
    rfl
  · rw [if_neg hint, if_neg hint]
    rfl

end Read

/-! ### What Rust writes -/

variable (b : InviteBundle)

/-- The entries that `invite_to_bytes` writes. -/
theorem storable_signedMap :
    (Cbor.map (b.unsignedMap ++ [("signature", .bytes b.signature)])).Storable := by
  have htexts : Cbor.StorableItems (b.capabilities.map .text) :=
    Yakr.InviteBundle.storableItems_text _
  unfold unsignedMap
  split
  · simp [Cbor.Storable, Cbor.StorableEntries, htexts]
  · simp [Cbor.Storable, Cbor.StorableEntries, htexts]

/-- What the crypto crate takes as signed. -/
theorem filter_signedMap :
    (b.unsignedMap ++ [("signature", Cbor.bytes b.signature)]).filter
      (fun e => !isSignatureKey e.1) = b.unsignedMap := by
  unfold unsignedMap
  split
  · simp [isSignatureKey]
  · simp [isSignatureKey]

/-- The bundle that Python reads from what Rust writes. -/
def toPython : Yakr.InviteBundle :=
  { protocol := b.protocol
    inviterName := b.inviterName
    signingPublic := b.signingPublic.1
    agreementPublic := b.agreementPublic.1
    inviteSecret := b.inviteSecret.1
    rendezvousHint := b.rendezvousHint
    expiresAt := asI64 b.expiresAt
    capabilities := b.capabilities
    signature := b.signature
    kemPublic := b.kemPublic }

theorem unsignedDict_toPython : b.toPython.unsignedDict = b.unsignedMap := by
  simp only [Yakr.InviteBundle.unsignedDict, Yakr.InviteBundle.optionalBytes, toPython, if_true,
    List.append_nil]
  rfl

theorem ofCbor_signedMap :
    Yakr.InviteBundle.ofCbor P (.map (b.unsignedMap ++ [("signature", .bytes b.signature)]))
      = .ok b.toPython := by
  have htexts : b.capabilities.map (cborStr P ∘ Cbor.text) = b.capabilities := by
    simp [Function.comp_def, cborStr]
  unfold unsignedMap
  split
  · rename_i hkem
    simp [Yakr.InviteBundle.ofCbor, cborGet, cborGetD, List.lookup_cons, cborBytes, cborInt, cborItems,
      cborStr, bind, Except.bind, pure, Except.pure, htexts, toPython, hkem]
  · simp [Yakr.InviteBundle.ofCbor, cborGet, cborGetD, List.lookup_cons, cborBytes, cborInt, cborItems,
      cborStr, bind, Except.bind, pure, Except.pure, htexts, toPython]

theorem fromBytes_toBytes (hcbor : P.CborLaws) :
    Yakr.InviteBundle.fromBytes P (b.toBytes P) = .ok b.toPython := by
  rw [Yakr.InviteBundle.fromBytes, toBytes, hcbor.loads_dumps b.storable_signedMap]
  exact b.ofCbor_signedMap

end InviteBundle

/-- The crypto crate checks the signature over the entries that were read. -/
theorem verifyInvite_iff (hcbor : P.CborLaws) (b : InviteBundle) :
    verifyInvite P b = .ok ()
      ↔ b.signature.length = 64
        ∧ P.ed25519Verify b.signingPublic b.signature (P.cborDumps (.map b.unsignedMap)) = true := by
  obtain ⟨entries, hentries⟩ :
      ∃ entries, entries = b.unsignedMap ++ [("signature", Cbor.bytes b.signature)] := ⟨_, rfl⟩
  have hbytes : b.toBytes P = P.cborDumps (.map entries) := by rw [hentries, InviteBundle.toBytes]
  have hsigning : mapBytes (.map entries) "signing_public" = some b.signingPublic.1 := by
    rw [hentries]
    rfl
  have hagreement : mapBytes (.map entries) "agreement_public" = some b.agreementPublic.1 := by
    rw [hentries]
    rfl
  have hsignature : mapBytes (.map entries) "signature" = some b.signature := by
    have hlookup : entries.lookup "signature" = some (.bytes b.signature) := by
      rw [hentries]
      unfold InviteBundle.unsignedMap
      split <;> rfl
    rw [mapBytes, mapField, hlookup]
  have hunsigned : inviteUnsignedCbor P (.map entries)
      = some (P.cborDumps (.map b.unsignedMap)) := by
    rw [inviteUnsignedCbor, hentries, b.filter_signedMap]
  have hread : P.cborLoads (P.cborDumps (.map entries)) = .ok (.map entries) :=
    hcbor.loads_dumps (hentries ▸ b.storable_signedMap)
  have haccepts : verifyInviteBundle P (b.toB64 P) b.signingPublic.1.hex
      (deriveSafetyCode P b.signingPublic.1 b.agreementPublic.1) = true
        ↔ b.signature.length = 64
          ∧ P.ed25519Verify b.signingPublic b.signature (P.cborDumps (.map b.unsignedMap))
            = true := by
    -- the map, the keys and the signature are read and the texts compare equal
    simp only [verifyInviteBundle, InviteBundle.toB64, hbytes, base64urlDecode_b64encode, hread,
      Except.toOption, hsigning, hagreement, hsignature, hunsigned, arrayOf_val, bind,
      Option.bind_some]
    rw [guard_bind_isSome, guard_bind_isSome, guard_bind_isSome]
    simp [guard]
  rw [← haccepts, verifyInvite]
  split
  · rename_i h
    exact iff_of_true rfl h
  · rename_i h
    exact iff_of_false (fun hok => by cases hok) h

end Rust

/-! ### Survival -/

/-- The three claims on one invite: Rust parses it and verifies what it parsed, and Python
verifies what Rust writes again, with the same unsigned payload. -/
def Survives (P : Packages) (invite : InviteBundle) (now : Int) : Prop :=
  ∃ b, Rust.InviteBundle.fromB64 P (b64encode (invite.toBytes P)) = .ok b
    ∧ Rust.verifyInvite P b = .ok ()
    ∧ ∃ back, (b64decode (b.toB64 P)).bind (InviteBundle.fromBytes P) = .ok back
      ∧ verifyInvite P back now = .ok ()
      ∧ back.unsignedPayload P = invite.unsignedPayload P

/-- Everything the signature covers is among what Rust carries. -/
structure InviteBundle.Carried (invite : InviteBundle) : Prop where
  pqSigningPublic : invite.pqSigningPublic = []
  rendezvousTls : invite.rendezvousTlsSpkiSha256 = []
  expiresAt : Rust.IsWord64 invite.expiresAt

/-- The lengths of what `create_invite` puts into an invite. -/
structure InviteBundle.Sized (invite : InviteBundle) : Prop where
  signingPublic : invite.signingPublic.length = 32
  agreementPublic : invite.agreementPublic.length = 32
  inviteSecret : invite.inviteSecret.length = 32
  signature : invite.signature.length = 64

theorem sized_createInvite (hlength : ∀ key data, (P.ed25519Sign key data).length = 64)
    {identity : Identity} {hint : String} {tls : Bytes} {ttl now : Int} {hybrid : Bool}
    {secret : BytesN 32} {invite : InviteBundle}
    (h : createInvite P identity hint tls ttl hybrid now secret = .ok invite) : invite.Sized := by
  have hsigning := (P.ed25519Public identity.signingPrivate).2
  have hagreement := (P.x25519Public identity.agreementPrivate).2
  unfold createInvite at h
  cases hybrid with
  | false =>
      obtain rfl := Except.ok.inj h
      exact ⟨hsigning, hagreement, secret.2, hlength _ _⟩
  | true =>
      simp only [if_true] at h
      split at h
      · cases h
      · split at h
        · obtain rfl := Except.ok.inj h
          exact ⟨hsigning, hagreement, secret.2, hlength _ _⟩
        · obtain rfl := Except.ok.inj h
          exact ⟨hsigning, hagreement, secret.2, hlength _ _⟩

/-- What `verify_invite` has checked of an invite it accepts. -/
theorem verifyInvite_ok {invite : InviteBundle} {now : Int}
    (h : verifyInvite P invite now = .ok ()) :
    ¬ (invite.protocol ≠ protocolV4 ∧ invite.protocol ≠ protocolV6)
      ∧ ¬ invite.expiresAt ≤ now
      ∧ ed25519Check P invite.signingPublic invite.signature (invite.unsignedPayload P)
        = .ok () := by
  unfold verifyInvite at h
  split at h
  · cases h
  · rename_i hprotocol
    split at h
    · cases h
    · rename_i hfresh
      cases hcheck : ed25519Check P invite.signingPublic invite.signature
          (invite.unsignedPayload P) with
      | error e =>
          rw [hcheck] at h
          cases h
      | ok u => exact ⟨hprotocol, hfresh, rfl⟩

/-- An invite without an ML-DSA signature is accepted when its Ed25519 signature is. -/
theorem verifyInvite_of_classical {invite : InviteBundle} {now : Int}
    (hprotocol : ¬ (invite.protocol ≠ protocolV4 ∧ invite.protocol ≠ protocolV6))
    (hfresh : ¬ invite.expiresAt ≤ now) (hpq : invite.pqSignature = [])
    (hcheck : ed25519Check P invite.signingPublic invite.signature (invite.unsignedPayload P)
      = .ok ()) : verifyInvite P invite now = .ok () := by
  rw [verifyInvite, if_neg hprotocol, if_neg hfresh, hcheck]
  simp only [hpq, ne_eq, not_true_eq_false, if_false]
  rfl

section Survival

variable {invite : InviteBundle} {now : Int} (hcbor : P.CborLaws) (hsized : invite.Sized)
include hcbor hsized

/-- What Rust reads from an invite of `create_invite`. -/
theorem fromB64_toBytes :
    ∃ signingPublic agreementPublic inviteSecret,
      invite.signingPublic = signingPublic.1 ∧ invite.agreementPublic = agreementPublic.1
        ∧ invite.inviteSecret = inviteSecret.1
        ∧ Rust.InviteBundle.fromB64 P (b64encode (invite.toBytes P))
          = if Rust.isCborInteger invite.expiresAt then
              .ok (Rust.InviteBundle.ofInvite invite signingPublic agreementPublic inviteSecret)
            else .error "missing expires_at" := by
  refine ⟨⟨_, hsized.signingPublic⟩, ⟨_, hsized.agreementPublic⟩, ⟨_, hsized.inviteSecret⟩, rfl, rfl,
    rfl, ?_⟩
  rw [Rust.InviteBundle.fromB64, Rust.base64urlDecode_b64encode]
  show Rust.InviteBundle.fromBytes P (invite.toBytes P) = _
  rw [Rust.InviteBundle.fromBytes, InviteBundle.toBytes, hcbor.loads_dumps invite.storable_signedDict]
  exact Rust.InviteBundle.ofCbor_signedDict rfl rfl rfl

theorem carried_of_survives (h : Survives P invite now) : invite.Carried := by
  obtain ⟨b, hparse, -, back, hback, -, hpayload⟩ := h
  obtain ⟨signingPublic, agreementPublic, inviteSecret, -, -, -, hread⟩ :=
    fromB64_toBytes hcbor hsized
  rw [hread] at hparse
  split at hparse
  · cases hparse
    rw [Rust.InviteBundle.toB64, b64decode_b64encode] at hback
    cases (Rust.InviteBundle.fromBytes_toBytes _ hcbor).symm.trans hback
    have hentries := InviteBundle.unsignedDict_eq hcbor hpayload
    -- each signed entry has the value it came back with
    have hpq := congrArg (List.lookup "pq_signing_public") hentries
    have htls := congrArg (List.lookup "rendezvous_tls_spki_sha256") hentries
    have hexpiry := congrArg (List.lookup "expires_at") hentries
    rw [InviteBundle.lookup_pqSigning, InviteBundle.lookup_pqSigning] at hpq
    rw [InviteBundle.lookup_rendezvousTls, InviteBundle.lookup_rendezvousTls] at htls
    rw [InviteBundle.lookup_unsignedDict _ rfl, InviteBundle.lookup_unsignedDict _ rfl] at hexpiry
    have hnone : ∀ value : Bytes,
        none = (if value = [] then none else some (Cbor.bytes value)) → value = [] := by
      intro value h
      by_contra hvalue
      rw [if_neg hvalue] at h
      cases h
    refine ⟨hnone _ hpq, hnone _ htls, ?_⟩
    have hkept : Rust.asI64 (Rust.asU64OfInt invite.expiresAt) = invite.expiresAt :=
      Cbor.int.inj (Option.some.inj hexpiry)
    exact (Rust.asI64_asU64OfInt _).mp hkept
  · cases hparse

theorem survives_of_carried (hcarried : invite.Carried)
    (haccept : verifyInvite P invite now = .ok ()) : Survives P invite now := by
  obtain ⟨signingPublic, agreementPublic, inviteSecret, hsigning, hagreement, hsecret, hread⟩ :=
    fromB64_toBytes hcbor hsized
  obtain ⟨hpq, htls, hword⟩ := hcarried
  obtain ⟨b, hb⟩ : ∃ b,
      b = Rust.InviteBundle.ofInvite invite signingPublic agreementPublic inviteSecret := ⟨_, rfl⟩
  have hexpires : b.toPython.expiresAt = invite.expiresAt := by
    rw [hb]
    exact (Rust.asI64_asU64OfInt _).mpr hword
  have hpayload : b.toPython.unsignedPayload P = invite.unsignedPayload P := by
    have hbase : b.toPython.baseDict = invite.baseDict := by
      simp only [InviteBundle.baseDict, hexpires, hsigning, hagreement, hsecret]
      rw [hb]
      rfl
    have hkem : b.toPython.kemPublic = invite.kemPublic := by
      rw [hb]
      rfl
    rw [InviteBundle.unsignedPayload, InviteBundle.unsignedPayload, InviteBundle.unsignedDict,
      InviteBundle.unsignedDict, hbase, hkem, hpq, htls]
    rfl
  obtain ⟨hprotocol, hfresh, hcheck⟩ := verifyInvite_ok haccept
  rw [hsigning] at hcheck
  have hverify := ed25519Check_iff.mp hcheck
  rw [if_pos (Rust.isCborInteger_of_isWord64 hword), ← hb] at hread
  refine ⟨b, hread, ?_, b.toPython, ?_, ?_, hpayload⟩
  · refine (Rust.verifyInvite_iff hcbor b).mpr ⟨?_, ?_⟩
    · rw [hb]
      exact hsized.signature
    · rw [← b.unsignedDict_toPython]
      show P.ed25519Verify b.signingPublic b.signature (b.toPython.unsignedPayload P) = true
      rw [hpayload, hb]
      exact hverify
  · rw [Rust.InviteBundle.toB64, b64decode_b64encode]
    exact b.fromBytes_toBytes hcbor
  · refine verifyInvite_of_classical ?_ (hexpires ▸ hfresh) rfl ?_
    · rw [hb]
      exact hprotocol
    · rw [hpayload, hb]
      exact hcheck

end Survival

/-- **Which invites survive.** An invite that `create_invite` made and `verify_invite` accepts
survives the way through Rust exactly when its signature covers no ML-DSA key and no TLS pin,
and its expiry is a signed word of 64 bits. -/
theorem survives_iff (hcbor : P.CborLaws)
    (hlength : ∀ key data, (P.ed25519Sign key data).length = 64) {identity : Identity}
    {hint : String} {tls : Bytes} {ttl created : Int} {hybrid : Bool} {secret : BytesN 32}
    {invite : InviteBundle} {now : Int}
    (hcreate : createInvite P identity hint tls ttl hybrid created secret = .ok invite)
    (haccept : verifyInvite P invite now = .ok ()) : Survives P invite now ↔ invite.Carried := by
  have hsized := sized_createInvite hlength hcreate
  exact ⟨carried_of_survives hcbor hsized, fun h => survives_of_carried hcbor hsized h haccept⟩

namespace InviteSample

open ProfileSample (packages identity)

def secret : BytesN 32 := BytesN.fill 32 5

/-- A classical invite before it is signed. -/
def unsigned (tls : Bytes) : InviteBundle :=
  { protocol := protocolV4
    inviterName := identity.name
    signingPublic := identity.signingPublicBytes packages
    agreementPublic := identity.agreementPublicBytes packages
    inviteSecret := secret.1
    rendezvousHint := "https://relay.example"
    expiresAt := 1700000000000 + defaultInviteTtlMs
    capabilities := ["direct_p2p", "friend_relay", "store_forward"]
    signature := []
    rendezvousTlsSpkiSha256 := tls }

/-- The invite with its signature. -/
def invite (tls : Bytes) : InviteBundle :=
  { unsigned tls with
    signature := packages.ed25519Sign identity.signingPrivate
      ((unsigned tls).unsignedPayload packages) }

theorem createInvite_eq (tls : Bytes) :
    createInvite packages identity "https://relay.example" tls defaultInviteTtlMs false
      1700000000000 secret = .ok (invite tls) := by
  simp only [createInvite, Bool.false_eq_true, if_false]
  rfl

theorem length_sign (key : PrivateKey) (data : Bytes) :
    (packages.ed25519Sign key data).length = 64 := (Plain.digest 64 (key.1 ++ data)).2

theorem accepted (tls : Bytes) : verifyInvite packages (invite tls) 1700000000000 = .ok () := by
  refine verifyInvite_of_classical (fun h => h.1 rfl) ?_ rfl ?_
  · show ¬ (1700000000000 + defaultInviteTtlMs : Int) ≤ 1700000000000
    decide
  · have hentries : (invite tls).unsignedDict = (unsigned tls).unsignedDict := by
      simp only [InviteBundle.unsignedDict, InviteBundle.baseDict, invite]
    have hsigning : (invite tls).signingPublic
        = (packages.ed25519Public identity.signingPrivate).1 := rfl
    have hsignature : (invite tls).signature = packages.ed25519Sign identity.signingPrivate
        ((unsigned tls).unsignedPayload packages) := rfl
    rw [InviteBundle.unsignedPayload, hentries, hsigning, hsignature, ed25519Check_iff]
    exact ProfileSample.signatureLaws.verify_sign _ _

end InviteSample

open InviteSample in
/-- A classical invite without a pin survives. -/
theorem plain_invite_survives : Survives ProfileSample.packages (invite []) 1700000000000 :=
  (survives_iff ProfileSample.cborLaws length_sign (createInvite_eq []) (accepted [])).mpr
    ⟨rfl, rfl, by
      show Rust.IsWord64 (1700000000000 + defaultInviteTtlMs)
      decide⟩

open InviteSample in
/-- An invite with the pin of its rendezvous is made and accepted in Python, and does not
survive. -/
theorem pinned_invite_lost :
    createInvite ProfileSample.packages ProfileSample.identity "https://relay.example"
        (List.replicate 32 7) defaultInviteTtlMs false 1700000000000 secret
      = .ok (invite (List.replicate 32 7))
    ∧ verifyInvite ProfileSample.packages (invite (List.replicate 32 7)) 1700000000000 = .ok ()
    ∧ ¬ Survives ProfileSample.packages (invite (List.replicate 32 7)) 1700000000000 := by
  refine ⟨createInvite_eq _, accepted _, fun hsurvives => ?_⟩
  have hsized := sized_createInvite length_sign (createInvite_eq (List.replicate 32 7))
  have hcarried := carried_of_survives ProfileSample.cborLaws hsized hsurvives
  have htls : List.replicate 32 (7 : UInt8) = [] := hcarried.rendezvousTls
  cases htls

end Yakr
