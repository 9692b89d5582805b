import Yakr.Languages.Invites
import Yakr.Store.Created

/-!
# Yakr.Pairing.Invites

**Invites on their way to the joiner.** `create_invite` signs dictionaries that it builds by hand,
one with the ML-DSA key and one without; `verify_invite` signs over the dictionary of the bundle.
The second dictionary has no ML-KEM key, so a hybrid invite of an identity without ML-DSA keys
carries a signature of something else (`created_invite_valid_iff`).

The ML-DSA signature is no part of what is signed, and `verify_invite` looks for the key only when
it has a signature: an invite with the key alone is accepted on its Ed25519 signature
(`keeps_pqSignature_iff`).
-/

namespace Yakr

open Lib

variable {P : Packages}

/-! ### Invite links -/

def invitePrefix : String := "yakr://invite/"

/-- `invite_to_url`. -/
def inviteToUrl (P : Packages) (bundle : InviteBundle) : String :=
  invitePrefix ++ b64encode (bundle.toBytes P)

/-- `invite_from_url`. -/
def inviteFromUrl (P : Packages) (url : String) : Except PyExc InviteBundle :=
  if invitePrefix.toList <+: url.toList then do
    let data ← b64decode (String.ofList (url.toList.drop invitePrefix.length))
    InviteBundle.fromBytes P data
  else .error (.valueError "invalid invite url")

namespace InviteBundle

/-- Every entry of an invite is read back. -/
theorem ofCbor_signedDict (b : InviteBundle) : ofCbor P (.map b.signedDict) = .ok b := by
  obtain ⟨protocol, inviterName, signingPublic, agreementPublic, inviteSecret, rendezvousHint,
    expiresAt, capabilities, signature, kemPublic, pqSigningPublic, pqSignature, tls⟩ := b
  have htexts : capabilities.map (cborStr P ∘ Cbor.text) = capabilities := by
    simp [Function.comp_def, cborStr]
  -- an optional entry that is left out is read as the empty byte string
  by_cases hkem : kemPublic = [] <;> by_cases hpq : pqSigningPublic = [] <;>
    by_cases htls : tls = [] <;> by_cases hsignature : pqSignature = [] <;>
    simp [signedDict, unsignedDict, baseDict, optionalBytes, hkem, hpq, htls, hsignature, ofCbor,
      cborGet, cborGetD, List.lookup_cons, cborBytes, cborInt, cborItems, cborStr, htexts, bind,
      Except.bind, pure, Except.pure]

theorem fromBytes_toBytes (hcbor : P.CborLaws) (b : InviteBundle) :
    fromBytes P (b.toBytes P) = .ok b := by
  rw [fromBytes, toBytes, hcbor.loads_dumps b.storable_signedDict]
  exact b.ofCbor_signedDict

end InviteBundle

/-- A link carries its invite. -/
theorem inviteFromUrl_inviteToUrl (hcbor : P.CborLaws) (b : InviteBundle) :
    inviteFromUrl P (inviteToUrl P b) = .ok b := by
  have hurl : (inviteToUrl P b).toList
      = invitePrefix.toList ++ (b64encode (b.toBytes P)).toList := by
    rw [inviteToUrl, String.toList_append]
  have hlength : invitePrefix.length = invitePrefix.toList.length := rfl
  rw [inviteFromUrl, hurl, if_pos (List.prefix_append _ _), hlength, List.drop_left,
    String.ofList_toList, b64decode_b64encode]
  exact b.fromBytes_toBytes hcbor

/-! ### Which created invites are valid -/

/-- What Ed25519 is relied on for: a signature is for one payload. -/
structure Packages.SignatureBinds (P : Packages) : Prop where
  sign_inj : ∀ {key data data'},
    P.ed25519Verify (P.ed25519Public key) (P.ed25519Sign key data) data' = true → data = data'

/-- An identity's ML-DSA keys, where it has them, are a generated pair. -/
def PqPair (P : Packages) (identity : Identity) : Prop :=
  identity.pqSigningPrivate ≠ [] → identity.pqSigningPublic ≠ [] →
    ∀ data, P.mlDsaVerify identity.pqSigningPublic data
      (P.mlDsaSign identity.pqSigningPrivate data) = true

/-- The keys an invite of a mode is signed with: a hybrid one needs the ML-DSA pair. -/
def SignsInvite (identity : Identity) (hybridPq : Bool) : Prop :=
  hybridPq = true → identity.pqSigningPrivate ≠ [] ∧ identity.pqSigningPublic ≠ []

section Verify

variable {bundle : InviteBundle} {now : Int}

/-- An invite is accepted when its signatures are. -/
theorem verifyInvite_iff :
    verifyInvite P bundle now = .ok ()
      ↔ ¬ (bundle.protocol ≠ protocolV4 ∧ bundle.protocol ≠ protocolV6) ∧ ¬ bundle.expiresAt ≤ now
        ∧ ed25519Check P bundle.signingPublic bundle.signature (bundle.unsignedPayload P) = .ok ()
        ∧ (bundle.pqSignature ≠ [] → bundle.pqSigningPublic ≠ []
          ∧ P.mlDsaVerify bundle.pqSigningPublic (bundle.unsignedPayload P) bundle.pqSignature
            = true) := by
  unfold verifyInvite
  by_cases hprotocol : bundle.protocol ≠ protocolV4 ∧ bundle.protocol ≠ protocolV6
  · rw [if_pos hprotocol]
    exact iff_of_false nofun fun h => h.1 hprotocol
  · rw [if_neg hprotocol]
    by_cases hfresh : bundle.expiresAt ≤ now
    · rw [if_pos hfresh]
      exact iff_of_false nofun fun h => h.2.1 hfresh
    · rw [if_neg hfresh]
      cases hcheck : ed25519Check P bundle.signingPublic bundle.signature
          (bundle.unsignedPayload P) with
      | error e => exact iff_of_false nofun fun h => nomatch h.2.2.1
      | ok u =>
          by_cases hsignature : bundle.pqSignature = []
          · simp [hsignature, hprotocol, hfresh, bind, Except.bind, pure, Except.pure]
          · by_cases hpublic : bundle.pqSigningPublic = []
            · simp [hsignature, hpublic, bind, Except.bind, throw, throwThe, MonadExceptOf.throw]
            · cases hverify : P.mlDsaVerify bundle.pqSigningPublic (bundle.unsignedPayload P)
                  bundle.pqSignature with
              | true =>
                  simp [hsignature, hpublic, hprotocol, hfresh, bind, Except.bind, pure,
                    Except.pure]
              | false =>
                  simp [hsignature, hpublic, bind, Except.bind, throw, throwThe,
                    MonadExceptOf.throw]

end Verify

namespace InviteBundle

variable {b : InviteBundle}

/-- The entries that are signed when there are ML-DSA keys; the public one is written even when
it is empty. -/
def dictWithKeys (b : InviteBundle) (kemPublic pqSigningPublic : Bytes) : List (String × Cbor) :=
  b.baseDict ++ [("kem_public", .bytes kemPublic), ("pq_signing_public", .bytes pqSigningPublic)]
    ++ optionalBytes "rendezvous_tls_spki_sha256" b.rendezvousTlsSpkiSha256

theorem storable_dictWithKeys {kemPublic pqSigningPublic : Bytes} :
    (Cbor.map (b.dictWithKeys kemPublic pqSigningPublic)).Storable := by
  have hbase : Cbor.StorableEntries b.baseDict :=
    ⟨trivial, trivial, trivial, trivial, trivial, trivial, trivial,
      storableItems_text b.capabilities, trivial⟩
  have hkeys : ((b.dictWithKeys kemPublic pqSigningPublic).map Prod.fst).Sublist (keys.take 11) := by
    simp only [dictWithKeys, List.map_append]
    have hbase : (b.baseDict.map Prod.fst).Sublist (keys.take 8) := List.Sublist.refl _
    exact (hbase.append (List.Sublist.refl ["kem_public", "pq_signing_public"])).append
      (keys_optionalBytes _ _)
  exact ⟨List.Nodup.sublist hkeys (by decide),
    storableEntries_append (storableEntries_append hbase ⟨trivial, trivial, trivial⟩)
      (storable_optionalBytes _ _)⟩

/-- They are the entries of a bundle that has both keys. -/
theorem dictWithKeys_eq_iff {signed : InviteBundle} {kemPublic pqSigningPublic : Bytes}
    (hbase : signed.baseDict = b.baseDict)
    (htls : signed.rendezvousTlsSpkiSha256 = b.rendezvousTlsSpkiSha256)
    (hb : b.kemPublic = kemPublic) (hb' : b.pqSigningPublic = pqSigningPublic)
    (hkem : kemPublic ≠ []) :
    signed.dictWithKeys kemPublic pqSigningPublic = b.unsignedDict ↔ pqSigningPublic ≠ [] := by
  subst hb hb'
  have hlength : ∀ value : Bytes, (optionalBytes "pq_signing_public" value).length = 1
      ↔ value ≠ [] := by
    intro value
    unfold optionalBytes
    split <;> simp_all
  have hentry : optionalBytes "kem_public" b.kemPublic = [("kem_public", .bytes b.kemPublic)] :=
    if_neg hkem
  rw [dictWithKeys, hbase, htls, unsignedDict, hentry, List.append_cancel_right_eq,
    List.append_assoc, List.append_cancel_left_eq]
  constructor
  · intro h
    exact (hlength _).mp (Nat.succ.inj (congrArg List.length h)).symm
  · intro h
    rw [optionalBytes, if_neg h]
    rfl

/-- An ML-KEM key is an entry of its own. -/
theorem unsignedDict_ne_of_kem {signed : InviteBundle} (hsigned : signed.kemPublic = [])
    (hkem : b.kemPublic ≠ []) : signed.unsignedDict ≠ b.unsignedDict := by
  intro h
  have hlookup := signed.lookup_kem
  rw [h, b.lookup_kem, if_pos hsigned, if_neg hkem] at hlookup
  cases hlookup

end InviteBundle

section Created

variable {identity : Identity} {hint : String} {tls : Bytes} {ttl created : Int} {hybrid : Bool}
  {secret : BytesN 32} {bundle : InviteBundle}

/-- What `create_invite` has signed: the entries of its bundle only if the identity has the keys
of its mode. -/
theorem createInvite_signed
    (h : createInvite P identity hint tls ttl hybrid created secret = .ok bundle) :
    ∃ signed, (Cbor.map signed).Storable
      ∧ bundle.signature = P.ed25519Sign identity.signingPrivate (P.cborDumps (.map signed))
      ∧ (signed = bundle.unsignedDict ↔ SignsInvite identity hybrid)
      ∧ (bundle.pqSignature ≠ [] → hybrid = true
        ∧ bundle.pqSigningPublic = identity.pqSigningPublic
        ∧ bundle.pqSignature
          = P.mlDsaSign identity.pqSigningPrivate (P.cborDumps (.map signed))) := by
  unfold createInvite at h
  cases hybrid with
  | false =>
      obtain rfl := Except.ok.inj h
      exact ⟨_, InviteBundle.storable_unsignedDict _, rfl, iff_of_true rfl nofun,
        fun hne => absurd rfl hne⟩
  | true =>
      simp only [if_true] at h
      split at h
      · cases h
      · rename_i hkem
        split at h
        · rename_i hprivate
          obtain rfl := Except.ok.inj h
          refine ⟨_, InviteBundle.storable_dictWithKeys, rfl, ?_, fun _ => ⟨rfl, rfl, rfl⟩⟩
          refine Iff.trans (InviteBundle.dictWithKeys_eq_iff ?_ ?_ ?_ ?_ hkem) ?_
          · rfl
          · rfl
          · rfl
          · rfl
          · exact ⟨fun hpublic _ => ⟨hprivate, hpublic⟩, fun hsigns => (hsigns rfl).2⟩
        · rename_i hprivate
          obtain rfl := Except.ok.inj h
          refine ⟨_, InviteBundle.storable_unsignedDict _, rfl, ?_, fun hne => absurd rfl hne⟩
          refine iff_of_false (InviteBundle.unsignedDict_ne_of_kem ?_ ?_) fun hsigns =>
            hprivate (hsigns rfl).1
          · rfl
          · exact hkem

/-- The entries of a created invite that are checked before its signatures. -/
theorem createInvite_head
    (h : createInvite P identity hint tls ttl hybrid created secret = .ok bundle) :
    (bundle.protocol = protocolV4 ∨ bundle.protocol = protocolV6)
      ∧ bundle.signingPublic = identity.signingPublicBytes P
      ∧ bundle.expiresAt = created + ttl := by
  unfold createInvite at h
  cases hybrid with
  | false =>
      obtain rfl := Except.ok.inj h
      exact ⟨.inl rfl, rfl, rfl⟩
  | true =>
      simp only [if_true] at h
      split at h
      · cases h
      · split at h
        · obtain rfl := Except.ok.inj h
          exact ⟨.inr rfl, rfl, rfl⟩
        · obtain rfl := Except.ok.inj h
          exact ⟨.inr rfl, rfl, rfl⟩

/-- An invite signed with the keys of its mode is accepted before it expires. -/
theorem verifyInvite_created (hsign : P.SignatureLaws) (hpair : PqPair P identity)
    (hcreate : createInvite P identity hint tls ttl hybrid created secret = .ok bundle)
    (hsigns : SignsInvite identity hybrid) {now : Int} (hnow : now < bundle.expiresAt) :
    verifyInvite P bundle now = .ok () := by
  obtain ⟨hprotocol, hkey, -⟩ := createInvite_head hcreate
  obtain ⟨signed, -, hsignature, hsigned, hpq⟩ := createInvite_signed hcreate
  have hpayload : P.cborDumps (.map signed) = bundle.unsignedPayload P := by
    rw [hsigned.mpr hsigns, InviteBundle.unsignedPayload]
  refine verifyInvite_iff.mpr ⟨?_, by omega, ?_, ?_⟩
  · exact fun h => hprotocol.elim h.1 h.2
  · rw [hkey, hsignature, hpayload]
    exact ed25519Check_iff.mpr (hsign.verify_sign _ _)
  · intro hne
    obtain ⟨hhybrid, hpublic, hpqSignature⟩ := hpq hne
    obtain ⟨hprivate, hpresent⟩ := hsigns hhybrid
    rw [hpublic, hpqSignature, hpayload]
    exact ⟨hpresent, hpair hprivate hpresent _⟩

/-- **Created invites.** An invite is read back equal from its link, and it is accepted before it
expires exactly when a hybrid one was signed with both ML-DSA keys. -/
theorem created_invite_valid_iff (hcbor : P.CborLaws) (hsign : P.SignatureLaws)
    (hbinds : P.SignatureBinds) (hpair : PqPair P identity)
    (hcreate : createInvite P identity hint tls ttl hybrid created secret = .ok bundle)
    {now : Int} (hnow : now < bundle.expiresAt) :
    (∃ parsed, inviteFromUrl P (inviteToUrl P bundle) = .ok parsed
        ∧ verifyInvite P parsed now = .ok () ∧ parsed = bundle)
      ↔ SignsInvite identity hybrid := by
  constructor
  · intro h
    obtain ⟨parsed, hparsed, hverify, rfl⟩ := h
    obtain ⟨-, hkey, -⟩ := createInvite_head hcreate
    obtain ⟨signed, hstorable, hsignature, hsigned, -⟩ := createInvite_signed hcreate
    obtain ⟨-, -, hcheck, -⟩ := verifyInvite_iff.mp hverify
    rw [hkey, hsignature] at hcheck
    -- the signature is for one payload, and a payload has one list of entries
    have hpayload : P.cborDumps (.map signed) = parsed.unsignedPayload P :=
      hbinds.sign_inj (ed25519Check_iff.mp hcheck)
    have hloads := hcbor.loads_dumps hstorable
    rw [hpayload, InviteBundle.unsignedPayload, hcbor.loads_dumps parsed.storable_unsignedDict,
      Except.ok.injEq, Cbor.map.injEq] at hloads
    exact hsigned.mp hloads.symm
  · intro hsigns
    exact ⟨bundle, inviteFromUrl_inviteToUrl hcbor bundle,
      verifyInvite_created hsign hpair hcreate hsigns hnow, rfl⟩

end Created

namespace InviteLinkSample

export CreatedSample (packages cborLaws signatureLaws)

theorem signatureBinds : packages.SignatureBinds := by
  refine ⟨fun {key data data'} h => ?_⟩
  have hsame : key.1 ++ data = key.1 ++ data' := of_decide_eq_true h
  exact List.append_cancel_left hsame

/-- An identity with ML-KEM keys and this ML-DSA pair. -/
def identity (pqKey : Bytes) : Identity :=
  { CreatedSample.identity with
    kemPublic := List.replicate 1184 4
    kemPrivate := List.replicate 2400 4
    pqSigningPublic := pqKey
    pqSigningPrivate := pqKey }

def secret : BytesN 32 := BytesN.fill 32 5

/-- A hybrid invite of the identity, valid for a day. -/
def create (pqKey : Bytes) : Except PyExc InviteBundle :=
  createInvite packages (identity pqKey) "https://relay" [] defaultInviteTtlMs true 1700000000000
    secret

theorem mlDsaVerify_mlDsaSign (key data : Bytes) :
    packages.mlDsaVerify key data (packages.mlDsaSign key data) = true := by
  have hverify : packages.mlDsaVerify = plainPackages.mlDsaVerify := rfl
  have hsign : packages.mlDsaSign = plainPackages.mlDsaSign := rfl
  rw [hverify, hsign]
  simp [plainPackages]

theorem pqPair (pqKey : Bytes) : PqPair packages (identity pqKey) :=
  fun _ _ data => mlDsaVerify_mlDsaSign pqKey data

theorem exists_create (pqKey : Bytes) :
    ∃ bundle, create pqKey = .ok bundle ∧ bundle.pqSigningPublic = pqKey := by
  cases pqKey with
  | nil => exact ⟨_, rfl, rfl⟩
  | cons b bs => exact ⟨_, rfl, rfl⟩

theorem create_fresh {pqKey : Bytes} {bundle : InviteBundle} (h : create pqKey = .ok bundle) :
    1700000000000 < bundle.expiresAt := by
  rw [(createInvite_head h).2.2]
  decide

end InviteLinkSample

open InviteLinkSample in
theorem hybrid_invite_valid : ∃ bundle, create (List.replicate 1952 6) = .ok bundle
    ∧ ∃ parsed, inviteFromUrl packages (inviteToUrl packages bundle) = .ok parsed
      ∧ verifyInvite packages parsed 1700000000000 = .ok () ∧ parsed = bundle := by
  obtain ⟨bundle, hcreate, -⟩ := exists_create (List.replicate 1952 6)
  have hiff := created_invite_valid_iff cborLaws signatureLaws signatureBinds (pqPair _) hcreate
    (create_fresh hcreate)
  exact ⟨bundle, hcreate, hiff.mpr fun _ => ⟨List.cons_ne_nil _ _, List.cons_ne_nil _ _⟩⟩

open InviteLinkSample in
/-- Without an ML-DSA pair the ML-KEM key is in the bundle and not in what is signed. -/
theorem hybrid_invite_invalid : ∃ bundle, create [] = .ok bundle
    ∧ 1700000000000 < bundle.expiresAt
    ∧ ∃ parsed, inviteFromUrl packages (inviteToUrl packages bundle) = .ok parsed
      ∧ verifyInvite packages parsed 1700000000000 ≠ .ok () :=
  ⟨_, rfl, by decide, _, inviteFromUrl_inviteToUrl cborLaws _, by decide +kernel⟩

/-! ### Stripped signatures -/

/-- The checks of `verify_invite` that do not look at the ML-DSA signature. -/
def ClassicallyValid (P : Packages) (bundle : InviteBundle) (now : Int) : Prop :=
  (bundle.protocol = protocolV4 ∨ bundle.protocol = protocolV6) ∧ now < bundle.expiresAt
    ∧ ed25519Check P bundle.signingPublic bundle.signature (bundle.unsignedPayload P) = .ok ()

/-- A byte string whose invite names an ML-DSA key is accepted only with a signature under it. -/
def KeepsPqSignature (P : Packages) (data : Bytes) (now : Int) : Prop :=
  ∀ bundle, InviteBundle.fromBytes P data = .ok bundle → bundle.pqSigningPublic ≠ [] →
    verifyInvite P bundle now = .ok () → bundle.pqSignature ≠ []
      ∧ P.mlDsaVerify bundle.pqSigningPublic (bundle.unsignedPayload P) bundle.pqSignature = true

/-- Nothing that is checked without it depends on the ML-DSA signature. -/
theorem verifyInvite_stripped {bundle : InviteBundle} {now : Int}
    (h : verifyInvite P bundle now = .ok ()) :
    verifyInvite P { bundle with pqSignature := [] } now = .ok () := by
  obtain ⟨hprotocol, hfresh, hcheck, -⟩ := verifyInvite_iff.mp h
  exact verifyInvite_iff.mpr ⟨hprotocol, hfresh, hcheck, fun hne => absurd rfl hne⟩

end Yakr
