import Yakr.Languages.Profiles

/-!
# Yakr.Store.Created

**Do created profiles survive serialisation?** `create_delivery_profile` signs the descriptors
it is given as they are; reading them back takes the slash off the end of an address and drops
a capability generation that has no salt. What is read verifies only if nothing signed was
changed.
-/

namespace Yakr

open Lib

variable {P : Packages}

namespace RelayDescriptor

/-- The descriptors that reading leaves alone. -/
theorem canonical_eq_self_iff {d : RelayDescriptor} :
    d.canonical = d ↔ rstripSlash d.url = d.url
      ∧ (d.capabilityIssuanceSalt = [] → d.capabilityGeneration = 0) := by
  obtain ⟨name, role, url, wrapSecret, pin, generation, salt⟩ := d
  by_cases hsalt : salt = []
  · simp [canonical, hsalt, eq_comm]
  · simp [canonical, hsalt]

end RelayDescriptor

theorem map_eq_self_iff {α : Type} {f : α → α} {xs : List α} :
    xs.map f = xs ↔ ∀ x ∈ xs, f x = x := by
  have hinj := List.map_inj_left (l := xs) (f := f) (g := id)
  rwa [List.map_id] at hinj

namespace DeliveryProfile

theorem canonical_eq_self_iff {p : DeliveryProfile} :
    p.canonical = p ↔ ∀ d ∈ p.relayDescriptors, d.canonical = d := by
  constructor
  · intro h d hd
    have hrelays : p.relayDescriptors.map RelayDescriptor.canonical = p.relayDescriptors :=
      congrArg relayDescriptors h
    exact map_eq_self_iff.mp hrelays d hd
  · intro h
    rw [canonical, map_eq_self_iff.mpr h]

end DeliveryProfile

/-- A verified profile is one that its owner signed. -/
theorem verifyDeliveryProfile_created (hsign : P.SignatureLaws) (identity : Identity)
    (relays : List RelayDescriptor) (hints : Option (List String)) (epochSecs : Int)
    (salt : Option Bytes) (classes : Option (List Int)) (policy : String) (ttl : Int)
    (requested : Option Int) (pin : Bytes) (now : Int) :
    verifyDeliveryProfile P (createDeliveryProfile P identity relays hints epochSecs salt classes
      policy ttl requested pin now) (identity.signingPublicBytes P) = .ok () := by
  have hlen : (identity.signingPublicBytes P).length = 32 :=
    (P.ed25519Public identity.signingPrivate).2
  rw [verifyDeliveryProfile, if_neg (fun h => h rfl), ed25519Check, dif_pos hlen]
  exact if_pos (hsign.verify_sign _ _)

/-- **Serialisation.** A created profile is read back equal and verifies under the key of its
identity exactly when no descriptor has an address with a slash at its end or a capability
generation without a salt. -/
theorem created_survives_iff (hcbor : P.CborLaws) (hsign : P.SignatureLaws) (identity : Identity)
    (relays : List RelayDescriptor) (hints : Option (List String)) (epochSecs : Int)
    (salt : Option Bytes) (classes : Option (List Int)) (policy : String) (ttl : Int)
    (requested : Option Int) (pin : Bytes) (now : Int) :
    let p := createDeliveryProfile P identity relays hints epochSecs salt classes policy ttl
      requested pin now
    (∃ read, DeliveryProfile.fromB64 P (p.toB64 P) = .ok read ∧ read = p
        ∧ verifyDeliveryProfile P read (identity.signingPublicBytes P) = .ok ())
      ↔ ∀ d ∈ relays, rstripSlash d.url = d.url
        ∧ (d.capabilityIssuanceSalt = [] → d.capabilityGeneration = 0) := by
  intro p
  have hcanonical : p.canonical = p ↔ ∀ d ∈ relays, rstripSlash d.url = d.url
      ∧ (d.capabilityIssuanceSalt = [] → d.capabilityGeneration = 0) := by
    rw [DeliveryProfile.canonical_eq_self_iff]
    exact forall₂_congr fun d _ => RelayDescriptor.canonical_eq_self_iff
  rw [← hcanonical, p.fromB64_toB64 hcbor]
  constructor
  · intro h
    obtain ⟨read, hread, hsame, -⟩ := h
    exact (Except.ok.inj hread).trans hsame
  · intro hsame
    refine ⟨p, by rw [hsame], rfl, ?_⟩
    exact verifyDeliveryProfile_created hsign identity relays hints epochSecs salt classes policy
      ttl requested pin now

namespace CreatedSample

/-- A signature is the key and what is signed. -/
def packages : Packages :=
  { codedPackages plainPackages with
    ed25519Sign := fun key data => key.1 ++ data
    ed25519Verify := fun key signature data => signature = key.1 ++ data }

theorem cborLaws : packages.CborLaws := ⟨(codedPackages_cborLaws plainPackages).loads_dumps⟩

theorem signatureLaws : packages.SignatureLaws := ⟨fun _ _ => decide_eq_true rfl⟩

def identity : Identity :=
  { name := "alice"
    signingPrivate := BytesN.fill 32 1
    agreementPrivate := BytesN.fill 32 2 }

def relay (url : String) : RelayDescriptor :=
  { name := "relay", role := "mailbox", url, wrapSecret := List.replicate 32 3 }

/-- A profile of one relay. -/
def profile (url : String) : DeliveryProfile :=
  createDeliveryProfile packages identity [relay url] none 3600 none none "minimal" 604800000 none
    (List.replicate 32 7) 1700000000000

end CreatedSample

open CreatedSample in
theorem profile_survives : ∃ read,
    DeliveryProfile.fromB64 packages ((profile "https://relay").toB64 packages) = .ok read
      ∧ read = profile "https://relay"
      ∧ verifyDeliveryProfile packages read (identity.signingPublicBytes packages) = .ok () :=
  (created_survives_iff cborLaws signatureLaws identity [relay "https://relay"] none 3600 none none
    "minimal" 604800000 none (List.replicate 32 7) 1700000000000).mpr (by decide)

open CreatedSample in
/-- With a slash at the end of the address the profile is read back as another one, which does
not verify. -/
theorem profile_slash_lost : ∃ read,
    DeliveryProfile.fromB64 packages ((profile "https://relay/").toB64 packages) = .ok read
      ∧ read ≠ profile "https://relay/"
      ∧ verifyDeliveryProfile packages read (identity.signingPublicBytes packages) ≠ .ok () := by
  refine ⟨_, (profile "https://relay/").fromB64_toB64 cborLaws, ?_, ?_⟩
  · rw [Ne, DeliveryProfile.canonical_eq_self_iff]
    decide
  · decide +kernel

end Yakr
