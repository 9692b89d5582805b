import Yakr.Core.Session
import Yakr.Store.Created

/-!
# Yakr.Mailbox.EpochLengths

**The epoch length a peer signs.** An accepted profile replaces the epoch length that the mailbox
tags of its contact are derived with. Nothing that is checked of a profile looks at the number, and
the clock is divided by it: after a profile of length zero no tag of the contact can be derived
(`accepted_profiles_derive_iff`).
-/

namespace Yakr

open Lib Effect

variable {P : Packages}

/-! ### Tags -/

section Tags

variable {deriver : MailboxTagDeriver} {now : Int} {direction : String}

theorem currentEpoch_returns_iff {epochSecs : Int} :
    (∃ epoch, currentEpoch now epochSecs = .ok epoch) ↔ epochSecs ≠ 0 := by
  unfold currentEpoch
  split
  · rename_i hzero
    exact iff_of_false (fun h => nomatch h) fun h => h hzero
  · rename_i hpos
    exact iff_of_true ⟨_, rfl⟩ hpos

theorem derive_returns_iff :
    (∃ tag, deriver.derive P now direction = .ok tag) ↔ deriver.epochSecs ≠ 0 := by
  rw [← @currentEpoch_returns_iff now, MailboxTagDeriver.derive]
  constructor
  · intro h
    obtain ⟨tag, h⟩ := h
    obtain ⟨epoch, hepoch, -⟩ := bind_ok.mp h
    exact ⟨epoch, hepoch⟩
  · intro h
    obtain ⟨epoch, hepoch⟩ := h
    exact bind_returns hepoch ⟨_, rfl⟩

/-- The decoys are derived from the epochs of the real tags. -/
theorem fetchTagsForMode_returns_iff {mode : PrivacyMode} {mailboxSecret : Bytes} {lookback : Nat} :
    (∃ tags, fetchTagsForMode P deriver now direction mode mailboxSecret lookback = .ok tags)
      ↔ deriver.epochSecs ≠ 0 := by
  rw [← @currentEpoch_returns_iff now, fetchTagsForMode]
  constructor
  · intro h
    obtain ⟨tags, h⟩ := h
    obtain ⟨realTags, hreal, -⟩ := bind_ok.mp h
    obtain ⟨epoch, hepoch, -⟩ := bind_ok.mp hreal
    exact ⟨epoch, hepoch⟩
  · intro h
    obtain ⟨epoch, hepoch⟩ := h
    obtain ⟨realTags, hreal⟩ : ∃ realTags,
        deriver.candidateEpochs P now direction lookback = .ok realTags :=
      bind_returns hepoch ⟨_, rfl⟩
    refine bind_returns hreal ?_
    split
    · exact ⟨_, rfl⟩
    · exact ⟨_, rfl⟩

end Tags

/-- The outbound tag and the inbound tags of a contact are derived at every time and in every
privacy mode. -/
def DerivesTags (P : Packages) (identity : Identity) (contact : Contact) : Prop :=
  ∀ (now : Int) (mode : PrivacyMode) (mailboxSecret : Bytes) (lookback : Nat),
    (∃ tag, (mailboxDeriver P identity contact true).derive P now (sendDirection identity contact)
        = .ok tag)
      ∧ ∃ tags, fetchTagsForMode P (mailboxDeriver P identity contact false) now
        (recvDirection identity contact) mode mailboxSecret lookback = .ok tags

theorem derivesTags_iff {identity : Identity} {contact : Contact} :
    DerivesTags P identity contact ↔ mailboxEpochSecs contact ≠ 0 := by
  constructor
  · intro h
    exact derive_returns_iff.mp (h 0 .fast [] 0).1
  · intro h now mode mailboxSecret lookback
    exact ⟨derive_returns_iff.mpr h, fetchTagsForMode_returns_iff.mpr h⟩

/-! ### Sequences of profiles -/

/-- An inbound profile, with the key it is checked with and the time of the call. -/
structure ProfileUpdate where
  profile : DeliveryProfile
  signingPublic : Bytes
  now : Int

/-- What is checked of an inbound profile. -/
def Accepts (P : Packages) (contact : Contact) (update : ProfileUpdate) : Prop :=
  verifyDeliveryProfile P update.profile update.signingPublic = .ok ()
    ∧ acceptDeliveryProfileUpdate P contact.deliveryProfile update.profile update.now = .ok ()

instance (contact : Contact) (update : ProfileUpdate) : Decidable (Accepts P contact update) :=
  inferInstanceAs (Decidable (_ ∧ _))

theorem applyDeliveryProfileUpdate_ok {contact contact' : Contact} {update : ProfileUpdate} :
    applyDeliveryProfileUpdate P contact update.profile update.signingPublic update.now
        = .ok contact'
      ↔ Accepts P contact update
        ∧ contact' = { contact with deliveryProfile := some update.profile } := by
  unfold applyDeliveryProfileUpdate
  constructor
  · intro h
    obtain ⟨u, hverify, h⟩ := bind_ok.mp h
    obtain ⟨u', haccept, h⟩ := bind_ok.mp h
    exact ⟨⟨hverify, haccept⟩, (Except.ok.inj h).symm⟩
  · intro h
    obtain ⟨⟨hverify, haccept⟩, rfl⟩ := h
    exact bind_ok.mpr ⟨(), hverify, bind_ok.mpr ⟨(), haccept, rfl⟩⟩

/-- The contacts after each call of `apply_delivery_profile_update` that returns; a call that raises
leaves the contact as it was. -/
def returnedContacts (P : Packages) : Contact → List ProfileUpdate → List Contact
  | _, [] => []
  | contact, update :: updates =>
      match applyDeliveryProfileUpdate P contact update.profile update.signingPublic update.now with
      | .ok contact' => contact' :: returnedContacts P contact' updates
      | .error _ => returnedContacts P contact updates

/-- The profiles of a sequence that pass the checks when their turn comes. -/
def acceptedProfiles (P : Packages) : Contact → List ProfileUpdate → List DeliveryProfile
  | _, [] => []
  | contact, update :: updates =>
      if Accepts P contact update then
        update.profile
          :: acceptedProfiles P { contact with deliveryProfile := some update.profile } updates
      else acceptedProfiles P contact updates

theorem returnedContacts_accepts {contact : Contact} {update : ProfileUpdate}
    {updates : List ProfileUpdate} (h : Accepts P contact update) :
    returnedContacts P contact (update :: updates)
      = { contact with deliveryProfile := some update.profile }
        :: returnedContacts P { contact with deliveryProfile := some update.profile } updates := by
  rw [returnedContacts, applyDeliveryProfileUpdate_ok.mpr ⟨h, rfl⟩]

theorem returnedContacts_refuses {contact : Contact} {update : ProfileUpdate}
    {updates : List ProfileUpdate} (h : ¬ Accepts P contact update) :
    returnedContacts P contact (update :: updates) = returnedContacts P contact updates := by
  rw [returnedContacts]
  split
  · rename_i contact' hok
    exact absurd (applyDeliveryProfileUpdate_ok.mp hok).1 h
  · rfl

/-- Each call that returns stores the profile it has accepted. -/
theorem map_returnedContacts (contact : Contact) (updates : List ProfileUpdate) :
    (returnedContacts P contact updates).map Contact.deliveryProfile
      = (acceptedProfiles P contact updates).map some := by
  induction updates generalizing contact with
  | nil => rfl
  | cons update updates ih =>
      by_cases h : Accepts P contact update
      · rw [returnedContacts_accepts h, acceptedProfiles, if_pos h, List.map_cons, List.map_cons, ih]
      · rw [returnedContacts_refuses h, acceptedProfiles, if_neg h, ih]

/-- **Accepted profiles.** After every call of a sequence that returns, both kinds of tags are
derived, exactly when no profile it has accepted has an epoch length of zero. -/
theorem accepted_profiles_derive_iff (identity : Identity) (contact : Contact)
    (updates : List ProfileUpdate) :
    (∀ c ∈ returnedContacts P contact updates, DerivesTags P identity c)
      ↔ ∀ profile ∈ acceptedProfiles P contact updates, profile.mailboxEpochSecs ≠ 0 := by
  have hstored : ∀ stored, stored ∈ (returnedContacts P contact updates).map Contact.deliveryProfile
      ↔ stored ∈ (acceptedProfiles P contact updates).map some := by
    rw [map_returnedContacts]
    exact fun _ => Iff.rfl
  constructor
  · intro h profile hprofile
    obtain ⟨c, hc, hc'⟩ := List.mem_map.mp
      ((hstored (some profile)).mpr (List.mem_map_of_mem hprofile))
    have hlength := derivesTags_iff.mp (h c hc)
    rw [mailboxEpochSecs, hc'] at hlength
    exact hlength
  · intro h c hc
    obtain ⟨profile, hprofile, hc'⟩ := List.mem_map.mp
      ((hstored c.deliveryProfile).mp (List.mem_map_of_mem hc))
    refine derivesTags_iff.mpr ?_
    rw [mailboxEpochSecs, ← hc']
    exact h profile hprofile

namespace EpochSample

export CreatedSample (packages identity)

/-- Alice's contact as Bob has it after pairing. -/
def contact : Contact :=
  { name := "alice"
    signingPublic := identity.signingPublicBytes packages
    agreementPublic := identity.agreementPublicBytes packages
    masterSecret := List.replicate 32 9
    conversationId := "pairwise_alice_bob" }

def bob : Identity :=
  { name := "bob"
    signingPrivate := BytesN.fill 32 3
    agreementPrivate := BytesN.fill 32 4 }

/-- A profile of Alice with this epoch length. -/
def signed (epochSecs : Int) : ProfileUpdate :=
  { profile := createDeliveryProfile packages identity [] none epochSecs none none "minimal"
      604800000 none [] 1700000000000
    signingPublic := identity.signingPublicBytes packages
    now := 1700000000000 }

theorem accepts_signed (epochSecs : Int) : Accepts packages contact (signed epochSecs) :=
  ⟨verifyDeliveryProfile_created CreatedSample.signatureLaws identity [] none epochSecs none none
    "minimal" 604800000 none [] 1700000000000, rfl⟩

end EpochSample

open EpochSample in
/-- A profile of length zero is accepted, and the clock is divided by it. -/
theorem zero_epoch_accepted :
    ¬ ∀ c ∈ returnedContacts packages contact [signed 0], DerivesTags packages bob c := by
  intro h
  rw [returnedContacts_accepts (accepts_signed 0)] at h
  exact derivesTags_iff.mp (h _ List.mem_cons_self) rfl

end Yakr
