import Yakr.Core.Store
import Yakr.Ratchet.Methods
import Yakr.Store.Profiles

/-!
# Yakr.Store.Persistence

**Contacts that are stored and loaded.** Loading what `to_dict` wrote never raises; it gives the
contact as it was, up to four parts whose written form says less (`Contact.fromDict_toDict_eq`).
-/

namespace Yakr

open Lib Effect

variable {P : Packages}

namespace Contact

/-- The contact that is read back from its dictionary. -/
def readBack (c : Contact) : Contact :=
  { c with
    ratchet := c.ratchet.map fun r => r.rolledBack r.skippedKeys
    deliveryProfile := c.deliveryProfile.map DeliveryProfile.canonical
    peerAckedMyRelayNames :=
      if c.peerAckedMyRelayNames = [] then []
      else splitNames (",".intercalate c.peerAckedMyRelayNames) }

theorem mapPresent_map {α β γ : Type} {f : β → Except PyExc γ} {g : α → β} {k : α → γ}
    (h : ∀ a, f (g a) = .ok (k a)) (a : Option α) :
    mapPresent f (a.map g) = .ok (a.map k) := by
  cases a with
  | none => rfl
  | some a =>
      rw [Option.map_some, mapPresent, h a]
      rfl

theorem fromDict_toDict_eq (hcbor : P.CborLaws) (c : Contact) :
    Contact.fromDict P (c.toDict P) = .ok c.readBack := by
  have hratchet : mapPresent RatchetState.fromDict (c.ratchet.map RatchetState.toDict)
      = .ok (c.ratchet.map fun r => r.rolledBack r.skippedKeys) :=
    mapPresent_map (fun r => r.fromDict_toDict r.skippedKeys) _
  have hprofile : mapPresent (DeliveryProfile.fromB64 P)
      (c.deliveryProfile.map (DeliveryProfile.toB64 P))
        = .ok (c.deliveryProfile.map DeliveryProfile.canonical) :=
    mapPresent_map (fun p => p.fromB64_toB64 hcbor) _
  have hbytes : ∀ b : Option Bytes, mapPresent b64decode (b.map b64encode) = .ok b := by
    intro b
    have hmap := mapPresent_map b64decode_b64encode b
    rwa [Option.map_id'] at hmap
  have hversion : (if c.peerAckedMyProfileVersion = 0 then none
      else some c.peerAckedMyProfileVersion).getD 0 = c.peerAckedMyProfileVersion := by
    split
    · rename_i hzero
      exact hzero.symm
    · rfl
  have hnames : ((if c.peerAckedMyRelayNames = [] then none
      else some (",".intercalate c.peerAckedMyRelayNames)).map splitNames).getD []
        = if c.peerAckedMyRelayNames = [] then []
          else splitNames (",".intercalate c.peerAckedMyRelayNames) := by
    split
    · rfl
    · rfl
  have hstarted : (if c.sessionStartedAt = 0 then none else some c.sessionStartedAt).getD 0
      = c.sessionStartedAt := by
    split
    · rename_i hzero
      exact hzero.symm
    · rfl
  have hmode : (if c.privacyMode = .fast then none else some c.privacyMode).getD .fast
      = c.privacyMode := by
    split
    · rename_i hfast
      exact hfast.symm
    · rfl
  rw [Contact.fromDict]
  simp only [Contact.toDict, hratchet, hprofile, hbytes, b64decode_b64encode, hversion, hnames,
    hstarted, hmode, bind, Except.bind]
  refine congrArg Except.ok ?_
  rw [readBack]
  congr 1
  by_cases hhybrid : c.hybridPq = true
  · simp [hhybrid]
  · simp [hhybrid]

end Contact

/-- What a contact takes from its row as it stands there. -/
theorem Contact.fromDict_ok {d : ContactDict} {c : Contact} (h : Contact.fromDict P d = .ok c) :
    c.name = d.name ∧ c.nextSendSeq = d.nextSendSeq ∧ c.lastRecvSeq = d.lastRecvSeq
      ∧ mapPresent RatchetState.fromDict d.ratchet = .ok c.ratchet := by
  unfold Contact.fromDict at h
  obtain ⟨ratchet, hratchet, h⟩ := bind_ok.mp h
  obtain ⟨deliveryProfile, -, h⟩ := bind_ok.mp h
  obtain ⟨contactId, -, h⟩ := bind_ok.mp h
  obtain ⟨transcriptHash, -, h⟩ := bind_ok.mp h
  obtain ⟨signingPublic, -, h⟩ := bind_ok.mp h
  obtain ⟨agreementPublic, -, h⟩ := bind_ok.mp h
  obtain ⟨masterSecret, -, h⟩ := bind_ok.mp h
  obtain rfl := Except.ok.inj h
  exact ⟨rfl, rfl, rfl, hratchet⟩

/-- A contact that is saved has its own row, and the others keep theirs. -/
theorem find_saveContact (store : FileLocalStore) (c : Contact) (name : String) :
    Table.find ContactDict.name name (store.saveContact P c).contacts
      = if c.name = name then some (c.toDict P)
        else Table.find ContactDict.name name store.contacts := by
  split
  · rename_i hname
    subst hname
    exact Table.find_upsert_self (r := c.toDict P)
  · rename_i hname
    exact Table.find_upsert_of_ne (r := c.toDict P) hname

/-- The row a contact was loaded from. -/
theorem getContact_ok {store : FileLocalStore} {contactName : String} {c : Contact}
    (h : store.getContact P contactName = .ok (some c)) :
    ∃ d, Table.find ContactDict.name contactName store.contacts = some d
      ∧ Contact.fromDict P d = .ok c ∧ c.name = contactName := by
  unfold FileLocalStore.getContact at h
  cases hfind : Table.find ContactDict.name contactName store.contacts with
  | none =>
      rw [hfind] at h
      cases h
  | some d =>
      rw [hfind] at h
      cases hload : Contact.fromDict P d with
      | error e =>
          rw [mapPresent, hload] at h
          cases h
      | ok loaded =>
          rw [mapPresent, hload] at h
          obtain rfl := Option.some.inj (Except.ok.inj h)
          exact ⟨d, rfl, hload, (Contact.fromDict_ok hload).1.trans (Table.find_key hfind)⟩

end Yakr
