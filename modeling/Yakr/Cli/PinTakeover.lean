import Yakr.Cli.MovedRelay
import Yakr.Languages.Profiles
import Yakr.Ratchet.Methods

/-!
# Yakr.Cli.PinTakeover

**A contact that publishes another's address.** All stored profiles assign their pins to one
table, in the order of the contacts' names, and nothing ties an address to the profile it was
first seen in. A contact whose new profile lists the address of another relay with a key of its
own therefore replaces the pin, unless the profile of the contact the request is for has a word
on the address, or a contact with a later name repeats it. A profile whose relay address does
not parse makes every lookup raise that gets as far as the table.
-/

namespace Yakr

open Lib Fallback

variable {P : Packages} {U : UrlTables} {identity : Except PyExc (Option Identity)}
  {store : FileLocalStore}

/-! ### Contacts that come back from the store -/

/-- A stored contact is read back, its profile in canonical form. -/
theorem Contact.fromDict_toDict (hcbor : P.CborLaws) (c : Contact) :
    ∃ c', Contact.fromDict P (c.toDict P) = .ok c'
      ∧ c'.deliveryProfile = c.deliveryProfile.map DeliveryProfile.canonical := by
  have hratchet : ∃ r, mapPresent RatchetState.fromDict (c.ratchet.map RatchetState.toDict)
      = .ok r := by
    cases c.ratchet with
    | none => exact ⟨none, rfl⟩
    | some s => exact ⟨_, congrArg (Except.map some) (s.fromDict_toDict s.toDict.skippedKeys)⟩
  have hprofile : mapPresent (DeliveryProfile.fromB64 P)
      (c.deliveryProfile.map (DeliveryProfile.toB64 P))
        = .ok (c.deliveryProfile.map DeliveryProfile.canonical) := by
    cases c.deliveryProfile with
    | none => rfl
    | some p => exact congrArg (Except.map some) (p.fromB64_toB64 hcbor)
  have hoptional : ∀ b : Option Bytes, mapPresent b64decode (b.map b64encode) = .ok b := by
    intro b
    cases b with
    | none => rfl
    | some b => exact congrArg (Except.map some) (b64decode_b64encode b)
  obtain ⟨r, hr⟩ := hratchet
  rw [Contact.fromDict]
  simp only [Contact.toDict, hr, hprofile, hoptional, b64decode_b64encode, bind, Except.bind]
  exact ⟨_, rfl, rfl⟩

/-- The profile a contact was saved with. -/
theorem contactProfile_saveContact (hcbor : P.CborLaws) (c : Contact) :
    contactProfile P (store.saveContact P c) c.name
      = .ok (c.deliveryProfile.map DeliveryProfile.canonical) := by
  obtain ⟨c', hread, hprofile⟩ := c.fromDict_toDict hcbor
  have hfind : Table.find ContactDict.name c.name (store.saveContact P c).contacts
      = some (c.toDict P) := Table.find_upsert_self (r := c.toDict P)
  rw [contactProfile, FileLocalStore.getContact, hfind]
  simp only [mapPresent, hread, Except.map, bind, Except.bind, Option.bind_some, hprofile]
  rfl

/-- The others' profiles stay. -/
theorem contactProfile_saveContact_of_ne {c : Contact} {name : String} (h : name ≠ c.name) :
    contactProfile P (store.saveContact P c) name = contactProfile P store name := by
  have hfind : Table.find ContactDict.name name (store.saveContact P c).contacts
      = Table.find ContactDict.name name store.contacts :=
    Table.find_upsert_of_ne (r := c.toDict P) (Ne.symm h)
  rw [contactProfile, contactProfile, FileLocalStore.getContact, FileLocalStore.getContact, hfind]

/-- Saving a contact leaves the names before and after it in place. -/
theorem listContacts_saveContact (c : Contact) :
    (store.saveContact P c).listContacts
      = store.listContacts.filter (· < c.name)
        ++ (c.name :: store.listContacts.filter (c.name < ·)) := by
  have hsorted : store.listContacts.Pairwise (· ≤ ·) := pairwise_orderByText id _
  have hnames : (store.saveContact P c).contacts.map ContactDict.name
      = (store.contacts.map ContactDict.name).filter (· ≠ c.name) ++ [c.name] := by
    show ((store.contacts.filter fun d => d.name ≠ c.name) ++ [c.toDict P]).map ContactDict.name = _
    rw [List.map_append, List.filter_map]
    rfl
  have hothers : store.listContacts.filter (· ≠ c.name)
      = store.listContacts.filter (· < c.name) ++ store.listContacts.filter (c.name < ·) := by
    nth_rewrite 1 [sorted_split c.name hsorted]
    rw [List.filter_append, List.filter_append, List.filter_filter, List.filter_filter,
      List.filter_filter]
    have hbelow : ∀ x : String, (decide (x ≠ c.name) && decide (x < c.name)) = decide (x < c.name) := by
      intro x
      by_cases hx : x < c.name
      · simp [hx, hx.ne]
      · simp [hx]
    have hself : ∀ x : String, (decide (x ≠ c.name) && decide (x = c.name)) = false := by
      intro x
      simp
    have habove : ∀ x : String, (decide (x ≠ c.name) && decide (c.name < x)) = decide (c.name < x) := by
      intro x
      by_cases hx : c.name < x
      · simp [hx, hx.ne']
      · simp [hx]
    simp only [hbelow, hself, habove, List.filter_false, List.nil_append]
  rw [FileLocalStore.listContacts, hnames]
  refine (eq_orderByText ?_ ?_).symm
  · have hperm : store.listContacts.Perm (store.contacts.map ContactDict.name) :=
      orderByText_perm id _
    have hrest := hperm.filter (· ≠ c.name)
    rw [hothers] at hrest
    exact List.perm_middle.trans ((hrest.cons c.name).trans (List.perm_append_singleton _ _).symm)
  · refine List.pairwise_append.mpr ⟨hsorted.filter _, List.pairwise_cons.mpr
      ⟨fun b hb => ?_, hsorted.filter _⟩, fun a ha b hb => ?_⟩
    · have hlt : c.name < b := by simpa only [decide_eq_true_eq] using (List.mem_filter.mp hb).2
      exact hlt.le
    · have hlow : a < c.name := by simpa only [decide_eq_true_eq] using (List.mem_filter.mp ha).2
      rcases List.mem_cons.mp hb with rfl | hb
      · exact hlow.le
      · have hlt : c.name < b := by simpa only [decide_eq_true_eq] using (List.mem_filter.mp hb).2
        exact (hlow.trans hlt).le

/-! ### The table of pins -/

/-- The profile has a pinned relay at `n`. -/
def PinsAt (U : UrlTables) (n : String) (profile : DeliveryProfile) : Prop :=
  ∃ d ∈ profile.relayDescriptors, d.tlsSpkiSha256 ≠ [] ∧ endpointBaseUrl U d.url = .ok n

theorem pinsAt_iff {n : String} {profile : DeliveryProfile} :
    (∃ pin, .ok (n, pin) ∈ pinEntries U profile) ↔ PinsAt U n profile := by
  constructor
  · rintro ⟨pin, h⟩
    obtain ⟨d, hd, hbase, -⟩ := mem_keyed.mp h
    obtain ⟨hd, hpinned⟩ := List.mem_filter.mp hd
    exact ⟨d, hd, by simpa using hpinned, hbase⟩
  · rintro ⟨d, hd, hpinned, hbase⟩
    exact ⟨d.tlsSpkiSha256,
      mem_keyed.mpr ⟨d, List.mem_filter.mpr ⟨hd, by simpa using hpinned⟩, hbase, rfl⟩⟩

/-- Reading a profile back keeps its pins. -/
theorem pinEntries_canonical (profile : DeliveryProfile) :
    pinEntries U profile.canonical = pinEntries U profile := by
  rw [pinEntries, pinEntries, DeliveryProfile.canonical, List.filter_map, List.map_map]
  refine List.map_congr_left fun d _ => ?_
  show (do return (← endpointBaseUrl U (rstripSlash d.url), d.tlsSpkiSha256)) = _
  rw [endpointBaseUrl_rstripSlash]

/-- The pins of the contacts of a list. -/
def pinsOf (P : Packages) (U : UrlTables) (store : FileLocalStore) (names : List String) :
    List (Except PyExc (String × Bytes)) :=
  names.flatMap (contactEntries P (fun _ => pinEntries U) store)

theorem pinsOf_append (names names' : List String) :
    pinsOf P U store (names ++ names') = pinsOf P U store names ++ pinsOf P U store names' :=
  List.flatMap_append

theorem relayEntries_eq (z : String) :
    relayEntries P U store
      = (present (store.loadLocalProfile P)).flatMap (orRaised (pinEntries U))
        ++ (pinsOf P U store (store.listContacts.filter (· < z))
          ++ (pinsOf P U store (store.listContacts.filter (· = z))
            ++ pinsOf P U store (store.listContacts.filter (z < ·)))) := by
  have hsorted : store.listContacts.Pairwise (· ≤ ·) := pairwise_orderByText id _
  rw [← pinsOf_append, ← pinsOf_append, ← sorted_split z hsorted]
  rfl

/-- The table once a contact has published a profile. -/
theorem relayEntries_saveContact (hcbor : P.CborLaws) {z : Contact} {profile : DeliveryProfile}
    (hprofile : z.deliveryProfile = some profile) :
    relayEntries P U (store.saveContact P z)
      = (present (store.loadLocalProfile P)).flatMap (orRaised (pinEntries U))
        ++ (pinsOf P U store (store.listContacts.filter (· < z.name))
          ++ (pinEntries U profile
            ++ pinsOf P U store (store.listContacts.filter (z.name < ·)))) := by
  have hself : contactEntries P (fun _ => pinEntries U) (store.saveContact P z) z.name
      = pinEntries U profile := by
    rw [contactEntries, contactProfile_saveContact hcbor, hprofile]
    show pinEntries U profile.canonical ++ [] = _
    rw [List.append_nil, pinEntries_canonical]
  have hothers : ∀ names : List String, z.name ∉ names →
      pinsOf P U (store.saveContact P z) names = pinsOf P U store names := by
    intro names hnames
    refine List.flatMap_congr fun name hname => ?_
    rw [contactEntries, contactEntries,
      contactProfile_saveContact_of_ne fun h => hnames (h ▸ hname)]
  have hbelow : z.name ∉ store.listContacts.filter (· < z.name) := by
    intro h
    exact lt_irrefl _ (by simpa only [decide_eq_true_eq] using (List.mem_filter.mp h).2)
  have habove : z.name ∉ store.listContacts.filter (z.name < ·) := by
    intro h
    exact lt_irrefl _ (by simpa only [decide_eq_true_eq] using (List.mem_filter.mp h).2)
  have hsplit : pinsOf P U (store.saveContact P z) (store.saveContact P z).listContacts
      = pinsOf P U store (store.listContacts.filter (· < z.name))
        ++ (pinEntries U profile
          ++ pinsOf P U store (store.listContacts.filter (z.name < ·))) := by
    have hz : pinsOf P U (store.saveContact P z) [z.name] = pinEntries U profile := by
      rw [pinsOf, List.flatMap_singleton, hself]
    rw [listContacts_saveContact, ← List.singleton_append, pinsOf_append, pinsOf_append, hz,
      hothers _ hbelow, hothers _ habove]
  rw [← hsplit]
  rfl

/-- A contact with a name after `z` pins `n`. -/
def LaterPins (P : Packages) (U : UrlTables) (store : FileLocalStore) (z n : String) : Prop :=
  ∃ name ∈ store.listContacts, z < name
    ∧ ∃ profile, contactProfile P store name = .ok (some profile) ∧ PinsAt U n profile

theorem laterPins_iff {z n : String} :
    valuesOf n (values (pinsOf P U store (store.listContacts.filter (z < ·)))) ≠ []
      ↔ LaterPins P U store z n := by
  have hmem : ∀ pins : List Bytes, pins ≠ [] ↔ ∃ pin, pin ∈ pins := fun pins =>
    ⟨List.exists_mem_of_ne_nil pins, fun ⟨_, h⟩ => List.ne_nil_of_mem h⟩
  rw [hmem]
  simp only [mem_valuesOf, mem_values, LaterPins, ← pinsAt_iff]
  constructor
  · rintro ⟨pin, h⟩
    obtain ⟨name, hname, h⟩ := List.mem_flatMap.mp h
    obtain ⟨hname, hlater⟩ := List.mem_filter.mp hname
    obtain ⟨profile, hprofile, h⟩ := mem_reading.mp h
    exact ⟨name, hname, by simpa only [decide_eq_true_eq] using hlater, profile, hprofile, pin, h⟩
  · rintro ⟨name, hname, hlater, profile, hprofile, pin, h⟩
    exact ⟨pin, List.mem_flatMap.mpr ⟨name, List.mem_filter.mpr ⟨hname, decide_eq_true hlater⟩,
      mem_reading.mpr ⟨profile, hprofile, h⟩⟩⟩

/-- The profile of the contact the request is for pins `n`. -/
def PeerPins (U : UrlTables) (contact : Option Contact) (n : String) : Prop :=
  ∃ c profile, contact = some c ∧ c.deliveryProfile = some profile ∧ PinsAt U n profile

/-- The words of the contact the request is for. -/
def peerWords (U : UrlTables) (contact : Option Contact) (n : String) :
    List (Except PyExc Bytes) :=
  contactWords (fun _ profile => ownWords U n profile) contact

theorem mem_ownWords {n : String} {pin : Bytes} {profile : DeliveryProfile} :
    .ok pin ∈ ownWords U n profile
      ↔ ∃ d ∈ profile.relayDescriptors, endpointBaseUrl U d.url = .ok n
        ∧ d.tlsSpkiSha256 ≠ [] ∧ d.tlsSpkiSha256 = pin := by
  rw [ownWords, List.mem_flatMap]
  refine exists_congr fun d => and_congr_right fun _ => ?_
  rw [mem_orRaised]
  constructor
  · rintro ⟨m, hbase, h⟩
    split at h
    · rename_i hpin
      cases List.mem_singleton.mp h
      exact ⟨hpin.1 ▸ hbase, hpin.2, rfl⟩
    · cases h
  · rintro ⟨hbase, hpinned, rfl⟩
    refine ⟨n, hbase, ?_⟩
    rw [if_pos ⟨rfl, hpinned⟩]
    exact List.mem_singleton_self _

/-- A lookup that succeeds has a word of the peer exactly when the peer pins the address. -/
theorem peerWords_ne_nil {contact : Option Contact} {n : String} {pin : Bytes}
    {rest : List (Except PyExc Bytes)}
    (h : first (peerWords U contact n ++ rest) = .ok (some pin)) :
    peerWords U contact n ≠ [] ↔ PeerPins U contact n := by
  constructor
  · intro hne
    obtain ⟨w, ws, hwords⟩ := List.exists_cons_of_ne_nil hne
    have hhead : w = .ok pin := by
      rw [hwords] at h
      cases w with
      | error e => cases h
      | ok a =>
          cases h
          rfl
    have hmem : .ok pin ∈ peerWords U contact n := by
      rw [hwords, hhead]
      exact List.mem_cons_self
    obtain ⟨c, profile, hc, hprofile, hword⟩ := mem_contactWords.mp hmem
    obtain ⟨d, hd, hbase, hpinned, -⟩ := mem_ownWords.mp hword
    exact ⟨c, profile, hc, hprofile, d, hd, hpinned, hbase⟩
  · rintro ⟨c, profile, hc, hprofile, d, hd, hpinned, hbase⟩
    exact List.ne_nil_of_mem (mem_contactWords.mpr
      ⟨c, profile, hc, hprofile, mem_ownWords.mpr ⟨d, hd, hbase, hpinned, rfl⟩⟩)

/-! ### What a contact can publish -/

/-- The addresses of the relays can be parsed. -/
def Parses (U : UrlTables) (profile : DeliveryProfile) : Prop :=
  ∀ d ∈ profile.relayDescriptors, ∃ m, endpointBaseUrl U d.url = .ok m

/-- A profile with one relay, signed by its owner. -/
def publishes (P : Packages) (owner : Identity) (url : String) (pin : Bytes) : DeliveryProfile :=
  createDeliveryProfile P owner
    [{ name := owner.name, role := "mailbox", url, wrapSecret := [], tlsSpkiSha256 := pin }]
    none 3600 none none "minimal" 604800000 none [] 0

theorem verify_publishes (hsign : P.SignatureLaws) (owner : Identity) (url : String) (pin : Bytes) :
    verifyDeliveryProfile P (publishes P owner url pin) (owner.signingPublicBytes P) = .ok () := by
  have hprotocol : ¬ (publishes P owner url pin).protocol ≠ protocolV5 := fun h => h rfl
  have hlength : (owner.signingPublicBytes P).length = 32 :=
    (P.ed25519Public owner.signingPrivate).2
  rw [verifyDeliveryProfile, if_neg hprotocol, ed25519Check, dif_pos hlength]
  exact if_pos (hsign.verify_sign _ _)

theorem pinEntries_publishes {owner : Identity} {url : String} {pin : Bytes} (hpin : pin ≠ []) :
    pinEntries U (publishes P owner url pin) = [do return (← endpointBaseUrl U url, pin)] := by
  show (List.filter (fun d : RelayDescriptor => decide (d.tlsSpkiSha256 ≠ [])) [_]).map _ = _
  rw [List.filter_cons_of_pos (by simpa using hpin)]
  rfl

/-- What publishing a profile leaves of a lookup. -/
def KeepsPin (P : Packages) (U : UrlTables) (identity : Except PyExc (Option Identity))
    (store : FileLocalStore) (url : String) (contact : Option Contact) (z : Contact)
    (profile : DeliveryProfile) : Prop :=
  resolveTlsPinForUrl P U identity url
      (some (store.saveContact P { z with deliveryProfile := some profile })) contact
    = resolveTlsPinForUrl P U identity url (some store) contact

section Takeover

variable {z : Contact} {n : String} {contact : Option Contact} {pin : Bytes}

/-- The words of the peer come first, then those of the table. -/
theorem words_eq (P : Packages) (U : UrlTables) (identity : Except PyExc (Option Identity))
    (store : FileLocalStore) (contact : Option Contact) (n : String) :
    ∃ rest, words P U identity store contact n
      = peerWords U contact n ++ (assigned n (relayEntries P U store) ++ rest) := ⟨_, rfl⟩

/-- A word of the peer is the answer whatever the store says. -/
theorem first_words_of_peer (h : peerWords U contact n ≠ []) (store' : FileLocalStore) :
    first (words P U identity store' contact n) = first (words P U identity store contact n) := by
  obtain ⟨w, ws, hpeer⟩ := List.exists_cons_of_ne_nil h
  obtain ⟨rest, hwords⟩ := words_eq P U identity store contact n
  obtain ⟨rest', hwords'⟩ := words_eq P U identity store' contact n
  rw [hwords, hwords', hpeer]
  cases w <;> rfl

/-- The answer of a table without exceptions that has a value. -/
theorem first_of_valuesOf {entries : List (Except PyExc (String × Bytes))} {pins : List Bytes}
    {rest : List (Except PyExc Bytes)} (hraised : (raised entries : List (Except PyExc Bytes)) = [])
    (hvalues : ∃ before, valuesOf n (values entries) = before ++ pins) (hne : pins ≠ []) :
    first (assigned n entries ++ rest) = .ok pins.getLast? := by
  obtain ⟨before, hvalues⟩ := hvalues
  rw [assigned, hraised, hvalues, List.nil_append, List.reverse_append, List.map_append,
    List.append_assoc, ← List.head?_reverse]
  obtain ⟨a, as, hrev⟩ := List.exists_cons_of_ne_nil (mt List.reverse_eq_nil_iff.mp hne)
  rw [hrev]
  rfl

/-- Where the peer has no word, an address that does not parse makes the lookup raise. -/
theorem first_words_of_error (hpeer : peerWords U contact n = []) {e : PyExc}
    (h : .error e ∈ relayEntries P U store) :
    ∃ e', first (words P U identity store contact n) = .error e' := by
  obtain ⟨rest, hwords⟩ := words_eq P U identity store contact n
  rw [hwords, hpeer, List.nil_append]
  exact first_of_error h rest

/-- The parts of a table without exceptions have none. -/
theorem raised_relayEntries (hpeer : peerWords U contact n = [])
    (hpin : first (words P U identity store contact n) = .ok (some pin)) :
    (raised (relayEntries P U store) : List (Except PyExc Bytes)) = [] := by
  obtain ⟨rest, hwords⟩ := words_eq P U identity store contact n
  rw [hwords, hpeer, List.nil_append] at hpin
  exact raised_of_first hpin

/-- Publishing a profile whose addresses parse adds no exception. -/
theorem raised_saveContact (hcbor : P.CborLaws) {profile : DeliveryProfile}
    (hprofile : z.deliveryProfile = some profile) (hparses : Parses U profile)
    (hraised : (raised (relayEntries P U store) : List (Except PyExc Bytes)) = []) :
    (raised (relayEntries P U (store.saveContact P z)) : List (Except PyExc Bytes)) = [] := by
  rw [relayEntries_eq z.name] at hraised
  simp only [raised_append, List.append_eq_nil_iff] at hraised
  obtain ⟨hown, hbelow, -, habove⟩ := hraised
  have hself : (raised (pinEntries U profile) : List (Except PyExc Bytes)) = [] := by
    refine raised_eq_nil fun e he => ?_
    obtain ⟨d, hd, hentry⟩ := List.mem_map.mp he
    obtain ⟨m, hm⟩ := hparses d (List.mem_filter.mp hd).1
    rw [hm] at hentry
    cases hentry
  rw [relayEntries_saveContact hcbor hprofile]
  simp only [raised_append, hown, hbelow, hself, habove, List.append_nil]

/-- Without a later word the published pin is the answer. -/
theorem first_words_taken (hcbor : P.CborLaws) {owner : Identity} {url : String} {pin' : Bytes}
    (hpeer : peerWords U contact n = []) (hbase : endpointBaseUrl U url = .ok n)
    (hprofile : z.deliveryProfile = some (publishes P owner url pin')) (hpin' : pin' ≠ [])
    (hraised : (raised (relayEntries P U (store.saveContact P z)) : List (Except PyExc Bytes)) = [])
    (hlater : ¬ LaterPins P U store z.name n) :
    first (words P U identity (store.saveContact P z) contact n) = .ok (some pin') := by
  obtain ⟨rest, hwords⟩ := words_eq P U identity (store.saveContact P z) contact n
  have hnone : valuesOf n (values (pinsOf P U store (store.listContacts.filter (z.name < ·)))) = [] :=
    not_not.mp (mt laterPins_iff.mp hlater)
  have hself : valuesOf n (values (pinEntries U (publishes P owner url pin'))) = [pin'] := by
    rw [pinEntries_publishes hpin', hbase]
    simp [bind, Except.bind, pure, Except.pure, values, valuesOf]
  rw [hwords, hpeer, List.nil_append]
  show first _ = .ok [pin'].getLast?
  refine first_of_valuesOf hraised ?_ (List.cons_ne_nil _ _)
  rw [relayEntries_saveContact hcbor hprofile]
  simp only [values_append, valuesOf_append, hnone, hself, List.append_nil]
  exact ⟨_, (List.append_assoc _ _ _).symm⟩

/-- A later word is the answer before and after. -/
theorem first_words_later (hcbor : P.CborLaws) {profile : DeliveryProfile}
    (hpeer : peerWords U contact n = []) (hprofile : z.deliveryProfile = some profile)
    (hraised : (raised (relayEntries P U store) : List (Except PyExc Bytes)) = [])
    (hraised' : (raised (relayEntries P U (store.saveContact P z)) : List (Except PyExc Bytes)) = [])
    (hlater : LaterPins P U store z.name n) :
    first (words P U identity (store.saveContact P z) contact n)
      = first (words P U identity store contact n) := by
  obtain ⟨rest, hwords⟩ := words_eq P U identity store contact n
  obtain ⟨rest', hwords'⟩ := words_eq P U identity (store.saveContact P z) contact n
  have hne := laterPins_iff.mpr hlater
  have hbefore : ∃ before, valuesOf n (values (relayEntries P U store)) = before
      ++ valuesOf n (values (pinsOf P U store (store.listContacts.filter (z.name < ·)))) := by
    rw [relayEntries_eq z.name]
    simp only [values_append, valuesOf_append, ← List.append_assoc]
    exact ⟨_, rfl⟩
  have hafter : ∃ before, valuesOf n (values (relayEntries P U (store.saveContact P z))) = before
      ++ valuesOf n (values (pinsOf P U store (store.listContacts.filter (z.name < ·)))) := by
    rw [relayEntries_saveContact hcbor hprofile]
    simp only [values_append, valuesOf_append, ← List.append_assoc]
    exact ⟨_, rfl⟩
  rw [hwords, hwords', hpeer, List.nil_append, List.nil_append,
    first_of_valuesOf hraised hbefore hne, first_of_valuesOf hraised' hafter hne]

/-- **When a pin survives what a contact publishes.** Whatever signed profile the contact
publishes, the lookup of an address that has a pin stays the same exactly when the profile of
the contact the request is for pins the address. When only profiles whose addresses parse are
published, it is also enough that a contact with a later name pins the address. -/
theorem keepsPin_iff (hcbor : P.CborLaws) (hsign : P.SignatureLaws) {owner : Identity}
    {url : String} (hkey : z.signingPublic = owner.signingPublicBytes P)
    (hbase : endpointBaseUrl U url = .ok n)
    (hpin : resolveTlsPinForUrl P U identity url (some store) contact = .ok (some pin)) :
    ((∀ profile, verifyDeliveryProfile P profile z.signingPublic = .ok () →
          KeepsPin P U identity store url contact z profile)
        ↔ PeerPins U contact n)
      ∧ ((∀ profile, verifyDeliveryProfile P profile z.signingPublic = .ok () →
            Parses U profile → KeepsPin P U identity store url contact z profile)
        ↔ PeerPins U contact n ∨ LaterPins P U store z.name n) := by
  have hbefore : first (words P U identity store contact n) = .ok (some pin) := by
    rw [resolveTlsPinForUrl_eq, hbase] at hpin
    exact hpin
  have hkeeps : ∀ profile, KeepsPin P U identity store url contact z profile
      ↔ first (words P U identity
          (store.saveContact P { z with deliveryProfile := some profile }) contact n)
        = .ok (some pin) := by
    intro profile
    rw [KeepsPin, resolveTlsPinForUrl_eq, resolveTlsPinForUrl_eq, hbase]
    show _ = first _ ↔ _
    rw [hbefore]
  have hsome := hbefore
  obtain ⟨rest, hwords⟩ := words_eq P U identity store contact n
  rw [hwords] at hsome
  rw [← peerWords_ne_nil hsome]
  simp only [hkeeps]
  by_cases hpeer : peerWords U contact n = []
  · have hraised := raised_relayEntries hpeer hbefore
    have hverify : ∀ u pin', verifyDeliveryProfile P (publishes P owner u pin') z.signingPublic
        = .ok () := by
      intro u pin'
      rw [hkey]
      exact verify_publishes hsign owner u pin'
    constructor
    · -- a profile with an address that does not parse
      refine iff_of_false (fun hall => ?_) (fun hne => hne hpeer)
      have hafter := hall (publishes P owner "https://[" [1]) (hverify _ _)
      have herror : .error (.valueError "Invalid URL") ∈ relayEntries P U (store.saveContact P
          { z with deliveryProfile := some (publishes P owner "https://[" [1]) }) := by
        rw [relayEntries_saveContact hcbor rfl, pinEntries_publishes (List.cons_ne_nil _ _)]
        have hbad : endpointBaseUrl U "https://[" = .error (.valueError "Invalid URL") := rfl
        rw [hbad]
        simp [bind, Except.bind]
      obtain ⟨e', he'⟩ := first_words_of_error hpeer herror
      rw [he'] at hafter
      cases hafter
    · constructor
      · intro hall
        refine Or.inr (by_contra fun hlater => ?_)
        have hne : pin ++ [0] ≠ [] := List.append_ne_nil_of_right_ne_nil _ (List.cons_ne_nil _ _)
        have hparses : Parses U (publishes P owner url (pin ++ [0])) := by
          intro d hd
          cases List.mem_singleton.mp hd
          exact ⟨n, hbase⟩
        have hafter := hall (publishes P owner url (pin ++ [0])) (hverify _ _) hparses
        have htaken := hafter.symm.trans (first_words_taken
          (z := { z with deliveryProfile := some (publishes P owner url (pin ++ [0])) }) hcbor hpeer
          hbase rfl hne (raised_saveContact hcbor rfl hparses hraised) hlater)
        simp at htaken
      · rintro (hne | hlater) profile - hparses
        · exact absurd hpeer hne
        · exact (first_words_later (z := { z with deliveryProfile := some profile }) hcbor hpeer
            rfl hraised (raised_saveContact hcbor rfl hparses hraised) hlater).trans hbefore
  · constructor
    · exact iff_of_true (fun profile _ => (first_words_of_peer hpeer _).trans hbefore) hpeer
    · exact iff_of_true (fun profile _ _ => (first_words_of_peer hpeer _).trans hbefore)
        (Or.inl hpeer)

end Takeover

namespace TakeoverSample

open Ends.Sample (packages)
open MovedSample

theorem cborLaws : packages.CborLaws := codedPackages_cborLaws plainPackages

theorem signatureLaws : packages.SignatureLaws := by
  refine ⟨fun key data => ?_⟩
  simp [packages, codedPackages, plainPackages]

def thief : Identity :=
  { name := "mallory"
    signingPrivate := BytesN.fill 32 3
    agreementPrivate := BytesN.fill 32 4 }

/-- Mallory, as Alice has stored her. -/
def mallory : Contact :=
  { Ends.Sample.contact "mallory" profile with
    signingPublic := thief.signingPublicBytes packages }

/-- Bob, whose profile lists the relay, too. -/
def bob : Contact := Ends.Sample.contact "bob" profile

/-- Mallory lists the address of Carol's relay with a key of her own. -/
def takeover : DeliveryProfile := publishes packages thief relay.url (List.replicate 32 9)

theorem pinned (contact : Option Contact) (h : contact = none ∨ contact = some bob) :
    resolveTlsPinForUrl packages tables (.ok none) relay.url (some (alice relay.url)) contact
      = .ok (some relay.tlsSpkiSha256) := by
  rw [resolveTlsPinForUrl_eq, base_relay]
  rcases h with rfl | rfl
  · refine first_eq_some.mpr ?_
    rw [words_alice, if_pos rfl]
  · have hown : ownWords tables relay.url profile = [.ok relay.tlsSpkiSha256] := by
      have hpinned : relay.url = relay.url ∧ relay.tlsSpkiSha256 ≠ [] := ⟨rfl, by decide⟩
      show orRaised _ (endpointBaseUrl tables relay.url) ++ [] = _
      rw [base_relay, orRaised, if_pos hpinned]
      rfl
    show first (ownWords tables relay.url profile ++ _) = _
    rw [hown]
    rfl

end TakeoverSample

open TakeoverSample MovedSample in
/-- A request for Bob keeps the pin that his own profile names. -/
theorem own_word_kept :
    KeepsPin Ends.Sample.packages tables (.ok none) (alice relay.url) relay.url (some bob) mallory
      takeover := by
  have hkey : mallory.signingPublic = thief.signingPublicBytes Ends.Sample.packages := rfl
  have hpeer : PeerPins tables (some bob) relay.url :=
    ⟨bob, profile, rfl, rfl, relay, List.mem_singleton_self _, by decide, base_relay⟩
  have hiff := keepsPin_iff cborLaws signatureLaws hkey base_relay
    (pinned (some bob) (Or.inr rfl))
  exact hiff.1.mpr hpeer takeover (verify_publishes signatureLaws thief _ _)

open TakeoverSample MovedSample in
/-- Alice's own profile pins Carol's relay; after Mallory's new profile every request to the
relay expects Mallory's key. -/
theorem pin_taken_over :
    (alice relay.url).loadLocalProfile Ends.Sample.packages = .ok (some profile)
      ∧ relay ∈ profile.relayDescriptors
      ∧ resolveTlsPinForUrl Ends.Sample.packages tables (.ok none) relay.url
          (some (alice relay.url)) none = .ok (some relay.tlsSpkiSha256)
      ∧ verifyDeliveryProfile Ends.Sample.packages takeover mallory.signingPublic = .ok ()
      ∧ resolveTlsPinForUrl Ends.Sample.packages tables (.ok none) relay.url
          (some ((alice relay.url).saveContact Ends.Sample.packages
            { mallory with deliveryProfile := some takeover })) none
        = .ok (some (List.replicate 32 9))
      ∧ ¬ KeepsPin Ends.Sample.packages tables (.ok none) (alice relay.url) relay.url none mallory
          takeover := by
  have hbefore := pinned none (Or.inl rfl)
  have hafter : resolveTlsPinForUrl Ends.Sample.packages tables (.ok none) relay.url
      (some ((alice relay.url).saveContact Ends.Sample.packages
        { mallory with deliveryProfile := some takeover })) none
      = .ok (some (List.replicate 32 9)) := by
    have hfirst := hbefore
    rw [resolveTlsPinForUrl_eq, base_relay] at hfirst ⊢
    have hprofile : some takeover
        = some (publishes Ends.Sample.packages thief relay.url (List.replicate 32 9)) := rfl
    refine first_words_taken (z := { mallory with deliveryProfile := some takeover }) cborLaws rfl
      base_relay hprofile (by decide)
      (raised_saveContact cborLaws rfl ?_ (raised_relayEntries rfl hfirst)) ?_
    · intro d hd
      cases List.mem_singleton.mp hd
      exact ⟨_, base_relay⟩
    · rintro ⟨name, hname, -⟩
      cases hname
  refine ⟨loadLocalProfile_alice _, List.mem_singleton_self _, hbefore,
    verify_publishes signatureLaws thief _ _, hafter, fun hkeeps => ?_⟩
  rw [KeepsPin, hafter, hbefore] at hkeeps
  revert hkeeps
  decide

end Yakr
