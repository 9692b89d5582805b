import Yakr.Cli.Resends
import Yakr.Cli.Restarts

/-!
# Yakr.Cli.ProfileVersions

**Do the stored profiles of a peer roll back?** A profile that arrives as a message replaces the
stored one only when `accept_delivery_profile_update` lets it. A profile that a direct hint serves
is not asked: `refresh_contact_profile` stores whatever verifies in place of an expired profile.
Besides, a fetch writes the profile it has loaded over one that was refreshed while it sent a
receipt. Where neither happens, the version of a stored profile never falls in any run, nor does
its content change under one version (`profiles_advance`).
-/

namespace Yakr

open Lib Effect

variable {P : Packages}

/-! ### What a profile says -/

/-- What a profile comes down to: the same for all texts of one profile. -/
structure ProfileContent where
  version : Int
  validUntil : Int
  bytes : Bytes

def DeliveryProfile.content (P : Packages) (p : DeliveryProfile) : ProfileContent :=
  { version := p.version, validUntil := p.validUntil, bytes := p.toBytes P }

theorem DeliveryProfile.content_canonical {p : DeliveryProfile} (h : StrippedUrls p) :
    p.canonical.content P = p.content P := by
  rw [content, content, toBytes_canonical h]
  rfl

/-- What is written alike says the same. -/
theorem DeliveryProfile.content_of_toBytes (hcbor : P.CborLaws) {p q : DeliveryProfile}
    (hp : StrippedUrls p) (hq : StrippedUrls q) (h : q.toBytes P = p.toBytes P) :
    q.content P = p.content P := by
  have hcanonical : q.canonical = p.canonical := by
    have hread := q.fromBytes_toBytes hcbor
    rw [h, p.fromBytes_toBytes hcbor] at hread
    exact (Except.ok.inj hread).symm
  rw [← content_canonical hq, hcanonical, content_canonical hp]

/-- `c'` may stand where `c` stood: it is the same, or a later version that had not expired at one
of the times. -/
def ProfileContent.Precedes (times : Int → Prop) (c c' : ProfileContent) : Prop :=
  c' = c ∨ c.version < c'.version ∧ ∃ now, times now ∧ now ≤ c'.validUntil

theorem ProfileContent.Precedes.trans {times : Int → Prop} {c c' c'' : ProfileContent}
    (h : c.Precedes times c') (h' : c'.Precedes times c'') : c.Precedes times c'' := by
  rcases h' with rfl | ⟨hlater', hvalid'⟩
  · exact h
  · rcases h with rfl | ⟨hlater, -⟩
    · exact Or.inr ⟨hlater', hvalid'⟩
    · exact Or.inr ⟨hlater.trans hlater', hvalid'⟩

/-- What `accept_delivery_profile_update` lets in place of a profile. -/
theorem precedes_of_accept (hcbor : P.CborLaws) {p q : DeliveryProfile} {now : Int}
    {times : Int → Prop} (htimes : times now) (hp : StrippedUrls p) (hq : StrippedUrls q)
    (h : acceptDeliveryProfileUpdate P (some p) q now = .ok ()) :
    (p.content P).Precedes times (q.content P) := by
  unfold acceptDeliveryProfileUpdate at h
  split_ifs at h with hexpired
  dsimp only at h
  split_ifs at h with hrollback hconflict
  have hvalid : now ≤ q.validUntil := by
    simpa [profileIsExpired] using hexpired
  by_cases hsame : q.version = p.version
  · have hbytes : q.toBytes P = p.toBytes P := by
      by_contra hne
      exact hconflict ⟨hsame, hne⟩
    exact Or.inl (DeliveryProfile.content_of_toBytes hcbor hp hq hbytes)
  · refine Or.inr ⟨?_, now, htimes, hvalid⟩
    show p.version < q.version
    omega

theorem not_expired_of_accept {current : Option DeliveryProfile} {q : DeliveryProfile} {now : Int}
    (h : acceptDeliveryProfileUpdate P current q now = .ok ()) :
    profileIsExpired q now = false := by
  unfold acceptDeliveryProfileUpdate at h
  split_ifs at h with hexpired
  exact Bool.not_eq_true _ ▸ hexpired

/-! ### The stored profiles -/

namespace FileLocalStore

variable {store store' : FileLocalStore} {name : String} {c : Contact}

/-- The profile that is stored for a contact. -/
def profileOf (P : Packages) (store : FileLocalStore) (name : String) : Option DeliveryProfile :=
  ((Table.find ContactDict.name name store.contacts).bind ContactDict.deliveryProfile).bind
    fun text => (DeliveryProfile.fromB64 P text).toOption

/-- What the stored profile says. -/
def contentOf (P : Packages) (store : FileLocalStore) (name : String) : Option ProfileContent :=
  (store.profileOf P name).map (DeliveryProfile.content P)

/-- The signing key that is stored for a contact. -/
def signingKeyOf (store : FileLocalStore) (name : String) : Option Bytes :=
  (Table.find ContactDict.name name store.contacts).bind fun d =>
    (b64decode d.signingPublic).toOption

theorem profileOf_stripped {p : DeliveryProfile} (h : store.profileOf P name = some p) :
    StrippedUrls p := by
  obtain ⟨text, -, hread⟩ := Option.bind_eq_some_iff.mp h
  cases hprofile : DeliveryProfile.fromB64 P text with
  | error e =>
      rw [hprofile] at hread
      cases hread
  | ok q =>
      rw [hprofile] at hread
      obtain rfl := Option.some.inj hread
      exact DeliveryProfile.fromB64_strippedUrls hprofile

theorem signingKeyOf_saveContact (store : FileLocalStore) (c : Contact) (name : String) :
    (store.saveContact P c).signingKeyOf name
      = if c.name = name then some c.signingPublic else store.signingKeyOf name := by
  rw [signingKeyOf, find_saveContact]
  split
  · show (b64decode (b64encode c.signingPublic)).toOption = _
    rw [b64decode_b64encode]
    rfl
  · rfl

/-- A contact object with its profile as it was read. -/
def Stripped (c : Contact) : Prop := ∀ p, c.deliveryProfile = some p → StrippedUrls p

theorem profileOf_saveContact (hcbor : P.CborLaws) (store : FileLocalStore) (c : Contact)
    (name : String) :
    (store.saveContact P c).profileOf P name
      = if c.name = name then c.deliveryProfile.map DeliveryProfile.canonical
        else store.profileOf P name := by
  rw [profileOf, find_saveContact]
  split
  · show ((c.deliveryProfile.map (DeliveryProfile.toB64 P)).bind _) = _
    cases c.deliveryProfile with
    | none => rfl
    | some p =>
        show (DeliveryProfile.fromB64 P (p.toB64 P)).toOption = some p.canonical
        rw [p.fromB64_toB64 hcbor]
        rfl
  · rfl

theorem contentOf_saveContact (hcbor : P.CborLaws) (store : FileLocalStore) (hc : Stripped c)
    (name : String) :
    (store.saveContact P c).contentOf P name
      = if c.name = name then c.deliveryProfile.map (DeliveryProfile.content P)
        else store.contentOf P name := by
  rw [contentOf, profileOf_saveContact hcbor]
  split
  · cases hprofile : c.deliveryProfile with
    | none => rfl
    | some p => exact congrArg some (DeliveryProfile.content_canonical (hc p hprofile))
  · rfl

/-- The row of the contact has the key of the object and says what its profile says. -/
structure InRow (P : Packages) (store : FileLocalStore) (c : Contact) : Prop where
  key : store.signingKeyOf c.name = some c.signingPublic
  content : store.contentOf P c.name = c.deliveryProfile.map (DeliveryProfile.content P)
  stripped : Stripped c

theorem inRow_of_getContact (h : store.getContact P name = .ok (some c)) :
    c.name = name ∧ InRow P store c := by
  obtain ⟨d, hfind, hload, rfl⟩ := getContact_ok h
  obtain ⟨hprofile, hkey⟩ : mapPresent (DeliveryProfile.fromB64 P) d.deliveryProfile
        = .ok c.deliveryProfile ∧ b64decode d.signingPublic = .ok c.signingPublic := by
    unfold Contact.fromDict at hload
    obtain ⟨ratchet, -, hload⟩ := bind_ok.mp hload
    obtain ⟨deliveryProfile, hprofile, hload⟩ := bind_ok.mp hload
    obtain ⟨contactId, -, hload⟩ := bind_ok.mp hload
    obtain ⟨transcriptHash, -, hload⟩ := bind_ok.mp hload
    obtain ⟨signingPublic, hkey, hload⟩ := bind_ok.mp hload
    obtain ⟨agreementPublic, -, hload⟩ := bind_ok.mp hload
    obtain ⟨masterSecret, -, hload⟩ := bind_ok.mp hload
    obtain rfl := Except.ok.inj hload
    exact ⟨hprofile, hkey⟩
  have hstored : store.profileOf P c.name = c.deliveryProfile := by
    rw [profileOf, hfind]
    cases htext : d.deliveryProfile with
    | none =>
        rw [htext, mapPresent] at hprofile
        rw [Option.bind_some, htext]
        exact Except.ok.inj hprofile
    | some text =>
        rw [htext, mapPresent] at hprofile
        cases hread : DeliveryProfile.fromB64 P text with
        | error e =>
            rw [hread] at hprofile
            cases hprofile
        | ok p =>
            rw [hread] at hprofile
            rw [Option.bind_some, htext, Option.bind_some, hread]
            exact Except.ok.inj hprofile
  refine ⟨rfl, ⟨?_, congrArg _ hstored, fun p hp => profileOf_stripped (hstored.trans hp)⟩⟩
  rw [signingKeyOf, hfind, Option.bind_some, hkey]
  rfl

/-- An object that is saved is in its row. -/
theorem inRow_of_saved (hcbor : P.CborLaws) (hc : Stripped c)
    (h : store'.contacts = (store.saveContact P c).contacts) : InRow P store' c := by
  have hkey : store'.signingKeyOf c.name = (store.saveContact P c).signingKeyOf c.name := by
    rw [signingKeyOf, signingKeyOf, h]
  have hcontent : store'.contentOf P c.name = (store.saveContact P c).contentOf P c.name := by
    rw [contentOf, contentOf, profileOf, profileOf, h]
  refine ⟨?_, ?_, hc⟩
  · rw [hkey, signingKeyOf_saveContact, if_pos rfl]
  · rw [hcontent, contentOf_saveContact hcbor store hc, if_pos rfl]

/-- The contacts have their keys and say what they said. -/
structure SameProfiles (P : Packages) (store store' : FileLocalStore) : Prop where
  key : ∀ name, store'.signingKeyOf name = store.signingKeyOf name
  content : ∀ name, store'.contentOf P name = store.contentOf P name

theorem SameProfiles.of_contacts (h : store'.contacts = store.contacts) :
    SameProfiles P store store' :=
  ⟨fun name => by rw [signingKeyOf, signingKeyOf, h],
    fun name => by rw [contentOf, contentOf, profileOf, profileOf, h]⟩

/-- Saving an object that is in its row changes nothing of this. -/
theorem SameProfiles.of_saved (hcbor : P.CborLaws) (hin : InRow P store c)
    (h : store'.contacts = (store.saveContact P c).contacts) : SameProfiles P store store' := by
  have hsaved : SameProfiles P (store.saveContact P c) store' := .of_contacts h
  constructor
  · intro name
    rw [hsaved.key, signingKeyOf_saveContact]
    split
    · rename_i hname
      rw [← hname, hin.key]
    · rfl
  · intro name
    rw [hsaved.content, contentOf_saveContact hcbor store hin.stripped]
    split
    · rename_i hname
      rw [← hname, hin.content]
    · rfl

theorem InRow.of_same (hsame : SameProfiles P store store') {c' : Contact}
    (hin : InRow P store c) (hname : c'.name = c.name) (hkey : c'.signingPublic = c.signingPublic)
    (hprofile : c'.deliveryProfile = c.deliveryProfile) : InRow P store' c' := by
  refine ⟨?_, ?_, fun p hp => hin.stripped p (hprofile ▸ hp)⟩
  · rw [hname, hsame.key, hin.key, hkey]
  · rw [hname, hsame.content, hin.content, hprofile]

end FileLocalStore

/-! ### The commands that send -/

section Sending

open FileLocalStore

variable {outside : Outside} {identity : Identity} {name : String} {names : String → Prop}
  {marks : Prop} {start store store' : FileLocalStore}
  {h h' : Handling} {w w' : World}

theorem Served.stripped {signingPublic : Bytes} {q : DeliveryProfile}
    (h : Served P outside signingPublic q) : StrippedUrls q := by
  obtain ⟨n, hint, status, body, -, hprofile⟩ := h
  unfold profileOfAnswer at hprofile
  split at hprofile
  · cases hprofile
  · obtain ⟨value, -, hprofile⟩ := bind_ok.mp hprofile
    cases value with
    | str text =>
        obtain ⟨q', hread, hprofile⟩ := bind_ok.mp hprofile
        obtain ⟨u, -, hprofile⟩ := bind_ok.mp hprofile
        cases hprofile
        exact DeliveryProfile.fromB64_strippedUrls hread
    | _ => cases hprofile

/-- A direct hint may serve `q` in place of the profile that is stored for the contact: that one has
expired at one of the times of the command. -/
def Refreshes (P : Packages) (outside : Outside) (store : FileLocalStore) (name : String)
    (q : DeliveryProfile) : Prop :=
  ∃ n key p, store.signingKeyOf name = some key ∧ store.profileOf P name = some p
    ∧ profileIsExpired p (outside.draws n).now = true ∧ Served P outside key q

/-- What may be served would also be let in as an update, at every time of the command. -/
def ServesUpdates (P : Packages) (outside : Outside) (store : FileLocalStore) : Prop :=
  ∀ name p q, store.profileOf P name = some p → Refreshes P outside store name q →
    ∀ n, acceptDeliveryProfileUpdate P (some p) q (outside.draws n).now = .ok ()

/-- In what was the store `start` profiles have at most been refreshed. -/
structure Advanced (P : Packages) (outside : Outside) (start store : FileLocalStore) : Prop where
  key : ∀ name, store.signingKeyOf name = start.signingKeyOf name
  content : ∀ name, store.contentOf P name = start.contentOf P name
    ∨ ∃ q, Refreshes P outside start name q ∧ store.contentOf P name = some (q.content P)

theorem Advanced.refl (start : FileLocalStore) : Advanced P outside start start :=
  ⟨fun _ => rfl, fun _ => Or.inl rfl⟩

theorem Advanced.of_same (h : Advanced P outside start store)
    (hsame : SameProfiles P store store') : Advanced P outside start store' := by
  refine ⟨fun name => (hsame.key name).trans (h.key name), fun name => ?_⟩
  rw [hsame.content]
  exact h.content name

/-- What a refresh may put in the place of the object's profile may be served in the place of the
one the command has started with: what is served itself has not expired yet. -/
theorem Advanced.refreshes (hserves : ServesUpdates P outside start)
    (h : Advanced P outside start store) {c : Contact} (hin : InRow P store c)
    {old q : DeliveryProfile} (hold : c.deliveryProfile = some old) {n : Nat}
    (hexpired : profileIsExpired old (outside.draws n).now = true)
    (hserved : Served P outside c.signingPublic q) : Refreshes P outside start c.name q := by
  have hkey : start.signingKeyOf c.name = some c.signingPublic := by rw [← h.key, hin.key]
  have hrow : store.contentOf P c.name = some (old.content P) := by
    rw [hin.content, hold]
    rfl
  rcases h.content c.name with hsame | ⟨q', hrefreshes, hcontent⟩
  · obtain ⟨p, hp, hcontent⟩ := Option.map_eq_some_iff.mp (hsame.symm.trans hrow)
    have huntil : p.validUntil = old.validUntil := congrArg ProfileContent.validUntil hcontent
    refine ⟨n, _, p, hkey, hp, ?_, hserved⟩
    rw [profileIsExpired, huntil]
    exact hexpired
  · obtain ⟨m, key, p, hkey', hp, hexpired', hserved'⟩ := hrefreshes
    have haccept := hserves c.name p q' hp ⟨m, key, p, hkey', hp, hexpired', hserved'⟩ n
    have huntil : q'.validUntil = old.validUntil :=
      congrArg ProfileContent.validUntil (Option.some.inj (hcontent.symm.trans hrow))
    have hvalid := not_expired_of_accept haccept
    rw [profileIsExpired, huntil] at hvalid
    rw [profileIsExpired, hvalid] at hexpired
    cases hexpired

/-- The object is in its row, and its store is advanced. -/
def Handles (P : Packages) (outside : Outside) (start : FileLocalStore) (h : Handling) : Prop :=
  InRow P h.world.store h.contact ∧ Advanced P outside start h.world.store

theorem Handles.of_same (hh : Handles P outside start h)
    (hcontacts : h'.world.store.contacts = h.world.store.contacts)
    (hname : h'.contact.name = h.contact.name)
    (hkey : h'.contact.signingPublic = h.contact.signingPublic)
    (hprofile : h'.contact.deliveryProfile = h.contact.deliveryProfile) :
    Handles P outside start h' :=
  have hsame : SameProfiles P h.world.store h'.world.store := .of_contacts hcontacts
  ⟨hh.1.of_same hsame hname hkey hprofile, hh.2.of_same hsame⟩

theorem Handles.of_saved (hcbor : P.CborLaws) (hh : Handles P outside start h)
    (hcontact : h'.contact = h.contact)
    (hcontacts : h'.world.store.contacts = (h.world.store.saveContact P h.contact).contacts) :
    Handles P outside start h' := by
  have hsame : SameProfiles P h.world.store h'.world.store := .of_saved hcbor hh.1 hcontacts
  refine ⟨?_, hh.2.of_same hsame⟩
  rw [hcontact]
  exact hh.1.of_same hsame rfl rfl rfl

/-- **One step of a command that sends.** -/
theorem SendStep.handles (hcbor : P.CborLaws) (hserves : ServesUpdates P outside start)
    (hstep : SendStep P outside identity name marks h h') (hh : Handles P outside start h) :
    Handles P outside start h' := by
  cases hstep with
  | delivery n hdelivery =>
      cases hdelivery with
      | exchanged exchanges hposted => exact hh.of_same rfl rfl rfl rfl
      | refreshed hold hexpired hserved =>
          rename_i old q
          have hrefreshes := hh.2.refreshes hserves hh.1 hold hexpired hserved
          let contact : Contact := { h.contact with deliveryProfile := some q }
          have hstripped : Stripped contact := by
            intro p hp
            obtain rfl := Option.some.inj hp
            exact hserved.stripped
          have hrow : InRow P (h.world.store.saveContact P contact) contact :=
            inRow_of_saved hcbor hstripped rfl
          refine ⟨hrow, fun name => ?_, fun name => ?_⟩
          · show (h.world.store.saveContact P contact).signingKeyOf name = _
            rw [signingKeyOf_saveContact]
            split
            · rename_i hname
              rw [← hname, ← hh.2.key]
              exact hh.1.key.symm
            · exact hh.2.key name
          · show (h.world.store.saveContact P contact).contentOf P name = _
              ∨ ∃ q, _ ∧ (h.world.store.saveContact P contact).contentOf P name = _
            rw [contentOf_saveContact hcbor _ hstripped]
            split
            · rename_i hname
              exact Or.inr ⟨q, hname ▸ hrefreshes, rfl⟩
            · exact hh.2.content name
  | drew encryptions => exact hh.of_same rfl rfl rfl rfl
  | sealed ratchet nextSendSeq => exact hh.of_same rfl rfl rfl rfl
  | saved => exact hh.of_saved hcbor rfl rfl
  | committed seq body now hsealed => exact hh.of_saved hcbor rfl rfl
  | marked msgId hmarks => exact hh.of_same rfl rfl rfl rfl
  | noted hsave =>
      obtain ⟨rows, rfl⟩ := saveProfileAckPending_rows hsave
      exact hh.of_same rfl rfl rfl rfl
  | receipted hseals hanswered => exact hh.of_same rfl rfl rfl rfl
  | queued deliveredId route now => exact hh.of_same rfl rfl rfl rfl

theorem handles_of_steps (hcbor : P.CborLaws) (hserves : ServesUpdates P outside start)
    (hsteps : Relation.ReflTransGen (SendStep P outside identity name marks) h h')
    (hh : Handles P outside start h) : Handles P outside start h' := by
  induction hsteps with
  | refl => exact hh
  | tail _ hstep ih => exact hstep.handles hcbor hserves ih

/-- A command that sends. -/
theorem WorldStep.advanced (hcbor : P.CborLaws) (hserves : ServesUpdates P outside start)
    (hstep : WorldStep P outside identity names marks w w') (hw : Advanced P outside start w.store) :
    Advanced P outside start w'.store := by
  cases hstep with
  | drew encryptions => exact hw
  | handled hname hcontact hsteps =>
      exact (handles_of_steps hcbor hserves hsteps ⟨(inRow_of_getContact hcontact).2, hw⟩).2
  | localProfile profile => exact hw.of_same (.of_contacts rfl)
  | presence hsave => exact hw.of_same (.of_contacts (savePresence_contacts hsave))

theorem advanced_of_steps {α : Type} {m : EStateM PyExc World α} (hcbor : P.CborLaws)
    (hm : Steps (WorldStep P outside identity names marks) m) (w : World)
    (hserves : ServesUpdates P outside w.store) :
    Advanced P outside w.store (after (m.run w)).store := by
  have hsteps := hm w
  generalize after (m.run w) = w' at hsteps ⊢
  induction hsteps with
  | refl => exact .refl _
  | tail _ hstep ih => exact hstep.advanced hcbor hserves ih

/-- Where nothing may be refreshed, nothing changes. -/
theorem sameProfiles_of_steps {α : Type} {m : EStateM PyExc World α} (hcbor : P.CborLaws)
    (hm : Steps (WorldStep P outside identity names marks) m) (w : World)
    (hnone : ∀ name q, ¬ Refreshes P outside w.store name q) :
    SameProfiles P w.store (after (m.run w)).store := by
  have hadvanced := advanced_of_steps hcbor hm w fun name p q _ hq => absurd hq (hnone name q)
  refine ⟨hadvanced.key, fun name => ?_⟩
  rcases hadvanced.content name with hsame | ⟨q, hrefreshes, -⟩
  · exact hsame
  · exact absurd hrefreshes (hnone name q)

theorem Refreshes.of_same (hsame : SameProfiles P store store') {name : String}
    {q : DeliveryProfile} (h : Refreshes P outside store' name q) :
    Refreshes P outside store name q := by
  obtain ⟨n, key, p', hkey, hp', hexpired, hserved⟩ := h
  have hcontent : store.contentOf P name = some (p'.content P) := by
    rw [← hsame.content, contentOf, hp']
    rfl
  obtain ⟨p, hp, hpp'⟩ := Option.map_eq_some_iff.mp hcontent
  have huntil : p.validUntil = p'.validUntil := congrArg ProfileContent.validUntil hpp'
  refine ⟨n, key, p, (hsame.key name).symm.trans hkey, hp, ?_, hserved⟩
  rw [profileIsExpired, huntil]
  exact hexpired

end Sending

/-! ### The fetch -/

/-- What is said first, if anything, is followed by what may stand in its place. -/
def Supersedes (times : Int → Prop) (o o' : Option ProfileContent) : Prop :=
  ∀ c, o = some c → ∃ c', o' = some c' ∧ c.Precedes times c'

namespace Supersedes

variable {times times' : Int → Prop} {o o' o'' : Option ProfileContent}

theorem refl (times : Int → Prop) (o : Option ProfileContent) : Supersedes times o o :=
  fun c hc => ⟨c, hc, Or.inl rfl⟩

theorem trans (h : Supersedes times o o') (h' : Supersedes times o' o'') : Supersedes times o o'' := by
  intro c hc
  obtain ⟨c', hc', hprecedes⟩ := h c hc
  obtain ⟨c'', hc'', hprecedes'⟩ := h' c' hc'
  exact ⟨c'', hc'', hprecedes.trans hprecedes'⟩

theorem mono (h : Supersedes times o o') (htimes : ∀ now, times now → times' now) :
    Supersedes times' o o' := by
  intro c hc
  obtain ⟨c', hc', hprecedes⟩ := h c hc
  refine ⟨c', hc', hprecedes.imp_right fun hlater => ?_⟩
  obtain ⟨hversion, now, hnow, hvalid⟩ := hlater
  exact ⟨hversion, now, htimes now hnow, hvalid⟩

end Supersedes

/-- The times at which a fetch looks at what it has polled. -/
def Polls.times (polls : Polls) (now : Int) : Prop :=
  ∃ tag round item, now = (polls.attempt tag round item).now

/-- The receipts of a fetch refresh no profile: neither one that is stored, nor one that the fetch
may have taken from a message. -/
structure Undisturbed (P : Packages) (outside : Outside) (polls : Polls) (store : FileLocalStore)
    (contactName : String) : Prop where
  stored : ∀ name q, ¬ Refreshes P outside store name q
  taken : ∀ key p now n q, store.signingKeyOf contactName = some key →
    verifyDeliveryProfile P p key = .ok () → polls.times now → profileIsExpired p now = false →
    profileIsExpired p (outside.draws n).now = true → ¬ Served P outside key q

section Fetch

open FileLocalStore

variable {outside : Outside} {polls : Polls} {identity : Identity} {contactName : String}
  {route : Option String} {wide quiet : Bool} {start : FileLocalStore} {f f' : Fetching}

/-- A fetch of the contact from the store `start` on: its row follows what was stored, the object
follows the row, and a receipt refreshes neither. -/
structure Fetches (P : Packages) (outside : Outside) (polls : Polls) (contactName : String)
    (start : FileLocalStore) (f : Fetching) : Prop where
  name : f.contact.name = contactName
  key : ∀ name, f.world.store.signingKeyOf name = start.signingKeyOf name
  own : start.signingKeyOf contactName = some f.contact.signingPublic
  others : ∀ name, name ≠ contactName →
    f.world.store.contentOf P name = start.contentOf P name
  row : Supersedes polls.times (start.contentOf P contactName)
    (f.world.store.contentOf P contactName)
  object : Supersedes polls.times (f.world.store.contentOf P contactName)
    (f.contact.deliveryProfile.map (DeliveryProfile.content P))
  stripped : Stripped f.contact
  kept : ∀ name q, ¬ Refreshes P outside f.world.store name q
  fresh : ∀ p n q, f.contact.deliveryProfile = some p →
    profileIsExpired p (outside.draws n).now = true → ¬ Served P outside f.contact.signingPublic q

theorem Fetches.of_same (hf : Fetches P outside polls contactName start f)
    (hsame : SameProfiles P f.world.store f'.world.store)
    (hname : f'.contact.name = f.contact.name)
    (hkey : f'.contact.signingPublic = f.contact.signingPublic)
    (hprofile : f'.contact.deliveryProfile = f.contact.deliveryProfile) :
    Fetches P outside polls contactName start f' where
  name := hname.trans hf.name
  key name := (hsame.key name).trans (hf.key name)
  own := by rw [hkey, hf.own]
  others name hne := (hsame.content name).trans (hf.others name hne)
  row := by
    rw [hsame.content]
    exact hf.row
  object := by
    rw [hsame.content, hprofile]
    exact hf.object
  stripped p hp := hf.stripped p (hprofile ▸ hp)
  kept name q hrefreshes := hf.kept name q (hrefreshes.of_same hsame)
  fresh p n q hp := by
    rw [hkey]
    exact hf.fresh p n q (hprofile ▸ hp)

/-- The object is written to its row. -/
theorem Fetches.of_saved (hcbor : P.CborLaws) (hf : Fetches P outside polls contactName start f)
    (hcontacts : f'.world.store.contacts = (f.world.store.saveContact P f.contact).contacts)
    (hcontact : f'.contact = f.contact) : Fetches P outside polls contactName start f' := by
  have hsaved : SameProfiles P (f.world.store.saveContact P f.contact) f'.world.store :=
    .of_contacts hcontacts
  have hkeys : ∀ name, f'.world.store.signingKeyOf name = start.signingKeyOf name := by
    intro name
    rw [hsaved.key, signingKeyOf_saveContact]
    split
    · rename_i hname
      rw [← hname, hf.name, hf.own]
    · exact hf.key name
  have hcontents : ∀ name, f'.world.store.contentOf P name = if contactName = name
      then f.contact.deliveryProfile.map (DeliveryProfile.content P)
      else f.world.store.contentOf P name := by
    intro name
    rw [hsaved.content, contentOf_saveContact hcbor _ hf.stripped, hf.name]
  constructor
  case name => rw [hcontact, hf.name]
  case key => exact hkeys
  case own => rw [hcontact, hf.own]
  case others =>
    intro name hne
    rw [hcontents, if_neg (Ne.symm hne)]
    exact hf.others name hne
  case row =>
    rw [hcontents, if_pos rfl]
    exact hf.row.trans hf.object
  case object =>
    rw [hcontents, if_pos rfl, hcontact]
    exact .refl _ _
  case stripped =>
    rw [hcontact]
    exact hf.stripped
  case kept =>
    rintro name q ⟨n, key, p, hkey, hp, hexpired, hserved⟩
    have hcontent : f'.world.store.contentOf P name = some (p.content P) := by
      rw [contentOf, hp]
      rfl
    rw [hcontents] at hcontent
    by_cases hname : contactName = name
    · subst hname
      rw [if_pos rfl] at hcontent
      obtain ⟨p', hp', hcontent⟩ := Option.map_eq_some_iff.mp hcontent
      have huntil : p'.validUntil = p.validUntil := congrArg ProfileContent.validUntil hcontent
      obtain rfl : key = f.contact.signingPublic :=
        Option.some.inj (hkey.symm.trans ((hkeys _).trans hf.own))
      refine hf.fresh p' n q hp' ?_ hserved
      rw [profileIsExpired, huntil]
      exact hexpired
    · rw [if_neg hname] at hcontent
      obtain ⟨p', hp', hcontent⟩ := Option.map_eq_some_iff.mp hcontent
      have huntil : p'.validUntil = p.validUntil := congrArg ProfileContent.validUntil hcontent
      refine hf.kept name q ⟨n, key, p', ?_, hp', ?_, hserved⟩
      · rw [hf.key, ← hkeys, hkey]
      · rw [profileIsExpired, huntil]
        exact hexpired
  case fresh =>
    rw [hcontact]
    exact hf.fresh

/-- A profile that arrived as a message and was let in. -/
theorem Fetches.withProfile (hcbor : P.CborLaws)
    (hundisturbed : Undisturbed P outside polls start contactName)
    (hf : Fetches P outside polls contactName start f) {text : String} {q : DeliveryProfile}
    {now : Int} (hnow : polls.times now) (hread : DeliveryProfile.fromB64 P text = .ok q)
    (hupdate : updateVerdict P f.contact q now = .ok ()) :
    Fetches P outside polls contactName start (f.withProfile q) := by
  obtain ⟨u, hverified, haccepted⟩ := bind_ok.mp hupdate
  have hstripped : StrippedUrls q := DeliveryProfile.fromB64_strippedUrls hread
  constructor
  case name => exact hf.name
  case key => exact hf.key
  case own => exact hf.own
  case others => exact hf.others
  case row => exact hf.row
  case object =>
    refine hf.object.trans fun c hc => ⟨q.content P, rfl, ?_⟩
    obtain ⟨p, hp, rfl⟩ := Option.map_eq_some_iff.mp hc
    rw [hp] at haccepted
    exact precedes_of_accept hcbor hnow (hf.stripped p hp) hstripped haccepted
  case stripped =>
    intro p hp
    obtain rfl := Option.some.inj hp
    exact hstripped
  case kept => exact hf.kept
  case fresh =>
    intro p n q' hp hexpired
    obtain rfl := Option.some.inj hp
    exact hundisturbed.taken _ q now n q' hf.own hverified hnow (not_expired_of_accept haccepted)
      hexpired

/-- **One step of a fetch.** -/
theorem FetchStep.fetches (hcbor : P.CborLaws)
    (hundisturbed : Undisturbed P outside polls start contactName)
    (hstep : FetchStep P (sendDeliveryReceipt P outside identity) polls identity contactName f f')
    (hf : Fetches P outside polls contactName start f) :
    Fetches P outside polls contactName start f' := by
  cases hstep with
  | refused ratchet => exact hf.of_same (.of_contacts rfl) rfl rfl rfl
  | accepted ratchet hseq => exact hf.of_same (.of_contacts rfl) rfl rfl rfl
  | text ratchet hseq attempt deliveredId =>
      rename_i inner
      have hopening : Fetches P outside polls contactName start (f.opening ratchet inner) :=
        hf.of_same (.of_contacts rfl) rfl rfl rfl
      exact hopening.of_saved hcbor received_contacts rfl
  | receipt ratchet hseq htype hid => exact hf.of_same (.of_contacts rfl) rfl rfl rfl
  | acknowledged id =>
      unfold Fetching.acknowledged
      split
      · exact hf
      · rename_i version relayNames _
        obtain ⟨version, names, hacked⟩ :=
          applyPeerProfileAckPending_eq f.contact version relayNames
        rw [hacked]
        exact hf.of_same (.of_contacts rfl) rfl rfl rfl
  | profile tag round item hread hupdate =>
      exact hf.withProfile hcbor hundisturbed ⟨tag, round, item, rfl⟩ hread hupdate
  | presence hsave => exact hf.of_same (.of_contacts (savePresence_contacts hsave)) rfl rfl rfl
  | saved => exact hf.of_saved hcbor rfl rfl
  | counted fetched => exact hf.of_same (.of_contacts rfl) rfl rfl rfl
  | sent deliveredId route =>
      have hsend : Steps (WorldStep P outside identity AnyName False)
          (sendDeliveryReceipt P outside identity contactName deliveredId route) :=
        worldSteps_sendDeliveryReceipt (anyName _) deliveredId route
      exact hf.of_same (sameProfiles_of_steps hcbor hsend f.world hf.kept) rfl rfl rfl
  | refreshed hload => exact hf.of_same (.of_contacts rfl) rfl rfl rfl

theorem fetches_of_steps (hcbor : P.CborLaws)
    (hundisturbed : Undisturbed P outside polls start contactName)
    (hsteps : Relation.ReflTransGen
      (FetchStep P (sendDeliveryReceipt P outside identity) polls identity contactName) f f')
    (hf : Fetches P outside polls contactName start f) :
    Fetches P outside polls contactName start f' := by
  induction hsteps with
  | refl => exact hf
  | tail _ hstep ih => exact hstep.fetches hcbor hundisturbed ih

/-- The poll starts from the contact as it is stored. -/
theorem fetches_start {store : FileLocalStore} {w : World} {contact : Contact}
    (hundisturbed : Undisturbed P outside polls store contactName)
    (hcontact : store.getContact P contactName = .ok (some contact))
    (hsame : SameProfiles P store w.store) :
    Fetches P outside polls contactName store { world := w, contact } := by
  obtain ⟨rfl, hin⟩ := inRow_of_getContact hcontact
  constructor
  case name => rfl
  case key => exact hsame.key
  case own => exact hin.key
  case others => exact fun name _ => hsame.content name
  case row =>
    rw [hsame.content]
    exact .refl _ _
  case object =>
    rw [hsame.content, hin.content]
    exact .refl _ _
  case stripped => exact hin.stripped
  case kept => exact fun name q hrefreshes => hundisturbed.stored name q (hrefreshes.of_same hsame)
  case fresh =>
    intro p n q hp hexpired hserved
    have hcontent : store.contentOf P contact.name = some (p.content P) := by
      rw [hin.content, show contact.deliveryProfile = some p from hp]
      rfl
    obtain ⟨p', hp', hpp'⟩ := Option.map_eq_some_iff.mp hcontent
    have huntil : p'.validUntil = p.validUntil := congrArg ProfileContent.validUntil hpp'
    refine hundisturbed.stored contact.name q ⟨n, _, p', hin.key, hp', ?_, hserved⟩
    rw [profileIsExpired, huntil]
    exact hexpired

/-- **One fetch**, whether it returns or raises. -/
theorem fetch_supersedes (hcbor : P.CborLaws) (identity : Identity) (route : Option String)
    (wide quiet : Bool) {w : World}
    (hundisturbed : Undisturbed P outside polls w.store contactName) (name : String) :
    Supersedes polls.times (w.store.contentOf P name)
      ((after ((fetchContactInbound P outside polls identity contactName route wide quiet).run
        w)).store.contentOf P name) := by
  rcases fetch_cases (P := P) outside polls identity contactName route wide quiet w with
    hsame | ⟨contact, hcontact, hopened⟩
  · rw [hsame]
    exact .refl _ _
  · have hopening : Steps (WorldStep P outside identity AnyName False)
        (openFetch P (sendDeliveryReceipt P outside identity) outside.env polls identity
          contactName route wide quiet contact) := worldSteps_openFetch (anyName _) contact
    have hbefore := sameProfiles_of_steps hcbor hopening w hundisturbed.stored
    rcases hopened with ⟨e, hraised⟩ | ⟨plan, w', f, hopen, hsteps, hworld⟩
    · rw [hraised] at hbefore
      rw [← hbefore.content]
      exact .refl _ _
    · rw [hopen] at hbefore
      have hf := fetches_of_steps hcbor hundisturbed hsteps
        (fetches_start hundisturbed hcontact hbefore)
      rw [hworld]
      by_cases hname : name = contactName
      · rw [hname]
        exact hf.row
      · rw [hf.others name hname]
        exact .refl _ _

end Fetch

/-! ### Runs -/

/-- The times at which a command that sends looks at the clock. -/
def Outside.times (outside : Outside) (now : Int) : Prop := ∃ n, now = (outside.draws n).now

/-- The times at which a command looks at the clock when it may store a profile. -/
def Operation.times : Operation → Int → Prop
  | .send outside _ _ _ _ => outside.times
  | .fetch _ polls _ _ _ _ => polls.times
  | .flush outside _ _ => outside.times
  | .resend outside _ _ _ => outside.times
  | .presence outside _ _ _ => outside.times
  | .push outside _ _ => outside.times
  | .sweep _ => fun _ => False

/-- What direct hints serve during the command replaces no profile that it would not be let in
for, and no profile at all during a fetch. -/
def RefreshesSafely (P : Packages) (w : World) : Operation → Prop
  | .send outside _ _ _ _ => ServesUpdates P outside w.store
  | .fetch outside polls contactName _ _ _ => Undisturbed P outside polls w.store contactName
  | .flush outside _ _ => ServesUpdates P outside w.store
  | .resend outside _ _ _ => ServesUpdates P outside w.store
  | .presence outside _ _ _ => ServesUpdates P outside w.store
  | .push outside _ _ => ServesUpdates P outside w.store
  | .sweep _ => True

/-- Every command of the run is one that refreshes safely. -/
def RunsSafely (P : Packages) (identity : Identity) : World → List Operation → Prop
  | _, [] => True
  | w, operation :: operations =>
      RefreshesSafely P w operation
        ∧ RunsSafely P identity (Operation.execute P identity w operation) operations

/-- In a run of commands the version of a stored profile does not fall, nor does the content change
under one version; and what replaces a stored profile had not expired. -/
structure ProfilesAdvance (P : Packages) (identity : Identity) (w : World)
    (operations : List Operation) : Prop where
  versions : ∀ earlier middle later name p, operations = earlier ++ (middle ++ later) →
    (Operation.run P identity w earlier).store.profileOf P name = some p →
    ∃ q, (Operation.run P identity w (earlier ++ middle)).store.profileOf P name = some q
      ∧ p.version ≤ q.version ∧ (q.version = p.version → q.toBytes P = p.toBytes P)
  unexpired : ∀ earlier operation later name p q, operations = earlier ++ operation :: later →
    (Operation.run P identity w earlier).store.profileOf P name = some p →
    (Operation.run P identity w (earlier ++ [operation])).store.profileOf P name = some q →
    q.toBytes P = p.toBytes P ∨ ∃ now, operation.times now ∧ profileIsExpired q now = false

section Run

open FileLocalStore

variable {identity : Identity} {w : World}

theorem supersedes_of_advanced (hcbor : P.CborLaws) {outside : Outside}
    {store store' : FileLocalStore} (hserves : ServesUpdates P outside store)
    (hadvanced : Advanced P outside store store') (name : String) :
    Supersedes outside.times (store.contentOf P name) (store'.contentOf P name) := by
  rcases hadvanced.content name with hsame | ⟨q, hrefreshes, hcontent⟩
  · rw [hsame]
    exact .refl _ _
  · intro c hc
    obtain ⟨p, hp, rfl⟩ := Option.map_eq_some_iff.mp hc
    obtain ⟨n, key, p', hkey, hp', hexpired, hserved⟩ := hrefreshes
    have haccept := hserves name p q hp ⟨n, key, p', hkey, hp', hexpired, hserved⟩ n
    exact ⟨_, hcontent,
      precedes_of_accept hcbor ⟨n, rfl⟩ (profileOf_stripped hp) hserved.stripped haccept⟩

/-- A command that sends. -/
theorem supersedes_of_steps {α : Type} {m : EStateM PyExc World α} {outside : Outside} {marks : Prop}
    (hcbor : P.CborLaws) (hm : Steps (WorldStep P outside identity names marks) m) (w : World)
    (hserves : ServesUpdates P outside w.store) (name : String) :
    Supersedes outside.times (w.store.contentOf P name) ((after (m.run w)).store.contentOf P name) :=
  supersedes_of_advanced hcbor hserves (advanced_of_steps hcbor hm w hserves) name

/-- **One command.** -/
theorem execute_supersedes (hcbor : P.CborLaws) (operation : Operation)
    (hsafe : RefreshesSafely P w operation) (name : String) :
    Supersedes operation.times (w.store.contentOf P name)
      ((Operation.execute P identity w operation).store.contentOf P name) := by
  cases operation with
  | send outside dummy contactName message route =>
      exact supersedes_of_steps hcbor (worldSteps_sendCmd (anyName _) dummy message route) w hsafe name
  | fetch outside polls contactName route wide quiet =>
      exact fetch_supersedes hcbor identity route wide quiet hsafe name
  | flush outside contactName route =>
      exact supersedes_of_steps hcbor (worldSteps_flushReceipts route fun pending _ => anyName pending.contactName) w hsafe name
  | resend outside now contactName route =>
      exact supersedes_of_steps hcbor (worldSteps_resendPendingForContact (anyName _) now route) w
        hsafe name
  | presence outside announce payloads contactName =>
      exact supersedes_of_steps hcbor (worldSteps_broadcastPresence announce payloads fun name _ => anyName name) w
        hsafe name
  | push outside built contactName =>
      exact supersedes_of_steps hcbor (worldSteps_profilePush (anyName _) built) w hsafe name
  | sweep now => exact .refl _ _

/-- A run of commands. -/
theorem run_supersedes (hcbor : P.CborLaws) {operations : List Operation}
    (hsafe : RunsSafely P identity w operations) (name : String) :
    Supersedes (fun _ => True) (w.store.contentOf P name)
      ((Operation.run P identity w operations).store.contentOf P name) := by
  induction operations generalizing w with
  | nil => exact .refl _ _
  | cons operation operations ih =>
      have hfirst : Supersedes operation.times (w.store.contentOf P name)
          ((Operation.execute P identity w operation).store.contentOf P name) :=
        execute_supersedes hcbor operation hsafe.1 name
      exact (hfirst.mono fun _ _ => trivial).trans (ih hsafe.2)

theorem RunsSafely.append {earlier later : List Operation}
    (h : RunsSafely P identity w (earlier ++ later)) :
    RunsSafely P identity w earlier
      ∧ RunsSafely P identity (Operation.run P identity w earlier) later := by
  induction earlier generalizing w with
  | nil => exact ⟨trivial, h⟩
  | cons operation earlier ih =>
      obtain ⟨hearlier, hlater⟩ := ih h.2
      exact ⟨⟨h.1, hearlier⟩, hlater⟩

/-- What follows a profile that is stored is stored. -/
theorem Supersedes.profileOf {times : Int → Prop} {store store' : FileLocalStore} {name : String}
    (h : Supersedes times (store.contentOf P name) (store'.contentOf P name)) {p : DeliveryProfile}
    (hp : store.profileOf P name = some p) :
    ∃ q, store'.profileOf P name = some q ∧ (p.content P).Precedes times (q.content P) := by
  have hcontent : store.contentOf P name = some (p.content P) := by
    rw [contentOf, hp]
    rfl
  obtain ⟨c, hc, hprecedes⟩ := h _ hcontent
  obtain ⟨q, hq, rfl⟩ := Option.map_eq_some_iff.mp hc
  exact ⟨q, hq, hprecedes⟩

/-- **Stored profiles advance.** In a run where no hint serves a profile that would not be let in,
and none during a fetch, the stored profiles never roll back. -/
theorem profiles_advance (hcbor : P.CborLaws) {operations : List Operation}
    (hsafe : RunsSafely P identity w operations) : ProfilesAdvance P identity w operations := by
  constructor
  case versions =>
    intro earlier middle later name p hsplit hp
    rw [hsplit] at hsafe
    obtain ⟨q, hq, hprecedes⟩ := (run_supersedes hcbor hsafe.append.2.append.1 name).profileOf hp
    rw [run_append]
    refine ⟨q, hq, ?_⟩
    rcases hprecedes with hsame | ⟨hlater, -⟩
    · have hversion : q.version = p.version := congrArg ProfileContent.version hsame
      exact ⟨hversion.ge, fun _ => congrArg ProfileContent.bytes hsame⟩
    · exact ⟨Int.le_of_lt hlater, fun hversion => absurd hversion (Int.ne_of_gt hlater)⟩
  case unexpired =>
    intro earlier operation later name p q hsplit hp hq
    rw [hsplit] at hsafe
    rw [run_append] at hq
    have hone : Supersedes operation.times _ ((Operation.execute P identity (Operation.run P identity w
        earlier) operation).store.contentOf P name) :=
      execute_supersedes hcbor operation hsafe.append.2.1 name
    obtain ⟨q', hq', hprecedes⟩ := hone.profileOf hp
    obtain rfl := Option.some.inj (hq'.symm.trans hq)
    rcases hprecedes with hsame | ⟨-, now, hnow, hvalid⟩
    · exact Or.inl (congrArg ProfileContent.bytes hsame)
    · refine Or.inr ⟨now, hnow, ?_⟩
      have hvalid : now ≤ q'.validUntil := hvalid
      simpa [profileIsExpired] using hvalid

end Run

/-! ### A hint that serves an older version -/

section Replay

variable {outside : Outside} {blob : OuterBlob} {now : Int} {h : Handling}

/-- An expired profile is replaced by whatever the first hint serves. -/
theorem refreshContactProfile_served {old profile : DeliveryProfile} {hint : String}
    {hints : List String} {body : Json} (hold : h.contact.deliveryProfile = some old)
    (hexpired : profileIsExpired old now = true) (hhints : old.directHints = hint :: hints)
    (hanswer : outside.profileAnswer h.world.exchanges (rstripSlash hint) = .ok (200, body))
    (hprofile : profileOfAnswer P h.contact.signingPublic 200 body = .ok (some profile)) :
    (refreshContactProfile P outside now).run h
      = .ok true ((h.exchanged (h.world.exchanges + 1) h.world.posted).withProfile P profile) := by
  have hfetch : (fetchRemoteProfile P outside h.contact.signingPublic (hint :: hints)).run h
      = .ok (some profile) (h.exchanged (h.world.exchanges + 1) h.world.posted) := by
    unfold fetchRemoteProfile
    refine run_bind_ok.mpr ⟨_, _, nextExchange_run h, run_bind_ok.mpr ⟨some profile, _, ?_, rfl⟩⟩
    rw [hanswer, run_tryCatch, ok_bind]
    dsimp only
    rw [hprofile]
    rfl
  unfold refreshContactProfile
  rw [run_get_bind]
  dsimp only
  rw [hold]
  dsimp only
  rw [hexpired, hhints]
  exact run_bind_ok.mpr ⟨_, _, hfetch, rfl⟩

/-- The first direct hint takes the blob. -/
theorem tryDirect_accepted {profile : DeliveryProfile} {hint : String} {hints : List String}
    {stored : Bool} (hprofile : h.contact.deliveryProfile = some profile)
    (hhints : profile.directHints = hint :: hints)
    (hanswer : outside.postAnswer h.world.exchanges (rstripSlash hint) = (stored, .ok 200)) :
    (deliverDirect outside blob true).run h
      = .ok true (h.exchanged (h.world.exchanges + 1)
        (h.world.posted ++ [{ address := rstripSlash hint, blob, stored }])) := by
  unfold deliverDirect
  rw [run_get_bind, hprofile]
  dsimp only
  rw [if_pos rfl, hhints, tryDirectDelivery]
  refine run_bind_ok.mpr ⟨some 200, _, ?_, rfl⟩
  rw [attempt_run, postBlob_answered hanswer]

/-- A delivery that the first direct hint takes, with what was refreshed before it. -/
theorem deliverPending_direct {route : Option String} {refreshed : Bool} {h₁ h₂ : Handling}
    (hrefresh : (refreshContactProfile P outside now).run h = .ok refreshed h₁)
    (hdirect : (deliverDirect outside blob true).run h₁ = .ok true h₂) :
    (deliverPending P outside blob route now).run h = .ok true h₂ := by
  have hdeliver : (deliverEncrypted P outside blob route true now recursionLimit true).run h
      = .ok .direct h₂ := by
    have hlimit : recursionLimit = 999 + 1 := rfl
    rw [hlimit, deliverEncrypted, if_pos rfl]
    exact run_bind_ok.mpr ⟨_, _, hrefresh, run_bind_ok.mpr ⟨_, _, hdirect, rfl⟩⟩
  have hsent : (do
      let _ ← deliverEncrypted P outside blob route true now recursionLimit true
      return true : HandlingM Bool).run h = .ok true h₂ :=
    run_bind_ok.mpr ⟨_, _, hdeliver, rfl⟩
  rw [deliverPending, run_tryCatch, hsent]

/-- **A resend stores what is served.** Whatever the first hint serves in place of an expired
profile is stored when a message that is pending is sent again. -/
theorem resendPending_stores {identity : Identity} {contactName : String} {route : Option String}
    {w : World} {contact : Contact} {row : OutboundPending} {old profile : DeliveryProfile}
    {hint first : String} {hints others : List String} {body : Json} {stored : Bool}
    (hcontact : w.store.getContact P contactName = .ok (some contact))
    (hrows : w.store.listOutboundPending contactName now = [row])
    (hblob : w.store.loadOutboundOuter contactName row.msgId = .ok (some blob))
    (hold : contact.deliveryProfile = some old)
    (hexpired : profileIsExpired old (outside.draws w.encryptions).now = true)
    (hhints : old.directHints = hint :: hints)
    (hanswer : outside.profileAnswer w.exchanges (rstripSlash hint) = .ok (200, body))
    (hprofile : profileOfAnswer P contact.signingPublic 200 body = .ok (some profile))
    (hfirst : profile.directHints = first :: others)
    (htaken : outside.postAnswer (w.exchanges + 1) (rstripSlash first) = (stored, .ok 200)) :
    (Operation.run P identity w [.resend outside now contactName route]).store.contacts
      = (w.store.saveContact P { contact with deliveryProfile := some profile }).contacts := by
  let h : Handling := { world := { w with encryptions := w.encryptions + 1 }, contact }
  let refreshed : Handling :=
    (h.exchanged (h.world.exchanges + 1) h.world.posted).withProfile P profile
  have hrefresh : (refreshContactProfile P outside (outside.draws w.encryptions).now).run h
      = .ok true refreshed := refreshContactProfile_served hold hexpired hhints hanswer hprofile
  obtain ⟨h₂, hdirect, hstore⟩ : ∃ h₂, (deliverDirect outside blob true).run refreshed = .ok true h₂
      ∧ h₂.world.store = refreshed.world.store := ⟨_, tryDirect_accepted rfl hfirst htaken, rfl⟩
  have hpending : (deliverPending P outside blob route (outside.draws w.encryptions).now).run h
      = .ok true h₂ := deliverPending_direct hrefresh hdirect
  obtain ⟨n, h', hrow, hcontacts⟩ : ∃ n h', (resendRow P outside identity contactName route row).run
      { world := w, contact } = .ok n h' ∧ h'.world.store.contacts = h₂.world.store.contacts :=
    ⟨_, _, resendRow_stored hblob hpending, rfl⟩
  have hresent : (resendRows P outside identity contactName route [row]).run
      { world := w, contact } = .ok (n + 0) h' := run_bind_ok.mpr ⟨n, h', hrow, rfl⟩
  have hresend : (resendPendingForContact P outside identity now contactName route).run w
      = .ok (n + 0) h'.world := by
    unfold resendPendingForContact
    rw [run_get_bind]
    refine run_orRaise_bind_ok.mpr ⟨_, hcontact, ?_⟩
    dsimp only
    rw [run_withContact, hrows, hresent]
  show (after ((resendPendingForContact P outside identity now contactName route).run
    w)).store.contacts = _
  rw [hresend, after_ok, hcontacts, hstore]
  rfl

end Replay

namespace VersionSample

export CreatedSample (packages identity relay)

/-- A version of Alice's profile, with a relay and a direct hint. -/
def profile (version ttl : Int) : DeliveryProfile :=
  createDeliveryProfile packages identity [relay "https://relay"] (some ["https://alice"]) 3600 none
    none "minimal" ttl (some version) [] 1700000000000

/-- The week of the second version is over. -/
def later : Int := 1700604800001

def contact : Contact :=
  { name := "alice"
    signingPublic := identity.signingPublicBytes packages
    agreementPublic := identity.agreementPublicBytes packages
    masterSecret := List.replicate 32 9
    conversationId := "pairwise_alice_bob"
    deliveryProfile := some (profile 2 604800000) }

/-- A message for Alice that is pending, with its blob. -/
def row : OutboundPending :=
  { contactName := "alice"
    msgId := "hello"
    seq := 1
    body := "hello"
    createdAt := later
    validUntil := messageValidUntil later
    outerCiphertextB64 := some (b64encode [1])
    mailboxTagB64 := some (b64encode [8])
    outerExpiresAt := some (messageValidUntil later) }

/-- Bob has the second version of Alice's profile, which was valid for a week. -/
def start : World :=
  { store := FileLocalStore.saveContact packages contact { outboundPending := [row] } }

/-- Alice's hint serves a version, which is to be valid for ten weeks, and takes what is posted. -/
def outside (version : Int) : Outside where
  env := {}
  profileAnswer _ _ :=
    .ok (200, .obj [("profile", .str ((profile version 6048000000).toB64 packages))])
  postAnswer _ _ := (true, .ok 200)
  draws _ := ⟨later, BytesN.fill 32 1, BytesN.fill 24 2⟩

def resending (version : Int) : Operation := .resend (outside version) later "alice" none

def bob : Identity :=
  { name := "bob"
    signingPrivate := BytesN.fill 32 4
    agreementPrivate := BytesN.fill 32 5 }

theorem canonical_profile (version : Int) :
    (profile version 6048000000).canonical = profile version 6048000000 := by
  rw [DeliveryProfile.canonical_eq_self_iff]
  show ∀ d ∈ [relay "https://relay"], d.canonical = d
  decide

theorem profileOfAnswer_served (version : Int) :
    profileOfAnswer packages (identity.signingPublicBytes packages) 200
      (.obj [("profile", .str ((profile version 6048000000).toB64 packages))])
        = .ok (some (profile version 6048000000)) := by
  have hread := (profile version 6048000000).fromB64_toB64 CreatedSample.cborLaws
  rw [canonical_profile] at hread
  exact profileOfAnswer_ok hread
    (verifyDeliveryProfile_created CreatedSample.signatureLaws identity [relay "https://relay"]
      (some ["https://alice"]) 3600 none none "minimal" 6048000000 (some version) [] 1700000000000)

theorem getContact_start :
    start.store.getContact packages "alice" = .ok (some contact.readBack) := by
  have hname : contact.name = "alice" := rfl
  rw [FileLocalStore.getContact, start, find_saveContact, if_pos hname, mapPresent,
    Contact.fromDict_toDict_eq CreatedSample.cborLaws]
  rfl

/-- The blob that is stored for the message. -/
def blob : OuterBlob :=
  { version := 1, mailboxTag := [8], expiresAt := messageValidUntil later, ciphertext := [1] }

theorem loadOutboundOuter_start :
    start.store.loadOutboundOuter "alice" "hello" = .ok (some blob) := by
  have hfind : Table.find OutboundPending.key ("alice", "hello") start.store.outboundPending
      = some row := by decide
  rw [FileLocalStore.loadOutboundOuter, hfind]
  rfl

theorem rows_start : start.store.listOutboundPending "alice" later = [row] := rfl

/-- The contact with the version that the hint has served. -/
def refreshed (version : Int) : Contact :=
  { contact.readBack with deliveryProfile := some (profile version 6048000000) }

theorem contacts_resent :
    (Operation.run packages bob start [resending 1]).store.contacts
      = (start.store.saveContact packages (refreshed 1)).contacts :=
  resendPending_stores getContact_start rows_start loadOutboundOuter_start rfl rfl rfl rfl
    (profileOfAnswer_served 1) rfl rfl

theorem profileOf_start :
    start.store.profileOf packages "alice" = some (profile 2 604800000).canonical := by
  have hname : contact.name = "alice" := rfl
  rw [start, FileLocalStore.profileOf_saveContact CreatedSample.cborLaws, if_pos hname]
  rfl

theorem profileOf_resent :
    (Operation.run packages bob start [resending 1]).store.profileOf packages "alice"
      = some (profile 1 6048000000) := by
  have hname : (refreshed 1).name = "alice" := rfl
  have hsaved := FileLocalStore.profileOf_saveContact CreatedSample.cborLaws start.store
    (refreshed 1) "alice"
  rw [if_pos hname] at hsaved
  rw [FileLocalStore.profileOf, contacts_resent]
  exact hsaved.trans (congrArg some (canonical_profile 1))

/-- Only Alice has a profile here. -/
theorem profileOf_other {name : String} (hne : name ≠ "alice") :
    start.store.profileOf packages name = none := by
  have hname : ¬ contact.name = name := fun h => hne h.symm
  rw [start, FileLocalStore.profileOf_saveContact CreatedSample.cborLaws, if_neg hname]
  rfl

theorem served_eq {version : Int} {key : Bytes} {q : DeliveryProfile}
    (hkey : start.store.signingKeyOf "alice" = some key)
    (h : Served packages (outside version) key q) : q = profile version 6048000000 := by
  have hname : contact.name = "alice" := rfl
  rw [start, FileLocalStore.signingKeyOf_saveContact, if_pos hname] at hkey
  obtain rfl := Option.some.inj hkey
  obtain ⟨n, hint, status, body, hanswer, hprofile⟩ := h
  obtain ⟨rfl, rfl⟩ := Prod.mk.inj (Except.ok.inj hanswer)
  exact (Option.some.inj (Except.ok.inj ((profileOfAnswer_served version).symm.trans
    hprofile))).symm

/-- A third version may replace the second one. -/
theorem servesUpdates : ServesUpdates packages (outside 3) start.store := by
  intro name p q hp hrefreshes n
  by_cases hname : name = "alice"
  · subst hname
    obtain rfl := Option.some.inj (profileOf_start.symm.trans hp)
    obtain ⟨m, key, p', hkey, -, -, hserved⟩ := hrefreshes
    rw [served_eq hkey hserved]
    rfl
  · rw [profileOf_other hname] at hp
    cases hp

end VersionSample

open VersionSample in
theorem third_version_advances : ProfilesAdvance packages bob start [resending 3] :=
  profiles_advance CreatedSample.cborLaws ⟨servesUpdates, trivial⟩

open VersionSample in
/-- Bob had the second version, and has the first one again. -/
theorem first_version_replayed : ¬ ∀ operations, ProfilesAdvance packages bob start operations := by
  intro h
  obtain ⟨q, hq, hversion, -⟩ := (h [resending 1]).versions [] [resending 1] [] "alice" _ rfl
    profileOf_start
  obtain rfl := Option.some.inj (profileOf_resent.symm.trans hq)
  exact absurd hversion (by decide)

end Yakr
