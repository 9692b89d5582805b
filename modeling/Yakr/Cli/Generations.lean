import Mathlib.Data.List.ReduceOption
import Yakr.Cli.MovedRelay
import Yakr.Core.CapabilityClient
import Yakr.Store.Created
import Yakr.Store.Persistence

/-!
# Yakr.Cli.Generations

**`profile publish`, and the generations it publishes.** A published profile names a generation and
a salt for each relay operator the device is paired with, and the grant for them is asked for
afterwards. The next generation is the successor of the one in the table of grants. A publish whose
grant never reached the table is therefore followed by one with the same generation and another
salt; `generations_forward_iff` says exactly when that does not happen.

* `authorizedDescriptors`, `publishNextProfile`, `profilePublish` are `profile_cmds.py`;
* `publishedProfiles` are the profiles that a run of commands publishes;
* `Covers` is what a publish relies on about an earlier one, `CoveredRun` that every publish of a
  run can rely on it;
* `forward_of_recorded`: a run that records the grants it asks for can.
-/

namespace Yakr

open Lib Effect

variable (P : Packages) (U : UrlTables)

/-! ### The command -/

/-- What one `profile publish` finds and draws. -/
structure Publish where
  /-- `YAKR_RELAY_URL`. -/
  relayUrl : Option String := none
  /-- `YAKR_RELAY_NAME`. -/
  relayName : Option String := none
  directPort : Option Int := none
  /-- The wrap secret of the own relay. -/
  wrapSecret : BytesN 32
  endpointTlsSpkiSha256 : Bytes
  /-- The salt that is drawn for the `i`-th descriptor. -/
  salts : Nat → BytesN 16
  now : Int
  answers : RelayAnswers

/-- The own relay, if the environment names one. -/
def selfRelay (identity : Identity) (args : Publish) : Option RelayDescriptor :=
  match args.relayUrl with
  | none => none
  | some relayUrl =>
      if relayUrl = "" then none
      else
        selfRelayDescriptor identity relayUrl (args.relayName.getD identity.name)
          args.wrapSecret.1 args.endpointTlsSpkiSha256

/-- `_authorized_descriptors`. -/
def authorizedDescriptors (identity : Identity) (args : Publish) (store : FileLocalStore) :
    Except PyExc (List RelayDescriptor) := do
  let contacts ← store.listContacts.mapM (store.getContact P)
  authorizedPublishRelays identity.name contacts.reduceOption (selfRelay identity args)

/-- The profile that is made of the descriptors. -/
def nextProfile (identity : Identity) (args : Publish) (current : Option DeliveryProfile)
    (descriptors : List RelayDescriptor) : DeliveryProfile :=
  createDeliveryProfile P identity descriptors
    (match args.directPort with
    | none => some []
    | some port => some ["http://127.0.0.1:" ++ toString port])
    3600 none none "minimal" (7 * 24 * 60 * 60 * 1000)
    (match current with
    | none => some 1
    | some profile => some (profile.version + 1))
    args.endpointTlsSpkiSha256 args.now

/-- `profile_publish` with `bump_version`, up to `save_local_profile`. -/
def publishNextProfile (identity : Identity) (args : Publish) : PublishM DeliveryProfile := do
  let publisher ← get
  let current ← orRaise (publisher.store.loadLocalProfile P)
  let authorized ← orRaise (authorizedDescriptors P identity args publisher.store)
  let descriptors ←
    orRaise (enrichProfileCapabilityDescriptors P publisher args.salts authorized)
  orRaise (assertPublishRelaysAllowed descriptors descriptors)
  let profile := nextProfile P identity args current descriptors
  modify fun publisher => { publisher with store := publisher.store.saveLocalProfile P profile }
  return profile

/-- `profile_publish` up to what it prints. The presence it may send to the contacts afterwards is
one of the other commands of a run. -/
def profilePublish (identity : Identity) (args : Publish) : PublishM Unit := do
  let profile ← publishNextProfile P identity args
  let _ ← syncProfileCapabilityGrants P U args.answers identity profile

/-! ### Runs -/

inductive Command where
  | publish (args : Publish)
  /-- Another command stores a grant. -/
  | granted (relayName : String) (grant : CapabilityGrant)
      (authPrivate issuanceSalt relayTlsSpkiSha256 : Bytes)
  /-- Another command changes the store: contacts, profiles, messages. -/
  | other (store : FileLocalStore)

/-- What a command leaves, whether or not it raises. -/
def execute (identity : Identity) (publisher : Publisher) : Command → Publisher
  | .publish args => after ((profilePublish P U identity args).run publisher)
  | .granted relayName grant authPrivate issuanceSalt relayTlsSpkiSha256 =>
      after ((Publisher.saveCapabilityGrant P relayName grant authPrivate issuanceSalt
        relayTlsSpkiSha256).run publisher)
  | .other store => { publisher with store }

/-- The profile a command publishes. -/
def publishedBy (identity : Identity) (publisher : Publisher) : Command → List DeliveryProfile
  | .publish args => (value? ((publishNextProfile P identity args).run publisher)).toList
  | _ => []

/-- The profiles a run publishes, in their order. -/
def publishedProfiles (identity : Identity) : Publisher → List Command → List DeliveryProfile
  | _, [] => []
  | publisher, command :: commands =>
      publishedBy P identity publisher command
        ++ publishedProfiles identity (execute P U identity publisher command) commands

/-- From an earlier to a later profile every operator's generation grows. -/
def Forward (earlier later : DeliveryProfile) : Prop :=
  ∀ d ∈ earlier.relayDescriptors, ∀ d' ∈ later.relayDescriptors, d.name = d'.name →
    d.capabilityIssuanceSalt ≠ [] → d'.capabilityIssuanceSalt ≠ [] →
      d.capabilityGeneration < d'.capabilityGeneration

/-- The newest generation in the table of grants. -/
def newestGranted (publisher : Publisher) (name : String) : Int :=
  match publisher.loadCapabilityGrant name with
  | none => 0
  | some stored => stored.capabilityGeneration

/-- The device is paired with the operator. -/
def PairedWith (publisher : Publisher) (name : String) : Prop :=
  ∃ contact, publisher.store.getContact P name = .ok (some contact)

/-- What an earlier profile published for the operator of a descriptor is in the table of grants,
or in the operator's own descriptor. -/
def Covers (publisher : Publisher) (descriptor : RelayDescriptor) (earlier : DeliveryProfile) :
    Prop :=
  ∀ d ∈ earlier.relayDescriptors, d.name = descriptor.name → d.capabilityIssuanceSalt ≠ [] →
    d.capabilityGeneration ≤ newestGranted publisher descriptor.name
      ∨ descriptor.capabilityIssuanceSalt ≠ []
        ∧ d.capabilityGeneration ≤ descriptor.capabilityGeneration

/-- The command publishes these descriptors, with new generations. -/
def Advertises (identity : Identity) (publisher : Publisher) (command : Command)
    (descriptors : List RelayDescriptor) : Prop :=
  ∃ args, command = .publish args ∧ (∃ current, publisher.store.loadLocalProfile P = .ok current)
    ∧ authorizedDescriptors P identity args publisher.store = .ok descriptors

/-- Before every publish of the run, what was published before for the operators it is about to
advertise is covered. -/
def CoveredRun (identity : Identity) :
    List DeliveryProfile → Publisher → List Command → Prop
  | _, _, [] => True
  | earlier, publisher, command :: commands =>
      (∀ descriptors, Advertises P identity publisher command descriptors →
          ∀ profile ∈ earlier, ∀ descriptor ∈ descriptors, PairedWith P publisher descriptor.name →
            Covers publisher descriptor profile)
        ∧ CoveredRun identity (earlier ++ publishedBy P identity publisher command)
          (execute P U identity publisher command) commands

section Publishing

variable {P U} {identity : Identity} {publisher : Publisher} {args : Publish}

/-! ### The descriptors of a publish -/

theorem mem_firstOfEachUrl {d : RelayDescriptor} {seenUrls : List String}
    {descriptors : List RelayDescriptor} (h : d ∈ firstOfEachUrl seenUrls descriptors) :
    d ∈ descriptors := by
  induction descriptors generalizing seenUrls with
  | nil => exact h
  | cons x descriptors ih =>
      rw [firstOfEachUrl] at h
      split at h
      · exact List.mem_cons_of_mem _ (ih h)
      · rcases List.mem_cons.mp h with rfl | h
        · exact List.mem_cons_self
        · exact List.mem_cons_of_mem _ (ih h)

@[simp] theorem withOperatorTls_name (d : RelayDescriptor) (contact : Contact) :
    (withOperatorTls d contact).name = d.name := by
  unfold withOperatorTls
  split
  · rfl
  · split
    · rfl
    · split <;> rfl

theorem name_of_operated {d : RelayDescriptor} {contact : Contact}
    (h : d ∈ relaysOperatedByContact contact) : d.name = contact.name := by
  unfold relaysOperatedByContact at h
  split at h
  · cases h
  · obtain ⟨listed, hlisted, rfl⟩ := List.mem_map.mp h
    rw [withOperatorTls_name]
    simpa using (List.mem_filter.mp hlisted).2

theorem mem_authorizedPublishRelays {name : String} {contacts : List Contact}
    {own : Option RelayDescriptor} {descriptors : List RelayDescriptor} {d : RelayDescriptor}
    (h : authorizedPublishRelays name contacts own = .ok descriptors) (hd : d ∈ descriptors) :
    own = some d ∨ ∃ contact ∈ contacts, d ∈ relaysOperatedByContact contact := by
  unfold authorizedPublishRelays at h
  split at h
  · obtain rfl := Except.ok.inj h
    exact Or.inr (List.mem_flatMap.mp (mem_firstOfEachUrl hd))
  · split at h
    · cases h
    · obtain rfl := Except.ok.inj h
      rcases List.mem_cons.mp hd with rfl | hd
      · exact Or.inl rfl
      · exact Or.inr (List.mem_flatMap.mp (mem_firstOfEachUrl hd))

theorem selfRelay_salt {d : RelayDescriptor} (h : selfRelay identity args = some d) :
    d.capabilityIssuanceSalt = [] := by
  unfold selfRelay selfRelayDescriptor at h
  split at h
  · cases h
  · split at h
    · cases h
    · split at h
      · cases h
      · obtain rfl := Option.some.inj h
        rfl

/-- A descriptor is the own one, without a salt, or one of a contact under the contact's name. -/
theorem mem_authorizedDescriptors {descriptors : List RelayDescriptor} {d : RelayDescriptor}
    (h : authorizedDescriptors P identity args publisher.store = .ok descriptors)
    (hd : d ∈ descriptors) : d.capabilityIssuanceSalt = [] ∨ PairedWith P publisher d.name := by
  obtain ⟨loaded, hloaded, h⟩ := bind_ok.mp h
  rcases mem_authorizedPublishRelays h hd with hown | ⟨contact, hcontact, hoperated⟩
  · exact Or.inl (selfRelay_salt hown)
  · obtain ⟨name, -, hname⟩ :=
      (mapM_ok_mem hloaded).1 (some contact) (List.reduceOption_mem_iff.mp hcontact)
    obtain ⟨-, -, -, hsame⟩ := getContact_ok hname
    refine Or.inr ⟨contact, ?_⟩
    rw [name_of_operated hoperated, hsame]
    exact hname

/-- Once the contacts have been loaded, every lookup of a contact returns. -/
theorem getContact_returns {descriptors : List RelayDescriptor}
    (h : authorizedDescriptors P identity args publisher.store = .ok descriptors) (name : String) :
    ∃ contact, publisher.store.getContact P name = .ok contact := by
  obtain ⟨loaded, hloaded, -⟩ := bind_ok.mp h
  cases hfind : Table.find ContactDict.name name publisher.store.contacts with
  | none =>
      refine ⟨none, ?_⟩
      rw [FileLocalStore.getContact, hfind]
      rfl
  | some row =>
      have hname : name ∈ publisher.store.listContacts :=
        (orderByText_perm id _).mem_iff.mpr
          (List.mem_map.mpr ⟨row, Table.find_mem hfind, Table.find_key hfind⟩)
      obtain ⟨contact, -, hcontact⟩ := (mapM_ok_mem hloaded).2 name hname
      exact ⟨contact, hcontact⟩

/-! ### The next generation -/

/-- The generation `enrich_descriptor_capabilities` gives a descriptor of an operator. -/
def nextGeneration (publisher : Publisher) (descriptor : RelayDescriptor) : Int :=
  if descriptor.capabilityIssuanceSalt ≠ []
      ∧ newestGranted publisher descriptor.name + 1 ≤ descriptor.capabilityGeneration then
    descriptor.capabilityGeneration + 1
  else newestGranted publisher descriptor.name + 1

theorem lt_nextGeneration {descriptor : RelayDescriptor} {n : Int} :
    n < nextGeneration publisher descriptor
      ↔ n ≤ newestGranted publisher descriptor.name
        ∨ descriptor.capabilityIssuanceSalt ≠ [] ∧ n ≤ descriptor.capabilityGeneration := by
  unfold nextGeneration
  by_cases hsalt : descriptor.capabilityIssuanceSalt = []
  · simp only [hsalt, ne_eq, not_true_eq_false, false_and, if_false, or_false]
    omega
  · simp only [hsalt, ne_eq, not_false_eq_true, true_and]
    split
    · omega
    · omega

theorem covers_iff {descriptor : RelayDescriptor} {earlier : DeliveryProfile} :
    Covers publisher descriptor earlier
      ↔ ∀ d ∈ earlier.relayDescriptors, d.name = descriptor.name → d.capabilityIssuanceSalt ≠ [] →
        d.capabilityGeneration < nextGeneration publisher descriptor := by
  simp only [Covers, lt_nextGeneration]

theorem enrich_unpaired {salt : BytesN 16} {d : RelayDescriptor}
    (h : publisher.store.getContact P d.name = .ok none) :
    enrichDescriptorCapabilities P publisher salt d = .ok d := by
  rw [enrichDescriptorCapabilities, h]
  rfl

/-- An operator's descriptor gets its next generation and the drawn salt. -/
theorem enrich_paired {salt : BytesN 16} {d : RelayDescriptor} (h : PairedWith P publisher d.name) :
    enrichDescriptorCapabilities P publisher salt d
      = .ok { d with
          capabilityGeneration := nextGeneration publisher d
          capabilityIssuanceSalt := salt.1 } := by
  obtain ⟨contact, hcontact⟩ := h
  rw [enrichDescriptorCapabilities, hcontact, nextGeneration, newestGranted]
  cases publisher.loadCapabilityGrant d.name with
  | none => rfl
  | some stored => rfl

/-- The descriptors that carry a salt after they have been enriched. -/
theorem mem_enriched {salts : Nat → BytesN 16} {authorized descriptors : List RelayDescriptor}
    (hauthorized : authorizedDescriptors P identity args publisher.store = .ok authorized)
    (h : enrichProfileCapabilityDescriptors P publisher salts authorized = .ok descriptors)
    {e : RelayDescriptor} (he : e ∈ descriptors) (hsalt : e.capabilityIssuanceSalt ≠ []) :
    ∃ d ∈ authorized, PairedWith P publisher d.name ∧ e.name = d.name
      ∧ e.capabilityGeneration = nextGeneration publisher d := by
  obtain ⟨⟨d, i⟩, hd, henrich⟩ := (mapM_ok_mem h).1 e he
  have hmem : d ∈ authorized := List.fst_mem_of_mem_zipIdx hd
  obtain ⟨found, hfound⟩ := getContact_returns hauthorized d.name
  cases found with
  | none =>
      -- nothing but the own relay is without a contact
      obtain rfl := Except.ok.inj ((enrich_unpaired hfound).symm.trans henrich)
      rcases mem_authorizedDescriptors hauthorized hmem with hnone | hpaired
      · exact absurd hnone hsalt
      · obtain ⟨contact, hcontact⟩ := hpaired
        cases hfound.symm.trans hcontact
  | some contact =>
      have hpaired : PairedWith P publisher d.name := ⟨contact, hfound⟩
      obtain rfl := Except.ok.inj ((enrich_paired hpaired).symm.trans henrich)
      exact ⟨d, hmem, hpaired, rfl, rfl⟩

/-- Every operator's descriptor is published with its next generation. -/
theorem enriched_mem {salts : Nat → BytesN 16} {authorized descriptors : List RelayDescriptor}
    (h : enrichProfileCapabilityDescriptors P publisher salts authorized = .ok descriptors)
    {d : RelayDescriptor} (hd : d ∈ authorized) (hpaired : PairedWith P publisher d.name) :
    ∃ e ∈ descriptors, e.name = d.name ∧ e.capabilityIssuanceSalt ≠ []
      ∧ e.capabilityGeneration = nextGeneration publisher d := by
  obtain ⟨i, hi⟩ := List.getElem?_of_mem hd
  obtain ⟨e, he, henrich⟩ := (mapM_ok_mem h).2 (d, i) (List.mem_zipIdx_iff_getElem?.mpr hi)
  obtain rfl := Except.ok.inj ((enrich_paired hpaired).symm.trans henrich)
  refine ⟨_, he, rfl, ?_, rfl⟩
  intro hnil
  have hdrawn : (salts i).1 = [] := hnil
  have hlength := (salts i).2
  rw [hdrawn] at hlength
  cases hlength

theorem enriched_returns (salts : Nat → BytesN 16) {authorized : List RelayDescriptor}
    (hauthorized : authorizedDescriptors P identity args publisher.store = .ok authorized) :
    ∃ descriptors,
      enrichProfileCapabilityDescriptors P publisher salts authorized = .ok descriptors := by
  refine mapM_returns fun d _ => ?_
  obtain ⟨found, hfound⟩ := getContact_returns hauthorized d.1.name
  cases found with
  | none => exact ⟨_, enrich_unpaired hfound⟩
  | some contact => exact ⟨_, enrich_paired ⟨contact, hfound⟩⟩

/-- Descriptors are allowed where they themselves are authorized. -/
theorem assertPublishRelaysAllowed_self (descriptors : List RelayDescriptor) :
    assertPublishRelaysAllowed descriptors descriptors = .ok () := by
  have hnone : (descriptors.find? fun d =>
      !(descriptors.map fun a => rstripSlash a.url).contains (rstripSlash d.url)) = none := by
    refine List.find?_eq_none.mpr ?_
    intro d hd
    simp only [Bool.not_eq_true, Bool.not_eq_false', List.contains_iff_mem]
    exact List.mem_map.mpr ⟨d, hd, rfl⟩
  rw [assertPublishRelaysAllowed, hnone]

/-! ### The profile of a publish -/

/-- A publish saves a profile once the local profile and the contacts have been loaded. -/
theorem publishNextProfile_run {current : Option DeliveryProfile}
    {authorized descriptors : List RelayDescriptor}
    (hcurrent : publisher.store.loadLocalProfile P = .ok current)
    (hauthorized : authorizedDescriptors P identity args publisher.store = .ok authorized)
    (hdescriptors : enrichProfileCapabilityDescriptors P publisher args.salts authorized
      = .ok descriptors) :
    (publishNextProfile P identity args).run publisher
      = .ok (nextProfile P identity args current descriptors)
        { publisher with
          store := publisher.store.saveLocalProfile P
            (nextProfile P identity args current descriptors) } := by
  rw [publishNextProfile, run_get_bind]
  exact run_orRaise_bind_ok.mpr ⟨current, hcurrent,
    run_orRaise_bind_ok.mpr ⟨authorized, hauthorized,
      run_orRaise_bind_ok.mpr ⟨descriptors, hdescriptors,
        run_orRaise_bind_ok.mpr ⟨(), assertPublishRelaysAllowed_self descriptors, rfl⟩⟩⟩⟩

theorem mem_publishedBy {command : Command} {profile : DeliveryProfile} :
    profile ∈ publishedBy P identity publisher command
      ↔ ∃ args current authorized descriptors, command = .publish args
        ∧ publisher.store.loadLocalProfile P = .ok current
        ∧ authorizedDescriptors P identity args publisher.store = .ok authorized
        ∧ enrichProfileCapabilityDescriptors P publisher args.salts authorized = .ok descriptors
        ∧ profile = nextProfile P identity args current descriptors := by
  cases command with
  | granted relayName grant authPrivate issuanceSalt relayTlsSpkiSha256 => simp [publishedBy]
  | other store => simp [publishedBy]
  | publish args =>
      rw [publishedBy, Option.mem_toList]
      constructor
      · intro h
        cases hrun : (publishNextProfile P identity args).run publisher with
        | error e publisher' =>
            rw [hrun] at h
            cases h
        | ok published publisher' =>
            rw [hrun] at h
            obtain rfl := Option.some.inj h
            rw [publishNextProfile, run_get_bind] at hrun
            obtain ⟨current, hcurrent, hrun⟩ := run_orRaise_bind_ok.mp hrun
            obtain ⟨authorized, hauthorized, hrun⟩ := run_orRaise_bind_ok.mp hrun
            obtain ⟨descriptors, hdescriptors, hrun⟩ := run_orRaise_bind_ok.mp hrun
            obtain ⟨-, -, hrun⟩ := run_orRaise_bind_ok.mp hrun
            refine ⟨args, current, authorized, descriptors, rfl, hcurrent, hauthorized,
              hdescriptors, ?_⟩
            cases hrun
            rfl
      · rintro ⟨_, current, authorized, descriptors, heq, hcurrent, hauthorized, hdescriptors, rfl⟩
        cases heq
        rw [publishNextProfile_run hcurrent hauthorized hdescriptors]
        rfl

theorem relayDescriptors_nextProfile {current : Option DeliveryProfile}
    {descriptors : List RelayDescriptor} :
    (nextProfile P identity args current descriptors).relayDescriptors = descriptors := rfl

/-- One publish goes forward from an earlier profile when the earlier one is covered. -/
theorem forward_publishedBy_iff {command : Command} {earlier : DeliveryProfile} :
    (∀ profile ∈ publishedBy P identity publisher command, Forward earlier profile)
      ↔ ∀ descriptors, Advertises P identity publisher command descriptors →
        ∀ descriptor ∈ descriptors, PairedWith P publisher descriptor.name →
          Covers publisher descriptor earlier := by
  constructor
  · rintro h authorized ⟨args, rfl, ⟨current, hcurrent⟩, hauthorized⟩ d hd hpaired
    obtain ⟨descriptors, hdescriptors⟩ := enriched_returns args.salts hauthorized
    have hforward := h _ (mem_publishedBy.mpr
      ⟨args, current, authorized, descriptors, rfl, hcurrent, hauthorized, hdescriptors, rfl⟩)
    obtain ⟨e, he, hname, hsalt, hgeneration⟩ := enriched_mem hdescriptors hd hpaired
    rw [covers_iff]
    intro old hold hsame holdsalt
    rw [← hgeneration]
    exact hforward old hold e he (hsame.trans hname.symm) holdsalt hsalt
  · rintro h profile hprofile old hold e he hsame holdsalt hsalt
    obtain ⟨args, current, authorized, descriptors, rfl, hcurrent, hauthorized, hdescriptors, rfl⟩ :=
      mem_publishedBy.mp hprofile
    rw [relayDescriptors_nextProfile] at he
    obtain ⟨d, hd, hpaired, hname, hgeneration⟩ := mem_enriched hauthorized hdescriptors he hsalt
    have hcovers := h authorized ⟨args, rfl, ⟨current, hcurrent⟩, hauthorized⟩ d hd hpaired
    rw [hgeneration]
    exact covers_iff.mp hcovers old hold (hsame.trans hname) holdsalt

theorem pairwise_publishedBy (command : Command) :
    (publishedBy P identity publisher command).Pairwise Forward := by
  cases command with
  | publish args =>
      rw [publishedBy]
      cases value? ((publishNextProfile P identity args).run publisher) with
      | none => exact List.Pairwise.nil
      | some profile => exact List.pairwise_singleton _ _
  | granted relayName grant authPrivate issuanceSalt relayTlsSpkiSha256 => exact List.Pairwise.nil
  | other store => exact List.Pairwise.nil

/-! ### Runs that go forward -/

/-- The induction over the commands, with the profiles published before them. -/
theorem coveredRun_iff {earlier : List DeliveryProfile} {commands : List Command} :
    CoveredRun P U identity earlier publisher commands
      ↔ (∀ old ∈ earlier, ∀ profile ∈ publishedProfiles P U identity publisher commands,
          Forward old profile)
        ∧ (publishedProfiles P U identity publisher commands).Pairwise Forward := by
  induction commands generalizing earlier publisher with
  | nil => simp [CoveredRun, publishedProfiles]
  | cons command commands ih =>
      rw [CoveredRun, ih, publishedProfiles, List.pairwise_append]
      have hstep : (∀ descriptors, Advertises P identity publisher command descriptors →
            ∀ profile ∈ earlier, ∀ descriptor ∈ descriptors, PairedWith P publisher descriptor.name →
              Covers publisher descriptor profile)
          ↔ ∀ old ∈ earlier, ∀ profile ∈ publishedBy P identity publisher command,
              Forward old profile := by
        constructor
        · intro h old hold
          exact forward_publishedBy_iff.mpr fun descriptors hadvertises =>
            h descriptors hadvertises old hold
        · intro h descriptors hadvertises old hold
          exact forward_publishedBy_iff.mp (h old hold) descriptors hadvertises
      have hself : (publishedBy P identity publisher command).Pairwise Forward :=
        pairwise_publishedBy command
      rw [hstep]
      constructor
      · rintro ⟨hnow, hlater, hrest⟩
        refine ⟨?_, hself, hrest, ?_⟩
        · intro old hold profile hprofile
          rcases List.mem_append.mp hprofile with hprofile | hprofile
          · exact hnow old hold profile hprofile
          · exact hlater old (List.mem_append_left _ hold) profile hprofile
        · intro profile hprofile later hlate
          exact hlater profile (List.mem_append_right _ hprofile) later hlate
      · rintro ⟨hall, -, hrest, hacross⟩
        refine ⟨?_, ?_, hrest⟩
        · intro old hold profile hprofile
          exact hall old hold profile (List.mem_append_left _ hprofile)
        · intro old hold profile hprofile
          rcases List.mem_append.mp hold with hold | hold
          · exact hall old hold profile (List.mem_append_right _ hprofile)
          · exact hacross old hold profile hprofile

/-- In a run of publish commands, between any other commands and from any state, the generations
of every operator grow from each published profile to each later one if and only if every
publish is covered. -/
theorem generations_forward_iff (P : Packages) (U : UrlTables) (identity : Identity)
    (publisher : Publisher) (commands : List Command) :
    (publishedProfiles P U identity publisher commands).Pairwise Forward
      ↔ CoveredRun P U identity [] publisher commands := by
  rw [coveredRun_iff]
  exact ⟨fun h => ⟨nofun, h⟩, fun h => h.2⟩

/-! ### Grants that are recorded -/

/-- The table of grants has a generation of the operator that is as new as `n`. -/
def Recorded (publisher : Publisher) (name : String) (n : Int) : Prop :=
  ∃ r ∈ publisher.capabilityGrants, r.relayName = name ∧ n ≤ r.capabilityGeneration

theorem le_newestGranted {name : String} {n : Int} (h : Recorded publisher name n) :
    n ≤ newestGranted publisher name := by
  obtain ⟨r, hr, rfl, hn⟩ := h
  unfold newestGranted Publisher.loadCapabilityGrant
  have hmem : r ∈ orderBy (fun r => -r.capabilityGeneration)
      (publisher.capabilityGrants.filter fun x => x.relayName = r.relayName) :=
    (orderBy_perm _ _).mem_iff.mpr (List.mem_filter.mpr ⟨hr, by simp⟩)
  have hsorted := pairwise_orderBy (fun r : StoredGrant => -r.capabilityGeneration)
    (publisher.capabilityGrants.filter fun x => x.relayName = r.relayName)
  generalize orderBy (fun r : StoredGrant => -r.capabilityGeneration)
    (publisher.capabilityGrants.filter fun x => x.relayName = r.relayName) = rows at hmem hsorted
  cases rows with
  | nil => cases hmem
  | cons newest rows =>
      show n ≤ newest.capabilityGeneration
      rcases List.mem_cons.mp hmem with rfl | hmem
      · exact hn
      · have hle := (List.pairwise_cons.mp hsorted).1 r hmem
        omega

/-- Nothing that was recorded is lost. -/
def KeepsGrants (publisher publisher' : Publisher) : Prop :=
  ∀ name n, Recorded publisher name n → Recorded publisher' name n

theorem KeepsGrants.steps {publisher' : Publisher} {name : String} {n : Int}
    (h : Relation.ReflTransGen KeepsGrants publisher publisher') (hr : Recorded publisher name n) :
    Recorded publisher' name n := by
  induction h with
  | refl => exact hr
  | tail _ hstep ih => exact hstep name n ih

/-- A row gives way to one of the same operator and generation only. -/
theorem steps_saveCapabilityGrant (relayName : String) (grant : CapabilityGrant)
    (authPrivate issuanceSalt relayTlsSpkiSha256 : Bytes) :
    Steps KeepsGrants (Publisher.saveCapabilityGrant P relayName grant authPrivate issuanceSalt
      relayTlsSpkiSha256) := by
  refine .bind (.orRaise _) fun _ => .bind (.orRaise _) fun _ => .modify fun publisher => ?_
  rintro name n ⟨r, hr, rfl, hn⟩
  by_cases hkey : r.key = (relayName, grant.capabilityGeneration)
  · obtain ⟨hname, hgeneration⟩ := Prod.mk.inj hkey
    exact ⟨_, Table.mem_upsert.mpr (Or.inr rfl), hname.symm, hgeneration ▸ hn⟩
  · exact ⟨r, Table.mem_upsert.mpr (Or.inl ⟨hr, hkey⟩), rfl, hn⟩

theorem steps_issueCapabilityFromRelay (answers : RelayAnswers) (contact : Contact)
    (relayUrl relayName : String) (operatorProfile : Option DeliveryProfile) :
    Steps KeepsGrants (issueCapabilityFromRelay P U answers identity contact relayUrl relayName
      operatorProfile) := by
  unfold issueCapabilityFromRelay
  refine .bind .get fun publisher => .bind (.orRaise _) fun tlsPin => .bind (.orRaise _) ?_
  rintro ⟨generation, issuanceSalt⟩
  refine .bind (.orRaise _) ?_
  rintro ⟨capabilityId, authPrivate⟩
  refine .bind (.orRaise _) fun ticket => .bind (.orRaise _) fun superseded =>
    .bind (.orRaise _) fun response => .guard (.bind (.orRaise _) fun grant => ?_)
  exact .bind (steps_saveCapabilityGrant _ _ _ _ _) fun _ => .pure _

theorem steps_syncDescriptors (answers : RelayAnswers) (profile : DeliveryProfile)
    (descriptors : List RelayDescriptor) :
    Steps KeepsGrants (syncDescriptors P U answers identity profile descriptors) := by
  induction descriptors with
  | nil => exact .pure _
  | cons descriptor descriptors ih =>
      unfold syncDescriptors
      refine .ite _ ih (.bind .get fun publisher => .bind (.orRaise _) fun found => ?_)
      cases found with
      | none => exact ih
      | some operatorContact =>
          refine .bind (.orRaise _) fun supported => .ite _ ?_ ih
          exact .bind (steps_issueCapabilityFromRelay _ _ _ _ _) fun grant =>
            .bind ih fun grants => .pure _

theorem steps_publishNextProfile (args : Publish) :
    Steps KeepsGrants (publishNextProfile P identity args) :=
  .bind .get fun _ => .bind (.orRaise _) fun _ => .bind (.orRaise _) fun _ =>
    .bind (.orRaise _) fun _ => .bind (.orRaise _) fun _ =>
      .bind (.modify fun _ _ _ h => h) fun _ => .pure _

/-- Whatever a command does, the grants that were recorded stay recorded. -/
theorem recorded_execute {command : Command} {name : String} {n : Int}
    (h : Recorded publisher name n) : Recorded (execute P U identity publisher command) name n := by
  cases command with
  | publish args =>
      have hsteps : Steps KeepsGrants (profilePublish P U identity args) :=
        .bind (steps_publishNextProfile args) fun profile =>
          .bind (steps_syncDescriptors _ _ _) fun _ => .pure _
      exact KeepsGrants.steps (hsteps publisher) h
  | granted relayName grant authPrivate issuanceSalt relayTlsSpkiSha256 =>
      exact KeepsGrants.steps (steps_saveCapabilityGrant _ _ _ _ _ publisher) h
  | other store => exact h

/-- After every publish of the run the generations it has published are in the table of grants. -/
def RecordedRun (P : Packages) (U : UrlTables) (identity : Identity) :
    Publisher → List Command → Prop
  | _, [] => True
  | publisher, command :: commands =>
      (∀ profile ∈ publishedBy P identity publisher command, ∀ d ∈ profile.relayDescriptors,
          d.capabilityIssuanceSalt ≠ [] →
            Recorded (execute P U identity publisher command) d.name d.capabilityGeneration)
        ∧ RecordedRun P U identity (execute P U identity publisher command) commands

theorem coveredRun_of_recorded {earlier : List DeliveryProfile} {commands : List Command}
    (hearlier : ∀ profile ∈ earlier, ∀ d ∈ profile.relayDescriptors, d.capabilityIssuanceSalt ≠ [] →
      Recorded publisher d.name d.capabilityGeneration)
    (h : RecordedRun P U identity publisher commands) :
    CoveredRun P U identity earlier publisher commands := by
  induction commands generalizing earlier publisher with
  | nil => exact trivial
  | cons command commands ih =>
      refine ⟨?_, ih ?_ h.2⟩
      · intro descriptors _ profile hprofile descriptor _ _ d hd hname hsalt
        exact Or.inl (le_newestGranted (hname ▸ hearlier profile hprofile d hd hsalt))
      · intro profile hprofile d hd hsalt
        rcases List.mem_append.mp hprofile with hold | hnew
        · exact recorded_execute (hearlier profile hold d hd hsalt)
        · exact h.1 profile hnew d hd hsalt

/-- Where every publish records the grants it asks for, the generations move forward. -/
theorem forward_of_recorded {commands : List Command}
    (h : RecordedRun P U identity publisher commands) :
    (publishedProfiles P U identity publisher commands).Pairwise Forward := by
  have hcovered : CoveredRun P U identity [] publisher commands := coveredRun_of_recorded nofun h
  exact (coveredRun_iff.mp hcovered).2

/-- A relay without capabilities leaves everything as it is. -/
theorem sync_unsupported {answers : RelayAnswers} (hanswers : ∀ url, answers.supports url = .ok false)
    (profile : DeliveryProfile) (descriptors : List RelayDescriptor) :
    after ((syncDescriptors P U answers identity profile descriptors).run publisher)
      = publisher := by
  induction descriptors with
  | nil => rfl
  | cons descriptor descriptors ih =>
      unfold syncDescriptors
      by_cases hsalt : descriptor.capabilityIssuanceSalt = []
      · rw [if_pos hsalt]
        exact ih
      · rw [if_neg hsalt, run_get_bind, EStateM.run_bind]
        cases publisher.store.getContact P descriptor.name with
        | error e => rfl
        | ok found =>
            cases found with
            | none => exact ih
            | some operatorContact =>
                rw [run_orRaise_ok]
                show after ((orRaise (answers.supports descriptor.url) >>= _).run publisher) = _
                rw [EStateM.run_bind, hanswers]
                exact ih

end Publishing

/-! ### A generation that is published twice -/

namespace GenerationSample

export CreatedSample (packages cborLaws identity relay)

/-- The operator of a relay, as Alice has stored her. -/
def operator : Contact :=
  { name := "relay"
    signingPublic := List.replicate 32 5
    agreementPublic := List.replicate 32 6
    masterSecret := List.replicate 32 9
    conversationId := "pairwise_alice_relay"
    deliveryProfile := some (CreatedSample.profile "https://relay") }

def start : Publisher := { store := ({} : FileLocalStore).saveContact packages operator }

/-- A publish while the relay has no capabilities. -/
def publish (salt : UInt8) : Publish :=
  { wrapSecret := BytesN.fill 32 3
    endpointTlsSpkiSha256 := List.replicate 32 8
    salts := fun _ => BytesN.fill 16 salt
    now := 1700000000000
    answers :=
      { supports := fun _ => .ok false
        issue := fun _ _ => .error (.httpError "unreachable")
        drawn := BytesN.fill 16 0
        now := 1700000000000 } }

/-- The operator's relay with the pin of her endpoint. -/
def pinned : RelayDescriptor :=
  { relay "https://relay" with tlsSpkiSha256 := List.replicate 32 7 }

/-- What Alice publishes for it. -/
def advertised (salt : UInt8) : RelayDescriptor :=
  { pinned with
    capabilityGeneration := 1
    capabilityIssuanceSalt := List.replicate 16 salt }

theorem getContact_relay {publisher : Publisher}
    (h : publisher.store.contacts = start.store.contacts) :
    publisher.store.getContact packages "relay" = .ok (some operator.readBack) := by
  have hfind : Table.find ContactDict.name "relay" publisher.store.contacts
      = some (operator.toDict packages) := by
    rw [h]
    exact Table.find_upsert_self (r := operator.toDict packages)
  rw [FileLocalStore.getContact, hfind, mapPresent, operator.fromDict_toDict_eq cborLaws]
  rfl

theorem authorized_relay {publisher : Publisher} (salt : UInt8)
    (h : publisher.store.contacts = start.store.contacts) :
    authorizedDescriptors packages identity (publish salt) publisher.store = .ok [pinned] := by
  have hnames : publisher.store.listContacts = ["relay"] := by
    rw [FileLocalStore.listContacts, h]
    rfl
  have hoperated : relaysOperatedByContact operator.readBack = [pinned] := by decide +kernel
  refine bind_ok.mpr ⟨[some operator.readBack], ?_, ?_⟩
  · rw [hnames, List.mapM_cons, getContact_relay h]
    rfl
  · show Except.ok (firstOfEachUrl [] (relaysOperatedByContact operator.readBack ++ [])) = _
    rw [hoperated]
    rfl

theorem enriched_relay {publisher : Publisher} (salt : UInt8)
    (h : publisher.store.contacts = start.store.contacts) (hgrants : publisher.capabilityGrants = []) :
    enrichProfileCapabilityDescriptors packages publisher (publish salt).salts [pinned]
      = .ok [advertised salt] := by
  have hnext : nextGeneration publisher pinned = 1 := by
    rw [nextGeneration, newestGranted, Publisher.loadCapabilityGrant, hgrants]
    rfl
  have hpaired : PairedWith packages publisher pinned.name := ⟨_, getContact_relay h⟩
  have henrich := @enrich_paired _ _ ((publish salt).salts 0) pinned hpaired
  rw [hnext] at henrich
  show (do
      let first ← enrichDescriptorCapabilities packages publisher ((publish salt).salts 0) pinned
      return [first]) = _
  rw [henrich]
  rfl

/-- One publish, from a state in which no grant is stored. -/
theorem publish_relay {publisher : Publisher} {current : Option DeliveryProfile} (salt : UInt8)
    (h : publisher.store.contacts = start.store.contacts) (hgrants : publisher.capabilityGrants = [])
    (hcurrent : publisher.store.loadLocalProfile packages = .ok current) :
    publishedBy packages identity publisher (.publish (publish salt))
        = [nextProfile packages identity (publish salt) current [advertised salt]]
      ∧ execute packages MovedSample.tables identity publisher (.publish (publish salt))
        = { publisher with
            store := publisher.store.saveLocalProfile packages
              (nextProfile packages identity (publish salt) current [advertised salt]) } := by
  have hrun := publishNextProfile_run hcurrent (authorized_relay salt h)
    (enriched_relay salt h hgrants)
  constructor
  · rw [publishedBy, hrun]
    rfl
  · let saved : Publisher := { publisher with
      store := publisher.store.saveLocalProfile packages
        (nextProfile packages identity (publish salt) current [advertised salt]) }
    have hsync : after ((syncDescriptors packages MovedSample.tables (publish salt).answers identity
        (nextProfile packages identity (publish salt) current [advertised salt])
        [advertised salt]).run saved) = saved :=
      sync_unsupported (fun _ => rfl) _ _
    rw [execute, profilePublish, EStateM.run_bind, hrun]
    refine Eq.trans ?_ hsync
    show after ((syncProfileCapabilityGrants packages MovedSample.tables _ identity _
      >>= fun _ => pure PUnit.unit).run _) = after ((syncProfileCapabilityGrants packages
        MovedSample.tables _ identity _).run _)
    rw [EStateM.run_bind]
    cases (syncProfileCapabilityGrants packages MovedSample.tables _ identity _).run _ with
    | ok grants publisher' => rfl
    | error e publisher' => rfl

end GenerationSample

open GenerationSample in
/-- Alice publishes twice while the relay of an operator has no capabilities: both profiles carry
the generation 1 for the operator, with two salts. -/
theorem generation_published_twice :
    ∃ first second,
      publishedProfiles packages MovedSample.tables identity start
          [.publish (publish 1), .publish (publish 2)] = [first, second]
        ∧ advertised 1 ∈ first.relayDescriptors ∧ advertised 2 ∈ second.relayDescriptors
        ∧ ¬ [first, second].Pairwise Forward := by
  let store := start.store.saveLocalProfile packages
    (nextProfile packages identity (publish 1) none [advertised 1])
  have hfirst := @publish_relay start none 1 rfl rfl rfl
  have hload : store.loadLocalProfile packages
      = .ok (some (nextProfile packages identity (publish 1) none [advertised 1]).canonical) :=
    FileLocalStore.loadLocalProfile_saved cborLaws rfl
  have hsecond := @publish_relay { start with store } _ 2 rfl rfl hload
  refine ⟨nextProfile packages identity (publish 1) none [advertised 1],
    nextProfile packages identity (publish 2)
      (some (nextProfile packages identity (publish 1) none [advertised 1]).canonical)
      [advertised 2],
    ?_, List.mem_singleton_self _, List.mem_singleton_self _, ?_⟩
  · rw [publishedProfiles, hfirst.1, hfirst.2, publishedProfiles, hsecond.1]
    rfl
  · intro hpairwise
    have hforward := (List.pairwise_cons.mp hpairwise).1 _ (List.mem_singleton_self _)
    have hlt := hforward (advertised 1) (List.mem_singleton_self _) (advertised 2)
      (List.mem_singleton_self _) rfl (by decide) (by decide)
    exact absurd hlt (by decide)

end Yakr
