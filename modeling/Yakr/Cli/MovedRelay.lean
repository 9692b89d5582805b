import Yakr.Cli.Addresses
import Yakr.Store.Pins

/-!
# Yakr.Cli.MovedRelay

**A relay that has moved.** While a presence is fresh, the lists of relays hold the address it
announces instead of the one in the profile, and requests go there. The pin of that address is
looked up among the addresses of the profiles. So a moved relay is accepted for exactly the
presences whose address some profile lists with the pin already, and that no word comes before.
-/

namespace Yakr

open Lib Fallback

variable {P : Packages} {U : UrlTables} {identity : Except PyExc (Option Identity)}
  {store : FileLocalStore}

/-! ### Addresses no profile lists -/

/-- A relay or a direct hint of the profile is at `n`. -/
def Lists (U : UrlTables) (n : String) (profile : DeliveryProfile) : Prop :=
  (∃ d ∈ profile.relayDescriptors, endpointBaseUrl U d.url = .ok n)
    ∨ ∃ hint ∈ profile.directHints, endpointBaseUrl U hint = .ok n

/-- The profiles a lookup reads: the own one, those of the contacts, and that of the contact
the request is for. -/
inductive Reads (P : Packages) (store : FileLocalStore) (contact : Option Contact) :
    DeliveryProfile → Prop
  | own {profile} : store.loadLocalProfile P = .ok (some profile) → Reads P store contact profile
  | stored {name profile} : name ∈ store.listContacts →
      contactProfile P store name = .ok (some profile) → Reads P store contact profile
  | peer {c profile} : contact = some c → c.deliveryProfile = some profile →
      Reads P store contact profile

theorem lists_of_ownWords {n : String} {pin : Bytes} {profile : DeliveryProfile}
    (h : .ok pin ∈ ownWords U n profile) : Lists U n profile := by
  rw [ownWords, List.mem_flatMap] at h
  obtain ⟨d, hd, h⟩ := h
  obtain ⟨m, hm, h⟩ := mem_orRaised.mp h
  split at h
  · rename_i hpin
    exact Or.inl ⟨d, hd, hpin.1 ▸ hm⟩
  · cases h

theorem lists_of_operatorWords {operators : List (String × Bytes)} {contact : Contact}
    {n : String} {pin : Bytes} {profile : DeliveryProfile}
    (h : .ok pin ∈ operatorWords U operators contact n profile) : Lists U n profile := by
  rw [operatorWords, List.mem_flatMap] at h
  obtain ⟨d, hd, h⟩ := h
  obtain ⟨m, hm, h⟩ := mem_orRaised.mp h
  split at h
  · rename_i hn
    exact Or.inl ⟨d, hd, hn ▸ hm⟩
  · cases h

theorem lists_of_hintWords {n : String} {pin : Bytes} {profile : DeliveryProfile}
    (h : .ok pin ∈ hintWords U n profile) : Lists U n profile := by
  rw [hintWords, List.mem_flatMap] at h
  obtain ⟨hint, hhint, h⟩ := h
  obtain ⟨m, hm, h⟩ := mem_orRaised.mp h
  split at h
  · rename_i hpin
    exact Or.inr ⟨hint, hhint, hpin.1 ▸ hm⟩
  · cases h

theorem lists_of_pinEntries {n : String} {pin : Bytes} {profile : DeliveryProfile}
    (h : .ok (n, pin) ∈ pinEntries U profile) : Lists U n profile := by
  obtain ⟨d, hd, hbase, -⟩ := mem_keyed.mp h
  exact Or.inl ⟨d, (List.mem_filter.mp hd).1, hbase⟩

/-- An address with an operator is one a stored profile lists. -/
theorem lists_of_urlEntries {n operator : String} (contact : Option Contact)
    (h : .ok (n, operator) ∈ urlEntries P U identity store) :
    ∃ profile, Reads P store contact profile ∧ Lists U n profile := by
  rw [urlEntries, List.mem_append, mem_reading, mem_contactEntries] at h
  rcases h with ⟨profile, hown, h⟩ | ⟨name, hname, profile, hstored, h⟩
  · refine ⟨profile, .own hown, ?_⟩
    rcases List.mem_append.mp h with h | h
    · obtain ⟨d, hd, hbase, -⟩ := mem_keyed.mp h
      exact Or.inl ⟨d, hd, hbase⟩
    · obtain ⟨hint, hhint, h⟩ := List.mem_flatMap.mp h
      obtain ⟨who, -, h⟩ := mem_reading.mp h
      obtain ⟨hint', hmem, hbase, -⟩ :=
        (@mem_keyed _ _ (endpointBaseUrl U) (fun _ => who.name) n operator [hint]).mp h
      rw [List.mem_singleton.mp hmem] at hbase
      exact Or.inr ⟨hint, hhint, hbase⟩
  · refine ⟨profile, .stored hname hstored, ?_⟩
    rcases List.mem_append.mp h with h | h
    · obtain ⟨d, hd, hbase, -⟩ := mem_keyed.mp h
      exact Or.inl ⟨d, hd, hbase⟩
    · obtain ⟨hint, hhint, hbase, -⟩ :=
        mem_keyed (f := endpointBaseUrl U) (g := fun _ => name) |>.mp h
      exact Or.inr ⟨hint, hhint, hbase⟩

/-- Where no profile lists the address, there is no pin for it. -/
theorem words_unlisted {contact : Option Contact} {n : String}
    (h : ∀ profile, Reads P store contact profile → ¬ Lists U n profile) (pin : Bytes) :
    .ok pin ∉ words P U identity store contact n := by
  intro hpin
  simp only [words, operatorLevel, List.mem_append, mem_raised, mem_assigned, false_or] at hpin
  rcases hpin with hown | hrelay | hcontact | hurl
  · obtain ⟨c, profile, hc, hprofile, hword⟩ := mem_contactWords.mp hown
    exact h profile (.peer hc hprofile) (lists_of_ownWords hword)
  · rw [relayEntries, List.mem_append, mem_reading, mem_contactEntries] at hrelay
    rcases hrelay with ⟨profile, hown, hword⟩ | ⟨name, hname, profile, hstored, hword⟩
    · exact h profile (.own hown) (lists_of_pinEntries hword)
    · exact h profile (.stored hname hstored) (lists_of_pinEntries hword)
  · obtain ⟨c, profile, hc, hprofile, hword⟩ := mem_contactWords.mp hcontact
    rcases List.mem_append.mp hword with hword | hword
    · exact h profile (.peer hc hprofile) (lists_of_operatorWords hword)
    · exact h profile (.peer hc hprofile) (lists_of_hintWords hword)
  · -- the operator of the address comes from a stored profile
    obtain ⟨pin', hpin', -⟩ := List.mem_map.mp hurl
    obtain ⟨operator, hoperator, -⟩ := Option.bind_eq_some_iff.mp (Option.mem_toList.mp hpin')
    have hmem := List.mem_reverse.mp (List.mem_of_head? hoperator)
    obtain ⟨profile, hreads, hlists⟩ :=
      lists_of_urlEntries contact (mem_values.mp (mem_valuesOf.mp hmem))
    exact h profile hreads hlists

/-! ### The pin of a moved relay -/

/-- **When a moved relay keeps its pin.** For the address of a fresh presence the lookup
returns the pin of the descriptor exactly when it is the first word on that address; and at
an address no profile lists it returns no pin. -/
theorem movedRelay_pinned_iff {d : RelayDescriptor} {x : PresencePayload} {now : Int}
    (hpresence : store.loadPresence d.name = some x) (hfresh : isPresenceFresh x now = true)
    (contact : Option Contact) :
    (resolveTlsPinForUrl P U identity (resolveOperatorUrl (some store) d.name d.url now)
          (some store) contact = .ok (some d.tlsSpkiSha256)
        ↔ ∃ n, endpointBaseUrl U x.reachableUrl = .ok n
          ∧ (words P U identity store contact n).head? = some (.ok d.tlsSpkiSha256))
      ∧ ∀ n, endpointBaseUrl U x.reachableUrl = .ok n →
        (∀ profile, Reads P store contact profile → ¬ Lists U n profile) →
        ∀ pin, resolveTlsPinForUrl P U identity (resolveOperatorUrl (some store) d.name d.url now)
          (some store) contact ≠ .ok (some pin) := by
  have hurl : resolveOperatorUrl (some store) d.name d.url now = rstripSlash x.reachableUrl := by
    rw [resolveOperatorUrl, Option.bind_some, hpresence]
    exact if_pos hfresh
  rw [hurl, resolveTlsPinForUrl_eq, endpointBaseUrl_rstripSlash]
  cases hbase : endpointBaseUrl U x.reachableUrl with
  | error e => simp
  | ok n =>
      constructor
      · simp only [first_eq_some, Except.ok.injEq, exists_eq_left']
      · intro m hm hunlisted pin hpin
        cases hm
        exact words_unlisted hunlisted pin (List.mem_of_head? (first_eq_some.mp hpin))

namespace MovedSample

open Ends.Sample (packages)

def tables : UrlTables := { lower := id, nfkcSafe := fun _ => true, bracketedHost := fun _ => true }

/-- Carol's relay, with its pin. -/
def relay : RelayDescriptor :=
  { name := "carol"
    role := "mailbox"
    url := "https://relay.example"
    wrapSecret := []
    tlsSpkiSha256 := List.replicate 32 7 }

/-- Alice's profile, which lists it. -/
def profile : DeliveryProfile := { Ends.Sample.profile "alice" with relayDescriptors := [relay] }

/-- Carol announces that her relay is at `url`. -/
def announced (url : String) : PresencePayload := PresencePayload.forOperator "carol" url 0

/-- Alice's store. -/
def alice (url : String) : FileLocalStore :=
  { localProfile := some (profile.toB64 packages), relayPresence := [announced url] }

theorem loadLocalProfile_alice (url : String) :
    (alice url).loadLocalProfile packages = .ok (some profile) := by
  rw [FileLocalStore.loadLocalProfile_saved (codedPackages_cborLaws plainPackages)
    (p := profile) rfl]
  have hcanonical : profile.canonical = profile := by decide +kernel
  rw [hcanonical]

theorem base_relay : endpointBaseUrl tables relay.url = .ok relay.url := by decide +kernel

theorem words_alice (url n : String) :
    (words packages tables (.ok none) (alice url) none n).head?
      = if relay.url = n then some (.ok relay.tlsSpkiSha256) else none := by
  have hpins : relayEntries packages tables (alice url) = [.ok (relay.url, relay.tlsSpkiSha256)] := by
    rw [relayEntries, loadLocalProfile_alice]
    show pinEntries tables profile ++ [] ++ [] = _
    rw [List.append_nil, List.append_nil]
    show [do return (← endpointBaseUrl tables relay.url, relay.tlsSpkiSha256)] = _
    rw [base_relay]
    rfl
  have hoperators : operatorEntries packages (.ok none) (alice url) = [] := rfl
  have hurls : urlEntries packages tables (.ok none) (alice url)
      = [.ok (relay.url, relay.name)] := by
    rw [urlEntries, loadLocalProfile_alice]
    show [do return (← endpointBaseUrl tables relay.url, relay.name)] ++ [] ++ [] ++ [] = _
    rw [base_relay]
    rfl
  rw [words, operatorLevel, hpins, hoperators, hurls]
  by_cases hn : relay.url = n
  · simp [contactWords, assigned, raised, values, valuesOf, hn]
  · simp [contactWords, assigned, raised, values, valuesOf, hn]

end MovedSample

open MovedSample in
/-- A presence at the address of the profile keeps the pin. -/
theorem staying_relay_pinned :
    resolveTlsPinForUrl Ends.Sample.packages tables (.ok none)
        (resolveOperatorUrl (some (alice "https://relay.example")) "carol"
          "https://relay.example" 1) (some (alice "https://relay.example")) none
      = .ok (some (List.replicate 32 7)) := by
  have hiff := (@movedRelay_pinned_iff Ends.Sample.packages tables (.ok none)
    (alice "https://relay.example") relay (announced "https://relay.example") 1
    (by decide +kernel) (by decide +kernel) none).1
  refine hiff.mpr ⟨relay.url, base_relay, ?_⟩
  rw [words_alice, if_pos rfl]

open MovedSample in
/-- At a new address the relay is refused. -/
theorem moved_relay_unpinned :
    (alice "https://moved.example").loadLocalProfile Ends.Sample.packages = .ok (some profile)
      ∧ relay ∈ profile.relayDescriptors
      ∧ relay.tlsSpkiSha256 ≠ []
      ∧ (alice "https://moved.example").loadPresence relay.name
        = some (announced "https://moved.example")
      ∧ isPresenceFresh (announced "https://moved.example") 1
      ∧ resolveTlsPinForUrl Ends.Sample.packages tables (.ok none)
          (resolveOperatorUrl (some (alice "https://moved.example")) relay.name relay.url 1)
          (some (alice "https://moved.example")) none
        ≠ .ok (some relay.tlsSpkiSha256) := by
  refine ⟨loadLocalProfile_alice _, by decide +kernel, by decide, by decide +kernel,
    by decide +kernel, ?_⟩
  have hurl : resolveOperatorUrl (some (alice "https://moved.example")) relay.name relay.url 1
      = "https://moved.example" := by decide +kernel
  have hbase : endpointBaseUrl tables "https://moved.example" = .ok "https://moved.example" := by
    decide +kernel
  have hne : relay.url ≠ "https://moved.example" := by decide
  rw [hurl, resolveTlsPinForUrl_eq, hbase]
  intro hpin
  have hhead := first_eq_some.mp hpin
  rw [words_alice, if_neg hne] at hhead
  cases hhead

end Yakr
