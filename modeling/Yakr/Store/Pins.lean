import Yakr.Core.HttpClient
import Yakr.Lib.Fallback
import Yakr.Store.Profiles

/-!
# Yakr.Store.Pins

**Who says what about an address.** `resolve_tls_pin_for_url` asks the contact's own relays,
the relays of every stored profile, the pins of the operators under the contact's names and
addresses, and last the operators of all addresses. Each of these is a list of words on the
address, and the resolver returns the first word of all of them (`resolveTlsPinForUrl_eq`).
A profile whose address cannot be parsed is a word, too: it raises.
-/

namespace Yakr

open Lib Fallback

variable (P : Packages) (U : UrlTables)

/-! ### Entries -/

/-- The pins a profile assigns to the addresses of its relays. -/
def pinEntries (profile : DeliveryProfile) : List (Except PyExc (String × Bytes)) :=
  (profile.relayDescriptors.filter fun d => d.tlsSpkiSha256 ≠ []).map fun d => do
    return (← endpointBaseUrl U d.url, d.tlsSpkiSha256)

/-- The words of the stored profile of one contact. -/
def contactEntries {α : Type} (f : String → DeliveryProfile → List (Except PyExc α))
    (store : FileLocalStore) (name : String) : List (Except PyExc α) :=
  (present (contactProfile P store name)).flatMap (orRaised (f name))

/-- The relay pins of all stored profiles, the own one first. -/
def relayEntries (store : FileLocalStore) : List (Except PyExc (String × Bytes)) :=
  (present (store.loadLocalProfile P)).flatMap (orRaised (pinEntries U))
    ++ store.listContacts.flatMap (contactEntries P (fun _ => pinEntries U) store)

/-- The pins of the endpoints of all stored profiles. -/
def operatorEntries (identity : Except PyExc (Option Identity)) (store : FileLocalStore) :
    List (Except PyExc (String × Bytes)) :=
  (present identity).flatMap (orRaised fun identity =>
      (present (store.loadLocalProfile P)).flatMap
        (orRaised fun profile => (endpointPin identity.name profile).map .ok))
    ++ store.listContacts.flatMap
      (contactEntries P (fun name profile => (endpointPin name profile).map .ok) store)

/-- The operators of the relays of a profile. -/
def operatorNameEntries (profile : DeliveryProfile) : List (Except PyExc (String × String)) :=
  profile.relayDescriptors.map fun d => do return (← endpointBaseUrl U d.url, d.name)

/-- The operators of all addresses in stored profiles. -/
def urlEntries (identity : Except PyExc (Option Identity)) (store : FileLocalStore) :
    List (Except PyExc (String × String)) :=
  (present (store.loadLocalProfile P)).flatMap (orRaised fun profile =>
      operatorNameEntries U profile ++ profile.directHints.flatMap fun hint =>
        (present identity).flatMap (orRaised fun identity =>
          [do return (← endpointBaseUrl U hint, identity.name)]))
    ++ store.listContacts.flatMap
      (contactEntries P (fun name profile => operatorNameEntries U profile
        ++ profile.directHints.map fun hint => do return (← endpointBaseUrl U hint, name)) store)

/-! ### Words -/

/-- The pins the contact's own relays have for `n`; each address before is parsed. -/
def ownWords (n : String) (profile : DeliveryProfile) : List (Except PyExc Bytes) :=
  profile.relayDescriptors.flatMap fun d =>
    orRaised (fun m => if m = n ∧ d.tlsSpkiSha256 ≠ [] then [.ok d.tlsSpkiSha256] else [])
      (endpointBaseUrl U d.url)

/-- The pins of the operators of the contact's relays at `n`. -/
def operatorWords (operators : List (String × Bytes)) (contact : Contact) (n : String)
    (profile : DeliveryProfile) : List (Except PyExc Bytes) :=
  profile.relayDescriptors.flatMap fun d =>
    orRaised (fun m =>
        if m = n then
          match operators.reverse.lookup d.name with
          | some pin => [.ok pin]
          | none =>
              if d.name = contact.name ∧ profile.endpointTlsSpkiSha256 ≠ [] then
                [.ok profile.endpointTlsSpkiSha256]
              else []
        else [])
      (endpointBaseUrl U d.url)

/-- The pin of the contact's endpoint, at its direct hints. -/
def hintWords (n : String) (profile : DeliveryProfile) : List (Except PyExc Bytes) :=
  profile.directHints.flatMap fun hint =>
    orRaised (fun m =>
        if m = n ∧ profile.endpointTlsSpkiSha256 ≠ [] then [.ok profile.endpointTlsSpkiSha256]
        else [])
      (endpointBaseUrl U hint)

/-- The words of the contact the request is made for. -/
def contactWords {α : Type} (f : Contact → DeliveryProfile → List α) (contact : Option Contact) :
    List α :=
  match contact with
  | none => []
  | some contact =>
      match contact.deliveryProfile with
      | none => []
      | some profile => f contact profile

/-- The words once the pins of the operators are known. -/
def operatorLevel (identity : Except PyExc (Option Identity)) (store : FileLocalStore)
    (contact : Option Contact) (n : String) (operators : List (String × Bytes)) :
    List (Except PyExc Bytes) :=
  contactWords (fun contact profile => operatorWords U operators contact n profile
      ++ hintWords U n profile) contact
    ++ (raised (urlEntries P U identity store)
      ++ (((valuesOf n (values (urlEntries P U identity store))).reverse.head?.bind
        fun operator => operators.reverse.lookup operator).toList.map .ok))

/-- Every word on the address `n`, in the order of authority. -/
def words (identity : Except PyExc (Option Identity)) (store : FileLocalStore)
    (contact : Option Contact) (n : String) : List (Except PyExc Bytes) :=
  contactWords (fun _ profile => ownWords U n profile) contact
    ++ (assigned n (relayEntries P U store)
      ++ (raised (operatorEntries P identity store)
        ++ operatorLevel P U identity store contact n (values (operatorEntries P identity store))))

variable {P U} {identity : Except PyExc (Option Identity)} {store : FileLocalStore}

theorem endpointBaseUrl_rstripSlash (url : String) :
    endpointBaseUrl U (rstripSlash url) = endpointBaseUrl U url := by
  rw [endpointBaseUrl, rstripSlash_rstripSlash]
  rfl

/-! ### What is among the entries and words -/

theorem mem_contactWords {α : Type} {f : Contact → DeliveryProfile → List α}
    {contact : Option Contact} {x : α} :
    x ∈ contactWords f contact
      ↔ ∃ c profile, contact = some c ∧ c.deliveryProfile = some profile ∧ x ∈ f c profile := by
  cases contact with
  | none => simp [contactWords]
  | some c => cases hprofile : c.deliveryProfile <;> simp [contactWords, hprofile]

theorem mem_contactEntries {α : Type} {f : String → DeliveryProfile → List (Except PyExc α)}
    {a : α} :
    .ok a ∈ store.listContacts.flatMap (contactEntries P f store)
      ↔ ∃ name ∈ store.listContacts, ∃ profile,
        contactProfile P store name = .ok (some profile) ∧ .ok a ∈ f name profile := by
  rw [List.mem_flatMap]
  exact exists_congr fun name => and_congr_right fun _ => mem_reading

theorem mem_keyed {α β : Type} {f : α → Except PyExc String} {g : α → β} {n : String} {b : β}
    {xs : List α} :
    .ok (n, b) ∈ (xs.map fun x => do return (← f x, g x) : List (Except PyExc (String × β)))
      ↔ ∃ x ∈ xs, f x = .ok n ∧ g x = b := by
  rw [List.mem_map]
  refine exists_congr fun x => and_congr_right fun _ => ?_
  cases f x with
  | error e => simp [bind, Except.bind]
  | ok m => simp [bind, Except.bind, pure, Except.pure]

/-! ### The tables of the store -/

theorem collect_pinEntries (profile : DeliveryProfile) :
    collect (pinEntries U profile) = profilePins U profile := collect_map _ _

theorem collect_contacts {α : Type} (f : String → DeliveryProfile → List (Except PyExc α)) :
    collect (store.listContacts.flatMap (contactEntries P f store))
      = forContacts P store fun name profile => collect (f name profile) := by
  rw [collect_flatMap, forContacts]
  congr 2
  funext name
  rw [contactEntries, collect_present]
  cases contactProfile P store name with
  | error e => rfl
  | ok read =>
      cases read with
      | none => rfl
      | some profile => rfl

theorem collect_local {α : Type} (f : DeliveryProfile → List (Except PyExc α)) :
    collect ((present (store.loadLocalProfile P)).flatMap (orRaised f))
      = forLocal P store fun profile => collect (f profile) := by
  rw [collect_present, forLocal]
  cases store.loadLocalProfile P with
  | error e => rfl
  | ok read =>
      cases read with
      | none => rfl
      | some profile => rfl

theorem collect_map_ok {α : Type} (xs : List α) :
    collect (xs.map .ok : List (Except PyExc α)) = .ok xs := by
  induction xs with
  | nil => rfl
  | cons x xs ih => rw [List.map_cons, collect_cons, ih]

theorem collect_singleton {α : Type} (x : Except PyExc α) : collect [x] = do return [← x] := by
  cases x <;> rfl

theorem collect_relayEntries :
    collect (relayEntries P U store) = relayTlsPinsFromStore P U (some store) := by
  rw [relayEntries, collect_append, collect_local, collect_contacts]
  simp only [collect_pinEntries]
  rfl

theorem collect_operatorEntries :
    collect (operatorEntries P identity store) = operatorTlsPins P identity (some store) := by
  rw [operatorEntries, collect_append, collect_present, collect_contacts, operatorTlsPins]
  simp only [collect_local, collect_map_ok]
  cases identity with
  | error e => rfl
  | ok identity =>
      cases identity with
      | none => rfl
      | some identity => rfl

theorem collect_urlEntries :
    collect (urlEntries P U identity store) = urlOperatorMap P U identity (some store) := by
  have hhint : ∀ hint : String,
      collect ((present identity).flatMap (orRaised fun identity =>
          [do return (← endpointBaseUrl U hint, identity.name)]))
        = identity >>= fun read => read.elim (pure []) fun identity =>
          return [(← endpointBaseUrl U hint, identity.name)] := by
    intro hint
    rw [collect_present]
    simp only [collect_singleton, bind_assoc, pure_bind]
    cases identity with
    | error e => rfl
    | ok read =>
        cases read with
        | none => rfl
        | some identity => rfl
  rw [urlEntries, collect_append, collect_local, collect_contacts, urlOperatorMap]
  simp only [collect_append, collect_flatMap, hhint, operatorNameEntries, collect_map, bind_assoc,
    pure_bind]
  cases identity with
  | error e => rfl
  | ok read =>
      cases read with
      | none => rfl
      | some identity => rfl

/-! ### The loops over the contact's profile -/

theorem first_ownWords (n : String) (profile : DeliveryProfile) :
    first (ownWords U n profile)
      = pinFromProfileRelayDescriptors U n profile.relayDescriptors := by
  rw [ownWords]
  induction profile.relayDescriptors with
  | nil => rfl
  | cons d descriptors ih =>
      rw [first_flatMap_cons, pinFromProfileRelayDescriptors, ih]
      cases endpointBaseUrl U d.url with
      | error e => rfl
      | ok m =>
          by_cases hpin : m = n ∧ d.tlsSpkiSha256 ≠ []
          · simp only [orRaised, if_pos hpin, first, otherwise_some, bind, Except.bind, pure,
              Except.pure]
          · simp only [orRaised, if_neg hpin, first, otherwise_none, bind, Except.bind]

theorem first_operatorWords (operators : List (String × Bytes)) (contact : Contact) (n : String)
    (profile : DeliveryProfile) :
    first (operatorWords U operators contact n profile)
      = operatorPin U operators contact profile n profile.relayDescriptors := by
  rw [operatorWords]
  induction profile.relayDescriptors with
  | nil => rfl
  | cons d descriptors ih =>
      rw [first_flatMap_cons, operatorPin, ih]
      cases endpointBaseUrl U d.url with
      | error e => rfl
      | ok m =>
          by_cases hm : m = n
          · cases hpin : operators.reverse.lookup d.name with
            | some pin =>
                simp only [orRaised, if_pos hm, first, otherwise_some, bind, Except.bind, pure,
                  Except.pure]
            | none =>
                by_cases hown : d.name = contact.name ∧ profile.endpointTlsSpkiSha256 ≠ []
                · simp only [orRaised, if_pos hm, if_pos hown, first, otherwise_some, bind,
                    Except.bind, pure, Except.pure]
                · simp only [orRaised, if_pos hm, if_neg hown, first, otherwise_none, bind,
                    Except.bind]
          · simp only [orRaised, if_neg hm, first, otherwise_none, bind, Except.bind]

theorem first_hintWords (n : String) (profile : DeliveryProfile) :
    first (hintWords U n profile) = hintPin U profile n profile.directHints := by
  rw [hintWords]
  induction profile.directHints with
  | nil => rfl
  | cons hint hints ih =>
      rw [first_flatMap_cons, hintPin, ih]
      cases endpointBaseUrl U hint with
      | error e => rfl
      | ok m =>
          by_cases hpin : m = n ∧ profile.endpointTlsSpkiSha256 ≠ []
          · simp only [orRaised, if_pos hpin, first, otherwise_some, bind, Except.bind, pure,
              Except.pure]
          · simp only [orRaised, if_neg hpin, first, otherwise_none, bind, Except.bind]

/-! ### The resolver -/

theorem contactWords_none {α : Type} (f : Contact → DeliveryProfile → List α)
    {contact : Option Contact} (h : contact.bind (·.deliveryProfile) = none) :
    contactWords f contact = [] := by
  cases contact with
  | none => rfl
  | some contact =>
      have hprofile : contact.deliveryProfile = none := h
      simp only [contactWords, hprofile]

theorem contactWords_some {α : Type} (f : Contact → DeliveryProfile → List α) {contact : Contact}
    {profile : DeliveryProfile} (h : contact.deliveryProfile = some profile) :
    contactWords f (some contact) = f contact profile := by
  simp only [contactWords, h]

/-- The operators of all addresses, once their pins are known. -/
theorem first_urlLevel (n : String) (operators : List (String × Bytes)) :
    first (raised (urlEntries P U identity store)
      ++ (((valuesOf n (values (urlEntries P U identity store))).reverse.head?.bind
        fun operator => operators.reverse.lookup operator).toList.map .ok)) = (do
      let urlOps ← urlOperatorMap P U identity (some store)
      return (urlOps.reverse.lookup n).bind fun operator => operators.reverse.lookup operator) := by
  rw [first_raised_append, ← collect_urlEntries]
  cases hops : collect (urlEntries P U identity store) with
  | error e => rfl
  | ok urlOps =>
      show first _ = .ok _
      rw [first_map_ok, lookup_reverse, values_of_collect hops]
      cases (valuesOf n (values (urlEntries P U identity store))).reverse.head?.bind _ <;> rfl

theorem first_operatorLevel (contact : Option Contact) (n : String) :
    first (raised (operatorEntries P identity store) ++ operatorLevel P U identity store contact n
      (values (operatorEntries P identity store)))
      = pinFromOperators P U identity n (some store) contact := by
  rw [first_raised_append, pinFromOperators, ← collect_operatorEntries]
  cases hops : collect (operatorEntries P identity store) with
  | error e => rfl
  | ok operators =>
      rw [← values_of_collect hops]
      show first (operatorLevel P U identity store contact n operators) = _
      rw [operatorLevel, first_append, first_urlLevel]
      cases contact with
      | none => rfl
      | some contact =>
          cases hprofile : contact.deliveryProfile with
          | none =>
              have hnone : (some contact).bind (·.deliveryProfile) = none := hprofile
              rw [contactWords_none _ hnone]
              simp only [Option.bind_some, hprofile]
              rfl
          | some profile =>
              rw [contactWords_some _ hprofile, first_append, first_operatorWords, first_hintWords]
              simp only [Option.bind_some, hprofile, bind, Except.bind]
              match operatorPin U operators contact profile n profile.relayDescriptors with
              | .error e => rfl
              | .ok (some pin) => rfl
              | .ok none =>
                  match hintPin U profile n profile.directHints with
                  | .error e => rfl
                  | .ok (some pin) => rfl
                  | .ok none => rfl

/-- **The resolver returns the first word** on the address. -/
theorem resolveTlsPinForUrl_eq (url : String) (contact : Option Contact) :
    resolveTlsPinForUrl P U identity url (some store) contact =
      match endpointBaseUrl U url with
      | .error e => .error e
      | .ok n => first (words P U identity store contact n) := by
  unfold resolveTlsPinForUrl
  cases endpointBaseUrl U url with
  | error e => rfl
  | ok n =>
      show _ = first (words P U identity store contact n)
      rw [words, first_append, first_append, first_operatorLevel, first_assigned,
        collect_relayEntries]
      simp only [extraPin, bind, Except.bind]
      cases hprofile : contact.bind (·.deliveryProfile) with
      | none =>
          rw [contactWords_none _ hprofile]
          cases relayTlsPinsFromStore P U (some store) with
          | error e => rfl
          | ok pins =>
              cases hpin : pins.reverse.lookup n with
              | none => simp [hpin, first]
              | some pin =>
                  simp [hpin, first]
                  rfl
      | some profile =>
          obtain ⟨contact, rfl, hcontact⟩ := Option.bind_eq_some_iff.mp hprofile
          rw [contactWords_some _ hcontact, first_ownWords]
          dsimp only
          cases pinFromProfileRelayDescriptors U n profile.relayDescriptors with
          | error e => rfl
          | ok own =>
              cases own with
              | some pin => rfl
              | none =>
                  cases relayTlsPinsFromStore P U (some store) with
                  | error e => rfl
                  | ok pins =>
                      cases hpin : pins.reverse.lookup n with
                      | none => simp [hpin]
                      | some pin =>
                          simp [hpin]
                          rfl

end Yakr
