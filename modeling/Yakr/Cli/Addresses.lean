import Yakr.Cli.Network
import Yakr.Store.Profiles

/-!
# Yakr.Cli.Addresses

**Send ⊆ fetch.** A relay is reached at the address a side has for it: the one its
presence cache holds while it is fresh, else the one of the profile. The list built
for sending holds the recipient's relays, the acknowledged relays of the sender and
every fresh presence in the sender's cache; the list built for fetching holds the
recipient's own relays and those of the stored profile, at the recipient's addresses.
Nothing makes the two caches agree, and no fetch polls the presences of third
operators, so the inclusion holds for exactly the contents `Covered` describes.
-/

namespace Yakr

open Lib Effect

variable {P : Packages}

/-! ### Lists of addresses -/

theorem mem_appendUniqueUrls {urls candidates : List String} {u : String} :
    u ∈ appendUniqueUrls urls candidates
      ↔ u ∈ urls ∨ u ≠ "" ∧ ∃ c ∈ candidates, rstripSlash c = u := by
  unfold appendUniqueUrls
  induction candidates generalizing urls with
  | nil => simp
  | cons c candidates ih =>
      rw [List.foldl_cons, ih]
      dsimp only
      split
      · rename_i hnew
        rw [List.mem_append, List.mem_singleton, List.exists_mem_cons_iff]
        constructor
        · rintro ((h | rfl) | ⟨hne, h⟩)
          · exact Or.inl h
          · exact Or.inr ⟨hnew.1, Or.inl rfl⟩
          · exact Or.inr ⟨hne, Or.inr h⟩
        · rintro (h | ⟨hne, h | h⟩)
          · exact Or.inl (Or.inl h)
          · exact Or.inl (Or.inr h.symm)
          · exact Or.inr ⟨hne, h⟩
      · rename_i hold
        rw [List.exists_mem_cons_iff]
        constructor
        · rintro (h | ⟨hne, h⟩)
          · exact Or.inl h
          · exact Or.inr ⟨hne, Or.inr h⟩
        · rintro (h | ⟨hne, h | h⟩)
          · exact Or.inl h
          · -- the candidate was left out, so it is empty or known
            subst h
            by_cases hknown : rstripSlash c ∈ urls
            · exact Or.inl hknown
            · exact absurd ⟨hne, hknown⟩ hold
          · exact Or.inr ⟨hne, h⟩

theorem mem_orderByText {α : Type} (column : α → String) {rows : List α} {x : α} :
    x ∈ orderByText column rows ↔ x ∈ rows := List.mem_insertionSort _

theorem mem_freshGroupRelayUrls {store : FileLocalStore} {now : Int} {u : String} :
    u ∈ freshGroupRelayUrls store now
      ↔ ∃ x ∈ store.relayPresence, isPresenceFresh x now ∧ rstripSlash x.reachableUrl = u := by
  have hfold : ∀ (rows : List PresencePayload) (urls : List String),
      u ∈ rows.foldl (fun urls payload =>
        if isPresenceFresh payload now then
          let normalized := rstripSlash payload.reachableUrl
          if normalized ∉ urls then urls ++ [normalized] else urls
        else urls) urls
        ↔ u ∈ urls ∨ ∃ x ∈ rows, isPresenceFresh x now ∧ rstripSlash x.reachableUrl = u := by
    intro rows
    induction rows with
    | nil => simp
    | cons x rows ih =>
        intro urls
        rw [List.foldl_cons, ih, List.exists_mem_cons_iff]
        by_cases hfresh : isPresenceFresh x now
        · by_cases hknown : rstripSlash x.reachableUrl ∈ urls
          · simp only [hfresh, if_true, hknown, not_true_eq_false, if_false, true_and]
            constructor
            · rintro (h | h)
              · exact Or.inl h
              · exact Or.inr (Or.inr h)
            · rintro (h | rfl | h)
              · exact Or.inl h
              · exact Or.inl hknown
              · exact Or.inr h
          · simp only [hfresh, if_true, hknown, not_false_eq_true, true_and, List.mem_append,
              List.mem_singleton, or_assoc, eq_comm]
        · simp only [hfresh, Bool.false_eq_true, if_false, false_and, false_or]
  rw [freshGroupRelayUrls, hfold, FileLocalStore.listPresences]
  simp only [List.not_mem_nil, false_or, mem_orderByText]

/-- An address is written without a slash at its end. -/
theorem rstripSlash_descriptorUrl (store : Option FileLocalStore) (now : Int)
    (d : RelayDescriptor) : rstripSlash (descriptorUrl store now d) = descriptorUrl store now d := by
  unfold descriptorUrl resolveOperatorUrl
  split
  · split
    · exact rstripSlash_rstripSlash _
    · exact rstripSlash_rstripSlash _
  · exact rstripSlash_rstripSlash _

/-! ### What the two lists hold -/

/-- `u` is the address one side has for a mailbox relay of the profile. -/
def IsAddress (store : FileLocalStore) (now : Int) (profile : Option DeliveryProfile)
    (u : String) : Prop :=
  ∃ d ∈ (profile.map mailboxDescriptors).getD [], descriptorUrl (some store) now d = u

theorem mem_profileMailboxUrls {store : FileLocalStore} {now : Int}
    {profile : Option DeliveryProfile} {u : String} :
    (∃ c ∈ profileMailboxUrls profile (some store) now, rstripSlash c = u)
      ↔ IsAddress store now profile u := by
  cases profile with
  | none => simp [profileMailboxUrls, IsAddress]
  | some profile =>
      simp [profileMailboxUrls, IsAddress, rstripSlash_descriptorUrl]

/-- The peer has acknowledged the relay of the own profile. -/
def IsAcked (contact : Contact) (d : RelayDescriptor) : Prop :=
  0 < contact.peerAckedMyProfileVersion
    ∧ (contact.peerAckedMyRelayNames = [] ∨ d.name ∈ contact.peerAckedMyRelayNames)

/-- `u` is the sender's address of a relay of its own the peer has acknowledged. -/
def IsFallback (own : Option DeliveryProfile) (store : FileLocalStore) (now : Int)
    (contact : Contact) (u : String) : Prop :=
  ∃ d ∈ (own.map mailboxDescriptors).getD [],
    IsAcked contact d ∧ descriptorUrl (some store) now d = u

theorem peerAckedSenderFallbackUrls_ok {store : FileLocalStore} (now : Int) (contact : Contact)
    {own : Option DeliveryProfile} (hown : store.loadLocalProfile P = .ok own) :
    ∃ urls, peerAckedSenderFallbackUrls P store contact now = .ok urls
      ∧ ∀ u, (∃ c ∈ urls, rstripSlash c = u) ↔ IsFallback own store now contact u := by
  unfold peerAckedSenderFallbackUrls
  by_cases hacked : contact.peerAckedMyProfileVersion ≤ 0
  · rw [if_pos hacked]
    exact ⟨[], rfl, by simp [IsFallback, IsAcked, Int.not_lt.mpr hacked]⟩
  rw [if_neg hacked, hown]
  have hpos := Int.not_le.mp hacked
  cases own with
  | none => exact ⟨[], rfl, by simp [IsFallback]⟩
  | some own =>
      by_cases hnames : contact.peerAckedMyRelayNames = []
      · refine ⟨profileMailboxUrls (some own) (some store) now, ?_, ?_⟩
        · simp [hnames, bind, Except.bind, pure, Except.pure]
        · simp [IsFallback, IsAcked, hnames, hpos, profileMailboxUrls, rstripSlash_descriptorUrl]
      · refine ⟨((mailboxDescriptors own).filter fun d =>
          d.name ∈ contact.peerAckedMyRelayNames).map (descriptorUrl (some store) now), ?_, ?_⟩
        · simp [hnames, bind, Except.bind, pure, Except.pure]
        · simp [IsFallback, IsAcked, hnames, hpos, rstripSlash_descriptorUrl, and_assoc]

/-- `u` is the address of a fresh presence. -/
def IsGroupRelay (store : FileLocalStore) (now : Int) (u : String) : Prop :=
  ∃ x ∈ store.relayPresence, isPresenceFresh x now ∧ rstripSlash x.reachableUrl = u

/-- `u` is an address the sender has stored. -/
def Stores (own : Option DeliveryProfile) (store : FileLocalStore) (now : Int)
    (contact : Contact) (u : String) : Prop :=
  u ≠ "" ∧ (IsAddress store now contact.deliveryProfile u ∨ IsFallback own store now contact u
    ∨ IsGroupRelay store now u)

theorem storedDeliveryUrls_ok {store : FileLocalStore} (now : Int) (contact : Contact)
    {own : Option DeliveryProfile} (hown : store.loadLocalProfile P = .ok own) :
    ∃ urls, storedDeliveryUrls P contact (some store) now = .ok urls
      ∧ ∀ u, u ∈ urls ↔ Stores own store now contact u := by
  obtain ⟨fallbacks, hrun, hfallbacks⟩ :=
    peerAckedSenderFallbackUrls_ok now contact hown
  refine ⟨appendUniqueUrls (appendUniqueUrls
    (appendUniqueUrls [] (profileMailboxUrls contact.deliveryProfile (some store) now)) fallbacks)
    (freshGroupRelayUrls store now), ?_, ?_⟩
  · rw [storedDeliveryUrls]
    simp only [hrun, bind, Except.bind]
    rfl
  intro u
  rw [mem_appendUniqueUrls, mem_appendUniqueUrls, mem_appendUniqueUrls, mem_profileMailboxUrls,
    hfallbacks]
  simp only [List.not_mem_nil, false_or, mem_freshGroupRelayUrls, Stores, IsGroupRelay]
  constructor
  · rintro ((⟨hne, h⟩ | ⟨hne, h⟩) | ⟨hne, c, ⟨x, hx, hfresh, rfl⟩, h⟩)
    · exact ⟨hne, Or.inl h⟩
    · exact ⟨hne, Or.inr (Or.inl h)⟩
    · rw [rstripSlash_rstripSlash] at h
      exact ⟨hne, Or.inr (Or.inr ⟨x, hx, hfresh, h⟩)⟩
  · rintro ⟨hne, h | h | ⟨x, hx, hfresh, rfl⟩⟩
    · exact Or.inl (Or.inl ⟨hne, h⟩)
    · exact Or.inl (Or.inr ⟨hne, h⟩)
    · exact Or.inr ⟨hne, _, ⟨x, hx, hfresh, rfl⟩, rstripSlash_rstripSlash _⟩

/-- `u` is an address the recipient has for one of its own relays or of those of the
profile it stores. -/
def Knows (own : Option DeliveryProfile) (store : FileLocalStore) (now : Int)
    (contact : Contact) (u : String) : Prop :=
  u ≠ "" ∧ (IsAddress store now own u ∨ IsAddress store now contact.deliveryProfile u)

theorem contactFetchMailboxUrls_ok {store : FileLocalStore} (now : Int) (contact : Contact)
    {own : Option DeliveryProfile} (hown : store.loadLocalProfile P = .ok own) :
    ∃ urls, contactFetchMailboxUrls P store contact now = .ok urls
      ∧ ∀ u, u ∈ urls ↔ Knows own store now contact u := by
  refine ⟨appendUniqueUrls (appendUniqueUrls [] (profileMailboxUrls own (some store) now))
    (profileMailboxUrls contact.deliveryProfile (some store) now), ?_, ?_⟩
  · rw [contactFetchMailboxUrls, localMailboxUrls, hown]
    rfl
  · intro u
    rw [mem_appendUniqueUrls, mem_appendUniqueUrls, mem_profileMailboxUrls,
      mem_profileMailboxUrls]
    simp only [List.not_mem_nil, false_or, Knows]
    tauto

/-- The list a side uses: the addresses it has stored, else the one of its environment. -/
def Uses (stored : String → Prop) (env : Settings) (u : String) : Prop :=
  stored u ∨ (∀ v, ¬ stored v) ∧ envRelayUrl env = some u

theorem uses_iff {stored : String → Prop} {urls : List String} {env : Settings} {e : PyExc}
    (hmem : ∀ u, u ∈ urls ↔ stored u) (u : String) :
    (∃ used, (do
        if urls ≠ [] then return urls
        match envRelayUrl env with
        | some relay => return [relay]
        | none => throw e : Except PyExc (List String)) = .ok used ∧ u ∈ used)
      ↔ Uses stored env u := by
  by_cases hnil : urls = []
  · have hnone : ∀ v, ¬ stored v := by
      intro v hv
      rw [← hmem, hnil] at hv
      cases hv
    have hno : ¬ stored u := hnone u
    simp only [hnil, ne_eq, not_true_eq_false, if_false, Uses, hno, false_or]
    cases henv : envRelayUrl env with
    | none => simp [throw, throwThe, MonadExceptOf.throw]
    | some relay =>
        simp only [pure, Except.pure, Except.ok.injEq, exists_eq_left', List.mem_singleton,
          Option.some.injEq]
        exact ⟨fun h => ⟨hnone, h.symm⟩, fun h => h.2.symm⟩
  · obtain ⟨v, hv⟩ := List.exists_mem_of_ne_nil urls hnil
    have hsome : ¬ ∀ v, ¬ stored v := fun h => h v ((hmem v).mp hv)
    simp only [ne_eq, hnil, not_false_eq_true, if_true, Uses, hsome, false_and, or_false, pure,
      Except.pure, Except.ok.injEq, exists_eq_left', hmem]

theorem mem_deliveryMailboxUrls {env : Settings} {store : FileLocalStore} {now : Int}
    {contact : Contact} {own : Option DeliveryProfile}
    (hown : store.loadLocalProfile P = .ok own) (u : String) :
    (∃ urls, deliveryMailboxUrls P env contact none (some store) now = .ok urls ∧ u ∈ urls)
      ↔ Uses (Stores own store now contact) env u := by
  obtain ⟨urls, hrun, hmem⟩ := storedDeliveryUrls_ok now contact hown
  rw [← uses_iff hmem u]
  simp only [deliveryMailboxUrls, hrun]
  rfl

theorem mem_fetchMailboxUrls {env : Settings} {store : FileLocalStore} {now : Int}
    {contact : Contact} {own : Option DeliveryProfile}
    (hown : store.loadLocalProfile P = .ok own) (u : String) :
    (∃ urls, fetchMailboxUrls P env contact none store false now = .ok urls ∧ u ∈ urls)
      ↔ Uses (Knows own store now contact) env u := by
  obtain ⟨urls, hrun, hmem⟩ := contactFetchMailboxUrls_ok now contact hown
  rw [← uses_iff hmem u]
  simp only [fetchMailboxUrls, hrun, Bool.false_eq_true, if_false]
  rfl

theorem deliveryMailboxUrls_ne_nil {env : Settings} {contact : Contact}
    {store : Option FileLocalStore} {now : Int} :
    deliveryMailboxUrls P env contact none store now ≠ .ok [] := by
  intro h
  simp only [deliveryMailboxUrls] at h
  obtain ⟨urls, -, h⟩ := bind_ok.mp h
  split at h
  · cases h
    contradiction
  · split at h
    · cases h
    · cases h

/-! ### The inclusion -/

/-- The two ends of a conversation: what each process reads from its environment, what
each has stored, and each side's record of the other. -/
structure Ends where
  senderEnv : Settings := {}
  sender : FileLocalStore
  senderContact : Contact
  recipientEnv : Settings := {}
  recipient : FileLocalStore
  recipientContact : Contact

namespace Ends

/-- The sender stores the recipient's current profile `own`, and the recipient stores the
version of the sender's profile the sender has on record as acknowledged; `theirs` is the
sender's own profile, if it has one. -/
structure InStep (P : Packages) (e : Ends) (own : DeliveryProfile)
    (theirs : Option DeliveryProfile) : Prop where
  current : e.recipient.loadLocalProfile P = .ok (some own)
  stored : e.senderContact.deliveryProfile = some own
  published : e.sender.loadLocalProfile P = .ok theirs
  acked : ∃ profile, e.recipientContact.deliveryProfile = some profile
    ∧ profile.version = e.senderContact.peerAckedMyProfileVersion

/-- Every address `delivery_mailbox_urls` returns is one `fetch_mailbox_urls` returns. -/
def SendSubsetFetch (P : Packages) (e : Ends) (now : Int) : Prop :=
  ∀ urls, deliveryMailboxUrls P e.senderEnv e.senderContact none (some e.sender) now = .ok urls →
    ∃ polled, fetchMailboxUrls P e.recipientEnv e.recipientContact none e.recipient false now
        = .ok polled ∧ ∀ u ∈ urls, u ∈ polled

/-- The address is none at all, or one the recipient polls. -/
def Reached (e : Ends) (own : DeliveryProfile) (now : Int) (u : String) : Prop :=
  u ≠ "" → Uses (Knows (some own) e.recipient now e.recipientContact) e.recipientEnv u

/-- Where the sender has a relay, the recipient has one: the relays of the recipient's
profile, the acknowledged relays of the sender's, and every fresh presence the sender
holds. A sender without any address falls back to its environment. -/
structure Covered (e : Ends) (own : DeliveryProfile) (theirs : Option DeliveryProfile)
    (now : Int) : Prop where
  mailboxes : ∀ d ∈ mailboxDescriptors own,
    e.Reached own now (descriptorUrl (some e.sender) now d)
  fallbacks : ∀ d ∈ (theirs.map mailboxDescriptors).getD [], IsAcked e.senderContact d →
    e.Reached own now (descriptorUrl (some e.sender) now d)
  group : ∀ x ∈ e.sender.relayPresence, isPresenceFresh x now →
    e.Reached own now (rstripSlash x.reachableUrl)
  environment : (∀ u, ¬ Stores theirs e.sender now e.senderContact u) →
    ∀ u, envRelayUrl e.senderEnv = some u → e.Reached own now u

variable {e : Ends} {own : DeliveryProfile} {theirs : Option DeliveryProfile} {now : Int}

theorem envRelayUrl_ne {env : Settings} {u : String} (h : envRelayUrl env = some u) : u ≠ "" := by
  unfold envRelayUrl at h
  dsimp only at h
  split at h
  · cases h
  · cases h
    assumption

/-- The inclusion, address by address. -/
theorem sendSubsetFetch_iff (h : e.InStep P own theirs) :
    e.SendSubsetFetch P now
      ↔ ∀ u, Uses (Stores theirs e.sender now e.senderContact) e.senderEnv u →
          Uses (Knows (some own) e.recipient now e.recipientContact) e.recipientEnv u := by
  constructor
  · intro hsubset u hu
    obtain ⟨urls, hrun, hmem⟩ := (mem_deliveryMailboxUrls h.published u).mpr hu
    obtain ⟨polled, hpolled, hall⟩ := hsubset urls hrun
    exact (mem_fetchMailboxUrls h.current u).mp ⟨polled, hpolled, hall u hmem⟩
  · intro hall urls hrun
    have hpoll : ∀ u ∈ urls, ∃ polled,
        fetchMailboxUrls P e.recipientEnv e.recipientContact none e.recipient false now
          = .ok polled ∧ u ∈ polled := by
      intro u hu
      have huses := (mem_deliveryMailboxUrls h.published u).mp ⟨urls, hrun, hu⟩
      exact (mem_fetchMailboxUrls h.current u).mpr (hall u huses)
    -- a list that was returned is not empty, so the recipient's call returns one as well
    cases urls with
    | nil => exact absurd hrun deliveryMailboxUrls_ne_nil
    | cons u urls =>
        obtain ⟨polled, hpolled, -⟩ := hpoll u List.mem_cons_self
        refine ⟨polled, hpolled, fun v hv => ?_⟩
        obtain ⟨polled', hpolled', hmem⟩ := hpoll v hv
        rw [hpolled] at hpolled'
        cases hpolled'
        exact hmem

/-- **Send ⊆ fetch.** The addresses a message is stored at are among those the recipient
polls exactly when the sender's addresses are covered by the recipient's. -/
theorem sendSubsetFetch_iff_covered (h : e.InStep P own theirs) :
    e.SendSubsetFetch P now ↔ e.Covered own theirs now := by
  rw [sendSubsetFetch_iff h]
  constructor
  · intro hall
    have hstored : ∀ u, u ≠ "" → (IsAddress e.sender now (some own) u
        ∨ IsFallback theirs e.sender now e.senderContact u ∨ IsGroupRelay e.sender now u) →
        Uses (Knows (some own) e.recipient now e.recipientContact) e.recipientEnv u := by
      intro u hne hu
      refine hall u (Or.inl ⟨hne, ?_⟩)
      rw [h.stored]
      exact hu
    exact {
      mailboxes := fun d hd hne => hstored _ hne (Or.inl ⟨d, hd, rfl⟩)
      fallbacks := fun d hd hacked hne => hstored _ hne (Or.inr (Or.inl ⟨d, hd, hacked, rfl⟩))
      group := fun x hx hfresh hne => hstored _ hne (Or.inr (Or.inr ⟨x, hx, hfresh, rfl⟩))
      environment := fun hnone u hu _ => hall u (Or.inr ⟨hnone, hu⟩) }
  · rintro hcovered u (⟨hne, hu⟩ | ⟨hnone, hu⟩)
    · rw [h.stored] at hu
      rcases hu with ⟨d, hd, rfl⟩ | ⟨d, hd, hacked, rfl⟩ | ⟨x, hx, hfresh, rfl⟩
      · exact hcovered.mailboxes d hd hne
      · exact hcovered.fallbacks d hd hacked hne
      · exact hcovered.group x hx hfresh hne
    · exact hcovered.environment hnone u hu (envRelayUrl_ne hu)

/-! ### A relay of a third operator -/

namespace Sample

def relay (name : String) : RelayDescriptor :=
  { name, role := "mailbox", url := "http://" ++ name, wrapSecret := [] }

def profile (name : String) : DeliveryProfile :=
  { protocol := protocolV5
    version := 1
    validFrom := 0
    validUntil := 1000
    directHints := []
    relayDescriptors := [relay name]
    mailboxEpochSecs := 3600
    mailboxDirectionSalt := []
    blobClasses := [4096]
    receiptPolicy := "minimal"
    signature := [] }

def contact (name : String) (profile : DeliveryProfile) : Contact :=
  { name
    signingPublic := []
    agreementPublic := []
    masterSecret := []
    conversationId := ""
    deliveryProfile := some profile }

/-- The executable packages. -/
abbrev packages : Packages := codedPackages plainPackages

/-- Alice, who holds `presences`, sends to Bob. -/
def ends (presences : List PresencePayload) : Ends :=
  { sender := { localProfile := some ((profile "alice").toB64 packages)
                relayPresence := presences }
    senderContact := { contact "bob" (profile "bob") with
      peerAckedMyProfileVersion := 1, peerAckedMyRelayNames := ["alice"] }
    recipient := { localProfile := some ((profile "bob").toB64 packages) }
    recipientContact := contact "alice" (profile "alice") }

theorem saved {name : String} {store : FileLocalStore}
    (h : store.localProfile = some ((profile name).toB64 packages))
    (hcanonical : (profile name).canonical = profile name) :
    store.loadLocalProfile packages = .ok (some (profile name)) := by
  rw [FileLocalStore.loadLocalProfile_saved (codedPackages_cborLaws plainPackages) h, hcanonical]

theorem inStep (presences : List PresencePayload) :
    (ends presences).InStep packages (profile "bob") (some (profile "alice")) where
  current := saved rfl (by decide +kernel)
  stored := rfl
  published := saved rfl (by decide +kernel)
  acked := ⟨profile "alice", rfl, rfl⟩

/-- Bob polls his own relay and Alice's. -/
theorem reached_bob (presences : List PresencePayload) :
    (ends presences).Reached (profile "bob") 0 "http://bob" :=
  fun hne => Or.inl ⟨hne, Or.inl ⟨relay "bob", by decide +kernel, by
    show descriptorUrl (some (ends []).recipient) 0 (relay "bob") = _
    decide +kernel⟩⟩

theorem reached_alice (presences : List PresencePayload) :
    (ends presences).Reached (profile "bob") 0 "http://alice" :=
  fun hne => Or.inl ⟨hne, Or.inr ⟨relay "alice", by
    show relay "alice" ∈ mailboxDescriptors (profile "alice")
    decide +kernel, by
    show descriptorUrl (some (ends []).recipient) 0 (relay "alice") = _
    decide +kernel⟩⟩

end Sample

/-- Two profiles and empty caches: the addresses are covered. -/
theorem covered_without_presences :
    (Sample.ends []).SendSubsetFetch Sample.packages 0
      ∧ (Sample.ends []).Covered (Sample.profile "bob") (some (Sample.profile "alice")) 0 := by
  have hbob : descriptorUrl (some (Sample.ends []).sender) 0 (Sample.relay "bob")
      = "http://bob" := by decide +kernel
  have halice : descriptorUrl (some (Sample.ends []).sender) 0 (Sample.relay "alice")
      = "http://alice" := by decide +kernel
  have hcovered :
      (Sample.ends []).Covered (Sample.profile "bob") (some (Sample.profile "alice")) 0 := by
    constructor
    case mailboxes =>
      intro d hd
      have hd' : d ∈ [Sample.relay "bob"] := (List.mem_filter.mp hd).1
      rw [List.mem_singleton.mp hd', hbob]
      exact Sample.reached_bob []
    case fallbacks =>
      intro d hd _
      have hd' : d ∈ [Sample.relay "alice"] := (List.mem_filter.mp hd).1
      rw [List.mem_singleton.mp hd', halice]
      exact Sample.reached_alice []
    case group =>
      intro x hx
      cases hx
    case environment =>
      intro _ u hu
      cases hu
  exact ⟨(sendSubsetFetch_iff_covered (Sample.inStep [])).mpr hcovered, hcovered⟩

/-- A fresh presence of Carol's relay in Alice's cache: Alice stores there, and Bob does not
poll it. -/
theorem third_relay_not_polled :
    (Sample.ends [PresencePayload.forOperator "carol" "http://carol" 0]).InStep Sample.packages
        (Sample.profile "bob") (some (Sample.profile "alice"))
      ∧ ¬ (Sample.ends [PresencePayload.forOperator "carol" "http://carol" 0]).SendSubsetFetch
        Sample.packages 0 := by
  refine ⟨Sample.inStep _, fun hsubset => ?_⟩
  rw [sendSubsetFetch_iff (Sample.inStep _)] at hsubset
  have hstored := hsubset "http://carol" (Or.inl ⟨by decide, Or.inr (Or.inr
    ⟨PresencePayload.forOperator "carol" "http://carol" 0, by decide +kernel, by decide +kernel,
      by decide +kernel⟩)⟩)
  rcases hstored with ⟨-, hown | htheirs⟩ | ⟨-, henv⟩
  · revert hown
    unfold IsAddress
    decide +kernel
  · revert htheirs
    unfold IsAddress
    decide +kernel
  · cases henv

end Ends
end Yakr
