import Yakr.Core.Store
import Yakr.Lib.Effect

/-!
# Yakr.Cli.Network

**Addresses and requests of `network.py`.** Sending and fetching build two lists of
relay addresses from what each side has stored: signed profiles, acknowledged relay
names and the presence cache. A call reads the clock once. The loops over direct hints
and relays take the request they make as an argument, on any state.
-/

namespace Yakr

open Lib Effect

variable (P : Packages)

/-- What the process reads from its environment. -/
structure Settings where
  /-- `YAKR_RELAY_URL`. -/
  relayUrl : Option String := none
  /-- Names and addresses of the relays file, if there is one. -/
  relays : Option (Except PyExc (List (String × String))) := none

/-! ### Presence over profile addresses -/

/-- `resolve_operator_url`. -/
def resolveOperatorUrl (store : Option FileLocalStore) (operatorName profileUrl : String)
    (now : Int) : String :=
  match store.bind (·.loadPresence operatorName) with
  | some cached =>
      if isPresenceFresh cached now then rstripSlash cached.reachableUrl
      else rstripSlash profileUrl
  | none => rstripSlash profileUrl

/-- `_append_unique_urls`. -/
def appendUniqueUrls (urls candidates : List String) : List String :=
  candidates.foldl (fun urls url =>
    let normalized := rstripSlash url
    if normalized ≠ "" ∧ normalized ∉ urls then urls ++ [normalized] else urls) urls

/-- `fresh_group_relay_urls`. -/
def freshGroupRelayUrls (store : FileLocalStore) (now : Int) : List String :=
  store.listPresences.foldl (fun urls payload =>
    if isPresenceFresh payload now then
      let normalized := rstripSlash payload.reachableUrl
      if normalized ∉ urls then urls ++ [normalized] else urls
    else urls) []

/-- The address of one descriptor. -/
def descriptorUrl (store : Option FileLocalStore) (now : Int) (d : RelayDescriptor) : String :=
  resolveOperatorUrl store d.name d.url now

/-- `_profile_mailbox_urls`. -/
def profileMailboxUrls (profile : Option DeliveryProfile) (store : Option FileLocalStore)
    (now : Int) : List String :=
  match profile with
  | none => []
  | some profile => (mailboxDescriptors profile).map (descriptorUrl store now)

/-- `_peer_acked_sender_fallback_urls`. -/
def peerAckedSenderFallbackUrls (store : FileLocalStore) (contact : Contact) (now : Int) :
    Except PyExc (List String) :=
  if contact.peerAckedMyProfileVersion ≤ 0 then .ok []
  else do
    match ← store.loadLocalProfile P with
    | none => return []
    | some profile =>
        if contact.peerAckedMyRelayNames = [] then
          return profileMailboxUrls (some profile) (some store) now
        else
          return ((mailboxDescriptors profile).filter fun d =>
            d.name ∈ contact.peerAckedMyRelayNames).map (descriptorUrl (some store) now)

/-- `_env_relay_url`. -/
def envRelayUrl (env : Settings) : Option String :=
  let url := rstripSlash (env.relayUrl.getD "")
  if url = "" then none else some url

/-! ### Explicit routes -/

/-- `mailbox_name_from_route`. -/
def mailboxNameFromRoute (route : String) : Except PyExc String :=
  match splitNames route with
  | [name] => .ok name
  | [_, name] => .ok name
  | _ => .error (.valueError "route must be mailbox or entry,mailbox")

/-- `relay_network_from_profile`: names and addresses, the last of a name counts. -/
def relayNetworkFromProfile (profile : DeliveryProfile) : List (String × String) :=
  profile.relayDescriptors.map fun d => (d.name, d.url)

/-- The network an explicit route is looked up in. -/
def routeNetwork (env : Settings) (contact : Contact) :
    Except PyExc (List (String × String)) :=
  match contact.deliveryProfile.map relayNetworkFromProfile with
  | some (entry :: network) => .ok (entry :: network)
  | _ =>
      match env.relays with
      | some relays => relays
      | none => .error (.valueError "route requires contact or relays.json network")

/-- The address of an explicit route. -/
def routeUrl (env : Settings) (contact : Contact) (route : String) : Except PyExc String := do
  let network ← routeNetwork env contact
  let mailboxName ← mailboxNameFromRoute route
  match network.reverse.lookup mailboxName with
  | some url => return url
  | none => throw (.keyError mailboxName)

/-! ### Sending -/

/-- The addresses of `delivery_mailbox_urls` before the fallback to the environment. -/
def storedDeliveryUrls (contact : Contact) (store : Option FileLocalStore) (now : Int) :
    Except PyExc (List String) := do
  let urls := appendUniqueUrls [] (profileMailboxUrls contact.deliveryProfile store now)
  match store with
  | none => return urls
  | some store =>
      let fallbacks ← peerAckedSenderFallbackUrls P store contact now
      return appendUniqueUrls (appendUniqueUrls urls fallbacks) (freshGroupRelayUrls store now)

/-- `delivery_mailbox_urls`. -/
def deliveryMailboxUrls (env : Settings) (contact : Contact) (route : Option String)
    (store : Option FileLocalStore) (now : Int) : Except PyExc (List String) :=
  match route with
  | some route => do return [← routeUrl env contact route]
  | none => do
      let urls ← storedDeliveryUrls P contact store now
      if urls ≠ [] then return urls
      match envRelayUrl env with
      | some relay => return [relay]
      | none =>
          throw (.valueError ("no relay route to deliver to " ++ contact.name
            ++ ": recipient advertises no relay and sender has no paired relay"))

/-! ### Fetching -/

/-- `local_mailbox_urls`. -/
def localMailboxUrls (store : FileLocalStore) (now : Int) : Except PyExc (List String) := do
  return profileMailboxUrls (← store.loadLocalProfile P) (some store) now

/-- `_contact_fetch_mailbox_urls`. -/
def contactFetchMailboxUrls (store : FileLocalStore) (contact : Contact) (now : Int) :
    Except PyExc (List String) := do
  let urls := appendUniqueUrls [] (← localMailboxUrls P store now)
  return appendUniqueUrls urls (profileMailboxUrls contact.deliveryProfile (some store) now)

/-- `_trust_graph_mailbox_urls`. -/
def trustGraphMailboxUrls (store : FileLocalStore) (contact : Contact) (now : Int) :
    Except PyExc (List String) := do
  let urls ← contactFetchMailboxUrls P store contact now
  let urls ← store.listContacts.foldlM (fun urls name => do
    match ← store.getContact P name with
    | none => return urls
    | some paired =>
        return appendUniqueUrls urls
          (profileMailboxUrls paired.deliveryProfile (some store) now)) urls
  let urls := appendUniqueUrls urls (freshGroupRelayUrls store now)
  return appendUniqueUrls urls
    ((store.listPresences.filter fun payload => isPresenceFresh payload now).map
      (·.reachableUrl))

/-- `fetch_mailbox_urls`. -/
def fetchMailboxUrls (env : Settings) (contact : Contact) (route : Option String)
    (store : FileLocalStore) (wide : Bool) (now : Int) : Except PyExc (List String) :=
  match route with
  | some route => deliveryMailboxUrls P env contact (some route) (some store) now
  | none => do
      let urls ←
        if wide then trustGraphMailboxUrls P store contact now
        else contactFetchMailboxUrls P store contact now
      if urls ≠ [] then return urls
      match envRelayUrl env with
      | some relay => return [relay]
      | none =>
          throw (.valueError ("no relay route to fetch messages for " ++ contact.name
            ++ ": pair with a relay operator or receive via a contact who advertises one"))

/-! ### Requests -/

/-- A request inside `try … except (httpx.HTTPError, ValueError): continue`. -/
def attempt {σ α : Type} (request : EStateM PyExc σ α) : EStateM PyExc σ (Option α) :=
  tryCatch (some <$> request) fun e => if e.isHttpOrValueError then pure none else throw e

theorem attempt_run {σ α : Type} (request : EStateM PyExc σ α) (s : σ) :
    (attempt request).run s =
      match request.run s with
      | .ok a s' => .ok (some a) s'
      | .error e s' => if e.isHttpOrValueError then .ok none s' else .error e s' := by
  rw [attempt, run_tryCatch, run_map]
  cases request.run s with
  | ok a s' => rfl
  | error e s' => simp

theorem steps_attempt {σ α : Type} {S : σ → σ → Prop} {request : EStateM PyExc σ α}
    (h : Steps S request) : Steps S (attempt request) := by
  refine (h.map some).tryCatch fun e => ?_
  split
  · exact .pure none
  · exact .raise e

/-- `try_direct_delivery` with the POST it makes, which returns a status. -/
def tryDirectDelivery {σ : Type} (post : String → EStateM PyExc σ Int) :
    List String → EStateM PyExc σ Bool
  | [] => pure false
  | hint :: hints => do
      match ← attempt (post (rstripSlash hint)) with
      | some status =>
          if status = 200 ∨ status = 201 then return true else tryDirectDelivery post hints
      | none => tryDirectDelivery post hints

theorem steps_tryDirectDelivery {σ : Type} {S : σ → σ → Prop}
    {post : String → EStateM PyExc σ Int} (h : ∀ address, Steps S (post address))
    (hints : List String) : Steps S (tryDirectDelivery post hints) := by
  induction hints with
  | nil => exact .pure false
  | cons hint hints ih =>
      refine (steps_attempt (h (rstripSlash hint))).bind fun status => ?_
      cases status with
      | none => exact ih
      | some status =>
          dsimp only
          split
          · exact .pure true
          · exact ih

/-- `fetch_direct_blobs` with the GET it makes, which returns a status and items: the
answer of the first hint that has one counts, also when it is empty. -/
def fetchDirectBlobs {σ : Type} (get : String → EStateM PyExc σ (Int × List Json)) :
    List String → EStateM PyExc σ (List Json)
  | [] => pure []
  | hint :: hints => do
      match ← attempt (get (rstripSlash hint)) with
      | some (status, items) => if status = 200 then return items else fetchDirectBlobs get hints
      | none => fetchDirectBlobs get hints

/-- `str(item.get("ciphertext", ""))`. -/
def itemCiphertext (item : Json) : Except PyExc String := do
  return pyStr P ((← dictGet item "ciphertext").getD (.str ""))

/-- The items whose ciphertext has not been seen, after those found before. -/
def addUnseen : (found : List Json × List String) → List Json →
    Except PyExc (List Json × List String)
  | found, [] => .ok found
  | found, item :: items => do
      let ciphertext ← itemCiphertext P item
      if ciphertext ∈ found.2 then addUnseen found items
      else addUnseen (found.1 ++ [item], found.2 ++ [ciphertext]) items

/-- `fetch_relay_blobs` with the request it makes, after the items found before. -/
def fetchRelayBlobs {σ : Type} (fetch : String → EStateM PyExc σ (Int × List Json)) :
    (found : List Json × List String) → List String → EStateM PyExc σ (List Json)
  | found, [] => pure found.1
  | found, base :: bases => do
      match ← attempt (fetch (rstripSlash base)) with
      | some (status, items) =>
          if status = 200 then
            fetchRelayBlobs fetch (← orRaise (addUnseen P found items)) bases
          else fetchRelayBlobs fetch found bases
      | none => fetchRelayBlobs fetch found bases

end Yakr
