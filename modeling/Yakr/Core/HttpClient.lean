import Yakr.Core.Store

/-!
# Yakr.Core.HttpClient

**TLS pins of `http_client.py`.** A relay has no certificate of a public authority; a client
accepts its key when a signed profile names the digest of the key for the relay's address.
An address is compared by the scheme, host and port that `urllib.parse` finds in it. What
that module takes from the tables of the interpreter (Unicode and `ipaddress`) is a parameter;
on ASCII texts nothing of it is used except the check of a host in brackets.
-/

namespace Yakr

open Lib

/-! ### `urllib.parse` -/

/-- The tables of the interpreter that `urlsplit` and `hostname` use. -/
structure UrlTables where
  /-- `str.lower` of a text that is not ASCII. -/
  lower : List Char → List Char
  /-- Whether the NFKC form of a network location has none of the delimiters. -/
  nfkcSafe : List Char → Bool
  /-- Whether the text in brackets is an IPv6 address, or an address of a later version. -/
  bracketedHost : List Char → Bool

/-- `value.isascii()`. -/
def isAsciiChars (cs : List Char) : Bool := cs.all fun c => c.toNat < 128

/-- `value.lower()`. -/
def lowerChars (U : UrlTables) (cs : List Char) : List Char :=
  if isAsciiChars cs then cs.map Char.toLower else U.lower cs

/-- `text.partition(c)`, with whether the separator was found. -/
def partitionAt (c : Char) : List Char → List Char × Bool × List Char
  | [] => ([], false, [])
  | x :: xs =>
      if x = c then ([], true, xs)
      else
        let (before, found, rest) := partitionAt c xs
        (x :: before, found, rest)

/-- `text.rpartition("@")[2]`. -/
def afterLastAt (cs : List Char) : List Char :=
  (cs.reverse.takeWhile (· ≠ '@')).reverse

/-- The characters of a scheme. -/
def isSchemeChar (c : Char) : Bool :=
  c.isAlphanum || c = '+' || c = '-' || c = '.'

/-- The scheme in front of the first colon and the text after it. -/
def splitScheme (U : UrlTables) (url : List Char) : List Char × List Char :=
  let (scheme, found, rest) := partitionAt ':' url
  match scheme with
  | c :: _ =>
      if found ∧ c.isAlpha ∧ scheme.all isSchemeChar then (lowerChars U scheme, rest)
      else ([], url)
  | [] => ([], url)

/-- The network location after two slashes. -/
def splitNetloc : List Char → List Char
  | '/' :: '/' :: rest => rest.takeWhile fun c => c ≠ '/' ∧ c ≠ '?' ∧ c ≠ '#'
  | _ => []

/-- `_check_bracketed_netloc`. -/
def checkBracketedNetloc (U : UrlTables) (netloc : List Char) : Bool :=
  let hostAndPort := afterLastAt netloc
  let (before, found, bracketed) := partitionAt '[' hostAndPort
  if found then
    let (host, _, port) := partitionAt ']' bracketed
    before = [] && (port = [] || port.head? = some ':') && U.bracketedHost host
  else U.bracketedHost (partitionAt ':' hostAndPort).1

/-- Whether `urlsplit` accepts the network location. -/
def checkNetloc (U : UrlTables) (netloc : List Char) : Bool :=
  (netloc.contains '[' == netloc.contains ']')
    && (!netloc.contains '[' || checkBracketedNetloc U netloc)
    && (isAsciiChars netloc || U.nfkcSafe netloc)

/-- `urlsplit`, without the path, the query and the fragment: scheme and network location. -/
def urlsplit (U : UrlTables) (url : List Char) : Except PyExc (List Char × List Char) :=
  let stripped := url.dropWhile fun c => c.toNat ≤ 32
  let cleaned := stripped.filter fun c => c ≠ '\t' ∧ c ≠ '\r' ∧ c ≠ '\n'
  let (scheme, rest) := splitScheme U cleaned
  let netloc := splitNetloc rest
  if checkNetloc U netloc then .ok (scheme, netloc) else .error (.valueError "Invalid URL")

/-- `_hostinfo`: host and port as texts. -/
def hostinfo (netloc : List Char) : List Char × List Char :=
  let info := afterLastAt netloc
  let (_, found, bracketed) := partitionAt '[' info
  if found then
    let (host, _, rest) := partitionAt ']' bracketed
    (host, (partitionAt ':' rest).2.2)
  else
    let (host, _, port) := partitionAt ':' info
    (host, port)

/-- `hostname`, empty for `None`: the zone of a scoped address keeps its case. -/
def hostname (U : UrlTables) (netloc : List Char) : List Char :=
  let (host, found, zone) := partitionAt '%' (hostinfo netloc).1
  lowerChars U host ++ (if found then '%' :: zone else [])

/-- `port`. -/
def port (netloc : List Char) : Except PyExc (Option Nat) :=
  match (hostinfo netloc).2 with
  | [] => .ok none
  | digits =>
      if digits.all Char.isDigit then
        let n := Nat.ofDigitChars 10 digits 0
        if n ≤ 65535 then .ok (some n) else .error (.valueError "Port out of range 0-65535")
      else .error (.valueError "Port could not be cast to integer value")

section Resolve

variable (P : Packages) (U : UrlTables)

/-- `endpoint_base_url`. -/
def endpointBaseUrl (url : String) : Except PyExc String := do
  let (scheme, netloc) ← urlsplit U (rstripSlash url).toList
  let host := hostname U netloc
  if scheme = [] ∨ host = [] then return rstripSlash url
  let host := if ':' ∈ host ∧ host.head? ≠ some '[' then '[' :: host ++ [']'] else host
  let base := String.ofList (scheme ++ "://".toList ++ host)
  match ← port netloc with
  | some n => return base ++ ":" ++ toString n
  | none => return base

/-! ### Pins -/

/-- `_pin_from_profile_relay_descriptors`. -/
def pinFromProfileRelayDescriptors (normalized : String) :
    List RelayDescriptor → Except PyExc (Option Bytes)
  | [] => .ok none
  | d :: descriptors => do
      if (← endpointBaseUrl U d.url) = normalized ∧ d.tlsSpkiSha256 ≠ [] then
        return some d.tlsSpkiSha256
      else pinFromProfileRelayDescriptors normalized descriptors

/-- The assignments of one profile in `relay_tls_pins_from_store`. -/
def profilePins (profile : DeliveryProfile) : Except PyExc (List (String × Bytes)) :=
  (profile.relayDescriptors.filter fun d => d.tlsSpkiSha256 ≠ []).mapM fun d => do
    return (← endpointBaseUrl U d.url, d.tlsSpkiSha256)

/-- The profile of one contact of a loop over `store.list_contacts()`. -/
def contactProfile (store : FileLocalStore) (name : String) :
    Except PyExc (Option DeliveryProfile) := do
  return (← store.getContact P name).bind (·.deliveryProfile)

/-- What the loop over `store.list_contacts()` assigns for each stored profile. -/
def forContacts {α : Type} (store : FileLocalStore)
    (assign : String → DeliveryProfile → Except PyExc (List α)) : Except PyExc (List α) := do
  let parts ← store.listContacts.mapM fun name => do
    match ← contactProfile P store name with
    | none => return []
    | some profile => assign name profile
  return parts.flatten

/-- What is assigned for the own profile. -/
def forLocal {α : Type} (store : FileLocalStore)
    (assign : DeliveryProfile → Except PyExc (List α)) : Except PyExc (List α) := do
  match ← store.loadLocalProfile P with
  | none => return []
  | some profile => assign profile

/-- `relay_tls_pins_from_store`; of the assignments to a key the last one counts. -/
def relayTlsPinsFromStore : Option FileLocalStore → Except PyExc (List (String × Bytes))
  | none => .ok []
  | some store => do
      let own ← forLocal P store (profilePins U)
      let others ← forContacts P store fun _ => profilePins U
      return own ++ others

/-- The pin of an endpoint under a name, if there is one. -/
def endpointPin (name : String) (profile : DeliveryProfile) : List (String × Bytes) :=
  if profile.endpointTlsSpkiSha256 = [] then [] else [(name, profile.endpointTlsSpkiSha256)]

/-- `operator_tls_pins`; `identity` is what `store.load_identity()` returns. -/
def operatorTlsPins (identity : Except PyExc (Option Identity)) :
    Option FileLocalStore → Except PyExc (List (String × Bytes))
  | none => .ok []
  | some store => do
      let own ←
        match ← identity with
        | none => pure []
        | some identity =>
            forLocal P store fun profile => return endpointPin identity.name profile
      let others ← forContacts P store fun name profile => return endpointPin name profile
      return own ++ others

/-- The relays of a profile in `url_operator_map`. -/
def profileOperators (profile : DeliveryProfile) : Except PyExc (List (String × String)) :=
  profile.relayDescriptors.mapM fun d => do return (← endpointBaseUrl U d.url, d.name)

/-- `url_operator_map`. -/
def urlOperatorMap (identity : Except PyExc (Option Identity)) :
    Option FileLocalStore → Except PyExc (List (String × String))
  | none => .ok []
  | some store => do
      let own ← forLocal P store fun profile => do
        let relays ← profileOperators U profile
        let hints ← profile.directHints.mapM fun hint => do
          match ← identity with
          | none => return []
          | some identity => return [(← endpointBaseUrl U hint, identity.name)]
        return relays ++ hints.flatten
      let others ← forContacts P store fun name profile => do
        let relays ← profileOperators U profile
        let hints ← profile.directHints.mapM fun hint => do
          return (← endpointBaseUrl U hint, name)
        return relays ++ hints
      return own ++ others

/-- The loop over the contact's relays in `resolve_tls_pin_for_url`. -/
def operatorPin (operators : List (String × Bytes)) (contact : Contact)
    (profile : DeliveryProfile) (normalized : String) :
    List RelayDescriptor → Except PyExc (Option Bytes)
  | [] => .ok none
  | d :: descriptors => do
      if (← endpointBaseUrl U d.url) = normalized then
        match operators.reverse.lookup d.name with
        | some pin => return some pin
        | none =>
            if d.name = contact.name ∧ profile.endpointTlsSpkiSha256 ≠ [] then
              return some profile.endpointTlsSpkiSha256
            else operatorPin operators contact profile normalized descriptors
      else operatorPin operators contact profile normalized descriptors

/-- The loop over the contact's direct hints. -/
def hintPin (profile : DeliveryProfile) (normalized : String) :
    List String → Except PyExc (Option Bytes)
  | [] => .ok none
  | hint :: hints => do
      if (← endpointBaseUrl U hint) = normalized ∧ profile.endpointTlsSpkiSha256 ≠ [] then
        return some profile.endpointTlsSpkiSha256
      else hintPin profile normalized hints

/-- The loop over `extra_pins_by_url`. -/
def extraPin (normalized : String) : List (String × Bytes) → Except PyExc (Option Bytes)
  | [] => .ok none
  | (candidate, pin) :: extra => do
      if (← endpointBaseUrl U candidate) = normalized then return some pin
      else extraPin normalized extra

/-- The part of `resolve_tls_pin_for_url` that knows the operators' pins. -/
def pinFromOperators (identity : Except PyExc (Option Identity)) (normalized : String)
    (store : Option FileLocalStore) (contact : Option Contact) : Except PyExc (Option Bytes) := do
  let operators ← operatorTlsPins P identity store
  match contact, contact.bind (·.deliveryProfile) with
  | some contact, some profile =>
      if let some pin ← operatorPin U operators contact profile normalized
          profile.relayDescriptors then return some pin
      if let some pin ← hintPin U profile normalized profile.directHints then return some pin
  | _, _ => pure ()
  let urlOps ← urlOperatorMap P U identity store
  return (urlOps.reverse.lookup normalized).bind fun operator => operators.reverse.lookup operator

/-- `resolve_tls_pin_for_url`. -/
def resolveTlsPinForUrl (identity : Except PyExc (Option Identity)) (url : String)
    (store : Option FileLocalStore) (contact : Option Contact)
    (explicitPin : Option Bytes := none) (extraPinsByUrl : List (String × Bytes) := []) :
    Except PyExc (Option Bytes) := do
  if let some pin := explicitPin then return some pin
  let normalized ← endpointBaseUrl U url
  if let some pin ← extraPin U normalized extraPinsByUrl then return some pin
  if let some profile := contact.bind (·.deliveryProfile) then
    if let some pin ← pinFromProfileRelayDescriptors U normalized profile.relayDescriptors then
      return some pin
  let pins ← relayTlsPinsFromStore P U store
  if let some pin := pins.reverse.lookup normalized then return some pin
  pinFromOperators P U identity normalized store contact

end Resolve
end Yakr
