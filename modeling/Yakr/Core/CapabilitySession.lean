import Mathlib.Data.List.TakeWhile
import Yakr.Core.CapabilityClient

/-!
# Yakr.Core.CapabilitySession

**What a device does with its grants: `capability_client.py`, `capability_grant.py`.** Before a
request to a relay the device makes sure that it has a grant with the permissions it needs and asks
the relay for one where it has not. With the private key of the grant it signs the request.

What is on the other side of the network is a state of its own, and asking it for a grant is a
computation on that state; the clock readings and the random bytes are arguments.
-/

namespace Yakr

open Lib Effect

variable (P : Packages)

/-! ### Signed requests -/

/-- `sign_capability_request`: the time stamp, the nonce and the signature. -/
def signCapabilityRequest (authPrivate : PrivateKey) (method path : String) (body : Bytes)
    (timestampMs : Option Int) (nonce : Option Bytes) (now : Int) (drawn : BytesN 16) :
    Except PyExc (Int × Bytes × Bytes) :=
  let ts := timestampMs.getD now
  -- an empty nonce is none
  let rawNonce := if nonce.getD [] = [] then drawn.1 else nonce.getD []
  if rawNonce.length ≠ 16 then .error (.valueError "nonce must be 16 bytes")
  else
    .ok (ts, rawNonce,
      P.ed25519Sign authPrivate (capabilityRequestSigningInput P method path body ts rawNonce))

/-- `capability_request_headers`, with the body they are sent with. -/
def capabilityRequestHeaders (grant : CapabilityGrant) (authPrivate : PrivateKey)
    (method path : String) (body : Bytes) (now : Int) (drawn : BytesN 16) :
    Except PyExc SignedHttp := do
  let (timestampMs, nonce, signature) ←
    signCapabilityRequest P authPrivate method path body none none now drawn
  return { body
           grant := some (grant.toB64 P)
           timestamp := some (toString timestampMs)
           nonce := some (b64encode nonce)
           signature := some (b64encode signature) }

structure CapabilitySession where
  grant : CapabilityGrant
  authPrivate : PrivateKey

/-- `capability_headers_for_request`. -/
def capabilityHeadersForRequest (session : CapabilitySession) (method path : String) (body : Bytes)
    (now : Int) (drawn : BytesN 16) : Except PyExc SignedHttp :=
  capabilityRequestHeaders P session.grant session.authPrivate method path body now drawn

/-! ### Sessions -/

/-- A device and what it talks to. -/
structure Client (σ : Type) where
  publisher : Publisher
  server : σ

abbrev ClientM (σ : Type) := EStateM PyExc (Client σ)

namespace Client

variable {σ α : Type}

def onPublisher (m : PublishM α) : ClientM σ α :=
  onPart Client.publisher (fun c publisher => { c with publisher := publisher }) m

def onServer (m : EStateM PyExc σ α) : ClientM σ α :=
  onPart Client.server (fun c server => { c with server := server }) m

theorem run_onServer {α : Type} (m : EStateM PyExc σ α) (s : Client σ) :
    (Client.onServer m).run s = match m.run s.server with
      | .ok a t => .ok a { s with server := t }
      | .error e t => .error e { s with server := t } := by
  unfold Client.onServer onPart
  simp only [EStateM.run]
  cases m s.server <;> rfl

theorem run_onPublisher {α : Type} (m : PublishM α) (s : Client σ) :
    (Client.onPublisher m).run s = match m.run s.publisher with
      | .ok a t => .ok a { s with publisher := t }
      | .error e t => .error e { s with publisher := t } := by
  unfold Client.onPublisher onPart
  simp only [EStateM.run]
  cases m s.publisher <;> rfl

end Client

/-- What a device that issues or ensures a session is given. -/
structure SessionRequest where
  relayUrl : String
  relayName : String
  identity : Identity
  contact : Contact
  permissions : List String := defaultCapabilityPermissions
  /-- The key to verify the grant with, if the relay has told it. -/
  relayIssuancePublic : Option Bytes := none
  /-- `int(time.time() * 1000)` when the stored grant is looked at, when the ticket is issued and
  when the grant is verified. -/
  now : Int
  ticketedAt : Int
  verifiedAt : Int
  /-- The salt that is drawn where there is none. -/
  drawn : BytesN 16

variable (U : UrlTables) {σ : Type}
  (ask : String → CapabilityIssueRequest → EStateM PyExc σ IssueResponse)

/-- What `issue_capability_from_relay` asks the relay for, with the key and the salt and the pin
that are stored with the grant. -/
def issueRequest (request : SessionRequest) (operatorProfile : Option DeliveryProfile)
    (publisher : Publisher) :
    Except PyExc (CapabilityIssueRequest × PrivateKey × Bytes × Bytes) := do
  let tlsPin ← relayTlsPin P U request.identity request.relayUrl publisher.store request.contact
  let (generation, issuanceSalt) ←
    capabilityMaterialParams publisher request.relayName operatorProfile request.drawn
  let (capabilityId, authPrivate) ←
    deriveCapabilityMaterial P request.contact.masterSecret request.relayName tlsPin generation
      issuanceSalt
  let ticket ←
    bootstrapTicket P request.identity request.contact request.relayName ["store", "fetch"]
      request.ticketedAt
  let supersedesCapabilityId ← supersededId P publisher request.relayName generation
  return (
    { authPublic := b64encode (P.ed25519Public authPrivate).1
      capabilityId := b64encode capabilityId
      capabilityGeneration := generation
      issuanceSalt := b64encode issuanceSalt
      permissions := request.permissions
      ticket := some ticket
      supersedesCapabilityId },
    authPrivate, issuanceSalt, tlsPin)

/-- The grant of a response, verified if the key is known. -/
def receivedGrant (request : SessionRequest) (tlsPin : Bytes) (response : IssueResponse) :
    Except PyExc CapabilityGrant := do
  if response.statusCode ≠ 201 then
    throw (.runtimeError ("capability issue failed: " ++ toString response.statusCode ++ " "
      ++ response.text))
  let grant ← CapabilityGrant.fromB64 P (← response.grant)
  match request.relayIssuancePublic with
  | none => return grant
  | some issuancePublic =>
      verifyCapabilityGrant P grant issuancePublic request.relayName tlsPin request.verifiedAt
      return grant

/-- `issue_capability_from_relay`. -/
def issueCapabilitySession (request : SessionRequest) (operatorProfile : Option DeliveryProfile) :
    ClientM σ CapabilitySession := do
  let (issue, authPrivate, issuanceSalt, tlsPin) ←
    orRaise (issueRequest P U request operatorProfile (← get).publisher)
  let response ← Client.onServer (ask request.relayUrl issue)
  let grant ← orRaise (receivedGrant P request tlsPin response)
  Client.onPublisher
    (Publisher.saveCapabilityGrant P request.relayName grant authPrivate.1 issuanceSalt tlsPin)
  return { grant, authPrivate }

/-- The session of a row, if it lasts a minute and has the permissions. -/
def storedSession (permissions : List String) (now : Int) (stored : StoredGrant) :
    Except PyExc (Option CapabilitySession) := do
  let grant ← CapabilityGrant.fromBytes P (← b64decode stored.grantB64)
  let authPrivate ← loadPrivate (← b64decode stored.authPrivateB64)
  if grant.expiresAt > now + 60000 ∧ permissions.all grant.permissions.contains then
    return some { grant, authPrivate }
  return none

/-- The end of `ensure_capability_session`, where no stored grant will do. -/
def renewedSession (request : SessionRequest) (publisher : Publisher) :
    ClientM σ CapabilitySession := do
  let _ ← orRaise
    (relayTlsPin P U request.identity request.relayUrl publisher.store request.contact)
  let operatorProfile ← orRaise (publisher.store.loadLocalProfile P)
  issueCapabilitySession P U ask request operatorProfile

/-- `ensure_capability_session`, for a relay whose key has been asked for. -/
def ensureCapabilitySession (request : SessionRequest) : ClientM σ CapabilitySession := do
  let publisher := (← get).publisher
  let session ←
    match publisher.loadCapabilityGrant request.relayName with
    | none => pure none
    | some stored => orRaise (storedSession P request.permissions request.now stored)
  match session with
  | some session => return session
  | none => renewedSession P U ask request publisher

section Runs

variable {P U ask}

/-- The parts of a request for a session, one after the other. -/
theorem issueCapabilitySession_run (request : SessionRequest) (profile : Option DeliveryProfile)
    (s : Client σ) :
    (issueCapabilitySession P U ask request profile).run s =
      match issueRequest P U request profile s.publisher with
      | .error e => .error e s
      | .ok (issue, authPrivate, salt, pin) =>
          match (ask request.relayUrl issue).run s.server with
          | .error e server => .error e { s with server := server }
          | .ok response server =>
              match receivedGrant P request pin response with
              | .error e => .error e { s with server := server }
              | .ok grant =>
                  match (Publisher.saveCapabilityGrant P request.relayName grant authPrivate.1 salt
                    pin).run s.publisher with
                  | .error e publisher => .error e { publisher, server }
                  | .ok _ publisher => .ok { grant, authPrivate } { publisher, server } := by
  unfold issueCapabilitySession
  rw [run_get_bind]
  cases issueRequest P U request profile s.publisher with
  | error e => rfl
  | ok asked =>
      obtain ⟨issue, authPrivate, salt, pin⟩ := asked
      show (Client.onServer (ask request.relayUrl issue) >>= _).run s = _
      rw [EStateM.run_bind, Client.run_onServer]
      dsimp only
      cases (ask request.relayUrl issue).run s.server with
      | error e server => rfl
      | ok response server =>
          dsimp only
          cases receivedGrant P request pin response with
          | error e => rfl
          | ok grant =>
              show (Client.onPublisher _ >>= _).run _ = _
              rw [EStateM.run_bind, Client.run_onPublisher]
              dsimp only
              cases (Publisher.saveCapabilityGrant P request.relayName grant authPrivate.1 salt
                    pin).run s.publisher with
              | error e publisher => rfl
              | ok u publisher => rfl

/-- Without a key, and for a relay whose answers are given, a session is issued as a profile's
grants are synchronized. -/
theorem issueCapabilityFromRelay_session (answers : RelayAnswers) (request : SessionRequest)
    (hpermissions : request.permissions = defaultCapabilityPermissions)
    (hkey : request.relayIssuancePublic = none) (hdrawn : request.drawn = answers.drawn)
    (hticketed : request.ticketedAt = answers.now) (profile : Option DeliveryProfile)
    (publisher : Publisher) :
    (issueCapabilityFromRelay P U answers request.identity request.contact request.relayUrl
        request.relayName profile).run publisher
      = match (issueCapabilitySession P U
            (fun url issue => (orRaise (answers.issue url issue) : EStateM PyExc Unit _)) request
            profile).run { publisher, server := () } with
        | .ok session s => .ok session.grant s.publisher
        | .error e s => .error e s.publisher := by
  rw [issueCapabilitySession_run]
  unfold issueCapabilityFromRelay issueRequest receivedGrant
  rw [run_get_bind, run_orRaise_bind, hpermissions, hkey, hdrawn, hticketed]
  cases relayTlsPin P U request.identity request.relayUrl publisher.store request.contact with
  | error e => rfl
  | ok tlsPin =>
  dsimp only
  rw [run_orRaise_bind, ok_bind]
  cases capabilityMaterialParams publisher request.relayName profile answers.drawn with
  | error e => rfl
  | ok params =>
  obtain ⟨generation, issuanceSalt⟩ := params
  dsimp only
  rw [run_orRaise_bind, ok_bind]
  dsimp only
  cases deriveCapabilityMaterial P request.contact.masterSecret request.relayName tlsPin generation
    issuanceSalt with
  | error e => rfl
  | ok material =>
  obtain ⟨capabilityId, authPrivate⟩ := material
  dsimp only
  rw [run_orRaise_bind, ok_bind]
  dsimp only
  cases bootstrapTicket P request.identity request.contact request.relayName ["store", "fetch"]
    answers.now with
  | error e => rfl
  | ok ticket =>
  dsimp only
  rw [run_orRaise_bind, ok_bind]
  cases supersededId P publisher request.relayName generation with
  | error e => rfl
  | ok superseded =>
  dsimp only
  rw [run_orRaise_bind, ok_bind]
  dsimp only [pure, Except.pure]
  cases answers.issue request.relayUrl
    { authPublic := b64encode (P.ed25519Public authPrivate).1
      capabilityId := b64encode capabilityId
      capabilityGeneration := generation
      issuanceSalt := b64encode issuanceSalt
      permissions := defaultCapabilityPermissions
      ticket := some ticket
      supersedesCapabilityId := superseded } with
  | error e => rfl
  | ok response =>
  rw [run_orRaise_ok]
  dsimp only
  by_cases hstatus : response.statusCode ≠ 201
  · rw [if_pos hstatus, if_pos hstatus]
    rfl
  rw [if_neg hstatus, if_neg hstatus, run_orRaise_bind]
  cases hgrant : (do CapabilityGrant.fromB64 P (← response.grant) :
    Except PyExc CapabilityGrant) with
  | error e =>
      rw [← bind_assoc, hgrant]
      rfl
  | ok grant =>
  rw [← bind_assoc, hgrant]
  show (Publisher.saveCapabilityGrant P request.relayName grant authPrivate.1 issuanceSalt tlsPin
    >>= fun _ => pure grant).run publisher = _
  rw [EStateM.run_bind]
  dsimp only [ok_bind]
  cases (Publisher.saveCapabilityGrant P request.relayName grant authPrivate.1 issuanceSalt
    tlsPin).run publisher with
  | error e publisher' => rfl
  | ok u publisher' => rfl

variable (P U ask) in
theorem renewedSession_cases (request : SessionRequest) (s : Client σ) :
    (∃ e, (renewedSession P U ask request s.publisher).run s = .error e s)
      ∨ ∃ profile, s.publisher.store.loadLocalProfile P = .ok profile
        ∧ (renewedSession P U ask request s.publisher).run s
          = (issueCapabilitySession P U ask request profile).run s := by
  unfold renewedSession
  rw [run_orRaise_bind]
  cases relayTlsPin P U request.identity request.relayUrl s.publisher.store request.contact with
  | error e => exact .inl ⟨e, rfl⟩
  | ok pin =>
      dsimp only
      rw [run_orRaise_bind]
      cases s.publisher.store.loadLocalProfile P with
      | error e => exact .inl ⟨e, rfl⟩
      | ok profile => exact .inr ⟨profile, rfl, rfl⟩

/-- A stored session that will do is given. -/
theorem ensureCapabilitySession_stored {request : SessionRequest} {s : Client σ}
    {stored : StoredGrant} {session : CapabilitySession}
    (hstored : s.publisher.loadCapabilityGrant request.relayName = some stored)
    (hsession : storedSession P request.permissions request.now stored = .ok (some session)) :
    (ensureCapabilitySession P U ask request).run s = .ok session s := by
  unfold ensureCapabilitySession
  rw [run_get_bind]
  dsimp only
  rw [hstored]
  dsimp only
  rw [hsession]
  rfl

variable (P U ask) in
/-- Making sure of a session raises at once, gives the one that is stored, or issues one. -/
theorem ensureCapabilitySession_cases (request : SessionRequest) (s : Client σ) :
    (∃ e, (ensureCapabilitySession P U ask request).run s = .error e s)
      ∨ (∃ stored session, s.publisher.loadCapabilityGrant request.relayName = some stored
        ∧ storedSession P request.permissions request.now stored = .ok (some session)
        ∧ (ensureCapabilitySession P U ask request).run s = .ok session s)
      ∨ ∃ profile, s.publisher.store.loadLocalProfile P = .ok profile
        ∧ (ensureCapabilitySession P U ask request).run s
          = (issueCapabilitySession P U ask request profile).run s := by
  have hrenewed := renewedSession_cases P U ask request s
  unfold ensureCapabilitySession
  rw [run_get_bind]
  dsimp only
  cases s.publisher.loadCapabilityGrant request.relayName with
  | none =>
      dsimp only
      rw [pure_bind]
      exact hrenewed.imp_right Or.inr
  | some stored =>
      dsimp only
      rw [run_orRaise_bind]
      cases hsession : storedSession P request.permissions request.now stored with
      | error e => exact .inl ⟨e, rfl⟩
      | ok session =>
          cases session with
          | none => exact hrenewed.imp_right Or.inr
          | some session => exact .inr (.inl ⟨stored, session, rfl, hsession, rfl⟩)

end Runs

/-! ### Time stamps are read back -/

namespace Relay

/-- A text without white space is stripped of nothing. -/
theorem strip_eq {p : Char → Bool} {cs : List Char} (h : ∀ c ∈ cs, p c = false) :
    ((cs.dropWhile p).reverse.dropWhile p).reverse = cs := by
  have hkeep : ∀ {l : List Char}, (∀ c ∈ l, p c = false) → l.dropWhile p = l := fun hl =>
    List.dropWhile_eq_self_iff.mpr fun hlength => by simp [hl _ (List.getElem_mem hlength)]
  rw [hkeep h, hkeep fun c hc => h c (List.mem_reverse.mp hc), List.reverse_reverse]

/-- The characters of a number are no white space. -/
theorem not_space {c : Char} (h : c.isDigit ∨ c = '-') :
    isHeaderSpace c = false ∧ isPySpace c = false := by
  rcases h with h | rfl
  · have hdigit : ∀ m < 10, isHeaderSpace (Char.ofNat (48 + m)) = false
        ∧ isPySpace (Char.ofNat (48 + m)) = false := by decide
    have hval : 48 ≤ c.toNat ∧ c.toNat ≤ 57 := by
      simpa [Char.isDigit, UInt32.le_iff_toNat_le] using h
    have hc : c = Char.ofNat (48 + (c.toNat - 48)) := by
      rw [Nat.add_sub_cancel' hval.1, Char.ofNat_toNat]
    rw [hc]
    exact hdigit _ (by omega)
  · decide

theorem isDigitGroup_digits {cs : List Char} (hne : cs ≠ []) (h : ∀ c ∈ cs, c.isDigit) :
    isDigitGroup cs = true := by
  induction cs with
  | nil => exact absurd rfl hne
  | cons c cs ih =>
      have hc := h c List.mem_cons_self
      cases cs with
      | nil => exact hc
      | cons d rest =>
          have hd : d ≠ '_' := by
            rintro rfl
            exact absurd (h '_' (by simp)) (by decide)
          have hrest := ih (List.cons_ne_nil _ _) fun x hx => h x (List.mem_cons_of_mem _ hx)
          simp [isDigitGroup, hc, hd, hrest]

theorem toList_toString (n : Int) : (toString n).toList
    = if n < 0 then '-' :: Nat.toDigits 10 n.natAbs else Nat.toDigits 10 n.natAbs := by
  cases n with
  | ofNat m =>
      rw [if_neg (by simp)]
      show (Nat.repr m).toList = _
      simp [Nat.repr]
  | negSucc m =>
      rw [if_pos (Int.negSucc_lt_zero m)]
      show ("-" ++ Nat.repr (m + 1)).toList = _
      simp [Nat.repr]

/-- A time stamp is read back from its header. -/
theorem intOfHeader_toString (n : Int) : intOfHeader (toString n) = .ok n := by
  have hdigits : ∀ c ∈ Nat.toDigits 10 n.natAbs, c.isDigit := fun c hc =>
    Nat.isDigit_of_mem_toDigits (by decide) (by decide) hc
  have hspace : ∀ c ∈ (toString n).toList, isHeaderSpace c = false ∧ isPySpace c = false := by
    intro c hc
    rw [toList_toString] at hc
    refine not_space ?_
    split at hc
    · rcases List.mem_cons.mp hc with rfl | hc
      · exact Or.inr rfl
      · exact Or.inl (hdigits c hc)
    · exact Or.inl (hdigits c hc)
  have hgroup := isDigitGroup_digits Nat.toDigits_ne_nil hdigits
  have hfilter : (Nat.toDigits 10 n.natAbs).filter Char.isDigit = Nat.toDigits 10 n.natAbs :=
    List.filter_eq_self.mpr hdigits
  unfold intOfHeader
  dsimp only
  rw [strip_eq fun c hc => (hspace c hc).1, String.ofList_toList]
  have htext : intOfText (toString n) = some n := by
    unfold intOfText stripChars
    rw [strip_eq fun c hc => (hspace c hc).2, toList_toString]
    by_cases hneg : n < 0
    · rw [if_pos hneg]
      simp only [hgroup, hfilter, if_true, Nat.ofDigitChars_ten_toDigits]
      congr 1
      omega
    · rw [if_neg hneg]
      cases hd : Nat.toDigits 10 n.natAbs with
      | nil => exact absurd hd Nat.toDigits_ne_nil
      | cons c cs =>
          have hc : c.isDigit := hdigits c (by rw [hd]; exact List.mem_cons_self)
          have hminus : c ≠ '-' := by
            rintro rfl
            exact absurd hc (by decide)
          have hplus : c ≠ '+' := by
            rintro rfl
            exact absurd hc (by decide)
          have hvalue : Nat.ofDigitChars 10 (c :: cs) 0 = n.natAbs := by
            rw [← hd, Nat.ofDigitChars_ten_toDigits]
          rw [hd] at hgroup hfilter
          split
          · rename_i hcons
            exact absurd (List.cons.inj hcons).1 hminus
          · rename_i hcons
            exact absurd (List.cons.inj hcons).1 hplus
          · simp only [hgroup, hfilter, hvalue, if_true, Bool.false_eq_true, if_false]
            congr 1
            omega
  rw [htext]

end Relay

end Yakr
