import Yakr.Relay.Registry

/-!
# Yakr.Relay.Check

**What a passed capability check says.** `Passes` lists everything `_check_capability` has
verified when it lets a request through, at which of its four clock readings, and the state it
leaves.
-/

namespace Yakr

open Lib Effect

variable (P : Packages) (runtime : RelayRuntime) (clock : Nat → Int)

namespace Relay

/-- `onCapabilities` of a successful `consume_nonce`. -/
def consumed (nonceB64 : String) (now : Int) (s : CapabilityGrantStore) : CapabilityGrantStore :=
  let pruned := s.pruneNonces now
  CapabilityGrantStore.save
    { pruned with seenNonces := Table.upsert Prod.fst (nonceB64, now) pruned.seenNonces }

/-- The check let the request through. -/
structure Passes (r : Relay) (http : SignedHttp) (permission method path : String)
    (check : PassedCheck) (r' : Relay) : Prop where
  issuance : runtime.relayIssuancePublic ≠ []
  headers : ∀ text ∈ [http.grant, http.timestamp, http.nonce, http.signature], text ≠ some ""
  permission_eq : check.permission = permission
  method_eq : check.request.method = method
  path_eq : check.request.path = path
  body_eq : check.request.body = http.body
  consumedAt_eq : check.consumedAt = clock (r.readings + 3)
  grant : ∃ text, http.grant = some text
    ∧ CapabilityGrant.fromB64 P text = .ok check.request.grant
  timestamp : ∃ text, http.timestamp = some text ∧ intOfHeader text = .ok check.request.timestampMs
  nonce : http.nonce = some check.nonceB64 ∧ b64decode check.nonceB64 = .ok check.request.nonce
  signature : ∃ text, http.signature = some text ∧ b64decode text = .ok check.request.signature
  verified : verifyCapabilityGrant P check.request.grant runtime.relayIssuancePublic runtime.name
    runtime.relayTlsSpkiSha256 (clock r.readings) = .ok ()
  registered : r.capabilities.isRegistered P check.request.grant (clock (r.readings + 1)) = .ok true
  allowed : grantAllowsPermission check.request.grant permission = true
  signed : verifyCapabilityRequest P check.request.grant check.request.grant.authPublic
    check.request.signature method path http.body check.request.timestampMs check.request.nonce
    (clock (r.readings + 2)) = .ok ()
  fresh : Table.find Prod.fst check.nonceB64
    (r.capabilities.pruneNonces (clock (r.readings + 3))).seenNonces = none
  state : r' =
    { r with
      readings := r.readings + 4
      capabilities := consumed check.nonceB64 (clock (r.readings + 3)) r.capabilities
      passed := r.passed ++ [check] }

variable {P runtime clock}

@[simp] theorem run_tick {ε : Type} (r : Relay) :
    (tick clock : EStateM ε Relay Int).run r
      = .ok (clock r.readings) { r with readings := r.readings + 1 } := rfl

theorem run_rescue_ok {α : Type} {body : BodyM α} {handler : PyExc → HttpException} {r r' : Relay}
    {a : α} : (rescue body handler).run r = .ok a r' ↔ body.run r = .ok a r' := by
  have hrescue : (rescue body handler).run r = rescue body handler r := rfl
  rw [hrescue, rescue]
  cases body.run r with
  | ok a r' => simp
  | error e r' => simp

theorem run_rescue_error {α : Type} {body : BodyM α} {handler : PyExc → HttpException}
    {r r' : Relay} {e : HttpException} :
    (rescue body handler).run r = .error e r'
      ↔ ∃ e', body.run r = .error e' r' ∧ handler e' = e := by
  have hrescue : (rescue body handler).run r = rescue body handler r := rfl
  rw [hrescue, rescue]
  cases body.run r with
  | ok a r' => simp
  | error e' r' => simp [and_comm]

theorem run_tick_bind {ε α : Type} (r : Relay) (f : Int → EStateM ε Relay α) :
    (tick clock >>= f).run r
      = (f (clock r.readings)).run { r with readings := r.readings + 1 } := rfl

/-- A nonce is consumed when it is not remembered. -/
theorem run_consumeNonce_ok {nonceB64 : String} {now : Int} {r r' : Relay} {u : Unit} :
    (onCapabilities (CapabilityGrantStore.consumeNonce nonceB64 now)).run r = .ok u r'
      ↔ Table.find Prod.fst nonceB64 (r.capabilities.pruneNonces now).seenNonces = none
        ∧ r' = { r with capabilities := consumed nonceB64 now r.capabilities } := by
  rw [onCapabilities, run_onPart_ok]
  simp only [CapabilityGrantStore.consumeNonce, run_modify_bind, run_get_bind, run_guard_bind_ok,
    Option.not_isSome_iff_eq_none]
  constructor
  · rintro ⟨s, ⟨hfresh, hrun⟩, rfl⟩
    cases hrun
    exact ⟨hfresh, rfl⟩
  · rintro ⟨hfresh, rfl⟩
    exact ⟨_, ⟨hfresh, rfl⟩, rfl⟩

/-- **What a passed check says.** -/
theorem checkCapability_iff {http : SignedHttp} {permission method path : String}
    {r r' : Relay} (hrequired : runtime.requireCapabilities = true) :
    (checkCapability P runtime clock http permission method path).run r = .ok () r'
      ↔ ∃ check, Passes P runtime clock r http permission method path check r' := by
  simp only [checkCapability, hrequired, not_true_eq_false, if_false, run_guard_bind_ok]
  constructor
  · rintro ⟨hissuance, h⟩
    split at h
    · rename_i grantB64 timestampRaw nonceB64 signatureB64 hgrant htimestamp hnonce hsignature
      obtain ⟨hpresent, h⟩ := run_guard_bind_ok.mp h
      simp only [run_rescue_ok, verifyCapability, run_orRaise_bind_ok, run_tick_bind, run_get_bind,
        run_guard_bind_ok] at h
      obtain ⟨grant, hdecoded, _, hverified, registered, hregistered, hguard, hallowed, signature,
        hsig, timestampMs, hstamp, nonce, hdecode, _, hsigned, h⟩ := h
      obtain ⟨_, r'', hconsume, h⟩ := run_bind_ok.mp h
      obtain ⟨hfresh, rfl⟩ := run_consumeNonce_ok.mp hconsume
      cases h
      obtain rfl : registered = true := by simpa using hguard
      let request : SignedRequest :=
        { grant, method, path, body := http.body, timestampMs, nonce, signature }
      exact
        ⟨{ permission, request, nonceB64, consumedAt := clock (r.readings + 3) },
          { issuance := hissuance
            headers := by
              simp only [hgrant, htimestamp, hnonce, hsignature]
              simpa using hpresent
            permission_eq := rfl
            method_eq := rfl
            path_eq := rfl
            body_eq := rfl
            consumedAt_eq := rfl
            grant := ⟨grantB64, hgrant, hdecoded⟩
            timestamp := ⟨timestampRaw, htimestamp, hstamp⟩
            nonce := ⟨hnonce, hdecode⟩
            signature := ⟨signatureB64, hsignature, hsig⟩
            verified := hverified
            registered := hregistered
            allowed := not_not.mp hallowed
            signed := hsigned
            fresh := hfresh
            state := rfl }⟩
    · cases h
  · rintro ⟨check, h⟩
    obtain ⟨grantB64, hgrant, hdecoded⟩ := h.grant
    obtain ⟨timestampRaw, htimestamp, hstamp⟩ := h.timestamp
    obtain ⟨signatureB64, hsignature, hsig⟩ := h.signature
    have hpresent := h.headers
    simp only [hgrant, htimestamp, h.nonce.1, hsignature] at hpresent ⊢
    refine ⟨h.issuance, run_guard_bind_ok.mpr ⟨by simpa using hpresent, ?_⟩⟩
    simp only [run_rescue_ok, verifyCapability, run_orRaise_bind_ok, run_tick_bind, run_get_bind,
      run_guard_bind_ok]
    refine ⟨_, hdecoded, _, h.verified, _, h.registered, by simp, not_not.mpr h.allowed, _, hsig, _,
      hstamp, _, h.nonce.2, _, h.signed, ?_⟩
    refine run_bind_ok.mpr ⟨(), _, run_consumeNonce_ok.mpr ⟨h.fresh, rfl⟩, ?_⟩
    have hcheck : check =
        { permission
          request :=
            { grant := check.request.grant
              method, path
              body := http.body
              timestampMs := check.request.timestampMs
              nonce := check.request.nonce
              signature := check.request.signature }
          nonceB64 := check.nonceB64
          consumedAt := clock (r.readings + 3) } := by
      rw [← h.permission_eq, ← h.method_eq, ← h.path_eq, ← h.body_eq, ← h.consumedAt_eq]
    rw [h.state]
    conv_rhs => rw [hcheck]
    rfl

/-! ### A request that passes -/

namespace Sample

open CapabilityGrantStore CapabilityGrantStore.Sample

def body : Bytes :=
  encodeUtf8 "\x7b\"mailbox_tag\":\"AA\",\"expires_at\":1,\"ciphertext\":\"\"\x7d"

def nonce : Bytes := List.replicate 16 3

/-- The owner of the grant signs a store request. -/
def signed : SignedRequest :=
  { grant := grant 0
    method := "POST"
    path := "/v1/blobs"
    body
    timestampMs := 0
    nonce
    signature := packages.ed25519Sign (BytesN.fill 32 2)
      (capabilityRequestSigningInput packages "POST" "/v1/blobs" body 0 nonce) }

/-- Its headers, with a spelling of the nonce. -/
def http (nonceB64 : String) : SignedHttp :=
  { body
    grant := some (signed.grant.toB64 packages)
    timestamp := some "0"
    nonce := some nonceB64
    signature := some (b64encode signed.signature) }

theorem toB64_ne_empty : (grant 0).toB64 packages ≠ "" := by
  intro h
  have hempty : (grant 0).toBytes packages = [] := b64encode_injective h
  revert hempty
  decide +kernel

/-- The check passes while the grant is registered and the nonce is new. -/
theorem passes {r : Relay} {nonceB64 : String}
    (hregistered : r.capabilities.isRegistered packages (grant 0) 0 = .ok true)
    (hnonce : b64decode nonceB64 = .ok nonce) (hpresent : nonceB64 ≠ "")
    (hfresh : Table.find Prod.fst nonceB64 (r.capabilities.pruneNonces 0).seenNonces = none) :
    Passes packages relay (fun _ => 0) r (http nonceB64) "store" "POST" "/v1/blobs"
      { permission := "store", request := signed, nonceB64, consumedAt := 0 }
      { r with
        readings := r.readings + 4
        capabilities := consumed nonceB64 0 r.capabilities
        passed := r.passed
          ++ [{ permission := "store", request := signed, nonceB64, consumedAt := 0 }] } where
  issuance := by decide
  headers := by
    have hgrant : signed.grant.toB64 packages ≠ "" := toB64_ne_empty
    have hsignature : b64encode signed.signature ≠ "" := by decide +kernel
    simp [http, hgrant, hpresent, hsignature]
  permission_eq := rfl
  method_eq := rfl
  path_eq := rfl
  body_eq := rfl
  consumedAt_eq := rfl
  grant := ⟨_, rfl, CapabilityGrant.fromB64_toB64 (codedPackages_cborLaws plainPackages) _⟩
  timestamp := ⟨_, rfl, show intOfHeader "0" = .ok 0 by decide +kernel⟩
  nonce := ⟨rfl, hnonce⟩
  signature := ⟨_, rfl, b64decode_b64encode _⟩
  verified := show Verified packages relay (grant 0) 0 by decide +kernel
  registered := hregistered
  allowed := show grantAllowsPermission (grant 0) "store" = true by decide +kernel
  signed := show verifyCapabilityRequest packages (grant 0) (grant 0).authPublic signed.signature
    "POST" "/v1/blobs" body 0 nonce 0 = .ok () by decide +kernel
  fresh := hfresh
  state := rfl

end Sample

end Relay
end Yakr
