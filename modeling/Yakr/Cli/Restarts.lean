import Yakr.Cli.Delivery
import Yakr.Store.Created

/-!
# Yakr.Cli.Restarts

**How often does a delivery start over?** `deliver_encrypted` calls itself from two places. The loop
over the relays does so only while `retry_on_stale` is set, and the call it makes clears it. The
branch of an explicit route does not look at it: it starts over whenever its relay refuses the blob
and a direct hint serves a signed profile in place of an expired one, which may be expired itself.

* `deliverEncrypted_run`: a delivery is a pass, and another one if the pass says so;
* `restarts_at_most_once_iff`: when a delivery starts over at most once;
* `restarts_of_stale_remote`: a hint that keeps serving an expired profile drives a delivery to an
  explicit route to the recursion limit.
-/

namespace Yakr

open Lib Effect

variable {P : Packages}

section Passes

variable (P) (outside : Outside) (blob : OuterBlob) (route : Option String) (allowDirect : Bool)
  (now : Int)

/-- One pass of `deliver_encrypted`, up to where it returns, raises or calls itself (`none`). -/
def deliverOnce (retryOnStale : Bool) : HandlingM (Option Delivery) := do
  if retryOnStale then
    let _ ← refreshContactProfile P outside now
  if ← deliverDirect outside blob allowDirect then return some .direct
  let h ← get
  let _ ← orRaise (h.world.store.loadLocalProfile P)
  let resolvedRoute := if route = some "auto" then none else route
  let relayUrls ← orRaise
    (deliveryMailboxUrls P outside.env h.contact resolvedRoute (some h.world.store) now)
  match resolvedRoute with
  | some _ =>
      let relayUrl := relayUrls.headD ""
      tryCatch
        (do
          sendEncrypted outside blob relayUrl
          return some (.relay relayUrl))
        fun e => do
          if !e.isRuntimeError then throw e
          if ← refreshContactProfile P outside now then return none else throw e
  | none =>
      match ← tryRelays outside blob relayUrls with
      | some relayUrl => return some (.relay relayUrl)
      | none =>
          let refreshed ←
            if retryOnStale then refreshContactProfile P outside now else pure false
          if refreshed then return none
          else
            throw (.runtimeError ("all relay delivery attempts failed for " ++ h.contact.name))

/-- How often a delivery starts over, a call beyond the recursion limit included. -/
def restarts : (depth : Nat) → (retryOnStale : Bool) → Handling → Nat
  | 0, _, _ => 0
  | depth + 1, retryOnStale, h =>
      match (deliverOnce P outside blob route allowDirect now retryOnStale).run h with
      | .ok none h' => restarts depth false h' + 1
      | _ => 0

/-- What follows a pass. -/
def resume (again : HandlingM Delivery) : Option Delivery → HandlingM Delivery
  | some delivery => pure delivery
  | none => again

end Passes

section Resume

variable {again : HandlingM Delivery} {α : Type}

/-- What may come before the pass or not. -/
theorem before_resume {c : Prop} [Decidable c] {m : HandlingM α} {rest : HandlingM Delivery}
    {pass : HandlingM (Option Delivery)} (h : rest = pass >>= resume again) :
    (if c then m >>= fun _ => rest else rest)
      = (if c then m >>= fun _ => pass else pass) >>= resume again := by
  rw [h]
  split
  · rw [bind_assoc]
  · rfl

theorem ite_resume {c : Prop} [Decidable c] {rest rest' : HandlingM Delivery}
    {pass pass' : HandlingM (Option Delivery)} (h : rest = pass >>= resume again)
    (h' : rest' = pass' >>= resume again) :
    (if c then rest else rest') = (if c then pass else pass') >>= resume again := by
  split
  · exact h
  · exact h'

theorem bind_resume {m : HandlingM α} {rest : α → HandlingM Delivery}
    {pass : α → HandlingM (Option Delivery)} (h : ∀ a, rest a = pass a >>= resume again) :
    m >>= rest = (m >>= pass) >>= resume again := by
  rw [bind_assoc]
  exact bind_congr h

theorem throw_resume (e : PyExc) :
    (throw e : HandlingM Delivery) = (throw e : HandlingM (Option Delivery)) >>= resume again := rfl

theorem tryCatch_resume {m : HandlingM Unit} {delivery : Delivery}
    {handler : PyExc → HandlingM Delivery} {handler' : PyExc → HandlingM (Option Delivery)}
    (h : ∀ e, handler e = handler' e >>= resume again) :
    tryCatch (do m; return delivery) handler
      = tryCatch (do m; return some delivery) handler' >>= resume again := by
  refine funext fun s => ?_
  show (tryCatch (do m; return delivery) handler).run s
    = (tryCatch (do m; return some delivery) handler' >>= resume again).run s
  rw [EStateM.run_bind, run_tryCatch, run_tryCatch, EStateM.run_bind, EStateM.run_bind]
  cases m.run s with
  | ok u s' => rfl
  | error e s' => exact congrFun (h e) s'

end Resume

section Delivery

variable {outside : Outside} {blob : OuterBlob} {route : Option String} {allowDirect : Bool}
  {now : Int}

/-- A delivery is a pass, and another delivery without a retry if the pass says so. -/
theorem deliverEncrypted_succ (depth : Nat) (retryOnStale : Bool) :
    deliverEncrypted P outside blob route allowDirect now (depth + 1) retryOnStale
      = deliverOnce P outside blob route allowDirect now retryOnStale
        >>= resume (deliverEncrypted P outside blob route allowDirect now depth false) := by
  rw [deliverEncrypted]
  generalize deliverEncrypted P outside blob route allowDirect now depth false = again
  unfold deliverOnce
  dsimp only
  generalize (if route = some "auto" then none else route) = resolvedRoute
  refine before_resume (bind_resume fun direct => ite_resume rfl ?_)
  refine bind_resume fun h => bind_resume fun _ => bind_resume fun relayUrls => ?_
  cases resolvedRoute with
  | some _ =>
      refine tryCatch_resume fun e => ?_
      refine ite_resume rfl ?_
      exact bind_resume fun refreshed => ite_resume rfl (throw_resume e)
  | none =>
      refine bind_resume fun taken => ?_
      cases taken with
      | some relayUrl => rfl
      | none =>
          refine ite_resume ?_ ?_
          · exact bind_resume fun refreshed => ite_resume rfl (throw_resume _)
          · exact bind_resume fun refreshed => ite_resume rfl (throw_resume _)

theorem deliverEncrypted_run (depth : Nat) (retryOnStale : Bool) (h : Handling) :
    (deliverEncrypted P outside blob route allowDirect now (depth + 1) retryOnStale).run h
      = match (deliverOnce P outside blob route allowDirect now retryOnStale).run h with
        | .ok (some delivery) h' => .ok delivery h'
        | .ok none h' =>
            (deliverEncrypted P outside blob route allowDirect now depth false).run h'
        | .error e h' => .error e h' := by
  rw [deliverEncrypted_succ, EStateM.run_bind]
  cases (deliverOnce P outside blob route allowDirect now retryOnStale).run h with
  | error e h' => rfl
  | ok result h' =>
      cases result with
      | none => rfl
      | some delivery => rfl

/-! ### When a pass starts over -/

/-- The route a delivery is bound to. -/
def explicitRoute (route : Option String) : Option String :=
  if route = some "auto" then none else route

section Again

variable (P) (outside) (blob) (allowDirect) (now)

/-- The first refresh of a call. -/
def Refreshed (retryOnStale : Bool) (h h' : Handling) : Prop :=
  if retryOnStale then ∃ refreshed, (refreshContactProfile P outside now).run h = .ok refreshed h'
  else h' = h

/-- The blob is not taken directly, the relay of the route refuses it, and a direct hint serves a
signed profile in place of one that has expired. -/
def RefusedAndServed (explicit : String) (h h' : Handling) : Prop :=
  ∃ h₁ mine relayUrls e h₂,
    (deliverDirect outside blob allowDirect).run h = .ok false h₁
      ∧ h₁.world.store.loadLocalProfile P = .ok mine
      ∧ deliveryMailboxUrls P outside.env h₁.contact (some explicit) (some h₁.world.store) now
        = .ok relayUrls
      ∧ (sendEncrypted outside blob (relayUrls.headD "")).run h₁ = .error e h₂
      ∧ e.isRuntimeError = true
      ∧ (refreshContactProfile P outside now).run h₂ = .ok true h'

end Again

theorem run_before {α : Type} {c : Bool} {m : HandlingM Bool} {rest : HandlingM α} {h h' : Handling}
    {a : α} :
    (if c then m >>= fun _ => rest else rest).run h = .ok a h'
      ↔ ∃ h₀, (if c then ∃ b, m.run h = .ok b h₀ else h₀ = h) ∧ rest.run h₀ = .ok a h' := by
  cases c with
  | true =>
      simp only [if_true, run_bind_ok]
      constructor
      · intro hrun
        obtain ⟨b, h₀, hm, hrest⟩ := hrun
        exact ⟨h₀, ⟨b, hm⟩, hrest⟩
      · intro hrun
        obtain ⟨h₀, ⟨b, hm⟩, hrest⟩ := hrun
        exact ⟨b, h₀, hm, hrest⟩
  | false => simp

/-- The send of an explicit route, with what it does about a refusal. -/
theorem sendExplicit_again {relayUrl : String} {h h' : Handling} :
    (tryCatch
      (do
        sendEncrypted outside blob relayUrl
        return some (Delivery.relay relayUrl))
      fun (e : PyExc) => do
        if !e.isRuntimeError then throw e
        if ← refreshContactProfile P outside now then return none else throw e).run h = .ok none h'
      ↔ ∃ e h₂, (sendEncrypted outside blob relayUrl).run h = .error e h₂
        ∧ e.isRuntimeError = true ∧ (refreshContactProfile P outside now).run h₂ = .ok true h' := by
  rw [run_tryCatch, EStateM.run_bind]
  cases hsend : (sendEncrypted outside blob relayUrl).run h with
  | ok u h₂ =>
      refine iff_of_false (fun hrun => ?_) fun hrun => ?_
      · cases hrun
      · obtain ⟨e, h₂, hfailed, -⟩ := hrun
        cases hfailed
  | error e h₂ =>
      dsimp only
      constructor
      · intro hrun
        cases hkind : e.isRuntimeError with
        | false =>
            rw [hkind] at hrun
            cases hrun
        | true =>
            rw [hkind] at hrun
            obtain ⟨refreshed, h₃, hrefresh, hrun⟩ := run_bind_ok.mp hrun
            cases refreshed with
            | false => cases hrun
            | true =>
                cases hrun
                exact ⟨e, h₂, rfl, hkind, hrefresh⟩
      · intro hrun
        obtain ⟨e', h₂', hfailed, hkind, hrefresh⟩ := hrun
        cases hfailed
        rw [hkind]
        exact run_bind_ok.mpr ⟨true, h', hrefresh, rfl⟩

/-- A pass that is bound to a route starts over when its relay refuses and a hint serves. -/
theorem deliverOnce_again_iff {explicit : String} (hroute : explicitRoute route = some explicit)
    {retryOnStale : Bool} {h h' : Handling} :
    (deliverOnce P outside blob route allowDirect now retryOnStale).run h = .ok none h'
      ↔ ∃ h₀, Refreshed P outside now retryOnStale h h₀
        ∧ RefusedAndServed P outside blob allowDirect now explicit h₀ h' := by
  unfold deliverOnce
  dsimp only
  rw [explicitRoute] at hroute
  rw [hroute, run_before]
  refine exists_congr fun h₀ => and_congr_right fun _ => ?_
  constructor
  · intro hrun
    obtain ⟨direct, h₁, hdirect, hrun⟩ := run_bind_ok.mp hrun
    cases direct with
    | true => cases hrun
    | false =>
        obtain ⟨mine, hmine, hrun⟩ := run_orRaise_bind_ok.mp hrun
        obtain ⟨relayUrls, hurls, hrun⟩ := run_orRaise_bind_ok.mp hrun
        obtain ⟨e, h₂, hsend⟩ := sendExplicit_again.mp hrun
        exact ⟨h₁, mine, relayUrls, e, h₂, hdirect, hmine, hurls, hsend⟩
  · intro hrun
    obtain ⟨h₁, mine, relayUrls, e, h₂, hdirect, hmine, hurls, hsend⟩ := hrun
    refine run_bind_ok.mpr ⟨false, h₁, hdirect, ?_⟩
    refine run_orRaise_bind_ok.mpr ⟨mine, hmine, run_orRaise_bind_ok.mpr ⟨relayUrls, hurls, ?_⟩⟩
    exact sendExplicit_again.mpr ⟨e, h₂, hsend⟩

/-- A pass without a retry that is not bound to a route does not start over. -/
theorem deliverOnce_not_again (hroute : explicitRoute route = none) {h h' : Handling} :
    (deliverOnce P outside blob route allowDirect now false).run h ≠ .ok none h' := by
  intro hrun
  unfold deliverOnce at hrun
  dsimp only at hrun
  rw [explicitRoute] at hroute
  rw [hroute] at hrun
  obtain ⟨direct, h₁, -, hrun⟩ := run_bind_ok.mp hrun
  cases direct with
  | true => cases hrun
  | false =>
      obtain ⟨mine, -, hrun⟩ := run_orRaise_bind_ok.mp hrun
      obtain ⟨relayUrls, -, hrun⟩ := run_orRaise_bind_ok.mp hrun
      obtain ⟨taken, h₂, -, hrun⟩ := run_bind_ok.mp hrun
      cases taken with
      | some relayUrl => cases hrun
      | none => cases hrun

/-! ### How often -/

section Often

variable {retryOnStale : Bool} {h : Handling}

theorem restarts_of_again {depth : Nat} {h' : Handling}
    (hrun : (deliverOnce P outside blob route allowDirect now retryOnStale).run h = .ok none h') :
    restarts P outside blob route allowDirect now (depth + 1) retryOnStale h
      = restarts P outside blob route allowDirect now depth false h' + 1 := by
  rw [restarts, hrun]

theorem restarts_eq_zero {depth : Nat}
    (hrun : ∀ h', (deliverOnce P outside blob route allowDirect now retryOnStale).run h
      ≠ .ok none h') :
    restarts P outside blob route allowDirect now depth retryOnStale h = 0 := by
  cases depth with
  | zero => rfl
  | succ depth =>
      rw [restarts]
      split
      · rename_i h' hagain
        exact absurd hagain (hrun h')
      · rfl

/-- The recursion limit ends every delivery. -/
theorem restarts_le (depth : Nat) :
    restarts P outside blob route allowDirect now depth retryOnStale h ≤ depth := by
  induction depth generalizing retryOnStale h with
  | zero => exact Nat.le_refl 0
  | succ depth ih =>
      rw [restarts]
      split
      · exact Nat.succ_le_succ ih
      · exact Nat.zero_le _

/-- The second pass decides whether a delivery starts over more than once. -/
theorem restarts_le_one_iff (depth : Nat) :
    restarts P outside blob route allowDirect now (depth + 2) retryOnStale h ≤ 1
      ↔ ∀ h₁ h₂, (deliverOnce P outside blob route allowDirect now retryOnStale).run h
          = .ok none h₁ →
        (deliverOnce P outside blob route allowDirect now false).run h₁ ≠ .ok none h₂ := by
  constructor
  · intro hle h₁ h₂ hfirst hsecond
    rw [restarts_of_again hfirst, restarts_of_again hsecond] at hle
    omega
  · intro hnever
    by_cases hagain : ∃ h₁, (deliverOnce P outside blob route allowDirect now retryOnStale).run h
        = .ok none h₁
    · obtain ⟨h₁, hfirst⟩ := hagain
      rw [restarts_of_again hfirst, restarts_eq_zero fun h₂ => hnever h₁ h₂ hfirst]
    · rw [restarts_eq_zero fun h₁ hfirst => hagain ⟨h₁, hfirst⟩]
      exact Nat.zero_le 1

/-- **Starting over.** A delivery starts over at most once exactly when it is bound to no route, or
it does not happen twice in a row that the relay of the route refuses the blob and a direct hint
serves a signed profile in place of an expired one. -/
theorem restarts_at_most_once_iff :
    restarts P outside blob route allowDirect now recursionLimit retryOnStale h ≤ 1
      ↔ ∀ explicit, explicitRoute route = some explicit →
        ∀ h₀ h₁ h₂, Refreshed P outside now retryOnStale h h₀ →
          RefusedAndServed P outside blob allowDirect now explicit h₀ h₁ →
            ¬ RefusedAndServed P outside blob allowDirect now explicit h₁ h₂ := by
  have hlimit : recursionLimit = 998 + 2 := rfl
  rw [hlimit, restarts_le_one_iff]
  constructor
  · intro hnever explicit hroute h₀ h₁ h₂ hrefreshed hfirst hsecond
    refine hnever h₁ h₂ ((deliverOnce_again_iff hroute).mpr ⟨h₀, hrefreshed, hfirst⟩) ?_
    exact (deliverOnce_again_iff hroute).mpr ⟨h₁, rfl, hsecond⟩
  · intro hnever h₁ h₂ hfirst hsecond
    cases hroute : explicitRoute route with
    | none => exact deliverOnce_not_again hroute hsecond
    | some explicit =>
        obtain ⟨h₀, hrefreshed, hrefused⟩ := (deliverOnce_again_iff hroute).mp hfirst
        obtain ⟨h₁', hsame, hrefused'⟩ := (deliverOnce_again_iff hroute).mp hsecond
        obtain rfl : h₁' = h₁ := hsame
        exact hnever explicit hroute h₀ h₁' h₂ hrefreshed hrefused hrefused'

end Often

/-! ### A hint that keeps serving an expired profile -/

/-- What an exchange leaves alone. -/
def SameContact (h h' : Handling) : Prop :=
  h'.contact = h.contact ∧ h'.world.store = h.world.store

theorem SameContact.trans {h h' h'' : Handling} (hfirst : SameContact h h')
    (hsecond : SameContact h' h'') : SameContact h h'' :=
  ⟨hsecond.1.trans hfirst.1, hsecond.2.trans hfirst.2⟩

/-- Nothing takes a blob, and every hint serves one profile, which has expired. -/
structure Stalling (P : Packages) (outside : Outside) (profile : DeliveryProfile)
    (signingPublic : Bytes) (now : Int) : Prop where
  expired : profileIsExpired profile now = true
  hints : profile.directHints ≠ []
  served : ∀ n hint, ∃ body, outside.profileAnswer n hint = .ok (200, body)
    ∧ profileOfAnswer P signingPublic 200 body = .ok (some profile)
  refused : ∀ n address, ∃ stored status, outside.postAnswer n address = (stored, .ok status)
    ∧ status ≠ 200 ∧ status ≠ 201

/-- The state such a delivery comes back to. -/
structure Stalled (P : Packages) (profile : DeliveryProfile) (signingPublic : Bytes) (h : Handling) :
    Prop where
  profile : h.contact.deliveryProfile = some profile
  signingPublic : h.contact.signingPublic = signingPublic
  mine : ∃ mine, h.world.store.loadLocalProfile P = .ok mine

namespace Stalling

variable {profile : DeliveryProfile} {signingPublic : Bytes} (blob) (allowDirect)

theorem postBlob_refused (hstalling : Stalling P outside profile signingPublic now)
    (address : String) (h : Handling) : ∃ status h',
      (postBlob outside blob address).run h = .ok status h' ∧ status ≠ 200 ∧ status ≠ 201
        ∧ SameContact h h' := by
  obtain ⟨stored, status, hanswer, hok, hcreated⟩ :=
    hstalling.refused h.world.exchanges address
  have hrun : (postBlob outside blob address).run h = .ok status
      { h with world :=
        { h.world with
          exchanges := h.world.exchanges + 1
          posted := h.world.posted ++ [{ address, blob, stored }] } } := by
    refine run_bind_ok.mpr ⟨h.world.exchanges, _, rfl, ?_⟩
    rw [hanswer]
    rfl
  exact ⟨status, _, hrun, hok, hcreated, rfl, rfl⟩

theorem tryDirectDelivery_refused (hstalling : Stalling P outside profile signingPublic now)
    (hints : List String) (h : Handling) : ∃ h',
      (tryDirectDelivery (postBlob outside blob) hints).run h = .ok false h'
        ∧ SameContact h h' := by
  induction hints generalizing h with
  | nil => exact ⟨h, rfl, rfl, rfl⟩
  | cons hint hints ih =>
      obtain ⟨status, h₁, hpost, hok, hcreated, hsame⟩ :=
        hstalling.postBlob_refused blob (rstripSlash hint) h
      obtain ⟨h₂, hrest, hsame'⟩ := ih h₁
      refine ⟨h₂, ?_, hsame.trans hsame'⟩
      rw [tryDirectDelivery]
      refine run_bind_ok.mpr ⟨some status, h₁, ?_, ?_⟩
      · rw [attempt_run, hpost]
      · dsimp only
        rw [if_neg (not_or.mpr ⟨hok, hcreated⟩)]
        exact hrest

theorem deliverDirect_refused (hstalling : Stalling P outside profile signingPublic now)
    (h : Handling) : ∃ h', (deliverDirect outside blob allowDirect).run h = .ok false h'
      ∧ SameContact h h' := by
  unfold deliverDirect
  rw [run_get_bind]
  cases h.contact.deliveryProfile with
  | none => exact ⟨h, rfl, rfl, rfl⟩
  | some stored =>
      dsimp only
      split
      · exact hstalling.tryDirectDelivery_refused blob stored.directHints h
      · exact ⟨h, rfl, rfl, rfl⟩

theorem sendEncrypted_refused (hstalling : Stalling P outside profile signingPublic now)
    (relayUrl : String) (h : Handling) : ∃ e h',
      (sendEncrypted outside blob relayUrl).run h = .error e h' ∧ e.isRuntimeError = true
        ∧ SameContact h h' := by
  obtain ⟨status, h₁, hpost, -, hcreated, hsame⟩ :=
    hstalling.postBlob_refused blob (rstripSlash relayUrl) h
  refine ⟨.runtimeError ("relay store failed: " ++ toString status), h₁, ?_, rfl, hsame⟩
  rw [sendEncrypted, EStateM.run_bind, hpost]
  dsimp only
  rw [if_pos hcreated]
  rfl

theorem fetchRemoteProfile_served (hstalling : Stalling P outside profile signingPublic now)
    (hint : String) (hints : List String) (h : Handling) :
    (fetchRemoteProfile P outside signingPublic (hint :: hints)).run h
      = .ok (some profile)
        { h with world := { h.world with exchanges := h.world.exchanges + 1 } } := by
  obtain ⟨body, hanswer, hprofile⟩ := hstalling.served h.world.exchanges (rstripSlash hint)
  unfold fetchRemoteProfile
  refine run_bind_ok.mpr ⟨h.world.exchanges, _, rfl, run_bind_ok.mpr ⟨some profile, _, ?_, rfl⟩⟩
  rw [hanswer, run_tryCatch, ok_bind]
  dsimp only
  rw [hprofile]
  rfl

theorem refresh_served (hstalling : Stalling P outside profile signingPublic now) {h : Handling}
    (hstalled : Stalled P profile signingPublic h) : ∃ h',
      (refreshContactProfile P outside now).run h = .ok true h'
        ∧ Stalled P profile signingPublic h' := by
  obtain ⟨mine, hmine⟩ := hstalled.mine
  obtain ⟨hint, hints, hhints⟩ := List.exists_cons_of_ne_nil hstalling.hints
  have hfetch := hstalling.fetchRemoteProfile_served hint hints h
  unfold refreshContactProfile
  rw [run_get_bind]
  dsimp only
  rw [hstalled.profile]
  dsimp only
  rw [hstalling.expired, hstalled.signingPublic, hhints]
  refine ⟨_, run_bind_ok.mpr ⟨_, _, hfetch, rfl⟩, rfl, hstalled.signingPublic, mine, hmine⟩

/-- The relay refuses and a hint serves, whatever was tried before. -/
theorem refusedAndServed (hstalling : Stalling P outside profile signingPublic now)
    {explicit : String}
    (hroute : ∀ contact : Contact, contact.deliveryProfile = some profile →
      ∃ url, routeUrl outside.env contact explicit = .ok url)
    {h : Handling} (hstalled : Stalled P profile signingPublic h) : ∃ h',
      RefusedAndServed P outside blob allowDirect now explicit h h'
        ∧ Stalled P profile signingPublic h' := by
  obtain ⟨h₁, hdirect, hcontact, hstore⟩ := hstalling.deliverDirect_refused blob allowDirect h
  obtain ⟨mine, hmine⟩ := hstalled.mine
  obtain ⟨url, hurl⟩ := hroute h.contact hstalled.profile
  have hurls : deliveryMailboxUrls P outside.env h₁.contact (some explicit) (some h₁.world.store) now
      = .ok [url] := by
    rw [hcontact, deliveryMailboxUrls, hurl]
    rfl
  obtain ⟨e, h₂, hsend, hkind, hcontact', hstore'⟩ := hstalling.sendEncrypted_refused blob url h₁
  have hstalled₂ : Stalled P profile signingPublic h₂ := by
    refine ⟨?_, ?_, mine, ?_⟩
    · rw [hcontact', hcontact, hstalled.profile]
    · rw [hcontact', hcontact, hstalled.signingPublic]
    · rw [hstore', hstore, hmine]
  obtain ⟨h', hrefresh, hstalled'⟩ := hstalling.refresh_served hstalled₂
  refine ⟨h', ⟨h₁, mine, [url], e, h₂, hdirect, ?_, hurls, hsend, hkind, hrefresh⟩, hstalled'⟩
  rw [hstore, hmine]

/-- Each pass starts over, up to the recursion limit. -/
theorem restarts_of_stale_remote (hstalling : Stalling P outside profile signingPublic now)
    {explicit : String} (hexplicit : explicitRoute route = some explicit)
    (hroute : ∀ contact : Contact, contact.deliveryProfile = some profile →
      ∃ url, routeUrl outside.env contact explicit = .ok url)
    (depth : Nat) (retryOnStale : Bool) {h : Handling}
    (hstalled : Stalled P profile signingPublic h) :
    restarts P outside blob route allowDirect now depth retryOnStale h = depth := by
  induction depth generalizing retryOnStale h with
  | zero => rfl
  | succ depth ih =>
      obtain ⟨h₀, hrefreshed, hstalled₀⟩ : ∃ h₀, Refreshed P outside now retryOnStale h h₀
          ∧ Stalled P profile signingPublic h₀ := by
        cases retryOnStale with
        | false => exact ⟨h, rfl, hstalled⟩
        | true =>
            obtain ⟨h₀, hrefresh, hstalled₀⟩ := hstalling.refresh_served hstalled
            exact ⟨h₀, ⟨true, hrefresh⟩, hstalled₀⟩
      obtain ⟨h₁, hrefused, hstalled₁⟩ :=
        hstalling.refusedAndServed blob allowDirect hroute hstalled₀
      rw [restarts_of_again ((deliverOnce_again_iff hexplicit).mpr ⟨h₀, hrefreshed, hrefused⟩),
        ih false hstalled₁]

end Stalling

end Delivery

/-- A profile that reads and verifies is what the answer gives. -/
theorem profileOfAnswer_ok {signingPublic : Bytes} {value : String} {profile : DeliveryProfile}
    (hread : DeliveryProfile.fromB64 P value = .ok profile)
    (hverified : verifyDeliveryProfile P profile signingPublic = .ok ()) :
    profileOfAnswer P signingPublic 200 (.obj [("profile", .str value)]) = .ok (some profile) := by
  rw [profileOfAnswer, if_neg (not_not_intro rfl)]
  show (do
      let profile ← DeliveryProfile.fromB64 P value
      verifyDeliveryProfile P profile signingPublic
      return some profile) = _
  exact bind_ok.mpr ⟨profile, hread, bind_ok.mpr ⟨(), hverified, rfl⟩⟩

namespace RestartSample

export CreatedSample (packages identity relay)

/-- A profile of a week, with a relay and a direct hint. -/
def profile : DeliveryProfile :=
  createDeliveryProfile packages identity [relay "https://relay"] (some ["https://alice"]) 3600 none
    none "minimal" 604800000 none [] 1700000000000

/-- The contact still has the profile, and the week is over. -/
def start : Handling :=
  { world := { store := {} }
    contact :=
      { name := "alice"
        signingPublic := identity.signingPublicBytes packages
        agreementPublic := identity.agreementPublicBytes packages
        masterSecret := List.replicate 32 9
        conversationId := "pairwise_alice_bob"
        deliveryProfile := some profile } }

def later : Int := 1700604800001

/-- The hint keeps serving the profile, and the relay is out of order. -/
def outside : Outside where
  env := {}
  profileAnswer _ _ := .ok (200, .obj [("profile", .str (profile.toB64 packages))])
  postAnswer _ _ := (false, .ok 503)
  draws _ := ⟨later, BytesN.fill 32 1, BytesN.fill 24 2⟩

def blob : OuterBlob :=
  { version := 1, mailboxTag := List.replicate 32 8, expiresAt := later + 1, ciphertext := [1] }

theorem profileOfAnswer_served :
    profileOfAnswer packages (identity.signingPublicBytes packages) 200
      (.obj [("profile", .str (profile.toB64 packages))]) = .ok (some profile) :=
  profileOfAnswer_ok (profile.fromB64_toB64 CreatedSample.cborLaws)
    (verifyDeliveryProfile_created CreatedSample.signatureLaws identity [relay "https://relay"]
      (some ["https://alice"]) 3600 none none "minimal" 604800000 none [] 1700000000000)

theorem stalling : Stalling packages outside profile (identity.signingPublicBytes packages) later where
  expired := rfl
  hints := List.cons_ne_nil _ _
  served _ _ := ⟨_, rfl, profileOfAnswer_served⟩
  refused _ _ := ⟨_, _, rfl, by decide, by decide⟩

end RestartSample

open RestartSample in
/-- The delivery to the route `relay` starts over until the recursion limit. -/
theorem starts_over_again :
    ¬ restarts packages outside blob (some "relay") true later recursionLimit true start ≤ 1 := by
  have hroute : ∀ contact : Contact, contact.deliveryProfile = some profile →
      ∃ url, routeUrl outside.env contact "relay" = .ok url := by
    intro contact hcontact
    have hnetwork : routeNetwork outside.env contact = .ok [("relay", "https://relay")] := by
      rw [routeNetwork, hcontact]
      rfl
    have hname : mailboxNameFromRoute "relay" = .ok "relay" := by decide +kernel
    exact ⟨"https://relay", bind_ok.mpr ⟨_, hnetwork, bind_ok.mpr ⟨_, hname, rfl⟩⟩⟩
  have hexplicit : explicitRoute (some "relay") = some "relay" := rfl
  have hstalled : Stalled packages profile (identity.signingPublicBytes packages) start :=
    ⟨rfl, rfl, none, rfl⟩
  rw [stalling.restarts_of_stale_remote blob true hexplicit hroute recursionLimit true hstalled]
  decide

end Yakr
