import Yakr.Core.Plain
import Yakr.Relay.PairingStore

/-!
# Yakr.Relay.PairingRuns

**Runs of the pairing mailbox.** Two promises over any order of calls: an invite is answered
once, and a request that was accepted can be read until it is replaced or answered. The first
is broken by a sweep that deletes a consumed session, since only its row says that it is
consumed; the second by a registration, which clears the row of its tag.
-/

namespace Yakr

open Lib Effect Machine

variable (P : Packages)

namespace PairingStore

/-- The log of a new store. -/
def log (ttlMs : Int) (calls : List (Int × PairingCall)) :
    Log PairingStore (Int × PairingCall) PairingAnswer :=
  run (step P) { ttlMs := ttlMs } calls

/-- A call with its answer. -/
abbrev Event := (Int × PairingCall) × PairingAnswer

/-! ### An invite is answered once -/

/-- A `store_response` for the secret that succeeded. -/
def responds (secret : Bytes) : Event → Bool
  | ((_, .storeResponse secret' _), .done _) => secret' = secret
  | _ => false

/-- At most one response is accepted for each secret. -/
def SingleUse (events : List Event) : Prop := ∀ secret, events.countP (responds secret) ≤ 1

/-- A sweep deletes no consumed session. -/
def KeepsConsumed (s : PairingStore) : Int × PairingCall → Prop
  | (now, .sweepExpired) => ∀ row ∈ s.sessions, row.consumed → ¬ row.registeredAt < now - s.ttlMs
  | _ => True

instance (s : PairingStore) : (call : Int × PairingCall) → Decidable (KeepsConsumed s call)
  | (now, .sweepExpired) => inferInstanceAs
      (Decidable (∀ row ∈ s.sessions, row.consumed → ¬ row.registeredAt < now - s.ttlMs))
  | (_, .register _) => inferInstanceAs (Decidable True)
  | (_, .storeRequest _ _) => inferInstanceAs (Decidable True)
  | (_, .getPendingRequest _) => inferInstanceAs (Decidable True)
  | (_, .storeResponse _ _) => inferInstanceAs (Decidable True)
  | (_, .getResponse _) => inferInstanceAs (Decidable True)

variable {P}

/-- What the sessions know of the responses: none was accepted for the secret, or one was and
its session is consumed. -/
def Remembered (P : Packages) (events : List Event) (s : PairingStore) (secret : Bytes) : Prop :=
  events.countP (responds secret) = 0
    ∨ events.countP (responds secret) = 1
      ∧ (s.session (tagOf P secret)).any (·.consumed) = true

section Remembered

variable {events : List Event} {s s' : PairingStore} {secret : Bytes}

theorem Remembered.none (h : Remembered P events s secret)
    (hfree : (s.session (tagOf P secret)).any (·.consumed) = false) :
    events.countP (responds secret) = 0 := by
  rcases h with h | ⟨-, h⟩
  · exact h
  · rw [hfree] at h
    cases h

/-- Calls that are no response, and leave a consumed session as it is. -/
theorem Remembered.quiet (h : Remembered P events s secret) {e : Event}
    (he : responds secret e = false)
    (hkept : (s.session (tagOf P secret)).any (·.consumed) = true →
      (s'.session (tagOf P secret)).any (·.consumed) = true) :
    Remembered P (events ++ [e]) s' secret := by
  have hcount : (events ++ [e]).countP (responds secret) = events.countP (responds secret) := by
    simp [List.countP_append, he]
  rw [Remembered, hcount]
  exact h.imp_right fun ⟨hone, hconsumed⟩ => ⟨hone, hkept hconsumed⟩

/-- Calls under a tag that is not consumed. -/
theorem Remembered.free {tag : String} (h : Remembered P events s secret) {e : Event}
    (he : responds secret e = false) (hfree : (s.session tag).any (·.consumed) = false)
    (hother : ∀ tag', tag ≠ tag' → s'.session tag' = s.session tag') :
    Remembered P (events ++ [e]) s' secret := by
  refine h.quiet he fun hconsumed => ?_
  by_cases htag : tag = tagOf P secret
  · rw [htag, hconsumed] at hfree
    cases hfree
  · rw [hother _ htag]
    exact hconsumed

theorem Remembered.step (h : Remembered P events s secret) (call : Int × PairingCall)
    (hkeeps : KeepsConsumed s call) :
    Remembered P (events ++ [(call, (step P s call).1)]) (step P s call).2 secret := by
  have hchange := change_step (P := P) s call
  generalize (PairingStore.step P s call).1 = answer at hchange
  generalize (PairingStore.step P s call).2 = s' at hchange
  cases hchange with
  | refused => exact h.quiet (by simp [responds]) id
  | read => exact h.quiet (by simp [responds]) id
  | registered hlen hfree hself hother => exact h.free rfl hfree hother
  | requested hfree hself hrequest hconsumed hother => exact h.free rfl hfree hother
  | @responded now secret' response row s' hrow hconsumed hself hother =>
      by_cases hsecret : secret' = secret
      · subst hsecret
        refine .inr ⟨?_, by rw [hself]; rfl⟩
        have hnone := h.none (by simp [hrow, hconsumed])
        simp [List.countP_append, hnone, responds]
      · exact h.free (by simp [responds, hsecret]) (by simp [hrow, hconsumed]) hother
  | swept hkept =>
      refine h.quiet rfl fun hconsumed => ?_
      cases hrow : s.session (tagOf P secret) with
      | none => simp [hrow] at hconsumed
      | some row =>
          have hrowc : row.consumed = true := by simpa [hrow] using hconsumed
          have hmem : row ∈ s.sessions := Table.find_mem hrow
          rw [hkept _ row hrow (hkeeps row hmem hrowc)]
          exact hrowc

end Remembered

/-- **Single use.** While sweeps delete no consumed session, at most one response is accepted
for each secret. -/
theorem singleUse_of_keepsConsumed (P : Packages) (ttlMs : Int) (calls : List (Int × PairingCall))
    (h : Meets (step P) KeepsConsumed { ttlMs := ttlMs } calls) :
    SingleUse (log P ttlMs calls).events := by
  intro secret
  have hremembered : Remembered P (log P ttlMs calls).events (log P ttlMs calls).state secret := by
    induction calls using List.reverseRecOn with
    | nil => exact .inl rfl
    | append_singleton calls call ih =>
        obtain ⟨hcalls, hcall⟩ := meets_concat.mp h
        rw [log, run_concat]
        exact (ih hcalls).step call hcall
  rcases hremembered with h | ⟨h, -⟩
  · omega
  · omega

namespace Sample

def secret : Bytes := List.replicate 32 7

/-- A pairing under the sample secret, from `now` on. -/
def pairing (now : Int) : List (Int × PairingCall) :=
  [(now, .storeRequest secret [1]), (now + 1, .storeResponse secret [2])]

/-- A pairing, a sweep, and the same invite once more. -/
def reused (sweptAt : Int) : List (Int × PairingCall) :=
  pairing 0 ++ [(sweptAt, .sweepExpired)] ++ pairing sweptAt

end Sample

/-- A sweep within the half hour leaves the invite consumed. -/
theorem singleUse_within_ttl :
    SingleUse (log plainPackages (30 * 60 * 1000) (Sample.reused (30 * 60 * 1000))).events :=
  singleUse_of_keepsConsumed plainPackages _ _ (by decide +kernel)

/-- A sweep after it makes the invite new, and it is answered again. -/
theorem not_singleUse :
    Timed (Sample.reused (30 * 60 * 1000 + 1))
      ∧ ¬ SingleUse
        (log plainPackages (30 * 60 * 1000) (Sample.reused (30 * 60 * 1000 + 1))).events := by
  refine ⟨by decide, fun h => ?_⟩
  have htwice := h Sample.secret
  revert htwice
  decide +kernel

/-! ### A request can be read until it is answered -/

/-- The request of a secret that was accepted last, while no response has been. -/
def awaited (secret : Bytes) (events : List Event) : Option Bytes :=
  events.foldl (fun pending e =>
    match e with
    | ((_, .storeRequest secret' request), .done _) =>
        if secret' = secret then some request else pending
    | ((_, .storeResponse secret' _), .done _) => if secret' = secret then none else pending
    | _ => pending) none

/-- Every request that was accepted, and neither replaced nor answered, can be read. -/
def NoRequestLost (P : Packages) (log : Log PairingStore (Int × PairingCall) PairingAnswer) :
    Prop :=
  ∀ secret request, awaited secret log.events = some request →
    log.state.getPendingRequest (tagOf P secret) = some request

/-- A registration finds no pending request under its tag. -/
def RegistersFirst (P : Packages) (s : PairingStore) : Int × PairingCall → Prop
  | (_, .register secret) => secret.length = 32 → s.getPendingRequest (tagOf P secret) = none
  | _ => True

instance (s : PairingStore) : (call : Int × PairingCall) → Decidable (RegistersFirst P s call)
  | (_, .register secret) => inferInstanceAs
      (Decidable (secret.length = 32 → s.getPendingRequest (tagOf P secret) = none))
  | (_, .storeRequest _ _) => inferInstanceAs (Decidable True)
  | (_, .getPendingRequest _) => inferInstanceAs (Decidable True)
  | (_, .storeResponse _ _) => inferInstanceAs (Decidable True)
  | (_, .getResponse _) => inferInstanceAs (Decidable True)
  | (_, .sweepExpired) => inferInstanceAs (Decidable True)

/-- The secret a call is about. -/
def secretOf : PairingCall → Option Bytes
  | .register secret => some secret
  | .storeRequest secret _ => some secret
  | .storeResponse secret _ => some secret
  | _ => none

/-- The secrets of some calls. -/
def secrets (calls : List (Int × PairingCall)) : Set Bytes :=
  { secret | ∃ call ∈ calls, secretOf call.2 = some secret }

section Awaited

variable {events : List Event} {e : Event} {secret request : Bytes}

theorem awaited_concat_request {now : Int} {tag : String} {secret' : Bytes} :
    awaited secret (events ++ [((now, .storeRequest secret' request), .done tag)])
      = if secret' = secret then some request else awaited secret events := by
  rw [awaited, List.foldl_append]
  rfl

theorem awaited_concat_response {now : Int} {tag : String} {secret' response : Bytes} :
    awaited secret (events ++ [((now, .storeResponse secret' response), .done tag)])
      = if secret' = secret then none else awaited secret events := by
  rw [awaited, List.foldl_append]
  rfl

/-- What is refused, read or registered does not count. -/
theorem awaited_concat_other
    (hrequest : ∀ now secret request tag, e ≠ ((now, .storeRequest secret request), .done tag))
    (hresponse : ∀ now secret response tag, e ≠ ((now, .storeResponse secret response), .done tag)) :
    awaited secret (events ++ [e]) = awaited secret events := by
  rw [awaited, List.foldl_append, List.foldl_cons, List.foldl_nil]
  split
  · exact (hrequest _ _ _ _ rfl).elim
  · exact (hresponse _ _ _ _ rfl).elim
  · rfl

theorem awaited_secret (h : awaited secret events = some request) :
    ∃ e ∈ events, secretOf e.1.2 = some secret := by
  induction events using List.reverseRecOn with
  | nil => cases h
  | append_singleton events e ih =>
      by_cases hrequest : ∃ now secret' request tag,
          e = ((now, .storeRequest secret' request), .done tag)
      · obtain ⟨now, secret', request', tag, rfl⟩ := hrequest
        rw [awaited_concat_request] at h
        by_cases hsecret : secret' = secret
        · exact ⟨_, List.mem_append_right _ (List.mem_singleton_self _), congrArg some hsecret⟩
        · obtain ⟨e, he, hsecret⟩ := ih (by simpa [hsecret] using h)
          exact ⟨e, List.mem_append_left _ he, hsecret⟩
      · by_cases hresponse : ∃ now secret' response tag,
            e = ((now, .storeResponse secret' response), .done tag)
        · obtain ⟨now, secret', response, tag, rfl⟩ := hresponse
          rw [awaited_concat_response] at h
          by_cases hsecret : secret' = secret
          · exact ⟨_, List.mem_append_right _ (List.mem_singleton_self _), congrArg some hsecret⟩
          · obtain ⟨e, he, hsecret⟩ := ih (by simpa [hsecret] using h)
            exact ⟨e, List.mem_append_left _ he, hsecret⟩
        · rw [awaited_concat_other (fun now s r tag he => hrequest ⟨now, s, r, tag, he⟩)
            (fun now s r tag he => hresponse ⟨now, s, r, tag, he⟩)] at h
          obtain ⟨e, he, hsecret⟩ := ih h
          exact ⟨e, List.mem_append_left _ he, hsecret⟩

end Awaited

theorem getPendingRequest_eq_some {s : PairingStore} {tag : String} {request : Bytes} :
    s.getPendingRequest tag = some request
      ↔ ∃ row, s.session tag = some row ∧ row.consumed = false ∧ row.request = some request := by
  rw [getPendingRequest]
  cases s.session tag with
  | none => simp
  | some row => cases hconsumed : row.consumed <;> simp [hconsumed]

/-- A session that is left alone has the request it had. -/
theorem getPendingRequest_congr {s s' : PairingStore} {tag : String}
    (h : s'.session tag = s.session tag) : s'.getPendingRequest tag = s.getPendingRequest tag := by
  rw [getPendingRequest, getPendingRequest, h]

section Requests

variable {log : Log PairingStore (Int × PairingCall) PairingAnswer} {call : Int × PairingCall}

/-- One call loses no request if it is no sweep and no registration over a pending one, and
its secret has the tag of no other secret whose request is awaited. -/
theorem NoRequestLost.ask (h : NoRequestLost P log) (hfirst : RegistersFirst P log.state call)
    (hsweep : call.2 ≠ .sweepExpired)
    (hinj : ∀ secret request, awaited secret log.events = some request →
      ∀ secret', secretOf call.2 = some secret' → tagOf P secret' = tagOf P secret →
        secret' = secret) :
    NoRequestLost P (log.ask (step P) call) := by
  intro secret request hawaited
  rw [Log.ask] at hawaited ⊢
  have hchange := change_step (P := P) log.state call
  generalize (PairingStore.step P log.state call).1 = answer at hchange hawaited
  generalize (PairingStore.step P log.state call).2 = s' at hchange hawaited ⊢
  cases hchange with
  | refused =>
      rw [awaited_concat_other (by simp) (by simp)] at hawaited
      exact h secret request hawaited
  | read =>
      rw [awaited_concat_other (by simp) (by simp)] at hawaited
      exact h secret request hawaited
  | @registered now secret' s' hlen hfree hself hother =>
      rw [awaited_concat_other (by simp) (by simp)] at hawaited
      have hpending := h secret request hawaited
      by_cases htag : tagOf P secret' = tagOf P secret
      · have hnone := hfirst hlen
        rw [htag, hpending] at hnone
        cases hnone
      · exact (getPendingRequest_congr (hother _ htag)).trans hpending
  | @requested now secret' request' row s' hfree hself hrequest hconsumed hother =>
      rw [awaited_concat_request] at hawaited
      by_cases hsecret : secret' = secret
      · subst hsecret
        rw [if_pos rfl] at hawaited
        exact getPendingRequest_eq_some.mpr ⟨row, hself, hconsumed, hrequest.trans hawaited⟩
      · rw [if_neg hsecret] at hawaited
        have htag : tagOf P secret' ≠ tagOf P secret :=
          fun htag => hsecret (hinj secret request hawaited secret' rfl htag)
        exact (getPendingRequest_congr (hother _ htag)).trans (h secret request hawaited)
  | @responded now secret' response row s' hrow hconsumed hself hother =>
      rw [awaited_concat_response] at hawaited
      by_cases hsecret : secret' = secret
      · rw [if_pos hsecret] at hawaited
        cases hawaited
      · rw [if_neg hsecret] at hawaited
        have htag : tagOf P secret' ≠ tagOf P secret :=
          fun htag => hsecret (hinj secret request hawaited secret' rfl htag)
        exact (getPendingRequest_congr (hother _ htag)).trans (h secret request hawaited)
  | swept hkept => exact (hsweep rfl).elim

/-- Every request that can be read is awaited. -/
def Awaits (P : Packages) (log : Log PairingStore (Int × PairingCall) PairingAnswer) : Prop :=
  ∀ tag request, log.state.getPendingRequest tag = some request →
    ∃ secret, tagOf P secret = tag ∧ awaited secret log.events = some request

theorem Awaits.ask (h : Awaits P log) (hsweep : call.2 ≠ .sweepExpired) :
    Awaits P (log.ask (step P) call) := by
  intro tag request hpending
  rw [Log.ask] at hpending ⊢
  have hchange := change_step (P := P) log.state call
  generalize (PairingStore.step P log.state call).1 = answer at hchange ⊢
  generalize (PairingStore.step P log.state call).2 = s' at hchange hpending
  cases hchange with
  | refused =>
      obtain ⟨secret, htag, hawaited⟩ := h tag request hpending
      exact ⟨secret, htag, (awaited_concat_other (by simp) (by simp)).trans hawaited⟩
  | read =>
      obtain ⟨secret, htag, hawaited⟩ := h tag request hpending
      exact ⟨secret, htag, (awaited_concat_other (by simp) (by simp)).trans hawaited⟩
  | @registered now secret' s' hlen hfree hself hother =>
      by_cases htag' : tagOf P secret' = tag
      · subst htag'
        obtain ⟨row, hrow, -, hrequest⟩ := getPendingRequest_eq_some.mp hpending
        rw [hself] at hrow
        cases hrow
        cases hrequest
      · rw [getPendingRequest_congr (hother _ htag')] at hpending
        obtain ⟨secret, htag, hawaited⟩ := h tag request hpending
        exact ⟨secret, htag, (awaited_concat_other (by simp) (by simp)).trans hawaited⟩
  | @requested now secret' request' row s' hfree hself hrequest hconsumed hother =>
      by_cases htag' : tagOf P secret' = tag
      · subst htag'
        obtain ⟨row', hrow, -, hrequest'⟩ := getPendingRequest_eq_some.mp hpending
        rw [hself] at hrow
        cases hrow
        refine ⟨secret', rfl, awaited_concat_request.trans ?_⟩
        rw [if_pos rfl, ← hrequest, hrequest']
      · rw [getPendingRequest_congr (hother _ htag')] at hpending
        obtain ⟨secret, htag, hawaited⟩ := h tag request hpending
        have hsecret : secret' ≠ secret := fun he => htag' (he ▸ htag)
        refine ⟨secret, htag, awaited_concat_request.trans ?_⟩
        rw [if_neg hsecret, hawaited]
  | @responded now secret' response row s' hrow hconsumed hself hother =>
      by_cases htag' : tagOf P secret' = tag
      · subst htag'
        obtain ⟨row', hrow', hconsumed', -⟩ := getPendingRequest_eq_some.mp hpending
        rw [hself] at hrow'
        cases hrow'
        cases hconsumed'
      · rw [getPendingRequest_congr (hother _ htag')] at hpending
        obtain ⟨secret, htag, hawaited⟩ := h tag request hpending
        have hsecret : secret' ≠ secret := fun he => htag' (he ▸ htag)
        refine ⟨secret, htag, awaited_concat_response.trans ?_⟩
        rw [if_neg hsecret, hawaited]
  | swept hkept => exact (hsweep rfl).elim

/-- A registration over a pending request loses it. -/
theorem not_noRequestLost_ask (h : Awaits P log) (hfirst : ¬ RegistersFirst P log.state call) :
    ¬ NoRequestLost P (log.ask (step P) call) := by
  obtain ⟨now, call⟩ := call
  cases call with
  | register secret =>
      rw [RegistersFirst, Classical.not_imp] at hfirst
      obtain ⟨hlen, hpending⟩ := hfirst
      obtain ⟨request, hrequest⟩ := Option.ne_none_iff_exists'.mp hpending
      obtain ⟨row, hrow, hconsumed, -⟩ := getPendingRequest_eq_some.mp hrequest
      obtain ⟨secret', htag, hawaited⟩ := h _ request hrequest
      intro hlost
      have hstep : step P log.state (now, .register secret)
          = (.done (tagOf P secret), log.state.upsertSession (tagOf P secret) secret now) :=
        step_register hlen (by simp [hrow, hconsumed])
      have hread := hlost secret' request (by
        rw [Log.ask, awaited_concat_other (by simp) (by simp)]
        exact hawaited)
      rw [Log.ask, hstep, htag] at hread
      obtain ⟨row', hrow', -, hrequest'⟩ := getPendingRequest_eq_some.mp hread
      rw [session_upsertSession_self] at hrow'
      cases hrow'
      cases hrequest'
  | storeRequest secret request => exact (hfirst trivial).elim
  | getPendingRequest tag => exact (hfirst trivial).elim
  | storeResponse secret response => exact (hfirst trivial).elim
  | getResponse tag => exact (hfirst trivial).elim
  | sweepExpired => exact (hfirst trivial).elim

end Requests

theorem awaits_log (P : Packages) (ttlMs : Int) (calls : List (Int × PairingCall))
    (hsweep : ∀ call ∈ calls, call.2 ≠ .sweepExpired) : Awaits P (log P ttlMs calls) := by
  induction calls using List.reverseRecOn with
  | nil =>
      intro tag request hpending
      cases hpending
  | append_singleton calls call ih =>
      simp only [List.mem_append, List.mem_singleton, or_imp, forall_and, forall_eq] at hsweep
      rw [log, run_concat]
      exact (ih hsweep.1).ask hsweep.2

/-- An awaited secret is one of a call before. -/
theorem mem_secrets_of_awaited {ttlMs : Int} {calls : List (Int × PairingCall)}
    {secret request : Bytes} (h : awaited secret (log P ttlMs calls).events = some request) :
    secret ∈ secrets calls := by
  obtain ⟨e, he, hsecret⟩ := awaited_secret h
  have hmem : e.1 ∈ (log P ttlMs calls).events.map Prod.fst := List.mem_map_of_mem he
  rw [log, inputs_eq] at hmem
  exact ⟨e.1, hmem, hsecret⟩

/-- **No request is lost** in a run without sweeps, whose secrets have different tags, exactly
when every registration comes before the request of its tag. -/
theorem noRequestLost_iff_registersFirst (P : Packages) (ttlMs : Int)
    (calls : List (Int × PairingCall)) (hsweep : ∀ call ∈ calls, call.2 ≠ .sweepExpired)
    (hinj : Set.InjOn (tagOf P) (secrets calls)) :
    (∀ earlier, earlier <+: calls → NoRequestLost P (log P ttlMs earlier))
      ↔ Meets (step P) (RegistersFirst P) { ttlMs := ttlMs } calls := by
  induction calls using List.reverseRecOn with
  | nil =>
      refine ⟨fun _ => trivial, fun _ earlier hearlier => ?_⟩
      obtain rfl := List.prefix_nil.mp hearlier
      intro secret request hawaited
      cases hawaited
  | append_singleton calls call ih =>
      have hsweep' : (∀ c ∈ calls, c.2 ≠ .sweepExpired) ∧ call.2 ≠ .sweepExpired := by
        simpa [or_imp, forall_and] using hsweep
      have hsubset : secrets calls ⊆ secrets (calls ++ [call]) :=
        fun secret ⟨c, hc, hsecret⟩ => ⟨c, List.mem_append_left _ hc, hsecret⟩
      rw [meets_concat, ← ih hsweep'.1 (hinj.mono hsubset)]
      have hlog : log P ttlMs (calls ++ [call]) = (log P ttlMs calls).ask (step P) call :=
        run_concat _ _ _ _
      constructor
      · intro h
        refine ⟨fun earlier hearlier => h earlier (hearlier.trans (List.prefix_append _ _)), ?_⟩
        by_contra hfirst
        refine not_noRequestLost_ask (awaits_log P ttlMs calls hsweep'.1) hfirst ?_
        rw [← hlog]
        exact h _ List.prefix_rfl
      · rintro ⟨hcalls, hfirst⟩ earlier hearlier
        rcases List.prefix_concat_iff.mp hearlier with rfl | hearlier
        · rw [hlog]
          refine (hcalls calls List.prefix_rfl).ask hfirst hsweep'.2
            fun secret request hawaited secret' hsecret' htag => ?_
          exact hinj ⟨call, List.mem_append_right _ (List.mem_singleton_self _), hsecret'⟩
            (hsubset (mem_secrets_of_awaited hawaited)) htag
        · exact hcalls earlier hearlier

namespace Sample

/-- The inviter registers, the joiner's request comes and is answered. -/
def registeredFirst : List (Int × PairingCall) := (0, .register secret) :: pairing 1

/-- The joiner is faster. -/
def requestedFirst : List (Int × PairingCall) :=
  [(0, .storeRequest secret [1]), (1, .register secret)]

theorem secrets_registeredFirst : secrets registeredFirst ⊆ {secret} := by
  rintro s ⟨call, hcall, hs⟩
  simp only [registeredFirst, pairing, List.mem_cons, List.not_mem_nil, or_false] at hcall
  rcases hcall with rfl | rfl | rfl <;> exact (Option.some.inj hs).symm

end Sample

/-- A request that comes after the registration is not lost. -/
theorem noRequestLost_registeredFirst :
    NoRequestLost plainPackages (log plainPackages 0 Sample.registeredFirst) :=
  (noRequestLost_iff_registersFirst plainPackages 0 Sample.registeredFirst (by decide)
    ((Set.injOn_singleton _ _).mono Sample.secrets_registeredFirst)).mpr (by decide +kernel)
    Sample.registeredFirst List.prefix_rfl

/-- A request that comes before it is. -/
theorem not_noRequestLost_requestedFirst :
    Timed Sample.requestedFirst ∧ (∀ call ∈ Sample.requestedFirst, call.2 ≠ .sweepExpired)
      ∧ ¬ NoRequestLost plainPackages (log plainPackages 0 Sample.requestedFirst) := by
  refine ⟨by decide, by decide, fun h => ?_⟩
  have hread := h Sample.secret [1]
  revert hread
  decide +kernel

end PairingStore
end Yakr
