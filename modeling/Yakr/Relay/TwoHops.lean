import Yakr.Core.Onion
import Yakr.Relay.Serving

/-!
# Yakr.Relay.TwoHops

**An onion packet is delivered as its blob would be.** The entry relay opens the outer layer of a
packet and POSTs the inner one to the mailbox relay, which opens that and stores what is in it. Both
relays have other clients meanwhile. Every run of the two is a run in which the mailbox relay is
asked to store the blob itself, with the same answers and the same states of both
(`onions_as_direct`): no layer changes the blob, and the mailbox relay checks a ticket, and never a
capability, for it.

So what the entry relay says it has forwarded is served (`forwarded_blob_served`).
-/

namespace Yakr

open Lib Effect Machine

variable {P : Packages} {runtime : RelayRuntime} {clock : Nat → Int}

namespace Relay

/-- A store refuses with a `ValueError`. -/
theorem store_valueError {mailboxTag ciphertext : Bytes} {expiresAt now : Int} {s s' : BlobStore}
    {e : PyExc} (h : (BlobStore.store mailboxTag expiresAt ciphertext none now).run s = .error e s') :
    ∃ text, e = .valueError text := by
  have hguards : ∀ {c : Prop} [Decidable c] {text : String}
      {rest : PUnit → EStateM PyExc BlobStore Unit},
      ((if c then throw (.valueError text) >>= rest else rest ⟨⟩ :
        EStateM PyExc BlobStore Unit).run s = .error e s') →
      (∃ text, e = .valueError text) ∨ (rest ⟨⟩).run s = .error e s' := by
    intro c _ text rest hrun
    split at hrun
    · cases hrun
      exact Or.inl ⟨text, rfl⟩
    · exact Or.inr hrun
  unfold BlobStore.store at h
  rw [run_get_bind] at h
  dsimp only at h
  iterate 5
    rcases hguards h with htext | h
    · exact htext
  cases h

theorem keepBlob_valueError {mailboxTag ciphertext : Bytes} {expiresAt : Int} {r r' : Relay}
    {e : PyExc} (h : (keepBlob clock mailboxTag expiresAt ciphertext).run r = .error e r') :
    ∃ text, e = .valueError text := by
  unfold keepBlob at h
  rw [run_tick_bind] at h
  obtain ⟨s, hstore, -⟩ := run_onPart_error.mp h
  exact store_valueError hstore

/-- Both routes answer a refused store alike. -/
theorem rescue_keepBlob (mailboxTag : Bytes) (expiresAt : Int) (ciphertext : Bytes) (r : Relay) :
    (rescue (keepBlob clock mailboxTag expiresAt ciphertext) ingestError).run r
      = (rescue (keepBlob clock mailboxTag expiresAt ciphertext) (onValueError storeError)).run
        r := by
  cases hrun : (keepBlob clock mailboxTag expiresAt ciphertext).run r with
  | ok u r' => rw [run_rescue_ok.mpr hrun, run_rescue_ok.mpr hrun]
  | error e r' =>
      obtain ⟨text, rfl⟩ := keepBlob_valueError hrun
      rw [run_rescue_error.mpr ⟨_, hrun, rfl⟩, run_rescue_error.mpr ⟨_, hrun, rfl⟩]
      rfl

/-- The request to store the blob itself. -/
def payloadOf (outer : OuterBlob) (ticket : Option String) : BlobStoreRequest where
  mailboxTag := b64encode outer.mailboxTag
  expiresAt := outer.expiresAt
  ciphertext := b64encode outer.ciphertext
  ticket := ticket

/-- The relay without the check of capabilities. -/
def ticketed (runtime : RelayRuntime) : RelayRuntime :=
  { runtime with requireCapabilities := false }

theorem rescue_orRaise_bind {α β : Type} {a : α} {f : α → BodyM β}
    (handler : PyExc → HttpException) :
    rescue (orRaise (.ok a) >>= f) handler = rescue (f a) handler := rfl

/-- **The mailbox relay answers the inner layer as the blob in it**, in any mode without a check of
capabilities. -/
theorem ingest_as_store {outer : OuterBlob} {inner wrapSecret : Bytes}
    (hrole : runtime.role ≠ .entry) (hsecret : runtime.wrapSecret = some wrapSecret)
    (hinner : decodeMailboxPacket P inner wrapSecret = .ok { outer with version := 1 })
    (http : SignedHttp) (ticket : Option String) (r : Relay) :
    (route P runtime clock (.ingestPacket (b64encode inner) ticket)).run r
      = (route P (ticketed runtime) clock
        (.storeBlob http (payloadOf outer ticket))).run r := by
  unfold route ingestPacket storeBlob authorizeRequest payloadOf ticketed
  dsimp only
  rw [if_neg hrole, if_neg hrole, hsecret]
  simp only [Bool.false_eq_true, if_false, b64decode_b64encode, hinner, rescue_orRaise_bind]
  refine run_bind_congr (fun _ r' => ?_) r
  rw [EStateM.run_bind, EStateM.run_bind, rescue_keepBlob]

/-! ### The entry relay -/

/-- What `relay_packet` POSTs, if it gets so far: the address and the inner layer. -/
def posted (P : Packages) (runtime : RelayRuntime) (clock : Nat → Int) (packet : String)
    (ticket : Option String) (r : Relay) : Option (String × Bytes) :=
  if runtime.role = .mailbox then none
  else
    match (checkTicket P runtime clock ticket "forward").run r, runtime.wrapSecret with
    | .ok _ _, some wrapSecret =>
        (b64decode packet >>= fun packet => decodeEntryPacket P packet wrapSecret).toOption
    | _, _ => none

/-- `relay_packet`, after what it POSTed has been answered. -/
def replied (next : String) : Except PyExc (Nat × String) → Except HttpException RelayResponse
  | .error _ => .error internalServerError
  | .ok (status, text) =>
      if status ≠ 201 ∧ status ≠ 202 then
        .error { statusCode := 502, detail := "forward failed: " ++ text }
      else
        .ok { statusCode := 202
              content := .object [("status", "forwarded"), ("next_relay", next)] }

section Entry

variable {wrapSecret packet inner : Bytes} {next : String} {ticket : Option String} {r r' : Relay}

/-- A packet that the entry relay lets through is answered by what the next relay answered. -/
theorem relayPacket_accepted (hrole : runtime.role ≠ .mailbox)
    (hsecret : runtime.wrapSecret = some wrapSecret)
    (hpacket : decodeEntryPacket P packet wrapSecret = .ok (next, inner))
    (hticket : (checkTicket P runtime clock ticket "forward").run r = .ok () r')
    (forwarded : Except PyExc (Nat × String)) :
    step P runtime clock r (.request (.relayPacket (b64encode packet) ticket forwarded))
      = (some (replied next forwarded), r') := by
  have hroute : (route P runtime clock (.relayPacket (b64encode packet) ticket forwarded)).run r
      = (orRaise (replied next forwarded) : RouteM RelayResponse).run r' := by
    unfold route relayPacket
    dsimp only
    rw [if_neg hrole, EStateM.run_bind, hticket, hsecret]
    simp only [b64decode_b64encode, hpacket, rescue_orRaise_bind]
    rcases forwarded with _ | ⟨status, text⟩
    · rfl
    · unfold replied
      by_cases hstatus : status ≠ 201 ∧ status ≠ 202
      · simp only [if_pos hstatus]
        rfl
      · simp only [if_neg hstatus]
        rfl
  rw [step, hroute]
  cases replied next forwarded <;> rfl

/-- A packet that it refuses is not POSTed. -/
theorem relayPacket_refused (hrole : runtime.role ≠ .mailbox) {e : HttpException}
    (hticket : (checkTicket P runtime clock ticket "forward").run r = .error e r')
    (packet : String) (forwarded : Except PyExc (Nat × String)) :
    step P runtime clock r (.request (.relayPacket packet ticket forwarded))
      = (some (.error e), r') := by
  have hroute : (route P runtime clock (.relayPacket packet ticket forwarded)).run r
      = .error e r' := by
    unfold route relayPacket
    dsimp only
    rw [if_neg hrole, EStateM.run_bind, hticket]
  rw [step, hroute]
  rfl

end Entry

/-! ### Refusals -/

/-- The status is that of an error. -/
def Refusal (e : HttpException) : Prop := 400 ≤ e.statusCode

section Refusals

theorem throws_rescue {α : Type} {body : BodyM α} {handler : PyExc → HttpException}
    (h : ∀ e, Refusal (handler e)) : Throws Refusal (rescue body handler) := by
  intro r e r' hrun
  obtain ⟨e', -, rfl⟩ := run_rescue_error.mp hrun
  exact h e'

theorem refusal_unauthorized (kind : String) (e : PyExc) : Refusal (unauthorized kind e) := by
  simp [Refusal, unauthorized]

theorem refusal_badRequest (detail : String) : Refusal (badRequest detail) := by
  simp [Refusal, badRequest]

theorem refusal_storeError (detail : String) : Refusal (storeError detail) := by
  unfold Refusal storeError
  dsimp only
  split <;> decide

theorem refusal_pairError (detail : String) : Refusal (pairError detail) := by
  unfold Refusal pairError
  dsimp only
  split <;> decide

theorem refusal_onValueError {handler : String → HttpException}
    (h : ∀ detail, Refusal (handler detail)) (e : PyExc) : Refusal (onValueError handler e) := by
  unfold onValueError
  split
  · exact h e.text
  · simp [Refusal, internalServerError]

theorem throws_checkTicket (ticket : Option String) (permission : String) :
    Throws Refusal (checkTicket P runtime clock ticket permission) := by
  unfold checkTicket
  refine .ite _ (.pure _) ?_
  cases ticket with
  | none => exact .raise (by simp [Refusal])
  | some ticket => exact throws_rescue (refusal_unauthorized _)

theorem throws_checkBootstrapTicket (ticket : Option String) :
    Throws Refusal (checkBootstrapTicket P runtime clock ticket) := by
  unfold checkBootstrapTicket
  cases ticket with
  | none => exact .raise (by simp [Refusal])
  | some ticket => exact throws_rescue (refusal_unauthorized _)

theorem throws_authorizeRequest (http : SignedHttp) (permission method path : String)
    (ticket : Option String) :
    Throws Refusal (authorizeRequest P runtime clock http permission method path ticket) := by
  have hcapability : Throws Refusal
      (checkCapability P runtime clock http permission method path) := by
    unfold checkCapability
    refine .ite _ (.pure _) (.guard (by simp [Refusal]) ?_)
    split
    · exact .guard (by simp [Refusal]) (throws_rescue (refusal_unauthorized _))
    · exact .raise (by simp [Refusal])
  exact .ite _ hcapability (throws_checkTicket ticket permission)

theorem throws_readBlobs {Q : HttpException → Prop} (mailboxTag : Bytes) :
    Throws Q (readBlobs clock mailboxTag) := by
  intro r e r' hrun
  cases hrun

theorem throws_decodeTag (mailboxTag : String) : Throws Refusal (decodeTag mailboxTag) :=
  throws_rescue fun _ => refusal_badRequest _

theorem throws_collectBlobs (mailboxTags : List String) (items : List BlobResponse) :
    Throws Refusal (collectBlobs clock mailboxTags items) := by
  induction mailboxTags generalizing items with
  | nil => exact .pure _
  | cons tag mailboxTags ih =>
      exact (throws_decodeTag tag).bind fun _ => (throws_readBlobs _).bind fun _ => ih _

theorem throws_relayPacket (packet : String) (ticket : Option String)
    (forwarded : Except PyExc (Nat × String)) :
    Throws Refusal (relayPacket P runtime clock packet ticket forwarded) := by
  unfold relayPacket
  refine .guard (by simp [Refusal]) ((throws_checkTicket ticket _).bind fun _ => ?_)
  cases runtime.wrapSecret with
  | none => exact .raise (by simp [Refusal])
  | some wrapSecret =>
      refine (throws_rescue fun _ => refusal_badRequest _).bind fun opened => ?_
      cases forwarded with
      | error e => exact .raise (by simp [Refusal, internalServerError])
      | ok answer => exact .guard (by simp [Refusal]) (.pure _)

theorem throws_ingestPacket (inner : String) (ticket : Option String) :
    Throws Refusal (ingestPacket P runtime clock inner ticket) := by
  unfold ingestPacket
  refine .guard (by simp [Refusal]) ((throws_checkTicket ticket _).bind fun _ => ?_)
  cases runtime.wrapSecret with
  | none => exact .raise (by simp [Refusal])
  | some wrapSecret =>
      refine (throws_rescue fun e => ?_).bind fun _ => .pure _
      unfold ingestError
      split
      · exact refusal_storeError e.text
      · exact refusal_badRequest _

/-- **A refusal is one by its status.** -/
theorem throws_route (request : RelayRequest) :
    Throws Refusal (route P runtime clock request) := by
  have hbad : ∀ e : PyExc, Refusal (badRequest e.text) := fun e => refusal_badRequest e.text
  cases request with
  | healthz => exact .pure _
  | issueCapability request =>
      unfold route issueCapability
      refine .guard (by simp [Refusal]) ((throws_checkBootstrapTicket _).bind fun _ =>
        (throws_rescue hbad).bind fun _ => .pure _)
  | registerCapability grant =>
      unfold route registerCapability
      refine .guard (by simp [Refusal]) ((throws_rescue hbad).bind fun _ => .pure _)
  | revokeCapability capabilityId ticket =>
      exact (throws_checkBootstrapTicket _).bind fun _ => (throws_rescue hbad).bind fun _ => .pure _
  | storeBlob http payload =>
      unfold route storeBlob
      refine .guard (by simp [Refusal]) ((throws_authorizeRequest http _ _ _ _).bind fun _ =>
        (throws_rescue (refusal_onValueError refusal_storeError)).bind fun _ => .pure _)
  | fetchBlobsPost http payload =>
      unfold route fetchBlobsPost
      refine .guard (by simp [Refusal]) ((throws_authorizeRequest http _ _ _ _).bind fun _ =>
        .guard (refusal_badRequest _) ((throws_collectBlobs _ _).bind fun _ => .pure _))
  | fetchBlobsLegacy mailboxTag =>
      exact (throws_decodeTag mailboxTag).bind fun _ => (throws_readBlobs _).bind fun _ => .pure _
  | relayPacket packet ticket forwarded => exact throws_relayPacket packet ticket forwarded
  | ingestPacket inner ticket => exact throws_ingestPacket inner ticket
  | pairRegister inviteSecret =>
      exact (throws_rescue (refusal_onValueError refusal_pairError)).bind fun _ => .pure _
  | pairStoreRequest request =>
      refine (throws_rescue fun e => ?_).bind fun _ => .pure _
      unfold pairRequestError
      split
      · exact refusal_pairError e.text
      · exact refusal_badRequest _
  | pairPending inviteTag =>
      refine Throws.get.bind fun r => ?_
      split
      · exact .raise (by simp [Refusal])
      · exact .pure _
  | pairStoreResponse inviteSecret response =>
      exact (throws_rescue (refusal_onValueError refusal_pairError)).bind fun _ => .pure _
  | pairFetchResponse inviteTag =>
      refine Throws.get.bind fun r => ?_
      split
      · exact .raise (by simp [Refusal])
      · exact .pure _

end Refusals

/-! ### Two relays -/

/-- An entry relay and the mailbox relay behind it, with their secrets. -/
structure TwoRelays where
  entry : RelayRuntime
  mailbox : RelayRuntime
  entryClock : Nat → Int
  mailboxClock : Nat → Int
  entryWrapSecret : Bytes
  mailboxWrapSecret : Bytes
  mailboxRelayUrl : String
  /-- What any other address answers. -/
  elsewhere : String → Except PyExc (Nat × String)
  /-- `response.text` of an answer. -/
  responseText : Except HttpException RelayResponse → String
  entry_role : entry.role ≠ .mailbox
  mailbox_role : mailbox.role ≠ .entry
  entry_wrapSecret : entry.wrapSecret = some entryWrapSecret
  mailbox_wrapSecret : mailbox.wrapSecret = some mailboxWrapSecret

/-- The states of the two. -/
structure Hops where
  entry : Relay := {}
  mailbox : Relay := {}

/-- What happens at the two: what a relay is asked by others, and a sender that wraps a blob. -/
inductive HopEvent where
  | entry (event : RelayEvent)
  | mailbox (event : RelayEvent)
  | onion (mailboxNonce entryNonce : Nonce) (outer : OuterBlob) (ticket : Option String)

/-- The status code of an answer. -/
def statusOf : Except HttpException RelayResponse → Nat
  | .ok response => response.statusCode
  | .error e => e.statusCode

namespace TwoRelays

variable (P : Packages) (relays : TwoRelays)

/-- What the entry relay gets to read of an answer. -/
def answered (reply : Option (Except HttpException RelayResponse)) : Except PyExc (Nat × String) :=
  match reply with
  | some reply => .ok (statusOf reply, relays.responseText reply)
  | none => .error (.other "ConnectError")

/-- A packet arrives at the entry relay, and what it POSTs at the mailbox relay. -/
def pass (s : Hops) (packet : Bytes) (ticket : Option String) :
    Option (Except HttpException RelayResponse) × Hops :=
  let ask := fun forwarded => step P relays.entry relays.entryClock s.entry
    (.request (.relayPacket (b64encode packet) ticket forwarded))
  match posted P relays.entry relays.entryClock (b64encode packet) ticket s.entry with
  | none =>
      -- nothing is POSTed, so nothing is answered
      let asked := ask (relays.answered none)
      (asked.1, { s with entry := asked.2 })
  | some (next, inner) =>
      if next = relays.mailboxRelayUrl ++ "/v1/ingest" then
        let ingested := step P relays.mailbox relays.mailboxClock s.mailbox
          (.request (.ingestPacket (b64encode inner) ticket))
        let asked := ask (relays.answered ingested.1)
        (asked.1, { entry := asked.2, mailbox := ingested.2 })
      else
        let asked := ask (relays.elsewhere next)
        (asked.1, { s with entry := asked.2 })

/-- The blob is stored at the mailbox relay when the entry relay lets the ticket through. -/
def storeDirectly (s : Hops) (outer : OuterBlob) (ticket : Option String) :
    Option (Except HttpException RelayResponse) × Hops :=
  match (checkTicket P relays.entry relays.entryClock ticket "forward").run s.entry with
  | .error e entry => (some (.error e), { s with entry := entry })
  | .ok _ entry =>
      let stored := step P (ticketed relays.mailbox) relays.mailboxClock s.mailbox
        (.request (.storeBlob { body := [] } (payloadOf outer ticket)))
      (some (replied (relays.mailboxRelayUrl ++ "/v1/ingest") (relays.answered stored.1)),
        { entry := entry, mailbox := stored.2 })

/-- One event. How an onion packet is delivered is left open. -/
def stepWith (deliver : Hops → Bytes → OuterBlob → Option String →
      Option (Except HttpException RelayResponse) × Hops) (s : Hops) :
    HopEvent → Option (Except HttpException RelayResponse) × Hops
  | .entry event =>
      let stepped := step P relays.entry relays.entryClock s.entry event
      (stepped.1, { s with entry := stepped.2 })
  | .mailbox event =>
      let stepped := step P relays.mailbox relays.mailboxClock s.mailbox event
      (stepped.1, { s with mailbox := stepped.2 })
  | .onion mailboxNonce entryNonce outer ticket =>
      match buildOnionPacket P mailboxNonce entryNonce relays.entryWrapSecret
        relays.mailboxWrapSecret relays.mailboxRelayUrl outer with
      | .error _ => (none, s)
      | .ok packet => deliver s packet outer ticket

/-- The relays with the packets. -/
def wrapped : Hops → HopEvent → Option (Except HttpException RelayResponse) × Hops :=
  stepWith P relays fun s packet _ ticket => pass P relays s packet ticket

/-- The relays with the blobs in them. -/
def direct : Hops → HopEvent → Option (Except HttpException RelayResponse) × Hops :=
  stepWith P relays fun s _ outer ticket => storeDirectly P relays s outer ticket

variable {P}

section Delivery

variable (haead : P.AeadLaws) (hcbor : P.CborLaws)
include haead hcbor

/-- A packet is delivered as the blob in it. -/
theorem pass_eq_storeDirectly {mailboxNonce entryNonce : Nonce} {outer : OuterBlob} {packet : Bytes}
    (hbuilt : buildOnionPacket P mailboxNonce entryNonce relays.entryWrapSecret
      relays.mailboxWrapSecret relays.mailboxRelayUrl outer = .ok packet)
    (s : Hops) (ticket : Option String) :
    pass P relays s packet ticket = storeDirectly P relays s outer ticket := by
  obtain ⟨inner, hentry, hmailbox⟩ := decode_buildOnionPacket haead hcbor hbuilt
  unfold pass storeDirectly posted
  rw [if_neg relays.entry_role]
  cases hticket : (checkTicket P relays.entry relays.entryClock ticket "forward").run s.entry with
  | error e entry =>
      dsimp only
      rw [relayPacket_refused relays.entry_role hticket]
  | ok u entry =>
      have hopened : (b64decode (b64encode packet) >>= fun packet =>
          decodeEntryPacket P packet relays.entryWrapSecret).toOption
            = some (relays.mailboxRelayUrl ++ "/v1/ingest", inner) := by
        rw [b64decode_b64encode, ok_bind, hentry]
        rfl
      -- the inner layer is for the mailbox relay, which stores what is in it
      have hingest : step P relays.mailbox relays.mailboxClock s.mailbox
          (.request (.ingestPacket (b64encode inner) ticket))
            = step P (ticketed relays.mailbox) relays.mailboxClock s.mailbox
              (.request (.storeBlob { body := [] } (payloadOf outer ticket))) := by
        rw [step, step, ingest_as_store relays.mailbox_role relays.mailbox_wrapSecret hmailbox]
      rw [relays.entry_wrapSecret]
      dsimp only
      rw [hopened]
      dsimp only
      rw [if_pos rfl, hingest, relayPacket_accepted relays.entry_role relays.entry_wrapSecret hentry
        hticket]

theorem wrapped_eq_direct : wrapped P relays = direct P relays := by
  funext s event
  cases event with
  | entry event => rfl
  | mailbox event => rfl
  | onion mailboxNonce entryNonce outer ticket =>
      dsimp only [wrapped, direct, stepWith]
      cases hbuilt : buildOnionPacket P mailboxNonce entryNonce relays.entryWrapSecret
          relays.mailboxWrapSecret relays.mailboxRelayUrl outer with
      | error e => rfl
      | ok packet => exact pass_eq_storeDirectly relays haead hcbor hbuilt s ticket

/-- **No layer matters**: whatever the two relays are asked, and in whichever order, packets get the
answers that their blobs get, and leave both relays as these do. -/
theorem onions_as_direct (s : Hops) (events : List HopEvent) :
    run (wrapped P relays) s events = run (direct P relays) s events := by
  rw [wrapped_eq_direct relays haead hcbor]

end Delivery

/-! ### What the sender is told -/

/-- An answer that is read as success is one. -/
theorem replied_ok {next : String} {reply : Option (Except HttpException RelayResponse)}
    {response : RelayResponse} (h : replied next (relays.answered reply) = .ok response)
    (hrefusal : ∀ e, reply = some (.error e) → Refusal e) : ∃ a, reply = some (.ok a) := by
  rcases reply with _ | e | a
  · cases h
  · have hstatus : 400 ≤ e.statusCode := hrefusal e rfl
    unfold replied TwoRelays.answered statusOf at h
    dsimp only at h
    rw [if_pos (by omega)] at h
    cases h
  · exact ⟨a, rfl⟩

theorem offers_payloadOf (outer : OuterBlob) (ticket : Option String) :
    Offers P runtime (.storeBlob { body := [] } (payloadOf outer ticket)) outer.mailboxTag
      outer.expiresAt outer.ciphertext := by
  have htag : b64decode (payloadOf outer ticket).mailboxTag = .ok outer.mailboxTag :=
    b64decode_b64encode outer.mailboxTag
  have hciphertext : b64decode (payloadOf outer ticket).ciphertext = .ok outer.ciphertext :=
    b64decode_b64encode outer.ciphertext
  exact .blob htag hciphertext

/-- What the entry relay says it has forwarded, the mailbox relay holds. -/
theorem holds_of_storeDirectly {s : Hops} {outer : OuterBlob} {ticket : Option String}
    {response : RelayResponse}
    (h : (storeDirectly P relays s outer ticket).1 = some (.ok response)) :
    Holds outer.mailboxTag outer.expiresAt outer.ciphertext
      (storeDirectly P relays s outer ticket).2.mailbox := by
  unfold storeDirectly at h ⊢
  cases hticket : (checkTicket P relays.entry relays.entryClock ticket "forward").run s.entry with
  | error e entry =>
      rw [hticket] at h
      cases h
  | ok u entry =>
      rw [hticket] at h
      dsimp only at h ⊢
      cases hrun : (route P (ticketed relays.mailbox) relays.mailboxClock
          (.storeBlob { body := [] } (payloadOf outer ticket))).run s.mailbox with
      | error e mailbox =>
          -- a refusal by the mailbox relay is not read as success
          rw [step, hrun] at h
          obtain ⟨a, haccepted⟩ := replied_ok relays (Option.some.inj h) fun e' he => by
            cases he
            exact throws_route _ s.mailbox e mailbox hrun
          cases haccepted
      | ok a mailbox =>
          rw [step, hrun]
          exact holds_of_offers (offers_payloadOf outer ticket) hrun

theorem retains_storeDirectly (s : Hops) (outer : OuterBlob) (ticket : Option String) :
    Retains relays.mailboxClock s.mailbox (storeDirectly P relays s outer ticket).2.mailbox := by
  unfold storeDirectly
  split
  · exact .refl _
  · exact retains_step s.mailbox _

theorem retains_direct (s : Hops) (event : HopEvent) :
    Retains relays.mailboxClock s.mailbox (direct P relays s event).2.mailbox := by
  cases event with
  | entry event => exact .refl _
  | mailbox event => exact retains_step s.mailbox event
  | onion mailboxNonce entryNonce outer ticket =>
      unfold direct stepWith
      dsimp only
      split
      · exact .refl _
      · exact retains_storeDirectly relays s outer ticket

theorem retains_hops (s : Hops) (events : List HopEvent) :
    Retains relays.mailboxClock s.mailbox (run (direct P relays) s events).state.mailbox :=
  run_invariant (motive := fun s' : Hops => Retains relays.mailboxClock s.mailbox s'.mailbox)
    (fun _ event h => h.trans (retains_direct relays _ event)) (.refl _) events

/-- An answer to a sender comes of a blob that is stored. -/
theorem direct_onion {s : Hops} {mailboxNonce entryNonce : Nonce} {outer : OuterBlob}
    {ticket : Option String} {response : RelayResponse}
    (h : (direct P relays s (.onion mailboxNonce entryNonce outer ticket)).1
      = some (.ok response)) :
    direct P relays s (.onion mailboxNonce entryNonce outer ticket)
      = storeDirectly P relays s outer ticket := by
  dsimp only [direct, stepWith] at h ⊢
  cases hbuilt : buildOnionPacket P mailboxNonce entryNonce relays.entryWrapSecret
      relays.mailboxWrapSecret relays.mailboxRelayUrl outer with
  | error e =>
      rw [hbuilt] at h
      cases h
  | ok packet => rfl

/-- **What has been forwarded is served.** The entry relay has answered a packet with success. After
any requests to either relay, with sweeps, restarts and other packets, a fetch of the mailbox that
is answered without an error before the blob expires shows its ciphertext. -/
theorem forwarded_blob_served (haead : P.AeadLaws) (hcbor : P.CborLaws)
    (hclock : Monotone relays.mailboxClock) (s : Hops) (mailboxNonce entryNonce : Nonce)
    (outer : OuterBlob) (ticket : Option String) (between : List HopEvent) {asking : RelayRequest}
    {text : String} {forwarded served : RelayResponse}
    (hforwarded : (wrapped P relays s (.onion mailboxNonce entryNonce outer ticket)).1
      = some (.ok forwarded))
    (hasked : text ∈ asked asking) (htext : b64decode text = .ok outer.mailboxTag)
    (hserved : (wrapped P relays (run (wrapped P relays) s
      (.onion mailboxNonce entryNonce outer ticket :: between)).state
        (.mailbox (.request asking))).1 = some (.ok served))
    (hlive : relays.mailboxClock ((run (wrapped P relays) s
      (.onion mailboxNonce entryNonce outer ticket :: between
        ++ [.mailbox (.request asking)])).state.mailbox.readings - 1) < outer.expiresAt) :
    ∃ items, served.content = .blobs items ∧ Shows items outer.ciphertext := by
  rw [wrapped_eq_direct relays haead hcbor] at hforwarded hserved hlive
  rw [List.cons_append] at hlive
  rw [run_state_cons, direct_onion relays hforwarded] at hserved hlive
  rw [direct_onion relays hforwarded] at hforwarded
  rw [run_concat] at hlive
  obtain ⟨mailbox, hanswered⟩ := outcome_eq_ok.mp (Option.some.inj hserved)
  refine shows_of_holds hclock (holds_of_storeDirectly relays hforwarded) (retains_hops relays _ _)
    hanswered hasked htext ?_
  have hlast : ((run (direct P relays) (storeDirectly P relays s outer ticket).2 between).ask
      (direct P relays) (.mailbox (.request asking))).state.mailbox = mailbox :=
    congrArg after hanswered
  rw [hlast] at hlive
  exact hlive

end TwoRelays

namespace HopSample

def packages : Packages := codedPackages plainPackages

theorem aeadLaws : packages.AeadLaws := ⟨plainPackages_aeadLaws.decrypt_encrypt⟩

theorem cborLaws : packages.CborLaws := codedPackages_cborLaws plainPackages

/-- Two relays that ask for neither tickets nor capabilities. -/
def relays : TwoRelays where
  entry := { role := .entry, wrapSecret := some (List.replicate 32 1), name := "dennis" }
  mailbox := { role := .mailbox, wrapSecret := some (List.replicate 32 2), name := "charlie" }
  entryClock n := n
  mailboxClock n := n
  entryWrapSecret := List.replicate 32 1
  mailboxWrapSecret := List.replicate 32 2
  mailboxRelayUrl := "http://charlie"
  elsewhere _ := .error (.other "ConnectError")
  responseText _ := ""
  entry_role := by decide
  mailbox_role := by decide
  entry_wrapSecret := by decide
  mailbox_wrapSecret := by decide

def outer : OuterBlob :=
  { version := 1, mailboxTag := List.replicate 32 7, expiresAt := 9, ciphertext := [1, 2] }

def sending : HopEvent := .onion (BytesN.fill 24 3) (BytesN.fill 24 4) outer none

def asking : RelayRequest :=
  .fetchBlobsPost { body := [] } { mailboxTags := [b64encode outer.mailboxTag] }

end HopSample

open HopSample in
/-- A packet, a fetch, and a sweep of each relay. -/
theorem onion_and_fetch_as_direct :
    run (TwoRelays.wrapped packages relays) {}
        [sending, .mailbox (.request asking), .mailbox .sweep, .entry .sweep]
      = run (TwoRelays.direct packages relays) {}
        [sending, .mailbox (.request asking), .mailbox .sweep, .entry .sweep] :=
  TwoRelays.onions_as_direct relays aeadLaws cborLaws _ _

open HopSample in
/-- The packet is asked for after a sweep. -/
theorem onion_served : ∃ items,
    ({ statusCode := 200
       content := .blobs
        [{ mailboxTag := b64encode outer.mailboxTag
           expiresAt := 9
           ciphertext := "AQI"
           storedAt := 0 }] } : RelayResponse).content = .blobs items
      ∧ Shows items [1, 2] := by
  have hforwarded : (TwoRelays.wrapped packages relays {} sending).1
      = some (.ok { statusCode := 202
                    content := .object [("status", "forwarded"),
                      ("next_relay", "http://charlie/v1/ingest")] }) := by
    rw [TwoRelays.wrapped_eq_direct relays aeadLaws cborLaws]
    decide +kernel
  have hserved : (TwoRelays.wrapped packages relays (run (TwoRelays.wrapped packages relays) {}
      [sending, .mailbox .sweep]).state (.mailbox (.request asking))).1
        = some (.ok { statusCode := 200
                      content := .blobs
                        [{ mailboxTag := b64encode outer.mailboxTag
                           expiresAt := 9
                           ciphertext := "AQI"
                           storedAt := 0 }] }) := by
    rw [TwoRelays.wrapped_eq_direct relays aeadLaws cborLaws]
    decide +kernel
  refine TwoRelays.forwarded_blob_served relays aeadLaws cborLaws
    (fun n n' h => Int.ofNat_le.mpr h) {} (BytesN.fill 24 3) (BytesN.fill 24 4) outer none
    [.mailbox .sweep] hforwarded List.mem_cons_self (b64decode_b64encode outer.mailboxTag) hserved ?_
  rw [TwoRelays.wrapped_eq_direct relays aeadLaws cborLaws]
  decide +kernel

end Relay

end Yakr
