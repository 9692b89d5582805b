import Yakr.Relay.Mailbox
import Yakr.Relay.Routes

/-!
# Yakr.Relay.Mediation

**Which requests reach the blobs unchecked.** With capabilities required, a blob is to be stored
only for a request that passed the check for `store`, and shown only to one that passed the
check for `fetch`. Two routes do not ask: the legacy fetch, and the ingest of an onion packet,
which asks for a ticket at most. A step keeps to the rule exactly when neither succeeds.
-/

namespace Yakr

open Lib Effect Machine Mailbox

variable (P : Packages) (runtime : RelayRuntime) (clock : Nat → Int)

namespace Relay

/-- In the step from `r` to `r'` the request passed the check for a permission. -/
def Checked (permission : String) (r r' : Relay) : Prop :=
  ∃ check, r'.passed = r.passed ++ [check] ∧ check.permission = permission

/-- A step stores blobs, and shows blobs, only for a request that is allowed to. -/
structure Mediated (r : Relay) (answer : Option (Except HttpException RelayResponse))
    (r' : Relay) : Prop where
  stored : r'.blobs.blobs.Sublist r.blobs.blobs ∨ Checked "store" r r'
  fetched : ∀ response items, answer = some (.ok response) → response.content = .blobs items →
    items ≠ [] → Checked "fetch" r r'

/-- `_check_ticket` lets the request through. -/
def TicketAccepted (r : Relay) (ticketB64 : Option String) (permission : String) : Prop :=
  runtime.requireTickets = true → ∃ text ticket, ticketB64 = some text
    ∧ RelayTicket.fromB64 P text = .ok ticket
    ∧ verifyRelayTicket P ticket runtime.name permission (clock r.readings) = .ok ()

/-- The number of readings when the ticket has been checked. -/
def readingsAfterTicket (r : Relay) : Nat :=
  if runtime.requireTickets then r.readings + 1 else r.readings

/-- An onion packet is good for a blob. -/
def Ingests (r : Relay) (inner : String) (ticket : Option String) : Prop :=
  runtime.role ≠ .entry ∧ TicketAccepted P runtime clock r ticket "store"
    ∧ ∃ wrapSecret data outer, runtime.wrapSecret = some wrapSecret ∧ b64decode inner = .ok data
      ∧ decodeMailboxPacket P data wrapSecret = .ok outer
      ∧ Admits r.blobs.maxBlobSize r.blobs.maxBlobsPerTag r.blobs.blobs
        { mailboxTag := outer.mailboxTag
          expiresAt := outer.expiresAt
          ciphertext := outer.ciphertext
          storedAt := clock (readingsAfterTicket runtime r) }

/-- The event reaches no blob without a check: no legacy fetch finds one, no onion packet
brings one. -/
def Guarded (r : Relay) : RelayEvent → Prop
  | .request (.fetchBlobsLegacy mailboxTag) =>
      ∀ tagBytes, b64decode mailboxTag = .ok tagBytes →
        r.blobs.fetch tagBytes (clock r.readings) = []
  | .request (.ingestPacket inner ticket) => ¬ Ingests P runtime clock r inner ticket
  | _ => True

variable {P runtime clock}

/-! ### The unchecked routes -/

/-- The legacy fetch answers with what it finds. -/
theorem run_fetchBlobsLegacy {mailboxTag : String} {r r' : Relay} {response : RelayResponse} :
    (fetchBlobsLegacy clock mailboxTag).run r = .ok response r'
      ↔ ∃ tagBytes, b64decode mailboxTag = .ok tagBytes
        ∧ response = { statusCode := 200
                       content := .blobs
                        ((r.blobs.fetch tagBytes (clock r.readings)).map blobResponse) }
        ∧ r' = { r with readings := r.readings + 1 } := by
  rw [fetchBlobsLegacy, run_bind_ok]
  constructor
  · rintro ⟨tagBytes, r₁, htag, hrun⟩
    obtain ⟨hdecode, rfl⟩ := run_orRaise_eq_ok.mp (run_rescue_ok.mp htag)
    cases hrun
    exact ⟨tagBytes, hdecode, rfl, rfl⟩
  · rintro ⟨tagBytes, hdecode, rfl, rfl⟩
    exact ⟨tagBytes, r, run_rescue_ok.mpr (run_orRaise_eq_ok.mpr ⟨hdecode, rfl⟩), rfl⟩

/-- `_check_ticket` lets through what has a good ticket. -/
theorem run_checkTicket {ticket : Option String} {permission : String} {r r' : Relay} {u : Unit} :
    (checkTicket P runtime clock ticket permission).run r = .ok u r'
      ↔ TicketAccepted P runtime clock r ticket permission
        ∧ r' = { r with readings := readingsAfterTicket runtime r } := by
  unfold checkTicket
  rw [TicketAccepted, readingsAfterTicket]
  cases htickets : runtime.requireTickets with
  | false =>
      simp only [Bool.false_eq_true, not_false_eq_true, if_true, if_false, false_implies, true_and]
      constructor
      · intro h
        cases h
        rfl
      · rintro rfl
        rfl
  | true =>
      simp only [not_true_eq_false, if_false, if_true, true_implies]
      cases ticket with
      | none =>
          constructor
          · intro h
            cases h
          · rintro ⟨⟨text, _, htext, -⟩, -⟩
            cases htext
      | some text =>
          simp only [run_rescue_ok, run_orRaise_bind_ok, verifyTicket, run_tick_bind,
            run_orRaise_eq_ok]
          constructor
          · rintro ⟨ticket, hticket, hverified, rfl⟩
            exact ⟨⟨text, ticket, rfl, hticket, hverified⟩, rfl⟩
          · rintro ⟨⟨text', ticket, htext, hticket, hverified⟩, rfl⟩
            cases htext
            exact ⟨ticket, hticket, hverified, rfl⟩

/-- The relay has stored a blob. -/
def keeping (r : Relay) (b : StoredBlob) (readings : Nat) : Relay :=
  { r with blobs := { r.blobs with blobs := r.blobs.blobs ++ [b] }, readings }

/-- A blob that is admitted is kept. -/
theorem run_keepBlob_ok {mailboxTag ciphertext : Bytes} {expiresAt : Int} {r r' : Relay} {u : Unit} :
    (keepBlob clock mailboxTag expiresAt ciphertext).run r = .ok u r'
      ↔ Admits r.blobs.maxBlobSize r.blobs.maxBlobsPerTag r.blobs.blobs
          { mailboxTag, expiresAt, ciphertext, storedAt := clock r.readings }
        ∧ r' = keeping r { mailboxTag, expiresAt, ciphertext, storedAt := clock r.readings }
          (r.readings + 1) := by
  let b : StoredBlob := { mailboxTag, expiresAt, ciphertext, storedAt := clock r.readings }
  rw [keepBlob, run_tick_bind, onBlobs, run_onPart_ok]
  constructor
  · rintro ⟨s, hrun, rfl⟩
    by_cases hadmits : Admits r.blobs.maxBlobSize r.blobs.maxBlobsPerTag r.blobs.blobs b
    · have hstore := BlobStore.store_admitted hadmits
      rw [hstore] at hrun
      cases hrun
      exact ⟨hadmits, rfl⟩
    · obtain ⟨e, hstore⟩ := BlobStore.store_refused hadmits
      rw [hstore] at hrun
      cases hrun
  · rintro ⟨hadmits, rfl⟩
    exact ⟨_, BlobStore.store_admitted hadmits, rfl⟩

theorem raises_keepBlob {mailboxTag ciphertext : Bytes} {expiresAt : Int} :
    Raises (fun r r' : Relay => r'.blobs = r.blobs)
      (keepBlob clock mailboxTag expiresAt ciphertext) := by
  intro r e r' hrun
  let b : StoredBlob := { mailboxTag, expiresAt, ciphertext, storedAt := clock r.readings }
  rw [keepBlob, run_tick_bind, onBlobs, run_onPart_error] at hrun
  obtain ⟨s, hstore, rfl⟩ := hrun
  by_cases hadmits : Admits r.blobs.maxBlobSize r.blobs.maxBlobsPerTag r.blobs.blobs b
  · rw [BlobStore.store_admitted hadmits] at hstore
    cases hstore
  · obtain ⟨e', hrefused⟩ := BlobStore.store_refused hadmits
    rw [hrefused] at hstore
    cases hstore
    exact .single rfl

/-- The ingest stores the blob of a good packet. -/
theorem ingests_of_run {inner : String} {ticket : Option String} {r r' : Relay}
    {response : RelayResponse}
    (h : (ingestPacket P runtime clock inner ticket).run r = .ok response r') :
    Ingests P runtime clock r inner ticket ∧ ∃ b readings, r' = keeping r b readings := by
  simp only [ingestPacket, run_guard_bind_ok, run_bind_ok, run_checkTicket] at h
  obtain ⟨hrole, _, _, ⟨hticket, rfl⟩, hrun⟩ := h
  cases hwrap : runtime.wrapSecret with
  | none =>
      rw [hwrap] at hrun
      cases hrun
  | some wrapSecret =>
      rw [hwrap] at hrun
      simp only [run_bind_ok, run_rescue_ok, run_orRaise_eq_ok, run_keepBlob_ok] at hrun
      obtain ⟨_, _, ⟨data, _, ⟨hdata, rfl⟩, outer, _, ⟨houter, rfl⟩, hadmits, rfl⟩, hlast⟩ := hrun
      cases hlast
      exact ⟨⟨hrole, hticket, wrapSecret, data, outer, hwrap, hdata, houter, hadmits⟩, _, _, rfl⟩

theorem run_of_ingests {inner : String} {ticket : Option String} {r : Relay}
    (h : Ingests P runtime clock r inner ticket) :
    ∃ response r', (ingestPacket P runtime clock inner ticket).run r = .ok response r' := by
  obtain ⟨hrole, hticket, wrapSecret, data, outer, hwrap, hdata, houter, hadmits⟩ := h
  simp only [ingestPacket, run_guard_bind_ok, run_bind_ok, run_checkTicket, hwrap, run_rescue_ok,
    run_orRaise_eq_ok, run_keepBlob_ok]
  exact ⟨_, _, hrole, (), _, ⟨hticket, rfl⟩, (), _,
    ⟨data, _, ⟨hdata, rfl⟩, outer, _, ⟨houter, rfl⟩, hadmits, rfl⟩, rfl⟩

/-- It stores no other. -/
theorem raises_ingestPacket {inner : String} {ticket : Option String} :
    Raises (fun r r' : Relay => r'.blobs = r.blobs)
      (ingestPacket P runtime clock inner ticket) := by
  rw [ingestPacket]
  refine .guard ?_
  refine .bind ((steps_checkTicket ticket "store").mono fun _ _ (h : Quiet clock _ _) => h.blobs)
    fun _ => ?_
  cases runtime.wrapSecret with
  | none => exact .of_steps (.raise _)
  | some wrapSecret =>
      refine .bind_pure (raises_rescue ?_) _
      exact .bind (.orRaise _) fun _ => .bind (.orRaise _) fun _ => raises_keepBlob

/-! ### One step -/

theorem not_checked {permission : String} {r r' : Relay} (h : Calm clock r r') :
    ¬ Checked permission r r' := by
  rintro ⟨check, hpassed, -⟩
  have hlen := congrArg List.length (h.passed.symm.trans hpassed)
  simp at hlen

/-- A quiet step that shows no blob keeps to the rule. -/
theorem mediated_of_quiet {r r' : Relay} {answer : Option (Except HttpException RelayResponse)}
    (h : Quiet clock r r')
    (hanswer : ∀ response items, answer = some (.ok response) → response.content = .blobs items →
      items = []) : Mediated r answer r' where
  stored := .inl (h.blobs ▸ .refl _)
  fetched response items hok hcontent hne := absurd (hanswer response items hok hcontent) hne

/-- The response shows no blob. -/
def ShowsNone (response : RelayResponse) : Prop := ∀ items, response.content ≠ .blobs items

/-- A quiet route that shows no blob keeps to the rule. -/
theorem mediated_of_steps {m : RouteM RelayResponse} (hsteps : Steps (Quiet clock) m)
    (hreturns : Returns ShowsNone m) (r : Relay) :
    Mediated r (some (outcome (m.run r))) (after (m.run r)) := by
  refine mediated_of_quiet (Quiet.of_steps (hsteps r)) fun response items hok hcontent => ?_
  obtain ⟨r', hrun⟩ := outcome_eq_ok.mp (Option.some.inj hok)
  exact absurd hcontent (hreturns r response r' hrun items)

theorem mediated_checked {m : RouteM RelayResponse} {r r₁ : Relay} {http : SignedHttp}
    {permission method path : String} {check : PassedCheck}
    (hpasses : Passes P runtime clock r http permission method path check r₁)
    (hcalm : Calm clock r₁ (after (m.run r))) : Checked permission r (after (m.run r)) := by
  refine ⟨check, ?_, hpasses.permission_eq⟩
  rw [hcalm.passed, hpasses.state]

theorem mediated_storeBlob (hrequired : runtime.requireCapabilities = true) (http : SignedHttp)
    (payload : BlobStoreRequest) (r : Relay) :
    Mediated r (some (outcome ((storeBlob P runtime clock http payload).run r)))
      (after ((storeBlob P runtime clock http payload).run r)) := by
  rcases storeBlob_cases P clock hrequired http payload r with
    ⟨e, r', hrun, hquiet⟩ | ⟨check, r₁, hpasses, hcalm⟩
  · rw [hrun]
    exact mediated_of_quiet hquiet fun _ _ hok _ => by cases hok
  · refine ⟨.inr (mediated_checked hpasses hcalm), fun response items hok hcontent _ => ?_⟩
    obtain ⟨r', hrun⟩ := outcome_eq_ok.mp (Option.some.inj hok)
    have hnone : Returns ShowsNone (storeBlob P runtime clock http payload) := by
      rw [storeBlob]
      exact .guard (.bind fun _ => .bind fun _ => .pure fun _ hcontent => by cases hcontent)
    exact absurd hcontent (hnone r response r' hrun items)

theorem mediated_fetchBlobsPost (hrequired : runtime.requireCapabilities = true)
    (http : SignedHttp) (payload : FetchRequest) (r : Relay) :
    Mediated r (some (outcome ((fetchBlobsPost P runtime clock http payload).run r)))
      (after ((fetchBlobsPost P runtime clock http payload).run r)) := by
  rcases fetchBlobsPost_cases P clock hrequired http payload r with
    ⟨e, r', hrun, hquiet⟩ | ⟨check, r₁, hpasses, hquiet⟩
  · rw [hrun]
    exact mediated_of_quiet hquiet fun _ _ hok _ => by cases hok
  · refine ⟨.inl ?_, fun _ _ _ _ _ => mediated_checked hpasses hquiet.toCalm⟩
    rw [hquiet.blobs, hpasses.state]

/-- The legacy fetch keeps to the rule when it finds nothing. -/
theorem mediated_fetchBlobsLegacy_iff (mailboxTag : String) (r : Relay) :
    Mediated r (some (outcome ((fetchBlobsLegacy clock mailboxTag).run r)))
        (after ((fetchBlobsLegacy clock mailboxTag).run r))
      ↔ ∀ tagBytes, b64decode mailboxTag = .ok tagBytes →
        r.blobs.fetch tagBytes (clock r.readings) = [] := by
  have hquiet := Quiet.of_steps (@steps_fetchBlobsLegacy clock mailboxTag r)
  constructor
  · intro hmediated tagBytes hdecode
    let items := (r.blobs.fetch tagBytes (clock r.readings)).map blobResponse
    have hrun : (fetchBlobsLegacy clock mailboxTag).run r
        = .ok { statusCode := 200, content := .blobs items }
          { r with readings := r.readings + 1 } :=
      run_fetchBlobsLegacy.mpr ⟨tagBytes, hdecode, rfl, rfl⟩
    by_contra hfound
    have hshown := hmediated.fetched { statusCode := 200, content := .blobs items } items
      (congrArg (fun result => some (outcome result)) hrun) rfl (by simpa [items] using hfound)
    exact not_checked hquiet.toCalm hshown
  · intro hnone
    refine mediated_of_quiet hquiet fun response items hok hcontent => ?_
    obtain ⟨r', hrun⟩ := outcome_eq_ok.mp (Option.some.inj hok)
    obtain ⟨tagBytes, hdecode, rfl, -⟩ := run_fetchBlobsLegacy.mp hrun
    cases hcontent
    rw [hnone tagBytes hdecode]
    rfl

/-- The ingest keeps to the rule when the packet is not good for a blob. -/
theorem mediated_ingestPacket_iff (inner : String) (ticket : Option String) (r : Relay) :
    Mediated r (some (outcome ((ingestPacket P runtime clock inner ticket).run r)))
        (after ((ingestPacket P runtime clock inner ticket).run r))
      ↔ ¬ Ingests P runtime clock r inner ticket := by
  have hcalm := Calm.of_steps (@calm_ingestPacket P runtime clock inner ticket r)
  cases hrun : (ingestPacket P runtime clock inner ticket).run r with
  | error e r' =>
      rw [hrun] at hcalm
      refine iff_of_true ?_ fun hingests => ?_
      · have hblobs : r'.blobs = r.blobs := eq_of_steps (raises_ingestPacket r e r' hrun)
        exact mediated_of_quiet { hcalm with blobs := hblobs } fun _ _ hok _ => by cases hok
      · obtain ⟨response, r'', hok⟩ := run_of_ingests hingests
        rw [hrun] at hok
        cases hok
  | ok response r' =>
      rw [hrun] at hcalm
      obtain ⟨hingests, b, readings, rfl⟩ := ingests_of_run hrun
      refine iff_of_false (fun hmediated => ?_) (not_not.mpr hingests)
      rcases hmediated.stored with hsublist | hchecked
      · have hlen := hsublist.length_le
        simp [keeping] at hlen
      · exact not_checked hcalm hchecked

/-- **One step.** With capabilities required, an event keeps to the rule exactly when it reaches
no blob by an unchecked route. -/
theorem mediated_iff_guarded (hrequired : runtime.requireCapabilities = true) (r : Relay)
    (event : RelayEvent) :
    Mediated r (step P runtime clock r event).1 (step P runtime clock r event).2
      ↔ Guarded P runtime clock r event := by
  cases event with
  | request request =>
      cases request with
      | healthz =>
          have hsteps : Steps (Quiet clock) (healthz runtime) := .pure _
          refine iff_of_true (mediated_of_steps hsteps ?_ r) trivial
          exact .pure fun _ hcontent => by cases hcontent
      | issueCapability request =>
          refine iff_of_true (mediated_of_steps (steps_issueCapability request) ?_ r) trivial
          rw [issueCapability]
          exact .guard (.bind fun _ => .bind fun _ => .pure fun _ hcontent => by cases hcontent)
      | registerCapability grant =>
          refine iff_of_true (mediated_of_steps (steps_registerCapability grant) ?_ r) trivial
          rw [registerCapability]
          exact .guard (.bind fun _ => .pure fun _ hcontent => by cases hcontent)
      | revokeCapability id ticket =>
          refine iff_of_true (mediated_of_steps (steps_revokeCapability id ticket) ?_ r) trivial
          exact .bind fun _ => .bind fun _ => .pure fun _ hcontent => by cases hcontent
      | storeBlob http payload =>
          exact iff_of_true (mediated_storeBlob hrequired http payload r) trivial
      | fetchBlobsPost http payload =>
          exact iff_of_true (mediated_fetchBlobsPost hrequired http payload r) trivial
      | fetchBlobsLegacy mailboxTag => exact mediated_fetchBlobsLegacy_iff mailboxTag r
      | relayPacket packet ticket forwarded =>
          refine iff_of_true (mediated_of_steps (steps_relayPacket packet ticket forwarded) ?_ r)
            trivial
          rw [relayPacket]
          refine .guard (.bind fun _ => ?_)
          cases runtime.wrapSecret with
          | none => exact .raise _
          | some wrapSecret =>
              refine .bind fun next => ?_
              cases forwarded with
              | error e => exact .raise _
              | ok response => exact .guard (.pure fun _ hcontent => by cases hcontent)
      | ingestPacket inner ticket => exact mediated_ingestPacket_iff inner ticket r
      | pairRegister inviteSecret =>
          refine iff_of_true (mediated_of_steps (steps_pairRegister inviteSecret) ?_ r) trivial
          exact .bind fun _ => .pure fun _ hcontent => by cases hcontent
      | pairStoreRequest request =>
          refine iff_of_true (mediated_of_steps (steps_pairStoreRequest request) ?_ r) trivial
          exact .bind fun _ => .pure fun _ hcontent => by cases hcontent
      | pairPending inviteTag =>
          refine iff_of_true (mediated_of_steps (@steps_pairPending clock inviteTag) ?_ r) trivial
          refine .bind fun r => ?_
          cases r.pairing.getPendingRequest inviteTag with
          | none => exact .raise _
          | some pending => exact .pure fun _ hcontent => by cases hcontent
      | pairStoreResponse inviteSecret response =>
          have hsteps := @steps_pairStoreResponse P clock inviteSecret response
          refine iff_of_true (mediated_of_steps hsteps ?_ r) trivial
          exact .bind fun _ => .pure fun _ hcontent => by cases hcontent
      | pairFetchResponse inviteTag =>
          have hsteps := @steps_pairFetchResponse clock inviteTag
          refine iff_of_true (mediated_of_steps hsteps ?_ r) trivial
          refine .bind fun r => ?_
          cases r.pairing.getResponse inviteTag with
          | none => exact .raise _
          | some response => exact .pure fun _ hcontent => by cases hcontent
  | sweep =>
      refine iff_of_true ⟨.inl ?_, fun _ _ hok _ => by cases hok⟩ trivial
      exact List.filter_sublist
  | restart overlapWindowMs =>
      exact iff_of_true ⟨.inl (.refl _), fun _ _ hok _ => by cases hok⟩ trivial

/-! ### Runs -/

/-- Every event of a run keeps to the rule. -/
def CompleteMediation (P : Packages) (runtime : RelayRuntime) (clock : Nat → Int) (start : Relay)
    (events : List RelayEvent) : Prop :=
  Meets (step P runtime clock)
    (fun r event =>
      Mediated r (step P runtime clock r event).1 (step P runtime clock r event).2)
    start events

/-- **Complete mediation.** With capabilities required, every event of a run keeps to the rule
exactly when none reaches a blob by an unchecked route. -/
theorem completeMediation_iff_guarded (P : Packages) (runtime : RelayRuntime)
    (hrequired : runtime.requireCapabilities = true) (clock : Nat → Int) (start : Relay)
    (events : List RelayEvent) :
    CompleteMediation P runtime clock start events
      ↔ Meets (step P runtime clock) (Guarded P runtime clock) start events := by
  rw [CompleteMediation]
  induction events generalizing start with
  | nil => exact Iff.rfl
  | cons event events ih =>
      rw [Meets, Meets, mediated_iff_guarded hrequired, ih]

namespace Sample

open CapabilityGrantStore.Sample

/-- A mailbox relay of an onion route. -/
def onionRelay : RelayRuntime := { relay with wrapSecret := some (List.replicate 32 6) }

def outer : OuterBlob :=
  { version := 1
    mailboxTag := List.replicate 32 8
    expiresAt := 1000
    ciphertext := [1] }

/-- The packet that an entry relay forwards for the blob. -/
def packet : Bytes :=
  List.replicate 24 0 ++ packages.aeadEncrypt (BytesN.fill 32 6) (BytesN.fill 24 0)
    [] (packages.cborDumps (.map
      [("mailbox_tag", .bytes outer.mailboxTag), ("expires_at", .int outer.expiresAt),
        ("ciphertext", .bytes outer.ciphertext)]))

end Sample

open CapabilityGrantStore.Sample Relay.Sample in
/-- A store and a sweep keep to the rule. -/
theorem completeMediation_store :
    CompleteMediation packages onionRelay (fun _ => 0) {}
      [.request (.storeBlob (http "AwMDAwMDAwMDAwMDAwMDAw")
        { mailboxTag := "AA", expiresAt := 1, ciphertext := "" }), .sweep] :=
  (completeMediation_iff_guarded packages onionRelay rfl (fun _ => 0) {} _).mpr
    ⟨trivial, trivial, trivial⟩

open CapabilityGrantStore.Sample Relay.Sample in
/-- An onion packet is stored unchecked. -/
theorem not_completeMediation_ingest :
    ¬ CompleteMediation packages onionRelay (fun _ => 0) {}
      [.request (.ingestPacket (b64encode packet) none)] := by
  rintro ⟨hmediated, -⟩
  have hingests : Ingests packages onionRelay (fun _ => 0) {} (b64encode packet) none := by
    refine ⟨by decide, fun htickets => (by cases htickets), _, packet, outer, rfl,
      b64decode_b64encode _, by decide +kernel, ?_⟩
    exact
      { tag := rfl
        size := by decide
        fresh := by decide
        ttl := by decide
        room := by decide }
  exact (@mediated_ingestPacket_iff packages onionRelay (fun _ => 0) (b64encode packet) none {}).mp
    hmediated hingests

end Relay
end Yakr
