import Mathlib
import Yakr.Relay.Actions
import Yakr.Relay.Mediation

/-!
# Yakr.Relay.Serving

**A relay serves what it took.** Between the request that stores a blob and the request that asks for
its mailbox there may be any others, sweeps and restarts, in every mode of authorization. No route
deletes a blob, and a sweep only those that have expired (`Retains`). So a blob that was accepted is
in the answer to every later fetch of its mailbox that is answered before the blob expires
(`accepted_blob_served`).
-/

namespace Yakr

open Lib Effect Machine

variable {P : Packages} {runtime : RelayRuntime} {clock : Nat → Int}

namespace Relay

/-! ### What stays -/

/-- A blob goes only when it has expired at a clock reading between. -/
structure Retains (clock : Nat → Int) (r r' : Relay) : Prop where
  readings : r.readings ≤ r'.readings
  blobs : ∀ b ∈ r.blobs.blobs, b ∈ r'.blobs.blobs ∨ ∃ j < r'.readings, b.expiresAt ≤ clock j

namespace Retains

variable {r r' r'' : Relay}

/-- Blobs are kept. -/
theorem of_subset (hreadings : r.readings ≤ r'.readings)
    (hblobs : r.blobs.blobs ⊆ r'.blobs.blobs) : Retains clock r r' :=
  ⟨hreadings, fun _ hb => Or.inl (hblobs hb)⟩

theorem refl (r : Relay) : Retains clock r r := of_subset le_rfl (List.Subset.refl _)

theorem trans (h : Retains clock r r') (h' : Retains clock r' r'') : Retains clock r r'' := by
  refine ⟨h.readings.trans h'.readings, fun b hb => ?_⟩
  rcases h.blobs b hb with hkept | ⟨j, hj, hexpired⟩
  · exact h'.blobs b hkept
  · exact Or.inr ⟨j, hj.trans_le h'.readings, hexpired⟩

theorem of_steps (h : Relation.ReflTransGen (Retains clock) r r') : Retains clock r r' := by
  induction h with
  | refl => exact .refl r
  | tail _ hstep ih => exact ih.trans hstep

theorem of_run {ε α : Type} {m : EStateM ε Relay α} (hm : Steps (Retains clock) m) {a : α}
    (hrun : m.run r = .ok a r') : Retains clock r r' := by
  have hsteps := hm r
  rw [hrun] at hsteps
  exact .of_steps hsteps

end Retains

/-- A store adds at most a blob. -/
theorem subset_store (mailboxTag : Bytes) (expiresAt : Int) (ciphertext : Bytes) (now : Int)
    (s : BlobStore) :
    s.blobs ⊆ (after ((BlobStore.store mailboxTag expiresAt ciphertext none now).run s)).blobs := by
  let b : StoredBlob := { mailboxTag, expiresAt, ciphertext, storedAt := now }
  by_cases hadmits : Mailbox.Admits s.maxBlobSize s.maxBlobsPerTag s.blobs b
  · rw [BlobStore.store_admitted hadmits]
    exact List.subset_append_left s.blobs [b]
  · obtain ⟨e, hrefused⟩ := BlobStore.store_refused hadmits
    rw [hrefused]
    exact List.Subset.refl _

/-- No action deletes a blob. -/
theorem Action.retains {names : Bytes → Prop} {r r' : Relay} (h : Action P runtime names r r') :
    Retains clock r r' := by
  cases h with
  | tick => exact .of_subset (Nat.le_succ _) (List.Subset.refl _)
  | keep mailboxTag expiresAt ciphertext now =>
      exact .of_subset le_rfl (subset_store mailboxTag expiresAt ciphertext now r.blobs)
  | pair => exact .of_subset le_rfl (List.Subset.refl _)
  | pass => exact .of_subset le_rfl (List.Subset.refl _)
  | register => exact .of_subset le_rfl (List.Subset.refl _)
  | revoke => exact .of_subset le_rfl (List.Subset.refl _)
  | consume => exact .of_subset le_rfl (List.Subset.refl _)

theorem Quiet.retains {r r' : Relay} (h : Quiet clock r r') : Retains clock r r' := by
  refine .of_subset h.readings ?_
  rw [h.blobs]
  exact List.Subset.refl _

section Steps

theorem retains_of_quiet {ε α : Type} {m : EStateM ε Relay α} (hm : Steps (Quiet clock) m) :
    Steps (Retains clock) m := hm.mono fun _ _ => Quiet.retains

theorem retains_of_actions {ε α : Type} {names : Bytes → Prop} {m : EStateM ε Relay α}
    (hm : Steps (Action P runtime names) m) : Steps (Retains clock) m :=
  hm.mono fun _ _ => Action.retains

/-- A sweep deletes what has expired at its reading. -/
theorem retains_sweepExpired : Steps (Retains clock) (sweepExpired clock) := by
  intro r
  let swept : Relay :=
    { r with
      readings := r.readings + 1
      blobs := after ((BlobStore.sweepExpired (clock r.readings)).run r.blobs) }
  have hswept : Retains clock r swept := by
    refine ⟨Nat.le_succ _, fun b hb => ?_⟩
    by_cases hexpired : b.expiresAt ≤ clock r.readings
    · exact Or.inr ⟨r.readings, Nat.lt_succ_self _, hexpired⟩
    · exact Or.inl (List.mem_filter.mpr ⟨hb, by simp [hexpired]⟩)
  have hrest : Steps (Quiet clock) (do
      let now ← tick clock
      let _ ← onPairing (PairingStore.sweepExpired now) : BodyM Unit) :=
    steps_tick.bind fun _ => (steps_onPairing _).bind fun _ => .pure _
  exact .head hswept (retains_of_quiet hrest swept)

/-- **No route deletes a blob.** -/
theorem retains_route (request : RelayRequest) :
    Steps (Retains clock) (route P runtime clock request) :=
  retains_of_actions (actions_route request)

theorem retains_step (r : Relay) (event : RelayEvent) :
    Retains clock r (step P runtime clock r event).2 := by
  cases event with
  | request request => exact .of_steps (retains_route request r)
  | sweep => exact .of_steps (retains_sweepExpired r)
  | restart overlapWindowMs => exact .of_subset le_rfl (List.Subset.refl _)

theorem retains_run (r : Relay) (events : List RelayEvent) :
    Retains clock r (run (step P runtime clock) r events).state :=
  run_invariant (fun _ event h => h.trans (retains_step _ event)) (.refl r) events

end Steps

/-! ### What is taken -/

/-- A request asks the relay to keep a blob with this tag, expiry and ciphertext. -/
inductive Offers (P : Packages) (runtime : RelayRuntime) :
    RelayRequest → Bytes → Int → Bytes → Prop
  | blob {http : SignedHttp} {payload : BlobStoreRequest} {mailboxTag ciphertext : Bytes}
      (htag : b64decode payload.mailboxTag = .ok mailboxTag)
      (hciphertext : b64decode payload.ciphertext = .ok ciphertext) :
      Offers P runtime (.storeBlob http payload) mailboxTag payload.expiresAt ciphertext
  | packet {inner : String} {ticket : Option String} {wrapSecret data : Bytes} {outer : OuterBlob}
      (hsecret : runtime.wrapSecret = some wrapSecret) (hdata : b64decode inner = .ok data)
      (houter : decodeMailboxPacket P data wrapSecret = .ok outer) :
      Offers P runtime (.ingestPacket inner ticket) outer.mailboxTag outer.expiresAt
        outer.ciphertext

/-- The relay holds a blob. -/
def Holds (mailboxTag : Bytes) (expiresAt : Int) (ciphertext : Bytes) (r : Relay) : Prop :=
  ∃ b ∈ r.blobs.blobs,
    b.mailboxTag = mailboxTag ∧ b.expiresAt = expiresAt ∧ b.ciphertext = ciphertext

section Taken

variable {mailboxTag ciphertext : Bytes} {expiresAt : Int} {r r' : Relay}

/-- What is held is held until it expires. -/
theorem Holds.retained (h : Holds mailboxTag expiresAt ciphertext r)
    (hretains : Retains clock r r') (hlive : ∀ j < r'.readings, clock j < expiresAt) :
    Holds mailboxTag expiresAt ciphertext r' := by
  obtain ⟨b, hb, htag, rfl, hciphertext⟩ := h
  rcases hretains.blobs b hb with hkept | ⟨j, hj, hexpired⟩
  · exact ⟨b, hkept, htag, rfl, hciphertext⟩
  · exact absurd (hlive j hj) (Int.not_lt.mpr hexpired)

theorem holds_keepBlob {u : Unit}
    (h : (keepBlob clock mailboxTag expiresAt ciphertext).run r = .ok u r') :
    Holds mailboxTag expiresAt ciphertext r' := by
  obtain ⟨-, rfl⟩ := run_keepBlob_ok.mp h
  exact ⟨_, List.mem_append_right _ (List.mem_singleton_self _), rfl, rfl, rfl⟩

/-- A request to keep a blob that is answered without an error is followed by holding it. -/
theorem holds_of_offers {request : RelayRequest} {response : RelayResponse}
    (hoffers : Offers P runtime request mailboxTag expiresAt ciphertext)
    (hrun : (route P runtime clock request).run r = .ok response r') :
    Holds mailboxTag expiresAt ciphertext r' := by
  cases hoffers with
  | blob htag hciphertext =>
      simp only [route, storeBlob, run_guard_bind_ok, run_bind_ok, run_rescue_ok, htag, hciphertext,
        run_orRaise_eq_ok] at hrun
      obtain ⟨-, _, r₁, -, _, r₂, ⟨_, _, ⟨htag', rfl⟩, _, _, ⟨hciphertext', rfl⟩, hkept⟩, hlast⟩ := hrun
      cases htag'
      cases hciphertext'
      cases hlast
      exact holds_keepBlob hkept
  | packet hsecret hdata houter =>
      simp only [route, ingestPacket, run_guard_bind_ok, run_bind_ok, hsecret, run_rescue_ok, hdata,
        run_orRaise_eq_ok] at hrun
      obtain ⟨-, _, r₁, -, _, r₂, ⟨_, _, ⟨hdata', rfl⟩, _, _, ⟨houter', rfl⟩, hkept⟩, hlast⟩ := hrun
      cases hdata'
      rw [houter] at houter'
      cases houter'
      cases hlast
      exact holds_keepBlob hkept

end Taken

/-! ### What is served -/

/-- A request asks for the blobs of these mailboxes. -/
def asked : RelayRequest → List String
  | .fetchBlobsPost _ payload => payload.mailboxTags
  | .fetchBlobsLegacy mailboxTag => [mailboxTag]
  | _ => []

section Served

variable {mailboxTag ciphertext : Bytes} {expiresAt : Int} {r r' : Relay}

theorem mem_fetch {s : BlobStore} {now : Int} {b : StoredBlob} (hb : b ∈ s.blobs)
    (hlive : now < b.expiresAt) : b ∈ s.fetch b.mailboxTag now := by
  refine (orderBy_perm _ _).mem_iff.mpr (List.mem_filter.mpr ⟨hb, ?_⟩)
  exact decide_eq_true ⟨rfl, hlive⟩

/-- The items have the ciphertext. -/
def Shows (items : List BlobResponse) (ciphertext : Bytes) : Prop :=
  ∃ item ∈ items, item.ciphertext = b64encode ciphertext

theorem Shows.mono {items items' : List BlobResponse} (h : Shows items ciphertext)
    (hitems : items ⊆ items') : Shows items' ciphertext := by
  obtain ⟨item, hitem, heq⟩ := h
  exact ⟨item, hitems hitem, heq⟩

theorem subset_addNew (items : List BlobResponse) (b : StoredBlob) : items ⊆ addNew items b := by
  unfold addNew
  split
  · exact List.Subset.refl _
  · exact List.subset_append_left _ _

/-- A blob that is left out has been shown. -/
theorem shows_addNew (items : List BlobResponse) (b : StoredBlob) :
    Shows (addNew items b) b.ciphertext := by
  unfold addNew
  split
  · rename_i hshown
    obtain ⟨item, hitem, hsame⟩ := List.any_eq_true.mp hshown
    exact ⟨item, hitem, (of_decide_eq_true hsame).1⟩
  · exact ⟨blobResponse b, List.mem_append_right _ (List.mem_singleton_self _), rfl⟩

theorem subset_foldl_addNew (blobs : List StoredBlob) (items : List BlobResponse) :
    items ⊆ blobs.foldl addNew items := by
  induction blobs generalizing items with
  | nil => exact List.Subset.refl _
  | cons b blobs ih => exact List.Subset.trans (subset_addNew items b) (ih _)

theorem shows_foldl_addNew {blobs : List StoredBlob} {b : StoredBlob} (hb : b ∈ blobs)
    (items : List BlobResponse) : Shows (blobs.foldl addNew items) b.ciphertext := by
  induction blobs generalizing items with
  | nil => cases hb
  | cons first blobs ih =>
      rcases List.mem_cons.mp hb with rfl | hb
      · exact (shows_addNew items b).mono (subset_foldl_addNew blobs _)
      · exact ih hb _

/-- The blobs of a mailbox at a reading of the clock. -/
theorem run_readBlobs {ε : Type} (tagBytes : Bytes) (r : Relay) :
    (readBlobs clock tagBytes : EStateM ε Relay (List StoredBlob)).run r
      = .ok (r.blobs.fetch tagBytes (clock r.readings)) { r with readings := r.readings + 1 } := rfl

/-- What is shown stays shown, and a mailbox that is asked for is shown. -/
theorem shows_collectBlobs {mailboxTags : List String} {items items' : List BlobResponse}
    (hrun : (collectBlobs clock mailboxTags items).run r = .ok items' r') :
    items ⊆ items' ∧ ∀ text ∈ mailboxTags, b64decode text = .ok mailboxTag →
      Holds mailboxTag expiresAt ciphertext r → (∀ j < r'.readings, clock j < expiresAt) →
      Shows items' ciphertext := by
  induction mailboxTags generalizing items r with
  | nil =>
      cases hrun
      exact ⟨List.Subset.refl _, fun text hmem => absurd hmem List.not_mem_nil⟩
  | cons first mailboxTags ih =>
      unfold collectBlobs at hrun
      obtain ⟨tagBytes, r₁, hdecoded, hread⟩ := run_bind_ok.mp hrun
      obtain ⟨htag, hsame⟩ := run_orRaise_eq_ok.mp (run_rescue_ok.mp hdecoded)
      rw [hsame, EStateM.run_bind, run_readBlobs] at hread
      obtain ⟨hsubset, hrest⟩ := ih hread
      refine ⟨List.Subset.trans (subset_foldl_addNew _ items) hsubset, ?_⟩
      intro text hmem htext hholds hlive
      rcases List.mem_cons.mp hmem with rfl | hmem
      · -- this mailbox is read now, before the last reading of the request
        obtain ⟨b, hb, rfl, rfl, rfl⟩ := hholds
        obtain rfl : tagBytes = b.mailboxTag := Except.ok.inj (htag.symm.trans htext)
        have hreadings : r.readings + 1 ≤ r'.readings := by
          have hretains : Retains clock { r with readings := r.readings + 1 } r' :=
            .of_run (retains_of_quiet (steps_collectBlobs mailboxTags _)) hread
          exact hretains.readings
        exact (shows_foldl_addNew (mem_fetch hb (hlive r.readings hreadings)) items).mono hsubset
      · exact hrest text hmem htext hholds hlive

/-- **A fetch of a mailbox shows what is held in it.** -/
theorem shows_of_asked {request : RelayRequest} {response : RelayResponse} {text : String}
    (hrun : (route P runtime clock request).run r = .ok response r') (hasked : text ∈ asked request)
    (htext : b64decode text = .ok mailboxTag) (hholds : Holds mailboxTag expiresAt ciphertext r)
    (hlive : ∀ j < r'.readings, clock j < expiresAt) :
    ∃ items, response.content = .blobs items ∧ Shows items ciphertext := by
  cases request with
  | fetchBlobsPost http payload =>
      simp only [route, fetchBlobsPost, run_guard_bind_ok, run_bind_ok] at hrun
      obtain ⟨-, _, r₁, hauthorized, -, items, r₂, hcollected, hlast⟩ := hrun
      cases hlast
      have hauthorize : Steps (Action P runtime fun _ => False)
          (authorizeRequest P runtime clock http "fetch" "POST" "/v1/fetch" payload.ticket) :=
        actions_authorizeRequest http "fetch" "POST" "/v1/fetch" payload.ticket
      have hretains : Retains clock r r₁ := .of_run (retains_of_actions hauthorize) hauthorized
      have hread : Retains clock r₁ r' :=
        .of_run (retains_of_quiet (steps_collectBlobs payload.mailboxTags [])) hcollected
      have hholds' := hholds.retained hretains fun j hj =>
        hlive j (Nat.lt_of_lt_of_le hj hread.readings)
      exact ⟨items, rfl, (shows_collectBlobs hcollected).2 text hasked htext hholds' hlive⟩
  | fetchBlobsLegacy legacyTag =>
      obtain ⟨tagBytes, hdecode, rfl, rfl⟩ := run_fetchBlobsLegacy.mp hrun
      obtain ⟨b, hb, rfl, rfl, rfl⟩ := hholds
      obtain rfl := List.mem_singleton.mp hasked
      obtain rfl : tagBytes = b.mailboxTag := Except.ok.inj (hdecode.symm.trans htext)
      have hshown := mem_fetch hb (hlive r.readings (Nat.lt_succ_self _))
      exact ⟨_, rfl, blobResponse b, List.mem_map_of_mem hshown, rfl⟩
  | _ => cases hasked

/-- What is held before a fetch, and has not expired by the end of it, is shown. -/
theorem shows_of_holds (hclock : Monotone clock) {r'' : Relay} {request : RelayRequest}
    {response : RelayResponse} {text : String} (hholds : Holds mailboxTag expiresAt ciphertext r)
    (hbetween : Retains clock r r') (hrun : (route P runtime clock request).run r' = .ok response r'')
    (hasked : text ∈ asked request) (htext : b64decode text = .ok mailboxTag)
    (hlast : clock (r''.readings - 1) < expiresAt) :
    ∃ items, response.content = .blobs items ∧ Shows items ciphertext := by
  have hlive : ∀ j < r''.readings, clock j < expiresAt := fun j hj =>
    Int.lt_of_le_of_lt (hclock (Nat.le_sub_one_of_lt hj)) hlast
  have hfetch : Retains clock r' r'' := .of_run (retains_route request) hrun
  refine shows_of_asked hrun hasked htext (hholds.retained hbetween fun j hj => ?_) hlive
  exact hlive j (Nat.lt_of_lt_of_le hj hfetch.readings)

end Served

/-! ### Runs -/

/-- **What was taken is served.** A relay has answered a request to keep a blob without an error. After
any requests, sweeps and restarts, a fetch of its mailbox that is answered without an error, at
readings of the clock before the blob expires, shows its ciphertext. -/
theorem accepted_blob_served (P : Packages) (runtime : RelayRuntime) {clock : Nat → Int}
    (hclock : Monotone clock) (r : Relay) {taking asking : RelayRequest} (between : List RelayEvent)
    {mailboxTag ciphertext : Bytes} {expiresAt : Int} {text : String}
    {taken served : RelayResponse}
    (hoffers : Offers P runtime taking mailboxTag expiresAt ciphertext)
    (hasked : text ∈ asked asking) (htext : b64decode text = .ok mailboxTag)
    (htaken : (step P runtime clock r (.request taking)).1 = some (.ok taken))
    (hserved : (step P runtime clock
      (run (step P runtime clock) r (.request taking :: between)).state (.request asking)).1
        = some (.ok served))
    (hlive : clock ((run (step P runtime clock) r
      (.request taking :: between ++ [.request asking])).state.readings - 1) < expiresAt) :
    ∃ items, served.content = .blobs items ∧ Shows items ciphertext := by
  obtain ⟨r₁, htook⟩ := outcome_eq_ok.mp (Option.some.inj htaken)
  obtain ⟨r₃, hanswered⟩ := outcome_eq_ok.mp (Option.some.inj hserved)
  have hstep : (step P runtime clock r (.request taking)).2 = r₁ := congrArg after htook
  rw [run_state_cons, hstep] at hanswered
  have hlast : (run (step P runtime clock) r
      (.request taking :: between ++ [.request asking])).state = r₃ := by
    rw [run_concat, Log.ask, run_state_cons, hstep]
    exact congrArg after hanswered
  rw [hlast] at hlive
  exact shows_of_holds hclock (holds_of_offers hoffers htook) (retains_run r₁ between) hanswered
    hasked htext hlive

namespace ServedSample

def mailboxTag : Bytes := List.replicate 32 7

/-- A blob for the mailbox, and a fetch of the mailbox. -/
def storing : RelayRequest :=
  .storeBlob { body := [] } { mailboxTag := b64encode mailboxTag, expiresAt := 9, ciphertext := "AQI" }

def fetching : RelayRequest :=
  .fetchBlobsPost { body := [] } { mailboxTags := ["", b64encode mailboxTag] }

/-- A relay that asks for neither tickets nor capabilities. -/
def opened : RelayRuntime := { role := .mailbox, wrapSecret := none, name := "relay" }

def shown : BlobResponse :=
  { mailboxTag := b64encode mailboxTag, expiresAt := 9, ciphertext := "AQI", storedAt := 0 }

end ServedSample

open ServedSample in
/-- A sweep and a restart between the two. -/
theorem stored_blob_served : ∃ items,
    ({ statusCode := 200, content := .blobs [shown] } : RelayResponse).content = .blobs items
      ∧ Shows items [1, 2] := by
  have hoffers : Offers plainPackages opened storing mailboxTag 9 [1, 2] :=
    .blob (b64decode_b64encode mailboxTag) (by decide +kernel)
  have htaken : (step plainPackages opened (fun n => n) {} (.request storing)).1
      = some (.ok { statusCode := 201, content := .object [("status", "stored")] }) := by
    decide +kernel
  have hserved : (step plainPackages opened (fun n => n)
      (run (step plainPackages opened fun n => n) {}
        (.request storing :: [.sweep, .restart 0])).state (.request fetching)).1
      = some (.ok { statusCode := 200, content := .blobs [shown] }) := by
    decide +kernel
  exact accepted_blob_served plainPackages opened (fun n n' h => Int.ofNat_le.mpr h) {}
    [.sweep, .restart 0] hoffers (List.mem_cons_of_mem _ List.mem_cons_self)
    (b64decode_b64encode mailboxTag) htaken hserved (by decide +kernel)

end Relay

end Yakr
