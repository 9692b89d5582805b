import Yakr.Cli.Attempts
import Yakr.Session.Failures

/-!
# Yakr.Cli.Junk

**What a relay may add to its answers.** An added item passes through the lists of the poll, the
sort by arrival, the decoding and the trial decryption before it is refused. Nothing on this way
catches what a malformed item raises, and a payload that does not authenticate is refused with the
ratchet restored but for its skipped keys.

Every attempt at an added item that does not authenticate passes by without a trace exactly when
the item has its fields and its header makes the ratchet store or clear no skipped key
(`passesBy_iff`). A fetch whose attempts at added items all pass by ends as it would without them
(`junk_harmless_iff`).
-/

namespace Yakr

open Lib Effect Worklist

variable {P : Packages}

/-! ### Answers without the added items -/

/-- The answers with the kept items only. -/
def Polls.only (polls : Polls) (keep : Json → Bool) : Polls :=
  { polls with
    direct := fun tag hint => (polls.direct tag hint).map fun answer =>
      (answer.1, answer.2.filter keep)
    relay := fun tag base => (polls.relay tag base).map fun answer =>
      (answer.1, answer.2.filter keep) }

section Lists

variable {keep : Json → Bool} {items : List Json}

theorem fetchDirectBlobs_only (keep : Json → Bool) (get : String → Except PyExc (Int × List Json))
    (hints : List String) :
    outcome ((fetchDirectBlobs (fun hint => orRaise ((get hint).map fun answer =>
        (answer.1, answer.2.filter keep))) hints).run ())
      = (outcome ((fetchDirectBlobs (fun hint => orRaise (get hint)) hints).run ())).map
          (·.filter keep) := by
  induction hints with
  | nil => rfl
  | cons hint hints ih =>
      unfold fetchDirectBlobs
      simp only [EStateM.run_bind, attempt_run]
      cases get (rstripSlash hint) with
      | error e =>
          simp only [Except.map, run_orRaise_error]
          by_cases he : e.isHttpOrValueError = true
          · simp only [if_pos he]
            exact ih
          · simp only [if_neg he]
            rfl
      | ok answer =>
          simp only [Except.map, run_orRaise_ok]
          by_cases hstatus : answer.1 = 200
          · simp only [if_pos hstatus]
            rfl
          · simp only [if_neg hstatus]
            exact ih

/-- Two lists of found items: the second is the kept part of the first, and the same texts of
`texts` have been seen. -/
def FoundAlike (keep : Json → Bool) (texts : String → Prop) :
    Except PyExc (List Json × List String) → Except PyExc (List Json × List String) → Prop
  | .ok found, .ok found' =>
      found'.1 = found.1.filter keep ∧ ∀ text, texts text → (text ∈ found.2 ↔ text ∈ found'.2)
  | .error e, .error e' => e = e'
  | _, _ => False

/-- `texts` are those of kept items, and every other item has a text that is not one of them. -/
structure Parts (P : Packages) (keep : Json → Bool) (texts : String → Prop) (items : List Json) :
    Prop where
  kept : ∀ item ∈ items, keep item = true → ∀ text, itemCiphertext P item = .ok text → texts text
  left : ∀ item ∈ items, keep item = false → ∃ text, itemCiphertext P item = .ok text ∧ ¬ texts text

theorem addUnseen_only {texts : String → Prop} {found found' : List Json × List String}
    (hparts : Parts P keep texts items)
    (hfound : FoundAlike keep texts (.ok found) (.ok found')) :
    FoundAlike keep texts (addUnseen P found items) (addUnseen P found' (items.filter keep)) := by
  induction items generalizing found found' with
  | nil => exact hfound
  | cons item items ih =>
      have hrest : Parts P keep texts items :=
        ⟨fun i hi => hparts.kept i (List.mem_cons_of_mem item hi),
          fun i hi => hparts.left i (List.mem_cons_of_mem item hi)⟩
      obtain ⟨hitems, hseen⟩ := hfound
      cases hkeep : keep item with
      | true =>
          rw [List.filter_cons_of_pos hkeep, addUnseen, addUnseen]
          cases htext : itemCiphertext P item with
          | error e => exact rfl
          | ok text =>
              have hmem := hseen text (hparts.kept item List.mem_cons_self hkeep text htext)
              simp only [bind, Except.bind]
              by_cases hold : text ∈ found.2
              · rw [if_pos hold, if_pos (hmem.mp hold)]
                exact ih hrest ⟨hitems, hseen⟩
              · rw [if_neg hold, if_neg fun h => hold (hmem.mpr h)]
                refine ih hrest ⟨?_, fun other hother => ?_⟩
                · simp [hitems, hkeep]
                · simp [hseen other hother]
      | false =>
          obtain ⟨text, htext, hnot⟩ := hparts.left item List.mem_cons_self hkeep
          have hne : ¬ keep item = true := by simp [hkeep]
          rw [List.filter_cons_of_neg hne, addUnseen, htext]
          simp only [bind, Except.bind]
          split
          · exact ih hrest ⟨hitems, hseen⟩
          · refine ih hrest ⟨?_, fun other hother => ?_⟩
            · simp [hitems, hkeep]
            · have hother' : other ≠ text := fun h => hnot (h ▸ hother)
              simp [hseen other hother, hother']

/-- What `fetch_relay_blobs` has found. -/
theorem fetchRelayBlobs_only {texts : String → Prop} {found found' : List Json × List String}
    (keep : Json → Bool) (fetch : String → Except PyExc (Int × List Json)) (bases : List String)
    (hparts : ∀ base status answer, fetch base = .ok (status, answer) →
      Parts P keep texts answer)
    (hfound : FoundAlike keep texts (.ok found) (.ok found')) :
    outcome ((fetchRelayBlobs P (fun base => orRaise ((fetch base).map fun answer =>
        (answer.1, answer.2.filter keep))) found' bases).run ())
      = (outcome ((fetchRelayBlobs P (fun base => orRaise (fetch base)) found bases).run ())).map
          (·.filter keep) := by
  induction bases generalizing found found' with
  | nil => exact congrArg Except.ok hfound.1
  | cons base bases ih =>
      unfold fetchRelayBlobs
      simp only [EStateM.run_bind, attempt_run]
      cases hfetch : fetch (rstripSlash base) with
      | error e =>
          simp only [Except.map, run_orRaise_error]
          by_cases he : e.isHttpOrValueError = true
          · simp only [if_pos he]
            exact ih hfound
          · simp only [if_neg he]
            rfl
      | ok answer =>
          simp only [Except.map, run_orRaise_ok]
          by_cases hstatus : answer.1 = 200
          · have hadd := addUnseen_only (hparts _ answer.1 answer.2 hfetch) hfound
            simp only [if_pos hstatus, EStateM.run_bind]
            cases hunion : addUnseen P found answer.2 with
            | error e =>
                rw [hunion] at hadd
                cases hkept : addUnseen P found' (answer.2.filter keep) with
                | error e' =>
                    rw [hkept] at hadd
                    exact congrArg Except.error hadd.symm
                | ok result =>
                    rw [hkept] at hadd
                    exact hadd.elim
            | ok result =>
                rw [hunion] at hadd
                cases hkept : addUnseen P found' (answer.2.filter keep) with
                | error e' =>
                    rw [hkept] at hadd
                    exact hadd.elim
                | ok result' =>
                    rw [hkept] at hadd
                    simp only [run_orRaise_ok]
                    exact ih hadd
          · simp only [if_neg hstatus]
            exact ih hfound

/-- The keys of the kept items, when the others have one. -/
theorem keyed_only {key : Json → Except PyExc Int}
    (hleft : ∀ item ∈ items, keep item = false → ∃ k, key item = .ok k) :
    ((items.filter keep).mapM fun item => do return (← key item, item) :
        Except PyExc (List (Int × Json)))
      = (items.mapM fun item => do return (← key item, item) :
          Except PyExc (List (Int × Json))).map fun keyed => keyed.filter fun pair =>
            keep pair.2 := by
  induction items with
  | nil => rfl
  | cons item items ih =>
      have hrest := ih fun i hi => hleft i (List.mem_cons_of_mem item hi)
      cases hkeep : keep item with
      | true =>
          rw [List.filter_cons_of_pos hkeep, List.mapM_cons, List.mapM_cons, hrest]
          cases key item with
          | error e => rfl
          | ok k =>
              cases (items.mapM fun item => do return (← key item, item) :
                  Except PyExc (List (Int × Json))) with
              | error e => rfl
              | ok keyed =>
                  show Except.ok ((k, item) :: _) = Except.ok (List.filter _ ((k, item) :: keyed))
                  rw [List.filter_cons_of_pos (by simpa using hkeep)]
      | false =>
          obtain ⟨k, hk⟩ := hleft item List.mem_cons_self hkeep
          have hne : ¬ keep item = true := by simp [hkeep]
          rw [List.filter_cons_of_neg hne, List.mapM_cons, hrest, hk]
          cases (items.mapM fun item => do return (← key item, item) :
              Except PyExc (List (Int × Json))) with
          | error e => rfl
          | ok keyed =>
              show _ = Except.ok (List.filter _ ((k, item) :: keyed))
              rw [List.filter_cons_of_neg (by simpa using hkeep)]
              rfl

theorem sortQueue_only
    (hleft : ∀ item ∈ items, keep item = false → ∃ n, storedAt P item = .ok n) :
    sortQueue P (items.filter keep) = (sortQueue P items).map (·.filter keep) := by
  unfold sortQueue
  rw [keyed_only hleft]
  cases (items.mapM fun item => do return (← storedAt P item, item) :
      Except PyExc (List (Int × Json))) with
  | error e => rfl
  | ok keyed =>
      show Except.ok _ = Except.ok _
      rw [← filter_orderBy]
      dsimp only
      rw [List.filter_map]
      rfl

end Lists

/-! ### The queue -/

/-- An added item under a tag that the fetch queues: it has a ciphertext text, none that a kept
item has too, and a number for its arrival. -/
structure Queued (P : Packages) (polls : Polls) (keep : Json → Bool) (tag : String)
    (item : Json) : Prop where
  text : ∃ text, itemCiphertext P item = .ok text
    ∧ ∀ item', polls.Answers tag item' → keep item' = true → itemCiphertext P item' ≠ .ok text
  storedAt : ∃ n, storedAt P item = .ok n

section Queue

variable {polls : Polls} {keep : Json → Bool} {bases hints : List String} {tag : String}

theorem polledItems_only
    (hqueued : ∀ item, polls.Answers tag item → keep item = false →
      Queued P polls keep tag item) :
    polledItems P (polls.only keep) tag bases hints
      = (polledItems P polls tag bases hints).map (·.filter keep) := by
  let texts : String → Prop := fun text =>
    ∃ item, polls.Answers tag item ∧ keep item = true ∧ itemCiphertext P item = .ok text
  have hnothing : FoundAlike keep texts (.ok ([], [])) (.ok ([], [])) := ⟨rfl, fun _ _ => Iff.rfl⟩
  have hparts : ∀ base status answer, polls.relay tag base = .ok (status, answer) →
      Parts P keep texts answer := by
    intro base status answer hanswer
    refine ⟨fun item hitem hkeep text htext => ?_, fun item hitem hkeep => ?_⟩
    · exact ⟨item, Or.inr ⟨base, status, answer, hanswer, hitem⟩, hkeep, htext⟩
    · have hanswers : polls.Answers tag item := Or.inr ⟨base, status, answer, hanswer, hitem⟩
      obtain ⟨text, htext, hnot⟩ := (hqueued item hanswers hkeep).text
      refine ⟨text, htext, fun h => ?_⟩
      obtain ⟨item', hanswers', hkeep', htext'⟩ := h
      exact hnot item' hanswers' hkeep' htext'
  have hrelay := fetchRelayBlobs_only keep (polls.relay tag) bases hparts hnothing
  have hdirect := fetchDirectBlobs_only keep (polls.direct tag) hints
  unfold polledItems
  show (outcome ((fetchDirectBlobs (fun hint => orRaise ((polls.direct tag hint).map fun answer =>
      (answer.1, answer.2.filter keep))) hints).run ()) >>= _) = _
  rw [hdirect]
  cases outcome ((fetchDirectBlobs (fun hint => orRaise (polls.direct tag hint)) hints).run ())
    with
  | error e => rfl
  | ok direct =>
      show (outcome ((fetchRelayBlobs P (fun base => orRaise ((polls.relay tag base).map
        fun answer => (answer.1, answer.2.filter keep))) ([], []) bases).run ()) >>= _) = _
      rw [hrelay]
      dsimp only [bind, Except.bind]
      cases outcome ((fetchRelayBlobs P (fun base => orRaise (polls.relay tag base)) ([], [])
          bases).run ()) with
      | error e => rfl
      | ok relayed =>
          show Except.ok _ = Except.ok _
          dsimp only
          rw [List.filter_append]

/-- The queue without the added items is the queue of the answers without them. -/
theorem queueOf_only
    (hqueued : ∀ item, polls.Answers tag item → keep item = false →
      Queued P polls keep tag item) :
    queueOf P (polls.only keep) tag bases hints
      = (queueOf P polls tag bases hints).map (·.filter keep) := by
  let texts : String → Prop := fun text =>
    ∃ item, polls.Answers tag item ∧ keep item = true ∧ itemCiphertext P item = .ok text
  unfold queueOf
  rw [polledItems_only hqueued]
  cases hcollect : polledItems P polls tag bases hints with
  | error e => rfl
  | ok items =>
      have hparts : Parts P keep texts items := by
        refine ⟨fun item hitem hkeep text htext => ?_, fun item hitem hkeep => ?_⟩
        · exact ⟨item, polledItems_answers hcollect hitem, hkeep, htext⟩
        · obtain ⟨text, htext, hnot⟩ := (hqueued item (polledItems_answers hcollect hitem) hkeep).text
          refine ⟨text, htext, fun h => ?_⟩
          obtain ⟨item', hanswers', hkeep', htext'⟩ := h
          exact hnot item' hanswers' hkeep' htext'
      have hnothing : FoundAlike keep texts (.ok ([], [])) (.ok ([], [])) :=
        ⟨rfl, fun _ _ => Iff.rfl⟩
      have hadd := addUnseen_only hparts hnothing
      show (addUnseen P ([], []) (items.filter keep) >>= _)
        = ((addUnseen P ([], []) items >>= _) : Except PyExc (List Json)).map _
      cases hunion : addUnseen P ([], []) items with
      | error e =>
          rw [hunion] at hadd
          cases hkept : addUnseen P ([], []) (items.filter keep) with
          | error e' =>
              rw [hkept] at hadd
              exact congrArg Except.error hadd.symm
          | ok found =>
              rw [hkept] at hadd
              exact hadd.elim
      | ok found =>
          rw [hunion] at hadd
          cases hkept : addUnseen P ([], []) (items.filter keep) with
          | error e' =>
              rw [hkept] at hadd
              exact hadd.elim
          | ok found' =>
              rw [hkept] at hadd
              show sortQueue P found'.1 = (sortQueue P found.1).map _
              rw [hadd.1]
              refine sortQueue_only fun item hitem hkeep => ?_
              have hmem := (addUnseen_mem hunion hitem).resolve_left List.not_mem_nil
              exact (hqueued item (polledItems_answers hcollect hmem) hkeep).storedAt

end Queue

/-! ### Attempts at added items -/

/-- The payload of the item does not authenticate in this state. -/
def Forged (P : Packages) (attempt : Attempt) (f : Fetching) (item : Json) : Prop :=
  ∀ outer r, OuterBlob.fromRelayJson P item = .ok outer → f.contact.ratchet = some r →
    ∃ e r', (RatchetState.decrypt P attempt.generated outer.ciphertext).run r = .error e r'

/-- The item has the fields of a blob, and its header makes the ratchet neither store nor clear a
skipped key (and no key of the ratchet is an empty byte string). -/
def PassesBy (P : Packages) (attempt : Attempt) (f : Fetching) (item : Json) : Prop :=
  ∃ outer r, OuterBlob.fromRelayJson P item = .ok outer ∧ f.contact.ratchet = some r
    ∧ (RatchetState.WellFormed outer.ciphertext →
      r.KeysNonempty
        ∧ RatchetState.attemptedKeys P r attempt.generated
            (RatchetState.headerPublic outer.ciphertext)
            (RatchetState.messageNumber outer.ciphertext) = r.skippedKeys)

/-- What a failed `decrypt` leaves is the same state, the order of the skipped keys included. -/
theorem RatchetState.failedDecrypt_eq_iff {s s' : RatchetState} {g : PrivateKey}
    {payload : Bytes} {e : PyExc} (h : (decrypt P g payload).run s = .error e s') :
    s' = s ↔ (WellFormed payload → s.KeysNonempty
      ∧ attemptedKeys P s g (headerPublic payload) (messageNumber payload) = s.skippedKeys) := by
  by_cases hw : WellFormed payload
  · have hattempt := openPayload_skipped (P := P) s (headerPublic payload) (payload.drop 45)
      (Bytes.toNatBE ((payload.drop 37).take 4)) (messageNumber payload) g
    rw [decrypt_run hw, openParsed] at h
    cases hopen : (openPayload P (headerPublic payload) (Bytes.toNatBE ((payload.drop 37).take 4))
        (messageNumber payload) (payload.drop 45) g).run s with
    | ok plaintext t =>
        rw [hopen] at h
        cases h
    | error e' t =>
        rw [hopen] at h hattempt
        cases h
        have hskipped : t.skippedKeys
            = attemptedKeys P s g (headerPublic payload) (messageNumber payload) := hattempt
        rw [← hskipped]
        constructor
        · intro hsame _
          have hstate : s.rolledBack t.skippedKeys = s := hsame
          have hkeys : (s.rolledBack t.skippedKeys).skippedKeys = s.skippedKeys := by rw [hstate]
          have hfields : ({ s.rolledBack t.skippedKeys with skippedKeys := [] } : RatchetState)
              = { s with skippedKeys := [] } := by rw [hstate]
          exact ⟨rolledBack_fields_iff.mp hfields, hkeys⟩
        · intro hkeeps
          obtain ⟨hnonempty, hkeys⟩ := hkeeps hw
          have hfields : ({ s.rolledBack t.skippedKeys with skippedKeys := [] } : RatchetState)
              = { s with skippedKeys := [] } := rolledBack_fields_iff.mpr hnonempty
          have hrestored : s.rolledBack t.skippedKeys
              = { ({ s.rolledBack t.skippedKeys with skippedKeys := [] } : RatchetState) with
                  skippedKeys := t.skippedKeys } := rfl
          rw [hrestored, hfields, hkeys]
  · obtain ⟨e', hrun⟩ := decrypt_malformed (P := P) hw g s
    rw [hrun] at h
    cases h
    exact ⟨fun _ hparsed => absurd hparsed hw, fun _ => rfl⟩

section Attempt

variable {send : Sender} {polls : Polls} {identity : Identity} {contactName : String}
  {route : Option String} {quiet : Bool} {tag round : Nat} {item : Json} {f : Fetching}

/-- An attempt that the ratchet refuses leaves the ratchet's state of that refusal, and the item
is put off or dropped. -/
theorem handleItem_refused {outer : OuterBlob} {r r' : RatchetState} {e : PyExc}
    (houter : OuterBlob.fromRelayJson P item = .ok outer) (hr : f.contact.ratchet = some r)
    (hrun : (RatchetState.decrypt P (polls.attempt tag round item).generated outer.ciphertext).run r
      = .error e r') :
    ∃ verdict, verdict ≠ .done
      ∧ (handleItem P send polls identity contactName route quiet tag round item).run f
        = .ok verdict { f with contact := { f.contact with ratchet := some r' } } := by
  have hinbound : (decryptInbound P (polls.attempt tag round item).generated
      (polls.attempt tag round item).now outer).run f.contact
      = .error (decryptFailure e) { f.contact with ratchet := some r' } := by
    rw [decryptInbound_run hr, decryptOuter_run hr, hrun]
  have hopen : (openBlob P (polls.attempt tag round item) outer).run f
      = .ok (.error (if (decryptFailure e).isDuplicateSeqError then .later else .drop))
          { f with contact := { f.contact with ratchet := some r' } } := by
    have hpart : (Fetching.onSession (decryptInbound P (polls.attempt tag round item).generated
        (polls.attempt tag round item).now outer)).run f
        = .error (decryptFailure e)
            { f with contact := { f.contact with ratchet := some r' } } :=
      run_onPart_error.mpr ⟨_, hinbound, rfl⟩
    have hyakr : (decryptFailure e).isYakrError = true := by
      unfold decryptFailure
      split
      · split <;> rfl
      · rfl
    rw [openBlob, run_tryCatch, run_map, hpart]
    cases hduplicate : (decryptFailure e).isDuplicateSeqError with
    | true =>
        simp only [hduplicate, if_true]
        rfl
    | false =>
        simp only [hduplicate, hyakr, Bool.false_eq_true, if_false, if_true]
        rfl
  refine ⟨if (decryptFailure e).isDuplicateSeqError then .later else .drop, ?_, ?_⟩
  · split
    · nofun
    · nofun
  · rw [handleItem, houter, EStateM.run_bind, run_orRaise_ok]
    dsimp only
    rw [EStateM.run_bind, hopen]
    rfl

/-- **Attempts at items that do not authenticate.** An attempt leaves the fetch as it was, and
puts the item off or drops it, exactly when the item passes by. -/
theorem passesBy_iff (hforged : Forged P (polls.attempt tag round item) f item) :
    (∃ verdict, verdict ≠ .done
        ∧ (handleItem P send polls identity contactName route quiet tag round item).run f
          = .ok verdict f)
      ↔ PassesBy P (polls.attempt tag round item) f item := by
  cases houter : OuterBlob.fromRelayJson P item with
  | error e =>
      constructor
      · intro h
        obtain ⟨verdict, -, hrun⟩ := h
        rw [handleItem, houter, EStateM.run_bind, run_orRaise_error] at hrun
        cases hrun
      · intro h
        obtain ⟨outer, r, houter', -⟩ := h
        rw [houter] at houter'
        cases houter'
  | ok outer =>
      cases hr : f.contact.ratchet with
      | none =>
          constructor
          · intro h
            obtain ⟨verdict, -, hrun⟩ := h
            have hinbound : (decryptInbound P (polls.attempt tag round item).generated
                (polls.attempt tag round item).now outer).run f.contact
                = .error (.attributeError "'NoneType' object has no attribute") f.contact := by
              rw [decryptInbound, EStateM.run_bind, ratchetDict_no_ratchet hr]
            have hpart : (Fetching.onSession (decryptInbound P
                (polls.attempt tag round item).generated (polls.attempt tag round item).now
                outer)).run f
                = .error (.attributeError "'NoneType' object has no attribute") f :=
              run_onPart_error.mpr ⟨_, hinbound, rfl⟩
            rw [handleItem, houter, EStateM.run_bind, run_orRaise_ok] at hrun
            dsimp only at hrun
            rw [EStateM.run_bind, openBlob, run_tryCatch, run_map, hpart] at hrun
            cases hrun
          · intro h
            obtain ⟨outer', r, -, hr', -⟩ := h
            rw [hr] at hr'
            cases hr'
      | some r =>
          obtain ⟨e, r', hdecrypt⟩ := hforged outer r houter hr
          obtain ⟨verdict, hverdict, hrun⟩ : ∃ verdict, verdict ≠ .done
              ∧ (handleItem P send polls identity contactName route quiet tag round item).run f
                = .ok verdict { f with contact := { f.contact with ratchet := some r' } } :=
            handleItem_refused houter hr hdecrypt
          have hsame := RatchetState.failedDecrypt_eq_iff hdecrypt
          constructor
          · intro h
            obtain ⟨verdict', -, hrun'⟩ := h
            rw [hrun] at hrun'
            have hstate : ({ f with contact := { f.contact with ratchet := some r' } } : Fetching)
                = f := (EStateM.Result.ok.inj hrun').2
            have hratchet : some r' = f.contact.ratchet :=
              congrArg (fun f : Fetching => f.contact.ratchet) hstate
            rw [hr] at hratchet
            exact ⟨outer, r, houter, hr, hsame.mp (Option.some.inj hratchet)⟩
          · intro h
            obtain ⟨outer', r₁, houter', hr', hkeys⟩ := h
            rw [houter] at houter'
            rw [hr] at hr'
            obtain rfl := Except.ok.inj houter'
            obtain rfl := Option.some.inj hr'
            obtain rfl := hsame.mpr hkeys
            refine ⟨verdict, hverdict, hrun.trans ?_⟩
            rw [← hr]

end Attempt

/-! ### The fetch -/

section Fetch

variable {send : Sender} {env : Settings} {polls : Polls} {keep : Json → Bool}
  {identity : Identity} {contactName : String} {route : Option String} {wide quiet : Bool}
  {bases hints : List String} {w : World}

/-- A drain whose attempts at added items all pass by is the drain of the other items. -/
theorem drainTags_only {tag : Nat} {tags : List MailboxTag} {f : Fetching}
    (hqueued : ∀ mailboxTag ∈ tags, ∀ item, polls.Answers mailboxTag.tagB64 item →
      keep item = false → Queued P polls keep mailboxTag.tagB64 item)
    (hpasses : ∀ tag' round item rest f',
      TagTries P send polls identity contactName route quiet bases hints tag tags f tag' round item
        rest f' → keep item = false →
      ∃ verdict, verdict ≠ .done
        ∧ (handleItem P send polls identity contactName route quiet tag' round item).run f'
          = .ok verdict f') :
    (drainTags P send polls identity contactName route quiet bases hints tag tags).run f
      = (drainTags P send (polls.only keep) identity contactName route quiet bases hints tag
          tags).run f := by
  induction tags generalizing tag f with
  | nil => rfl
  | cons mailboxTag tags ih =>
      rw [run_drainTags_cons, run_drainTags_cons,
        queueOf_only (hqueued mailboxTag List.mem_cons_self)]
      cases hqueue : queueOf P polls mailboxTag.tagB64 bases hints with
      | error e => rfl
      | ok queue =>
          have hwork : (work (handleItem P send polls identity contactName route quiet tag)
                queue).run f
              = (work (handleItem P send (polls.only keep) identity contactName route quiet tag)
                  (queue.filter keep)).run f := by
            refine (work_matches (R := Eq) ?_ ?_ rfl).eq
            · rintro k i rest s' t' _ _ rfl
              exact .refl _
            · rintro k i rest s' t' htries hkeep rfl
              obtain ⟨verdict, hverdict, hrun⟩ := hpasses tag k i rest s' (.here hqueue htries) hkeep
              exact ⟨verdict, s', hverdict, hrun, rfl⟩
          dsimp only [Except.map]
          rw [← hwork]
          cases hrun : (work (handleItem P send polls identity contactName route quiet tag)
              queue).run f with
          | error e f' => rfl
          | ok u f' =>
              refine ih (fun mailboxTag' hmem => hqueued mailboxTag' (List.mem_cons_of_mem _ hmem))
                fun tag' round item rest f'' htries => ?_
              exact hpasses tag' round item rest f'' (.later hqueue hrun htries)

theorem fetchWith_only
    (hqueued : ∀ tag item, polls.Answers tag item → keep item = false →
      Queued P polls keep tag item)
    (hpasses : ∀ tag round item rest f,
      FetchTries P send env polls identity contactName route wide quiet w tag round item rest f →
      keep item = false →
      ∃ verdict, verdict ≠ .done
        ∧ (handleItem P send polls identity contactName route quiet tag round item).run f
          = .ok verdict f) :
    (fetchWith P send env polls identity contactName route wide quiet).run w
      = (fetchWith P send env (polls.only keep) identity contactName route wide quiet).run w := by
  cases hcontact : w.store.getContact P contactName with
  | error e =>
      rw [fetchWith, fetchWith, run_get_bind, run_get_bind, hcontact]
      rfl
  | ok found =>
      cases found with
      | none =>
          rw [fetchWith, fetchWith, run_get_bind, run_get_bind, hcontact]
          rfl
      | some contact =>
          have hsame : openFetch P send env (polls.only keep) identity contactName route wide quiet
              contact = openFetch P send env polls identity contactName route wide quiet contact :=
            rfl
          cases hopen : (openFetch P send env polls identity contactName route wide quiet
              contact).run w with
          | error e w' =>
              rw [fetchWith, fetchWith, run_get_bind, run_get_bind, hcontact, EStateM.run_bind,
                EStateM.run_bind, run_orRaise_ok]
              dsimp only
              rw [EStateM.run_bind, EStateM.run_bind, hsame, hopen]
          | ok plan w' =>
              rw [run_fetchWith hcontact hopen, run_fetchWith hcontact (hsame ▸ hopen)]
              have hdrain : (drainTags P send polls identity contactName route quiet plan.bases
                    plan.hints 0 plan.tags).run { world := w', contact }
                  = (drainTags P send (polls.only keep) identity contactName route quiet plan.bases
                      plan.hints 0 plan.tags).run { world := w', contact } :=
                drainTags_only (fun mailboxTag _ item => hqueued mailboxTag.tagB64 item)
                  fun tag round item rest f htries =>
                    hpasses tag round item rest f (.intro hcontact hopen htries)
              rw [hdrain]

end Fetch

namespace JunkSample

def owner : Identity :=
  { name := "alice"
    signingPrivate := BytesN.fill 32 1
    agreementPrivate := BytesN.fill 32 2 }

def bob : Contact :=
  { name := "bob"
    signingPublic := [1]
    agreementPublic := [2]
    masterSecret := List.replicate 32 5
    conversationId := "pairwise_alice_bob"
    ratchet := some (RatchetState.fromMaster plainPackages (List.replicate 32 5) false false
      (BytesN.fill 32 3)) }

def world : World := { store := { contacts := [bob.toDict plainPackages] } }

def outside : Outside :=
  { env := { relayUrl := some "https://relay" }
    profileAnswer := fun _ _ => .ok (404, .null)
    postAnswer := fun _ _ => (true, .ok 201)
    draws := fun _ =>
      { now := 0
        ratchetPrivate := BytesN.fill 32 4
        nonce := BytesN.fill 24 6 } }

/-- A relay that returns these items under every tag. -/
def polls (items : List Json) : Polls :=
  { now := 0
    direct := fun _ _ => .ok (404, [])
    relay := fun _ _ => .ok (200, items)
    attempt := fun _ _ _ =>
      { generated := BytesN.fill 32 4
        now := 0
        nonce := BytesN.fill 24 6
        synced := .ok () }
    console := fun _ => .ok () }

/-- An item with the fields of a blob and three bytes of noise. -/
def noise : Json :=
  .obj [("mailbox_tag", .str ""), ("expires_at", .int 0), ("ciphertext", .str "AAAA")]

/-- An item with no fields at all. -/
def bare : Json := .obj []

/-- The fetch with these items. -/
def fetched (polls : Polls) : EStateM.Result PyExc World Nat :=
  (fetchContactInbound plainPackages outside polls owner "bob" none false true).run world

theorem answers_noise {tag : String} {item : Json} (h : (polls [noise]).Answers tag item) :
    item = noise := by
  rcases h with ⟨hint, status, items, hanswer, hitem⟩ | ⟨base, status, items, hanswer, hitem⟩
  · cases hanswer
    cases hitem
  · cases hanswer
    exact List.mem_singleton.mp hitem

theorem fromRelayJson_noise : OuterBlob.fromRelayJson plainPackages noise
    = .ok { version := 1, mailboxTag := [], expiresAt := 0, ciphertext := [0, 0, 0] } := by
  decide +kernel

theorem not_wellFormed : ¬ RatchetState.WellFormed [0, 0, 0] := fun h => absurd h.1 (by decide)

/-- Noise is never opened. -/
theorem forged_noise (attempt : Attempt) (f : Fetching) : Forged plainPackages attempt f noise := by
  intro outer r houter hr
  obtain rfl := Except.ok.inj (fromRelayJson_noise.symm.trans houter)
  obtain ⟨e, hrun⟩ := RatchetState.decrypt_malformed (P := plainPackages) not_wellFormed
    attempt.generated r
  exact ⟨e, r, hrun⟩

/-- Noise passes by any ratchet. -/
theorem passesBy_noise (attempt : Attempt) {f : Fetching} (h : f.contact.ratchet.isSome = true) :
    PassesBy plainPackages attempt f noise := by
  obtain ⟨r, hr⟩ := Option.isSome_iff_exists.mp h
  exact ⟨_, r, fromRelayJson_noise, hr, fun hw => absurd hw not_wellFormed⟩

end JunkSample

end Yakr
