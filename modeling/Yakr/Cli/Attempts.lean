import Yakr.Cli.Fetch

/-!
# Yakr.Cli.Attempts

**The attempts of a fetch.** A fetch is a run of attempts: an item of a tag's queue is tried, in
some round, in the state that the attempts before it have left. `FetchTries` says which attempts a
fetch makes, so that a condition on a fetch can speak of the state before each of them.
-/

namespace Yakr

open Lib Effect Worklist

variable (P : Packages) (send : Sender) (env : Settings) (polls : Polls) (identity : Identity)
  (contactName : String) (route : Option String) (wide quiet : Bool) (bases hints : List String)

/-- In the drain of some tags an item is tried: the tag, the round, the item, the items after it
in the pass, and the state. -/
inductive TagTries : (tag : Nat) → List MailboxTag → Fetching → (tag' round : Nat) → Json →
    List Json → Fetching → Prop
  | here {tag round : Nat} {mailboxTag : MailboxTag} {tags : List MailboxTag} {f f' : Fetching}
      {queue rest : List Json} {item : Json}
      (hqueue : queueOf P polls mailboxTag.tagB64 bases hints = .ok queue)
      (h : Tries (handleItem P send polls identity contactName route quiet tag) 0 queue f round
        item rest f') :
      TagTries tag (mailboxTag :: tags) f tag round item rest f'
  | later {tag tag' round : Nat} {mailboxTag : MailboxTag} {tags : List MailboxTag}
      {f f' f'' : Fetching} {queue rest : List Json} {item : Json}
      (hqueue : queueOf P polls mailboxTag.tagB64 bases hints = .ok queue)
      (hwork : (work (handleItem P send polls identity contactName route quiet tag) queue).run f
        = .ok () f')
      (h : TagTries (tag + 1) tags f' tag' round item rest f'') :
      TagTries tag (mailboxTag :: tags) f tag' round item rest f''

/-- In a fetch from the device `w` an item is tried. -/
inductive FetchTries (w : World) : (tag round : Nat) → Json → List Json → Fetching → Prop
  | intro {contact : Contact} {plan : Plan} {w' : World} {tag round : Nat} {item : Json}
      {rest : List Json} {f : Fetching}
      (hcontact : w.store.getContact P contactName = .ok (some contact))
      (hopen : (openFetch P send env polls identity contactName route wide quiet contact).run w
        = .ok plan w')
      (h : TagTries P send polls identity contactName route quiet plan.bases plan.hints 0 plan.tags
        { world := w', contact } tag round item rest f) :
      FetchTries w tag round item rest f

/-- An answer of a direct hint or a relay under a tag has the item. -/
def Polls.Answers (polls : Polls) (tag : String) (item : Json) : Prop :=
  (∃ hint status items, polls.direct tag hint = .ok (status, items) ∧ item ∈ items)
    ∨ ∃ base status items, polls.relay tag base = .ok (status, items) ∧ item ∈ items

section Collect

variable {P polls bases hints} {tag : String} {item : Json} {items : List Json}

theorem fetchDirectBlobs_answers {get : String → Except PyExc (Int × List Json)}
    {hints : List String}
    (h : (fetchDirectBlobs (fun hint => orRaise (get hint)) hints).run () = .ok items ())
    (hitem : item ∈ items) :
    ∃ hint status answer, get hint = .ok (status, answer) ∧ item ∈ answer := by
  induction hints with
  | nil =>
      cases h
      cases hitem
  | cons hint hints ih =>
      unfold fetchDirectBlobs at h
      rw [EStateM.run_bind, attempt_run] at h
      cases hget : get (rstripSlash hint) with
      | error e =>
          rw [hget, run_orRaise_error] at h
          dsimp only at h
          split at h
          · rename_i heq
            split at heq
            · cases heq
              exact ih h
            · cases heq
          · cases h
      | ok answer =>
          obtain ⟨status, found⟩ := answer
          rw [hget, run_orRaise_ok] at h
          dsimp only at h
          split at h
          · cases h
            exact ⟨_, status, _, hget, hitem⟩
          · exact ih h

theorem addUnseen_mem {found result : List Json × List String} {items : List Json}
    (h : addUnseen P found items = .ok result) (hitem : item ∈ result.1) :
    item ∈ found.1 ∨ item ∈ items := by
  induction items generalizing found with
  | nil =>
      cases h
      exact Or.inl hitem
  | cons i items ih =>
      rw [addUnseen] at h
      obtain ⟨ciphertext, -, hrest⟩ := bind_ok.mp h
      split at hrest
      · exact (ih hrest).imp_right fun hi => List.mem_cons_of_mem i hi
      · rcases ih hrest with hfound | hitems
        · rcases List.mem_append.mp hfound with hfound | hnew
          · exact Or.inl hfound
          · exact Or.inr (List.mem_singleton.mp hnew ▸ List.mem_cons_self)
        · exact Or.inr (List.mem_cons_of_mem i hitems)

theorem fetchRelayBlobs_answers {fetch : String → Except PyExc (Int × List Json)}
    {found : List Json × List String} {bases : List String}
    (h : (fetchRelayBlobs P (fun base => orRaise (fetch base)) found bases).run () = .ok items ())
    (hitem : item ∈ items) :
    item ∈ found.1 ∨ ∃ base status answer, fetch base = .ok (status, answer) ∧ item ∈ answer := by
  induction bases generalizing found with
  | nil =>
      cases h
      exact Or.inl hitem
  | cons base bases ih =>
      unfold fetchRelayBlobs at h
      rw [EStateM.run_bind, attempt_run] at h
      cases hfetch : fetch (rstripSlash base) with
      | error e =>
          rw [hfetch, run_orRaise_error] at h
          dsimp only at h
          split at h
          · rename_i heq
            split at heq
            · cases heq
              exact ih h
            · cases heq
          · cases h
      | ok answer =>
          obtain ⟨status, answered⟩ := answer
          rw [hfetch, run_orRaise_ok] at h
          dsimp only at h
          split at h
          · obtain ⟨found', hadd, hrest⟩ := run_orRaise_bind_ok.mp h
            rcases ih hrest with hfound | hlater
            · rcases addUnseen_mem hadd hfound with hfound | hanswered
              · exact Or.inl hfound
              · exact Or.inr ⟨_, status, answered, hfetch, hanswered⟩
            · exact Or.inr hlater
          · exact ih h

theorem polledItems_answers (h : polledItems P polls tag bases hints = .ok items)
    (hitem : item ∈ items) :
    polls.Answers tag item := by
  unfold polledItems at h
  obtain ⟨direct, hdirect, h⟩ := bind_ok.mp h
  obtain ⟨relayed, hrelayed, h⟩ := bind_ok.mp h
  obtain rfl := Except.ok.inj h
  obtain ⟨⟨⟩, hdirect⟩ := outcome_eq_ok.mp hdirect
  obtain ⟨⟨⟩, hrelayed⟩ := outcome_eq_ok.mp hrelayed
  rcases List.mem_append.mp hitem with hitem | hitem
  · exact Or.inl (fetchDirectBlobs_answers hdirect hitem)
  · exact Or.inr ((fetchRelayBlobs_answers hrelayed hitem).resolve_left List.not_mem_nil)

theorem mapM_keyed_mem {κ : Type} {key : Json → Except PyExc κ} {items : List Json}
    {keyed : List (κ × Json)}
    (h : (items.mapM fun item => do return (← key item, item)) = .ok keyed) :
    keyed.map Prod.snd = items := by
  induction items generalizing keyed with
  | nil =>
      cases h
      rfl
  | cons i items ih =>
      rw [List.mapM_cons] at h
      obtain ⟨pair, hpair, h⟩ := bind_ok.mp h
      obtain ⟨k, -, hk⟩ := bind_ok.mp hpair
      obtain ⟨rest, hrest, h⟩ := bind_ok.mp h
      cases hk
      cases h
      rw [List.map_cons, ih hrest]

/-- What is queued was answered. -/
theorem queueOf_answers (h : queueOf P polls tag bases hints = .ok items) (hitem : item ∈ items) :
    polls.Answers tag item := by
  unfold queueOf at h
  obtain ⟨collected, hcollect, h⟩ := bind_ok.mp h
  obtain ⟨unseen, hunseen, h⟩ := bind_ok.mp h
  unfold sortQueue at h
  obtain ⟨keyed, hkeyed, h⟩ := bind_ok.mp h
  obtain rfl := Except.ok.inj h
  have hmem : item ∈ unseen.1 := by
    rw [← mapM_keyed_mem hkeyed]
    obtain ⟨pair, hpair, rfl⟩ := List.mem_map.mp hitem
    exact List.mem_map_of_mem ((orderBy_perm _ _).mem_iff.mp hpair)
  exact polledItems_answers hcollect ((addUnseen_mem hunseen hmem).resolve_left List.not_mem_nil)

end Collect

section Tags

variable {P send env polls identity contactName route wide quiet bases hints}
  {tag tag' round : Nat} {tags : List MailboxTag} {f f' : Fetching} {item : Json}
  {rest : List Json} {w : World}

theorem run_drainTags_cons {mailboxTag : MailboxTag} :
    (drainTags P send polls identity contactName route quiet bases hints tag
        (mailboxTag :: tags)).run f =
      match queueOf P polls mailboxTag.tagB64 bases hints with
      | .error e => .error e f
      | .ok queue =>
          match (work (handleItem P send polls identity contactName route quiet tag) queue).run f
          with
          | .error e f' => .error e f'
          | .ok () f' =>
              (drainTags P send polls identity contactName route quiet bases hints (tag + 1)
                tags).run f' := by
  rw [drainTags, EStateM.run_bind]
  cases queueOf P polls mailboxTag.tagB64 bases hints with
  | error e => rfl
  | ok queue =>
      simp only [run_orRaise_ok, EStateM.run_bind]
      cases (work (handleItem P send polls identity contactName route quiet tag) queue).run f with
      | error e f' => rfl
      | ok u f' => rfl

/-- The items tried are among the answers under some tag. -/
theorem TagTries.answers
    (h : TagTries P send polls identity contactName route quiet bases hints tag tags f tag' round
      item rest f') : ∃ mailboxTag ∈ tags, polls.Answers mailboxTag.tagB64 item := by
  induction h with
  | here hqueue h => exact ⟨_, List.mem_cons_self, queueOf_answers hqueue h.mem⟩
  | later _ _ _ ih =>
      obtain ⟨mailboxTag, hmem, hanswers⟩ := ih
      exact ⟨mailboxTag, List.mem_cons_of_mem _ hmem, hanswers⟩

/-- An attempt that returns is followed by one at the next item. -/
theorem TagTries.following {verdict : Verdict} {item' : Json} {f'' : Fetching}
    (h : TagTries P send polls identity contactName route quiet bases hints tag tags f tag' round
      item (item' :: rest) f')
    (hrun : (handleItem P send polls identity contactName route quiet tag' round item).run f'
      = .ok verdict f'') :
    TagTries P send polls identity contactName route quiet bases hints tag tags f tag' round item'
      rest f'' := by
  generalize hrest : item' :: rest = rest' at h
  induction h with
  | here hqueue h =>
      subst hrest
      exact .here hqueue (h.following hrun)
  | later hqueue hwork _ ih => exact .later hqueue hwork (ih hrun hrest)

/-- An attempt that raises ends the drain. -/
theorem TagTries.raises {e : PyExc}
    (h : TagTries P send polls identity contactName route quiet bases hints tag tags f tag' round
      item rest f')
    {f'' : Fetching}
    (hrun : (handleItem P send polls identity contactName route quiet tag' round item).run f'
      = .error e f'') :
    (drainTags P send polls identity contactName route quiet bases hints tag tags).run f
      = .error e f'' := by
  induction h with
  | here hqueue h =>
      rw [run_drainTags_cons, hqueue]
      dsimp only
      rw [work, h.raises (Nat.le_refl _) hrun]
  | later hqueue hwork _ ih =>
      rw [run_drainTags_cons, hqueue]
      dsimp only
      rw [hwork]
      exact ih hrun

/-- What every item of the answers keeps when it returns holds at every attempt. -/
theorem TagTries.invariant {I : Fetching → Prop}
    (h : TagTries P send polls identity contactName route quiet bases hints tag tags f tag' round
      item rest f')
    (hkeeps : ∀ tag round mailboxTag item f verdict f', polls.Answers mailboxTag item → I f →
      (handleItem P send polls identity contactName route quiet tag round item).run f
        = .ok verdict f' → I f')
    (hI : I f) : I f' := by
  induction h with
  | here hqueue h =>
      refine h.invariant (fun round item hitem s verdict s' hs hrun => ?_) hI
      exact hkeeps _ round _ item s verdict s' (queueOf_answers hqueue hitem) hs hrun
  | @later tag tag' round mailboxTag tags f f' f'' queue rest item hqueue hwork _ ih =>
      refine ih ?_
      exact work_invariant hwork (fun round item hitem s verdict s' hs hrun =>
        hkeeps _ round _ item s verdict s' (queueOf_answers hqueue hitem) hs hrun) hI

section Steps

variable {S : Fetching → Fetching → Prop}

theorem steps_drainTags
    (hsteps : ∀ tag round item,
      Steps S (handleItem P send polls identity contactName route quiet tag round item))
    (tag : Nat) (tags : List MailboxTag) :
    Steps S (drainTags P send polls identity contactName route quiet bases hints tag tags) := by
  induction tags generalizing tag with
  | nil => exact .pure ()
  | cons mailboxTag tags ih =>
      rw [drainTags]
      refine (Steps.orRaise _).bind fun queue => ?_
      exact (steps_work fun round item _ => hsteps tag round item).bind fun _ => ih (tag + 1)

/-- The drain goes on from an attempt with what every item keeps. -/
theorem TagTries.steps
    (hsteps : ∀ tag round item,
      Steps S (handleItem P send polls identity contactName route quiet tag round item))
    (h : TagTries P send polls identity contactName route quiet bases hints tag tags f tag' round
      item rest f') :
    Relation.ReflTransGen S
      (after ((handleItem P send polls identity contactName route quiet tag' round item).run f'))
      (after ((drainTags P send polls identity contactName route quiet bases hints tag tags).run
        f)) := by
  induction h with
  | @here tag round mailboxTag tags f f' queue rest item hqueue h =>
      have hwork := h.steps (Nat.le_refl _) (hsteps tag)
      rw [run_drainTags_cons, hqueue]
      dsimp only
      cases hrun : (work (handleItem P send polls identity contactName route quiet tag) queue).run f
        with
      | error e t =>
          rw [work] at hrun
          rw [hrun] at hwork
          exact hwork
      | ok u t =>
          rw [work] at hrun
          rw [hrun] at hwork
          exact hwork.trans (steps_drainTags hsteps (tag + 1) tags t)
  | later hqueue hwork _ ih =>
      rw [run_drainTags_cons, hqueue]
      dsimp only
      rw [hwork]
      exact ih

end Steps

end Tags

/-! ### A whole fetch -/

section Fetch

variable {P send env polls identity contactName route wide quiet} {w : World} {tag round : Nat}
  {item : Json} {rest : List Json} {f : Fetching}

/-- A fetch with a contact that was loaded and a plan that was made. -/
theorem run_fetchWith {contact : Contact} {plan : Plan} {w' : World}
    (hcontact : w.store.getContact P contactName = .ok (some contact))
    (hopen : (openFetch P send env polls identity contactName route wide quiet contact).run w
      = .ok plan w') :
    (fetchWith P send env polls identity contactName route wide quiet).run w =
      match (drainTags P send polls identity contactName route quiet plan.bases plan.hints 0
          plan.tags).run { world := w', contact } with
      | .ok () f => .ok f.fetched f.world
      | .error e f => .error e f.world := by
  have hloaded : (fetchWith P send env polls identity contactName route wide quiet).run w
      = (drainPlan P send polls identity contactName route quiet contact plan).run w' := by
    rw [fetchWith, run_get_bind, hcontact, EStateM.run_bind, run_orRaise_ok]
    dsimp only
    rw [EStateM.run_bind, hopen]
  exact hloaded

/-- From an attempt on, the fetch ends with what every item keeps. -/
theorem FetchTries.steps {S : Fetching → Fetching → Prop}
    (hsteps : ∀ tag round item,
      Steps S (handleItem P send polls identity contactName route quiet tag round item))
    (h : FetchTries P send env polls identity contactName route wide quiet w tag round item rest
      f) :
    ∃ f',
      Relation.ReflTransGen S
        (after ((handleItem P send polls identity contactName route quiet tag round item).run f)) f'
      ∧ after ((fetchWith P send env polls identity contactName route wide quiet).run w)
        = f'.world := by
  cases h with
  | @intro contact plan w' _ _ _ _ _ hcontact hopen h =>
      refine ⟨_, h.steps hsteps, ?_⟩
      rw [run_fetchWith hcontact hopen]
      cases (drainTags P send polls identity contactName route quiet plan.bases plan.hints 0
          plan.tags).run { world := w', contact } with
      | ok u f' => rfl
      | error e f' => rfl

/-- An attempt that raises ends the fetch. -/
theorem FetchTries.raises {e : PyExc} {f' : Fetching}
    (h : FetchTries P send env polls identity contactName route wide quiet w tag round item rest f)
    (hrun : (handleItem P send polls identity contactName route quiet tag round item).run f
      = .error e f') :
    (fetchWith P send env polls identity contactName route wide quiet).run w
      = .error e f'.world := by
  cases h with
  | intro hcontact hopen h => rw [run_fetchWith hcontact hopen, h.raises hrun]

/-- The items tried are among the answers. -/
theorem FetchTries.answers
    (h : FetchTries P send env polls identity contactName route wide quiet w tag round item rest
      f) : ∃ mailboxTag, polls.Answers mailboxTag item := by
  cases h with
  | intro _ _ h =>
      obtain ⟨mailboxTag, -, hanswers⟩ := h.answers
      exact ⟨mailboxTag.tagB64, hanswers⟩

/-- A contact object that a fetch works on has a ratchet. -/
theorem openFetch_ratchet {contact : Contact} {plan : Plan} {w' : World}
    (h : (openFetch P send env polls identity contactName route wide quiet contact).run w
      = .ok plan w') : contact.ratchet.isSome = true := by
  unfold openFetch at h
  obtain ⟨u, hsession, -⟩ := run_orRaise_bind_ok.mp h
  unfold openSession at hsession
  cases hr : contact.ratchet with
  | none =>
      rw [hr] at hsession
      cases hsession
  | some r => rfl

/-- What every item of the answers keeps when it returns holds at every attempt. -/
theorem FetchTries.invariant {I : Fetching → Prop}
    (h : FetchTries P send env polls identity contactName route wide quiet w tag round item rest f)
    (hkeeps : ∀ tag round mailboxTag item f verdict f', polls.Answers mailboxTag item → I f →
      (handleItem P send polls identity contactName route quiet tag round item).run f
        = .ok verdict f' → I f')
    (hI : ∀ contact plan w', w.store.getContact P contactName = .ok (some contact) →
      (openFetch P send env polls identity contactName route wide quiet contact).run w
        = .ok plan w' → I { world := w', contact }) : I f := by
  cases h with
  | intro hcontact hopen h => exact h.invariant hkeeps (hI _ _ _ hcontact hopen)

theorem FetchTries.following {verdict : Verdict} {item' : Json} {f' : Fetching}
    (h : FetchTries P send env polls identity contactName route wide quiet w tag round item
      (item' :: rest) f)
    (hrun : (handleItem P send polls identity contactName route quiet tag round item).run f
      = .ok verdict f') :
    FetchTries P send env polls identity contactName route wide quiet w tag round item' rest f' := by
  cases h with
  | intro hcontact hopen h => exact .intro hcontact hopen (h.following hrun)

end Fetch

end Yakr
