import Yakr.Cli.Acceptance

/-!
# Yakr.Cli.Receipts

**Is every text receipted?** A text is committed together with a row for the receipt that its
sender is owed. The row goes only when the delivery of a receipt has returned, that is when a server
has answered that it took a blob that was sealed for it. So in every run, whatever the servers
answer and wherever a command raises, the receipt of a committed text waits in its row or has been
taken (`receipts_settled`).
-/

namespace Yakr

open Lib Effect

variable {P : Packages}

/-! ### Rows of receipts -/

namespace FileLocalStore

variable {store : FileLocalStore} {key : String × String}

/-- The receipt with this key waits. -/
def Owes (store : FileLocalStore) (key : String × String) : Prop :=
  ∃ row ∈ store.pendingReceipts, row.key = key

theorem owes_save_self (name deliveredId : String) (route : Option String) (now : Int) :
    (store.savePendingReceipt name deliveredId route now).Owes (name, deliveredId) :=
  ⟨_, Table.mem_upsert.mpr (Or.inr rfl), rfl⟩

theorem owes_save {name deliveredId : String} {route : Option String} {now : Int}
    (h : store.Owes key) : (store.savePendingReceipt name deliveredId route now).Owes key := by
  by_cases hsame : key = (name, deliveredId)
  · rw [hsame]
    exact owes_save_self name deliveredId route now
  · obtain ⟨row, hrow, hkey⟩ := h
    refine ⟨row, Table.mem_upsert.mpr (Or.inl ⟨hrow, ?_⟩), hkey⟩
    rw [hkey]
    exact hsame

theorem owes_delete {name deliveredId : String} (h : store.Owes key)
    (hne : key ≠ (name, deliveredId)) :
    (store.deletePendingReceipt name deliveredId).Owes key := by
  obtain ⟨row, hrow, rfl⟩ := h
  exact ⟨row, Table.mem_delete.mpr ⟨hrow, hne⟩, rfl⟩

end FileLocalStore

/-! ### Receipts that were taken -/

/-- A blob that was sealed as a receipt for the message was posted, and a server of one of the
networks answered that it took it. -/
def ReceiptTaken (P : Packages) (networks : Outside → Prop) (identity : Identity)
    (deliveredId : String) (posted : List Posted) : Prop :=
  ∃ p ∈ posted, SealsReceipt P identity deliveredId p.blob ∧ ∃ outside, networks outside
    ∧ ∃ n status, outside.postAnswer n p.address = (p.stored, .ok status)
      ∧ (status = 200 ∨ status = 201)

theorem ReceiptTaken.mono {networks networks' : Outside → Prop} {identity : Identity}
    {deliveredId : String} {posted posted' : List Posted}
    (h : ReceiptTaken P networks identity deliveredId posted) (hposted : posted <+: posted')
    (hnetworks : ∀ outside, networks outside → networks' outside) :
    ReceiptTaken P networks' identity deliveredId posted' := by
  obtain ⟨p, hp, hseals, outside, houtside, hanswer⟩ := h
  exact ⟨p, hposted.subset hp, hseals, outside, hnetworks outside houtside, hanswer⟩

/-- A receipt is settled when it waits in its row or was taken. -/
def Settled (P : Packages) (networks : Outside → Prop) (identity : Identity)
    (key : String × String) (w : World) : Prop :=
  w.store.Owes key ∨ ReceiptTaken P networks identity key.2 w.posted

theorem Settled.mono {networks networks' : Outside → Prop} {identity : Identity}
    {key : String × String} {w : World} (h : Settled P networks identity key w)
    (hnetworks : ∀ outside, networks outside → networks' outside) :
    Settled P networks' identity key w :=
  h.imp id fun htaken => htaken.mono (List.prefix_refl _) hnetworks

/-- From `w` to `w'` no receipt that is owed is lost. -/
structure Settles (P : Packages) (networks : Outside → Prop) (identity : Identity) (w w' : World) :
    Prop where
  posted : w.posted <+: w'.posted
  owed : ∀ key, w.store.Owes key → Settled P networks identity key w'

namespace Settles

variable {networks networks' : Outside → Prop} {identity : Identity} {w w' w'' : World}

/-- The rows have not changed. -/
theorem of_rows (hrows : w'.store.pendingReceipts = w.store.pendingReceipts)
    (hposted : w.posted <+: w'.posted) : Settles P networks identity w w' := by
  refine ⟨hposted, ?_⟩
  rintro key ⟨row, hrow, hkey⟩
  exact Or.inl ⟨row, hrows ▸ hrow, hkey⟩

theorem refl (w : World) : Settles P networks identity w w := of_rows rfl (List.prefix_refl _)

/-- A row is written. -/
theorem of_saved {name deliveredId : String} {route : Option String} {now : Int}
    (hstore : w'.store.pendingReceipts
      = (w.store.savePendingReceipt name deliveredId route now).pendingReceipts)
    (hposted : w'.posted = w.posted) : Settles P networks identity w w' := by
  refine ⟨by rw [hposted], fun key hkey => ?_⟩
  obtain ⟨row, hrow, hrowKey⟩ := FileLocalStore.owes_save hkey
  exact Or.inl ⟨row, hstore ▸ hrow, hrowKey⟩

/-- What was taken stays so. -/
theorem settled (h : Settles P networks identity w w') {key : String × String}
    (hkey : Settled P networks identity key w) : Settled P networks identity key w' := by
  rcases hkey with howes | htaken
  · exact h.owed key howes
  · exact Or.inr (htaken.mono h.posted fun _ houtside => houtside)

theorem trans (h : Settles P networks identity w w') (h' : Settles P networks identity w' w'') :
    Settles P networks identity w w'' :=
  ⟨h.posted.trans h'.posted, fun key hkey => h'.settled (h.owed key hkey)⟩

theorem mono (h : Settles P networks identity w w')
    (hnetworks : ∀ outside, networks outside → networks' outside) :
    Settles P networks' identity w w' :=
  ⟨h.posted, fun key hkey => (h.owed key hkey).mono hnetworks⟩

end Settles

section Sending

variable {outside : Outside} {identity : Identity} {name : String} {names : String → Prop}
  {marks : Prop} {h h' : Handling} {w w' : World}

/-- One thing at a time: a row is deleted when its receipt is taken, and only then. -/
theorem SendStep.settles (hstep : SendStep P outside identity name marks h h') :
    Settles P (· = outside) identity h.world h'.world := by
  cases hstep with
  | delivery n hdelivery =>
      cases hdelivery with
      | exchanged exchanges hposted => exact .of_rows rfl hposted
      | refreshed hold hexpired hserved => exact .of_rows rfl (List.prefix_refl _)
  | drew encryptions => exact .of_rows rfl (List.prefix_refl _)
  | sealed ratchet nextSendSeq => exact .refl _
  | saved => exact .of_rows rfl (List.prefix_refl _)
  | committed seq body now hsealed => exact .of_rows rfl (List.prefix_refl _)
  | marked msgId hmarks => exact .of_rows rfl (List.prefix_refl _)
  | noted hsave =>
      obtain ⟨rows, rfl⟩ := saveProfileAckPending_rows hsave
      exact .of_rows rfl (List.prefix_refl _)
  | @receipted deliveredId blob hseals hanswered =>
      refine ⟨List.prefix_refl _, fun key hkey => ?_⟩
      by_cases hthis : key = (name, deliveredId)
      · -- the delivery has returned, so its blob was taken
        obtain ⟨status, ⟨p, hp, hblob, n, hanswer⟩, hstatus⟩ := hanswered
        rw [hthis]
        exact Or.inr ⟨p, hp, by rwa [hblob], outside, rfl, n, status, hanswer, hstatus⟩
      · exact Or.inl (FileLocalStore.owes_delete hkey hthis)
  | queued deliveredId route now => exact .of_saved rfl rfl

theorem WorldStep.settles (hstep : WorldStep P outside identity names marks w w') :
    Settles P (· = outside) identity w w' := by
  cases hstep with
  | drew encryptions => exact .of_rows rfl (List.prefix_refl _)
  | handled hname hcontact hsteps =>
      induction hsteps with
      | refl => exact .refl _
      | tail _ hstep ih => exact ih.trans hstep.settles
  | localProfile profile => exact .of_rows rfl (List.prefix_refl _)
  | presence hsave =>
      unfold FileLocalStore.savePresence at hsave
      obtain ⟨u, -, hsave⟩ := bind_ok.mp hsave
      cases hsave
      exact .of_rows rfl (List.prefix_refl _)

theorem settles_of_steps {α : Type} {m : EStateM PyExc World α}
    (hm : Steps (WorldStep P outside identity names marks) m) (w : World) :
    Settles P (· = outside) identity w (after (m.run w)) := by
  have hsteps := hm w
  generalize after (m.run w) = w' at hsteps ⊢
  induction hsteps with
  | refl => exact .refl _
  | tail _ hstep ih => exact ih.trans hstep.settles

end Sending

/-! ### The fetch -/

section Fetch

variable {outside : Outside} {polls : Polls} {identity : Identity} {contactName : String}
  {route : Option String} {wide quiet : Bool} {f f' : Fetching}

/-- A text is committed with the row of its receipt. -/
theorem received_receipts {nonce : Nonce} {contact : Contact} {inner : InnerMessage}
    {deliveredId : String} {receiptRoute : Option String} {now : Int} {store : FileLocalStore} :
    (FileLocalStore.received P identity nonce contact inner (some deliveredId) receiptRoute now
      store).pendingReceipts
      = (store.savePendingReceipt contact.name deliveredId receiptRoute now).pendingReceipts := rfl

theorem FetchStep.settles
    (hstep : FetchStep P (sendDeliveryReceipt P outside identity) polls identity contactName f f') :
    Settles P (· = outside) identity f.world f'.world := by
  cases hstep with
  | refused ratchet => exact .refl _
  | accepted ratchet hseq => exact .of_rows rfl (List.prefix_refl _)
  | text ratchet hseq attempt deliveredId => exact .of_saved received_receipts rfl
  | receipt ratchet hseq htype hid => exact .of_rows rfl (List.prefix_refl _)
  | acknowledged id =>
      unfold Fetching.acknowledged
      split
      · exact .refl _
      · exact .of_rows rfl (List.prefix_refl _)
  | profile tag round item hread hupdate => exact .refl _
  | presence hsave =>
      unfold FileLocalStore.savePresence at hsave
      obtain ⟨u, -, hsave⟩ := bind_ok.mp hsave
      cases hsave
      exact .of_rows rfl (List.prefix_refl _)
  | saved => exact .of_rows rfl (List.prefix_refl _)
  | counted fetched => exact .refl _
  | sent deliveredId route =>
      exact settles_of_steps (worldSteps_sendDeliveryReceipt (anyName _) deliveredId route) _
  | refreshed hload => exact .refl _

theorem settles_of_fetchSteps
    (hsteps : Relation.ReflTransGen
      (FetchStep P (sendDeliveryReceipt P outside identity) polls identity contactName) f f') :
    Settles P (· = outside) identity f.world f'.world := by
  induction hsteps with
  | refl => exact .refl _
  | tail _ hstep ih => exact ih.trans hstep.settles

/-- **One fetch**, whether it returns or raises. -/
theorem settles_fetch (outside : Outside) (polls : Polls) (identity : Identity)
    (contactName : String) (route : Option String) (wide quiet : Bool) (w : World) :
    Settles P (· = outside) identity w (after
      ((fetchContactInbound P outside polls identity contactName route wide quiet).run w)) := by
  rcases fetch_cases (P := P) outside polls identity contactName route wide quiet w with
    hsame | ⟨contact, -, hopened⟩
  · rw [hsame]
    exact .refl w
  · have hopening : Steps (WorldStep P outside identity AnyName False)
        (openFetch P (sendDeliveryReceipt P outside identity) outside.env polls identity
          contactName route wide quiet contact) := worldSteps_openFetch (anyName _) contact
    have hbefore := settles_of_steps hopening w
    rcases hopened with ⟨e, hraised⟩ | ⟨plan, w', f, hopen, hsteps, hworld⟩
    · rw [hraised] at hbefore
      exact hbefore
    · rw [hopen] at hbefore
      rw [hworld]
      exact hbefore.trans (settles_of_fetchSteps hsteps)

/-- A message with the type of a text is handled as a text. -/
theorem handleInner_text {attempt : Attempt} {outer : OuterBlob} {inner : InnerMessage}
    (htype : inner.type.isText = true) (f : Fetching) :
    (handleInner P (sendDeliveryReceipt P outside identity) polls identity contactName route quiet
        attempt outer inner).run f
      = (handleText P (sendDeliveryReceipt P outside identity) polls identity contactName route
        quiet attempt outer inner).run f := by
  have htext : inner.type = .text := by
    cases hinner : inner.type with
    | text => rfl
    | _ => simp [hinner, MessageType.isText] at htype
  rw [handleInner_other]
  · simp [handleOther, htext, MessageType.isReceipt, MessageType.isText]
  · simp [htext, MessageType.isProfile]
  · simp [htext, MessageType.isPresence]

/-- The commit writes the row of the receipt. -/
theorem owes_committed (attempt : Attempt) (f : Fetching) (inner : InnerMessage)
    (deliveredId : String) :
    (f.committed P identity attempt inner deliveredId).world.store.Owes
      (f.contact.name, deliveredId) := by
  have hsaved : (f.world.store.savePendingReceipt f.contact.name deliveredId none
      attempt.now).Owes (f.contact.name, deliveredId) :=
    FileLocalStore.owes_save_self f.contact.name deliveredId none attempt.now
  obtain ⟨row, hrow, hkey⟩ := hsaved
  refine ⟨row, ?_, hkey⟩
  unfold Fetching.committed
  dsimp only
  rw [received_receipts]
  exact hrow

/-- A text that can be committed leaves its receipt settled. -/
theorem settled_handleText {attempt : Attempt} {outer : OuterBlob} {inner : InnerMessage}
    (hcommits : FileLocalStore.Commits f.world.store inner
      (some (messageId P outer.ciphertext))) :
    Settled P (· = outside) identity (f.contact.name, messageId P outer.ciphertext)
      (after ((handleText P (sendDeliveryReceipt P outside identity) polls identity contactName route
        quiet attempt outer inner).run f)).world := by
  let committed := f.committed P identity attempt inner (messageId P outer.ciphertext)
  have howes : Settled P (· = outside) identity (f.contact.name, messageId P outer.ciphertext)
      committed.world := Or.inl (owes_committed attempt f inner _)
  rw [handleText_run]
  unfold commitText
  rw [run_onStore, FileLocalStore.commit_run hcommits]
  cases attempt.synced with
  | error e => exact howes
  | ok u =>
      -- what comes after the commit loses no row
      have hfinish : Steps
          (FetchStep P (sendDeliveryReceipt P outside identity) polls identity contactName)
          (finishText P (sendDeliveryReceipt P outside identity) polls contactName quiet
            (messageId P outer.ciphertext) none inner.body) := steps_finishText _ none inner.body
      exact (settles_of_fetchSteps (hfinish committed)).settled howes

/-- After an attempt at a text that can be committed, its receipt is settled. -/
theorem settled_handleItem {tag round : Nat} {item : Json} {outer : OuterBlob}
    {inner : InnerMessage} {c : Contact} (houter : OuterBlob.fromRelayJson P item = .ok outer)
    (haccepted : (decryptInbound P (polls.attempt tag round item).generated
      (polls.attempt tag round item).now outer).run f.contact = .ok inner c)
    (htype : inner.type.isText = true)
    (hcommits : FileLocalStore.Commits f.world.store inner
      (some (messageId P outer.ciphertext))) :
    Settled P (· = outside) identity (f.contact.name, messageId P outer.ciphertext)
      (after ((handleItem P (sendDeliveryReceipt P outside identity) polls identity contactName route
        quiet tag round item).run f)).world := by
  obtain ⟨ratchet, -, rfl⟩ := decryptInbound_ok haccepted
  have hopening : FileLocalStore.Commits (f.opening ratchet inner).world.store inner
      (some (messageId P outer.ciphertext)) := hcommits
  have htext : Settled P (· = outside) identity
      ((f.opening ratchet inner).contact.name, messageId P outer.ciphertext)
      (after ((handleText P (sendDeliveryReceipt P outside identity) polls identity contactName route
        quiet (polls.attempt tag round item) outer inner).run (f.opening ratchet inner))).world :=
    settled_handleText hopening
  rw [handleItem_accepted houter haccepted, handleInner_text htype]
  unfold Fetching.opening at htext
  cases hrun : (handleText P (sendDeliveryReceipt P outside identity) polls identity contactName
      route quiet (polls.attempt tag round item) outer inner).run (f.accepting _ inner) with
  | ok u f' =>
      rw [hrun] at htext
      exact htext
  | error e f' =>
      rw [hrun] at htext
      exact htext

end Fetch

/-! ### Runs -/

/-- The network that a command sends through. -/
def Operation.network : Operation → Option Outside
  | .send outside .. => some outside
  | .fetch outside .. => some outside
  | .flush outside .. => some outside
  | .resend outside .. => some outside
  | .presence outside .. => some outside
  | .push outside .. => some outside
  | .sweep _ => none

/-- One of the commands sends through the network. -/
def Networks (operations : List Operation) (outside : Outside) : Prop :=
  ∃ operation ∈ operations, operation.network = some outside

theorem Networks.append_right (earlier : List Operation) {later : List Operation}
    {outside : Outside} (h : Networks later outside) : Networks (earlier ++ later) outside := by
  obtain ⟨operation, hmem, hnetwork⟩ := h
  exact ⟨operation, List.mem_append_right earlier hmem, hnetwork⟩

theorem Networks.cons {operation : Operation} {operations : List Operation} {outside : Outside}
    (h : Networks operations outside) : Networks (operation :: operations) outside :=
  h.append_right [operation]

section Run

variable {identity : Identity}

/-- **One command.** -/
theorem settles_execute (identity : Identity) (w : World) (operation : Operation) :
    Settles P (Networks [operation]) identity w (Operation.execute P identity w operation) := by
  have hnetwork : ∀ {outside w'}, operation.network = some outside →
      Settles P (· = outside) identity w w' → Settles P (Networks [operation]) identity w w' := by
    intro outside w' hoperation h
    refine h.mono fun outside' hthis => ⟨operation, List.mem_singleton_self _, ?_⟩
    rw [hoperation, hthis]
  cases operation with
  | send outside dummy contactName message route =>
      exact hnetwork rfl (settles_of_steps (worldSteps_sendCmd (anyName _) dummy message route) w)
  | fetch outside polls contactName route wide quiet =>
      exact hnetwork rfl (settles_fetch outside polls identity contactName route wide quiet w)
  | flush outside contactName route =>
      exact hnetwork rfl (settles_of_steps
        (worldSteps_flushReceipts route fun pending _ => anyName pending.contactName) w)
  | resend outside now contactName route =>
      exact hnetwork rfl (settles_of_steps
        (worldSteps_resendPendingForContact (anyName _) now route) w)
  | presence outside announce payloads contactName =>
      exact hnetwork rfl (settles_of_steps
        (worldSteps_broadcastPresence announce payloads fun name _ => anyName name) w)
  | push outside built contactName =>
      exact hnetwork rfl (settles_of_steps (worldSteps_profilePush (anyName _) built) w)
  | sweep now => exact .of_rows rfl (List.prefix_refl _)

/-- A run of commands. -/
theorem settles_run (identity : Identity) (w : World) (operations : List Operation) :
    Settles P (Networks operations) identity w (Operation.run P identity w operations) := by
  induction operations generalizing w with
  | nil => exact .refl w
  | cons operation operations ih =>
      have hfirst := settles_execute (P := P) identity w operation
      refine (hfirst.mono ?_).trans ((ih _).mono ?_)
      · rintro outside ⟨this, hthis, hnetwork⟩
        rw [List.mem_singleton.mp hthis] at hnetwork
        exact ⟨operation, List.mem_cons_self, hnetwork⟩
      · intro outside h
        exact h.cons

/-- The receipts of a run: one that is owed at any point, and that of every text that was committed,
waits at the end or was taken by a server of the run. -/
structure ReceiptsSettled (P : Packages) (identity : Identity) (w : World)
    (operations : List Operation) : Prop where
  owed : ∀ earlier later key, operations = earlier ++ later →
    (Operation.run P identity w earlier).store.Owes key →
      Settled P (Networks operations) identity key (Operation.run P identity w operations)
  committed : ∀ earlier later outside polls contactName route wide quiet,
    operations = earlier ++ Operation.fetch outside polls contactName route wide quiet :: later →
      ∀ tag round item rest f outer inner c,
        FetchTries P (sendDeliveryReceipt P outside identity) outside.env polls identity contactName
          route wide quiet (Operation.run P identity w earlier) tag round item rest f →
        OuterBlob.fromRelayJson P item = .ok outer →
        (decryptInbound P (polls.attempt tag round item).generated
          (polls.attempt tag round item).now outer).run f.contact = .ok inner c →
        inner.type.isText = true →
        FileLocalStore.Commits f.world.store inner (some (messageId P outer.ciphertext)) →
          Settled P (Networks operations) identity (contactName, messageId P outer.ciphertext)
            (Operation.run P identity w operations)

/-- **No receipt is lost.** Whatever the servers answer and wherever a command raises, a text is
committed with the receipt that it is owed, and the row goes only when a server has answered that it
took a blob that was sealed for it. -/
theorem receipts_settled (P : Packages) (identity : Identity) (w : World)
    (operations : List Operation) : ReceiptsSettled P identity w operations where
  owed earlier later key hsplit howes := by
    subst hsplit
    rw [run_append]
    have hlater := settles_run (P := P) identity (Operation.run P identity w earlier) later
    exact (hlater.mono fun _ h => h.append_right earlier).owed key howes
  committed earlier later outside polls contactName route wide quiet hsplit tag round item rest f
      outer inner c htries houter haccepted htype hcommits := by
    subst hsplit
    have hnot := htries.notBehind (keepsRecords_sendDeliveryReceipt outside identity)
    have hitems : ∀ tag round item, Steps
        (FetchStep P (sendDeliveryReceipt P outside identity) polls identity contactName)
        (handleItem P (sendDeliveryReceipt P outside identity) polls identity contactName route
          quiet tag round item) := fun tag round item => steps_handleItem tag round item
    obtain ⟨f', hsteps, hworld⟩ := htries.steps hitems
    -- the attempt, the rest of its fetch, and the commands after it
    have hattempt : Settled P (· = outside) identity
        (f.contact.name, messageId P outer.ciphertext)
        (after ((handleItem P (sendDeliveryReceipt P outside identity) polls identity contactName
          route quiet tag round item).run f)).world :=
      settled_handleItem houter haccepted htype hcommits
    have hfetch := (settles_of_fetchSteps hsteps).settled hattempt
    rw [hnot.contact, ← hworld] at hfetch
    have hnetwork : ∀ outside', outside' = outside → Networks
        (earlier ++ Operation.fetch outside polls contactName route wide quiet :: later)
        outside' := by
      rintro _ rfl
      exact ⟨_, List.mem_append_right earlier List.mem_cons_self, rfl⟩
    have hlater := settles_run (P := P) identity
      (Operation.execute P identity (Operation.run P identity w earlier)
        (.fetch outside polls contactName route wide quiet)) later
    rw [run_append]
    refine (hlater.mono fun _ h => h.cons.append_right earlier).settled (hfetch.mono hnetwork)

end Run

end Yakr
