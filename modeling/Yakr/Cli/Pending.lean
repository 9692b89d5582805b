import Yakr.Cli.Resends

/-!
# Yakr.Cli.Pending

**When is a pending message let go?** A row of `outbound_pending` holds a message until the peer's
receipt for it arrives or its time is over. The commands that send write rows and delete none, a
fetch deletes the row that an accepted receipt names, the sweep those whose time is over. One
command does otherwise: `resend_pending_for_contact` deletes the row of a message as soon as a
server has taken its blob. In a run where no server takes what is resent, a row goes for one of the
two reasons only (`cleared_only_by_proof`).
-/

namespace Yakr

open Lib Effect

variable {P : Packages}

/-! ### Rows of messages -/

namespace FileLocalStore

variable {store : FileLocalStore} {key : String × String}

/-- The message with this key is pending. -/
def Pends (store : FileLocalStore) (key : String × String) : Prop :=
  ∃ row ∈ store.outboundPending, row.key = key

/-- Every row is valid as long as a message is. -/
def Lasting (store : FileLocalStore) : Prop :=
  ∀ row ∈ store.outboundPending, row.validUntil = messageValidUntil row.createdAt

theorem pends_commit {contact : Contact} {msgId : String} {seq : Int} {body : String}
    {outer : OuterBlob} {now : Int} (h : store.Pends key) :
    (store.atomicCommitSend P contact msgId seq body outer now).Pends key := by
  obtain ⟨row, hrow, hkey⟩ := h
  unfold atomicCommitSend Pends
  by_cases hsame : key = (contact.name, msgId)
  · exact ⟨_, Table.mem_upsert.mpr (Or.inr rfl), hsame.symm⟩
  · refine ⟨row, Table.mem_upsert.mpr (Or.inl ⟨hrow, ?_⟩), hkey⟩
    rw [hkey]
    exact hsame

theorem lasting_commit {contact : Contact} {msgId : String} {seq : Int} {body : String}
    {outer : OuterBlob} {now : Int} (h : store.Lasting) :
    (store.atomicCommitSend P contact msgId seq body outer now).Lasting := by
  intro row hrow
  rcases Table.mem_upsert.mp hrow with ⟨hrow, -⟩ | rfl
  · exact h row hrow
  · rfl

/-- Deleting a row leaves the others. -/
theorem pends_mark {contactName msgId : String} (h : store.Pends key)
    (hne : key ≠ (contactName, msgId)) :
    (store.markOutboundDelivered contactName msgId).Pends key := by
  obtain ⟨row, hrow, rfl⟩ := h
  exact ⟨row, Table.mem_delete.mpr ⟨hrow, hne⟩, rfl⟩

theorem lasting_mark {contactName msgId : String} (h : store.Lasting) :
    (store.markOutboundDelivered contactName msgId).Lasting :=
  fun row hrow => h row (Table.mem_delete.mp hrow).1

/-- A lasting row that a sweep deletes is over. -/
theorem over_of_sweeps {row : OutboundPending} {now : Int}
    (hlasting : row.validUntil = messageValidUntil row.createdAt)
    (hsweeps : sweeps row.validUntil row.createdAt now = true) : row.validUntil ≤ now := by
  rcases Bool.or_eq_true_iff.mp hsweeps with hover | hold
  · exact of_decide_eq_true hover
  · have hold := of_decide_eq_true hold
    rw [hlasting, messageValidUntil]
    omega

end FileLocalStore

/-- No message stops pending, and what is written lasts. -/
structure KeepsPending (store store' : FileLocalStore) : Prop where
  pends : ∀ key, store.Pends key → store'.Pends key
  lasting : store.Lasting → store'.Lasting

namespace KeepsPending

variable {store store' store'' : FileLocalStore}

theorem refl (store : FileLocalStore) : KeepsPending store store := ⟨fun _ h => h, fun h => h⟩

theorem trans (h : KeepsPending store store') (h' : KeepsPending store' store'') :
    KeepsPending store store'' :=
  ⟨fun key hkey => h'.pends key (h.pends key hkey), fun hl => h'.lasting (h.lasting hl)⟩

theorem of_rows (h : store'.outboundPending = store.outboundPending) :
    KeepsPending store store' := by
  constructor
  · rintro key ⟨row, hrow, hkey⟩
    exact ⟨row, h ▸ hrow, hkey⟩
  · exact fun hlasting row hrow => hlasting row (h ▸ hrow)

end KeepsPending

/-! ### The commands that send -/

section Sending

variable {outside : Outside} {identity : Identity} {name : String} {names : String → Prop}
  {marks marks' : Prop} {h h' : Handling} {w w' : World}

/-- What may be done where nothing is marked may be done anywhere. -/
theorem SendStep.mono (hmarks : marks → marks') (hstep : SendStep P outside identity name marks h h') :
    SendStep P outside identity name marks' h h' := by
  cases hstep with
  | delivery n hdelivery => exact .delivery n hdelivery
  | drew encryptions => exact .drew encryptions
  | sealed ratchet nextSendSeq => exact .sealed ratchet nextSendSeq
  | saved => exact .saved
  | committed seq body now hsealed => exact .committed seq body now hsealed
  | marked msgId hmarked => exact .marked msgId (hmarks hmarked)
  | noted hsave => exact .noted hsave
  | receipted hseals hanswered => exact .receipted hseals hanswered
  | queued deliveredId route now => exact .queued deliveredId route now

theorem WorldStep.mono (hmarks : marks → marks') (hstep : WorldStep P outside identity names marks w w') :
    WorldStep P outside identity names marks' w w' := by
  cases hstep with
  | drew encryptions => exact .drew encryptions
  | handled hname hcontact hsteps =>
      have hsteps := Relation.ReflTransGen.mono (fun _ _ hstep => SendStep.mono hmarks hstep) _ _ hsteps
      exact .handled hname hcontact hsteps
  | localProfile profile => exact .localProfile profile
  | presence hsave => exact .presence hsave

theorem SendStep.keepsPending (hstep : SendStep P outside identity name False h h') :
    KeepsPending h.world.store h'.world.store := by
  cases hstep with
  | delivery n hdelivery =>
      cases hdelivery with
      | exchanged exchanges hposted => exact .refl _
      | refreshed hold hexpired hserved => exact .of_rows rfl
  | drew encryptions => exact .refl _
  | sealed ratchet nextSendSeq => exact .refl _
  | saved => exact .of_rows rfl
  | committed seq body now hsealed =>
      exact ⟨fun _ => FileLocalStore.pends_commit, FileLocalStore.lasting_commit⟩
  | marked msgId hmarks => exact hmarks.elim
  | noted hsave =>
      obtain ⟨rows, rfl⟩ := saveProfileAckPending_rows hsave
      exact .of_rows rfl
  | receipted hseals hanswered => exact .of_rows rfl
  | queued deliveredId route now => exact .of_rows rfl

/-- **Nothing that sends lets a message go**, where rows are not marked. -/
theorem WorldStep.keepsPending (hstep : WorldStep P outside identity names False w w') :
    KeepsPending w.store w'.store := by
  cases hstep with
  | drew encryptions => exact .refl _
  | handled hname hcontact hsteps =>
      induction hsteps with
      | refl => exact .refl _
      | tail _ hstep ih => exact ih.trans hstep.keepsPending
  | localProfile profile => exact .of_rows rfl
  | presence hsave => exact .of_rows (savePresence_outbound hsave)

theorem keepsPending_of_steps {α : Type} {m : EStateM PyExc World α}
    (hm : Steps (WorldStep P outside identity names False) m) (w : World) :
    KeepsPending w.store (after (m.run w)).store := by
  have hsteps := hm w
  generalize after (m.run w) = w' at hsteps ⊢
  induction hsteps with
  | refl => exact .refl _
  | tail _ hstep ih => exact ih.trans hstep.keepsPending

/-- A resend for which nothing is taken, or that finds no row, marks nothing. -/
theorem keepsPending_resend {identity : Identity} (now : Int) (contactName : String)
    (route : Option String) (w : World)
    (huntaken : Taken outside → w.store.listOutboundPending contactName now = []) :
    KeepsPending w.store
      (after ((resendPendingForContact P outside identity now contactName route).run w)).store := by
  by_cases htaken : Taken outside
  · have hnone : after ((resendPendingForContact P outside identity now contactName route).run w)
        = w := by
      unfold resendPendingForContact
      rw [run_get_bind]
      dsimp only
      rw [huntaken htaken]
      cases w.store.getContact P contactName with
      | error e => rfl
      | ok found =>
          cases found with
          | none => rfl
          | some contact => rfl
    rw [hnone]
    exact .refl _
  · have hsteps : Steps (WorldStep P outside identity AnyName (Taken outside))
        (resendPendingForContact P outside identity now contactName route) :=
      worldSteps_resendPendingForContact (anyName _) now route
    exact keepsPending_of_steps (hsteps.mono fun _ _ hstep => hstep.mono htaken) w

end Sending

/-! ### The fetch -/

/-- The message with this key is acknowledged: a receipt from its contact names it. -/
def AcknowledgedBy (P : Packages) (contactName : String) (receipts : List InnerMessage)
    (key : String × String) : Prop :=
  key.1 = contactName ∧ ∃ inner ∈ receipts, inner.type.isReceipt = true
    ∧ sqlText P inner.messageId = .ok key.2

theorem AcknowledgedBy.mono {contactName : String} {receipts receipts' : List InnerMessage}
    {key : String × String} (h : AcknowledgedBy P contactName receipts key)
    (hsub : ∀ inner ∈ receipts, inner ∈ receipts') :
    AcknowledgedBy P contactName receipts' key := by
  obtain ⟨hcontact, inner, hinner, hreceipt⟩ := h
  exact ⟨hcontact, inner, hsub inner hinner, hreceipt⟩

/-- From `w` to `w'` messages are accepted, and a message stops pending only for one of them. -/
structure ClearsAcknowledged (P : Packages) (contactName : String) (w w' : World) : Prop where
  cleared : ∃ new, w'.accepted = w.accepted ++ new ∧ ∀ key, w.store.Pends key →
    w'.store.Pends key ∨ AcknowledgedBy P contactName new key
  lasting : w.store.Lasting → w'.store.Lasting

namespace ClearsAcknowledged

variable {contactName : String} {w w' w'' : World}

theorem of_keeps (hkeeps : KeepsPending w.store w'.store) (haccepted : w'.accepted = w.accepted) :
    ClearsAcknowledged P contactName w w' :=
  ⟨⟨[], by rw [haccepted, List.append_nil], fun key hkey => Or.inl (hkeeps.pends key hkey)⟩,
    hkeeps.lasting⟩

theorem trans (h : ClearsAcknowledged P contactName w w')
    (h' : ClearsAcknowledged P contactName w' w'') : ClearsAcknowledged P contactName w w'' := by
  obtain ⟨new, hnew, hcleared⟩ := h.cleared
  obtain ⟨new', hnew', hcleared'⟩ := h'.cleared
  refine ⟨⟨new ++ new', by rw [hnew', hnew, List.append_assoc], fun key hkey => ?_⟩,
    fun hlasting => h'.lasting (h.lasting hlasting)⟩
  rcases hcleared key hkey with hstill | hgone
  · rcases hcleared' key hstill with hstill | hgone
    · exact Or.inl hstill
    · exact Or.inr (hgone.mono fun _ hinner => List.mem_append_right _ hinner)
  · exact Or.inr (hgone.mono fun _ hinner => List.mem_append_left _ hinner)

/-- A message is accepted, and no row is deleted. -/
theorem of_accepted {inner : InnerMessage} (haccepted : w'.accepted = w.accepted ++ [inner])
    (hrows : w'.store.outboundPending = w.store.outboundPending) :
    ClearsAcknowledged P contactName w w' := by
  have hkeeps : KeepsPending w.store w'.store := .of_rows hrows
  exact ⟨⟨[inner], haccepted, fun key hkey => Or.inl (hkeeps.pends key hkey)⟩, hkeeps.lasting⟩

end ClearsAcknowledged

section Fetch

variable {outside : Outside} {polls : Polls} {identity : Identity} {contactName : String}
  {route : Option String} {wide quiet : Bool} {f f' : Fetching} {w : World}

/-- **One step of a fetch.** The row that a receipt names is deleted together with its
acceptance. -/
theorem FetchStep.clearsAcknowledged
    (hstep : FetchStep P (sendDeliveryReceipt P outside identity) polls identity contactName f f') :
    ClearsAcknowledged P contactName f.world f'.world := by
  cases hstep with
  | refused ratchet => exact .of_keeps (.refl _) rfl
  | accepted ratchet hseq => exact .of_accepted rfl rfl
  | text ratchet hseq attempt deliveredId => exact .of_accepted rfl received_outbound
  | receipt ratchet hseq htype hid =>
      rename_i inner id
      refine ⟨⟨[inner], rfl, fun key hkey => ?_⟩, FileLocalStore.lasting_mark⟩
      by_cases hthis : key = (contactName, id)
      · subst hthis
        exact Or.inr ⟨rfl, inner, List.mem_singleton_self _, htype, hid⟩
      · exact Or.inl (FileLocalStore.pends_mark hkey hthis)
  | acknowledged id =>
      unfold Fetching.acknowledged
      split
      · exact .of_keeps (.refl _) rfl
      · exact .of_keeps (.of_rows rfl) rfl
  | profile tag round item hread hupdate => exact .of_keeps (.refl _) rfl
  | presence hsave => exact .of_keeps (.of_rows (savePresence_outbound hsave)) rfl
  | saved => exact .of_keeps (.of_rows rfl) rfl
  | counted fetched => exact .of_keeps (.refl _) rfl
  | sent deliveredId route =>
      have hsend : Steps (WorldStep P outside identity AnyName False)
          (sendDeliveryReceipt P outside identity contactName deliveredId route) :=
        worldSteps_sendDeliveryReceipt (anyName _) deliveredId route
      exact .of_keeps (keepsPending_of_steps hsend _) (keepsTexts_of_steps hsend _).accepted
  | refreshed hload => exact .of_keeps (.refl _) rfl

theorem clearsAcknowledged_of_steps
    (hsteps : Relation.ReflTransGen
      (FetchStep P (sendDeliveryReceipt P outside identity) polls identity contactName) f f') :
    ClearsAcknowledged P contactName f.world f'.world := by
  induction hsteps with
  | refl => exact .of_keeps (.refl _) rfl
  | tail _ hstep ih => exact ih.trans hstep.clearsAcknowledged

/-- **One fetch**, whether it returns or raises. -/
theorem clearsAcknowledged_fetch (outside : Outside) (polls : Polls) (identity : Identity)
    (contactName : String) (route : Option String) (wide quiet : Bool) (w : World) :
    ClearsAcknowledged P contactName w (after
      ((fetchContactInbound P outside polls identity contactName route wide quiet).run w)) := by
  rcases fetch_cases (P := P) outside polls identity contactName route wide quiet w with
    hsame | ⟨contact, -, hopened⟩
  · rw [hsame]
    exact .of_keeps (.refl _) rfl
  · have hopening : Steps (WorldStep P outside identity AnyName False)
        (openFetch P (sendDeliveryReceipt P outside identity) outside.env polls identity
          contactName route wide quiet contact) := worldSteps_openFetch (anyName _) contact
    have hbefore : ClearsAcknowledged P contactName w _ :=
      .of_keeps (keepsPending_of_steps hopening w) (keepsTexts_of_steps hopening w).accepted
    rcases hopened with ⟨e, hraised⟩ | ⟨plan, w', f, hopen, hsteps, hworld⟩
    · rw [hraised] at hbefore
      exact hbefore
    · rw [hopen] at hbefore
      rw [hworld]
      exact hbefore.trans (clearsAcknowledged_of_steps hsteps)

end Fetch

/-! ### Runs -/

/-- Why a row may be gone after a command that takes `w` to `w'`: the contact has acknowledged the
message in a fetch, or a sweep found its time to be over. -/
inductive LetGo (P : Packages) (w w' : World) (row : OutboundPending) : Operation → Prop
  | receipt {outside : Outside} {polls : Polls} {contactName : String} {route : Option String}
      {wide quiet : Bool} {new : List InnerMessage} (hnew : w'.accepted = w.accepted ++ new)
      (hacknowledged : AcknowledgedBy P contactName new row.key) :
      LetGo P w w' row (.fetch outside polls contactName route wide quiet)
  | expired {now : Int} (hover : row.validUntil ≤ now) : LetGo P w w' row (.sweep now)

/-- In a run of commands a row is deleted for an acknowledgement or when its time is over. -/
def LetsGoByProof (P : Packages) (identity : Identity) (w : World) (operations : List Operation) :
    Prop :=
  ∀ earlier operation later, operations = earlier ++ operation :: later →
    ∀ row ∈ (Operation.run P identity w earlier).store.outboundPending,
      (Operation.run P identity w (earlier ++ [operation])).store.Pends row.key
        ∨ LetGo P (Operation.run P identity w earlier)
          (Operation.run P identity w (earlier ++ [operation])) row operation

/-- A resend of which no server takes a blob, or that finds no row. -/
def NotTaken (w : World) : Operation → Prop
  | .resend outside now contactName _ =>
      Taken outside → w.store.listOutboundPending contactName now = []
  | _ => True

/-- No server takes a blob that is resent in the run. -/
def NeverTaken (P : Packages) (identity : Identity) : World → List Operation → Prop
  | _, [] => True
  | w, operation :: operations =>
      NotTaken w operation
        ∧ NeverTaken P identity (Operation.execute P identity w operation) operations

section Run

variable {identity : Identity} {w : World}

/-- **One command.** -/
theorem execute_letsGo (operation : Operation) (hlasting : w.store.Lasting)
    (htaken : NotTaken w operation) :
    (Operation.execute P identity w operation).store.Lasting
      ∧ ∀ row ∈ w.store.outboundPending,
        (Operation.execute P identity w operation).store.Pends row.key
          ∨ LetGo P w (Operation.execute P identity w operation) row operation := by
  have hkept : ∀ {w' : World}, KeepsPending w.store w'.store → w'.store.Lasting
      ∧ ∀ row ∈ w.store.outboundPending, w'.store.Pends row.key ∨ LetGo P w w' row operation :=
    fun h => ⟨h.lasting hlasting, fun row hrow => Or.inl (h.pends _ ⟨row, hrow, rfl⟩)⟩
  cases operation with
  | send outside dummy contactName message route =>
      exact hkept (keepsPending_of_steps (worldSteps_sendCmd (anyName _) dummy message route) w)
  | fetch outside polls contactName route wide quiet =>
      have hfetch : ClearsAcknowledged P contactName w _ :=
        clearsAcknowledged_fetch outside polls identity contactName route wide quiet w
      obtain ⟨new, hnew, hcleared⟩ := hfetch.cleared
      refine ⟨hfetch.lasting hlasting, fun row hrow => ?_⟩
      exact (hcleared _ ⟨row, hrow, rfl⟩).imp_right fun hgone => .receipt hnew hgone
  | flush outside contactName route =>
      exact hkept (keepsPending_of_steps (worldSteps_flushReceipts route fun pending _ => anyName pending.contactName) w)
  | resend outside now contactName route =>
      exact hkept (keepsPending_resend now contactName route w htaken)
  | presence outside announce payloads contactName =>
      exact hkept (keepsPending_of_steps
        (worldSteps_broadcastPresence announce payloads fun name _ => anyName name) w)
  | push outside built contactName =>
      exact hkept (keepsPending_of_steps (worldSteps_profilePush (anyName _) built) w)
  | sweep now =>
      refine ⟨fun row hrow => hlasting row (List.mem_filter.mp hrow).1, fun row hrow => ?_⟩
      cases hsweeps : FileLocalStore.sweeps row.validUntil row.createdAt now with
      | true => exact Or.inr (.expired (FileLocalStore.over_of_sweeps (hlasting row hrow) hsweeps))
      | false =>
          refine Or.inl ⟨row, List.mem_filter.mpr ⟨hrow, ?_⟩, rfl⟩
          rw [hsweeps]
          rfl

/-- **A message is let go by proof.** When no server takes a blob that is resent, a row is deleted
only for an accepted receipt that names its message, or by a sweep when its time is over. -/
theorem cleared_only_by_proof (hlasting : w.store.Lasting) {operations : List Operation}
    (htaken : NeverTaken P identity w operations) : LetsGoByProof P identity w operations := by
  intro earlier operation later hsplit row hrow
  induction earlier generalizing w operations with
  | nil =>
      subst hsplit
      exact (execute_letsGo operation hlasting htaken.1).2 row hrow
  | cons first earlier ih =>
      subst hsplit
      exact ih (execute_letsGo first hlasting htaken.1).1 htaken.2 rfl hrow

end Run

open PendingSample in
theorem unreachable_lets_go :
    LetsGoByProof plainPackages Sample.alice start
      [greeting, .resend unreachable 0 "bob" none, .sweep messageTtlMs] := by
  refine cleared_only_by_proof (fun row hrow => by cases hrow) ⟨trivial, ?_, trivial, trivial⟩
  rintro ⟨n, address, stored, status, hanswer, -⟩
  cases hanswer

section Taking

variable {outside : Outside} {identity : Identity} {contactName : String} {route : Option String}

/-- A relay takes a blob of a contact without a profile. -/
theorem deliverPending_relay {h : Handling} {outer : OuterBlob} {now : Int} {url : String}
    {urls : List String} {mine : Option DeliveryProfile} {stored : Bool}
    (hprofile : h.contact.deliveryProfile = none)
    (hmine : h.world.store.loadLocalProfile P = .ok mine)
    (hurls : deliveryMailboxUrls P outside.env h.contact none (some h.world.store) now
      = .ok (url :: urls))
    (hanswer : outside.postAnswer h.world.exchanges (rstripSlash url) = (stored, .ok 201)) :
    ∃ h', (deliverPending P outside outer none now).run h = .ok true h' := by
  have hrefresh : (refreshContactProfile P outside now).run h = .ok false h := by
    unfold refreshContactProfile
    rw [run_get_bind]
    dsimp only
    rw [hprofile]
    rfl
  have hdirect : (deliverDirect outside outer true).run h = .ok false h := by
    unfold deliverDirect
    rw [run_get_bind, hprofile]
    rfl
  obtain ⟨h₁, hsend⟩ : ∃ h₁, (sendEncrypted outside outer url).run h = .ok () h₁ := by
    exact ⟨_, run_bind_ok.mpr ⟨201, _, postBlob_answered hanswer, rfl⟩⟩
  have hrelays : (tryRelays outside outer (url :: urls)).run h = .ok (some url) h₁ := by
    have hsent : (do
        sendEncrypted outside outer url
        return true : HandlingM Bool).run h = .ok true h₁ := run_bind_ok.mpr ⟨_, _, hsend, rfl⟩
    unfold tryRelays
    refine run_bind_ok.mpr ⟨true, h₁, ?_, rfl⟩
    rw [run_tryCatch, hsent]
  have hdeliver : (deliverEncrypted P outside outer none true now recursionLimit true).run h
      = .ok (.relay url) h₁ := by
    have hlimit : recursionLimit = 999 + 1 := rfl
    rw [hlimit, deliverEncrypted, if_pos rfl]
    refine run_bind_ok.mpr ⟨_, _, hrefresh, run_bind_ok.mpr ⟨_, _, hdirect, ?_⟩⟩
    rw [if_neg Bool.false_ne_true, run_get_bind]
    refine run_orRaise_bind_ok.mpr ⟨mine, hmine, run_orRaise_bind_ok.mpr ⟨_, hurls, ?_⟩⟩
    exact run_bind_ok.mpr ⟨_, _, hrelays, rfl⟩
  have hsent : (do
      let _ ← deliverEncrypted P outside outer none true now recursionLimit true
      return true : HandlingM Bool).run h = .ok true h₁ :=
    run_bind_ok.mpr ⟨_, _, hdeliver, rfl⟩
  exact ⟨h₁, by rw [deliverPending, run_tryCatch, hsent]⟩

/-- The first message of a resend is let go when its blob is taken. -/
theorem resendPending_lets_go {w : World} {contact : Contact} {now : Int} {row : OutboundPending}
    {rows : List OutboundPending} (hkept : AllKept P w.store.outboundPending)
    (hcontact : w.store.getContact P contactName = .ok (some contact))
    (hrows : w.store.listOutboundPending contactName now = row :: rows)
    (hpending : ∀ outer, ∃ h',
      (deliverPending P outside outer route (outside.draws w.encryptions).now).run
        { world := { w with encryptions := w.encryptions + 1 }, contact } = .ok true h') :
    ¬ (after ((resendPendingForContact P outside identity now contactName route).run
      w)).store.Pends row.key := by
  let h : Handling := { world := w, contact }
  have hlisted : Listed h contactName (row :: rows) :=
    hrows ▸ listed_listOutboundPending (h := h) hkept contactName now
  obtain ⟨outer, -, hload⟩ := hlisted.load hkept
  obtain ⟨h₂, hdelivered⟩ := hpending outer
  -- the first row is deleted, and the rest of the pass deletes only
  let h₁ := h₂.withRows (Table.delete OutboundPending.key (contactName, row.msgId)
    h₂.world.store.outboundPending)
  have hfirst : (resendRow P outside identity contactName route row).run h = .ok _ h₁ :=
    resendRow_stored hload hdelivered
  have hresent : Resends P (· = outer) h
      (after ((resendRow P outside identity contactName route row).run h)) ∧ _ :=
    resendRow_kept hload
  rw [hfirst] at hresent
  obtain ⟨hresends, hothers⟩ := hresent
  have hrest : Resends P _ h₁
      (after ((resendRows P outside identity contactName route rows).run h₁)) :=
    resendRows_kept (hkept.sublist hresends.rows) (hlisted.rest hothers)
  have hafter : after ((resendPendingForContact P outside identity now contactName route).run w)
      = (after ((resendRows P outside identity contactName route rows).run h₁)).world := by
    unfold resendPendingForContact
    rw [run_get_bind]
    dsimp only
    rw [hcontact, EStateM.run_bind, run_orRaise_ok]
    dsimp only
    rw [run_withContact, hrows, ← after_resendRows hfirst]
    cases (resendRows P outside identity contactName route (row :: rows)).run h with
    | ok resent h' => rfl
    | error e h' => rfl
  rw [hafter]
  rintro ⟨row', hrow', hkey⟩
  have hkey' : row'.key = (contactName, row.msgId) := by
    rw [hkey, ← hlisted.named row List.mem_cons_self]
    rfl
  exact (Table.mem_delete.mp (hrest.rows.subset hrow')).2 hkey'

end Taking

namespace PendingSample

/-- Something is pending for Bob, and the relay of the environment is the only place to send it. -/
def OnlyRelay (w : World) : Prop :=
  w.store.listOutboundPending "bob" 0 ≠ []
    ∧ (w.store.loadLocalProfile plainPackages).map Option.isNone = .ok true
    ∧ (w.store.getContact plainPackages "bob").map (Option.map fun contact =>
        (contact.deliveryProfile.isNone,
          deliveryMailboxUrls plainPackages unreachable.env contact none (some w.store) 0))
      = .ok (some (true, .ok ["http://relay"]))

instance (w : World) : Decidable (OnlyRelay w) :=
  inferInstanceAs (Decidable (_ ∧ _ ∧ _))

theorem onlyRelay_greeting :
    OnlyRelay (Operation.run plainPackages Sample.alice start [greeting]) := by
  decide +kernel

/-- The relay takes the blob of the first message that is pending. -/
theorem resending_lets_go {w : World} (hkept : AllKept plainPackages w.store.outboundPending)
    (honly : OnlyRelay w) : ∃ row ∈ w.store.outboundPending,
      ¬ (Operation.execute plainPackages Sample.alice w resending).store.Pends row.key := by
  obtain ⟨hrows, hmine, hcontact⟩ := honly
  obtain ⟨row, rows, hlist⟩ := List.exists_cons_of_ne_nil hrows
  have hrow : row ∈ w.store.listOutboundPending "bob" 0 := hlist ▸ List.mem_cons_self
  refine ⟨row, (mem_listOutboundPending hrow).1, ?_⟩
  cases hload : w.store.loadLocalProfile plainPackages with
  | error e =>
      rw [hload] at hmine
      cases hmine
  | ok mine =>
      cases hget : w.store.getContact plainPackages "bob" with
      | error e =>
          rw [hget] at hcontact
          cases hcontact
      | ok found =>
          rw [hget] at hcontact
          cases found with
          | none => cases Except.ok.inj hcontact
          | some contact =>
              have hpair := Prod.mk.inj (Option.some.inj (Except.ok.inj hcontact))
              refine resendPending_lets_go hkept hget hlist fun outer => ?_
              exact deliverPending_relay (Option.isNone_iff_eq_none.mp hpair.1) hload hpair.2 rfl

end PendingSample

open PendingSample in
/-- The relay has the message, and Bob has seen nothing of it. -/
theorem taken_blob_lets_go :
    ¬ ∀ operations, LetsGoByProof plainPackages Sample.alice start operations := by
  intro h
  have hnone : AllKept plainPackages start.store.outboundPending := by
    constructor
    · exact List.nodup_nil
    · intro row hrow
      cases hrow
  have hkept := allKept_of_steps (run_outboundSteps Sample.alice start [greeting]) hnone
  obtain ⟨row, hrow, hgone⟩ := resending_lets_go hkept onlyRelay_greeting
  have hproof := h [greeting, resending] [greeting] resending [] rfl row hrow
  rw [run_snoc] at hproof
  rcases hproof with hpends | hletGo
  · exact hgone hpends
  · cases hletGo

end Yakr
