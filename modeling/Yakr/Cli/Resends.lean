import Yakr.Cli.Acceptance
import Yakr.Pairing.Honest

/-!
# Yakr.Cli.Resends

**What is sent again?** A row of `outbound_pending` keeps the blob of its message. The commands do
two things to the table: a message that is sealed is written with its blob, and rows are deleted
(`OutboundStep`). So in every run each row keeps a blob that was sealed under its id, and
`resend_pending_for_contact` seals nothing anew: it posts the stored blobs, and moves neither the
ratchet nor the counter of its contact (`resends_as_sealed`).
-/

namespace Yakr

open Lib Effect

variable {P : Packages}

/-! ### The table -/

/-- The columns of a row are those of a blob that was sealed under its id. -/
structure OutboundPending.Keeps (P : Packages) (row : OutboundPending) (outer : OuterBlob) :
    Prop where
  sealed : SealedAs P row.msgId outer
  ciphertext : row.outerCiphertextB64 = some (b64encode outer.ciphertext)
  tag : row.mailboxTagB64 = some (b64encode outer.mailboxTag)
  expires : row.outerExpiresAt = some outer.expiresAt

/-- What a command does to the pending messages, one thing at a time. -/
inductive OutboundStep (P : Packages) : List OutboundPending → List OutboundPending → Prop
  | committed {rows : List OutboundPending} {row : OutboundPending} {outer : OuterBlob}
      (hkeeps : row.Keeps P outer) :
      OutboundStep P rows (Table.upsert OutboundPending.key row rows)
  | deleted {rows : List OutboundPending} (keep : OutboundPending → Bool) :
      OutboundStep P rows (rows.filter keep)

/-- The pending messages from one device to a later one. -/
abbrev OutboundSteps (P : Packages) (w w' : World) : Prop :=
  Relation.ReflTransGen (OutboundStep P) w.store.outboundPending w'.store.outboundPending

theorem outboundSteps_of_rows {w w' : World}
    (h : w'.store.outboundPending = w.store.outboundPending) : OutboundSteps P w w' := by
  rw [OutboundSteps, h]

section Steps

variable {outside : Outside} {identity : Identity} {name : String} {names : String → Prop}
  {marks : Prop} {h h' : Handling} {w w' : World}

theorem SendStep.outboundSteps (hstep : SendStep P outside identity name marks h h') :
    OutboundSteps P h.world h'.world := by
  cases hstep with
  | delivery n hdelivery =>
      cases hdelivery with
      | exchanged exchanges hposted => exact .refl
      | refreshed hold hexpired hserved => exact .refl
  | drew encryptions => exact .refl
  | sealed ratchet nextSendSeq => exact .refl
  | saved => exact .refl
  | committed seq body now hsealed => exact .single (.committed ⟨hsealed, rfl, rfl, rfl⟩)
  | marked msgId hmarks => exact .single (.deleted _)
  | noted hsave =>
      obtain ⟨rows, rfl⟩ := saveProfileAckPending_rows hsave
      exact .refl
  | receipted hseals hanswered => exact .refl
  | queued deliveredId route now => exact .refl

theorem savePresence_outbound {store store' : FileLocalStore} {payload : PresencePayload}
    (h : store.savePresence payload = .ok store') :
    store'.outboundPending = store.outboundPending := by
  unfold FileLocalStore.savePresence at h
  obtain ⟨u, -, h⟩ := bind_ok.mp h
  obtain rfl := Except.ok.inj h
  rfl

theorem WorldStep.outboundSteps (hstep : WorldStep P outside identity names marks w w') :
    OutboundSteps P w w' := by
  cases hstep with
  | drew encryptions => exact .refl
  | handled hname hcontact hsteps =>
      induction hsteps with
      | refl => exact .refl
      | tail _ hstep ih => exact ih.trans hstep.outboundSteps
  | localProfile profile => exact .refl
  | presence hsave => exact outboundSteps_of_rows (savePresence_outbound hsave)

theorem outboundSteps_of_steps {α : Type} {m : EStateM PyExc World α}
    (hm : Steps (WorldStep P outside identity names marks) m) (w : World) :
    OutboundSteps P w (after (m.run w)) := by
  have hsteps := hm w
  generalize after (m.run w) = w' at hsteps ⊢
  induction hsteps with
  | refl => exact .refl
  | tail _ hstep ih => exact ih.trans hstep.outboundSteps

end Steps

section Fetch

variable {outside : Outside} {polls : Polls} {identity : Identity} {contactName : String}
  {f f' : Fetching}

theorem received_outbound {nonce : Nonce} {contact : Contact} {inner : InnerMessage}
    {deliveredId receiptRoute : Option String} {now : Int} {store : FileLocalStore} :
    (FileLocalStore.received P identity nonce contact inner deliveredId receiptRoute now
      store).outboundPending = store.outboundPending := by
  cases deliveredId with
  | none => rfl
  | some id => rfl

theorem FetchStep.outboundSteps
    (hstep : FetchStep P (sendDeliveryReceipt P outside identity) polls identity contactName f f') :
    OutboundSteps P f.world f'.world := by
  cases hstep with
  | refused ratchet => exact .refl
  | accepted ratchet hseq => exact .refl
  | text ratchet hseq attempt deliveredId => exact outboundSteps_of_rows received_outbound
  | receipt ratchet hseq htype hid => exact .single (.deleted _)
  | acknowledged id =>
      unfold Fetching.acknowledged
      split
      · exact .refl
      · exact .refl
  | profile tag round item hread hupdate => exact .refl
  | presence hsave => exact outboundSteps_of_rows (savePresence_outbound hsave)
  | saved => exact .refl
  | counted fetched => exact .refl
  | sent deliveredId route =>
      have hsend : Steps (WorldStep P outside identity AnyName False)
          (sendDeliveryReceipt P outside identity contactName deliveredId route) :=
        worldSteps_sendDeliveryReceipt (anyName _) deliveredId route
      exact outboundSteps_of_steps hsend _
  | refreshed hload => exact .refl

theorem outboundSteps_of_fetchSteps
    (hsteps : Relation.ReflTransGen
      (FetchStep P (sendDeliveryReceipt P outside identity) polls identity contactName) f f') :
    OutboundSteps P f.world f'.world := by
  induction hsteps with
  | refl => exact .refl
  | tail _ hstep ih => exact ih.trans hstep.outboundSteps

/-- **One fetch**, whether it returns or raises. -/
theorem outboundSteps_fetch (outside : Outside) (polls : Polls) (identity : Identity)
    (contactName : String) (route : Option String) (wide quiet : Bool) (w : World) :
    OutboundSteps P w (after
      ((fetchContactInbound P outside polls identity contactName route wide quiet).run w)) := by
  rcases fetch_cases (P := P) outside polls identity contactName route wide quiet w with
    hsame | ⟨contact, -, hopened⟩
  · rw [hsame]
  · have hopening : Steps (WorldStep P outside identity AnyName False)
        (openFetch P (sendDeliveryReceipt P outside identity) outside.env polls identity
          contactName route wide quiet contact) := worldSteps_openFetch (anyName _) contact
    have hbefore := outboundSteps_of_steps hopening w
    rcases hopened with ⟨e, hraised⟩ | ⟨plan, w', f, hopen, hsteps, hworld⟩
    · rw [hraised] at hbefore
      exact hbefore
    · rw [hopen] at hbefore
      rw [hworld]
      exact hbefore.trans (outboundSteps_of_fetchSteps hsteps)

end Fetch

/-- **One command.** -/
theorem execute_outboundSteps (identity : Identity) (w : World) (operation : Operation) :
    OutboundSteps P w (Operation.execute P identity w operation) := by
  cases operation with
  | send outside dummy contactName message route =>
      exact outboundSteps_of_steps (worldSteps_sendCmd (anyName _) dummy message route) w
  | fetch outside polls contactName route wide quiet =>
      exact outboundSteps_fetch outside polls identity contactName route wide quiet w
  | flush outside contactName route =>
      exact outboundSteps_of_steps (worldSteps_flushReceipts route fun pending _ => anyName pending.contactName) w
  | resend outside now contactName route =>
      exact outboundSteps_of_steps (worldSteps_resendPendingForContact (anyName _) now route) w
  | presence outside announce payloads contactName =>
      exact outboundSteps_of_steps (worldSteps_broadcastPresence announce payloads fun name _ => anyName name) w
  | push outside built contactName =>
      exact outboundSteps_of_steps (worldSteps_profilePush (anyName _) built) w
  | sweep now => exact .single (.deleted _)

/-- A run of commands. -/
theorem run_outboundSteps (identity : Identity) (w : World) (operations : List Operation) :
    OutboundSteps P w (Operation.run P identity w operations) := by
  induction operations generalizing w with
  | nil => exact .refl
  | cons operation operations ih =>
      exact (execute_outboundSteps identity w operation).trans (ih _)

/-! ### Stored blobs -/

/-- Every message is pending once, with a blob that was sealed under its id. -/
structure AllKept (P : Packages) (rows : List OutboundPending) : Prop where
  once : (rows.map OutboundPending.key).Nodup
  kept : ∀ row ∈ rows, ∃ outer, row.Keeps P outer

theorem OutboundStep.allKept {rows rows' : List OutboundPending} (hstep : OutboundStep P rows rows')
    (h : AllKept P rows) : AllKept P rows' := by
  cases hstep with
  | @committed row outer hkeeps =>
      refine ⟨Table.nodup_upsert h.once, fun row' hrow' => ?_⟩
      rcases Table.mem_upsert.mp hrow' with ⟨hold, -⟩ | rfl
      · exact h.kept row' hold
      · exact ⟨outer, hkeeps⟩
  | deleted keep =>
      exact ⟨Table.nodup_filter h.once, fun row hrow => h.kept row (List.mem_filter.mp hrow).1⟩

theorem allKept_of_steps {rows rows' : List OutboundPending}
    (hsteps : Relation.ReflTransGen (OutboundStep P) rows rows') (h : AllKept P rows) :
    AllKept P rows' := by
  induction hsteps with
  | refl => exact h
  | tail _ hstep ih => exact hstep.allKept ih

namespace FileLocalStore

theorem outerOf_kept {row : OutboundPending} {outer : OuterBlob} (h : row.Keeps P outer) :
    outerOf row = .ok (some outer) := by
  obtain ⟨version, mailboxTag, expiresAt, ciphertext⟩ := outer
  obtain rfl : version = 1 := h.sealed.version
  have hciphertext : ¬ (b64encode ciphertext = "" ∨ b64encode mailboxTag = "") :=
    not_or.mpr ⟨mt Base64.encode_eq_empty.mp h.sealed.ciphertext,
      mt Base64.encode_eq_empty.mp h.sealed.tag⟩
  unfold outerOf
  rw [h.ciphertext, h.tag, h.expires]
  dsimp only
  rw [if_neg hciphertext, b64decode_b64encode, ok_bind, b64decode_b64encode]
  rfl

/-- A row is found under its key. -/
theorem loadOutboundOuter_kept {store : FileLocalStore} (h : AllKept P store.outboundPending)
    {row : OutboundPending} (hrow : row ∈ store.outboundPending) :
    ∃ outer, row.Keeps P outer
      ∧ store.loadOutboundOuter row.contactName row.msgId = .ok (some outer) := by
  obtain ⟨outer, hkeeps⟩ := h.kept row hrow
  refine ⟨outer, hkeeps, ?_⟩
  have hfind : Table.find OutboundPending.key (row.contactName, row.msgId) store.outboundPending
      = some row := Table.find_of_mem h.once hrow
  rw [loadOutboundOuter, hfind]
  exact outerOf_kept hkeeps

end FileLocalStore

/-! ### Posts -/

/-- What is posted from `h` to `h'` are blobs of this kind. -/
def Posts (blobs : OuterBlob → Prop) (h h' : Handling) : Prop :=
  ∃ new, h'.world.posted = h.world.posted ++ new ∧ ∀ p ∈ new, blobs p.blob

namespace Posts

variable {blobs blobs' : OuterBlob → Prop} {h h' h'' : Handling}

theorem of_same (hsame : h'.world.posted = h.world.posted) : Posts blobs h h' :=
  ⟨[], by rw [hsame, List.append_nil], fun _ hp => absurd hp List.not_mem_nil⟩

theorem trans (hfirst : Posts blobs h h') (hsecond : Posts blobs h' h'') : Posts blobs h h'' := by
  obtain ⟨new, hnew, hblobs⟩ := hfirst
  obtain ⟨new', hnew', hblobs'⟩ := hsecond
  refine ⟨new ++ new', by rw [hnew', hnew, List.append_assoc], fun p hp => ?_⟩
  rcases List.mem_append.mp hp with hp | hp
  · exact hblobs p hp
  · exact hblobs' p hp

theorem mono (hposts : Posts blobs h h') (hsub : ∀ blob, blobs blob → blobs' blob) :
    Posts blobs' h h' := by
  obtain ⟨new, hnew, hblobs⟩ := hposts
  exact ⟨new, hnew, fun p hp => hsub _ (hblobs p hp)⟩

theorem of_steps (hsteps : Relation.ReflTransGen (Posts blobs) h h') : Posts blobs h h' := by
  induction hsteps with
  | refl => exact .of_same rfl
  | tail _ hstep ih => exact ih.trans hstep

end Posts

section Delivery

variable {outside : Outside} {blob : OuterBlob} {now : Int}

theorem posts_fetchRemoteProfile {blobs : OuterBlob → Prop} (signingPublic : Bytes)
    (hints : List String) :
    Steps (Posts blobs) (fetchRemoteProfile P outside signingPublic hints) := by
  intro h
  obtain ⟨exchanges, ⟨e, hrun⟩ | ⟨found, hrun, -⟩⟩ :=
    fetchRemoteProfile_run (P := P) signingPublic hints h
  · rw [hrun]
    exact .single (.of_same rfl)
  · rw [hrun]
    exact .single (.of_same rfl)

theorem posts_refreshContactProfile {blobs : OuterBlob → Prop} :
    Steps (Posts blobs) (refreshContactProfile P outside now) := by
  unfold refreshContactProfile
  refine Steps.get.bind fun h => ?_
  dsimp only
  cases h.contact.deliveryProfile with
  | none => exact .pure false
  | some profile =>
      refine .ite _ (.pure false) ((posts_fetchRemoteProfile _ _).bind fun found => ?_)
      cases found with
      | none => exact .pure false
      | some refreshed =>
          refine (Steps.modify fun h => .of_same rfl).bind fun _ => ?_
          exact (Steps.modify fun h => .of_same rfl).bind fun _ => .pure true

theorem posts_postBlob (address : String) :
    Steps (Posts (· = blob)) (postBlob outside blob address) := by
  unfold postBlob nextExchange
  refine (Steps.get.bind fun h => (Steps.modify fun h => ?_).bind fun _ => .pure _).bind fun n => ?_
  · exact .of_same rfl
  · refine (Steps.modify fun h => ?_).bind fun _ => .orRaise _
    exact ⟨[_], rfl, fun p hp => by rw [List.mem_singleton.mp hp]⟩

theorem postBlob_answered {address : String} {status : Int} {stored : Bool} {h : Handling}
    (hanswer : outside.postAnswer h.world.exchanges address = (stored, .ok status)) :
    (postBlob outside blob address).run h
      = .ok status (h.exchanged (h.world.exchanges + 1)
        (h.world.posted ++ [{ address := address, blob := blob, stored := stored }])) := by
  refine run_bind_ok.mpr ⟨_, _, nextExchange_run h, ?_⟩
  rw [hanswer]
  rfl

/-- A delivery posts its blob and no other. -/
theorem posts_deliverPending (route : Option String) (h : Handling) :
    Posts (· = blob) h (after ((deliverPending P outside blob route now).run h)) := by
  have hdeliver : Steps (Posts (· = blob))
      (deliverEncrypted P outside blob route true now recursionLimit true) :=
    deliverEncrypted_steps posts_refreshContactProfile posts_postBlob route true recursionLimit true
  have hpending : Steps (Posts (· = blob)) (deliverPending P outside blob route now) := by
    unfold deliverPending
    exact Steps.tryCatch (hdeliver.bind fun _ => .pure _) fun e => .ite _ (.pure _) (.raise e)
  exact .of_steps (hpending h)

end Delivery

/-! ### Resends -/

/-- The device with other rows of pending messages. -/
def Handling.withRows (rows : List OutboundPending) (h : Handling) : Handling :=
  { h with world := { h.world with store := { h.world.store with outboundPending := rows } } }

theorem Delivers.withRows {h h' : Handling} (hdelivers : Delivers P h h')
    (rows : List OutboundPending) : Delivers P (h.withRows rows) (h'.withRows rows) := by
  obtain ⟨contacts, hstore⟩ := hdelivers.store
  refine ⟨hdelivers.contact, ⟨contacts, ?_⟩, hdelivers.others, hdelivers.own, hdelivers.accepted,
    hdelivers.receipted⟩
  show { h'.world.store with outboundPending := rows } = _
  rw [hstore]
  rfl

/-- A resend delivers, and deletes rows: the ratchet and the counter of the object stay, and so does
everything that is stored but the contact's profile and the rows. -/
structure Resends (P : Packages) (blobs : OuterBlob → Prop) (h h' : Handling) : Prop where
  delivers : Delivers P h (h'.withRows h.world.store.outboundPending)
  rows : h'.world.store.outboundPending.Sublist h.world.store.outboundPending
  posts : Posts blobs h h'

namespace Resends

variable {blobs blobs' : OuterBlob → Prop} {h h' h'' : Handling}

theorem of_delivers (hdelivers : Delivers P h h') (hposts : Posts blobs h h') :
    Resends P blobs h h' := by
  obtain ⟨contacts, hstore⟩ := hdelivers.store
  have hrows : h'.world.store.outboundPending = h.world.store.outboundPending := by rw [hstore]
  refine ⟨?_, by rw [hrows], hposts⟩
  rw [← hrows]
  exact hdelivers

theorem refl (h : Handling) : Resends P blobs h h := of_delivers (.refl h) (.of_same rfl)

theorem trans (hfirst : Resends P blobs h h') (hsecond : Resends P blobs h' h'') :
    Resends P blobs h h'' :=
  ⟨hfirst.delivers.trans (hsecond.delivers.withRows _), hsecond.rows.trans hfirst.rows,
    hfirst.posts.trans hsecond.posts⟩

theorem mono (hresends : Resends P blobs h h') (hsub : ∀ blob, blobs blob → blobs' blob) :
    Resends P blobs' h h' :=
  ⟨hresends.delivers, hresends.rows, hresends.posts.mono hsub⟩

end Resends

section Resend

variable {outside : Outside} {identity : Identity} {contactName : String} {route : Option String}
  {h : Handling}

/-- A row that is sent again as it is stored stops pending when its blob is delivered. -/
theorem resendRow_stored {row : OutboundPending} {outer : OuterBlob} {h₂ : Handling}
    (hload : h.world.store.loadOutboundOuter contactName row.msgId = .ok (some outer))
    (hpending : (deliverPending P outside outer route (outside.draws h.world.encryptions).now).run
      { h with world := { h.world with encryptions := h.world.encryptions + 1 } } = .ok true h₂) :
    (resendRow P outside identity contactName route row).run h
      = .ok (if h₂.world.store.hasOutbound contactName row.msgId then 1 else 0)
        { h₂ with
          world :=
            { h₂.world with
              store := h₂.world.store.markOutboundDelivered contactName row.msgId } } := by
  have hdraws : (onWorld (nextDraws outside)).run h = .ok (outside.draws h.world.encryptions)
      { h with world := { h.world with encryptions := h.world.encryptions + 1 } } := rfl
  unfold resendRow
  refine run_bind_ok.mpr ⟨_, _, hdraws, ?_⟩
  rw [run_get_bind]
  refine run_orRaise_bind_ok.mpr ⟨_, hload, ?_⟩
  exact run_bind_ok.mpr ⟨_, _, hpending, rfl⟩

theorem delivers_deliverPending {outer : OuterBlob} {now : Int} (h : Handling) :
    Delivers P h (after ((deliverPending P outside outer route now).run h)) := by
  have hdeliver : Steps (DeliveryStep P outside now)
      (deliverEncrypted P outside outer route true now recursionLimit true) :=
    steps_deliverEncrypted route true recursionLimit true
  have hpending : Steps (DeliveryStep P outside now) (deliverPending P outside outer route now) := by
    unfold deliverPending
    exact Steps.tryCatch (hdeliver.bind fun _ => .pure _) fun e => .ite _ (.pure _) (.raise e)
  exact .of_steps (hpending.mono (fun _ _ => DeliveryStep.delivers) h)

/-- A row with a blob ends with its delivery, or with the row deleted after it. -/
theorem after_resendRow {row : OutboundPending} {outer : OuterBlob}
    (hload : h.world.store.loadOutboundOuter contactName row.msgId = .ok (some outer)) :
    let delivered := after ((deliverPending P outside outer route
      (outside.draws h.world.encryptions).now).run
        { h with world := { h.world with encryptions := h.world.encryptions + 1 } })
    after ((resendRow P outside identity contactName route row).run h) = delivered
      ∨ after ((resendRow P outside identity contactName route row).run h)
        = delivered.withRows (Table.delete OutboundPending.key (contactName, row.msgId)
          delivered.world.store.outboundPending) := by
  have hdraws : (onWorld (nextDraws outside)).run h = .ok (outside.draws h.world.encryptions)
      { h with world := { h.world with encryptions := h.world.encryptions + 1 } } := rfl
  intro delivered
  unfold resendRow
  rw [EStateM.run_bind, hdraws]
  dsimp only
  rw [run_get_bind, EStateM.run_bind, hload, run_orRaise_ok]
  dsimp only
  rw [EStateM.run_bind]
  cases hpending : (deliverPending P outside outer route (outside.draws h.world.encryptions).now).run
      { h with world := { h.world with encryptions := h.world.encryptions + 1 } } with
  | error e h₂ =>
      have hdelivered : delivered = h₂ := congrArg after hpending
      rw [hdelivered]
      exact Or.inl rfl
  | ok sent h₂ =>
      have hdelivered : delivered = h₂ := congrArg after hpending
      rw [hdelivered]
      cases sent with
      | false => exact Or.inl rfl
      | true => exact Or.inr rfl

/-- **A row with a blob.** The blob is posted, and no other row is deleted. -/
theorem resendRow_kept {row : OutboundPending} {outer : OuterBlob}
    (hload : h.world.store.loadOutboundOuter contactName row.msgId = .ok (some outer)) :
    Resends P (· = outer) h
        (after ((resendRow P outside identity contactName route row).run h))
      ∧ ∀ row' ∈ h.world.store.outboundPending, row'.key ≠ (contactName, row.msgId) →
        row' ∈ (after ((resendRow P outside identity contactName route
          row).run h)).world.store.outboundPending := by
  let drawn : Handling :=
    { h with world := { h.world with encryptions := h.world.encryptions + 1 } }
  let delivered := after ((deliverPending P outside outer route
    (outside.draws h.world.encryptions).now).run drawn)
  have hdelivers : Delivers P drawn delivered := delivers_deliverPending drawn
  have hdrawn : Resends P (· = outer) h drawn := .of_delivers (.of_world rfl rfl rfl) (.of_same rfl)
  have hresends := hdrawn.trans (.of_delivers hdelivers (posts_deliverPending route drawn))
  have hrows : delivered.world.store.outboundPending = h.world.store.outboundPending := by
    obtain ⟨contacts, hstore⟩ := hdelivers.store
    rw [hstore]
  have hafter : after ((resendRow P outside identity contactName route row).run h) = delivered ∨ _ :=
    after_resendRow hload
  rcases hafter with hafter | hafter
  · rw [hafter]
    refine ⟨hresends, fun row' hrow' _ => ?_⟩
    show row' ∈ delivered.world.store.outboundPending
    rw [hrows]
    exact hrow'
  · rw [hafter]
    refine ⟨⟨hresends.delivers, ?_, hresends.posts⟩, fun row' hrow' hne => ?_⟩
    · show (Table.delete _ _ delivered.world.store.outboundPending).Sublist _
      rw [hrows]
      exact List.filter_sublist
    · show row' ∈ Table.delete _ _ delivered.world.store.outboundPending
      rw [hrows]
      exact Table.mem_delete.mpr ⟨hrow', hne⟩

theorem AllKept.sublist {rows rows' : List OutboundPending} (h : AllKept P rows)
    (hsub : rows'.Sublist rows) : AllKept P rows' :=
  ⟨h.once.sublist (hsub.map _), fun row hrow => h.kept row (hsub.subset hrow)⟩

/-- The rows that are to be sent again are pending, each once. -/
structure Listed (h : Handling) (contactName : String) (rows : List OutboundPending) : Prop where
  once : (rows.map OutboundPending.key).Nodup
  pending : ∀ row ∈ rows, row ∈ h.world.store.outboundPending
  named : ∀ row ∈ rows, row.contactName = contactName

theorem Listed.load {row : OutboundPending} {rows : List OutboundPending}
    (hlisted : Listed h contactName (row :: rows))
    (hkept : AllKept P h.world.store.outboundPending) : ∃ outer, row.Keeps P outer
      ∧ h.world.store.loadOutboundOuter contactName row.msgId = .ok (some outer) := by
  have hload := FileLocalStore.loadOutboundOuter_kept hkept (hlisted.pending row List.mem_cons_self)
  rwa [hlisted.named row List.mem_cons_self] at hload

/-- After a row the others are still pending. -/
theorem Listed.rest {row : OutboundPending} {rows : List OutboundPending} {h₁ : Handling}
    (hlisted : Listed h contactName (row :: rows))
    (hothers : ∀ row' ∈ h.world.store.outboundPending, row'.key ≠ (contactName, row.msgId) →
      row' ∈ h₁.world.store.outboundPending) : Listed h₁ contactName rows := by
  obtain ⟨hnot, honce⟩ := List.nodup_cons.mp (List.map_cons ▸ hlisted.once)
  refine ⟨honce, fun row' hrow' => ?_, fun row' hrow' =>
    hlisted.named row' (List.mem_cons_of_mem _ hrow')⟩
  refine hothers row' (hlisted.pending row' (List.mem_cons_of_mem _ hrow')) fun hkey => hnot ?_
  have hsame : row'.key = row.key := by
    rw [hkey, ← hlisted.named row List.mem_cons_self]
    rfl
  exact hsame ▸ List.mem_map_of_mem hrow'

theorem after_resendRows {row : OutboundPending} {rows : List OutboundPending} {resent : Nat}
    {h₁ : Handling} (hrun : (resendRow P outside identity contactName route row).run h = .ok resent h₁) :
    after ((resendRows P outside identity contactName route (row :: rows)).run h)
      = after ((resendRows P outside identity contactName route rows).run h₁) := by
  rw [resendRows, EStateM.run_bind, hrun]
  dsimp only
  rw [EStateM.run_bind]
  cases (resendRows P outside identity contactName route rows).run h₁ with
  | ok others h₂ => rfl
  | error e h₂ => rfl

/-- The pass over the rows. -/
theorem resendRows_kept {rows : List OutboundPending}
    (hkept : AllKept P h.world.store.outboundPending) (hlisted : Listed h contactName rows) :
    Resends P (fun blob => ∃ row ∈ rows, row.Keeps P blob) h
      (after ((resendRows P outside identity contactName route rows).run h)) := by
  induction rows generalizing h with
  | nil => exact .refl h
  | cons row rows ih =>
      obtain ⟨outer, hkeeps, hload⟩ := hlisted.load hkept
      have hresent : Resends P (· = outer) h
          (after ((resendRow P outside identity contactName route row).run h)) ∧ _ :=
        resendRow_kept hload
      obtain ⟨hfirst, hothers⟩ := hresent
      have hblob : ∀ blob, blob = outer → ∃ row' ∈ row :: rows, row'.Keeps P blob := by
        rintro _ rfl
        exact ⟨row, List.mem_cons_self, hkeeps⟩
      cases hrun : (resendRow P outside identity contactName route row).run h with
      | error e h₁ =>
          rw [hrun] at hfirst
          rw [resendRows, EStateM.run_bind, hrun]
          exact hfirst.mono hblob
      | ok resent h₁ =>
          rw [hrun] at hfirst hothers
          have hrest := ih (hkept.sublist hfirst.rows) (hlisted.rest hothers)
          rw [after_resendRows hrun]
          refine (hfirst.mono hblob).trans (hrest.mono fun blob hblob => ?_)
          obtain ⟨row', hrow', hkeeps'⟩ := hblob
          exact ⟨row', List.mem_cons_of_mem _ hrow', hkeeps'⟩

end Resend

/-- What a resend to a contact does: it posts the blobs of the pending rows as they are stored, and
it changes nothing that is stored but the contact's profile and the rows that it deletes. -/
structure ResendsAsSealed (P : Packages) (contactName : String) (now : Int) (w w' : World) :
    Prop where
  posts : ∃ new, w'.posted = w.posted ++ new ∧ ∀ p ∈ new,
    ∃ row ∈ w.store.listOutboundPending contactName now,
      w.store.loadOutboundOuter contactName row.msgId = .ok (some p.blob)
        ∧ row.msgId = messageId P p.blob.ciphertext
  rows : w'.store.outboundPending.Sublist w.store.outboundPending
  store : ∃ contacts rows, w'.store = { w.store with contacts, outboundPending := rows }
  others : ∀ name, name ≠ contactName →
    Table.find ContactDict.name name w'.store.contacts
      = Table.find ContactDict.name name w.store.contacts
  own : Table.find ContactDict.name contactName w'.store.contacts
        = Table.find ContactDict.name contactName w.store.contacts
      ∨ ∃ contact profile, w.store.getContact P contactName = .ok (some contact)
        ∧ Table.find ContactDict.name contactName w'.store.contacts
          = some (Contact.toDict P { contact with deliveryProfile := profile })
  accepted : w'.accepted = w.accepted

theorem ResendsAsSealed.refl (contactName : String) (now : Int) (w : World) :
    ResendsAsSealed P contactName now w w :=
  ⟨⟨[], (List.append_nil _).symm, fun _ hp => absurd hp List.not_mem_nil⟩, .refl _, ⟨_, _, rfl⟩,
    fun _ _ => rfl, Or.inl rfl, rfl⟩

theorem mem_listOutboundPending {store : FileLocalStore} {contactName : String} {now : Int}
    {row : OutboundPending} (h : row ∈ store.listOutboundPending contactName now) :
    row ∈ store.outboundPending ∧ row.contactName = contactName := by
  have hrow := (orderBy_perm OutboundPending.seq _).mem_iff.mp h
  obtain ⟨hmem, hwhere⟩ := List.mem_filter.mp hrow
  exact ⟨hmem, (of_decide_eq_true hwhere).1⟩

theorem listed_listOutboundPending {h : Handling}
    (hkept : AllKept P h.world.store.outboundPending) (contactName : String) (now : Int) :
    Listed h contactName (h.world.store.listOutboundPending contactName now) :=
  ⟨((orderBy_perm OutboundPending.seq _).map _).nodup_iff.mpr (Table.nodup_filter hkept.once),
    fun _ hrow => (mem_listOutboundPending hrow).1, fun _ hrow => (mem_listOutboundPending hrow).2⟩

theorem Resends.asSealed {contactName : String} {now : Int} {w : World} {contact : Contact}
    {h : Handling} (hkept : AllKept P w.store.outboundPending)
    (hcontact : w.store.getContact P contactName = .ok (some contact))
    (hname : contact.name = contactName)
    (hresends : Resends P
      (fun blob => ∃ row ∈ w.store.listOutboundPending contactName now, row.Keeps P blob)
      { world := w, contact } h) : ResendsAsSealed P contactName now w h.world := by
  obtain ⟨new, hnew, hblobs⟩ := hresends.posts
  obtain ⟨contacts, hstore⟩ := hresends.delivers.store
  constructor
  case posts =>
    refine ⟨new, hnew, fun p hp => ?_⟩
    obtain ⟨row, hrow, hkeeps⟩ := hblobs p hp
    obtain ⟨hmem, rfl⟩ := mem_listOutboundPending hrow
    obtain ⟨outer, hkeeps', hload⟩ := FileLocalStore.loadOutboundOuter_kept hkept hmem
    refine ⟨row, hrow, ?_, hkeeps.sealed.id⟩
    have hsame : FileLocalStore.outerOf row = .ok (some p.blob) :=
      FileLocalStore.outerOf_kept hkeeps
    rw [FileLocalStore.outerOf_kept hkeeps'] at hsame
    rw [hload]
    exact hsame
  case rows => exact hresends.rows
  case store =>
    let back (store : FileLocalStore) : FileLocalStore :=
      { store with outboundPending := h.world.store.outboundPending }
    exact ⟨contacts, h.world.store.outboundPending, congrArg back hstore⟩
  case others =>
    intro name hne
    exact hresends.delivers.others name (hname ▸ hne)
  case own =>
    have hown := hresends.delivers.own
    rw [hname] at hown
    exact hown.imp_right fun ⟨profile, hsaved⟩ => ⟨contact, profile, hcontact, hsaved⟩
  case accepted => exact hresends.delivers.accepted

/-- **One resend** of a device whose rows have their blobs. -/
theorem resendPending_asSealed {identity : Identity} {outside : Outside} {contactName : String}
    {route : Option String} {now : Int} {w : World} (hkept : AllKept P w.store.outboundPending) :
    ResendsAsSealed P contactName now w
      (after ((resendPendingForContact P outside identity now contactName route).run w)) := by
  unfold resendPendingForContact
  rw [run_get_bind]
  dsimp only
  cases hcontact : w.store.getContact P contactName with
  | error e => exact .refl contactName now w
  | ok found =>
      rw [EStateM.run_bind, run_orRaise_ok]
      cases found with
      | none => exact .refl contactName now w
      | some contact =>
          obtain ⟨d, -, -, hname⟩ := getContact_ok hcontact
          have hresends : Resends P
              (fun blob => ∃ row ∈ w.store.listOutboundPending contactName now, row.Keeps P blob)
              { world := w, contact }
              (after ((resendRows P outside identity contactName route
                (w.store.listOutboundPending contactName now)).run { world := w, contact })) :=
            resendRows_kept hkept (listed_listOutboundPending hkept contactName now)
          have hafter : after ((withContact contact (resendRows P outside identity contactName route
              (w.store.listOutboundPending contactName now))).run w)
                = (after ((resendRows P outside identity contactName route
                  (w.store.listOutboundPending contactName now)).run
                    { world := w, contact })).world := by
            rw [run_withContact]
            cases (resendRows P outside identity contactName route
              (w.store.listOutboundPending contactName now)).run { world := w, contact } with
            | ok resent h => rfl
            | error e h => rfl
          dsimp only
          rw [hafter]
          generalize after ((resendRows P outside identity contactName route
            (w.store.listOutboundPending contactName now)).run { world := w, contact }) = h
            at hresends
          exact hresends.asSealed hkept hcontact hname

namespace PendingSample

open Sample (alice pairing key nonce)

/-- Alice has paired with Bob. -/
def start : World := { store := FileLocalStore.saveContact plainPackages pairing.inviterContact {} }

/-- There is one relay, and this is what becomes of every blob posted to it. -/
def outside (answer : Bool × Except PyExc Int) : Outside where
  env := { relayUrl := some "http://relay" }
  profileAnswer _ _ := .error (.httpError "unreachable")
  postAnswer _ _ := answer
  draws n := { now := 0, ratchetPrivate := key (20 + n), nonce := nonce (20 + n) }

def unreachable : Outside := outside (false, .error (.httpError "unreachable"))

def dummy : DummyDraws where
  now := 0
  payload := BytesN.fill (size4K - 40) 8
  nonce := nonce 9
  tag := BytesN.fill 16 10

/-- Alice sends Bob a message that does not reach the relay. -/
def greeting : Operation := .send unreachable dummy "bob" "hi bob" none

/-- She sends it again, and the relay takes it. -/
def resending : Operation := .resend (outside (true, .ok 201)) 0 "bob" none

end PendingSample

end Yakr
