import Yakr.Cli.Commands
import Yakr.Cli.Sending

/-!
# Yakr.Cli.SendSteps

**What the commands that send can do.** Every command that sends, and the sending of a receipt, is
made of the same few things: a contact object is loaded, its ratchet and counter move, it is saved
with or without a row of a pending message, a delivery is tried, and rows of messages and receipts
that were delivered are deleted. `SendStep` lists them for the work on a contact object,
`WorldStep` for the device; what holds of each of them holds of every command.
-/

namespace Yakr

open Lib Effect

variable {P : Packages}

/-! ### Blobs that are taken -/

/-- A server has answered a POST that it took the blob. -/
def Taken (outside : Outside) : Prop :=
  ∃ n address stored status, outside.postAnswer n address = (stored, .ok status)
    ∧ (status = 200 ∨ status = 201)

/-- The blob was posted, and this was the status of the answer. -/
def AnsweredWith (outside : Outside) (blob : OuterBlob) (status : Int) (h : Handling) : Prop :=
  ∃ p ∈ h.world.posted, p.blob = blob
    ∧ ∃ n, outside.postAnswer n p.address = (p.stored, .ok status)

/-- The blob was posted, and a server answered that it took it. -/
def Answered (outside : Outside) (blob : OuterBlob) (h : Handling) : Prop :=
  ∃ status, AnsweredWith outside blob status h ∧ (status = 200 ∨ status = 201)

theorem Answered.taken {outside : Outside} {blob : OuterBlob} {h : Handling}
    (hanswered : Answered outside blob h) : Taken outside := by
  obtain ⟨status, ⟨p, -, -, n, hanswer⟩, hstatus⟩ := hanswered
  exact ⟨n, p.address, p.stored, status, hanswer, hstatus⟩

/-- Nothing is asked of the state before. -/
abbrev Anywhere : Handling → Prop := fun _ => True

/-- What may come before the rest or not decides nothing of where the rest returns. -/
theorem triple_before {α β : Type} {Q : β → Handling → Prop} {c : Prop} [Decidable c]
    {m : HandlingM α} {rest : HandlingM β} (hrest : Triple Anywhere rest Q) :
    Triple Anywhere (if c then m >>= fun _ => rest else rest) Q :=
  .ite c (fun _ => Triple.last fun _ => hrest) fun _ => hrest

section Answers

variable {outside : Outside} {blob : OuterBlob} {now : Int}

theorem postBlob_answers (address : String) :
    Triple Anywhere (postBlob outside blob address) (AnsweredWith outside blob) := by
  intro h _ status h' hrun
  unfold postBlob at hrun
  rw [EStateM.run_bind, nextExchange_run] at hrun
  dsimp only at hrun
  rw [run_modify_bind] at hrun
  obtain ⟨hanswer, rfl⟩ := run_orRaise_eq_ok.mp hrun
  -- the POST is the last one of the list
  exact ⟨_, List.mem_append_right _ (List.mem_singleton_self _), rfl, _, Prod.ext rfl hanswer⟩

theorem tryDirectDelivery_answers (hints : List String) :
    Triple Anywhere (tryDirectDelivery (postBlob outside blob) hints)
      (fun sent h => sent = true → Answered outside blob h) := by
  induction hints with
  | nil =>
      refine .pure ?_
      intro h _ hfalse
      cases hfalse
  | cons hint hints ih =>
      have hattempt : Triple Anywhere (attempt (postBlob outside blob (rstripSlash hint)))
          (fun answer h => ∀ status ∈ answer, AnsweredWith outside blob status h) := by
        intro h _ answer h' hrun
        rw [attempt_run] at hrun
        cases hpost : (postBlob outside blob (rstripSlash hint)).run h with
        | ok status h'' =>
            rw [hpost] at hrun
            cases hrun
            rintro _ ⟨⟩
            exact postBlob_answers _ h trivial status _ hpost
        | error e h'' =>
            rw [hpost] at hrun
            dsimp only at hrun
            split at hrun
            · cases hrun
              rintro _ ⟨⟩
            · cases hrun
      refine hattempt.seq fun answer => ?_
      cases answer with
      | none => exact fun h _ => ih h trivial
      | some status =>
          refine .ite _ (fun hstatus => .pure ?_) fun _ h _ => ih h trivial
          intro h hanswered _
          exact ⟨status, hanswered status rfl, hstatus⟩

theorem sendEncrypted_answers (relayUrl : String) :
    Triple Anywhere (sendEncrypted outside blob relayUrl) (fun _ => Answered outside blob) := by
  unfold sendEncrypted
  refine (postBlob_answers _).seq fun status => .ite _ (fun _ => .raise _) fun hstatus => .pure ?_
  intro h hanswered
  exact ⟨status, hanswered, Or.inr (not_not.mp hstatus)⟩

theorem tryRelays_answers (relayUrls : List String) :
    Triple Anywhere (tryRelays outside blob relayUrls)
      (fun taken h => taken ≠ none → Answered outside blob h) := by
  induction relayUrls with
  | nil =>
      refine .pure ?_
      intro h _ hne
      exact absurd rfl hne
  | cons relayUrl relayUrls ih =>
      have hsent : Triple Anywhere
          (tryCatch (do
            sendEncrypted outside blob relayUrl
            return true)
            fun e => if e.isDeliveryError then pure false else throw e)
          (fun sent h => sent = true → Answered outside blob h) := by
        refine Triple.tryCatch ?_ fun e => .ite _ (fun _ => .pure ?_) fun _ => .raise e
        · refine (sendEncrypted_answers relayUrl).seq fun _ => .pure ?_
          intro h hanswered _
          exact hanswered
        · intro h _ hfalse
          cases hfalse
      unfold tryRelays
      refine hsent.seq fun sent => .ite _ (fun htrue => .pure ?_) fun _ h _ => ih h trivial
      intro h hanswered _
      exact hanswered htrue

theorem deliverDirect_answers (allowDirect : Bool) :
    Triple Anywhere (deliverDirect outside blob allowDirect)
      (fun sent h => sent = true → Answered outside blob h) := by
  have hnone : Triple Anywhere (pure false : HandlingM Bool)
      (fun sent h => sent = true → Answered outside blob h) := by
    refine .pure ?_
    intro h _ hfalse
    cases hfalse
  unfold deliverDirect
  refine Triple.last fun h => ?_
  cases h.contact.deliveryProfile with
  | none => exact hnone
  | some profile => exact .ite _ (fun _ => tryDirectDelivery_answers _) fun _ => hnone

/-- A delivery that returns has posted its blob, and a server has taken it. -/
theorem deliverEncrypted_answers (route : Option String) (allowDirect : Bool) (depth : Nat)
    (retryOnStale : Bool) :
    Triple Anywhere (deliverEncrypted P outside blob route allowDirect now depth retryOnStale)
      (fun _ => Answered outside blob) := by
  induction depth generalizing retryOnStale with
  | zero => exact .raise _
  | succ depth ih =>
      -- a refresh asks the hints, and only what follows it can return
      have hrefreshed : ∀ e : PyExc, ∀ refreshed : Bool, Triple Anywhere
          (if refreshed then deliverEncrypted P outside blob route allowDirect now depth false
            else throw e) (fun _ => Answered outside blob) := by
        intro e refreshed
        exact .ite _ (fun _ => ih false) fun _ => .raise e
      unfold deliverEncrypted
      dsimp only
      refine triple_before ((deliverDirect_answers allowDirect).seq fun direct =>
        .ite _ (fun htrue => .pure ?_) fun _ => ?_)
      · intro h hanswered
        exact hanswered htrue
      · refine Triple.last fun h => Triple.last fun _ => Triple.last fun relayUrls => ?_
        split
        · refine Triple.tryCatch ((sendEncrypted_answers _).seq fun _ => .pure ?_)
            fun e => .guard (Triple.last (hrefreshed e))
          intro h hanswered
          exact hanswered
        · refine (tryRelays_answers relayUrls).seq fun taken => ?_
          cases taken with
          | some relayUrl =>
              refine .pure ?_
              intro h hanswered
              exact hanswered (Option.some_ne_none _)
          | none =>
              dsimp only
              split
              · exact Triple.last (hrefreshed _)
              · exact Triple.last (hrefreshed _)

/-- A delivery that returns has had an answer that the blob was taken. -/
theorem deliverEncrypted_taken (route : Option String) (allowDirect : Bool) (depth : Nat)
    (retryOnStale : Bool) :
    Returns (fun _ => Taken outside)
      (deliverEncrypted P outside blob route allowDirect now depth retryOnStale) :=
  (deliverEncrypted_answers route allowDirect depth retryOnStale).returns
    fun _ _ hanswered => hanswered.taken

end Answers

/-! ### Work on a contact object -/

/-- A blob as it is sealed, and the id it is sealed under. -/
structure SealedAs (P : Packages) (msgId : String) (outer : OuterBlob) : Prop where
  id : msgId = messageId P outer.ciphertext
  version : outer.version = 1
  ciphertext : outer.ciphertext ≠ []
  tag : outer.mailboxTag ≠ []

/-- The blob of a receipt for a message. -/
def SealsReceipt (P : Packages) (identity : Identity) (deliveredId : String) (blob : OuterBlob) :
    Prop :=
  ∃ draws contact receipt contact',
    (encryptReceipt P identity draws deliveredId).run contact = .ok receipt contact'
      ∧ receipt.outerBlob = blob

/-- What a command does to an object of the contact with this name and to the device, one thing at a
time; rows of pending messages are deleted only where `marks` holds. -/
inductive SendStep (P : Packages) (outside : Outside) (identity : Identity) (name : String)
    (marks : Prop) : Handling → Handling → Prop
  | delivery {h h' : Handling} (n : Nat)
      (hstep : DeliveryStep P outside (outside.draws n).now h h') :
      SendStep P outside identity name marks h h'
  | drew {h : Handling} (encryptions : Nat) :
      SendStep P outside identity name marks h { h with world := { h.world with encryptions } }
  | sealed {h : Handling} (ratchet : Option RatchetState) (nextSendSeq : Int) :
      SendStep P outside identity name marks h { h with contact := { h.contact with ratchet, nextSendSeq } }
  | saved {h : Handling} :
      SendStep P outside identity name marks h
        { h with world := { h.world with store := h.world.store.saveContact P h.contact } }
  | committed {h : Handling} {msgId : String} {outer : OuterBlob} (seq : Int) (body : String)
      (now : Int) (hsealed : SealedAs P msgId outer) :
      SendStep P outside identity name marks h
        { h with world := { h.world with
            store := h.world.store.atomicCommitSend P h.contact msgId seq body outer now } }
  | marked {h : Handling} (msgId : String) (hmarks : marks) :
      SendStep P outside identity name marks h
        { h with world := { h.world with
            store := h.world.store.markOutboundDelivered name msgId } }
  | noted {h : Handling} {msgId : String} {version : Int} {names : List String}
      {store : FileLocalStore}
      (hsave : h.world.store.saveProfileAckPending name msgId version names = .ok store) :
      SendStep P outside identity name marks h { h with world := { h.world with store } }
  | receipted {h : Handling} {deliveredId : String} {blob : OuterBlob}
      (hseals : SealsReceipt P identity deliveredId blob) (hanswered : Answered outside blob h) :
      SendStep P outside identity name marks h
        { h with world := { h.world with
            store := h.world.store.deletePendingReceipt name deliveredId
            receipted := h.world.receipted ++ [(name, deliveredId)] } }
  | queued {h : Handling} (deliveredId : String) (route : Option String) (now : Int) :
      SendStep P outside identity name marks h
        { h with world := { h.world with
            store := h.world.store.savePendingReceipt name deliveredId route now } }

section Steps

variable {outside : Outside} {marks : Prop} {identity : Identity} {name : String}

theorem steps_delivery {α : Type} {m : HandlingM α} (n : Nat)
    (hm : Steps (DeliveryStep P outside (outside.draws n).now) m) :
    Steps (SendStep P outside identity name marks) m :=
  hm.mono fun _ _ => .delivery n

/-- A method of the session that moves the ratchet and the counter only. -/
theorem steps_onContact {α : Type} {m : SessionM α}
    (hm : ∀ c, ∃ ratchet nextSendSeq, after (m.run c) = { c with ratchet, nextSendSeq }) :
    Steps (SendStep P outside identity name marks) (onContact m) := by
  refine .onPart fun h => ?_
  obtain ⟨ratchet, nextSendSeq, hafter⟩ := hm h.contact
  rw [hafter]
  exact .sealed ratchet nextSendSeq

theorem steps_encrypt (draws : Draws) (build : String → String → Int → InnerMessage) :
    Steps (SendStep P outside identity name marks) (onContact (encryptMessage P identity draws build)) := by
  refine steps_onContact fun c => ?_
  cases hrun : (encryptMessage P identity draws build).run c with
  | ok e c' =>
      obtain ⟨r, r', padded, -, -, -, rfl⟩ := (encryptMessage_ok hrun).ratchet
      exact ⟨_, _, rfl⟩
  | error e c' =>
      obtain ⟨r, rfl⟩ := encryptMessage_error hrun
      exact ⟨_, _, rfl⟩

/-- A payload starts with its header. -/
theorem encrypt_ne_nil (g : PrivateKey) (nonce : Nonce) (plaintext : Bytes) :
    Returns (fun payload => payload ≠ []) (RatchetState.encrypt P g nonce plaintext) := by
  unfold RatchetState.encrypt
  refine Returns.bind fun _ => Returns.bind fun _ => Returns.bind fun s => ?_
  have haad : Returns (fun aad : Bytes => aad ≠ [])
      (orRaise (RatchetState.headerAad s.dhSelfPublic s.prevSendN s.sendN) : RatchetM Bytes) := by
    intro r aad r' hrun hnil
    obtain ⟨haad, -⟩ := run_orRaise_eq_ok.mp hrun
    obtain ⟨-, -, rfl⟩ := RatchetState.headerAad_inv haad
    have hlen := congrArg List.length hnil
    simp [RatchetState.header] at hlen
  refine haad.seq fun aad haad => Returns.bind fun ciphertext => Returns.bind fun _ => .pure ?_
  exact List.append_ne_nil_of_left_ne_nil haad _

theorem encrypt_sealed (draws : Draws) (build : String → String → Int → InnerMessage) :
    Returns (fun encrypted => SealedAs P encrypted.msgId encrypted.outerBlob)
      (onContact (encryptMessage P identity draws build)) := by
  intro h encrypted h' hrun
  obtain ⟨c', hrun, -⟩ := run_onPart_ok.mp hrun
  have hencrypts := encryptMessage_ok hrun
  obtain ⟨r, r', padded, -, -, hpayload, -⟩ := hencrypts.ratchet
  have houter := hencrypts.outer
  have htag : encrypted.outerBlob.mailboxTag = encrypted.mailboxTag.tag := by rw [houter]; rfl
  refine ⟨hencrypts.msgId, by rw [houter]; rfl, encrypt_ne_nil _ _ _ _ _ _ hpayload, ?_⟩
  obtain ⟨epoch, -, hderived⟩ := bind_ok.mp hencrypts.tag
  rw [htag, ← Except.ok.inj hderived]
  intro hnil
  have hlen := (P.hmacSha256 _ _).2.symm.trans (congrArg List.length hnil)
  cases hlen

theorem steps_rollbackRatchet (snapshot : RatchetDict) :
    Steps (SendStep P outside identity name marks) (onContact (rollbackRatchet snapshot)) := by
  refine steps_onContact fun c => ?_
  obtain ⟨r, hr⟩ := TouchesRatchet.onRatchet (RatchetState.restoreSnapshot snapshot) c
  exact ⟨r, c.nextSendSeq, hr⟩

theorem steps_ratchetSnapshot :
    Steps (SendStep P outside identity name marks) (onContact ratchetSnapshot) := by
  have hsame : ∀ c, after (ratchetSnapshot.run c) = c := by
    intro c
    unfold ratchetSnapshot
    rw [run_get_bind]
    split
    · rfl
    · rfl
  exact steps_onContact fun c => ⟨c.ratchet, c.nextSendSeq, hsame c⟩

theorem steps_saveContact : Steps (SendStep P outside identity name marks) (saveHandled P) :=
  .modify fun _ => .saved

/-- What a transaction leaves: what its statements wrote, or everything as it was. -/
theorem after_transaction (body : FileLocalStore.StoreM Unit) (store : FileLocalStore) :
    after ((FileLocalStore.transaction body).run store) = store
      ∨ ∃ store', body.run store = .ok () store'
        ∧ after ((FileLocalStore.transaction body).run store) = store' := by
  show after (FileLocalStore.transaction body store) = store ∨ ∃ store', _
    ∧ after (FileLocalStore.transaction body store) = store'
  unfold FileLocalStore.transaction
  cases hbody : body.run store with
  | ok u store' => exact Or.inr ⟨store', rfl, rfl⟩
  | error e store' => exact Or.inl rfl

theorem injectFault_ok {fault : String} {store store' : FileLocalStore} {u : Unit}
    (h : (FileLocalStore.injectFault fault).run store = .ok u store') : store' = store := by
  unfold FileLocalStore.injectFault at h
  rw [run_get_bind] at h
  split at h
  · cases h
  · cases h
    rfl

/-- The commit of a message writes the object and the row, or nothing. -/
theorem steps_commitSend (now : Int) (body : String) {encrypted : EncryptedMessage}
    (hsealed : SealedAs P encrypted.msgId encrypted.outerBlob) :
    Steps (SendStep P outside identity name marks) (commitSend P now body encrypted) := by
  intro h
  let statements : FileLocalStore.StoreM Unit := do
    FileLocalStore.injectFault "outbound_pending"
    orRaise (sqlInteger encrypted.innerMessage.seq)
    modify (FileLocalStore.atomicCommitSend P h.contact encrypted.msgId
      encrypted.innerMessage.seq body encrypted.outerBlob now)
  have hrun : after ((commitSend P now body encrypted).run h)
      = { h with world := { h.world with
          store := after ((FileLocalStore.transaction statements).run h.world.store) } } := by
    unfold commitSend
    rw [run_get_bind]
    exact after_onPart
  rw [hrun]
  rcases after_transaction statements h.world.store with hsame | ⟨store, hbody, hstore⟩
  · rw [hsame]
  · obtain ⟨u, store₁, hfault, hbody⟩ := run_bind_ok.mp hbody
    obtain rfl := injectFault_ok hfault
    obtain ⟨u', -, hbody⟩ := run_orRaise_bind_ok.mp hbody
    cases hbody
    rw [hstore]
    exact .single (.committed _ _ _ hsealed)

/-! ### Receipts -/

theorem encryptReceipt_seals {draws : Draws} {deliveredId : String} :
    Returns (fun receipt => SealsReceipt P identity deliveredId receipt.outerBlob)
      (onContact (encryptReceipt P identity draws deliveredId)) := by
  intro h receipt h' hrun
  obtain ⟨contact', hreceipt, -⟩ := run_onPart_ok.mp hrun
  exact ⟨draws, h.contact, receipt, contact', hreceipt, rfl⟩

theorem steps_sendReceipt (n : Nat) (deliveredId : String) (route : Option String) :
    Steps (SendStep P outside identity name marks)
      (sendReceipt P outside identity (outside.draws n) name deliveredId route) := by
  unfold sendReceipt
  refine Steps.get.bind fun h => (Steps.orRaise _).bind fun _ => ?_
  refine steps_ratchetSnapshot.bind fun snapshot => Steps.get.bind fun h => ?_
  refine (steps_encrypt _ _).bind_returns encryptReceipt_seals fun receipt hseals => ?_
  refine (steps_rollbackRatchet _).bind fun _ => ?_
  refine steps_saveContact.bind fun _ => Steps.tryCatch ?_ fun e => .ite _ ?_ (.raise e)
  · refine (steps_delivery n (steps_deliverEncrypted none false recursionLimit true)).bind_triple
      (deliverEncrypted_answers _ _ _ _) ?_
    intro delivery h hanswered
    exact .single (.receipted hseals hanswered)
  · refine (steps_rollbackRatchet _).bind fun _ => ?_
    refine (Steps.modify fun h => .sealed h.contact.ratchet _).bind fun _ => ?_
    refine steps_saveContact.bind fun _ => ?_
    exact (Steps.modify fun h => .queued deliveredId route _).bind fun _ => .pure _

/-! ### Messages -/

theorem steps_sendDummyBlob (route : Option String) (draws : DummyDraws) :
    Steps (SendStep P outside identity name marks) (sendDummyBlob P outside identity route draws) := by
  unfold sendDummyBlob
  refine Steps.get.bind fun h => (Steps.orRaise _).bind fun found => ?_
  exact (steps_delivery 0 (steps_postBlob _)).bind fun _ => .pure _

theorem steps_sendText (n : Nat) (dummy : DummyDraws) (message : String) (route : Option String) :
    Steps (SendStep P outside identity name marks)
      (sendText P outside identity (outside.draws n) dummy message route) := by
  unfold sendText
  refine Steps.get.bind fun h => (Steps.orRaise _).bind fun _ => ?_
  refine (steps_encrypt _ _).bind_returns (encrypt_sealed _ _) fun encrypted hsealed =>
    (steps_commitSend _ _ hsealed).bind fun _ => ?_
  refine (steps_delivery n (steps_deliverEncrypted route true recursionLimit true)).bind
    fun delivery => Steps.get.bind fun h => ?_
  exact steps_before (steps_sendDummyBlob route dummy) (.pure delivery)

theorem steps_deliverPending (n : Nat) (blob : OuterBlob) (route : Option String) :
    Steps (SendStep P outside identity name marks)
      (deliverPending P outside blob route (outside.draws n).now) := by
  unfold deliverPending
  refine Steps.tryCatch ?_ fun e => .ite _ (.pure _) (.raise e)
  exact (steps_delivery n (steps_deliverEncrypted route true recursionLimit true)).bind
    fun _ => .pure _

theorem deliverPending_taken (blob : OuterBlob) (route : Option String) (now : Int) :
    Returns (fun sent => sent = true → Taken outside) (deliverPending P outside blob route now) := by
  unfold deliverPending
  refine Returns.tryCatch ?_ fun e => .ite _ (.pure nofun) (.raise e)
  exact (deliverEncrypted_taken route true recursionLimit true).seq
    fun _ htaken => .pure fun _ => htaken

theorem steps_markDelivered (hmarks : marks) (msgId : String) :
    Steps (SendStep P outside identity name marks) (markDelivered name msgId) := by
  unfold markDelivered
  refine Steps.get.bind fun h => ?_
  exact (Steps.modify fun h => .marked msgId hmarks).bind fun _ => .pure _

theorem nextDraws_returns :
    Returns (fun draws => ∃ n, draws = outside.draws n) (onWorld (nextDraws outside)) := by
  intro h draws h' hrun
  cases hrun
  exact ⟨_, rfl⟩

theorem steps_nextDraws : Steps (SendStep P outside identity name marks) (onWorld (nextDraws outside)) :=
  .onPart fun _ => .drew _

/-- A row is deleted only after a server has taken its message. -/
theorem steps_resendRow (route : Option String) (row : OutboundPending) :
    Steps (SendStep P outside identity name (Taken outside))
      (resendRow P outside identity name route row) := by
  unfold resendRow
  refine steps_nextDraws.bind_returns nextDraws_returns ?_
  rintro _ ⟨n, rfl⟩
  refine Steps.get.bind fun h => (Steps.orRaise _).bind fun outer => ?_
  cases outer with
  | some outer =>
      refine (steps_deliverPending n outer route).bind_returns (deliverPending_taken _ _ _)
        fun sent hsent => ?_
      split
      · rename_i htrue
        exact (steps_markDelivered (hsent htrue) _).bind fun _ => .pure _
      · exact .pure _
  | none =>
      refine (Steps.modify fun h => .sealed h.contact.ratchet _).bind fun _ => ?_
      refine Steps.get.bind fun h => (Steps.orRaise _).bind fun _ => ?_
      refine (steps_encrypt _ _).bind_returns (encrypt_sealed _ _) fun encrypted hsealed =>
        (steps_commitSend _ _ hsealed).bind fun _ => ?_
      refine (steps_deliverPending n encrypted.outerBlob route).bind_returns
        (deliverPending_taken _ _ _) fun sent hsent => ?_
      split
      · rename_i htrue
        have hlast : Steps (SendStep P outside identity name (Taken outside)) (do
            return if ← markDelivered name encrypted.msgId then 1 else 0 : HandlingM Nat) :=
          (steps_markDelivered (hsent htrue) _).bind fun _ => .pure _
        exact steps_before (steps_markDelivered (hsent htrue) _) hlast
      · exact .pure _

theorem steps_resendRows (route : Option String) (rows : List OutboundPending) :
    Steps (SendStep P outside identity name (Taken outside))
      (resendRows P outside identity name route rows) := by
  induction rows with
  | nil => exact .pure 0
  | cons row rows ih =>
      exact (steps_resendRow route row).bind fun _ => ih.bind fun _ => .pure _

theorem steps_pushPresence (announce : (delivered : Bool) → Except PyExc Unit)
    (payload : PresencePayload) :
    Steps (SendStep P outside identity name marks) (pushPresence P outside identity announce payload) := by
  unfold pushPresence
  refine steps_nextDraws.bind_returns nextDraws_returns ?_
  rintro _ ⟨n, rfl⟩
  refine (steps_encrypt _ _).bind fun encrypted => steps_saveContact.bind fun _ => ?_
  refine Steps.tryCatch ?_ fun e => .guard ((Steps.orRaise _).bind fun _ => .pure _)
  refine (steps_delivery n (steps_deliverEncrypted none true recursionLimit true)).bind fun _ => ?_
  exact (Steps.orRaise _).bind fun _ => .pure _

theorem steps_pushPresences (announce : (delivered : Bool) → Except PyExc Unit)
    (payloads : List PresencePayload) :
    Steps (SendStep P outside identity name marks) (pushPresences P outside identity announce payloads) := by
  induction payloads with
  | nil => exact .pure 0
  | cons payload payloads ih =>
      exact (steps_pushPresence announce payload).bind fun _ => ih.bind fun _ => .pure _

theorem steps_deliverWithoutStore (n : Nat) (blob : OuterBlob) (now : Int) :
    Steps (SendStep P outside identity name marks) (deliverWithoutStore P outside blob now) := by
  unfold deliverWithoutStore
  refine (steps_delivery n (steps_deliverDirect true)).bind fun sent => .ite _ (.pure _) ?_
  refine Steps.get.bind fun h => (Steps.orRaise _).bind fun relayUrls => ?_
  refine (steps_delivery n (steps_tryRelays relayUrls)).bind fun taken => ?_
  cases taken with
  | some relayUrl => exact .pure _
  | none => exact .raise _

theorem saveProfileAckPending_rows {store store' : FileLocalStore} {contactName msgId : String}
    {version : Int} {names : List String}
    (h : store.saveProfileAckPending contactName msgId version names = .ok store') :
    ∃ rows, store' = { store with profileAckPending := rows } := by
  unfold FileLocalStore.saveProfileAckPending at h
  obtain ⟨u, -, h⟩ := bind_ok.mp h
  cases h
  exact ⟨_, rfl⟩

theorem steps_pushProfile (n : Nat) (profile : DeliveryProfile) :
    Steps (SendStep P outside identity name marks)
      (pushProfile P outside identity (outside.draws n) name profile) := by
  unfold pushProfile
  refine Steps.get.bind fun h => (Steps.orRaise _).bind fun _ => ?_
  refine (steps_encrypt _ _).bind fun encrypted => steps_saveContact.bind fun _ => ?_
  intro h
  rw [run_get_bind, EStateM.run_bind]
  cases hsave : h.world.store.saveProfileAckPending name encrypted.msgId profile.version
      (relayNamesFromProfile profile) with
  | error e => exact .refl
  | ok store =>
      rw [run_orRaise_ok]
      dsimp only
      unfold changeStore
      rw [run_modify_bind]
      exact .head (.noted hsave) (steps_deliverWithoutStore n _ _ _)

end Steps

/-! ### The device -/

/-- What a command does to the device, one thing at a time; work on a contact object starts from
the contact as it is stored under one of the names. -/
inductive WorldStep (P : Packages) (outside : Outside) (identity : Identity)
    (names : String → Prop) (marks : Prop) : World → World → Prop
  | drew {w : World} (encryptions : Nat) :
      WorldStep P outside identity names marks w { w with encryptions }
  | handled {w : World} {contactName : String} {contact : Contact} {h : Handling}
      (hname : names contactName)
      (hcontact : w.store.getContact P contactName = .ok (some contact))
      (hsteps : Relation.ReflTransGen (SendStep P outside identity contactName marks)
        { world := w, contact } h) :
      WorldStep P outside identity names marks w h.world
  | localProfile {w : World} (profile : DeliveryProfile) :
      WorldStep P outside identity names marks w { w with store := w.store.saveLocalProfile P profile }
  | presence {w : World} {payload : PresencePayload} {store : FileLocalStore}
      (hsave : w.store.savePresence payload = .ok store) :
      WorldStep P outside identity names marks w { w with store }

/-- No name is excluded. -/
def AnyName (_name : String) : Prop := True

theorem anyName (name : String) : AnyName name := trivial

section World

variable {outside : Outside} {names : String → Prop} {marks : Prop} {identity : Identity}
  {w : World} {contactName : String} {contact : Contact}

theorem worldSteps_withContact {α : Type} {m : HandlingM α} (hname : names contactName)
    (hcontact : w.store.getContact P contactName = .ok (some contact))
    (hm : Steps (SendStep P outside identity contactName marks) m) :
    Relation.ReflTransGen (WorldStep P outside identity names marks) w (after ((withContact contact m).run w)) := by
  have hsteps := hm { world := w, contact }
  rw [run_withContact]
  cases hrun : m.run { world := w, contact } with
  | ok a h =>
      rw [hrun] at hsteps
      exact .single (.handled hname hcontact hsteps)
  | error e h =>
      rw [hrun] at hsteps
      exact .single (.handled hname hcontact hsteps)

theorem worldSteps_nextDraws : Steps (WorldStep P outside identity names False) (nextDraws outside) := by
  unfold nextDraws
  exact Steps.get.bind fun w => (Steps.modify fun w => .drew _).bind fun _ => .pure _

theorem worldNextDraws_returns :
    Returns (fun draws => ∃ n, draws = outside.draws n) (nextDraws outside) := by
  intro w draws w' hrun
  cases hrun
  exact ⟨_, rfl⟩

/-- The sending of a receipt. -/
theorem worldSteps_sendDeliveryReceipt (hname : names contactName) (deliveredId : String)
    (route : Option String) :
    Steps (WorldStep P outside identity names False)
      (sendDeliveryReceipt P outside identity contactName deliveredId route) := by
  intro w
  unfold sendDeliveryReceipt
  rw [run_get_bind]
  dsimp only
  rw [run_modify_bind]
  refine .head (.drew (w.encryptions + 1)) ?_
  cases hcontact : w.store.getContact P contactName with
  | error e => exact .refl
  | ok found =>
      rw [EStateM.run_bind, run_orRaise_ok]
      cases found with
      | none => exact .refl
      | some contact =>
          exact worldSteps_withContact hname hcontact (steps_sendReceipt _ _ _)

/-- The queued receipts. -/
theorem worldSteps_flushReceipts (route : Option String) {queue : List PendingReceipt}
    (hnames : ∀ pending ∈ queue, names pending.contactName) :
    Steps (WorldStep P outside identity names False)
      (flushReceipts (sendDeliveryReceipt P outside identity) route queue) := by
  induction queue with
  | nil => exact .pure 0
  | cons pending rest ih =>
      unfold flushReceipts
      have hfirst := hnames pending List.mem_cons_self
      have hrest := ih fun row hrow => hnames row (List.mem_cons_of_mem _ hrow)
      refine (worldSteps_sendDeliveryReceipt hfirst _ _).bind fun sent => ?_
      exact hrest.bind fun others => .pure _

theorem worldSteps_sendCmd (hname : names contactName) (dummy : DummyDraws) (message : String)
    (route : Option String) :
    Steps (WorldStep P outside identity names False)
      (sendCmd P outside identity dummy contactName message route) := by
  unfold sendCmd
  refine worldSteps_nextDraws.bind_returns worldNextDraws_returns ?_
  rintro _ ⟨n, rfl⟩
  intro w
  rw [run_get_bind]
  cases hcontact : w.store.getContact P contactName with
  | error e => exact .refl
  | ok found =>
      rw [EStateM.run_bind, run_orRaise_ok]
      cases found with
      | none => exact .refl
      | some contact => exact worldSteps_withContact hname hcontact (steps_sendText n _ message route)

theorem worldSteps_resendPendingForContact (hname : names contactName) (now : Int)
    (route : Option String) :
    Steps (WorldStep P outside identity names (Taken outside))
      (resendPendingForContact P outside identity now contactName route) := by
  intro w
  unfold resendPendingForContact
  rw [run_get_bind]
  dsimp only
  cases hcontact : w.store.getContact P contactName with
  | error e => exact .refl
  | ok found =>
      rw [EStateM.run_bind, run_orRaise_ok]
      cases found with
      | none => exact .refl
      | some contact => exact worldSteps_withContact hname hcontact (steps_resendRows _ _)

theorem worldSteps_presenceTo
    (announce : (contactName : String) → (delivered : Bool) → Except PyExc Unit)
    (payloads : List PresencePayload) {contactNames : List String}
    (hnames : ∀ name ∈ contactNames, names name) :
    Steps (WorldStep P outside identity names False)
      (presenceTo P outside identity announce payloads contactNames) := by
  induction contactNames with
  | nil => exact .pure 0
  | cons contactName contactNames ih =>
      have hfirst := hnames contactName List.mem_cons_self
      have ih := ih fun name hname => hnames name (List.mem_cons_of_mem _ hname)
      unfold presenceTo
      intro w
      rw [run_get_bind]
      cases hcontact : w.store.getContact P contactName with
      | error e => exact .refl
      | ok found =>
          rw [EStateM.run_bind, run_orRaise_ok]
          cases found with
          | none => exact (ih.bind fun others => .pure _) w
          | some contact =>
              have hpush : Steps (SendStep P outside identity contactName False) (do
                  orRaise (openSession (← get).contact)
                  pushPresences P outside identity (announce contactName) payloads) :=
                Steps.get.bind fun h => (Steps.orRaise _).bind fun _ => steps_pushPresences _ _
              have hloaded := worldSteps_withContact hfirst hcontact hpush
              dsimp only
              rw [EStateM.run_bind]
              cases hrun : (withContact contact (do
                  orRaise (openSession (← get).contact)
                  pushPresences P outside identity (announce contactName) payloads)).run w with
              | error e w' =>
                  rw [hrun] at hloaded
                  exact hloaded
              | ok delivered w' =>
                  rw [hrun] at hloaded
                  exact hloaded.trans ((ih.bind fun others => .pure _) w')

theorem worldSteps_savePresences (payloads : List PresencePayload) :
    Steps (WorldStep P outside identity names False) (savePresences payloads) := by
  induction payloads with
  | nil => exact .pure _
  | cons payload payloads ih =>
      intro w
      unfold savePresences
      rw [run_get_bind, EStateM.run_bind]
      cases hsave : w.store.savePresence payload with
      | error e => exact .refl
      | ok store =>
          rw [run_orRaise_ok]
          dsimp only
          rw [run_modify_bind]
          exact .head (.presence hsave) (ih _)

theorem worldSteps_broadcastPresence
    (announce : (contactName : String) → (delivered : Bool) → Except PyExc Unit)
    (payloads : List PresencePayload) {contactName : Option String}
    (hnames : ∀ name, (∀ only ∈ contactName, only ≠ "" → name = only) → names name) :
    Steps (WorldStep P outside identity names False)
      (broadcastPresence P outside identity announce payloads contactName) := by
  have hrest : ∀ targets, (∀ name ∈ targets, names name) →
      Steps (WorldStep P outside identity names False) (do
        let delivered ← presenceTo P outside identity announce payloads targets
        savePresences payloads
        return delivered) := fun targets htargets =>
    (worldSteps_presenceTo announce payloads htargets).bind fun delivered =>
      (worldSteps_savePresences payloads).bind fun _ => .pure _
  unfold broadcastPresence
  refine .ite _ (.pure 0) ?_
  cases contactName with
  | none =>
      refine Steps.get.bind fun w => hrest _ fun name _ => hnames name ?_
      rintro _ ⟨⟩
  | some only =>
      dsimp only
      split
      · rename_i hempty
        refine Steps.get.bind fun w => hrest _ fun name _ => hnames name ?_
        rintro _ ⟨⟩ hne
        exact absurd hempty hne
      · refine hrest _ fun name hname => hnames name ?_
        rintro _ ⟨⟩ -
        exact List.mem_singleton.mp hname

theorem worldSteps_localProfileOr (built : Except PyExc DeliveryProfile) :
    Steps (WorldStep P outside identity names False) (localProfileOr P built) := by
  unfold localProfileOr
  refine Steps.get.bind fun w => (Steps.orRaise _).bind fun found => ?_
  cases found with
  | some profile => exact .pure _
  | none =>
      refine (Steps.orRaise _).bind fun profile => ?_
      exact (Steps.modify fun w => .localProfile profile).bind fun _ => .pure _

/-- Making the local profile leaves the contacts alone. -/
theorem localProfileOr_contacts {built : Except PyExc DeliveryProfile} {profile : DeliveryProfile}
    {w' : World} (hrun : (localProfileOr P built).run w = .ok profile w') :
    w'.store.contacts = w.store.contacts := by
  unfold localProfileOr at hrun
  rw [run_get_bind] at hrun
  obtain ⟨found, -, hrun⟩ := run_orRaise_bind_ok.mp hrun
  cases found with
  | some own =>
      cases hrun
      rfl
  | none =>
      obtain ⟨fresh, -, hrun⟩ := run_orRaise_bind_ok.mp hrun
      cases hrun
      rfl

theorem worldSteps_profilePush (hname : names contactName)
    (built : Except PyExc DeliveryProfile) :
    Steps (WorldStep P outside identity names False) (profilePush P outside identity built contactName) := by
  unfold profilePush
  refine worldSteps_nextDraws.bind_returns worldNextDraws_returns ?_
  rintro _ ⟨n, rfl⟩
  intro w
  rw [run_get_bind]
  cases hcontact : w.store.getContact P contactName with
  | error e => exact .refl
  | ok found =>
      rw [EStateM.run_bind, run_orRaise_ok]
      cases found with
      | none => exact .refl
      | some contact =>
          dsimp only
          have hlocal : Relation.ReflTransGen (WorldStep P outside identity names False) w
              (after ((localProfileOr P built).run w)) := worldSteps_localProfileOr built w
          rw [EStateM.run_bind]
          cases hrun : (localProfileOr P built).run w with
          | error e w' =>
              rw [hrun] at hlocal
              exact hlocal
          | ok profile w' =>
              rw [hrun] at hlocal
              have hsame : w'.store.getContact P contactName = .ok (some contact) := by
                rw [← hcontact, FileLocalStore.getContact, FileLocalStore.getContact,
                  localProfileOr_contacts hrun]
              exact hlocal.trans (worldSteps_withContact hname hsame (steps_pushProfile n profile))

end World

end Yakr
