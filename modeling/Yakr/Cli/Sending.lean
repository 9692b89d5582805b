import Yakr.Cli.Delivery
import Yakr.Session.Methods

/-!
# Yakr.Cli.Sending

**What sending a receipt changes.** A delivery may replace the profile of the contact object it
works on, and saves the object then; of the store it writes no row but the contact's own
(`Delivers`). A receipt that was encrypted leaves a contact's row with the ratchet of before and
its last received number, and the receipt's row until it was delivered (`ReceiptSent`); one that was not
leaves the device as it was.
-/

namespace Yakr

open Lib Effect

variable {P : Packages}

/-! ### Deliveries -/

/-- What a delivery may do to the contact object and the device. -/
structure Delivers (P : Packages) (h h' : Handling) : Prop where
  contact : ∃ profile, h'.contact = { h.contact with deliveryProfile := profile }
  store : ∃ contacts, h'.world.store = { h.world.store with contacts }
  others : ∀ name, name ≠ h.contact.name →
    Table.find ContactDict.name name h'.world.store.contacts
      = Table.find ContactDict.name name h.world.store.contacts
  own : Table.find ContactDict.name h.contact.name h'.world.store.contacts
        = Table.find ContactDict.name h.contact.name h.world.store.contacts
      ∨ ∃ profile, Table.find ContactDict.name h.contact.name h'.world.store.contacts
        = some (Contact.toDict P { h.contact with deliveryProfile := profile })
  accepted : h'.world.accepted = h.world.accepted
  receipted : h'.world.receipted = h.world.receipted

namespace Delivers

variable {h h' h'' : Handling}

theorem refl (h : Handling) : Delivers P h h :=
  ⟨⟨_, rfl⟩, ⟨_, rfl⟩, fun _ _ => rfl, Or.inl rfl, rfl, rfl⟩

theorem trans (hfirst : Delivers P h h') (hsecond : Delivers P h' h'') : Delivers P h h'' := by
  obtain ⟨profile, hcontact⟩ := hfirst.contact
  obtain ⟨profile', hcontact'⟩ := hsecond.contact
  obtain ⟨contacts, hstore⟩ := hfirst.store
  obtain ⟨contacts', hstore'⟩ := hsecond.store
  have hname : h'.contact.name = h.contact.name := by rw [hcontact]
  refine ⟨⟨profile', by rw [hcontact', hcontact]⟩, ⟨contacts', by rw [hstore', hstore]⟩,
    fun name hne => ?_, ?_, hsecond.accepted.trans hfirst.accepted,
    hsecond.receipted.trans hfirst.receipted⟩
  · exact (hsecond.others name (hname ▸ hne)).trans (hfirst.others name hne)
  · have hown := hsecond.own
    rw [hname] at hown
    rcases hown with hsame | ⟨profile₂, hsaved⟩
    · rw [hsame]
      exact hfirst.own
    · refine Or.inr ⟨profile₂, hsaved.trans ?_⟩
      rw [hcontact]

theorem of_steps (hsteps : Relation.ReflTransGen (Delivers P) h h') : Delivers P h h' := by
  induction hsteps with
  | refl => exact refl h
  | tail _ hstep ih => exact ih.trans hstep

/-- What changes counters and posts only. -/
theorem of_world {w : World} (hstore : w.store = h.world.store)
    (haccepted : w.accepted = h.world.accepted) (hreceipted : w.receipted = h.world.receipted) :
    Delivers P h { h with world := w } :=
  ⟨⟨_, rfl⟩, ⟨h.world.store.contacts, hstore⟩, fun _ _ => by rw [hstore], Or.inl (by rw [hstore]),
    haccepted, hreceipted⟩

theorem saved (h : Handling) :
    Delivers P h
      { h with world := { h.world with store := h.world.store.saveContact P h.contact } } :=
  ⟨⟨_, rfl⟩, ⟨_, rfl⟩,
    fun _ hne => Table.find_upsert_of_ne (r := h.contact.toDict P) (Ne.symm hne),
    Or.inr ⟨h.contact.deliveryProfile, Table.find_upsert_self (r := h.contact.toDict P)⟩, rfl, rfl⟩

end Delivers

/-! ### Steps of a delivery -/

/-- A direct hint serves the profile, and it verifies. -/
def Served (P : Packages) (outside : Outside) (signingPublic : Bytes)
    (profile : DeliveryProfile) : Prop :=
  ∃ n hint status body, outside.profileAnswer n hint = .ok (status, body)
    ∧ profileOfAnswer P signingPublic status body = .ok (some profile)

/-- The device with counters and posts of a delivery. -/
def Handling.exchanged (h : Handling) (exchanges : Nat) (posted : List Posted) : Handling :=
  { h with world := { h.world with exchanges, posted } }

/-- The object with a profile, saved. -/
def Handling.withProfile (P : Packages) (h : Handling) (profile : DeliveryProfile) : Handling :=
  let contact : Contact := { h.contact with deliveryProfile := some profile }
  { world := { h.world with store := h.world.store.saveContact P contact }, contact }

/-- What a delivery does, one thing at a time: it counts an exchange, or it replaces a profile that
has expired by one that a direct hint serves and saves the object. -/
inductive DeliveryStep (P : Packages) (outside : Outside) (now : Int) : Handling → Handling → Prop
  | exchanged {h : Handling} (exchanges : Nat) {posted : List Posted}
      (hposted : h.world.posted <+: posted) :
      DeliveryStep P outside now h (h.exchanged exchanges posted)
  | refreshed {h : Handling} {old profile : DeliveryProfile}
      (hold : h.contact.deliveryProfile = some old) (hexpired : profileIsExpired old now = true)
      (hserved : Served P outside h.contact.signingPublic profile) :
      DeliveryStep P outside now h (h.withProfile P profile)

theorem DeliveryStep.delivers {outside : Outside} {now : Int} {h h' : Handling}
    (hstep : DeliveryStep P outside now h h') : Delivers P h h' := by
  cases hstep with
  | exchanged exchanges hposted => exact .of_world rfl rfl rfl
  | @refreshed _ profile _ _ _ =>
      have hcontact : Delivers P h
          { h with contact := { h.contact with deliveryProfile := some profile } } :=
        ⟨⟨_, rfl⟩, ⟨_, rfl⟩, fun _ _ => rfl, Or.inl rfl, rfl, rfl⟩
      exact hcontact.trans (.saved _)

section Steps

/-- What may come before the rest or not. -/
theorem steps_before {ε σ α β : Type} {S : σ → σ → Prop} {c : Prop} [Decidable c]
    {m : EStateM ε σ α} {rest : EStateM ε σ β} (hm : Steps S m) (hrest : Steps S rest) :
    Steps S (if c then m >>= fun _ => rest else rest) :=
  .ite c (hm.bind fun _ => hrest) hrest

variable {outside : Outside} {blob : OuterBlob} {now : Int}

theorem nextExchange_run (h : Handling) :
    nextExchange.run h
      = .ok h.world.exchanges (h.exchanged (h.world.exchanges + 1) h.world.posted) := rfl

/-- Asking the hints counts exchanges only, and a profile that is returned was served. -/
theorem fetchRemoteProfile_run (signingPublic : Bytes) (hints : List String) (h : Handling) :
    ∃ exchanges,
      (∃ e, (fetchRemoteProfile P outside signingPublic hints).run h
        = .error e (h.exchanged exchanges h.world.posted))
      ∨ ∃ found, (fetchRemoteProfile P outside signingPublic hints).run h
          = .ok found (h.exchanged exchanges h.world.posted)
        ∧ ∀ profile ∈ found, Served P outside signingPublic profile := by
  induction hints generalizing h with
  | nil => exact ⟨h.world.exchanges, Or.inr ⟨none, rfl, nofun⟩⟩
  | cons hint hints ih =>
      obtain ⟨exchanges, hrest⟩ := ih (h.exchanged (h.world.exchanges + 1) h.world.posted)
      unfold fetchRemoteProfile
      rw [EStateM.run_bind, nextExchange_run]
      dsimp only
      rw [EStateM.run_bind, run_tryCatch]
      generalize hasked : outside.profileAnswer h.world.exchanges (rstripSlash hint) >>= _ = asked
      cases asked with
      | error e =>
          rw [run_orRaise_error]
          dsimp only
          cases isProfileError e with
          | true => exact ⟨exchanges, hrest⟩
          | false => exact ⟨_, Or.inl ⟨e, rfl⟩⟩
      | ok found =>
          rw [run_orRaise_ok]
          cases found with
          | none => exact ⟨exchanges, hrest⟩
          | some profile =>
              refine ⟨_, Or.inr ⟨some profile, rfl, ?_⟩⟩
              rintro _ ⟨⟩
              obtain ⟨⟨status, body⟩, hanswer, hprofile⟩ := bind_ok.mp hasked
              exact ⟨_, _, status, body, hanswer, hprofile⟩

theorem steps_refreshContactProfile :
    Steps (DeliveryStep P outside now) (refreshContactProfile P outside now) := by
  intro h
  unfold refreshContactProfile
  rw [run_get_bind]
  dsimp only
  cases hold : h.contact.deliveryProfile with
  | none => exact .refl
  | some old =>
      dsimp only
      cases hexpired : profileIsExpired old now with
      | false => exact .refl
      | true =>
          obtain ⟨exchanges, hfetch⟩ : ∃ exchanges,
              (∃ e, (fetchRemoteProfile P outside h.contact.signingPublic old.directHints).run h
                = .error e (h.exchanged exchanges h.world.posted))
              ∨ ∃ found,
                (fetchRemoteProfile P outside h.contact.signingPublic old.directHints).run h
                  = .ok found (h.exchanged exchanges h.world.posted)
                ∧ ∀ profile ∈ found, Served P outside h.contact.signingPublic profile :=
            fetchRemoteProfile_run h.contact.signingPublic old.directHints h
          have hasked : DeliveryStep P outside now h (h.exchanged exchanges h.world.posted) :=
            .exchanged _ (List.prefix_refl _)
          simp only [Bool.not_true, Bool.false_eq_true, if_false]
          rw [EStateM.run_bind]
          rcases hfetch with ⟨e, hrun⟩ | ⟨found, hrun, hserved⟩
          · rw [hrun]
            exact .single hasked
          · rw [hrun]
            cases found with
            | none => exact .single hasked
            | some profile =>
                have hrefreshed : DeliveryStep P outside now (h.exchanged exchanges h.world.posted)
                    ((h.exchanged exchanges h.world.posted).withProfile P profile) :=
                  .refreshed hold hexpired (hserved profile rfl)
                exact .tail (.single hasked) hrefreshed

theorem steps_postBlob (address : String) :
    Steps (DeliveryStep P outside now) (postBlob outside blob address) := by
  intro h
  have hposted : ∀ p, DeliveryStep P outside now h
      (h.exchanged (h.world.exchanges + 1) (h.world.posted ++ [p])) := fun p =>
    .exchanged _ (List.prefix_append _ _)
  unfold postBlob
  rw [EStateM.run_bind, nextExchange_run]
  dsimp only
  rw [run_modify_bind]
  cases (outside.postAnswer h.world.exchanges address).2 with
  | ok status => exact .single (hposted _)
  | error e => exact .single (hposted _)

section Attempts

variable {S : Handling → Handling → Prop}

theorem sendEncrypted_steps (hpost : ∀ address, Steps S (postBlob outside blob address))
    (relayUrl : String) : Steps S (sendEncrypted outside blob relayUrl) := by
  unfold sendEncrypted
  refine (hpost _).bind fun status => ?_
  exact .ite _ (.raise _) (.pure _)

theorem tryRelays_steps (hpost : ∀ address, Steps S (postBlob outside blob address))
    (relayUrls : List String) : Steps S (tryRelays outside blob relayUrls) := by
  induction relayUrls with
  | nil => exact .pure none
  | cons relayUrl relayUrls ih =>
      unfold tryRelays
      refine (((sendEncrypted_steps hpost relayUrl).bind fun _ => .pure true).tryCatch
        fun e => ?_).bind fun sent => .ite _ (.pure _) ih
      exact .ite _ (.pure false) (.raise e)

theorem deliverDirect_steps (hpost : ∀ address, Steps S (postBlob outside blob address))
    (allowDirect : Bool) : Steps S (deliverDirect outside blob allowDirect) := by
  unfold deliverDirect
  refine Steps.get.bind fun h => ?_
  cases h.contact.deliveryProfile with
  | none => exact .pure false
  | some profile => exact .ite _ (steps_tryDirectDelivery hpost _) (.pure false)

/-- A delivery does what its refreshes and its posts do. -/
theorem deliverEncrypted_steps (hrefresh : Steps S (refreshContactProfile P outside now))
    (hpost : ∀ address, Steps S (postBlob outside blob address)) (route : Option String)
    (allowDirect : Bool) (depth : Nat) (retryOnStale : Bool) :
    Steps S (deliverEncrypted P outside blob route allowDirect now depth retryOnStale) := by
  induction depth generalizing retryOnStale with
  | zero => exact .raise _
  | succ depth ih =>
      unfold deliverEncrypted
      dsimp only
      refine steps_before hrefresh ?_
      refine (deliverDirect_steps hpost allowDirect).bind fun direct => .ite _ (.pure _) ?_
      refine Steps.get.bind fun h => (Steps.orRaise _).bind fun _ => (Steps.orRaise _).bind
        fun relayUrls => ?_
      split
      · -- an explicit route is tried once more with a profile that was refreshed
        refine ((sendEncrypted_steps hpost _).bind fun _ => .pure _).tryCatch fun e => .guard ?_
        exact hrefresh.bind fun refreshed => .ite _ (ih false) (.raise e)
      · refine (tryRelays_steps hpost relayUrls).bind fun taken => ?_
        cases taken with
        | some relayUrl => exact .pure _
        | none =>
            dsimp only
            split
            · exact hrefresh.bind fun refreshed => .ite _ (ih false) (.raise _)
            · exact (Steps.pure false).bind fun refreshed => .ite _ (ih false) (.raise _)

end Attempts

theorem steps_tryRelays (relayUrls : List String) :
    Steps (DeliveryStep P outside now) (tryRelays outside blob relayUrls) :=
  tryRelays_steps steps_postBlob relayUrls

theorem steps_deliverDirect (allowDirect : Bool) :
    Steps (DeliveryStep P outside now) (deliverDirect outside blob allowDirect) :=
  deliverDirect_steps steps_postBlob allowDirect

/-- A delivery, whether it returns or raises. -/
theorem steps_deliverEncrypted (route : Option String) (allowDirect : Bool) (depth : Nat)
    (retryOnStale : Bool) :
    Steps (DeliveryStep P outside now)
      (deliverEncrypted P outside blob route allowDirect now depth retryOnStale) :=
  deliverEncrypted_steps steps_refreshContactProfile steps_postBlob route allowDirect depth
    retryOnStale

/-- A delivery as a whole. -/
theorem delivers_deliverEncrypted (route : Option String) (allowDirect : Bool) (depth : Nat)
    (retryOnStale : Bool) (h : Handling) :
    Delivers P h (after
      ((deliverEncrypted P outside blob route allowDirect now depth retryOnStale).run h)) :=
  .of_steps ((steps_deliverEncrypted route allowDirect depth retryOnStale).mono
    (fun _ _ => DeliveryStep.delivers) h)

end Steps

/-! ### Receipts -/

namespace RatchetState

/-- A state as it is read back from its own snapshot. -/
def restored (r : RatchetState) : RatchetState := r.rolledBack r.skippedKeys

/-- The skipped keys are the same. -/
def SameKeys (s s' : RatchetState) : Prop := s'.skippedKeys = s.skippedKeys

theorem steps_pairingSendInit_keys (peer : Bytes) (g : PrivateKey) :
    Steps SameKeys (pairingSendInit P peer g) := by
  unfold pairingSendInit
  refine .guard ?_
  refine (Steps.modify fun s => (rfl : SameKeys s _)).bind fun _ => Steps.get.bind fun s => ?_
  refine (Steps.orRaise _).bind fun dhSelf => (Steps.orRaise _).bind fun dhOutput => ?_
  refine Steps.get.bind fun s => (Steps.modify fun s => (rfl : SameKeys s _)).bind fun _ => ?_
  refine (Steps.orRaise _).bind fun dhOutput' => ?_
  exact .modify fun s => (rfl : SameKeys s _)

/-- An encryption leaves the skipped keys alone. -/
theorem encrypt_skippedKeys (g : PrivateKey) (nonce : Nonce) (plaintext : Bytes)
    (s : RatchetState) :
    (after ((encrypt P g nonce plaintext).run s)).skippedKeys = s.skippedKeys := by
  suffices h : Steps SameKeys (encrypt P g nonce plaintext) from eq_of_steps (h s)
  unfold encrypt
  refine .bind ?_ fun _ => .bind ?_ fun messageKey => Steps.get.bind fun s => ?_
  · unfold takePendingPeer
    refine Steps.get.bind fun s => ?_
    cases s.pendingPairingDhRatchetPeer with
    | none => exact .pure _
    | some peer =>
        refine (Steps.modify fun s => (rfl : SameKeys s _)).bind fun _ => ?_
        exact steps_pairingSendInit_keys peer g
  · unfold nextSendKey
    refine Steps.get.bind fun s => ?_
    cases s.sendChainKey with
    | none => exact .raise _
    | some chainKey => exact (Steps.modify fun s => (rfl : SameKeys s _)).bind fun _ => .pure _
  · refine (Steps.orRaise _).bind fun aad => (Steps.orRaise _).bind fun ciphertext => ?_
    exact (Steps.modify fun s => (rfl : SameKeys s _)).bind fun _ => .pure _

end RatchetState

/-- A receipt was delivered, or its row is there. -/
def Due (key : String × String) (w : World) : Prop :=
  key ∈ w.receipted ∨ ∃ row ∈ w.store.pendingReceipts, row.key = key

/-- What sending a receipt may have done to the device once the receipt was encrypted for the
contact `c`. -/
structure ReceiptSent (P : Packages) (c : Contact) (w w' : World) : Prop where
  store : ∃ contacts pendingReceipts, w'.store = { w.store with contacts, pendingReceipts }
  others : ∀ name, name ≠ c.name → Table.find ContactDict.name name w'.store.contacts
    = Table.find ContactDict.name name w.store.contacts
  own : ∃ c' : Contact, c'.name = c.name ∧ c'.lastRecvSeq = c.lastRecvSeq
    ∧ c'.ratchet = c.ratchet.map RatchetState.restored
    ∧ Table.find ContactDict.name c.name w'.store.contacts = some (c'.toDict P)
  accepted : w'.accepted = w.accepted
  due : ∀ key, Due key w → Due key w'

section Receipt

variable {outside : Outside} {identity : Identity} {draws : Draws} {contactName deliveredId : String}
  {route : Option String} {c : Contact} {w : World}

/-- The contact that is saved before the delivery. -/
def receiptContact (c : Contact) : Contact :=
  { c with ratchet := c.ratchet.map RatchetState.restored, nextSendSeq := c.nextSendSeq + 1 }

/-- The delivery of a receipt, and what follows it. -/
def finishReceipt (P : Packages) (outside : Outside) (draws : Draws) (receipt : OuterBlob)
    (snapshot : RatchetDict) (sendSeqBefore : Int) (contactName deliveredId : String)
    (route : Option String) : HandlingM Bool :=
  tryCatch
    (do
      let _ ← deliverEncrypted P outside receipt none false draws.now recursionLimit true
      changeStore (FileLocalStore.deletePendingReceipt contactName deliveredId)
      modify fun h =>
        { h with
          world :=
            { h.world with receipted := h.world.receipted ++ [(contactName, deliveredId)] } }
      return true)
    fun e =>
      if e.isDeliveryError then do
        onContact (rollbackRatchet snapshot)
        modify fun h => { h with contact := { h.contact with nextSendSeq := sendSeqBefore } }
        saveHandled P
        changeStore (FileLocalStore.savePendingReceipt contactName deliveredId route draws.now)
        return false
      else throw e

theorem run_onContact {α : Type} (m : SessionM α) (h : Handling) :
    (onContact m).run h =
      match m.run h.contact with
      | .ok a c => .ok a { h with contact := c }
      | .error e c => .error e { h with contact := c } := by
  cases hm : m.run h.contact with
  | ok a c => exact run_onPart_ok.mpr ⟨c, hm, rfl⟩
  | error e c => exact run_onPart_error.mpr ⟨c, hm, rfl⟩

theorem run_withContact {α : Type} (contact : Contact) (m : HandlingM α) (w : World) :
    (withContact contact m).run w =
      match m.run { world := w, contact } with
      | .ok a h => .ok a h.world
      | .error e h => .error e h.world := by
  show withContact contact m w = _
  unfold withContact
  cases m.run { world := w, contact } with
  | ok a h => rfl
  | error e h => rfl

/-- A sending up to the delivery. -/
theorem sendReceipt_run {r : RatchetState} (hr : c.ratchet = some r) :
    (sendReceipt P outside identity draws contactName deliveredId route).run { world := w, contact := c }
      = match (encryptReceipt P identity draws deliveredId).run c with
        | .error e c' => .error e { world := w, contact := c' }
        | .ok receipt _ =>
            (finishReceipt P outside draws receipt.outerBlob r.toDict c.nextSendSeq contactName
              deliveredId route).run
              { world := { w with store := w.store.saveContact P (receiptContact c) }
                contact := receiptContact c } := by
  have hsession : openSession c = .ok () := by rw [openSession, hr]; rfl
  have hsnapshot : ratchetSnapshot.run c = .ok r.toDict c := by
    rw [ratchetSnapshot, run_get_bind, hr]
    rfl
  unfold sendReceipt
  rw [run_get_bind]
  simp only [hsession, EStateM.run_bind, run_orRaise_ok, run_onContact, hsnapshot, EStateM.run_get]
  cases hencrypt : (encryptReceipt P identity draws deliveredId).run c with
  | error e c' => rfl
  | ok receipt c' =>
      obtain ⟨r₀, r', padded, hr₀, -, hrun, rfl⟩ := (encryptMessage_ok hencrypt).ratchet
      obtain rfl := Option.some.inj (hr.symm.trans hr₀)
      have hkeys : r'.skippedKeys = r.skippedKeys := by
        have h := RatchetState.encrypt_skippedKeys (P := P) draws.ratchetPrivate draws.nonce padded r
        rw [hrun] at h
        exact h
      have hback := rollbackRatchet_run r
        (c := { c with ratchet := some r', nextSendSeq := c.nextSendSeq + 1 }) rfl
      have hcontact : ({ c with
            ratchet := some (r.rolledBack r'.skippedKeys)
            nextSendSeq := c.nextSendSeq + 1 } : Contact) = receiptContact c := by
        rw [receiptContact, hr, hkeys]
        rfl
      simp only [hback, hcontact]
      rfl

/-- The part of a sending that has the receipt to deliver, by how the delivery ended. -/
theorem finishReceipt_run {receipt : OuterBlob} {r : RatchetState} {h : Handling}
    (hr : h.contact.ratchet.map RatchetState.skippedKeys = some r.skippedKeys)
    (sendSeqBefore : Int) :
    (finishReceipt P outside draws receipt r.toDict sendSeqBefore contactName deliveredId route).run h
      = match (deliverEncrypted P outside receipt none false draws.now recursionLimit true).run h with
        | .ok _ h' =>
            .ok true { h' with
              world := { h'.world with
                store := h'.world.store.deletePendingReceipt contactName deliveredId
                receipted := h'.world.receipted ++ [(contactName, deliveredId)] } }
        | .error e h' =>
            if e.isDeliveryError then
              .ok false
                { world := { h'.world with
                    store := (h'.world.store.saveContact P { h'.contact with
                      ratchet := some r.restored
                      nextSendSeq := sendSeqBefore }).savePendingReceipt contactName deliveredId
                        route draws.now }
                  contact := { h'.contact with
                    ratchet := some r.restored
                    nextSendSeq := sendSeqBefore } }
            else .error e h' := by
  have hsteps : Delivers P h (after ((deliverEncrypted P outside receipt none false draws.now
      recursionLimit true).run h)) :=
    delivers_deliverEncrypted none false recursionLimit true h
  rw [finishReceipt, run_tryCatch, EStateM.run_bind]
  cases hdeliver : (deliverEncrypted P outside receipt none false draws.now recursionLimit
      true).run h with
  | ok taken h' => rfl
  | error e h' =>
      rw [hdeliver] at hsteps
      obtain ⟨profile, hcontact⟩ := hsteps.contact
      have hcontact' : h'.contact = { h.contact with deliveryProfile := profile } := hcontact
      cases hratchet : h.contact.ratchet with
      | none =>
          rw [hratchet] at hr
          cases hr
      | some r' =>
          rw [hratchet] at hr
          have hkeys : r'.skippedKeys = r.skippedKeys := Option.some.inj hr
          have hback := rollbackRatchet_run r (c := h'.contact) (r := r') (by rw [hcontact', hratchet])
          dsimp only
          by_cases he : e.isDeliveryError = true
          · rw [if_pos he, if_pos he, EStateM.run_bind, run_onContact, hback, hkeys]
            rfl
          · rw [if_neg he, if_neg he]
            rfl

theorem Due.mono {key : String × String} {w w' : World}
    (hreceipted : ∀ k ∈ w.receipted, k ∈ w'.receipted)
    (hrows : w'.store.pendingReceipts = w.store.pendingReceipts) (h : Due key w) : Due key w' := by
  rcases h with h | h
  · exact Or.inl (hreceipted key h)
  · exact Or.inr (by rwa [hrows])

/-- A delivery of a saved contact leaves it saved, but for the profile. -/
theorem sent_of_delivers {h : Handling}
    (hdelivers : Delivers P
      { world := { w with store := w.store.saveContact P (receiptContact c) }
        contact := receiptContact c } h) : ReceiptSent P c w h.world := by
  obtain ⟨contacts, hstore⟩ := hdelivers.store
  have hsaved : Table.find ContactDict.name c.name
      (w.store.saveContact P (receiptContact c)).contacts = some ((receiptContact c).toDict P) :=
    Table.find_upsert_self (r := (receiptContact c).toDict P)
  refine ⟨⟨contacts, w.store.pendingReceipts, hstore⟩, fun name hne => ?_, ?_, hdelivers.accepted,
    fun key hdue => hdue.mono (fun k hk => ?_) ?_⟩
  · exact (hdelivers.others name hne).trans
      (Table.find_upsert_of_ne (r := (receiptContact c).toDict P) (Ne.symm hne))
  · rcases hdelivers.own with hsame | ⟨profile, hown⟩
    · exact ⟨receiptContact c, rfl, rfl, rfl, hsame.trans hsaved⟩
    · exact ⟨{ receiptContact c with deliveryProfile := profile }, rfl, rfl, rfl, hown⟩
  · rw [hdelivers.receipted]
    exact hk
  · rw [hstore]
    rfl

/-- Whether it returns or raises, what follows the encryption is a sending. -/
theorem finishReceipt_sent {receipt : OuterBlob} {r : RatchetState} (hr : c.ratchet = some r)
    (sendSeqBefore : Int) :
    ReceiptSent P c w (after ((finishReceipt P outside draws receipt r.toDict sendSeqBefore contactName
      deliveredId route).run
        { world := { w with store := w.store.saveContact P (receiptContact c) }
          contact := receiptContact c })).world := by
  have hkeys : (receiptContact c).ratchet.map RatchetState.skippedKeys = some r.skippedKeys := by
    rw [receiptContact, hr]
    rfl
  have hdelivers : Delivers P
      { world := { w with store := w.store.saveContact P (receiptContact c) }
        contact := receiptContact c }
      (after ((deliverEncrypted P outside receipt none false draws.now recursionLimit true).run
        { world := { w with store := w.store.saveContact P (receiptContact c) }
          contact := receiptContact c })) :=
    delivers_deliverEncrypted none false recursionLimit true _
  have hsent := sent_of_delivers hdelivers
  rw [finishReceipt_run hkeys]
  cases hrun : (deliverEncrypted P outside receipt none false draws.now recursionLimit true).run
      { world := { w with store := w.store.saveContact P (receiptContact c) }
        contact := receiptContact c } with
  | ok taken h =>
      rw [hrun, after_ok] at hsent
      obtain ⟨contacts, pendingReceipts, hstore⟩ := hsent.store
      refine ⟨⟨contacts,
          (h.world.store.deletePendingReceipt contactName deliveredId).pendingReceipts, ?_⟩,
        hsent.others, hsent.own, hsent.accepted, fun key hdue => ?_⟩
      · show h.world.store.deletePendingReceipt contactName deliveredId = _
        rw [FileLocalStore.deletePendingReceipt, hstore]
      · -- the row that is deleted is that of the receipt that was delivered
        rcases hsent.due key hdue with hdone | ⟨row, hrow, hkey⟩
        · exact Or.inl (List.mem_append_left _ hdone)
        · by_cases hthis : key = (contactName, deliveredId)
          · exact Or.inl (List.mem_append_right _ (List.mem_singleton.mpr hthis))
          · exact Or.inr ⟨row, Table.mem_delete.mpr ⟨hrow, hkey ▸ hthis⟩, hkey⟩
  | error e h =>
      rw [hrun, after_error] at hdelivers hsent
      by_cases he : e.isDeliveryError = true
      · simp only [if_pos he, after_ok]
        obtain ⟨contacts, pendingReceipts, hstore⟩ := hsent.store
        obtain ⟨profile, hcontact⟩ := hdelivers.contact
        let saved : Contact :=
          { h.contact with ratchet := some r.restored, nextSendSeq := sendSeqBefore }
        have hname : saved.name = c.name := by
          show h.contact.name = c.name
          rw [hcontact]
          rfl
        refine ⟨⟨(h.world.store.saveContact P saved).contacts,
            (h.world.store.savePendingReceipt contactName deliveredId route
              draws.now).pendingReceipts, ?_⟩,
          fun name hne => ?_, ⟨saved, hname, ?_, ?_, ?_⟩, hsent.accepted, fun key hdue => ?_⟩
        · show (h.world.store.saveContact P saved).savePendingReceipt contactName deliveredId route
            draws.now = _
          rw [FileLocalStore.savePendingReceipt, FileLocalStore.saveContact, hstore]
          rfl
        · have hne' : (saved.toDict P).name ≠ name := fun h => hne (h.symm.trans hname)
          exact (Table.find_upsert_of_ne hne').trans (hsent.others name hne)
        · show h.contact.lastRecvSeq = c.lastRecvSeq
          rw [hcontact]
          rfl
        · rw [hr]
          rfl
        · rw [← hname]
          exact Table.find_upsert_self (r := saved.toDict P)
        · rcases hsent.due key hdue with hdone | ⟨row, hrow, hkey⟩
          · exact Or.inl hdone
          · by_cases hthis : key = (contactName, deliveredId)
            · subst hthis
              exact Or.inr ⟨_, Table.mem_upsert.mpr (Or.inr rfl), rfl⟩
            · refine Or.inr ⟨row, Table.mem_upsert.mpr (Or.inl ⟨hrow, ?_⟩), hkey⟩
              rw [hkey]
              exact hthis
      · simp only [if_neg he, after_error]
        exact hsent

end Receipt

/-- **Sending a receipt.** A sending that raises before the receipt is encrypted leaves the device
as it was, but for the draws it has used; any other is one of the contact that was loaded. -/
theorem sendDeliveryReceipt_cases (outside : Outside) (identity : Identity)
    (contactName deliveredId : String) (route : Option String) (w : World) :
    (∃ e, (sendDeliveryReceipt P outside identity contactName deliveredId route).run w
        = .error e { w with encryptions := w.encryptions + 1 })
      ∨ ∃ c, w.store.getContact P contactName = .ok (some c)
        ∧ ReceiptSent P c w
          (after ((sendDeliveryReceipt P outside identity contactName deliveredId route).run w)) := by
  let drawn : World := { w with encryptions := w.encryptions + 1 }
  unfold sendDeliveryReceipt
  rw [run_get_bind]
  dsimp only
  rw [run_modify_bind]
  cases hcontact : w.store.getContact P contactName with
  | error e => exact Or.inl ⟨e, rfl⟩
  | ok found =>
      rw [EStateM.run_bind, run_orRaise_ok]
      dsimp only
      cases found with
      | none => exact Or.inl ⟨_, rfl⟩
      | some c =>
          dsimp only
          rw [run_withContact]
          cases hr : c.ratchet with
          | none =>
              have hsession : openSession c = .error
                  (.valueError "contact missing double ratchet state; re-pair required") := by
                rw [openSession, hr]
                rfl
              rw [sendReceipt, run_get_bind, EStateM.run_bind, hsession, run_orRaise_error]
              exact Or.inl ⟨_, rfl⟩
          | some r =>
              rw [sendReceipt_run hr]
              cases hencrypt : (encryptReceipt P identity (outside.draws w.encryptions)
                  deliveredId).run c with
              | error e c' => exact Or.inl ⟨e, rfl⟩
              | ok receipt c' =>
                  refine Or.inr ⟨c, rfl, ?_⟩
                  have hsent : ReceiptSent P c drawn (after ((finishReceipt P outside
                      (outside.draws w.encryptions) receipt.outerBlob r.toDict c.nextSendSeq
                      contactName deliveredId route).run
                        { world := { drawn with
                            store := drawn.store.saveContact P (receiptContact c) }
                          contact := receiptContact c })).world :=
                    finishReceipt_sent hr c.nextSendSeq
                  dsimp only
                  cases hfinish : (finishReceipt P outside (outside.draws w.encryptions)
                      receipt.outerBlob r.toDict c.nextSendSeq contactName deliveredId route).run
                      { world := { drawn with
                          store := drawn.store.saveContact P (receiptContact c) }
                        contact := receiptContact c } with
                  | ok sent h =>
                      rw [hfinish] at hsent
                      exact ⟨hsent.store, hsent.others, hsent.own, hsent.accepted, hsent.due⟩
                  | error e h =>
                      rw [hfinish] at hsent
                      exact ⟨hsent.store, hsent.others, hsent.own, hsent.accepted, hsent.due⟩

end Yakr
