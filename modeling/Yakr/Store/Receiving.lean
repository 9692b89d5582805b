import Yakr.Core.Plain
import Yakr.Core.Store

/-!
# Yakr.Store.Receiving

**Is an acknowledged message stored?** A text is committed together with the contact whose
counters it moved and the receipt that tells its sender to forget it. The three tables are
written with different conflict rules: the contact and the receipt replace what is there, the
message gives way to an older row of the same contact name and sequence number.

`acknowledged_iff` says from which databases a commit that returns has stored the message, and
one that raises has changed nothing.
-/

namespace Yakr

open Lib Effect

variable {P : Packages}

namespace FileLocalStore

/-! ### The transaction -/

section Commit

variable {identity : Identity} {nonce : Nonce} {synced : Except PyExc Unit} {contact : Contact}
  {inner : InnerMessage} {deliveredId receiptRoute : Option String} {now : Int}
  {store store' : FileLocalStore}

/-- The local ciphertext of a message. -/
def localCiphertextOf (P : Packages) (identity : Identity) (nonce : Nonce) (inner : InnerMessage) :
    Bytes :=
  nonce.1 ++ P.aeadEncrypt ⟨deviceStorageKey P identity, length_hkdfDerive P ..⟩ nonce []
    inner.toBytes

theorem wrapLocalCiphertext_eq (identity : Identity) (nonce : Nonce) (inner : InnerMessage) :
    wrapLocalCiphertext P identity nonce inner.toBytes
      = .ok (localCiphertextOf P identity nonce inner) :=
  dif_pos (length_hkdfDerive P ..)

/-- What is unwrapped again is what was wrapped. -/
theorem unwrapLocalCiphertext_wrap (haead : P.AeadLaws) (identity : Identity) (nonce : Nonce)
    (inner : InnerMessage) :
    unwrapLocalCiphertext P identity (localCiphertextOf P identity nonce inner)
      = .ok inner.toBytes :=
  xchachaDecrypt_encrypt haead (wrapLocalCiphertext_eq identity nonce inner)

/-- The row of a text. -/
def inboundRow (P : Packages) (identity : Identity) (nonce : Nonce) (contact : Contact)
    (inner : InnerMessage) (now : Int) : InboundMessage :=
  { contactName := contact.name
    seq := inner.seq
    validUntil := inner.validUntil
    receivedAt := now
    localCiphertext := localCiphertextOf P identity nonce inner }

/-- What the transaction writes when no statement fails. -/
def received (P : Packages) (identity : Identity) (nonce : Nonce) (contact : Contact)
    (inner : InnerMessage) (deliveredId receiptRoute : Option String) (now : Int)
    (store : FileLocalStore) : FileLocalStore :=
  let store := insertInbound (inboundRow P identity nonce contact inner now)
    (store.saveContact P contact)
  match deliveredId with
  | some deliveredId => store.savePendingReceipt contact.name deliveredId receiptRoute now
  | none => store

/-- No statement of the transaction fails: no fault is injected into one that is reached, and
the integers fit their columns. -/
structure Commits (store : FileLocalStore) (inner : InnerMessage) (deliveredId : Option String) :
    Prop where
  message : store.testFault ≠ some "inbound_message"
  seq : sqlInteger inner.seq = .ok ()
  validUntil : sqlInteger inner.validUntil = .ok ()
  receipt : deliveredId ≠ none → store.testFault ≠ some "pending_receipt"

theorem injectFault_of_ne {fault : String} (h : store.testFault ≠ some fault) :
    (injectFault fault).run store = .ok () store := by
  simp [injectFault, h]

theorem injectFault_of_eq {fault : String} (h : store.testFault = some fault) :
    (injectFault fault).run store = .error (.other "OperationalError") store := by
  simp [injectFault, h]

/-- A transaction whose statements succeed is its statements. -/
theorem transaction_bind_ok {α β : Type} {body : StoreM α} {f : α → StoreM β} {a : α}
    (h : body.run store = .ok a store') : (transaction body >>= f).run store = (f a).run store' := by
  have htransaction : (transaction body).run store = .ok a store' := by
    show transaction body store = _
    unfold transaction
    rw [h]
  rw [EStateM.run_bind, htransaction]

/-- What follows a transaction that raises is not run. -/
theorem transaction_refused {α β : Type} {body : StoreM α} {f : α → StoreM β}
    (h : ∃ e store', body.run store = .error e store') :
    ∃ e, (transaction body >>= f).run store = .error e store := by
  obtain ⟨e, store', hrun⟩ := h
  have htransaction : (transaction body).run store = .error e store := by
    show transaction body store = _
    unfold transaction
    rw [hrun]
  refine ⟨e, ?_⟩
  rw [EStateM.run_bind, htransaction]

/-- A commit whose statements succeed; the file is written after it. -/
theorem commit_run (h : Commits store inner deliveredId) :
    (atomicCommitReceiveText P identity nonce synced contact inner deliveredId receiptRoute
        now).run store
      = (orRaise synced : StoreM Unit).run
          (received P identity nonce contact inner deliveredId receiptRoute now store) := by
  have hmessage : (store.saveContact P contact).testFault ≠ some "inbound_message" := h.message
  unfold atomicCommitReceiveText
  rw [wrapLocalCiphertext_eq, EStateM.run_bind, run_orRaise_ok]
  refine transaction_bind_ok (a := ()) ?_
  simp only [EStateM.run_bind, EStateM.run_modify, injectFault_of_ne hmessage, h.seq,
    h.validUntil, run_orRaise_ok]
  cases deliveredId with
  | none => rfl
  | some id =>
      have hreceipt : (insertInbound (inboundRow P identity nonce contact inner now)
          (store.saveContact P contact)).testFault ≠ some "pending_receipt" :=
        h.receipt (Option.some_ne_none id)
      simp only [EStateM.run_bind]
      have hrun := injectFault_of_ne hreceipt
      unfold inboundRow at hrun
      rw [hrun]
      rfl

/-- A statement that fails is rolled back with those before it. -/
theorem commit_refused (P : Packages) (identity : Identity) (nonce : Nonce)
    (synced : Except PyExc Unit) (contact : Contact) (receiptRoute : Option String) (now : Int)
    (h : ¬ Commits store inner deliveredId) :
    ∃ e, (atomicCommitReceiveText P identity nonce synced contact inner deliveredId receiptRoute
      now).run store = .error e store := by
  unfold atomicCommitReceiveText
  rw [wrapLocalCiphertext_eq, EStateM.run_bind, run_orRaise_ok]
  refine transaction_refused ?_
  simp only [EStateM.run_bind, EStateM.run_modify]
  by_cases hmessage : store.testFault = some "inbound_message"
  · have hfault : (store.saveContact P contact).testFault = some "inbound_message" := hmessage
    rw [injectFault_of_eq hfault]
    exact ⟨_, _, rfl⟩
  have hnofault : (store.saveContact P contact).testFault ≠ some "inbound_message" := hmessage
  rw [injectFault_of_ne hnofault]
  cases hseq : sqlInteger inner.seq with
  | error e => exact ⟨e, _, rfl⟩
  | ok u =>
      cases huntil : sqlInteger inner.validUntil with
      | error e => exact ⟨e, _, rfl⟩
      | ok u' =>
          simp only [run_orRaise_ok]
          cases deliveredId with
          | none => exact absurd ⟨hmessage, hseq, huntil, fun hnone => absurd rfl hnone⟩ h
          | some id =>
              by_cases hreceipt : store.testFault = some "pending_receipt"
              · have hfault : (insertInbound (inboundRow P identity nonce contact inner now)
                    (store.saveContact P contact)).testFault = some "pending_receipt" := hreceipt
                have hrun := injectFault_of_eq hfault
                unfold inboundRow at hrun
                simp only [EStateM.run_bind, hrun]
                exact ⟨_, _, rfl⟩
              · exact absurd ⟨hmessage, hseq, huntil, fun _ => hreceipt⟩ h

/-! ### What an acknowledgement promises -/

/-- The text is stored, with the contact and the receipt. -/
structure Stored (P : Packages) (identity : Identity) (contact : Contact) (inner : InnerMessage)
    (deliveredId receiptRoute : Option String) (now : Int) (store : FileLocalStore) : Prop where
  message : ∃ row,
    Table.find InboundMessage.key (contact.name, inner.seq) store.inboundMessages = some row
      ∧ openInbound P identity row = .ok inner
  saved : store.getContact P contact.name = .ok (some contact)
  receipt : ∀ id, deliveredId = some id →
    Table.find PendingReceipt.key (contact.name, id) store.pendingReceipts
      = some { contactName := contact.name, deliveredId := id, route := receiptRoute
               createdAt := now }

/-- The three tables are the same. -/
structure Unchanged (store store' : FileLocalStore) : Prop where
  contacts : store'.contacts = store.contacts
  inboundMessages : store'.inboundMessages = store.inboundMessages
  pendingReceipts : store'.pendingReceipts = store.pendingReceipts

/-- A commit that returns has stored the text, and one that raises has changed nothing. -/
def Acknowledged (P : Packages) (identity : Identity) (contact : Contact) (inner : InnerMessage)
    (deliveredId receiptRoute : Option String) (now : Int) (store : FileLocalStore) :
    EStateM.Result PyExc FileLocalStore Unit → Prop
  | .ok _ store' => Stored P identity contact inner deliveredId receiptRoute now store'
  | .error _ store' => Unchanged store store'

/-- The key is free or its row holds the message already, and message and contact are read back
from their own encodings. -/
structure Storable (P : Packages) (identity : Identity) (contact : Contact) (inner : InnerMessage)
    (store : FileLocalStore) : Prop where
  free : Table.find InboundMessage.key (contact.name, inner.seq) store.inboundMessages = none →
    InnerMessage.fromBytes P inner.toBytes = .ok inner
  taken : ∀ row,
    Table.find InboundMessage.key (contact.name, inner.seq) store.inboundMessages = some row →
      openInbound P identity row = .ok inner
  restored : Contact.fromDict P (contact.toDict P) = .ok contact

theorem received_contacts : (received P identity nonce contact inner deliveredId receiptRoute now
    store).contacts = (store.saveContact P contact).contacts := by
  cases deliveredId with
  | none => rfl
  | some id => rfl

theorem received_inboundMessages : (received P identity nonce contact inner deliveredId
      receiptRoute now store).inboundMessages
    = Table.insertNew InboundMessage.key (inboundRow P identity nonce contact inner now)
        store.inboundMessages := by
  cases deliveredId with
  | none => rfl
  | some id => rfl

theorem getContact_received : (received P identity nonce contact inner deliveredId receiptRoute
      now store).getContact P contact.name
    = (Contact.fromDict P (contact.toDict P)).map some := by
  have hfind : Table.find ContactDict.name contact.name (store.saveContact P contact).contacts
      = some (contact.toDict P) :=
    Table.find_upsert_self (r := contact.toDict P)
  rw [getContact, received_contacts, hfind]
  rfl

theorem openInbound_inboundRow (haead : P.AeadLaws) :
    openInbound P identity (inboundRow P identity nonce contact inner now)
      = InnerMessage.fromBytes P inner.toBytes := by
  rw [openInbound, inboundRow]
  simp only [unwrapLocalCiphertext_wrap haead, bind, Except.bind]

/-- What the transaction has written is the text, the contact and the receipt exactly when they
can be stored. -/
theorem stored_received_iff (haead : P.AeadLaws) :
    Stored P identity contact inner deliveredId receiptRoute now
        (received P identity nonce contact inner deliveredId receiptRoute now store)
      ↔ Storable P identity contact inner store := by
  have hfind : Table.find InboundMessage.key (contact.name, inner.seq)
      (received P identity nonce contact inner deliveredId receiptRoute now store).inboundMessages
      = some ((Table.find InboundMessage.key (contact.name, inner.seq)
          store.inboundMessages).getD (inboundRow P identity nonce contact inner now)) := by
    rw [received_inboundMessages]
    exact Table.find_insertNew_self (r := inboundRow P identity nonce contact inner now)
  have hcontact : (received P identity nonce contact inner deliveredId receiptRoute now
      store).getContact P contact.name = .ok (some contact)
        ↔ Contact.fromDict P (contact.toDict P) = .ok contact := by
    rw [getContact_received]
    cases Contact.fromDict P (contact.toDict P) with
    | error e => simp [Except.map]
    | ok c => simp [Except.map]
  constructor
  · intro h
    obtain ⟨row, hrow, hopen⟩ := h.message
    rw [hfind] at hrow
    obtain rfl := Option.some.inj hrow
    refine ⟨fun hfree => ?_, fun row htaken => ?_, hcontact.mp h.saved⟩
    · rw [hfree] at hopen
      exact (openInbound_inboundRow haead).symm.trans hopen
    · rw [htaken] at hopen
      exact hopen
  · intro h
    refine ⟨⟨_, hfind, ?_⟩, hcontact.mpr h.restored, fun id hid => ?_⟩
    · cases hprior : Table.find InboundMessage.key (contact.name, inner.seq)
          store.inboundMessages with
      | none => exact (openInbound_inboundRow haead).trans (h.free hprior)
      | some row => exact h.taken row hprior
    · subst hid
      let receipt : PendingReceipt :=
        { contactName := contact.name, deliveredId := id, route := receiptRoute, createdAt := now }
      exact Table.find_upsert_self (r := receipt)

/-- **Receiving.** A commit keeps its promise exactly when a statement of its transaction fails;
or the contact's file is written, the text and the contact can be stored, and no older row of
the key holds another message; or the file is not written and the transaction has rewritten
what was there. -/
theorem acknowledged_iff (haead : P.AeadLaws) :
    Acknowledged P identity contact inner deliveredId receiptRoute now store
        ((atomicCommitReceiveText P identity nonce synced contact inner deliveredId receiptRoute
          now).run store)
      ↔ (Commits store inner deliveredId →
          (synced = .ok () → Storable P identity contact inner store)
            ∧ (synced ≠ .ok () → Unchanged store
              (received P identity nonce contact inner deliveredId receiptRoute now store))) := by
  by_cases hcommits : Commits store inner deliveredId
  · rw [commit_run hcommits]
    cases synced with
    | ok u =>
        constructor
        · intro h _
          exact ⟨fun _ => (stored_received_iff haead).mp h, fun hne => absurd rfl hne⟩
        · intro h
          exact (stored_received_iff haead).mpr ((h hcommits).1 rfl)
    | error e =>
        constructor
        · intro h _
          exact ⟨nofun, fun _ => h⟩
        · intro h
          exact (h hcommits).2 nofun
  · obtain ⟨e, hrun⟩ := commit_refused P identity nonce synced contact receiptRoute now hcommits
    rw [hrun]
    exact iff_of_true ⟨rfl, rfl, rfl⟩ fun h => absurd h hcommits

end Commit

namespace ReceivedSample

def owner : Identity :=
  { name := "alice"
    signingPrivate := BytesN.fill 32 1
    agreementPrivate := BytesN.fill 32 2 }

def nonce : Nonce := BytesN.fill 24 3

def bob : Contact :=
  { name := "bob"
    signingPublic := [1]
    agreementPublic := [2]
    masterSecret := [3]
    conversationId := "pairwise_alice_bob"
    lastRecvSeq := 1 }

/-- The first text of a pairing. -/
def first (body : String) : InnerMessage := .text "pairwise_alice_bob" "bob" 1 body 0

/-- A database with the first text of an earlier pairing with a contact of the same name. -/
def paired : FileLocalStore :=
  received plainPackages owner nonce bob (first "old") none none 0 {}

theorem commits (store : FileLocalStore) (body : String) (h : store.testFault = none) :
    Commits store (first body) (some "id") := by
  refine ⟨by simp [h], ?_, ?_, fun _ => by simp [h]⟩
  · exact if_pos (by simp [first, InnerMessage.text, InnerMessage.make])
  · exact if_pos (show -(2 ^ 63) ≤ messageValidUntil 0 ∧ messageValidUntil 0 < 2 ^ 63 by decide)

theorem fromBytes_first (body : String) :
    InnerMessage.fromBytes plainPackages (first body).toBytes = .ok (first body) :=
  InnerMessage.fromBytes_toBytes _ (InnerMessage.wellformed_text ..)

theorem bob_restored : Contact.fromDict plainPackages (bob.toDict plainPackages) = .ok bob := by
  decide +kernel

end ReceivedSample

open ReceivedSample in
/-- The first text is stored in an empty database. -/
theorem first_acknowledged :
    Acknowledged plainPackages owner bob (first "hello") (some "id") none 0 {}
      ((atomicCommitReceiveText plainPackages owner nonce (.ok ()) bob (first "hello") (some "id")
        none 0).run {}) := by
  rw [acknowledged_iff plainPackages_aeadLaws]
  intro _
  exact ⟨fun _ => ⟨fun _ => fromBytes_first "hello", nofun, bob_restored⟩,
    fun hne => absurd rfl hne⟩

open ReceivedSample in
/-- After a new pairing the first text is acknowledged, and the old one is what is stored. -/
theorem first_not_acknowledged :
    ¬ Acknowledged plainPackages owner bob (first "new") (some "id") none 0 paired
      ((atomicCommitReceiveText plainPackages owner nonce (.ok ()) bob (first "new") (some "id")
        none 0).run paired) := by
  rw [commit_run (commits paired "new" rfl)]
  intro h
  have hstorable : Storable plainPackages owner bob (first "new") paired :=
    (stored_received_iff plainPackages_aeadLaws).mp h
  have hprior : Table.find InboundMessage.key (bob.name, (first "new").seq) paired.inboundMessages
      = some (inboundRow plainPackages owner nonce bob (first "old") 0) := by
    rw [paired, received_inboundMessages]
    exact Table.find_insertNew_self (r := inboundRow plainPackages owner nonce bob (first "old") 0)
  have hopen := hstorable.taken _ hprior
  rw [openInbound_inboundRow plainPackages_aeadLaws, fromBytes_first] at hopen
  have hbody : "old" = "new" := congrArg InnerMessage.body (Except.ok.inj hopen)
  revert hbody
  decide

end FileLocalStore
end Yakr
