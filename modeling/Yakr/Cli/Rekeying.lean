import Mathlib.Data.List.Dedup
import Yakr.Cli.Sending
import Yakr.Mailbox.EpochLengths
import Yakr.Pairing.Contacts
import Yakr.Ratchet.Reading
import Yakr.Store.Persistence

/-!
# Yakr.Cli.Rekeying

**When a hybrid session has to be paired anew.** A session refuses to encrypt once it is a week
old or has sent too much, and it takes what it has sent from the next sequence number. That number
starts at one, and a receipt whose delivery fails gives its number back although its ciphertext has
been handed to delivery. `rekey_exact_iff` says at which counts the limit is nevertheless the one of
10,000 ciphertexts.

* `SessionStep` are the steps of a session after its pairing, with what has been handed to delivery;
* `Counts` is what the sequence number says about them (`counts_of_steps`);
* `recordedSendSeq_receipt` is what `send_delivery_receipt` leaves in the store.
-/

namespace Yakr

open Lib Effect Relation

variable {P : Packages}

/-! ### What is handed to delivery -/

/-- A session since its pairing. -/
structure SendLog where
  contact : Contact
  /-- The ciphertexts that were handed to delivery. -/
  handed : List Bytes := []
  /-- How many sequence numbers were given back. -/
  givenBack : Nat := 0

/-- An encryption has counted its message and hands over its ciphertext. -/
def SendLog.handOver (s : SendLog) (contact : Contact) (outer : OuterBlob) : SendLog :=
  { s with contact, handed := s.handed ++ [outer.ciphertext] }

/-- The steps of a session. A nonce of the operating system does not repeat, so a new ciphertext is
none of those before; a ciphertext that is delivered again is not counted again. -/
inductive SessionStep (P : Packages) (identity : Identity) : SendLog → SendLog → Prop where
  /-- A text, a profile or a presence: the contact is stored, then the ciphertext is delivered. -/
  | message {s : SendLog} {draws : Draws} {build : String → String → Int → InnerMessage}
      {e : EncryptedMessage} {c : Contact}
      (hrun : (encryptMessage P identity draws build).run s.contact = .ok e c)
      (hnew : e.outerBlob.ciphertext ∉ s.handed) :
      SessionStep P identity s (s.handOver c e.outerBlob)
  /-- A receipt that is delivered: its ratchet step is undone, its number counts. -/
  | receipt {s : SendLog} {draws : Draws} {deliveredId : String} {e : EncryptedMessage} {c : Contact}
      (hrun : (encryptReceipt P identity draws deliveredId).run s.contact = .ok e c)
      (hnew : e.outerBlob.ciphertext ∉ s.handed) :
      SessionStep P identity s (s.handOver (receiptContact s.contact) e.outerBlob)
  /-- A receipt whose delivery fails: its number is given back, too. -/
  | failedReceipt {s : SendLog} {draws : Draws} {deliveredId : String} {e : EncryptedMessage}
      {c : Contact} (hrun : (encryptReceipt P identity draws deliveredId).run s.contact = .ok e c)
      (hnew : e.outerBlob.ciphertext ∉ s.handed) :
      SessionStep P identity s
        { s.handOver { receiptContact s.contact with nextSendSeq := s.contact.nextSendSeq }
            e.outerBlob with
          givenBack := s.givenBack + 1 }
  /-- An encryption that raises hands nothing over. -/
  | raised {s : SendLog} {draws : Draws} {build : String → String → Int → InnerMessage} {x : PyExc}
      {c : Contact} (hrun : (encryptMessage P identity draws build).run s.contact = .error x c) :
      SessionStep P identity s { s with contact := c }
  /-- A fetch stores the contact it had loaded before `n` queued receipts were delivered. -/
  | overwritten {s : SendLog} (n : Nat) :
      SessionStep P identity s
        { s with
          contact := { s.contact with nextSendSeq := s.contact.nextSendSeq - n }
          givenBack := s.givenBack + n }
  /-- Anything else that happens to the contact. -/
  | other {s : SendLog} {c : Contact} (hseq : c.nextSendSeq = s.contact.nextSendSeq)
      (hhybrid : c.hybridPq = s.contact.hybridPq)
      (hstarted : c.sessionStartedAt = s.contact.sessionStartedAt) :
      SessionStep P identity s { s with contact := c }

section Counts

variable {identity : Identity} {c₀ : Contact} {s s' : SendLog}

/-- What the counters of a session say about what was handed to delivery. -/
structure Counts (c₀ : Contact) (s : SendLog) : Prop where
  nextSendSeq : s.contact.nextSendSeq + s.givenBack = 1 + s.handed.length
  distinct : s.handed.Nodup
  hybridPq : s.contact.hybridPq = c₀.hybridPq
  sessionStartedAt : s.contact.sessionStartedAt = c₀.sessionStartedAt

/-- A step that hands a new ciphertext over keeps the count when the number moves by one, less what
is given back. -/
theorem Counts.handOver (h : Counts c₀ s) {c : Contact} {outer : OuterBlob} (back : Nat)
    (hnew : outer.ciphertext ∉ s.handed) (hseq : c.nextSendSeq + back = s.contact.nextSendSeq + 1)
    (hhybrid : c.hybridPq = s.contact.hybridPq)
    (hstarted : c.sessionStartedAt = s.contact.sessionStartedAt) :
    Counts c₀ { s.handOver c outer with givenBack := s.givenBack + back } where
  nextSendSeq := by
    have hcount := h.nextSendSeq
    show c.nextSendSeq + ((s.givenBack + back : Nat) : Int)
      = 1 + (((s.handed ++ [outer.ciphertext]).length : Nat) : Int)
    rw [List.length_append, List.length_singleton]
    push_cast
    omega
  distinct := List.nodup_append.mpr ⟨h.distinct, List.nodup_singleton _, fun a ha b hb heq =>
    hnew (by rwa [← List.mem_singleton.mp hb, ← heq])⟩
  hybridPq := hhybrid.trans h.hybridPq
  sessionStartedAt := hstarted.trans h.sessionStartedAt

/-- One step keeps the count. -/
theorem Counts.step (h : Counts c₀ s) (hstep : SessionStep P identity s s') : Counts c₀ s' := by
  cases hstep with
  | message hrun hnew =>
      obtain ⟨_, _, _, -, -, -, rfl⟩ := (encryptMessage_ok hrun).ratchet
      exact h.handOver 0 hnew (Int.add_zero _) rfl rfl
  | receipt hrun hnew => exact h.handOver 0 hnew (Int.add_zero _) rfl rfl
  | failedReceipt hrun hnew => exact h.handOver 1 hnew rfl rfl rfl
  | raised hrun =>
      obtain ⟨_, rfl⟩ := encryptMessage_error hrun
      exact ⟨h.nextSendSeq, h.distinct, h.hybridPq, h.sessionStartedAt⟩
  | overwritten n =>
      refine ⟨?_, h.distinct, h.hybridPq, h.sessionStartedAt⟩
      have hcount := h.nextSendSeq
      show s.contact.nextSendSeq - n + ((s.givenBack + n : Nat) : Int) = 1 + s.handed.length
      push_cast
      omega
  | other hseq hhybrid hstarted =>
      refine ⟨?_, h.distinct, hhybrid.trans h.hybridPq, hstarted.trans h.sessionStartedAt⟩
      have hcount := h.nextSendSeq
      rwa [← hseq] at hcount

/-- So does a run from a new pairing. -/
theorem counts_of_steps (hpaired : NewlyPaired P identity c₀)
    (hrun : ReflTransGen (SessionStep P identity) { contact := c₀ } s) : Counts c₀ s := by
  induction hrun with
  | refl =>
      refine ⟨?_, List.nodup_nil, rfl, rfl⟩
      show c₀.nextSendSeq + 0 = 1 + 0
      rw [hpaired.startsAtOne.nextSendSeq]
  | tail _ hstep ih => exact ih.step hstep

end Counts

/-! ### What the code does to the number -/

section Code

variable {identity : Identity} {c : Contact} {s : SendLog}

/-- An inbound blob leaves the counters of sending alone. -/
theorem sessionStep_inbound (generated : PrivateKey) (now : Int) (outer : OuterBlob) :
    SessionStep P identity s
      { s with contact := after ((decryptInbound P generated now outer).run s.contact) } := by
  have hkeeps : ∃ ratchet lastRecvSeq,
      after ((decryptInbound P generated now outer).run s.contact)
        = { s.contact with ratchet, lastRecvSeq } := by
    cases hrun : (decryptInbound P generated now outer).run s.contact with
    | ok inner c =>
        obtain ⟨r, -, rfl⟩ := decryptInbound_ok hrun
        exact ⟨some r, inner.seq, rfl⟩
    | error e c =>
        obtain ⟨r, rfl⟩ := decryptInbound_error hrun
        exact ⟨r, s.contact.lastRecvSeq, rfl⟩
  obtain ⟨ratchet, lastRecvSeq, hafter⟩ := hkeeps
  rw [hafter]
  exact .other rfl rfl rfl

/-- The next sequence number in a contact's row. -/
def recordedSendSeq (store : FileLocalStore) (name : String) : Option Int :=
  (Table.find ContactDict.name name store.contacts).map ContactDict.nextSendSeq

/-- A delivery leaves the number of its contact as it was saved. -/
theorem recordedSendSeq_delivers {h h' : Handling} (hdelivers : Delivers P h h')
    (hsaved : Table.find ContactDict.name h.contact.name h.world.store.contacts
      = some (h.contact.toDict P)) :
    recordedSendSeq h'.world.store h.contact.name = some h.contact.nextSendSeq := by
  unfold recordedSendSeq
  rcases hdelivers.own with hsame | ⟨profile, hown⟩
  · rw [hsame, hsaved]
    rfl
  · rw [hown]
    rfl

/-- `send_delivery_receipt` once the receipt is encrypted: the number counts, unless the delivery
fails with one of the errors that queue the receipt. -/
theorem recordedSendSeq_receipt {outside : Outside} {contactName deliveredId : String}
    {route : Option String} {w : World} {receipt : EncryptedMessage} {c' : Contact}
    (hcontact : w.store.getContact P contactName = .ok (some c))
    (hencrypt : (encryptReceipt P identity (outside.draws w.encryptions) deliveredId).run c
      = .ok receipt c') :
    recordedSendSeq
        (after ((sendDeliveryReceipt P outside identity contactName deliveredId route).run w)).store
        contactName
      = some (if value? ((sendDeliveryReceipt P outside identity contactName deliveredId route).run w)
          = some false then c.nextSendSeq else c.nextSendSeq + 1) := by
  obtain ⟨r, -, -, hr, -⟩ := (encryptMessage_ok hencrypt).ratchet
  obtain ⟨-, -, -, hname⟩ := getContact_ok hcontact
  let saved : Handling :=
    { world := { w with
        encryptions := w.encryptions + 1
        store := w.store.saveContact P (receiptContact c) }
      contact := receiptContact c }
  have hstart : (sendDeliveryReceipt P outside identity contactName deliveredId route).run w
      = (match (finishReceipt P outside (outside.draws w.encryptions) receipt.outerBlob r.toDict
            c.nextSendSeq contactName deliveredId route).run saved with
        | .ok sent h => .ok sent h.world
        | .error e h => .error e h.world) := by
    unfold sendDeliveryReceipt
    rw [run_get_bind, run_modify_bind, hcontact, EStateM.run_bind, run_orRaise_ok]
    dsimp only
    rw [run_withContact, sendReceipt_run hr, hencrypt]
    dsimp only
    cases hfinish : (finishReceipt P outside (outside.draws w.encryptions) receipt.outerBlob r.toDict
        c.nextSendSeq contactName deliveredId route).run saved with
    | ok sent h => rfl
    | error e h => rfl
  have hkeys : saved.contact.ratchet.map RatchetState.skippedKeys = some r.skippedKeys := by
    show (c.ratchet.map RatchetState.restored).map RatchetState.skippedKeys = _
    rw [hr]
    rfl
  have hdelivers : Delivers P saved (after ((deliverEncrypted P outside receipt.outerBlob none false
      (outside.draws w.encryptions).now recursionLimit true).run saved)) :=
    delivers_deliverEncrypted none false recursionLimit true saved
  have hrecorded := recordedSendSeq_delivers hdelivers
    (Table.find_upsert_self (r := (receiptContact c).toDict P))
  have hsavedName : saved.contact.name = contactName := hname
  rw [hsavedName] at hrecorded
  rw [hstart, finishReceipt_run hkeys]
  cases hrun : (deliverEncrypted P outside receipt.outerBlob none false
      (outside.draws w.encryptions).now recursionLimit true).run saved with
  | ok taken h =>
      rw [hrun] at hrecorded
      exact hrecorded
  | error e h =>
      rw [hrun] at hrecorded hdelivers
      by_cases he : e.isDeliveryError = true
      · obtain ⟨profile, hcontact'⟩ := hdelivers.contact
        have hname' : h.contact.name = contactName := by
          rw [after_error] at hcontact'
          rw [hcontact']
          exact hname
        simp only [if_pos he]
        show (Table.find ContactDict.name contactName (Table.upsert ContactDict.name _ _)).map
          ContactDict.nextSendSeq = some c.nextSendSeq
        rw [← hname']
        exact congrArg (Option.map ContactDict.nextSendSeq)
          (Table.find_upsert_self (r := Contact.toDict P { h.contact with
            ratchet := some r.restored, nextSendSeq := c.nextSendSeq }))
      · simp only [if_neg he]
        exact hrecorded

end Code

/-! ### The exceptions of an encryption -/

section Raising

variable {α β : Type} {σ : Type}

/-- Whatever the computation raises, it is no exception of this program. -/
def ThrowsBuiltin (m : EStateM PyExc σ α) : Prop :=
  ∀ s e s', m.run s = .error e s' → e.isYakrError = false

namespace ThrowsBuiltin

variable {m : EStateM PyExc σ α}

theorem pure (a : α) : ThrowsBuiltin (pure a : EStateM PyExc σ α) := nofun

theorem get : ThrowsBuiltin (get : EStateM PyExc σ σ) := nofun

theorem modify (f : σ → σ) : ThrowsBuiltin (modify f : EStateM PyExc σ PUnit) := nofun

theorem raise {e : PyExc} (h : e.isYakrError = false) :
    ThrowsBuiltin (throw e : EStateM PyExc σ α) := by
  intro s e' s' hrun
  cases hrun
  exact h

theorem orRaise {x : Except PyExc α} (h : ∀ e, x = .error e → e.isYakrError = false) :
    ThrowsBuiltin (orRaise x : EStateM PyExc σ α) := by
  cases x with
  | ok a => exact pure a
  | error e => exact raise (h e rfl)

theorem bind (hm : ThrowsBuiltin m) {f : α → EStateM PyExc σ β} (hf : ∀ a, ThrowsBuiltin (f a)) :
    ThrowsBuiltin (m >>= f) := by
  intro s e s' hrun
  rw [EStateM.run_bind] at hrun
  cases hfirst : m.run s with
  | error x t =>
      rw [hfirst] at hrun
      cases hrun
      exact hm s e s' hfirst
  | ok a t =>
      rw [hfirst] at hrun
      exact hf a t e s' hrun

theorem guard {c : Prop} [Decidable c] {e : PyExc} {f : PUnit → EStateM PyExc σ β}
    (he : e.isYakrError = false) (hf : ThrowsBuiltin (f ⟨⟩)) :
    ThrowsBuiltin (if c then throw e >>= f else f ⟨⟩) := by
  split
  · exact bind (raise he) fun _ => hf
  · exact hf

end ThrowsBuiltin

end Raising

theorem loadPrivate_builtin {raw : Bytes} {e : PyExc} (h : loadPrivate raw = .error e) :
    e.isYakrError = false := by
  unfold loadPrivate at h
  split at h
  · cases h
  · cases h
    rfl

theorem x25519SharedSecret_builtin {k : PrivateKey} {peer : Bytes} {e : PyExc}
    (h : x25519SharedSecret P k peer = .error e) : e.isYakrError = false := by
  unfold x25519SharedSecret at h
  split at h
  · split at h
    · cases h
    · cases h
      rfl
  · cases h
    rfl

theorem headerAad_builtin {dhPublic : Bytes} {prevN n : Nat} {e : PyExc}
    (h : RatchetState.headerAad dhPublic prevN n = .error e) : e.isYakrError = false := by
  unfold RatchetState.headerAad packCounters at h
  split at h
  · cases h
  · cases h
    rfl

theorem xchachaEncrypt_builtin {nonce : Nonce} {key plaintext aad : Bytes} {e : PyExc}
    (h : xchachaEncrypt P nonce key plaintext aad = .error e) : e.isYakrError = false := by
  unfold xchachaEncrypt at h
  split at h
  · cases h
  · cases h
    rfl

theorem padPlaintext_builtin {plaintext : Bytes} {mode : PrivacyMode} {e : PyExc}
    (h : padPlaintext plaintext mode = .error e) : e.isYakrError = false := by
  unfold padPlaintext at h
  split at h
  · cases h
  · split at h
    · cases h
      rfl
    · dsimp only at h
      split at h
      · cases h
        rfl
      · cases h

theorem derive_builtin {deriver : MailboxTagDeriver} {now : Int} {direction : String} {e : PyExc}
    (h : deriver.derive P now direction = .error e) : e.isYakrError = false := by
  unfold MailboxTagDeriver.derive currentEpoch at h
  split at h
  · cases h
    rfl
  · cases h

theorem RatchetState.encrypt_builtin (generated : PrivateKey) (nonce : Nonce) (plaintext : Bytes) :
    ThrowsBuiltin (encrypt P generated nonce plaintext) := by
  have hpairing : ∀ peer, ThrowsBuiltin (pairingSendInit P peer generated) := by
    intro peer
    unfold pairingSendInit
    refine .guard rfl (.bind (.modify _) fun _ => .bind .get fun _ => ?_)
    refine .bind (.orRaise fun _ => loadPrivate_builtin) fun dhSelf => ?_
    refine .bind (.orRaise fun _ => x25519SharedSecret_builtin) fun dhOutput => .bind .get fun _ => ?_
    refine .bind (.modify _) fun _ => ?_
    exact .bind (.orRaise fun _ => x25519SharedSecret_builtin) fun dhOutput => .modify _
  unfold encrypt
  refine .bind (.bind .get fun s => ?_) fun _ => .bind (.bind .get fun s => ?_) fun messageKey => ?_
  · cases s.pendingPairingDhRatchetPeer with
    | none => exact .pure _
    | some peer => exact .bind (.modify _) fun _ => hpairing peer
  · cases s.sendChainKey with
    | none => exact .raise rfl
    | some chainKey => exact .bind (.modify _) fun _ => .pure _
  · refine .bind .get fun s => .bind (.orRaise fun _ => headerAad_builtin) fun aad => ?_
    refine .bind (.orRaise fun _ => xchachaEncrypt_builtin) fun ciphertext => ?_
    exact .bind (.modify _) fun _ => .pure _

theorem onRatchet_builtin {α : Type} {m : RatchetM α} (h : ThrowsBuiltin m) :
    ThrowsBuiltin (onRatchet m) := by
  intro c e c' hrun
  cases hr : c.ratchet with
  | none =>
      have hnone : (onRatchet m) c = .error e c' := hrun
      rw [onRatchet, hr] at hnone
      cases hnone
      rfl
  | some r =>
      rw [onRatchet_run hr] at hrun
      cases hm : m.run r with
      | ok a r' =>
          rw [hm] at hrun
          cases hrun
      | error x r' =>
          rw [hm] at hrun
          cases hrun
          exact h r e r' hm

/-- Past the check of the session an encryption raises no exception of this program. -/
theorem encryptInner_builtin (draws : Draws) (inner : InnerMessage) :
    ThrowsBuiltin (encryptInner P draws inner) := by
  unfold encryptInner
  refine .bind .get fun c => .bind (.orRaise fun _ => padPlaintext_builtin) ?_
  rintro ⟨padded, added⟩
  exact .bind (onRatchet_builtin (RatchetState.encrypt_builtin _ _ _)) fun _ => .pure _

/-! ### The limit -/

section Limit

variable {identity : Identity} {draws : Draws} {c : Contact}
  {build : String → String → Int → InnerMessage}

/-- A call is refused. -/
def Refused (P : Packages) (identity : Identity) (draws : Draws)
    (build : String → String → Int → InnerMessage) (c : Contact) : Prop :=
  ∃ msg c', (encryptMessage P identity draws build).run c = .error (.yakr .rekeyRequired msg) c'

/-- A call is refused by the check of the session, and by nothing else. -/
theorem refused_iff :
    Refused P identity draws build c
      ↔ needsPqRekey c.hybridPq c.sessionStartedAt c.nextSendSeq draws.now = true := by
  constructor
  · rintro ⟨msg, c', hrun⟩
    by_contra hfresh
    have hpasses : (requireFreshSession draws.now).run c = .ok ⟨⟩ c := by
      simp [requireFreshSession, hfresh]
    rw [encryptMessage, EStateM.run_bind, hpasses] at hrun
    -- everything after the check raises exceptions of the language and the libraries only
    have hbuiltin : (PyExc.yakr .rekeyRequired msg).isYakrError = false := by
      refine ThrowsBuiltin.bind .get (fun c => ?_) c _ c' hrun
      refine .bind (encryptInner_builtin _ _) ?_
      rintro ⟨ciphertext, added⟩
      refine .bind .get fun c => .bind (.orRaise fun _ => derive_builtin) fun tag => ?_
      exact .bind (.modify _) fun _ => .pure _
    cases hbuiltin
  · intro hneeds
    refine ⟨"PQ session rekey required", c, ?_⟩
    have hraises : (requireFreshSession draws.now).run c
        = .error (.yakr .rekeyRequired "PQ session rekey required") c := by
      simp [requireFreshSession, hneeds]
    rw [encryptMessage, EStateM.run_bind, hraises]

/-- A call of a hybrid session is refused exactly when the session is a week old, or 10,000 distinct
ciphertexts have been handed to delivery. -/
def LimitExact (P : Packages) (identity : Identity) (draws : Draws)
    (build : String → String → Int → InnerMessage) (s : SendLog) : Prop :=
  Refused P identity draws build s.contact
    ↔ pqRekeyMaxMessages ≤ s.handed.dedup.length
      ∨ pqRekeyMaxAgeMs ≤ draws.now - s.contact.sessionStartedAt

/-- **The re-keying limit.** Of a hybrid contact, after any run since the pairing, the limit is
exact when the session is a week old; before, when fewer than 9,999 ciphertexts were handed over,
when 9,999 were and a number was given back, or when 10,000 were and no more numbers were given
back than ciphertexts came after the first 9,999. -/
theorem rekey_exact_iff {c₀ : Contact} (hpaired : NewlyPaired P identity c₀)
    (hhybrid : c₀.hybridPq = true) {s : SendLog}
    (hrun : ReflTransGen (SessionStep P identity) { contact := c₀ } s) :
    LimitExact P identity draws build s
      ↔ pqRekeyMaxAgeMs ≤ draws.now - c₀.sessionStartedAt
        ∨ s.handed.length + 1 < pqRekeyMaxMessages
        ∨ s.handed.length + 1 = pqRekeyMaxMessages ∧ 0 < s.givenBack
        ∨ pqRekeyMaxMessages ≤ s.handed.length
          ∧ pqRekeyMaxMessages + s.givenBack ≤ s.handed.length + 1 := by
  have hcounts := counts_of_steps hpaired hrun
  have hseq : s.contact.nextSendSeq = 1 + s.handed.length - s.givenBack := by
    have hcount := hcounts.nextSendSeq
    omega
  rw [LimitExact, refused_iff, List.Nodup.dedup hcounts.distinct, hcounts.sessionStartedAt, needsPqRekey,
    hcounts.hybridPq, hhybrid, hseq]
  simp only [Bool.true_and, Bool.or_eq_true, decide_eq_true_eq]
  rw [pqRekeyMaxMessages]
  omega

end Limit

/-! ### Texts only -/

section Texts

variable {identity : Identity} {c : Contact} {r : RatchetState} {start : Bytes}

/-- The `n`th call of a session that sends one text after another, each with a nonce of its own. -/
def nthDraws (k : PrivateKey) (n : Nat) : Draws :=
  { now := 0, ratchetPrivate := k, nonce := ⟨Bytes.ofNatBE 24 n, Bytes.length_ofNatBE 24 n⟩ }

/-- What `encrypt_text` builds at the time 0. -/
def emptyText (conversationId deviceId : String) (seq : Int) : InnerMessage :=
  InnerMessage.text conversationId deviceId seq "" 0

/-- The contact after `n` texts. -/
def afterTexts (P : Packages) (c : Contact) (r : RatchetState) (start : Bytes) (n : Nat) : Contact :=
  { c with
    ratchet := some { r with sendChainKey := some (chainKey P start n), sendN := n }
    nextSendSeq := (n : Int) + 1 }

/-- A text below the limit is accepted, at the position it has among the texts. -/
theorem emptyText_afterTexts (identity : Identity) (c : Contact) (start : Bytes)
    (hsends : SendsAtOnce r) (hmode : c.privacyMode = .fast)
    (hstarted : c.sessionStartedAt = 0) (hepoch : mailboxEpochSecs c ≠ 0) (k : PrivateKey) {n : Nat}
    (hn : n + 1 < 10000) :
    ∃ e, (encryptMessage P identity (nthDraws k n) emptyText).run (afterTexts P c r start n)
        = .ok e (afterTexts P c r start (n + 1))
      ∧ RatchetState.messageNumber e.outerBlob.ciphertext = n := by
  have hfresh : needsPqRekey c.hybridPq c.sessionStartedAt ((n : Int) + 1) 0 = false := by
    rw [needsPqRekey, hstarted, pqRekeyMaxMessages, pqRekeyMaxAgeMs]
    simp only [Bool.and_eq_false_iff, Bool.or_eq_false_iff, decide_eq_false_iff_not]
    omega
  obtain ⟨tag, htag⟩ : ∃ tag, (mailboxDeriver P identity (afterTexts P c r start n) true).derive P 0
      (sendDirection identity (afterTexts P c r start n)) = .ok tag := derive_returns_iff.mpr hepoch
  obtain ⟨payload, hcarries, hpayload⟩ := RatchetState.encrypt_running
    (s := { r with sendChainKey := some (chainKey P start n), sendN := n }) k (nthDraws k n).nonce
    (builtFor P identity (afterTexts P c r start n) emptyText).toBytes
    hsends.pending rfl hsends.length_dhSelfPublic (by rw [hsends.prevSendN]; omega)
    (by show n < 2 ^ 32; omega)
  have hpad : padPlaintext (builtFor P identity (afterTexts P c r start n) emptyText).toBytes
      (afterTexts P c r start n).privacyMode
        = .ok ((builtFor P identity (afterTexts P c r start n) emptyText).toBytes, 0) := by
    show padPlaintext _ c.privacyMode = _
    rw [hmode]
    rfl
  have hrun : (encryptMessage P identity (nthDraws k n) emptyText).run (afterTexts P c r start n)
      = .ok _ (afterTexts P c r start (n + 1)) :=
    encryptMessage_run hfresh rfl hpad hpayload htag
  refine ⟨_, hrun, ?_⟩
  obtain ⟨prevN, nonce, aad, ciphertext, haad, -, rfl⟩ := hcarries.sealed
  exact (RatchetState.parses_append hsends.length_dhSelfPublic haad ciphertext).n

/-- A session of a joiner sends 9,999 texts, and gives no number back. -/
theorem steps_texts (identity : Identity) (hr : c.ratchet = some r) (hsends : SendsAtOnce r)
    (hstart : r.sendChainKey = some start) (hmode : c.privacyMode = .fast)
    (hseq : c.nextSendSeq = 1) (hstarted : c.sessionStartedAt = 0)
    (hepoch : mailboxEpochSecs c ≠ 0) (k : PrivateKey) {n : Nat} (hn : n < 10000) :
    ∃ handed : List Bytes, handed.length = n
      ∧ (∀ ciphertext ∈ handed, RatchetState.messageNumber ciphertext < n)
      ∧ ReflTransGen (SessionStep P identity) { contact := c }
          { contact := afterTexts P c r start n, handed } := by
  induction n with
  | zero =>
      refine ⟨[], rfl, nofun, ?_⟩
      have hsame : afterTexts P c r start 0 = c := by
        have hratchet : { r with sendChainKey := some (chainKey P start 0), sendN := 0 } = r := by
          rw [chainKey_zero, ← hstart, ← hsends.sendN]
        rw [afterTexts, hratchet, ← hr, Nat.cast_zero, zero_add, ← hseq]
      rw [hsame]
  | succ n ih =>
      obtain ⟨handed, hlength, hnumbers, hrun⟩ := ih (by omega)
      obtain ⟨e, htext, hnumber⟩ := emptyText_afterTexts (P := P) identity c start hsends hmode
        hstarted hepoch k hn
      -- the text is a new one, for its position is
      have hnew : e.outerBlob.ciphertext ∉ handed := by
        intro hmem
        have hlt := hnumbers _ hmem
        omega
      refine ⟨handed ++ [e.outerBlob.ciphertext], ?_, ?_, hrun.tail (.message htext hnew)⟩
      · rw [List.length_append, List.length_singleton, hlength]
      · intro ciphertext hmem
        rcases List.mem_append.mp hmem with hold | hlast
        · exact Nat.lt_succ_of_lt (hnumbers ciphertext hold)
        · rw [List.mem_singleton.mp hlast, hnumber]
          exact Nat.lt_succ_self n

end Texts

/-! ### The ten-thousandth text -/

namespace RekeyingSample

open Sample

/-- Bob's contact of Alice, paired over a hybrid invite at the time 0. -/
theorem bob_joins : ∃ request secrets response contact,
    joinerCompletePairing plainPackages bob hybridInvite request secrets response 0 = .ok contact
      ∧ contact.hybridPq = true ∧ contact.sessionStartedAt = 0 ∧ contact.deliveryProfile = none := by
  have hkeys : Keys plainPackages hybridAlice hybridInvite :=
    ⟨plainPackages_dhLaws, fun _ => plainPackages_kemLaws,
      issuedBy_createInvite _ hybridInvite_made, fun _ => ⟨[1], hybridAlice_keys⟩⟩
  obtain ⟨request, secrets, hbuilt⟩ : ∃ request secrets, buildPairingRequest plainPackages bob
      hybridInvite "bob" [] (key 6) (key 7) [2] = .ok (request, secrets) :=
    buildPairingRequest_run fun hhybrid => hkeys.length_kemPublic hhybrid
  obtain ⟨response, atAlice, hanswered⟩ := hkeys.inviterCompletes hbuilt (Or.inl rfl)
    (Or.inl rfl : OwnProfile plainPackages hybridAlice []) (key 8) (key 9) 0
  obtain ⟨contact, hjoined⟩ := hkeys.joinerCompletes hbuilt (Or.inl rfl) (Or.inl rfl) hanswered 0
  obtain ⟨hhybrid, hstarted, hprofile⟩ := joinerCompletePairing_session hjoined
  obtain ⟨_, _, _, _, _, _, -, -, -, hresponse, -⟩ := inviterCompletePairing_ok hanswered
  refine ⟨request, secrets, response, contact, hjoined, ?_, hstarted, ?_⟩
  · rw [hhybrid, inviteSupportsHybrid_createInvite hybridInvite_made]
  · rw [hresponse] at hprofile
    exact hprofile rfl

end RekeyingSample

open Sample RekeyingSample in
/-- Bob has sent 9,999 texts and nothing else since the pairing, a moment ago: the next one is
refused. -/
theorem ten_thousandth_refused : ∃ (c₀ : Contact) (s : SendLog),
    NewlyPaired plainPackages bob c₀ ∧ c₀.hybridPq = true
      ∧ ReflTransGen (SessionStep plainPackages bob) { contact := c₀ } s
      ∧ s.handed.length = 9999 ∧ s.contact.sessionStartedAt = 0
      ∧ Refused plainPackages bob (nthDraws (key 10) 9999) emptyText s.contact
      ∧ ¬ LimitExact plainPackages bob (nthDraws (key 10) 9999) emptyText s := by
  obtain ⟨request, secrets, response, contact, hjoined, hhybrid, hstarted, hprofile⟩ := bob_joins
  have hpaired : NewlyPaired plainPackages bob { contact with name := contact.name } :=
    .joiner contact.name hjoined
  obtain ⟨r, hr, hsends⟩ := joinerCompletePairing_sends hjoined
  obtain ⟨start, hstart⟩ := hsends.sendChainKey
  have hone := hpaired.startsAtOne
  have hepoch : mailboxEpochSecs contact ≠ 0 := by
    rw [mailboxEpochSecs, hprofile]
    decide
  obtain ⟨handed, hlength, hnumbers, hrun⟩ := steps_texts bob hr hsends hstart
    hone.privacyMode hone.nextSendSeq hstarted hepoch (key 10) (by decide : 9999 < 10000)
  have hrefused : Refused plainPackages bob (nthDraws (key 10) 9999) emptyText
      (afterTexts plainPackages contact r start 9999) := by
    have hmany : (pqRekeyMaxMessages : Int) ≤ ((9999 : Nat) : Int) + 1 := by decide
    rw [refused_iff, needsPqRekey, afterTexts, hhybrid]
    simp only [Bool.true_and, Bool.or_eq_true, decide_eq_true_eq]
    exact Or.inr hmany
  refine ⟨contact, _, hpaired, hhybrid, hrun, hlength, hstarted, hrefused, fun hexact => ?_⟩
  have hfew : handed.dedup.length ≤ 9999 := hlength ▸ (List.dedup_sublist handed).length_le
  rcases hexact.mp hrefused with hmany | hold
  · rw [pqRekeyMaxMessages] at hmany
    have hmany' : (10000 : Int) ≤ (handed.dedup.length : Int) := hmany
    omega
  · have hage : pqRekeyMaxAgeMs ≤ 0 - contact.sessionStartedAt := hold
    rw [hstarted, pqRekeyMaxAgeMs] at hage
    omega

open Sample RekeyingSample in
/-- A session that has sent nothing refuses nothing. -/
theorem rekey_exact_of_nothing_sent : ∃ c₀ : Contact,
    c₀.hybridPq = true ∧ NewlyPaired plainPackages bob c₀
      ∧ LimitExact plainPackages bob (nthDraws (key 10) 0) emptyText
          { contact := c₀ } := by
  obtain ⟨request, secrets, response, contact, hjoined, hhybrid, -, -⟩ := bob_joins
  have hpaired : NewlyPaired plainPackages bob { contact with name := contact.name } :=
    .joiner contact.name hjoined
  have hfew : (([] : List Bytes).length : Int) + 1 < pqRekeyMaxMessages := by decide
  exact ⟨contact, hhybrid, hpaired,
    (rekey_exact_iff hpaired hhybrid .refl).mpr (Or.inr (Or.inl hfew))⟩

end Yakr
