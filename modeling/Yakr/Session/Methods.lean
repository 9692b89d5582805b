import Yakr.Core.Session
import Yakr.Ratchet.Methods

/-!
# Yakr.Session.Methods

**What each session method does to its contact.** An `encrypt_*` call that returns
has advanced the ratchet and the sequence number by one; an accepted message has
set the last received sequence number to its own; a call that raises has touched
the ratchet at most. For the methods' successes there is also the converse: what
makes a call succeed, and with which result.
-/

namespace Yakr

open Lib Effect

variable {P : Packages}

/-! ### The ratchet of a contact -/

section OnRatchet

variable {α : Type} {m : RatchetM α} {c c' : Contact} {a : α} {e : PyExc}

theorem onRatchet_run {r : RatchetState} (h : c.ratchet = some r) :
    (onRatchet m).run c =
      match m.run r with
      | .ok a r' => .ok a { c with ratchet := some r' }
      | .error e r' => .error e { c with ratchet := some r' } := by
  show (onRatchet m) c = _
  cases hm : m.run r with
  | ok a r' => simp [onRatchet, h, hm]
  | error e r' => simp [onRatchet, h, hm]

theorem onRatchet_ok (h : (onRatchet m).run c = .ok a c') :
    ∃ r r', c.ratchet = some r ∧ m.run r = .ok a r' ∧ c' = { c with ratchet := some r' } := by
  cases hr : c.ratchet with
  | none =>
      have hrun : (onRatchet m) c = .ok a c' := h
      unfold onRatchet at hrun
      rw [hr] at hrun
      cases hrun
  | some r =>
      rw [onRatchet_run hr] at h
      cases hm : m.run r with
      | ok b r' =>
          rw [hm] at h
          cases h
          exact ⟨r, r', rfl, hm, rfl⟩
      | error e r' =>
          rw [hm] at h
          cases h

theorem onRatchet_error (h : (onRatchet m).run c = .error e c') :
    ∃ r, c' = { c with ratchet := r } := by
  cases hr : c.ratchet with
  | none =>
      have hrun : (onRatchet m) c = .error e c' := h
      unfold onRatchet at hrun
      rw [hr] at hrun
      cases hrun
      exact ⟨c.ratchet, rfl⟩
  | some r =>
      rw [onRatchet_run hr] at h
      cases hm : m.run r with
      | ok b r' =>
          rw [hm] at h
          cases h
      | error e' r' =>
          rw [hm] at h
          cases h
          exact ⟨some r', rfl⟩

end OnRatchet

/-! ### Frames -/

/-- Whatever it returns or raises, the computation changes the ratchet only. -/
def TouchesRatchet {α : Type} (m : SessionM α) : Prop :=
  ∀ c, ∃ r, after (m.run c) = { c with ratchet := r }

namespace TouchesRatchet

variable {α β : Type} {m : SessionM α}

theorem pure (a : α) : TouchesRatchet (pure a) := fun c => ⟨c.ratchet, rfl⟩

theorem raise (e : PyExc) : TouchesRatchet (throw e : SessionM α) := fun c => ⟨c.ratchet, rfl⟩

theorem get : TouchesRatchet (get : SessionM Contact) := fun c => ⟨c.ratchet, rfl⟩

theorem orRaise (x : Except PyExc α) : TouchesRatchet (orRaise x : SessionM α) := by
  cases x with
  | ok a => exact pure a
  | error e => exact raise e

theorem onRatchet (m : RatchetM α) : TouchesRatchet (onRatchet m) := by
  intro c
  cases h : (Yakr.onRatchet m).run c with
  | ok a c' =>
      obtain ⟨r, r', -, -, rfl⟩ := onRatchet_ok h
      exact ⟨some r', rfl⟩
  | error e c' => exact onRatchet_error h

theorem bind (hm : TouchesRatchet m) {f : α → SessionM β} (hf : ∀ a, TouchesRatchet (f a)) :
    TouchesRatchet (m >>= f) := by
  intro c
  obtain ⟨r, hr⟩ := hm c
  rw [EStateM.run_bind]
  cases h : m.run c with
  | error e c' =>
      rw [h] at hr
      exact ⟨r, hr⟩
  | ok a c' =>
      rw [h] at hr
      obtain ⟨r', hr'⟩ := hf a c'
      refine ⟨r', hr'.trans ?_⟩
      rw [show c' = { c with ratchet := r } from hr]

theorem tryCatch (hm : TouchesRatchet m) {handler : PyExc → SessionM α}
    (hh : ∀ e, TouchesRatchet (handler e)) : TouchesRatchet (tryCatch m handler) := by
  intro c
  obtain ⟨r, hr⟩ := hm c
  rw [run_tryCatch]
  cases h : m.run c with
  | ok a c' =>
      rw [h] at hr
      exact ⟨r, hr⟩
  | error e c' =>
      rw [h] at hr
      obtain ⟨r', hr'⟩ := hh e c'
      refine ⟨r', hr'.trans ?_⟩
      rw [show c' = { c with ratchet := r } from hr]

end TouchesRatchet

/-- When the computation raises, it has changed the ratchet only. -/
def RaisesClean {α : Type} (m : SessionM α) : Prop :=
  ∀ c x c', m.run c = .error x c' → ∃ r, c' = { c with ratchet := r }

theorem RaisesClean.bind {α β : Type} {m : SessionM α} (hm : TouchesRatchet m)
    {f : α → SessionM β} (hf : ∀ a, RaisesClean (f a)) : RaisesClean (m >>= f) := by
  intro c x c' h
  obtain ⟨r, hr⟩ := hm c
  rw [EStateM.run_bind] at h
  cases hrun : m.run c with
  | error x₁ c₁ =>
      rw [hrun] at h hr
      cases h
      exact ⟨r, hr⟩
  | ok a c₁ =>
      rw [hrun] at h hr
      obtain ⟨r', hr'⟩ := hf a c₁ x c' h
      refine ⟨r', hr'.trans ?_⟩
      rw [show c₁ = { c with ratchet := r } from hr]

theorem touchesRatchet_encryptInner (draws : Draws) (inner : InnerMessage) :
    TouchesRatchet (encryptInner P draws inner) := by
  unfold encryptInner
  refine .bind .get fun c => .bind (.orRaise _) fun padded => .bind (.onRatchet _) fun payload => ?_
  exact .pure _

theorem touchesRatchet_requireFreshSession (now : Int) :
    TouchesRatchet (requireFreshSession now) := by
  unfold requireFreshSession
  refine .bind .get fun c => ?_
  split
  · exact .raise _
  · exact .pure _

/-! ### Encrypting -/

section Encrypt

variable {identity : Identity} {draws : Draws} {c c' : Contact} {e : EncryptedMessage}
  {build : String → String → Int → InnerMessage}

/-- The message a call builds for a contact. -/
abbrev builtFor (P : Packages) (identity : Identity) (c : Contact)
    (build : String → String → Int → InnerMessage) : InnerMessage :=
  build c.conversationId (identity.deviceId P) c.nextSendSeq

/-- What an `encrypt_*` call that returned has done. -/
structure Encrypts (P : Packages) (identity : Identity) (draws : Draws)
    (build : String → String → Int → InnerMessage) (c : Contact) (e : EncryptedMessage)
    (c' : Contact) : Prop where
  fresh : needsPqRekey c.hybridPq c.sessionStartedAt c.nextSendSeq draws.now = false
  inner : e.innerMessage = builtFor P identity c build
  msgId : e.msgId = messageId P e.outerBlob.ciphertext
  outer : e.outerBlob = outerBlob e.outerBlob.ciphertext e.mailboxTag draws.now
  tag : (mailboxDeriver P identity c true).derive P draws.now (sendDirection identity c)
    = .ok e.mailboxTag
  ratchet : ∃ r r' padded, c.ratchet = some r
    ∧ padPlaintext e.innerMessage.toBytes c.privacyMode = .ok (padded, e.paddingBytes)
    ∧ (RatchetState.encrypt P draws.ratchetPrivate draws.nonce padded).run r
        = .ok e.outerBlob.ciphertext r'
    ∧ c' = { c with ratchet := some r', nextSendSeq := c.nextSendSeq + 1 }

theorem requireFreshSession_ok {now : Int} {u : Unit}
    (h : (requireFreshSession now).run c = .ok u c') :
    needsPqRekey c.hybridPq c.sessionStartedAt c.nextSendSeq now = false ∧ c' = c := by
  cases hq : needsPqRekey c.hybridPq c.sessionStartedAt c.nextSendSeq now with
  | true =>
      simp [requireFreshSession, hq] at h
  | false =>
      simp [requireFreshSession, hq] at h
      exact ⟨rfl, h.symm⟩

theorem encryptMessage_ok (h : (encryptMessage P identity draws build).run c = .ok e c') :
    Encrypts P identity draws build c e c' := by
  unfold encryptMessage at h
  obtain ⟨u, c₁, hfresh, h₁⟩ := run_bind_ok.mp h
  obtain ⟨hq, rfl⟩ := requireFreshSession_ok hfresh
  obtain ⟨c₂, c₃, hget, h₂⟩ := run_bind_ok.mp h₁
  cases hget
  obtain ⟨⟨ciphertext, paddingBytes⟩, c₄, hinner, h₃⟩ := run_bind_ok.mp h₂
  unfold encryptInner at hinner
  obtain ⟨c₅, c₆, hget, hinner₁⟩ := run_bind_ok.mp hinner
  cases hget
  obtain ⟨⟨padded, added⟩, c₇, hpad, hinner₂⟩ := run_bind_ok.mp hinner₁
  obtain ⟨hpad₁, rfl⟩ := run_orRaise_eq_ok.mp hpad
  obtain ⟨payload, c₈, hratchet, hinner₃⟩ := run_bind_ok.mp hinner₂
  obtain ⟨r, r', hr, hrun, rfl⟩ := onRatchet_ok hratchet
  cases hinner₃
  obtain ⟨c₉, c₁₀, hget, h₄⟩ := run_bind_ok.mp h₃
  cases hget
  obtain ⟨tag, c₁₁, htag, h₅⟩ := run_bind_ok.mp h₄
  obtain ⟨htag₁, rfl⟩ := run_orRaise_eq_ok.mp htag
  cases h₅
  exact ⟨hq, rfl, rfl, rfl, htag₁, r, r', padded, hr, hpad₁, hrun, rfl⟩

/-- What makes a call return. -/
theorem encryptMessage_run {r r' : RatchetState} {padded payload : Bytes} {added : Nat}
    {tag : MailboxTag}
    (hfresh : needsPqRekey c.hybridPq c.sessionStartedAt c.nextSendSeq draws.now = false)
    (hr : c.ratchet = some r)
    (hpad : padPlaintext (builtFor P identity c build).toBytes c.privacyMode = .ok (padded, added))
    (hrun : (RatchetState.encrypt P draws.ratchetPrivate draws.nonce padded).run r
      = .ok payload r')
    (htag : (mailboxDeriver P identity c true).derive P draws.now (sendDirection identity c)
      = .ok tag) :
    (encryptMessage P identity draws build).run c =
      .ok { outerBlob := outerBlob payload tag draws.now
            innerMessage := builtFor P identity c build
            msgId := messageId P payload
            mailboxTag := tag
            paddingBytes := added }
        { c with ratchet := some r', nextSendSeq := c.nextSendSeq + 1 } := by
  have htag' : (mailboxDeriver P identity { c with ratchet := some r' } true).derive P draws.now
      (sendDirection identity { c with ratchet := some r' }) = .ok tag := htag
  simp [encryptMessage, requireFreshSession, encryptInner, hfresh, hpad, onRatchet_run hr, hrun,
    htag']

/-- A call that raised has touched the ratchet at most. -/
theorem encryptMessage_error {x : PyExc}
    (h : (encryptMessage P identity draws build).run c = .error x c') :
    ∃ r, c' = { c with ratchet := r } := by
  have hclean : RaisesClean (encryptMessage P identity draws build) := by
    unfold encryptMessage
    refine .bind (touchesRatchet_requireFreshSession _) fun _ => .bind .get fun _ => ?_
    refine .bind (touchesRatchet_encryptInner draws _) fun _ => .bind .get fun _ => ?_
    exact .bind (.orRaise _) fun _ => fun _ _ _ hrun => by cases hrun
  exact hclean c x c' h

end Encrypt

/-! ### Decrypting -/

section Decrypt

variable {c c' : Contact} {inner : InnerMessage} {now : Int} {generated : PrivateKey}
  {outer : OuterBlob}

theorem checkInner_ok : checkInner c inner now = .ok () ↔
    inner.conversationId = c.conversationId ∧ inner.seq = c.lastRecvSeq + 1
      ∧ now ≤ inner.validUntil := by
  unfold checkInner enforceMessageTtl isMessageExpired
  split_ifs <;> simp_all
  omega

theorem rollbackRatchet_run {r : RatchetState} (r₀ : RatchetState) (h : c.ratchet = some r) :
    (rollbackRatchet r₀.toDict).run c =
      .ok () { c with ratchet := some (r₀.rolledBack r.skippedKeys) } := by
  rw [rollbackRatchet, onRatchet_run h, RatchetState.restoreSnapshot_run]

theorem ratchetDict_run {r : RatchetState} (h : c.ratchet = some r) :
    ratchetDict.run c = .ok r.toDict c := by
  have hc : { c with ratchet := some r } = c := by rw [← h]
  rw [ratchetDict, onRatchet_run h]
  exact congrArg (EStateM.Result.ok r.toDict) hc

/-- `decrypt_outer` for a contact with a ratchet, step by step. -/
theorem decryptOuter_run {r : RatchetState} (h : c.ratchet = some r) :
    (decryptOuter P generated now outer).run c =
      match (RatchetState.decrypt P generated outer.ciphertext).run r with
      | .error e r' => .error (decryptFailure e) { c with ratchet := some r' }
      | .ok padded r' =>
          match decodePaddedPlaintext padded c.privacyMode with
          | .error _ =>
              .error (.yakr .decrypt "invalid padded plaintext")
                { c with ratchet := some (r.rolledBack r'.skippedKeys) }
          | .ok plaintext =>
              match InnerMessage.fromBytes P plaintext with
              | .error e => .error e { c with ratchet := some r' }
              | .ok inner =>
                  match checkInner c inner now with
                  | .error e =>
                      .error e { c with ratchet := some (r.rolledBack r'.skippedKeys) }
                  | .ok () =>
                      .ok inner { c with ratchet := some r', lastRecvSeq := inner.seq } := by
  cases hdec : (RatchetState.decrypt P generated outer.ciphertext).run r with
  | error e r' =>
      simp only [decryptOuter, EStateM.run_bind, EStateM.run_get, ratchetDict_run h, run_tryCatch,
        onRatchet_run h, hdec, run_raise]
  | ok padded r' =>
      have hback : ∀ e : PyExc,
          (do rollbackRatchet r.toDict; throw e : SessionM InnerMessage).run
              { c with ratchet := some r' }
            = .error e { c with ratchet := some (r.rolledBack r'.skippedKeys) } := by
        intro e
        rw [EStateM.run_bind, rollbackRatchet_run r (c := { c with ratchet := some r' }) rfl]
        rfl
      cases hpad : decodePaddedPlaintext padded c.privacyMode with
      | error e =>
          simp only [decryptOuter, EStateM.run_bind, EStateM.run_get, ratchetDict_run h,
            run_tryCatch, onRatchet_run h, hdec, hpad]
          exact hback _
      | ok plaintext =>
          cases hinner : InnerMessage.fromBytes P plaintext with
          | error e =>
              simp only [decryptOuter, EStateM.run_bind, EStateM.run_get, ratchetDict_run h,
                run_tryCatch, onRatchet_run h, hdec, hpad, hinner, run_orRaise_error]
          | ok inner =>
              cases hcheck : checkInner c inner now with
              | error e =>
                  simp only [decryptOuter, EStateM.run_bind, EStateM.run_get, ratchetDict_run h,
                    run_tryCatch, onRatchet_run h, hdec, hpad, hinner, run_orRaise_ok, hcheck]
                  exact hback _
              | ok u =>
                  simp only [decryptOuter, EStateM.run_bind, EStateM.run_get, ratchetDict_run h,
                    run_tryCatch, onRatchet_run h, hdec, hpad, hinner, hcheck, run_orRaise_ok,
                    EStateM.run_modify, EStateM.run_pure]

theorem ratchetDict_no_ratchet (h : c.ratchet = none) :
    ratchetDict.run c = .error (.attributeError "'NoneType' object has no attribute") c := by
  show ratchetDict c = _
  unfold ratchetDict onRatchet
  simp only [h]

theorem decryptOuter_no_ratchet (h : c.ratchet = none) :
    (decryptOuter P generated now outer).run c
      = .error (.attributeError "'NoneType' object has no attribute") c := by
  simp only [decryptOuter, EStateM.run_bind, EStateM.run_get, ratchetDict_no_ratchet h]

/-- What `decrypt_outer` has done when it returned a message. -/
theorem decryptOuter_ok (h : (decryptOuter P generated now outer).run c = .ok inner c') :
    ∃ r r' padded plaintext, c.ratchet = some r
      ∧ (RatchetState.decrypt P generated outer.ciphertext).run r = .ok padded r'
      ∧ decodePaddedPlaintext padded c.privacyMode = .ok plaintext
      ∧ InnerMessage.fromBytes P plaintext = .ok inner
      ∧ checkInner c inner now = .ok ()
      ∧ c' = { c with ratchet := some r', lastRecvSeq := inner.seq } := by
  cases hr : c.ratchet with
  | none =>
      rw [decryptOuter_no_ratchet hr] at h
      cases h
  | some r =>
      rw [decryptOuter_run hr] at h
      split at h
      · cases h
      · rename_i padded r' hdec
        split at h
        · cases h
        · rename_i plaintext hpad
          split at h
          · cases h
          · rename_i inner' hinner
            split at h
            · cases h
            · rename_i hcheck
              cases h
              exact ⟨r, r', padded, plaintext, rfl, hdec, hpad, hinner, hcheck, rfl⟩

/-- A message that was not accepted has touched the ratchet at most. -/
theorem decryptOuter_error {x : PyExc}
    (h : (decryptOuter P generated now outer).run c = .error x c') :
    ∃ r, c' = { c with ratchet := r } := by
  cases hr : c.ratchet with
  | none =>
      rw [decryptOuter_no_ratchet hr] at h
      cases h
      exact ⟨c.ratchet, rfl⟩
  | some r =>
      rw [decryptOuter_run hr] at h
      split at h
      · cases h
        exact ⟨_, rfl⟩
      · split at h
        · cases h
          exact ⟨_, rfl⟩
        · split at h
          · cases h
            exact ⟨_, rfl⟩
          · split at h
            · cases h
              exact ⟨_, rfl⟩
            · cases h

/-- `decrypt_inbound` is `decrypt_outer`, and puts the ratchet back unless the
message is a text. -/
theorem decryptInbound_run {r : RatchetState} (h : c.ratchet = some r) :
    (decryptInbound P generated now outer).run c =
      match (decryptOuter P generated now outer).run c with
      | .error e c' => .error e c'
      | .ok inner c' =>
          .ok inner
            (if inner.type.isText then c'
            else { c' with
              ratchet := c'.ratchet.map fun r' => r.rolledBack r'.skippedKeys }) := by
  simp only [decryptInbound, EStateM.run_bind, ratchetDict_run h]
  cases houter : (decryptOuter P generated now outer).run c with
  | error e c' => rfl
  | ok inner c' =>
      obtain ⟨r₀, r', padded, plaintext, -, -, -, -, -, rfl⟩ := decryptOuter_ok houter
      cases htext : inner.type.isText with
      | true => simp [htext]
      | false =>
          have hback := rollbackRatchet_run r
            (c := { c with ratchet := some r', lastRecvSeq := inner.seq }) rfl
          simp [htext, hback]

/-- What `decrypt_inbound` has done when it returned a message. -/
theorem decryptInbound_ok (h : (decryptInbound P generated now outer).run c = .ok inner c') :
    ∃ r, checkInner c inner now = .ok ()
      ∧ c' = { c with ratchet := some r, lastRecvSeq := inner.seq } := by
  cases hr : c.ratchet with
  | none =>
      simp only [decryptInbound, EStateM.run_bind, ratchetDict_no_ratchet hr] at h
      cases h
  | some r =>
      rw [decryptInbound_run hr] at h
      split at h
      · cases h
      · rename_i inner' c₁ houter
        obtain ⟨r₀, r', padded, plaintext, -, -, -, -, hcheck, rfl⟩ := decryptOuter_ok houter
        cases h
        cases htext : inner.type.isText with
        | true => exact ⟨r', hcheck, by simp⟩
        | false => exact ⟨r.rolledBack r'.skippedKeys, hcheck, by simp⟩

/-- A blob that was not accepted has touched the ratchet at most. -/
theorem decryptInbound_error {x : PyExc}
    (h : (decryptInbound P generated now outer).run c = .error x c') :
    ∃ r, c' = { c with ratchet := r } := by
  cases hr : c.ratchet with
  | none =>
      simp only [decryptInbound, EStateM.run_bind, ratchetDict_no_ratchet hr] at h
      cases h
      exact ⟨c.ratchet, rfl⟩
  | some r =>
      rw [decryptInbound_run hr] at h
      split at h
      · rename_i e c₁ houter
        cases h
        exact decryptOuter_error houter
      · cases h

end Decrypt
end Yakr
