import Yakr.Ratchet.Rollback
import Yakr.Session.Methods

/-!
# Yakr.Session.Failures

**What a call that raises leaves behind.** A blob whose ciphertext the ratchet authenticates
has already advanced the ratchet when its plaintext is looked at. Every check of `decrypt_outer`
rolls the ratchet back, from a snapshot that shares the skipped keys with it; reading the
message itself has no handler at all. The `encrypt_*` methods take no snapshot: whatever raises
after the pending pairing key was taken or the send chain has moved leaves it so.

`rejected_iff` says for which sessions and plaintexts a rejection leaves the session untouched
and is reported as a `YakrError`; `failedSend_iff` says which failures of an encryption leave
the ratchet and the sequence number as they were.
-/

namespace Yakr

open Lib Effect

variable {P : Packages}

/-! ### What reading a message raises -/

/-- If it raises, the computation raises an exception of the language or a library. -/
def RaisesBuiltin {α : Type} (x : Except PyExc α) : Prop :=
  ∀ e, x = .error e → e.isYakrError = false

namespace RaisesBuiltin

variable {α β : Type} {x : Except PyExc α}

theorem pure (a : α) : RaisesBuiltin (pure a : Except PyExc α) := nofun

theorem bind (hx : RaisesBuiltin x) {f : α → Except PyExc β} (hf : ∀ a, RaisesBuiltin (f a)) :
    RaisesBuiltin (x >>= f) := by
  intro e h
  cases hrun : x with
  | error e' =>
      rw [hrun] at h
      cases h
      exact hx e hrun
  | ok a =>
      rw [hrun] at h
      exact hf a e h

theorem pyInt (v : Json) : RaisesBuiltin (pyInt P v) := by
  intro e h
  unfold Yakr.pyInt at h
  split at h
  · cases h
  · cases h
  · split at h <;> cases h
    rfl
  · split at h <;> cases h
    rfl
  · cases h
    rfl

theorem subscript (v : Json) (key : String) : RaisesBuiltin (subscript v key) := by
  intro e h
  unfold Yakr.subscript at h
  split at h
  · split at h <;> cases h
    rfl
  · cases h
    rfl
  · cases h
    rfl
  · cases h
    rfl

theorem dictGet (v : Json) (key : String) : RaisesBuiltin (dictGet v key) := by
  intro e h
  unfold Yakr.dictGet at h
  split at h <;> cases h
  rfl

theorem loadPayload (data : Bytes) : RaisesBuiltin (InnerMessage.loadPayload data) := by
  refine .bind (fun e h => ?_) fun text => ?_
  · unfold decodeUtf8 at h
    split at h <;> cases h
    rfl
  · intro e h
    split at h <;> cases h
    rfl

theorem ofJson (payload : Json) : RaisesBuiltin (InnerMessage.ofJson P payload) := by
  unfold InnerMessage.ofJson
  refine .bind (.subscript _ _) fun createdAt => .bind (.pyInt _) fun createdAt => ?_
  refine .bind (.dictGet _ _) fun stated => ?_
  -- a stated lifetime is converted, a missing one is computed; the rest is the same
  cases stated
  all_goals
    refine .bind (by first | exact .pure _ | exact .pyInt _) fun validUntil => ?_
    refine .bind (.subscript _ _) fun version => .bind (.pyInt _) fun version => ?_
    refine .bind (.subscript _ _) fun conversationId => .bind (.subscript _ _) fun device => ?_
    refine .bind (.subscript _ _) fun seq => .bind (.pyInt _) fun seq => ?_
    refine .bind (.subscript _ _) fun type => .bind (.dictGet _ _) fun body => ?_
    exact .bind (.dictGet _ _) fun messageId => .pure _

/-- No exception of `from_bytes` is one of this program's. -/
theorem fromBytes (data : Bytes) : RaisesBuiltin (InnerMessage.fromBytes P data) :=
  .bind (.loadPayload data) fun payload => .ofJson payload

end RaisesBuiltin

/-- Every check on a message that was read reports a `YakrError`. -/
theorem checkInner_error {c : Contact} {inner : InnerMessage} {now : Int} {e : PyExc}
    (h : checkInner c inner now = .error e) : e.isYakrError = true := by
  unfold checkInner enforceMessageTtl at h
  split_ifs at h <;> cases h <;> rfl

/-! ### What is left of the session -/

/-- The ratchet, field by field, and the last received sequence number are the same. -/
structure Untouched (c c' : Contact) : Prop where
  ratchet : Option.Rel RatchetState.SameState c'.ratchet c.ratchet
  lastRecvSeq : c'.lastRecvSeq = c.lastRecvSeq

/-- If the padding is right, what it holds decodes as a message. -/
def Readable (P : Packages) (mode : PrivacyMode) (padded : Bytes) : Prop :=
  ∀ plaintext, decodePaddedPlaintext padded mode = .ok plaintext →
    ∃ inner, InnerMessage.fromBytes P plaintext = .ok inner

/-- An authenticated payload leaves the skipped keys of its attempt. -/
theorem RatchetState.decrypt_skipped {s s' : RatchetState} {g : PrivateKey}
    {payload plaintext : Bytes} (h : (decrypt P g payload).run s = .ok plaintext s') :
    s'.skippedKeys = attemptedKeys P s g (headerPublic payload) (messageNumber payload) := by
  by_cases hw : WellFormed payload
  · have hattempt := openPayload_skipped (P := P) s (headerPublic payload) (payload.drop 45)
      (Bytes.toNatBE ((payload.drop 37).take 4)) (messageNumber payload) g
    rw [decrypt_run hw, openParsed] at h
    cases hopen : (openPayload P (headerPublic payload) (Bytes.toNatBE ((payload.drop 37).take 4))
        (messageNumber payload) (payload.drop 45) g).run s with
    | ok opened t =>
        rw [hopen] at h hattempt
        cases h
        exact hattempt
    | error e t =>
        rw [hopen] at h
        cases h
  · obtain ⟨e, hrun⟩ := decrypt_malformed (P := P) hw g s
    rw [hrun] at h
    cases h

section Rejected

variable {c c' : Contact} {r r' : RatchetState} {padded : Bytes} {x : PyExc} {now : Int}
  {generated : PrivateKey} {outer : OuterBlob}

/-- A rollback after the payload was opened. -/
theorem rolledBack_untouched_iff (hr : c.ratchet = some r)
    (hopen : (RatchetState.decrypt P generated outer.ciphertext).run r = .ok padded r') :
    Untouched c { c with ratchet := some (r.rolledBack r'.skippedKeys) }
      ↔ r.KeysNonempty ∧ r.KeepsKeys P generated outer.ciphertext := by
  have hsame : RatchetState.SameState (r.rolledBack r'.skippedKeys) r
      ↔ r.KeysNonempty ∧ r.KeepsKeys P generated outer.ciphertext := by
    rw [RatchetState.SameState, RatchetState.rolledBack_fields_iff, RatchetState.KeepsKeys,
      ← RatchetState.decrypt_skipped hopen]
    rfl
  constructor
  · intro h
    have hratchet := h.ratchet
    rw [hr] at hratchet
    cases hratchet with
    | some hrel => exact hsame.mp hrel
  · intro h
    refine ⟨?_, rfl⟩
    rw [hr]
    exact .some (hsame.mpr h)

/-- **Rejections.** When the ratchet authenticates the ciphertext and `decrypt_outer` raises,
the session is untouched and the exception is a `YakrError` exactly when what is inside decodes
as a message (or its padding is wrong), and opening the ciphertext has neither stored nor
cleared a skipped key (and no key of the ratchet is an empty byte string). -/
theorem rejected_iff (hr : c.ratchet = some r)
    (hopen : (RatchetState.decrypt P generated outer.ciphertext).run r = .ok padded r')
    (h : (decryptOuter P generated now outer).run c = .error x c') :
    (Untouched c c' ∧ x.isYakrError = true)
      ↔ Readable P c.privacyMode padded
        ∧ r.KeysNonempty ∧ r.KeepsKeys P generated outer.ciphertext := by
  rw [decryptOuter_run hr] at h
  simp only [hopen] at h
  cases hpad : decodePaddedPlaintext padded c.privacyMode with
  | error e =>
      rw [hpad] at h
      cases h
      have hreadable : Readable P c.privacyMode padded := by
        intro plaintext hplain
        rw [hpad] at hplain
        cases hplain
      rw [rolledBack_untouched_iff hr hopen]
      exact ⟨fun hkeeps => ⟨hreadable, hkeeps.1⟩, fun hkeeps => ⟨hkeeps.2, rfl⟩⟩
  | ok plaintext =>
      simp only [hpad] at h
      cases hinner : InnerMessage.fromBytes P plaintext with
      | error e =>
          simp only [hinner] at h
          cases h
          -- the ratchet stays advanced, and the exception is none of this program's
          have hbuiltin : x.isYakrError = false := RaisesBuiltin.fromBytes plaintext x hinner
          constructor
          · intro huntouched
            rw [hbuiltin] at huntouched
            cases huntouched.2
          · intro hreadable
            obtain ⟨inner, hread⟩ := hreadable.1 plaintext hpad
            rw [hinner] at hread
            cases hread
      | ok inner =>
          simp only [hinner] at h
          cases hcheck : checkInner c inner now with
          | ok u =>
              simp only [hcheck] at h
              cases h
          | error e =>
              simp only [hcheck] at h
              cases h
              have hreadable : Readable P c.privacyMode padded := by
                intro plaintext' hplain
                rw [hpad] at hplain
                cases hplain
                exact ⟨inner, hinner⟩
              rw [rolledBack_untouched_iff hr hopen]
              exact ⟨fun hkeeps => ⟨hreadable, hkeeps.1⟩,
                fun hkeeps => ⟨hkeeps.2, checkInner_error hcheck⟩⟩

end Rejected

namespace GarbledSample

def key (n : UInt8) : PrivateKey := BytesN.fill 32 n

/-- The two ends of a session. -/
def ratchet (isInitiator : Bool) : RatchetState :=
  .fromMaster plainPackages (List.replicate 32 5) isInitiator false (key 3)

/-- One byte, which is neither padded nor a message. -/
def garbled : Bytes × RatchetState :=
  ran ((RatchetState.encrypt plainPackages (key 4) (BytesN.fill 24 7) [0]).run
    (ratchet true)) (by decide +kernel)

def blob : OuterBlob :=
  { version := 1, mailboxTag := [], expiresAt := 0, ciphertext := garbled.1 }

def contact (privacyMode : PrivacyMode) : Contact :=
  { name := "bob"
    signingPublic := []
    agreementPublic := []
    masterSecret := []
    conversationId := "pairwise"
    ratchet := some (ratchet false)
    privacyMode }

/-- What `decrypt_outer` does with the blob. -/
def result (privacyMode : PrivacyMode) : EStateM.Result PyExc Contact InnerMessage :=
  (decryptOuter plainPackages (key 6) 0 blob).run (contact privacyMode)

/-- What the ratchet opens. -/
def opened : Bytes × RatchetState :=
  ran ((RatchetState.decrypt plainPackages (key 6) blob.ciphertext).run (ratchet false))
    (by decide +kernel)

theorem opened_run : (RatchetState.decrypt plainPackages (key 6) blob.ciphertext).run
    (ratchet false) = .ok opened.1 opened.2 := eq_ok_ran _ _

/-- Whether a call raised a `YakrError`. -/
def raisedYakrError {α : Type} : EStateM.Result PyExc Contact α → Bool
  | .error x _ => x.isYakrError
  | .ok _ _ => false

/-- How many messages the ratchet of a contact has received. -/
def received (c : Contact) : Option Nat := c.ratchet.map RatchetState.recvN

theorem received_untouched {c c' : Contact} (h : Untouched c c') : received c' = received c := by
  have hratchet := h.ratchet
  unfold received
  generalize c'.ratchet = left at hratchet
  generalize c.ratchet = before at hratchet
  cases hratchet with
  | none => rfl
  | some hsame =>
      have hrecv := congrArg RatchetState.recvN hsame.1
      exact congrArg some hrecv

end GarbledSample

open GarbledSample in
/-- In a padding mode the byte is refused without a trace. -/
theorem rejected_short : ∃ x c', result .balanced = .error x c'
    ∧ Untouched (contact .balanced) c' ∧ x.isYakrError = true := by
  obtain ⟨x, hrun⟩ : ∃ x, result .balanced = .error x _ := eq_error_after (by decide +kernel)
  have hreadable : Readable plainPackages .balanced opened.1 := by
    intro plaintext hplain
    have hshort : (decodePaddedPlaintext opened.1 .balanced).isOk = false := by decide +kernel
    rw [hplain] at hshort
    cases hshort
  have hkeys : (ratchet false).KeysNonempty := by
    constructor <;> decide +kernel
  have hsame : RatchetState.attemptedKeys plainPackages (ratchet false) (key 6)
      (RatchetState.headerPublic blob.ciphertext) (RatchetState.messageNumber blob.ciphertext)
        = (ratchet false).skippedKeys := by decide +kernel
  have hkeeps : (ratchet false).KeepsKeys plainPackages (key 6) blob.ciphertext := by
    rw [RatchetState.KeepsKeys, hsame]
    exact .refl _
  exact ⟨x, _, hrun, (rejected_iff (c := contact .balanced) rfl opened_run hrun).mpr
    ⟨hreadable, hkeys, hkeeps⟩⟩

open GarbledSample in
/-- Without padding the byte is taken for a message: the exception is no `YakrError`, and the
ratchet has advanced. -/
theorem not_untouched_garbled :
    (RatchetState.decrypt plainPackages (key 6) blob.ciphertext).run (ratchet false)
        = .ok opened.1 opened.2
      ∧ ∃ x c', result .fast = .error x c'
        ∧ ¬ Untouched (contact .fast) c' ∧ x.isYakrError = false := by
  obtain ⟨x, hrun⟩ : ∃ x, result .fast = .error x _ := eq_error_after (by decide +kernel)
  refine ⟨opened_run, x, _, hrun, fun huntouched => ?_, ?_⟩
  · have hadvanced : received (after (result .fast)) ≠ received (contact .fast) := by
      decide +kernel
    exact hadvanced (received_untouched huntouched)
  · have hbuiltin : raisedYakrError (result .fast) = false := by decide +kernel
    rw [hrun] at hbuiltin
    exact hbuiltin

/-! ### Failed encryption of the ratchet -/

namespace RatchetState

/-- The pending pairing key is left alone. -/
def KeepsPending (s s' : RatchetState) : Prop :=
  s'.pendingPairingDhRatchetPeer = s.pendingPairingDhRatchetPeer

theorem steps_pairingSendInit (peer : Bytes) (g : PrivateKey) :
    Steps KeepsPending (pairingSendInit P peer g) := by
  unfold pairingSendInit
  refine .guard (.bind (.modify fun s => (rfl : KeepsPending s _)) fun _ => .bind .get fun _ => ?_)
  refine .bind (.orRaise _) fun dhSelf => .bind (.orRaise _) fun dhOutput => .bind .get fun _ => ?_
  refine .bind (.modify fun s => (rfl : KeepsPending s _)) fun _ => ?_
  refine .bind (.orRaise _) fun dhOutput => .modify fun s => (rfl : KeepsPending s _)

theorem steps_nextSendKey : Steps KeepsPending (nextSendKey P) := by
  refine .bind .get fun s => ?_
  cases s.sendChainKey with
  | none => exact .raise _
  | some k => exact .bind (.modify fun s => (rfl : KeepsPending s _)) fun _ => .pure _

section Encrypt

variable {s s' : RatchetState} {g : PrivateKey} {nonce : Nonce} {plaintext payload : Bytes}
  {x : PyExc}

/-- Once a call has taken the pending pairing key, it is gone. -/
theorem encrypt_takes (P : Packages) (g : PrivateKey) (nonce : Nonce) (plaintext : Bytes)
    {peer : Bytes} (h : s.pendingPairingDhRatchetPeer = some peer) :
    (after ((encrypt P g nonce plaintext).run s)).pendingPairingDhRatchetPeer = none := by
  have htake : (takePendingPeer P g).run s
      = (pairingSendInit P peer g).run { s with pendingPairingDhRatchetPeer := none } := by
    simp only [takePendingPeer, EStateM.run_bind, EStateM.run_get, h, EStateM.run_modify]
  have hinit := eq_of_steps (f := pendingPairingDhRatchetPeer)
    (steps_pairingSendInit (P := P) peer g { s with pendingPairingDhRatchetPeer := none })
  unfold encrypt
  rw [EStateM.run_bind, htake]
  cases hrun : (pairingSendInit P peer g).run { s with pendingPairingDhRatchetPeer := none } with
  | error e t =>
      rw [hrun] at hinit
      exact hinit
  | ok u t =>
      rw [hrun] at hinit
      refine (eq_of_steps (f := pendingPairingDhRatchetPeer) ?_).trans hinit
      exact (Steps.bind steps_nextSendKey fun key => .bind .get fun s => .bind (.orRaise _) fun aad =>
        .bind (.orRaise _) fun ciphertext =>
          .bind (.modify fun s => (rfl : KeepsPending s _)) fun _ => .pure _) t

/-- A call without a pending pairing key. -/
theorem encrypt_idle (h : s.pendingPairingDhRatchetPeer = none) :
    (encrypt P g nonce plaintext).run s =
      match s.sendChainKey with
      | none => .error (.valueError "send chain not initialized") s
      | some k =>
          match headerAad s.dhSelfPublic s.prevSendN s.sendN with
          | .error e => .error e { s with sendChainKey := some (kdfCk P k).2 }
          | .ok aad =>
              match xchachaEncrypt P nonce (kdfCk P k).1 plaintext aad with
              | .error e => .error e { s with sendChainKey := some (kdfCk P k).2 }
              | .ok ciphertext =>
                  .ok (aad ++ ciphertext)
                    { s with sendChainKey := some (kdfCk P k).2, sendN := s.sendN + 1 } := by
  cases hchain : s.sendChainKey with
  | none => simp [encrypt, takePendingPeer, nextSendKey, h, hchain]
  | some k =>
      cases hheader : headerAad s.dhSelfPublic s.prevSendN s.sendN with
      | error e => simp [encrypt, takePendingPeer, nextSendKey, h, hchain, hheader]
      | ok aad =>
          cases hseal : xchachaEncrypt P nonce (kdfCk P k).1 plaintext aad with
          | error e => simp [encrypt, takePendingPeer, nextSendKey, h, hchain, hheader, hseal]
          | ok ciphertext => simp [encrypt, takePendingPeer, nextSendKey, h, hchain, hheader, hseal]

/-- The next message key does not move the state: no pairing key is pending, and the send chain
is missing, or stands still (its key derives itself) where the counters no longer fit the
header. -/
def Stuck (P : Packages) (s : RatchetState) : Prop :=
  s.pendingPairingDhRatchetPeer = none
    ∧ ∀ k, s.sendChainKey = some k →
      (kdfCk P k).2 = k ∧ ¬ (s.prevSendN < 2 ^ 32 ∧ s.sendN < 2 ^ 32)

theorem headerAad_isOk (dhPublic : Bytes) {prevN n : Nat} :
    (headerAad dhPublic prevN n).isOk = true ↔ prevN < 2 ^ 32 ∧ n < 2 ^ 32 := by
  unfold headerAad packCounters
  by_cases hfits : prevN < 2 ^ 32 ∧ n < 2 ^ 32
  · rw [if_pos hfits]
    exact iff_of_true rfl hfits
  · rw [if_neg hfits]
    exact iff_of_false Bool.false_ne_true hfits

/-- A message key always has the length the AEAD asks for. -/
theorem xchachaEncrypt_kdfCk (P : Packages) (nonce : Nonce) (plaintext k aad : Bytes) :
    ∃ ciphertext, xchachaEncrypt P nonce (kdfCk P k).1 plaintext aad = .ok ciphertext := by
  have hlen : (kdfCk P k).1.length = 32 := length_messageKey k 0
  rw [xchachaEncrypt, dif_pos hlen]
  exact ⟨_, rfl⟩

/-- A call that raises changes the state unless it is stuck. -/
theorem encrypt_error_iff (h : (encrypt P g nonce plaintext).run s = .error x s') :
    s' = s ↔ Stuck P s := by
  cases hpending : s.pendingPairingDhRatchetPeer with
  | some peer =>
      have htaken := encrypt_takes P g nonce plaintext hpending
      rw [h] at htaken
      constructor
      · intro hsame
        subst hsame
        exact absurd (htaken.symm.trans hpending) (Option.some_ne_none peer).symm
      · intro hstuck
        exact absurd (hstuck.1.symm.trans hpending) (Option.some_ne_none peer).symm
  | none =>
      rw [encrypt_idle hpending] at h
      cases hchain : s.sendChainKey with
      | none =>
          rw [hchain] at h
          cases h
          refine iff_of_true rfl ⟨hpending, fun k hk => ?_⟩
          rw [hchain] at hk
          cases hk
      | some k =>
          simp only [hchain] at h
          cases hheader : headerAad s.dhSelfPublic s.prevSendN s.sendN with
          | ok aad =>
              obtain ⟨ciphertext, hseal⟩ := xchachaEncrypt_kdfCk P nonce plaintext k aad
              simp only [hheader, hseal] at h
              cases h
          | error e =>
              simp only [hheader] at h
              cases h
              have hfull : ¬ (s.prevSendN < 2 ^ 32 ∧ s.sendN < 2 ^ 32) := by
                rw [← headerAad_isOk s.dhSelfPublic, hheader]
                exact Bool.false_ne_true
              constructor
              · intro hsame
                have hkey : some (kdfCk P k).2 = s.sendChainKey :=
                  congrArg RatchetState.sendChainKey hsame
                refine ⟨hpending, fun k' hk' => ?_⟩
                obtain rfl : k = k' := Option.some.inj (hchain.symm.trans hk')
                exact ⟨Option.some.inj (hkey.trans hchain), hfull⟩
              · intro hstuck
                rw [(hstuck.2 k hchain).1, ← hchain]

/-- A call that returns has changed the state. -/
theorem encrypt_ok_ne (h : (encrypt P g nonce plaintext).run s = .ok payload s') : s' ≠ s := by
  cases hpending : s.pendingPairingDhRatchetPeer with
  | some peer =>
      have htaken := encrypt_takes P g nonce plaintext hpending
      rw [h] at htaken
      intro hsame
      subst hsame
      exact absurd (htaken.symm.trans hpending) (Option.some_ne_none peer).symm
  | none =>
      rw [encrypt_idle hpending] at h
      split at h
      · cases h
      · split at h
        · cases h
        · split at h
          · cases h
          · cases h
            intro hsame
            have hcount : s.sendN + 1 = s.sendN := congrArg RatchetState.sendN hsame
            omega

/-- A call on a stuck state raises. -/
theorem Stuck.raises (h : Stuck P s) :
    (encrypt P g nonce plaintext).run s ≠ .ok payload s' := by
  intro hrun
  rw [encrypt_idle h.1] at hrun
  cases hchain : s.sendChainKey with
  | none =>
      rw [hchain] at hrun
      cases hrun
  | some k =>
      cases hheader : headerAad s.dhSelfPublic s.prevSendN s.sendN with
      | error e =>
          simp only [hchain, hheader] at hrun
          cases hrun
      | ok aad =>
          refine (h.2 k hchain).2 ((headerAad_isOk s.dhSelfPublic).mp ?_)
          rw [hheader]
          rfl

end Encrypt
end RatchetState

/-! ### Failed encryption of a session -/

/-- What a session encrypts, with the argument of the method for it. -/
inductive Outgoing where
  | text (body : String)
  | receipt (deliveredMessageId : String)
  | profile (p : DeliveryProfile)
  | presence (payload : PresencePayload)

namespace Outgoing

/-- The `encrypt_*` method. -/
def encrypt (P : Packages) (identity : Identity) (draws : Draws) :
    Outgoing → SessionM EncryptedMessage
  | text body => encryptText P identity draws body
  | receipt deliveredMessageId => encryptReceipt P identity draws deliveredMessageId
  | .profile p => encryptProfile P identity draws p
  | presence payload => encryptPresence P identity draws payload

/-- The inner message of a conversation, a device and a sequence number. -/
def build (P : Packages) (draws : Draws) :
    Outgoing → (conversationId senderDeviceId : String) → (seq : Int) → InnerMessage
  | text body => fun c d seq => InnerMessage.text c d seq body draws.now
  | receipt deliveredMessageId => fun c d seq =>
      InnerMessage.receipt c d seq deliveredMessageId draws.now
  | .profile p => fun c d seq => InnerMessage.profile c d seq (p.toB64 P) draws.now
  | presence payload => fun c d seq =>
      InnerMessage.presence c d seq payload.toB64 payload.validUntil draws.now

theorem encrypt_eq (identity : Identity) (draws : Draws) (o : Outgoing) :
    o.encrypt P identity draws = encryptMessage P identity draws (o.build P draws) := by
  cases o with
  | text body => rfl
  | receipt deliveredMessageId => rfl
  | profile p => rfl
  | presence payload => rfl

end Outgoing

section Encrypt

variable {identity : Identity} {draws : Draws} {c c' : Contact} {x : PyExc}
  {build : String → String → Int → InnerMessage}

/-- The common body of the methods for a contact with a ratchet, step by step. -/
theorem encryptMessage_eq {r : RatchetState} (hr : c.ratchet = some r) :
    (encryptMessage P identity draws build).run c =
      if needsPqRekey c.hybridPq c.sessionStartedAt c.nextSendSeq draws.now then
        .error (.yakr .rekeyRequired "PQ session rekey required") c
      else
        match padPlaintext (builtFor P identity c build).toBytes c.privacyMode with
        | .error e => .error e c
        | .ok (padded, added) =>
            match (RatchetState.encrypt P draws.ratchetPrivate draws.nonce padded).run r with
            | .error e r' => .error e { c with ratchet := some r' }
            | .ok payload r' =>
                match (mailboxDeriver P identity c true).derive P draws.now
                    (sendDirection identity c) with
                | .error e => .error e { c with ratchet := some r' }
                | .ok tag =>
                    .ok { outerBlob := outerBlob payload tag draws.now
                          innerMessage := builtFor P identity c build
                          msgId := messageId P payload
                          mailboxTag := tag
                          paddingBytes := added }
                      { c with ratchet := some r', nextSendSeq := c.nextSendSeq + 1 } := by
  by_cases hstale : needsPqRekey c.hybridPq c.sessionStartedAt c.nextSendSeq draws.now = true
  · rw [if_pos hstale]
    simp [encryptMessage, requireFreshSession, hstale]
  · rw [if_neg hstale]
    cases hpad : padPlaintext (builtFor P identity c build).toBytes c.privacyMode with
    | error e => simp [encryptMessage, requireFreshSession, encryptInner, hstale, hpad]
    | ok result =>
        cases hrun : (RatchetState.encrypt P draws.ratchetPrivate draws.nonce result.1).run r with
        | error e r' =>
            simp [encryptMessage, requireFreshSession, encryptInner, hstale, hpad,
              onRatchet_run hr, hrun]
        | ok payload r' =>
            have hderiver : mailboxDeriver P identity { c with ratchet := some r' } true
                = mailboxDeriver P identity c true := rfl
            have hdirection : sendDirection identity { c with ratchet := some r' }
                = sendDirection identity c := rfl
            cases htag : (mailboxDeriver P identity c true).derive P draws.now
                (sendDirection identity c) with
            | error e =>
                simp [encryptMessage, requireFreshSession, encryptInner, hstale, hpad,
                  onRatchet_run hr, hrun, hderiver, hdirection, htag]
            | ok tag =>
                simp [encryptMessage, requireFreshSession, encryptInner, hstale, hpad,
                  onRatchet_run hr, hrun, hderiver, hdirection, htag]

/-- The call is refused before it has touched the ratchet, or cannot move it. -/
def RefusedFirst (P : Packages) (identity : Identity) (draws : Draws)
    (build : String → String → Int → InnerMessage) (c : Contact) : Prop :=
  needsPqRekey c.hybridPq c.sessionStartedAt c.nextSendSeq draws.now = true
    ∨ (padPlaintext (builtFor P identity c build).toBytes c.privacyMode).isOk = false
    ∨ ∀ r, c.ratchet = some r → r.Stuck P

/-- Without a ratchet nothing is changed. -/
theorem encryptMessage_no_ratchet (hr : c.ratchet = none)
    (h : (encryptMessage P identity draws build).run c = .error x c') : c' = c := by
  have honRatchet : ∀ m : RatchetM Bytes, (onRatchet m).run c
      = .error (.attributeError "'NoneType' object has no attribute") c := by
    intro m
    show onRatchet m c = _
    unfold onRatchet
    rw [hr]
  by_cases hstale : needsPqRekey c.hybridPq c.sessionStartedAt c.nextSendSeq draws.now = true
  · simp [encryptMessage, requireFreshSession, hstale] at h
    exact h.2.symm
  · cases hpad : padPlaintext (builtFor P identity c build).toBytes c.privacyMode with
    | error e =>
        simp [encryptMessage, requireFreshSession, encryptInner, hstale, hpad] at h
        exact h.2.symm
    | ok result =>
        simp [encryptMessage, requireFreshSession, encryptInner, hstale, hpad, honRatchet] at h
        exact h.2.symm

/-- **Failed encryption.** A call of an `encrypt_*` method that raises leaves the ratchet and
the next sequence number as they were exactly when it is refused first: the session needs new
keys, the padding does not admit the message, or the ratchet cannot take a message key. -/
theorem failedSend_iff (o : Outgoing) (h : (o.encrypt P identity draws).run c = .error x c') :
    (c'.ratchet = c.ratchet ∧ c'.nextSendSeq = c.nextSendSeq)
      ↔ RefusedFirst P identity draws (o.build P draws) c := by
  rw [Outgoing.encrypt_eq] at h
  cases hr : c.ratchet with
  | none =>
      have hsame := encryptMessage_no_ratchet hr h
      refine iff_of_true ⟨by rw [hsame, hr], by rw [hsame]⟩ (.inr (.inr fun r hsome => ?_))
      rw [hr] at hsome
      cases hsome
  | some r =>
      rw [encryptMessage_eq hr] at h
      by_cases hstale : needsPqRekey c.hybridPq c.sessionStartedAt c.nextSendSeq draws.now = true
      · rw [if_pos hstale] at h
        cases h
        exact iff_of_true ⟨hr, rfl⟩ (.inl hstale)
      rw [if_neg hstale] at h
      cases hpad : padPlaintext (builtFor P identity c (o.build P draws)).toBytes c.privacyMode with
      | error e =>
          rw [hpad] at h
          cases h
          refine iff_of_true ⟨hr, rfl⟩ (.inr (.inl ?_))
          rw [hpad]
          rfl
      | ok result =>
          simp only [hpad] at h
          -- what is left of the condition is about the ratchet
          have hlate : RefusedFirst P identity draws (o.build P draws) c ↔ r.Stuck P := by
            constructor
            · intro hfirst
              rcases hfirst with hfirst | hfirst | hfirst
              · exact absurd hfirst hstale
              · rw [hpad] at hfirst
                cases hfirst
              · exact hfirst r hr
            · intro hstuck
              refine .inr (.inr fun r' hr' => ?_)
              obtain rfl : r = r' := Option.some.inj (hr.symm.trans hr')
              exact hstuck
          rw [hlate]
          cases hrun : (RatchetState.encrypt P draws.ratchetPrivate draws.nonce result.1).run r with
          | error e r' =>
              simp only [hrun] at h
              cases h
              rw [← RatchetState.encrypt_error_iff hrun]
              exact ⟨fun hsame => Option.some.inj hsame.1, fun hsame => ⟨congrArg some hsame, rfl⟩⟩
          | ok payload r' =>
              simp only [hrun] at h
              -- the epoch of the tag cannot be computed, the ratchet has moved
              cases htag : (mailboxDeriver P identity c true).derive P draws.now
                  (sendDirection identity c) with
              | ok tag =>
                  rw [htag] at h
                  cases h
              | error e =>
                  rw [htag] at h
                  cases h
                  exact iff_of_false
                    (fun hsame => RatchetState.encrypt_ok_ne hrun (Option.some.inj hsame.1))
                    (fun hstuck => hstuck.raises hrun)

end Encrypt

namespace GarbledSample

def owner : Identity := { name := "alice", signingPrivate := key 1, agreementPrivate := key 2 }

def draws : Draws := { now := 0, ratchetPrivate := key 4, nonce := BytesN.fill 24 7 }

/-- A hybrid session at its last message. -/
def spent : Contact := { contact .fast with hybridPq := true, nextSendSeq := pqRekeyMaxMessages }

/-- The peer has published a profile whose mailbox epochs have no length. -/
def noEpochs : Contact :=
  { contact .fast with
    deliveryProfile := some
      { protocol := protocolV5, version := 1, validFrom := 0, validUntil := 1, directHints := []
        relayDescriptors := [], mailboxEpochSecs := 0, mailboxDirectionSalt := []
        blobClasses := [], receiptPolicy := "minimal", signature := [] } }

end GarbledSample

open GarbledSample in
theorem unchanged_spent : ∃ x c',
    ((Outgoing.receipt "id").encrypt plainPackages owner draws).run spent = .error x c'
      ∧ c'.ratchet = spent.ratchet ∧ c'.nextSendSeq = spent.nextSendSeq := by
  obtain ⟨x, hrun⟩ : ∃ x, ((Outgoing.receipt "id").encrypt plainPackages owner draws).run spent
      = .error x _ := eq_error_after (by decide +kernel)
  have hstale : needsPqRekey spent.hybridPq spent.sessionStartedAt spent.nextSendSeq draws.now
      = true := by decide
  exact ⟨x, _, hrun, (failedSend_iff (.receipt "id") hrun).mpr (.inl hstale)⟩

open GarbledSample in
/-- The epoch of the tag is computed after the ratchet has sealed the message. -/
theorem not_unchanged_noEpochs : ∃ x c',
    ((Outgoing.text "hi").encrypt plainPackages owner draws).run noEpochs = .error x c'
      ∧ c'.ratchet ≠ noEpochs.ratchet := by
  obtain ⟨x, hrun⟩ : ∃ x, ((Outgoing.text "hi").encrypt plainPackages owner draws).run noEpochs
      = .error x _ := eq_error_after (by decide +kernel)
  exact ⟨x, _, hrun, by decide +kernel⟩

end Yakr
