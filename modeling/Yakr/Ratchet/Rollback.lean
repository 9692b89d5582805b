import Yakr.Core.Plain
import Yakr.Ratchet.Reading

/-!
# Yakr.Ratchet.Rollback

**What a failed `decrypt` leaves behind.** A call that raises restores the snapshot it took
first. The snapshot holds the dictionary of skipped keys itself, which the attempt has gone on
changing: cleared when the header's key is a new one, and filled with the keys of the positions
it passes. So the skipped keys are not restored, everything else is.

`failedDecrypt_iff` says for which states and payloads nothing has changed.
-/

namespace Yakr

open Lib Effect

variable {P : Packages}

namespace RatchetState

/-! ### The skipped keys of an attempt -/

/-- The skipped keys once those of `count` positions from `n` on, with the chain key `c`, are
stored. -/
def passedKeys (P : Packages) (q : Bytes) :
    (count n : Nat) → (c : Bytes) → List (String × String) → List (String × String)
  | 0, _, _, skipped => skipped
  | count + 1, n, c, skipped =>
      passedKeys P q count (n + 1) (kdfCk P c).2
        (Table.put Prod.fst (skipKeyId q n, b64encode (kdfCk P c).1) skipped)

/-- The skipped keys once position `n` is looked for on a chain that stands at position `base`
with the chain key `c`: the positions before `n` are passed if the two limits admit it. -/
def lookedFor (P : Packages) (q : Bytes) (n base : Nat) (c : Bytes)
    (skipped : List (String × String)) : List (String × String) :=
  if base ≤ n ∧ n - base ≤ maxSkipGap ∧ skipped.length + (n - base) ≤ maxSkippedKeys then
    passedKeys P q (n - base) base c skipped
  else skipped

/-- The receive chain that a new peer key starts, where both exchanges with it yield a key. -/
def turnedChain (P : Packages) (s : RatchetState) (g : PrivateKey) (q : Bytes) : Option Bytes :=
  match loadPrivate s.dhSelfPrivate with
  | .error _ => none
  | .ok dhSelf =>
      match x25519SharedSecret P dhSelf q, x25519SharedSecret P g q with
      | .ok dhOutput, .ok _ => some (kdfRk P s.rootKey dhOutput).2
      | _, _ => none

/-- The skipped keys that the attempt at position `n` of the header key `q` leaves. -/
def attemptedKeys (P : Packages) (s : RatchetState) (g : PrivateKey) (q : Bytes) (n : Nat) :
    List (String × String) :=
  if s.dhPeerPublic = none ∨ s.dhPeerPublic = some q then
    match s.recvChainKey with
    | some c => lookedFor P q n s.recvN c s.skippedKeys
    | none => s.skippedKeys
  else
    match turnedChain P s g q with
    | some c => lookedFor P q n 0 c []
    | none => []

theorem skipPositions_skipped (q : Bytes) (count : Nat) (c : Bytes) (s : RatchetState) :
    ∃ c' t, (skipPositions P q count c).run s = .ok c' t
      ∧ t.skippedKeys = passedKeys P q count s.recvN c s.skippedKeys := by
  induction count generalizing c s with
  | zero => exact ⟨c, s, rfl, rfl⟩
  | succ count ih =>
      obtain ⟨c', t, hrun, hskipped⟩ := ih (kdfCk P c).2
        { storeSkip q s.recvN (kdfCk P c).1 s with
          recvChainKey := some (kdfCk P c).2
          recvN := s.recvN + 1 }
      refine ⟨c', t, ?_, hskipped⟩
      simpa only [skipPositions, EStateM.run_bind, EStateM.run_modify] using hrun

theorem receiveKey_skipped (q : Bytes) (n : Nat) (c : Bytes) (s : RatchetState) :
    (after ((receiveKey P q n c).run s)).skippedKeys
      = lookedFor P q n s.recvN c s.skippedKeys := by
  by_cases hn : n < s.recvN
  · have hbehind : ¬ (s.recvN ≤ n ∧ n - s.recvN ≤ maxSkipGap
        ∧ s.skippedKeys.length + (n - s.recvN) ≤ maxSkippedKeys) :=
      fun h => absurd h.1 (Nat.not_le.mpr hn)
    rw [lookedFor, if_neg hbehind]
    simp only [receiveKey, EStateM.run_bind, EStateM.run_get, if_pos hn]
    -- a stored key is returned, a missing or broken one raises
    cases skipKey s q n with
    | ok messageKey => rfl
    | error e => cases e <;> rfl
  · by_cases hgap : n - s.recvN > maxSkipGap
    · simp [receiveKey, lookedFor, hn, hgap, Nat.not_le.mpr hgap, -Nat.sub_le_iff_le_add]
    · by_cases hroom : s.skippedKeys.length + (n - s.recvN) > maxSkippedKeys
      · simp [receiveKey, lookedFor, hn, hgap, hroom, Nat.not_le.mpr hroom]
      · obtain ⟨c', t, hrun, hskipped⟩ := skipPositions_skipped (P := P) q (n - s.recvN) c s
        have hahead : s.recvN ≤ n ∧ n - s.recvN ≤ maxSkipGap
            ∧ s.skippedKeys.length + (n - s.recvN) ≤ maxSkippedKeys :=
          ⟨Nat.le_of_not_lt hn, Nat.le_of_not_lt hgap, Nat.le_of_not_lt hroom⟩
        rw [lookedFor, if_pos hahead]
        simpa [receiveKey, hn, hgap, hroom, hrun] using hskipped

/-- A turn to a new key clears the skipped keys first, and stands at position zero of the new
chain. -/
theorem dhRatchet_ok {q c : Bytes} {g : PrivateKey} {s : RatchetState}
    (h : turnedChain P s g q = some c) :
    ∃ t, (dhRatchet P q g).run s = .ok () t ∧ t.skippedKeys = [] ∧ t.recvChainKey = some c
      ∧ t.recvN = 0 := by
  unfold turnedChain at h
  cases hself : loadPrivate s.dhSelfPrivate with
  | error e => simp [hself] at h
  | ok dhSelf =>
      cases hshared : x25519SharedSecret P dhSelf q with
      | error e => simp [hself, hshared] at h
      | ok dhOutput =>
          cases hnew : x25519SharedSecret P g q with
          | error e => simp [hself, hshared, hnew] at h
          | ok dhOutput' =>
              simp only [hself, hshared, hnew, Option.some.injEq] at h
              subst h
              refine ⟨{ s with
                rootKey := (kdfRk P (kdfRk P s.rootKey dhOutput).1 dhOutput').1
                dhSelfPrivate := g.1
                dhSelfPublic := (P.x25519Public g).1
                dhPeerPublic := some q
                sendChainKey := some (kdfRk P (kdfRk P s.rootKey dhOutput).1 dhOutput').2
                recvChainKey := some (kdfRk P s.rootKey dhOutput).2
                recvN := 0
                prevSendN := s.sendN
                sendN := 0
                skippedKeys := [] }, ?_, rfl, rfl, rfl⟩
              simp [dhRatchet, hself, hshared, hnew]

/-- They stay cleared when an exchange with the new key fails. -/
theorem dhRatchet_error {q : Bytes} {g : PrivateKey} {s : RatchetState}
    (h : turnedChain P s g q = none) :
    ∃ e t, (dhRatchet P q g).run s = .error e t ∧ t.skippedKeys = [] := by
  unfold turnedChain at h
  cases hself : loadPrivate s.dhSelfPrivate with
  | error e =>
      exact ⟨e, { s with skippedKeys := [], dhPeerPublic := some q },
        by simp [dhRatchet, hself], rfl⟩
  | ok dhSelf =>
      cases hshared : x25519SharedSecret P dhSelf q with
      | error e =>
          exact ⟨e, { s with skippedKeys := [], dhPeerPublic := some q },
            by simp [dhRatchet, hself, hshared], rfl⟩
      | ok dhOutput =>
          cases hnew : x25519SharedSecret P g q with
          | ok dhOutput' => simp [hself, hshared, hnew] at h
          | error e =>
              refine ⟨e, { s with
                skippedKeys := []
                dhPeerPublic := some q
                rootKey := (kdfRk P s.rootKey dhOutput).1
                recvChainKey := some (kdfRk P s.rootKey dhOutput).2
                recvN := 0
                dhSelfPrivate := g.1
                dhSelfPublic := (P.x25519Public g).1 }, ?_, rfl⟩
              simp [dhRatchet, hself, hshared, hnew]

/-- What follows the message key does not change the state. -/
theorem opened_after {ε σ α β : Type} (x : Except ε α) (f : α → Except ε β) (t : σ) :
    after ((orRaise x >>= fun a => orRaise (f a) : EStateM ε σ β).run t) = t := by
  cases x with
  | error e => rfl
  | ok a =>
      show after ((orRaise (f a) : EStateM ε σ β).run t) = t
      cases f a with
      | error e => rfl
      | ok b => rfl

/-- From the turned state on. -/
theorem openTurned_skipped {s t : RatchetState} {q ciphertext : Bytes} {prevN n : Nat}
    {g : PrivateKey} (hturn : (turnTo P q g).run s = .ok () t) :
    (after ((openPayload P q prevN n ciphertext g).run s)).skippedKeys
      = match t.recvChainKey with
        | some c => lookedFor P q n t.recvN c t.skippedKeys
        | none => t.skippedKeys := by
  simp only [openPayload, EStateM.run_bind, hturn, EStateM.run_get]
  cases hchain : t.recvChainKey with
  | none => rfl
  | some c =>
      simp only [EStateM.run_bind]
      rw [← receiveKey_skipped]
      cases hkey : (receiveKey P q n c).run t with
      | error e t' => rfl
      | ok messageKey t' =>
          exact congrArg RatchetState.skippedKeys (opened_after _ _ t')

/-- Whether it returns or raises, the attempt leaves these skipped keys. -/
theorem openPayload_skipped (s : RatchetState) (q ciphertext : Bytes) (prevN n : Nat)
    (g : PrivateKey) :
    (after ((openPayload P q prevN n ciphertext g).run s)).skippedKeys
      = attemptedKeys P s g q n := by
  cases hpeer : s.dhPeerPublic with
  | none =>
      have hturn : (turnTo P q g).run s = .ok () { s with dhPeerPublic := some q } := by
        simp [turnTo, hpeer]
      rw [openTurned_skipped hturn, attemptedKeys, if_pos (Or.inl hpeer)]
  | some known =>
      by_cases hknown : known = q
      · have hturn : (turnTo P q g).run s = .ok () s := by
          simp [turnTo, hpeer, hknown]
        rw [openTurned_skipped hturn, attemptedKeys, if_pos (Or.inr (by rw [hpeer, hknown]))]
      · have hnew : ¬ (s.dhPeerPublic = none ∨ s.dhPeerPublic = some q) := by
          simp [hpeer, hknown]
        have hturn : (turnTo P q g).run s = (dhRatchet P q g).run s := by
          simp [turnTo, hpeer, hknown]
        rw [attemptedKeys, if_neg hnew]
        cases hchain : turnedChain P s g q with
        | none =>
            obtain ⟨e, t, hrun, hskipped⟩ := dhRatchet_error hchain
            simpa only [openPayload, EStateM.run_bind, hturn, hrun, after_error] using hskipped
        | some c =>
            obtain ⟨t, hrun, hskipped, hrecv, hzero⟩ := dhRatchet_ok hchain
            rw [openTurned_skipped (hturn.trans hrun), hrecv, hskipped, hzero]

/-! ### The restored state -/

/-- Every field is the same, the skipped keys as a dictionary. -/
def SameState (s t : RatchetState) : Prop :=
  { s with skippedKeys := [] } = { t with skippedKeys := [] }
    ∧ SameTable s.skippedKeys t.skippedKeys

/-- No optional key is an empty byte string, which a snapshot writes like an absent one. -/
structure KeysNonempty (s : RatchetState) : Prop where
  dhPeerPublic : s.dhPeerPublic ≠ some []
  sendChainKey : s.sendChainKey ≠ some []
  recvChainKey : s.recvChainKey ≠ some []
  pendingPeer : s.pendingPairingDhRatchetPeer ≠ some []

/-- The attempt at the payload stores no skipped key that was not there, and takes none
away. -/
def KeepsKeys (P : Packages) (s : RatchetState) (g : PrivateKey) (payload : Bytes) : Prop :=
  SameTable (attemptedKeys P s g (headerPublic payload) (messageNumber payload)) s.skippedKeys

theorem bind_orNone_eq {key : Option Bytes} : key.bind orNone = key ↔ key ≠ some [] := by
  cases key with
  | none => simp
  | some b =>
      cases b with
      | nil => simp [orNone]
      | cons x b => simp [orNone]

theorem rolledBack_fields_iff {s : RatchetState} {skipped : List (String × String)} :
    ({ s.rolledBack skipped with skippedKeys := [] } : RatchetState)
        = { s with skippedKeys := [] }
      ↔ KeysNonempty s := by
  constructor
  · intro h
    simp only [rolledBack, RatchetState.mk.injEq, bind_orNone_eq] at h
    obtain ⟨-, -, -, hpeer, hsend, hrecv, -, -, -, -, -, hpending⟩ := h
    exact ⟨hpeer, hsend, hrecv, hpending⟩
  · intro h
    simp only [rolledBack, bind_orNone_eq.mpr h.dhPeerPublic, bind_orNone_eq.mpr h.sendChainKey,
      bind_orNone_eq.mpr h.recvChainKey, bind_orNone_eq.mpr h.pendingPeer]

/-- **When a failed `decrypt` changes nothing.** A call that raises leaves every field as it
was exactly when the payload is not even parsed, or the attempt has neither cleared nor stored
a skipped key (and no key of the state is an empty byte string). -/
theorem failedDecrypt_iff {s s' : RatchetState} {g : PrivateKey} {payload : Bytes} {e : PyExc}
    (h : (decrypt P g payload).run s = .error e s') :
    SameState s' s ↔ (WellFormed payload → KeysNonempty s ∧ KeepsKeys P s g payload) := by
  by_cases hw : WellFormed payload
  · have hattempt := openPayload_skipped (P := P) s (headerPublic payload) (payload.drop 45)
      (Bytes.toNatBE ((payload.drop 37).take 4)) (messageNumber payload) g
    rw [decrypt_run hw, openParsed] at h
    cases hopen : (openPayload P (headerPublic payload) (Bytes.toNatBE ((payload.drop 37).take 4))
        (messageNumber payload) (payload.drop 45) g).run s with
    | ok plaintext t =>
        rw [hopen] at h
        cases h
    | error e' t =>
        rw [hopen] at h hattempt
        cases h
        have hskipped : t.skippedKeys
            = attemptedKeys P s g (headerPublic payload) (messageNumber payload) := hattempt
        rw [SameState, rolledBack_fields_iff, KeepsKeys, ← hskipped]
        exact ⟨fun hsame _ => hsame, fun hkeeps => hkeeps hw⟩
  · obtain ⟨e', hrun⟩ := decrypt_malformed (P := P) hw g s
    rw [hrun] at h
    cases h
    exact ⟨fun _ hparsed => absurd hparsed hw, fun _ => ⟨rfl, .refl _⟩⟩

namespace ForgedSample

def peer : Bytes := List.replicate 32 9

def generated : PrivateKey := BytesN.fill 32 4

/-- A paired state that has received nothing yet. -/
def state : RatchetState :=
  { fromMaster plainPackages (List.replicate 32 5) false false (BytesN.fill 32 3) with
    dhPeerPublic := some peer }

/-- A forged payload with the next number. -/
def next : Bytes := ratchetMagic ++ peer ++ [0, 0, 0, 0, 0, 0, 0, 0] ++ [1, 2, 3]

/-- A forged payload with the number after it. -/
def second : Bytes := ratchetMagic ++ peer ++ [0, 0, 0, 0, 0, 0, 0, 1] ++ [1, 2, 3]

/-- What `decrypt` leaves of the state. -/
def failed (payload : Bytes) : RatchetState :=
  after ((decrypt plainPackages generated payload).run state)

theorem keysNonempty : KeysNonempty state := by
  constructor <;> decide +kernel

theorem keepsKeys_next : KeepsKeys plainPackages state generated next := by
  have hsame : attemptedKeys plainPackages state generated (headerPublic next)
      (messageNumber next) = state.skippedKeys := by decide +kernel
  rw [KeepsKeys, hsame]
  exact .refl _

end ForgedSample

open ForgedSample in
theorem failedDecrypt_next : SameState (failed next) state := by
  obtain ⟨e, hrun⟩ : ∃ e, (decrypt plainPackages generated next).run state
      = .error e (failed next) := eq_error_after (by decide +kernel)
  exact (failedDecrypt_iff hrun).mpr fun _ => ⟨keysNonempty, keepsKeys_next⟩

open ForgedSample in
/-- A forged payload that runs ahead is refused, and the key of the position before it stays. -/
theorem not_sameState_second :
    value? ((decrypt plainPackages generated second).run state) = none
      ∧ ¬ SameState (failed second) state := by
  refine ⟨by decide +kernel, fun hsame => ?_⟩
  have hkept := hsame.2 (skipKeyId peer 0)
  revert hkept
  decide +kernel

end RatchetState
end Yakr
