import Yakr.Core.Plain
import Yakr.Core.RustSession
import Yakr.Lib.System
import Yakr.Ratchet.RustReading

/-!
# Yakr.Session.RustFailures

**What a refused message leaves in Rust.** The dictionary of a ratchet reads back as the same
ratchet, whatever the ratchet is, so a session that puts it back after a refusal leaves the
contact it found. `decryptOuter_run` says so once for every way through `decrypt_outer`.

The skipped keys are *bounded* when there are at most `MAX_SKIPPED_KEYS` of them and each is
stored under a position that the receive chain has passed. Every call keeps that: positions
are skipped only where the table has room for all of them, a new chain starts with an empty
table, and the first peer key is adopted without a new chain.
-/

namespace Yakr
namespace Rust

open Lib Effect

variable {P : Packages}

/-! ### The dictionary -/

namespace RatchetState

@[simp] theorem decodeText_b64encode (data : Bytes) : decodeText (b64encode data) = data := by
  rw [decodeText, base64urlDecode_b64encode, Option.getD_some]

theorem arrayOf_val (key : BytesN 32) : arrayOf 32 key.1 = some key := dif_pos key.2

@[simp] theorem requiredKey_b64encode (field : String) (key : BytesN 32) :
    requiredKey field (b64encode key.1) = .ok key := by
  rw [requiredKey, decodeText_b64encode, arrayOf_val]

/-- An absent key is written as the empty text, which is no key. -/
@[simp] theorem arrayOf_encodeKey (key : Option (BytesN 32)) :
    arrayOf 32 (decodeText (encodeKey key)) = key := by
  cases key with
  | none => decide
  | some key =>
      show arrayOf 32 (decodeText (b64encode key.1)) = some key
      rw [decodeText_b64encode, arrayOf_val]

/-- The dictionary of a ratchet reads back as the ratchet. -/
theorem fromDict_toDict (s : RatchetState) : fromDict s.toDict = .ok s := by
  simp only [fromDict, toDict, requiredKey_b64encode, arrayOf_encodeKey]
  rfl

end RatchetState

theorem restoreRatchet_toDict (s : RatchetState) (c : Contact) :
    (restoreRatchet s.toDict).run c = .ok () { c with ratchet := some s } := by
  rw [restoreRatchet, RatchetState.fromDict_toDict]
  rfl

/-! ### Refusals -/

section OnRatchet

variable {α : Type} (report : String → YakrError) (m : RatchetM α) {c : Contact}

/-- A method of a ratchet that is there. -/
theorem onRatchet_run {r : RatchetState} (hratchet : c.ratchet = some r) :
    (onRatchet report m).run c =
      match m.run r with
      | .ok a r' => .ok a { c with ratchet := some r' }
      | .error e r' => .error (report e) { c with ratchet := some r' } := by
  cases hm : m r with
  | ok a r' => simp only [onRatchet, EStateM.run, hratchet, hm]
  | error e r' => simp only [onRatchet, EStateM.run, hratchet, hm]

theorem onRatchet_none (hratchet : c.ratchet = none) :
    (onRatchet report m).run c = .error (.other "missing ratchet") c := by
  simp only [onRatchet, EStateM.run, hratchet]

end OnRatchet

/-- A ratchet that refuses a payload leaves the contact as it was. -/
theorem onRatchet_decrypt_error {report : String → YakrError} {g : PrivateKey} {payload : Bytes}
    {c c' : Contact} {e : YakrError}
    (hrun : (onRatchet report (RatchetState.decrypt P g payload)).run c = .error e c') :
    c' = c := by
  cases hratchet : c.ratchet with
  | none =>
      rw [onRatchet_none _ _ hratchet] at hrun
      cases hrun
      rfl
  | some r =>
      rw [onRatchet_run _ _ hratchet] at hrun
      cases hdecrypt : (RatchetState.decrypt P g payload).run r with
      | ok m r' =>
          rw [hdecrypt] at hrun
          cases hrun
      | error e' r' =>
          obtain rfl : r' = r := RatchetState.decrypt_error hdecrypt
          rw [hdecrypt] at hrun
          cases hrun
          rw [← hratchet]

/-- `decrypt_outer` with a ratchet: it refuses and leaves the contact, or it keeps the ratchet
that opened the payload and takes the number of the message. -/
theorem decryptOuter_run (jsonError : Bytes → String) (g : PrivateKey) (now : UInt64)
    (outer : OuterBlob) {c : Contact} {r : RatchetState} (hratchet : c.ratchet = some r) :
    (decryptOuter P jsonError g now outer).run c =
      match (RatchetState.decrypt P g outer.ciphertext).run r with
      | .error e _ => .error (decryptFailure e) c
      | .ok padded r' =>
          match checkPlaintext jsonError c now padded with
          | .error e => .error e c
          | .ok inner => .ok inner { c with ratchet := some r', lastRecvSeq := inner.seq } := by
  have hsnapshot : (onRatchet .other (return (← get).toDict) : SessionM RatchetDict).run c
      = .ok r.toDict c := by
    rw [onRatchet_run _ _ hratchet]
    show EStateM.Result.ok r.toDict { c with ratchet := some r } = _
    rw [← hratchet]
  simp only [decryptOuter, EStateM.run_bind, EStateM.run_get, hsnapshot,
    onRatchet_run decryptFailure _ hratchet]
  cases hdecrypt : (RatchetState.decrypt P g outer.ciphertext).run r with
  | error e r' =>
      obtain rfl : r' = r := RatchetState.decrypt_error hdecrypt
      show EStateM.Result.error (decryptFailure e) { c with ratchet := some r' } = _
      rw [← hratchet]
  | ok padded r' =>
      cases hcheck : checkPlaintext jsonError c now padded with
      | error e =>
          simp only [hcheck, EStateM.run_bind, restoreRatchet_toDict, run_raise]
          rw [← hratchet]
      | ok inner => simp only [hcheck, EStateM.run_bind, EStateM.run_modify, EStateM.run_pure]

/-- A contact without a ratchet opens nothing. -/
theorem decryptOuter_no_ratchet (jsonError : Bytes → String) (g : PrivateKey) (now : UInt64)
    (outer : OuterBlob) {c : Contact} (hratchet : c.ratchet = none) :
    (decryptOuter P jsonError g now outer).run c = .error (.other "missing ratchet") c := by
  simp only [decryptOuter, EStateM.run_bind, EStateM.run_get, onRatchet_none _ _ hratchet]

/-- A session that refuses a message leaves the contact as it was. -/
theorem decryptOuter_error {jsonError : Bytes → String} {g : PrivateKey} {now : UInt64}
    {outer : OuterBlob} {c c' : Contact} {e : YakrError}
    (hrun : (decryptOuter P jsonError g now outer).run c = .error e c') : c' = c := by
  cases hratchet : c.ratchet with
  | none =>
      rw [decryptOuter_no_ratchet jsonError g now outer hratchet] at hrun
      cases hrun
      rfl
  | some r =>
      rw [decryptOuter_run jsonError g now outer hratchet] at hrun
      cases hdecrypt : (RatchetState.decrypt P g outer.ciphertext).run r with
      | error e' r' =>
          simp only [hdecrypt] at hrun
          cases hrun
          rfl
      | ok padded r' =>
          cases hcheck : checkPlaintext jsonError c now padded with
          | error e' =>
              simp only [hdecrypt, hcheck] at hrun
              cases hrun
              rfl
          | ok inner =>
              simp only [hdecrypt, hcheck] at hrun
              cases hrun

/-! ### The skipped keys -/

namespace RatchetState

/-- Every key is stored under a position below `n`. -/
def StoredBelow (n : Nat) (skipped : List (String × String)) : Prop :=
  ∀ entry ∈ skipped, ∃ (q : Bytes) (i : Nat), i < n ∧ entry.1 = Yakr.RatchetState.skipKeyId q i

theorem StoredBelow.mono {n n' : Nat} {skipped : List (String × String)}
    (h : StoredBelow n skipped) (hle : n ≤ n') : StoredBelow n' skipped := by
  intro entry hentry
  obtain ⟨q, i, hi, hkey⟩ := h entry hentry
  exact ⟨q, i, Nat.lt_of_lt_of_le hi hle, hkey⟩

/-- The skipped keys are few, and each is stored under a position that was passed. -/
structure Bounded (s : RatchetState) : Prop where
  size : s.skippedKeys.length ≤ maxSkippedKeys
  passed : StoredBelow s.recvN s.skippedKeys

theorem bounded_fromMaster (masterSecret : Bytes) (isInitiator hybrid : Bool)
    (ratchetPrivate : PrivateKey) :
    Bounded (fromMaster P masterSecret isInitiator hybrid ratchetPrivate) where
  size := Nat.zero_le _
  passed := fun _ hentry => absurd hentry List.not_mem_nil

/-- A joiner starts its receive chain before it has stored any key. -/
theorem bounded_pairingRecvInit (q : BytesN 32) {s : RatchetState} (hnone : s.skippedKeys = []) :
    Bounded (pairingRecvInit P q s) where
  size := by
    show s.skippedKeys.length ≤ _
    rw [hnone]
    exact Nat.zero_le _
  passed := by
    show StoredBelow 0 s.skippedKeys
    rw [hnone]
    exact fun _ hentry => absurd hentry List.not_mem_nil

/-- A new peer key keeps the bounds: the first one changes neither table nor position, a later
one empties the table. -/
theorem bounded_turnTo (q : BytesN 32) (g : PrivateKey) {s : RatchetState} (h : Bounded s) :
    Bounded (turnTo P q g s) := by
  unfold turnTo
  cases s.dhPeerPublic with
  | none => exact ⟨h.size, h.passed⟩
  | some known =>
      show Bounded (if known ≠ q then dhRatchet P q g s else s)
      split
      · exact ⟨Nat.zero_le _, fun _ hentry => absurd hentry List.not_mem_nil⟩
      · exact h

/-- The loop that skips positions stores one key for each position it passes. -/
theorem skipPositions_bounds (q : BytesN 32) (count : Nat) (c : BytesN 32) (s : RatchetState)
    (h : StoredBelow s.recvN s.skippedKeys) :
    ∃ c' t, (skipPositions P q count c).run s = .ok c' t
      ∧ t.recvN = s.recvN + count
      ∧ t.skippedKeys.length ≤ s.skippedKeys.length + count
      ∧ StoredBelow t.recvN t.skippedKeys := by
  induction count generalizing c s with
  | zero => exact ⟨c, s, rfl, rfl, Nat.le_refl _, h⟩
  | succ count ih =>
      have hstored : StoredBelow (s.recvN + 1)
          (storeSkip q s.recvN (kdfCk P c).1 s).skippedKeys := by
        intro entry hentry
        rcases Table.mem_put hentry with hold | rfl
        · exact h.mono (Nat.le_succ _) entry hold
        · exact ⟨q.1, s.recvN, Nat.lt_succ_self _, rfl⟩
      have hlength : (storeSkip q s.recvN (kdfCk P c).1 s).skippedKeys.length
          ≤ s.skippedKeys.length + 1 := Table.length_put_le
      obtain ⟨c', t, hrun, hrecvN, hsize, hpassed⟩ := ih (kdfCk P c).2
        { storeSkip q s.recvN (kdfCk P c).1 s with recvN := s.recvN + 1 } hstored
      refine ⟨c', t, ?_, ?_, ?_, hpassed⟩
      · simpa only [skipPositions, EStateM.run_bind, EStateM.run_modify] using hrun
      · have hrecvN' : t.recvN = s.recvN + 1 + count := hrecvN
        omega
      · have hsize' : t.skippedKeys.length
            ≤ (storeSkip q s.recvN (kdfCk P c).1 s).skippedKeys.length + count := hsize
        omega

/-- Looking for the key of a position keeps the bounds, whether it is found or not: the loop
runs only where the table has room for every position it passes. -/
theorem bounded_receiveKey (q : BytesN 32) (n : Nat) (c : BytesN 32) {s : RatchetState}
    (h : Bounded s) : Bounded (after ((receiveKey P q n c).run s)) := by
  by_cases hn : n < s.recvN
  · simp only [receiveKey, EStateM.run_bind, EStateM.run_get, if_pos hn]
    cases skipKey s q n with
    | some messageKey => exact h
    | none => exact h
  · by_cases hgap : n - s.recvN > maxSkipGap
    · simp only [receiveKey, EStateM.run_bind, EStateM.run_get, if_neg hn, if_pos hgap, run_raise]
      exact h
    · by_cases hroom : s.skippedKeys.length + (n - s.recvN) > maxSkippedKeys
      · simp only [receiveKey, EStateM.run_bind, EStateM.run_get, if_neg hn, if_neg hgap,
          if_pos hroom, run_raise]
        exact h
      · obtain ⟨c', t, hrun, hrecvN, hsize, hpassed⟩ :=
          skipPositions_bounds (P := P) q (n - s.recvN) c s h.passed
        simp only [receiveKey, EStateM.run_bind, EStateM.run_get, if_neg hn, if_neg hgap,
          if_neg hroom, EStateM.run_pure, hrun]
        have hfits : t.skippedKeys.length ≤ maxSkippedKeys := by omega
        cases hadd : addU32 n 1 with
        | error e => exact ⟨hfits, hpassed⟩
        | ok recvN =>
            -- the position of the message itself is passed as well
            have hnext : recvN = n + 1 := by
              unfold addU32 at hadd
              split at hadd
              · exact (Except.ok.inj hadd).symm
              · cases hadd
            have hle : t.recvN ≤ recvN := by omega
            exact ⟨hfits, hpassed.mono hle⟩

theorem bounded_openPayload (q : BytesN 32) (prevN n : Nat) (ciphertext : Bytes)
    (g : PrivateKey) {s : RatchetState} (h : Bounded s) :
    Bounded (after ((openPayload P q prevN n ciphertext g).run s)) := by
  have hturned : Bounded (turnTo P q g s) := bounded_turnTo q g h
  simp only [openPayload, EStateM.run_bind, EStateM.run_modify, EStateM.run_get]
  cases (turnTo P q g s).recvChainKey with
  | none => exact hturned
  | some c =>
      have hkey : Bounded (after ((receiveKey P q n c).run (turnTo P q g s))) :=
        bounded_receiveKey q n c hturned
      simp only [EStateM.run_bind]
      cases hrun : (receiveKey P q n c).run (turnTo P q g s) with
      | error e t =>
          rw [hrun] at hkey
          exact hkey
      | ok keys t =>
          rw [hrun] at hkey
          simp only [EStateM.run_modify]
          cases xchachaDecrypt P keys.1 ciphertext (headerAad q prevN n) with
          | error e => exact ⟨hkey.size, hkey.passed⟩
          | ok m => exact ⟨hkey.size, hkey.passed⟩

/-- `decrypt` keeps the bounds. -/
theorem bounded_decrypt (g : PrivateKey) (payload : Bytes) {s : RatchetState} (h : Bounded s) :
    Bounded (after ((decrypt P g payload).run s)) := by
  cases hrun : (decrypt P g payload).run s with
  | error e t =>
      obtain rfl : t = s := decrypt_error hrun
      exact h
  | ok m t =>
      have hinner : (decryptInner P g payload).run s = .ok m t := by
        simp only [decrypt, EStateM.run_bind, EStateM.run_get, run_tryCatch] at hrun
        cases hinner : (decryptInner P g payload).run s with
        | ok m' t' =>
            rw [hinner] at hrun
            exact hrun
        | error e t' =>
            simp only [hinner, EStateM.run_set, run_raise] at hrun
            cases hrun
      simp only [decryptInner] at hinner
      split at hinner
      · cases hinner
      · rw [run_guard_bind_ok] at hinner
        have hopened := bounded_openPayload (P := P) ⟨(payload.drop 5).take 32, by simp; omega⟩
          (Bytes.toNatBE ((payload.drop 37).take 4)) (Bytes.toNatBE ((payload.drop 41).take 4))
          (payload.drop 45) g h
        rw [hinner.2] at hopened
        exact hopened

/-- `encrypt` touches neither the skipped keys nor the position of the receive chain. -/
theorem bounded_encrypt (g : PrivateKey) (nonce : Nonce) (plaintext : Bytes) {s : RatchetState}
    (h : Bounded s) : Bounded (after ((encrypt P g nonce plaintext).run s)) := by
  have htaken : (taken P g s).skippedKeys = s.skippedKeys ∧ (taken P g s).recvN = s.recvN := by
    unfold taken
    cases s.pendingPairingDhRatchetPeer with
    | none => exact ⟨rfl, rfl⟩
    | some peer => exact ⟨rfl, rfl⟩
  obtain ⟨⟨sendChainKey, sendN, hafter⟩, _⟩ := encrypt_after (P := P) s g nonce plaintext
  rw [hafter]
  constructor
  · show (taken P g s).skippedKeys.length ≤ _
    rw [htaken.1]
    exact h.size
  · show StoredBelow (taken P g s).recvN (taken P g s).skippedKeys
    rw [htaken.1, htaken.2]
    exact h.passed

end RatchetState

/-! ### Contacts -/

/-- The ratchet of a contact is bounded. -/
def Contact.Bounded (c : Contact) : Prop := ∀ s ∈ c.ratchet, s.Bounded

/-- What a step does to a bounded contact. -/
def KeepsBounds (c c' : Contact) : Prop := c.Bounded → c'.Bounded

/-- A method of the ratchet that keeps its bounds keeps those of the contact. -/
theorem onRatchet_keepsBounds {α : Type} (report : String → YakrError) {m : RatchetM α}
    (h : ∀ s, s.Bounded → (after (m.run s)).Bounded) : Steps KeepsBounds (onRatchet report m) := by
  intro c
  refine .single fun hc => ?_
  cases hratchet : c.ratchet with
  | none =>
      rw [onRatchet_none _ _ hratchet]
      exact hc
  | some r =>
      have hr := h r (hc r hratchet)
      rw [onRatchet_run _ _ hratchet]
      cases hrun : m.run r with
      | ok a r' =>
          rw [hrun] at hr
          intro s hs
          cases hs
          exact hr
      | error e r' =>
          rw [hrun] at hr
          intro s hs
          cases hs
          exact hr

/-- `encrypt_text` keeps the bounds, also where it fails after the ratchet has moved. -/
theorem bounded_encryptText (identity : Identity) (draws : Draws) (body : String) {c : Contact}
    (h : c.Bounded) : (after ((encryptText P identity draws body).run c)).Bounded := by
  have hinner (inner : InnerMessage) : Steps KeepsBounds (encryptInner P draws inner) := by
    refine Steps.get.bind fun c => ?_
    cases padPlaintext inner.toBytes c.privacyMode with
    | error e => exact Steps.raise _
    | ok padded =>
        exact (onRatchet_keepsBounds .other fun s hs =>
          RatchetState.bounded_encrypt _ _ _ hs).bind fun _ => Steps.pure _
  have hsteps : Steps KeepsBounds (encryptText P identity draws body) := by
    refine Steps.bind ?_ fun _ => Steps.get.bind fun c => (hinner _).bind fun sealed => ?_
    · refine Steps.get.bind fun c => Steps.ite _ (Steps.raise _) (Steps.pure _)
    · refine Steps.get.bind fun c => (Steps.orRaise _).bind fun tag =>
        (Steps.orRaise _).bind fun outer => (Steps.orRaise _).bind fun seq =>
          Steps.bind ?_ fun _ => Steps.pure _
      exact Steps.modify fun _ hc => hc
  exact hsteps.invariant (fun _ _ hc hkeeps => hkeeps hc) h

/-- `decrypt_outer` keeps the bounds. -/
theorem bounded_decryptOuter (jsonError : Bytes → String) (g : PrivateKey) (now : UInt64)
    (outer : OuterBlob) {c : Contact} (h : c.Bounded) :
    (after ((decryptOuter P jsonError g now outer).run c)).Bounded := by
  cases hrun : (decryptOuter P jsonError g now outer).run c with
  | error e c' =>
      obtain rfl : c' = c := decryptOuter_error hrun
      exact h
  | ok inner c' =>
      cases hratchet : c.ratchet with
      | none =>
          rw [decryptOuter_no_ratchet jsonError g now outer hratchet] at hrun
          cases hrun
      | some r =>
          have hopened := RatchetState.bounded_decrypt (P := P) g outer.ciphertext (h r hratchet)
          rw [decryptOuter_run jsonError g now outer hratchet] at hrun
          cases hdecrypt : (RatchetState.decrypt P g outer.ciphertext).run r with
          | error e r' =>
              simp only [hdecrypt] at hrun
              cases hrun
          | ok padded r' =>
              rw [hdecrypt] at hopened
              cases hcheck : checkPlaintext jsonError c now padded with
              | error e =>
                  simp only [hdecrypt, hcheck] at hrun
                  cases hrun
              | ok inner' =>
                  simp only [hdecrypt, hcheck] at hrun
                  cases hrun
                  intro s hs
                  cases hs
                  exact hopened

/-! ### Runs from a pairing -/

/-- The contacts a pairing makes. -/
inductive Paired (P : Packages) : Contact → Prop
  | inviter {loads : Bytes → Bool} {identity : Identity} {invite : InviteBundle}
      {request : PairingRequest} {ephemeral ratchet : PrivateKey} {now : UInt64}
      {response : PairingResponse} {c : Contact}
      (h : inviterCompletePairing P loads identity invite request ephemeral ratchet now
        = .ok (response, c)) : Paired P c
  | joiner {identity : Identity} {invite : InviteBundle} {request : PairingRequest}
      {secrets : PairingSecrets} {response : PairingResponse} {now : UInt64} {c : Contact}
      (h : joinerCompletePairing P identity invite request secrets response now = .ok c) :
      Paired P c
  | classical (own : Identity) (remoteName : String) (remoteSigning remoteAgreement : BytesN 32)
      (generated : PrivateKey) :
      Paired P (Contact.establishClassical P own remoteName remoteSigning remoteAgreement generated)

/-- A call on a contact, of its session or of its ratchet, with what it is given and draws. -/
inductive Call where
  | encrypt (generated : PrivateKey) (nonce : Nonce) (plaintext : Bytes)
  | decrypt (generated : PrivateKey) (payload : Bytes)
  | encryptText (identity : Identity) (draws : Draws) (body : String)
  | decryptOuter (jsonError : Bytes → String) (generated : PrivateKey) (now : UInt64)
      (outer : OuterBlob)

/-- The contact after a call, whatever the call returned. -/
def Call.run (P : Packages) (c : Contact) : Call → Contact
  | .encrypt g nonce plaintext =>
      after ((onRatchet .other (RatchetState.encrypt P g nonce plaintext)).run c)
  | .decrypt g payload => after ((onRatchet .other (RatchetState.decrypt P g payload)).run c)
  | .encryptText identity draws body => after ((Rust.encryptText P identity draws body).run c)
  | .decryptOuter jsonError g now outer =>
      after ((Rust.decryptOuter P jsonError g now outer).run c)

/-- The contacts that calls lead to from a pairing. -/
def Reachable (P : Packages) (c : Contact) : Prop :=
  ∃ c₀, Paired P c₀ ∧ System.Run (fun _ _ => True) (Call.run P) c₀ c

/-- A pairing leaves no skipped keys. -/
theorem Paired.bounded {c : Contact} (h : Paired P c) : c.Bounded := by
  cases h with
  | inviter h =>
      simp only [inviterCompletePairing] at h
      obtain ⟨transcriptHash, _, h⟩ := bind_ok.mp h
      obtain ⟨pqSecret, _, h⟩ := bind_ok.mp h
      cases h
      intro s hs
      cases hs
      exact ⟨Nat.zero_le _, fun _ hentry => absurd hentry List.not_mem_nil⟩
  | joiner h =>
      simp only [joinerCompletePairing] at h
      obtain ⟨pqSecret, _, h⟩ := bind_ok.mp h
      cases h
      intro s hs
      cases hs
      exact RatchetState.bounded_pairingRecvInit _ rfl
  | classical own remoteName remoteSigning remoteAgreement generated =>
      intro s hs
      cases hs
      exact RatchetState.bounded_fromMaster _ _ _ _

theorem Call.bounded (call : Call) {c : Contact} (h : c.Bounded) : (call.run P c).Bounded := by
  cases call with
  | encrypt g nonce plaintext =>
      exact (onRatchet_keepsBounds .other fun s hs =>
        RatchetState.bounded_encrypt g nonce plaintext hs).invariant
          (fun _ _ hc hkeeps => hkeeps hc) h
  | decrypt g payload =>
      exact (onRatchet_keepsBounds .other fun s hs =>
        RatchetState.bounded_decrypt g payload hs).invariant (fun _ _ hc hkeeps => hkeeps hc) h
  | encryptText identity draws body => exact bounded_encryptText identity draws body h
  | decryptOuter jsonError g now outer => exact bounded_decryptOuter jsonError g now outer h

/-- **Refusals change nothing, and the skipped keys stay few and behind.** In every contact
that calls lead to from a pairing. -/
theorem refused_unchanged_and_bounded {c : Contact} (h : Reachable P c) :
    (∀ g payload e c',
        (onRatchet .other (RatchetState.decrypt P g payload)).run c = .error e c' → c' = c)
      ∧ (∀ jsonError g now outer e c',
        (decryptOuter P jsonError g now outer).run c = .error e c' → c' = c)
      ∧ ∀ s ∈ c.ratchet, s.skippedKeys.length ≤ 256
        ∧ ∀ entry ∈ s.skippedKeys, ∃ (q : Bytes) (n : Nat),
          n < s.recvN ∧ entry.1 = Yakr.RatchetState.skipKeyId q n := by
  refine ⟨?_, ?_, ?_⟩
  · intro g payload e c' hrun
    exact onRatchet_decrypt_error hrun
  · intro jsonError g now outer e c' hrun
    exact decryptOuter_error hrun
  · obtain ⟨c₀, hpaired, hrun⟩ := h
    have hbounded : c.Bounded :=
      hrun.invariant hpaired.bounded fun _ call hc _ => call.bounded hc
    intro s hs
    exact ⟨(hbounded s hs).size, (hbounded s hs).passed⟩

/-! ### A run -/

namespace FailureSample

def own : Identity :=
  { name := "bob", signingPrivate := BytesN.fill 32 1
    agreementPrivate := BytesN.fill 32 2 }

def peer : BytesN 32 := BytesN.fill 32 9

def generated : PrivateKey := BytesN.fill 32 4

def paired : Contact :=
  Contact.establishClassical plainPackages own "alice" (BytesN.fill 32 3) peer generated

/-- The key of the third message of the chain. -/
def thirdKey : BytesN 32 :=
  match paired.ratchet.bind (·.recvChainKey) with
  | some c => (kdfCk plainPackages (kdfCk plainPackages (kdfCk plainPackages c).2).2).1
  | none => peer

/-- The third message, which arrives first. -/
def third : Bytes :=
  RatchetState.headerAad peer 0 2
    ++ xchachaEncrypt plainPackages (BytesN.fill 24 0) thirdKey [7]
      (RatchetState.headerAad peer 0 2)

def received : Contact := (Call.decrypt generated third).run plainPackages paired

end FailureSample

open FailureSample in
/-- It leaves the keys of the two messages before it. -/
theorem received_unchanged_and_bounded :
    (received.ratchet.map (·.skippedKeys.length)) = some 2
      ∧ ∀ s ∈ received.ratchet, s.skippedKeys.length ≤ 256
        ∧ ∀ entry ∈ s.skippedKeys, ∃ (q : Bytes) (n : Nat),
          n < s.recvN ∧ entry.1 = Yakr.RatchetState.skipKeyId q n := by
  refine ⟨by decide +kernel, (refused_unchanged_and_bounded (P := plainPackages) ?_).2.2⟩
  exact ⟨paired, .classical _ _ _ _ _, .single ⟨.decrypt generated third, trivial, rfl⟩⟩

end Rust
end Yakr
