import Yakr.Core.Ratchet
import Yakr.Lib.Chain

/-!
# Yakr.Ratchet.Methods

**What each ratchet method does.** One lemma a method: the state it leaves and
the value it returns, for the inputs an honest peer produces. A payload is
described by its `Slot`, the position of a sending chain it was encrypted at, and
a receiver by where it stands on that chain. Later modules cite these lemmas and
never unfold a method.
-/

namespace Yakr

open Lib Effect

variable {P : Packages}

/-! ### Dictionaries -/

/-- Equality of two dictionaries, which have no order. -/
def SameTable (a b : List (String × String)) : Prop :=
  ∀ id, Table.find Prod.fst id a = Table.find Prod.fst id b

theorem SameTable.refl (a : List (String × String)) : SameTable a a := fun _ => rfl

/-! ### Key chains -/

/-- The chain key at position `n` of the chain that starts at `start`. -/
def chainKey (P : Packages) (start : Bytes) (n : Nat) : Bytes := Chain.keyAt (kdfCk P) start n

/-- The message key of position `n` of the chain that starts at `start`. -/
def messageKey (P : Packages) (start : Bytes) (n : Nat) : Bytes :=
  Chain.outputAt (kdfCk P) start n

@[simp] theorem chainKey_zero (start : Bytes) : chainKey P start 0 = start := rfl

@[simp] theorem kdfCk_chainKey_fst (start : Bytes) (n : Nat) :
    (kdfCk P (chainKey P start n)).1 = messageKey P start n := rfl

@[simp] theorem kdfCk_chainKey_snd (start : Bytes) (n : Nat) :
    (kdfCk P (chainKey P start n)).2 = chainKey P start (n + 1) := by
  rw [chainKey, Chain.step_keyAt (kdfCk P) start n]
  rfl

@[simp] theorem length_messageKey (start : Bytes) (n : Nat) :
    (messageKey P start n).length = 32 := by
  rw [← kdfCk_chainKey_fst, kdfCk]
  simp

/-! ### Slots -/

/-- A position of a sending chain: the sender's header key, the message number
and the message key of that position. -/
structure Slot where
  dhPublic : Bytes
  n : Nat
  key : Bytes

/-- `payload` is what `encrypt` makes of `plaintext` at slot `w`. -/
structure Carries (P : Packages) (payload : Bytes) (w : Slot) (plaintext : Bytes) : Prop where
  length_dhPublic : w.dhPublic.length = 32
  sealed : ∃ prevN nonce aad ciphertext,
    RatchetState.headerAad w.dhPublic prevN w.n = .ok aad
      ∧ xchachaEncrypt P nonce w.key plaintext aad = .ok ciphertext
      ∧ payload = aad ++ ciphertext

namespace RatchetState

/-- The bytes of a header whose counters fit their fields. -/
def header (dhPublic : Bytes) (prevN n : Nat) : Bytes :=
  ratchetMagic ++ (dhPublic ++ (Bytes.ofNatBE 4 prevN ++ Bytes.ofNatBE 4 n))

theorem headerAad_ok {dhPublic : Bytes} {prevN n : Nat} (hp : prevN < 2 ^ 32) (hn : n < 2 ^ 32) :
    headerAad dhPublic prevN n = .ok (header dhPublic prevN n) := by
  rw [headerAad, packCounters, if_pos ⟨hp, hn⟩, header, ← List.append_assoc]
  rfl

/-- The fields a header was packed from. -/
theorem headerAad_inv {dhPublic aad : Bytes} {prevN n : Nat}
    (h : headerAad dhPublic prevN n = .ok aad) :
    prevN < 2 ^ 32 ∧ n < 2 ^ 32 ∧ aad = header dhPublic prevN n := by
  by_cases hb : prevN < 2 ^ 32 ∧ n < 2 ^ 32
  · rw [headerAad_ok hb.1 hb.2] at h
    exact ⟨hb.1, hb.2, (Except.ok.inj h).symm⟩
  · rw [headerAad, packCounters, if_neg hb] at h
    cases h

/-- What `decrypt` cuts out of a payload. -/
structure Parses (payload dhPublic : Bytes) (prevN n : Nat) (ciphertext : Bytes) : Prop where
  length : ¬ payload.length < ratchetMagic.length + 32 + 8
  magic : payload.take 5 = ratchetMagic
  dhPublic : headerPublic payload = dhPublic
  prevN : Bytes.toNatBE ((payload.drop 37).take 4) = prevN
  n : Bytes.toNatBE ((payload.drop 41).take 4) = n
  ciphertext : payload.drop 45 = ciphertext

/-- Everything `decrypt` cuts out of a payload is what `encrypt` put there. -/
theorem parses_append {dhPublic aad : Bytes} {prevN n : Nat} (hlen : dhPublic.length = 32)
    (h : headerAad dhPublic prevN n = .ok aad) (ciphertext : Bytes) :
    Parses (aad ++ ciphertext) dhPublic prevN n ciphertext := by
  obtain ⟨hp, hn, rfl⟩ := headerAad_inv h
  have hmagic := length_ratchetMagic
  have hprev : (Bytes.ofNatBE 4 prevN).length = 4 := Bytes.length_ofNatBE 4 prevN
  have hnum : (Bytes.ofNatBE 4 n).length = 4 := Bytes.length_ofNatBE 4 n
  -- the header one field at a time, so that each cut falls on a boundary
  have hcuts : header dhPublic prevN n ++ ciphertext =
      ratchetMagic ++ (dhPublic ++ (Bytes.ofNatBE 4 prevN ++ (Bytes.ofNatBE 4 n ++ ciphertext))) := by
    simp only [header, List.append_assoc]
  have h5 : ∀ rest : Bytes, (ratchetMagic ++ rest).drop 5 = rest := fun _ =>
    Bytes.drop_append_of_length hmagic
  have h37 : ∀ rest : Bytes, (ratchetMagic ++ (dhPublic ++ rest)).drop 37 = rest := by
    intro rest
    rw [← List.append_assoc]
    exact Bytes.drop_append_of_length (by simp [hlen])
  have h41 : ∀ rest : Bytes,
      (ratchetMagic ++ (dhPublic ++ (Bytes.ofNatBE 4 prevN ++ rest))).drop 41 = rest := by
    intro rest
    rw [← List.append_assoc, ← List.append_assoc]
    exact Bytes.drop_append_of_length (by simp [hlen])
  have h45 : ∀ rest : Bytes,
      (ratchetMagic ++ (dhPublic ++ (Bytes.ofNatBE 4 prevN ++ (Bytes.ofNatBE 4 n ++ rest)))).drop 45
        = rest := by
    intro rest
    rw [← List.append_assoc, ← List.append_assoc, ← List.append_assoc]
    exact Bytes.drop_append_of_length (by simp [hlen])
  constructor
  · simp only [hcuts, List.length_append, hmagic, hlen, hprev, hnum]
    omega
  · rw [hcuts]
    exact Bytes.take_append_of_length hmagic
  · rw [headerPublic, hcuts, h5, Bytes.take_append_of_length hlen]
  · rw [hcuts, h37, Bytes.take_append_of_length hprev, Bytes.toNatBE_ofNatBE (by norm_num; omega)]
  · rw [hcuts, h41, Bytes.take_append_of_length hnum, Bytes.toNatBE_ofNatBE (by norm_num; omega)]
  · rw [hcuts, h45]

/-! ### `encrypt` -/

/-- `encrypt` with a running send chain: one payload at the next slot, and only
the chain key and the counter move. -/
theorem encrypt_running {s : RatchetState} {start : Bytes} (g : PrivateKey) (nonce : Nonce)
    (plaintext : Bytes) (hpending : s.pendingPairingDhRatchetPeer = none)
    (hchain : s.sendChainKey = some (chainKey P start s.sendN))
    (hlen : s.dhSelfPublic.length = 32) (hp : s.prevSendN < 2 ^ 32) (hn : s.sendN < 2 ^ 32) :
    ∃ payload, Carries P payload ⟨s.dhSelfPublic, s.sendN, messageKey P start s.sendN⟩ plaintext
      ∧ (encrypt P g nonce plaintext).run s =
          .ok payload { s with
            sendChainKey := some (chainKey P start (s.sendN + 1)), sendN := s.sendN + 1 } := by
  obtain ⟨ct, hct⟩ : ∃ ct, xchachaEncrypt P nonce (messageKey P start s.sendN) plaintext
      (header s.dhSelfPublic s.prevSendN s.sendN) = .ok ct := by
    rw [xchachaEncrypt, dif_pos (length_messageKey start s.sendN)]
    exact ⟨_, rfl⟩
  refine ⟨_, ⟨hlen, s.prevSendN, nonce, _, ct, headerAad_ok hp hn, hct, rfl⟩, ?_⟩
  simp [encrypt, takePendingPeer, nextSendKey, hpending, hchain, headerAad_ok hp hn, hct]

/-- `encrypt` with a pending pairing key: the two key derivations of the pairing
start the send chain of the generated key, and the payload is its first slot. -/
theorem encrypt_pending {s : RatchetState} {peer : Bytes} {priv : PrivateKey}
    {shared shared' : Bytes} (g : PrivateKey) (nonce : Nonce) (plaintext : Bytes)
    (hpending : s.pendingPairingDhRatchetPeer = some peer) (hpeer : peer.length = 32)
    (hpriv : s.dhSelfPrivate = priv.1) (hshared : x25519SharedSecret P priv peer = .ok shared)
    (hshared' : x25519SharedSecret P g peer = .ok shared') (hn : s.sendN < 2 ^ 32) :
    ∃ payload,
      Carries P payload ⟨P.x25519Public g, 0,
        messageKey P (kdfRk P (kdfRk P s.rootKey shared).1 shared').2 0⟩ plaintext
      ∧ (encrypt P g nonce plaintext).run s =
          .ok payload { s with
            rootKey := (kdfRk P (kdfRk P s.rootKey shared).1 shared').1
            dhSelfPrivate := g.1
            dhSelfPublic := (P.x25519Public g).1
            dhPeerPublic := some peer
            sendChainKey :=
              some (chainKey P (kdfRk P (kdfRk P s.rootKey shared).1 shared').2 1)
            sendN := 1
            prevSendN := s.sendN
            pendingPairingDhRatchetPeer := none } := by
  let inited : RatchetState := { s with
    rootKey := (kdfRk P (kdfRk P s.rootKey shared).1 shared').1
    dhSelfPrivate := g.1
    dhSelfPublic := (P.x25519Public g).1
    dhPeerPublic := some peer
    sendChainKey := some (kdfRk P (kdfRk P s.rootKey shared).1 shared').2
    sendN := 0
    prevSendN := s.sendN
    pendingPairingDhRatchetPeer := none }
  have hinit : (takePendingPeer P g).run s = .ok () inited := by
    simp [takePendingPeer, hpending, pairingSendInit, hpeer, hpriv, hshared, hshared', inited]
  have hrest : ∀ t : RatchetState, t.pendingPairingDhRatchetPeer = none →
      (takePendingPeer P g).run t = .ok () t := by
    intro t ht
    simp [takePendingPeer, ht]
  have hchain : inited.sendChainKey
      = some (chainKey P (kdfRk P (kdfRk P s.rootKey shared).1 shared').2 inited.sendN) := rfl
  obtain ⟨payload, hcarries, hrun⟩ := encrypt_running g nonce plaintext
    (show inited.pendingPairingDhRatchetPeer = none from rfl) hchain (P.x25519Public g).2 hn
    (show inited.sendN < 2 ^ 32 by norm_num [inited])
  refine ⟨payload, hcarries, ?_⟩
  -- after the bootstrap the two runs are one
  have hsame : (encrypt P g nonce plaintext).run s = (encrypt P g nonce plaintext).run inited := by
    simp only [encrypt, EStateM.run_bind, hinit, hrest inited rfl]
  rw [hsame, hrun]

/-! ### `decrypt` -/

/-- The stored keys after the keys of `count` positions from `n` of the chain `start`
were stored. -/
def storeKeys (P : Packages) (dhPublic start : Bytes) :
    (n count : Nat) → List (String × String) → List (String × String)
  | _, 0, skipped => skipped
  | n, count + 1, skipped =>
      storeKeys P dhPublic start (n + 1) count
        (Table.put Prod.fst (skipKeyId dhPublic n, b64encode (messageKey P start n)) skipped)

/-- Each position stores one key at most. -/
theorem length_storeKeys_le (dhPublic start : Bytes) (count : Nat) :
    ∀ (n : Nat) (skipped : List (String × String)),
      (storeKeys P dhPublic start n count skipped).length ≤ skipped.length + count := by
  induction count with
  | zero => exact fun n skipped => Nat.le_refl _
  | succ count ih =>
      intro n skipped
      have hrest := ih (n + 1)
        (Table.put Prod.fst (skipKeyId dhPublic n, b64encode (messageKey P start n)) skipped)
      have hstep : (Table.put Prod.fst
          (skipKeyId dhPublic n, b64encode (messageKey P start n)) skipped).length
          ≤ skipped.length + 1 := Table.length_put_le
      rw [storeKeys]
      omega

/-- The skip loop moves the chain on and stores the keys of the positions it passes. -/
theorem skipPositions_run (peerPublic start : Bytes) (count : Nat) :
    ∀ {s : RatchetState}, s.recvChainKey = some (chainKey P start s.recvN) →
      (skipPositions P peerPublic count (chainKey P start s.recvN)).run s =
        .ok (chainKey P start (s.recvN + count)) { s with
          skippedKeys := storeKeys P peerPublic start s.recvN count s.skippedKeys
          recvChainKey := some (chainKey P start (s.recvN + count))
          recvN := s.recvN + count } := by
  induction count with
  | zero =>
      intro s hs
      simp only [skipPositions, EStateM.run_pure, Nat.add_zero, ← hs, storeKeys]
  | succ count ih =>
      intro s hs
      let next : RatchetState := { storeSkip peerPublic s.recvN (messageKey P start s.recvN) s with
        recvChainKey := some (chainKey P start (s.recvN + 1)), recvN := s.recvN + 1 }
      have hrun := ih (s := next) rfl
      simp only [skipPositions, EStateM.run_bind, EStateM.run_modify, kdfCk_chainKey_fst,
        kdfCk_chainKey_snd]
      refine hrun.trans ?_
      simp only [next, storeSkip, storeKeys, Nat.add_assoc, Nat.add_comm 1 count]

/-- `s` once it has passed position `n` of the chain `start`. -/
def passed (P : Packages) (s : RatchetState) (dhPublic start : Bytes) (n : Nat) : RatchetState :=
  { s with
    skippedKeys := storeKeys P dhPublic start s.recvN (n - s.recvN) s.skippedKeys
    recvChainKey := some (chainKey P start (n + 1))
    recvN := n + 1 }

/-- The message key of a slot the receive chain has not passed, within the two
limits on skipping. -/
theorem receiveKey_ahead {s : RatchetState} {start : Bytes} {n : Nat} (peerPublic : Bytes)
    (hchain : s.recvChainKey = some (chainKey P start s.recvN)) (hn : s.recvN ≤ n)
    (hgap : n - s.recvN ≤ maxSkipGap)
    (hroom : s.skippedKeys.length + (n - s.recvN) ≤ maxSkippedKeys) :
    (receiveKey P peerPublic n (chainKey P start s.recvN)).run s =
      .ok (messageKey P start n) (s.passed P peerPublic start n) := by
  have hrun := skipPositions_run (P := P) peerPublic start (n - s.recvN) hchain
  have hreach : s.recvN + (n - s.recvN) = n := by omega
  rw [hreach] at hrun
  simp [receiveKey, Nat.not_lt.mpr hn, Nat.not_lt.mpr hgap, Nat.not_lt.mpr hroom, hrun, passed]

/-- The guarded part of `decrypt` decides what `decrypt` returns. -/
theorem decrypt_of_openPayload {payload plaintext : Bytes} {w : Slot} {s t : RatchetState}
    {g : PrivateKey} (haead : P.AeadLaws) (hcarries : Carries P payload w plaintext)
    (hopen : ∀ prevN ciphertext aad, headerAad w.dhPublic prevN w.n = .ok aad →
      xchachaDecrypt P w.key ciphertext aad = .ok plaintext →
      (openPayload P w.dhPublic prevN w.n ciphertext g).run s = .ok plaintext t) :
    (decrypt P g payload).run s = .ok plaintext t := by
  obtain ⟨prevN, nonce, aad, ciphertext, haad, hseal, rfl⟩ := hcarries.sealed
  have hparse := parses_append hcarries.length_dhPublic haad ciphertext
  have hrun := hopen prevN ciphertext aad haad (xchachaDecrypt_encrypt haead hseal)
  simp only [decrypt, EStateM.run_bind, if_neg hparse.length, hparse.magic, hparse.dhPublic,
    hparse.prevN, hparse.n, hparse.ciphertext, EStateM.run_get, run_tryCatch, hrun, ne_eq,
    not_true_eq_false, if_false]

/-- `decrypt` of a slot on the chain the receiver reads: the chain moves past it. -/
theorem decrypt_current {payload plaintext start : Bytes} {w : Slot} {s : RatchetState}
    (g : PrivateKey) (haead : P.AeadLaws) (hcarries : Carries P payload w plaintext)
    (hpeer : s.dhPeerPublic = none ∨ s.dhPeerPublic = some w.dhPublic)
    (hchain : s.recvChainKey = some (chainKey P start s.recvN))
    (hkey : w.key = messageKey P start w.n) (hn : s.recvN ≤ w.n)
    (hgap : w.n - s.recvN ≤ maxSkipGap)
    (hroom : s.skippedKeys.length + (w.n - s.recvN) ≤ maxSkippedKeys) :
    ∃ skipped, skipped.length ≤ s.skippedKeys.length + (w.n - s.recvN)
      ∧ (decrypt P g payload).run s = .ok plaintext { s with
          dhPeerPublic := some w.dhPublic
          skippedKeys := skipped
          recvChainKey := some (chainKey P start (w.n + 1))
          recvN := w.n + 1 } := by
  let turned : RatchetState := { s with dhPeerPublic := some w.dhPublic }
  have hturn : (turnTo P w.dhPublic g).run s = .ok () turned := by
    rcases hpeer with hpeer | hpeer
    · simp [turnTo, hpeer, turned]
    · have hsame : turned = s := by simp only [turned, ← hpeer]
      simp [turnTo, hpeer, hsame]
  have hkeyrun := receiveKey_ahead (P := P) (s := turned) w.dhPublic hchain hn hgap hroom
  have hlen := length_storeKeys_le (P := P) w.dhPublic start (w.n - s.recvN) s.recvN s.skippedKeys
  refine ⟨_, hlen, decrypt_of_openPayload haead hcarries ?_⟩
  intro prevN ciphertext aad haad hdec
  rw [hkey] at hdec
  have hchain' : turned.recvChainKey = some (chainKey P start turned.recvN) := hchain
  simp only [openPayload, EStateM.run_bind, hturn, EStateM.run_get, hchain', hkeyrun, haad, hdec,
    run_orRaise_ok]
  rfl

/-- `decrypt` of a slot on a new chain of the peer: a Diffie–Hellman step, then
the slot is on the chain the receiver reads. -/
theorem decrypt_next {payload plaintext peer shared shared' : Bytes} {w : Slot}
    {s : RatchetState} {priv : PrivateKey} (g : PrivateKey) (haead : P.AeadLaws)
    (hcarries : Carries P payload w plaintext)
    (hpeer : s.dhPeerPublic = some peer) (hne : peer ≠ w.dhPublic)
    (hpriv : s.dhSelfPrivate = priv.1)
    (hshared : x25519SharedSecret P priv w.dhPublic = .ok shared)
    (hshared' : x25519SharedSecret P g w.dhPublic = .ok shared')
    (hkey : w.key = messageKey P (kdfRk P s.rootKey shared).2 w.n) (hgap : w.n ≤ maxSkipGap) :
    ∃ skipped, skipped.length ≤ w.n
      ∧ (decrypt P g payload).run s = .ok plaintext { s with
          rootKey := (kdfRk P (kdfRk P s.rootKey shared).1 shared').1
          dhSelfPrivate := g.1
          dhSelfPublic := (P.x25519Public g).1
          dhPeerPublic := some w.dhPublic
          sendChainKey := some (kdfRk P (kdfRk P s.rootKey shared).1 shared').2
          recvChainKey := some (chainKey P (kdfRk P s.rootKey shared).2 (w.n + 1))
          sendN := 0
          recvN := w.n + 1
          prevSendN := s.sendN
          skippedKeys := skipped } := by
  let turned : RatchetState := { s with
    rootKey := (kdfRk P (kdfRk P s.rootKey shared).1 shared').1
    dhSelfPrivate := g.1
    dhSelfPublic := (P.x25519Public g).1
    dhPeerPublic := some w.dhPublic
    sendChainKey := some (kdfRk P (kdfRk P s.rootKey shared).1 shared').2
    recvChainKey := some (kdfRk P s.rootKey shared).2
    sendN := 0
    recvN := 0
    prevSendN := s.sendN
    skippedKeys := [] }
  have hturn : (turnTo P w.dhPublic g).run s = .ok () turned := by
    simp [turnTo, hpeer, hne, dhRatchet, hpriv, hshared, hshared', turned]
  have hstart : turned.recvChainKey
      = some (chainKey P (kdfRk P s.rootKey shared).2 turned.recvN) := rfl
  have hroom : turned.skippedKeys.length + (w.n - turned.recvN) ≤ maxSkippedKeys := by
    simp only [turned, maxSkipGap, maxSkippedKeys, List.length_nil] at *
    omega
  have hkeyrun := receiveKey_ahead (P := P) w.dhPublic hstart (Nat.zero_le w.n) hgap hroom
  have hlen := length_storeKeys_le (P := P) w.dhPublic (kdfRk P s.rootKey shared).2 w.n 0 []
  rw [List.length_nil, Nat.zero_add] at hlen
  refine ⟨_, hlen, decrypt_of_openPayload haead hcarries ?_⟩
  intro prevN ciphertext aad haad hdec
  rw [hkey] at hdec
  simp only [openPayload, EStateM.run_bind, hturn, EStateM.run_get, hstart, hkeyrun, haad, hdec,
    run_orRaise_ok]
  rfl

/-! ### Snapshots -/

/-- The state a snapshot of `s` restores when the skipped keys have become
`skippedKeys`; an empty key reads back as an absent one. -/
def rolledBack (s : RatchetState) (skippedKeys : List (String × String)) : RatchetState :=
  { s with
    dhPeerPublic := s.dhPeerPublic.bind orNone
    sendChainKey := s.sendChainKey.bind orNone
    recvChainKey := s.recvChainKey.bind orNone
    pendingPairingDhRatchetPeer := s.pendingPairingDhRatchetPeer.bind orNone
    skippedKeys }

@[simp] theorem decodeText_b64encode (b : Bytes) : decodeText (b64encode b) = .ok b := by
  rw [decodeText]
  split
  · rename_i hempty
    rw [b64encode] at hempty
    rw [Base64.encode_eq_empty.mp hempty]
  · exact b64decode_b64encode b

/-- The bytes an optional key reads back as. -/
theorem decodeText_encodeOptional (key : Option Bytes) :
    decodeText (encodeOptional key) = .ok (key.getD []) := by
  cases key with
  | none => rfl
  | some b => exact decodeText_b64encode b

theorem orNone_getD (key : Option Bytes) : orNone (key.getD []) = key.bind orNone := by
  cases key <;> rfl

/-- A snapshot always loads. -/
theorem fromDict_toDict (s : RatchetState) (skippedKeys : List (String × String)) :
    fromDict { s.toDict with skippedKeys } = .ok (s.rolledBack skippedKeys) := by
  have hversion : ¬ (2 : Int) ≠ 2 := by decide
  simp only [fromDict, toDict, decodeText_encodeOptional, decodeText_b64encode, if_neg hversion]
  simp only [bind, Except.bind, orNone_getD]
  rfl

/-- Restoring a snapshot never raises, and keeps the current skipped keys. -/
theorem restoreSnapshot_run (s s₀ : RatchetState) :
    (restoreSnapshot s₀.toDict).run s = .ok () (s₀.rolledBack s.skippedKeys) := by
  simp [restoreSnapshot, fromDict_toDict]

end RatchetState
end Yakr
