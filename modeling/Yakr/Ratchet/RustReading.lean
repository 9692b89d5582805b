import Yakr.Ratchet.Reading

/-!
# Yakr.Ratchet.RustReading

**The Rust ratchet computes what the Python one does.** `view` forgets the array
lengths of a Rust state. Where a header's key is a generated one, a `decrypt` that
returns in Rust returns the same plaintext in Python and leaves the state the view
of which Python leaves; one that fails leaves the state as it was. Hence a Rust
ratchet reads numbered chains like the Python one.
-/

namespace Yakr
namespace Rust
namespace RatchetState

open Lib Effect

variable {P : Packages}

/-- The Python state with the same fields. -/
def view (s : RatchetState) : Yakr.RatchetState :=
  { rootKey := s.rootKey.1
    dhSelfPrivate := s.dhSelfPrivate.1
    dhSelfPublic := s.dhSelfPublic.1
    dhPeerPublic := s.dhPeerPublic.map Subtype.val
    sendChainKey := s.sendChainKey.map Subtype.val
    recvChainKey := s.recvChainKey.map Subtype.val
    sendN := s.sendN
    recvN := s.recvN
    prevSendN := s.prevSendN
    skippedKeys := s.skippedKeys
    hybrid := s.hybrid
    pendingPairingDhRatchetPeer := s.pendingPairingDhRatchetPeer.map Subtype.val }

/-! ### Derivations -/

theorem kdfRk_eq (root d : BytesN 32) :
    Yakr.kdfRk P root.1 d.1 = ((kdfRk P root d).1.1, (kdfRk P root d).2.1) := rfl

theorem kdfCk_eq (ck : BytesN 32) :
    Yakr.kdfCk P ck.1 = ((kdfCk P ck).1.1, (kdfCk P ck).2.1) := rfl

/-- An exchange that yields a key is the same in both. -/
theorem sharedSecret_eq {k : PrivateKey} {q : BytesN 32} (h : (P.x25519Exchange k q).isSome) :
    x25519SharedSecret P k q.1 = .ok (sharedSecret P k q).1 := by
  obtain ⟨d, hd⟩ := Option.isSome_iff_exists.mp h
  rw [x25519SharedSecret, dif_pos q.2, sharedSecret, hd]

/-- A ciphertext opens in both or in neither. -/
theorem xchachaDecrypt_eq {key : BytesN 32} {payload aad m : Bytes} :
    xchachaDecrypt P key payload aad = .ok m ↔ Yakr.xchachaDecrypt P key.1 payload aad = .ok m := by
  rw [xchachaDecrypt, Yakr.xchachaDecrypt]
  by_cases hlen : payload.length < 24
  · rw [dif_pos hlen, dif_pos hlen]
    constructor <;> (intro h; cases h)
  · rw [dif_neg hlen, dif_neg hlen, dif_pos key.2]
    cases P.aeadDecrypt key ⟨payload.take 24, by simp; omega⟩ aad (payload.drop 24) with
    | some plaintext => simp only [Except.ok.injEq]
    | none => constructor <;> (intro h; cases h)

theorem headerAad_eq (q : BytesN 32) {prevN n : Nat} (hp : prevN < 2 ^ 32) (hn : n < 2 ^ 32) :
    Yakr.RatchetState.headerAad q.1 prevN n = .ok (headerAad q prevN n) := by
  rw [Yakr.RatchetState.headerAad_ok hp hn, Yakr.RatchetState.header, headerAad]
  simp only [List.append_assoc]

/-! ### `decrypt` -/

/-- A Diffie–Hellman step. -/
theorem dhRatchet_eq (s : RatchetState) (q : BytesN 32) (g : PrivateKey)
    (hex : ∀ k, (P.x25519Exchange k q).isSome) :
    (Yakr.RatchetState.dhRatchet P q.1 g).run s.view = .ok () (dhRatchet P q g s).view := by
  have hself := sharedSecret_eq (hex s.dhSelfPrivate)
  have hnew := sharedSecret_eq (hex g)
  simp only [Yakr.RatchetState.dhRatchet, view, EStateM.run_bind, EStateM.run_modify,
    EStateM.run_get, loadPrivate_val, run_orRaise_ok, hself, hnew, kdfRk_eq]
  rfl

/-- The turn to the header's key. -/
theorem turnTo_eq (s : RatchetState) (q : BytesN 32) (g : PrivateKey)
    (hex : ∀ k, (P.x25519Exchange k q).isSome) :
    (Yakr.RatchetState.turnTo P q.1 g).run s.view = .ok () (turnTo P q g s).view := by
  cases hpeer : s.dhPeerPublic with
  | none =>
      have hview : s.view.dhPeerPublic = none := by rw [view, hpeer]; rfl
      simp only [Yakr.RatchetState.turnTo, EStateM.run_bind, EStateM.run_get, hview,
        EStateM.run_modify, turnTo, hpeer]
      rfl
  | some known =>
      have hview : s.view.dhPeerPublic = some known.1 := by rw [view, hpeer]; rfl
      simp only [Yakr.RatchetState.turnTo, EStateM.run_bind, EStateM.run_get, hview, turnTo, hpeer]
      by_cases hsame : known = q
      · subst hsame
        simp
      · have hne : known.1 ≠ q.1 := fun h => hsame (Subtype.ext h)
        rw [if_pos hne, if_pos hsame]
        exact dhRatchet_eq s q g hex

/-- The skip loop; Python also keeps the receive chain of the state up to date. -/
theorem skipPositions_eq (q : BytesN 32) (count : Nat) :
    ∀ (s : RatchetState) (c : BytesN 32) (x : Option Bytes), ∃ c' s' y,
      (skipPositions P q count c).run s = .ok c' s'
        ∧ (Yakr.RatchetState.skipPositions P q.1 count c.1).run { s.view with recvChainKey := x }
          = .ok c'.1 { s'.view with recvChainKey := y } := by
  induction count with
  | zero => exact fun s c x => ⟨c, s, x, rfl, rfl⟩
  | succ count ih =>
      intro s c x
      obtain ⟨c', s', y, hrust, hpython⟩ :=
        ih { storeSkip q s.recvN (kdfCk P c).1 s with recvN := s.recvN + 1 } (kdfCk P c).2
          (some (kdfCk P c).2.1)
      refine ⟨c', s', y, ?_, ?_⟩
      · simp only [skipPositions, EStateM.run_bind, EStateM.run_modify]
        exact hrust
      · simp only [Yakr.RatchetState.skipPositions, EStateM.run_bind, EStateM.run_modify, kdfCk_eq]
        exact hpython

/-- The message key of a position. -/
theorem receiveKey_eq {s t : RatchetState} {q c k c' : BytesN 32} {n : Nat}
    (hchain : s.recvChainKey = some c) (hrun : (receiveKey P q n c).run s = .ok (k, c') t) :
    (Yakr.RatchetState.receiveKey P q.1 n c.1).run s.view
      = .ok k.1 { t.view with recvChainKey := some c'.1 } := by
  by_cases hn : n < s.recvN
  · have hview : n < s.view.recvN := hn
    simp only [receiveKey, EStateM.run_bind, EStateM.run_get, if_pos hn, skipKey] at hrun
    simp only [Yakr.RatchetState.receiveKey, EStateM.run_bind, EStateM.run_get, if_pos hview,
      Yakr.RatchetState.skipKey]
    cases hfound : Table.find Prod.fst (Yakr.RatchetState.skipKeyId q.1 n) s.skippedKeys with
    | none =>
        rw [hfound] at hrun
        cases hrun
    | some entry =>
        have hfound' : Table.find Prod.fst (Yakr.RatchetState.skipKeyId q.1 n) s.view.skippedKeys
            = some entry := hfound
        simp only [hfound] at hrun
        simp only [hfound']
        cases hdecode : b64decode entry.2 with
        | error e =>
            simp only [hdecode] at hrun
            cases hrun
        | ok bytes =>
            simp only [hdecode] at hrun
            split at hrun
            · rename_i key hlen
              split at hlen
              · cases hlen
                cases hrun
                have hself : { s.view with recvChainKey := some c.1 } = s.view := by
                  simp only [view, hchain, Option.map_some]
                rw [hself]
                rfl
              · cases hlen
            · cases hrun
  · have hle : ¬ n < s.view.recvN := hn
    by_cases hgap : n - s.recvN > maxSkipGap
    · simp [receiveKey, hn, hgap] at hrun
    · by_cases hroom : s.skippedKeys.length + (n - s.recvN) > maxSkippedKeys
      · simp [receiveKey, hn, hgap, hroom] at hrun
      · obtain ⟨c'', s', y, hrust, hpython⟩ :=
          skipPositions_eq (P := P) q (n - s.recvN) s c (some c.1)
        have hself : { s.view with recvChainKey := some c.1 } = s.view := by
          simp only [view, hchain, Option.map_some]
        rw [hself] at hpython
        have hgap' : ¬ n - s.view.recvN > maxSkipGap := hgap
        have hroom' : ¬ s.view.skippedKeys.length + (n - s.view.recvN) > maxSkippedKeys := hroom
        have hpython' : (Yakr.RatchetState.skipPositions P q.1 (n - s.view.recvN) c.1).run s.view
            = .ok c''.1 { s'.view with recvChainKey := y } := hpython
        simp only [receiveKey, EStateM.run_bind, EStateM.run_get, if_neg hn, if_neg hgap,
          if_neg hroom, EStateM.run_pure, hrust] at hrun
        simp only [Yakr.RatchetState.receiveKey, EStateM.run_bind, EStateM.run_get, if_neg hle,
          if_neg hgap', if_neg hroom', EStateM.run_pure, hpython', EStateM.run_modify, kdfCk_eq]
        cases hadd : addU32 n 1 with
        | error e =>
            simp only [hadd] at hrun
            cases hrun
        | ok m =>
            have hm : m = n + 1 := by
              rw [addU32] at hadd
              split at hadd
              · exact (Except.ok.inj hadd).symm
              · cases hadd
            simp only [hadd, run_orRaise_ok, EStateM.run_modify] at hrun
            cases hrun
            rw [hm]
            rfl

/-- `decrypt_inner` once the header is parsed. -/
theorem openPayload_eq {s t : RatchetState} {q : BytesN 32} {prevN n : Nat}
    {ciphertext m : Bytes} {g : PrivateKey} (hex : ∀ k, (P.x25519Exchange k q).isSome)
    (hp : prevN < 2 ^ 32) (hn : n < 2 ^ 32)
    (hrun : (openPayload P q prevN n ciphertext g).run s = .ok m t) :
    (Yakr.RatchetState.openPayload P q.1 prevN n ciphertext g).run s.view = .ok m t.view := by
  have hturn := turnTo_eq (P := P) s q g hex
  simp only [openPayload, EStateM.run_bind, EStateM.run_get, EStateM.run_modify] at hrun
  simp only [Yakr.RatchetState.openPayload, EStateM.run_bind, hturn, EStateM.run_get]
  cases hchain : (turnTo P q g s).recvChainKey with
  | none =>
      simp only [hchain] at hrun
      cases hrun
  | some c =>
      have hview : (turnTo P q g s).view.recvChainKey = some c.1 := by rw [view, hchain]; rfl
      simp only [hchain, EStateM.run_bind] at hrun
      cases hkey : (receiveKey P q n c).run (turnTo P q g s) with
      | error e s₂ =>
          simp only [hkey] at hrun
          cases hrun
      | ok kc s₂ =>
          have hkey' := receiveKey_eq hchain hkey
          simp only [hkey, EStateM.run_modify] at hrun
          obtain ⟨hopen, rfl⟩ := run_orRaise_eq_ok.mp hrun
          simp only [hview, EStateM.run_bind, hkey', headerAad_eq q hp hn, run_orRaise_ok,
            xchachaDecrypt_eq.mp hopen]
          rfl

/-- A header field of four bytes is a `u32`. -/
theorem toNatBE_take_four_lt (b : Bytes) : Bytes.toNatBE (b.take 4) < 2 ^ 32 := by
  have hlt := Bytes.toNatBE_lt (b.take 4)
  have hle : (256 : Nat) ^ (b.take 4).length ≤ 256 ^ 4 :=
    Nat.pow_le_pow_right (by decide) (List.length_take_le 4 b)
  omega

/-- A Rust `decrypt` that returns does the same in Python, where the exchanges with the
header's key yield keys. -/
theorem decrypt_eq_of_exchange {s t : RatchetState} {payload m : Bytes} {g : PrivateKey}
    (hex : ∀ q : BytesN 32, q.1 = Yakr.RatchetState.headerPublic payload →
      ∀ k, (P.x25519Exchange k q).isSome)
    (hrun : (decrypt P g payload).run s = .ok m t) :
    (Yakr.RatchetState.decrypt P g payload).run s.view = .ok m t.view := by
  simp only [decrypt, EStateM.run_bind, EStateM.run_get, run_tryCatch] at hrun
  cases hinner : (decryptInner P g payload).run s with
  | error e t' =>
      simp only [hinner, EStateM.run_set] at hrun
      cases hrun
  | ok m' t' =>
      simp only [hinner] at hrun
      cases hrun
      rw [decryptInner] at hinner
      split at hinner
      · cases hinner
      · rename_i hlen
        by_cases hmagic : payload.take 5 = ratchetMagic
        · simp only [hmagic, ne_eq, not_true_eq_false, if_false] at hinner
          have hopen := openPayload_eq (hex _ rfl) (toNatBE_take_four_lt _)
            (toNatBE_take_four_lt _) hinner
          have hlen' : ¬ payload.length < ratchetMagic.length + 32 + 8 := by
            rw [length_ratchetMagic]
            exact hlen
          simp only [Yakr.RatchetState.decrypt, EStateM.run_bind, if_neg hlen', hmagic, ne_eq,
            not_true_eq_false, if_false, EStateM.run_get, run_tryCatch,
            Yakr.RatchetState.headerPublic, hopen]
        · simp only [ne_eq, hmagic, not_false_eq_true, if_true, EStateM.run_bind,
            run_raise] at hinner
          cases hinner

/-- The exchanges with a generated key yield keys. -/
theorem exchange_of_generated (hdh : P.DhLaws) {data : Bytes} (hq : Generated P data)
    (q : BytesN 32) (hval : q.1 = data) (k : PrivateKey) : (P.x25519Exchange k q).isSome := by
  obtain ⟨c, hc⟩ := hq
  have hpub : q = P.x25519Public c := Subtype.ext (hval.trans hc)
  rw [hpub]
  exact hdh.isSome k c

/-- **A Rust `decrypt` that returns** returns the same in Python. -/
theorem decrypt_eq {s t : RatchetState} {payload m : Bytes} {g : PrivateKey} (hdh : P.DhLaws)
    (hq : Generated P (Yakr.RatchetState.headerPublic payload))
    (hrun : (decrypt P g payload).run s = .ok m t) :
    (Yakr.RatchetState.decrypt P g payload).run s.view = .ok m t.view :=
  decrypt_eq_of_exchange (exchange_of_generated hdh hq) hrun

/-- A Rust `decrypt` that fails restores the state. -/
theorem decrypt_error {s t : RatchetState} {payload : Bytes} {g : PrivateKey} {e : String}
    (hrun : (decrypt P g payload).run s = .error e t) : t = s := by
  simp only [decrypt, EStateM.run_bind, EStateM.run_get, run_tryCatch] at hrun
  cases hinner : (decryptInner P g payload).run s with
  | ok m t' =>
      simp only [hinner] at hrun
      cases hrun
  | error e' t' =>
      simp only [hinner, EStateM.run_set, run_raise] at hrun
      cases hrun
      rfl

/-- A payload whose message key is stored opens, as often as it is delivered. -/
theorem decrypt_stored {s : RatchetState} {payload m : Bytes} {k : BytesN 32}
    (hw : Yakr.RatchetState.WellFormed payload)
    (hpeer : s.view.dhPeerPublic = none
      ∨ s.view.dhPeerPublic = some (Yakr.RatchetState.headerPublic payload))
    (hchain : s.view.recvChainKey ≠ none)
    (hn : Yakr.RatchetState.messageNumber payload < s.recvN)
    (hstored : Yakr.RatchetState.storedKey s.skippedKeys (Yakr.RatchetState.headerPublic payload)
        (Yakr.RatchetState.messageNumber payload)
      = some (Yakr.RatchetState.skipKeyId (Yakr.RatchetState.headerPublic payload)
        (Yakr.RatchetState.messageNumber payload), b64encode k.1))
    (hopen : Yakr.RatchetState.Opens P payload k.1 m) (g : PrivateKey) :
    ∃ t, (decrypt P g payload).run s = .ok m t := by
  obtain ⟨aad, haad, hplain⟩ := hopen
  have hlen : ¬ payload.length < 5 + 32 + 8 := hw.1
  have hlen32 : ((payload.drop 5).take 32).length = 32 := by simp; omega
  let turned : RatchetState := { s with dhPeerPublic := some ⟨(payload.drop 5).take 32, hlen32⟩ }
  have hturn : turnTo P ⟨(payload.drop 5).take 32, hlen32⟩ g s = turned := by
    rcases hpeer with hpeer | hpeer
    · have hnone : s.dhPeerPublic = none := Option.map_eq_none_iff.mp hpeer
      simp [turnTo, hnone, turned]
    · obtain ⟨q, hq, hval⟩ := Option.map_eq_some_iff.mp hpeer
      have hsome : s.dhPeerPublic = some ⟨(payload.drop 5).take 32, hlen32⟩ := by
        rw [hq]
        exact congrArg some (Subtype.ext hval)
      have hself : turned = s := by simp only [turned, ← hsome]
      rw [hself]
      simp [turnTo, hsome]
  obtain ⟨c, hc⟩ : ∃ c, s.recvChainKey = some c := by
    cases hnone : s.recvChainKey with
    | none => exact absurd (by rw [view, hnone]; rfl) hchain
    | some c => exact ⟨c, rfl⟩
  have haad' := headerAad_eq ⟨(payload.drop 5).take 32, hlen32⟩
    (toNatBE_take_four_lt (payload.drop 37)) (toNatBE_take_four_lt (payload.drop 41))
  obtain rfl := Except.ok.inj (haad'.symm.trans haad)
  have hfound : skipKey s ⟨(payload.drop 5).take 32, hlen32⟩
      (Bytes.toNatBE ((payload.drop 41).take 4)) = some k := by
    have hfind : Table.find Prod.fst (Yakr.RatchetState.skipKeyId ((payload.drop 5).take 32)
        (Bytes.toNatBE ((payload.drop 41).take 4))) s.skippedKeys = some (_, b64encode k.1) :=
      hstored
    simp only [skipKey, hfind, b64decode_b64encode, k.2, dif_pos]
  have hn' : Bytes.toNatBE ((payload.drop 41).take 4) < s.recvN := hn
  have hself : { turned with recvChainKey := some c } = turned := by simp only [turned, ← hc]
  have hinner : (decryptInner P g payload).run s = .ok m turned := by
    have hc' : turned.recvChainKey = some c := hc
    have hnow : Bytes.toNatBE ((payload.drop 41).take 4) < turned.recvN := hn'
    have hfound' : skipKey turned ⟨(payload.drop 5).take 32, hlen32⟩
      (Bytes.toNatBE ((payload.drop 41).take 4)) = some k := hfound
    simp only [decryptInner, dif_neg hlen, hw.2, ne_eq, not_true_eq_false, if_false, openPayload,
      EStateM.run_bind, EStateM.run_modify, EStateM.run_get, hturn, hc', receiveKey, if_pos hnow,
      hfound', EStateM.run_pure, xchachaDecrypt_eq.mpr hplain, run_orRaise_ok, hself]
  refine ⟨turned, ?_⟩
  simp only [decrypt, EStateM.run_bind, EStateM.run_get, run_tryCatch, hinner]

/-! ### `encrypt` -/

theorem headerPublic_append (q : BytesN 32) (prevN n : Nat) (ciphertext : Bytes) :
    Yakr.RatchetState.headerPublic (headerAad q prevN n ++ ciphertext) = q.1 := by
  have hdrop : (headerAad q prevN n ++ ciphertext).drop 5
      = q.1 ++ (Bytes.ofNatBE 4 prevN ++ (Bytes.ofNatBE 4 n ++ ciphertext)) := by
    simp only [headerAad, List.append_assoc]
    exact Bytes.drop_append_of_length length_ratchetMagic
  rw [Yakr.RatchetState.headerPublic, hdrop, Bytes.take_append_of_length q.2]

/-- The state `encrypt` seals in: the pairing key is taken. -/
def taken (P : Packages) (g : PrivateKey) (s : RatchetState) : RatchetState :=
  match s.pendingPairingDhRatchetPeer with
  | some peer => pairingSendInit P peer g { s with pendingPairingDhRatchetPeer := none }
  | none => s

/-- `encrypt` once the pairing key is taken. -/
def sealNext (P : Packages) (nonce : Nonce) (plaintext : Bytes) : RatchetM Bytes := do
  match (← get).sendChainKey with
  | none => throw "send chain not initialized"
  | some sendChain =>
      modify fun s => { s with sendChainKey := some (kdfCk P sendChain).2 }
      let s ← get
      let aad := headerAad s.dhSelfPublic s.prevSendN s.sendN
      let ciphertext := xchachaEncrypt P nonce (kdfCk P sendChain).1 plaintext aad
      let sendN ← orRaise (addU32 s.sendN 1)
      modify fun s => { s with sendN := sendN }
      return aad ++ ciphertext

theorem encrypt_run (s : RatchetState) (g : PrivateKey) (nonce : Nonce) (plaintext : Bytes) :
    (encrypt P g nonce plaintext).run s = (sealNext P nonce plaintext).run (taken P g s) := by
  simp only [encrypt, EStateM.run_bind, EStateM.run_get, taken]
  cases s.pendingPairingDhRatchetPeer with
  | none => rfl
  | some peer => rfl

/-- After the pairing key was taken, `encrypt` moves only the send chain, and its
payloads carry the own public key. -/
theorem encrypt_after (s : RatchetState) (g : PrivateKey) (nonce : Nonce) (plaintext : Bytes) :
    (∃ sendChainKey sendN, after ((encrypt P g nonce plaintext).run s)
        = { taken P g s with sendChainKey, sendN })
      ∧ ∀ payload, outcome ((encrypt P g nonce plaintext).run s) = .ok payload →
          Yakr.RatchetState.headerPublic payload = (taken P g s).dhSelfPublic.1 := by
  rw [encrypt_run]
  generalize taken P g s = s₁
  cases hchain : s₁.sendChainKey with
  | none =>
      simp only [sealNext, EStateM.run_bind, EStateM.run_get, hchain, run_raise]
      exact ⟨⟨s₁.sendChainKey, s₁.sendN, rfl⟩, fun payload hp => by cases hp⟩
  | some ck =>
      simp only [sealNext, EStateM.run_bind, EStateM.run_get, hchain, EStateM.run_modify]
      cases hadd : addU32 s₁.sendN 1 with
      | error e =>
          simp only [run_orRaise_error]
          exact ⟨⟨_, s₁.sendN, rfl⟩, fun payload hp => by cases hp⟩
      | ok sendN =>
          simp only [run_orRaise_ok, EStateM.run_pure]
          refine ⟨⟨_, sendN, rfl⟩, fun payload hp => ?_⟩
          obtain rfl := Except.ok.inj hp
          exact headerPublic_append _ _ _ _

/-- **`encrypt` disturbs**, as it does in Python. -/
theorem encrypt_disturbs {s : RatchetState} {r : Receiver Bytes Bytes (BytesN 32) Bytes}
    (h : Yakr.RatchetState.Represents P s.view r) (g : PrivateKey) (nonce : Nonce)
    (plaintext : Bytes) :
    ∃ r', Receiver.Disturbs (scheme P) r (P.x25519Public g).1 r'
      ∧ Yakr.RatchetState.Represents P (after ((encrypt P g nonce plaintext).run s)).view r'
      ∧ (after ((encrypt P g nonce plaintext).run s)).view.pendingPairingDhRatchetPeer = none
      ∧ r'.peer = r.peer ∧ Generated P r'.own
      ∧ (s.view.pendingPairingDhRatchetPeer = none → r'.own = r.own)
      ∧ ∀ payload, outcome ((encrypt P g nonce plaintext).run s) = .ok payload →
          Yakr.RatchetState.headerPublic payload = r'.own := by
  obtain ⟨k, hk⟩ := h.key
  obtain ⟨⟨sendChainKey, sendN, hafter⟩, hheader⟩ := encrypt_after (P := P) s g nonce plaintext
  rw [hafter]
  cases hpending : s.pendingPairingDhRatchetPeer with
  | none =>
      have htaken : taken P g s = s := by rw [taken, hpending]
      have hview : s.view.pendingPairingDhRatchetPeer = none := by rw [view, hpending]; rfl
      rw [htaken] at hheader ⊢
      exact ⟨_, .failed fun i k hi => Or.inl hi,
        ⟨⟨k, hk⟩, h.own, h.generated, h.peer, h.pending, h.chain, h.next, h.stored⟩, hview, rfl,
        ⟨k, h.own.trans hk.2⟩, fun _ => rfl, fun payload hp => (hheader payload hp).trans h.own.symm⟩
  | some peer =>
      have hview : s.view.pendingPairingDhRatchetPeer = some peer.1 := by rw [view, hpending]; rfl
      have htaken : taken P g s
          = pairingSendInit P peer g { s with pendingPairingDhRatchetPeer := none } := by
        rw [taken, hpending]
      have hpeer := h.pending peer.1 hview
      rw [htaken] at hheader ⊢
      refine ⟨_, .rekeyed, ⟨⟨g, rfl, rfl⟩, rfl, h.generated, Or.inl ?_, ?_, h.chain, h.next,
        h.stored⟩, rfl, rfl, ⟨g, rfl⟩, ?_, fun payload hp => hheader payload hp⟩
      · exact congrArg some hpeer
      · intro p hp
        cases hp
      · intro hnone
        rw [hview] at hnone
        cases hnone

end RatchetState
end Rust
end Yakr
