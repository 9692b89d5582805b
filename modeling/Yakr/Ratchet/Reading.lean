import Yakr.Core.RustRatchet
import Yakr.Lib.Receiver
import Yakr.Ratchet.Agreement

/-!
# Yakr.Ratchet.Reading

**A ratchet reads numbered chains.** `decrypt`, in Python and in Rust, refines the
receiver of `Yakr.Lib.Receiver`: a success reads a position with its message key,
a failure disturbs the receiver (in Python the restored snapshot keeps what the
attempt did to the stored keys), and nothing else of the state decides what later
calls can read.
-/

namespace Yakr

open Lib Effect

variable {P : Packages}

/-! ### The chains as a scheme -/

/-- `q` is the public key of a generated key pair. -/
def Generated (P : Packages) (q : Bytes) : Prop := ∃ k, q = (P.x25519Public k).1

theorem Generated.length {q : Bytes} (h : Generated P q) : q.length = 32 := by
  obtain ⟨k, rfl⟩ := h
  exact (P.x25519Public k).2

/-- The chains of the ratchet: a chain is derived from an own key pair and a peer key by
the second half of `_kdf_rk`, under some root key. -/
def scheme (P : Packages) : Receiver.Scheme Bytes Bytes (BytesN 32) Bytes where
  key start n := messageKey P start.1 n
  Derived own q start := ∃ k root d, own = (P.x25519Public k).1
    ∧ x25519SharedSecret P k q = .ok d ∧ start.1 = (kdfRk P root d).2

theorem length_chainKey {start : Bytes} (h : start.length = 32) (n : Nat) :
    (chainKey P start n).length = 32 := by
  cases n with
  | zero => exact h
  | succ n =>
      rw [← kdfCk_chainKey_snd, kdfCk]
      simp

theorem chainKey_inj (hcf : P.CollisionFree) {a b : Bytes} (ha : a.length = 32)
    (hb : b.length = 32) : ∀ {n : Nat}, chainKey P a n = chainKey P b n → a = b := by
  intro n
  induction n with
  | zero => exact id
  | succ n ih =>
      intro h
      rw [← kdfCk_chainKey_snd, ← kdfCk_chainKey_snd] at h
      exact ih (hcf.nextKey (length_chainKey ha n) (length_chainKey hb n) h)

/-- No two chains of the ratchet meet. -/
theorem Packages.CollisionFree.disjoint (hcf : P.CollisionFree) :
    (scheme P).Disjoint (Generated P) where
  key {a b n} h := by
    have hchain := hcf.messageKey (length_chainKey a.2 n) (length_chainKey b.2 n) h
    exact Subtype.ext (chainKey_inj hcf a.2 b.2 hchain)
  own {a b q s} hq ha hb := by
    obtain ⟨c, rfl⟩ := hq
    obtain ⟨k, root, d, rfl, hk, hs⟩ := ha
    obtain ⟨k', root', d', rfl, hk', hs'⟩ := hb
    obtain rfl := hcf.chain hk hk' (hs.symm.trans hs')
    rw [hcf.exchange hk hk']

/-! ### Stored keys -/

namespace RatchetState

/-- A skipped position has one dictionary key. -/
theorem skipKeyId_inj {p q : Bytes} {i j : Nat} (hlen : p.length = q.length)
    (h : skipKeyId p i = skipKeyId q j) : p = q ∧ i = j := by
  have hchars : (p.flatMap Bytes.hexByte ++ [':']) ++ i.repr.toList
      = (q.flatMap Bytes.hexByte ++ [':']) ++ j.repr.toList := by
    have hlist := congrArg String.toList h
    simp only [skipKeyId, Bytes.hex, String.toList_append, String.toList_ofList] at hlist
    exact hlist
  obtain ⟨hpub, hnum⟩ := List.append_inj hchars (by
    simp only [List.length_append, Bytes.length_flatMap_hexByte, hlen])
  refine ⟨Bytes.flatMap_hexByte_inj (List.append_cancel_right hpub), ?_⟩
  rw [Nat.toList_repr, Nat.toList_repr] at hnum
  have hvalue := congrArg (fun digits => Nat.ofDigitChars 10 digits 0) hnum
  simpa only [Nat.ofDigitChars_ten_toDigits] using hvalue

/-- The stored key of position `n` under a header key. -/
def storedKey (skipped : List (String × String)) (dhPublic : Bytes) (n : Nat) :
    Option (String × String) :=
  Table.find Prod.fst (skipKeyId dhPublic n) skipped

/-- The skip loop stores the keys of its range and leaves the other positions alone. -/
theorem storedKey_storeKeys (q start : Bytes) (count : Nat) :
    ∀ {lo : Nat} {skipped : List (String × String)} {i : Nat},
      storedKey (storeKeys P q start lo count skipped) q i =
        if lo ≤ i ∧ i < lo + count then
          some (skipKeyId q i, b64encode (messageKey P start i))
        else storedKey skipped q i := by
  induction count with
  | zero =>
      intro lo skipped i
      rw [storeKeys, if_neg (by omega)]
  | succ count ih =>
      intro lo skipped i
      rw [storeKeys, ih]
      by_cases hi : i = lo
      · subst hi
        rw [if_neg (by omega), if_pos (by omega)]
        exact Table.find_put_self
          (r := (skipKeyId q i, b64encode (messageKey P start i)))
      · have hne : skipKeyId q lo ≠ skipKeyId q i := fun h => hi (skipKeyId_inj rfl h).2.symm
        have hsame : storedKey (Table.put Prod.fst
            (skipKeyId q lo, b64encode (messageKey P start lo)) skipped) q i
            = storedKey skipped q i := Table.find_put_of_ne hne
        rw [hsame]
        by_cases hrange : lo + 1 ≤ i ∧ i < lo + 1 + count
        · rw [if_pos hrange, if_pos (by omega)]
        · rw [if_neg hrange, if_neg (by omega)]

/-- The keys of one peer leave those of another alone. -/
theorem storedKey_storeKeys_of_ne {p q : Bytes} (hlen : q.length = p.length) (hne : q ≠ p)
    (start : Bytes) (count : Nat) :
    ∀ {lo : Nat} {skipped : List (String × String)} {i : Nat},
      storedKey (storeKeys P q start lo count skipped) p i = storedKey skipped p i := by
  induction count with
  | zero => exact fun {lo skipped i} => rfl
  | succ count ih =>
      intro lo skipped i
      rw [storeKeys, ih]
      exact Table.find_put_of_ne fun h => hne (skipKeyId_inj hlen h).1

/-! ### `decrypt` of any payload -/

/-- The message number of a payload's header. -/
def messageNumber (payload : Bytes) : Nat := Bytes.toNatBE ((payload.drop 41).take 4)

/-- What `receive_key` returns: a stored key, or the key of a position ahead. -/
theorem receiveKey_ok {s t : RatchetState} {start q k : Bytes} {n : Nat}
    (hchain : s.recvChainKey = some (chainKey P start s.recvN))
    (hrun : (receiveKey P q n (chainKey P start s.recvN)).run s = .ok k t) :
    n < s.recvN ∧ t = s
        ∧ (∃ entry, storedKey s.skippedKeys q n = some entry ∧ b64decode entry.2 = .ok k)
      ∨ s.recvN ≤ n ∧ k = messageKey P start n ∧ t = s.passed P q start n := by
  by_cases hn : n < s.recvN
  · left
    simp only [receiveKey, EStateM.run_bind, EStateM.run_get, if_pos hn, skipKey] at hrun
    cases hfound : Table.find Prod.fst (skipKeyId q n) s.skippedKeys with
    | none =>
        rw [hfound] at hrun
        cases hrun
    | some entry =>
        simp only [hfound] at hrun
        cases hdecode : b64decode entry.2 with
        | ok key =>
            simp only [hdecode] at hrun
            cases hrun
            exact ⟨hn, rfl, entry, hfound, hdecode⟩
        | error e =>
            simp only [hdecode] at hrun
            cases e <;> cases hrun
  · right
    have hle : s.recvN ≤ n := Nat.le_of_not_lt hn
    by_cases hgap : n - s.recvN > maxSkipGap
    · simp [receiveKey, hn, hgap] at hrun
    · by_cases hroom : s.skippedKeys.length + (n - s.recvN) > maxSkippedKeys
      · simp [receiveKey, hn, hgap, hroom] at hrun
      · rw [receiveKey_ahead q hchain hle (Nat.le_of_not_lt hgap) (Nat.le_of_not_lt hroom)] at hrun
        cases hrun
        exact ⟨hle, rfl, rfl⟩

/-- Where no key can be had, the state is left alone. -/
theorem receiveKey_error {s t : RatchetState} {start q : Bytes} {n : Nat} {e : PyExc}
    (hchain : s.recvChainKey = some (chainKey P start s.recvN))
    (hrun : (receiveKey P q n (chainKey P start s.recvN)).run s = .error e t) : t = s := by
  by_cases hn : n < s.recvN
  · simp only [receiveKey, EStateM.run_bind, EStateM.run_get, if_pos hn] at hrun
    cases hfound : skipKey s q n with
    | ok key =>
        rw [hfound] at hrun
        cases hrun
    | error e =>
        rw [hfound] at hrun
        cases e <;> (cases hrun; rfl)
  · have hle : s.recvN ≤ n := Nat.le_of_not_lt hn
    by_cases hgap : n - s.recvN > maxSkipGap
    · simp [receiveKey, hn, hgap] at hrun
      exact hrun.2.symm
    · by_cases hroom : s.skippedKeys.length + (n - s.recvN) > maxSkippedKeys
      · simp [receiveKey, hn, hgap, hroom] at hrun
        exact hrun.2.symm
      · rw [receiveKey_ahead q hchain hle (Nat.le_of_not_lt hgap) (Nat.le_of_not_lt hroom)] at hrun
        cases hrun

/-- `plaintext` is what the ciphertext of `payload` holds under the message key `k`. -/
def Opens (P : Packages) (payload k plaintext : Bytes) : Prop :=
  ∃ aad, headerAad (headerPublic payload) (Bytes.toNatBE ((payload.drop 37).take 4))
      (messageNumber payload) = .ok aad
    ∧ xchachaDecrypt P k (payload.drop 45) aad = .ok plaintext

/-- A payload opens under one message key. -/
theorem Opens.key_unique (hcf : P.CollisionFree) {payload k k' m m' : Bytes}
    (h : Opens P payload k m) (h' : Opens P payload k' m') : k = k' := by
  obtain ⟨aad, haad, hopen⟩ := h
  obtain ⟨aad', haad', hopen'⟩ := h'
  obtain rfl := Except.ok.inj (haad.symm.trans haad')
  exact hcf.oneKey hopen hopen'

/-- The guarded part of `decrypt` on the header and ciphertext of `payload`. -/
def openParsed (P : Packages) (g : PrivateKey) (payload : Bytes) : RatchetM Bytes :=
  openPayload P (headerPublic payload) (Bytes.toNatBE ((payload.drop 37).take 4))
    (messageNumber payload) (payload.drop 45) g

/-- The checks of `decrypt` before it reads the header. -/
def WellFormed (payload : Bytes) : Prop :=
  ¬ payload.length < ratchetMagic.length + 32 + 8 ∧ payload.take 5 = ratchetMagic

/-- `decrypt` of a well-formed payload is its guarded part, with the snapshot restored on
failure. -/
theorem decrypt_run {payload : Bytes} (hw : WellFormed payload) (g : PrivateKey)
    (s : RatchetState) :
    (decrypt P g payload).run s =
      match (openParsed P g payload).run s with
      | .ok plaintext t => .ok plaintext t
      | .error e t => .error e (s.rolledBack t.skippedKeys) := by
  simp only [decrypt, EStateM.run_bind, if_neg hw.1, hw.2, ne_eq, not_true_eq_false, if_false,
    EStateM.run_get, run_tryCatch, openParsed, messageNumber]
  split <;> rename_i hopen <;> simp only [hopen]
  simp only [restoreSnapshot_run, run_raise]

/-- `decrypt` refuses every other payload, and leaves the state alone. -/
theorem decrypt_malformed {payload : Bytes} (hw : ¬ WellFormed payload) (g : PrivateKey)
    (s : RatchetState) : ∃ e, (decrypt P g payload).run s = .error e s := by
  by_cases hshort : payload.length < ratchetMagic.length + 32 + 8
  · refine ⟨.valueError "ratchet payload too short", ?_⟩
    simp only [decrypt, EStateM.run_bind, if_pos hshort, run_raise]
  · have hmagic : ¬ payload.take 5 = ratchetMagic := fun h => hw ⟨hshort, h⟩
    refine ⟨.valueError "invalid ratchet header", ?_⟩
    simp only [decrypt, EStateM.run_bind, if_neg hshort, ne_eq, hmagic, not_false_eq_true,
      if_true, run_raise]

/-- A `decrypt` that returns was of a well-formed payload, and so did its guarded part. -/
theorem decrypt_eq_ok {payload plaintext : Bytes} {g : PrivateKey} {s t : RatchetState} :
    (decrypt P g payload).run s = .ok plaintext t
      ↔ WellFormed payload ∧ (openParsed P g payload).run s = .ok plaintext t := by
  by_cases hw : WellFormed payload
  · rw [decrypt_run hw]
    cases (openParsed P g payload).run s with
    | ok m t' => simp [hw]
    | error e t' => simp
  · obtain ⟨e, he⟩ := decrypt_malformed (P := P) hw g s
    simp [he, hw]

/-! ### The guarded part -/

section Guarded

variable {s turned : RatchetState} {start payload : Bytes} {g : PrivateKey}

/-- After the turn to the header's peer key, success is a message key that opens the
payload. -/
theorem openParsed_ok {plaintext : Bytes} {t : RatchetState}
    (hturn : (turnTo P (headerPublic payload) g).run s = .ok () turned)
    (hchain : turned.recvChainKey = some (chainKey P start turned.recvN))
    (hrun : (openParsed P g payload).run s = .ok plaintext t) :
    ∃ k, (receiveKey P (headerPublic payload) (messageNumber payload)
          (chainKey P start turned.recvN)).run turned = .ok k t
      ∧ Opens P payload k plaintext := by
  rw [openParsed, openPayload] at hrun
  obtain ⟨_, s₁, hs₁, hrun⟩ := run_bind_ok.mp hrun
  rw [hturn] at hs₁
  cases hs₁
  obtain ⟨_, s₂, hs₂, hrun⟩ := run_bind_ok.mp hrun
  cases hs₂
  simp only [hchain] at hrun
  obtain ⟨k, s₃, hkey, hrest⟩ := run_bind_ok.mp hrun
  obtain ⟨aad, s₄, hheader, hopen⟩ := run_bind_ok.mp hrest
  obtain ⟨haad, rfl⟩ := run_orRaise_eq_ok.mp hheader
  obtain ⟨hplain, rfl⟩ := run_orRaise_eq_ok.mp hopen
  exact ⟨k, hkey, aad, haad, hplain⟩

/-- After the turn, a failure leaves the turned state, or the state past the position
whose key did not open the payload. -/
theorem openParsed_error {e : PyExc} {t : RatchetState}
    (hturn : (turnTo P (headerPublic payload) g).run s = .ok () turned)
    (hchain : turned.recvChainKey = some (chainKey P start turned.recvN))
    (hrun : (openParsed P g payload).run s = .error e t) :
    t = turned ∨ turned.recvN ≤ messageNumber payload
      ∧ t = turned.passed P (headerPublic payload) start (messageNumber payload) := by
  simp only [openParsed, openPayload, EStateM.run_bind, hturn, EStateM.run_get, hchain] at hrun
  cases hkey : (receiveKey P (headerPublic payload) (messageNumber payload)
      (chainKey P start turned.recvN)).run turned with
  | error e' t' =>
      rw [hkey] at hrun
      cases hrun
      exact Or.inl (receiveKey_error hchain hkey)
  | ok k t' =>
      have hstate : t = t' := by
        rw [hkey] at hrun
        cases haad : headerAad (headerPublic payload)
            (Bytes.toNatBE ((payload.drop 37).take 4)) (messageNumber payload) with
        | error e' =>
            simp only [haad] at hrun
            cases hrun
            rfl
        | ok aad =>
            simp only [haad, run_orRaise_ok] at hrun
            cases hopen : xchachaDecrypt P k (payload.drop 45) aad with
            | error e' =>
                simp only [hopen] at hrun
                cases hrun
                rfl
            | ok m =>
                simp only [hopen] at hrun
                cases hrun
      rcases receiveKey_ok hchain hkey with ⟨-, hsame, -⟩ | ⟨hn, -, hpassed⟩
      · exact Or.inl (hstate.trans hsame)
      · exact Or.inr ⟨hn, hstate.trans hpassed⟩

end Guarded

/-! ### What a state can read -/

/-- `s` is the receiver `r`: the fields that decide what later calls can read. -/
structure Represents (P : Packages) (s : RatchetState)
    (r : Receiver Bytes Bytes (BytesN 32) Bytes) : Prop where
  key : ∃ k, HasKey P s k
  own : r.own = s.dhSelfPublic
  generated : Generated P r.peer
  peer : s.dhPeerPublic = some r.peer
    ∨ s.dhPeerPublic = none ∧ s.pendingPairingDhRatchetPeer = some r.peer
  pending : ∀ p, s.pendingPairingDhRatchetPeer = some p → p = r.peer
  chain : s.recvChainKey = some (chainKey P r.start.1 s.recvN)
  next : r.next = s.recvN
  stored : ∀ i, storedKey s.skippedKeys r.peer i
    = (r.stored i).map fun k => (skipKeyId r.peer i, b64encode k)

namespace Represents

variable {s t : RatchetState} {r r' : Receiver Bytes Bytes (BytesN 32) Bytes} {g : PrivateKey}
  {payload : Bytes}

/-- The keys drawn so far are no part of the state. -/
theorem draw (h : Represents P s r) (drawn : List Bytes) : Represents P s { r with drawn } :=
  ⟨h.key, h.own, h.generated, h.peer, h.pending, h.chain, h.next, h.stored⟩

/-- Adopting the peer key changes nothing of what is represented. -/
theorem adopt (h : Represents P s r) :
    Represents P { s with dhPeerPublic := some r.peer } r :=
  ⟨h.key, h.own, h.generated, Or.inl rfl, h.pending, h.chain, h.next, h.stored⟩

/-- A state that has passed position `n`. -/
theorem passed (h : Represents P s r) {n : Nat} (hn : s.recvN ≤ n) :
    Represents P (s.passed P r.peer r.start.1 n)
      { r with next := n + 1, stored := Receiver.storeRange (scheme P) r.start r.next n r.stored } := by
  refine ⟨h.key, h.own, h.generated, h.peer, h.pending, rfl, rfl, fun i => ?_⟩
  show storedKey (storeKeys P r.peer r.start.1 s.recvN (n - s.recvN) s.skippedKeys) r.peer i = _
  rw [storedKey_storeKeys]
  simp only [Receiver.storeRange, h.next]
  by_cases hrange : s.recvN ≤ i ∧ i < n
  · rw [if_pos (by omega), if_pos hrange]
    rfl
  · rw [if_neg (by omega), if_neg hrange]
    exact h.stored i

/-- Rolling back leaves the receiver with the stored keys the attempt left. -/
theorem rolledBack (h : Represents P s r) {skipped : List (String × String)}
    {stored : Nat → Option Bytes} (hstored : ∀ i, storedKey skipped r.peer i
      = (stored i).map fun k => (skipKeyId r.peer i, b64encode k)) :
    Represents P (s.rolledBack skipped) { r with stored } := by
  have hkeep : ∀ {b : Bytes}, b.length = 32 → orNone b = some b := by
    intro b hb
    rw [orNone, if_neg]
    rintro rfl
    cases hb
  have hpeer := hkeep h.generated.length
  refine ⟨h.key, h.own, h.generated, ?_, ?_, ?_, h.next, hstored⟩
  · rcases h.peer with hsome | ⟨hnone, hpending⟩
    · left
      simp only [RatchetState.rolledBack, hsome, Option.bind_some, hpeer]
    · right
      simp only [RatchetState.rolledBack, hnone, hpending, Option.bind_none, Option.bind_some,
        hpeer, and_self]
  · intro p hp
    cases hpending : s.pendingPairingDhRatchetPeer with
    | none =>
        simp only [RatchetState.rolledBack, hpending, Option.bind_none] at hp
        cases hp
    | some q =>
        obtain rfl := h.pending q hpending
        simp only [RatchetState.rolledBack, hpending, Option.bind_some, hpeer] at hp
        exact (Option.some.inj hp).symm
  · simp only [RatchetState.rolledBack, h.chain, Option.bind_some]
    exact hkeep (length_chainKey r.start.2 s.recvN)

/-- The turn to the peer key of a header: none where it is the peer key already, else a
Diffie–Hellman step to a chain derived from the own key. -/
theorem turnTo (h : Represents P s r) (hdh : P.DhLaws) {q : Bytes} (hq : Generated P q)
    (hpending : s.pendingPairingDhRatchetPeer ≠ none → q = r.peer) (g : PrivateKey) :
    q = r.peer ∧ (RatchetState.turnTo P q g).run s = .ok () { s with dhPeerPublic := some q }
      ∨ q ≠ r.peer ∧ ∃ turned start, (RatchetState.turnTo P q g).run s = .ok () turned
          ∧ (scheme P).Derived r.own q start
          ∧ Represents P turned { own := (P.x25519Public g).1, peer := q, start, next := 0
                                  stored := fun _ => none, drawn := r.drawn }
          ∧ turned.recvN = 0 ∧ turned.skippedKeys = []
          ∧ turned.pendingPairingDhRatchetPeer = s.pendingPairingDhRatchetPeer := by
  by_cases hsame : q = r.peer
  · left
    subst hsame
    refine ⟨rfl, ?_⟩
    rcases h.peer with hsome | ⟨hnone, -⟩
    · have hself : { s with dhPeerPublic := some r.peer } = s := by rw [← hsome]
      rw [hself]
      simp [RatchetState.turnTo, hsome]
    · simp [RatchetState.turnTo, hnone]
  · right
    have hnone : s.pendingPairingDhRatchetPeer = none := by
      by_contra hne
      exact hsame (hpending hne)
    have hsome : s.dhPeerPublic = some r.peer := by
      rcases h.peer with hsome | ⟨-, hpend⟩
      · exact hsome
      · rw [hnone] at hpend
        cases hpend
    obtain ⟨c, hc⟩ := hq
    obtain ⟨k, hk⟩ := h.key
    obtain ⟨d, hd, -⟩ := x25519SharedSecret_comm hdh k c
    obtain ⟨d', hd', -⟩ := x25519SharedSecret_comm hdh g c
    rw [← hc] at hd hd'
    have hlen : ((kdfRk P s.rootKey d).2).length = 32 := by simp [kdfRk]
    refine ⟨hsame, { s with
        rootKey := (kdfRk P (kdfRk P s.rootKey d).1 d').1
        dhSelfPrivate := g.1
        dhSelfPublic := (P.x25519Public g).1
        dhPeerPublic := some q
        sendChainKey := some (kdfRk P (kdfRk P s.rootKey d).1 d').2
        recvChainKey := some (kdfRk P s.rootKey d).2
        sendN := 0
        recvN := 0
        prevSendN := s.sendN
        skippedKeys := [] }, ⟨(kdfRk P s.rootKey d).2, hlen⟩, ?_, ?_, ?_, rfl, rfl, rfl⟩
    · simp [RatchetState.turnTo, hsome, Ne.symm hsame, dhRatchet, hk.1, hd, hd']
    · exact ⟨k, s.rootKey, d, h.own.trans hk.2, hd, rfl⟩
    · refine ⟨⟨g, rfl, rfl⟩, rfl, ⟨c, hc⟩, Or.inl rfl, ?_, rfl, rfl, fun i => rfl⟩
      intro p hp
      rw [hnone] at hp
      cases hp

/-- The key `receive_key` returns is a stored one, or that of a position ahead. -/
theorem receiveKey_ok (h : Represents P s r) {n : Nat} {k : Bytes}
    (hrun : (receiveKey P r.peer n (chainKey P r.start.1 s.recvN)).run s = .ok k t) :
    n < r.next ∧ r.stored n = some k ∧ t = s
      ∨ r.next ≤ n ∧ k = messageKey P r.start.1 n ∧ t = s.passed P r.peer r.start.1 n := by
  rw [h.next]
  rcases RatchetState.receiveKey_ok h.chain hrun with ⟨hn, ht, entry, hfound, hdecode⟩ | hahead
  · left
    refine ⟨hn, ?_, ht⟩
    rw [h.stored n] at hfound
    obtain ⟨k', hk', rfl⟩ := Option.map_eq_some_iff.mp hfound
    rw [b64decode_b64encode] at hdecode
    rw [hk', Except.ok.inj hdecode]
  · exact Or.inr hahead

/-- **`decrypt` reads.** A success reads the header's position with a message key that
opens the payload. -/
theorem decrypt_ok (h : Represents P s r) (hdh : P.DhLaws)
    (hq : Generated P (headerPublic payload))
    (hpending : s.pendingPairingDhRatchetPeer ≠ none → headerPublic payload = r.peer)
    {plaintext : Bytes}
    (hrun : (decrypt P g payload).run s = .ok plaintext t) :
    ∃ k r', Receiver.Reads (scheme P) r (P.x25519Public g).1 (headerPublic payload)
        (messageNumber payload) k r'
      ∧ Represents P t r' ∧ Opens P payload k plaintext
      ∧ t.pendingPairingDhRatchetPeer = s.pendingPairingDhRatchetPeer := by
  have hopen := (decrypt_eq_ok.mp hrun).2
  rcases h.turnTo hdh hq hpending g with
    ⟨hpeer, hturn⟩ | ⟨hpeer, turned, start, hturn, hstart, hturned, hzero, -, hpend⟩
  · rw [hpeer] at hturn
    obtain ⟨k, hkey, hopens⟩ := openParsed_ok (by rw [hpeer]; exact hturn) h.adopt.chain hopen
    rw [hpeer] at hkey ⊢
    rcases h.adopt.receiveKey_ok hkey with ⟨hn, hstored, rfl⟩ | ⟨hn, rfl, rfl⟩
    · exact ⟨k, _, .passed hn hstored, h.adopt.draw _, hopens, rfl⟩
    · exact ⟨_, _, .ahead hn, (h.adopt.passed (h.next ▸ hn)).draw _, hopens, rfl⟩
  · obtain ⟨k, hkey, hopens⟩ := openParsed_ok hturn hturned.chain hopen
    rcases hturned.receiveKey_ok hkey with ⟨hn, -⟩ | ⟨-, rfl, rfl⟩
    · exact absurd hn (Nat.not_lt_zero _)
    · exact ⟨_, _, .turned hpeer hstart,
        (hturned.passed (by rw [hzero]; exact Nat.zero_le _)).draw _, hopens, hpend⟩

/-- **`decrypt` disturbs.** A failure leaves the receiver with some of its stored keys
and some it had stored ahead. -/
theorem decrypt_error (h : Represents P s r) (hdh : P.DhLaws)
    (hq : Generated P (headerPublic payload))
    (hpending : s.pendingPairingDhRatchetPeer ≠ none → headerPublic payload = r.peer)
    {e : PyExc} (hrun : (decrypt P g payload).run s = .error e t) :
    ∃ r', Receiver.Disturbs (scheme P) r (P.x25519Public g).1 r' ∧ Represents P t r'
      ∧ t.pendingPairingDhRatchetPeer = s.pendingPairingDhRatchetPeer := by
  have hpend : ∀ skipped, (s.rolledBack skipped).pendingPairingDhRatchetPeer
      = s.pendingPairingDhRatchetPeer := by
    intro skipped
    cases hpeer : s.pendingPairingDhRatchetPeer with
    | none => simp only [RatchetState.rolledBack, hpeer, Option.bind_none]
    | some p =>
        have hlen := h.generated.length
        rw [← h.pending p hpeer] at hlen
        simp only [RatchetState.rolledBack, hpeer, Option.bind_some, orNone]
        rw [if_neg]
        rintro rfl
        cases hlen
  by_cases hw : WellFormed payload
  case neg =>
    obtain ⟨e', he⟩ := decrypt_malformed (P := P) hw g s
    rw [he] at hrun
    cases hrun
    exact ⟨_, .failed fun i k hi => Or.inl hi, h.draw _, rfl⟩
  case pos =>
    rw [decrypt_run hw] at hrun
    cases hparsed : (openParsed P g payload).run s with
    | ok m t' =>
        rw [hparsed] at hrun
        cases hrun
    | error e' t' =>
        rw [hparsed] at hrun
        cases hrun
        rcases h.turnTo hdh hq hpending g with
          ⟨hpeer, hturn⟩ | ⟨hpeer, turned, start, hturn, -, hturned, -, hempty, -⟩
        · rw [hpeer] at hturn
          rcases openParsed_error (by rw [hpeer]; exact hturn) h.adopt.chain hparsed with
            rfl | ⟨hn, rfl⟩
          · exact ⟨_, .failed fun i k hi => Or.inl hi, (h.rolledBack h.stored).draw _, hpend _⟩
          · rw [hpeer]
            refine ⟨_, .failed ?_, (h.rolledBack (h.adopt.passed hn).stored).draw _, hpend _⟩
            intro i k hi
            simp only [Receiver.storeRange] at hi
            by_cases hrange : r.next ≤ i ∧ i < messageNumber payload
            · rw [if_pos hrange] at hi
              exact Or.inr ⟨hrange.1, (Option.some.inj hi).symm⟩
            · rw [if_neg hrange] at hi
              exact Or.inl hi
        · -- the turn has cleared the stored keys of the present peer
          have hgone : ∀ i, storedKey t'.skippedKeys r.peer i = none := by
            intro i
            rcases openParsed_error hturn hturned.chain hparsed with rfl | ⟨-, rfl⟩
            · rw [hempty]
              rfl
            · show storedKey (storeKeys P _ _ _ _ _) r.peer i = none
              rw [storedKey_storeKeys_of_ne (hq.length.trans h.generated.length.symm) hpeer, hempty]
              rfl
          have hrolled : Represents P (s.rolledBack t'.skippedKeys)
              { r with stored := fun _ => none } := h.rolledBack hgone
          refine ⟨_, .failed ?_, hrolled.draw _, hpend _⟩
          intro i k hi
          cases hi

end Represents

/-- A payload whose message key is stored opens, as often as it is delivered. -/
theorem decrypt_stored {s : RatchetState} {payload k m ck : Bytes} (hw : WellFormed payload)
    (hpeer : s.dhPeerPublic = none ∨ s.dhPeerPublic = some (headerPublic payload))
    (hchain : s.recvChainKey = some ck) (hn : messageNumber payload < s.recvN)
    (hstored : storedKey s.skippedKeys (headerPublic payload) (messageNumber payload)
      = some (skipKeyId (headerPublic payload) (messageNumber payload), b64encode k))
    (hopen : Opens P payload k m) (g : PrivateKey) :
    ∃ t, (decrypt P g payload).run s = .ok m t := by
  obtain ⟨aad, haad, hplain⟩ := hopen
  let turned : RatchetState := { s with dhPeerPublic := some (headerPublic payload) }
  have hturn : (turnTo P (headerPublic payload) g).run s = .ok () turned := by
    rcases hpeer with hpeer | hpeer
    · simp [turnTo, hpeer, turned]
    · have hself : turned = s := by simp only [turned, ← hpeer]
      simp [turnTo, hpeer, hself]
  have hchain' : turned.recvChainKey = some ck := hchain
  have hkey : (receiveKey P (headerPublic payload) (messageNumber payload) ck).run turned
      = .ok k turned := by
    have hfound : skipKey turned (headerPublic payload) (messageNumber payload) = .ok k := by
      rw [storedKey] at hstored
      simp only [skipKey, turned, hstored, b64decode_b64encode]
    have hn' : messageNumber payload < turned.recvN := hn
    simp only [receiveKey, EStateM.run_bind, EStateM.run_get, if_pos hn', hfound, EStateM.run_pure]
  refine ⟨turned, decrypt_eq_ok.mpr ⟨hw, ?_⟩⟩
  simp only [openParsed, openPayload, EStateM.run_bind, hturn, EStateM.run_get, hchain', hkey, haad,
    run_orRaise_ok, hplain]

/-! ### `encrypt` -/

/-- After the pairing key was taken, `encrypt` moves only the send chain, and its
payloads carry the own public key. -/
theorem encrypt_after {s s₁ : RatchetState} {g : PrivateKey} (nonce : Nonce) (plaintext : Bytes)
    (htake : (takePendingPeer P g).run s = .ok () s₁) (hlen : s₁.dhSelfPublic.length = 32) :
    (∃ sendChainKey sendN,
        after ((encrypt P g nonce plaintext).run s) = { s₁ with sendChainKey, sendN })
      ∧ ∀ payload, outcome ((encrypt P g nonce plaintext).run s) = .ok payload →
          headerPublic payload = s₁.dhSelfPublic := by
  have hrun : (encrypt P g nonce plaintext).run s
      = (do
          let messageKey ← nextSendKey P
          let s ← get
          let aad ← orRaise (headerAad s.dhSelfPublic s.prevSendN s.sendN)
          let ciphertext ← orRaise (xchachaEncrypt P nonce messageKey plaintext aad)
          modify fun s => { s with sendN := s.sendN + 1 }
          return aad ++ ciphertext : RatchetM Bytes).run s₁ := by
    rw [encrypt, EStateM.run_bind, htake]
  rw [hrun]
  cases hchain : s₁.sendChainKey with
  | none =>
      have hkey : (nextSendKey P).run s₁
          = .error (.valueError "send chain not initialized") s₁ := by
        simp [nextSendKey, hchain]
      simp only [EStateM.run_bind, hkey]
      exact ⟨⟨s₁.sendChainKey, s₁.sendN, rfl⟩, fun payload hp => by cases hp⟩
  | some ck =>
      cases haad : headerAad s₁.dhSelfPublic s₁.prevSendN s₁.sendN with
      | error e =>
          refine ⟨⟨_, s₁.sendN, by simp [nextSendKey, hchain, haad]; rfl⟩, fun payload hp => ?_⟩
          simp [nextSendKey, hchain, haad] at hp
      | ok aad =>
          cases hseal : xchachaEncrypt P nonce (kdfCk P ck).1 plaintext aad with
          | error e =>
              refine ⟨⟨_, s₁.sendN, by simp [nextSendKey, hchain, haad, hseal]; rfl⟩,
                fun payload hp => ?_⟩
              simp [nextSendKey, hchain, haad, hseal] at hp
          | ok ciphertext =>
              refine ⟨⟨_, _, by simp [nextSendKey, hchain, haad, hseal]; exact ⟨rfl, rfl⟩⟩,
                fun payload hp => ?_⟩
              simp [nextSendKey, hchain, haad, hseal] at hp
              subst hp
              exact (parses_append hlen haad ciphertext).dhPublic

/-- **`encrypt` disturbs.** It may take the pending pairing key, with a fresh own key;
then it only moves the send chain. -/
theorem Represents.encrypt {s : RatchetState} {r : Receiver Bytes Bytes (BytesN 32) Bytes}
    {g : PrivateKey} (h : Represents P s r) (hdh : P.DhLaws) (nonce : Nonce) (plaintext : Bytes) :
    ∃ r', Receiver.Disturbs (scheme P) r (P.x25519Public g).1 r'
      ∧ Represents P (after ((RatchetState.encrypt P g nonce plaintext).run s)) r'
      ∧ (after ((RatchetState.encrypt P g nonce plaintext).run s)).pendingPairingDhRatchetPeer
          = none
      ∧ r'.peer = r.peer ∧ Generated P r'.own
      ∧ (s.pendingPairingDhRatchetPeer = none → r'.own = r.own)
      ∧ ∀ payload, outcome ((RatchetState.encrypt P g nonce plaintext).run s) = .ok payload →
          headerPublic payload = r'.own := by
  obtain ⟨k, hk⟩ := h.key
  cases hpending : s.pendingPairingDhRatchetPeer with
  | none =>
      have htake : (takePendingPeer P g).run s = .ok () s := by
        simp [takePendingPeer, hpending]
      have hlen : s.dhSelfPublic.length = 32 := by
        rw [hk.2]
        exact (P.x25519Public k).2
      obtain ⟨⟨sendChainKey, sendN, hafter⟩, hheader⟩ := encrypt_after nonce plaintext htake hlen
      refine ⟨_, .failed fun i k hi => Or.inl hi, ?_, ?_, rfl, ⟨k, h.own.trans hk.2⟩,
        fun _ => rfl, fun payload hp => (hheader payload hp).trans h.own.symm⟩
      · rw [hafter]
        exact ⟨⟨k, hk⟩, h.own, h.generated, h.peer, h.pending, h.chain, h.next, h.stored⟩
      · rw [hafter]
        exact hpending
  | some p =>
      obtain rfl := h.pending p hpending
      obtain ⟨c, hc⟩ := h.generated
      obtain ⟨d, hd, -⟩ := x25519SharedSecret_comm hdh k c
      obtain ⟨d', hd', -⟩ := x25519SharedSecret_comm hdh g c
      rw [← hc] at hd hd'
      have hlen := h.generated.length
      let inited : RatchetState := { s with
        rootKey := (kdfRk P (kdfRk P s.rootKey d).1 d').1
        dhSelfPrivate := g.1
        dhSelfPublic := (P.x25519Public g).1
        dhPeerPublic := some r.peer
        sendChainKey := some (kdfRk P (kdfRk P s.rootKey d).1 d').2
        sendN := 0
        prevSendN := s.sendN
        pendingPairingDhRatchetPeer := none }
      have htake : (takePendingPeer P g).run s = .ok () inited := by
        simp [takePendingPeer, hpending, pairingSendInit, hlen, hk.1, hd, hd', inited]
      obtain ⟨⟨sendChainKey, sendN, hafter⟩, hheader⟩ :=
        encrypt_after nonce plaintext htake (P.x25519Public g).2
      refine ⟨_, .rekeyed, ?_, ?_, rfl, ⟨g, rfl⟩, ?_, fun payload hp => hheader payload hp⟩
      · rw [hafter]
        refine ⟨⟨g, rfl, rfl⟩, rfl, ⟨c, hc⟩, Or.inl rfl, ?_, h.chain, h.next, h.stored⟩
        intro q hq
        cases hq
      · rw [hafter]
      · intro hnone
        cases hnone

end RatchetState
end Yakr
