import Yakr.Core.Plain
import Yakr.Ratchet.RustReading

/-!
# Yakr.Languages.Ratchets

**One ratchet in two languages.** Both implementations look for the message key of a payload
in the same way. What they do afterwards differs in two places:

* a failed attempt is undone by Rust as a whole, while Python keeps what the attempt made of
  the skipped keys, since its snapshot refers to the dictionary itself;
* the last number of a header, `2^32 - 1`, takes the counter of Python to `2^32` and does not
  fit the one of Rust.

`KeepsStep` says of a state and a payload that neither comes up. It is the exact condition
for the two to return the same and leave the same dictionary (`decrypt_agrees_iff`).
-/

namespace Yakr

open Lib Effect

variable {P : Packages}

/-! ### Agreement -/

/-- Equality of two saved ratchets. -/
def SameDict (a b : RatchetDict) : Prop :=
  { a with skippedKeys := [] } = { b with skippedKeys := [] }
    ∧ SameTable a.skippedKeys b.skippedKeys

theorem SameDict.refl (a : RatchetDict) : SameDict a a := ⟨rfl, .refl _⟩

/-- A call in Python and the same call in Rust return the same bytes and leave the same
dictionary. -/
structure Agrees (python : EStateM.Result PyExc RatchetState Bytes)
    (rust : EStateM.Result String Rust.RatchetState Bytes) : Prop where
  returns : ∀ data, outcome python = .ok data ↔ outcome rust = .ok data
  state : SameDict (after python).toDict (after rust).toDict

namespace Rust
namespace RatchetState

/-- Every stored key is the text of 32 bytes. -/
def KeyTexts (skipped : List (String × String)) : Prop :=
  ∀ entry ∈ skipped, ∃ key : BytesN 32, entry.2 = b64encode key.1

/-- A state that both languages can hold: counters below the last `u32`, and the skipped keys
texts of 32 bytes. -/
structure Representable (s : RatchetState) : Prop where
  sendN : s.sendN < 2 ^ 32 - 1
  recvN : s.recvN < 2 ^ 32 - 1
  prevSendN : s.prevSendN < 2 ^ 32 - 1
  skipped : KeyTexts s.skippedKeys

/-- The key is no point of low order: every exchange with it yields a key. -/
def ProperKey (P : Packages) (q : BytesN 32) : Prop := ∀ k, (P.x25519Exchange k q).isSome

theorem toDict_view (s : RatchetState) : s.view.toDict = s.toDict := by
  have hkey : ∀ key : Option (BytesN 32),
      encodeOptional (key.map Subtype.val) = encodeKey key := by
    intro key
    cases key with
    | none => rfl
    | some k => rfl
  simp only [view, Yakr.RatchetState.toDict, toDict, hkey]

theorem agrees_ok (data : Bytes) (s : RatchetState) :
    Agrees (.ok data s.view) (.ok data s) := by
  refine ⟨fun data' => by simp, ?_⟩
  rw [after_ok, after_ok, toDict_view]
  exact .refl _

theorem agrees_error (e : PyExc) (e' : String) (s : RatchetState) :
    Agrees (.error e s.view) (.error e' s) := by
  refine ⟨fun data => by simp, ?_⟩
  rw [after_error, after_error, toDict_view]
  exact .refl _

/-! ### The key of a position -/

/-- The receive chain after `count` positions. -/
def chainAfter (P : Packages) : (count : Nat) → BytesN 32 → BytesN 32
  | 0, c => c
  | count + 1, c => chainAfter P count (kdfCk P c).2

/-- The skipped keys after `count` positions from `n` on. -/
def keysAfter (P : Packages) (q : BytesN 32) :
    (count n : Nat) → BytesN 32 → List (String × String) → List (String × String)
  | 0, _, _, skipped => skipped
  | count + 1, n, c, skipped =>
      keysAfter P q count (n + 1) (kdfCk P c).2
        (Table.put Prod.fst (Yakr.RatchetState.skipKeyId q.1 n, b64encode (kdfCk P c).1.1)
          skipped)

/-- The two limits on skipping admit the position. -/
def InLimits (s : RatchetState) (n : Nat) : Prop :=
  n - s.recvN ≤ maxSkipGap ∧ s.skippedKeys.length + (n - s.recvN) ≤ maxSkippedKeys

instance (s : RatchetState) (n : Nat) : Decidable (InLimits s n) :=
  inferInstanceAs (Decidable (_ ∧ _))

/-- The key of a position behind is a stored one, that of a position ahead is the next of the
receive chain `c` after the positions between. -/
def positionKey (P : Packages) (s : RatchetState) (q : BytesN 32) (n : Nat) (c : BytesN 32) :
    Option (BytesN 32) :=
  if n < s.recvN then skipKey s q n
  else if InLimits s n then some (kdfCk P (chainAfter P (n - s.recvN) c)).1
  else none

/-- The skipped keys once a position has been looked for. -/
def positionTable (P : Packages) (s : RatchetState) (q : BytesN 32) (n : Nat) (c : BytesN 32) :
    List (String × String) :=
  if s.recvN ≤ n ∧ InLimits s n then keysAfter P q (n - s.recvN) s.recvN c s.skippedKeys
  else s.skippedKeys

/-- What a payload with this header holds for the state that has turned to its key. -/
def opened (P : Packages) (s : RatchetState) (q : BytesN 32) (prevN n : Nat)
    (ciphertext : Bytes) : Option Bytes :=
  match s.recvChainKey with
  | some c =>
      (positionKey P s q n c).bind fun key =>
        (xchachaDecrypt P key ciphertext (headerAad q prevN n)).toOption
  | none => none

/-- The skipped keys the attempt to open it leaves. -/
def triedTable (P : Packages) (s : RatchetState) (q : BytesN 32) (n : Nat) :
    List (String × String) :=
  match s.recvChainKey with
  | some c => positionTable P s q n c
  | none => s.skippedKeys

/-- What the payload holds for the state, its header's key being `q`. -/
def held (P : Packages) (s : RatchetState) (g : PrivateKey) (q : BytesN 32) (payload : Bytes) :
    Option Bytes :=
  opened P (turnTo P q g s) q (Bytes.toNatBE ((payload.drop 37).take 4))
    (Yakr.RatchetState.messageNumber payload) (payload.drop 45)

/-- The skipped keys that looking for its key leaves. -/
def tried (P : Packages) (s : RatchetState) (g : PrivateKey) (q : BytesN 32) (payload : Bytes) :
    List (String × String) :=
  triedTable P (turnTo P q g s) q (Yakr.RatchetState.messageNumber payload)

/-- Neither difference comes up: a payload that opens does not have the last number, and the
attempt at one that does not open leaves the skipped keys as they were. -/
def KeepsStep (P : Packages) (s : RatchetState) (g : PrivateKey) (payload : Bytes) : Prop :=
  Yakr.RatchetState.WellFormed payload →
    ∀ q : BytesN 32, q.1 = Yakr.RatchetState.headerPublic payload →
      match held P s g q payload with
      | some _ => Yakr.RatchetState.messageNumber payload ≠ 2 ^ 32 - 1
      | none => SameTable (tried P s g q payload) s.skippedKeys

section Position

variable {s : RatchetState} {q c k : BytesN 32} {n : Nat}

/-- The skip loop moves along the chain and stores the keys it passes. -/
theorem skipPositions_run (q : BytesN 32) (count : Nat) :
    ∀ (s : RatchetState) (c : BytesN 32),
      (skipPositions P q count c).run s = .ok (chainAfter P count c)
        { s with
          skippedKeys := keysAfter P q count s.recvN c s.skippedKeys
          recvN := s.recvN + count } := by
  induction count with
  | zero =>
      intro s c
      rfl
  | succ count ih =>
      intro s c
      simp only [skipPositions, EStateM.run_bind, EStateM.run_modify, ih, chainAfter, keysAfter,
        storeSkip, Nat.add_assoc, Nat.add_comm 1 count]

/-- The same loop in Python, which also keeps the receive chain up to date. -/
theorem view_skipPositions_run (s : RatchetState) (q c : BytesN 32) (count : Nat) :
    ∃ chain, (Yakr.RatchetState.skipPositions P q.1 count c.1).run
        { s.view with recvChainKey := some c.1 }
      = .ok (chainAfter P count c).1
        { s.view with
          skippedKeys := keysAfter P q count s.recvN c s.skippedKeys
          recvChainKey := chain
          recvN := s.recvN + count } := by
  obtain ⟨c', s', chain, hrust, hpython⟩ := skipPositions_eq (P := P) q count s c (some c.1)
  rw [skipPositions_run] at hrust
  cases hrust
  exact ⟨chain, hpython⟩

theorem receiveKey_none (h : positionKey P s q n c = none) :
    ∃ e, (receiveKey P q n c).run s = .error e s := by
  unfold positionKey at h
  by_cases hn : n < s.recvN
  · rw [if_pos hn] at h
    simp only [receiveKey, EStateM.run_bind, EStateM.run_get, if_pos hn, h, run_raise]
    exact ⟨_, rfl⟩
  · by_cases hlimits : InLimits s n
    · rw [if_neg hn, if_pos hlimits] at h
      cases h
    · simp only [receiveKey, EStateM.run_bind, EStateM.run_get, if_neg hn]
      by_cases hgap : n - s.recvN > maxSkipGap
      · simp only [if_pos hgap]
        exact ⟨_, rfl⟩
      · have hroom : s.skippedKeys.length + (n - s.recvN) > maxSkippedKeys := by
          unfold InLimits at hlimits
          omega
        simp only [if_neg hgap, if_pos hroom]
        exact ⟨_, rfl⟩

/-- Where there is no key to be had, nothing is stored. -/
theorem positionTable_of_none (h : positionKey P s q n c = none) :
    positionTable P s q n c = s.skippedKeys := by
  rw [positionTable, if_neg]
  rintro ⟨hn, hlimits⟩
  rw [positionKey, if_neg (Nat.not_lt.mpr hn), if_pos hlimits] at h
  cases h

/-- What `receive_key` does ahead of the chain, up to the counter. -/
theorem receiveKey_ahead (hn : ¬ n < s.recvN) (hlimits : InLimits s n) :
    (receiveKey P q n c).run s
      = (do
          let recvN ← orRaise (addU32 n 1)
          modify fun s => { s with recvN := recvN }
          return kdfCk P (chainAfter P (n - s.recvN) c) : RatchetM (BytesN 32 × BytesN 32)).run
        { s with skippedKeys := positionTable P s q n c, recvN := n } := by
  have hgap : ¬ n - s.recvN > maxSkipGap := Nat.not_lt.mpr hlimits.1
  have hroom : ¬ s.skippedKeys.length + (n - s.recvN) > maxSkippedKeys :=
    Nat.not_lt.mpr hlimits.2
  have hreach : s.recvN + (n - s.recvN) = n := by omega
  simp only [receiveKey, EStateM.run_bind, EStateM.run_get, if_neg hn, if_neg hgap, if_neg hroom,
    EStateM.run_pure, skipPositions_run, hreach, positionTable,
    if_pos (show s.recvN ≤ n ∧ InLimits s n from ⟨Nat.not_lt.mp hn, hlimits⟩)]

theorem receiveKey_some (h : positionKey P s q n c = some k)
    (hn : n < s.recvN ∨ n + 1 < 2 ^ 32) :
    ∃ c' t, (receiveKey P q n c).run s = .ok (k, c') t := by
  unfold positionKey at h
  by_cases hbehind : n < s.recvN
  · rw [if_pos hbehind] at h
    simp only [receiveKey, EStateM.run_bind, EStateM.run_get, if_pos hbehind, h, EStateM.run_pure]
    exact ⟨c, s, rfl⟩
  · by_cases hlimits : InLimits s n
    · rw [if_neg hbehind, if_pos hlimits] at h
      obtain rfl := Option.some.inj h
      have hfits : n + 1 < 2 ^ 32 := hn.resolve_left hbehind
      rw [receiveKey_ahead hbehind hlimits]
      simp only [EStateM.run_bind, addU32, if_pos hfits, run_orRaise_ok, EStateM.run_modify,
        EStateM.run_pure]
      exact ⟨_, _, rfl⟩
    · rw [if_neg hbehind, if_neg hlimits] at h
      cases h

/-- At the last number of a header the counter overflows. -/
theorem receiveKey_last (hlast : ¬ (n < s.recvN ∨ n + 1 < 2 ^ 32)) :
    ∃ e t, (receiveKey P q n c).run s = .error e t := by
  obtain ⟨hbehind, hlast⟩ := not_or.mp hlast
  by_cases hlimits : InLimits s n
  · rw [receiveKey_ahead hbehind hlimits]
    simp only [EStateM.run_bind, addU32, if_neg hlast, run_orRaise_error]
    exact ⟨_, _, rfl⟩
  · have hnone : positionKey P s q n c = none := by
      rw [positionKey, if_neg hbehind, if_neg hlimits]
    obtain ⟨e, he⟩ := receiveKey_none (P := P) hnone
    exact ⟨e, s, he⟩

/-- Only the key of the position is returned. -/
theorem receiveKey_ok {c' : BytesN 32} {t : RatchetState}
    (hrun : (receiveKey P q n c).run s = .ok (k, c') t) :
    positionKey P s q n c = some k ∧ (n < s.recvN ∨ n + 1 < 2 ^ 32) := by
  have hfits : n < s.recvN ∨ n + 1 < 2 ^ 32 := by
    by_contra hlast
    obtain ⟨e, t', he⟩ := receiveKey_last (P := P) (q := q) (c := c) hlast
    rw [hrun] at he
    cases he
  refine ⟨?_, hfits⟩
  cases hkey : positionKey P s q n c with
  | none =>
      obtain ⟨e, he⟩ := receiveKey_none hkey
      rw [hrun] at he
      cases he
  | some k' =>
      obtain ⟨c'', t', he⟩ := receiveKey_some hkey hfits
      rw [hrun] at he
      cases he
      rfl

/-! ### The same position in Python -/

/-- A stored text of 32 bytes is found in both or in neither. -/
theorem view_skipKey (hskipped : KeyTexts s.skippedKeys) :
    Yakr.RatchetState.skipKey s.view q.1 n
      = match skipKey s q n with
        | some key => .ok key.1
        | none => .error (.keyError (Yakr.RatchetState.skipKeyId q.1 n)) := by
  have hview : s.view.skippedKeys = s.skippedKeys := rfl
  rw [Yakr.RatchetState.skipKey, skipKey, hview]
  cases hfound : Table.find Prod.fst (Yakr.RatchetState.skipKeyId q.1 n) s.skippedKeys with
  | none => rfl
  | some entry =>
      obtain ⟨key, hkey⟩ := hskipped entry (Table.find_mem hfound)
      simp only [hkey, b64decode_b64encode, dif_pos key.2]

theorem view_receiveKey_none (hskipped : KeyTexts s.skippedKeys)
    (h : positionKey P s q n c = none) :
    ∃ e, (Yakr.RatchetState.receiveKey P q.1 n c.1).run s.view = .error e s.view := by
  have hrecv : s.view.recvN = s.recvN := rfl
  have htable : s.view.skippedKeys = s.skippedKeys := rfl
  unfold positionKey at h
  by_cases hn : n < s.recvN
  · rw [if_pos hn] at h
    simp only [Yakr.RatchetState.receiveKey, EStateM.run_bind, EStateM.run_get, hrecv, if_pos hn,
      view_skipKey hskipped, h, run_raise]
    exact ⟨_, rfl⟩
  · by_cases hlimits : InLimits s n
    · rw [if_neg hn, if_pos hlimits] at h
      cases h
    · simp only [Yakr.RatchetState.receiveKey, EStateM.run_bind, EStateM.run_get, hrecv, htable,
        if_neg hn]
      by_cases hgap : n - s.recvN > maxSkipGap
      · simp only [if_pos hgap]
        exact ⟨_, rfl⟩
      · have hroom : s.skippedKeys.length + (n - s.recvN) > maxSkippedKeys := by
          unfold InLimits at hlimits
          omega
        simp only [if_neg hgap, if_pos hroom]
        exact ⟨_, rfl⟩

theorem view_receiveKey_some (hskipped : KeyTexts s.skippedKeys)
    (hchain : s.recvChainKey = some c) (h : positionKey P s q n c = some k) :
    ∃ t, (Yakr.RatchetState.receiveKey P q.1 n c.1).run s.view = .ok k.1 t
      ∧ t.skippedKeys = positionTable P s q n c := by
  have hrecv : s.view.recvN = s.recvN := rfl
  have htable : s.view.skippedKeys = s.skippedKeys := rfl
  unfold positionKey at h
  by_cases hn : n < s.recvN
  · rw [if_pos hn] at h
    have hbehind : ¬ (s.recvN ≤ n ∧ InLimits s n) := fun hahead => absurd hn (Nat.not_lt.mpr hahead.1)
    simp only [Yakr.RatchetState.receiveKey, EStateM.run_bind, EStateM.run_get, hrecv, if_pos hn,
      view_skipKey hskipped, h, EStateM.run_pure, positionTable, if_neg hbehind]
    exact ⟨_, rfl, rfl⟩
  · by_cases hlimits : InLimits s n
    · rw [if_neg hn, if_pos hlimits] at h
      obtain rfl := Option.some.inj h
      have hgap : ¬ n - s.recvN > maxSkipGap := Nat.not_lt.mpr hlimits.1
      have hroom : ¬ s.skippedKeys.length + (n - s.recvN) > maxSkippedKeys :=
        Nat.not_lt.mpr hlimits.2
      obtain ⟨chain, hskip⟩ := view_skipPositions_run (P := P) s q c (n - s.recvN)
      have hself : { s.view with recvChainKey := some c.1 } = s.view := by
        simp only [view, hchain, Option.map_some]
      rw [hself] at hskip
      simp only [Yakr.RatchetState.receiveKey, EStateM.run_bind, EStateM.run_get, hrecv, htable,
        if_neg hn, if_neg hgap, if_neg hroom, EStateM.run_pure, hskip, EStateM.run_modify, kdfCk_eq,
        positionTable,
        if_pos (show s.recvN ≤ n ∧ InLimits s n from ⟨Nat.not_lt.mp hn, hlimits⟩)]
      exact ⟨_, rfl, rfl⟩
    · rw [if_neg hn, if_neg hlimits] at h
      cases h

end Position

/-! ### The attempt -/

section Attempt

variable {s : RatchetState} {q : BytesN 32} {prevN n : Nat} {ciphertext m : Bytes}
  {g : PrivateKey}

/-- The turn to a key starts with no skipped keys or keeps those there are. -/
theorem turnTo_keeps (s : RatchetState) (q : BytesN 32) (g : PrivateKey) :
    ((turnTo P q g s).skippedKeys = [] ∨ (turnTo P q g s).skippedKeys = s.skippedKeys)
      ∧ (turnTo P q g s).recvN ≤ s.recvN := by
  unfold turnTo
  split
  · exact ⟨Or.inr rfl, Nat.le_refl _⟩
  · split
    · exact ⟨Or.inl rfl, Nat.zero_le _⟩
    · exact ⟨Or.inr rfl, Nat.le_refl _⟩

theorem Representable.turnTo (hs : Representable s) (q : BytesN 32) (g : PrivateKey) :
    KeyTexts (turnTo P q g s).skippedKeys := by
  rcases (turnTo_keeps (P := P) s q g).1 with hnone | hsame
  · rw [hnone]
    exact fun entry hentry => by cases hentry
  · rw [hsame]
    exact hs.skipped

/-- What a payload holds is what its ciphertext decrypts to under the key of its position. -/
theorem opened_iff :
    opened P s q prevN n ciphertext = some m ↔
      ∃ c key, s.recvChainKey = some c ∧ positionKey P s q n c = some key
        ∧ xchachaDecrypt P key ciphertext (headerAad q prevN n) = .ok m := by
  have hvalue : ∀ x : Except String Bytes, x.toOption = some m ↔ x = .ok m := by
    intro x
    cases x with
    | ok plaintext => simp [Except.toOption]
    | error e => simp [Except.toOption]
  unfold opened
  cases hchain : s.recvChainKey with
  | none =>
      constructor
      · intro h
        cases h
      · rintro ⟨c, key, hc, -⟩
        cases hc
  | some c =>
      constructor
      · intro h
        obtain ⟨key, hkey, hplain⟩ := Option.bind_eq_some_iff.mp h
        exact ⟨c, key, rfl, hkey, (hvalue _).mp hplain⟩
      · rintro ⟨c', key, hc, hkey, hplain⟩
        cases hc
        exact Option.bind_eq_some_iff.mpr ⟨key, hkey, (hvalue _).mpr hplain⟩

/-- `decrypt_inner` returns what the payload holds, unless the counter overflows. -/
theorem openPayload_ok_iff :
    (∃ t, (openPayload P q prevN n ciphertext g).run s = .ok m t)
      ↔ opened P (turnTo P q g s) q prevN n ciphertext = some m
        ∧ (n < (turnTo P q g s).recvN ∨ n + 1 < 2 ^ 32) := by
  constructor
  · rintro ⟨t, hrun⟩
    rw [openPayload, run_modify_bind, run_get_bind] at hrun
    cases hchain : (turnTo P q g s).recvChainKey with
    | none =>
        rw [hchain] at hrun
        cases hrun
    | some c =>
        simp only [hchain] at hrun
        obtain ⟨⟨key, c'⟩, t₁, hreceive, hrest⟩ := run_bind_ok.mp hrun
        rw [run_modify_bind] at hrest
        obtain ⟨hdecrypt, -⟩ := run_orRaise_eq_ok.mp hrest
        obtain ⟨hkey, hfits⟩ := receiveKey_ok hreceive
        exact ⟨opened_iff.mpr ⟨c, key, hchain, hkey, hdecrypt⟩, hfits⟩
  · rintro ⟨hopen, hfits⟩
    obtain ⟨c, key, hchain, hkey, hdecrypt⟩ := opened_iff.mp hopen
    obtain ⟨c', t, hreceive⟩ := receiveKey_some hkey hfits
    simp only [openPayload, EStateM.run_bind, EStateM.run_get, EStateM.run_modify, hchain,
      hreceive, hdecrypt, run_orRaise_ok]
    exact ⟨_, rfl⟩

/-- The guarded part of Python's `decrypt` returns what the payload holds. -/
theorem view_openPayload_ok (hs : Representable s) (hex : ProperKey P q) (hp : prevN < 2 ^ 32)
    (hn : n < 2 ^ 32) (hopen : opened P (turnTo P q g s) q prevN n ciphertext = some m) :
    ∃ t, (Yakr.RatchetState.openPayload P q.1 prevN n ciphertext g).run s.view = .ok m t := by
  have hturn := turnTo_eq (P := P) s q g hex
  obtain ⟨c, key, hchain, hkey, hdecrypt⟩ := opened_iff.mp hopen
  have hview : (turnTo P q g s).view.recvChainKey = some c.1 := by rw [view, hchain]; rfl
  obtain ⟨t, ht, -⟩ := view_receiveKey_some (hs.turnTo q g) hchain hkey
  simp only [Yakr.RatchetState.openPayload, EStateM.run_bind, hturn, EStateM.run_get, hview, ht,
    headerAad_eq q hp hn, run_orRaise_ok, xchachaDecrypt_eq.mp hdecrypt]
  exact ⟨t, rfl⟩

/-- Where it fails, it leaves the skipped keys of the attempt. -/
theorem view_openPayload_error (hs : Representable s) (hex : ProperKey P q)
    (hp : prevN < 2 ^ 32) (hn : n < 2 ^ 32)
    (hopen : opened P (turnTo P q g s) q prevN n ciphertext = none) :
    ∃ e t, (Yakr.RatchetState.openPayload P q.1 prevN n ciphertext g).run s.view = .error e t
      ∧ t.skippedKeys = triedTable P (turnTo P q g s) q n := by
  have hturn := turnTo_eq (P := P) s q g hex
  cases hchain : (turnTo P q g s).recvChainKey with
  | none =>
      have hview : (turnTo P q g s).view.recvChainKey = none := by rw [view, hchain]; rfl
      simp only [Yakr.RatchetState.openPayload, EStateM.run_bind, hturn, EStateM.run_get, hview,
        run_raise, triedTable, hchain]
      exact ⟨_, _, rfl, rfl⟩
  | some c =>
      have hview : (turnTo P q g s).view.recvChainKey = some c.1 := by rw [view, hchain]; rfl
      simp only [triedTable, hchain]
      cases hkey : positionKey P (turnTo P q g s) q n c with
      | none =>
          obtain ⟨e, he⟩ := view_receiveKey_none (hs.turnTo q g) hkey
          have hsame : positionTable P (turnTo P q g s) q n c = (turnTo P q g s).skippedKeys :=
            positionTable_of_none hkey
          simp only [Yakr.RatchetState.openPayload, EStateM.run_bind, hturn, EStateM.run_get,
            hview, he, hsame]
          exact ⟨_, _, rfl, rfl⟩
      | some key =>
          obtain ⟨t, ht, htable⟩ := view_receiveKey_some (hs.turnTo q g) hchain hkey
          simp only [Yakr.RatchetState.openPayload, EStateM.run_bind, hturn, EStateM.run_get,
            hview, ht, headerAad_eq q hp hn, run_orRaise_ok]
          cases hdecrypt : Yakr.xchachaDecrypt P key.1 ciphertext (headerAad q prevN n) with
          | ok plaintext =>
              have hsome := opened_iff.mpr ⟨c, key, hchain, hkey, xchachaDecrypt_eq.mpr hdecrypt⟩
              rw [hopen] at hsome
              cases hsome
          | error e => exact ⟨e, t, rfl, htable⟩

end Attempt

/-! ### `decrypt` -/

section Decrypt

variable {s : RatchetState} {payload : Bytes} {g : PrivateKey}

/-- A state that keys of 32 bytes make up is restored as it was, but for the skipped keys. -/
theorem rolledBack_view (s : RatchetState) (skipped : List (String × String)) :
    s.view.rolledBack skipped = { s with skippedKeys := skipped }.view := by
  have hkey : ∀ key : Option (BytesN 32),
      (key.map Subtype.val).bind orNone = key.map Subtype.val := by
    intro key
    cases key with
    | none => rfl
    | some k =>
        have hne : k.1 ≠ [] := by
          intro hnil
          have hlen := k.2
          rw [hnil] at hlen
          cases hlen
        simp [orNone, hne]
  simp only [Yakr.RatchetState.rolledBack, view, hkey]

/-- `decrypt` of a well-formed payload is `decrypt_inner`, with the state restored on
failure. -/
theorem decrypt_run (hw : Yakr.RatchetState.WellFormed payload) {q : BytesN 32}
    (hq : q.1 = Yakr.RatchetState.headerPublic payload) :
    (decrypt P g payload).run s =
      match (openPayload P q (Bytes.toNatBE ((payload.drop 37).take 4))
          (Yakr.RatchetState.messageNumber payload) (payload.drop 45) g).run s with
      | .ok plaintext t => .ok plaintext t
      | .error e _ => .error e s := by
  have hlen : ¬ payload.length < 5 + 32 + 8 := hw.1
  have hkey : (⟨(payload.drop 5).take 32, by simp; omega⟩ : BytesN 32) = q := Subtype.ext hq.symm
  simp only [decrypt, decryptInner, EStateM.run_bind, EStateM.run_get, run_tryCatch, dif_neg hlen,
    hw.2, ne_eq, not_true_eq_false, if_false, hkey, Yakr.RatchetState.messageNumber]
  split
  · rename_i hrun
    simp only [hrun]
  · rename_i hrun
    simp only [hrun, EStateM.run_set, run_raise]

/-- Every other payload is refused, and the state is left alone. -/
theorem decrypt_malformed (hw : ¬ Yakr.RatchetState.WellFormed payload) :
    ∃ e, (decrypt P g payload).run s = .error e s := by
  by_cases hshort : payload.length < 5 + 32 + 8
  · refine ⟨"ratchet payload too short", ?_⟩
    simp only [decrypt, decryptInner, EStateM.run_bind, EStateM.run_get, run_tryCatch,
      dif_pos hshort, run_raise, EStateM.run_set]
  · have hmagic : ¬ payload.take 5 = ratchetMagic := fun h => hw ⟨hshort, h⟩
    refine ⟨"invalid ratchet header", ?_⟩
    simp only [decrypt, decryptInner, EStateM.run_bind, EStateM.run_get, run_tryCatch,
      dif_neg hshort, ne_eq, hmagic, not_false_eq_true, if_true, run_raise, EStateM.run_set]

section Parsed

variable (hs : Representable s) (hw : Yakr.RatchetState.WellFormed payload) {q : BytesN 32}
  (hq : q.1 = Yakr.RatchetState.headerPublic payload)
include hs hw hq

/-- Rust returns what the payload holds, unless its number is the last one. -/
theorem decrypt_ok_iff {m : Bytes} :
    (∃ t, (decrypt P g payload).run s = .ok m t)
      ↔ held P s g q payload = some m ∧ Yakr.RatchetState.messageNumber payload ≠ 2 ^ 32 - 1 := by
  have hn : Yakr.RatchetState.messageNumber payload < 2 ^ 32 :=
    toNatBE_take_four_lt (payload.drop 41)
  have hle := (turnTo_keeps (P := P) s q g).2
  have hrecv := hs.recvN
  have hcounted : (Yakr.RatchetState.messageNumber payload < (turnTo P q g s).recvN
      ∨ Yakr.RatchetState.messageNumber payload + 1 < 2 ^ 32)
      ↔ Yakr.RatchetState.messageNumber payload ≠ 2 ^ 32 - 1 := by omega
  rw [← hcounted, held, ← openPayload_ok_iff, decrypt_run hw hq]
  split
  · rename_i hrun
    simp [hrun]
  · rename_i hrun
    simp [hrun]

/-- It fails on every other payload. -/
theorem decrypt_error_of_held (hheld : held P s g q payload = none) :
    ∃ e, (decrypt P g payload).run s = .error e s := by
  cases hrun : (decrypt P g payload).run s with
  | error e t => exact ⟨e, by rw [decrypt_error hrun]⟩
  | ok m t =>
      have hsome := ((decrypt_ok_iff hs hw hq).mp ⟨t, hrun⟩).1
      rw [hheld] at hsome
      cases hsome

variable (hex : ProperKey P q)
include hex

/-- Python returns what the payload holds. -/
theorem view_decrypt_ok {m : Bytes} (hheld : held P s g q payload = some m) :
    ∃ t, (Yakr.RatchetState.decrypt P g payload).run s.view = .ok m t := by
  obtain ⟨t, ht⟩ := view_openPayload_ok hs hex (toNatBE_take_four_lt _) (toNatBE_take_four_lt _)
    hheld
  rw [hq] at ht
  exact ⟨t, Yakr.RatchetState.decrypt_eq_ok.mpr ⟨hw, ht⟩⟩

/-- Where it fails, Python keeps the skipped keys of the attempt. -/
theorem view_decrypt_error (hheld : held P s g q payload = none) :
    ∃ e, (Yakr.RatchetState.decrypt P g payload).run s.view
      = .error e { s with skippedKeys := tried P s g q payload }.view := by
  obtain ⟨e, t, ht, htable⟩ := view_openPayload_error hs hex (toNatBE_take_four_lt _)
    (toNatBE_take_four_lt _) hheld
  rw [hq] at ht
  have hparsed : (Yakr.RatchetState.openParsed P g payload).run s.view = .error e t := ht
  have htried : t.skippedKeys = tried P s g q payload := htable
  refine ⟨e, ?_⟩
  rw [Yakr.RatchetState.decrypt_run hw]
  simp only [hparsed, rolledBack_view, htried]

end Parsed

/-- The header's key of a well-formed payload is 32 bytes. -/
theorem exists_headerPublic (hw : Yakr.RatchetState.WellFormed payload) :
    ∃ q : BytesN 32, q.1 = Yakr.RatchetState.headerPublic payload := by
  have hlen : ¬ payload.length < 5 + 32 + 8 := hw.1
  refine ⟨⟨Yakr.RatchetState.headerPublic payload, ?_⟩, rfl⟩
  rw [Yakr.RatchetState.headerPublic, List.length_take, List.length_drop]
  omega

/-- **When `decrypt` agrees.** Exactly when a payload that opens does not have the last number
and the attempt at one that does not open leaves the skipped keys as they were. -/
theorem decrypt_agrees_iff (hs : Representable s)
    (hex : ∀ q : BytesN 32, q.1 = Yakr.RatchetState.headerPublic payload → ProperKey P q) :
    Agrees ((Yakr.RatchetState.decrypt P g payload).run s.view) ((decrypt P g payload).run s)
      ↔ KeepsStep P s g payload := by
  by_cases hw : Yakr.RatchetState.WellFormed payload
  · obtain ⟨q, hq⟩ := exists_headerPublic hw
    have hkeeps : KeepsStep P s g payload
        ↔ match held P s g q payload with
          | some _ => Yakr.RatchetState.messageNumber payload ≠ 2 ^ 32 - 1
          | none => SameTable (tried P s g q payload) s.skippedKeys := by
      refine ⟨fun h => h hw q hq, fun h _ q' hq' => ?_⟩
      obtain rfl : q' = q := Subtype.ext (hq'.trans hq.symm)
      exact h
    rw [hkeeps]
    cases hheld : held P s g q payload with
    | some m =>
        by_cases hlast : Yakr.RatchetState.messageNumber payload = 2 ^ 32 - 1
        · refine iff_of_false ?_ (not_not_intro hlast)
          intro hagrees
          -- Python returns, Rust does not
          obtain ⟨t, ht⟩ := view_decrypt_ok hs hw hq (hex q hq) hheld
          have hreturns := (hagrees.returns m).mp (by rw [ht, outcome_ok])
          obtain ⟨t', ht'⟩ := outcome_eq_ok.mp hreturns
          exact ((decrypt_ok_iff hs hw hq).mp ⟨t', ht'⟩).2 hlast
        · refine iff_of_true ?_ hlast
          obtain ⟨t, ht⟩ := (decrypt_ok_iff hs hw hq).mpr ⟨hheld, hlast⟩
          rw [ht, decrypt_eq_of_exchange hex ht]
          exact agrees_ok m t
    | none =>
        obtain ⟨e, he⟩ := view_decrypt_error hs hw hq (hex q hq) hheld
        obtain ⟨e', he'⟩ := decrypt_error_of_held hs hw hq hheld
        rw [he, he']
        constructor
        · intro hagrees
          exact hagrees.state.2
        · intro hsame
          refine ⟨fun data => by simp, ?_⟩
          rw [after_error, after_error, toDict_view]
          exact ⟨rfl, hsame⟩
  · obtain ⟨e, he⟩ := Yakr.RatchetState.decrypt_malformed (P := P) hw g s.view
    obtain ⟨e', he'⟩ := decrypt_malformed (P := P) (s := s) (g := g) hw
    rw [he, he']
    exact iff_of_true (agrees_error e e' s) fun hw' => absurd hw' hw

end Decrypt

/-! ### `encrypt` -/

section Encrypt

variable {s : RatchetState} {g : PrivateKey} {nonce : Nonce} {plaintext : Bytes}

theorem pairingSendInit_eq (s : RatchetState) {peer : BytesN 32} (hex : ProperKey P peer)
    (g : PrivateKey) :
    (Yakr.RatchetState.pairingSendInit P peer.1 g).run s.view
      = .ok () (pairingSendInit P peer g s).view := by
  have hlen : ¬ peer.1.length ≠ 32 := not_not_intro peer.2
  have hself := sharedSecret_eq (hex s.dhSelfPrivate)
  have hnew := sharedSecret_eq (hex g)
  simp only [Yakr.RatchetState.pairingSendInit, EStateM.run_bind, if_neg hlen,
    EStateM.run_modify, EStateM.run_get, view, loadPrivate_val, run_orRaise_ok, hself, hnew,
    kdfRk_eq]
  rfl

/-- The pairing key is taken in both. -/
theorem takePendingPeer_eq (hex : ∀ peer, s.pendingPairingDhRatchetPeer = some peer → ProperKey P peer)
    (g : PrivateKey) :
    (Yakr.RatchetState.takePendingPeer P g).run s.view = .ok () (taken P g s).view := by
  cases hpending : s.pendingPairingDhRatchetPeer with
  | none =>
      have hview : s.view.pendingPairingDhRatchetPeer = none := by rw [view, hpending]; rfl
      simp only [Yakr.RatchetState.takePendingPeer, EStateM.run_bind, EStateM.run_get, hview,
        EStateM.run_pure, taken, hpending]
  | some peer =>
      have hview : s.view.pendingPairingDhRatchetPeer = some peer.1 := by rw [view, hpending]; rfl
      have hinit := pairingSendInit_eq (P := P)
        { s with pendingPairingDhRatchetPeer := none } (hex peer hpending) g
      simp only [Yakr.RatchetState.takePendingPeer, EStateM.run_bind, EStateM.run_get, hview,
        EStateM.run_modify, taken, hpending]
      exact hinit

/-- Taking the pairing key starts the counters of a chain. -/
theorem taken_counters (hs : Representable s) (g : PrivateKey) :
    (taken P g s).sendN + 1 < 2 ^ 32 ∧ (taken P g s).prevSendN < 2 ^ 32 := by
  have hsend := hs.sendN
  have hprev := hs.prevSendN
  cases hpending : s.pendingPairingDhRatchetPeer with
  | none =>
      simp only [taken, hpending]
      omega
  | some peer =>
      simp only [taken, hpending, pairingSendInit]
      omega

/-- **`encrypt` agrees** on every state that both languages can hold. -/
theorem encrypt_agrees (hs : Representable s)
    (hex : ∀ peer, s.pendingPairingDhRatchetPeer = some peer → ProperKey P peer) :
    Agrees ((Yakr.RatchetState.encrypt P g nonce plaintext).run s.view)
      ((encrypt P g nonce plaintext).run s) := by
  obtain ⟨hsend, hprev⟩ := taken_counters (P := P) hs g
  have htake := takePendingPeer_eq hex g
  rw [encrypt_run]
  cases hchain : (taken P g s).sendChainKey with
  | none =>
      have hview : (taken P g s).view.sendChainKey = none := by rw [view, hchain]; rfl
      simp only [Yakr.RatchetState.encrypt, Yakr.RatchetState.nextSendKey, EStateM.run_bind, htake,
        EStateM.run_get, hview, run_raise, sealNext, hchain]
      exact agrees_error _ _ _
  | some c =>
      have hview : (taken P g s).view.sendChainKey = some c.1 := by rw [view, hchain]; rfl
      have haad : Yakr.RatchetState.headerAad (taken P g s).view.dhSelfPublic
          (taken P g s).view.prevSendN (taken P g s).view.sendN
          = .ok (headerAad (taken P g s).dhSelfPublic (taken P g s).prevSendN (taken P g s).sendN) :=
        headerAad_eq (taken P g s).dhSelfPublic hprev (Nat.lt_of_succ_lt hsend)
      have hseal : ∀ aad, Yakr.xchachaEncrypt P nonce (kdfCk P c).1.1 plaintext aad
          = .ok (xchachaEncrypt P nonce (kdfCk P c).1 plaintext aad) :=
        fun aad => by rw [Yakr.xchachaEncrypt, dif_pos (kdfCk P c).1.2, xchachaEncrypt]
      simp only [Yakr.RatchetState.encrypt, Yakr.RatchetState.nextSendKey, EStateM.run_bind, htake,
        EStateM.run_get, hview, EStateM.run_modify, EStateM.run_pure, kdfCk_eq, sealNext, hchain,
        addU32, if_pos hsend, run_orRaise_ok, haad, hseal]
      exact agrees_ok _ { taken P g s with
        sendChainKey := some (kdfCk P c).2, sendN := (taken P g s).sendN + 1 }

end Encrypt

/-- **When the two ratchets are one machine.** On every state that both languages can hold,
`encrypt` returns the same payload and leaves the same state, and `decrypt` does so for
exactly the payloads that keep to the step. -/
theorem sameMachine_iff (hs : Representable s) :
    (∀ (g : PrivateKey) (payload : Bytes),
      (∀ q : BytesN 32, q.1 = Yakr.RatchetState.headerPublic payload → ProperKey P q) →
      (Agrees ((Yakr.RatchetState.decrypt P g payload).run s.view) ((decrypt P g payload).run s)
        ↔ KeepsStep P s g payload))
    ∧ ∀ (g : PrivateKey) (nonce : Nonce) (plaintext : Bytes),
      (∀ peer, s.pendingPairingDhRatchetPeer = some peer → ProperKey P peer) →
      Agrees ((Yakr.RatchetState.encrypt P g nonce plaintext).run s.view)
        ((encrypt P g nonce plaintext).run s) :=
  ⟨fun _ _ hex => decrypt_agrees_iff hs hex, fun _ _ _ hex => encrypt_agrees hs hex⟩

namespace CutSample

def peer : BytesN 32 := BytesN.fill 32 9

def generated : PrivateKey := BytesN.fill 32 4

/-- A paired state that has received nothing yet. -/
def state : RatchetState :=
  { fromMaster plainPackages (List.replicate 32 5) false false (BytesN.fill 32 3) with
    dhPeerPublic := some peer }

/-- The key of its first position. -/
def firstKey : BytesN 32 :=
  (kdfCk plainPackages (state.recvChainKey.getD (BytesN.fill 32 0))).1

/-- A payload at the first position. -/
def first : Bytes :=
  headerAad peer 0 0
    ++ xchachaEncrypt plainPackages (BytesN.fill 24 1) firstKey [104, 105]
      (headerAad peer 0 0)

/-- A header of the second position and nothing behind it. -/
def cut : Bytes := headerAad peer 0 1

theorem representable : Representable state where
  sendN := by decide
  recvN := by decide
  prevSendN := by decide
  skipped := fun entry hentry => by cases hentry

theorem proper (q : BytesN 32) : ProperKey plainPackages q := fun _ => rfl

theorem keepsStep_first : KeepsStep plainPackages state generated first := by
  intro _ q hq
  have hpeer : q = peer := Subtype.ext (hq.trans (by decide +kernel))
  have hheld : held plainPackages state generated peer first = some [104, 105] := by
    decide +kernel
  rw [hpeer, hheld]
  show Yakr.RatchetState.messageNumber first ≠ 2 ^ 32 - 1
  decide +kernel

end CutSample

open CutSample in
theorem sameMachine_first :
    Agrees ((Yakr.RatchetState.decrypt plainPackages generated first).run state.view)
      ((decrypt plainPackages generated first).run state) :=
  ((sameMachine_iff representable).1 generated first fun q _ => proper q).mpr keepsStep_first

open CutSample in
/-- Both refuse the payload that is cut off, and only Python keeps the key it has skipped. -/
theorem not_sameMachine_cut :
    ¬ Agrees ((Yakr.RatchetState.decrypt plainPackages generated cut).run state.view)
      ((decrypt plainPackages generated cut).run state) := by
  intro hagrees
  have hkept := hagrees.state.2 (Yakr.RatchetState.skipKeyId peer.1 0)
  revert hkept
  decide +kernel

end RatchetState
end Rust
end Yakr
