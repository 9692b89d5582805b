import Yakr.Ratchet.Conversation
import Mathlib.Data.List.Forall2

/-!
# Yakr.Ratchet.Delivery

**Every payload opens to its plaintext.** The invariant of a conversation: its
ratchets fit together (`Leads`), the payloads in flight are consecutive slots that
start where their channel stands, and each receiver is behind its channel by
exactly the losses the channel counted. The limits on skipping are then never
reached.
-/

namespace Yakr

open Lib Effect RatchetState

variable {P : Packages}

/-! ### Consecutive slots -/

/-- Number `n` under `dhPublic` comes after `taken` payloads under the header key
`epoch`: it is the next one, or the first one of another key. -/
def Follows (epoch : Option Bytes) (taken : Nat) (dhPublic : Bytes) (n : Nat) : Prop :=
  if epoch = some dhPublic then n = taken else n = 0

/-- The slots are numbered on from a position, each key from zero. -/
def Consecutive : (epoch : Option Bytes) → (taken : Nat) → List Slot → Prop
  | _, _, [] => True
  | epoch, taken, w :: ws =>
      Follows epoch taken w.dhPublic w.n ∧ Consecutive (some w.dhPublic) (w.n + 1) ws

/-- The position after the slots. -/
def endPosition : (epoch : Option Bytes) → (taken : Nat) → List Slot → Option Bytes × Nat
  | epoch, taken, [] => (epoch, taken)
  | _, _, w :: ws => endPosition (some w.dhPublic) (w.n + 1) ws

@[simp] theorem endPosition_concat (epoch : Option Bytes) (taken : Nat) (ws : List Slot)
    (w : Slot) : endPosition epoch taken (ws ++ [w]) = (some w.dhPublic, w.n + 1) := by
  induction ws generalizing epoch taken with
  | nil => rfl
  | cons v ws ih => exact ih _ _

theorem Consecutive.concat {epoch : Option Bytes} {taken : Nat} {ws : List Slot} {w : Slot}
    (h : Consecutive epoch taken ws)
    (hw : Follows (endPosition epoch taken ws).1 (endPosition epoch taken ws).2 w.dhPublic w.n) :
    Consecutive epoch taken (ws ++ [w]) := by
  induction ws generalizing epoch taken with
  | nil => exact ⟨hw, trivial⟩
  | cons v ws ih => exact ⟨h.1, ih h.2 hw⟩

/-- The key of the last slot, if there is one, is the key of the end position. -/
theorem endPosition_key {epoch : Option Bytes} {ws : List Slot} {pub : Bytes} (taken : Nat)
    (hepoch : epoch = none ∨ epoch = some pub) (hws : ∀ w ∈ ws, w.dhPublic = pub) :
    (endPosition epoch taken ws).1 = none ∨ (endPosition epoch taken ws).1 = some pub := by
  induction ws generalizing epoch taken with
  | nil => exact hepoch
  | cons w ws ih =>
      refine ih _ (Or.inr ?_) fun v hv => hws v (List.mem_cons_of_mem w hv)
      rw [hws w List.mem_cons_self]

/-! ### Losses and skipped keys -/

/-- Where the receiver `y` of a channel stands: it has read all but the last
`lostRun` of the `taken` payloads, or it has read none of them and the channel's
header key is new to it. -/
structure Account (y : RatchetState) (ch : Channel) (slots : List Slot) (taken : Nat) : Prop where
  lostRun_le : ch.lostRun ≤ maxSkipGap
  lostEpoch_le : ch.lostEpoch ≤ maxSkippedKeys
  lostRun_le_lostEpoch : ch.lostRun ≤ ch.lostEpoch
  untouched : ch.epoch = none → taken = 0 ∧ ch.lostRun = 0 ∧ ch.lostEpoch = 0
  reading : ch.epoch = none ∨ y.dhPeerPublic = none ∨ ch.epoch = y.dhPeerPublic →
    y.recvN + ch.lostRun = taken ∧ y.skippedKeys.length + ch.lostRun ≤ ch.lostEpoch
  turning : ch.epoch ≠ none → y.dhPeerPublic ≠ none → ch.epoch ≠ y.dhPeerPublic →
    ch.lostRun = taken ∧ ∀ w ∈ slots, y.dhPeerPublic ≠ some w.dhPublic

namespace Account

variable {y y' : RatchetState} {ch : Channel} {w : Slot} {slots : List Slot} {taken : Nat}

/-- What the account says about the oldest slot on its way. -/
theorem head (h : Account y ch (w :: slots) taken)
    (hnext : Follows ch.epoch taken w.dhPublic w.n)
    (hunread : y.dhPeerPublic = none → ch.epoch = none ∨ ch.epoch = some w.dhPublic) :
    (y.dhPeerPublic = none ∨ y.dhPeerPublic = some w.dhPublic →
      w.n = y.recvN + ch.lostRun ∧ y.skippedKeys.length + ch.lostRun
        ≤ (if ch.epoch = some w.dhPublic then ch.lostEpoch else 0))
    ∧ (¬ (y.dhPeerPublic = none ∨ y.dhPeerPublic = some w.dhPublic) →
      (ch.epoch = some w.dhPublic ∧ w.n = ch.lostRun)
        ∨ (ch.epoch ≠ some w.dhPublic ∧ w.n = 0)) := by
  rw [Follows] at hnext
  by_cases hsame : ch.epoch = some w.dhPublic
  · rw [if_pos hsame] at hnext ⊢
    constructor
    · intro hpeer
      have hread : ch.epoch = none ∨ y.dhPeerPublic = none ∨ ch.epoch = y.dhPeerPublic :=
        hpeer.elim (fun e => Or.inr (Or.inl e)) (fun e => Or.inr (Or.inr (by rw [hsame, e])))
      have := h.reading hread
      omega
    · intro hpeer
      have hne : ch.epoch ≠ none := by
        rw [hsame]
        exact Option.some_ne_none _
      have hother : ch.epoch ≠ y.dhPeerPublic := fun e => hpeer (Or.inr (by rw [← e, hsame]))
      have := h.turning hne (fun e => hpeer (Or.inl e)) hother
      exact Or.inl ⟨hsame, by omega⟩
  · rw [if_neg hsame] at hnext ⊢
    constructor
    · intro hpeer
      -- the receiver knows the key already, so the channel has not been touched
      have hnone : ch.epoch = none := by
        rcases hpeer with hpeer | hpeer
        · exact (hunread hpeer).resolve_right hsame
        · by_contra hne
          have hother : ch.epoch ≠ y.dhPeerPublic := fun e => hsame (by rw [e, hpeer])
          have hknown : y.dhPeerPublic ≠ none := by
            rw [hpeer]
            exact Option.some_ne_none _
          exact (h.turning hne hknown hother).2 w List.mem_cons_self hpeer
      have hzero := h.untouched hnone
      have := h.reading (Or.inl hnone)
      omega
    · exact fun _ => Or.inr ⟨hsame, hnext⟩

/-- The limits on skipping leave room for the oldest slot. -/
theorem window (h : Account y ch (w :: slots) taken)
    (hnext : Follows ch.epoch taken w.dhPublic w.n)
    (hunread : y.dhPeerPublic = none → ch.epoch = none ∨ ch.epoch = some w.dhPublic) :
    Window y w := by
  obtain ⟨hread, hturn⟩ := h.head hnext hunread
  have hrun := h.lostRun_le
  have hepoch := h.lostEpoch_le
  rw [Window]
  split
  · rename_i hpeer
    obtain ⟨hn, hskip⟩ := hread hpeer
    constructor
    · omega
    · split at hskip <;> omega
  · rename_i hpeer
    rcases hturn hpeer with ⟨-, hn⟩ | ⟨-, hn⟩ <;> omega

/-- The receiver reads the oldest slot. -/
theorem deliver (h : Account y ch (w :: slots) taken)
    (hnext : Follows ch.epoch taken w.dhPublic w.n)
    (hunread : y.dhPeerPublic = none → ch.epoch = none ∨ ch.epoch = some w.dhPublic)
    {g : PrivateKey} (hopened : Opened P g y y' w) (rest : List Wire) :
    Account y' (ch.delivered w.dhPublic rest) slots (w.n + 1) := by
  obtain ⟨hread, hturn⟩ := h.head hnext hunread
  have hepoch := h.lostEpoch_le
  have hle := h.lostRun_le_lostEpoch
  have hskipped : y'.skippedKeys.length
      ≤ if ch.epoch = some w.dhPublic then ch.lostEpoch else 0 := by
    refine hopened.skipped.trans ?_
    rw [skippedAfter]
    split
    · rename_i hpeer
      obtain ⟨hn, hskip⟩ := hread hpeer
      omega
    · rename_i hpeer
      rcases hturn hpeer with ⟨hsame, hn⟩ | ⟨hsame, hn⟩
      · rw [if_pos hsame]
        omega
      · omega
  refine ⟨Nat.zero_le _, ?_, Nat.zero_le _, fun hnone => (Option.some_ne_none _ hnone).elim,
    ?_, ?_⟩
  · show (if ch.epoch = some w.dhPublic then ch.lostEpoch else 0) ≤ maxSkippedKeys
    split <;> omega
  · intro _
    exact ⟨by rw [hopened.recvN]; rfl, hskipped⟩
  · intro _ _ hother
    exact absurd hopened.dhPeerPublic.symm hother

/-- The oldest slot is lost. -/
theorem lose (h : Account y ch (w :: slots) taken)
    (hnext : Follows ch.epoch taken w.dhPublic w.n)
    (hunread : y.dhPeerPublic = none → ch.epoch = none ∨ ch.epoch = some w.dhPublic)
    (hlater : y.dhPeerPublic ≠ some w.dhPublic → ∀ v ∈ slots, y.dhPeerPublic ≠ some v.dhPublic)
    {rest : List Wire} (hrun : (ch.lost w.dhPublic rest).lostRun ≤ maxSkipGap)
    (hepoch : (ch.lost w.dhPublic rest).lostEpoch ≤ maxSkippedKeys) :
    Account y (ch.lost w.dhPublic rest) slots (w.n + 1) := by
  obtain ⟨hread, hturn⟩ := h.head hnext hunread
  have hle := h.lostRun_le_lostEpoch
  refine ⟨hrun, hepoch, ?_, fun hnone => (Option.some_ne_none _ hnone).elim, ?_, ?_⟩
  · show (if ch.epoch = some w.dhPublic then ch.lostRun + 1 else 1)
      ≤ if ch.epoch = some w.dhPublic then ch.lostEpoch + 1 else 1
    split <;> omega
  · intro hpeer
    have hknown : y.dhPeerPublic = none ∨ y.dhPeerPublic = some w.dhPublic := by
      rcases hpeer with hpeer | hpeer | hpeer
      · exact (Option.some_ne_none _ hpeer).elim
      · exact Or.inl hpeer
      · exact Or.inr hpeer.symm
    obtain ⟨hn, hskip⟩ := hread hknown
    show y.recvN + (if ch.epoch = some w.dhPublic then ch.lostRun + 1 else 1) = w.n + 1
      ∧ y.skippedKeys.length + (if ch.epoch = some w.dhPublic then ch.lostRun + 1 else 1)
        ≤ if ch.epoch = some w.dhPublic then ch.lostEpoch + 1 else 1
    split at hskip
    · rename_i hsame
      rw [if_pos hsame, if_pos hsame]
      omega
    · rename_i hsame
      rw [if_neg hsame, if_neg hsame]
      -- nothing was lost before, as the channel has not been touched
      have hnone : ch.epoch = none := by
        by_contra hne
        rw [Follows, if_neg hsame] at hnext
        rcases hknown with hknown | hknown
        · exact hsame ((hunread hknown).resolve_left hne)
        · have hpeer' : y.dhPeerPublic ≠ none := by
            rw [hknown]
            exact Option.some_ne_none _
          have hother : ch.epoch ≠ y.dhPeerPublic := fun e => hsame (by rw [e, hknown])
          exact (h.turning hne hpeer' hother).2 w List.mem_cons_self hknown
      have := h.untouched hnone
      omega
  · intro _ hpeer hother
    have hunknown : y.dhPeerPublic ≠ some w.dhPublic := fun e => hother e.symm
    refine ⟨?_, hlater hunknown⟩
    show (if ch.epoch = some w.dhPublic then ch.lostRun + 1 else 1) = w.n + 1
    rcases hturn (fun e => e.elim hpeer hunknown) with ⟨hsame, hn⟩ | ⟨hsame, hn⟩
    · rw [if_pos hsame, hn]
    · rw [if_neg hsame, hn]

/-- One more payload of a chain the receiver is not past. -/
theorem push (h : Account y ch slots taken)
    (hnew : ch.epoch ≠ none → y.dhPeerPublic ≠ none → ch.epoch ≠ y.dhPeerPublic →
      y.dhPeerPublic ≠ some w.dhPublic) (wire : Wire) :
    Account y (ch.push wire) (slots ++ [w]) taken := by
  refine ⟨h.lostRun_le, h.lostEpoch_le, h.lostRun_le_lostEpoch, h.untouched, h.reading, ?_⟩
  intro hepoch hpeer hother
  refine ⟨(h.turning hepoch hpeer hother).1, fun v hv => ?_⟩
  rcases List.mem_append.mp hv with hv | hv
  · exact (h.turning hepoch hpeer hother).2 v hv
  · obtain rfl := List.mem_singleton.mp hv
    exact hnew hepoch hpeer hother

/-- A receiver that reads the channel's chain may learn the peer key of that chain. -/
theorem reader (h : Account y ch slots taken)
    (hreads : ch.epoch = none ∨ y.dhPeerPublic = none ∨ ch.epoch = y.dhPeerPublic)
    (hreads' : ch.epoch = none ∨ y'.dhPeerPublic = none ∨ ch.epoch = y'.dhPeerPublic)
    (hrecv : y'.recvN = y.recvN) (hskipped : y'.skippedKeys = y.skippedKeys) :
    Account y' ch slots taken := by
  refine ⟨h.lostRun_le, h.lostEpoch_le, h.lostRun_le_lostEpoch, h.untouched, ?_, ?_⟩
  · rw [hrecv, hskipped]
    exact fun _ => h.reading hreads
  · intro hepoch hpeer hother
    rcases hreads' with e | e | e
    · exact absurd e hepoch
    · exact absurd e hpeer
    · exact absurd e hother

/-- An account is about three fields of the receiver. -/
theorem congr (h : Account y ch slots taken) (hpeer : y'.dhPeerPublic = y.dhPeerPublic)
    (hrecv : y'.recvN = y.recvN) (hskipped : y'.skippedKeys = y.skippedKeys) :
    Account y' ch slots taken := by
  refine ⟨h.lostRun_le, h.lostEpoch_le, h.lostRun_le_lostEpoch, h.untouched, ?_, ?_⟩
  · rw [hpeer, hrecv, hskipped]
    exact h.reading
  · rw [hpeer]
    exact h.turning

end Account

/-! ### One direction -/

/-- The way from sender `x` to receiver `y`, with the slots in flight on it. -/
structure Direction (P : Packages) (x y : RatchetState) (ch : Channel) (slots : List Slot)
    (taken : Nat) : Prop where
  carries : List.Forall₂ (fun w slot => Carries P w.payload slot w.plaintext) ch.inFlight slots
  account : Account y ch slots taken
  consecutive : Consecutive ch.epoch taken slots
  /-- The sender goes on where the slots in flight end. -/
  sender : Follows (endPosition ch.epoch taken slots).1 (endPosition ch.epoch taken slots).2
    x.dhSelfPublic x.sendN

/-- The header key a receiver cuts out of a payload is the key of its slot. -/
theorem Carries.headerPublic_eq {payload plaintext : Bytes} {w : Slot}
    (h : Carries P payload w plaintext) : headerPublic payload = w.dhPublic := by
  obtain ⟨prevN, nonce, aad, ciphertext, haad, -, rfl⟩ := h.sealed
  exact (parses_append h.length_dhPublic haad ciphertext).dhPublic

namespace Direction

variable {x x' y y' : RatchetState} {ch : Channel} {s : Slot} {slots : List Slot} {taken : Nat}

/-- The oldest payload on a way is at the oldest slot of it. -/
theorem split (h : Direction P x y ch slots taken) {w : Wire} {rest : List Wire}
    (hw : ch.inFlight = w :: rest) :
    ∃ s later, slots = s :: later ∧ Carries P w.payload s w.plaintext
      ∧ List.Forall₂ (fun w slot => Carries P w.payload slot w.plaintext) rest later
      ∧ headerPublic w.payload = s.dhPublic := by
  have hcarries := h.carries
  rw [hw] at hcarries
  obtain ⟨s, later, hs, hlater, rfl⟩ := List.forall₂_cons_left_iff.mp hcarries
  exact ⟨s, later, rfl, hs, hlater, hs.headerPublic_eq⟩

/-- The sender encrypts at the slot it is at, or at the first one of a chain when
nothing was ever on the way. -/
theorem push (h : Direction P x y ch slots taken) {payload plaintext : Bytes} {g : PrivateKey}
    (hcarries : Carries P payload s plaintext) (henc : Encrypted P g x x' s)
    (hboot : x.pendingPairingDhRatchetPeer ≠ none → ch.epoch = none ∧ slots = [])
    (hnew : ch.epoch ≠ none → y.dhPeerPublic ≠ none → ch.epoch ≠ y.dhPeerPublic →
      y.dhPeerPublic ≠ some s.dhPublic) :
    Direction P x' y (ch.push ⟨payload, plaintext⟩) (slots ++ [s]) taken := by
  refine ⟨?_, h.account.push hnew _, h.consecutive.concat ?_, ?_⟩
  · exact List.rel_append h.carries (List.Forall₂.cons hcarries List.Forall₂.nil)
  · cases hpend : x.pendingPairingDhRatchetPeer with
    | none =>
        obtain ⟨hpub, hn, -⟩ := henc.running hpend
        rw [hpub, hn]
        exact h.sender
    | some peer =>
        obtain ⟨hepoch, rfl⟩ := hboot (by rw [hpend]; exact Option.some_ne_none _)
        obtain ⟨-, hn, -⟩ := henc.booting peer hpend
        rw [endPosition, hepoch, Follows, if_neg (Option.some_ne_none _).symm, hn]
  · rw [endPosition_concat, Follows, henc.dhSelfPublic, if_pos rfl, henc.sendN]

/-- The receiver reads the oldest payload. -/
theorem deliver (h : Direction P x y ch (s :: slots) taken) {g : PrivateKey}
    (hunread : y.dhPeerPublic = none → ch.epoch = none ∨ ch.epoch = some s.dhPublic)
    (hopened : Opened P g y y' s) {rest : List Wire}
    (hrest : List.Forall₂ (fun w slot => Carries P w.payload slot w.plaintext) rest slots) :
    Direction P x y' (ch.delivered s.dhPublic rest) slots (s.n + 1) :=
  ⟨hrest, h.account.deliver h.consecutive.1 hunread hopened rest, h.consecutive.2, h.sender⟩

/-- The oldest payload is lost. -/
theorem lose (h : Direction P x y ch (s :: slots) taken)
    (hunread : y.dhPeerPublic = none → ch.epoch = none ∨ ch.epoch = some s.dhPublic)
    (hlater : y.dhPeerPublic ≠ some s.dhPublic → ∀ v ∈ slots, y.dhPeerPublic ≠ some v.dhPublic)
    {rest : List Wire}
    (hrest : List.Forall₂ (fun w slot => Carries P w.payload slot w.plaintext) rest slots)
    (hrun : (ch.lost s.dhPublic rest).lostRun ≤ maxSkipGap)
    (hepoch : (ch.lost s.dhPublic rest).lostEpoch ≤ maxSkippedKeys) :
    Direction P x y (ch.lost s.dhPublic rest) slots (s.n + 1) :=
  ⟨hrest, h.account.lose h.consecutive.1 hunread hlater hrun hepoch, h.consecutive.2, h.sender⟩

/-- A way is about two fields of its sender. -/
theorem congr_sender (h : Direction P x y ch slots taken)
    (hpub : x'.dhSelfPublic = x.dhSelfPublic) (hn : x'.sendN = x.sendN) :
    Direction P x' y ch slots taken := by
  refine { h with sender := ?_ }
  rw [hpub, hn]
  exact h.sender

end Direction

/-! ### Both directions -/

/-- Slots whose receivers keep the step they take to read them. -/
abbrev allKept (slots : List Slot) : List Sent := slots.map fun s => ⟨s, true⟩

/-- The ratchets of a leader `l` and a follower `f` with their channels. -/
structure Fits (P : Packages) (l f : RatchetState) (chL chF : Channel) (toL toF : List Slot)
    (takenL takenF : Nat) : Prop where
  leads : Leads P l f (allKept toF) (allKept toL)
  toLeader : Direction P f l chL toL takenL
  toFollower : Direction P l f chF toF takenF
  leaderEpoch : chL.epoch = none ∨ chL.epoch = some f.dhSelfPublic
  booting : l.pendingPairingDhRatchetPeer ≠ none → chF.epoch = none ∧ toF = []

namespace Fits

variable {l f : RatchetState} {chL chF : Channel} {toL toF : List Slot} {takenL takenF : Nat}

/-- A leader reads the chain its channel is on. -/
theorem reads (h : Fits P l f chL chF toL toF takenL takenF) :
    chL.epoch = none ∨ l.dhPeerPublic = none ∨ chL.epoch = l.dhPeerPublic := by
  rcases h.leaderEpoch with he | he
  · exact Or.inl he
  · rcases h.leads.leaderPeer with hp | hp
    · exact Or.inr (Or.inl hp)
    · exact Or.inr (Or.inr (by rw [he, hp]))

theorem toLeader_key (h : Fits P l f chL chF toL toF takenL takenF) :
    ∀ s ∈ toL, s.dhPublic = f.dhSelfPublic := by
  intro s hs
  exact h.leads.toLeader_key ⟨s, true⟩ (List.mem_map_of_mem hs)

/-- The leader encrypts. -/
theorem encrypt_leader (h : Fits P l f chL chF toL toF takenL takenF) (hdh : P.DhLaws)
    (g : PrivateKey) (nonce : Nonce) (plaintext : Bytes)
    (hfresh : Conversation.Fresh P l g) (hroom : l.sendN + 1 < 2 ^ 32) :
    ∃ payload l' s, (encrypt P g nonce plaintext).run l = .ok payload l'
      ∧ Fits P l' f chL (chF.push ⟨payload, plaintext⟩) toL (toF ++ [s]) takenL takenF := by
  obtain ⟨payload, s, l', hcarries, hrun, henc, hleads⟩ :
      ∃ payload s l', Carries P payload s plaintext
        ∧ (encrypt P g nonce plaintext).run l = .ok payload l' ∧ Encrypted P g l l' s
        ∧ Leads P l' f (allKept toF ++ [⟨s, true⟩]) (allKept toL) := by
    cases hpend : l.pendingPairingDhRatchetPeer with
    | none =>
        obtain ⟨payload, s, l', hc, hr, he, hl, -⟩ :=
          h.leads.encrypt_leader_taken g nonce plaintext hpend hroom
        exact ⟨payload, s, l', hc, hr, he, hl true⟩
    | some peer =>
        obtain ⟨payload, s, l', hc, hr, he, hl, -⟩ :=
          h.leads.encrypt_leader_pending hdh g nonce plaintext hpend hfresh
        exact ⟨payload, s, l', hc, hr, he, hl true⟩
  have hleads' : Leads P l' f (allKept (toF ++ [s])) (allKept toL) := by
    have hconcat : allKept (toF ++ [s]) = allKept toF ++ [⟨s, true⟩] := List.map_append
    rw [hconcat]
    exact hleads
  refine ⟨payload, l', s, hrun, hleads', ?_, ?_, h.leaderEpoch, fun hb => absurd henc.pending hb⟩
  · have hreads' : chL.epoch = none ∨ l'.dhPeerPublic = none ∨ chL.epoch = l'.dhPeerPublic := by
      rcases h.leaderEpoch with he | he
      · exact Or.inl he
      · rcases hleads'.leaderPeer with hp | hp
        · exact Or.inr (Or.inl hp)
        · exact Or.inr (Or.inr (by rw [he, hp]))
    exact { h.toLeader with
      account := h.toLeader.account.reader h.reads hreads' henc.recvN henc.skippedKeys }
  · refine h.toFollower.push hcarries henc h.booting fun _ _ _ => ?_
    have hne := hleads'.follower_peer_ne henc.pending
    rwa [henc.dhSelfPublic] at hne

/-- The follower encrypts. -/
theorem encrypt_follower (h : Fits P l f chL chF toL toF takenL takenF) (g : PrivateKey)
    (nonce : Nonce) (plaintext : Bytes) (hroom : f.sendN + 1 < 2 ^ 32) :
    ∃ payload f' s, (encrypt P g nonce plaintext).run f = .ok payload f'
      ∧ Fits P l f' (chL.push ⟨payload, plaintext⟩) chF (toL ++ [s]) toF takenL takenF := by
  obtain ⟨payload, s, f', hcarries, hrun, henc, hleads, -⟩ :=
    h.leads.encrypt_follower g nonce plaintext hroom
  obtain ⟨hpub, hn, hpeer⟩ := henc.running h.leads.follower_running
  refine ⟨payload, f', s, hrun, ?_, ?_, ?_, ?_, h.booting⟩
  · have hconcat : allKept (toL ++ [s]) = allKept toL ++ [⟨s, true⟩] := List.map_append
    rw [hconcat]
    exact hleads true
  · refine h.toLeader.push hcarries henc (fun hb => absurd h.leads.follower_running hb) ?_
    intro hepoch hknown hother
    rcases h.reads with e | e | e
    · exact absurd e hepoch
    · exact absurd e hknown
    · exact absurd e hother
  · exact { h.toFollower with
      account := h.toFollower.account.congr hpeer henc.recvN henc.skippedKeys }
  · rw [henc.dhSelfPublic, hpub]
    exact h.leaderEpoch

/-- The leader reads the oldest payload on its way. -/
theorem deliver_leader (h : Fits P l f chL chF toL toF takenL takenF) (haead : P.AeadLaws)
    (g : PrivateKey) {w : Wire} {rest : List Wire} (hw : chL.inFlight = w :: rest) :
    ∃ l' later n, (decrypt P g w.payload).run l = .ok w.plaintext l'
      ∧ Fits P l' f (chL.delivered (headerPublic w.payload) rest) chF later toF n takenF := by
  obtain ⟨s, later, rfl, hcarries, hrest, hheader⟩ := h.toLeader.split hw
  have hkey : s.dhPublic = f.dhSelfPublic := h.toLeader_key s List.mem_cons_self
  have hunread : l.dhPeerPublic = none → chL.epoch = none ∨ chL.epoch = some s.dhPublic := by
    intro _
    rw [hkey]
    exact h.leaderEpoch
  have hwindow := h.toLeader.account.window h.toLeader.consecutive.1 hunread
  obtain ⟨l', hrun, hopened, hleads⟩ := h.leads.decrypt_leader haead g hcarries hwindow
  have hstayed : l.dhPeerPublic = none ∨ l.dhPeerPublic = some s.dhPublic := by
    rw [hkey]
    exact h.leads.leaderPeer
  obtain ⟨hpub, hn⟩ := hopened.stayed hstayed
  refine ⟨l', later, s.n + 1, hrun, hleads rfl, ?_, h.toFollower.congr_sender hpub hn, ?_, ?_⟩
  · rw [hheader]
    exact h.toLeader.deliver hunread hopened hrest
  · rw [hheader, hkey]
    exact Or.inr rfl
  · rw [hopened.pending]
    exact h.booting

/-- The follower reads the oldest payload on its way, and leads if it turned. -/
theorem deliver_follower (h : Fits P l f chL chF toL toF takenL takenF) (hdh : P.DhLaws)
    (haead : P.AeadLaws) (g : PrivateKey) (hfresh : Conversation.Fresh P f g) {w : Wire}
    {rest : List Wire} (hw : chF.inFlight = w :: rest) :
    ∃ f' later n, (decrypt P g w.payload).run f = .ok w.plaintext f'
      ∧ (Fits P l f' chL (chF.delivered (headerPublic w.payload) rest) toL later takenL n
        ∨ Fits P f' l (chF.delivered (headerPublic w.payload) rest) chL later toL n takenL) := by
  obtain ⟨s, later, rfl, hcarries, hrest, hheader⟩ := h.toFollower.split hw
  obtain ⟨peer, hp⟩ := h.leads.follower_peer
  have hunread : f.dhPeerPublic = none → chF.epoch = none ∨ chF.epoch = some s.dhPublic := by
    intro hnone
    rw [hp] at hnone
    cases hnone
  have hwindow := h.toFollower.account.window h.toFollower.consecutive.1 hunread
  by_cases hpeer : f.dhPeerPublic = some s.dhPublic
  · obtain ⟨f', hrun, hopened, hleads⟩ :=
      h.leads.decrypt_follower_old haead g hcarries hpeer hwindow
    obtain ⟨hpub, hn⟩ := hopened.stayed (Or.inr hpeer)
    refine ⟨f', later, s.n + 1, hrun, Or.inl ⟨hleads rfl, h.toLeader.congr_sender hpub hn, ?_, ?_,
      fun hb => absurd (h.booting hb).2 (List.cons_ne_nil s later)⟩⟩
    · rw [hheader]
      exact h.toFollower.deliver hunread hopened hrest
    · rw [hpub]
      exact h.leaderEpoch
  · obtain ⟨f', hrun, hopened, hleads⟩ :=
      h.leads.decrypt_follower_new hdh haead g hcarries hpeer hwindow hfresh
    have hturned : ¬ (f.dhPeerPublic = none ∨ f.dhPeerPublic = some s.dhPublic) := by
      rw [hp] at hpeer ⊢
      exact fun e => e.elim (Option.some_ne_none _) hpeer
    obtain ⟨hpub, hn⟩ := hopened.turned hturned
    have hlpub : s.dhPublic = l.dhSelfPublic := by
      rcases (hleads rfl).leaderPeer with e | e
      · rw [hopened.dhPeerPublic] at e
        cases e
      · rw [hopened.dhPeerPublic] at e
        exact Option.some.inj e
    refine ⟨f', later, s.n + 1, hrun, Or.inr ⟨hleads rfl, ?_, ?_, ?_, ?_⟩⟩
    · rw [hheader]
      exact h.toFollower.deliver hunread hopened hrest
    · -- nothing was ever sent under the key the follower just drew
      refine { h.toLeader with sender := ?_ }
      rw [hpub, hn, Follows, if_neg]
      intro hend
      rcases endPosition_key takenL h.leaderEpoch h.toLeader_key with e | e
      · rw [hend] at e
        cases e
      · rw [hend] at e
        exact hfresh (Option.some.inj e)
    · rw [hheader, hlpub]
      exact Or.inr rfl
    · rw [hopened.pending, h.leads.follower_running]
      exact fun hb => absurd rfl hb

/-- The oldest payload on its way to the leader is lost. -/
theorem lose_leader (h : Fits P l f chL chF toL toF takenL takenF) {w : Wire} {rest : List Wire}
    (hw : chL.inFlight = w :: rest)
    (hrun : (chL.lost (headerPublic w.payload) rest).lostRun ≤ maxSkipGap)
    (hepoch : (chL.lost (headerPublic w.payload) rest).lostEpoch ≤ maxSkippedKeys) :
    ∃ later n, Fits P l f (chL.lost (headerPublic w.payload) rest) chF later toF n takenF := by
  obtain ⟨s, later, rfl, hcarries, hrest, hheader⟩ := h.toLeader.split hw
  have hkey : s.dhPublic = f.dhSelfPublic := h.toLeader_key s List.mem_cons_self
  rw [hheader] at hrun hepoch ⊢
  refine ⟨later, s.n + 1, h.leads.drop_toLeader, ?_, h.toFollower, ?_, h.booting⟩
  · refine h.toLeader.lose ?_ ?_ hrest hrun hepoch
    · intro _
      rw [hkey]
      exact h.leaderEpoch
    · intro hpeer v hv
      rw [hkey] at hpeer
      rw [(h.leads.leaderPeer).resolve_right hpeer]
      exact (Option.some_ne_none _).symm
  · rw [hkey]
    exact Or.inr rfl

/-- The oldest payload on its way to the follower is lost. -/
theorem lose_follower (h : Fits P l f chL chF toL toF takenL takenF) {w : Wire}
    {rest : List Wire} (hw : chF.inFlight = w :: rest)
    (hrun : (chF.lost (headerPublic w.payload) rest).lostRun ≤ maxSkipGap)
    (hepoch : (chF.lost (headerPublic w.payload) rest).lostEpoch ≤ maxSkippedKeys) :
    ∃ later n, Fits P l f chL (chF.lost (headerPublic w.payload) rest) toL later takenL n := by
  obtain ⟨s, later, rfl, hcarries, hrest, hheader⟩ := h.toFollower.split hw
  obtain ⟨peer, hp⟩ := h.leads.follower_peer
  rw [hheader] at hrun hepoch ⊢
  refine ⟨later, s.n + 1, h.leads.drop_toFollower, h.toLeader, ?_, h.leaderEpoch,
    fun hb => absurd (h.booting hb).2 (List.cons_ne_nil s later)⟩
  refine h.toFollower.lose ?_ ?_ hrest hrun hepoch
  · intro hnone
    rw [hp] at hnone
    cases hnone
  · intro hpeer v hv
    exact h.leads.toFollower_later hpeer ⟨v, true⟩ (List.mem_map_of_mem hv)

end Fits

/-! ### Runs -/

namespace Conversation

/-- Every call so far was faithful, and the two ends fit together. -/
structure Inv (P : Packages) (c : Conversation) : Prop where
  faithful : ∀ e ∈ c.log, e.Faithful
  fits : ∃ leader toL toF n m, Fits P (c.state leader) (c.state leader.other) (c.inbox leader)
    (c.inbox leader.other) toL toF n m

variable {c c' : Conversation}

theorem Inv.append (h : ∀ e ∈ c.log, e.Faithful) {e : Outcome} (he : e.Faithful) :
    ∀ e' ∈ c.log ++ [e], e'.Faithful := by
  intro e' he'
  rcases List.mem_append.mp he' with he' | he'
  · exact h e' he'
  · obtain rfl := List.mem_singleton.mp he'
    exact he

theorem Inv.encrypt (h : Inv P c) (hdh : P.DhLaws) {side : Side} {plaintext : Bytes}
    {g : PrivateKey} {nonce : Nonce}
    (hadm : Admissible P c (.encrypt side plaintext g nonce)) :
    Inv P (c.encrypt P side plaintext g nonce) := by
  obtain ⟨hfresh, hroom⟩ := hadm
  obtain ⟨leader, toL, toF, n, m, hfits⟩ := h.fits
  rcases Side.eq_or_eq_other side leader with rfl | rfl
  · obtain ⟨payload, l', s, hrun, hfits'⟩ :=
      hfits.encrypt_leader hdh g nonce plaintext hfresh (by omega)
    refine ⟨?_, side, toL, toF ++ [s], n, m, ?_⟩
    · simp only [Conversation.encrypt, hrun, outcome_ok]
      exact Inv.append h.faithful ⟨payload, rfl⟩
    · simpa [Conversation.encrypt, hrun, Function.update_of_ne] using hfits'
  · obtain ⟨payload, f', s, hrun, hfits'⟩ :=
      hfits.encrypt_follower g nonce plaintext (by omega)
    refine ⟨?_, leader, toL ++ [s], toF, n, m, ?_⟩
    · simp only [Conversation.encrypt, hrun, outcome_ok]
      exact Inv.append h.faithful ⟨payload, rfl⟩
    · simpa [Conversation.encrypt, hrun, Function.update_of_ne] using hfits'

theorem Inv.deliver (h : Inv P c) (hdh : P.DhLaws) (haead : P.AeadLaws) {side : Side}
    {g : PrivateKey} (hadm : Admissible P c (.deliver side g)) : Inv P (c.deliver P side g) := by
  obtain ⟨leader, toL, toF, n, m, hfits⟩ := h.fits
  unfold Conversation.deliver
  cases hw : (c.inbox side).inFlight with
  | nil => exact h
  | cons w rest =>
      rcases Side.eq_or_eq_other side leader with rfl | rfl
      · obtain ⟨l', later, k, hrun, hfits'⟩ := hfits.deliver_leader haead g hw
        refine ⟨?_, side, later, toF, k, m, ?_⟩
        · simp only [hrun, outcome_ok]
          exact Inv.append h.faithful rfl
        · simpa [hrun, Function.update_of_ne] using hfits'
      · obtain ⟨f', later, k, hrun, hfits'⟩ := hfits.deliver_follower hdh haead g hadm hw
        refine ⟨?_, ?_⟩
        · simp only [hrun, outcome_ok]
          exact Inv.append h.faithful rfl
        · rcases hfits' with hfits' | hfits'
          · refine ⟨leader, toL, later, n, k, ?_⟩
            simpa [hrun, Function.update_of_ne] using hfits'
          · -- the other side leads from here on
            refine ⟨leader.other, later, toL, k, n, ?_⟩
            simpa [hrun, Function.update_of_ne] using hfits'

theorem Inv.lose (h : Inv P c) {side : Side} (hadm : Admissible P c (.lose side)) :
    Inv P (c.lose side) := by
  obtain ⟨leader, toL, toF, n, m, hfits⟩ := h.fits
  unfold Admissible Conversation.lose at hadm
  unfold Conversation.lose
  cases hw : (c.inbox side).inFlight with
  | nil => exact h
  | cons w rest =>
      simp only [hw, Function.update_self] at hadm
      rcases Side.eq_or_eq_other side leader with rfl | rfl
      · obtain ⟨later, k, hfits'⟩ := hfits.lose_leader hw hadm.1 hadm.2
        refine ⟨h.faithful, side, later, toF, k, m, ?_⟩
        simpa [Function.update_of_ne] using hfits'
      · obtain ⟨later, k, hfits'⟩ := hfits.lose_follower hw hadm.1 hadm.2
        refine ⟨h.faithful, leader, toL, later, n, k, ?_⟩
        simpa [Function.update_of_ne] using hfits'

/-- One admissible step keeps the invariant. -/
theorem Inv.step (h : Inv P c) (hdh : P.DhLaws) (haead : P.AeadLaws) {a : Action}
    (hadm : Admissible P c a) : Inv P (c.step P a) := by
  cases a with
  | encrypt side plaintext g nonce => exact h.encrypt hdh hadm
  | deliver side g => exact h.deliver hdh haead hadm
  | lose side => exact h.lose hadm

/-- Any run of admissible steps keeps the invariant. -/
theorem Inv.run (h : Inv P c) (hdh : P.DhLaws) (haead : P.AeadLaws) (hrun : Run P c c') :
    Inv P c' :=
  hrun.invariant h fun _ _ hinv hadm => hinv.step hdh haead hadm

/-- The oldest payload on a way opens to what was encrypted. -/
theorem Inv.opens (h : Inv P c) (hdh : P.DhLaws) (haead : P.AeadLaws) {side : Side} {w : Wire}
    {rest : List Wire} (hw : (c.inbox side).inFlight = w :: rest) {g : PrivateKey}
    (hfresh : Fresh P (c.state side) g) :
    ∃ r, (RatchetState.decrypt P g w.payload).run (c.state side) = .ok w.plaintext r := by
  have hlog := (h.deliver hdh haead hfresh).faithful (.decrypted w.plaintext
    (outcome ((RatchetState.decrypt P g w.payload).run (c.state side))))
  unfold Conversation.deliver at hlog
  rw [hw] at hlog
  exact outcome_eq_ok.mp (hlog (List.mem_append_right _ (List.mem_singleton.mpr rfl)))

end Conversation

/-- The conversation of an honest pairing starts with the invariant. -/
theorem HonestPairing.inv (p : HonestPairing P) (hdh : P.DhLaws)
    (hkem : inviteSupportsHybrid p.invite = true → P.KemLaws)
    {inviter joiner : RatchetState} (hi : p.inviterContact.ratchet = some inviter)
    (hj : p.joinerContact.ratchet = some joiner) :
    Conversation.Inv P (Conversation.ofRatchets inviter joiner) := by
  obtain ⟨l, f, hl, hf, hleads, hlskip, hfskip, hlrecv, hfrecv, hlsend, hfsend⟩ := p.leads hdh hkem
  obtain rfl : l = inviter := Option.some.inj (hl.symm.trans hi)
  obtain rfl : f = joiner := Option.some.inj (hf.symm.trans hj)
  refine ⟨fun e he => absurd he List.not_mem_nil, .inviter, [], [], 0, 0, hleads, ?_, ?_,
    Or.inl rfl, fun _ => ⟨rfl, rfl⟩⟩
  · refine ⟨List.Forall₂.nil, ⟨?_, ?_, ?_, fun _ => ⟨rfl, rfl, rfl⟩, fun _ => ?_,
      fun hne => absurd rfl hne⟩, trivial, hfsend⟩
    · exact Nat.zero_le _
    · exact Nat.zero_le _
    · exact Nat.le_refl 0
    · show l.recvN + 0 = 0 ∧ l.skippedKeys.length + 0 ≤ 0
      simp [hlrecv, hlskip]
  · refine ⟨List.Forall₂.nil, ⟨?_, ?_, ?_, fun _ => ⟨rfl, rfl, rfl⟩, fun _ => ?_,
      fun hne => absurd rfl hne⟩, trivial, hlsend⟩
    · exact Nat.zero_le _
    · exact Nat.zero_le _
    · exact Nat.le_refl 0
    · show f.recvN + 0 = 0 ∧ f.skippedKeys.length + 0 ≤ 0
      simp [hfrecv, hfskip]

/-- **Delivery.** From the two ratchets of an honest pairing, in every admissible
run, every `decrypt` returns exactly the plaintext that was encrypted (and every
`encrypt` returns). -/
theorem HonestPairing.faithful_of_run (p : HonestPairing P) (hdh : P.DhLaws)
    (haead : P.AeadLaws) (hkem : inviteSupportsHybrid p.invite = true → P.KemLaws)
    {inviter joiner : RatchetState}
    (hi : p.inviterContact.ratchet = some inviter) (hj : p.joinerContact.ratchet = some joiner)
    {c : Conversation} (hrun : Conversation.Run P (Conversation.ofRatchets inviter joiner) c) :
    ∀ e ∈ c.log, e.Faithful :=
  ((p.inv hdh hkem hi hj).run hdh haead hrun).faithful

namespace Sample

/-- Alice's ratchet after the pairing. -/
def aliceRatchet : RatchetState := pairing.inviterContact.ratchet.get (by decide +kernel)

/-- Bob's ratchet after the pairing. -/
def bobRatchet : RatchetState := pairing.joinerContact.ratchet.get (by decide +kernel)

/-- Both encrypt before either has received anything, then both read. -/
def crossing : List Action :=
  [.encrypt .inviter [1] (key 10) (nonce 1), .encrypt .joiner [2] (key 11) (nonce 2),
    .deliver .joiner (key 12), .deliver .inviter (key 13)]

theorem crossing_schedule : Conversation.Schedule plainPackages
    (Conversation.ofRatchets aliceRatchet bobRatchet) crossing := by decide +kernel

/-- The conversation after both have read. -/
def crossed : Conversation :=
  crossing.foldl (Conversation.step plainPackages)
    (Conversation.ofRatchets aliceRatchet bobRatchet)

theorem crossing_faithful : crossed.log.length = 4 ∧ ∀ e ∈ crossed.log, e.Faithful := by
  refine ⟨by decide +kernel, ?_⟩
  exact pairing.faithful_of_run plainPackages_dhLaws plainPackages_aeadLaws
    (fun _ => plainPackages_kemLaws) (Option.some_get _).symm (Option.some_get _).symm
    crossing_schedule.run

end Sample
end Yakr
