import Yakr.Lib.System
import Yakr.Pairing.Honest

/-!
# Yakr.Ratchet.Conversation

**Two paired ratchets and the payloads between them.** The system the double
ratchet is for: each side encrypts whenever it likes, and the payloads of each
direction reach the other side in the order they were encrypted in, except those
that are lost. A channel counts its losses the way the limits on skipping do: in
a row, and in total, since the header key last changed.
-/

namespace Yakr

open Lib Effect RatchetState

variable (P : Packages)

/-- The two ends of a conversation. -/
inductive Side where
  | inviter
  | joiner
deriving DecidableEq, Repr

/-- The other end. -/
def Side.other : Side → Side
  | .inviter => .joiner
  | .joiner => .inviter

@[simp] theorem Side.other_other (side : Side) : side.other.other = side := by
  cases side <;> rfl

@[simp] theorem Side.other_ne (side : Side) : side.other ≠ side := by
  cases side <;> decide

@[simp] theorem Side.ne_other (side : Side) : side ≠ side.other := side.other_ne.symm

theorem Side.eq_or_eq_other (a b : Side) : a = b ∨ a = b.other := by
  cases a <;> cases b <;> decide

/-- A payload in flight, with the plaintext it was made of. -/
structure Wire where
  payload : Bytes
  plaintext : Bytes
deriving DecidableEq, Repr

/-- What is on its way to one side, the oldest payload first, and the losses on
that way since the header key last changed. -/
structure Channel where
  inFlight : List Wire := []
  /-- The header key of the last payload that was taken off the channel. -/
  epoch : Option Bytes := none
  lostRun : Nat := 0
  lostEpoch : Nat := 0
deriving DecidableEq, Repr

namespace Channel

def push (ch : Channel) (w : Wire) : Channel := { ch with inFlight := ch.inFlight ++ [w] }

/-- The oldest payload, with header key `dhPublic`, was read. -/
def delivered (ch : Channel) (dhPublic : Bytes) (rest : List Wire) : Channel :=
  { inFlight := rest
    epoch := some dhPublic
    lostRun := 0
    lostEpoch := if ch.epoch = some dhPublic then ch.lostEpoch else 0 }

/-- The oldest payload, with header key `dhPublic`, was lost. -/
def lost (ch : Channel) (dhPublic : Bytes) (rest : List Wire) : Channel :=
  { inFlight := rest
    epoch := some dhPublic
    lostRun := if ch.epoch = some dhPublic then ch.lostRun + 1 else 1
    lostEpoch := if ch.epoch = some dhPublic then ch.lostEpoch + 1 else 1 }

end Channel

/-- What a call returned or raised; a `decrypt` call with the plaintext that was
encrypted. -/
inductive Outcome where
  | encrypted (result : Except PyExc Bytes)
  | decrypted (sent : Bytes) (result : Except PyExc Bytes)

/-- The call returned; a `decrypt` call exactly the plaintext. -/
def Outcome.Faithful : Outcome → Prop
  | encrypted result => ∃ payload, result = .ok payload
  | decrypted sent result => result = .ok sent

structure Conversation where
  state : Side → RatchetState
  inbox : Side → Channel := fun _ => {}
  log : List Outcome := []

/-- What can happen next. -/
inductive Action where
  | encrypt (side : Side) (plaintext : Bytes) (generated : PrivateKey) (nonce : Nonce)
  | deliver (side : Side) (generated : PrivateKey)
  | lose (side : Side)

namespace Conversation

/-- Two ratchets that have exchanged nothing. -/
def ofRatchets (inviter joiner : RatchetState) : Conversation where
  state
    | .inviter => inviter
    | .joiner => joiner

/-- `side` encrypts; what it makes is on its way to the other side. -/
def encrypt (c : Conversation) (side : Side) (plaintext : Bytes) (generated : PrivateKey)
    (nonce : Nonce) : Conversation :=
  let run := (RatchetState.encrypt P generated nonce plaintext).run (c.state side)
  { state := Function.update c.state side (after run)
    inbox :=
      match outcome run with
      | .ok payload =>
          Function.update c.inbox side.other ((c.inbox side.other).push ⟨payload, plaintext⟩)
      | .error _ => c.inbox
    log := c.log ++ [.encrypted (outcome run)] }

/-- `side` decrypts the oldest payload on its way. -/
def deliver (c : Conversation) (side : Side) (generated : PrivateKey) : Conversation :=
  match (c.inbox side).inFlight with
  | [] => c
  | w :: rest =>
      let run := (RatchetState.decrypt P generated w.payload).run (c.state side)
      { state := Function.update c.state side (after run)
        inbox := Function.update c.inbox side
          ((c.inbox side).delivered (headerPublic w.payload) rest)
        log := c.log ++ [.decrypted w.plaintext (outcome run)] }

/-- The oldest payload on its way to `side` is lost. -/
def lose (c : Conversation) (side : Side) : Conversation :=
  match (c.inbox side).inFlight with
  | [] => c
  | w :: rest =>
      { c with
        inbox := Function.update c.inbox side
          ((c.inbox side).lost (headerPublic w.payload) rest) }

def step (c : Conversation) : Action → Conversation
  | .encrypt side plaintext generated nonce => c.encrypt P side plaintext generated nonce
  | .deliver side generated => c.deliver P side generated
  | .lose side => c.lose side

/-- `generate()` does not draw the key pair the ratchet already holds. -/
def Fresh (s : RatchetState) (generated : PrivateKey) : Prop :=
  (P.x25519Public generated).1 ≠ s.dhSelfPublic

instance (s : RatchetState) (generated : PrivateKey) : Decidable (Fresh P s generated) :=
  inferInstanceAs (Decidable (_ ≠ _))

/-- The limits of the schedules considered: fewer than `2 ^ 32 - 1` messages a
chain, at most `maxSkipGap` losses in a row and `maxSkippedKeys` in total under
one header key. -/
def Admissible (c : Conversation) : Action → Prop
  | .encrypt side _ generated _ =>
      Fresh P (c.state side) generated ∧ (c.state side).sendN + 1 < 2 ^ 32 - 1
  | .deliver side generated => Fresh P (c.state side) generated
  | .lose side =>
      ((c.lose side).inbox side).lostRun ≤ maxSkipGap
        ∧ ((c.lose side).inbox side).lostEpoch ≤ maxSkippedKeys

/-- Any number of admissible steps. -/
abbrev Run : Conversation → Conversation → Prop := System.Run (Admissible P) (step P)

instance decidableAdmissible (c : Conversation) : (a : Action) → Decidable (Admissible P c a)
  | .encrypt _ _ _ _ => inferInstanceAs (Decidable (_ ∧ _))
  | .deliver side generated => inferInstanceAs (Decidable (Fresh P (c.state side) generated))
  | .lose _ => inferInstanceAs (Decidable (_ ∧ _))

/-- A schedule all of whose steps are admissible. -/
abbrev Schedule : Conversation → List Action → Prop := System.Schedule (Admissible P) (step P)

end Conversation
end Yakr
