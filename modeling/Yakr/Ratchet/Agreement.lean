import Yakr.Ratchet.Methods

/-!
# Yakr.Ratchet.Agreement

**Two ratchets that fit together.** At any time one of two paired parties *leads*:
it took the last Diffie–Hellman step, its root key and send chain are one
derivation ahead of the other's root key, and it reads the other's only send
chain. The other party *follows*. The inviter leads from the start, with a step
it has not taken yet (the pending pairing key).

`Leads` relates the two states and the payloads between them. It says nothing of
skipped keys, so a state and the same state after a rolled-back attempt are in
the same relation; payloads the receiver reads without keeping the step
(`kept = false`) are allowed on both directions.

The step lemmas: `encrypt` by either party, opening the oldest payload by either
party (a follower that keeps a payload of a new chain becomes the leader), and
the loss of the oldest payload.
-/

namespace Yakr

open Lib Effect RatchetState

variable {P : Packages}

/-- A payload on its way: the slot it was encrypted at, and whether its receiver
keeps the ratchet step it takes to read it. -/
structure Sent where
  slot : Slot
  kept : Bool := true

namespace Sent

/-- The header key. -/
abbrev dhPublic (w : Sent) : Bytes := w.slot.dhPublic

/-- The message number. -/
abbrev n (w : Sent) : Nat := w.slot.n

/-- `w` is a slot of the chain `start` under the header key `dhPublic`. -/
def OnChain (P : Packages) (dhPublic start : Bytes) (w : Sent) : Prop :=
  w.dhPublic = dhPublic ∧ w.slot.key = messageKey P start w.n

/-- A payload that is kept is followed by later slots of its chain. -/
def Before (a b : Sent) : Prop := a.kept → b.dhPublic = a.dhPublic ∧ a.n < b.n

end Sent

open Sent

/-- The counters of a header fit their fields. -/
def Counters (s : RatchetState) : Prop := s.sendN < 2 ^ 32 ∧ s.prevSendN < 2 ^ 32

/-- `k` is the key pair of `s`. -/
def HasKey (P : Packages) (s : RatchetState) (k : PrivateKey) : Prop :=
  s.dhSelfPrivate = k.1 ∧ s.dhSelfPublic = (P.x25519Public k).1

/-- `s` is at its own position `s.sendN` of the send chain `start`. -/
def Sends (P : Packages) (s : RatchetState) (start : Bytes) : Prop :=
  s.pendingPairingDhRatchetPeer = none ∧ s.sendChainKey = some (chainKey P start s.sendN)

/-- `s` is at its own position `s.recvN` of the receive chain `start`. -/
def Receives (P : Packages) (s : RatchetState) (start : Bytes) : Prop :=
  s.recvChainKey = some (chainKey P start s.recvN)

/-- What is on its way to the leader `l`: slots of the follower's only chain that
`l` has not passed, in order. -/
structure Inbound (P : Packages) (l f : RatchetState) (start : Bytes) (toL : List Sent) :
    Prop where
  onChain : ∀ w ∈ toL, w.OnChain P f.dhSelfPublic start
  ahead : ∀ w ∈ toL, l.recvN ≤ w.n
  sent : ∀ w ∈ toL, w.n ≤ f.sendN ∧ (w.kept → w.n < f.sendN)
  next : l.recvN ≤ f.sendN
  order : toL.Pairwise Before

/-- The step the leader is ahead by: taken, or still pending from pairing. -/
inductive Step (P : Packages) (l f : RatchetState) (kl kf : PrivateKey) : Prop where
  /-- The pairing bootstrap: deriving with the follower's pairing key gives the
  follower's root key. -/
  | pending (shared : Bytes)
      (pendingPeer : l.pendingPairingDhRatchetPeer = some f.dhSelfPublic)
      (peer : f.dhPeerPublic = some l.dhSelfPublic)
      (exchange : x25519SharedSecret P kl f.dhSelfPublic = .ok shared)
      (root : f.rootKey = (kdfRk P l.rootKey shared).1)
  /-- The leader's root key and send chain come from the follower's root key. -/
  | taken (peer shared : Bytes)
      (leaderPeer : l.dhPeerPublic = some f.dhSelfPublic)
      (followerPeer : f.dhPeerPublic = some peer)
      (fresh : peer ≠ l.dhSelfPublic)
      (exchange : x25519SharedSecret P kf l.dhSelfPublic = .ok shared)
      (root : l.rootKey = (kdfRk P f.rootKey shared).1)
      (sends : Sends P l (kdfRk P f.rootKey shared).2)

/-- What is on its way to the follower `f`: first slots of the chain it reads,
then slots of chains it turns to when it reads them. Only the leader's current
chain is kept. -/
structure Outbound (P : Packages) (l f : RatchetState) (kf : PrivateKey)
    (old new : List Sent) : Prop where
  oldChain : ∃ start, (old ≠ [] → Receives P f start)
    ∧ ∀ w ∈ old, f.dhPeerPublic = some w.dhPublic ∧ w.slot.key = messageKey P start w.n
  oldAhead : ∀ w ∈ old, f.recvN ≤ w.n
  oldOrder : old.Pairwise Before
  newPeer : ∀ w ∈ new, f.dhPeerPublic ≠ some w.dhPublic
  newKey : ∀ w ∈ new, ∃ k shared, w.dhPublic = (P.x25519Public k).1
    ∧ x25519SharedSecret P kf w.dhPublic = .ok shared
    ∧ w.slot.key = messageKey P (kdfRk P f.rootKey shared).2 w.n
  newKept : ∀ w ∈ new, w.kept → l.pendingPairingDhRatchetPeer = none
    ∧ w.dhPublic = l.dhSelfPublic ∧ w.n < l.sendN
  newSent : ∀ w ∈ new, w.dhPublic = l.dhSelfPublic → w.n ≤ l.sendN
  newBoot : l.pendingPairingDhRatchetPeer ≠ none → ∀ w ∈ new, w.n = 0
  newOrder : new.Pairwise Before

/-- `l` leads `f`, with `toF` and `toL` on their way. -/
structure Leads (P : Packages) (l f : RatchetState) (toF toL : List Sent) : Prop where
  keys : ∃ kl kf, HasKey P l kl ∧ HasKey P f kf ∧ Step P l f kl kf
    ∧ ∃ old new, toF = old ++ new ∧ Outbound P l f kf old new
  chain : ∃ start, Sends P f start ∧ Receives P l start ∧ Inbound P l f start toL
  leaderPeer : l.dhPeerPublic = none ∨ l.dhPeerPublic = some f.dhSelfPublic
  countersL : Counters l
  countersF : Counters f

/-- The limits on skipping leave room for slot `w`. -/
def Window (y : RatchetState) (w : Slot) : Prop :=
  if y.dhPeerPublic = none ∨ y.dhPeerPublic = some w.dhPublic then
    w.n - y.recvN ≤ maxSkipGap ∧ y.skippedKeys.length + (w.n - y.recvN) ≤ maxSkippedKeys
  else w.n ≤ maxSkipGap

/-- At most this many keys are stored after reading slot `w`. -/
def skippedAfter (y : RatchetState) (w : Slot) : Nat :=
  if y.dhPeerPublic = none ∨ y.dhPeerPublic = some w.dhPublic then
    y.skippedKeys.length + (w.n - y.recvN)
  else w.n

/-- Reading slot `w`, with the key `g` drawn for a step, took `y` to `y'`. -/
structure Opened (P : Packages) (g : PrivateKey) (y y' : RatchetState) (w : Slot) : Prop where
  skipped : y'.skippedKeys.length ≤ skippedAfter y w
  dhPeerPublic : y'.dhPeerPublic = some w.dhPublic
  recvN : y'.recvN = w.n + 1
  pending : y'.pendingPairingDhRatchetPeer = y.pendingPairingDhRatchetPeer
  stayed : y.dhPeerPublic = none ∨ y.dhPeerPublic = some w.dhPublic →
    y'.dhSelfPublic = y.dhSelfPublic ∧ y'.sendN = y.sendN
  turned : ¬ (y.dhPeerPublic = none ∨ y.dhPeerPublic = some w.dhPublic) →
    y'.dhSelfPublic = (P.x25519Public g).1 ∧ y'.sendN = 0

/-- Encrypting at slot `w` took `x` to `x'`. -/
structure Encrypted (P : Packages) (g : PrivateKey) (x x' : RatchetState) (w : Slot) : Prop where
  dhSelfPublic : x'.dhSelfPublic = w.dhPublic
  sendN : x'.sendN = w.n + 1
  recvN : x'.recvN = x.recvN
  skippedKeys : x'.skippedKeys = x.skippedKeys
  pending : x'.pendingPairingDhRatchetPeer = none
  running : x.pendingPairingDhRatchetPeer = none →
    w.dhPublic = x.dhSelfPublic ∧ w.n = x.sendN ∧ x'.dhPeerPublic = x.dhPeerPublic
  booting : ∀ peer, x.pendingPairingDhRatchetPeer = some peer →
    w.dhPublic = (P.x25519Public g).1 ∧ w.n = 0 ∧ x'.dhPeerPublic = some peer

namespace Leads

variable {l f : RatchetState} {toF toL : List Sent} {w : Sent}

/-! ### Losing the oldest payload -/

theorem drop_toLeader (h : Leads P l f toF (w :: toL)) : Leads P l f toF toL := by
  obtain ⟨start, hsends, hrecv, hin⟩ := h.chain
  refine { h with chain := ⟨start, hsends, hrecv, ?_⟩ }
  exact {
    onChain := fun v hv => hin.onChain v (List.mem_cons_of_mem w hv)
    ahead := fun v hv => hin.ahead v (List.mem_cons_of_mem w hv)
    sent := fun v hv => hin.sent v (List.mem_cons_of_mem w hv)
    next := hin.next
    order := (List.pairwise_cons.mp hin.order).2 }

theorem Outbound.drop_old {kf : PrivateKey} {old new : List Sent}
    (h : Outbound P l f kf (w :: old) new) : Outbound P l f kf old new := by
  obtain ⟨start, hrecv, hon⟩ := h.oldChain
  exact { h with
    oldChain := ⟨start, fun _ => hrecv (List.cons_ne_nil w old),
      fun v hv => hon v (List.mem_cons_of_mem w hv)⟩
    oldAhead := fun v hv => h.oldAhead v (List.mem_cons_of_mem w hv)
    oldOrder := (List.pairwise_cons.mp h.oldOrder).2 }

theorem Outbound.drop_new {kf : PrivateKey} {new : List Sent}
    (h : Outbound P l f kf [] (w :: new)) : Outbound P l f kf [] new :=
  { h with
    newPeer := fun v hv => h.newPeer v (List.mem_cons_of_mem w hv)
    newKey := fun v hv => h.newKey v (List.mem_cons_of_mem w hv)
    newKept := fun v hv => h.newKept v (List.mem_cons_of_mem w hv)
    newSent := fun v hv => h.newSent v (List.mem_cons_of_mem w hv)
    newBoot := fun hb v hv => h.newBoot hb v (List.mem_cons_of_mem w hv)
    newOrder := (List.pairwise_cons.mp h.newOrder).2 }

theorem drop_toFollower (h : Leads P l f (w :: toF) toL) : Leads P l f toF toL := by
  obtain ⟨kl, kf, hkl, hkf, hstep, old, new, heq, hout⟩ := h.keys
  refine { h with keys := ⟨kl, kf, hkl, hkf, hstep, ?_⟩ }
  cases old with
  | nil =>
      rw [List.nil_append] at heq
      subst heq
      exact ⟨[], toF, rfl, Outbound.drop_new hout⟩
  | cons v old =>
      obtain ⟨rfl, rfl⟩ := List.cons.inj heq
      exact ⟨old, new, rfl, Outbound.drop_old hout⟩

/-! ### Reading -/

/-- The leader reads the oldest payload on its way. -/
theorem decrypt_leader (h : Leads P l f toF (w :: toL)) (haead : P.AeadLaws)
    {payload plaintext : Bytes} (g : PrivateKey) (hcarries : Carries P payload w.slot plaintext)
    (hwindow : Window l w.slot) :
    ∃ l', (decrypt P g payload).run l = .ok plaintext l' ∧ Opened P g l l' w.slot
      ∧ (w.kept → Leads P l' f toF toL) := by
  obtain ⟨start, hsends, hrecv, hin⟩ := h.chain
  obtain ⟨hpub, hkey⟩ := hin.onChain w List.mem_cons_self
  have hn : l.recvN ≤ w.n := hin.ahead w List.mem_cons_self
  have hpeer : l.dhPeerPublic = none ∨ l.dhPeerPublic = some w.dhPublic := by
    rw [hpub]
    exact h.leaderPeer
  rw [Window, if_pos hpeer] at hwindow
  obtain ⟨skipped, hlen, hrun⟩ :=
    decrypt_current g haead hcarries hpeer hrecv hkey hn hwindow.1 hwindow.2
  refine ⟨_, hrun, ⟨?_, rfl, rfl, rfl, fun _ => ⟨rfl, rfl⟩, fun e => absurd hpeer e⟩, ?_⟩
  · rwa [skippedAfter, if_pos hpeer]
  · intro hkept
    obtain ⟨kl, kf, hkl, hkf, hstep, hflight⟩ := h.keys
    refine ⟨⟨kl, kf, hkl, hkf, ?_, ?_⟩, ⟨start, hsends, rfl, ?_⟩, ?_, h.countersL, h.countersF⟩
    · cases hstep with
      | pending shared hpend hp hex hroot => exact .pending shared hpend hp hex hroot
      | taken peer shared hl hp hfresh hex hroot hsend =>
          exact .taken peer shared (by rw [← hpub]) hp hfresh hex hroot hsend
    · obtain ⟨old, new, heq, hout⟩ := hflight
      exact ⟨old, new, heq,
        { hout with
          newKept := hout.newKept, newSent := hout.newSent, newBoot := hout.newBoot }⟩
    · have horder := List.pairwise_cons.mp hin.order
      exact {
        onChain := fun v hv => hin.onChain v (List.mem_cons_of_mem w hv)
        ahead := fun v hv => (horder.1 v hv hkept).2
        sent := fun v hv => hin.sent v (List.mem_cons_of_mem w hv)
        next := (hin.sent w List.mem_cons_self).2 hkept
        order := horder.2 }
    · exact Or.inr (by rw [← hpub])

/-- The follower knows a peer key, and it is not pending. -/
theorem follower_peer (h : Leads P l f toF toL) : ∃ peer, f.dhPeerPublic = some peer := by
  obtain ⟨kl, kf, -, -, hstep, -⟩ := h.keys
  cases hstep with
  | pending shared _ hp _ _ => exact ⟨_, hp⟩
  | taken peer shared _ hp _ _ _ _ => exact ⟨peer, hp⟩

/-- A follower never has a pending pairing key. -/
theorem follower_running (h : Leads P l f toF toL) : f.pendingPairingDhRatchetPeer = none := by
  obtain ⟨start, hsends, -, -⟩ := h.chain
  exact hsends.1

/-- The leader's current chain is one the follower has not turned to. -/
theorem follower_peer_ne (h : Leads P l f toF toL) (hrunning : l.pendingPairingDhRatchetPeer = none) :
    f.dhPeerPublic ≠ some l.dhSelfPublic := by
  obtain ⟨kl, kf, -, -, hstep, -⟩ := h.keys
  cases hstep with
  | pending shared hpend _ _ _ =>
      rw [hrunning] at hpend
      cases hpend
  | taken peer shared _ hp hfresh _ _ _ =>
      rw [hp]
      exact fun e => hfresh (Option.some.inj e)

/-- Everything on its way to the leader is of the follower's current chain. -/
theorem toLeader_key (h : Leads P l f toF toL) : ∀ v ∈ toL, v.dhPublic = f.dhSelfPublic := by
  obtain ⟨start, -, -, hin⟩ := h.chain
  exact fun v hv => (hin.onChain v hv).1

/-- After a payload of a chain the follower has not turned to come only such. -/
theorem toFollower_later (h : Leads P l f (w :: toF) toL)
    (hpeer : f.dhPeerPublic ≠ some w.dhPublic) : ∀ v ∈ toF, f.dhPeerPublic ≠ some v.dhPublic := by
  obtain ⟨kl, kf, -, -, -, old, new, heq, hout⟩ := h.keys
  cases old with
  | nil =>
      rw [List.nil_append] at heq
      subst heq
      exact fun v hv => hout.newPeer v (List.mem_cons_of_mem w hv)
  | cons v old =>
      obtain ⟨rfl, rfl⟩ := List.cons.inj heq
      obtain ⟨start, -, hon⟩ := hout.oldChain
      exact absurd (hon w List.mem_cons_self).1 hpeer

/-- The follower reads the oldest payload on its way from the chain it reads. -/
theorem decrypt_follower_old (h : Leads P l f (w :: toF) toL) (haead : P.AeadLaws)
    {payload plaintext : Bytes} (g : PrivateKey) (hcarries : Carries P payload w.slot plaintext)
    (hpeer : f.dhPeerPublic = some w.dhPublic) (hwindow : Window f w.slot) :
    ∃ f', (decrypt P g payload).run f = .ok plaintext f' ∧ Opened P g f f' w.slot
      ∧ (w.kept → Leads P l f' toF toL) := by
  obtain ⟨kl, kf, hkl, hkf, hstep, old, new, heq, hout⟩ := h.keys
  cases old with
  | nil =>
      rw [List.nil_append] at heq
      subst heq
      exact absurd hpeer (hout.newPeer w List.mem_cons_self)
  | cons v old =>
      obtain ⟨rfl, rfl⟩ := List.cons.inj heq
      obtain ⟨start, hrecv, hon⟩ := hout.oldChain
      have hkey := (hon w List.mem_cons_self).2
      rw [Window, if_pos (Or.inr hpeer)] at hwindow
      obtain ⟨skipped, hlen, hrun⟩ := decrypt_current g haead hcarries (Or.inr hpeer)
        (hrecv (List.cons_ne_nil w old)) hkey (hout.oldAhead w List.mem_cons_self)
        hwindow.1 hwindow.2
      refine ⟨_, hrun, ⟨?_, rfl, rfl, rfl, fun _ => ⟨rfl, rfl⟩,
        fun e => absurd (Or.inr hpeer) e⟩, ?_⟩
      · rwa [skippedAfter, if_pos (Or.inr hpeer)]
      · intro hkept
        have horder := List.pairwise_cons.mp hout.oldOrder
        obtain ⟨fstart, hsends, hlrecv, hin⟩ := h.chain
        refine ⟨⟨kl, kf, hkl, hkf, ?_, old, new, rfl, ?_⟩, ⟨fstart, hsends, hlrecv, ?_⟩,
          h.leaderPeer, h.countersL, h.countersF⟩
        · cases hstep with
          | pending shared hpend hp hex hroot =>
              exact .pending shared hpend (by rw [← hp, hpeer]) hex hroot
          | taken peer shared hl hp hfresh hex hroot hsend =>
              exact .taken peer shared hl (by rw [← hp, hpeer]) hfresh hex hroot hsend
        · exact {
            oldChain := ⟨start, fun _ => rfl, fun u hu => by
              rw [← hpeer]
              exact hon u (List.mem_cons_of_mem w hu)⟩
            oldAhead := fun u hu => (horder.1 u hu hkept).2
            oldOrder := horder.2
            newPeer := fun u hu => by
              rw [← hpeer]
              exact hout.newPeer u hu
            newKey := hout.newKey
            newKept := hout.newKept
            newSent := hout.newSent
            newBoot := hout.newBoot
            newOrder := hout.newOrder }
        · exact { hin with onChain := hin.onChain, sent := hin.sent, next := hin.next }

/-- The follower reads the oldest payload on its way from a chain it has not
turned to: it takes the Diffie–Hellman step, and if it keeps it, it leads. -/
theorem decrypt_follower_new (h : Leads P l f (w :: toF) toL) (hdh : P.DhLaws)
    (haead : P.AeadLaws) {payload plaintext : Bytes} (g : PrivateKey)
    (hcarries : Carries P payload w.slot plaintext)
    (hpeer : f.dhPeerPublic ≠ some w.dhPublic) (hwindow : Window f w.slot)
    (hfresh : (P.x25519Public g).1 ≠ f.dhSelfPublic) :
    ∃ f', (decrypt P g payload).run f = .ok plaintext f' ∧ Opened P g f f' w.slot
      ∧ (w.kept → Leads P f' l toL toF) := by
  obtain ⟨kl, kf, hkl, hkf, hstep, old, new, heq, hout⟩ := h.keys
  cases old with
  | cons v old =>
      obtain ⟨rfl, rfl⟩ := List.cons.inj heq
      obtain ⟨start, hrecv, hon⟩ := hout.oldChain
      exact absurd (hon w List.mem_cons_self).1 hpeer
  | nil =>
      rw [List.nil_append] at heq
      subst heq
      obtain ⟨p, hp⟩ := h.follower_peer
      have hne : p ≠ w.dhPublic := fun e => hpeer (e ▸ hp)
      have hcur : ¬ (f.dhPeerPublic = none ∨ f.dhPeerPublic = some w.dhPublic) := by
        simp [hp, hne]
      rw [Window, if_neg hcur] at hwindow
      obtain ⟨k, shared, hk, hex, hkey⟩ := hout.newKey w List.mem_cons_self
      obtain ⟨shared', hg, hg'⟩ := x25519SharedSecret_comm hdh g k
      rw [← hk] at hg
      obtain ⟨skipped, hlen, hrun⟩ :=
        decrypt_next g haead hcarries hp hne hkf.1 hex hg hkey hwindow
      refine ⟨_, hrun, ⟨?_, rfl, rfl, rfl, fun e => absurd e hcur, fun _ => ⟨rfl, rfl⟩⟩, ?_⟩
      · rwa [skippedAfter, if_neg hcur]
      · intro hkept
        obtain ⟨hlpend, hlpub, hlt⟩ := hout.newKept w List.mem_cons_self hkept
        have horder := List.pairwise_cons.mp hout.newOrder
        obtain ⟨fstart, hsends, hlrecv, hin⟩ := h.chain
        cases hstep with
        | pending shared'' hpend hp' hex' hroot => rw [hlpend] at hpend; cases hpend
        | taken peer shared'' hl hp' hfresh' hex' hroot hsend =>
            -- the key the follower derives is the one the leader derived
            have hsame : shared'' = shared := by
              rw [hlpub, hex'] at hex
              exact Except.ok.inj hex
            subst hsame
            obtain ⟨s, hgs, hls⟩ := x25519SharedSecret_comm hdh g kl
            have hs : shared' = s := by
              rw [hlpub, hkl.2, hgs] at hg
              exact (Except.ok.inj hg).symm
            subst hs
            refine ⟨⟨g, kl, ⟨rfl, rfl⟩, hkl, ?_, toL, [], (List.append_nil toL).symm, ?_⟩,
              ⟨(kdfRk P f.rootKey shared'').2, hsend, rfl, ?_⟩, Or.inr ?_, ?_, h.countersL⟩
            · refine .taken f.dhSelfPublic shared' ?_ hl ?_ hls ?_ ⟨hsends.1, ?_⟩
              · exact congrArg some hlpub
              · exact fun e => hfresh e.symm
              · rw [hroot]
              · rw [hroot]
                rfl
            · exact {
                oldChain := ⟨fstart, fun _ => hlrecv, fun u hu => by
                  obtain ⟨hpub, hukey⟩ := hin.onChain u hu
                  exact ⟨by rw [hl, hpub], hukey⟩⟩
                oldAhead := hin.ahead
                oldOrder := hin.order
                newPeer := fun u hu => absurd hu List.not_mem_nil
                newKey := fun u hu => absurd hu List.not_mem_nil
                newKept := fun u hu => absurd hu List.not_mem_nil
                newSent := fun u hu => absurd hu List.not_mem_nil
                newBoot := fun _ u hu => absurd hu List.not_mem_nil
                newOrder := List.Pairwise.nil }
            · have hpub : ∀ u ∈ toF, u.dhPublic = l.dhSelfPublic := fun u hu =>
                ((horder.1 u hu hkept).1).trans hlpub
              exact {
                onChain := fun u hu => by
                  obtain ⟨k', su, -, hexu, hukey⟩ := hout.newKey u (List.mem_cons_of_mem w hu)
                  rw [hpub u hu, hex'] at hexu
                  rw [← Except.ok.inj hexu] at hukey
                  exact ⟨hpub u hu, hukey⟩
                ahead := fun u hu => (horder.1 u hu hkept).2
                sent := fun u hu =>
                  ⟨hout.newSent u (List.mem_cons_of_mem w hu) (hpub u hu),
                    fun hu' => (hout.newKept u (List.mem_cons_of_mem w hu) hu').2.2⟩
                next := hlt
                order := horder.2 }
            · exact congrArg some hlpub
            · exact ⟨by norm_num, h.countersF.1⟩

/-! ### Encrypting -/

theorem Inbound.concat {start : Bytes} (h : Inbound P l f start toL) {f' : RatchetState}
    (kept : Bool) (hpub : f'.dhSelfPublic = f.dhSelfPublic) (hn : f.sendN ≤ f'.sendN)
    (hkept : kept → f.sendN < f'.sendN) :
    Inbound P l f' start
      (toL ++ [⟨⟨f.dhSelfPublic, f.sendN, messageKey P start f.sendN⟩, kept⟩]) := by
  refine ⟨?_, ?_, ?_, h.next.trans hn, ?_⟩
  · intro v hv
    rw [hpub]
    rcases List.mem_append.mp hv with hv | hv
    · exact h.onChain v hv
    · obtain rfl := List.mem_singleton.mp hv
      exact ⟨rfl, rfl⟩
  · intro v hv
    rcases List.mem_append.mp hv with hv | hv
    · exact h.ahead v hv
    · obtain rfl := List.mem_singleton.mp hv
      exact h.next
  · intro v hv
    rcases List.mem_append.mp hv with hv | hv
    · exact ⟨(h.sent v hv).1.trans hn, fun hk => lt_of_lt_of_le ((h.sent v hv).2 hk) hn⟩
    · obtain rfl := List.mem_singleton.mp hv
      exact ⟨hn, hkept⟩
  · rw [List.pairwise_append]
    refine ⟨h.order, List.pairwise_singleton _ _, ?_⟩
    intro v hv u hu
    obtain rfl := List.mem_singleton.mp hu
    exact fun hk => ⟨((h.onChain v hv).1).symm, (h.sent v hv).2 hk⟩

/-- The follower encrypts. Keeping the advanced state, or putting the earlier one
back, the payload joins what is on its way to the leader. -/
theorem encrypt_follower (h : Leads P l f toF toL) (g : PrivateKey) (nonce : Nonce)
    (plaintext : Bytes) (hroom : f.sendN + 1 < 2 ^ 32) :
    ∃ payload slot f', Carries P payload slot plaintext
      ∧ (encrypt P g nonce plaintext).run f = .ok payload f' ∧ Encrypted P g f f' slot
      ∧ (∀ kept, Leads P l f' toF (toL ++ [⟨slot, kept⟩]))
      ∧ Leads P l f toF (toL ++ [⟨slot, false⟩]) := by
  obtain ⟨start, hsends, hrecv, hin⟩ := h.chain
  obtain ⟨kl, kf, hkl, hkf, hstep, old, new, heq, hout⟩ := h.keys
  have hlen : f.dhSelfPublic.length = 32 := by
    rw [hkf.2]
    exact (P.x25519Public kf).2
  obtain ⟨payload, hcarries, hrun⟩ := encrypt_running g nonce plaintext hsends.1 hsends.2 hlen
    h.countersF.2 h.countersF.1
  refine ⟨payload, _, _, hcarries, hrun, ?_, fun kept => ?_, ?_⟩
  · refine ⟨rfl, rfl, rfl, rfl, hsends.1, fun _ => ⟨rfl, rfl, rfl⟩, ?_⟩
    intro peer hpend
    rw [hsends.1] at hpend
    cases hpend
  · refine ⟨⟨kl, kf, hkl, hkf, ?_, old, new, heq, ?_⟩, ⟨start, ⟨hsends.1, rfl⟩, hrecv, ?_⟩,
      h.leaderPeer, h.countersL, ⟨hroom, h.countersF.2⟩⟩
    · cases hstep with
      | pending shared hpend hp hex hroot => exact .pending shared hpend hp hex hroot
      | taken peer shared hl hp hfresh hex hroot hsend =>
          exact .taken peer shared hl hp hfresh hex hroot hsend
    · exact { hout with oldChain := hout.oldChain, newKey := hout.newKey }
    · exact Inbound.concat hin kept rfl (Nat.le_succ _) (fun _ => Nat.lt_succ_self _)
  · exact ⟨⟨kl, kf, hkl, hkf, hstep, old, new, heq, hout⟩,
      ⟨start, hsends, hrecv, Inbound.concat hin false rfl (Nat.le_refl _) (by simp)⟩,
      h.leaderPeer, h.countersL, h.countersF⟩

/-- A slot of the leader's current chain joins what is on its way to the follower. -/
theorem Outbound.concat {kf : PrivateKey} {old new : List Sent} (h : Outbound P l f kf old new)
    {l' : RatchetState} {slot : Slot} (kept : Bool) (k : PrivateKey) (shared : Bytes)
    (hk : slot.dhPublic = (P.x25519Public k).1)
    (hpeer : f.dhPeerPublic ≠ some slot.dhPublic)
    (hex : x25519SharedSecret P kf slot.dhPublic = .ok shared)
    (hkey : slot.key = messageKey P (kdfRk P f.rootKey shared).2 slot.n)
    (hkept : kept → l'.pendingPairingDhRatchetPeer = none
      ∧ slot.dhPublic = l'.dhSelfPublic ∧ slot.n < l'.sendN)
    (hsent : slot.dhPublic = l'.dhSelfPublic → slot.n ≤ l'.sendN)
    (hold : ∀ w ∈ new, w.kept → l'.pendingPairingDhRatchetPeer = none
      ∧ w.dhPublic = l'.dhSelfPublic ∧ w.n < l'.sendN)
    (holdSent : ∀ w ∈ new, w.dhPublic = l'.dhSelfPublic → w.n ≤ l'.sendN)
    (hboot : l'.pendingPairingDhRatchetPeer ≠ none → slot.n = 0 ∧ ∀ w ∈ new, w.n = 0)
    (horder : ∀ w ∈ new, w.kept → slot.dhPublic = w.dhPublic ∧ w.n < slot.n) :
    Outbound P l' f kf old (new ++ [⟨slot, kept⟩]) where
  oldChain := h.oldChain
  oldAhead := h.oldAhead
  oldOrder := h.oldOrder
  newPeer := by
    intro v hv
    rcases List.mem_append.mp hv with hv | hv
    · exact h.newPeer v hv
    · obtain rfl := List.mem_singleton.mp hv
      exact hpeer
  newKey := by
    intro v hv
    rcases List.mem_append.mp hv with hv | hv
    · exact h.newKey v hv
    · obtain rfl := List.mem_singleton.mp hv
      exact ⟨k, shared, hk, hex, hkey⟩
  newKept := by
    intro v hv
    rcases List.mem_append.mp hv with hv | hv
    · exact hold v hv
    · obtain rfl := List.mem_singleton.mp hv
      exact hkept
  newSent := by
    intro v hv
    rcases List.mem_append.mp hv with hv | hv
    · exact holdSent v hv
    · obtain rfl := List.mem_singleton.mp hv
      exact hsent
  newBoot := by
    intro hb v hv
    rcases List.mem_append.mp hv with hv | hv
    · exact (hboot hb).2 v hv
    · obtain rfl := List.mem_singleton.mp hv
      exact (hboot hb).1
  newOrder := by
    rw [List.pairwise_append]
    refine ⟨h.newOrder, List.pairwise_singleton _ _, ?_⟩
    intro v hv u hu
    obtain rfl := List.mem_singleton.mp hu
    exact horder v hv

/-- The leader encrypts on the chain it already derived. -/
theorem encrypt_leader_taken (h : Leads P l f toF toL) (g : PrivateKey) (nonce : Nonce)
    (plaintext : Bytes) (hrunning : l.pendingPairingDhRatchetPeer = none)
    (hroom : l.sendN + 1 < 2 ^ 32) :
    ∃ payload slot l', Carries P payload slot plaintext
      ∧ (encrypt P g nonce plaintext).run l = .ok payload l' ∧ Encrypted P g l l' slot
      ∧ (∀ kept, Leads P l' f (toF ++ [⟨slot, kept⟩]) toL)
      ∧ Leads P l f (toF ++ [⟨slot, false⟩]) toL := by
  obtain ⟨kl, kf, hkl, hkf, hstep, old, new, heq, hout⟩ := h.keys
  cases hstep with
  | pending shared hpend _ _ _ => rw [hrunning] at hpend; cases hpend
  | taken peer shared hl hp hfresh hex hroot hsend =>
      have hlen : l.dhSelfPublic.length = 32 := by
        rw [hkl.2]
        exact (P.x25519Public kl).2
      obtain ⟨payload, hcarries, hrun⟩ := encrypt_running g nonce plaintext hsend.1 hsend.2 hlen
        h.countersL.2 h.countersL.1
      have hpeer : f.dhPeerPublic ≠ some l.dhSelfPublic := by
        rw [hp]
        exact fun e => hfresh (Option.some.inj e)
      obtain ⟨start, hsends, hrecv, hin⟩ := h.chain
      have horder : ∀ w ∈ new, w.kept → l.dhSelfPublic = w.dhPublic ∧ w.n < l.sendN :=
        fun w hw hk => ⟨(hout.newKept w hw hk).2.1.symm, (hout.newKept w hw hk).2.2⟩
      refine ⟨payload, _, _, hcarries, hrun, ?_, fun kept => ?_, ?_⟩
      · refine ⟨rfl, rfl, rfl, rfl, hsend.1, fun _ => ⟨rfl, rfl, rfl⟩, ?_⟩
        intro peer hpend
        rw [hsend.1] at hpend
        cases hpend
      · refine ⟨⟨kl, kf, hkl, hkf, ?_, old, _, by rw [heq, List.append_assoc], ?_⟩,
          ⟨start, hsends, hrecv, ?_⟩, h.leaderPeer, ⟨hroom, h.countersL.2⟩, h.countersF⟩
        · exact .taken peer shared hl hp hfresh hex hroot ⟨hsend.1, rfl⟩
        · refine Outbound.concat hout kept kl shared hkl.2 hpeer hex rfl
            (fun _ => ⟨hsend.1, rfl, Nat.lt_succ_self _⟩) (fun _ => Nat.le_succ _) ?_ ?_
            (fun hb => absurd hsend.1 hb) horder
          · intro w hw hk
            obtain ⟨h1, h2, h3⟩ := hout.newKept w hw hk
            exact ⟨h1, h2, Nat.lt_succ_of_lt h3⟩
          · intro w hw hpub
            exact Nat.le_succ_of_le (hout.newSent w hw hpub)
        · exact { hin with onChain := hin.onChain, ahead := hin.ahead, next := hin.next }
      · refine ⟨⟨kl, kf, hkl, hkf, .taken peer shared hl hp hfresh hex hroot hsend, old, _,
          by rw [heq, List.append_assoc], ?_⟩, h.chain, h.leaderPeer, h.countersL, h.countersF⟩
        exact Outbound.concat hout false kl shared hkl.2 hpeer hex rfl (by simp)
          (fun _ => Nat.le_refl _) hout.newKept hout.newSent (fun hb => absurd hsend.1 hb) horder

/-- The leader encrypts with the pairing key still pending: it takes the step, or
puts the pending step back and leaves a payload of a chain nobody goes on with. -/
theorem encrypt_leader_pending (h : Leads P l f toF toL) (hdh : P.DhLaws) (g : PrivateKey)
    (nonce : Nonce) (plaintext : Bytes) {peer : Bytes}
    (hpending : l.pendingPairingDhRatchetPeer = some peer)
    (hfresh : (P.x25519Public g).1 ≠ l.dhSelfPublic) :
    ∃ payload slot l', Carries P payload slot plaintext
      ∧ (encrypt P g nonce plaintext).run l = .ok payload l' ∧ Encrypted P g l l' slot
      ∧ (∀ kept, Leads P l' f (toF ++ [⟨slot, kept⟩]) toL)
      ∧ Leads P l f (toF ++ [⟨slot, false⟩]) toL := by
  obtain ⟨kl, kf, hkl, hkf, hstep, old, new, heq, hout⟩ := h.keys
  cases hstep with
  | taken p shared hl hp hf hex hroot hsend => rw [hsend.1] at hpending; cases hpending
  | pending shared hpend hp hex hroot =>
      obtain rfl : peer = f.dhSelfPublic := by
        rw [hpending] at hpend
        exact Option.some.inj hpend
      obtain ⟨s, hg, hf⟩ := x25519SharedSecret_comm hdh g kf
      rw [← hkf.2] at hg
      have hlen : f.dhSelfPublic.length = 32 := by
        rw [hkf.2]
        exact (P.x25519Public kf).2
      obtain ⟨payload, hcarries, hrun⟩ := encrypt_pending g nonce plaintext hpending hlen hkl.1
        hex hg h.countersL.1
      have hpeer : f.dhPeerPublic ≠ some (P.x25519Public g).1 := by
        rw [hp]
        exact fun e => hfresh (Option.some.inj e).symm
      have hunkept : ∀ w ∈ new, ¬ w.kept := by
        intro w hw hk
        have hnone := (hout.newKept w hw hk).1
        rw [hpending] at hnone
        cases hnone
      have hboot : ∀ w ∈ new, w.n = 0 := hout.newBoot (by rw [hpending]; exact Option.some_ne_none _)
      have horder : ∀ w ∈ new, w.kept → (P.x25519Public g).1 = w.dhPublic ∧ w.n < 0 :=
        fun w hw hk => absurd hk (hunkept w hw)
      have hkey : ∀ n, messageKey P (kdfRk P (kdfRk P l.rootKey shared).1 s).2 n
          = messageKey P (kdfRk P f.rootKey s).2 n := by
        intro n
        rw [hroot]
      obtain ⟨start, hsends, hrecv, hin⟩ := h.chain
      refine ⟨payload, _, _, hcarries, hrun, ?_, fun kept => ?_, ?_⟩
      · refine ⟨rfl, rfl, rfl, rfl, rfl, ?_, ?_⟩
        · intro hnone
          rw [hpending] at hnone
          cases hnone
        · intro peer hpeer
          rw [hpending] at hpeer
          exact ⟨rfl, rfl, hpeer⟩
      · refine ⟨⟨g, kf, ⟨rfl, rfl⟩, hkf, ?_, old, _, by rw [heq, List.append_assoc], ?_⟩,
          ⟨start, hsends, hrecv, ?_⟩, Or.inr rfl, ⟨by norm_num, h.countersL.1⟩, h.countersF⟩
        · refine .taken l.dhSelfPublic s rfl hp (fun e => hfresh e.symm) hf ?_ ⟨rfl, ?_⟩
          · rw [hroot]
          · rw [hroot]
        · refine Outbound.concat hout kept g s rfl hpeer hf (hkey 0)
            (fun _ => ⟨rfl, rfl, Nat.zero_lt_one⟩) (fun _ => Nat.zero_le _) ?_ ?_
            (fun hb => absurd rfl hb) horder
          · exact fun w hw hk => absurd hk (hunkept w hw)
          · intro w hw _
            rw [hboot w hw]
            exact Nat.zero_le _
        · exact { hin with onChain := hin.onChain, ahead := hin.ahead, next := hin.next }
      · refine ⟨⟨kl, kf, hkl, hkf, .pending shared hpend hp hex hroot, old, _,
          by rw [heq, List.append_assoc], ?_⟩, h.chain, h.leaderPeer, h.countersL, h.countersF⟩
        exact Outbound.concat hout false g s rfl hpeer hf (hkey 0) (by simp)
          (fun e => absurd e hfresh) hout.newKept hout.newSent (fun _ => ⟨rfl, hboot⟩) horder

end Leads
end Yakr
