import Yakr.Core.Exact
import Yakr.Lib.System
import Yakr.Ratchet.Conversation
import Yakr.Ratchet.RustReading

/-!
# Yakr.Ratchet.Replay

**Replayed ciphertexts.** Two paired ratchets, both Python or both Rust, over a network
that delivers what either encrypted in any order and as often as it likes. A ciphertext
that was decrypted with a key of the chain is refused ever after, whatever happens in
between: its position is spent. One that was decrypted with a stored key of a skipped
position is not: `_skip_key` leaves the key where it is, and the same bytes decrypt
again.
-/

namespace Yakr

open Lib Effect RatchetState

variable (P : Packages)

/-! ### The two implementations -/

/-- What two ratchets are paired from: the master secret and the two ratchet keys. -/
structure RatchetPairing where
  master : Bytes
  hybrid : Bool
  inviterKey : PrivateKey
  joinerKey : PrivateKey

/-- The ratchets the two completions of a pairing build. -/
def RatchetPairing.python (p : RatchetPairing) : Side → RatchetState
  | .inviter =>
      { fromMaster P p.master true p.hybrid p.inviterKey with
        pendingPairingDhRatchetPeer := some (P.x25519Public p.joinerKey).1 }
  | .joiner =>
      after ((pairingRecvInit P (P.x25519Public p.inviterKey).1).run
        (fromMaster P p.master false p.hybrid p.joinerKey))

/-- The same in Rust. -/
def RatchetPairing.rust (p : RatchetPairing) : Side → Rust.RatchetState
  | .inviter =>
      { Rust.RatchetState.fromMaster P p.master true p.hybrid p.inviterKey with
        pendingPairingDhRatchetPeer := some (P.x25519Public p.joinerKey) }
  | .joiner =>
      Rust.RatchetState.pairingRecvInit P (P.x25519Public p.inviterKey)
        (Rust.RatchetState.fromMaster P p.master false p.hybrid p.joinerKey)

/-- An implementation of the ratchet: its states, the fields they have, and its two
methods. -/
structure Implementation where
  State : Type
  Error : Type
  view : State → RatchetState
  paired : RatchetPairing → Side → State
  encrypt : PrivateKey → Nonce → Bytes → EStateM Error State Bytes
  decrypt : PrivateKey → Bytes → EStateM Error State Bytes

inductive Language where
  | python
  | rust
deriving DecidableEq, Repr

/-- The implementation in a language. -/
def implementation : Language → Implementation
  | .python =>
      { State := RatchetState
        Error := PyExc
        view := id
        paired := RatchetPairing.python P
        encrypt := RatchetState.encrypt P
        decrypt := RatchetState.decrypt P }
  | .rust =>
      { State := Rust.RatchetState
        Error := String
        view := Rust.RatchetState.view
        paired := RatchetPairing.rust P
        encrypt := Rust.RatchetState.encrypt P
        decrypt := Rust.RatchetState.decrypt P }

/-! ### The network -/

/-- Two ratchets, the payloads each has encrypted, and the public keys each has drawn. -/
structure Net (I : Implementation) where
  state : Side → I.State
  posted : Side → List Bytes := fun _ => []
  drawn : Side → List Bytes

/-- A call on one of the two ratchets. -/
inductive Call where
  | encrypt (side : Side) (plaintext : Bytes) (generated : PrivateKey) (nonce : Nonce)
  | decrypt (side : Side) (payload : Bytes) (generated : PrivateKey)
deriving DecidableEq

namespace Net

variable {I : Implementation}

/-- Two ratchets just after their pairing. -/
def ofPairing (I : Implementation) (p : RatchetPairing) : Net I where
  state := I.paired p
  drawn side := [(I.view (I.paired p side)).dhSelfPublic]

/-- A ratchet has drawn another key pair. -/
def draw (net : Net I) (side : Side) (g : PrivateKey) : Side → List Bytes :=
  Function.update net.drawn side ((P.x25519Public g).1 :: net.drawn side)

/-- A call of `decrypt` in the present state of a ratchet. -/
def decrypted (net : Net I) (side : Side) (payload : Bytes) (g : PrivateKey) :
    EStateM.Result I.Error I.State Bytes :=
  (I.decrypt g payload).run (net.state side)

def step (net : Net I) : Call → Net I
  | .encrypt side plaintext g nonce =>
      let run := (I.encrypt g nonce plaintext).run (net.state side)
      { state := Function.update net.state side (after run)
        posted := Function.update net.posted side (net.posted side ++ (value? run).toList)
        drawn := net.draw P side g }
  | .decrypt side payload g =>
      { net with
        state := Function.update net.state side (after (net.decrypted side payload g))
        drawn := net.draw P side g }

/-- A ratchet draws fresh key pairs, and is given what the other one encrypted. -/
def Admits (net : Net I) : Call → Prop
  | .encrypt side _ g _ => (P.x25519Public g).1 ∉ net.drawn side
  | .decrypt side payload g =>
      (P.x25519Public g).1 ∉ net.drawn side ∧ payload ∈ net.posted side.other

instance (net : Net I) : (call : Call) → Decidable (net.Admits P call)
  | .encrypt _ _ _ _ => inferInstanceAs (Decidable (_ ∉ _))
  | .decrypt _ _ _ => inferInstanceAs (Decidable (_ ∧ _))

/-- Any number of calls. -/
abbrev Run : Net I → Net I → Prop := System.Run (Admits P) (step P)

end Net

/-! ### Both implementations read numbered chains -/

/-- An implementation refines the receiver of numbered chains. -/
structure Implementation.Refines (I : Implementation) : Prop where
  paired : ∀ p side, I.view (I.paired p side) = p.python P side
  encrypt : ∀ {s : I.State} {r : Receiver Bytes Bytes (BytesN 32) Bytes} (g : PrivateKey)
    (nonce : Nonce) (plaintext : Bytes), Represents P (I.view s) r →
    ∃ r', Receiver.Disturbs (scheme P) r (P.x25519Public g).1 r'
      ∧ Represents P (I.view (after ((I.encrypt g nonce plaintext).run s))) r'
      ∧ (I.view (after ((I.encrypt g nonce plaintext).run s))).pendingPairingDhRatchetPeer = none
      ∧ r'.peer = r.peer ∧ Generated P r'.own
      ∧ ((I.view s).pendingPairingDhRatchetPeer = none → r'.own = r.own)
      ∧ ∀ payload, outcome ((I.encrypt g nonce plaintext).run s) = .ok payload →
          headerPublic payload = r'.own
  decrypt_ok : ∀ {s t : I.State} {r : Receiver Bytes Bytes (BytesN 32) Bytes} {g : PrivateKey}
    {payload m : Bytes}, Represents P (I.view s) r → Generated P (headerPublic payload) →
    ((I.view s).pendingPairingDhRatchetPeer ≠ none → headerPublic payload = r.peer) →
    (I.decrypt g payload).run s = .ok m t →
    WellFormed payload ∧ ∃ k r', Receiver.Reads (scheme P) r (P.x25519Public g).1
        (headerPublic payload) (messageNumber payload) k r'
      ∧ Represents P (I.view t) r' ∧ Opens P payload k m
      ∧ (I.view t).pendingPairingDhRatchetPeer = (I.view s).pendingPairingDhRatchetPeer
  decrypt_error : ∀ {s t : I.State} {r : Receiver Bytes Bytes (BytesN 32) Bytes} {g : PrivateKey}
    {payload : Bytes} {e : I.Error}, Represents P (I.view s) r →
    Generated P (headerPublic payload) →
    ((I.view s).pendingPairingDhRatchetPeer ≠ none → headerPublic payload = r.peer) →
    (I.decrypt g payload).run s = .error e t →
    ∃ r', Receiver.Disturbs (scheme P) r (P.x25519Public g).1 r' ∧ Represents P (I.view t) r'
      ∧ (I.view t).pendingPairingDhRatchetPeer = (I.view s).pendingPairingDhRatchetPeer
  decrypt_stored : ∀ {s : I.State} {payload m : Bytes} {k : BytesN 32}, WellFormed payload →
    ((I.view s).dhPeerPublic = none ∨ (I.view s).dhPeerPublic = some (headerPublic payload)) →
    (I.view s).recvChainKey ≠ none →
    messageNumber payload < (I.view s).recvN →
    storedKey (I.view s).skippedKeys (headerPublic payload) (messageNumber payload)
      = some (skipKeyId (headerPublic payload) (messageNumber payload), b64encode k.1) →
    Opens P payload k.1 m → ∀ g, ∃ t, (I.decrypt g payload).run s = .ok m t

variable {P}

theorem refines_python (hdh : P.DhLaws) : (implementation P .python).Refines P where
  paired _ _ := rfl
  encrypt _ nonce plaintext h := h.encrypt hdh nonce plaintext
  decrypt_ok h hq hpending hrun :=
    ⟨(decrypt_eq_ok.mp hrun).1, h.decrypt_ok hdh hq hpending hrun⟩
  decrypt_error h hq hpending hrun := h.decrypt_error hdh hq hpending hrun
  decrypt_stored hw hpeer hchain hn hstored hopen g := by
    obtain ⟨ck, hck⟩ := Option.ne_none_iff_exists'.mp hchain
    exact decrypt_stored hw hpeer hck hn hstored hopen g

/-- A paired Rust ratchet has the fields of a paired Python one. -/
theorem view_paired (hdh : P.DhLaws) (p : RatchetPairing) (side : Side) :
    (p.rust P side).view = p.python P side := by
  cases side with
  | inviter => rfl
  | joiner =>
      have hshared := Rust.RatchetState.sharedSecret_eq (hdh.isSome p.joinerKey p.inviterKey)
      have hload : loadPrivate (fromMaster P p.master false p.hybrid p.joinerKey).dhSelfPrivate
          = .ok p.joinerKey := loadPrivate_val p.joinerKey
      rw [RatchetPairing.python]
      simp only [pairingRecvInit, EStateM.run_bind, (P.x25519Public p.inviterKey).2, ne_eq,
        not_true_eq_false, if_false, EStateM.run_modify, EStateM.run_get, hload, run_orRaise_ok,
        hshared]
      rfl

theorem refines_rust (hdh : P.DhLaws) : (implementation P .rust).Refines P where
  paired := view_paired hdh
  encrypt g nonce plaintext h := Rust.RatchetState.encrypt_disturbs h g nonce plaintext
  decrypt_ok h hq hpending hrun := by
    have hpython := Rust.RatchetState.decrypt_eq hdh hq hrun
    exact ⟨(decrypt_eq_ok.mp hpython).1, h.decrypt_ok hdh hq hpending hpython⟩
  decrypt_error h hq hpending hrun := by
    obtain rfl := Rust.RatchetState.decrypt_error hrun
    exact ⟨_, .failed fun i k hi => Or.inl hi, h.draw _, rfl⟩
  decrypt_stored hw hpeer hchain hn hstored hopen g :=
    Rust.RatchetState.decrypt_stored hw hpeer hchain hn hstored hopen g

/-! ### What every run keeps -/

namespace Net

variable {I : Implementation} {net net' : Net I}
  {motive : Side → Receiver Bytes Bytes (BytesN 32) Bytes → Prop}

/-- Both ratchets are sound receivers, of which `motive` holds; headers carry generated
keys, and as long as a pairing key is pending it is the only one. -/
structure Inv (P : Packages) (net : Net I)
    (motive : Side → Receiver Bytes Bytes (BytesN 32) Bytes → Prop) : Prop where
  receives : ∀ side, ∃ r, Represents P (I.view (net.state side)) r
    ∧ Receiver.Sound (scheme P) r ∧ r.drawn = net.drawn side ∧ motive side r
  generated : ∀ side, ∀ payload ∈ net.posted side, Generated P (headerPublic payload)
  pending : ∀ side p, (I.view (net.state side)).pendingPairingDhRatchetPeer = some p →
    net.posted side = []
      ∧ (I.view (net.state side.other)).pendingPairingDhRatchetPeer = none
      ∧ (I.view (net.state side.other)).dhSelfPublic = p
      ∧ ∀ payload ∈ net.posted side.other, headerPublic payload = p

/-- While a pairing key is pending, what is delivered comes from it. -/
theorem Inv.header_eq (h : Inv P net motive) {side : Side} {payload : Bytes}
    (hposted : payload ∈ net.posted side.other) {r : Receiver Bytes Bytes (BytesN 32) Bytes}
    (hr : Represents P (I.view (net.state side)) r) :
    (I.view (net.state side)).pendingPairingDhRatchetPeer ≠ none →
      headerPublic payload = r.peer := by
  intro hne
  obtain ⟨p, hp⟩ := Option.ne_none_iff_exists'.mp hne
  obtain ⟨-, -, -, hheader⟩ := h.pending side p hp
  exact (hheader payload hposted).trans (hr.pending p hp)

theorem Inv.encrypt (h : Inv P net motive) (hI : I.Refines P)
    (hmotive : ∀ side, Receiver.Kept (scheme P) (motive side)) {side : Side} {plaintext : Bytes}
    {g : PrivateKey} {nonce : Nonce} (hg : (P.x25519Public g).1 ∉ net.drawn side) :
    Inv P (net.step P (.encrypt side plaintext g nonce)) motive := by
  obtain ⟨r, hrep, hsound, hdrawn, hm⟩ := h.receives side
  obtain ⟨r', hstep, hrep', hnone, -, hgen, hown, hheader⟩ := hI.encrypt g nonce plaintext hrep
  rw [← hdrawn] at hg
  have hposted : ∀ payload ∈ (value? ((I.encrypt g nonce plaintext).run (net.state side))).toList,
      headerPublic payload = r'.own := by
    intro payload hp
    refine hheader payload ?_
    cases hrun : (I.encrypt g nonce plaintext).run (net.state side) with
    | error e t =>
        rw [hrun] at hp
        cases hp
    | ok a t =>
        rw [hrun] at hp
        rw [List.mem_singleton.mp hp]
        rfl
  refine ⟨fun side' => ?_, fun side' payload hp => ?_, fun side' p hp => ?_⟩
  · rcases side'.eq_or_eq_other side with rfl | rfl
    · refine ⟨r', ?_, hsound.disturbs hstep, ?_, (hmotive _).disturbs hsound hg hstep hm⟩
      · simpa only [step, Function.update_self] using hrep'
      · simp only [step, draw, Function.update_self, hstep.drawn, hdrawn]
    · simpa only [step, draw, Function.update_of_ne (Side.other_ne side)] using h.receives side.other
  · rcases side'.eq_or_eq_other side with rfl | rfl
    · simp only [step, Function.update_self, List.mem_append] at hp
      rcases hp with hold | hnew
      · exact h.generated _ payload hold
      · rw [hposted payload hnew]
        exact hgen
    · simp only [step, Function.update_of_ne (Side.other_ne side)] at hp
      exact h.generated _ payload hp
  · rcases side'.eq_or_eq_other side with rfl | rfl
    · simp only [step, Function.update_self] at hp
      rw [hnone] at hp
      cases hp
    · simp only [step, Function.update_of_ne (Side.other_ne side)] at hp
      obtain ⟨hempty, hfree, hself, hheaders⟩ := h.pending side.other p hp
      rw [Side.other_other] at hfree hself hheaders
      have hsame : r'.own = p := (hown hfree).trans (hrep.own.trans hself)
      simp only [step, Side.other_other, Function.update_self,
        Function.update_of_ne (Side.other_ne side), List.mem_append]
      refine ⟨hempty, hnone, hrep'.own.symm.trans hsame, fun payload hp => ?_⟩
      rcases hp with hold | hnew
      · exact hheaders payload hold
      · exact (hposted payload hnew).trans hsame

/-- What a `decrypt` call leaves, given what it does to the receiver. -/
theorem Inv.decrypt_of (h : Inv P net motive) {side : Side} {payload : Bytes} {g : PrivateKey}
    (hposted : payload ∈ net.posted side.other) {t : I.State}
    (ht : after (net.decrypted side payload g) = t)
    {motive' : Side → Receiver Bytes Bytes (BytesN 32) Bytes → Prop}
    (hr : ∃ r, Represents P (I.view t) r ∧ Receiver.Sound (scheme P) r
      ∧ r.drawn = (P.x25519Public g).1 :: net.drawn side ∧ motive' side r)
    (hother : ∀ r, motive side.other r → motive' side.other r)
    (hpending : (I.view t).pendingPairingDhRatchetPeer
      = (I.view (net.state side)).pendingPairingDhRatchetPeer) :
    Inv P (net.step P (.decrypt side payload g)) motive' := by
  subst ht
  refine ⟨fun side' => ?_, fun side' payload' hp => h.generated side' payload' hp,
    fun side' p hp => ?_⟩
  · rcases side'.eq_or_eq_other side with rfl | rfl
    · simpa only [step, draw, Function.update_self] using hr
    · obtain ⟨r, hrep, hsound, hdrawn, hm⟩ := h.receives side.other
      refine ⟨r, ?_, hsound, ?_, hother r hm⟩
      · simpa only [step, Function.update_of_ne (Side.other_ne side)] using hrep
      · simpa only [step, draw, Function.update_of_ne (Side.other_ne side)] using hdrawn
  · rcases side'.eq_or_eq_other side with rfl | rfl
    · simp only [step, Function.update_self, Function.update_of_ne (Side.other_ne side')] at hp ⊢
      rw [hpending] at hp
      exact h.pending side' p hp
    · simp only [step, Function.update_of_ne (Side.other_ne side)] at hp
      obtain ⟨hempty, -⟩ := h.pending side.other p hp
      rw [hempty] at hposted
      cases hposted

/-- A `decrypt` that returns reads. -/
theorem Inv.decrypt_ok (h : Inv P net motive) (hI : I.Refines P)
    {side : Side} {payload m : Bytes} {g : PrivateKey} {t : I.State}
    (hposted : payload ∈ net.posted side.other)
    (hrun : net.decrypted side payload g = .ok m t) :
    WellFormed payload ∧ ∃ r k r', Represents P (I.view (net.state side)) r
      ∧ Receiver.Sound (scheme P) r ∧ r.drawn = net.drawn side ∧ motive side r
      ∧ Receiver.Reads (scheme P) r (P.x25519Public g).1 (headerPublic payload)
        (messageNumber payload) k r'
      ∧ Represents P (I.view t) r' ∧ Opens P payload k m
      ∧ (I.view t).pendingPairingDhRatchetPeer
        = (I.view (net.state side)).pendingPairingDhRatchetPeer := by
  obtain ⟨r, hrep, hsound, hdrawn, hm⟩ := h.receives side
  obtain ⟨hw, k, r', hread, hrep', hopen, hpend⟩ := hI.decrypt_ok hrep
    (h.generated side.other payload hposted) (h.header_eq hposted hrep) hrun
  exact ⟨hw, r, k, r', hrep, hsound, hdrawn, hm, hread, hrep', hopen, hpend⟩

theorem Inv.step (h : Inv P net motive) (hI : I.Refines P) (hcf : P.CollisionFree)
    (hmotive : ∀ side, Receiver.Kept (scheme P) (motive side)) {call : Call}
    (hadm : net.Admits P call) : Inv P (net.step P call) motive := by
  cases call with
  | encrypt side plaintext g nonce => exact h.encrypt hI hmotive hadm
  | decrypt side payload g =>
      obtain ⟨hg, hposted⟩ := hadm
      have hgen := h.generated side.other payload hposted
      cases hrun : net.decrypted side payload g with
      | ok m t =>
          obtain ⟨-, r, k, r', hrep, hsound, hdrawn, hm, hread, hrep', -, hpend⟩ :=
            h.decrypt_ok hI hposted hrun
          rw [← hdrawn] at hg
          refine h.decrypt_of hposted (by rw [hrun]; rfl) ⟨r', hrep', ?_, ?_, ?_⟩
            (fun _ h => h) hpend
          · exact hsound.reads hcf.disjoint hgen hread
          · rw [hread.drawn, hdrawn]
          · exact (hmotive side).reads hsound hg hread hm
      | error e t =>
          obtain ⟨r, hrep, hsound, hdrawn, hm⟩ := h.receives side
          obtain ⟨r', hstep, hrep', hpend⟩ :=
            hI.decrypt_error hrep hgen (h.header_eq hposted hrep) hrun
          rw [← hdrawn] at hg
          refine h.decrypt_of hposted (by rw [hrun]; rfl) ⟨r', hrep', ?_, ?_, ?_⟩
            (fun _ h => h) hpend
          · exact hsound.disturbs hstep
          · rw [hstep.drawn, hdrawn]
          · exact (hmotive side).disturbs hsound hg hstep hm

theorem Inv.run (h : Inv P net motive) (hI : I.Refines P) (hcf : P.CollisionFree)
    (hmotive : ∀ side, Receiver.Kept (scheme P) (motive side)) (hrun : Run P net net') :
    Inv P net' motive :=
  System.Run.invariant (motive := fun net => Inv P net motive) hrun h
    fun _ _ ht hadm => ht.step hI hcf hmotive hadm

/-- Two ratchets just after their pairing. -/
theorem Inv.ofPairing (hI : I.Refines P) (hdh : P.DhLaws) (hcf : P.CollisionFree)
    (p : RatchetPairing) : Inv P (ofPairing I p) fun _ _ => True := by
  obtain ⟨d, hd, -⟩ := x25519SharedSecret_comm hdh p.joinerKey p.inviterKey
  have hload : loadPrivate (fromMaster P p.master false p.hybrid p.joinerKey).dhSelfPrivate
      = .ok p.joinerKey := loadPrivate_val p.joinerKey
  let root := hkdfDerive P p.master rootInfo
  have hjoiner : p.python P .joiner =
      { fromMaster P p.master false p.hybrid p.joinerKey with
        dhPeerPublic := some (P.x25519Public p.inviterKey).1
        rootKey := (kdfRk P root d).1
        recvChainKey := some (kdfRk P root d).2
        recvN := 0 } := by
    rw [RatchetPairing.python]
    simp only [pairingRecvInit, EStateM.run_bind, (P.x25519Public p.inviterKey).2, ne_eq,
      not_true_eq_false, if_false, EStateM.run_modify, EStateM.run_get, hload, run_orRaise_ok, hd]
    rfl
  have hview : ∀ side, I.view ((Net.ofPairing I p).state side) = p.python P side := hI.paired p
  refine ⟨fun side => ?_, fun side payload hp => absurd hp List.not_mem_nil, fun side q hq => ?_⟩
  · cases side with
    | inviter =>
        refine ⟨{ own := (P.x25519Public p.inviterKey).1, peer := (P.x25519Public p.joinerKey).1
                  start := P.hkdf root recvChainInfo [] 32, next := 0, stored := fun _ => none
                  drawn := [(P.x25519Public p.inviterKey).1] }, ?_, ?_, ?_, trivial⟩
        · rw [hview]
          refine ⟨⟨p.inviterKey, rfl, rfl⟩, rfl, ⟨p.joinerKey, rfl⟩, Or.inr ⟨rfl, rfl⟩, ?_, rfl, rfl,
            fun i => rfl⟩
          exact fun q hq => (Option.some.inj hq).symm
        · refine ⟨List.mem_singleton.mpr rfl, fun hi => (by cases hi), fun {a} ha => ?_⟩
          -- the first receive chain is not derived from an exchange
          obtain ⟨k, root', d', -, hd', hstart⟩ := ha
          exact absurd hstart.symm (hcf.chain_ne_initial hd')
        · show _ = [(I.view (I.paired p .inviter)).dhSelfPublic]
          rw [hI.paired]
          rfl
    | joiner =>
        have hlen : (kdfRk P root d).2.length = 32 := by simp [kdfRk]
        refine ⟨{ own := (P.x25519Public p.joinerKey).1, peer := (P.x25519Public p.inviterKey).1
                  start := ⟨(kdfRk P root d).2, hlen⟩, next := 0, stored := fun _ => none
                  drawn := [(P.x25519Public p.joinerKey).1] }, ?_, ?_, ?_, trivial⟩
        · rw [hview, hjoiner]
          refine ⟨⟨p.joinerKey, rfl, rfl⟩, rfl, ⟨p.inviterKey, rfl⟩, Or.inl rfl, ?_, rfl, rfl,
            fun i => rfl⟩
          intro q hq
          cases hq
        · refine ⟨List.mem_singleton.mpr rfl, fun hi => (by cases hi), fun {a} ha => ?_⟩
          have hmine : (scheme P).Derived (P.x25519Public p.joinerKey).1
              (P.x25519Public p.inviterKey).1 ⟨(kdfRk P root d).2, hlen⟩ :=
            ⟨p.joinerKey, root, d, rfl, hd, rfl⟩
          exact List.mem_singleton.mpr (hcf.disjoint.own ⟨p.inviterKey, rfl⟩ ha hmine)
        · show _ = [(I.view (I.paired p .joiner)).dhSelfPublic]
          rw [hI.paired, hjoiner]
          rfl
  · cases side with
    | inviter =>
        rw [hview] at hq
        obtain rfl := Option.some.inj hq
        refine ⟨rfl, ?_, ?_, fun payload hp => absurd hp List.not_mem_nil⟩
        · rw [show Side.inviter.other = .joiner from rfl, hview, hjoiner]
          rfl
        · rw [show Side.inviter.other = .joiner from rfl, hview, hjoiner]
          rfl
    | joiner =>
        rw [hview, hjoiner] at hq
        cases hq

/-! ### Replays -/

/-- What was encrypted stays available to the network. -/
theorem posted_of_run (hrun : Run P net net') {side : Side} {payload : Bytes}
    (h : payload ∈ net.posted side) : payload ∈ net'.posted side := by
  refine System.Run.invariant (motive := fun net => payload ∈ net.posted side) hrun h ?_
  intro net call h _
  cases call with
  | decrypt => exact h
  | encrypt s plaintext g nonce =>
      by_cases hs : side = s
      · subst hs
        simp only [step, Function.update_self]
        exact List.mem_append_left _ h
      · simpa only [step, Function.update_of_ne hs] using h

end Net

/-- `_skip_key` finds the message key of `payload` for the peer key `s` reads it under. -/
def KeyStored (s : RatchetState) (payload : Bytes) : Prop :=
  (s.dhPeerPublic = none ∨ s.dhPeerPublic = some (headerPublic payload))
    ∧ (storedKey s.skippedKeys (headerPublic payload) (messageNumber payload)).isSome

instance (s : RatchetState) (payload : Bytes) : Decidable (KeyStored s payload) :=
  inferInstanceAs (Decidable (_ ∧ _))

namespace Net

variable {I : Implementation} {net : Net I}

/-- A ciphertext decrypted with a key of the chain is never decrypted again. -/
theorem refused_of_not_keyStored (hI : I.Refines P) (hcf : P.CollisionFree)
    (h : Inv P net fun _ _ => True) {side : Side} {payload m : Bytes} {g : PrivateKey} {t : I.State}
    (hadm : net.Admits P (.decrypt side payload g))
    (hok : net.decrypted side payload g = .ok m t)
    (hstored : ¬ KeyStored (I.view (net.state side)) payload) {net' : Net I}
    (hrun : Run P (net.step P (.decrypt side payload g)) net') (g' : PrivateKey) :
    value? (net'.decrypted side payload g') = none := by
  obtain ⟨hg, hposted⟩ := hadm
  obtain ⟨-, r, k, r', hrep, hsound, hdrawn, -, hread, hrep', hopen, hpend⟩ :=
    h.decrypt_ok hI hposted hok
  have hfree : r.peer = headerPublic payload → r.stored (messageNumber payload) = none := by
    intro hpeer
    cases hfound : r.stored (messageNumber payload) with
    | none => rfl
    | some k' =>
        have hkey := hrep.stored (messageNumber payload)
        rw [hfound, hpeer] at hkey
        refine absurd ⟨?_, by rw [hkey]; rfl⟩ hstored
        rcases hrep.peer with hsome | ⟨hnone, -⟩
        · exact Or.inr (hpeer ▸ hsome)
        · exact Or.inl hnone
  have hspent := hread.spent hfree
  -- from here on the position of the payload is spent at this side
  let motive : Side → Receiver Bytes Bytes (BytesN 32) Bytes → Prop := fun side' r₁ =>
    side' = side →
      Receiver.Spent (scheme P) (headerPublic payload) (messageNumber payload) r'.start r₁
  have hkept : ∀ side', Receiver.Kept (scheme P) (motive side') := fun side' =>
    ⟨fun hs hg hstep hm e => (Receiver.Spent.kept _ _ _).disturbs hs hg hstep (hm e),
      fun hs hg hread hm e => (Receiver.Spent.kept _ _ _).reads hs hg hread (hm e)⟩
  have hinv : Inv P (net.step P (.decrypt side payload g)) motive := by
    have hgen := h.generated side.other payload hposted
    refine h.decrypt_of hposted (by rw [hok]; rfl) ⟨r', hrep', hsound.reads hcf.disjoint hgen hread,
      ?_, fun _ => hspent⟩ (fun r _ e => absurd e (Side.other_ne side)) hpend
    rw [hread.drawn, hdrawn]
  have hinv' := hinv.run hI hcf hkept hrun
  have hposted' : payload ∈ net'.posted side.other := posted_of_run hrun hposted
  cases hagain : net'.decrypted side payload g' with
  | error e t' => rfl
  | ok m' t' =>
      obtain ⟨-, r₁, k₁, r₁', -, hsound₁, -, hm₁, hread₁, -, hopen₁, -⟩ :=
        hinv'.decrypt_ok hI hposted' hagain
      have hkey := (hsound.key_eq hread).symm.trans (hopen.key_unique hcf hopen₁)
      exact absurd hkey.symm ((hm₁ rfl).key_ne hsound₁ hcf.disjoint hread₁)

/-- A ciphertext decrypted with a stored key is decrypted again at once. -/
theorem decrypted_again_of_keyStored (hI : I.Refines P) (h : Inv P net fun _ _ => True)
    {side : Side} {payload m : Bytes} {g : PrivateKey} {t : I.State}
    (hadm : net.Admits P (.decrypt side payload g))
    (hok : net.decrypted side payload g = .ok m t)
    (hstored : KeyStored (I.view (net.state side)) payload) (g' : PrivateKey) :
    value? ((net.step P (.decrypt side payload g)).decrypted side payload g') = some m := by
  obtain ⟨hw, r, k, r', hrep, hsound, hdrawn, -, hread, hrep', hopen, hpend⟩ :=
    h.decrypt_ok hI hadm.2 hok
  have hpeer : r.peer = headerPublic payload := by
    rcases hrep.peer with hsome | ⟨hnone, hpending⟩
    · rcases hstored.1 with hnone | hsome'
      · rw [hsome] at hnone
        cases hnone
      · exact Option.some.inj (hsome.symm.trans hsome')
    · exact (h.header_eq hadm.2 hrep (by rw [hpending]; exact Option.some_ne_none _)).symm
  obtain ⟨k', hk'⟩ : ∃ k', r.stored (messageNumber payload) = some k' := by
    have hkey := hstored.2
    rw [← hpeer, hrep.stored, Option.isSome_map] at hkey
    exact Option.isSome_iff_exists.mp hkey
  obtain ⟨hpeer', hbehind, hstill⟩ := hread.again hsound hpeer hk'
  have hk : k = messageKey P r'.start.1 (messageNumber payload) := hsound.key_eq hread
  have hlen : k.length = 32 := by
    rw [hk]
    exact length_messageKey _ _
  have hentry := hrep'.stored (messageNumber payload)
  rw [hstill, hpeer'] at hentry
  have hreads : (I.view t).dhPeerPublic = none
      ∨ (I.view t).dhPeerPublic = some (headerPublic payload) := by
    rcases hrep'.peer with hsome | ⟨hnone, -⟩
    · exact Or.inr (hpeer' ▸ hsome)
    · exact Or.inl hnone
  obtain ⟨t', ht'⟩ := hI.decrypt_stored (k := ⟨k, hlen⟩) hw hreads
    (by rw [hrep'.chain]; exact Option.some_ne_none _) (hrep'.next ▸ hbehind) hentry hopen g'
  have hstate : (net.step P (.decrypt side payload g)).state side = t := by
    simp only [step, Function.update_self, hok, after_ok]
  rw [decrypted, hstate, ht']
  rfl

end Net

theorem implementation_refines (hdh : P.DhLaws) (language : Language) :
    (implementation P language).Refines P := by
  cases language with
  | python => exact refines_python hdh
  | rust => exact refines_rust hdh

/-- What a run of `implementation P language` should never allow: that a ciphertext which
was decrypted is decrypted again. -/
def RefusesReplays (P : Packages) (language : Language) : Prop :=
  ∀ (p : RatchetPairing) (net : Net (implementation P language)) (side : Side)
    (payload m : Bytes) (g : PrivateKey),
    Net.Run P (Net.ofPairing _ p) net → net.Admits P (.decrypt side payload g) →
    value? (net.decrypted side payload g) = some m →
    ∀ net', Net.Run P (net.step P (.decrypt side payload g)) net' →
      ∀ g', value? (net'.decrypted side payload g') = none

namespace Sample

def ratchets : RatchetPairing :=
  { master := [7], hybrid := false, inviterKey := key 1, joinerKey := key 2 }

variable (language : Language)

/-- The inviter has encrypted two messages. -/
def posted : Net (implementation exactPackages language) :=
  [Call.encrypt .inviter [1] (key 10) (nonce 1), .encrypt .inviter [2] (key 11) (nonce 2)].foldl
    (Net.step exactPackages) (.ofPairing _ ratchets)

/-- The first and the second of them. -/
def first : Bytes := ((posted language).posted .inviter).headD []
def second : Bytes := ((posted language).posted .inviter).getLastD []

/-- The joiner reads the second before the first. -/
def calls : List Call :=
  [.encrypt .inviter [1] (key 10) (nonce 1), .encrypt .inviter [2] (key 11) (nonce 2),
    .decrypt .joiner (second language) (key 12)]

theorem calls_admitted : ∀ language, System.Schedule (Net.Admits exactPackages)
    (Net.step exactPackages) (Net.ofPairing (implementation exactPackages language) ratchets)
    (calls language) := by
  intro language
  cases language <;> decide +kernel

def overtaken : Net (implementation exactPackages language) :=
  (calls language).foldl (Net.step exactPackages) (.ofPairing _ ratchets)

theorem overtaken_run : Net.Run exactPackages (.ofPairing _ ratchets) (overtaken language) :=
  (calls_admitted language).run

/-- The first is given to the joiner, and given again. -/
theorem first_read_twice : ∀ language,
    (overtaken language).Admits exactPackages (.decrypt .joiner (first language) (key 13))
      ∧ value? ((overtaken language).decrypted .joiner (first language) (key 13)) = some [1]
      ∧ value? (((overtaken language).step exactPackages
          (.decrypt .joiner (first language) (key 13))).decrypted .joiner (first language)
            (key 14)) = some [1] := by
  intro language
  cases language <;> decide +kernel

end Sample
end Yakr
