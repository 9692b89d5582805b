import Yakr.Mailbox.Rendezvous
import Yakr.Ratchet.Delivery

/-!
# Yakr.Session.Exchange

**Two paired contacts exchange texts.** Each side calls `encrypt_text` whenever it
likes; the other side calls `decrypt_outer` on what arrives, in order. A call that
raises is not saved. Below a run of the exchange there is a run of the two
ratchets, so every text opens; what is left to show is that the checks on the
opened message pass.
-/

namespace Yakr

open Lib Effect

variable (P : Packages)

/-- A `decrypt_outer` call: the text that arrived and what the call returned or raised. -/
structure Reading where
  sent : EncryptedMessage
  result : Except PyExc InnerMessage

/-- The stored contacts of the two sides and the texts on their way to each, the
oldest first. -/
structure Exchange where
  contact : Side → Contact
  inbox : Side → List EncryptedMessage := fun _ => []
  log : List Reading := []

/-- What can happen next. -/
inductive Turn where
  | text (side : Side) (draws : Draws) (body : String)
  | read (side : Side) (generated : PrivateKey) (now : Int)

namespace Exchange

/-- Two contacts that have exchanged nothing. -/
def ofContacts (inviter joiner : Contact) : Exchange where
  contact
    | .inviter => inviter
    | .joiner => joiner

/-- `side` encrypts a text. -/
def text (identity : Side → Identity) (x : Exchange) (side : Side) (draws : Draws)
    (body : String) : Exchange :=
  match (encryptText P (identity side) draws body).run (x.contact side) with
  | .ok e c =>
      { x with
        contact := Function.update x.contact side c
        inbox := Function.update x.inbox side.other (x.inbox side.other ++ [e]) }
  | .error _ _ => x

/-- `side` decrypts the oldest text on its way. -/
def read (x : Exchange) (side : Side) (generated : PrivateKey) (now : Int) : Exchange :=
  match x.inbox side with
  | [] => x
  | e :: rest =>
      let run := (decryptOuter P generated now e.outerBlob).run (x.contact side)
      { contact :=
          match run with
          | .ok _ c => Function.update x.contact side c
          | .error _ _ => x.contact
        inbox := Function.update x.inbox side rest
        log := x.log ++ [⟨e, outcome run⟩] }

def step (identity : Side → Identity) (x : Exchange) : Turn → Exchange
  | .text side draws body => x.text P identity side draws body
  | .read side generated now => x.read P side generated now

/-- The turns considered: `generate()` draws a new key pair, a chain stays below
`2 ^ 32 - 1` messages, and a text is read within its lifetime. -/
def Admissible (x : Exchange) : Turn → Prop
  | .text side draws _ => ∀ r ∈ (x.contact side).ratchet,
      Conversation.Fresh P r draws.ratchetPrivate ∧ r.sendN + 1 < 2 ^ 32 - 1
  | .read side generated now =>
      (∀ r ∈ (x.contact side).ratchet, Conversation.Fresh P r generated)
        ∧ ∀ e ∈ (x.inbox side).head?, now ≤ e.innerMessage.validUntil

instance decidableAdmissible (x : Exchange) : (t : Turn) → Decidable (Admissible P x t)
  | .text _ _ _ => inferInstanceAs (Decidable (∀ _ ∈ _, _ ∧ _))
  | .read _ _ _ => inferInstanceAs (Decidable ((∀ _ ∈ _, _) ∧ ∀ _ ∈ _, _))

/-- Any number of admissible turns. -/
abbrev Run (identity : Side → Identity) : Exchange → Exchange → Prop :=
  System.Run (Admissible P) (step P identity)

/-- Turns that are admissible one after another. -/
abbrev Schedule (identity : Side → Identity) : Exchange → List Turn → Prop :=
  System.Schedule (Admissible P) (step P identity)

/-! ### The invariant -/

/-- Sequence numbers count on from `start`. -/
def Numbered : (start : Int) → List EncryptedMessage → Prop
  | _, [] => True
  | start, e :: rest => e.innerMessage.seq = start ∧ Numbered (start + 1) rest

theorem Numbered.concat {start : Int} {es : List EncryptedMessage} {e : EncryptedMessage}
    (h : Numbered start es) (he : e.innerMessage.seq = start + es.length) :
    Numbered start (es ++ [e]) := by
  induction es generalizing start with
  | nil => exact ⟨by simpa using he, trivial⟩
  | cons f es ih =>
      refine ⟨h.1, ih h.2 ?_⟩
      rw [he, List.length_cons]
      push_cast
      ring

/-- A payload of a conversation is the ciphertext of a text, its plaintext the
padded text. -/
def Seals (mode : PrivacyMode) (w : Wire) (e : EncryptedMessage) : Prop :=
  w.payload = e.outerBlob.ciphertext
    ∧ ∃ added, padPlaintext e.innerMessage.toBytes mode = .ok (w.plaintext, added)

theorem Seals.of_pad {mode : PrivacyMode} {e : EncryptedMessage} {padded : Bytes} {added : Nat}
    (h : padPlaintext e.innerMessage.toBytes mode = .ok (padded, added)) :
    Seals mode ⟨e.outerBlob.ciphertext, padded⟩ e := ⟨rfl, added, h⟩

/-- A text of this conversation that survives its bytes. -/
def Belongs (c : Contact) (e : EncryptedMessage) : Prop :=
  e.innerMessage.Wellformed ∧ e.innerMessage.conversationId = c.conversationId

/-- The way to `side`: what the sequence numbers of its contact `mine` and of the
other side's contact `theirs` say about the texts on it. -/
structure Way (mine theirs : Contact) (inbox : List EncryptedMessage) : Prop where
  conversationId : theirs.conversationId = mine.conversationId
  privacyMode : theirs.privacyMode = mine.privacyMode
  numbered : Numbered (mine.lastRecvSeq + 1) inbox
  next : theirs.nextSendSeq = mine.lastRecvSeq + 1 + inbox.length
  belongs : ∀ e ∈ inbox, Belongs mine e

/-- What no turn changes in a contact. -/
structure SameIdentity (c c' : Contact) : Prop where
  name : c'.name = c.name
  masterSecret : c'.masterSecret = c.masterSecret
  conversationId : c'.conversationId = c.conversationId
  deliveryProfile : c'.deliveryProfile = c.deliveryProfile
  privacyMode : c'.privacyMode = c.privacyMode

theorem SameIdentity.refl (c : Contact) : SameIdentity c c := ⟨rfl, rfl, rfl, rfl, rfl⟩

theorem SameIdentity.counting {c c' : Contact} (h : SameIdentity c c')
    (ratchet : Option RatchetState) (nextSendSeq lastRecvSeq : Int) :
    SameIdentity c { c' with ratchet, nextSendSeq, lastRecvSeq } :=
  ⟨h.name, h.masterSecret, h.conversationId, h.deliveryProfile, h.privacyMode⟩

/-- A run of ratchets below the exchange. -/
structure Below (P : Packages) (x : Exchange) (c : Conversation) : Prop where
  inv : Conversation.Inv P c
  state : ∀ side, (x.contact side).ratchet = some (c.state side)
  wires : ∀ side, List.Forall₂ (Seals (x.contact side).privacyMode) (c.inbox side).inFlight
    (x.inbox side)

/-- The exchange started from `origin` and every text so far was accepted. -/
structure Inv (P : Packages) (origin : Side → Contact) (x : Exchange) : Prop where
  below : ∃ c, Below P x c
  way : ∀ side, Way (x.contact side) (x.contact side.other) (x.inbox side)
  same : ∀ side, SameIdentity (origin side) (x.contact side)
  accepted : ∀ r ∈ x.log, r.result = .ok r.sent.innerMessage

variable {P} {identity : Side → Identity} {origin : Side → Contact} {x x' : Exchange}

/-- What `encrypt_text` leaves of a way it sends on. -/
theorem Way.push {mine theirs theirs' : Contact} {inbox : List EncryptedMessage}
    {identity : Identity} {draws : Draws} {body : String} {e : EncryptedMessage}
    (h : Way mine theirs inbox)
    (hsend : (encryptText P identity draws body).run theirs = .ok e theirs') :
    Way mine theirs' (inbox ++ [e]) := by
  obtain ⟨r, r', padded, -, -, -, rfl⟩ := (encryptMessage_ok hsend).ratchet
  have hinner := (encryptMessage_ok hsend).inner
  refine ⟨h.conversationId, h.privacyMode, h.numbered.concat ?_, ?_, fun f hf => ?_⟩
  · rw [hinner]
    exact h.next
  · show theirs.nextSendSeq + 1 = _
    rw [h.next, List.length_append, List.length_singleton]
    push_cast
    ring
  · rcases List.mem_append.mp hf with hf | hf
    · exact h.belongs f hf
    · obtain rfl := List.mem_singleton.mp hf
      rw [Belongs, hinner]
      exact ⟨InnerMessage.wellformed_text .., h.conversationId⟩

/-- Sending does not touch what a contact has received. -/
theorem Way.sending {mine theirs : Contact} {inbox : List EncryptedMessage}
    (h : Way mine theirs inbox) (ratchet : Option RatchetState) (nextSendSeq : Int) :
    Way { mine with ratchet, nextSendSeq } theirs inbox :=
  ⟨h.conversationId, h.privacyMode, h.numbered, h.next, h.belongs⟩

/-- Receiving does not touch what a contact has sent. -/
theorem Way.receiving {mine theirs : Contact} {inbox : List EncryptedMessage}
    (h : Way mine theirs inbox) (ratchet : Option RatchetState) (lastRecvSeq : Int) :
    Way mine { theirs with ratchet, lastRecvSeq } inbox :=
  ⟨h.conversationId, h.privacyMode, h.numbered, h.next, h.belongs⟩

/-- The oldest text was accepted. -/
theorem Way.pop {mine theirs : Contact} {e : EncryptedMessage} {rest : List EncryptedMessage}
    (h : Way mine theirs (e :: rest)) (ratchet : Option RatchetState) :
    Way { mine with ratchet, lastRecvSeq := e.innerMessage.seq } theirs rest := by
  obtain ⟨hseq, hrest⟩ := h.numbered
  refine ⟨h.conversationId, h.privacyMode, ?_, ?_, fun f hf =>
    h.belongs f (List.mem_cons_of_mem e hf)⟩
  · show Numbered (e.innerMessage.seq + 1) rest
    rw [hseq]
    exact hrest
  · show theirs.nextSendSeq = e.innerMessage.seq + 1 + rest.length
    rw [h.next, hseq, List.length_cons]
    push_cast
    ring

/-- `side` encrypts a text. -/
theorem Inv.text (h : Inv P origin x) (hdh : P.DhLaws) {side : Side} {draws : Draws}
    {body : String} (hadm : Admissible P x (.text side draws body)) :
    Inv P origin (x.text P identity side draws body) := by
  unfold Exchange.text
  cases hsend : (encryptText P (identity side) draws body).run (x.contact side) with
  | error e c => exact h
  | ok e c' =>
      obtain ⟨r, r', padded, hr, hpad, hrun, hc'⟩ := (encryptMessage_ok hsend).ratchet
      obtain ⟨c, hbelow⟩ := h.below
      obtain rfl : c.state side = r := Option.some.inj ((hbelow.state side).symm.trans hr)
      obtain ⟨hfresh, hroom⟩ := hadm _ hr
      refine ⟨⟨c.encrypt P side padded draws.ratchetPrivate draws.nonce,
        hbelow.inv.encrypt hdh ⟨hfresh, hroom⟩, fun s => ?_, fun s => ?_⟩, fun s => ?_,
        fun s => ?_, h.accepted⟩
      · rcases Side.eq_or_eq_other s side with rfl | rfl
        · simp [Conversation.encrypt, hrun, hc']
        · simpa [Conversation.encrypt, hrun, Function.update_of_ne] using hbelow.state side.other
      · rcases Side.eq_or_eq_other s side with rfl | rfl
        · simpa [Conversation.encrypt, hrun, Function.update_of_ne, hc'] using hbelow.wires s
        · have hmode := (h.way side.other).privacyMode
          rw [Side.other_other] at hmode
          have hnew : Seals (x.contact side.other).privacyMode ⟨e.outerBlob.ciphertext, padded⟩ e :=
            .of_pad (hmode ▸ hpad)
          simpa [Conversation.encrypt, hrun, Function.update_of_ne, Channel.push] using
            List.rel_append (hbelow.wires side.other) (List.Forall₂.cons hnew .nil)
      · rcases Side.eq_or_eq_other s side with rfl | rfl
        · simpa [Function.update_of_ne, hc'] using (h.way s).sending (some r') _
        · have hway := h.way side.other
          rw [Side.other_other] at hway
          simpa [Function.update_of_ne] using hway.push hsend
      · rcases Side.eq_or_eq_other s side with rfl | rfl
        · simpa [hc'] using (h.same s).counting (some r') _ _
        · simpa [Function.update_of_ne] using h.same side.other

/-- A text whose payload opens is accepted when it is the next one, if its sender pads when
the contact unpads. -/
theorem decryptOuter_accepts {c : Contact} {r r' : RatchetState} {e : EncryptedMessage}
    {w : Wire} {generated : PrivateKey} {now : Int} (hr : c.ratchet = some r)
    {mode : PrivacyMode} (hmode : mode = .fast ↔ c.privacyMode = .fast)
    (hseals : Seals mode w e) (hbelongs : Belongs c e)
    (hseq : e.innerMessage.seq = c.lastRecvSeq + 1) (hlive : now ≤ e.innerMessage.validUntil)
    (hopens : (RatchetState.decrypt P generated w.payload).run r = .ok w.plaintext r') :
    (decryptOuter P generated now e.outerBlob).run c =
      .ok e.innerMessage { c with ratchet := some r', lastRecvSeq := e.innerMessage.seq } := by
  obtain ⟨hpayload, added, hpad⟩ := hseals
  have hcheck : checkInner c e.innerMessage now = .ok () :=
    checkInner_ok.mpr ⟨hbelongs.2, hseq, hlive⟩
  rw [hpayload] at hopens
  rw [decryptOuter_run hr]
  simp only [hopens, decodePaddedPlaintext_padPlaintext hmode hpad,
    InnerMessage.fromBytes_toBytes P hbelongs.1, hcheck]

/-- `side` decrypts the oldest text on its way, and accepts it. -/
theorem Inv.read (h : Inv P origin x) (hdh : P.DhLaws) (haead : P.AeadLaws) {side : Side}
    {generated : PrivateKey} {now : Int} (hadm : Admissible P x (.read side generated now)) :
    Inv P origin (x.read P side generated now) := by
  unfold Exchange.read
  cases hinbox : x.inbox side with
  | nil => exact h
  | cons e rest =>
      obtain ⟨hfresh, hlive⟩ := hadm
      obtain ⟨c, hbelow⟩ := h.below
      have hway := h.way side
      rw [hinbox] at hway
      have hwires := hbelow.wires side
      rw [hinbox] at hwires
      obtain ⟨w, ws, hseals, hrest, hflight⟩ := List.forall₂_cons_right_iff.mp hwires
      have hfreshc : Conversation.Fresh P (c.state side) generated :=
        hfresh _ (hbelow.state side)
      have hinv : Conversation.Inv P (c.deliver P side generated) :=
        hbelow.inv.deliver hdh haead hfreshc
      -- the ratchet below opens the payload to what was sealed
      obtain ⟨r', hrun⟩ := hbelow.inv.opens hdh haead hflight hfreshc
      have hread : (decryptOuter P generated now e.outerBlob).run (x.contact side) = _ :=
        decryptOuter_accepts (hbelow.state side) Iff.rfl hseals (hway.belongs e List.mem_cons_self)
          hway.numbered.1 (hlive e (by rw [hinbox]; rfl)) hrun
      refine ⟨⟨c.deliver P side generated, hinv, fun s => ?_, fun s => ?_⟩, fun s => ?_,
        fun s => ?_, fun r hr => ?_⟩
      · rcases Side.eq_or_eq_other s side with rfl | rfl
        · simp [Conversation.deliver, hflight, hread, hrun]
        · simpa [Conversation.deliver, hflight, hread, hrun, Function.update_of_ne] using
            hbelow.state side.other
      · rcases Side.eq_or_eq_other s side with rfl | rfl
        · simpa [Conversation.deliver, hflight, hread, hrun, Channel.delivered] using hrest
        · simpa [Conversation.deliver, hflight, hread, hrun, Function.update_of_ne] using
            hbelow.wires side.other
      · rcases Side.eq_or_eq_other s side with rfl | rfl
        · simpa [hread, Function.update_of_ne] using hway.pop (some r')
        · have hback := h.way side.other
          rw [Side.other_other] at hback
          simpa [hread, Function.update_of_ne] using hback.receiving (some r') _
      · rcases Side.eq_or_eq_other s side with rfl | rfl
        · simpa [hread] using (h.same s).counting (some r') _ _
        · simpa [hread, Function.update_of_ne] using h.same side.other
      · rcases List.mem_append.mp hr with hr | hr
        · exact h.accepted r hr
        · obtain rfl := List.mem_singleton.mp hr
          rw [hread, outcome_ok]

/-- One admissible turn keeps the invariant. -/
theorem Inv.step (h : Inv P origin x) (hdh : P.DhLaws) (haead : P.AeadLaws) {t : Turn}
    (hadm : Admissible P x t) : Inv P origin (x.step P identity t) := by
  cases t with
  | text side draws body => exact h.text hdh hadm
  | read side generated now => exact h.read hdh haead hadm

/-- Any run of admissible turns keeps the invariant. -/
theorem Inv.run (h : Inv P origin x) (hdh : P.DhLaws) (haead : P.AeadLaws)
    (hrun : Run P identity x x') : Inv P origin x' :=
  hrun.invariant h fun _ _ hinv hadm => hinv.step hdh haead hadm

end Exchange
end Yakr
