import Yakr.Session.Exchange

/-!
# Yakr.Pairing.Names

**Which names a pairing works under.** The conversation id and the mailbox
directions of a contact are made of two display names, and the two sides read
them from different places: the inviter takes the joiner's name from the request,
the joiner takes its own from its identity and the inviter's from the alias it
stores the contact under. The contacts mirror each other exactly when these are
the same names, and then every text of either side arrives.
-/

namespace Yakr

open Lib Effect

variable {P : Packages}

/-! ### Names in ids and directions -/

/-- Whatever the order of the names, an id holds both. -/
theorem length_conversationIdFor (a b : String) :
    (conversationIdFor a b).length = a.length + b.length + 10 := by
  have hprefix : "pairwise_".length = 9 := by decide
  have hsep : "_".length = 1 := by decide
  unfold conversationIdFor
  by_cases hlt : b < a
  · simp only [hlt, if_true, String.length_append]
    omega
  · simp only [hlt, if_false, String.length_append]
    omega

/-- Directions whose second names are of one length are made of the same names. -/
theorem direction_inj {a b c d : String} (hlen : b.length = d.length)
    (h : direction a b = direction c d) : a = c ∧ b = d := by
  have hlist : a.toList ++ "->".toList ++ b.toList = c.toList ++ "->".toList ++ d.toList := by
    simpa only [direction, String.toList_append] using congrArg String.toList h
  obtain ⟨hleft, hright⟩ := List.append_inj' hlist (by simpa [String.length_toList] using hlen)
  exact ⟨String.toList_injective (List.append_cancel_right hleft), String.toList_injective hright⟩

namespace HonestPairing

variable (p : HonestPairing P)

/-- The identities of the two sides. -/
def identity : Side → Identity
  | .inviter => p.inviter
  | .joiner => p.joiner

/-- The joiner's contact under the name it is stored by. -/
def storedContact (contactName : Option String) : Contact :=
  { p.joinerContact with name := aliasOr contactName p.invite.inviterName }

/-- The contacts of the two sides once both have stored theirs. -/
def contacts (contactName : Option String) : Side → Contact
  | .inviter => p.inviterContact
  | .joiner => p.storedContact contactName

/-- What the names of the two contacts are made of. -/
theorem contact_fields :
    p.inviterContact.name = p.joinerName
      ∧ p.inviterContact.conversationId = conversationIdFor p.inviter.name p.joinerName
      ∧ p.joinerContact.conversationId = conversationIdFor p.inviter.name p.joiner.name := by
  obtain ⟨kemCiphertext, secret, -, hreq, -⟩ := buildPairingRequest_ok p.requested
  obtain ⟨transcriptHash, pqSecret, master, profile, version, names, -, -, -, -, hic⟩ :=
    inviterCompletePairing_ok p.answered
  obtain ⟨master', ratchet, profile', version', names', -, -, -, hjc⟩ :=
    joinerCompletePairing_ok p.joined
  refine ⟨?_, ?_, ?_⟩
  · rw [hic, hreq]
  · rw [hic, hreq]
  · rw [hjc, p.issued.inviterName]

/-- The counters and the privacy mode of two fresh contacts. -/
theorem contact_counters (contactName : Option String) (side : Side) :
    (p.contacts contactName side).nextSendSeq = 1
      ∧ (p.contacts contactName side).lastRecvSeq = 0
      ∧ (p.contacts contactName side).privacyMode = .fast := by
  cases side with
  | inviter =>
      obtain ⟨transcriptHash, pqSecret, master, profile, version, names, -, -, -, -, hic⟩ :=
        inviterCompletePairing_ok p.answered
      rw [contacts, hic]
      exact ⟨rfl, rfl, rfl⟩
  | joiner =>
      obtain ⟨master, ratchet, profile, version, names, -, -, -, hjc⟩ :=
        joinerCompletePairing_ok p.joined
      rw [contacts, storedContact, hjc]
      exact ⟨rfl, rfl, rfl⟩

/-- The two names a pairing needs. -/
def NamesAgree (contactName : Option String) : Prop :=
  p.joinerName = p.joiner.name ∧ aliasOr contactName p.invite.inviterName = p.inviter.name

/-- The contacts mirror each other exactly when the names agree. -/
theorem mirrored_iff (hdh : P.DhLaws) (hkem : inviteSupportsHybrid p.invite = true → P.KemLaws)
    (contactName : Option String) :
    Mirrored p.inviter p.inviterContact p.joiner (p.storedContact contactName)
      ↔ p.NamesAgree contactName := by
  obtain ⟨hname, hid, hid'⟩ := p.contact_fields
  constructor
  · intro h
    have hconversation := congrArg String.length h.conversationId
    rw [hid, storedContact, hid', length_conversationIdFor, length_conversationIdFor]
      at hconversation
    have hout : direction p.inviter.name p.joinerName
        = direction (aliasOr contactName p.invite.inviterName) p.joiner.name := by
      rw [← hname]
      exact h.outward
    obtain ⟨halias, hjoiner⟩ := direction_inj (by omega) hout
    exact ⟨hjoiner, halias.symm⟩
  · rintro ⟨hjoiner, halias⟩
    obtain ⟨master, shared, hmaster, hmaster', -⟩ := p.agree hdh hkem
    refine ⟨?_, ?_, ?_, ?_⟩
    · rw [storedContact, hmaster, hmaster']
    · rw [storedContact, hid, hid', hjoiner]
    · rw [sendDirection, recvDirection, storedContact, hname, hjoiner, halias]
    · rw [sendDirection, recvDirection, storedContact, hname, hjoiner, halias]

/-- Contacts that mirror each other start an exchange. -/
theorem exchange_inv (hdh : P.DhLaws) (hkem : inviteSupportsHybrid p.invite = true → P.KemLaws)
    {contactName : Option String}
    (h : Mirrored p.inviter p.inviterContact p.joiner (p.storedContact contactName)) :
    Exchange.Inv P (p.contacts contactName)
      (Exchange.ofContacts p.inviterContact (p.storedContact contactName)) := by
  obtain ⟨l, f, hl, hf, -⟩ := p.leads hdh hkem
  have hcount := p.contact_counters contactName
  refine ⟨⟨Conversation.ofRatchets l f, p.inv hdh hkem hl hf, fun side => ?_, fun side => ?_⟩,
    fun side => ?_, fun side => ?_, fun r hr => absurd hr List.not_mem_nil⟩
  · cases side with
    | inviter => exact hl
    | joiner => exact hf
  · cases side <;> exact .nil
  · cases side with
    | inviter =>
        obtain ⟨-, hrecv, hmode⟩ := hcount .inviter
        obtain ⟨hsend, -, hmode'⟩ := hcount .joiner
        refine ⟨h.conversationId.symm, hmode'.trans hmode.symm, trivial, ?_,
          fun e he => absurd he List.not_mem_nil⟩
        show (p.storedContact contactName).nextSendSeq = p.inviterContact.lastRecvSeq + 1 + 0
        rw [show p.inviterContact.lastRecvSeq = 0 from hrecv]
        exact hsend
    | joiner =>
        obtain ⟨-, hrecv, hmode⟩ := hcount .joiner
        obtain ⟨hsend, -, hmode'⟩ := hcount .inviter
        refine ⟨h.conversationId, hmode'.trans hmode.symm, trivial, ?_,
          fun e he => absurd he List.not_mem_nil⟩
        show p.inviterContact.nextSendSeq = (p.storedContact contactName).lastRecvSeq + 1 + 0
        rw [show (p.storedContact contactName).lastRecvSeq = 0 from hrecv]
        exact hsend
  · cases side <;> exact .refl _

/-- The contacts keep mirroring each other while texts are exchanged. -/
theorem mirrored_of_inv {contactName : Option String} {x : Exchange}
    (h : Mirrored p.inviter p.inviterContact p.joiner (p.storedContact contactName))
    (hinv : Exchange.Inv P (p.contacts contactName) x) (side : Side) :
    Mirrored (p.identity side) (x.contact side) (p.identity side.other)
      (x.contact side.other) := by
  have hi := hinv.same .inviter
  have hj := hinv.same .joiner
  have hstored : Mirrored p.inviter (x.contact .inviter) p.joiner (x.contact .joiner) := by
    refine ⟨?_, ?_, ?_, ?_⟩
    · rw [hi.masterSecret, hj.masterSecret]
      exact h.masterSecret
    · rw [hi.conversationId, hj.conversationId]
      exact h.conversationId
    · rw [sendDirection, recvDirection, hi.name, hj.name]
      exact h.outward
    · rw [sendDirection, recvDirection, hi.name, hj.name]
      exact h.inward
  cases side with
  | inviter => exact hstored
  | joiner => exact hstored.symm

/-- **Names.** After an honest pairing the two contacts have one conversation id and
matching directions exactly when the joiner was named by its own name and stores the
inviter under the inviter's own. Then, in every exchange of texts, every text that is
read is accepted, and the other side polls the tag of every text when it is sent, as
long as the two epoch numbers are that close. -/
theorem mirrored_iff_namesAgree (hdh : P.DhLaws) (haead : P.AeadLaws)
    (hkem : inviteSupportsHybrid p.invite = true → P.KemLaws) (contactName : Option String) :
    (Mirrored p.inviter p.inviterContact p.joiner (p.storedContact contactName)
      ↔ p.NamesAgree contactName)
    ∧ (p.NamesAgree contactName → ∀ x, Exchange.Run P p.identity
        (Exchange.ofContacts p.inviterContact (p.storedContact contactName)) x →
      (∀ r ∈ x.log, r.result = .ok r.sent.innerMessage)
      ∧ ∀ side draws body e c', (encryptText P (p.identity side) draws body).run (x.contact side)
          = .ok e c' → ∀ mode, 0 < mailboxEpochSecs (x.contact side) →
        0 < mailboxEpochSecs (x.contact side.other) →
        ∃ tags, polledTags P (p.identity side.other) (x.contact side.other) mode draws.now
            = .ok tags
          ∧ (e.mailboxTag ∈ tags ↔
            epochAt (mailboxEpochSecs (x.contact side)) draws.now
                ≤ epochAt (mailboxEpochSecs (x.contact side.other)) draws.now
              ∧ epochAt (mailboxEpochSecs (x.contact side.other)) draws.now
                ≤ epochAt (mailboxEpochSecs (x.contact side)) draws.now + 2)) := by
  refine ⟨p.mirrored_iff hdh hkem contactName, fun hnames x hrun => ?_⟩
  have hmirrored := (p.mirrored_iff hdh hkem contactName).mpr hnames
  have hinv := (p.exchange_inv hdh hkem hmirrored).run hdh haead hrun
  refine ⟨hinv.accepted, fun side draws body e c' hsend mode hpos hpos' => ?_⟩
  exact (p.mirrored_of_inv hmirrored hinv side).polled_text_iff hpos hpos' hsend mode draws.now

end HonestPairing

namespace Sample

/-- Bob has joined and stores Alice under her own name. -/
def paired : Exchange := Exchange.ofContacts pairing.inviterContact (pairing.storedContact none)

/-- Alice greets Bob. -/
def greeting : List Turn :=
  [.text .inviter ⟨0, key 20, nonce 20⟩ "hi bob", .read .joiner (key 21) 1000]

def greeted : Exchange := greeting.foldl (Exchange.step plainPackages pairing.identity) paired

theorem greeting_schedule :
    Exchange.Schedule plainPackages pairing.identity paired greeting := by decide +kernel

/-- The greeting arrives. -/
theorem greeting_accepted :
    greeted.log.length = 1 ∧ ∀ r ∈ greeted.log, r.result = .ok r.sent.innerMessage := by
  have hnames : pairing.NamesAgree none := ⟨by decide +kernel, by decide +kernel⟩
  refine ⟨by decide +kernel, ?_⟩
  exact ((pairing.mirrored_iff_namesAgree plainPackages_dhLaws plainPackages_aeadLaws
    (fun _ => plainPackages_kemLaws) none).2 hnames greeted greeting_schedule.run).1

/-- Under a local alias the contacts do not mirror each other. -/
theorem not_mirrored_alias : ¬ ∀ (p : HonestPairing plainPackages) (contactName : Option String),
    p.inviterContact.conversationId = (p.storedContact contactName).conversationId
      ∧ sendDirection p.inviter p.inviterContact
        = recvDirection p.joiner (p.storedContact contactName)
      ∧ recvDirection p.inviter p.inviterContact
        = sendDirection p.joiner (p.storedContact contactName) := by
  intro h
  exact absurd (h pairing (some "ally")).2.1 (by decide +kernel)

end Sample
end Yakr
