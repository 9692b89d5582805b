import Yakr.Session.Exchange

/-!
# Yakr.Session.Modes

**Does the receiver's privacy mode matter?** A sender pads by the mode of its own
contact record and the receiver unpads by the mode of its own. Nothing on the wire
says which mode was used: a padded message that is not unpadded starts with the
zero byte of its length prefix, an unpadded one that is unpadded loses its first
four characters, and neither is JSON.
-/

namespace Yakr

open Lib Effect

variable {P : Packages}

/-! ### What is no message -/

/-- Bytes that start with an ASCII character no JSON value starts with. -/
theorem InnerMessage.fromBytes_not_json {v : Nat} (hv : v ≤ 0x7f) (rest : Bytes)
    (hws : Json.isWs (Char.ofNat v) = false) (hstr : Char.ofNat v ≠ '"')
    (harr : Char.ofNat v ≠ '[') (hobj : Char.ofNat v ≠ '{')
    (hscalar : ∀ cs, Json.parseScalar (Char.ofNat v :: cs) = none) (m : InnerMessage) :
    fromBytes P (UInt8.ofNat v :: rest) ≠ .ok m := by
  intro h
  obtain ⟨payload, hload, -⟩ := bind_ok.mp h
  obtain ⟨text, htext, hjson⟩ := bind_ok.mp hload
  have htext' : text = String.ofList (Char.ofNat v :: (text.toList.drop 1)) := by
    unfold decodeUtf8 Bytes.toUtf8 at htext
    rw [Bytes.utf8Chars_one rest hv] at htext
    cases hrest : Bytes.utf8Chars rest with
    | none =>
        rw [hrest] at htext
        cases htext
    | some cs =>
        rw [hrest] at htext
        cases htext
        simp
  rw [htext', Json.loads_eq_none _ hws hstr harr hobj (hscalar _)] at hjson
  cases hjson

/-- The zero byte starts no message. -/
theorem InnerMessage.fromBytes_zero (rest : Bytes) (m : InnerMessage) :
    fromBytes P (0 :: rest) ≠ .ok m :=
  fromBytes_not_json (v := 0) (by decide) rest rfl (by decide) (by decide) (by decide)
    (fun _ => rfl) m

/-- The letter `d` starts no message. -/
theorem InnerMessage.fromBytes_d (rest : Bytes) (m : InnerMessage) :
    fromBytes P (100 :: rest) ≠ .ok m :=
  fromBytes_not_json (v := 100) (by decide) rest rfl (by decide) (by decide) (by decide)
    (fun _ => rfl) m

/-- The bytes of a message start with `{"body`. -/
theorem InnerMessage.toBytes_head (m : InnerMessage) :
    ∃ rest, m.toBytes = 0x7b :: 0x22 :: 0x62 :: 0x6f :: 100 :: rest := by
  have hrender : ∃ cs, m.toJson.render = '{' :: '"' :: 'b' :: 'o' :: 'd' :: cs := by
    rw [toJson, Json.render]
    exact ⟨_, rfl⟩
  obtain ⟨cs, hcs⟩ := hrender
  refine ⟨cs.flatMap String.utf8EncodeChar, ?_⟩
  rw [toBytes, encodeUtf8, Bytes.ofUtf8, Json.dumps, String.toList_ofList, hcs]
  rfl

/-- What a padding mode makes starts with a zero byte. -/
theorem padPlaintext_head {plaintext padded : Bytes} {mode : PrivacyMode} {added : Nat}
    (hmode : mode ≠ .fast) (h : padPlaintext plaintext mode = .ok (padded, added)) :
    ∃ rest, padded = 0 :: rest := by
  obtain ⟨hlen, fill, rfl⟩ := padPlaintext_ok hmode h
  have hsize : size32K = 32768 := rfl
  have hfirst : plaintext.length / 256 / 256 / 256 % 256 = 0 := by omega
  simp only [Bytes.ofNatBE, hfirst, List.nil_append, List.cons_append]
  exact ⟨_, rfl⟩

/-- Unpadding an unpadded message gives, if anything, something that starts with `d`. -/
theorem unpadPlaintext_toBytes {m : InnerMessage} {plaintext : Bytes}
    (h : unpadPlaintext m.toBytes = .ok plaintext) : ∃ rest, plaintext = 100 :: rest := by
  obtain ⟨rest, hrest⟩ := m.toBytes_head
  have hpositive : 0 < Bytes.toNatBE [0x7b, 0x22, 0x62, 0x6f] := by decide
  obtain ⟨n, hn⟩ := Nat.exists_eq_add_of_lt hpositive
  rw [hrest, unpadPlaintext, if_neg (by simp)] at h
  -- the text itself is taken for a length prefix
  have htake : (0x7b :: 0x22 :: 0x62 :: 0x6f :: 100 :: rest).take 4 = [0x7b, 0x22, 0x62, 0x6f] :=
    rfl
  simp only [htake, hn, Nat.zero_add] at h
  split_ifs at h
  cases h
  exact ⟨rest.take n, rfl⟩

/-! ### The next text of a conversation -/

/-- A text that has arrived next: `sender` encrypted it, its payload is the oldest one on its
way to `side`, whose stored contact is `receiver`. -/
structure Arrives (P : Packages) (c : Conversation) (side : Side) (identity : Identity)
    (draws : Draws) (body : String) (sender sender' receiver : Contact) (e : EncryptedMessage) :
    Prop where
  sent : (encryptText P identity draws body).run sender = .ok e sender'
  oldest : ∃ w rest, (c.inbox side).inFlight = w :: rest
    ∧ Exchange.Seals sender.privacyMode w e
  ratchet : receiver.ratchet = some (c.state side)
  conversationId : sender.conversationId = receiver.conversationId
  next : e.innerMessage.seq = receiver.lastRecvSeq + 1

section Arrives

variable {c : Conversation} {side : Side} {identity : Identity} {draws : Draws} {body : String}
  {sender sender' receiver : Contact} {e : EncryptedMessage} {generated : PrivateKey} {now : Int}

theorem Arrives.belongs (h : Arrives P c side identity draws body sender sender' receiver e) :
    Exchange.Belongs receiver e := by
  have hinner := (encryptMessage_ok h.sent).inner
  rw [Exchange.Belongs, hinner]
  exact ⟨InnerMessage.wellformed_text .., h.conversationId⟩

/-- Which mode the receiver has chosen does not change what arrives. -/
theorem Arrives.inMode (h : Arrives P c side identity draws body sender sender' receiver e)
    (mode : PrivacyMode) : Arrives P c side identity draws body sender sender'
      { receiver with privacyMode := mode } e :=
  ⟨h.sent, h.oldest, h.ratchet, h.conversationId, h.next⟩

/-- What is padded on one side only is no message on the other. -/
theorem decodePaddedPlaintext_mismatch {m : InnerMessage} {padded plaintext : Bytes}
    {mode mode' : PrivacyMode} {added : Nat} (hmode : ¬ (mode = .fast ↔ mode' = .fast))
    (hpad : padPlaintext m.toBytes mode = .ok (padded, added))
    (hdecode : decodePaddedPlaintext padded mode' = .ok plaintext) (m' : InnerMessage) :
    InnerMessage.fromBytes P plaintext ≠ .ok m' := by
  by_cases hfast : mode = .fast
  · have hfast' : mode' ≠ .fast := fun h => hmode ⟨fun _ => h, fun _ => hfast⟩
    rw [decodePaddedPlaintext, if_neg hfast'] at hdecode
    subst hfast
    simp only [padPlaintext, selectSizeClass, if_true, Except.ok.injEq, Prod.mk.injEq] at hpad
    rw [← hpad.1] at hdecode
    obtain ⟨rest, rfl⟩ := unpadPlaintext_toBytes hdecode
    exact InnerMessage.fromBytes_d rest m'
  · have hfast' : mode' = .fast := by
      by_contra h
      exact hmode ⟨fun h' => absurd h' hfast, fun h' => absurd h' h⟩
    rw [decodePaddedPlaintext, if_pos hfast'] at hdecode
    obtain ⟨rest, rfl⟩ := padPlaintext_head hfast hpad
    cases hdecode
    exact InnerMessage.fromBytes_zero rest m'

/-- A text that was padded on one side only is not returned. -/
theorem Arrives.not_returned (h : Arrives P c side identity draws body sender sender' receiver e)
    (hinv : Conversation.Inv P c) (hdh : P.DhLaws) (haead : P.AeadLaws)
    (hfresh : Conversation.Fresh P (c.state side) generated)
    (hmode : ¬ (sender.privacyMode = .fast ↔ receiver.privacyMode = .fast))
    (m : InnerMessage) (receiver' : Contact) :
    (decryptOuter P generated now e.outerBlob).run receiver ≠ .ok m receiver' := by
  intro hrun
  obtain ⟨w, rest, hflight, hpayload, added, hpad⟩ := h.oldest
  obtain ⟨r', hopens⟩ := hinv.opens hdh haead hflight hfresh
  obtain ⟨r, r'', padded, plaintext, hr, hdec, hdecode, hinner, -⟩ := decryptOuter_ok hrun
  obtain rfl : c.state side = r := Option.some.inj (h.ratchet.symm.trans hr)
  rw [← hpayload, hopens] at hdec
  cases hdec
  exact decodePaddedPlaintext_mismatch hmode hpad hdecode m hinner

/-- A text that was padded on both sides or on neither is returned while it lives. -/
theorem Arrives.returned (h : Arrives P c side identity draws body sender sender' receiver e)
    (hinv : Conversation.Inv P c) (hdh : P.DhLaws) (haead : P.AeadLaws)
    (hfresh : Conversation.Fresh P (c.state side) generated)
    (hmode : sender.privacyMode = .fast ↔ receiver.privacyMode = .fast)
    (hlive : now ≤ e.innerMessage.validUntil) :
    ∃ receiver', (decryptOuter P generated now e.outerBlob).run receiver
      = .ok e.innerMessage receiver' := by
  obtain ⟨w, rest, hflight, hseals⟩ := h.oldest
  obtain ⟨r', hopens⟩ := hinv.opens hdh haead hflight hfresh
  exact ⟨_, Exchange.decryptOuter_accepts h.ratchet hmode hseals h.belongs h.next hlive hopens⟩

/-- **Privacy modes.** The next text of a conversation is returned to its receiver exactly
when it is read within its lifetime and the two sides either both pad or both do not. -/
theorem decryptOuter_text_iff (hinv : Conversation.Inv P c) (hdh : P.DhLaws)
    (haead : P.AeadLaws)
    (h : Arrives P c side identity draws body sender sender' receiver e)
    (hfresh : Conversation.Fresh P (c.state side) generated) :
    (∃ receiver', (decryptOuter P generated now e.outerBlob).run receiver
        = .ok e.innerMessage receiver')
      ↔ now ≤ e.innerMessage.validUntil
        ∧ (sender.privacyMode = .fast ↔ receiver.privacyMode = .fast) := by
  constructor
  · intro hreturned
    obtain ⟨receiver', hrun⟩ := hreturned
    obtain ⟨-, -, -, -, -, -, -, -, hcheck, -⟩ := decryptOuter_ok hrun
    refine ⟨(checkInner_ok.mp hcheck).2.2, ?_⟩
    by_contra hmode
    exact h.not_returned hinv hdh haead hfresh hmode _ _ hrun
  · intro hmode
    exact h.returned hinv hdh haead hfresh hmode.2 hmode.1

/-- A text that is sent while nothing else is on its way arrives next. -/
theorem Arrives.of_sent {padded : Bytes} {added : Nat}
    (hsend : (encryptText P identity draws body).run sender = .ok e sender')
    (hpad : padPlaintext e.innerMessage.toBytes sender.privacyMode = .ok (padded, added))
    (hsender : sender.ratchet = some (c.state side))
    (hempty : (c.inbox side.other).inFlight = [])
    (hreceiver : receiver.ratchet = some (c.state side.other))
    (hid : sender.conversationId = receiver.conversationId)
    (hnext : sender.nextSendSeq = receiver.lastRecvSeq + 1) :
    Arrives P (c.encrypt P side padded draws.ratchetPrivate draws.nonce) side.other identity draws
      body sender sender' receiver e := by
  obtain ⟨r, r', padded', hr, hpad', hrun, -⟩ := (encryptMessage_ok hsend).ratchet
  obtain rfl : c.state side = r := Option.some.inj (hsender.symm.trans hr)
  obtain rfl : padded' = padded := congrArg Prod.fst (Except.ok.inj (hpad'.symm.trans hpad))
  refine ⟨hsend, ⟨_, [], ?_, .of_pad hpad⟩, ?_, hid, ?_⟩
  · simp [Conversation.encrypt, hrun, Channel.push, hempty]
  · simpa [Conversation.encrypt, Function.update_of_ne] using hreceiver
  · rw [(encryptMessage_ok hsend).inner]
    exact hnext

end Arrives

namespace Sample

/-- The two ratchets after the pairing. -/
def nothingSent : Conversation := .ofRatchets aliceRatchet bobRatchet

/-- Alice's first text is on its way to Bob. -/
def firstSent : Conversation :=
  nothingSent.encrypt plainPackages .inviter firstText.1.innerMessage.toBytes
    (drawsAt 0).ratchetPrivate (drawsAt 0).nonce

theorem firstSent_inv : Conversation.Inv plainPackages firstSent := by
  have hpaired : Conversation.Inv plainPackages nothingSent :=
    pairing.inv plainPackages_dhLaws (fun _ => plainPackages_kemLaws)
      (Option.some_get _).symm (Option.some_get _).symm
  have hfresh : Conversation.Fresh plainPackages aliceRatchet (key 20) := by decide +kernel
  have hroom : aliceRatchet.sendN + 1 < 2 ^ 32 - 1 := by decide +kernel
  exact hpaired.encrypt plainPackages_dhLaws ⟨hfresh, hroom⟩

/-- Bob's contact for Alice, after Bob has chosen a privacy mode. -/
def bobIn (mode : PrivacyMode) : Contact := { joined with privacyMode := mode }

theorem firstText_arrives :
    Arrives plainPackages firstSent .joiner alice (drawsAt 0) "hello" answer.2 firstText.2 joined
      firstText.1 := by
  have hmode : answer.2.privacyMode = .fast := by decide +kernel
  have hpad : padPlaintext firstText.1.innerMessage.toBytes answer.2.privacyMode
      = .ok (firstText.1.innerMessage.toBytes, 0) := by
    rw [hmode]
    rfl
  have hsender : answer.2.ratchet = some (nothingSent.state .inviter) := by decide +kernel
  have hreceiver : joined.ratchet = some (nothingSent.state Side.inviter.other) := by
    decide +kernel
  have hid : answer.2.conversationId = joined.conversationId := by decide +kernel
  have hnext : answer.2.nextSendSeq = joined.lastRecvSeq + 1 := by decide +kernel
  have hempty : (nothingSent.inbox Side.inviter.other).inFlight = [] := rfl
  exact .of_sent firstText_run hpad hsender hempty hreceiver hid hnext

/-- Bob reads the text in the mode it was sent in. -/
theorem firstText_decrypted : (∃ receiver',
    (decryptOuter plainPackages (key 21) 1000 firstText.1.outerBlob).run (bobIn .fast)
      = .ok firstText.1.innerMessage receiver')
    ↔ (1000 : Int) ≤ firstText.1.innerMessage.validUntil
      ∧ (answer.2.privacyMode = .fast ↔ (bobIn .fast).privacyMode = .fast) :=
  decryptOuter_text_iff firstSent_inv plainPackages_dhLaws plainPackages_aeadLaws
    (firstText_arrives.inMode .fast) (by decide +kernel)

/-- Bob has chosen the balanced mode and cannot read the text Alice sent without padding. -/
theorem not_decrypted_balanced :
    Arrives plainPackages firstSent .joiner alice (drawsAt 0) "hello" answer.2 firstText.2
        (bobIn .balanced) firstText.1
      ∧ ∀ m receiver', (decryptOuter plainPackages (key 21) 1000 firstText.1.outerBlob).run
        (bobIn .balanced) ≠ .ok m receiver' := by
  have hmode : answer.2.privacyMode = .fast := by decide +kernel
  have harrives := firstText_arrives.inMode .balanced
  refine ⟨harrives, harrives.not_returned firstSent_inv plainPackages_dhLaws
    plainPackages_aeadLaws (by decide +kernel) fun h => ?_⟩
  cases h.mp hmode

end Sample
end Yakr
