import Yakr.Pairing.Honest
import Yakr.Session.Methods

/-!
# Yakr.Mailbox.Rendezvous

**Does the recipient ask for the tag the sender stored under?** Two contacts that
mirror each other derive their tags from one secret and one direction; what is
left is arithmetic on epoch numbers. A recipient asks for its current epoch and
the two before it, so a tag is found again for two epochs, and only if both ends
divide the clock by the same length.
-/

namespace Yakr

open Lib Effect

variable {P : Packages}

/-- `a` holds the contact `ca` of `b`, `b` the contact `cb` of `a`, and the two agree on
what tags and messages are derived from. -/
structure Mirrored (a : Identity) (ca : Contact) (b : Identity) (cb : Contact) : Prop where
  masterSecret : ca.masterSecret = cb.masterSecret
  conversationId : ca.conversationId = cb.conversationId
  outward : sendDirection a ca = recvDirection b cb
  inward : recvDirection a ca = sendDirection b cb

theorem Mirrored.symm {a b : Identity} {ca cb : Contact} (h : Mirrored a ca b cb) :
    Mirrored b cb a ca :=
  ⟨h.masterSecret.symm, h.conversationId.symm, h.inward.symm, h.outward.symm⟩

/-! ### Epoch numbers -/

/-- The epoch number of a clock reading. -/
def epochAt (epochSecs now : Int) : Int := clockSecs now / epochSecs

theorem currentEpoch_eq {epochSecs now : Int} (hpos : 0 < epochSecs) :
    currentEpoch now epochSecs = .ok (epochAt epochSecs now) := by
  rw [currentEpoch, if_neg (by omega), epochAt, Int.fdiv_eq_ediv_of_nonneg _ (by omega)]

/-- Time does not run back. -/
theorem epochAt_mono {epochSecs t t' : Int} (hpos : 0 < epochSecs) (h : t ≤ t') :
    epochAt epochSecs t ≤ epochAt epochSecs t' := by
  have hsecs : clockSecs t ≤ clockSecs t' := by
    unfold clockSecs
    omega
  exact Int.ediv_le_ediv hpos hsecs

/-- `n` epochs later at most `n` epoch numbers have passed. -/
theorem epochAt_le_add {epochSecs t t' : Int} (hpos : 0 < epochSecs) {n : Int}
    (h : t' ≤ t + n * epochSecs * 1000) : epochAt epochSecs t' ≤ epochAt epochSecs t + n := by
  have hsecs : clockSecs t' ≤ clockSecs t + n * epochSecs := by
    unfold clockSecs
    omega
  calc epochAt epochSecs t' ≤ (clockSecs t + n * epochSecs) / epochSecs :=
        Int.ediv_le_ediv hpos hsecs
    _ = epochAt epochSecs t + n := Int.add_mul_ediv_right _ _ (by omega)

/-! ### Tags -/

namespace MailboxTagDeriver

variable {d d' : MailboxTagDeriver} {now : Int} {direction : String}

theorem derive_eq (hpos : 0 < d.epochSecs) :
    d.derive P now direction = .ok (d.deriveAt P direction (epochAt d.epochSecs now)) := by
  rw [derive, currentEpoch_eq hpos]
  rfl

theorem candidateEpochs_eq (hpos : 0 < d.epochSecs) (lookback : Nat) :
    d.candidateEpochs P now direction lookback =
      .ok ((List.range (lookback + 1)).map fun (offset : Nat) =>
        d.deriveAt P direction (epochAt d.epochSecs now - offset)) := by
  rw [candidateEpochs, currentEpoch_eq hpos]
  rfl

/-- A tag of some epoch is a candidate when the epoch is one of the last ones. -/
theorem mem_candidates (hsecret : d.secret = d'.secret) {epoch current : Int} {lookback : Nat} :
    d.deriveAt P direction epoch ∈ (List.range (lookback + 1)).map (fun (offset : Nat) =>
      d'.deriveAt P direction (current - offset)) ↔ epoch ≤ current ∧ current ≤ epoch + lookback := by
  rw [List.mem_map]
  constructor
  · rintro ⟨offset, hoffset, heq⟩
    have hepoch : current - offset = epoch := congrArg MailboxTag.epoch heq
    have := List.mem_range.mp hoffset
    omega
  · rintro ⟨hle, hback⟩
    refine ⟨(current - epoch).toNat, List.mem_range.mpr (by omega), ?_⟩
    have hepoch : current - ((current - epoch).toNat : Int) = epoch := by omega
    rw [hepoch, deriveAt, deriveAt, hsecret]

end MailboxTagDeriver

/-- Decoys are added for real epochs only, so a mode never asks for a tag of another
epoch than the real ones. -/
theorem mem_fetchTagsForMode (P : Packages) {d : MailboxTagDeriver} (d' : MailboxTagDeriver)
    (now : Int) (direction : String) (mode : PrivacyMode) (mailboxSecret : Bytes)
    (lookback : Nat) (hpos : 0 < d'.epochSecs) (hsecret : d.secret = d'.secret) (epoch : Int) :
    ∃ tags, fetchTagsForMode P d' now direction mode mailboxSecret lookback = .ok tags
      ∧ (d.deriveAt P direction epoch ∈ tags
        ↔ epoch ≤ epochAt d'.epochSecs now ∧ epochAt d'.epochSecs now ≤ epoch + lookback) := by
  unfold fetchTagsForMode
  rw [MailboxTagDeriver.candidateEpochs_eq hpos]
  by_cases hfast : mode = .fast
  · simp only [if_pos hfast]
    exact ⟨_, rfl, MailboxTagDeriver.mem_candidates hsecret⟩
  · simp only [if_neg hfast]
    refine ⟨_, rfl, ?_⟩
    rw [List.mem_append, MailboxTagDeriver.mem_candidates hsecret, or_iff_left_of_imp]
    intro hdecoy
    obtain ⟨real, hreal, hdecoy⟩ := List.mem_flatMap.mp hdecoy
    obtain ⟨index, -, heq⟩ := List.mem_map.mp hdecoy
    obtain ⟨offset, hoffset, rfl⟩ := List.mem_map.mp hreal
    have hepoch : epochAt d'.epochSecs now - offset = epoch := congrArg MailboxTag.epoch heq
    have := List.mem_range.mp hoffset
    omega

/-! ### Sender and recipient -/

section Peers

variable {a b : Identity} {ca ca' cb : Contact} {draws : Draws} {body : String}
  {e : EncryptedMessage}

theorem Mirrored.secret_eq (h : Mirrored a ca b cb) :
    (mailboxDeriver P a ca true).secret = (mailboxDeriver P b cb false).secret := by
  simp [mailboxDeriver, h.masterSecret, h.outward]

/-- The tags a fetch asks for. -/
abbrev polledTags (P : Packages) (b : Identity) (cb : Contact) (mode : PrivacyMode) (now : Int) :
    Except PyExc (List MailboxTag) :=
  fetchTagsForMode P (mailboxDeriver P b cb false) now (recvDirection b cb) mode
    (deriveMailboxSecret P cb.masterSecret (recvDirection b cb))

/-- The tag of a text is among the polled ones exactly when its epoch, numbered by the
sender's epoch length, is one of the three the recipient's clock asks for. -/
theorem Mirrored.polled_text_iff (h : Mirrored a ca b cb) (hpos : 0 < mailboxEpochSecs ca)
    (hpos' : 0 < mailboxEpochSecs cb)
    (hsend : (encryptText P a draws body).run ca = .ok e ca') (mode : PrivacyMode) (now : Int) :
    ∃ tags, polledTags P b cb mode now = .ok tags
      ∧ (e.mailboxTag ∈ tags ↔
        epochAt (mailboxEpochSecs ca) draws.now ≤ epochAt (mailboxEpochSecs cb) now
          ∧ epochAt (mailboxEpochSecs cb) now ≤ epochAt (mailboxEpochSecs ca) draws.now + 2) := by
  have htag := (encryptMessage_ok hsend).tag
  rw [MailboxTagDeriver.derive_eq hpos] at htag
  have htag' : e.mailboxTag = (mailboxDeriver P a ca true).deriveAt P (recvDirection b cb)
      (epochAt (mailboxEpochSecs ca) draws.now) := by
    rw [← h.outward]
    exact (Except.ok.inj htag).symm
  obtain ⟨tags, htags, hmem⟩ := mem_fetchTagsForMode P (mailboxDeriver P b cb false) now
    (recvDirection b cb) mode (deriveMailboxSecret P cb.masterSecret (recvDirection b cb)) 2 hpos'
    h.secret_eq (epochAt (mailboxEpochSecs ca) draws.now)
  exact ⟨tags, htags, htag' ▸ hmem⟩

/-- **Rendezvous.** With one epoch length on both ends, the tag of a text is among the
polled ones exactly while at most two epoch numbers have passed since it was sent,
in every privacy mode; that is always so for the first two epoch lengths. -/
theorem Mirrored.polled_iff (h : Mirrored a ca b cb)
    (hepoch : mailboxEpochSecs ca = mailboxEpochSecs cb) (hpos : 0 < mailboxEpochSecs cb)
    (hsend : (encryptText P a draws body).run ca = .ok e ca') {now : Int}
    (hlater : draws.now ≤ now) (mode : PrivacyMode) :
    ∃ tags, polledTags P b cb mode now = .ok tags
      ∧ (e.mailboxTag ∈ tags ↔
        epochAt (mailboxEpochSecs cb) now - epochAt (mailboxEpochSecs cb) draws.now ≤ 2)
      ∧ (now ≤ draws.now + 2 * mailboxEpochSecs cb * 1000 → e.mailboxTag ∈ tags) := by
  obtain ⟨tags, htags, hmem⟩ := h.polled_text_iff (hepoch ▸ hpos) hpos hsend mode now
  have hmono := epochAt_mono hpos hlater
  have hiff : e.mailboxTag ∈ tags ↔
      epochAt (mailboxEpochSecs cb) now - epochAt (mailboxEpochSecs cb) draws.now ≤ 2 := by
    rw [hmem, hepoch]
    omega
  refine ⟨tags, htags, hiff, fun hsoon => hiff.mpr ?_⟩
  have := epochAt_le_add hpos hsoon
  omega

end Peers

namespace Sample

/-- What a call at `now` draws. -/
def drawsAt (now : Int) : Draws := { now, ratchetPrivate := key 20, nonce := nonce 20 }

theorem mirrored : Mirrored alice answer.2 bob joined :=
  ⟨by decide +kernel, by decide +kernel, by decide +kernel, by decide +kernel⟩

/-- Alice's first text, encrypted at time zero. -/
def firstText : EncryptedMessage × Contact :=
  ran ((encryptText plainPackages alice (drawsAt 0) "hello").run answer.2) (by decide +kernel)

theorem firstText_run : (encryptText plainPackages alice (drawsAt 0) "hello").run answer.2
    = .ok firstText.1 firstText.2 := eq_ok_ran _ (by decide +kernel)

/-- The bytes of the tags asked for, none when the deriver raises. -/
def askedBytes : Except PyExc (List MailboxTag) → List Bytes
  | .ok tags => tags.map (·.tag)
  | .error _ => []

/-- Two hours after the first text its tag is polled. -/
theorem polled_after_two_hours : ∃ tags,
    polledTags plainPackages bob joined .balanced 7200000 = .ok tags
      ∧ (firstText.1.mailboxTag ∈ tags ↔
        epochAt (mailboxEpochSecs joined) 7200000
          - epochAt (mailboxEpochSecs joined) (drawsAt 0).now ≤ 2)
      ∧ ((7200000 : Int) ≤ (drawsAt 0).now + 2 * mailboxEpochSecs joined * 1000 →
        firstText.1.mailboxTag ∈ tags) := by
  have hlater : (drawsAt 0).now ≤ 7200000 := by decide
  exact mirrored.polled_iff (by decide +kernel) (by decide +kernel) firstText_run hlater .balanced

/-- Three hours after the first text, with the blob still on the relay, its tag is not
polled. -/
theorem not_polled_for_blob_lifetime : ¬ ∀ (a b : Identity) (ca ca' cb : Contact) (draws : Draws)
    (body : String) (e : EncryptedMessage) (now : Int) (mode : PrivacyMode)
    (tags : List MailboxTag), Mirrored a ca b cb → mailboxEpochSecs ca = mailboxEpochSecs cb →
      (encryptText plainPackages a draws body).run ca = .ok e ca' →
      draws.now ≤ now → now < draws.now + defaultBlobTtlMs →
      polledTags plainPackages b cb mode now = .ok tags →
      e.mailboxTag.tag ∈ tags.map (·.tag) := by
  intro h
  have hlater : (drawsAt 0).now ≤ 10800000 := by decide
  have hlive : (10800000 : Int) < (drawsAt 0).now + defaultBlobTtlMs := by decide
  have hsame : mailboxEpochSecs answer.2 = mailboxEpochSecs joined := by decide +kernel
  obtain ⟨tags, htags, -⟩ := mirrored.polled_iff hsame (by decide +kernel) firstText_run hlater
    .fast
  have hmem := h alice bob answer.2 firstText.2 joined (drawsAt 0) "hello" firstText.1 10800000
    .fast tags mirrored hsame firstText_run hlater hlive htags
  have hasked : firstText.1.mailboxTag.tag
      ∈ askedBytes (polledTags plainPackages bob joined .fast 10800000) := htags ▸ hmem
  exact absurd hasked (by decide +kernel)

end Sample

section Peers

variable {a b : Identity} {ca cb : Contact}

/-- **Epoch agreement.** The tag a peer derives for what it sends is among the
candidates the other derives for what it receives exactly when the two epoch
numbers, each with the length the other side published, are that close. -/
theorem Mirrored.candidate_iff (h : Mirrored a ca b cb) (hpos : 0 < mailboxEpochSecs ca)
    (hpos' : 0 < mailboxEpochSecs cb) (now : Int) :
    ∃ tag candidates, (mailboxDeriver P a ca true).derive P now (sendDirection a ca) = .ok tag
      ∧ (mailboxDeriver P b cb false).candidateEpochs P now (recvDirection b cb) = .ok candidates
      ∧ (tag ∈ candidates ↔
        epochAt (mailboxEpochSecs ca) now ≤ epochAt (mailboxEpochSecs cb) now
          ∧ epochAt (mailboxEpochSecs cb) now ≤ epochAt (mailboxEpochSecs ca) now + 2) := by
  refine ⟨_, _, MailboxTagDeriver.derive_eq hpos, MailboxTagDeriver.candidateEpochs_eq hpos' 2, ?_⟩
  rw [h.outward]
  exact MailboxTagDeriver.mem_candidates h.secret_eq

end Peers

namespace Sample

/-- A profile that publishes an epoch length. -/
def profileWith (mailboxEpochSecs : Int) : DeliveryProfile :=
  { protocol := protocolV5, version := 1, validFrom := 0, validUntil := 0, directHints := []
    relayDescriptors := [], mailboxEpochSecs, mailboxDirectionSalt := [], blobClasses := []
    receiptPolicy := "", signature := [] }

/-- Alice's contact for Bob after Bob has published an epoch of one minute. -/
def bobMinutely : Contact := { answer.2 with deliveryProfile := some (profileWith 60) }

/-- Bob's contact for Alice after Alice has published an epoch of one hour. -/
def aliceHourly : Contact := { joined with deliveryProfile := some (profileWith 3600) }

theorem mirrored_published : Mirrored alice bobMinutely bob aliceHourly :=
  ⟨by decide +kernel, by decide +kernel, by decide +kernel, by decide +kernel⟩

theorem candidate_iff_at_noon : ∃ tag candidates,
    (mailboxDeriver plainPackages alice bobMinutely true).derive plainPackages 43200000
        (sendDirection alice bobMinutely) = .ok tag
      ∧ (mailboxDeriver plainPackages bob aliceHourly false).candidateEpochs plainPackages 43200000
        (recvDirection bob aliceHourly) = .ok candidates
      ∧ (tag ∈ candidates ↔
        epochAt (mailboxEpochSecs bobMinutely) 43200000
            ≤ epochAt (mailboxEpochSecs aliceHourly) 43200000
          ∧ epochAt (mailboxEpochSecs aliceHourly) 43200000
            ≤ epochAt (mailboxEpochSecs bobMinutely) 43200000 + 2) :=
  mirrored_published.candidate_iff (by decide) (by decide) 43200000

/-- With these profiles the two ends never meet at noon. -/
theorem not_candidate_at_noon : ¬ ∀ (a b : Identity) (ca cb : Contact) (now : Int)
    (tag : MailboxTag) (candidates : List MailboxTag), Mirrored a ca b cb →
      0 < mailboxEpochSecs ca → 0 < mailboxEpochSecs cb →
      (mailboxDeriver plainPackages a ca true).derive plainPackages now (sendDirection a ca)
        = .ok tag →
      (mailboxDeriver plainPackages b cb false).candidateEpochs plainPackages now
        (recvDirection b cb) = .ok candidates →
      tag.tag ∈ candidates.map (·.tag) := by
  intro h
  have hmem := h alice bob bobMinutely aliceHourly 43200000 _ _ mirrored_published (by decide)
    (by decide) (MailboxTagDeriver.derive_eq (by decide))
    (MailboxTagDeriver.candidateEpochs_eq (by decide) 2)
  exact absurd hmem (by decide +kernel)

end Sample
end Yakr
