import Yakr.Cli.Addresses
import Yakr.Cli.Commands
import Yakr.Cli.Sending
import Yakr.Mailbox.EpochLengths
import Yakr.Relay.Mailbox

/-!
# Yakr.Cli.CoverTraffic

**Where the dummies go.** Decoy tags are derived from other texts than real tags, whatever the
epochs and the index are, so a decoy that is a real tag would be a collision of HMAC
(`collision_of_decoy`). `_send_dummy_blob` calls the tag it posts under a decoy, but takes it from
the front of the list that a fetch polls, where the real tag of the current epoch stands. Every
dummy that goes out takes the room of a message (`staysOffMailbox_iff`, `dummies_use_up_limit`).
-/

namespace Yakr

open Lib Effect

variable {P : Packages}

/-! ### Two families of tags -/

/-- The bytes a decoy tag authenticates. -/
def decoyMaterial (direction : String) (epoch : Int) (index : Nat) : Bytes :=
  encodeUtf8 ("decoy|" ++ direction ++ "|" ++ toString epoch ++ "|" ++ toString index)

theorem deriveDecoyTag_tag (mailboxSecret : Bytes) (direction : String) (epoch : Int)
    (index : Nat) :
    (deriveDecoyTag P mailboxSecret direction epoch index).tag
      = (P.hmacSha256 mailboxSecret (decoyMaterial direction epoch index)).1 := rfl

/-- Texts that are equal up to a last field without a bar have equal last fields. -/
theorem last_field_eq {a b x y : List Char} (hx : '|' ∉ x) (hy : '|' ∉ y)
    (h : a ++ '|' :: x = b ++ '|' :: y) : x = y := by
  rcases List.append_eq_append_iff.mp h with ⟨c, rfl, hc⟩ | ⟨c, rfl, hc⟩
  · cases c with
    | nil => exact (List.cons.inj hc).2
    | cons d c =>
        have hmem : '|' ∈ x := by
          rw [(List.cons.inj hc).2]
          exact List.mem_append_right c List.mem_cons_self
        exact absurd hmem hx
  · cases c with
    | nil => exact (List.cons.inj hc).2.symm
    | cons d c =>
        have hmem : '|' ∈ y := by
          rw [(List.cons.inj hc).2]
          exact List.mem_append_right c List.mem_cons_self
        exact absurd hmem hy

theorem bar_notMem_toString_nat (n : Nat) : '|' ∉ (toString n).toList := by
  intro hmem
  rw [Nat.toString_eq_repr, Nat.toList_repr] at hmem
  have hdigit : ('|' : Char).isDigit := Nat.isDigit_of_mem_toDigits (by decide) (by decide) hmem
  cases hdigit

theorem bar_notMem_toString_int (n : Int) : '|' ∉ (toString n).toList := by
  cases n with
  | ofNat n => exact bar_notMem_toString_nat n
  | negSucc n =>
      show '|' ∉ ("-" ++ toString (n + 1)).toList
      rw [String.toList_append, List.mem_append, not_or]
      exact ⟨by decide, bar_notMem_toString_nat (n + 1)⟩

/-- **No decoy is derived from the text of a real tag.** -/
theorem decoyMaterial_ne_material (direction : String) (epoch : Int) (index : Nat)
    (realEpoch : Int) :
    decoyMaterial direction epoch index ≠ MailboxTagDeriver.material direction realEpoch := by
  intro h
  have htext : ("decoy|" ++ direction ++ "|" ++ toString epoch).toList
        ++ '|' :: (toString index).toList
      = direction.toList ++ '|' :: (toString realEpoch).toList := by
    have hlist := congrArg String.toList (encodeUtf8_injective h)
    simpa using hlist
  have hlast := last_field_eq (bar_notMem_toString_nat index) (bar_notMem_toString_int realEpoch)
    htext
  -- the last fields agree, so what is before them does, and one is a proper part of the other
  rw [hlast] at htext
  have hlength := congrArg List.length (List.append_cancel_right htext)
  simp only [String.toList_append, List.length_append] at hlength
  have hprefix : "decoy|".toList.length = 6 := by decide
  omega

/-- The tag of the messages to a contact in an epoch. -/
def realTag (P : Packages) (identity : Identity) (contact : Contact) (epoch : Int) : Bytes :=
  ((mailboxDeriver P identity contact true).deriveAt P (sendDirection identity contact) epoch).tag

theorem length_realTag (identity : Identity) (contact : Contact) (epoch : Int) :
    (realTag P identity contact epoch).length = 32 :=
  (P.hmacSha256 _ _).2

section Tags

variable {identity : Identity} {contact : Contact}

/-- A decoy of a contact that is the tag of its messages in some epoch would be a collision of
HMAC between these two texts. -/
theorem collision_of_decoy {epoch : Int} {index : Nat} {realEpoch : Int}
    (htag : (deriveDecoyTag P
        (deriveMailboxSecret P contact.masterSecret (sendDirection identity contact))
        (sendDirection identity contact) epoch index).tag = realTag P identity contact realEpoch) :
    decoyMaterial (sendDirection identity contact) epoch index
        ≠ MailboxTagDeriver.material (sendDirection identity contact) realEpoch
      ∧ P.hmacSha256 (deriveMailboxSecret P contact.masterSecret (sendDirection identity contact))
          (decoyMaterial (sendDirection identity contact) epoch index)
        = P.hmacSha256 (deriveMailboxSecret P contact.masterSecret (sendDirection identity contact))
          (MailboxTagDeriver.material (sendDirection identity contact) realEpoch) :=
  ⟨decoyMaterial_ne_material _ epoch index realEpoch, Subtype.ext htag⟩

/-- The order of the tags of a fetch without lookback: the real tag, then its decoys. -/
theorem fetchTagsForMode_current {deriver : MailboxTagDeriver} {now : Int} {direction : String}
    {mode : PrivacyMode} {mailboxSecret : Bytes} {tags : List MailboxTag} (hmode : mode ≠ .fast)
    (h : fetchTagsForMode P deriver now direction mode mailboxSecret 0 = .ok tags) :
    ∃ epoch, currentEpoch now deriver.epochSecs = .ok epoch
      ∧ tags = deriver.deriveAt P direction epoch
        :: (List.range (decoyCount mode)).map fun index =>
          deriveDecoyTag P mailboxSecret direction epoch index := by
  unfold fetchTagsForMode MailboxTagDeriver.candidateEpochs at h
  obtain ⟨realTags, hreal, h⟩ := bind_ok.mp h
  obtain ⟨epoch, hepoch, hreal⟩ := bind_ok.mp hreal
  refine ⟨epoch, hepoch, ?_⟩
  rw [if_neg hmode] at h
  obtain rfl := Except.ok.inj hreal
  obtain rfl := Except.ok.inj h
  simp [MailboxTagDeriver.deriveAt]

end Tags

/-! ### The dummy -/

section Dummy

variable {outside : Outside} {env : Settings} {identity : Identity} {contact : Contact}
  {route : Option String} {store : FileLocalStore} {draws : DummyDraws} {h : Handling}

/-- No dummy goes out: no tag can be derived, or there is no relay to deliver to. -/
def NoDummy (P : Packages) (env : Settings) (contact : Contact) (route : Option String)
    (store : FileLocalStore) (now : Int) : Prop :=
  mailboxEpochSecs contact = 0
    ∨ ∃ e, deliveryMailboxUrls P env contact route (some store) now = .error e

/-- An address is found or an exception raised. -/
theorem deliveryMailboxUrls_cases (env : Settings) (contact : Contact) (route : Option String)
    (store : Option FileLocalStore) (now : Int) :
    (∃ e, deliveryMailboxUrls P env contact route store now = .error e)
      ∨ ∃ url urls, deliveryMailboxUrls P env contact route store now = .ok (url :: urls) := by
  cases hurls : deliveryMailboxUrls P env contact route store now with
  | error e => exact Or.inl ⟨e, rfl⟩
  | ok urls =>
      cases urls with
      | cons url urls => exact Or.inr ⟨url, urls, rfl⟩
      | nil =>
          cases route with
          | none => exact absurd hurls deliveryMailboxUrls_ne_nil
          | some route =>
              unfold deliveryMailboxUrls at hurls
              obtain ⟨url, -, hurl⟩ := bind_ok.mp hurls
              cases hurl

/-- The dummy of an epoch. -/
def dummyOf (P : Packages) (identity : Identity) (contact : Contact) (draws : DummyDraws)
    (epoch : Int) : OuterBlob :=
  { version := 1
    mailboxTag := realTag P identity contact epoch
    expiresAt := draws.now + defaultBlobTtlMs
    ciphertext := generateDummyCiphertext size4K draws.payload draws.nonce draws.tag }

/-- What `_send_dummy_blob` makes: nothing, or a blob under the real tag of the current epoch. -/
theorem dummyBlob_cases (env : Settings) (identity : Identity) (contact : Contact)
    (route : Option String) (store : FileLocalStore) (draws : DummyDraws) :
    (NoDummy P env contact route store draws.now
        ∧ ∃ e, dummyBlob P env identity contact route store draws = .error e)
      ∨ ¬ NoDummy P env contact route store draws.now
        ∧ ∃ epoch url, currentEpoch draws.now (mailboxEpochSecs contact) = .ok epoch
          ∧ dummyBlob P env identity contact route store draws
            = .ok (dummyOf P identity contact draws epoch, url) := by
  unfold dummyBlob
  dsimp only
  cases htags : fetchTagsForMode P (mailboxDeriver P identity contact true) draws.now
      (sendDirection identity contact) .high
      (deriveMailboxSecret P contact.masterSecret (sendDirection identity contact)) 0 with
  | error e =>
      have hzero : mailboxEpochSecs contact = 0 := by
        by_contra hne
        have hreturns : ∃ tags, fetchTagsForMode P (mailboxDeriver P identity contact true) draws.now
            (sendDirection identity contact) .high
            (deriveMailboxSecret P contact.masterSecret (sendDirection identity contact)) 0
              = .ok tags := fetchTagsForMode_returns_iff.mpr hne
        obtain ⟨tags, hok⟩ := hreturns
        cases htags.symm.trans hok
      exact Or.inl ⟨Or.inl hzero, e, rfl⟩
  | ok tags =>
      obtain ⟨epoch, hepoch, rfl⟩ := fetchTagsForMode_current (by decide) htags
      have hne : mailboxEpochSecs contact ≠ 0 := currentEpoch_returns_iff.mp ⟨epoch, hepoch⟩
      rcases deliveryMailboxUrls_cases (P := P) env contact route (some store) draws.now with
        ⟨e, hurls⟩ | ⟨url, urls, hurls⟩
      · refine Or.inl ⟨Or.inr ⟨e, hurls⟩, e, ?_⟩
        rw [hurls]
        rfl
      · refine Or.inr ⟨?_, epoch, url, hepoch, ?_⟩
        · rintro (hzero | ⟨e, herror⟩)
          · exact hne hzero
          · cases hurls.symm.trans herror
        · rw [hurls]
          rfl

/-- A text that is sealed in the epoch of the dummy has its tag. -/
theorem mailboxTag_dummyOf {epoch : Int} {sealing : Draws} {body : String} {e : EncryptedMessage}
    {c : Contact} (hrun : (encryptText P identity sealing body).run contact = .ok e c)
    (hepoch : currentEpoch sealing.now (mailboxEpochSecs contact) = .ok epoch) :
    e.outerBlob.mailboxTag = (dummyOf P identity contact draws epoch).mailboxTag := by
  have hencrypts := encryptMessage_ok hrun
  have htag := hencrypts.tag
  unfold MailboxTagDeriver.derive at htag
  obtain ⟨epoch', hepoch', htag⟩ := bind_ok.mp htag
  obtain rfl : epoch' = epoch := Except.ok.inj (hepoch'.symm.trans hepoch)
  rw [hencrypts.outer, outerBlob, ← Except.ok.inj htag]
  rfl

end Dummy

/-! ### What a relay keeps -/

/-- A blob as a relay keeps it. -/
def OuterBlob.row (blob : OuterBlob) (time : Int) : StoredBlob :=
  { mailboxTag := blob.mailboxTag
    expiresAt := blob.expiresAt
    ciphertext := blob.ciphertext
    storedAt := time }

/-- The relay after it was offered a blob. -/
def offer (relay : BlobStore) (blob : OuterBlob) (time : Int) : BlobStore :=
  after ((BlobStore.store blob.mailboxTag blob.expiresAt blob.ciphertext none time).run relay)

section Offer

variable {relay : BlobStore} {tag : Bytes} {now time : Int} {blob : OuterBlob}

/-- A relay that has room keeps what it is offered. -/
theorem offer_admitted
    (hadmits : Mailbox.Admits relay.maxBlobSize relay.maxBlobsPerTag relay.blobs (blob.row time)) :
    offer relay blob time = { relay with blobs := relay.blobs ++ [blob.row time] } := by
  have hrun := BlobStore.store_admitted hadmits
  exact congrArg after hrun

theorem offer_refused
    (hrefused : ¬ Mailbox.Admits relay.maxBlobSize relay.maxBlobsPerTag relay.blobs
      (blob.row time)) : offer relay blob time = relay := by
  obtain ⟨e, hrun⟩ := BlobStore.store_refused hrefused
  exact congrArg after hrun

/-- The limits of a relay are fixed. -/
theorem offer_limits :
    (offer relay blob time).maxBlobSize = relay.maxBlobSize
      ∧ (offer relay blob time).maxBlobsPerTag = relay.maxBlobsPerTag := by
  by_cases hadmits : Mailbox.Admits relay.maxBlobSize relay.maxBlobsPerTag relay.blobs
      (blob.row time)
  · rw [offer_admitted hadmits]
    exact ⟨rfl, rfl⟩
  · rw [offer_refused hadmits]
    exact ⟨rfl, rfl⟩

/-- A blob under another tag takes no room. -/
theorem unexpired_offer_of_ne (hne : blob.mailboxTag ≠ tag) :
    BlobStore.unexpired tag now (offer relay blob time).blobs
      = BlobStore.unexpired tag now relay.blobs := by
  by_cases hadmits : Mailbox.Admits relay.maxBlobSize relay.maxBlobsPerTag relay.blobs
      (blob.row time)
  · have hrow : ¬ (blob.row time).mailboxTag = tag := hne
    rw [offer_admitted hadmits, BlobStore.unexpired, BlobStore.unexpired, List.filter_append]
    simp [hrow]
  · rw [offer_refused hadmits]

end Offer

/-! ### The property -/

/-- The blobs a call of `_send_dummy_blob` posts. -/
def dummiesPosted (P : Packages) (outside : Outside) (identity : Identity) (route : Option String)
    (draws : DummyDraws) (h : Handling) : List OuterBlob :=
  ((after ((sendDummyBlob P outside identity route draws).run h)).world.posted.drop
    h.world.posted.length).map Posted.blob

/-- A dummy goes under no tag of a message to the contact, of whatever epoch. A relay that is
offered it has as much room for messages as before, and shows the same blobs under their tags. -/
structure StaysOffMailbox (P : Packages) (outside : Outside) (identity : Identity)
    (route : Option String) (draws : DummyDraws) (h : Handling) : Prop where
  tags : ∀ blob ∈ dummiesPosted P outside identity route draws h, ∀ epoch,
    blob.mailboxTag ≠ realTag P identity h.contact epoch
  room : ∀ blob ∈ dummiesPosted P outside identity route draws h,
    ∀ (relay : BlobStore) (time now epoch : Int),
      BlobStore.unexpired (realTag P identity h.contact epoch) now (offer relay blob time).blobs
        = BlobStore.unexpired (realTag P identity h.contact epoch) now relay.blobs

section Property

variable {outside : Outside} {identity : Identity} {route : Option String} {draws : DummyDraws}
  {h : Handling}

/-- The tags decide about the room. -/
theorem StaysOffMailbox.of_tags
    (htags : ∀ blob ∈ dummiesPosted P outside identity route draws h, ∀ epoch,
      blob.mailboxTag ≠ realTag P identity h.contact epoch) :
    StaysOffMailbox P outside identity route draws h :=
  ⟨htags, fun blob hblob _ _ _ epoch => unexpired_offer_of_ne (htags blob hblob epoch)⟩

/-- A call that makes no blob posts none. -/
theorem dummiesPosted_error {e : PyExc}
    (hblob : dummyBlob P outside.env identity h.contact route h.world.store draws = .error e) :
    dummiesPosted P outside identity route draws h = [] := by
  unfold dummiesPosted sendDummyBlob
  rw [run_get_bind, hblob, EStateM.run_bind, run_orRaise_error]
  simp

/-- A call that makes a blob posts it once, whatever the answer is. -/
theorem dummiesPosted_ok {blob : OuterBlob} {relayUrl : String}
    (hblob : dummyBlob P outside.env identity h.contact route h.world.store draws
      = .ok (blob, relayUrl)) :
    dummiesPosted P outside identity route draws h = [blob] := by
  unfold dummiesPosted sendDummyBlob
  rw [run_get_bind, hblob, EStateM.run_bind, run_orRaise_ok]
  dsimp only
  unfold postBlob
  rw [EStateM.run_bind, EStateM.run_bind, nextExchange_run]
  dsimp only
  rw [run_modify_bind]
  cases (outside.postAnswer h.world.exchanges relayUrl).2 with
  | ok status => simp [Handling.exchanged]
  | error e => simp [Handling.exchanged]

/-- **Cover traffic.** A dummy stays off the mailbox of the messages exactly when none goes out. -/
theorem staysOffMailbox_iff (P : Packages) (outside : Outside) (identity : Identity)
    (route : Option String) (draws : DummyDraws) (h : Handling) :
    StaysOffMailbox P outside identity route draws h
      ↔ mailboxEpochSecs h.contact = 0
        ∨ ∃ e, deliveryMailboxUrls P outside.env h.contact route (some h.world.store) draws.now
          = .error e := by
  show _ ↔ NoDummy P outside.env h.contact route h.world.store draws.now
  rcases dummyBlob_cases (P := P) outside.env identity h.contact route h.world.store draws with
    ⟨hnone, e, hblob⟩ | ⟨hgoes, epoch, url, -, hblob⟩
  · rw [iff_true_right hnone]
    refine .of_tags ?_
    rw [dummiesPosted_error hblob]
    exact nofun
  · rw [iff_false_right hgoes]
    intro hstays
    refine hstays.tags (dummyOf P identity h.contact draws epoch) ?_ epoch rfl
    rw [dummiesPosted_ok hblob]
    exact List.mem_singleton_self _

end Property

/-! ### The room of a mailbox -/

/-- The relay has this many blobs under a tag, none of which expires up to `now`. -/
structure Holds (tag : Bytes) (now : Int) (relay : BlobStore) (count : Nat) : Prop where
  count_eq : (relay.blobs.filter fun b => b.mailboxTag = tag).length = count
  live : ∀ b ∈ relay.blobs, b.mailboxTag = tag → now < b.expiresAt

/-- What a blob under a tag has to meet besides the room. -/
structure Offered (tag : Bytes) (now : Int) (size : Nat) (blob : OuterBlob) (time : Int) :
    Prop where
  tag_eq : blob.mailboxTag = tag
  size : blob.ciphertext.length ≤ size
  early : time ≤ now
  live : now < blob.expiresAt
  ttl : blob.expiresAt ≤ time + maxRelayBlobTtlMs

section Room

variable {relay : BlobStore} {tag : Bytes} {now time : Int} {count : Nat} {blob : OuterBlob}

theorem Holds.unexpired_length (hholds : Holds tag now relay count) (htime : time ≤ now) :
    (BlobStore.unexpired tag time relay.blobs).length = count := by
  rw [← hholds.count_eq, BlobStore.unexpired]
  refine congrArg List.length (List.filter_congr fun b hb => ?_)
  rw [decide_eq_decide]
  exact and_iff_left_of_imp fun htag => Int.lt_of_le_of_lt htime (hholds.live b hb htag)

theorem Holds.admits_iff (hholds : Holds tag now relay count) (htag : tag.length = 32)
    (hoffered : Offered tag now relay.maxBlobSize blob time) :
    Mailbox.Admits relay.maxBlobSize relay.maxBlobsPerTag relay.blobs (blob.row time)
      ↔ count < relay.maxBlobsPerTag := by
  obtain ⟨rfl, hsize, hearly, hlive, httl⟩ := hoffered
  have hcard : (Mailbox.under blob.mailboxTag (Mailbox.live time relay.blobs)).card = count := by
    rw [← BlobStore.coe_unexpired, Multiset.coe_card, hholds.unexpired_length hearly]
  constructor
  · intro hadmits
    exact hcard ▸ hadmits.room
  · intro hcount
    exact ⟨htag, hsize, Int.lt_of_le_of_lt hearly hlive, httl, hcard ▸ hcount⟩

/-- One blob more is held, up to the limit. -/
theorem Holds.offer (hholds : Holds tag now relay count) (hcount : count ≤ relay.maxBlobsPerTag)
    (htag : tag.length = 32) (hoffered : Offered tag now relay.maxBlobSize blob time) :
    Holds tag now (offer relay blob time) (min (count + 1) relay.maxBlobsPerTag) := by
  by_cases hroom : count < relay.maxBlobsPerTag
  · rw [offer_admitted ((hholds.admits_iff htag hoffered).mpr hroom), min_eq_left hroom]
    have hrow : (blob.row time).mailboxTag = tag := hoffered.tag_eq
    constructor
    case count_eq =>
      rw [List.filter_append, List.length_append, hholds.count_eq]
      simp [hrow]
    case live =>
      intro b hb hb'
      rcases List.mem_append.mp hb with hb | hb
      · exact hholds.live b hb hb'
      · obtain rfl := List.mem_singleton.mp hb
        exact hoffered.live
  · rw [offer_refused (mt (hholds.admits_iff htag hoffered).mp hroom)]
    have hsame : min (count + 1) relay.maxBlobsPerTag = count := by omega
    rw [hsame]
    exact hholds

/-- The relay after it was offered blobs, each with its time. -/
def offerAll (relay : BlobStore) (blobs : List (OuterBlob × Int)) : BlobStore :=
  blobs.foldl (fun relay (blob, time) => offer relay blob time) relay

theorem Holds.offerAll {blobs : List (OuterBlob × Int)} (hholds : Holds tag now relay count)
    (hcount : count ≤ relay.maxBlobsPerTag) (htag : tag.length = 32)
    (hoffered : ∀ x ∈ blobs, Offered tag now relay.maxBlobSize x.1 x.2) :
    Holds tag now (offerAll relay blobs) (min (count + blobs.length) relay.maxBlobsPerTag)
      ∧ (Yakr.offerAll relay blobs).maxBlobSize = relay.maxBlobSize
      ∧ (Yakr.offerAll relay blobs).maxBlobsPerTag = relay.maxBlobsPerTag := by
  induction blobs generalizing relay count with
  | nil =>
      refine ⟨?_, rfl, rfl⟩
      rw [List.length_nil, Nat.add_zero, min_eq_left hcount]
      exact hholds
  | cons x blobs ih =>
      obtain ⟨hsize, hlimit⟩ : (Yakr.offer relay x.1 x.2).maxBlobSize = relay.maxBlobSize
          ∧ (Yakr.offer relay x.1 x.2).maxBlobsPerTag = relay.maxBlobsPerTag := offer_limits
      have hfirst := hholds.offer hcount htag (hoffered x List.mem_cons_self)
      obtain ⟨hrest, hsize', hlimit'⟩ := ih hfirst (hlimit ▸ min_le_right _ _)
        fun y hy => hsize ▸ hoffered y (List.mem_cons_of_mem x hy)
      refine ⟨?_, hsize'.trans hsize, hlimit'.trans hlimit⟩
      have hsum : min (min (count + 1) relay.maxBlobsPerTag + blobs.length) relay.maxBlobsPerTag
          = min (count + (x :: blobs).length) relay.maxBlobsPerTag := by
        rw [List.length_cons]
        omega
      rw [hlimit, hsum] at hrest
      exact hrest

end Room

section Limit

variable {env : Settings} {identity : Identity} {contact : Contact} {route : Option String}
  {store : FileLocalStore}

theorem length_dummy (draws : DummyDraws) :
    (generateDummyCiphertext size4K draws.payload draws.nonce draws.tag).length = size4K := by
  rw [generateDummyCiphertext, List.length_append, List.length_append, draws.payload.2,
    draws.nonce.2, draws.tag.2]
  decide

/-- **The dummies of an epoch fill the mailbox.** When a relay without messages of that epoch was
offered as many dummies as it keeps under a tag, it has a dummy in each place and takes no message
before one of them expires. -/
theorem dummies_use_up_limit {relay : BlobStore} {epoch now : Int} {dummies : List DummyDraws}
    (hempty : ∀ b ∈ relay.blobs, b.mailboxTag ≠ realTag P identity contact epoch)
    (hsize : size4K ≤ relay.maxBlobSize) (hcount : relay.maxBlobsPerTag ≤ dummies.length)
    (htimes : ∀ d ∈ dummies, d.now ≤ now ∧ now < d.now + defaultBlobTtlMs)
    {blob : OuterBlob} (hmessage : blob.mailboxTag = realTag P identity contact epoch) :
    let full := offerAll relay
      (dummies.map fun d => (dummyOf P identity contact d epoch, d.now))
    (BlobStore.unexpired blob.mailboxTag now full.blobs).length = relay.maxBlobsPerTag
      ∧ offer full blob now = full := by
  have hstart : Holds (realTag P identity contact epoch) now relay 0 := by
    constructor
    case count_eq =>
      rw [List.length_eq_zero_iff, List.filter_eq_nil_iff]
      exact fun b hb => by simpa using hempty b hb
    case live =>
      exact fun b hb htag => absurd htag (hempty b hb)
  have hoffered : ∀ x ∈ dummies.map fun d => (dummyOf P identity contact d epoch, d.now),
      Offered (realTag P identity contact epoch) now relay.maxBlobSize x.1 x.2 := by
    intro x hx
    obtain ⟨d, hd, rfl⟩ := List.mem_map.mp hx
    obtain ⟨hearly, hlive⟩ := htimes d hd
    exact ⟨rfl, (length_dummy d).le.trans hsize, hearly, hlive, Int.le_refl _⟩
  obtain ⟨hfull, -, hlimit⟩ := hstart.offerAll (Nat.zero_le _)
    (length_realTag identity contact epoch) hoffered
  rw [List.length_map, Nat.zero_add, min_eq_right hcount] at hfull
  dsimp only
  rw [hmessage]
  refine ⟨hfull.unexpired_length (Int.le_refl now), ?_⟩
  refine offer_refused fun hadmits => ?_
  have hroom := hadmits.room
  rw [← BlobStore.coe_unexpired, Multiset.coe_card] at hroom
  have hcount := hfull.unexpired_length (Int.le_refl now)
  rw [← hmessage] at hcount
  have hnone : ¬ (BlobStore.unexpired blob.mailboxTag now (offerAll relay
      (dummies.map fun d => (dummyOf P identity contact d epoch, d.now))).blobs).length
      < relay.maxBlobsPerTag := Nat.not_lt.mpr hcount.ge
  exact hnone (hlimit ▸ hroom)

end Limit

namespace CoverSample

def identity : Identity :=
  { name := "alice"
    signingPrivate := BytesN.fill 32 1
    agreementPrivate := BytesN.fill 32 2 }

/-- A contact in the high mode. -/
def contact : Contact :=
  { name := "bob"
    signingPublic := List.replicate 32 3
    agreementPublic := List.replicate 32 4
    masterSecret := List.replicate 32 5
    conversationId := "pairwise_alice_bob"
    privacyMode := .high }

/-- There is one relay, and it takes every blob. -/
def outside : Outside where
  env := { relayUrl := some "http://relay" }
  profileAnswer _ _ := .error (.httpError "unreachable")
  postAnswer _ _ := (true, .ok 201)
  draws _ := { now := 0, ratchetPrivate := BytesN.fill 32 6,
               nonce := BytesN.fill 24 7 }

def draws : DummyDraws where
  now := 0
  payload := BytesN.fill (size4K - 40) 8
  nonce := BytesN.fill 24 9
  tag := BytesN.fill 16 10

def handling : Handling := { world := { store := {} }, contact }

/-- The bytes of the tags of a fetch. -/
def tagBytes : Except PyExc (List MailboxTag) → List Bytes
  | .ok tags => tags.map (·.tag)
  | .error _ => []

end CoverSample

open CoverSample in
/-- A tag of the epoch and seven decoys, all different: the dummy goes under the tag. -/
theorem dummy_under_real_tag :
    (tagBytes (fetchTagsForMode plainPackages (mailboxDeriver plainPackages identity contact true)
        0 (sendDirection identity contact) .high
        (deriveMailboxSecret plainPackages contact.masterSecret (sendDirection identity contact))
        0)).Nodup
      ∧ ¬ StaysOffMailbox plainPackages outside identity none draws handling := by
  refine ⟨by decide +kernel, fun hstays => ?_⟩
  rcases dummyBlob_cases (P := plainPackages) outside.env identity contact none {} draws with
    ⟨hnone, -⟩ | ⟨-, epoch, url, -, hblob⟩
  · have hurls : deliveryMailboxUrls plainPackages outside.env contact none (some {}) draws.now
        = .ok ["http://relay"] := by decide +kernel
    rcases hnone with hzero | ⟨e, herror⟩
    · exact absurd hzero (by decide)
    · cases hurls.symm.trans herror
  · refine hstays.tags (dummyOf plainPackages identity contact draws epoch) ?_ epoch rfl
    have hposted := dummiesPosted_ok (h := handling) hblob
    rw [hposted]
    exact List.mem_singleton_self _

end Yakr
