import Yakr.Relay.Mailbox
import Yakr.Relay.RustRelay

/-!
# Yakr.Languages.Relays

**Two relays, one mailbox.** Both relays get the same requests at the same times, and between
them the Python relay may sweep. The Rust relay keeps every blob it has ever accepted, which is
what the mailbox holds; the Python relay keeps at least those that are live. So each answers as
the mailbox does: `Alike` is one step of the mailbox with an answer of each relay, and every run
is a trace of it.

A Python relay in the role `entry` stores nothing, and when the clock goes back across a sweep
the Rust relay shows what the sweep has taken, so both are excluded
(`not_alike_entry_or_earlier`).
-/

namespace Yakr

open Lib Effect Machine

/-! ### What a store is refused for -/

namespace Mailbox

/-- What a blob has to meet itself. -/
structure Valid (maxBlobSize : Nat) (blob : StoredBlob) : Prop where
  tag : blob.mailboxTag.length = 32
  size : blob.ciphertext.length ≤ maxBlobSize
  fresh : blob.storedAt < blob.expiresAt
  ttl : blob.expiresAt ≤ blob.storedAt + 24 * 60 * 60 * 1000

/-- The tag has room for a blob. -/
def Room (maxBlobsPerTag : Nat) (held : Multiset StoredBlob) (blob : StoredBlob) : Prop :=
  (under blob.mailboxTag (live blob.storedAt held)).card < maxBlobsPerTag

theorem admits_iff {size perTag : Nat} {held : Multiset StoredBlob} {b : StoredBlob} :
    Admits size perTag held b ↔ Valid size b ∧ Room perTag held b :=
  ⟨fun h => ⟨⟨h.tag, h.size, h.fresh, h.ttl⟩, h.room⟩,
    fun h => ⟨h.1.tag, h.1.size, h.1.fresh, h.1.ttl, h.2⟩⟩

end Mailbox

open Mailbox

/-- The texts of the refusals that have nothing to do with the other blobs. -/
def invalidTexts : List String :=
  ["mailbox_tag must be 32 bytes", "blob too large", "blob already expired",
    "blob TTL exceeds 24 hour relay maximum"]

def fullText : String := "mailbox tag blob limit exceeded"

namespace BlobStore

/-- A blob that is not valid is refused for one of four reasons. -/
theorem store_invalid {s : BlobStore} {b : StoredBlob} (h : ¬ Valid s.maxBlobSize b) :
    ∃ text ∈ invalidTexts,
      (store b.mailboxTag b.expiresAt b.ciphertext b.consumeToken b.storedAt).run s
        = .error (.valueError text) s := by
  simp only [store, EStateM.run_bind, EStateM.run_get]
  by_cases htag : b.mailboxTag.length ≠ 32
  · exact ⟨_, .head _, by simp only [if_pos htag]; rfl⟩
  by_cases hsize : b.ciphertext.length > s.maxBlobSize
  · exact ⟨_, .tail _ (.head _), by simp only [if_neg htag, if_pos hsize]; rfl⟩
  by_cases hfresh : b.expiresAt ≤ b.storedAt
  · exact ⟨_, .tail _ (.tail _ (.head _)), by
      simp only [if_neg htag, if_neg hsize, if_pos hfresh]; rfl⟩
  by_cases httl : b.expiresAt > b.storedAt + maxRelayBlobTtlMs
  · exact ⟨_, .tail _ (.tail _ (.tail _ (.head _))), by
      simp only [if_neg htag, if_neg hsize, if_neg hfresh, if_pos httl]; rfl⟩
  · exact absurd ⟨not_not.mp htag, Nat.not_lt.mp hsize, Int.not_le.mp hfresh,
      Int.not_lt.mp httl⟩ h

/-- A valid blob is refused when its tag is full. -/
theorem store_full {s : BlobStore} {b : StoredBlob} (hvalid : Valid s.maxBlobSize b)
    (hroom : ¬ Room s.maxBlobsPerTag s.blobs b) :
    (store b.mailboxTag b.expiresAt b.ciphertext b.consumeToken b.storedAt).run s
      = .error (.valueError fullText) s := by
  have hcount : s.maxBlobsPerTag ≤ (unexpired b.mailboxTag b.storedAt s.blobs).length := by
    rw [← Multiset.coe_card, coe_unexpired]
    exact Nat.not_lt.mp hroom
  have htag : ¬ b.mailboxTag.length ≠ 32 := not_not.mpr hvalid.tag
  have hsize : ¬ b.ciphertext.length > s.maxBlobSize := Nat.not_lt.mpr hvalid.size
  have hfresh : ¬ b.expiresAt ≤ b.storedAt := Int.not_le.mpr hvalid.fresh
  have httl : ¬ b.expiresAt > b.storedAt + maxRelayBlobTtlMs := Int.not_lt.mpr hvalid.ttl
  simp only [store, EStateM.run_bind, EStateM.run_get, if_neg htag, if_neg hsize, if_neg hfresh,
    if_neg httl, if_pos hcount]
  rfl

end BlobStore

namespace Rust

/-! ### The store in Rust -/

/-- A clock reading with a day after it that still is a signed word. -/
def Readable (now : Int) : Prop := 0 ≤ now ∧ now + 24 * 60 * 60 * 1000 < 2 ^ 63

instance (now : Int) : Decidable (Readable now) := inferInstanceAs (Decidable (_ ∧ _))

theorem toNat_of_readable {now : Int} (h : Readable now) : ((asU64OfInt now).toNat : Int) = now := by
  rw [toNat_asU64OfInt]
  have := h.1
  have := h.2
  omega

theorem asI64_of_readable {now : Int} (h : Readable now) : asI64 (asU64OfInt now) = now := by
  refine (asI64_asU64OfInt now).mpr ?_
  have := h.1
  have := h.2
  constructor <;> omega

/-- The sum of a reading and a day does not wrap. -/
theorem toNat_add_ttl {now : Int} (h : Readable now) :
    ((asU64OfInt now + maxRelayBlobTtlMs).toNat : Int) = now + 24 * 60 * 60 * 1000 := by
  have hnat := toNat_of_readable h
  have httl : maxRelayBlobTtlMs.toNat = 86400000 := rfl
  have := h.1
  have := h.2
  rw [UInt64.toNat_add, httl]
  omega

/-- The blob that a row keeps. -/
def heldBlob (r : BlobRow) : Yakr.StoredBlob :=
  { mailboxTag := r.mailboxTag
    expiresAt := r.expiresAt
    ciphertext := r.ciphertext
    storedAt := r.storedAt }

/-- Times that are the same number as a signed and as an unsigned word. -/
structure BlobRow.Small (r : BlobRow) : Prop where
  expiresAt : 0 ≤ r.expiresAt ∧ r.expiresAt < 2 ^ 63
  storedAt : 0 ≤ r.storedAt ∧ r.storedAt < 2 ^ 63

/-- The store in Rust keeps everything the mailbox has accepted. -/
structure BlobStore.Holds (size perTag : Nat) (s : BlobStore) (held : Multiset Yakr.StoredBlob) :
    Prop where
  size_eq : s.maxBlobSize = size
  perTag_eq : s.maxBlobsPerTag = perTag
  held_eq : ((s.rows.map heldBlob : List Yakr.StoredBlob) : Multiset Yakr.StoredBlob) = held
  small : ∀ r ∈ s.rows, r.Small

/-- The blob of a request. -/
def requested (tag : Bytes) (expiresAt : UInt64) (ciphertext : Bytes) (now : Int) :
    Yakr.StoredBlob :=
  { mailboxTag := tag, expiresAt := expiresAt.toNat, ciphertext, storedAt := now }

namespace BlobStore

variable {size perTag : Nat} {s : BlobStore} {held : Multiset Yakr.StoredBlob} {tag : Bytes}
  {expiresAt : UInt64} {ciphertext : Bytes} {now : Int}

theorem coe_unexpired (tag : Bytes) (now : Int) (rows : List BlobRow) :
    (((unexpired tag now rows).map heldBlob : List Yakr.StoredBlob) : Multiset Yakr.StoredBlob)
      = under tag (live now ((rows.map heldBlob : List Yakr.StoredBlob) :
          Multiset Yakr.StoredBlob)) := by
  rw [under, live, Multiset.filter_filter, Multiset.filter_coe, List.filter_map, unexpired]
  rfl

theorem Holds.card_unexpired (h : s.Holds size perTag held) :
    (unexpired tag now s.rows).length = (under tag (live now held)).card := by
  rw [← h.held_eq, ← coe_unexpired, Multiset.coe_card, List.length_map]

theorem store_invalid (h : s.Holds size perTag held) (hnow : Readable now)
    (hinvalid : ¬ Valid size (requested tag expiresAt ciphertext now)) :
    ∃ text ∈ invalidTexts,
      s.store tag expiresAt ciphertext (asU64OfInt now) = .error text := by
  have hread := toNat_of_readable hnow
  have hsum := toNat_add_ttl hnow
  unfold store
  by_cases htag : tag.length ≠ 32
  · exact ⟨_, .head _, if_pos htag⟩
  rw [if_neg htag]
  by_cases hsize : ciphertext.length > s.maxBlobSize
  · exact ⟨_, .tail _ (.head _), if_pos hsize⟩
  rw [if_neg hsize]
  by_cases hfresh : expiresAt ≤ asU64OfInt now
  · exact ⟨_, .tail _ (.tail _ (.head _)), if_pos hfresh⟩
  rw [if_neg hfresh]
  by_cases httl : expiresAt > asU64OfInt now + maxRelayBlobTtlMs
  · exact ⟨_, .tail _ (.tail _ (.tail _ (.head _))), if_pos httl⟩
  refine absurd ⟨not_not.mp htag, h.size_eq ▸ Nat.not_lt.mp hsize, ?_, ?_⟩ hinvalid
  · show now < expiresAt.toNat
    rw [UInt64.not_le, UInt64.lt_iff_toNat_lt] at hfresh
    omega
  · show (expiresAt.toNat : Int) ≤ now + 24 * 60 * 60 * 1000
    rw [gt_iff_lt, UInt64.not_lt, UInt64.le_iff_toNat_le] at httl
    omega

/-- The four checks of a valid blob. -/
theorem store_valid (h : s.Holds size perTag held) (hnow : Readable now)
    (hvalid : Valid size (requested tag expiresAt ciphertext now)) :
    s.store tag expiresAt ciphertext (asU64OfInt now)
      = if (under tag (live now held)).card ≥ perTag then .error fullText
        else .ok { s with
          rows := s.rows ++ [{ mailboxTag := tag
                               expiresAt := asI64 expiresAt
                               ciphertext
                               storedAt := asI64 (asU64OfInt now) }] } := by
  have hread := toNat_of_readable hnow
  have hsum := toNat_add_ttl hnow
  have htag : ¬ tag.length ≠ 32 := not_not.mpr hvalid.tag
  have hsize : ¬ ciphertext.length > s.maxBlobSize := by
    rw [h.size_eq]
    exact Nat.not_lt.mpr hvalid.size
  have hfresh : ¬ expiresAt ≤ asU64OfInt now := by
    have hlt : now < expiresAt.toNat := hvalid.fresh
    rw [UInt64.not_le, UInt64.lt_iff_toNat_lt]
    omega
  have httl : ¬ expiresAt > asU64OfInt now + maxRelayBlobTtlMs := by
    have hle : (expiresAt.toNat : Int) ≤ now + 24 * 60 * 60 * 1000 := hvalid.ttl
    rw [gt_iff_lt, UInt64.not_lt, UInt64.le_iff_toNat_le]
    omega
  unfold store
  rw [if_neg htag, if_neg hsize, if_neg hfresh, if_neg httl, asI64_of_readable hnow]
  dsimp only
  rw [h.card_unexpired, h.perTag_eq]
  rfl

/-- A stored blob is one more that the mailbox holds. -/
theorem Holds.stored (h : s.Holds size perTag held) (hnow : Readable now)
    (hvalid : Valid size (requested tag expiresAt ciphertext now)) :
    ({ s with
        rows := s.rows ++ [{ mailboxTag := tag
                             expiresAt := asI64 expiresAt
                             ciphertext
                             storedAt := asI64 (asU64OfInt now) }] } : BlobStore).Holds size perTag
      (requested tag expiresAt ciphertext now ::ₘ held) := by
  have hnonneg := hnow.1
  have hbound := hnow.2
  have hexpires : expiresAt.toNat < 2 ^ 63 := by
    have hle : (expiresAt.toNat : Int) ≤ now + 24 * 60 * 60 * 1000 := hvalid.ttl
    omega
  have hcast := asI64_of_lt hexpires
  refine ⟨h.size_eq, h.perTag_eq, ?_, fun r hr => ?_⟩
  · rw [← h.held_eq, Multiset.cons_coe, Multiset.coe_eq_coe, List.map_append]
    refine (List.perm_append_singleton _ _).trans (List.Perm.of_eq ?_)
    simp only [heldBlob, requested, hcast, asI64_of_readable hnow]
  · rcases List.mem_append.mp hr with hr | hr
    · exact h.small r hr
    · cases List.mem_singleton.mp hr
      refine ⟨⟨?_, ?_⟩, ?_, ?_⟩
      · show 0 ≤ asI64 expiresAt
        omega
      · show asI64 expiresAt < 2 ^ 63
        omega
      · show 0 ≤ asI64 (asU64OfInt now)
        rw [asI64_of_readable hnow]
        omega
      · show asI64 (asU64OfInt now) < 2 ^ 63
        rw [asI64_of_readable hnow]
        omega

end BlobStore

/-! ### What Rust shows -/

/-- The response of a row has the times of the row. -/
theorem blobResponse_blobOf {r : BlobRow} (h : r.Small) :
    blobResponse (BlobStore.blobOf r) = Relay.blobResponse (heldBlob r) := by
  have hcast : ∀ {n : Int}, 0 ≤ n → n < 2 ^ 63 → ((asU64OfInt n).toNat : Int) = n := by
    intro n hn hlt
    rw [toNat_asU64OfInt]
    omega
  simp only [blobResponse, BlobStore.blobOf, Relay.blobResponse, heldBlob,
    hcast h.expiresAt.1 h.expiresAt.2, hcast h.storedAt.1 h.storedAt.2]

end Rust

/-! ### The two relays together -/

/-- A request that both relays get, or a round of the Python sweeper. The headers and the
ticket are read by the Python relay alone. -/
inductive SharedCall where
  | store (http : SignedHttp) (ticket : Option String) (mailboxTag : Bytes) (expiresAt : UInt64)
      (ciphertext : Bytes)
  | fetch (mailboxTag : BytesN 32)
  | sweep
deriving DecidableEq

structure BothRelays where
  python : Relay
  rust : Rust.BlobStore

/-- The answers of the two; a sweep has none. -/
structure BothAnswers where
  python : Option (Except HttpException RelayResponse)
  rust : Option (Except HttpException RelayResponse)
deriving DecidableEq

/-- One call of both relays, at one clock reading. The fields are canonical base64url. -/
def BothRelays.step (P : Packages) (runtime : RelayRuntime) (r : BothRelays) :
    Int × SharedCall → BothAnswers × BothRelays
  | (now, .store http ticket mailboxTag expiresAt ciphertext) =>
      let payload : BlobStoreRequest :=
        { mailboxTag := b64encode mailboxTag
          expiresAt := expiresAt.toNat
          ciphertext := b64encode ciphertext
          ticket }
      let (python, relay) :=
        Relay.step P runtime (fun _ => now) r.python (.request (.storeBlob http payload))
      let (rust, store) := Rust.storeBlob r.rust
        { mailboxTag := b64encode mailboxTag, expiresAt, ciphertext := b64encode ciphertext }
        (Rust.asU64OfInt now)
      ({ python, rust := some rust }, { python := relay, rust := store })
  | (now, .fetch mailboxTag) =>
      let (python, relay) := Relay.step P runtime (fun _ => now) r.python
        (.request (.fetchBlobsLegacy (b64encode mailboxTag.1)))
      ({ python
         rust := some (Rust.fetchBlobs r.rust (b64encode mailboxTag.1) (Rust.asU64OfInt now)) },
        { python := relay, rust := r.rust })
  | (now, .sweep) =>
      let (python, relay) := Relay.step P runtime (fun _ => now) r.python .sweep
      ({ python, rust := none }, { python := relay, rust := r.rust })

/-- The status of an answer. -/
def statusOf : Option (Except HttpException RelayResponse) → Option Nat
  | some (.ok response) => some response.statusCode
  | some (.error e) => some e.statusCode
  | none => none

/-- Both relays answer with a status. -/
def BothAnswers.Status (n : Nat) (a : BothAnswers) : Prop :=
  statusOf a.python = some n ∧ statusOf a.rust = some n

/-- Both relays answer with blobs, the same up to their order, each by the time of storing. -/
structure BothAnswers.Shows (blobs : Multiset StoredBlob) (a : BothAnswers) : Prop where
  python : ∃ items, a.python = some (.ok { statusCode := 200, content := .blobs items })
    ∧ (items : Multiset BlobResponse) = blobs.map Relay.blobResponse
    ∧ items.Pairwise fun x y => x.storedAt ≤ y.storedAt
  rust : ∃ items, a.rust = some (.ok { statusCode := 200, content := .blobs items })
    ∧ (items : Multiset BlobResponse) = blobs.map Relay.blobResponse
    ∧ items.Pairwise fun x y => x.storedAt ≤ y.storedAt

/-- The mailbox with the answers of both relays. A store is accepted when it is valid and its
tag has room; one refused only for room is answered 429 and any other 400. -/
inductive Alike (size perTag : Nat) (held : Multiset StoredBlob) :
    Int × SharedCall → BothAnswers → Multiset StoredBlob → Prop
  | stored {now http ticket tag expiresAt ciphertext a} :
      Valid size (Rust.requested tag expiresAt ciphertext now) →
      Room perTag held (Rust.requested tag expiresAt ciphertext now) → a.Status 201 →
      Alike size perTag held (now, .store http ticket tag expiresAt ciphertext) a
        (Rust.requested tag expiresAt ciphertext now ::ₘ held)
  | full {now http ticket tag expiresAt ciphertext a} :
      Valid size (Rust.requested tag expiresAt ciphertext now) →
      ¬ Room perTag held (Rust.requested tag expiresAt ciphertext now) → a.Status 429 →
      Alike size perTag held (now, .store http ticket tag expiresAt ciphertext) a held
  | refused {now http ticket tag expiresAt ciphertext a} :
      ¬ Valid size (Rust.requested tag expiresAt ciphertext now) → a.Status 400 →
      Alike size perTag held (now, .store http ticket tag expiresAt ciphertext) a held
  | fetched {now tag a} : a.Shows (under tag.1 (live now held)) →
      Alike size perTag held (now, .fetch tag) a held
  | swept {now a} : Alike size perTag held (now, .sweep) a held

/-! ### One call -/

section Python

variable {P : Packages} {runtime : RelayRuntime} {now : Int} {r : Relay}

/-- A relay that stores blobs, without tickets and capabilities. -/
structure RelayRuntime.Open (runtime : RelayRuntime) : Prop where
  role : runtime.role ≠ .entry
  tickets : runtime.requireTickets = false
  capabilities : runtime.requireCapabilities = false

/-- Nothing is asked of a request. -/
theorem run_authorizeRequest (hopen : runtime.Open) (http : SignedHttp)
    (permission method path : String) (ticket : Option String) :
    (Relay.authorizeRequest P runtime (fun _ => now) http permission method path ticket).run r
      = .ok () r := by
  have hticket : (Relay.checkTicket P runtime (fun _ => now) ticket permission).run r
      = .ok () r := by
    unfold Relay.checkTicket
    rw [hopen.tickets]
    rfl
  rw [Relay.authorizeRequest, hopen.capabilities]
  exact hticket

theorem run_keepBlob (tag ciphertext : Bytes) (expiresAt : Int) :
    (Relay.keepBlob (fun _ => now) tag expiresAt ciphertext).run r
      = match (BlobStore.store tag expiresAt ciphertext none now).run r.blobs with
        | .ok _ s => .ok () { r with blobs := s, readings := r.readings + 1 }
        | .error e s => .error e { r with blobs := s, readings := r.readings + 1 } := by
  show Relay.onBlobs _ { r with readings := r.readings + 1 } = _
  unfold Relay.onBlobs onPart
  dsimp only
  cases (BlobStore.store tag expiresAt ciphertext none now).run r.blobs <;> rfl

theorem run_storeBlob (hopen : runtime.Open) (now : Int) (http : SignedHttp)
    (ticket : Option String) (tag ciphertext : Bytes) (expiresAt : Int) :
    (Relay.storeBlob P runtime (fun _ => now) http
        { mailboxTag := b64encode tag
          expiresAt
          ciphertext := b64encode ciphertext
          ticket }).run r
      = match (BlobStore.store tag expiresAt ciphertext none now).run r.blobs with
        | .ok _ s =>
            .ok { statusCode := 201, content := .object [("status", "stored")] }
              { r with blobs := s, readings := r.readings + 1 }
        | .error e s =>
            .error (Relay.onValueError Relay.storeError e)
              { r with blobs := s, readings := r.readings + 1 } := by
  have hbody : (Relay.rescue
        (do
          let mailboxTag ← orRaise (b64decode (b64encode tag))
          let ciphertext ← orRaise (b64decode (b64encode ciphertext))
          Relay.keepBlob (fun _ => now) mailboxTag expiresAt ciphertext)
        (Relay.onValueError Relay.storeError)).run r
      = match (BlobStore.store tag expiresAt ciphertext none now).run r.blobs with
        | .ok _ s => .ok () { r with blobs := s, readings := r.readings + 1 }
        | .error e s =>
            .error (Relay.onValueError Relay.storeError e)
              { r with blobs := s, readings := r.readings + 1 } := by
    rw [b64decode_b64encode, b64decode_b64encode]
    simp only [orRaise, pure_bind]
    change Relay.rescue _ _ r = _
    unfold Relay.rescue
    rw [run_keepBlob]
    cases (BlobStore.store tag expiresAt ciphertext none now).run r.blobs <;> rfl
  rw [Relay.storeBlob, if_neg hopen.role]
  simp only [EStateM.run_bind, EStateM.run_pure, run_authorizeRequest hopen, hbody]
  cases (BlobStore.store tag expiresAt ciphertext none now).run r.blobs <;> rfl

theorem run_fetchBlobsLegacy (tag : Bytes) :
    (Relay.fetchBlobsLegacy (fun _ => now) (b64encode tag)).run r
      = .ok { statusCode := 200
              content := .blobs ((r.blobs.fetch tag now).map Relay.blobResponse) }
          { r with readings := r.readings + 1 } := by
  have htag : (Relay.decodeTag (b64encode tag)).run r = .ok tag r := by
    rw [Relay.decodeTag, b64decode_b64encode]
    rfl
  rw [Relay.fetchBlobsLegacy, EStateM.run_bind, htag]
  rfl

end Python

/-! ### The simulation -/

theorem statusCode_invalid : ∀ text ∈ invalidTexts,
    (Relay.storeError text).statusCode = 400 ∧ strContains "limit exceeded" text = false := by
  decide +kernel

theorem statusCode_full :
    (Relay.storeError fullText).statusCode = 429
      ∧ strContains "limit exceeded" fullText = true := by
  decide +kernel

namespace Rust

variable {s s' : BlobStore} {tag ciphertext : Bytes} {expiresAt now : UInt64} {text : String}

theorem storeBlob_ok (h : s.store tag expiresAt ciphertext now = .ok s') :
    storeBlob s { mailboxTag := b64encode tag, expiresAt, ciphertext := b64encode ciphertext } now
      = (.ok { statusCode := 201, content := .object [("status", "stored")] }, s') := by
  simp only [storeBlob, base64urlDecode_b64encode, h]

theorem storeBlob_error (h : s.store tag expiresAt ciphertext now = .error text) :
    storeBlob s { mailboxTag := b64encode tag, expiresAt, ciphertext := b64encode ciphertext } now
      = (.error { statusCode := if strContains "limit exceeded" text then 429 else 400
                  detail := text }, s) := by
  simp only [storeBlob, base64urlDecode_b64encode, h]
  split <;> rfl

end Rust

/-- No sweep has been after `now`. -/
def SweptBefore (calls : List (Int × SharedCall)) (now : Int) : Prop :=
  ∀ call ∈ calls, call.2 = .sweep → call.1 ≤ now

theorem sweptBefore_concat {calls : List (Int × SharedCall)} {call : Int × SharedCall} {now : Int} :
    SweptBefore (calls ++ [call]) now
      ↔ SweptBefore calls now ∧ (call.2 = .sweep → call.1 ≤ now) := by
  simp only [SweptBefore, List.forall_mem_append, List.forall_mem_singleton]

/-- Both relays and the mailbox after the calls. From the last sweep on the Python relay has
the live blobs of the mailbox. -/
structure BothRelays.Agree (size perTag : Nat) (calls : List (Int × SharedCall)) (r : BothRelays)
    (held : Multiset StoredBlob) : Prop where
  size_eq : r.python.blobs.maxBlobSize = size
  perTag_eq : r.python.blobs.maxBlobsPerTag = perTag
  live_eq : ∀ now, SweptBefore calls now → live now r.python.blobs.blobs = live now held
  rust : r.rust.Holds size perTag held

namespace BothRelays

variable {P : Packages} {runtime : RelayRuntime} {size perTag : Nat}
  {calls : List (Int × SharedCall)} {r : BothRelays} {held : Multiset StoredBlob} {now : Int}

/-- A store that both relays accept. -/
theorem step_store_ok {s : BlobStore} {s' : Rust.BlobStore} (hopen : runtime.Open) (now : Int)
    (http : SignedHttp) (ticket : Option String) (tag : Bytes) (expiresAt : UInt64)
    (ciphertext : Bytes)
    (hpython : (BlobStore.store tag expiresAt.toNat ciphertext none now).run r.python.blobs
      = .ok () s)
    (hrust : r.rust.store tag expiresAt ciphertext (Rust.asU64OfInt now) = .ok s') :
    ((step P runtime r (now, .store http ticket tag expiresAt ciphertext)).1).Status 201
      ∧ (step P runtime r (now, .store http ticket tag expiresAt ciphertext)).2
        = { python := { r.python with blobs := s, readings := r.python.readings + 1 }
            rust := s' } := by
  have hrun := run_storeBlob (P := P) (r := r.python) hopen now http ticket tag ciphertext
    expiresAt.toNat
  rw [hpython] at hrun
  simp only [step, Relay.step, Relay.route, hrun, Rust.storeBlob_ok hrust]
  exact ⟨⟨rfl, rfl⟩, rfl⟩

/-- A store that both relays refuse. -/
theorem step_store_error {text text' : String} {status : Nat} (hopen : runtime.Open) (now : Int)
    (http : SignedHttp) (ticket : Option String) (tag : Bytes) (expiresAt : UInt64)
    (ciphertext : Bytes)
    (hpython : (BlobStore.store tag expiresAt.toNat ciphertext none now).run r.python.blobs
      = .error (.valueError text) r.python.blobs)
    (hrust : r.rust.store tag expiresAt ciphertext (Rust.asU64OfInt now) = .error text')
    (hstatus : (Relay.storeError text).statusCode = status)
    (hstatus' : (if strContains "limit exceeded" text' then 429 else 400) = status) :
    ((step P runtime r (now, .store http ticket tag expiresAt ciphertext)).1).Status status
      ∧ (step P runtime r (now, .store http ticket tag expiresAt ciphertext)).2
        = { r with python := { r.python with readings := r.python.readings + 1 } } := by
  have hrun := run_storeBlob (P := P) (r := r.python) hopen now http ticket tag ciphertext
    expiresAt.toNat
  rw [hpython] at hrun
  simp only [step, Relay.step, Relay.route, hrun, Rust.storeBlob_error hrust]
  exact ⟨⟨congrArg some hstatus, congrArg some hstatus'⟩, rfl⟩

theorem Agree.room_iff (h : r.Agree size perTag calls held) {b : StoredBlob}
    (hnow : SweptBefore calls b.storedAt) :
    Room r.python.blobs.maxBlobsPerTag r.python.blobs.blobs b ↔ Room perTag held b := by
  rw [Room, Room, h.perTag_eq, h.live_eq _ hnow]

/-- The calls go on, the blobs stay. -/
theorem Agree.later (h : r.Agree size perTag calls held) (call : Int × SharedCall) {r' : BothRelays}
    (hpython : r'.python.blobs = r.python.blobs) (hrust : r'.rust = r.rust) :
    r'.Agree size perTag (calls ++ [call]) held := by
  refine ⟨hpython ▸ h.size_eq, hpython ▸ h.perTag_eq, fun now hnow => ?_, hrust ▸ h.rust⟩
  rw [hpython]
  exact h.live_eq now (sweptBefore_concat.mp hnow).1

/-- A store. The two check the blob alike, and count the same live blobs under its tag. -/
theorem Agree.store (hopen : runtime.Open) (h : r.Agree size perTag calls held)
    (hnow : SweptBefore calls now) (hread : Rust.Readable now) (http : SignedHttp)
    (ticket : Option String) (tag : Bytes) (expiresAt : UInt64) (ciphertext : Bytes) :
    ∃ held', Alike size perTag held (now, .store http ticket tag expiresAt ciphertext)
        (step P runtime r (now, .store http ticket tag expiresAt ciphertext)).1 held'
      ∧ (step P runtime r (now, .store http ticket tag expiresAt ciphertext)).2.Agree size perTag
          (calls ++ [(now, .store http ticket tag expiresAt ciphertext)]) held' := by
  have hsize := h.size_eq
  by_cases hvalid : Valid size (Rust.requested tag expiresAt ciphertext now)
  · have hrust := Rust.BlobStore.store_valid h.rust hread hvalid
    by_cases hroom : Room perTag held (Rust.requested tag expiresAt ciphertext now)
    · have hpython := BlobStore.store_admitted
        (admits_iff.mpr ⟨hsize ▸ hvalid, (h.room_iff hnow).mpr hroom⟩)
      have hcount : ¬ (under tag (live now held)).card ≥ perTag := Nat.not_le.mpr hroom
      rw [if_neg hcount] at hrust
      obtain ⟨hstatus, hstate⟩ :=
        step_store_ok (P := P) hopen now http ticket tag expiresAt ciphertext hpython hrust
      refine ⟨_, .stored hvalid hroom hstatus, ?_⟩
      rw [hstate]
      refine ⟨h.size_eq, h.perTag_eq, fun now' hnow' => ?_, h.rust.stored hread hvalid⟩
      have hlive := h.live_eq now' (sweptBefore_concat.mp hnow').1
      have hcons : ((r.python.blobs.blobs ++ [Rust.requested tag expiresAt ciphertext now]
          : List StoredBlob) : Multiset StoredBlob)
          = Rust.requested tag expiresAt ciphertext now ::ₘ r.python.blobs.blobs := by
        rw [Multiset.cons_coe, Multiset.coe_eq_coe]
        exact List.perm_append_singleton _ _
      rw [hcons, live_cons, live_cons, hlive]
    · have hpython := BlobStore.store_full (s := r.python.blobs) (hsize ▸ hvalid)
        fun hpython => hroom ((h.room_iff hnow).mp hpython)
      have hcount : (under tag (live now held)).card ≥ perTag := Nat.not_lt.mp hroom
      rw [if_pos hcount] at hrust
      obtain ⟨hstatus, hstate⟩ :=
        step_store_error (P := P) hopen now http ticket tag expiresAt ciphertext hpython hrust
          statusCode_full.1 (if_pos statusCode_full.2)
      refine ⟨_, .full hvalid hroom hstatus, ?_⟩
      rw [hstate]
      exact h.later _ rfl rfl
  · obtain ⟨text, htext, hpython⟩ := BlobStore.store_invalid (s := r.python.blobs)
      (hsize ▸ hvalid)
    obtain ⟨text', htext', hrust⟩ := Rust.BlobStore.store_invalid h.rust hread hvalid
    obtain ⟨hstatus, hstate⟩ :=
      step_store_error (P := P) hopen now http ticket tag expiresAt ciphertext hpython hrust
        (statusCode_invalid text htext).1
        (if_neg (ne_true_of_eq_false (statusCode_invalid text' htext').2))
    refine ⟨_, .refused hvalid hstatus, ?_⟩
    rw [hstate]
    exact h.later _ rfl rfl

/-- A fetch. -/
theorem Agree.fetch (h : r.Agree size perTag calls held) (hnow : SweptBefore calls now)
    (hread : Rust.Readable now) (tag : BytesN 32) :
    ((step P runtime r (now, .fetch tag)).1).Shows (under tag.1 (live now held)) := by
  have hlen : ¬ tag.1.length ≠ 32 := not_not.mpr tag.2
  constructor
  · refine ⟨(r.python.blobs.fetch tag.1 now).map Relay.blobResponse, ?_, ?_, ?_⟩
    · simp only [step, Relay.step, Relay.route, run_fetchBlobsLegacy, outcome_ok]
    · rw [← Multiset.map_coe, BlobStore.coe_fetch, h.live_eq now hnow]
    · exact List.pairwise_map.mpr (pairwise_orderBy _ _)
  · obtain ⟨rows, hrows⟩ : ∃ rows, rows = orderBy Rust.BlobRow.storedAt
        (Rust.BlobStore.unexpired tag.1 now r.rust.rows) := ⟨_, rfl⟩
    have hsmall : ∀ row ∈ rows, row.Small := by
      intro row hrow
      rw [hrows] at hrow
      exact h.rust.small row (List.mem_filter.mp ((orderBy_perm _ _).mem_iff.mp hrow)).1
    refine ⟨rows.map fun row => Relay.blobResponse (Rust.heldBlob row), ?_, ?_, ?_⟩
    · have hfetch : r.rust.fetch tag.1 (Rust.asU64OfInt now)
          = .ok (rows.map Rust.BlobStore.blobOf) := by
        rw [Rust.BlobStore.fetch, if_neg hlen, Rust.asI64_of_readable hread, hrows]
      have hmap : (rows.map Rust.BlobStore.blobOf).map Rust.blobResponse
          = rows.map fun row => Relay.blobResponse (Rust.heldBlob row) := by
        rw [List.map_map]
        exact List.map_congr_left fun row hrow => Rust.blobResponse_blobOf (hsmall row hrow)
      simp only [step, Rust.fetchBlobs, Rust.base64urlDecode_b64encode, hfetch, hmap]
    · rw [← h.rust.held_eq, ← Rust.BlobStore.coe_unexpired, Multiset.map_coe, List.map_map,
        Multiset.coe_eq_coe, hrows]
      exact (orderBy_perm _ _).map _
    · rw [hrows]
      exact List.pairwise_map.mpr (pairwise_orderBy _ _)

/-- A sweep takes what no later call shows. -/
theorem Agree.sweep (h : r.Agree size perTag calls held) :
    (step P runtime r (now, .sweep)).2.Agree size perTag (calls ++ [(now, .sweep)]) held := by
  refine ⟨h.size_eq, h.perTag_eq, fun now' hnow' => ?_, h.rust⟩
  obtain ⟨hbefore, hle⟩ := sweptBefore_concat.mp hnow'
  have hblobs : (step P runtime r (now, .sweep)).2.python.blobs.blobs
      = r.python.blobs.blobs.filter fun b => ¬ b.expiresAt ≤ now := rfl
  rw [hblobs, BlobStore.live_swept (hle rfl)]
  exact h.live_eq now' hbefore

/-- **One call.** Both relays answer as the mailbox does. -/
theorem Agree.step (hopen : runtime.Open) (h : r.Agree size perTag calls held)
    (call : Int × SharedCall) (hnow : SweptBefore calls call.1) (hread : Rust.Readable call.1) :
    ∃ held', Alike size perTag held call (BothRelays.step P runtime r call).1 held'
      ∧ (BothRelays.step P runtime r call).2.Agree size perTag (calls ++ [call]) held' := by
  obtain ⟨now, call⟩ := call
  cases call with
  | store http ticket tag expiresAt ciphertext =>
      exact h.store hopen hnow hread http ticket tag expiresAt ciphertext
  | fetch tag =>
      refine ⟨held, .fetched (h.fetch hnow hread tag), h.later _ ?_ rfl⟩
      simp only [BothRelays.step, Relay.step, Relay.route, run_fetchBlobsLegacy, after_ok]
  | sweep => exact ⟨held, .swept, h.sweep⟩

end BothRelays

/-! ### Every run -/

/-- Both relays as they start, with equal limits. -/
def BothRelays.start (size perTag : Nat) : BothRelays where
  python := { blobs := { maxBlobSize := size, maxBlobsPerTag := perTag } }
  rust := { maxBlobSize := size, maxBlobsPerTag := perTag }

/-- The clock is readable, and is never before an earlier sweep. -/
def Clocked (calls : List (Int × SharedCall)) : Prop :=
  (calls.Pairwise fun sweep call => sweep.2 = .sweep → sweep.1 ≤ call.1)
    ∧ ∀ call ∈ calls, Rust.Readable call.1

instance (calls : List (Int × SharedCall)) : Decidable (Clocked calls) :=
  inferInstanceAs (Decidable (_ ∧ _))

theorem clocked_concat {calls : List (Int × SharedCall)} {call : Int × SharedCall} :
    Clocked (calls ++ [call])
      ↔ Clocked calls ∧ SweptBefore calls call.1 ∧ Rust.Readable call.1 := by
  simp only [Clocked, SweptBefore, List.pairwise_append, List.forall_mem_append,
    List.forall_mem_singleton, List.pairwise_singleton]
  tauto

/-- **Two relays, one mailbox.** Both relays answer every call as one mailbox answers it,
whatever the Python relay sweeps in between. -/
theorem relays_alike (P : Packages) (runtime : RelayRuntime) (hopen : runtime.Open)
    (size perTag : Nat) (calls : List (Int × SharedCall)) (hclocked : Clocked calls) :
    ∃ held, Trace (Alike size perTag) 0
      (run (BothRelays.step P runtime) (.start size perTag) calls).events held := by
  have hstart : (BothRelays.start size perTag).Agree size perTag [] 0 :=
    ⟨rfl, rfl, fun _ _ => rfl, ⟨rfl, rfl, rfl, fun _ h => nomatch h⟩⟩
  obtain ⟨held, htrace, -⟩ := trace_of_simulation
    (fun _ _ hgood => (clocked_concat.mp hgood).1) hstart
    (fun _ call _ _ hgood hrelated =>
      have hcall := (clocked_concat.mp hgood).2
      hrelated.step hopen call hcall.1 hcall.2)
    hclocked
  exact ⟨held, htrace⟩

/-! ### One tag -/

namespace Relays.Sample

def relay : RelayRuntime := { role := .mailbox, wrapSecret := none, name := "relay" }

def entryRelay : RelayRuntime := { relay with role := .entry }

def tag : BytesN 32 := BytesN.fill 32 7

def store (expiresAt : UInt64) (ciphertext : Bytes) : SharedCall :=
  .store { body := [] } none tag.1 expiresAt ciphertext

/-- A second blob while the first is live, a third when it has expired, one too large. -/
def calls : List (Int × SharedCall) :=
  [(0, store 10 [1]), (5, store 20 [2]), (10, store 20 [3]), (11, store 20 [1, 2, 3, 4, 5]),
    (15, .sweep), (19, .fetch tag)]

/-- The clock is put back across a sweep. -/
def earlier : List (Int × SharedCall) := [(0, store 10 [1]), (10, .sweep), (5, .fetch tag)]

/-- The first blob, as both relays show it. -/
def first : BlobResponse :=
  { mailboxTag := b64encode tag.1, expiresAt := 10, ciphertext := b64encode [1], storedAt := 0 }

/-- The answers to the calls. -/
def answers (runtime : RelayRuntime) (size perTag : Nat) (calls : List (Int × SharedCall)) :
    List BothAnswers :=
  (run (BothRelays.step plainPackages runtime) (.start size perTag) calls).events.map Prod.snd

end Relays.Sample

open Relays.Sample in
theorem relays_alike_one_tag :
    (answers relay 4 1 calls).map (fun a => (statusOf a.python, statusOf a.rust))
        = [(some 201, some 201), (some 429, some 429), (some 201, some 201),
          (some 400, some 400), (none, none), (some 200, some 200)]
      ∧ ∃ held, Trace (Alike 4 1) 0
        (run (BothRelays.step plainPackages relay) (.start 4 1) calls).events held :=
  ⟨by decide +kernel,
    relays_alike plainPackages relay ⟨by decide, rfl, rfl⟩ 4 1 calls (by decide)⟩

open Relays.Sample in
/-- An entry relay in Python refuses what the Rust relay stores. When the clock goes back across
a sweep, the Rust relay shows a blob that the Python relay has swept. -/
theorem not_alike_entry_or_earlier :
    (answers entryRelay 4 1 [(0, store 10 [1])]).map
        (fun a => (statusOf a.python, statusOf a.rust)) = [(some 405, some 201)]
      ∧ (answers relay 4 1 earlier).getLast?
        = some { python := some (.ok { statusCode := 200, content := .blobs [] })
                 rust := some (.ok { statusCode := 200, content := .blobs [first] }) } := by
  decide +kernel

end Yakr
