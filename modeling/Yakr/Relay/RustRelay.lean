import Yakr.Core.RustProfile
import Yakr.Core.RustWords
import Yakr.Relay.App

/-!
# Yakr.Relay.RustRelay

**The relay in Rust: `store.rs` and `app.rs` of `yakr-relay`.** It has one table of blobs and
two routes, no tickets, no capabilities and no sweeper. Times are unsigned words that are bound
to the columns as signed ones. A sum of two words wraps, as it does in a release build.

Its answers are written as those of the Python relay: a status with a text, or a response.
-/

namespace Yakr

open Lib

namespace Rust

/-- `MAX_RELAY_BLOB_TTL_MS`. -/
def maxRelayBlobTtlMs : UInt64 := 24 * 60 * 60 * 1000

structure StoredBlob where
  mailboxTag : Bytes
  expiresAt : UInt64
  ciphertext : Bytes
  storedAt : UInt64
deriving DecidableEq, Repr

/-- A row of `blobs` without its id. -/
structure BlobRow where
  mailboxTag : Bytes
  expiresAt : Int
  ciphertext : Bytes
  storedAt : Int
deriving DecidableEq, Repr

/-- `BlobStore` with its table, the rows in the order of their ids. -/
structure BlobStore where
  maxBlobSize : Nat
  maxBlobsPerTag : Nat
  rows : List BlobRow := []
deriving DecidableEq

namespace BlobStore

/-- `WHERE mailbox_tag = ?1 AND expires_at > ?2`. -/
def unexpired (mailboxTag : Bytes) (now : Int) (rows : List BlobRow) : List BlobRow :=
  rows.filter fun r => r.mailboxTag = mailboxTag ∧ now < r.expiresAt

/-- `store`. -/
def store (s : BlobStore) (mailboxTag : Bytes) (expiresAt : UInt64) (ciphertext : Bytes)
    (now : UInt64) : Except String BlobStore :=
  if mailboxTag.length ≠ 32 then .error "mailbox_tag must be 32 bytes"
  else if ciphertext.length > s.maxBlobSize then .error "blob too large"
  else if expiresAt ≤ now then .error "blob already expired"
  else if expiresAt > now + maxRelayBlobTtlMs then
    .error "blob TTL exceeds 24 hour relay maximum"
  else
    let count := (unexpired mailboxTag (asI64 now) s.rows).length
    if count ≥ s.maxBlobsPerTag then .error "mailbox tag blob limit exceeded"
    else
      .ok { s with
        rows := s.rows ++ [{ mailboxTag
                             expiresAt := asI64 expiresAt
                             ciphertext
                             storedAt := asI64 now }] }

/-- The blob of a row. The tag of a row found under a tag of 32 bytes has 32 bytes. -/
def blobOf (r : BlobRow) : StoredBlob :=
  { mailboxTag := r.mailboxTag
    expiresAt := asU64OfInt r.expiresAt
    ciphertext := r.ciphertext
    storedAt := asU64OfInt r.storedAt }

/-- `fetch`. -/
def fetch (s : BlobStore) (mailboxTag : Bytes) (now : UInt64) : Except String (List StoredBlob) :=
  if mailboxTag.length ≠ 32 then .error "mailbox_tag must be 32 bytes"
  else .ok ((orderBy BlobRow.storedAt (unexpired mailboxTag (asI64 now) s.rows)).map blobOf)

end BlobStore

structure BlobStoreRequest where
  mailboxTag : String
  expiresAt : UInt64
  ciphertext : String
deriving DecidableEq, Repr

/-- The `BlobResponse` of a blob. -/
def blobResponse (b : StoredBlob) : BlobResponse :=
  { mailboxTag := b64encode b.mailboxTag
    expiresAt := b.expiresAt.toNat
    ciphertext := b64encode b.ciphertext
    storedAt := b.storedAt.toNat }

/-- `store_blob`, with the store after it. -/
def storeBlob (s : BlobStore) (request : BlobStoreRequest) (now : UInt64) :
    Except HttpException RelayResponse × BlobStore :=
  match base64urlDecode request.mailboxTag with
  | none => (.error { statusCode := 400, detail := "invalid mailbox_tag" }, s)
  | some tag =>
      match base64urlDecode request.ciphertext with
      | none => (.error { statusCode := 400, detail := "invalid ciphertext" }, s)
      | some ciphertext =>
          match s.store tag request.expiresAt ciphertext now with
          | .ok s' => (.ok { statusCode := 201, content := .object [("status", "stored")] }, s')
          | .error err =>
              if strContains "limit exceeded" err then
                (.error { statusCode := 429, detail := err }, s)
              else (.error { statusCode := 400, detail := err }, s)

/-- `fetch_blobs`. -/
def fetchBlobs (s : BlobStore) (mailboxTag : String) (now : UInt64) :
    Except HttpException RelayResponse :=
  match base64urlDecode mailboxTag with
  | none => .error { statusCode := 400, detail := "invalid mailbox_tag" }
  | some tag =>
      match s.fetch tag now with
      | .ok blobs => .ok { statusCode := 200, content := .blobs (blobs.map blobResponse) }
      | .error e => .error { statusCode := 400, detail := e }

end Rust
end Yakr
