import Yakr.Core.Message
import Yakr.Core.Sql
import Yakr.Lib.Effect

/-!
# Yakr.Relay.BlobStore

**The blobs of a relay: `BlobStore` of `store.py`.** The store keeps a row for every blob
until a sweep deletes it, and counts and returns only the rows that have not expired.

A call is one SQLite transaction, at the time its clock reading shows. The reading counts
milliseconds of a 64-bit count of nanoseconds and an admitted `expires_at` is at most a day
later, so no bound value exceeds SQLite's integers.
-/

namespace Yakr

open Lib Effect

def maxRelayBlobTtlMs : Int := messageTtlMs

/-- `StoredBlob`, which is a row of `blobs` without its id. -/
structure StoredBlob where
  mailboxTag : Bytes
  expiresAt : Int
  ciphertext : Bytes
  storedAt : Int
  consumeToken : Option Bytes := none
deriving DecidableEq, Repr

/-- `BlobStore` with its table, the rows in the order of their ids. -/
structure BlobStore where
  maxBlobSize : Nat := 64 * 1024
  maxBlobsPerTag : Nat := 256
  blobs : List StoredBlob := []
deriving DecidableEq

namespace BlobStore

/-- `WHERE mailbox_tag = ? AND expires_at > ?`. -/
def unexpired (mailboxTag : Bytes) (now : Int) (blobs : List StoredBlob) : List StoredBlob :=
  blobs.filter fun b => b.mailboxTag = mailboxTag ∧ now < b.expiresAt

/-- `store`. -/
def store (mailboxTag : Bytes) (expiresAt : Int) (ciphertext : Bytes)
    (consumeToken : Option Bytes) (now : Int) : EStateM PyExc BlobStore Unit := do
  let s ← get
  if mailboxTag.length ≠ 32 then throw (.valueError "mailbox_tag must be 32 bytes")
  if ciphertext.length > s.maxBlobSize then throw (.valueError "blob too large")
  if expiresAt ≤ now then throw (.valueError "blob already expired")
  if expiresAt > now + maxRelayBlobTtlMs then
    throw (.valueError "blob TTL exceeds 24 hour relay maximum")
  let count := (unexpired mailboxTag now s.blobs).length
  if count ≥ s.maxBlobsPerTag then throw (.valueError "mailbox tag blob limit exceeded")
  modify fun s =>
    { s with
      blobs := s.blobs ++ [{ mailboxTag, expiresAt, ciphertext, storedAt := now, consumeToken }] }

/-- `fetch`. -/
def fetch (s : BlobStore) (mailboxTag : Bytes) (now : Int) : List StoredBlob :=
  orderBy StoredBlob.storedAt (unexpired mailboxTag now s.blobs)

/-- `sweep_expired`, which returns the number of rows it deletes. -/
def sweepExpired (now : Int) : EStateM PyExc BlobStore Nat := do
  let s ← get
  set { s with blobs := s.blobs.filter fun b => ¬ b.expiresAt ≤ now }
  return (s.blobs.filter fun b => b.expiresAt ≤ now).length

end BlobStore

/-- A call of the store. -/
inductive BlobCall where
  | store (mailboxTag : Bytes) (expiresAt : Int) (ciphertext : Bytes) (consumeToken : Option Bytes)
  | fetch (mailboxTag : Bytes)
  | sweepExpired
deriving DecidableEq

/-- What it returns or raises. -/
inductive BlobAnswer where
  | stored
  | refused (e : PyExc)
  | fetched (blobs : List StoredBlob)
  | swept (count : Nat)
deriving DecidableEq

namespace BlobStore

/-- A call at its time. -/
def step (s : BlobStore) : Int × BlobCall → BlobAnswer × BlobStore
  | (now, .store mailboxTag expiresAt ciphertext consumeToken) =>
      match (store mailboxTag expiresAt ciphertext consumeToken now).run s with
      | .ok _ s' => (.stored, s')
      | .error e s' => (.refused e, s')
  | (now, .fetch mailboxTag) => (.fetched (s.fetch mailboxTag now), s)
  | (now, .sweepExpired) =>
      match (sweepExpired now).run s with
      | .ok count s' => (.swept count, s')
      | .error e s' => (.refused e, s')

end BlobStore

end Yakr
