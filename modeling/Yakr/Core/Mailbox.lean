import Yakr.Core.Crypto
import Mathlib.Data.Int.Init

/-!
# Yakr.Core.Mailbox

**Mailbox tags of `mailbox.py`.** A tag is the HMAC of a direction and an epoch
number; the epoch number is the clock in seconds divided by the epoch length.
Clock readings are milliseconds, `int(time.time() * 1000)`.
-/

namespace Yakr

open Lib

variable (P : Packages)

/-- `int(time.time())` at a reading of `int(time.time() * 1000)`. -/
def clockSecs (now : Int) : Int := now / 1000

/-- `current_epoch`: Python's floor division, which raises at zero. -/
def currentEpoch (now epochSecs : Int) : Except PyExc Int :=
  if epochSecs = 0 then .error .zeroDivisionError else .ok (Int.fdiv (clockSecs now) epochSecs)

structure MailboxTag where
  tag : Bytes
  epoch : Int
  direction : String
deriving DecidableEq, Repr

/-- `tag_b64`. -/
def MailboxTag.tagB64 (t : MailboxTag) : String := b64encode t.tag

structure MailboxTagDeriver where
  secret : Bytes
  epochSecs : Int := 3600

namespace MailboxTagDeriver

/-- The bytes a tag authenticates, `f"{direction}|{epoch}"`. -/
def material (direction : String) (epoch : Int) : Bytes :=
  encodeUtf8 (direction ++ "|" ++ toString epoch)

/-- `derive` for a given epoch. -/
def deriveAt (d : MailboxTagDeriver) (direction : String) (epoch : Int) : MailboxTag :=
  { tag := (P.hmacSha256 d.secret (material direction epoch)).1, epoch, direction }

/-- `derive` for the current epoch. -/
def derive (d : MailboxTagDeriver) (now : Int) (direction : String) : Except PyExc MailboxTag := do
  let epoch ← currentEpoch now d.epochSecs
  return d.deriveAt P direction epoch

/-- `candidate_epochs`: the current epoch and the `lookback` epochs before it. -/
def candidateEpochs (d : MailboxTagDeriver) (now : Int) (direction : String)
    (lookback : Nat := 2) : Except PyExc (List MailboxTag) := do
  let current ← currentEpoch now d.epochSecs
  return (List.range (lookback + 1)).map fun (offset : Nat) =>
    d.deriveAt P direction (current - offset)

end MailboxTagDeriver
end Yakr
