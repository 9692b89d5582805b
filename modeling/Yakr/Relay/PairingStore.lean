import Yakr.Core.Pairing
import Yakr.Lib.Machine
import Yakr.Lib.Table

/-!
# Yakr.Relay.PairingStore

**The pairing mailbox of a relay: `PairingStore` of `pairing_store.py`.** One row for each
invite tag holds the joiner's request, the inviter's response and whether the invite is
consumed. A call is one SQLite transaction at the time of its clock reading.

The last section says what a call does to the row of each tag; nothing after it looks into a
call again.
-/

namespace Yakr

open Lib Effect Machine

variable (P : Packages)

/-- A row of `pairing_sessions`. -/
structure PairingSession where
  inviteTag : String
  inviteSecret : Bytes
  registeredAt : Int
  request : Option Bytes := none
  response : Option Bytes := none
  consumed : Bool := false
deriving DecidableEq, Repr

namespace PairingSession

/-! What the statements set in a row. -/

def registered (inviteSecret : Bytes) (now : Int) (r : PairingSession) : PairingSession :=
  { r with
    inviteSecret := inviteSecret
    registeredAt := now
    request := none
    response := none
    consumed := false }

def requested (request : Bytes) (r : PairingSession) : PairingSession :=
  { r with request := some request }

def responded (response : Bytes) (r : PairingSession) : PairingSession :=
  { r with response := some response, consumed := true }

end PairingSession

structure PairingStore where
  ttlMs : Int := 30 * 60 * 1000
  sessions : List PairingSession := []
deriving DecidableEq, Repr

namespace PairingStore

/-- `SELECT … WHERE invite_tag = ?`. -/
def session (s : PairingStore) (inviteTag : String) : Option PairingSession :=
  Table.find PairingSession.inviteTag inviteTag s.sessions

/-- The upsert of `register`. -/
def upsertSession (inviteTag : String) (inviteSecret : Bytes) (now : Int) (s : PairingStore) :
    PairingStore :=
  { s with
    sessions := Table.merge PairingSession.inviteTag
      { inviteTag, inviteSecret, registeredAt := now }
      (PairingSession.registered inviteSecret now) s.sessions }

/-- `UPDATE … WHERE invite_tag = ?`. -/
def updateSession (inviteTag : String) (change : PairingSession → PairingSession)
    (s : PairingStore) : PairingStore :=
  { s with sessions := Table.update PairingSession.inviteTag inviteTag change s.sessions }

/-- `sweep_expired`, which returns the number of rows it deletes. -/
def sweepExpired (now : Int) : EStateM PyExc PairingStore Nat := do
  let s ← get
  let cutoff := now - s.ttlMs
  set { s with sessions := s.sessions.filter fun r => ¬ r.registeredAt < cutoff }
  return (s.sessions.filter fun r => r.registeredAt < cutoff).length

/-- `register`. -/
def register (inviteSecret : Bytes) (now : Int) : EStateM PyExc PairingStore String := do
  if inviteSecret.length ≠ 32 then throw (.valueError "invite_secret must be 32 bytes")
  let tag ← orRaise (inviteTagForSecret P inviteSecret)
  if ((← get).session tag).any (·.consumed) then throw (.valueError "invite already consumed")
  modify (upsertSession tag inviteSecret now)
  return tag

/-- `store_request`. -/
def storeRequest (inviteSecret request : Bytes) (now : Int) :
    EStateM PyExc PairingStore String := do
  let tag ← orRaise (inviteTagForSecret P inviteSecret)
  match (← get).session tag with
  | none =>
      let row : PairingSession :=
        { inviteTag := tag, inviteSecret, registeredAt := now, request := some request }
      modify fun s => { s with sessions := s.sessions ++ [row] }
  | some row =>
      if row.consumed then throw (.valueError "invite already consumed")
      modify (updateSession tag (.requested request))
  return tag

/-- `get_pending_request`. -/
def getPendingRequest (s : PairingStore) (inviteTag : String) : Option Bytes :=
  match s.session inviteTag with
  | none => none
  | some row => if row.consumed then none else row.request

/-- `store_response`. -/
def storeResponse (inviteSecret response : Bytes) : EStateM PyExc PairingStore String := do
  let tag ← orRaise (inviteTagForSecret P inviteSecret)
  match (← get).session tag with
  | none => throw (.valueError "unknown invite session")
  | some row =>
      if row.consumed then throw (.valueError "invite already consumed")
      modify (updateSession tag (.responded response))
      return tag

/-- `get_response`. -/
def getResponse (s : PairingStore) (inviteTag : String) : Option Bytes :=
  match s.session inviteTag with
  | none => none
  | some row => if row.consumed then row.response else none

end PairingStore

/-! ### Calls -/

/-- A call of the store. -/
inductive PairingCall where
  | register (inviteSecret : Bytes)
  | storeRequest (inviteSecret request : Bytes)
  | getPendingRequest (inviteTag : String)
  | storeResponse (inviteSecret response : Bytes)
  | getResponse (inviteTag : String)
  | sweepExpired
deriving DecidableEq

/-- What it returns or raises. -/
inductive PairingAnswer where
  | done (inviteTag : String)
  | refused (e : PyExc)
  | read (message : Option Bytes)
  | swept (count : Nat)
deriving DecidableEq

namespace PairingStore

/-- The answer of a call that returns the tag it wrote under. -/
def written (r : EStateM.Result PyExc PairingStore String) : PairingAnswer × PairingStore :=
  match r with
  | .ok tag s => (.done tag, s)
  | .error e s => (.refused e, s)

/-- A call at its time. -/
def step (s : PairingStore) : Int × PairingCall → PairingAnswer × PairingStore
  | (now, .register inviteSecret) => written ((register P inviteSecret now).run s)
  | (now, .storeRequest inviteSecret request) =>
      written ((storeRequest P inviteSecret request now).run s)
  | (_, .getPendingRequest inviteTag) => (.read (s.getPendingRequest inviteTag), s)
  | (_, .storeResponse inviteSecret response) =>
      written ((storeResponse P inviteSecret response).run s)
  | (_, .getResponse inviteTag) => (.read (s.getResponse inviteTag), s)
  | (now, .sweepExpired) =>
      match (sweepExpired now).run s with
      | .ok count s' => (.swept count, s')
      | .error e s' => (.refused e, s')

/-! ### What a call does -/

/-- The invite tag of a secret of 32 bytes. -/
def tagOf (inviteSecret : Bytes) : String := b64encode (P.sha256 inviteSecret).1

/-- One call, by what it does to the row of each tag. -/
inductive Change (s : PairingStore) : Int × PairingCall → PairingAnswer → PairingStore → Prop
  | refused {call : Int × PairingCall} {e : PyExc} : Change s call (.refused e) s
  | read {call : Int × PairingCall} {message : Option Bytes} : Change s call (.read message) s
  | registered {now : Int} {secret : Bytes} {s' : PairingStore} :
      secret.length = 32 →
      (s.session (tagOf P secret)).any (·.consumed) = false →
      s'.session (tagOf P secret)
        = some { inviteTag := tagOf P secret, inviteSecret := secret, registeredAt := now } →
      (∀ tag, tagOf P secret ≠ tag → s'.session tag = s.session tag) →
      Change s (now, .register secret) (.done (tagOf P secret)) s'
  | requested {now : Int} {secret request : Bytes} {row : PairingSession} {s' : PairingStore} :
      (s.session (tagOf P secret)).any (·.consumed) = false →
      s'.session (tagOf P secret) = some row → row.request = some request → row.consumed = false →
      (∀ tag, tagOf P secret ≠ tag → s'.session tag = s.session tag) →
      Change s (now, .storeRequest secret request) (.done (tagOf P secret)) s'
  | responded {now : Int} {secret response : Bytes} {row : PairingSession} {s' : PairingStore} :
      s.session (tagOf P secret) = some row → row.consumed = false →
      s'.session (tagOf P secret) = some (row.responded response) →
      (∀ tag, tagOf P secret ≠ tag → s'.session tag = s.session tag) →
      Change s (now, .storeResponse secret response) (.done (tagOf P secret)) s'
  | swept {now : Int} {count : Nat} {s' : PairingStore} :
      (∀ tag row, s.session tag = some row → ¬ row.registeredAt < now - s.ttlMs →
        s'.session tag = some row) →
      Change s (now, .sweepExpired) (.swept count) s'

variable {P} {s : PairingStore} {now : Int} {secret : Bytes}

theorem inviteTagForSecret_ok (h : secret.length = 32) :
    inviteTagForSecret P secret = .ok (tagOf P secret) := by
  rw [inviteTagForSecret, if_neg (not_not.mpr h)]
  rfl

theorem inviteTagForSecret_error (h : secret.length ≠ 32) :
    inviteTagForSecret P secret = .error (.valueError "invite_secret must be 32 bytes") :=
  if_pos h

theorem session_upsertSession_self (tag : String) :
    (s.upsertSession tag secret now).session tag
      = some { inviteTag := tag, inviteSecret := secret, registeredAt := now } := by
  let row : PairingSession := { inviteTag := tag, inviteSecret := secret, registeredAt := now }
  have hfind := @Table.find_merge_self _ _ _ PairingSession.inviteTag row s.sessions
    (.registered secret now) fun _ => rfl
  refine hfind.trans ?_
  cases hrow : Table.find PairingSession.inviteTag row.inviteTag s.sessions with
  | none => rfl
  | some old =>
      have hold : old.inviteTag = tag := Table.find_key hrow
      simp only [PairingSession.registered, hold]

theorem session_upsertSession_of_ne {tag tag' : String} (h : tag ≠ tag') :
    (s.upsertSession tag secret now).session tag' = s.session tag' :=
  Table.find_merge_of_ne (fun _ => rfl) h

/-- An UPDATE that leaves the tag alone. -/
theorem session_updateSession {tag : String} {change : PairingSession → PairingSession}
    {row : PairingSession} (hkey : ∀ r, (change r).inviteTag = r.inviteTag)
    (hrow : s.session tag = some row) :
    (s.updateSession tag change).session tag = some (change row)
      ∧ ∀ tag', tag ≠ tag' → (s.updateSession tag change).session tag' = s.session tag' := by
  refine ⟨?_, fun tag' hne => Table.find_update_of_ne hkey hne⟩
  refine (Table.find_update_self hkey).trans ?_
  rw [session] at hrow
  rw [hrow]
  rfl

/-- A registration under a tag that is not consumed starts a session anew. -/
theorem step_register (h : secret.length = 32)
    (hfree : (s.session (tagOf P secret)).any (·.consumed) = false) :
    step P s (now, .register secret)
      = (.done (tagOf P secret), s.upsertSession (tagOf P secret) secret now) := by
  simp [step, register, h, inviteTagForSecret_ok h, hfree, written]

/-- What a call does. -/
theorem change_step (s : PairingStore) (call : Int × PairingCall) :
    Change P s call (step P s call).1 (step P s call).2 := by
  obtain ⟨now, call⟩ := call
  cases call with
  | register secret =>
      by_cases h : secret.length = 32
      · cases hfree : (s.session (tagOf P secret)).any (·.consumed) with
        | false =>
            rw [step_register h hfree]
            exact .registered h hfree (session_upsertSession_self _)
              fun tag hne => session_upsertSession_of_ne hne
        | true =>
            simp only [step, register, EStateM.run_bind, inviteTagForSecret_ok h, run_orRaise_ok,
              EStateM.run_get, hfree, h, ne_eq, not_true_eq_false, if_false, if_true]
            exact .refused
      · simp only [step, register, EStateM.run_bind, ne_eq, h, not_false_eq_true, if_true]
        exact .refused
  | storeRequest secret request =>
      by_cases h : secret.length = 32
      · simp only [step, storeRequest, EStateM.run_bind, inviteTagForSecret_ok h, run_orRaise_ok,
          EStateM.run_get]
        cases hrow : s.session (tagOf P secret) with
        | none =>
            let row : PairingSession :=
              { inviteTag := tagOf P secret
                inviteSecret := secret
                registeredAt := now
                request := some request }
            have hfree : (s.session (tagOf P secret)).any (·.consumed) = false := by simp [hrow]
            have hself : Table.find PairingSession.inviteTag row.inviteTag (s.sessions ++ [row])
                = some row := Table.find_concat_self hrow
            exact .requested hfree hself rfl rfl fun tag hne => Table.find_concat_of_ne hne
        | some row =>
            cases hconsumed : row.consumed with
            | true =>
                simp only [hconsumed, if_true]
                exact .refused
            | false =>
                obtain ⟨hself, hother⟩ :=
                  @session_updateSession s _ (.requested request) row (fun _ => rfl) hrow
                simp only [hconsumed, Bool.false_eq_true, if_false, EStateM.run_bind,
                  EStateM.run_modify, EStateM.run_pure, written]
                exact .requested (by simp [hrow, hconsumed]) hself rfl hconsumed hother
      · simp only [step, storeRequest, EStateM.run_bind, inviteTagForSecret_error h,
          run_orRaise_error]
        exact .refused
  | getPendingRequest tag => exact .read
  | storeResponse secret response =>
      by_cases h : secret.length = 32
      · simp only [step, storeResponse, EStateM.run_bind, inviteTagForSecret_ok h, run_orRaise_ok,
          EStateM.run_get]
        cases hrow : s.session (tagOf P secret) with
        | none => exact .refused
        | some row =>
            cases hconsumed : row.consumed with
            | true =>
                simp only [hconsumed, if_true]
                exact .refused
            | false =>
                obtain ⟨hself, hother⟩ :=
                  @session_updateSession s _ (.responded response) row (fun _ => rfl) hrow
                simp only [hconsumed, Bool.false_eq_true, if_false, EStateM.run_bind,
                  EStateM.run_modify, EStateM.run_pure, written]
                exact .responded hrow hconsumed hself hother
      · simp only [step, storeResponse, EStateM.run_bind, inviteTagForSecret_error h,
          run_orRaise_error]
        exact .refused
  | getResponse tag => exact .read
  | sweepExpired =>
      refine .swept fun tag row hrow hkept => ?_
      exact Table.find_filter (by simpa using hkept) hrow

end PairingStore
end Yakr
