import Yakr.Cli.Network

/-!
# Yakr.Cli.Delivery

**Delivering a blob: `network.py`.** A delivery works on a contact object and on the store. It
may replace the contact's profile by one that a direct hint serves, and saves the contact then.
It tries the direct hints and the relays one after another until one takes the blob.

What a POST answers is outside the program, and so is whether the server kept the blob: a server
may keep a blob and its answer may get lost. Ticket and capability headers are part of the
exchange here, so what goes wrong while they are made is part of its outcome.
-/

namespace Yakr

open Lib Effect

variable (P : Packages)

/-- A POST of a blob: where it went and whether the server kept it. -/
structure Posted where
  address : String
  blob : OuterBlob
  stored : Bool
deriving DecidableEq

/-- One device: its store, how many exchanges and encryptions it has made, what it has posted, the
messages it has accepted, and the delivery receipts that were delivered. -/
structure World where
  store : FileLocalStore
  exchanges : Nat := 0
  encryptions : Nat := 0
  posted : List Posted := []
  accepted : List InnerMessage := []
  receipted : List (String × String) := []

/-- A device in the course of work on a contact object. -/
structure Handling where
  world : World
  contact : Contact

/-- What comes from outside: the environment, the answers to the exchanges by their number, and
what the encryptions draw. -/
structure Outside where
  env : Settings
  /-- Status and decoded body of a GET of `/v1/profile`. -/
  profileAnswer : Nat → (hint : String) → Except PyExc (Int × Json)
  /-- Whether the server keeps the blob, and the status the client sees. -/
  postAnswer : Nat → (address : String) → Bool × Except PyExc Int
  draws : Nat → Draws

/-- A method that works on a contact object. -/
abbrev HandlingM := EStateM PyExc Handling

/-- A method of the session of the contact. -/
def onContact {α : Type} (m : SessionM α) : HandlingM α :=
  onPart Handling.contact (fun h c => { h with contact := c }) m

/-- What is done to the device alone. -/
def onWorld {α : Type} (m : EStateM PyExc World α) : HandlingM α :=
  onPart Handling.world (fun h w => { h with world := w }) m

/-- A change of the store. -/
def changeStore (f : FileLocalStore → FileLocalStore) : HandlingM Unit :=
  modify fun h => { h with world := { h.world with store := f h.world.store } }

/-- `store.save_contact(contact)`. -/
def saveHandled : HandlingM Unit :=
  modify fun h =>
    { h with world := { h.world with store := h.world.store.saveContact P h.contact } }

/-- A method on an object of its own, which nothing refers to after the call. -/
def withContact {α : Type} (contact : Contact) (m : HandlingM α) : EStateM PyExc World α :=
  fun w =>
    match m.run { world := w, contact } with
    | .ok a h => .ok a h.world
    | .error e h => .error e h.world

/-! ### Profiles from direct hints -/

/-- `except (httpx.HTTPError, ValueError, KeyError)`. -/
def isProfileError : PyExc → Bool
  | .httpError _ => true
  | .valueError _ => true
  | .keyError _ => true
  | _ => false

/-- The profile of an answer of `/v1/profile`, if its status is 200. -/
def profileOfAnswer (signingPublic : Bytes) (status : Int) (body : Json) :
    Except PyExc (Option DeliveryProfile) :=
  if status ≠ 200 then .ok none
  else do
    match ← subscript body "profile" with
    | .str text =>
        let profile ← DeliveryProfile.fromB64 P text
        verifyDeliveryProfile P profile signingPublic
        return some profile
    | _ => throw (.typeError "unsupported operand type")

/-- The next exchange. -/
def nextExchange : HandlingM Nat := do
  let n := (← get).world.exchanges
  modify fun h => { h with world := { h.world with exchanges := h.world.exchanges + 1 } }
  return n

/-- `fetch_remote_profile`. -/
def fetchRemoteProfile (outside : Outside) (signingPublic : Bytes) :
    List String → HandlingM (Option DeliveryProfile)
  | [] => return none
  | hint :: hints => do
      let n ← nextExchange
      let found ← tryCatch
        (orRaise do
          let (status, body) ← outside.profileAnswer n (rstripSlash hint)
          profileOfAnswer P signingPublic status body)
        fun e => if isProfileError e then pure none else throw e
      match found with
      | some profile => return some profile
      | none => fetchRemoteProfile outside signingPublic hints

/-- `refresh_contact_profile`. -/
def refreshContactProfile (outside : Outside) (now : Int) : HandlingM Bool := do
  let contact := (← get).contact
  match contact.deliveryProfile with
  | none => return false
  | some profile =>
      if !profileIsExpired profile now then return false
      else
        match ← fetchRemoteProfile P outside contact.signingPublic profile.directHints with
        | none => return false
        | some refreshed =>
            modify fun h => { h with contact := { h.contact with deliveryProfile := some refreshed } }
            saveHandled P
            return true

/-! ### Delivery -/

/-- How a blob was taken. -/
inductive Delivery where
  | direct
  | relay (address : String)
deriving DecidableEq

/-- A POST of a blob. -/
def postBlob (outside : Outside) (blob : OuterBlob) (address : String) : HandlingM Int := do
  let n ← nextExchange
  let (stored, answer) := outside.postAnswer n address
  modify fun h =>
    { h with world := { h.world with posted := h.world.posted ++ [{ address, blob, stored }] } }
  orRaise answer

/-- `send_encrypted`. -/
def sendEncrypted (outside : Outside) (blob : OuterBlob) (relayUrl : String) : HandlingM Unit := do
  let status ← postBlob outside blob (rstripSlash relayUrl)
  if status ≠ 201 then throw (.runtimeError ("relay store failed: " ++ toString status))

/-- The loop of `deliver_encrypted` over the relays: the one that took the blob. -/
def tryRelays (outside : Outside) (blob : OuterBlob) : List String → HandlingM (Option String)
  | [] => return none
  | relayUrl :: relayUrls => do
      let sent ← tryCatch
        (do
          sendEncrypted outside blob relayUrl
          return true)
        fun e => if e.isDeliveryError then pure false else throw e
      if sent then return some relayUrl else tryRelays outside blob relayUrls

/-- The direct part of `deliver_encrypted`. -/
def deliverDirect (outside : Outside) (blob : OuterBlob) (allowDirect : Bool) :
    HandlingM Bool := do
  match (← get).contact.deliveryProfile with
  | some profile =>
      if allowDirect then tryDirectDelivery (postBlob outside blob) profile.directHints
      else return false
  | none => return false

/-- `deliver_encrypted`; a call that delivers to an explicit route may call itself any number of
times, up to the recursion limit. -/
def deliverEncrypted (outside : Outside) (blob : OuterBlob) (route : Option String)
    (allowDirect : Bool) (now : Int) : (depth : Nat) → (retryOnStale : Bool) → HandlingM Delivery
  | 0, _ => throw (.runtimeError "maximum recursion depth exceeded")
  | depth + 1, retryOnStale => do
      if retryOnStale then
        let _ ← refreshContactProfile P outside now
      if ← deliverDirect outside blob allowDirect then return .direct
      let h ← get
      let _ ← orRaise (h.world.store.loadLocalProfile P)
      let resolvedRoute := if route = some "auto" then none else route
      let relayUrls ← orRaise
        (deliveryMailboxUrls P outside.env h.contact resolvedRoute (some h.world.store) now)
      match resolvedRoute with
      | some _ =>
          let relayUrl := relayUrls.headD ""
          tryCatch
            (do
              sendEncrypted outside blob relayUrl
              return .relay relayUrl)
            fun e => do
              if !e.isRuntimeError then throw e
              if ← refreshContactProfile P outside now then
                deliverEncrypted outside blob route allowDirect now depth false
              else throw e
      | none =>
          match ← tryRelays outside blob relayUrls with
          | some relayUrl => return .relay relayUrl
          | none =>
              let refreshed ←
                if retryOnStale then refreshContactProfile P outside now else pure false
              if refreshed then
                deliverEncrypted outside blob route allowDirect now depth false
              else
                throw (.runtimeError
                  ("all relay delivery attempts failed for " ++ h.contact.name))

/-- The recursion limit of the interpreter, in calls of `deliver_encrypted`. -/
def recursionLimit : Nat := 1000

/-! ### Delivery receipts: `receipt_cmds.py` -/

/-- `_ratchet_snapshot`. -/
def ratchetSnapshot : SessionM RatchetDict := do
  match (← get).ratchet with
  | none => throw (.valueError "contact missing ratchet state")
  | some ratchet => return ratchet.toDict

/-- The part of `send_delivery_receipt` that has loaded the contact. The ratchet is put back after
the encryption, also when the receipt is delivered. -/
def sendReceipt (outside : Outside) (identity : Identity) (draws : Draws)
    (contactName deliveredId : String) (route : Option String) : HandlingM Bool := do
  orRaise (openSession (← get).contact)
  let snapshot ← onContact ratchetSnapshot
  let sendSeqBefore := (← get).contact.nextSendSeq
  let receipt ← onContact (encryptReceipt P identity draws deliveredId)
  onContact (rollbackRatchet snapshot)
  saveHandled P
  tryCatch
    (do
      let _ ← deliverEncrypted P outside receipt.outerBlob none false draws.now recursionLimit true
      changeStore (FileLocalStore.deletePendingReceipt contactName deliveredId)
      modify fun h =>
        { h with
          world :=
            { h.world with receipted := h.world.receipted ++ [(contactName, deliveredId)] } }
      return true)
    fun e =>
      if e.isDeliveryError then do
        onContact (rollbackRatchet snapshot)
        modify fun h => { h with contact := { h.contact with nextSendSeq := sendSeqBefore } }
        saveHandled P
        changeStore (FileLocalStore.savePendingReceipt contactName deliveredId route draws.now)
        return false
      else throw e

/-- `send_delivery_receipt`. -/
def sendDeliveryReceipt (outside : Outside) (identity : Identity) (contactName deliveredId : String)
    (route : Option String) : EStateM PyExc World Bool := do
  let w ← get
  let draws := outside.draws w.encryptions
  modify fun w => { w with encryptions := w.encryptions + 1 }
  match ← orRaise (w.store.getContact P contactName) with
  | none => throw (.valueError ("unknown contact: " ++ contactName))
  | some contact =>
      withContact contact (sendReceipt P outside identity draws contactName deliveredId route)

/-- The loop of `flush_pending_receipts`, with how receipts are sent. -/
def flushReceipts (send : (contactName deliveredId : String) → (route : Option String) →
      EStateM PyExc World Bool) (route : Option String) :
    List PendingReceipt → EStateM PyExc World Nat
  | [] => return 0
  | pending :: rest => do
      let sent ← send pending.contactName pending.deliveredId
        (if route.isSome then route else pending.route)
      let others ← flushReceipts send route rest
      return others + if sent then 1 else 0

end Yakr
