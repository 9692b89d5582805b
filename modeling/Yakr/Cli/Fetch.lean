import Yakr.Cli.Delivery
import Yakr.Lib.Worklist

/-!
# Yakr.Cli.Fetch

**Fetching: `fetch_cmds.py`.** A fetch works on one contact. It sends the receipts that are
queued, polls the tags of the contact one after another and drains what each returns: a blob that
is out of order is tried again as long as something is accepted, other refused blobs are dropped.
An accepted message is handled by its type.

How a receipt is sent is an argument, so that two ways of sending can be compared; the program's
way is `sendDeliveryReceipt`. What a fetch gets from outside is indexed by what it is for: the
answer to a poll by the tag and the address, what an attempt at an item draws and reads by the
tag, the round and the item.
-/

namespace Yakr

open Lib Effect Worklist

variable (P : Packages)

/-- What one attempt at an item draws and reads: a ratchet key, the clock, the nonce of the stored
copy, and the outcome of writing the contact's file. -/
structure Attempt where
  generated : PrivateKey
  now : Int
  nonce : Nonce
  synced : Except PyExc Unit

/-- What comes from outside in the course of one fetch. -/
structure Polls where
  /-- The clock when tags and addresses are listed. -/
  now : Int
  /-- Status and items of a poll of a direct hint. -/
  direct : (tag hint : String) → Except PyExc (Int × List Json)
  /-- Status and items of a poll of a relay. -/
  relay : (tag base : String) → Except PyExc (Int × List Json)
  attempt : (tag round : Nat) → (item : Json) → Attempt
  /-- `console.print`, which reads the text as markup. -/
  console : String → Except PyExc Unit

/-- A fetch in the course of its work on the contact object. -/
structure Fetching where
  world : World
  contact : Contact
  fetched : Nat := 0

abbrev FetchM := EStateM PyExc Fetching

namespace Fetching

/-- A method of the session. -/
def onSession {α : Type} (m : SessionM α) : FetchM α :=
  onPart Fetching.contact (fun f c => { f with contact := c }) m

/-- What is done to the device alone. -/
def onDevice {α : Type} (m : EStateM PyExc World α) : FetchM α :=
  onPart Fetching.world (fun f w => { f with world := w }) m

/-- A method of the store. -/
def onStore {α : Type} (m : FileLocalStore.StoreM α) : FetchM α :=
  onPart (fun f => f.world.store) (fun f store => { f with world := { f.world with store } }) m

/-- `store.save_contact(contact)`. -/
def save : FetchM Unit :=
  modify fun f =>
    { f with world := { f.world with store := f.world.store.saveContact P f.contact } }

end Fetching

open Fetching

/-! ### Routes -/

/-- `resolve_contact_route`: there are no two-hop routes. -/
def resolveContactRoute (_store : FileLocalStore) (_contact : Contact) (_route : Option String)
    (_messageId : String) : Option String := none

/-- `resolve_fetch_route`. -/
def resolveFetchRoute (store : FileLocalStore) (contact : Contact) (route : Option String) :
    Option String :=
  match route with
  | none => resolveContactRoute store contact none "fetch"
  | some "auto" => resolveContactRoute store contact (some "auto") "fetch"
  | some route => some route

/-! ### What a tag returns -/

/-- The items of the direct hints and the relays under a tag. -/
def polledItems (polls : Polls) (tag : String) (bases hints : List String) :
    Except PyExc (List Json) := do
  let direct ← outcome
    ((fetchDirectBlobs (fun hint => orRaise (polls.direct tag hint)) hints).run ())
  let relayed ← outcome
    ((fetchRelayBlobs P (fun base => orRaise (polls.relay tag base)) ([], []) bases).run ())
  return direct ++ relayed

/-- `int(blob.get("stored_at", 0))`. -/
def storedAt (item : Json) : Except PyExc Int := do
  pyInt P ((← dictGet item "stored_at").getD (.int 0))

/-- `queue.sort(key=lambda blob: int(blob.get("stored_at", 0)))`. -/
def sortQueue (items : List Json) : Except PyExc (List Json) := do
  let keyed ← items.mapM fun item => do return (← storedAt P item, item)
  return (orderBy Prod.fst keyed).map Prod.snd

/-- The work queue of a tag: each ciphertext once, by arrival at the relay. -/
def queueOf (polls : Polls) (tag : String) (bases hints : List String) :
    Except PyExc (List Json) := do
  let items ← polledItems P polls tag bases hints
  sortQueue P (← addUnseen P ([], []) items).1

/-! ### Messages -/

/-- `_refresh_contact_send_state`. -/
def refreshContactSendState : FetchM Unit := do
  let f ← get
  match ← orRaise (f.world.store.getContact P f.contact.name) with
  | none => return
  | some persisted =>
      modify fun f =>
        { f with
          contact :=
            { f.contact with nextSendSeq := persisted.nextSendSeq, ratchet := persisted.ratchet } }

/-- A line for the user. -/
def report (polls : Polls) (quiet : Bool) (text : String) : FetchM Unit :=
  if quiet then pure () else orRaise (polls.console text)

/-- A profile: an update that is refused, or cannot be shown, with a `ValueError` still takes its
number. -/
def handleProfile (polls : Polls) (contactName : String) (quiet : Bool) (now : Int)
    (inner : InnerMessage) : FetchM Unit := do
  let profile ← orRaise (DeliveryProfile.fromB64 P inner.body)
  let contact := (← get).contact
  match applyDeliveryProfileUpdate P contact profile contact.signingPublic now with
  | .ok contact =>
      modify fun f => { f with contact }
      -- the line is shown inside the `try` as well
      tryCatch
        (report polls quiet ("[green]Updated delivery profile for " ++ contactName ++ " (v"
          ++ toString profile.version ++ ")[/green]"))
        fun e => if e.isValueError then pure () else throw e
  | .error e => if !e.isValueError then throw e
  save P

/-- `apply_presence_message`. -/
def applyPresenceMessage (contact : Contact) (inner : InnerMessage) (now : Int) :
    FileLocalStore.StoreM (Option PresencePayload) := do
  if !inner.type.isPresence then return none
  let payload ← orRaise (PresencePayload.fromB64 P inner.body)
  if payload.operatorName ≠ contact.name then
    throw (.yakr .yakrError ("presence operator '" ++ payload.operatorName
      ++ "' does not match contact '" ++ contact.name ++ "'"))
  if !isPresenceFresh payload now then return none
  set (← orRaise ((← get).savePresence payload))
  return some payload

/-- A value bound to a text column; lists and objects cannot be. -/
def sqlText : Json → Except PyExc String
  | .int n => do
      sqlInteger n
      return toString n
  | .bool true => .ok "1"
  | .bool false => .ok "0"
  | .arr _ => .error (.other "ProgrammingError")
  | .obj _ => .error (.other "ProgrammingError")
  | v => .ok (pyStr P v)

/-- `value[:12]` of a decoded value. -/
def firstTwelve : Json → Except PyExc String
  | .str s => .ok (String.ofList (s.toList.take 12))
  | _ => .error (.typeError "object is not subscriptable")

/-- A receipt: `apply_inbound_delivery_receipt` and `record_profile_ack_on_receipt`. -/
def handleReceipt (polls : Polls) (contactName : String) (quiet : Bool) (inner : InnerMessage) :
    FetchM Unit := do
  let id ← orRaise (sqlText P inner.messageId)
  let deleted := (← get).world.store.hasOutbound contactName id
  onStore (modify (FileLocalStore.markOutboundDelivered contactName id))
  if deleted && !quiet then
    let shown ← orRaise (firstTwelve inner.messageId)
    report polls quiet ("[green]Delivery receipt for " ++ shown ++ "…[/green]")
  match (← get).world.store.findProfileAckPending contactName id with
  | none => pure ()
  | some (profileVersion, relayNames) =>
      onStore (modify (FileLocalStore.deleteProfileAckPending contactName id))
      modify fun f =>
        { f with contact := applyPeerProfileAckPending f.contact profileVersion relayNames }
  save P

/-- How receipts are sent. -/
abbrev Sender :=
  (contactName deliveredId : String) → (route : Option String) → EStateM PyExc World Bool

/-- A text: it is committed with the receipt to send, then the receipt is sent. -/
def handleText (send : Sender) (polls : Polls) (identity : Identity) (contactName : String)
    (route : Option String) (quiet : Bool) (attempt : Attempt) (outer : OuterBlob)
    (inner : InnerMessage) : FetchM Unit := do
  let deliveredId := messageId P outer.ciphertext
  let f ← get
  let receiptRoute := resolveContactRoute f.world.store f.contact route deliveredId
  onStore (FileLocalStore.atomicCommitReceiveText P identity attempt.nonce attempt.synced
    f.contact inner (some deliveredId) receiptRoute attempt.now)
  report polls quiet ("[cyan]" ++ contactName ++ "[/cyan]: " ++ inner.body)
  modify fun f => { f with fetched := f.fetched + 1 }
  let sent ← onDevice (send contactName deliveredId receiptRoute)
  if !sent then
    report polls quiet ("[yellow]Receipt for " ++ String.ofList (deliveredId.toList.take 12)
      ++ "… queued (relay unreachable)[/yellow]")
  refreshContactSendState P
  save P

/-- A message that is neither a profile with a body nor a presence that was applied. -/
def handleOther (send : Sender) (polls : Polls) (identity : Identity) (contactName : String)
    (route : Option String) (quiet : Bool) (attempt : Attempt) (outer : OuterBlob)
    (inner : InnerMessage) : FetchM Unit :=
  if inner.type.isReceipt && pyBool P inner.messageId then
    handleReceipt P polls contactName quiet inner
  else if inner.type.isText then
    handleText P send polls identity contactName route quiet attempt outer inner
  else pure ()

/-- What `fetch_contact_inbound` does with an accepted message. -/
def handleInner (send : Sender) (polls : Polls) (identity : Identity) (contactName : String)
    (route : Option String) (quiet : Bool) (attempt : Attempt) (outer : OuterBlob)
    (inner : InnerMessage) : FetchM Unit := do
  if inner.type.isProfile && decide (inner.body ≠ "") then
    handleProfile P polls contactName quiet attempt.now inner
  else
    let contact := (← get).contact
    match ← tryCatch (onStore (applyPresenceMessage P contact inner attempt.now))
        fun e => if e.isYakrError then pure none else throw e with
    | some payload =>
        save P
        report polls quiet ("[green]Updated presence for " ++ payload.operatorName ++ " → "
          ++ payload.reachableUrl ++ "[/green]")
    | none => handleOther P send polls identity contactName route quiet attempt outer inner

/-- `decrypt_inbound`, and what becomes of a blob it refuses. -/
def openBlob (attempt : Attempt) (outer : OuterBlob) : FetchM (Except Verdict InnerMessage) :=
  tryCatch (.ok <$> onSession (decryptInbound P attempt.generated attempt.now outer)) fun e =>
    if e.isDuplicateSeqError then pure (.error .later)
    else if e.isYakrError then pure (.error .drop)
    else throw e

/-- One item of a queue. -/
def handleItem (send : Sender) (polls : Polls) (identity : Identity) (contactName : String)
    (route : Option String) (quiet : Bool) (tag round : Nat) (item : Json) : FetchM Verdict := do
  let outer ← orRaise (OuterBlob.fromRelayJson P item)
  let attempt := polls.attempt tag round item
  match ← openBlob P attempt outer with
  | .error verdict => return verdict
  | .ok inner =>
      modify fun f =>
        { f with world := { f.world with accepted := f.world.accepted ++ [inner] } }
      handleInner P send polls identity contactName route quiet attempt outer inner
      return .done

/-! ### The fetch -/

/-- The loop over the tags. -/
def drainTags (send : Sender) (polls : Polls) (identity : Identity) (contactName : String)
    (route : Option String) (quiet : Bool) (bases hints : List String) :
    (tag : Nat) → List MailboxTag → FetchM Unit
  | _, [] => pure ()
  | tag, mailboxTag :: tags => do
      let queue ← orRaise (queueOf P polls mailboxTag.tagB64 bases hints)
      work (handleItem P send polls identity contactName route quiet tag) queue
      drainTags send polls identity contactName route quiet bases hints (tag + 1) tags

/-- What the tags of a contact are polled with: the tags, the relays and the direct hints. -/
structure Plan where
  tags : List MailboxTag
  bases : List String
  hints : List String

/-- The tags and addresses of a fetch. -/
def planOf (env : Settings) (polls : Polls) (identity : Identity) (contact : Contact)
    (route : Option String) (wide : Bool) (store : FileLocalStore) : Except PyExc Plan := do
  let deriver := mailboxDeriver P identity contact false
  let direction := recvDirection identity contact
  let tags ← fetchTagsForMode P deriver polls.now direction contact.privacyMode
    (deriveMailboxSecret P contact.masterSecret direction)
  let bases ← fetchMailboxUrls P env contact (resolveFetchRoute store contact route) store wide
    polls.now
  return { tags, bases, hints := (contact.deliveryProfile.map (·.directHints)).getD [] }

/-- What a fetch does before it polls: the queued receipts are sent, and the tags and addresses
listed. -/
def openFetch (send : Sender) (env : Settings) (polls : Polls) (identity : Identity)
    (contactName : String) (route : Option String) (wide quiet : Bool) (contact : Contact) :
    EStateM PyExc World Plan := do
  orRaise (openSession contact)
  let flushed ← flushReceipts send route
    ((← get).store.listPendingReceipts (some contactName))
  if flushed ≠ 0 && !quiet then
    orRaise (polls.console ("[green]Flushed " ++ toString flushed
      ++ " queued delivery receipt(s) for " ++ contactName ++ "[/green]"))
  orRaise (planOf P env polls identity contact route wide (← get).store)

/-- The poll of a plan on the contact object, on the device. -/
def drainPlan (send : Sender) (polls : Polls) (identity : Identity) (contactName : String)
    (route : Option String) (quiet : Bool) (contact : Contact) (plan : Plan) :
    EStateM PyExc World Nat := fun w =>
  match (drainTags P send polls identity contactName route quiet plan.bases plan.hints 0
      plan.tags).run { world := w, contact } with
  | .ok () f => .ok f.fetched f.world
  | .error e f => .error e f.world

/-- `fetch_contact_inbound` with a way of sending receipts. -/
def fetchWith (send : Sender) (env : Settings) (polls : Polls) (identity : Identity)
    (contactName : String) (route : Option String) (wide quiet : Bool) :
    EStateM PyExc World Nat := do
  match ← orRaise ((← get).store.getContact P contactName) with
  | none => throw (.yakr .contactNotFound ("unknown contact: " ++ contactName))
  | some contact =>
      let plan ← openFetch P send env polls identity contactName route wide quiet contact
      drainPlan P send polls identity contactName route quiet contact plan

/-- `fetch_contact_inbound`. -/
def fetchContactInbound (outside : Outside) (polls : Polls) (identity : Identity)
    (contactName : String) (route : Option String) (wide quiet : Bool) :
    EStateM PyExc World Nat :=
  fetchWith P (sendDeliveryReceipt P outside identity) outside.env polls identity contactName route
    wide quiet

/-- `str(exc)` of a `ValueError`. -/
def valueErrorText : PyExc → String
  | .valueError msg => msg
  | _ => ""

/-- The loop of `fetch_all_contacts`: the messages fetched and the contacts that had some. -/
def fetchContacts (outside : Outside) (polls : String → Polls) (identity : Identity)
    (route : Option String) (wide : Bool) : List String → EStateM PyExc World (Nat × Nat)
  | [] => return (0, 0)
  | contactName :: contactNames => do
      let console := (polls contactName).console
      let count ← tryCatch
        (some <$> fetchContactInbound P outside (polls contactName) identity contactName route wide
          false)
        fun e => do
          if !e.isValueError then throw e
          orRaise (console ("[yellow]Skipped " ++ contactName ++ ": " ++ valueErrorText e
            ++ "[/yellow]"))
          return none
      if count = some 0 then
        orRaise (console ("[dim]No new messages from " ++ contactName ++ "[/dim]"))
      let (messages, contacts) ← fetchContacts outside polls identity route wide contactNames
      let fetched := count.getD 0
      return (messages + fetched, contacts + if fetched = 0 then 0 else 1)

/-- `fetch_all_contacts`. -/
def fetchAllContacts (outside : Outside) (polls : String → Polls) (identity : Identity)
    (route : Option String) (wide : Bool) (now : Int) : EStateM PyExc World (Nat × Nat) := do
  modify fun w => { w with store := w.store.sweepExpiredMessages now }
  modify fun w => { w with store := w.store.sweepExpiredOutbound now }
  fetchContacts P outside polls identity route wide (← get).store.listContacts

end Yakr
