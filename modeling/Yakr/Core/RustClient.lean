import Yakr.Core.RustSession
import Yakr.Lib.Machine

/-!
# Yakr.Core.RustClient

**The Rust client: `store.rs`, `main.rs` and what they use of `identity.rs`, `mailbox.rs` and
`message.rs`.** A command loads the contact from its file, works on a session, and writes the file
back at its very end. What the relay answers, the clock and what is drawn are arguments.

A panic inside a message ends the command like an error, although `fetch` goes on after an error.
The file of a contact holds the dictionary that `serde_json` reads back, and a disk that fails is
left out. The texts of errors of other crates are parameters.
-/

namespace Yakr

open Lib Effect

namespace Rust

variable (P : Packages)

/-- The texts of the errors of `serde_json` and `base64`. -/
structure ErrorTexts where
  json : Bytes → String
  base64 : String → String

variable (texts : ErrorTexts)

/-! ### Contacts in their files -/

/-- `ContactDict`, with the dictionary of the ratchet where its JSON text stands. -/
structure ContactDict where
  name : String
  signingPublic : String
  agreementPublic : String
  masterSecret : String
  conversationId : String
  nextSendSeq : UInt64
  lastRecvSeq : UInt64
  contactId : Option String
  transcriptHash : Option String
  ratchet : Option RatchetDict
  hybridPq : UInt32
  sessionStartedAt : UInt64
  privacyMode : Option PrivacyMode
  mailboxEpochSecs : UInt64
deriving DecidableEq

/-- `b64decode` of `message.rs`. -/
def decodeBytes (value : String) : Except String Bytes :=
  match base64urlDecode value with
  | some data => .ok data
  | none => .error (texts.base64 value)

/-- A field of 32 bytes. -/
def decodeKey (field value : String) : Except String (BytesN 32) := do
  match arrayOf 32 (← decodeBytes texts value) with
  | some key => return key
  | none => throw field

/-- A field of 32 bytes that may be missing; one that is no key panics. -/
def unwrapKey : Option String → Except String (Option (BytesN 32))
  | none => .ok none
  | some value =>
      match decodeKey texts "" value with
      | .ok key => .ok (some key)
      | .error _ => .error "called `Result::unwrap()` on an `Err` value"

/-- The ratchet of a contact, which may be missing. -/
def readRatchet : Option RatchetDict → Except String (Option RatchetState)
  | none => .ok none
  | some parsed => (RatchetState.fromDict parsed).map some

namespace Contact

/-- `to_dict`. -/
def toDict (c : Contact) : ContactDict :=
  { name := c.name
    signingPublic := b64encode c.signingPublic.1
    agreementPublic := b64encode c.agreementPublic.1
    masterSecret := b64encode c.masterSecret.1
    conversationId := c.conversationId
    nextSendSeq := c.nextSendSeq
    lastRecvSeq := c.lastRecvSeq
    contactId := c.contactId.map fun b => b64encode b.1
    transcriptHash := c.transcriptHash.map fun b => b64encode b.1
    ratchet := c.ratchet.map RatchetState.toDict
    hybridPq := if c.hybridPq then 1 else 0
    sessionStartedAt := c.sessionStartedAt
    privacyMode := if c.privacyMode = .fast then none else some c.privacyMode
    mailboxEpochSecs := c.mailboxEpochSecs }

/-- `from_dict`. -/
def fromDict (dict : ContactDict) : Except String Contact := do
  let ratchet ← readRatchet dict.ratchet
  let signingPublic ← decodeKey texts "signing_public" dict.signingPublic
  let agreementPublic ← decodeKey texts "agreement_public" dict.agreementPublic
  let masterSecret ← decodeKey texts "master_secret" dict.masterSecret
  let contactId ← unwrapKey texts dict.contactId
  let transcriptHash ← unwrapKey texts dict.transcriptHash
  return { name := dict.name
           signingPublic, agreementPublic, masterSecret
           conversationId := dict.conversationId
           nextSendSeq := dict.nextSendSeq
           lastRecvSeq := dict.lastRecvSeq
           contactId, transcriptHash, ratchet
           hybridPq := dict.hybridPq ≠ 0
           sessionStartedAt := dict.sessionStartedAt
           privacyMode := dict.privacyMode.getD .fast
           mailboxEpochSecs := dict.mailboxEpochSecs }

end Contact

/-! ### The home of a client -/

/-- A `FileLocalStore`: the identity, and the files of the contacts by their names. -/
structure Home where
  identity : Option Identity := none
  contacts : List (String × ContactDict) := []

namespace Home

/-- `load_identity` of `main.rs`. -/
def loadIdentity (home : Home) : Except String Identity :=
  match home.identity with
  | some identity => .ok identity
  | none => .error "no identity; run `yakr init` first"

/-- `get_contact`. -/
def getContact (home : Home) (name : String) : Except String (Option Contact) :=
  match Table.find Prod.fst name home.contacts with
  | none => .ok none
  | some file => (Contact.fromDict texts file.2).map some

/-- `save_contact`. -/
def saveContact (contact : Contact) (home : Home) : Home :=
  { home with contacts := Table.upsert Prod.fst (contact.name, contact.toDict) home.contacts }

/-- What every command on a contact loads first. -/
def loadContact (home : Home) (name : String) : Except String (Identity × Contact) := do
  let identity ← home.loadIdentity
  match ← home.getContact texts name with
  | some contact => return (identity, contact)
  | none => throw ("contact not found: " ++ name)

end Home

/-! ### Tags and blobs -/

/-- `candidate_epochs`: the tags of the current epoch and of those before. -/
def candidateEpochs (mailboxSecret : BytesN 32) (direction : String) (now epochSecs : UInt64)
    (lookback : Nat) : Except YakrError (List MailboxTag) := do
  let current ← currentEpoch now epochSecs
  (List.range (lookback + 1)).mapM fun offset =>
    if current.toNat < offset then .error (.other "attempt to subtract with overflow")
    else
      let epoch := current - UInt64.ofNat offset
      .ok { tag := P.hmacSha256 mailboxSecret.1
              (encodeUtf8 (direction ++ "|" ++ toString epoch.toNat))
            epoch, direction }

structure RelayBlobJson where
  mailboxTag : String
  expiresAt : UInt64
  ciphertext : String
deriving DecidableEq, Repr

namespace OuterBlob

/-- `to_relay_json`. -/
def toRelayJson (outer : OuterBlob) : RelayBlobJson :=
  { mailboxTag := b64encode outer.mailboxTag.1
    expiresAt := outer.expiresAt
    ciphertext := b64encode outer.ciphertext }

/-- `from_relay_json`. -/
def fromRelayJson (payload : RelayBlobJson) : Except String OuterBlob := do
  let tag ← decodeBytes texts payload.mailboxTag
  let ciphertext ← decodeBytes texts payload.ciphertext
  match arrayOf 32 tag with
  | some mailboxTag =>
      return { version := 1, mailboxTag, expiresAt := payload.expiresAt, ciphertext }
  | none => throw "mailbox_tag must be 32 bytes"

end OuterBlob

/-- `to_string` of an error. -/
def YakrError.text : YakrError → String
  | contactNotFound name => "contact not found: " ++ name
  | decrypt e => "decrypt failed: " ++ e
  | duplicateSeq => "duplicate message"
  | messageExpired => "message expired"
  | rekeyRequired => "PQ session rekey required"
  | other e => e

/-- The error stands for a panic. -/
def YakrError.isPanic (e : YakrError) : Bool := e = .decrypt "attempt to add with overflow"

/-! ### Commands -/

/-- `yakr send`, with what the POST of a blob comes to. -/
structure SendArgs where
  contact : String
  message : String
  draws : Draws
  post : RelayBlobJson → Except String Unit

/-- `yakr fetch`, with what the GET of each tag comes to, and what each of its blobs draws. -/
structure FetchArgs where
  contact : String
  now : UInt64
  answers : Nat → String → Except String (List RelayBlobJson)
  draws : Nat → Nat → Draws

inductive Command where
  | send (args : SendArgs)
  | fetch (args : FetchArgs)

/-- What a command printed and came to. -/
inductive Report where
  | sent (result : Except String EncryptedMessage)
  | fetched (printed : List InnerMessage) (result : Except String Unit)

/-- `Commands::Send`: the contact is saved when the blob has been posted. -/
def send (home : Home) (args : SendArgs) : Except String (EncryptedMessage × Home) := do
  let (identity, contact) ← home.loadContact texts args.contact
  match openSession contact with
  | .error e => throw e.text
  | .ok _ =>
      match (encryptText P identity args.draws args.message).run contact with
      | .error e _ => throw e.text
      | .ok encrypted contact => do
          args.post encrypted.outerBlob.toRelayJson
          return (encrypted, home.saveContact contact)

/-- A fetch at work: the contact, and what has been printed. -/
structure FetchState where
  contact : Contact
  printed : List InnerMessage := []

abbrev FetchM := EStateM String FetchState

/-- The body of the inner loop of `Commands::Fetch`. -/
def openBlob (draws : Draws) (blob : RelayBlobJson) : FetchM Unit := do
  let outer ← orRaise (OuterBlob.fromRelayJson texts blob)
  let s ← get
  match (decryptOuter P texts.json draws.ratchetPrivate draws.now outer).run s.contact with
  | .ok inner contact => set ({ contact, printed := s.printed ++ [inner] } : FetchState)
  | .error e contact => do
      set { s with contact }
      -- `fetch` goes on after an error, and ends in a panic
      if e.isPanic then throw e.text

/-- The inner loop. -/
def openBlobs (draws : Nat → Draws) : (j : Nat) → List RelayBlobJson → FetchM Unit
  | _, [] => pure ()
  | j, blob :: blobs => do
      openBlob P texts (draws j) blob
      openBlobs draws (j + 1) blobs

/-- The loop over the tags. -/
def fetchTags (args : FetchArgs) : (i : Nat) → List MailboxTag → FetchM Unit
  | _, [] => pure ()
  | i, tag :: tags => do
      let blobs ← orRaise (args.answers i (b64encode tag.tag.1))
      match openSession (← get).contact with
      | .error e => throw e.text
      | .ok _ => do
          openBlobs P texts (args.draws i) 0 blobs
          fetchTags args (i + 1) tags

/-- `Commands::Fetch`: the contact is saved when every tag has been fetched. -/
def fetch (home : Home) (args : FetchArgs) : List InnerMessage × Except String Home :=
  match home.loadContact texts args.contact with
  | .error e => ([], .error e)
  | .ok (identity, contact) =>
      let direction := args.contact ++ "->" ++ identity.name
      match candidateEpochs P (deriveMailboxSecret P contact.masterSecret direction) direction
        args.now contact.mailboxEpochSecs 2 with
      | .error e => ([], .error e.text)
      | .ok tags =>
          match (fetchTags P texts args 0 tags).run { contact } with
          | .error e s => (s.printed, .error e)
          | .ok _ s => (s.printed, .ok (home.saveContact s.contact))

/-- One command, in a process of its own. -/
def runCommand (home : Home) : Command → Report × Home
  | .send args =>
      match send P texts home args with
      | .error e => (.sent (.error e), home)
      | .ok (encrypted, home) => (.sent (.ok encrypted), home)
  | .fetch args =>
      match fetch P texts home args with
      | (printed, .error e) => (.fetched printed (.error e), home)
      | (printed, .ok home) => (.fetched printed (.ok ()), home)

end Rust
end Yakr
