import Yakr.Core.Plain
import Yakr.Core.RustClient
import Yakr.Session.RustFailures

/-!
# Yakr.Cli.RustRuns

**Runs of the Rust client.** A command writes a contact's file once, at its end, so a command that
fails has done nothing, whatever it printed and posted before. What is stored is then the work of
the commands that succeeded, and their numbers follow each other: each successful `send` has the
next number of the contact, and the successful `fetch`es report every number of the peer once and
in order. A failing `fetch` may have printed numbers that a later one prints again, and a failing
`send` may have posted a message whose number the next one has as well.
-/

namespace Yakr
namespace Rust

open Lib Effect Machine

variable {P : Packages} {texts : ErrorTexts}

/-! ### Files are read back -/

theorem decodeKey_b64encode (field : String) (key : BytesN 32) :
    decodeKey texts field (b64encode key.1) = .ok key := by
  unfold decodeKey decodeBytes
  rw [base64urlDecode_b64encode]
  simp only [ok_bind, RatchetState.arrayOf_val]
  rfl

theorem unwrapKey_map (key : Option (BytesN 32)) :
    unwrapKey texts (key.map fun b => b64encode b.1) = .ok key := by
  cases key with
  | none => rfl
  | some key =>
      unfold unwrapKey
      simp only [Option.map_some, decodeKey_b64encode]

theorem readRatchet_map (ratchet : Option RatchetState) :
    readRatchet (ratchet.map RatchetState.toDict) = .ok ratchet := by
  cases ratchet with
  | none => rfl
  | some ratchet =>
      unfold readRatchet
      simp only [Option.map_some, RatchetState.fromDict_toDict]
      rfl

/-- A contact is read back from its file. -/
theorem Contact.fromDict_toDict (c : Contact) : Contact.fromDict texts c.toDict = .ok c := by
  have hmode : (if c.privacyMode = .fast then none else some c.privacyMode).getD .fast
      = c.privacyMode := by
    cases c.privacyMode <;> rfl
  have hhybrid : decide ((if c.hybridPq then (1 : UInt32) else 0) ≠ 0) = c.hybridPq := by
    cases c.hybridPq <;> rfl
  unfold Contact.fromDict Contact.toDict
  dsimp only
  rw [readRatchet_map, decodeKey_b64encode, decodeKey_b64encode, decodeKey_b64encode, unwrapKey_map,
    unwrapKey_map, hmode, hhybrid]
  rfl

namespace Home

/-- Every file is named like its contact. -/
def Named (home : Home) : Prop := ∀ file ∈ home.contacts, file.2.name = file.1

variable {home : Home} {name : String} {c : Contact} {identity : Identity}

theorem Named.saveContact (h : home.Named) (c : Contact) : (home.saveContact c).Named := by
  intro file hfile
  rcases Table.mem_upsert.mp hfile with ⟨hold, -⟩ | rfl
  · exact h file hold
  · rfl

theorem getContact_saveContact_self (c : Contact) :
    (home.saveContact c).getContact texts c.name = .ok (some c) := by
  have hfind : Table.find Prod.fst (Prod.fst (c.name, c.toDict))
      (Table.upsert Prod.fst (c.name, c.toDict) home.contacts) = some (c.name, c.toDict) :=
    Table.find_upsert_self
  unfold getContact saveContact
  dsimp only at hfind ⊢
  rw [hfind]
  dsimp only
  rw [Contact.fromDict_toDict]
  rfl

theorem getContact_saveContact_of_ne (hne : c.name ≠ name) :
    (home.saveContact c).getContact texts name = home.getContact texts name := by
  have hfind : Table.find Prod.fst name (home.saveContact c).contacts
      = Table.find Prod.fst name home.contacts := Table.find_upsert_of_ne hne
  unfold getContact
  rw [hfind]

theorem name_of_fromDict {dict : ContactDict} (h : Contact.fromDict texts dict = .ok c) :
    c.name = dict.name := by
  unfold Contact.fromDict at h
  obtain ⟨ratchet, -, h⟩ := bind_ok.mp h
  obtain ⟨signingPublic, -, h⟩ := bind_ok.mp h
  obtain ⟨agreementPublic, -, h⟩ := bind_ok.mp h
  obtain ⟨masterSecret, -, h⟩ := bind_ok.mp h
  obtain ⟨contactId, -, h⟩ := bind_ok.mp h
  obtain ⟨transcriptHash, -, h⟩ := bind_ok.mp h
  cases h
  rfl

theorem Named.name_eq (h : home.Named) (hc : home.getContact texts name = .ok (some c)) :
    c.name = name := by
  unfold getContact at hc
  cases hfind : Table.find Prod.fst name home.contacts with
  | none =>
      rw [hfind] at hc
      cases hc
  | some file =>
      rw [hfind] at hc
      dsimp only at hc
      cases hdict : Contact.fromDict texts file.2 with
      | error e =>
          rw [hdict] at hc
          cases hc
      | ok c' =>
          rw [hdict] at hc
          cases hc
          exact (name_of_fromDict hdict).trans
            ((h file (Table.find_mem hfind)).trans (Table.find_key hfind))

theorem loadContact_ok (h : home.loadContact texts name = .ok (identity, c)) :
    home.getContact texts name = .ok (some c) := by
  unfold loadContact at h
  obtain ⟨identity', -, h⟩ := bind_ok.mp h
  obtain ⟨found, hfound, h⟩ := bind_ok.mp h
  cases found with
  | none => cases h
  | some c' =>
      cases h
      exact hfound

end Home

/-! ### Numbers that follow each other -/

/-- The numbers run from one counter to another. -/
def Counts (start stop : Nat) (numbers : List Nat) : Prop :=
  numbers = List.range' start numbers.length ∧ stop = start + numbers.length

theorem Counts.nil (n : Nat) : Counts n n [] := ⟨rfl, rfl⟩

theorem Counts.append {a b c : Nat} {xs ys : List Nat} (h : Counts a b xs) (h' : Counts b c ys) :
    Counts a c (xs ++ ys) := by
  obtain ⟨hxs, rfl⟩ := h
  obtain ⟨hys, rfl⟩ := h'
  refine ⟨?_, by rw [List.length_append, Nat.add_assoc]⟩
  calc xs ++ ys = List.range' a xs.length ++ List.range' (a + xs.length) ys.length := by
        rw [← hxs, ← hys]
    _ = List.range' a (xs ++ ys).length := by
        rw [List.length_append]
        exact List.range'_append_1

/-- A conversation has gone on: what was sent and what was received is numbered without a gap, from
the counters of the contact to those that it has then. -/
structure Follows (c : Contact) (sent received : List Nat) (c' : Contact) : Prop where
  name : c'.name = c.name
  conversationId : c'.conversationId = c.conversationId
  masterSecret : c'.masterSecret = c.masterSecret
  sent : Counts c.nextSendSeq.toNat c'.nextSendSeq.toNat sent
  received : Counts (c.lastRecvSeq.toNat + 1) (c'.lastRecvSeq.toNat + 1) received

theorem Follows.refl (c : Contact) : Follows c [] [] c where
  name := rfl
  conversationId := rfl
  masterSecret := rfl
  sent := .nil _
  received := .nil _

theorem Follows.trans {c c' c'' : Contact} {sent sent' received received' : List Nat}
    (h : Follows c sent received c') (h' : Follows c' sent' received' c'') :
    Follows c (sent ++ sent') (received ++ received') c'' where
  name := h'.name.trans h.name
  conversationId := h'.conversationId.trans h.conversationId
  masterSecret := h'.masterSecret.trans h.masterSecret
  sent := h.sent.append h'.sent
  received := h.received.append h'.received

/-! ### What is sent -/

section Send

variable {identity : Identity} {draws : Draws} {body : String} {c c' : Contact}
  {encrypted : EncryptedMessage}

theorem addU64_one {n m : UInt64} (h : addU64 n 1 = .ok m) : m.toNat = n.toNat + 1 := by
  unfold addU64 at h
  have hone : (1 : UInt64).toNat = 1 := rfl
  by_cases hlt : n.toNat + (1 : UInt64).toNat < 2 ^ 64
  · rw [if_pos hlt] at h
    obtain rfl := Except.ok.inj h
    rw [UInt64.toNat_add, hone]
    omega
  · rw [if_neg hlt] at h
    cases h

theorem requireFreshSession_ok {now : UInt64} {u : Unit}
    (h : (requireFreshSession now).run c = .ok u c') : c' = c := by
  unfold requireFreshSession at h
  rw [run_get_bind] at h
  split at h
  · cases h
  · cases h
    rfl

/-- Sealing works on the ratchet. -/
theorem encryptInner_ok {inner : InnerMessage} {result : Bytes × Nat}
    (h : (encryptInner P draws inner).run c = .ok result c') :
    ∃ ratchet, c' = { c with ratchet := ratchet } := by
  unfold encryptInner at h
  rw [run_get_bind] at h
  cases hpad : padPlaintext inner.toBytes c.privacyMode with
  | error e =>
      rw [hpad] at h
      cases h
  | ok padded =>
      rw [hpad] at h
      obtain ⟨ciphertext, s, hratchet, h⟩ := run_bind_ok.mp h
      cases h
      cases hr : c.ratchet with
      | none =>
          rw [onRatchet_none _ _ hr] at hratchet
          cases hratchet
      | some r =>
          rw [onRatchet_run _ _ hr] at hratchet
          split at hratchet
          · cases hratchet
            exact ⟨_, rfl⟩
          · cases hratchet

/-- A text gets the next number. -/
theorem encryptText_ok (h : (encryptText P identity draws body).run c = .ok encrypted c') :
    Follows c [encrypted.innerMessage.seq.toNat] [] c' := by
  unfold encryptText at h
  obtain ⟨u, s, hfresh, hsends⟩ := run_bind_ok.mp h
  rw [requireFreshSession_ok hfresh, run_get_bind] at hsends
  obtain ⟨sealed, t, hsealed, hwraps⟩ := run_bind_ok.mp hsends
  obtain ⟨ratchet, ht⟩ := encryptInner_ok hsealed
  rw [ht] at hwraps
  dsimp only at hwraps
  rw [run_get_bind] at hwraps
  dsimp only at hwraps
  obtain ⟨tag, -, houter⟩ := run_orRaise_bind_ok.mp hwraps
  obtain ⟨outer, -, hcounts⟩ := run_orRaise_bind_ok.mp houter
  obtain ⟨nextSendSeq, hnext, hlast⟩ := run_orRaise_bind_ok.mp hcounts
  rw [run_modify_bind] at hlast
  cases hlast
  exact
    { name := rfl
      conversationId := rfl
      masterSecret := rfl
      sent := ⟨rfl, addU64_one hnext⟩
      received := .nil _ }

end Send

/-! ### What is received -/

section Fetch

/-- What passes the checks has the next number. -/
theorem next_of_checkPlaintext {jsonError : Bytes → String} {c : Contact} {now : UInt64}
    {padded : Bytes} {inner : InnerMessage}
    (h : checkPlaintext jsonError c now padded = .ok inner) :
    inner.seq.toNat = c.lastRecvSeq.toNat + 1 := by
  unfold checkPlaintext at h
  cases hplain : decodePaddedPlaintext padded c.privacyMode with
  | error e =>
      rw [hplain] at h
      cases h
  | ok plaintext =>
      rw [hplain] at h
      dsimp only at h
      cases hread : InnerMessage.fromBytes plaintext with
      | none =>
          rw [hread] at h
          cases h
      | some read =>
          rw [hread] at h
          dsimp only at h
          split_ifs at h with hconversation hduplicate hnext
          have hseq := not_not.mp hnext
          have hread : read = inner := by
            cases htime : enforceMessageTtl read.validUntil now with
            | error e =>
                rw [htime] at h
                cases h
            | ok u =>
                rw [htime] at h
                exact Except.ok.inj h
          -- the sum cannot have wrapped around: zero is a duplicate
          have hlt : c.lastRecvSeq < read.seq := UInt64.not_le.mp hduplicate
          have hone : (1 : UInt64).toNat = 1 := rfl
          have hbound := c.lastRecvSeq.toNat_lt
          rw [UInt64.lt_iff_toNat_lt, hseq, UInt64.toNat_add, hone] at hlt
          rw [← hread, hseq, UInt64.toNat_add, hone]
          omega

variable {draws : Draws}

/-- A message that is opened has the next number. -/
theorem decryptOuter_ok {jsonError : Bytes → String} {g : PrivateKey} {now : UInt64}
    {outer : OuterBlob} {inner : InnerMessage} {c c' : Contact}
    (h : (decryptOuter P jsonError g now outer).run c = .ok inner c') :
    Follows c [] [inner.seq.toNat] c' := by
  cases hratchet : c.ratchet with
  | none =>
      rw [decryptOuter_no_ratchet jsonError g now outer hratchet] at h
      cases h
  | some r =>
      rw [decryptOuter_run jsonError g now outer hratchet] at h
      split at h
      · cases h
      · split at h
        · cases h
        · rename_i hcheck
          cases h
          have hnext := next_of_checkPlaintext hcheck
          exact
            { name := rfl
              conversationId := rfl
              masterSecret := rfl
              sent := .nil _
              received := ⟨congrArg (fun n => [n]) hnext, congrArg Nat.succ hnext⟩ }

/-- What a fetch has printed is what it has received. -/
def Prints (s s' : FetchState) : Prop :=
  ∃ inners : List InnerMessage, s'.printed = s.printed ++ inners
    ∧ Follows s.contact [] (inners.map fun inner => inner.seq.toNat) s'.contact

theorem Prints.refl (s : FetchState) : Prints s s :=
  ⟨[], (List.append_nil _).symm, Follows.refl _⟩

theorem Prints.trans {s s' s'' : FetchState} (h : Prints s s') (h' : Prints s' s'') :
    Prints s s'' := by
  obtain ⟨inners, hprinted, hfollows⟩ := h
  obtain ⟨inners', hprinted', hfollows'⟩ := h'
  refine ⟨inners ++ inners', by rw [hprinted', hprinted, List.append_assoc], ?_⟩
  rw [List.map_append]
  exact hfollows.trans hfollows'

theorem prints_of_steps {s s' : FetchState} (h : Relation.ReflTransGen Prints s s') :
    Prints s s' := by
  induction h with
  | refl => exact .refl s
  | tail _ hstep ih => exact ih.trans hstep

theorem prints_openBlob (blob : RelayBlobJson) : Steps Prints (openBlob P texts draws blob) := by
  intro s
  unfold openBlob
  rw [run_orRaise_bind]
  cases OuterBlob.fromRelayJson texts blob with
  | error e => exact .refl
  | ok outer =>
      dsimp only
      rw [run_get_bind]
      cases hrun : (decryptOuter P texts.json draws.ratchetPrivate draws.now outer).run
        s.contact with
      | ok inner contact => exact .single ⟨[inner], rfl, decryptOuter_ok hrun⟩
      | error e contact =>
          -- what is refused leaves the contact
          obtain rfl := decryptOuter_error hrun
          dsimp only
          by_cases hpanic : e.isPanic = true
          · rw [if_pos hpanic]
            exact .refl
          · rw [if_neg hpanic]
            exact .refl

theorem prints_openBlobs (draws : Nat → Draws) (blobs : List RelayBlobJson) (j : Nat) :
    Steps Prints (openBlobs P texts draws j blobs) := by
  induction blobs generalizing j with
  | nil => exact .pure _
  | cons blob blobs ih => exact .bind (prints_openBlob blob) fun _ => ih (j + 1)

theorem prints_fetchTags (args : FetchArgs) (tags : List MailboxTag) (i : Nat) :
    Steps Prints (fetchTags P texts args i tags) := by
  induction tags generalizing i with
  | nil => exact .pure _
  | cons tag tags ih =>
      refine .bind (.orRaise _) fun blobs => .bind .get fun s => ?_
      cases openSession s.contact with
      | error e => exact .raise _
      | ok u => exact .bind (prints_openBlobs _ _ _) fun _ => ih (i + 1)

end Fetch

/-! ### Commands -/

/-- The numbers of what a command has sent to a contact. -/
def sentNumbers (name : String) : Command × Report → List Nat
  | (.send args, .sent (.ok encrypted)) =>
      if args.contact = name then [encrypted.innerMessage.seq.toNat] else []
  | _ => []

/-- The numbers of what a command has fetched from a contact. -/
def receivedNumbers (name : String) : Command × Report → List Nat
  | (.fetch args, .fetched printed (.ok _)) =>
      if args.contact = name then printed.map fun inner => inner.seq.toNat else []
  | _ => []

/-- The command has come to its end. -/
def Report.succeeded : Report → Bool
  | .sent (.ok _) => true
  | .fetched _ (.ok _) => true
  | _ => false

section Commands

variable {home home' : Home} {name asked : String} {c d d' : Contact} {sent received : List Nat}

theorem send_ok {args : SendArgs} {encrypted : EncryptedMessage}
    (h : send P texts home args = .ok (encrypted, home')) :
    ∃ d d', home.getContact texts args.contact = .ok (some d) ∧ home' = home.saveContact d'
      ∧ Follows d [encrypted.innerMessage.seq.toNat] [] d' := by
  unfold send at h
  obtain ⟨⟨identity, d⟩, hload, h⟩ := bind_ok.mp h
  dsimp only at h
  cases hopen : openSession d with
  | error e =>
      rw [hopen] at h
      cases h
  | ok u =>
      rw [hopen] at h
      dsimp only at h
      cases hrun : (encryptText P identity args.draws args.message).run d with
      | error e d' =>
          rw [hrun] at h
          cases h
      | ok encrypted' d' =>
          rw [hrun] at h
          obtain ⟨u', -, h⟩ := bind_ok.mp h
          cases h
          exact ⟨d, d', Home.loadContact_ok hload, rfl, encryptText_ok hrun⟩

theorem fetch_ok {args : FetchArgs} {printed : List InnerMessage}
    (h : fetch P texts home args = (printed, .ok home')) :
    ∃ d d', home.getContact texts args.contact = .ok (some d) ∧ home' = home.saveContact d'
      ∧ Follows d [] (printed.map fun inner => inner.seq.toNat) d' := by
  unfold fetch at h
  cases hload : home.loadContact texts args.contact with
  | error e =>
      rw [hload] at h
      cases h
  | ok loaded =>
      obtain ⟨identity, d⟩ := loaded
      rw [hload] at h
      dsimp only at h
      split at h
      · cases h
      · rename_i tags htags
        have hprints : Prints { contact := d }
            (after ((fetchTags P texts args 0 tags).run { contact := d })) :=
          prints_of_steps (prints_fetchTags args tags 0 { contact := d })
        cases hrun : (fetchTags P texts args 0 tags).run { contact := d } with
        | error e s =>
            rw [hrun] at h
            cases h
        | ok u s =>
            rw [hrun] at h hprints
            cases h
            obtain ⟨inners, hprinted, hfollows⟩ := hprints
            obtain rfl : s.printed = inners := hprinted
            exact ⟨d, s.contact, Home.loadContact_ok hload, rfl, hfollows⟩

/-- What a command stores is read by the next one, and the other contacts stay. -/
theorem saved_follows (hnamed : home.Named) (hc : home.getContact texts name = .ok (some c))
    (hd : home.getContact texts asked = .ok (some d)) (hfollows : Follows d sent received d') :
    ∃ c', (home.saveContact d').getContact texts name = .ok (some c')
      ∧ Follows c (if asked = name then sent else []) (if asked = name then received else [])
        c' := by
  have hname : d'.name = asked := hfollows.name.trans (hnamed.name_eq hd)
  by_cases hasked : asked = name
  · subst hasked
    obtain rfl : c = d := Option.some.inj (Except.ok.inj (hc.symm.trans hd))
    rw [if_pos rfl, if_pos rfl]
    refine ⟨d', ?_, hfollows⟩
    rw [← hname]
    exact Home.getContact_saveContact_self d'
  · rw [if_neg hasked, if_neg hasked]
    refine ⟨c, ?_, .refl c⟩
    rw [Home.getContact_saveContact_of_ne (hname.trans_ne hasked)]
    exact hc

/-- One command. -/
theorem runCommand_follows (hnamed : home.Named) (hc : home.getContact texts name = .ok (some c))
    (command : Command) :
    (runCommand P texts home command).2.Named
      ∧ ∃ c', (runCommand P texts home command).2.getContact texts name = .ok (some c')
        ∧ Follows c (sentNumbers name (command, (runCommand P texts home command).1))
          (receivedNumbers name (command, (runCommand P texts home command).1)) c' := by
  cases command with
  | send args =>
      unfold runCommand
      dsimp only
      cases hsend : send P texts home args with
      | error e => exact ⟨hnamed, c, hc, .refl c⟩
      | ok result =>
          obtain ⟨encrypted, home'⟩ := result
          obtain ⟨d, d', hd, rfl, hfollows⟩ := send_ok hsend
          refine ⟨hnamed.saveContact d', ?_⟩
          simpa only [sentNumbers, receivedNumbers, ite_self] using
            saved_follows hnamed hc hd hfollows
  | fetch args =>
      unfold runCommand
      dsimp only
      cases hfetch : fetch P texts home args with
      | mk printed result =>
          cases result with
          | error e => exact ⟨hnamed, c, hc, .refl c⟩
          | ok home' =>
              obtain ⟨d, d', hd, rfl, hfollows⟩ := fetch_ok hfetch
              refine ⟨hnamed.saveContact d', ?_⟩
              simpa only [sentNumbers, receivedNumbers, ite_self] using
                saved_follows hnamed hc hd hfollows

/-- A command that fails leaves the home. -/
theorem runCommand_failed (home : Home) (command : Command)
    (h : (runCommand P texts home command).1.succeeded = false) :
    (runCommand P texts home command).2 = home := by
  cases command with
  | send args =>
      unfold runCommand at h ⊢
      dsimp only at h ⊢
      cases hsend : send P texts home args with
      | error e => rfl
      | ok result =>
          rw [hsend] at h
          cases h
  | fetch args =>
      unfold runCommand at h ⊢
      dsimp only at h ⊢
      cases hfetch : fetch P texts home args with
      | mk printed result =>
          cases result with
          | error e => rfl
          | ok home' =>
              rw [hfetch] at h
              cases h

theorem commands_follow (hnamed : home.Named) (hc : home.getContact texts name = .ok (some c))
    (commands : List Command) :
    (run (runCommand P texts) home commands).state.Named
      ∧ ∃ c', (run (runCommand P texts) home commands).state.getContact texts name = .ok (some c')
        ∧ Follows c ((run (runCommand P texts) home commands).events.flatMap (sentNumbers name))
          ((run (runCommand P texts) home commands).events.flatMap (receivedNumbers name)) c' := by
  induction commands using List.reverseRecOn with
  | nil => exact ⟨hnamed, c, hc, .refl c⟩
  | append_singleton commands command ih =>
      obtain ⟨hnamed', c', hc', hfollows⟩ := ih
      obtain ⟨hnext, c'', hc'', hstep⟩ := runCommand_follows hnamed' hc' command
      rw [run_concat, Log.ask]
      refine ⟨hnext, c'', hc'', ?_⟩
      dsimp only
      rw [List.flatMap_append, List.flatMap_append, List.flatMap_singleton,
        List.flatMap_singleton]
      exact hfollows.trans hstep

/-- **Commands are transactions, and their numbers follow each other.** However the relay answers,
the home is that of the commands that succeeded; what they sent to a contact is numbered on from its
counter without a gap, and so is what they fetched from it. -/
theorem commands_are_transactions (hnamed : home.Named)
    (hc : home.getContact texts name = .ok (some c)) (commands : List Command) :
    let log := run (runCommand P texts) home commands
    log.state = (run (runCommand P texts) home
        ((log.events.filter fun event => event.2.succeeded).map Prod.fst)).state
      ∧ ∃ c', log.state.getContact texts name = .ok (some c')
        ∧ Follows c (log.events.flatMap (sentNumbers name))
          (log.events.flatMap (receivedNumbers name)) c' := by
  obtain ⟨-, hfollows⟩ := commands_follow (P := P) hnamed hc commands
  exact ⟨(run_succeeded runCommand_failed commands).symm, hfollows⟩

end Commands

namespace ClientSample

def key (n : UInt8) : PrivateKey := BytesN.fill 32 n

def alice : Identity := { name := "alice", signingPrivate := key 1, agreementPrivate := key 2 }

def bob : Contact :=
  Contact.establishClassical plainPackages alice "bob" (key 3) (key 4) (key 5)

def errorTexts : ErrorTexts :=
  { json := fun _ => "expected value"
    base64 := fun _ => "invalid input" }

def home : Home := Home.saveContact bob { identity := some alice }

theorem home_named : home.Named :=
  Home.Named.saveContact (fun _ hfile => absurd hfile List.not_mem_nil) bob

/-- A text to bob, and what becomes of its POST. -/
def textToBob (posted : Except String Unit) : Command :=
  .send
    { contact := "bob"
      message := "hello"
      draws := { now := 0, ratchetPrivate := key 6, nonce := BytesN.fill 24 7 }
      post := fun _ => posted }

/-- The relay is down at first. -/
def commands : List Command :=
  [textToBob (.error "connection refused"), textToBob (.ok ())]

end ClientSample

open ClientSample in
/-- The text that is posted has the number of the one that was not. -/
theorem failed_text_leaves_number :
    ∃ c', (run (runCommand plainPackages errorTexts) home commands).state.getContact errorTexts
        "bob" = .ok (some c') ∧ Follows bob [1] [] c' := by
  have hstored : home.getContact errorTexts bob.name = .ok (some bob) :=
    Home.getContact_saveContact_self bob
  obtain ⟨-, c', hc', hfollows⟩ :=
    commands_are_transactions (P := plainPackages) home_named hstored commands
  have hnumbers : ((run (runCommand plainPackages errorTexts) home commands).events.flatMap
      (sentNumbers "bob"), (run (runCommand plainPackages errorTexts) home commands).events.flatMap
      (receivedNumbers "bob")) = ([1], []) := by
    decide +kernel
  obtain ⟨hsent, hreceived⟩ := Prod.mk.inj hnumbers
  rw [show bob.name = "bob" from rfl, hsent, hreceived] at hfollows
  exact ⟨c', hc', hfollows⟩

end Rust
end Yakr
