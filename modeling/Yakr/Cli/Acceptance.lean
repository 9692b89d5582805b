import Yakr.Cli.Progress

/-!
# Yakr.Cli.Acceptance

**Texts are accepted in order and at most once.** Six commands write a contact's row, and all but
the fetch write the last received number that they have loaded. A fetch counts on its own object,
nests the sending of receipts and writes the object at many points, also when it is about to
raise. Through any run of the commands the number of the row does not fall, and each text that is
committed has a number above all that were recorded before (`Progresses`), because a message is
accepted only under the number after the one that the object has (`accepted_in_order`).
-/

namespace Yakr

open Lib Effect Worklist

variable {P : Packages}

/-! ### Rows of texts -/

/-- The texts of a contact in the database, in the order of their commits. -/
def textRows (store : FileLocalStore) (name : String) : List InboundMessage :=
  store.inboundMessages.filter fun r => r.contactName = name

/-- From `w` to `w'` the recorded number of the contact `name` has not fallen; the texts that were
committed have rising numbers, above those recorded at `w` and not above those recorded at `w'`. -/
structure Progresses (name : String) (w w' : World) : Prop where
  records : ∀ n, Records name n w → Records name n w'
  texts : ∃ rows, textRows w'.store name = textRows w.store name ++ rows
    ∧ rows.Pairwise (fun r r' => r.seq < r'.seq)
    ∧ (∀ r ∈ rows, ∀ n, Records name n w → n < r.seq)
    ∧ ∀ r ∈ rows, Records name r.seq w'

/-- Neither the texts, nor any recorded number, nor what was accepted is changed. -/
structure KeepsTexts (w w' : World) : Prop where
  inbound : w'.store.inboundMessages = w.store.inboundMessages
  recorded : ∀ name, recordedSeq w'.store name = recordedSeq w.store name
  accepted : w'.accepted = w.accepted

namespace KeepsTexts

variable {w w' w'' : World}

theorem refl (w : World) : KeepsTexts w w := ⟨rfl, fun _ => rfl, rfl⟩

theorem trans (h : KeepsTexts w w') (h' : KeepsTexts w' w'') : KeepsTexts w w'' :=
  ⟨h'.inbound.trans h.inbound, fun name => (h'.recorded name).trans (h.recorded name),
    h'.accepted.trans h.accepted⟩

theorem of_steps (h : Relation.ReflTransGen KeepsTexts w w') : KeepsTexts w w' := by
  induction h with
  | refl => exact refl w
  | tail _ hstep ih => exact ih.trans hstep

/-- What leaves both tables alone. -/
theorem of_tables (hinbound : w'.store.inboundMessages = w.store.inboundMessages)
    (hcontacts : w'.store.contacts = w.store.contacts) (haccepted : w'.accepted = w.accepted) :
    KeepsTexts w w' :=
  ⟨hinbound, fun name => by rw [recordedSeq, recordedSeq, hcontacts], haccepted⟩

theorem records_iff (h : KeepsTexts w w') (name : String) (n : Int) :
    Records name n w' ↔ Records name n w := by
  unfold Records
  rw [h.recorded name]

end KeepsTexts

namespace Progresses

variable {name : String} {w w' w'' : World}

/-- No text is written, and no number taken back. -/
theorem of_inbound (hinbound : w'.store.inboundMessages = w.store.inboundMessages)
    (hrecords : ∀ n, Records name n w → Records name n w') : Progresses name w w' := by
  refine ⟨hrecords, [], ?_, .nil, nofun, nofun⟩
  rw [textRows, textRows, hinbound, List.append_nil]

theorem of_keeps (h : KeepsTexts w w') : Progresses name w w' :=
  .of_inbound h.inbound fun n hn => (h.records_iff name n).mpr hn

theorem refl (w : World) : Progresses name w w := .of_keeps (.refl w)

theorem trans (h : Progresses name w w') (h' : Progresses name w' w'') : Progresses name w w'' := by
  obtain ⟨rows, hrows, hrising, habove, hrecorded⟩ := h.texts
  obtain ⟨rows', hrows', hrising', habove', hrecorded'⟩ := h'.texts
  refine ⟨fun n hn => h'.records n (h.records n hn), rows ++ rows', ?_, ?_, fun r hr n hn => ?_,
    fun r hr => ?_⟩
  · rw [hrows', hrows, List.append_assoc]
  · -- what was committed first was recorded before the rest
    exact List.pairwise_append.mpr
      ⟨hrising, hrising', fun r hr r' hr' => habove' r' hr' r.seq (hrecorded r hr)⟩
  · rcases List.mem_append.mp hr with hr | hr
    · exact habove r hr n hn
    · exact habove' r hr n (h.records n hn)
  · rcases List.mem_append.mp hr with hr | hr
    · exact h'.records r.seq (hrecorded r hr)
    · exact hrecorded' r hr

end Progresses

theorem recordedSeq_saveContact (store : FileLocalStore) (c : Contact) (name : String) :
    recordedSeq (store.saveContact P c) name
      = if c.name = name then some c.lastRecvSeq else recordedSeq store name := by
  rw [recordedSeq, find_saveContact]
  split
  · rfl
  · rfl

/-- A contact that was loaded has the number of its row. -/
theorem recordedSeq_of_getContact {store : FileLocalStore} {name : String} {contact : Contact}
    (h : store.getContact P name = .ok (some contact)) :
    contact.name = name ∧ recordedSeq store name = some contact.lastRecvSeq := by
  obtain ⟨d, hfind, hload, hname⟩ := getContact_ok h
  refine ⟨hname, ?_⟩
  rw [recordedSeq, hfind]
  exact congrArg some (Contact.fromDict_ok hload).2.2.1.symm

/-! ### The commands that send -/

/-- The object has the name and the number of its row. -/
def InStep (h : Handling) : Prop :=
  recordedSeq h.world.store h.contact.name = some h.contact.lastRecvSeq

/-- Work on an object that is in step with its row. -/
def StaysInStep (h h' : Handling) : Prop := InStep h → InStep h' ∧ KeepsTexts h.world h'.world

namespace StaysInStep

variable {h h' h'' : Handling}

theorem of_steps (hsteps : Relation.ReflTransGen StaysInStep h h') : StaysInStep h h' := by
  induction hsteps with
  | refl => exact fun hin => ⟨hin, .refl _⟩
  | tail _ hstep ih =>
      intro hin
      obtain ⟨hin', hkeeps⟩ := ih hin
      obtain ⟨hin'', hkeeps'⟩ := hstep hin'
      exact ⟨hin'', hkeeps.trans hkeeps'⟩

/-- The tables and what the row has of the object stay. -/
theorem of_same (hname : h'.contact.name = h.contact.name)
    (hseq : h'.contact.lastRecvSeq = h.contact.lastRecvSeq)
    (hkeeps : KeepsTexts h.world h'.world) : StaysInStep h h' := by
  intro hin
  refine ⟨?_, hkeeps⟩
  show recordedSeq h'.world.store h'.contact.name = some h'.contact.lastRecvSeq
  rw [hkeeps.recorded, hname, hseq]
  exact hin

/-- A contact with the name and the number of the object is written. -/
theorem of_saved {c : Contact} (hcontact : h'.contact = c) (hname : c.name = h.contact.name)
    (hseq : c.lastRecvSeq = h.contact.lastRecvSeq)
    (hinbound : h'.world.store.inboundMessages = h.world.store.inboundMessages)
    (hrows : h'.world.store.contacts = (h.world.store.saveContact P c).contacts)
    (haccepted : h'.world.accepted = h.world.accepted) : StaysInStep h h' := by
  intro hin
  have hrecorded : ∀ name, recordedSeq h'.world.store name = recordedSeq h.world.store name := by
    intro name
    have hsave := recordedSeq_saveContact (P := P) h.world.store c name
    rw [recordedSeq, ← hrows, ← recordedSeq] at hsave
    rw [hsave]
    split
    · rename_i hthis
      rw [← hthis, hname, hseq]
      exact hin.symm
    · rfl
  refine ⟨?_, hinbound, hrecorded, haccepted⟩
  show recordedSeq h'.world.store h'.contact.name = some h'.contact.lastRecvSeq
  rw [hcontact, hrecorded, hname, hseq]
  exact hin

end StaysInStep

section Sending

variable {outside : Outside} {identity : Identity} {name : String} {names : String → Prop}
  {marks : Prop} {h h' : Handling} {w w' : World}

theorem SendStep.staysInStep (hstep : SendStep P outside identity name marks h h') : StaysInStep h h' := by
  cases hstep with
  | delivery n hdelivery =>
      cases hdelivery with
      | exchanged exchanges hposted => exact .of_same rfl rfl (.of_tables rfl rfl rfl)
      | refreshed hold hexpired hserved => exact .of_saved (P := P) rfl rfl rfl rfl rfl rfl
  | drew encryptions => exact .of_same rfl rfl (.of_tables rfl rfl rfl)
  | sealed ratchet nextSendSeq => exact .of_same rfl rfl (.of_tables rfl rfl rfl)
  | saved => exact .of_saved (P := P) rfl rfl rfl rfl rfl rfl
  | committed seq body now hsealed => exact .of_saved (P := P) rfl rfl rfl rfl rfl rfl
  | marked msgId hmarks => exact .of_same rfl rfl (.of_tables rfl rfl rfl)
  | noted hsave =>
      obtain ⟨rows, rfl⟩ := saveProfileAckPending_rows hsave
      exact .of_same rfl rfl (.of_tables rfl rfl rfl)
  | receipted hseals hanswered => exact .of_same rfl rfl (.of_tables rfl rfl rfl)
  | queued deliveredId route now => exact .of_same rfl rfl (.of_tables rfl rfl rfl)

theorem savePresence_inbound {store store' : FileLocalStore} {payload : PresencePayload}
    (h : store.savePresence payload = .ok store') :
    store'.inboundMessages = store.inboundMessages := by
  unfold FileLocalStore.savePresence at h
  obtain ⟨u, -, h⟩ := bind_ok.mp h
  obtain rfl := Except.ok.inj h
  rfl

/-- **Nothing that sends writes a text or a recorded number.** -/
theorem WorldStep.keepsTexts (hstep : WorldStep P outside identity names marks w w') : KeepsTexts w w' := by
  cases hstep with
  | drew encryptions => exact .of_tables rfl rfl rfl
  | handled hname hcontact hsteps =>
      obtain ⟨hname, hrecorded⟩ := recordedSeq_of_getContact hcontact
      refine (StaysInStep.of_steps (Relation.ReflTransGen.mono
        (fun _ _ => SendStep.staysInStep) _ _ hsteps) ?_).2
      show recordedSeq _ _ = _
      rw [hname]
      exact hrecorded
  | localProfile profile => exact .of_tables rfl rfl rfl
  | presence hsave =>
      exact .of_tables (savePresence_inbound hsave) (savePresence_contacts hsave) rfl

theorem keepsTexts_of_steps {α : Type} {m : EStateM PyExc World α}
    (hm : Steps (WorldStep P outside identity names marks) m) (w : World) : KeepsTexts w (after (m.run w)) :=
  .of_steps ((hm.mono fun _ _ => WorldStep.keepsTexts) w)

end Sending

/-! ### The fetch -/

/-- The messages accepted since a log have the numbers after `start`, none left out, and the object
has the last of them. -/
def InTurn (log : List InnerMessage) (start : Int) (f : Fetching) : Prop :=
  ∃ new, f.world.accepted = log ++ new
    ∧ new.map InnerMessage.seq = (List.range new.length).map (fun (i : Nat) => start + 1 + i)
    ∧ f.contact.lastRecvSeq = start + new.length

/-- A step of a fetch on an object that is not behind its row. -/
structure Advances (contactName : String) (f f' : Fetching) : Prop where
  progresses : NotBehind contactName f → ∀ name, Progresses name f.world f'.world
  inTurn : ∀ log start, InTurn log start f → InTurn log start f'

section Fetch

variable {outside : Outside} {polls : Polls} {identity : Identity} {contactName : String}
  {route : Option String} {wide quiet : Bool} {f f' : Fetching} {w : World}

theorem InTurn.of_same {log : List InnerMessage} {start : Int} (h : InTurn log start f)
    (haccepted : f'.world.accepted = f.world.accepted)
    (hseq : f'.contact.lastRecvSeq = f.contact.lastRecvSeq) : InTurn log start f' := by
  obtain ⟨new, hnew, hnumbers, hlast⟩ := h
  exact ⟨new, haccepted.trans hnew, hnumbers, hseq.trans hlast⟩

/-- The message that is accepted next. -/
theorem InTurn.opening {log : List InnerMessage} {start : Int} (h : InTurn log start f)
    (ratchet : RatchetState) {inner : InnerMessage}
    (hseq : inner.seq = f.contact.lastRecvSeq + 1) :
    InTurn log start (f.opening ratchet inner) := by
  obtain ⟨new, hnew, hnumbers, hlast⟩ := h
  refine ⟨new ++ [inner], ?_, ?_, ?_⟩
  · show f.world.accepted ++ [inner] = log ++ (new ++ [inner])
    rw [hnew, List.append_assoc]
  · rw [List.length_append, List.length_singleton, List.range_succ, List.map_append,
      List.map_append, hnumbers, List.map_singleton, List.map_singleton, hseq, hlast]
    congr 2
    omega
  · show inner.seq = start + ((new ++ [inner]).length : Nat)
    rw [List.length_append, List.length_singleton, hseq, hlast]
    push_cast
    omega

/-- The row of a text is written after those that are there, unless its number is taken. -/
theorem textRows_received (identity : Identity) (nonce : Nonce) (contact : Contact)
    (inner : InnerMessage) (deliveredId : String) (now : Int) (store : FileLocalStore)
    (name : String) :
    ∃ rows, textRows (FileLocalStore.received P identity nonce contact inner (some deliveredId)
        none now store) name = textRows store name ++ rows
      ∧ (rows = [] ∨ contact.name = name ∧ ∃ row : InboundMessage, rows = [row]
        ∧ row.seq = inner.seq) := by
  let row := FileLocalStore.inboundRow P identity nonce contact inner now
  have hinbound : (FileLocalStore.received P identity nonce contact inner (some deliveredId) none
      now store).inboundMessages = Table.insertNew InboundMessage.key row store.inboundMessages :=
    rfl
  unfold textRows
  rw [hinbound, Table.insertNew]
  split
  · exact ⟨[], by rw [List.append_nil], Or.inl rfl⟩
  · rw [List.filter_append]
    by_cases hname : contact.name = name
    · refine ⟨[row], ?_, Or.inr ⟨hname, row, rfl, rfl⟩⟩
      have hrow : row.contactName = name := hname
      simp [hrow]
    · refine ⟨[], ?_, Or.inl rfl⟩
      have hrow : ¬ row.contactName = name := hname
      simp [hrow]

/-- The commit of a text that was accepted. -/
theorem progresses_committed (ratchet : RatchetState) {inner : InnerMessage}
    (hseq : inner.seq = f.contact.lastRecvSeq + 1) (attempt : Attempt) (deliveredId : String)
    (hnot : NotBehind contactName f) (name : String) :
    Progresses name f.world
      ((f.opening ratchet inner).committed P identity attempt inner deliveredId).world := by
  have hcontacts : ∀ name, recordedSeq
      ((f.opening ratchet inner).committed P identity attempt inner deliveredId).world.store name
      = if f.contact.name = name then some inner.seq else recordedSeq f.world.store name := by
    intro name
    have hsave := recordedSeq_saveContact (P := P) f.world.store (f.opening ratchet inner).contact
      name
    rw [recordedSeq, ← FileLocalStore.received_contacts] at hsave
    exact hsave
  obtain ⟨rows, hrows, hnew⟩ := textRows_received (P := P) identity attempt.nonce
    (f.opening ratchet inner).contact inner deliveredId attempt.now f.world.store name
  obtain ⟨m, hm, hle⟩ := hnot.seq
  have hbefore : f.contact.name = name → ∀ n, Records name n f.world → n < inner.seq := by
    intro hthis n hn
    obtain ⟨k, hk, hnk⟩ := hn
    rw [← hthis, hnot.contact] at hk
    obtain rfl := Option.some.inj (hk.symm.trans hm)
    omega
  have hafter : f.contact.name = name → Records name inner.seq
      ((f.opening ratchet inner).committed P identity attempt inner deliveredId).world := by
    intro hthis
    refine ⟨inner.seq, ?_, Int.le_refl _⟩
    rw [hcontacts, if_pos hthis]
  refine ⟨fun n hn => ?_, rows, hrows, ?_, fun r hr => ?_, fun r hr => ?_⟩
  · by_cases hthis : f.contact.name = name
    · obtain ⟨k, hk, hle'⟩ := hafter hthis
      exact ⟨k, hk, Int.le_trans (Int.le_of_lt (hbefore hthis n hn)) hle'⟩
    · obtain ⟨k, hk, hnk⟩ := hn
      refine ⟨k, ?_, hnk⟩
      rw [hcontacts, if_neg hthis]
      exact hk
  · rcases hnew with rfl | ⟨-, row, rfl, -⟩
    · exact .nil
    · exact List.pairwise_singleton _ _
  · rcases hnew with rfl | ⟨hthis, row, rfl, hrow⟩
    · cases hr
    · obtain rfl := List.mem_singleton.mp hr
      rw [hrow]
      exact hbefore hthis
  · rcases hnew with rfl | ⟨hthis, row, rfl, hrow⟩
    · cases hr
    · obtain rfl := List.mem_singleton.mp hr
      rw [hrow]
      exact hafter hthis

/-- A step that writes no text and none of the numbers. -/
theorem Advances.of_keeps (hkeeps : KeepsTexts f.world f'.world)
    (hseq : f'.contact.lastRecvSeq = f.contact.lastRecvSeq) : Advances contactName f f' :=
  ⟨fun _ _ => .of_keeps hkeeps, fun _ _ h => h.of_same hkeeps.accepted hseq⟩

/-- The object is written to its row, which was not ahead of it. -/
theorem Advances.saved : Advances contactName f (f.saved P) := by
  refine ⟨fun hnot name => ?_, fun _ _ h => h.of_same rfl rfl⟩
  have hrecorded : ∀ name, recordedSeq (f.saved P).world.store name
      = if f.contact.name = name then some f.contact.lastRecvSeq
        else recordedSeq f.world.store name := recordedSeq_saveContact f.world.store f.contact
  refine .of_inbound rfl fun n hn => ?_
  obtain ⟨k, hk, hnk⟩ := hn
  by_cases hthis : f.contact.name = name
  · obtain ⟨m, hm, hle⟩ := hnot.seq
    rw [← hthis, hnot.contact] at hk
    obtain rfl : m = k := Option.some.inj (hm.symm.trans hk)
    exact ⟨f.contact.lastRecvSeq, by rw [hrecorded, if_pos hthis], Int.le_trans hnk hle⟩
  · exact ⟨k, by rw [hrecorded, if_neg hthis, hk], hnk⟩

/-- **One step of a fetch**, with the sending of receipts in it. -/
theorem FetchStep.advances
    (hstep : FetchStep P (sendDeliveryReceipt P outside identity) polls identity contactName f f') :
    Advances contactName f f' := by
  cases hstep with
  | refused ratchet => exact .of_keeps (.of_tables rfl rfl rfl) rfl
  | accepted ratchet hseq =>
      exact ⟨fun _ _ => .of_inbound rfl fun _ hn => hn, fun _ _ h => h.opening ratchet hseq⟩
  | text ratchet hseq attempt deliveredId =>
      exact ⟨fun hnot name => progresses_committed ratchet hseq attempt deliveredId hnot name,
        fun _ _ h => (h.opening ratchet hseq).of_same rfl rfl⟩
  | receipt ratchet hseq htype hid =>
      exact ⟨fun _ _ => .of_inbound rfl fun _ hn => hn,
        fun _ _ h => (h.opening ratchet hseq).of_same rfl rfl⟩
  | acknowledged id =>
      unfold Fetching.acknowledged
      split
      · exact .of_keeps (.refl _) rfl
      · rename_i version relayNames _
        obtain ⟨version, names, hacked⟩ :=
          applyPeerProfileAckPending_eq f.contact version relayNames
        rw [hacked]
        exact .of_keeps (.of_tables rfl rfl rfl) rfl
  | profile tag round item hread hupdate => exact .of_keeps (.of_tables rfl rfl rfl) rfl
  | presence hsave =>
      exact .of_keeps (.of_tables (savePresence_inbound hsave) (savePresence_contacts hsave) rfl)
        rfl
  | saved => exact .saved
  | counted fetched => exact .of_keeps (.of_tables rfl rfl rfl) rfl
  | sent deliveredId route =>
      exact .of_keeps (keepsTexts_of_steps (worldSteps_sendDeliveryReceipt (anyName _) _ _) f.world) rfl
  | refreshed hload => exact .of_keeps (.of_tables rfl rfl rfl) rfl

/-- Steps of a fetch one after another, from an object that is not behind its row. -/
theorem advances_of_steps (hnot : NotBehind contactName f)
    (hsteps : Relation.ReflTransGen
      (FetchStep P (sendDeliveryReceipt P outside identity) polls identity contactName) f f') :
    Advances contactName f f' ∧ NotBehind contactName f' := by
  induction hsteps with
  | refl => exact ⟨.of_keeps (.refl _) rfl, hnot⟩
  | tail _ hstep ih =>
      obtain ⟨hadvances, hnot'⟩ := ih
      have hnext := FetchStep.advances hstep
      have honward : Onward contactName _ _ :=
        FetchStep.onward (keepsRecords_sendDeliveryReceipt outside identity) hstep
      refine ⟨⟨fun _ name => ?_, fun log start h => ?_⟩, (honward hnot').1⟩
      · exact (hadvances.progresses hnot name).trans (hnext.progresses hnot' name)
      · exact hnext.inTurn log start (hadvances.inTurn log start h)

/-! ### A whole fetch -/

/-- The queued receipts of a contact are its own. -/
theorem mem_listPendingReceipts {store : FileLocalStore} {row : PendingReceipt}
    (h : row ∈ store.listPendingReceipts (some contactName)) :
    row ∈ store.pendingReceipts ∧ row.contactName = contactName := by
  have hrow := (orderBy_perm PendingReceipt.createdAt _).mem_iff.mp h
  obtain ⟨hmem, hwhere⟩ := List.mem_filter.mp hrow
  exact ⟨hmem, of_decide_eq_true hwhere⟩

/-- The fetch before the poll. -/
theorem worldSteps_openFetch {names : String → Prop} (hname : names contactName)
    (contact : Contact) :
    Steps (WorldStep P outside identity names False)
      (openFetch P (sendDeliveryReceipt P outside identity) outside.env polls identity contactName
        route wide quiet contact) := by
  unfold openFetch
  refine (Steps.orRaise _).bind fun _ => Steps.get.bind fun w => ?_
  have hnames : ∀ row ∈ w.store.listPendingReceipts (some contactName), names row.contactName := by
    intro row hrow
    rw [(mem_listPendingReceipts hrow).2]
    exact hname
  refine (worldSteps_flushReceipts route hnames).bind fun flushed => ?_
  exact steps_before (.orRaise _) (Steps.get.bind fun _ => .orRaise _)

/-- A fetch ends where it starts, before the poll, or after steps of the poll on the contact that was
loaded. -/
theorem fetch_cases (outside : Outside) (polls : Polls) (identity : Identity)
    (contactName : String) (route : Option String) (wide quiet : Bool) (w : World) :
    after ((fetchContactInbound P outside polls identity contactName route wide quiet).run w) = w
      ∨ ∃ contact, w.store.getContact P contactName = .ok (some contact)
        ∧ ((∃ e, (openFetch P (sendDeliveryReceipt P outside identity) outside.env polls identity
              contactName route wide quiet contact).run w
            = .error e (after
              ((fetchContactInbound P outside polls identity contactName route wide quiet).run w)))
          ∨ ∃ plan w' f, (openFetch P (sendDeliveryReceipt P outside identity) outside.env polls
              identity contactName route wide quiet contact).run w = .ok plan w'
            ∧ Relation.ReflTransGen (FetchStep P (sendDeliveryReceipt P outside identity) polls identity
              contactName) { world := w', contact } f
            ∧ after ((fetchContactInbound P outside polls identity contactName route wide
              quiet).run w) = f.world) := by
  unfold fetchContactInbound
  cases hcontact : w.store.getContact P contactName with
  | error e =>
      unfold fetchWith
      rw [run_get_bind, hcontact]
      exact Or.inl rfl
  | ok found =>
      cases found with
      | none =>
          unfold fetchWith
          rw [run_get_bind, hcontact]
          exact Or.inl rfl
      | some contact =>
          refine Or.inr ⟨contact, rfl, ?_⟩
          cases hopen : (openFetch P (sendDeliveryReceipt P outside identity) outside.env polls
              identity contactName route wide quiet contact).run w with
          | error e w' =>
              refine Or.inl ⟨e, ?_⟩
              unfold fetchWith
              rw [run_get_bind, hcontact, EStateM.run_bind, run_orRaise_ok]
              dsimp only
              rw [EStateM.run_bind, hopen]
              rfl
          | ok plan w' =>
              have hdrain : Steps (FetchStep P (sendDeliveryReceipt P outside identity) polls identity
                  contactName) (drainTags P (sendDeliveryReceipt P outside identity) polls identity
                    contactName route quiet plan.bases plan.hints 0 plan.tags) :=
                steps_drainTags (fun tag round item => steps_handleItem tag round item) 0 plan.tags
              refine Or.inr ⟨plan, w', _, rfl, hdrain _, ?_⟩
              rw [run_fetchWith hcontact hopen]
              cases (drainTags P (sendDeliveryReceipt P outside identity) polls identity
                  contactName route quiet plan.bases plan.hints 0 plan.tags).run
                  { world := w', contact } with
              | ok u f' => rfl
              | error e f' => rfl

/-- The messages that a command accepts from the contact `name`: the numbers follow the one of the
contact as it was loaded, none left out. -/
def AcceptsInTurn (P : Packages) (name : String) (w w' : World) : Prop :=
  ∃ new, w'.accepted = w.accepted ++ new
    ∧ (new ≠ [] → ∃ contact, w.store.getContact P name = .ok (some contact)
      ∧ new.map InnerMessage.seq
        = (List.range new.length).map (fun (i : Nat) => contact.lastRecvSeq + 1 + i))

theorem AcceptsInTurn.of_keeps {w' : World} (h : KeepsTexts w w') :
    AcceptsInTurn P contactName w w' :=
  ⟨[], by rw [h.accepted, List.append_nil], fun hne => absurd rfl hne⟩

/-- **One fetch**, whether it returns or raises. -/
theorem fetch_progresses (outside : Outside) (polls : Polls) (identity : Identity)
    (contactName : String) (route : Option String) (wide quiet : Bool) (w : World) :
    (∀ name, Progresses name w (after
        ((fetchContactInbound P outside polls identity contactName route wide quiet).run w)))
      ∧ AcceptsInTurn P contactName w (after
        ((fetchContactInbound P outside polls identity contactName route wide quiet).run w)) := by
  have hkept : ∀ {w'}, KeepsTexts w w' → (∀ name, Progresses name w w')
      ∧ AcceptsInTurn P contactName w w' := fun h => ⟨fun _ => .of_keeps h, .of_keeps h⟩
  rcases fetch_cases (P := P) outside polls identity contactName route wide quiet w with
    hsame | ⟨contact, hcontact, hopened⟩
  · rw [hsame]
    exact hkept (.refl w)
  · have hopening : Steps (WorldStep P outside identity AnyName False)
        (openFetch P (sendDeliveryReceipt P outside identity) outside.env polls identity
          contactName route wide quiet contact) := worldSteps_openFetch (anyName _) contact
    have hkeeps := keepsTexts_of_steps hopening w
    rcases hopened with ⟨e, hraised⟩ | ⟨plan, w', f, hopen, hsteps, hworld⟩
    · rw [hraised] at hkeeps
      exact hkept hkeeps
    · rw [hopen] at hkeeps
      have hnot := openFetch_notBehind (keepsRecords_sendDeliveryReceipt outside identity)
        hcontact hopen
      obtain ⟨hadvances, -⟩ := advances_of_steps hnot hsteps
      rw [hworld]
      constructor
      · intro name
        have hprogresses := hadvances.progresses hnot name
        exact (Progresses.of_keeps hkeeps).trans hprogresses
      · have hstart : InTurn w.accepted contact.lastRecvSeq
            ({ world := w', contact } : Fetching) :=
          ⟨[], by rw [List.append_nil]; exact hkeeps.accepted, rfl, (Int.add_zero _).symm⟩
        obtain ⟨new, hnew, hnumbers, -⟩ := hadvances.inTurn _ _ hstart
        exact ⟨new, hnew, fun _ => ⟨contact, hcontact, hnumbers⟩⟩

end Fetch

/-! ### Runs -/

section Run

variable {identity : Identity} {w : World}

/-- **One command.** -/
theorem execute_progresses (identity : Identity) (w : World) (operation : Operation)
    (name : String) : Progresses name w (Operation.execute P identity w operation) := by
  cases operation with
  | send outside dummy contactName message route =>
      exact .of_keeps (keepsTexts_of_steps (worldSteps_sendCmd (anyName _) dummy message route) w)
  | fetch outside polls contactName route wide quiet =>
      exact (fetch_progresses outside polls identity contactName route wide quiet w).1 name
  | flush outside contactName route =>
      exact .of_keeps (keepsTexts_of_steps (worldSteps_flushReceipts route fun pending _ => anyName pending.contactName) w)
  | resend outside now contactName route =>
      exact .of_keeps (keepsTexts_of_steps
        (worldSteps_resendPendingForContact (anyName _) now route) w)
  | presence outside announce payloads contactName =>
      exact .of_keeps (keepsTexts_of_steps
        (worldSteps_broadcastPresence announce payloads fun name _ => anyName name) w)
  | push outside built contactName =>
      exact .of_keeps (keepsTexts_of_steps (worldSteps_profilePush (anyName _) built) w)
  | sweep now => exact .of_keeps (.of_tables rfl rfl rfl)

/-- A run of commands. -/
theorem run_progresses (identity : Identity) (w : World) (operations : List Operation)
    (name : String) : Progresses name w (Operation.run P identity w operations) := by
  induction operations generalizing w with
  | nil => exact .refl w
  | cons operation operations ih =>
      exact (execute_progresses identity w operation name).trans (ih _)

theorem run_append (earlier later : List Operation) :
    Operation.run P identity w (earlier ++ later)
      = Operation.run P identity (Operation.run P identity w earlier) later := List.foldl_append

theorem run_snoc (operations : List Operation) (operation : Operation) :
    Operation.run P identity w (operations ++ [operation])
      = Operation.execute P identity (Operation.run P identity w operations) operation :=
  List.foldl_append

/-- An attempt accepts a message only under the number after the one of the contact object. -/
def AcceptsNext (P : Packages) (polls : Polls) (tag round : Nat) (item : Json) (f : Fetching) :
    Prop :=
  ∀ outer inner c, OuterBlob.fromRelayJson P item = .ok outer →
    (decryptInbound P (polls.attempt tag round item).generated (polls.attempt tag round item).now
      outer).run f.contact = .ok inner c →
    inner.seq = f.contact.lastRecvSeq + 1

/-- What holds in a run of commands: between any two points the recorded numbers do not fall and
rising texts are committed, and every fetch accepts message after message by number. -/
structure RunInOrder (P : Packages) (identity : Identity) (w : World)
    (operations : List Operation) : Prop where
  progresses : ∀ earlier later name, operations = earlier ++ later →
    Progresses name (Operation.run P identity w earlier) (Operation.run P identity w operations)
  inTurn : ∀ earlier later outside polls contactName route wide quiet,
    operations = earlier ++ Operation.fetch outside polls contactName route wide quiet :: later →
      AcceptsInTurn P contactName (Operation.run P identity w earlier)
        (Operation.execute P identity (Operation.run P identity w earlier)
          (.fetch outside polls contactName route wide quiet))
  attempts : ∀ earlier later outside polls contactName route wide quiet,
    operations = earlier ++ Operation.fetch outside polls contactName route wide quiet :: later →
      ∀ tag round item rest f,
        FetchTries P (sendDeliveryReceipt P outside identity) outside.env polls identity contactName
          route wide quiet (Operation.run P identity w earlier) tag round item rest f →
        NotBehind contactName f ∧ AcceptsNext P polls tag round item f

/-- **Acceptance in order.** Whatever the relays answer and wherever a command raises, the texts of
a contact are committed under rising numbers, and no number is taken twice or left out. -/
theorem accepted_in_order (P : Packages) (identity : Identity) (w : World)
    (operations : List Operation) : RunInOrder P identity w operations where
  progresses earlier later name hsplit := by
    subst hsplit
    rw [run_append]
    exact run_progresses identity _ later name
  inTurn earlier later outside polls contactName route wide quiet _ :=
    (fetch_progresses outside polls identity contactName route wide quiet _).2
  attempts earlier later outside polls contactName route wide quiet _ tag round item rest f
      htries := by
    refine ⟨htries.notBehind (keepsRecords_sendDeliveryReceipt outside identity), ?_⟩
    intro outer inner c _ hrun
    obtain ⟨_, hcheck, -⟩ := decryptInbound_ok hrun
    exact (checkInner_ok.mp hcheck).2.1

end Run

end Yakr
