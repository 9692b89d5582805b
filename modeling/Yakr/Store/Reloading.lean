import Mathlib.Data.List.DropRight
import Yakr.Core.ContactJson
import Yakr.Pairing.Contacts
import Yakr.Ratchet.Rollback
import Yakr.Session.Methods
import Yakr.Store.Created
import Yakr.Store.Persistence

/-!
# Yakr.Store.Reloading

**Contacts that survive persistence.** Every operation loads its contact from the JSON text of its
dictionary. `reload_eq_self_iff` says which of the contacts a device can come to hold are loaded as
they were stored.

* `splitNames_join_iff`: relay names survive between commas when each is plain;
* `Storable`: what holds of every contact a device can come to hold (`Reachable.storable`);
* `Contact.reload_eq`: what is loaded.
-/

namespace Yakr

open Lib Effect Relation

variable {P : Packages}

/-! ### Names between commas -/

/-- A relay name that neither the commas nor the strip of the parts touch. -/
structure PlainName (name : String) : Prop where
  nonempty : name ≠ ""
  noComma : ',' ∉ name.toList
  stripped : stripChars name.toList = name.toList

section Names

theorem splitComma_ne_nil (cs : List Char) : splitComma cs ≠ [] := by
  induction cs with
  | nil => rw [splitComma]; exact List.cons_ne_nil _ _
  | cons c cs ih =>
      rw [splitComma]
      split
      · exact List.cons_ne_nil _ _
      · split
        · exact List.cons_ne_nil _ _
        · exact List.cons_ne_nil _ _

theorem splitComma_cons {c : Char} {cs part : List Char} {parts : List (List Char)}
    (h : splitComma cs = part :: parts) :
    splitComma (c :: cs) = if c = ',' then [] :: part :: parts else (c :: part) :: parts := by
  rw [splitComma, h]

/-- No part has a comma. -/
theorem comma_notMem_splitComma {cs part : List Char} (h : part ∈ splitComma cs) : ',' ∉ part := by
  induction cs generalizing part with
  | nil =>
      rw [splitComma, List.mem_singleton] at h
      rw [h]
      exact List.not_mem_nil
  | cons c cs ih =>
      obtain ⟨first, rest, hsplit⟩ := List.exists_cons_of_ne_nil (splitComma_ne_nil cs)
      rw [splitComma_cons hsplit] at h
      split at h
      · rcases List.mem_cons.mp h with rfl | h
        · exact List.not_mem_nil
        · exact ih (hsplit ▸ h)
      · rename_i hc
        rcases List.mem_cons.mp h with rfl | h
        · rintro (_ | ⟨_, hmem⟩)
          · exact hc rfl
          · exact ih (hsplit ▸ List.mem_cons_self) hmem
        · exact ih (hsplit ▸ List.mem_cons_of_mem _ h)

/-- A text without a comma is one part. -/
theorem splitComma_of_notMem {cs : List Char} (h : ',' ∉ cs) : splitComma cs = [cs] := by
  induction cs with
  | nil => rfl
  | cons c cs ih =>
      have hc : c ≠ ',' := fun hc => h (hc ▸ List.mem_cons_self)
      rw [splitComma_cons (ih fun hmem => h (List.mem_cons_of_mem c hmem)), if_neg hc]

/-- A comma ends the first part. -/
theorem splitComma_append {cs rest : List Char} (h : ',' ∉ cs) :
    splitComma (cs ++ ',' :: rest) = cs :: splitComma rest := by
  induction cs with
  | nil =>
      obtain ⟨first, parts, hsplit⟩ := List.exists_cons_of_ne_nil (splitComma_ne_nil rest)
      rw [List.nil_append, splitComma_cons hsplit, if_pos rfl, hsplit]
  | cons c cs ih =>
      have hc : c ≠ ',' := fun hc => h (hc ▸ List.mem_cons_self)
      rw [List.cons_append, splitComma_cons (ih fun hmem => h (List.mem_cons_of_mem c hmem)),
        if_neg hc]

/-- The parts of joined names are the names. -/
theorem splitComma_join {names : List String} (hne : names ≠ [])
    (h : ∀ name ∈ names, ',' ∉ name.toList) :
    splitComma (",".intercalate names).toList = names.map String.toList := by
  induction names with
  | nil => exact absurd rfl hne
  | cons name names ih =>
      have hname := h name List.mem_cons_self
      cases names with
      | nil =>
          rw [String.intercalate_singleton, splitComma_of_notMem hname]
          rfl
      | cons next names =>
          have hrest := ih (List.cons_ne_nil _ _) fun n hn => h n (List.mem_cons_of_mem name hn)
          have hjoin : (",".intercalate (name :: next :: names)).toList
              = name.toList ++ ',' :: (",".intercalate (next :: names)).toList := by
            rw [String.intercalate_cons_cons, String.toList_append, String.toList_append,
              List.append_assoc]
            rfl
          rw [hjoin, splitComma_append hname, hrest]
          rfl

theorem stripChars_stripChars (cs : List Char) : stripChars (stripChars cs) = stripChars cs := by
  have hfirst : (stripChars cs).dropWhile isPySpace = stripChars cs := by
    rw [List.dropWhile_eq_self_iff]
    intro hpos
    have hprefix : stripChars cs <+: cs.dropWhile isPySpace := List.rdropWhile_prefix _ _
    have hhead := List.dropWhile_get_zero_not isPySpace cs (hpos.trans_le hprefix.length_le)
    rwa [List.get_eq_getElem, ← hprefix.getElem hpos] at hhead
  rw [stripChars, hfirst]
  exact List.rdropWhile_idempotent isPySpace (cs.dropWhile isPySpace)

theorem stripChars_subset (cs : List Char) : stripChars cs ⊆ cs := by
  intro c hc
  rw [stripChars, List.mem_reverse] at hc
  have hc' := List.mem_reverse.mp ((List.dropWhile_sublist _).subset hc)
  exact (List.dropWhile_sublist _).subset hc'

/-- What `split` and `strip` give is plain. -/
theorem plainName_of_mem_splitNames {value name : String} (h : name ∈ splitNames value) :
    PlainName name := by
  rw [splitNames, List.mem_filterMap] at h
  obtain ⟨part, hpart, hname⟩ := h
  obtain ⟨raw, hraw, rfl⟩ := List.mem_map.mp hpart
  split at hname
  · cases hname
  · rename_i hne
    obtain rfl := Option.some.inj hname
    refine ⟨fun hempty => hne ?_, ?_, ?_⟩
    · rw [← String.toList_ofList (l := stripChars raw), hempty]
      rfl
    · rw [String.toList_ofList]
      exact fun hmem => comma_notMem_splitComma hraw (stripChars_subset raw hmem)
    · rw [String.toList_ofList, stripChars_stripChars]

/-- **Names survive** between commas exactly when each is plain. -/
theorem splitNames_join_iff {names : List String} (hne : names ≠ []) :
    splitNames (",".intercalate names) = names ↔ ∀ name ∈ names, PlainName name := by
  constructor
  · intro h name hname
    exact plainName_of_mem_splitNames (h ▸ hname)
  · intro h
    rw [splitNames, splitComma_join hne fun name hname => (h name hname).noComma, List.map_map]
    have hkeep : ∀ name ∈ names, ((fun part => if part = [] then none
        else some (String.ofList part)) ∘ stripChars ∘ String.toList) name = some name := by
      intro name hname
      obtain ⟨hempty, -, hstripped⟩ := h name hname
      have hlist : name.toList ≠ [] := fun hnil => hempty (String.toList_eq_nil_iff.mp hnil)
      simp only [Function.comp_apply, hstripped, if_neg hlist, String.ofList_toList]
    rw [List.filterMap_map, List.filterMap_congr hkeep, List.filterMap_some]

end Names

/-! ### Ratchets -/

/-- A ratchet that its dictionary says everything about. -/
structure SoundRatchet (s : RatchetState) : Prop extends RatchetState.KeysNonempty s where
  distinct : (s.skippedKeys.map Prod.fst).Nodup

namespace RatchetState

def KeepsSound (s s' : RatchetState) : Prop := SoundRatchet s → SoundRatchet s'

theorem kdfRk_ne_nil (rootKey dhOutput : Bytes) : (kdfRk P rootKey dhOutput).2 ≠ [] := by
  have hlen : (kdfRk P rootKey dhOutput).2.length = 32 := by simp [kdfRk]
  exact List.ne_nil_of_length_pos (by omega)

theorem kdfCk_ne_nil (chainKey : Bytes) : (kdfCk P chainKey).2 ≠ [] := by
  have hlen : (kdfCk P chainKey).2.length = 32 := by simp [kdfCk]
  exact List.ne_nil_of_length_pos (by omega)

theorem some_ne {b : Bytes} (h : b ≠ []) : some b ≠ some [] := fun hsome => h (Option.some.inj hsome)

/-- The send chain of a pairing starts with a key. -/
theorem keepsSound_pairingSendInit (peer : Bytes) (g : PrivateKey) :
    Steps KeepsSound (pairingSendInit P peer g) := by
  unfold pairingSendInit
  by_cases hlen : peer.length = 32
  · have hpeer : peer ≠ [] := List.ne_nil_of_length_pos (by omega)
    rw [if_neg (not_not_intro hlen)]
    refine (Steps.modify fun s h => ?_).bind fun _ => Steps.get.bind fun s => ?_
    · exact { h with dhPeerPublic := some_ne hpeer }
    refine (Steps.orRaise _).bind fun dhSelf => (Steps.orRaise _).bind fun dhOutput => ?_
    refine Steps.get.bind fun s => (Steps.modify fun s h => ?_).bind fun _ => ?_
    · exact { h with }
    refine (Steps.orRaise _).bind fun dhOutput' => Steps.modify fun s h => ?_
    exact { h with sendChainKey := some_ne (kdfRk_ne_nil _ _) }
  · rw [if_pos hlen]
    exact fun _ => .refl

theorem keepsSound_encrypt (g : PrivateKey) (nonce : Nonce) (plaintext : Bytes) :
    Steps KeepsSound (encrypt P g nonce plaintext) := by
  unfold encrypt
  refine .bind ?_ fun _ => .bind ?_ fun messageKey => Steps.get.bind fun s => ?_
  · unfold takePendingPeer
    refine Steps.get.bind fun s => ?_
    cases s.pendingPairingDhRatchetPeer with
    | none => exact .pure _
    | some peer =>
        refine (Steps.modify fun s h => ?_).bind fun _ => keepsSound_pairingSendInit peer g
        exact { h with pendingPeer := nofun }
  · unfold nextSendKey
    refine Steps.get.bind fun s => ?_
    cases s.sendChainKey with
    | none => exact .raise _
    | some chainKey =>
        refine (Steps.modify fun s h => ?_).bind fun _ => .pure _
        exact { h with sendChainKey := some_ne (kdfCk_ne_nil _) }
  · refine (Steps.orRaise _).bind fun aad => (Steps.orRaise _).bind fun ciphertext => ?_
    refine (Steps.modify fun s h => ?_).bind fun _ => .pure _
    exact { h with }

/-- A turn of the ratchet to a peer key. -/
theorem keepsSound_dhRatchet {peer : Bytes} (hpeer : peer ≠ []) (g : PrivateKey) :
    Steps KeepsSound (dhRatchet P peer g) := by
  unfold dhRatchet
  refine (Steps.modify fun s h => ?_).bind fun _ => Steps.get.bind fun s => ?_
  · exact { h with dhPeerPublic := some_ne hpeer, distinct := List.nodup_nil }
  refine (Steps.orRaise _).bind fun dhSelf => (Steps.orRaise _).bind fun dhOutput => ?_
  refine (Steps.modify fun s h => ?_).bind fun _ => (Steps.modify fun s h => ?_).bind fun _ => ?_
  · exact { h with recvChainKey := some_ne (kdfRk_ne_nil _ _) }
  · exact { h with }
  refine (Steps.orRaise _).bind fun dhOutput' => Steps.modify fun s h => ?_
  exact { h with sendChainKey := some_ne (kdfRk_ne_nil _ _) }

/-- A stored position replaces one of the same key. -/
theorem nodup_put {e : String × String} {entries : List (String × String)}
    (h : (entries.map Prod.fst).Nodup) : ((Table.put Prod.fst e entries).map Prod.fst).Nodup := by
  rw [Table.put]
  split
  · rw [List.map_map]
    have hsame : Prod.fst ∘ (fun x => if x.1 = e.1 then e else x)
        = (Prod.fst : String × String → String) := by
      funext x
      by_cases hx : x.1 = e.1
      · simp [hx]
      · simp [hx]
    rwa [hsame]
  · rename_i hfresh
    rw [List.map_append, List.nodup_append]
    refine ⟨h, List.nodup_singleton _, fun a ha b hb hab => hfresh ?_⟩
    obtain ⟨x, hx, rfl⟩ := List.mem_map.mp ha
    rw [List.mem_singleton.mp hb] at hab
    exact List.any_eq_true.mpr ⟨x, hx, decide_eq_true hab⟩

theorem keepsSound_skipPositions (peer : Bytes) (count : Nat) (chainKey : Bytes) :
    Steps KeepsSound (skipPositions P peer count chainKey) := by
  induction count generalizing chainKey with
  | zero => exact .pure _
  | succ count ih =>
      unfold skipPositions
      refine (Steps.modify fun s h => ?_).bind fun _ => ih _
      exact { h with recvChainKey := some_ne (kdfCk_ne_nil _), distinct := nodup_put h.distinct }

theorem keepsSound_receiveKey (peer : Bytes) (n : Nat) (chainKey : Bytes) :
    Steps KeepsSound (receiveKey P peer n chainKey) := by
  unfold receiveKey
  refine Steps.get.bind fun s => .ite _ ?_ ?_
  · split
    · exact .pure _
    · exact .raise _
    · exact .raise _
  · refine .guard (.guard ?_)
    refine (keepsSound_skipPositions peer _ chainKey).bind fun chainKey' => ?_
    refine (Steps.modify fun s h => ?_).bind fun _ => .pure _
    exact { h with recvChainKey := some_ne (kdfCk_ne_nil _) }

theorem keepsSound_openPayload {peer : Bytes} (hpeer : peer ≠ []) (prevN n : Nat)
    (ciphertext : Bytes) (g : PrivateKey) :
    Steps KeepsSound (openPayload P peer prevN n ciphertext g) := by
  unfold openPayload
  refine .bind ?_ fun _ => Steps.get.bind fun s => ?_
  · unfold turnTo
    refine Steps.get.bind fun s => ?_
    cases s.dhPeerPublic with
    | none =>
        refine Steps.modify fun s h => ?_
        exact { h with dhPeerPublic := some_ne hpeer }
    | some known => exact .ite _ (keepsSound_dhRatchet hpeer g) (.pure _)
  · cases s.recvChainKey with
    | none => exact .raise _
    | some chainKey =>
        refine (keepsSound_receiveKey peer n chainKey).bind fun messageKey => ?_
        exact (Steps.orRaise _).bind fun aad => Steps.orRaise _

theorem orNone_ne_some_nil (b : Bytes) : orNone b ≠ some [] := by
  rw [orNone]
  split
  · exact (Option.some_ne_none _).symm
  · rename_i hb
    exact some_ne hb

/-- What is read from a dictionary has no empty key. -/
theorem fromDict_ok {d : RatchetDict} {s : RatchetState} (h : fromDict d = .ok s) :
    KeysNonempty s ∧ s.skippedKeys = d.skippedKeys := by
  unfold fromDict at h
  by_cases hversion : d.version = 2
  · rw [if_neg (not_not_intro hversion)] at h
    obtain ⟨peer, -, h⟩ := bind_ok.mp h
    obtain ⟨sendChain, -, h⟩ := bind_ok.mp h
    obtain ⟨recvChain, -, h⟩ := bind_ok.mp h
    obtain ⟨pendingPeer, -, h⟩ := bind_ok.mp h
    obtain ⟨rootKey, -, h⟩ := bind_ok.mp h
    obtain ⟨dhSelfPrivate, -, h⟩ := bind_ok.mp h
    obtain ⟨dhSelfPublic, -, h⟩ := bind_ok.mp h
    obtain rfl := Except.ok.inj h
    exact ⟨⟨orNone_ne_some_nil _, orNone_ne_some_nil _, orNone_ne_some_nil _,
      orNone_ne_some_nil _⟩, rfl⟩
  · rw [if_pos hversion] at h
    cases h

/-- A snapshot brings its keys back, and leaves the skipped positions. -/
theorem keepsSound_restoreSnapshot (snapshot : RatchetDict) :
    Steps KeepsSound (restoreSnapshot snapshot) := by
  intro s
  cases hread : fromDict { snapshot with skippedKeys := s.skippedKeys } with
  | error e =>
      have hrun : (restoreSnapshot snapshot).run s = .error e s := by
        rw [restoreSnapshot, run_get_bind, EStateM.run_bind, hread]
        rfl
      rw [hrun]
      exact .refl
  | ok r =>
      have hrun : (restoreSnapshot snapshot).run s = .ok ⟨⟩ r := by
        rw [restoreSnapshot, run_get_bind, EStateM.run_bind, hread]
        rfl
      rw [hrun]
      obtain ⟨hkeys, hskipped⟩ := fromDict_ok hread
      exact .single fun h => { hkeys with distinct := hskipped ▸ h.distinct }

theorem keepsSound_decrypt (g : PrivateKey) (payload : Bytes) :
    Steps KeepsSound (decrypt P g payload) := by
  unfold decrypt
  by_cases hlen : payload.length < ratchetMagic.length + 32 + 8
  · rw [if_pos hlen]
    exact fun _ => .refl
  · rw [if_neg hlen]
    have hpeer : headerPublic payload ≠ [] := by
      rw [length_ratchetMagic] at hlen
      refine List.ne_nil_of_length_pos ?_
      rw [headerPublic, List.length_take, List.length_drop]
      omega
    refine .guard (Steps.get.bind fun s => ?_)
    refine .tryCatch (keepsSound_openPayload hpeer _ _ _ g) fun e => ?_
    exact (keepsSound_restoreSnapshot _).bind fun _ => .raise _

end RatchetState

/-! ### Contacts -/

/-- What holds of every contact a device can come to hold. -/
structure StorableContact (c : Contact) : Prop where
  ratchet : ∀ r ∈ c.ratchet, SoundRatchet r
  deliveryProfile : ∀ p ∈ c.deliveryProfile, StrippedUrls p

def KeepsStorable (c c' : Contact) : Prop := StorableContact c → StorableContact c'

theorem keepsStorable_onRatchet {α : Type} {m : RatchetM α}
    (hm : Steps RatchetState.KeepsSound m) : Steps KeepsStorable (onRatchet m) := by
  intro c
  cases hr : c.ratchet with
  | none =>
      have hrun : (onRatchet m).run c
          = .error (.attributeError "'NoneType' object has no attribute") c := by
        show (onRatchet m) c = _
        simp [onRatchet, hr]
      rw [hrun]
      exact .refl
  | some r =>
      have hafter : after ((onRatchet m).run c) = { c with ratchet := some (after (m.run r)) } := by
        rw [onRatchet_run hr]
        cases m.run r with
        | ok a r' => rfl
        | error e r' => rfl
      rw [hafter]
      refine .single fun h => ⟨fun r' hr' => ?_, h.deliveryProfile⟩
      obtain rfl := Option.some.inj hr'
      exact hm.invariant (fun s s' hs hstep => hstep hs) (h.ratchet r hr)

theorem keepsStorable_encryptMessage (identity : Identity) (draws : Draws)
    (build : String → String → Int → InnerMessage) :
    Steps KeepsStorable (encryptMessage P identity draws build) := by
  unfold encryptMessage requireFreshSession encryptInner
  refine .bind (Steps.get.bind fun c => .ite _ (.raise _) (.pure _)) fun _ => ?_
  refine Steps.get.bind fun c => .bind ?_ ?_
  · refine Steps.get.bind fun c => (Steps.orRaise _).bind ?_
    rintro ⟨padded, added⟩
    refine (keepsStorable_onRatchet ?_).bind fun _ => .pure _
    exact RatchetState.keepsSound_encrypt _ _ _
  · rintro ⟨ciphertext, added⟩
    refine Steps.get.bind fun c => (Steps.orRaise _).bind fun tag => ?_
    refine (Steps.modify fun c h => ?_).bind fun _ => .pure _
    exact ⟨h.ratchet, h.deliveryProfile⟩

theorem keepsStorable_decryptInbound (g : PrivateKey) (now : Int) (outer : OuterBlob) :
    Steps KeepsStorable (decryptInbound P g now outer) := by
  have hrollback : ∀ snapshot, Steps KeepsStorable (rollbackRatchet snapshot) := fun snapshot =>
    keepsStorable_onRatchet (RatchetState.keepsSound_restoreSnapshot snapshot)
  have hdict : Steps KeepsStorable ratchetDict :=
    keepsStorable_onRatchet (Steps.get.bind fun _ => .pure _)
  unfold decryptInbound
  refine hdict.bind fun before => .bind ?_ fun inner => ?_
  · unfold decryptOuter
    refine Steps.get.bind fun c => hdict.bind fun before => .bind ?_ fun padded => ?_
    · refine (keepsStorable_onRatchet ?_).tryCatch fun e => .raise _
      exact RatchetState.keepsSound_decrypt g outer.ciphertext
    · split
      · exact (hrollback _).bind fun _ => .raise _
      · refine (Steps.orRaise _).bind fun inner => ?_
        split
        · exact (hrollback _).bind fun _ => .raise _
        · refine (Steps.modify fun c h => ?_).bind fun _ => .pure _
          exact ⟨h.ratchet, h.deliveryProfile⟩
  · split
    · exact (hrollback _).bind fun _ => .pure _
    · exact .pure _

/-- What happens to a contact after its pairing. -/
inductive ContactStep (P : Packages) (identity : Identity) : Contact → Contact → Prop where
  /-- An `encrypt_*` method, whether it returns or raises. -/
  | encrypted (c : Contact) (draws : Draws) (build : String → String → Int → InnerMessage) :
      ContactStep P identity c (after ((encryptMessage P identity draws build).run c))
  /-- The rollback of a receipt, with the number it counted or the one before. -/
  | undone (c : Contact) (nextSendSeq : Int) :
      ContactStep P identity c { c with
        ratchet := c.ratchet.map fun r => r.rolledBack r.skippedKeys
        nextSendSeq }
  /-- An inbound blob, whether it is decrypted or refused. -/
  | decrypted (c : Contact) (generated : PrivateKey) (now : Int) (outer : OuterBlob) :
      ContactStep P identity c (after ((decryptInbound P generated now outer).run c))
  /-- A profile update of the peer. -/
  | updated {c c' : Contact} {data signingPublic : Bytes} {profile : DeliveryProfile} {now : Int}
      (hread : DeliveryProfile.fromBytes P data = .ok profile)
      (hupdate : applyDeliveryProfileUpdate P c profile signingPublic now = .ok c') :
      ContactStep P identity c c'
  /-- `apply_peer_profile_ack`. -/
  | acknowledged (c : Contact) (profile : DeliveryProfile) :
      ContactStep P identity c { c with
        peerAckedMyProfileVersion := profile.version
        peerAckedMyRelayNames := relayNamesFromProfile profile }
  /-- `record_profile_ack_on_receipt`, with what was noted when the profile was sent. -/
  | receipted (c : Contact) (profileVersion : Int) (relayNames : List String) :
      ContactStep P identity c (applyPeerProfileAckPending c profileVersion relayNames)
  | privacyMode (c : Contact) (privacyMode : PrivacyMode) :
      ContactStep P identity c { c with privacyMode }
  /-- The next operation loads what this one has stored. -/
  | reloaded {c c' : Contact} (hreload : c.reload P = .ok c') : ContactStep P identity c c'

/-- A contact a device can come to hold. -/
def ReachableContact (P : Packages) (identity : Identity) (c : Contact) : Prop :=
  ∃ c₀, NewlyPaired P identity c₀ ∧ ReflTransGen (ContactStep P identity) c₀ c

/-! ### Loading -/

section Loading

variable {identity : Identity} {c c' : Contact}

/-- **What is loaded** from the JSON text of a contact. -/
theorem Contact.reload_eq (hcbor : P.CborLaws) (h : StorableContact c) :
    c.reload P = .ok c.readBack := by
  have hskipped : ∀ r ∈ (c.toDict P).ratchet, (r.skippedKeys.map Prod.fst).Nodup := by
    intro r hr
    obtain ⟨r', hr', rfl⟩ := Option.map_eq_some_iff.mp hr
    exact (h.ratchet r' hr').distinct
  rw [Contact.reload, jsonLoads, Json.loads_dumpsSpaced _ (c.toDict P).integral_toJson]
  show Contact.fromJson P (c.toDict P).toJson = _
  rw [Contact.fromJson_toJson P hskipped, c.fromDict_toDict_eq hcbor]

/-- A sound ratchet is the one its dictionary gives back. -/
theorem SoundRatchet.rolledBack_eq {r : RatchetState} (h : SoundRatchet r) :
    r.rolledBack r.skippedKeys = r := by
  simp only [RatchetState.rolledBack, RatchetState.bind_orNone_eq.mpr h.dhPeerPublic,
    RatchetState.bind_orNone_eq.mpr h.sendChainKey, RatchetState.bind_orNone_eq.mpr h.recvChainKey,
    RatchetState.bind_orNone_eq.mpr h.pendingPeer]

/-- What is loaded is a contact of the same kind. -/
theorem StorableContact.readBack (h : StorableContact c) : StorableContact c.readBack := by
  constructor
  · intro r hr
    obtain ⟨r', hr', rfl⟩ := Option.map_eq_some_iff.mp hr
    have hsound := h.ratchet r' hr'
    rwa [hsound.rolledBack_eq]
  · intro p hp d hd
    obtain ⟨p', -, rfl⟩ := Option.map_eq_some_iff.mp hp
    obtain ⟨d', -, rfl⟩ := List.mem_map.mp hd
    exact rstripSlash_rstripSlash d'.url

/-- One step keeps what loading relies on. -/
theorem StorableContact.step (hcbor : P.CborLaws) (h : StorableContact c)
    (hstep : ContactStep P identity c c') : StorableContact c' := by
  cases hstep with
  | encrypted draws build =>
      exact (keepsStorable_encryptMessage identity draws build).invariant
        (fun s s' hs hkeeps => hkeeps hs) h
  | undone nextSendSeq => exact ⟨h.readBack.ratchet, h.deliveryProfile⟩
  | decrypted generated now outer =>
      exact (keepsStorable_decryptInbound generated now outer).invariant
        (fun s s' hs hkeeps => hkeeps hs) h
  | updated hread hupdate =>
      obtain ⟨-, -, hupdate⟩ := bind_ok.mp hupdate
      obtain ⟨-, -, hupdate⟩ := bind_ok.mp hupdate
      obtain rfl := Except.ok.inj hupdate
      refine ⟨h.ratchet, fun p hp => ?_⟩
      obtain rfl := Option.some.inj hp
      exact DeliveryProfile.fromBytes_strippedUrls hread
  | acknowledged profile => exact ⟨h.ratchet, h.deliveryProfile⟩
  | receipted profileVersion relayNames =>
      unfold applyPeerProfileAckPending
      split
      · exact ⟨h.ratchet, h.deliveryProfile⟩
      · exact h
  | privacyMode privacyMode => exact ⟨h.ratchet, h.deliveryProfile⟩
  | reloaded hreload =>
      rw [Contact.reload_eq hcbor h] at hreload
      exact Except.ok.inj hreload ▸ h.readBack

/-- The ratchet of a pairing is sound. -/
theorem soundRatchet_fromMaster (masterSecret : Bytes) (isInitiator hybrid : Bool) (k : PrivateKey) :
    SoundRatchet (RatchetState.fromMaster P masterSecret isInitiator hybrid k) := by
  have hchain : ∀ root info, hkdfDerive P root info ≠ [] := fun root info =>
    List.ne_nil_of_length_pos (by rw [length_hkdfDerive]; decide)
  refine { dhPeerPublic := nofun, sendChainKey := ?_, recvChainKey := ?_, pendingPeer := nofun
           distinct := List.nodup_nil }
  · cases isInitiator with
    | true => exact RatchetState.some_ne (hchain _ _)
    | false => exact RatchetState.some_ne (hchain _ _)
  · cases isInitiator with
    | true => exact RatchetState.some_ne (hchain _ _)
    | false => exact RatchetState.some_ne (hchain _ _)

theorem strippedUrls_of_pairing {data signingPublic : Bytes} {read : Option DeliveryProfile}
    (h : profileFromPairingBytes P data signingPublic = .ok read) :
    ∀ p ∈ read, StrippedUrls p := by
  unfold profileFromPairingBytes at h
  split at h
  · obtain rfl := Except.ok.inj h
    exact nofun
  · obtain ⟨profile, hprofile, h⟩ := bind_ok.mp h
    obtain ⟨-, -, h⟩ := bind_ok.mp h
    obtain rfl := Except.ok.inj h
    intro p hp
    obtain rfl := Option.some.inj hp
    exact DeliveryProfile.fromBytes_strippedUrls hprofile

theorem NewlyPaired.storable (h : NewlyPaired P identity c) : StorableContact c := by
  cases h with
  | @inviter invite request ephemeral ratchet profile now response contact h =>
      have hlen := (validate_ok_iff.mp (inviterCompletePairing_validates h)).2.1
      obtain ⟨_, _, master, _, _, _, -, -, hprofile, -, rfl⟩ := inviterCompletePairing_ok h
      refine ⟨fun r hr => ?_, strippedUrls_of_pairing hprofile⟩
      obtain rfl := Option.some.inj hr
      have hsound : SoundRatchet (RatchetState.fromMaster P master true
        (inviteSupportsHybrid invite) ratchet) := soundRatchet_fromMaster _ _ _ _
      exact { hsound with
        pendingPeer := RatchetState.some_ne (List.ne_nil_of_length_pos (by omega)) }
  | @joiner invite request secrets response now contact name h =>
      obtain ⟨master, _, _, _, _, -, hratchet, hprofile, rfl⟩ := joinerCompletePairing_ok h
      obtain ⟨hpeer, root, chain, hchain, rfl⟩ := RatchetState.pairingRecvInit_ok hratchet
      refine ⟨fun r hr => ?_, strippedUrls_of_pairing hprofile⟩
      obtain rfl := Option.some.inj hr
      have hsound : SoundRatchet (RatchetState.fromMaster P master false
        (inviteSupportsHybrid invite) secrets.ratchetPrivate) := soundRatchet_fromMaster _ _ _ _
      exact { hsound with
        dhPeerPublic := RatchetState.some_ne (List.ne_nil_of_length_pos (by omega))
        recvChainKey := RatchetState.some_ne (List.ne_nil_of_length_pos (by omega)) }

/-- Every contact a device can come to hold is storable. -/
theorem ReachableContact.storable (hcbor : P.CborLaws) (h : ReachableContact P identity c) :
    StorableContact c := by
  obtain ⟨c₀, hpaired, hsteps⟩ := h
  induction hsteps with
  | refl => exact hpaired.storable
  | tail _ hstep ih => exact ih.step hcbor hstep

/-- **Persistence.** A contact is loaded as it was stored exactly when each acknowledged relay name
is plain, and each descriptor of the peer's profile that names a generation has its salt. -/
theorem reload_eq_self_iff (hcbor : P.CborLaws) (h : ReachableContact P identity c) :
    c.reload P = .ok c ↔
      (∀ name ∈ c.peerAckedMyRelayNames, PlainName name)
        ∧ ∀ p ∈ c.deliveryProfile, ∀ d ∈ p.relayDescriptors,
          d.capabilityIssuanceSalt = [] → d.capabilityGeneration = 0 := by
  have hstorable := h.storable hcbor
  have hratchet : (c.ratchet.map fun r => r.rolledBack r.skippedKeys) = c.ratchet := by
    cases hr : c.ratchet with
    | none => rfl
    | some r => rw [Option.map_some, (hstorable.ratchet r hr).rolledBack_eq]
  have hprofile : c.deliveryProfile.map DeliveryProfile.canonical = c.deliveryProfile
      ↔ ∀ p ∈ c.deliveryProfile, ∀ d ∈ p.relayDescriptors,
        d.capabilityIssuanceSalt = [] → d.capabilityGeneration = 0 := by
    cases hp : c.deliveryProfile with
    | none => simp
    | some p =>
        have hurls := hstorable.deliveryProfile p hp
        rw [Option.map_some, Option.some_inj, DeliveryProfile.canonical_eq_self_iff]
        simp only [RelayDescriptor.canonical_eq_self_iff, Option.mem_some_iff, forall_eq']
        exact forall₂_congr fun d hd => and_iff_right (hurls d hd)
  have hnames : (if c.peerAckedMyRelayNames = [] then []
      else splitNames (",".intercalate c.peerAckedMyRelayNames)) = c.peerAckedMyRelayNames
      ↔ ∀ name ∈ c.peerAckedMyRelayNames, PlainName name := by
    by_cases hempty : c.peerAckedMyRelayNames = []
    · simp [hempty]
    · rw [if_neg hempty]
      exact splitNames_join_iff hempty
  rw [Contact.reload_eq hcbor hstorable, Except.ok.injEq, ← hnames, ← hprofile]
  constructor
  · intro hsame
    exact ⟨congrArg Contact.peerAckedMyRelayNames hsame, congrArg Contact.deliveryProfile hsame⟩
  · rintro ⟨hsameNames, hsameProfile⟩
    rw [Contact.readBack, hratchet, hsameNames, hsameProfile]

end Loading

/-! ### A name with a comma -/

namespace ReloadingSample

open CreatedSample

def inviter : Identity :=
  { name := "bob"
    signingPrivate := BytesN.fill 32 4
    agreementPrivate := BytesN.fill 32 5 }

/-- A drawn key. -/
def key (n : UInt8) : PrivateKey := BytesN.fill 32 n

/-- Alice's profile, with a relay of this name. -/
def profileNaming (relayName : String) : DeliveryProfile :=
  createDeliveryProfile packages identity [{ relay "https://relay" with name := relayName }] none
    3600 none none "minimal" 604800000 none (List.replicate 32 7) 1700000000000

theorem fromBytes_profileNaming (relayName : String) :
    DeliveryProfile.fromBytes packages ((profileNaming relayName).toBytes packages)
      = .ok (profileNaming relayName) := by
  have hcanonical : (profileNaming relayName).canonical = profileNaming relayName := by
    rw [DeliveryProfile.canonical_eq_self_iff]
    intro d hd
    obtain rfl := List.mem_singleton.mp hd
    have hurl : rstripSlash (relay "https://relay").url = (relay "https://relay").url := by decide
    exact RelayDescriptor.canonical_eq_self_iff.mpr ⟨hurl, fun _ => rfl⟩
  rw [DeliveryProfile.fromBytes_toBytes cborLaws, hcanonical]

theorem toBytes_profileNaming_ne_nil (relayName : String) :
    (profileNaming relayName).toBytes packages ≠ [] := by
  intro hempty
  have hread := fromBytes_profileNaming relayName
  rw [hempty] at hread
  cases hread

theorem ownProfile_profileNaming (relayName : String) :
    OwnProfile packages identity ((profileNaming relayName).toBytes packages) :=
  Or.inr ⟨_, fromBytes_profileNaming relayName, verifyDeliveryProfile_created signatureLaws _ _ _ _ _
    _ _ _ _ _ _⟩

/-- Alice joins Bob, and sends him her profile. -/
theorem alice_joins (relayName : String) : ∃ c, ReachableContact packages identity c
    ∧ c.peerAckedMyRelayNames = [relayName] ∧ c.deliveryProfile = none := by
  obtain ⟨invite, hinvite⟩ : ∃ invite, createInvite packages inviter "https://relay" []
      defaultInviteTtlMs false 0 (key 5) = .ok invite := ⟨_, rfl⟩
  have hclassical := inviteSupportsHybrid_createInvite hinvite
  have hkeys : Keys packages inviter invite :=
    ⟨⟨plainPackages_dhLaws.comm, plainPackages_dhLaws.isSome⟩,
      fun h => absurd (hclassical.symm.trans h) Bool.false_ne_true,
      issuedBy_createInvite _ hinvite,
      fun h => absurd (hclassical.symm.trans h) Bool.false_ne_true⟩
  obtain ⟨request, secrets, hbuilt⟩ : ∃ request secrets, buildPairingRequest packages identity
      invite "alice" ((profileNaming relayName).toBytes packages) (key 6) (key 7) []
        = .ok (request, secrets) :=
    buildPairingRequest_run fun hhybrid => hkeys.length_kemPublic hhybrid
  have hinviter : OwnProfile packages inviter [] := Or.inl rfl
  obtain ⟨response, atBob, hanswered⟩ := hkeys.inviterCompletes hbuilt
    (ownProfile_profileNaming relayName) hinviter (key 8) (key 9) 0
  obtain ⟨contact, hjoined⟩ := hkeys.joinerCompletes hbuilt (ownProfile_profileNaming relayName)
    hinviter hanswered 0
  obtain ⟨-, -, hprofile⟩ := joinerCompletePairing_session hjoined
  obtain ⟨_, _, _, _, _, _, -, -, -, hresponse, -⟩ := inviterCompletePairing_ok hanswered
  obtain ⟨_, _, -, hrequest, -⟩ := buildPairingRequest_ok hbuilt
  obtain ⟨contact₀, hacked⟩ := joinerCompletePairing_acked hjoined
  have hpaired : NewlyPaired packages identity { contact with name := contact.name } :=
    .joiner contact.name hjoined
  refine ⟨contact, ⟨contact, hpaired, .refl⟩, ?_, ?_⟩
  · have hsent : request.joinerProfile = (profileNaming relayName).toBytes packages := by
      rw [hrequest]
    rw [hsent] at hacked
    obtain ⟨profile, hread, hnames⟩ := applyPeerProfileAckFromBytes_names hacked
      (toBytes_profileNaming_ne_nil relayName)
    rw [fromBytes_profileNaming] at hread
    rw [hnames, ← Except.ok.inj hread]
    rfl
  · rw [hresponse] at hprofile
    exact hprofile rfl

end ReloadingSample

open CreatedSample ReloadingSample in
/-- Alice has joined Bob with a profile whose relay is named "home, attic". Of her contact of Bob
she loads two names. -/
theorem comma_in_name_lost : ∃ c c',
    ReachableContact packages identity c ∧ c.peerAckedMyRelayNames = ["home, attic"]
      ∧ c.reload packages = .ok c' ∧ c'.peerAckedMyRelayNames = ["home", "attic"]
      ∧ c.reload packages ≠ .ok c := by
  obtain ⟨c, hreachable, hnames, -⟩ := alice_joins "home, attic"
  have hload := Contact.reload_eq cborLaws (hreachable.storable cborLaws)
  have hsplit : c.readBack.peerAckedMyRelayNames = ["home", "attic"] := by
    show (if c.peerAckedMyRelayNames = [] then [] else splitNames _) = _
    rw [hnames]
    decide +kernel
  refine ⟨c, c.readBack, hreachable, hnames, hload, hsplit, fun hsame => ?_⟩
  rw [hload] at hsame
  rw [Except.ok.inj hsame, hnames] at hsplit
  exact absurd hsplit (by decide)

open CreatedSample ReloadingSample in
/-- A plain name survives. -/
theorem plain_name_reloads : ∃ c, ReachableContact packages identity c
    ∧ c.peerAckedMyRelayNames = ["home"] ∧ c.reload packages = .ok c := by
  obtain ⟨c, hreachable, hnames, hprofile⟩ := alice_joins "home"
  refine ⟨c, hreachable, hnames, (reload_eq_self_iff cborLaws hreachable).mpr ⟨?_, ?_⟩⟩
  · rw [hnames]
    intro name hname
    obtain rfl := List.mem_singleton.mp hname
    exact ⟨by decide, by decide, by decide⟩
  · rw [hprofile]
    exact nofun

end Yakr
