import Yakr.Pairing.Completion

/-!
# Yakr.Pairing.Contacts

**The contacts a pairing makes.** Both sides end with a contact that counts from one, whose ratchet
has a send chain and has sent nothing. The joiner may store it under a name of its own.
-/

namespace Yakr

open Lib Effect

variable {P : Packages}

/-- A contact as one of the two sides of a pairing returns it. -/
inductive NewlyPaired (P : Packages) (identity : Identity) : Contact → Prop where
  /-- `inviter_complete_pairing`. -/
  | inviter {invite : InviteBundle} {request : PairingRequest} {ephemeral ratchet : PrivateKey}
      {profile : Bytes} {now : Int} {response : PairingResponse} {contact : Contact}
      (h : inviterCompletePairing P identity invite request ephemeral ratchet profile now
        = .ok (response, contact)) : NewlyPaired P identity contact
  /-- `joiner_complete_pairing`, and the name the contact is stored under. -/
  | joiner {invite : InviteBundle} {request : PairingRequest} {secrets : PairingSecrets}
      {response : PairingResponse} {now : Int} {contact : Contact} (name : String)
      (h : joinerCompletePairing P identity invite request secrets response now = .ok contact) :
      NewlyPaired P identity { contact with name }

namespace RatchetState

/-- What the joiner's key agreement changes of its ratchet. -/
theorem pairingRecvInit_ok {peer : Bytes} {s s' : RatchetState}
    (h : runRatchet (pairingRecvInit P peer) s = .ok s') :
    peer.length = 32 ∧ ∃ root chain, chain.length = 32
      ∧ s' = { s with
          dhPeerPublic := some peer, rootKey := root, recvChainKey := some chain, recvN := 0 } := by
  unfold runRatchet at h
  cases hrun : (pairingRecvInit P peer).run s with
  | error e t =>
      rw [hrun] at h
      cases h
  | ok u t =>
      rw [hrun] at h
      obtain rfl := Except.ok.inj h
      unfold pairingRecvInit at hrun
      by_cases hlen : peer.length = 32
      · rw [if_neg (not_not_intro hlen), run_modify_bind, run_get_bind] at hrun
        obtain ⟨dhSelf, -, hrun⟩ := run_orRaise_bind_ok.mp hrun
        obtain ⟨dhOutput, -, hrun⟩ := run_orRaise_bind_ok.mp hrun
        refine ⟨hlen, (kdfRk P s.rootKey dhOutput).1, (kdfRk P s.rootKey dhOutput).2, ?_, ?_⟩
        · simp [kdfRk]
        · cases hrun
          rfl
      · rw [if_pos hlen] at hrun
        cases hrun

end RatchetState

/-- What is common to the contacts of both sides. -/
structure StartsAtOne (c : Contact) : Prop where
  nextSendSeq : c.nextSendSeq = 1
  lastRecvSeq : c.lastRecvSeq = 0
  privacyMode : c.privacyMode = .fast

/-- The joiner's ratchet can send at once: its chain is that of the master secret. -/
structure SendsAtOnce (r : RatchetState) : Prop where
  sendChainKey : ∃ start, r.sendChainKey = some start
  pending : r.pendingPairingDhRatchetPeer = none
  sendN : r.sendN = 0
  prevSendN : r.prevSendN = 0
  length_dhSelfPublic : r.dhSelfPublic.length = 32

theorem joinerCompletePairing_sends {identity : Identity} {invite : InviteBundle}
    {request : PairingRequest} {secrets : PairingSecrets} {response : PairingResponse} {now : Int}
    {contact : Contact}
    (h : joinerCompletePairing P identity invite request secrets response now = .ok contact) :
    ∃ r, contact.ratchet = some r ∧ SendsAtOnce r := by
  obtain ⟨_, _, _, _, _, -, hratchet, -, rfl⟩ := joinerCompletePairing_ok h
  obtain ⟨-, _, _, -, rfl⟩ := RatchetState.pairingRecvInit_ok hratchet
  exact ⟨_, rfl, ⟨_, rfl⟩, rfl, rfl, rfl, (P.x25519Public secrets.ratchetPrivate).2⟩

/-- What the joiner's contact takes from the invite, the time and the inviter's profile. -/
theorem joinerCompletePairing_session {identity : Identity} {invite : InviteBundle}
    {request : PairingRequest} {secrets : PairingSecrets} {response : PairingResponse} {now : Int}
    {contact : Contact}
    (h : joinerCompletePairing P identity invite request secrets response now = .ok contact) :
    contact.hybridPq = inviteSupportsHybrid invite ∧ contact.sessionStartedAt = now
      ∧ (response.inviterProfile = [] → contact.deliveryProfile = none) := by
  obtain ⟨_, _, _, _, _, -, -, hprofile, rfl⟩ := joinerCompletePairing_ok h
  refine ⟨rfl, rfl, fun hempty => ?_⟩
  rw [hempty] at hprofile
  exact (Except.ok.inj hprofile).symm

/-- The inviter has checked the request. -/
theorem inviterCompletePairing_validates {identity : Identity} {invite : InviteBundle}
    {request : PairingRequest} {ephemeral ratchet : PrivateKey} {profile : Bytes} {now : Int}
    {response : PairingResponse} {contact : Contact}
    (h : inviterCompletePairing P identity invite request ephemeral ratchet profile now
      = .ok (response, contact)) :
    validatePairingRequestForInvite invite request = .ok () := by
  unfold inviterCompletePairing at h
  obtain ⟨_, hvalid, -⟩ := bind_ok.mp h
  exact hvalid

/-- The names that an acknowledged profile leaves. -/
theorem applyPeerProfileAckFromBytes_names {contact contact' : Contact} {data signingPublic : Bytes}
    (h : applyPeerProfileAckFromBytes P contact data signingPublic = .ok contact')
    (hdata : data ≠ []) :
    ∃ profile, DeliveryProfile.fromBytes P data = .ok profile
      ∧ contact'.peerAckedMyRelayNames = relayNamesFromProfile profile := by
  unfold applyPeerProfileAckFromBytes at h
  rw [if_neg hdata] at h
  obtain ⟨profile, hread, h⟩ := bind_ok.mp h
  obtain ⟨-, -, h⟩ := bind_ok.mp h
  obtain rfl := Except.ok.inj h
  exact ⟨profile, hread, rfl⟩

/-- The last thing the joiner does is to record that the other side has its profile. -/
theorem joinerCompletePairing_acked {identity : Identity} {invite : InviteBundle}
    {request : PairingRequest} {secrets : PairingSecrets} {response : PairingResponse} {now : Int}
    {contact : Contact}
    (h : joinerCompletePairing P identity invite request secrets response now = .ok contact) :
    ∃ contact₀, applyPeerProfileAckFromBytes P contact₀ request.joinerProfile
      (identity.signingPublicBytes P) = .ok contact := by
  unfold joinerCompletePairing at h
  obtain ⟨-, -, h⟩ := bind_ok.mp h
  obtain ⟨_, -, h⟩ := bind_ok.mp h
  obtain ⟨_, -, h⟩ := bind_ok.mp h
  obtain ⟨_, -, h⟩ := bind_ok.mp h
  exact ⟨_, h⟩

theorem NewlyPaired.startsAtOne {identity : Identity} {c : Contact}
    (h : NewlyPaired P identity c) : StartsAtOne c := by
  cases h with
  | inviter h =>
      obtain ⟨_, _, _, _, _, _, -, -, -, -, rfl⟩ := inviterCompletePairing_ok h
      exact ⟨rfl, rfl, rfl⟩
  | joiner name h =>
      obtain ⟨_, _, _, _, _, -, -, -, rfl⟩ := joinerCompletePairing_ok h
      exact ⟨rfl, rfl, rfl⟩

end Yakr
