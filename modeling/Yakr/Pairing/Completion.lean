import Yakr.Pairing.Honest

/-!
# Yakr.Pairing.Completion

**An honest pairing completes.** When request and response arrive as they were
made, neither of the two completions raises, and the two contacts agree. A request
whose KEM ciphertext does not match the kind of the invite is turned down by both
sides, whatever else it holds.
-/

namespace Yakr

open Lib Effect RatchetState

variable {P : Packages}

/-! ### Validation -/

section Validate

variable {invite : InviteBundle} {request : PairingRequest}

/-- What `validate_pairing_request_for_invite` lets through. -/
theorem validate_ok_iff : validatePairingRequestForInvite invite request = .ok () ↔
    request.inviteSecret = invite.inviteSecret ∧ request.joinerRatchetPublic.length = 32
      ∧ (inviteSupportsHybrid invite = true ↔ request.kemCiphertext ≠ []) := by
  unfold validatePairingRequestForInvite
  by_cases hsecret : request.inviteSecret = invite.inviteSecret
  · by_cases hlen : request.joinerRatchetPublic.length = 32
    · by_cases hhybrid : inviteSupportsHybrid invite = true
      · by_cases hkem : request.kemCiphertext = [] <;> simp [hsecret, hlen, hhybrid, hkem]
      · by_cases hkem : request.kemCiphertext = [] <;> simp [hsecret, hlen, hhybrid, hkem]
    · simp [hsecret, hlen]
  · simp [hsecret]

/-- A request that drops the ciphertext of a hybrid invite, or adds one to a classical
invite, is turned down. -/
theorem validate_downgrade (h : ¬ (inviteSupportsHybrid invite = true ↔ request.kemCiphertext ≠ [])) :
    ∃ e, validatePairingRequestForInvite invite request = .error e := by
  cases hvalid : validatePairingRequestForInvite invite request with
  | error e => exact ⟨e, rfl⟩
  | ok u => exact absurd (validate_ok_iff.mp hvalid).2.2 h

/-- The inviter turns it down. -/
theorem inviterCompletePairing_downgrade
    (h : ¬ (inviteSupportsHybrid invite = true ↔ request.kemCiphertext ≠ []))
    (identity : Identity) (ephemeral ratchet : PrivateKey) (profile : Bytes) (now : Int) :
    ∃ e, inviterCompletePairing P identity invite request ephemeral ratchet profile now
      = .error e := by
  obtain ⟨e, he⟩ := validate_downgrade h
  refine ⟨e, ?_⟩
  rw [inviterCompletePairing, he]
  rfl

/-- So does the joiner, with any response. -/
theorem joinerCompletePairing_downgrade
    (h : ¬ (inviteSupportsHybrid invite = true ↔ request.kemCiphertext ≠ []))
    (identity : Identity) (secrets : PairingSecrets) (response : PairingResponse) (now : Int) :
    ∃ e, joinerCompletePairing P identity invite request secrets response now = .error e := by
  obtain ⟨e, he⟩ := validate_downgrade h
  refine ⟨e, ?_⟩
  rw [joinerCompletePairing, checkPairingResponse, pairingTranscript, he]
  rfl

end Validate

/-! ### Transcripts -/

section Transcript

variable {identity : Identity} {invite : InviteBundle} {request : PairingRequest}
  {response : PairingResponse} {contact : Contact} {now : Int}

/-- The transcript of a request that is let through. -/
theorem pairingTranscript_run (hvalid : validatePairingRequestForInvite invite request = .ok ())
    (inviterEphemeralPublic inviterRatchetPublic : Bytes) :
    pairingTranscript P invite request inviterEphemeralPublic inviterRatchetPublic
      = .ok (P.sha256 (joinParts
        (transcriptParts invite request inviterEphemeralPublic inviterRatchetPublic))).1 := by
  rw [pairingTranscript, hvalid]
  rfl

theorem pairingTranscript_ok {inviterEphemeralPublic inviterRatchetPublic transcriptHash : Bytes}
    (h : pairingTranscript P invite request inviterEphemeralPublic inviterRatchetPublic
      = .ok transcriptHash) :
    validatePairingRequestForInvite invite request = .ok ()
      ∧ transcriptHash = (P.sha256 (joinParts
        (transcriptParts invite request inviterEphemeralPublic inviterRatchetPublic))).1 := by
  unfold pairingTranscript at h
  obtain ⟨u, hvalid, h⟩ := bind_ok.mp h
  exact ⟨hvalid, (Except.ok.inj h).symm⟩

/-- The transcript the inviter puts in its response and in its contact. -/
theorem inviterCompletePairing_transcript {ephemeral ratchet : PrivateKey} {profile : Bytes}
    (h : inviterCompletePairing P identity invite request ephemeral ratchet profile now
      = .ok (response, contact)) :
    pairingTranscript P invite request (P.x25519Public ephemeral).1 (P.x25519Public ratchet).1
        = .ok response.transcriptHash
      ∧ contact.transcriptHash = some response.transcriptHash := by
  have hrun := h
  unfold inviterCompletePairing at hrun
  obtain ⟨-, -, hrun⟩ := bind_ok.mp hrun
  obtain ⟨transcriptHash, htranscript, hrun⟩ := bind_ok.mp hrun
  obtain ⟨pqSecret, -, hrun⟩ := bind_ok.mp hrun
  obtain ⟨master, -, hrun⟩ := bind_ok.mp hrun
  obtain ⟨deliveryProfile, -, hrun⟩ := bind_ok.mp hrun
  obtain ⟨contact', hack, hrun⟩ := bind_ok.mp hrun
  obtain ⟨hresponse, hcontact⟩ := Prod.mk.inj (Except.ok.inj hrun)
  obtain ⟨version, names, hcontact'⟩ := applyPeerProfileAckFromBytes_ok hack
  rw [← hresponse, ← hcontact, hcontact']
  exact ⟨htranscript, rfl⟩

/-- What the joiner has checked of a response it completed with. -/
theorem joinerCompletePairing_checked {secrets : PairingSecrets}
    (h : joinerCompletePairing P identity invite request secrets response now = .ok contact) :
    pairingTranscript P invite request response.inviterEphemeralPublic
        response.inviterRatchetPublic = .ok response.transcriptHash
      ∧ response.inviterRatchetPublic.length = 32
      ∧ ¬ (inviteSupportsHybrid invite ∧ secrets.pqSecret.isNone) := by
  unfold joinerCompletePairing at h
  obtain ⟨u, hcheck, -⟩ := bind_ok.mp h
  unfold checkPairingResponse at hcheck
  obtain ⟨transcript, htranscript, hcheck⟩ := bind_ok.mp hcheck
  split at hcheck
  · cases hcheck
  · rename_i hsame
    split at hcheck
    · cases hcheck
    · rename_i hlen
      obtain ⟨-, -, hcheck⟩ := bind_ok.mp hcheck
      split at hcheck
      · cases hcheck
      · rename_i hpq
        exact ⟨(not_not.mp hsame) ▸ htranscript, not_not.mp hlen, hpq⟩

end Transcript

/-! ### Profiles -/

/-- What a client passes as its own profile: nothing, or a profile it has signed. -/
def OwnProfile (P : Packages) (identity : Identity) (data : Bytes) : Prop :=
  data = [] ∨ ∃ profile, DeliveryProfile.fromBytes P data = .ok profile
    ∧ verifyDeliveryProfile P profile (identity.signingPublicBytes P) = .ok ()

section OwnProfile

variable {identity : Identity} {data : Bytes}

/-- The other side reads it. -/
theorem OwnProfile.fromPairingBytes (h : OwnProfile P identity data) :
    ∃ profile, profileFromPairingBytes P data (identity.signingPublicBytes P) = .ok profile := by
  unfold profileFromPairingBytes
  by_cases hdata : data = []
  · exact ⟨none, by rw [if_pos hdata]⟩
  · obtain ⟨profile, hprofile, hverify⟩ := h.resolve_left hdata
    refine ⟨some profile, ?_⟩
    rw [if_neg hdata]
    exact bind_ok.mpr ⟨profile, hprofile, bind_ok.mpr ⟨(), hverify, rfl⟩⟩

/-- The client records that the other side has read it. -/
theorem OwnProfile.acked (h : OwnProfile P identity data) (contact : Contact) :
    ∃ contact', applyPeerProfileAckFromBytes P contact data (identity.signingPublicBytes P)
      = .ok contact' := by
  unfold applyPeerProfileAckFromBytes
  by_cases hdata : data = []
  · exact ⟨contact, by rw [if_pos hdata]⟩
  · obtain ⟨profile, hprofile, hverify⟩ := h.resolve_left hdata
    refine ⟨{ contact with
      peerAckedMyProfileVersion := profile.version
      peerAckedMyRelayNames := relayNamesFromProfile profile }, ?_⟩
    rw [if_neg hdata]
    exact bind_ok.mpr ⟨profile, hprofile, bind_ok.mpr ⟨(), hverify, rfl⟩⟩

end OwnProfile

/-! ### The three steps -/

section Steps

variable {inviter joiner : Identity} {invite : InviteBundle} {joinerName : String}
  {joinerProfile inviterProfile kemRandom : Bytes}
  {joinerEphemeral joinerRatchet inviterEphemeral inviterRatchet : PrivateKey}
  {inviterNow joinerNow : Int}

/-- `build_pairing_request` raises only on a KEM key of a wrong length. -/
theorem buildPairingRequest_run
    (hlen : inviteSupportsHybrid invite = true → invite.kemPublic.length = kemPublicKeySize) :
    ∃ request secrets, buildPairingRequest P joiner invite joinerName joinerProfile
      joinerEphemeral joinerRatchet kemRandom = .ok (request, secrets) := by
  unfold buildPairingRequest encapsulateForInvite
  by_cases hhybrid : inviteSupportsHybrid invite = true
  · rw [if_pos hhybrid, kemEncapsulate, if_neg (not_not.mpr (hlen hhybrid))]
    exact ⟨_, _, rfl⟩
  · rw [if_neg hhybrid]
    exact ⟨_, _, rfl⟩

/-- The keys of the two sides fit the invite. -/
structure Keys (P : Packages) (inviter : Identity) (invite : InviteBundle) : Prop where
  dh : P.DhLaws
  kem : inviteSupportsHybrid invite = true → P.KemLaws
  issued : invite.IssuedBy P inviter
  /-- The inviter's ML-KEM keys are a generated pair. -/
  generated : inviteSupportsHybrid invite = true →
    ∃ seed, P.kemKeypair seed = (inviter.kemPublic, inviter.kemPrivate)

theorem Keys.length_kemPublic (h : Keys P inviter invite)
    (hhybrid : inviteSupportsHybrid invite = true) :
    invite.kemPublic.length = kemPublicKeySize := by
  obtain ⟨seed, hseed⟩ := h.generated hhybrid
  have hlen := (h.kem hhybrid).length_public seed
  rw [hseed] at hlen
  rw [h.issued.kemPublic hhybrid, hlen]

variable {request : PairingRequest} {secrets : PairingSecrets}

/-- A request that was built for the invite is let through. -/
theorem Keys.validates (h : Keys P inviter invite)
    (hbuilt : buildPairingRequest P joiner invite joinerName joinerProfile joinerEphemeral
      joinerRatchet kemRandom = .ok (request, secrets)) :
    validatePairingRequestForInvite invite request = .ok () := by
  obtain ⟨kemCiphertext, pqSecret, hdraw, rfl, -⟩ := buildPairingRequest_ok hbuilt
  refine validate_ok_iff.mpr ⟨rfl, (P.x25519Public joinerRatchet).2, ?_⟩
  rw [DrawsPq] at hdraw
  by_cases hhybrid : inviteSupportsHybrid invite = true
  · rw [if_pos hhybrid] at hdraw
    have hlen := (h.kem hhybrid).length_ciphertext invite.kemPublic kemRandom
      (h.length_kemPublic hhybrid)
    refine iff_of_true hhybrid fun hnil => ?_
    rw [hdraw.1.symm.trans hnil] at hlen
    exact absurd hlen (by decide)
  · rw [if_neg hhybrid] at hdraw
    exact iff_of_false hhybrid (not_not.mpr hdraw.1)

/-- The inviter decapsulates the secret the joiner drew. -/
theorem Keys.inviterPqSecret (h : Keys P inviter invite)
    (hbuilt : buildPairingRequest P joiner invite joinerName joinerProfile joinerEphemeral
      joinerRatchet kemRandom = .ok (request, secrets)) :
    Yakr.inviterPqSecret P inviter invite request = .ok secrets.pqSecret := by
  have hvalid := (validate_ok_iff.mp (h.validates hbuilt)).2.2
  obtain ⟨kemCiphertext, pqSecret, hdraw, hreq, hsec⟩ := buildPairingRequest_ok hbuilt
  rw [DrawsPq] at hdraw
  rw [Yakr.inviterPqSecret]
  by_cases hhybrid : inviteSupportsHybrid invite = true
  · obtain ⟨seed, hseed⟩ := h.generated hhybrid
    have hpublic : inviter.kemPublic = (P.kemKeypair seed).1 := by rw [hseed]
    have hsecret : inviter.kemPrivate = (P.kemKeypair seed).2 := by rw [hseed]
    have hlenS := (h.kem hhybrid).length_secret seed
    have hlenC := (h.kem hhybrid).length_ciphertext invite.kemPublic kemRandom
      (h.length_kemPublic hhybrid)
    rw [if_pos hhybrid] at hdraw ⊢
    have hct : request.kemCiphertext = (P.kemEncrypt invite.kemPublic kemRandom).1 := by
      rw [hreq]
      exact hdraw.1
    have hprivate : inviter.kemPrivate ≠ [] := by
      intro hnil
      rw [← hsecret, hnil] at hlenS
      exact absurd hlenS (by decide)
    rw [if_neg (hvalid.mp hhybrid), if_neg hprivate, kemDecapsulate, hct, hsecret,
      if_neg (not_not.mpr hlenS), if_neg (not_not.mpr hlenC), h.issued.kemPublic hhybrid, hpublic,
      (h.kem hhybrid).decrypt_encrypt, hsec, hdraw.2, h.issued.kemPublic hhybrid, hpublic]
    rfl
  · rw [if_neg hhybrid] at hdraw ⊢
    rw [hsec, hdraw.2]

/-- A key agreement between generated keys does not raise. -/
theorem derivePairMaster_run (hdh : P.DhLaws) (a b e k : PrivateKey) (transcriptHash : Bytes)
    {pqSecret : Option Bytes} (hlen : ∀ s ∈ pqSecret, s.length = kemPlaintextSize) :
    ∃ master, derivePairMaster P a (P.x25519Public b).1 e (P.x25519Public k).1 transcriptHash
      pqSecret = .ok master := by
  obtain ⟨s, hs, -⟩ := x25519SharedSecret_comm hdh a b
  obtain ⟨t, ht, -⟩ := x25519SharedSecret_comm hdh e k
  cases pqSecret with
  | none => exact ⟨_, by simp only [derivePairMaster, hs, ht]; rfl⟩
  | some secret =>
      have hsecret : ¬ secret.length ≠ kemPlaintextSize := not_not.mpr (hlen secret rfl)
      exact ⟨_, by simp only [derivePairMaster, deriveHybridMaster, hs, ht, if_neg hsecret]; rfl⟩

theorem length_pqSecret
    (hbuilt : buildPairingRequest P joiner invite joinerName joinerProfile joinerEphemeral
      joinerRatchet kemRandom = .ok (request, secrets)) :
    ∀ s ∈ secrets.pqSecret, s.length = kemPlaintextSize := by
  obtain ⟨kemCiphertext, pqSecret, hdraw, -, hsec⟩ := buildPairingRequest_ok hbuilt
  rw [hsec]
  rw [DrawsPq] at hdraw
  by_cases hhybrid : inviteSupportsHybrid invite = true
  · rw [if_pos hhybrid] at hdraw
    rintro s hs
    obtain rfl := Option.some.inj (hdraw.2.symm.trans hs)
    exact (P.kemEncrypt invite.kemPublic kemRandom).2.2
  · rw [if_neg hhybrid] at hdraw
    rintro s hs
    cases hdraw.2.symm.trans hs

/-- **The inviter completes.** -/
theorem Keys.inviterCompletes (h : Keys P inviter invite)
    (hbuilt : buildPairingRequest P joiner invite joinerName joinerProfile joinerEphemeral
      joinerRatchet kemRandom = .ok (request, secrets))
    (hjoiner : OwnProfile P joiner joinerProfile) (hinviter : OwnProfile P inviter inviterProfile)
    (ephemeral ratchet : PrivateKey) (now : Int) :
    ∃ response contact, inviterCompletePairing P inviter invite request ephemeral ratchet
      inviterProfile now = .ok (response, contact) := by
  have hvalid := h.validates hbuilt
  have hpq := h.inviterPqSecret hbuilt
  have hlen := length_pqSecret hbuilt
  obtain ⟨profile, hprofile⟩ := hjoiner.fromPairingBytes
  obtain ⟨kemCiphertext, pqSecret, -, hreq, -⟩ := buildPairingRequest_ok hbuilt
  have hsigning : request.joinerSigningPublic = joiner.signingPublicBytes P := by rw [hreq]
  have hsent : request.joinerProfile = joinerProfile := by rw [hreq]
  have hagreement : request.joinerAgreementPublic = (P.x25519Public joiner.agreementPrivate).1 := by
    rw [hreq]
    rfl
  have hephemeral : request.joinerEphemeralPublic = (P.x25519Public joinerEphemeral).1 := by
    rw [hreq]
  have htranscript := pairingTranscript_run (P := P) hvalid (P.x25519Public ephemeral).1
    (P.x25519Public ratchet).1
  obtain ⟨master, hmaster⟩ := derivePairMaster_run (P := P) h.dh inviter.agreementPrivate
    joiner.agreementPrivate ephemeral joinerEphemeral (P.sha256 (joinParts (transcriptParts invite
      request (P.x25519Public ephemeral).1 (P.x25519Public ratchet).1))).1 hlen
  rw [← hagreement, ← hephemeral] at hmaster
  rw [← hsent, ← hsigning] at hprofile
  have hreturns : ∃ result, inviterCompletePairing P inviter invite request ephemeral ratchet
      inviterProfile now = .ok result := by
    refine bind_returns hvalid (bind_returns htranscript (bind_returns hpq ?_))
    refine bind_returns hmaster (bind_returns hprofile ?_)
    obtain ⟨contact, hack⟩ := hinviter.acked _
    exact bind_returns hack ⟨_, rfl⟩
  obtain ⟨⟨response, contact⟩, hrun⟩ := hreturns
  exact ⟨response, contact, hrun⟩

/-- **The joiner completes** with the response the inviter made. -/
theorem Keys.joinerCompletes (h : Keys P inviter invite)
    (hbuilt : buildPairingRequest P joiner invite joinerName joinerProfile joinerEphemeral
      joinerRatchet kemRandom = .ok (request, secrets))
    (hjoiner : OwnProfile P joiner joinerProfile) (hinviter : OwnProfile P inviter inviterProfile)
    {response : PairingResponse} {contact : Contact}
    (hanswered : inviterCompletePairing P inviter invite request inviterEphemeral inviterRatchet
      inviterProfile inviterNow = .ok (response, contact)) (now : Int) :
    ∃ contact', joinerCompletePairing P joiner invite request secrets response now
      = .ok contact' := by
  have hvalid := h.validates hbuilt
  have hlen := length_pqSecret hbuilt
  obtain ⟨profile, hprofile⟩ := hinviter.fromPairingBytes
  obtain ⟨htranscript, -⟩ := inviterCompletePairing_transcript hanswered
  obtain ⟨_, _, _, _, _, _, -, -, -, hresp, -⟩ := inviterCompletePairing_ok hanswered
  obtain ⟨kemCiphertext, pqSecret, hdraw, hreq, hsec⟩ := buildPairingRequest_ok hbuilt
  -- the joiner mixes in the secret the inviter has decapsulated
  have hsecret : (if inviteSupportsHybrid invite then secrets.pqSecret else none)
      = secrets.pqSecret := by
    by_cases hhybrid : inviteSupportsHybrid invite = true
    · rw [if_pos hhybrid]
    · rw [DrawsPq, if_neg hhybrid] at hdraw
      rw [if_neg hhybrid, hsec, hdraw.2]
  have hpqSome : ¬ (inviteSupportsHybrid invite ∧ secrets.pqSecret.isNone) := by
    rintro ⟨hhybrid, hnone⟩
    rw [DrawsPq, if_pos hhybrid] at hdraw
    rw [hsec, hdraw.2] at hnone
    cases hnone
  have hcheck : checkPairingResponse P invite request secrets response = .ok () := by
    unfold checkPairingResponse
    refine bind_ok.mpr ⟨response.transcriptHash, by rw [hresp] at htranscript ⊢; exact htranscript, ?_⟩
    have hratchetLen : ¬ response.inviterRatchetPublic.length ≠ 32 := by
      rw [hresp]
      exact not_not.mpr (P.x25519Public inviterRatchet).2
    rw [if_neg (not_not.mpr rfl), if_neg hratchetLen]
    exact bind_ok.mpr ⟨(), hvalid, if_neg hpqSome⟩
  obtain ⟨master', hmaster'⟩ := derivePairMaster_run (P := P) h.dh joiner.agreementPrivate
    inviter.agreementPrivate joinerEphemeral inviterEphemeral response.transcriptHash hlen
  have hagreement : invite.agreementPublic = (P.x25519Public inviter.agreementPrivate).1 :=
    h.issued.agreementPublic
  have hephemeral : response.inviterEphemeralPublic = (P.x25519Public inviterEphemeral).1 := by
    rw [hresp]
  have hephemeralPrivate : secrets.ephemeralPrivate = joinerEphemeral := by rw [hsec]
  have hsigning : invite.signingPublic = inviter.signingPublicBytes P := h.issued.signingPublic
  have hsent : response.inviterProfile = inviterProfile := by rw [hresp]
  rw [← hagreement, ← hephemeral, ← hephemeralPrivate] at hmaster'
  rw [← hsent, ← hsigning] at hprofile
  obtain ⟨shared, -, hshared⟩ := x25519SharedSecret_comm h.dh inviterRatchet joinerRatchet
  have hinit := pairingRecvInit_run (P := P)
    (s := fromMaster P master' false (inviteSupportsHybrid invite) joinerRatchet)
    (P.x25519Public inviterRatchet).2 rfl hshared
  have hratchetPrivate : secrets.ratchetPrivate = joinerRatchet := by rw [hsec]
  have hratchetPublic : response.inviterRatchetPublic = (P.x25519Public inviterRatchet).1 := by
    rw [hresp]
  rw [← hratchetPrivate, ← hratchetPublic] at hinit
  refine bind_returns hcheck (bind_returns ?_ (bind_returns hinit (bind_returns hprofile ?_)))
  · rw [hsecret]
    exact hmaster'
  · obtain ⟨contact', hack⟩ := hjoiner.acked _
    rw [show request.joinerProfile = joinerProfile by rw [hreq]]
    exact ⟨contact', hack⟩

end Steps

/-! ### What the two contacts agree on -/

/-- The ratchets of the two sides at the end of a pairing. What `from_master` gives one
side to send with, it gives the other to receive with; the joiner's receive chain is
already one exchange further, and the inviter takes that exchange before it sends. -/
structure Bootstrapped (P : Packages) (master : Bytes) (inviter joiner : RatchetState) : Prop where
  joinerSends : joiner.sendChainKey = inviter.recvChainKey
  inviterSends : ∀ hybrid k,
    inviter.sendChainKey = (fromMaster P master false hybrid k).recvChainKey
  pending : inviter.pendingPairingDhRatchetPeer = some joiner.dhSelfPublic
  peer : joiner.dhPeerPublic = some inviter.dhSelfPublic
  exchange : ∃ priv shared, inviter.dhSelfPrivate = priv.1
    ∧ x25519SharedSecret P priv joiner.dhSelfPublic = .ok shared
    ∧ joiner.rootKey = (kdfRk P inviter.rootKey shared).1
    ∧ joiner.recvChainKey = some (kdfRk P inviter.rootKey shared).2

/-- The contacts of the two sides agree, each being about the other identity. -/
structure Paired (P : Packages) (inviter joiner : Identity) (atInviter atJoiner : Contact) :
    Prop where
  masterSecret : atInviter.masterSecret = atJoiner.masterSecret
  transcriptHash : atInviter.transcriptHash = atJoiner.transcriptHash
  hybridPq : atInviter.hybridPq = atJoiner.hybridPq
  joinerId : atInviter.contactId
    = some (contactIdFor P (joiner.signingPublicBytes P) (joiner.agreementPublicBytes P))
  inviterId : atJoiner.contactId
    = some (contactIdFor P (inviter.signingPublicBytes P) (inviter.agreementPublicBytes P))
  bootstrapped : ∃ l f, atInviter.ratchet = some l ∧ atJoiner.ratchet = some f
    ∧ Bootstrapped P atJoiner.masterSecret l f

/-- What `from_master` gives one side to send with, it gives the other to receive with. -/
theorem fromMaster_cross (master : Bytes) (hybrid hybrid' : Bool) (k k' : PrivateKey) :
    (fromMaster P master false hybrid k).sendChainKey
        = (fromMaster P master true hybrid' k').recvChainKey
      ∧ (fromMaster P master true hybrid' k').sendChainKey
        = (fromMaster P master false hybrid k).recvChainKey := by
  simp [fromMaster]

/-- The two contacts of an honest pairing agree. -/
theorem HonestPairing.paired (p : HonestPairing P) (hdh : P.DhLaws)
    (hkem : inviteSupportsHybrid p.invite = true → P.KemLaws) :
    Paired P p.inviter p.joiner p.inviterContact p.joinerContact := by
  obtain ⟨master, shared, hmaster, hmaster', hshared, hl, hf⟩ := p.agree hdh hkem
  obtain ⟨-, htranscript⟩ := inviterCompletePairing_transcript p.answered
  obtain ⟨kemCiphertext, secret, -, hreq, -⟩ := buildPairingRequest_ok p.requested
  obtain ⟨_, _, _, _, _, _, -, -, -, -, hic⟩ := inviterCompletePairing_ok p.answered
  obtain ⟨_, _, _, _, _, -, -, -, hjc⟩ := joinerCompletePairing_ok p.joined
  refine ⟨hmaster.trans hmaster'.symm, ?_, ?_, ?_, ?_, _, _, hl, hf, ?_⟩
  · rw [htranscript, hjc]
  · rw [hic, hjc]
  · rw [hic, hreq]
  · rw [hjc, p.issued.signingPublic, p.issued.agreementPublic]
  · exact {
      joinerSends := (fromMaster_cross master (inviteSupportsHybrid p.invite)
        (inviteSupportsHybrid p.invite) p.joinerRatchet p.inviterRatchet).1
      inviterSends hybrid k := by
        rw [hmaster']
        exact (fromMaster_cross master hybrid (inviteSupportsHybrid p.invite) k
          p.inviterRatchet).2
      pending := rfl
      peer := rfl
      exchange := ⟨p.inviterRatchet, shared, rfl, hshared, rfl, rfl⟩ }

/-- An invite supports the hybrid exchange when it was made to. -/
theorem inviteSupportsHybrid_createInvite {identity : Identity} {hint : String} {tls : Bytes}
    {ttl now : Int} {hybrid : Bool} {secret : BytesN 32} {invite : InviteBundle}
    (h : createInvite P identity hint tls ttl hybrid now secret = .ok invite) :
    inviteSupportsHybrid invite = hybrid := by
  unfold createInvite at h
  cases hybrid with
  | false =>
      obtain rfl := Except.ok.inj h
      rfl
  | true =>
      simp only [if_true] at h
      split at h
      · cases h
      · rename_i hkem
        split at h
        · obtain rfl := Except.ok.inj h
          simp [inviteSupportsHybrid, hkem]
        · obtain rfl := Except.ok.inj h
          simp [inviteSupportsHybrid, hkem]

/-- **Completion.** With an invite that `create_invite` made, an unmodified request and
an unmodified response, both sides complete, and their contacts agree; a request that
drops the KEM ciphertext of a hybrid invite, or adds one to a classical invite, is
turned down by both. -/
theorem honest_pairing_completes {inviter joiner : Identity} {hint joinerName : String}
    {tls joinerProfile inviterProfile : Bytes} {ttl created : Int} {hybrid : Bool}
    {secret : BytesN 32} {invite : InviteBundle} (hdh : P.DhLaws) (hkem : P.KemLaws)
    (hkeys : hybrid = true →
      ∃ seed, P.kemKeypair seed = (inviter.kemPublic, inviter.kemPrivate))
    (hinvite : createInvite P inviter hint tls ttl hybrid created secret = .ok invite)
    (hjoiner : OwnProfile P joiner joinerProfile) (hinviter : OwnProfile P inviter inviterProfile)
    (joinerEphemeral joinerRatchet inviterEphemeral inviterRatchet : PrivateKey)
    (kemRandom : Bytes) (inviterNow joinerNow : Int) :
    (∃ request secrets response atInviter atJoiner,
      buildPairingRequest P joiner invite joinerName joinerProfile joinerEphemeral joinerRatchet
          kemRandom = .ok (request, secrets)
      ∧ inviterCompletePairing P inviter invite request inviterEphemeral inviterRatchet
          inviterProfile inviterNow = .ok (response, atInviter)
      ∧ joinerCompletePairing P joiner invite request secrets response joinerNow = .ok atJoiner
      ∧ Paired P inviter joiner atInviter atJoiner)
    ∧ ∀ request : PairingRequest,
      ¬ (inviteSupportsHybrid invite = true ↔ request.kemCiphertext ≠ []) →
      (∃ e, inviterCompletePairing P inviter invite request inviterEphemeral inviterRatchet
        inviterProfile inviterNow = .error e)
      ∧ ∀ secrets response,
        ∃ e, joinerCompletePairing P joiner invite request secrets response joinerNow
          = .error e := by
  have hall : Keys P inviter invite :=
    ⟨hdh, fun _ => hkem, issuedBy_createInvite P hinvite,
      fun hhybrid => hkeys (inviteSupportsHybrid_createInvite hinvite ▸ hhybrid)⟩
  constructor
  · obtain ⟨request, secrets, hbuilt⟩ : ∃ request secrets, buildPairingRequest P joiner invite
        joinerName joinerProfile joinerEphemeral joinerRatchet kemRandom = .ok (request, secrets) :=
      buildPairingRequest_run fun hhybrid => hall.length_kemPublic hhybrid
    obtain ⟨response, atInviter, hanswered⟩ := hall.inviterCompletes hbuilt hjoiner hinviter
      inviterEphemeral inviterRatchet inviterNow
    obtain ⟨atJoiner, hjoined⟩ := hall.joinerCompletes hbuilt hjoiner hinviter hanswered joinerNow
    exact ⟨request, secrets, response, atInviter, atJoiner, hbuilt, hanswered, hjoined,
      HonestPairing.paired
        { inviter, joiner, invite, issued := hall.issued, kemKeys := hall.generated
          joinerName, joinerProfile, inviterProfile, joinerEphemeral, joinerRatchet
          inviterEphemeral, inviterRatchet, kemRandom, inviterNow, joinerNow, request, secrets
          response, inviterContact := atInviter, joinerContact := atJoiner
          requested := hbuilt, answered := hanswered, joined := hjoined } hdh fun _ => hkem⟩
  · intro request h
    exact ⟨inviterCompletePairing_downgrade h inviter inviterEphemeral inviterRatchet
      inviterProfile inviterNow, fun secrets response =>
        joinerCompletePairing_downgrade h joiner secrets response joinerNow⟩

namespace Sample

/-- Alice with a generated ML-KEM key pair. -/
def hybridAlice : Identity :=
  { alice with
    kemPublic := (plainPackages.kemKeypair [1]).1
    kemPrivate := (plainPackages.kemKeypair [1]).2 }

def hybridInvite : InviteBundle :=
  returned (createInvite plainPackages hybridAlice "https://relay" [] defaultInviteTtlMs true 0
    (key 5)) (by decide +kernel)

theorem hybridInvite_made : createInvite plainPackages hybridAlice "https://relay" []
    defaultInviteTtlMs true 0 (key 5) = .ok hybridInvite := eq_ok_returned _ (by decide +kernel)

theorem hybridAlice_keys :
    plainPackages.kemKeypair [1] = (hybridAlice.kemPublic, hybridAlice.kemPrivate) := by
  rw [hybridAlice]

theorem hybrid_pairing_completes : ∃ request secrets response atInviter atJoiner,
    buildPairingRequest plainPackages bob hybridInvite "bob" [] (key 6) (key 7) [2]
        = .ok (request, secrets)
      ∧ inviterCompletePairing plainPackages hybridAlice hybridInvite request (key 8) (key 9) [] 0
        = .ok (response, atInviter)
      ∧ joinerCompletePairing plainPackages bob hybridInvite request secrets response 0
        = .ok atJoiner
      ∧ Paired plainPackages hybridAlice bob atInviter atJoiner :=
  (honest_pairing_completes plainPackages_dhLaws plainPackages_kemLaws
    (fun _ => ⟨[1], hybridAlice_keys⟩) hybridInvite_made (Or.inl rfl) (Or.inl rfl) (key 6) (key 7) (key 8) (key 9) [2] 0 0).1

/-- The inviter's send chain is not the joiner's receive chain at the end of a pairing. -/
theorem not_sendChain_eq_recvChain : ¬ ∀ (p : HonestPairing plainPackages) (l f : RatchetState),
    p.inviterContact.ratchet = some l → p.joinerContact.ratchet = some f →
      l.sendChainKey = f.recvChainKey := by
  intro h
  have hsame := h pairing (answer.2.ratchet.get (by decide +kernel))
    (joined.ratchet.get (by decide +kernel)) (Option.some_get _).symm (Option.some_get _).symm
  exact absurd hsame (by decide +kernel)

end Sample
end Yakr
