import Yakr.Pairing.Completion

/-!
# Yakr.Pairing.Tampering

**A relay that rewrites the pairing messages.** The relay replaces what it likes of
the request on its way to the inviter and of the response on its way to the joiner.
If both sides complete with one transcript hash, the hash pins down every key and
the KEM ciphertext of the request, so both hold one master secret. The joiner's
display name is not part of the transcript: the inviter knows the joiner by the
name that arrived.
-/

namespace Yakr

open Lib Effect

variable {P : Packages}

/-! ### What a derivation has checked -/

theorem x25519SharedSecret_length {k : PrivateKey} {peer shared : Bytes}
    (h : x25519SharedSecret P k peer = .ok shared) : peer.length = 32 := by
  by_contra hlen
  rw [x25519SharedSecret, dif_neg hlen] at h
  cases h

theorem derivePairMaster_lengths {a e : PrivateKey} {peerAgreement peerEphemeral hash : Bytes}
    {pqSecret : Option Bytes} {master : Bytes}
    (h : derivePairMaster P a peerAgreement e peerEphemeral hash pqSecret = .ok master) :
    peerAgreement.length = 32 ∧ peerEphemeral.length = 32 := by
  unfold derivePairMaster at h
  obtain ⟨identityShared, hidentity, h⟩ := bind_ok.mp h
  obtain ⟨ephemeralShared, hephemeral, -⟩ := bind_ok.mp h
  exact ⟨x25519SharedSecret_length hidentity, x25519SharedSecret_length hephemeral⟩

theorem inviterPqSecret_length {identity : Identity} {invite : InviteBundle}
    {request : PairingRequest} {pqSecret : Option Bytes}
    (h : inviterPqSecret P identity invite request = .ok pqSecret)
    (hhybrid : inviteSupportsHybrid invite = true) :
    request.kemCiphertext.length = kemCiphertextSize := by
  rw [inviterPqSecret, if_pos hhybrid] at h
  split at h
  · cases h
  · split at h
    · cases h
    · rw [kemDecapsulate] at h
      split at h
      · cases h
      · split at h
        · cases h
        · rename_i hlen
          exact not_not.mp hlen

/-! ### What a transcript pins down -/

/-- The lengths both sides have checked of the fields of a transcript; the joiner's
signing key is the one field whose length the inviter does not check. -/
structure Sized (invite : InviteBundle) (request : PairingRequest)
    (inviterEphemeralPublic inviterRatchetPublic : Bytes) : Prop where
  agreement : request.joinerAgreementPublic.length = 32
  ephemeral : request.joinerEphemeralPublic.length = 32
  ratchet : request.joinerRatchetPublic.length = 32
  inviterEphemeral : inviterEphemeralPublic.length = 32
  inviterRatchet : inviterRatchetPublic.length = 32
  kem : inviteSupportsHybrid invite = true → request.kemCiphertext.length = kemCiphertextSize
  classical : ¬ inviteSupportsHybrid invite = true → request.kemCiphertext = []

/-- Two transcripts of one invite that read the same have the same fields. -/
theorem transcriptParts_inj {invite : InviteBundle} {request request' : PairingRequest}
    {e e' r r' : Bytes} (hsized : Sized invite request e r) (hsized' : Sized invite request' e' r')
    (h : joinParts (transcriptParts invite request e r)
      = joinParts (transcriptParts invite request' e' r')) :
    request.joinerSigningPublic = request'.joinerSigningPublic
      ∧ request.joinerAgreementPublic = request'.joinerAgreementPublic
      ∧ request.joinerEphemeralPublic = request'.joinerEphemeralPublic
      ∧ e = e' ∧ request.joinerRatchetPublic = request'.joinerRatchetPublic ∧ r = r'
      ∧ request.kemCiphertext = request'.kemCiphertext := by
  have hlength := congrArg List.length h
  by_cases hhybrid : inviteSupportsHybrid invite = true
  · simp only [joinParts, transcriptParts, if_pos hhybrid, List.cons_append, List.nil_append,
      Bytes.length_intercalate] at hlength h
    have hparts := Bytes.intercalate_inj (by
      simp [hsized.agreement, hsized'.agreement, hsized.ephemeral, hsized'.ephemeral,
        hsized.ratchet, hsized'.ratchet, hsized.inviterEphemeral, hsized'.inviterEphemeral,
        hsized.inviterRatchet, hsized'.inviterRatchet, hsized.kem hhybrid,
        hsized'.kem hhybrid] at hlength ⊢
      omega) h
    simpa using hparts
  · simp only [joinParts, transcriptParts, if_neg hhybrid, List.append_nil,
      Bytes.length_intercalate] at hlength h
    have hparts := Bytes.intercalate_inj (by
      simp [hsized.agreement, hsized'.agreement, hsized.ephemeral, hsized'.ephemeral,
        hsized.ratchet, hsized'.ratchet, hsized.inviterEphemeral, hsized'.inviterEphemeral,
        hsized.inviterRatchet, hsized'.inviterRatchet] at hlength ⊢
      omega) h
    rw [hsized.classical hhybrid, hsized'.classical hhybrid]
    simpa using hparts

theorem classical_kem {invite : InviteBundle} {request : PairingRequest}
    (hvalid : validatePairingRequestForInvite invite request = .ok ())
    (hclassical : ¬ inviteSupportsHybrid invite = true) : request.kemCiphertext = [] := by
  by_contra hkem
  exact hclassical ((validate_ok_iff.mp hvalid).2.2.mpr hkem)

section Accepted

variable {identity identity' : Identity} {invite : InviteBundle} {request request' : PairingRequest}
  {ephemeral ephemeral' ratchet ratchet' : PrivateKey} {profile profile' : Bytes} {now now' : Int}
  {response response' : PairingResponse} {contact contact' : Contact}

/-- A request that the inviter accepts has fields of the lengths it has checked. -/
theorem sized_of_accepted
    (h : inviterCompletePairing P identity invite request ephemeral ratchet profile now
      = .ok (response, contact)) :
    Sized invite request (P.x25519Public ephemeral).1 (P.x25519Public ratchet).1 := by
  obtain ⟨htranscript, -⟩ := inviterCompletePairing_transcript h
  obtain ⟨hvalid, -⟩ := pairingTranscript_ok htranscript
  obtain ⟨_, _, _, _, _, _, hpq, hmaster, -⟩ := inviterCompletePairing_ok h
  obtain ⟨hagreement, hephemeral⟩ := derivePairMaster_lengths hmaster
  exact {
    agreement := hagreement
    ephemeral := hephemeral
    ratchet := (validate_ok_iff.mp hvalid).2.1
    inviterEphemeral := (P.x25519Public ephemeral).2
    inviterRatchet := (P.x25519Public ratchet).2
    kem := inviterPqSecret_length hpq
    classical := classical_kem hvalid }

/-- **Injectivity.** Two accepted completions of one invite that hash the same bytes have the same
keys and the same KEM ciphertext. -/
theorem accepted_transcript_injective
    (h : inviterCompletePairing P identity invite request ephemeral ratchet profile now
      = .ok (response, contact))
    (h' : inviterCompletePairing P identity' invite request' ephemeral' ratchet' profile' now'
      = .ok (response', contact'))
    (hsame : joinParts (transcriptParts invite request (P.x25519Public ephemeral).1
        (P.x25519Public ratchet).1)
      = joinParts (transcriptParts invite request' (P.x25519Public ephemeral').1
        (P.x25519Public ratchet').1)) :
    request.joinerSigningPublic = request'.joinerSigningPublic
      ∧ request.joinerAgreementPublic = request'.joinerAgreementPublic
      ∧ request.joinerEphemeralPublic = request'.joinerEphemeralPublic
      ∧ P.x25519Public ephemeral = P.x25519Public ephemeral'
      ∧ request.joinerRatchetPublic = request'.joinerRatchetPublic
      ∧ P.x25519Public ratchet = P.x25519Public ratchet'
      ∧ request.kemCiphertext = request'.kemCiphertext := by
  obtain ⟨hsigning, hagreement, hephemeral, he, hratchet, hr, hkem⟩ :=
    transcriptParts_inj (sized_of_accepted h) (sized_of_accepted h') hsame
  exact ⟨hsigning, hagreement, hephemeral, Subtype.ext he, hratchet, Subtype.ext hr, hkem⟩

end Accepted

/-! ### The two completions -/

/-- A pairing over a relay that rewrites messages: `received` is the request as it
arrived at the inviter, `delivered` the response as it arrived at the joiner. -/
structure TamperedPairing (P : Packages) where
  inviter : Identity
  joiner : Identity
  invite : InviteBundle
  keys : Keys P inviter invite
  joinerName : String
  joinerProfile : Bytes
  inviterProfile : Bytes
  joinerEphemeral : PrivateKey
  joinerRatchet : PrivateKey
  inviterEphemeral : PrivateKey
  inviterRatchet : PrivateKey
  kemRandom : Bytes
  inviterNow : Int
  joinerNow : Int
  request : PairingRequest
  secrets : PairingSecrets
  received : PairingRequest
  response : PairingResponse
  delivered : PairingResponse
  inviterContact : Contact
  joinerContact : Contact
  requested : buildPairingRequest P joiner invite joinerName joinerProfile joinerEphemeral
    joinerRatchet kemRandom = .ok (request, secrets)
  answered : inviterCompletePairing P inviter invite received inviterEphemeral inviterRatchet
    inviterProfile inviterNow = .ok (response, inviterContact)
  joined : joinerCompletePairing P joiner invite request secrets delivered joinerNow
    = .ok joinerContact

namespace TamperedPairing

variable (p : TamperedPairing P)

/-- The bytes each side hashes. -/
def inviterTranscript : Bytes :=
  joinParts (transcriptParts p.invite p.received (P.x25519Public p.inviterEphemeral).1
    (P.x25519Public p.inviterRatchet).1)

def joinerTranscript : Bytes :=
  joinParts (transcriptParts p.invite p.request p.delivered.inviterEphemeralPublic
    p.delivered.inviterRatchetPublic)

/-- SHA-256 does not send the two transcripts to one hash unless they are the same. -/
def NoCollision : Prop :=
  P.sha256 p.inviterTranscript = P.sha256 p.joinerTranscript →
    p.inviterTranscript = p.joinerTranscript

/-- The fields of the inviter's transcript have the lengths it has checked. -/
theorem inviter_sized : Sized p.invite p.received (P.x25519Public p.inviterEphemeral).1
    (P.x25519Public p.inviterRatchet).1 := sized_of_accepted p.answered

/-- So have the fields of the joiner's. -/
theorem joiner_sized : Sized p.invite p.request p.delivered.inviterEphemeralPublic
    p.delivered.inviterRatchetPublic := by
  obtain ⟨htranscript, hratchet, -⟩ := joinerCompletePairing_checked p.joined
  obtain ⟨hvalid, -⟩ := pairingTranscript_ok htranscript
  obtain ⟨_, _, _, _, _, hmaster, -⟩ := joinerCompletePairing_ok p.joined
  obtain ⟨-, hephemeral⟩ := derivePairMaster_lengths hmaster
  obtain ⟨kemCiphertext, pqSecret, hdraw, hreq, -⟩ := buildPairingRequest_ok p.requested
  refine {
    agreement := ?_
    ephemeral := ?_
    ratchet := (validate_ok_iff.mp hvalid).2.1
    inviterEphemeral := hephemeral
    inviterRatchet := hratchet
    kem := fun hhybrid => ?_
    classical := classical_kem hvalid }
  · rw [hreq]
    exact (P.x25519Public p.joiner.agreementPrivate).2
  · rw [hreq]
    exact (P.x25519Public p.joinerEphemeral).2
  · rw [DrawsPq, if_pos hhybrid] at hdraw
    rw [hreq, hdraw.1]
    exact (p.keys.kem hhybrid).length_ciphertext _ _ (p.keys.length_kemPublic hhybrid)

/-- With one transcript hash on both sides, what the relay may have changed of the keys
has arrived unchanged. -/
theorem fields_eq (hcollision : p.NoCollision)
    (hsame : p.inviterContact.transcriptHash = p.joinerContact.transcriptHash) :
    p.response.transcriptHash = p.delivered.transcriptHash
      ∧ p.received.joinerAgreementPublic = p.request.joinerAgreementPublic
      ∧ p.received.joinerEphemeralPublic = p.request.joinerEphemeralPublic
      ∧ (P.x25519Public p.inviterEphemeral).1 = p.delivered.inviterEphemeralPublic
      ∧ p.received.kemCiphertext = p.request.kemCiphertext := by
  obtain ⟨htranscript, hstored⟩ := inviterCompletePairing_transcript p.answered
  obtain ⟨htranscript', -, -⟩ := joinerCompletePairing_checked p.joined
  obtain ⟨_, _, _, _, _, -, -, -, hjc⟩ := joinerCompletePairing_ok p.joined
  have hhash : p.response.transcriptHash = p.delivered.transcriptHash := by
    rw [hstored, hjc] at hsame
    exact Option.some.inj hsame
  obtain ⟨-, hi⟩ := pairingTranscript_ok htranscript
  obtain ⟨-, hj⟩ := pairingTranscript_ok htranscript'
  have hsha : P.sha256 p.inviterTranscript = P.sha256 p.joinerTranscript :=
    Subtype.ext (hi.symm.trans (hhash.trans hj))
  obtain ⟨-, hagreement, hephemeral, he, -, -, hkem⟩ :=
    transcriptParts_inj p.inviter_sized p.joiner_sized (hcollision hsha)
  exact ⟨hhash, hagreement, hephemeral, he, hkem⟩

/-- **Agreement under tampering.** Whenever both sides complete with one transcript hash
they hold one master secret and one hybrid flag. The inviter's contact has the name the
request arrived with, which the transcript does not pin down; its conversation id is
made of that name, the joiner's of the joiner's own. -/
theorem agree_of_transcript (hcollision : p.NoCollision)
    (hsame : p.inviterContact.transcriptHash = p.joinerContact.transcriptHash) :
    p.inviterContact.masterSecret = p.joinerContact.masterSecret
      ∧ p.inviterContact.hybridPq = p.joinerContact.hybridPq
      ∧ p.inviterContact.name = p.received.joinerName
      ∧ p.inviterContact.conversationId = conversationIdFor p.inviter.name p.received.joinerName
      ∧ p.joinerContact.conversationId = conversationIdFor p.inviter.name p.joiner.name := by
  obtain ⟨hhash, hagreement, hephemeral, he, hkem⟩ := p.fields_eq hcollision hsame
  have hpqSent := p.keys.inviterPqSecret p.requested
  obtain ⟨transcriptHash, pqSecret, master, _, _, _, hpq, hmaster, -, hresp, hic⟩ :=
    inviterCompletePairing_ok p.answered
  obtain ⟨master', _, _, _, _, hmaster', -, -, hjc⟩ := joinerCompletePairing_ok p.joined
  obtain ⟨kemCiphertext, secret, hdraw, hreq, hsec⟩ := buildPairingRequest_ok p.requested
  -- the inviter decapsulates what the joiner sent
  have hsecret : pqSecret = p.secrets.pqSecret := by
    rw [inviterPqSecret, hkem, ← inviterPqSecret, hpqSent] at hpq
    exact (Except.ok.inj hpq).symm
  have hmixed : (if inviteSupportsHybrid p.invite then p.secrets.pqSecret else none)
      = p.secrets.pqSecret := by
    by_cases hhybrid : inviteSupportsHybrid p.invite = true
    · rw [if_pos hhybrid]
    · rw [DrawsPq, if_neg hhybrid] at hdraw
      rw [if_neg hhybrid, hsec, hdraw.2]
  have hhash' : transcriptHash = p.delivered.transcriptHash := by
    rw [← hhash, hresp]
  have hagreement' : p.received.joinerAgreementPublic
      = (P.x25519Public p.joiner.agreementPrivate).1 := by
    rw [hagreement, hreq]
    rfl
  have hephemeral' : p.received.joinerEphemeralPublic = (P.x25519Public p.joinerEphemeral).1 := by
    rw [hephemeral, hreq]
  have hprivate : p.secrets.ephemeralPrivate = p.joinerEphemeral := by rw [hsec]
  have hinvite : p.invite.agreementPublic = (P.x25519Public p.inviter.agreementPrivate).1 :=
    p.keys.issued.agreementPublic
  rw [hagreement', hephemeral', hhash', hsecret] at hmaster
  rw [hinvite, hprivate, ← he, hmixed, ← derivePairMaster_comm p.keys.dh] at hmaster'
  have hmasters : master = master' := Except.ok.inj (hmaster.symm.trans hmaster')
  refine ⟨?_, ?_, ?_, ?_, ?_⟩
  · rw [hic, hjc, hmasters]
  · rw [hic, hjc]
  · rw [hic]
  · rw [hic]
  · rw [hjc, p.keys.issued.inviterName]

end TamperedPairing

namespace Sample

theorem alice_keys : Keys plainPackages alice invite where
  dh := plainPackages_dhLaws
  kem := fun _ => plainPackages_kemLaws
  issued := pairing.issued
  generated := pairing.kemKeys

def renamed : PairingRequest := { asked.1 with joinerName := "mallory" }

def renamedAnswer : PairingResponse × Contact :=
  returned (inviterCompletePairing plainPackages alice invite renamed (key 8) (key 9) [] 0)
    (by decide +kernel)

def renamedJoined : Contact :=
  returned (joinerCompletePairing plainPackages bob invite asked.1 asked.2 renamedAnswer.1 0)
    (by decide +kernel)

/-- The name of the joiner is not among the bytes that are hashed, the keys are. -/
theorem renamed_same_keys :
    asked.1.joinerSigningPublic = renamed.joinerSigningPublic
      ∧ asked.1.joinerAgreementPublic = renamed.joinerAgreementPublic
      ∧ asked.1.joinerEphemeralPublic = renamed.joinerEphemeralPublic
      ∧ plainPackages.x25519Public (key 8) = plainPackages.x25519Public (key 8)
      ∧ asked.1.joinerRatchetPublic = renamed.joinerRatchetPublic
      ∧ plainPackages.x25519Public (key 9) = plainPackages.x25519Public (key 9)
      ∧ asked.1.kemCiphertext = renamed.kemCiphertext :=
  have hasked : inviterCompletePairing plainPackages alice invite asked.1 (key 8) (key 9) [] 0
      = .ok answer := eq_ok_returned _ (by decide +kernel)
  have hrenamed : inviterCompletePairing plainPackages alice invite renamed (key 8) (key 9) [] 0
      = .ok renamedAnswer := eq_ok_returned _ (by decide +kernel)
  accepted_transcript_injective hasked hrenamed rfl

/-- The relay gives Bob another name on the way. -/
def renamedPairing : TamperedPairing plainPackages where
  inviter := alice
  joiner := bob
  invite := invite
  keys := alice_keys
  joinerName := "bob"
  joinerProfile := []
  inviterProfile := []
  joinerEphemeral := key 6
  joinerRatchet := key 7
  inviterEphemeral := key 8
  inviterRatchet := key 9
  kemRandom := []
  inviterNow := 0
  joinerNow := 0
  request := asked.1
  secrets := asked.2
  received := renamed
  response := renamedAnswer.1
  delivered := renamedAnswer.1
  inviterContact := renamedAnswer.2
  joinerContact := renamedJoined
  requested := pairing.requested
  answered := eq_ok_returned _ (by decide +kernel)
  joined := eq_ok_returned _ (by decide +kernel)

theorem renamedPairing_agrees :
    renamedPairing.inviterContact.masterSecret = renamedPairing.joinerContact.masterSecret
      ∧ renamedPairing.inviterContact.hybridPq = renamedPairing.joinerContact.hybridPq
      ∧ renamedPairing.inviterContact.name = renamedPairing.received.joinerName
      ∧ renamedPairing.inviterContact.conversationId
        = conversationIdFor renamedPairing.inviter.name renamedPairing.received.joinerName
      ∧ renamedPairing.joinerContact.conversationId
        = conversationIdFor renamedPairing.inviter.name renamedPairing.joiner.name :=
  renamedPairing.agree_of_transcript (fun _ => by decide +kernel) (by decide +kernel)

/-- The conversation ids differ, and Bob is known by the relay's name. -/
theorem renamedPairing_differs : ¬ ∀ p : TamperedPairing plainPackages, p.NoCollision →
    p.inviterContact.transcriptHash = p.joinerContact.transcriptHash →
      p.inviterContact.conversationId = p.joinerContact.conversationId
        ∧ p.inviterContact.name = p.request.joinerName := by
  intro h
  have hboth := h renamedPairing (fun _ => by decide +kernel) (by decide +kernel)
  exact absurd hboth.1 (by decide +kernel)

end Sample
end Yakr
