import Yakr.Core.Pairing
import Yakr.Core.Plain
import Yakr.Ratchet.Agreement

/-!
# Yakr.Pairing.Honest

**An honest pairing.** Inviter and joiner run the two completions on one invite,
one request and one response, all delivered as they were made. Both ends derive
one master secret, and their ratchets fit together with the inviter leading.
-/

namespace Yakr

open Lib Effect RatchetState

variable {P : Packages}

/-- A pairing in which nobody changed anything on the way. -/
structure HonestPairing (P : Packages) where
  inviter : Identity
  joiner : Identity
  invite : InviteBundle
  issued : invite.IssuedBy P inviter
  /-- The inviter's ML-KEM keys are a generated pair. -/
  kemKeys : inviteSupportsHybrid invite = true →
    ∃ seed, P.kemKeypair seed = (inviter.kemPublic, inviter.kemPrivate)
  joinerName : String
  joinerProfile : Bytes
  inviterProfile : Bytes
  joinerEphemeral : PrivateKey
  joinerRatchet : PrivateKey
  inviterEphemeral : PrivateKey
  inviterRatchet : PrivateKey
  kemRandom : Bytes
  inviterNow : Int
  joinerNow : Int
  request : PairingRequest
  secrets : PairingSecrets
  response : PairingResponse
  inviterContact : Contact
  joinerContact : Contact
  requested : buildPairingRequest P joiner invite joinerName joinerProfile joinerEphemeral
    joinerRatchet kemRandom = .ok (request, secrets)
  answered : inviterCompletePairing P inviter invite request inviterEphemeral inviterRatchet
    inviterProfile inviterNow = .ok (response, inviterContact)
  joined : joinerCompletePairing P joiner invite request secrets response joinerNow
    = .ok joinerContact

/-! ### What the three functions return -/

/-- The secret `build_pairing_request` draws and what it sends of it. -/
def DrawsPq (P : Packages) (invite : InviteBundle) (kemRandom kemCiphertext : Bytes)
    (pqSecret : Option Bytes) : Prop :=
  if inviteSupportsHybrid invite then
    kemCiphertext = (P.kemEncrypt invite.kemPublic kemRandom).1
      ∧ pqSecret = some (P.kemEncrypt invite.kemPublic kemRandom).2.1
  else kemCiphertext = [] ∧ pqSecret = none

theorem buildPairingRequest_ok {joiner : Identity} {invite : InviteBundle} {joinerName : String}
    {joinerProfile kemRandom : Bytes} {ephemeral ratchet : PrivateKey} {request : PairingRequest}
    {secrets : PairingSecrets}
    (h : buildPairingRequest P joiner invite joinerName joinerProfile ephemeral ratchet kemRandom
      = .ok (request, secrets)) :
    ∃ kemCiphertext pqSecret, DrawsPq P invite kemRandom kemCiphertext pqSecret
      ∧ request =
        { inviteSecret := invite.inviteSecret
          joinerName
          joinerSigningPublic := joiner.signingPublicBytes P
          joinerAgreementPublic := joiner.agreementPublicBytes P
          joinerEphemeralPublic := (P.x25519Public ephemeral).1
          joinerRatchetPublic := (P.x25519Public ratchet).1
          joinerProfile
          kemCiphertext }
      ∧ secrets = { ephemeralPrivate := ephemeral, ratchetPrivate := ratchet, pqSecret } := by
  unfold buildPairingRequest at h
  obtain ⟨⟨kemCiphertext, pqSecret⟩, hdraw, h⟩ := bind_ok.mp h
  obtain ⟨hreq, hsec⟩ := Prod.mk.inj (Except.ok.inj h)
  refine ⟨kemCiphertext, pqSecret, ?_, hreq.symm, hsec.symm⟩
  rw [DrawsPq]
  rw [encapsulateForInvite, kemEncapsulate] at hdraw
  by_cases hhybrid : inviteSupportsHybrid invite = true
  · rw [if_pos hhybrid] at hdraw ⊢
    split at hdraw
    · cases hdraw
    · obtain ⟨rfl, rfl⟩ := Prod.mk.inj (Except.ok.inj hdraw)
      exact ⟨rfl, rfl⟩
  · rw [if_neg hhybrid] at hdraw ⊢
    obtain ⟨rfl, rfl⟩ := Prod.mk.inj (Except.ok.inj hdraw)
    exact ⟨rfl, rfl⟩

/-- An acknowledged profile changes only what records the acknowledgement. -/
theorem applyPeerProfileAckFromBytes_ok {contact contact' : Contact}
    {profileBytes signingPublic : Bytes}
    (h : applyPeerProfileAckFromBytes P contact profileBytes signingPublic = .ok contact') :
    ∃ version names, contact' = { contact with
      peerAckedMyProfileVersion := version, peerAckedMyRelayNames := names } := by
  unfold applyPeerProfileAckFromBytes at h
  split at h
  · obtain rfl := Except.ok.inj h
    exact ⟨contact.peerAckedMyProfileVersion, contact.peerAckedMyRelayNames, rfl⟩
  · obtain ⟨profile, -, h⟩ := bind_ok.mp h
    obtain ⟨-, -, h⟩ := bind_ok.mp h
    exact ⟨_, _, (Except.ok.inj h).symm⟩

theorem inviterCompletePairing_ok {identity : Identity} {invite : InviteBundle}
    {request : PairingRequest} {ephemeral ratchet : PrivateKey} {profile : Bytes} {now : Int}
    {response : PairingResponse} {contact : Contact}
    (h : inviterCompletePairing P identity invite request ephemeral ratchet profile now
      = .ok (response, contact)) :
    ∃ transcriptHash pqSecret master deliveryProfile version names,
      inviterPqSecret P identity invite request = .ok pqSecret
      ∧ derivePairMaster P identity.agreementPrivate request.joinerAgreementPublic ephemeral
          request.joinerEphemeralPublic transcriptHash pqSecret = .ok master
      ∧ profileFromPairingBytes P request.joinerProfile request.joinerSigningPublic
          = .ok deliveryProfile
      ∧ response =
        { inviterEphemeralPublic := (P.x25519Public ephemeral).1
          inviterRatchetPublic := (P.x25519Public ratchet).1
          transcriptHash
          inviterProfile := profile }
      ∧ contact =
        { name := request.joinerName
          signingPublic := request.joinerSigningPublic
          agreementPublic := request.joinerAgreementPublic
          masterSecret := master
          conversationId := conversationIdFor identity.name request.joinerName
          contactId :=
            some (contactIdFor P request.joinerSigningPublic request.joinerAgreementPublic)
          transcriptHash := some transcriptHash
          ratchet := some { fromMaster P master true (inviteSupportsHybrid invite) ratchet with
            pendingPairingDhRatchetPeer := some request.joinerRatchetPublic }
          deliveryProfile
          hybridPq := inviteSupportsHybrid invite
          sessionStartedAt := now
          peerAckedMyProfileVersion := version
          peerAckedMyRelayNames := names } := by
  unfold inviterCompletePairing at h
  obtain ⟨-, -, h⟩ := bind_ok.mp h
  obtain ⟨transcriptHash, -, h⟩ := bind_ok.mp h
  obtain ⟨pqSecret, hpq, h⟩ := bind_ok.mp h
  obtain ⟨master, hmaster, h⟩ := bind_ok.mp h
  obtain ⟨deliveryProfile, hprofile, h⟩ := bind_ok.mp h
  obtain ⟨contact', hack, h⟩ := bind_ok.mp h
  obtain ⟨hresponse, hcontact⟩ := Prod.mk.inj (Except.ok.inj h)
  obtain ⟨version, names, hcontact'⟩ := applyPeerProfileAckFromBytes_ok hack
  exact ⟨transcriptHash, pqSecret, master, deliveryProfile, version, names, hpq, hmaster, hprofile,
    hresponse.symm, hcontact.symm.trans hcontact'⟩

theorem joinerCompletePairing_ok {identity : Identity} {invite : InviteBundle}
    {request : PairingRequest} {secrets : PairingSecrets} {response : PairingResponse} {now : Int}
    {contact : Contact}
    (h : joinerCompletePairing P identity invite request secrets response now = .ok contact) :
    ∃ master ratchet deliveryProfile version names,
      derivePairMaster P identity.agreementPrivate invite.agreementPublic
          secrets.ephemeralPrivate response.inviterEphemeralPublic response.transcriptHash
          (if inviteSupportsHybrid invite then secrets.pqSecret else none) = .ok master
      ∧ runRatchet (pairingRecvInit P response.inviterRatchetPublic)
          (fromMaster P master false (inviteSupportsHybrid invite) secrets.ratchetPrivate)
          = .ok ratchet
      ∧ profileFromPairingBytes P response.inviterProfile invite.signingPublic
          = .ok deliveryProfile
      ∧ contact =
        { name := invite.inviterName
          signingPublic := invite.signingPublic
          agreementPublic := invite.agreementPublic
          masterSecret := master
          conversationId := conversationIdFor invite.inviterName identity.name
          contactId := some (contactIdFor P invite.signingPublic invite.agreementPublic)
          transcriptHash := some response.transcriptHash
          ratchet := some ratchet
          deliveryProfile
          hybridPq := inviteSupportsHybrid invite
          sessionStartedAt := now
          peerAckedMyProfileVersion := version
          peerAckedMyRelayNames := names } := by
  unfold joinerCompletePairing at h
  obtain ⟨-, -, h⟩ := bind_ok.mp h
  obtain ⟨master, hmaster, h⟩ := bind_ok.mp h
  obtain ⟨ratchet, hratchet, h⟩ := bind_ok.mp h
  obtain ⟨deliveryProfile, hprofile, h⟩ := bind_ok.mp h
  obtain ⟨version, names, hcontact⟩ := applyPeerProfileAckFromBytes_ok h
  exact ⟨master, ratchet, deliveryProfile, version, names, hmaster, hratchet, hprofile, hcontact⟩

/-! ### Agreement -/

/-- Both sides of a key agreement derive one master secret. -/
theorem derivePairMaster_comm (hdh : P.DhLaws) (a e b k : PrivateKey) (transcriptHash : Bytes)
    (pqSecret : Option Bytes) :
    derivePairMaster P a (P.x25519Public b).1 e (P.x25519Public k).1 transcriptHash pqSecret
      = derivePairMaster P b (P.x25519Public a).1 k (P.x25519Public e).1 transcriptHash
        pqSecret := by
  obtain ⟨s, hs, hs'⟩ := x25519SharedSecret_comm hdh a b
  obtain ⟨t, ht, ht'⟩ := x25519SharedSecret_comm hdh e k
  simp only [derivePairMaster, hs, hs', ht, ht']

/-- `_pairing_recv_init` against a generated key. -/
theorem pairingRecvInit_run {s : RatchetState} {priv : PrivateKey} {peer shared : Bytes}
    (hlen : peer.length = 32) (hpriv : s.dhSelfPrivate = priv.1)
    (hshared : x25519SharedSecret P priv peer = .ok shared) :
    runRatchet (pairingRecvInit P peer) s = .ok { s with
      rootKey := (kdfRk P s.rootKey shared).1
      dhPeerPublic := some peer
      recvChainKey := some (kdfRk P s.rootKey shared).2
      recvN := 0 } := by
  simp [runRatchet, pairingRecvInit, hlen, hpriv, hshared]

namespace HonestPairing

variable (p : HonestPairing P)

/-- The post-quantum secret both sides mix in. -/
theorem pqSecret_agree (hkem : inviteSupportsHybrid p.invite = true → P.KemLaws) {pqSecret : Option Bytes}
    (h : inviterPqSecret P p.inviter p.invite p.request = .ok pqSecret) :
    (if inviteSupportsHybrid p.invite then p.secrets.pqSecret else none) = pqSecret := by
  obtain ⟨kemCiphertext, secret, hdraw, hreq, hsec⟩ := buildPairingRequest_ok p.requested
  rw [inviterPqSecret] at h
  rw [DrawsPq] at hdraw
  by_cases hhybrid : inviteSupportsHybrid p.invite = true
  · obtain ⟨seed, hseed⟩ := p.kemKeys hhybrid
    rw [if_pos hhybrid] at h hdraw ⊢
    rw [p.issued.kemPublic hhybrid] at hdraw
    have hpublic : (P.kemKeypair seed).1 = p.inviter.kemPublic := by rw [hseed]
    have hsecret : (P.kemKeypair seed).2 = p.inviter.kemPrivate := by rw [hseed]
    have hct : p.request.kemCiphertext = (P.kemEncrypt p.inviter.kemPublic p.kemRandom).1 := by
      rw [hreq]
      exact hdraw.1
    have hmine : p.secrets.pqSecret
        = some (P.kemEncrypt p.inviter.kemPublic p.kemRandom).2.1 := by
      rw [hsec]
      exact hdraw.2
    have hopen := (hkem hhybrid).decrypt_encrypt seed p.kemRandom
    rw [hpublic, hsecret] at hopen
    split at h
    · cases h
    · split at h
      · cases h
      · rw [kemDecapsulate] at h
        split at h
        · cases h
        · split at h
          · cases h
          · rw [hmine, ← hopen, ← hct]
            exact Except.ok.inj h
  · rw [if_neg hhybrid] at h ⊢
    exact Except.ok.inj h

/-- **Agreement.** One master secret on both sides; the inviter's ratchet starts from
it with the joiner's ratchet key pending, the joiner's has received the inviter's. -/
theorem agree (hdh : P.DhLaws) (hkem : inviteSupportsHybrid p.invite = true → P.KemLaws) :
    ∃ master shared, p.inviterContact.masterSecret = master
      ∧ p.joinerContact.masterSecret = master
      ∧ x25519SharedSecret P p.inviterRatchet (P.x25519Public p.joinerRatchet).1 = .ok shared
      ∧ p.inviterContact.ratchet = some
          { fromMaster P master true (inviteSupportsHybrid p.invite) p.inviterRatchet with
            pendingPairingDhRatchetPeer := some (P.x25519Public p.joinerRatchet).1 }
      ∧ p.joinerContact.ratchet = some
          { fromMaster P master false (inviteSupportsHybrid p.invite) p.joinerRatchet with
            rootKey := (kdfRk P (hkdfDerive P master rootInfo) shared).1
            dhPeerPublic := some (P.x25519Public p.inviterRatchet).1
            recvChainKey := some (kdfRk P (hkdfDerive P master rootInfo) shared).2 } := by
  obtain ⟨kemCiphertext, secret, hdraw, hreq, hsec⟩ := buildPairingRequest_ok p.requested
  obtain ⟨transcriptHash, pqSecret, master, profile, version, names, hpq, hmaster, -, hresp, hic⟩ :=
    inviterCompletePairing_ok p.answered
  obtain ⟨master', ratchet, profile', version', names', hmaster', hratchet, -, hjc⟩ :=
    joinerCompletePairing_ok p.joined
  obtain ⟨shared, hshared, hshared'⟩ :=
    x25519SharedSecret_comm hdh p.inviterRatchet p.joinerRatchet
  rw [p.pqSecret_agree hkem hpq, p.issued.agreementPublic, hresp, hsec] at hmaster'
  rw [hreq] at hmaster
  have hsame : master' = master := by
    have hcomm := derivePairMaster_comm (P := P) hdh p.inviter.agreementPrivate p.inviterEphemeral
      p.joiner.agreementPrivate p.joinerEphemeral transcriptHash pqSecret
    exact Except.ok.inj (hmaster'.symm.trans (hcomm.symm.trans hmaster))
  subst hsame
  rw [hresp, hsec] at hratchet
  have hinit := pairingRecvInit_run (P := P)
    (s := fromMaster P master' false (inviteSupportsHybrid p.invite) p.joinerRatchet)
    (P.x25519Public p.inviterRatchet).2 rfl hshared'
  rw [hinit] at hratchet
  refine ⟨master', shared, by rw [hic], by rw [hjc], hshared, ?_, ?_⟩
  · rw [hic, hreq]
  · rw [hjc, ← Except.ok.inj hratchet]
    rfl

/-- The two ratchets of an honest pairing fit together, the inviter leading, with
nothing on its way. -/
theorem leads (hdh : P.DhLaws) (hkem : inviteSupportsHybrid p.invite = true → P.KemLaws) :
    ∃ l f, p.inviterContact.ratchet = some l ∧ p.joinerContact.ratchet = some f
      ∧ Leads P l f [] [] ∧ l.skippedKeys = [] ∧ f.skippedKeys = []
      ∧ l.recvN = 0 ∧ f.recvN = 0 ∧ l.sendN = 0 ∧ f.sendN = 0 := by
  obtain ⟨master, shared, -, -, hshared, hl, hf⟩ := p.agree hdh hkem
  have hzero : 0 < 2 ^ 32 ∧ 0 < 2 ^ 32 := by decide
  refine ⟨_, _, hl, hf, ?_, rfl, rfl, rfl, rfl, rfl, rfl⟩
  refine ⟨⟨p.inviterRatchet, p.joinerRatchet, ⟨rfl, rfl⟩, ⟨rfl, rfl⟩,
      .pending shared rfl rfl hshared rfl, [], [], rfl, ?_⟩,
    ⟨hkdfDerive P (hkdfDerive P master rootInfo) recvChainInfo, ⟨rfl, rfl⟩, rfl, ?_⟩,
    Or.inl rfl, hzero, hzero⟩
  · exact {
      oldChain := ⟨[], fun h => absurd rfl h, fun w hw => absurd hw List.not_mem_nil⟩
      oldAhead := fun w hw => absurd hw List.not_mem_nil
      oldOrder := List.Pairwise.nil
      newPeer := fun w hw => absurd hw List.not_mem_nil
      newKey := fun w hw => absurd hw List.not_mem_nil
      newKept := fun w hw => absurd hw List.not_mem_nil
      newSent := fun w hw => absurd hw List.not_mem_nil
      newBoot := fun _ w hw => absurd hw List.not_mem_nil
      newOrder := List.Pairwise.nil }
  · exact {
      onChain := fun w hw => absurd hw List.not_mem_nil
      ahead := fun w hw => absurd hw List.not_mem_nil
      sent := fun w hw => absurd hw List.not_mem_nil
      next := Nat.le_refl 0
      order := List.Pairwise.nil }

end HonestPairing

/-! ### A pairing on the executable packages -/

namespace Sample

def key (n : Nat) : PrivateKey := Plain.digest 32 [UInt8.ofNat n]

def nonce (n : Nat) : Nonce := Plain.digest 24 [UInt8.ofNat n]

def alice : Identity := { name := "alice", signingPrivate := key 1, agreementPrivate := key 2 }

def bob : Identity := { name := "bob", signingPrivate := key 3, agreementPrivate := key 4 }

def invite : InviteBundle :=
  returned (createInvite plainPackages alice "https://relay" [] defaultInviteTtlMs false 0 (key 5))
    (by decide)

def asked : PairingRequest × PairingSecrets :=
  returned (buildPairingRequest plainPackages bob invite "bob" [] (key 6) (key 7) [])
    (by decide +kernel)

def answer : PairingResponse × Contact :=
  returned (inviterCompletePairing plainPackages alice invite asked.1 (key 8) (key 9) [] 0)
    (by decide +kernel)

def joined : Contact :=
  returned (joinerCompletePairing plainPackages bob invite asked.1 asked.2 answer.1 0)
    (by decide +kernel)

/-- Alice invites Bob, without post-quantum keys and without profiles. -/
def pairing : HonestPairing plainPackages where
  inviter := alice
  joiner := bob
  invite := invite
  issued := issuedBy_createInvite plainPackages (eq_ok_returned _ _)
  kemKeys h := absurd h (by decide +kernel)
  joinerName := "bob"
  joinerProfile := []
  inviterProfile := []
  joinerEphemeral := key 6
  joinerRatchet := key 7
  inviterEphemeral := key 8
  inviterRatchet := key 9
  kemRandom := []
  inviterNow := 0
  joinerNow := 0
  request := asked.1
  secrets := asked.2
  response := answer.1
  inviterContact := answer.2
  joinerContact := joined
  requested := eq_ok_returned _ (by decide +kernel)
  answered := eq_ok_returned _ (by decide +kernel)
  joined := eq_ok_returned _ (by decide +kernel)

end Sample
end Yakr
