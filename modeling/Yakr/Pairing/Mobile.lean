import Yakr.Core.Store
import Yakr.Pairing.Invites
import Yakr.Pairing.Tampering

/-!
# Yakr.Pairing.Mobile

**Joining on a phone.** `YakrMobileClient.complete_pairing_as_joiner` is given the invite, the
inviter's response and the joiner's secrets, but not the request that was answered. It builds a
request of its own and throws the secrets of that one away: the transcript of the response is
checked against keys that were drawn after it was made.

* `joinerCompletePairing_renamed`: the name and the profile of a request are not checked;
* `redrawn_of_joined`: a response is accepted only for the keys it was made for;
* `mobile_join_completes_iff`: when the client completes.
-/

namespace Yakr

open Lib Effect RatchetState

variable {P : Packages}

/-! ### `MobileStore` and the client -/

/-- What `MobileStore` reads back: the identity, the store of files and the contacts of the
encrypted database, each as the dictionary that was encrypted. -/
structure MobileStore where
  identity : Option Identity := none
  fileStore : FileLocalStore := {}
  contactBlobs : List ContactDict := []

/-- `MobileStore.save_contact`, with the outcome of writing the contact's file. -/
def MobileStore.saveContact (P : Packages) (contact : Contact) (synced : Except PyExc Unit) :
    EStateM PyExc MobileStore Unit := do
  modify fun store => { store with fileStore := store.fileStore.saveContact P contact }
  orRaise synced
  modify fun store => { store with
    contactBlobs := Table.upsert ContactDict.name (contact.toDict P) store.contactBlobs }

/-- What one call of `build_pairing_request` draws. -/
structure RequestDraws where
  ephemeralPrivate : PrivateKey
  ratchetPrivate : PrivateKey
  kemRandom : Bytes

/-- `_require_identity`. -/
def requireIdentity (store : MobileStore) : Except PyExc Identity :=
  match store.identity with
  | some identity => .ok identity
  | none => .error (.yakr .yakrError "identity not initialized")

/-- The part of `complete_pairing_as_joiner` before the contact is saved. -/
def joinWithResponse (P : Packages) (identity : Identity) (inviteUrl : String)
    (pairingResponse : PairingResponse) (secrets : PairingSecrets) (joinerName : Option String)
    (draws : RequestDraws) (now : Int) : Except PyExc Contact := do
  let bundle ← inviteFromUrl P inviteUrl
  verifyInvite P bundle now
  let (request, _) ← buildPairingRequest P identity bundle (aliasOr joinerName identity.name) []
    draws.ephemeralPrivate draws.ratchetPrivate draws.kemRandom
  let contact ← joinerCompletePairing P identity bundle request secrets pairingResponse now
  return { contact with name := aliasOr joinerName bundle.inviterName }

/-- `complete_pairing_as_joiner`. -/
def completePairingAsJoiner (P : Packages) (inviteUrl : String)
    (pairingResponse : PairingResponse) (secrets : PairingSecrets) (joinerName : Option String)
    (draws : RequestDraws) (now : Int) (synced : Except PyExc Unit) :
    EStateM PyExc MobileStore Contact := do
  let identity ← orRaise (requireIdentity (← get))
  let contact ← orRaise (joinWithResponse P identity inviteUrl pairingResponse secrets joinerName
    draws now)
  MobileStore.saveContact P contact synced
  return contact

/-! ### What the joiner's completion does not look at -/

section Joiner

variable {identity : Identity} {invite : InviteBundle} {request : PairingRequest}
  {secrets : PairingSecrets} {response : PairingResponse} {now : Int} {contact : Contact}

/-- A request under another name and without a profile is completed to the same contact, except
for the profile that would have been acknowledged. -/
theorem joinerCompletePairing_renamed (name : String)
    (h : joinerCompletePairing P identity invite request secrets response now = .ok contact) :
    joinerCompletePairing P identity invite { request with joinerName := name, joinerProfile := [] }
      secrets response now
      = .ok { contact with peerAckedMyProfileVersion := 0, peerAckedMyRelayNames := [] } := by
  unfold joinerCompletePairing at h
  obtain ⟨u, hcheck, h⟩ := bind_ok.mp h
  obtain ⟨master, hmaster, h⟩ := bind_ok.mp h
  obtain ⟨ratchet, hratchet, h⟩ := bind_ok.mp h
  obtain ⟨deliveryProfile, hprofile, h⟩ := bind_ok.mp h
  obtain ⟨version, names, rfl⟩ := applyPeerProfileAckFromBytes_ok h
  -- the transcript has neither of the two fields
  have hcheck' : checkPairingResponse P invite
      { request with joinerName := name, joinerProfile := [] } secrets response = .ok u := hcheck
  unfold joinerCompletePairing
  refine bind_ok.mpr ⟨u, hcheck', bind_ok.mpr ⟨master, hmaster, bind_ok.mpr ⟨ratchet, hratchet, ?_⟩⟩⟩
  exact bind_ok.mpr ⟨deliveryProfile, hprofile, rfl⟩

end Joiner

/-! ### Answered pairings -/

/-- A request that was built once and answered by the inviter of its invite. -/
structure AnsweredPairing (P : Packages) where
  inviter : Identity
  joiner : Identity
  invite : InviteBundle
  keys : Keys P inviter invite
  joinerName : String
  joinerProfile : Bytes
  inviterProfile : Bytes
  drawn : RequestDraws
  inviterEphemeral : PrivateKey
  inviterRatchet : PrivateKey
  inviterNow : Int
  request : PairingRequest
  secrets : PairingSecrets
  response : PairingResponse
  inviterContact : Contact
  requested : buildPairingRequest P joiner invite joinerName joinerProfile drawn.ephemeralPrivate
    drawn.ratchetPrivate drawn.kemRandom = .ok (request, secrets)
  answered : inviterCompletePairing P inviter invite request inviterEphemeral inviterRatchet
    inviterProfile inviterNow = .ok (response, inviterContact)

/-- A profile that the other side has stored, or its owner has acknowledged, is its owner's. -/
theorem ownProfile_of_read {identity : Identity} {data : Bytes} {profile : Option DeliveryProfile}
    (h : profileFromPairingBytes P data (identity.signingPublicBytes P) = .ok profile) :
    OwnProfile P identity data := by
  unfold profileFromPairingBytes at h
  by_cases hdata : data = []
  · exact .inl hdata
  · rw [if_neg hdata] at h
    obtain ⟨profile, hparsed, h⟩ := bind_ok.mp h
    obtain ⟨u, hverify, -⟩ := bind_ok.mp h
    exact .inr ⟨profile, hparsed, hverify⟩

theorem ownProfile_of_acked {identity : Identity} {data : Bytes} {contact contact' : Contact}
    (h : applyPeerProfileAckFromBytes P contact data (identity.signingPublicBytes P)
      = .ok contact') : OwnProfile P identity data := by
  unfold applyPeerProfileAckFromBytes at h
  by_cases hdata : data = []
  · exact .inl hdata
  · rw [if_neg hdata] at h
    obtain ⟨profile, hparsed, h⟩ := bind_ok.mp h
    obtain ⟨u, hverify, -⟩ := bind_ok.mp h
    exact .inr ⟨profile, hparsed, hverify⟩

theorem DrawsPq.kemCiphertext_eq {invite : InviteBundle} {kemRandom kemCiphertext : Bytes}
    {pqSecret : Option Bytes} (h : DrawsPq P invite kemRandom kemCiphertext pqSecret) :
    kemCiphertext = if inviteSupportsHybrid invite then
      (P.kemEncrypt invite.kemPublic kemRandom).1 else [] := by
  unfold DrawsPq at h
  split at h
  · rename_i hhybrid
    rw [if_pos hhybrid]
    exact h.1
  · rename_i hclassical
    rw [if_neg hclassical]
    exact h.1

namespace AnsweredPairing

variable (p : AnsweredPairing P)

theorem ownProfile_joiner : OwnProfile P p.joiner p.joinerProfile := by
  obtain ⟨_, _, _, profile, _, _, -, -, hprofile, -, -⟩ := inviterCompletePairing_ok p.answered
  obtain ⟨_, _, -, hreq, -⟩ := buildPairingRequest_ok p.requested
  rw [hreq] at hprofile
  exact ownProfile_of_read hprofile

theorem ownProfile_inviter : OwnProfile P p.inviter p.inviterProfile := by
  have hrun := p.answered
  unfold inviterCompletePairing at hrun
  obtain ⟨-, -, hrun⟩ := bind_ok.mp hrun
  obtain ⟨_, -, hrun⟩ := bind_ok.mp hrun
  obtain ⟨_, -, hrun⟩ := bind_ok.mp hrun
  obtain ⟨_, -, hrun⟩ := bind_ok.mp hrun
  obtain ⟨_, -, hrun⟩ := bind_ok.mp hrun
  obtain ⟨contact', hack, -⟩ := bind_ok.mp hrun
  exact ownProfile_of_acked hack

/-- The pairing that the joiner would complete with its own request. -/
def toHonest {joinerContact : Contact} {joinerNow : Int}
    (hjoined : joinerCompletePairing P p.joiner p.invite p.request p.secrets p.response joinerNow
      = .ok joinerContact) : HonestPairing P :=
  { inviter := p.inviter
    joiner := p.joiner
    invite := p.invite
    issued := p.keys.issued
    kemKeys := p.keys.generated
    joinerName := p.joinerName
    joinerProfile := p.joinerProfile
    inviterProfile := p.inviterProfile
    joinerEphemeral := p.drawn.ephemeralPrivate
    joinerRatchet := p.drawn.ratchetPrivate
    inviterEphemeral := p.inviterEphemeral
    inviterRatchet := p.inviterRatchet
    kemRandom := p.drawn.kemRandom
    inviterNow := p.inviterNow
    joinerNow
    request := p.request
    secrets := p.secrets
    response := p.response
    inviterContact := p.inviterContact
    joinerContact
    requested := p.requested
    answered := p.answered
    joined := hjoined }

/-- With its own request the joiner completes to the inviter's secret and transcript. -/
theorem joins (now : Int) : ∃ contact,
    joinerCompletePairing P p.joiner p.invite p.request p.secrets p.response now = .ok contact
      ∧ contact.masterSecret = p.inviterContact.masterSecret
      ∧ contact.transcriptHash = p.inviterContact.transcriptHash := by
  obtain ⟨contact, hjoined⟩ := p.keys.joinerCompletes p.requested p.ownProfile_joiner
    p.ownProfile_inviter p.answered now
  obtain ⟨master, _, hinviter, hjoiner, -⟩ := (p.toHonest hjoined).agree p.keys.dh p.keys.kem
  obtain ⟨-, hstored⟩ := inviterCompletePairing_transcript p.answered
  obtain ⟨_, _, _, _, _, -, -, -, hcontact⟩ := joinerCompletePairing_ok hjoined
  refine ⟨contact, hjoined, hjoiner.trans hinviter.symm, ?_⟩
  rw [hstored, hcontact]

/-! ### The redrawn request -/

/-- The keys and the ciphertext of another draw are those of the request that was answered. -/
def Redrawn (draws : RequestDraws) : Prop :=
  P.x25519Public draws.ephemeralPrivate = P.x25519Public p.drawn.ephemeralPrivate
    ∧ P.x25519Public draws.ratchetPrivate = P.x25519Public p.drawn.ratchetPrivate
    ∧ (inviteSupportsHybrid p.invite = true →
      (P.kemEncrypt p.invite.kemPublic draws.kemRandom).1
        = (P.kemEncrypt p.invite.kemPublic p.drawn.kemRandom).1)

/-- The request that the client builds from a draw. -/
def redrawnRequest (joinerName : String) (draws : RequestDraws) : PairingRequest :=
  { p.request with
    joinerName
    joinerEphemeralPublic := (P.x25519Public draws.ephemeralPrivate).1
    joinerRatchetPublic := (P.x25519Public draws.ratchetPrivate).1
    joinerProfile := []
    kemCiphertext := if inviteSupportsHybrid p.invite then
      (P.kemEncrypt p.invite.kemPublic draws.kemRandom).1 else [] }

theorem buildPairingRequest_redrawn (joinerName : String) (draws : RequestDraws) : ∃ secrets,
    buildPairingRequest P p.joiner p.invite joinerName [] draws.ephemeralPrivate
      draws.ratchetPrivate draws.kemRandom = .ok (p.redrawnRequest joinerName draws, secrets) := by
  obtain ⟨request, secrets, hbuilt⟩ : ∃ request secrets, buildPairingRequest P p.joiner p.invite
      joinerName [] draws.ephemeralPrivate draws.ratchetPrivate draws.kemRandom
        = .ok (request, secrets) :=
    buildPairingRequest_run fun hhybrid => p.keys.length_kemPublic hhybrid
  obtain ⟨kemCiphertext, _, hdraw, hreq, -⟩ := buildPairingRequest_ok hbuilt
  obtain ⟨_, _, -, hreq', -⟩ := buildPairingRequest_ok p.requested
  refine ⟨secrets, hbuilt.trans ?_⟩
  rw [hreq, redrawnRequest, hreq', hdraw.kemCiphertext_eq]

/-- The bytes the inviter hashed, and the bytes the client hashes of its own request. -/
def inviterTranscript : Bytes :=
  joinParts (transcriptParts p.invite p.request p.response.inviterEphemeralPublic
    p.response.inviterRatchetPublic)

def clientTranscript (joinerName : String) (draws : RequestDraws) : Bytes :=
  joinParts (transcriptParts p.invite (p.redrawnRequest joinerName draws)
    p.response.inviterEphemeralPublic p.response.inviterRatchetPublic)

/-- SHA-256 does not send the two to one hash unless they are the same. -/
def NoCollision (joinerName : String) (draws : RequestDraws) : Prop :=
  P.sha256 (p.clientTranscript joinerName draws) = P.sha256 p.inviterTranscript →
    p.clientTranscript joinerName draws = p.inviterTranscript

variable {p} {draws : RequestDraws} {joinerName : String}

/-- The inviter's transcript hash is over the request it has answered. -/
theorem transcriptHash_eq : p.response.transcriptHash = (P.sha256 p.inviterTranscript).1 := by
  obtain ⟨htranscript, -⟩ := inviterCompletePairing_transcript p.answered
  obtain ⟨_, _, _, _, _, _, -, -, -, hresp, -⟩ := inviterCompletePairing_ok p.answered
  rw [(pairingTranscript_ok htranscript).2, inviterTranscript, hresp]

theorem sized_request : Sized p.invite p.request p.response.inviterEphemeralPublic
    p.response.inviterRatchetPublic := by
  obtain ⟨_, _, _, _, _, _, -, -, -, hresp, -⟩ := inviterCompletePairing_ok p.answered
  have hsized := sized_of_accepted p.answered
  rw [hresp]
  exact hsized

theorem sized_redrawnRequest : Sized p.invite (p.redrawnRequest joinerName draws)
    p.response.inviterEphemeralPublic p.response.inviterRatchetPublic where
  agreement := p.sized_request.agreement
  ephemeral := (P.x25519Public draws.ephemeralPrivate).2
  ratchet := (P.x25519Public draws.ratchetPrivate).2
  inviterEphemeral := p.sized_request.inviterEphemeral
  inviterRatchet := p.sized_request.inviterRatchet
  kem hhybrid := by
    rw [redrawnRequest, if_pos hhybrid]
    exact (p.keys.kem hhybrid).length_ciphertext _ _ (p.keys.length_kemPublic hhybrid)
  classical hclassical := if_neg hclassical

/-- What the joiner sent of its draw. -/
theorem request_drawn : p.request.joinerEphemeralPublic = (P.x25519Public p.drawn.ephemeralPrivate).1
    ∧ p.request.joinerRatchetPublic = (P.x25519Public p.drawn.ratchetPrivate).1
    ∧ p.request.kemCiphertext = if inviteSupportsHybrid p.invite then
      (P.kemEncrypt p.invite.kemPublic p.drawn.kemRandom).1 else [] := by
  obtain ⟨_, _, hdraw, hreq, -⟩ := buildPairingRequest_ok p.requested
  rw [hreq]
  exact ⟨rfl, rfl, hdraw.kemCiphertext_eq⟩

/-- A draw that repeats the answered one gives the answered request, but for name and profile. -/
theorem redrawnRequest_of_redrawn (h : p.Redrawn draws) :
    p.redrawnRequest joinerName draws
      = { p.request with joinerName := joinerName, joinerProfile := [] } := by
  obtain ⟨hephemeral, hratchet, hkem⟩ := h
  obtain ⟨hsentE, hsentR, hsentC⟩ := p.request_drawn
  have hct : (if inviteSupportsHybrid p.invite then
      (P.kemEncrypt p.invite.kemPublic draws.kemRandom).1 else []) = p.request.kemCiphertext := by
    rw [hsentC]
    by_cases hhybrid : inviteSupportsHybrid p.invite = true
    · rw [if_pos hhybrid, if_pos hhybrid, hkem hhybrid]
    · rw [if_neg hhybrid, if_neg hhybrid]
  rw [redrawnRequest, hephemeral, hratchet, hct, ← hsentE, ← hsentR]

/-- A response is accepted only with the keys it was made for. -/
theorem redrawn_of_joined {now : Int} {contact : Contact}
    (hcollision : p.NoCollision joinerName draws)
    (h : joinerCompletePairing P p.joiner p.invite (p.redrawnRequest joinerName draws) p.secrets
      p.response now = .ok contact) : p.Redrawn draws := by
  obtain ⟨htranscript, -, -⟩ := joinerCompletePairing_checked h
  obtain ⟨-, hhash⟩ := pairingTranscript_ok htranscript
  have hsame : P.sha256 (p.clientTranscript joinerName draws) = P.sha256 p.inviterTranscript :=
    Subtype.ext (hhash.symm.trans p.transcriptHash_eq)
  obtain ⟨-, -, hephemeral, -, hratchet, -, hkem⟩ :=
    transcriptParts_inj p.sized_redrawnRequest p.sized_request (hcollision hsame)
  obtain ⟨hsentE, hsentR, hsentC⟩ := p.request_drawn
  refine ⟨Subtype.ext (hephemeral.trans hsentE), Subtype.ext (hratchet.trans hsentR), ?_⟩
  intro hhybrid
  rw [hsentC, redrawnRequest, if_pos hhybrid, if_pos hhybrid] at hkem
  exact hkem

/-! ### The client -/

/-- The client hands the response to the joiner's completion with the request of its own draw. -/
theorem joinWithResponse_eq {url : String} {name : Option String} {now : Int}
    (hurl : inviteFromUrl P url = .ok p.invite) (hverified : verifyInvite P p.invite now = .ok ()) :
    joinWithResponse P p.joiner url p.response p.secrets name draws now
      = (joinerCompletePairing P p.joiner p.invite
          (p.redrawnRequest (aliasOr name p.joiner.name) draws) p.secrets p.response now).map
        fun contact => { contact with name := aliasOr name p.invite.inviterName } := by
  obtain ⟨secrets, hbuilt⟩ := p.buildPairingRequest_redrawn (aliasOr name p.joiner.name) draws
  simp only [joinWithResponse, hurl, hverified, hbuilt, bind, Except.bind, pure, Except.pure]
  rfl

end AnsweredPairing

theorem MobileStore.saveContact_run {contact : Contact} {synced : Except PyExc Unit}
    {store store' : MobileStore} :
    (saveContact P contact synced).run store = .ok () store' ↔ synced = .ok ()
      ∧ store' = { store with
        fileStore := store.fileStore.saveContact P contact
        contactBlobs := Table.upsert ContactDict.name (contact.toDict P) store.contactBlobs } := by
  cases synced with
  | error e => exact iff_of_false nofun fun h => nomatch h.1
  | ok u =>
      constructor
      · intro h
        cases h
        exact ⟨rfl, rfl⟩
      · intro h
        rw [h.2]
        rfl

theorem completePairingAsJoiner_run {url : String} {response : PairingResponse}
    {secrets : PairingSecrets} {name : Option String} {draws : RequestDraws} {now : Int}
    {synced : Except PyExc Unit} {store store' : MobileStore} {contact : Contact} :
    (completePairingAsJoiner P url response secrets name draws now synced).run store
        = .ok contact store'
      ↔ ∃ identity, requireIdentity store = .ok identity
        ∧ joinWithResponse P identity url response secrets name draws now = .ok contact
        ∧ (MobileStore.saveContact P contact synced).run store = .ok () store' := by
  rw [completePairingAsJoiner, run_get_bind, run_orRaise_bind_ok]
  refine exists_congr fun identity => and_congr_right fun _ => ?_
  rw [run_orRaise_bind_ok]
  constructor
  · intro h
    obtain ⟨contact', hjoin, h⟩ := h
    obtain ⟨u, store'', hsave, h⟩ := run_bind_ok.mp h
    cases h
    exact ⟨hjoin, hsave⟩
  · intro h
    exact ⟨contact, h.1, run_bind_ok.mpr ⟨(), store', h.2, rfl⟩⟩

/-- The client returns a contact with the inviter's secret and transcript, and both of its stores
have it. -/
def MobileJoins (P : Packages) (atInviter : Contact)
    (run : EStateM.Result PyExc MobileStore Contact) : Prop :=
  ∃ contact store', run = .ok contact store'
    ∧ Table.find ContactDict.name contact.name store'.contactBlobs = some (contact.toDict P)
    ∧ Table.find ContactDict.name contact.name store'.fileStore.contacts = some (contact.toDict P)
    ∧ contact.masterSecret = atInviter.masterSecret
    ∧ contact.transcriptHash = atInviter.transcriptHash

/-- **Joining on a phone.** With the response and the secrets of an answered request the client
completes exactly when the keys and the ciphertext it draws anew are those of that request and the
contact's file can be written. -/
theorem mobile_join_completes_iff (p : AnsweredPairing P) {store : MobileStore} {url : String}
    {now : Int} {name : Option String} {draws : RequestDraws} {synced : Except PyExc Unit}
    (hidentity : store.identity = some p.joiner) (hurl : inviteFromUrl P url = .ok p.invite)
    (hverified : verifyInvite P p.invite now = .ok ())
    (hcollision : p.NoCollision (aliasOr name p.joiner.name) draws) :
    MobileJoins P p.inviterContact ((completePairingAsJoiner P url p.response p.secrets name draws
        now synced).run store)
      ↔ p.Redrawn draws ∧ synced = .ok () := by
  have hjoin : joinWithResponse P p.joiner url p.response p.secrets name draws now
      = (joinerCompletePairing P p.joiner p.invite
          (p.redrawnRequest (aliasOr name p.joiner.name) draws) p.secrets p.response now).map
        fun contact => { contact with name := aliasOr name p.invite.inviterName } :=
    p.joinWithResponse_eq hurl hverified
  have hrequire : requireIdentity store = .ok p.joiner := by rw [requireIdentity, hidentity]
  constructor
  · intro h
    obtain ⟨contact, store', hrun, -⟩ := h
    obtain ⟨identity, hloaded, hjoined, hsaved⟩ := completePairingAsJoiner_run.mp hrun
    obtain rfl := Except.ok.inj (hrequire.symm.trans hloaded)
    obtain ⟨hsynced, -⟩ := MobileStore.saveContact_run.mp hsaved
    rw [hjoin] at hjoined
    cases hcompleted : joinerCompletePairing P p.joiner p.invite
        (p.redrawnRequest (aliasOr name p.joiner.name) draws) p.secrets p.response now with
    | error e =>
        rw [hcompleted] at hjoined
        cases hjoined
    | ok made => exact ⟨AnsweredPairing.redrawn_of_joined hcollision hcompleted, hsynced⟩
  · intro h
    obtain ⟨hredrawn, hsynced⟩ := h
    obtain ⟨made, hmade, hmaster, htranscript⟩ := p.joins now
    have hrenamed := joinerCompletePairing_renamed (aliasOr name p.joiner.name) hmade
    rw [← AnsweredPairing.redrawnRequest_of_redrawn hredrawn] at hrenamed
    obtain ⟨contact, hcontact, hmaster', htranscript'⟩ : ∃ contact,
        joinWithResponse P p.joiner url p.response p.secrets name draws now = .ok contact
          ∧ contact.masterSecret = made.masterSecret
          ∧ contact.transcriptHash = made.transcriptHash := by
      rw [hjoin, hrenamed]
      exact ⟨_, rfl, rfl, rfl⟩
    have hfound (rows : List ContactDict) : Table.find ContactDict.name contact.name
        (Table.upsert ContactDict.name (contact.toDict P) rows) = some (contact.toDict P) := by
      have hname : contact.name = (contact.toDict P).name := rfl
      rw [hname]
      exact Table.find_upsert_self
    have hrun := completePairingAsJoiner_run.mpr
      ⟨p.joiner, hrequire, hcontact, MobileStore.saveContact_run.mpr ⟨hsynced, rfl⟩⟩
    exact ⟨contact, _, hrun, hfound _, hfound _, hmaster'.trans hmaster,
      htranscript'.trans htranscript⟩

namespace MobileSample

open Sample (key alice bob)

/-- A digest in which every byte counts, and a CBOR that reads what it writes. -/
def packages : Packages :=
  { codedPackages plainPackages with
    sha256 := fun data =>
      ⟨Bytes.ofNatBE 32 (Bytes.toNatBE data % (2 ^ 256 - 189)), Bytes.length_ofNatBE 32 _⟩ }

theorem cborLaws : packages.CborLaws := ⟨(codedPackages_cborLaws plainPackages).loads_dumps⟩

def invite : InviteBundle :=
  returned (createInvite packages alice "https://relay" [] defaultInviteTtlMs false 0 (key 5))
    (by decide +kernel)

theorem invite_made : createInvite packages alice "https://relay" [] defaultInviteTtlMs false 0
    (key 5) = .ok invite := eq_ok_returned _ _

theorem invite_verified : verifyInvite packages invite 0 = .ok () := by decide +kernel

theorem invite_classical : ¬ inviteSupportsHybrid invite = true := by decide +kernel

def drawn : RequestDraws := ⟨key 6, key 7, []⟩

def fresh : RequestDraws := ⟨key 10, key 11, []⟩

def asked : PairingRequest × PairingSecrets :=
  returned (buildPairingRequest packages bob invite "bob" [] (key 6) (key 7) [])
    (by decide +kernel)

def answer : PairingResponse × Contact :=
  returned (inviterCompletePairing packages alice invite asked.1 (key 8) (key 9) [] 0)
    (by decide +kernel)

/-- Bob has asked with the keys 6 and 7. -/
def pairing : AnsweredPairing packages where
  inviter := alice
  joiner := bob
  invite := invite
  keys := {
    dh := ⟨fun _ _ => rfl, fun _ _ => rfl⟩
    kem := fun h => absurd h invite_classical
    issued := issuedBy_createInvite packages invite_made
    generated := fun h => absurd h invite_classical }
  joinerName := "bob"
  joinerProfile := []
  inviterProfile := []
  drawn := drawn
  inviterEphemeral := key 8
  inviterRatchet := key 9
  inviterNow := 0
  request := asked.1
  secrets := asked.2
  response := answer.1
  inviterContact := answer.2
  requested := eq_ok_returned _ (by decide +kernel)
  answered := eq_ok_returned _ (by decide +kernel)

def phone : MobileStore := { identity := some bob }

def url : String := inviteToUrl packages invite

/-- The client with this draw. -/
def run (draws : RequestDraws) : EStateM.Result PyExc MobileStore Contact :=
  (completePairingAsJoiner packages url pairing.response pairing.secrets none draws 0
    (.ok ())).run phone

end MobileSample

open MobileSample in
/-- The client completes when it happens to draw the keys of the request again. -/
theorem joined_with_same_keys : MobileJoins packages pairing.inviterContact (run drawn) := by
  have hurl : inviteFromUrl packages url = .ok pairing.invite :=
    inviteFromUrl_inviteToUrl cborLaws invite
  have hsame : pairing.Redrawn drawn := ⟨rfl, rfl, fun _ => rfl⟩
  have hcollision : pairing.NoCollision (aliasOr none pairing.joiner.name) drawn :=
    fun _ => by decide +kernel
  exact (mobile_join_completes_iff pairing rfl hurl invite_verified hcollision).mpr ⟨hsame, rfl⟩

open MobileSample in
/-- With fresh keys the transcript is another one. -/
theorem not_joined_with_fresh_keys :
    ¬ MobileJoins packages pairing.inviterContact (run fresh) := by
  have hurl : inviteFromUrl packages url = .ok pairing.invite :=
    inviteFromUrl_inviteToUrl cborLaws invite
  have hraised : (joinerCompletePairing packages pairing.joiner pairing.invite
      (pairing.redrawnRequest (aliasOr none pairing.joiner.name) fresh) pairing.secrets
      pairing.response 0).isOk = false := by decide +kernel
  intro h
  obtain ⟨contact, store', hrun, -⟩ := h
  obtain ⟨identity, hloaded, hjoined, -⟩ := completePairingAsJoiner_run.mp hrun
  obtain rfl : pairing.joiner = identity := Except.ok.inj hloaded
  rw [pairing.joinWithResponse_eq hurl invite_verified] at hjoined
  cases hcompleted : joinerCompletePairing packages pairing.joiner pairing.invite
      (pairing.redrawnRequest (aliasOr none pairing.joiner.name) fresh) pairing.secrets
      pairing.response 0 with
  | error e =>
      rw [hcompleted] at hjoined
      cases hjoined
  | ok made =>
      rw [hcompleted] at hraised
      cases hraised

end Yakr
