import Mathlib.Data.String.Basic
import Yakr.Core.RustPairing
import Yakr.Languages.Ratchets

/-!
# Yakr.Languages.Pairing

**One pairing in two languages.** The `view` of a Rust value is the Python value with the same
fields; what only Python has is an argument of it. Each function of the Rust pairing is
compared with its Python counterpart, `Alike` up to the exceptions, and the two completions
are assembled from them: both fail, or both end with the same keys (`completePairing_alike`).

Python validates a request up to three times and in another order than Rust; a check that has
passed once passes again, so only the first one matters.
-/

namespace Yakr

open Lib Effect

variable {P : Packages}

namespace Rust

/-! ### Views -/

/-- The Python identity, with its signing keys of ML-DSA. -/
def Identity.view (identity : Identity) (pqSigningPublic pqSigningPrivate : Bytes) :
    Yakr.Identity :=
  { name := identity.name
    signingPrivate := identity.signingPrivate
    agreementPrivate := identity.agreementPrivate
    kemPublic := identity.kemPublic
    kemPrivate := identity.kemPrivate
    pqSigningPublic, pqSigningPrivate }

/-- The Python invite, with the entries that only Python knows. -/
def InviteBundle.view (invite : InviteBundle)
    (pqSigningPublic pqSignature rendezvousTlsSpkiSha256 : Bytes) : Yakr.InviteBundle :=
  { protocol := invite.protocol
    inviterName := invite.inviterName
    signingPublic := invite.signingPublic.1
    agreementPublic := invite.agreementPublic.1
    inviteSecret := invite.inviteSecret.1
    rendezvousHint := invite.rendezvousHint
    expiresAt := invite.expiresAt.toNat
    capabilities := invite.capabilities
    signature := invite.signature
    kemPublic := invite.kemPublic
    pqSigningPublic, pqSignature, rendezvousTlsSpkiSha256 }

/-- The Python request, with an empty profile. -/
def PairingRequest.view (request : PairingRequest) : Yakr.PairingRequest :=
  { inviteSecret := request.inviteSecret.1
    joinerName := request.joinerName
    joinerSigningPublic := request.joinerSigningPublic.1
    joinerAgreementPublic := request.joinerAgreementPublic.1
    joinerEphemeralPublic := request.joinerEphemeralPublic.1
    joinerRatchetPublic := request.joinerRatchetPublic.1
    kemCiphertext := request.kemCiphertext }

/-- The Python response, with an empty profile. -/
def PairingResponse.view (response : PairingResponse) : Yakr.PairingResponse :=
  { inviterEphemeralPublic := response.inviterEphemeralPublic.1
    inviterRatchetPublic := response.inviterRatchetPublic.1
    transcriptHash := response.transcriptHash.1 }

/-- The two contacts of one pairing: the same keys, names and ratchet. -/
structure SameContact (python : Yakr.Contact) (rust : Contact) : Prop where
  transcriptHash : python.transcriptHash = rust.transcriptHash.map Subtype.val
  masterSecret : python.masterSecret = rust.masterSecret.1
  contactId : python.contactId = rust.contactId.map Subtype.val
  conversationId : python.conversationId = rust.conversationId
  hybridPq : python.hybridPq = rust.hybridPq
  ratchet : python.ratchet = rust.ratchet.map RatchetState.view

/-! ### Names and keys -/

theorem conversationIdFor_eq (a b : String) :
    Yakr.conversationIdFor a b = conversationIdFor a b := by
  unfold Yakr.conversationIdFor conversationIdFor
  rcases lt_trichotomy a b with hlt | rfl | hgt
  · rw [if_neg (lt_asymm hlt), if_pos hlt]
  · rfl
  · rw [if_pos hgt, if_neg (lt_asymm hgt)]

/-- What Rust feeds its hasher is the joined text of Python. -/
theorem joinParts_eq (parts : List Bytes) : joinParts parts = hashed 0 parts := by
  have hlater : ∀ (parts : List Bytes) (i : Nat) (part : Bytes),
      joinParts (part :: parts) = part ++ hashed (i + 1) parts := by
    intro parts
    induction parts with
    | nil =>
        intro i part
        simp [joinParts, hashed, List.intercalate]
    | cons next parts ih =>
        intro i part
        have hstep : joinParts (part :: next :: parts)
            = part ++ (encodeUtf8 "|" ++ joinParts (next :: parts)) := by
          simp [joinParts, List.intercalate]
        rw [hstep, ih (i + 1) next, hashed, if_pos (Nat.succ_pos i), List.append_assoc]
  cases parts with
  | nil => rfl
  | cons part parts =>
      rw [hlater parts 0 part, hashed, if_neg (Nat.lt_irrefl 0), List.nil_append]

theorem fromMaster_eq (master : BytesN 32) (isInitiator hybrid : Bool) (key : PrivateKey) :
    Yakr.RatchetState.fromMaster P master.1 isInitiator hybrid key
      = (RatchetState.fromMaster P master.1 isInitiator hybrid key).view := by
  cases isInitiator with
  | false => rfl
  | true => rfl

/-- The receive chain is aligned in both. -/
theorem pairingRecvInit_eq (s : RatchetState) {peer : BytesN 32}
    (hpeer : RatchetState.ProperKey P peer) :
    runRatchet (Yakr.RatchetState.pairingRecvInit P peer.1) s.view
      = .ok (RatchetState.pairingRecvInit P peer s).view := by
  have hlen : ¬ peer.1.length ≠ 32 := not_not_intro peer.2
  have hself := RatchetState.sharedSecret_eq (hpeer s.dhSelfPrivate)
  have hrun : (Yakr.RatchetState.pairingRecvInit P peer.1).run s.view
      = .ok () (RatchetState.pairingRecvInit P peer s).view := by
    simp only [Yakr.RatchetState.pairingRecvInit, EStateM.run_bind, if_neg hlen,
      EStateM.run_modify, EStateM.run_get, RatchetState.view, loadPrivate_val, run_orRaise_ok,
      hself, RatchetState.kdfRk_eq]
    rfl
  rw [runRatchet, hrun]

/-- The master secret of proper keys, with a secret of 32 bytes or none. -/
theorem derivePairMaster_eq {agreementPrivate ephemeralPrivate : PrivateKey}
    {peerAgreement peerEphemeral transcriptHash : BytesN 32} {pqSecret : Option Bytes}
    (hagreement : RatchetState.ProperKey P peerAgreement)
    (hephemeral : RatchetState.ProperKey P peerEphemeral)
    (hpq : ∀ pq ∈ pqSecret, pq.length = 32) :
    Yakr.derivePairMaster P agreementPrivate peerAgreement.1 ephemeralPrivate peerEphemeral.1
        transcriptHash.1 pqSecret
      = .ok (derivePairMaster P (sharedSecret P agreementPrivate peerAgreement)
          (sharedSecret P ephemeralPrivate peerEphemeral) transcriptHash pqSecret).1 := by
  have hidentity := RatchetState.sharedSecret_eq (hagreement agreementPrivate)
  have hshared := RatchetState.sharedSecret_eq (hephemeral ephemeralPrivate)
  simp only [Yakr.derivePairMaster, hidentity, hshared, bind, Except.bind]
  cases pqSecret with
  | none => rfl
  | some pq =>
      have hlen : ¬ pq.length ≠ kemPlaintextSize := not_not_intro (hpq pq rfl)
      simp only [Yakr.deriveHybridMaster, if_neg hlen]
      rfl

section Steps

variable (identity : Identity) (invite : InviteBundle) (request : PairingRequest)
  (pqSigningPublic pqSigningPrivate : Bytes) (pqPublic pqSignature tls : Bytes)

theorem inviteSupportsHybrid_eq :
    Yakr.inviteSupportsHybrid (invite.view pqPublic pqSignature tls)
      = inviteSupportsHybrid invite := by
  have hcontains : invite.capabilities.contains hybridPqCapability
      = invite.capabilities.any fun c => c = hybridPqCapability := by
    rw [List.contains_eq_any_beq]
    refine congrArg invite.capabilities.any (funext fun c => ?_)
    rw [Bool.beq_comm, beq_eq_decide]
  rw [Yakr.inviteSupportsHybrid, inviteSupportsHybrid, InviteBundle.view, hcontains]

/-! ### The transcript -/

theorem validatePairingRequestForInvite_alike :
    Alike (fun _ _ => True)
      (Yakr.validatePairingRequestForInvite (invite.view pqPublic pqSignature tls) request.view)
      (validatePairingRequestForInvite invite request) := by
  have hsecret : request.view.inviteSecret ≠ (invite.view pqPublic pqSignature tls).inviteSecret
      ↔ request.inviteSecret ≠ invite.inviteSecret := not_congr Subtype.ext_iff.symm
  have hempty : request.view.kemCiphertext = [] ↔ request.kemCiphertext.isEmpty = true :=
    List.isEmpty_iff.symm
  have hfull : request.view.kemCiphertext ≠ [] ↔ (!request.kemCiphertext.isEmpty) = true := by
    rw [ne_eq, hempty, Bool.not_eq_true, Bool.not_eq_true']
  unfold Yakr.validatePairingRequestForInvite validatePairingRequestForInvite
  rw [inviteSupportsHybrid_eq]
  refine .check hsecret fun _ => .check Iff.rfl fun _ => .branch Iff.rfl (fun _ => ?_) fun _ => ?_
  · exact .check hempty fun _ => trivial
  · exact .check hfull fun _ => trivial

theorem pairingTranscript_alike (inviterEphemeralPublic inviterRatchetPublic : BytesN 32) :
    Alike (fun (python : Bytes) (rust : BytesN 32) => python = rust.1)
      (Yakr.pairingTranscript P (invite.view pqPublic pqSignature tls) request.view
        inviterEphemeralPublic.1 inviterRatchetPublic.1)
      (pairingTranscript P invite request inviterEphemeralPublic inviterRatchetPublic) := by
  refine (validatePairingRequestForInvite_alike invite request pqPublic pqSignature tls).bind
    fun _ _ _ _ => ?_
  show _ = _
  rw [← joinParts_eq, transcriptParts, inviteSupportsHybrid_eq]
  rfl

/-- A request whose transcript was computed has been validated. -/
theorem validate_of_transcript {invite : Yakr.InviteBundle} {request : Yakr.PairingRequest}
    {ephemeral ratchet hash : Bytes}
    (h : Yakr.pairingTranscript P invite request ephemeral ratchet = .ok hash) :
    Yakr.validatePairingRequestForInvite invite request = .ok () := by
  obtain ⟨_, hvalid, -⟩ := bind_ok.mp h
  exact hvalid

/-- So validating it first changes nothing. -/
theorem validate_bind_transcript {α : Type} {invite : Yakr.InviteBundle}
    {request : Yakr.PairingRequest} {ephemeral ratchet : Bytes} (f : Bytes → Except PyExc α) :
    (do
        Yakr.validatePairingRequestForInvite invite request
        f (← Yakr.pairingTranscript P invite request ephemeral ratchet))
      = (do f (← Yakr.pairingTranscript P invite request ephemeral ratchet)) := by
  cases hvalid : Yakr.validatePairingRequestForInvite invite request with
  | ok _ => rfl
  | error e =>
      rw [Yakr.pairingTranscript, hvalid]
      rfl

/-! ### The secret of a hybrid pairing -/

/-- A private key of the right length is one that the ML-KEM package of Rust takes, as every
generated key is. -/
def LoadsKey (loads : Bytes → Bool) (secretKey : Bytes) : Prop :=
  secretKey.length = kemSecretKeySize → loads secretKey = true

/-- The two packages decapsulate the same 32 bytes under a key that loads. -/
theorem kemDecapsulate_alike {loads : Bytes → Bool} {secretKey ciphertext : Bytes}
    (hloads : LoadsKey loads secretKey) :
    Alike (fun python rust => python = rust ∧ rust.length = 32)
      (Yakr.kemDecapsulate P secretKey ciphertext)
      (kemDecapsulate P loads secretKey ciphertext) := by
  unfold Yakr.kemDecapsulate kemDecapsulate
  refine .check Iff.rfl fun hlen => .check Iff.rfl fun _ => ?_
  rw [hloads (not_not.mp hlen)]
  exact ⟨rfl, (P.kemDecrypt secretKey ciphertext).2⟩

theorem inviterPqSecret_alike {loads : Bytes → Bool}
    (hloads : LoadsKey loads identity.kemPrivate) :
    Alike (fun python rust => python = rust ∧ ∀ pq ∈ rust, pq.length = 32)
      (Yakr.inviterPqSecret P (identity.view pqSigningPublic pqSigningPrivate)
        (invite.view pqPublic pqSignature tls) request.view)
      (inviterPqSecret P loads identity invite request) := by
  unfold Yakr.inviterPqSecret inviterPqSecret
  rw [inviteSupportsHybrid_eq]
  refine .branch Iff.rfl (fun _ => ?_) fun _ => ⟨rfl, nofun⟩
  refine .check List.isEmpty_iff.symm fun _ => .check List.isEmpty_iff.symm fun _ => ?_
  refine (kemDecapsulate_alike hloads).map fun python rust h => ⟨congrArg some h.1, ?_⟩
  intro pq hpq
  rw [← Option.some.inj hpq]
  exact h.2

/-- The checks of the joiner, in another order in each language. -/
theorem checkPairingResponse_alike (secrets : PairingSecrets) (response : PairingResponse) :
    Alike (fun (_ : Unit) rust => rust = if inviteSupportsHybrid invite then secrets.pqSecret else none)
      (Yakr.checkPairingResponse P (invite.view pqPublic pqSignature tls) request.view secrets
        response.view)
      (checkPairingResponse P invite request secrets response) := by
  have hlen : ¬ response.inviterRatchetPublic.1.length ≠ 32 :=
    not_not_intro response.inviterRatchetPublic.2
  have hlen' : ¬ response.view.inviterRatchetPublic.length ≠ 32 := hlen
  unfold Yakr.checkPairingResponse checkPairingResponse
  rw [if_neg hlen]
  refine (pairingTranscript_alike invite request pqPublic pqSignature tls
    response.inviterEphemeralPublic response.inviterRatchetPublic).bind
    fun python rust htranscript hsame => ?_
  have hhash : response.view.transcriptHash ≠ python ↔ rust ≠ response.transcriptHash := by
    rw [hsame]
    exact not_congr (eq_comm.trans Subtype.ext_iff.symm)
  refine .check hhash fun _ => ?_
  rw [if_neg hlen', validate_of_transcript htranscript, inviteSupportsHybrid_eq]
  cases inviteSupportsHybrid invite with
  | false => simp [Alike, bind, Except.bind]
  | true =>
      cases secrets.pqSecret with
      | none => simp [Alike, bind, Except.bind]
      | some pq => simp [Alike, bind, Except.bind]

/-! ### The two completions -/

/-- **The inviter's completion agrees.** -/
theorem inviterCompletePairing_alike {loads : Bytes → Bool}
    (hloads : LoadsKey loads identity.kemPrivate)
    (hagreement : RatchetState.ProperKey P request.joinerAgreementPublic)
    (hephemeral : RatchetState.ProperKey P request.joinerEphemeralPublic)
    (inviterEphemeralPrivate inviterRatchetPrivate : PrivateKey) (now : Int) (now' : UInt64) :
    Alike (fun python rust => python.1 = rust.1.view ∧ SameContact python.2 rust.2)
      (Yakr.inviterCompletePairing P (identity.view pqSigningPublic pqSigningPrivate)
        (invite.view pqPublic pqSignature tls) request.view inviterEphemeralPrivate
        inviterRatchetPrivate [] now)
      (inviterCompletePairing P loads identity invite request inviterEphemeralPrivate
        inviterRatchetPrivate now') := by
  have htranscript := pairingTranscript_alike (P := P) invite request pqPublic pqSignature tls
    (P.x25519Public inviterEphemeralPrivate) (P.x25519Public inviterRatchetPrivate)
  unfold Yakr.inviterCompletePairing inviterCompletePairing
  rw [validate_bind_transcript]
  refine htranscript.bind fun python rust _ hsame => ?_
  subst hsame
  refine (inviterPqSecret_alike identity invite request pqSigningPublic pqSigningPrivate pqPublic
    pqSignature tls hloads).bind fun pqSecret pqSecret' _ hpq => ?_
  obtain ⟨rfl, hlen⟩ := hpq
  have hmaster : Yakr.derivePairMaster P
      (identity.view pqSigningPublic pqSigningPrivate).agreementPrivate
      request.view.joinerAgreementPublic inviterEphemeralPrivate
      request.view.joinerEphemeralPublic rust.1 pqSecret = .ok _ :=
    derivePairMaster_eq hagreement hephemeral hlen
  have hprofile : profileFromPairingBytes P request.view.joinerProfile
      request.view.joinerSigningPublic = .ok none := if_pos rfl
  rw [hmaster, hprofile]
  simp only [applyPeerProfileAckFromBytes, if_true, bind, Except.bind, pure, Except.pure]
  refine ⟨rfl, rfl, rfl, rfl, ?_, ?_, ?_⟩
  · exact conversationIdFor_eq identity.name request.joinerName
  · exact inviteSupportsHybrid_eq invite pqPublic pqSignature tls
  · simp only [inviteSupportsHybrid_eq, fromMaster_eq]
    rfl

/-- **The joiner's completion agrees.** -/
theorem joinerCompletePairing_alike {secrets : PairingSecrets} {response : PairingResponse}
    (hpq : ∀ pq ∈ secrets.pqSecret, pq.length = 32)
    (hagreement : RatchetState.ProperKey P invite.agreementPublic)
    (hephemeral : RatchetState.ProperKey P response.inviterEphemeralPublic)
    (hratchet : RatchetState.ProperKey P response.inviterRatchetPublic) (now : Int)
    (now' : UInt64) :
    Alike SameContact
      (Yakr.joinerCompletePairing P (identity.view pqSigningPublic pqSigningPrivate)
        (invite.view pqPublic pqSignature tls) request.view secrets response.view now)
      (joinerCompletePairing P identity invite request secrets response now') := by
  unfold Yakr.joinerCompletePairing joinerCompletePairing
  refine (checkPairingResponse_alike invite request pqPublic pqSignature tls secrets
    response).bind fun _ pqSecret _ hkept => ?_
  have hlen : ∀ pq ∈ pqSecret, pq.length = 32 := by
    intro pq hmem
    rw [hkept] at hmem
    split at hmem
    · exact hpq pq hmem
    · cases hmem
  have hmaster : Yakr.derivePairMaster P
      (identity.view pqSigningPublic pqSigningPrivate).agreementPrivate
      (invite.view pqPublic pqSignature tls).agreementPublic secrets.ephemeralPrivate
      response.view.inviterEphemeralPublic response.view.transcriptHash pqSecret = .ok _ :=
    derivePairMaster_eq hagreement hephemeral hlen
  have hprofile : profileFromPairingBytes P response.view.inviterProfile
      (invite.view pqPublic pqSignature tls).signingPublic = .ok none := if_pos rfl
  have hinit : ∀ s : RatchetState,
      runRatchet (Yakr.RatchetState.pairingRecvInit P response.view.inviterRatchetPublic) s.view
        = .ok (RatchetState.pairingRecvInit P response.inviterRatchetPublic s).view :=
    fun s => pairingRecvInit_eq s hratchet
  have hack : ∀ contact signingPublic,
      applyPeerProfileAckFromBytes P contact request.view.joinerProfile signingPublic = .ok contact :=
    fun _ _ => if_pos rfl
  rw [inviteSupportsHybrid_eq]
  simp only [← hkept, hmaster, bind, Except.bind, fromMaster_eq, hinit, hprofile, hack, pure,
    Except.pure]
  refine ⟨rfl, rfl, rfl, ?_, rfl, rfl⟩
  exact conversationIdFor_eq invite.inviterName identity.name

end Steps

namespace PairingSample

def key (n : UInt8) : BytesN 32 := BytesN.fill 32 n

def inviter : Identity := { name := "alice", signingPrivate := key 1, agreementPrivate := key 2 }

def joiner : Identity := { name := "bob", signingPrivate := key 3, agreementPrivate := key 4 }

def invite : InviteBundle :=
  { protocol := "yakr-v0.4"
    inviterName := "alice"
    signingPublic := key 1
    agreementPublic := key 2
    inviteSecret := key 5
    rendezvousHint := "https://rendezvous.test"
    expiresAt := 1700000000000
    capabilities := ["direct_p2p"]
    signature := [] }

def secrets : PairingSecrets := { ephemeralPrivate := key 6, ratchetPrivate := key 7 }

def request : PairingRequest :=
  { inviteSecret := key 5
    joinerName := "bob"
    joinerSigningPublic := key 3
    joinerAgreementPublic := key 4
    joinerEphemeralPublic := key 6
    joinerRatchetPublic := key 7 }

theorem proper (q : BytesN 32) : RatchetState.ProperKey plainPackages q := fun _ => rfl

/-- What the inviter answers; the hash of the transcript is its last key here. -/
def response : PairingResponse :=
  { inviterEphemeralPublic := key 8, inviterRatchetPublic := key 9, transcriptHash := key 9 }

theorem loads_absent : LoadsKey (fun _ => true) inviter.kemPrivate := fun _ => rfl

theorem no_secret : ∀ pq ∈ secrets.pqSecret, pq.length = 32 := by
  intro pq hpq
  cases hpq

/-- Both completions succeed. -/
example : (inviterCompletePairing plainPackages (fun _ => true) inviter invite request (key 8)
      (key 9) 0).isOk = true
    ∧ (joinerCompletePairing plainPackages joiner invite request secrets response 0).isOk = true := by
  decide +kernel

end PairingSample

end Rust
end Yakr
