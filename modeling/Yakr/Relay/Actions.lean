import Yakr.Relay.Routes

/-!
# Yakr.Relay.Actions

**What a request can do to a relay.** Every route is a sequence of a few actions: it reads the
clock, asks one of the three stores for something, or notes that a check passed (`actions_route`).
Of the capability store it asks for registrations and revocations of the ids that the request names
(`Names`), so whatever each action keeps for an id, every other request keeps.
-/

namespace Yakr

open Lib Effect

variable (P : Packages) (runtime : RelayRuntime)

namespace Relay

open CapabilityGrantStore

/-- The capability ids that a request registers or revokes. -/
def Names : RelayRequest → Bytes → Prop
  | .issueCapability request, id =>
      b64decode request.capabilityId = .ok id
        ∨ ∃ text ∈ request.supersedesCapabilityId, b64decode text = .ok id
  | .registerCapability grant, id =>
      ∃ g, CapabilityGrant.fromB64 P grant = .ok g ∧ g.capabilityId = id
  | .revokeCapability capabilityId _, id => b64decode capabilityId = .ok id
  | _, _ => False

/-- One action of a request that names some ids. -/
inductive Action (names : Bytes → Prop) : Relay → Relay → Prop
  | tick (r : Relay) : Action names r { r with readings := r.readings + 1 }
  | keep (r : Relay) (mailboxTag : Bytes) (expiresAt : Int) (ciphertext : Bytes) (now : Int) :
      Action names r { r with
        blobs := after ((BlobStore.store mailboxTag expiresAt ciphertext none now).run r.blobs) }
  | pair (r : Relay) (pairing : PairingStore) : Action names r { r with pairing := pairing }
  | pass (r : Relay) (check : PassedCheck) :
      Action names r { r with passed := r.passed ++ [check] }
  | register (r : Relay) {grant : CapabilityGrant} (hnames : names grant.capabilityId)
      (verifiedAt registeredAt : Int) :
      Action names r { r with
        capabilities := after ((register P grant runtime.relayIssuancePublic runtime.name
          runtime.relayTlsSpkiSha256 verifiedAt registeredAt).run r.capabilities) }
  | revoke (r : Relay) {id : Bytes} (hnames : names id) (now : Int) (window : Option Int) :
      Action names r { r with
        capabilities := after ((revokeWithOverlap id now window).run r.capabilities) }
  | consume (r : Relay) (nonceB64 : String) (now : Int) :
      Action names r { r with
        capabilities := after ((consumeNonce nonceB64 now).run r.capabilities) }

/-! ### Parts of the routes -/

section Parts

variable {P runtime} {clock : Nat → Int} {names : Bytes → Prop}

theorem actions_tick {ε : Type} :
    Steps (Action P runtime names) (tick clock : EStateM ε Relay Int) := fun r => .single (.tick r)

theorem actions_keepBlob (mailboxTag : Bytes) (expiresAt : Int) (ciphertext : Bytes) :
    Steps (Action P runtime names) (keepBlob clock mailboxTag expiresAt ciphertext) :=
  actions_tick.bind fun now => .onPart fun r => .keep r mailboxTag expiresAt ciphertext now

theorem actions_onPairing {α : Type} (m : EStateM PyExc PairingStore α) :
    Steps (Action P runtime names) (onPairing m) :=
  .onPart fun r => .pair r _

theorem actions_verifyTicket (ticket : RelayTicket) (permission : String) :
    Steps (Action P runtime names) (verifyTicket P runtime clock ticket permission) :=
  actions_tick.bind fun _ => .orRaise _

theorem actions_verifyAny (ticket : RelayTicket) (permissions : List String) :
    Steps (Action P runtime names) (verifyAny P runtime clock ticket permissions) := by
  induction permissions with
  | nil => exact .raise _
  | cons permission permissions ih =>
      exact .tryCatch (actions_verifyTicket ticket permission) fun e => .ite _ ih (.raise e)

theorem actions_checkBootstrapTicket (ticket : Option String) :
    Steps (Action P runtime names) (checkBootstrapTicket P runtime clock ticket) := by
  unfold checkBootstrapTicket
  cases ticket with
  | none => exact .raise _
  | some ticket => exact steps_rescue ((Steps.orRaise _).bind fun _ => actions_verifyAny _ _)

theorem actions_checkTicket (ticket : Option String) (permission : String) :
    Steps (Action P runtime names) (checkTicket P runtime clock ticket permission) := by
  unfold checkTicket
  refine .ite _ (.pure _) ?_
  cases ticket with
  | none => exact .raise _
  | some ticket => exact steps_rescue ((Steps.orRaise _).bind fun _ => actions_verifyTicket _ _)

theorem actions_registerGrant {grant : CapabilityGrant} (hnames : names grant.capabilityId) :
    Steps (Action P runtime names) (registerGrant P runtime clock grant) :=
  actions_tick.bind fun verifiedAt => actions_tick.bind fun registeredAt =>
    .onPart fun r => .register r hnames verifiedAt registeredAt

theorem actions_supersede {id : Bytes} (hnames : names id) :
    Steps (Action P runtime names) (supersede clock id) :=
  actions_tick.bind fun now => .onPart fun r => .revoke r hnames now none

theorem actions_verifyCapability (permission method path : String) (body : Bytes)
    (grantB64 timestampRaw nonceB64 signatureB64 : String) :
    Steps (Action P runtime names) (verifyCapability P runtime clock permission method path body
      grantB64 timestampRaw nonceB64 signatureB64) := by
  unfold verifyCapability
  refine (Steps.orRaise _).bind fun grant => actions_tick.bind fun _ => (Steps.orRaise _).bind
    fun _ => actions_tick.bind fun _ => Steps.get.bind fun _ => (Steps.orRaise _).bind
    fun registered => .guard (.guard ?_)
  refine (Steps.orRaise _).bind fun signature => (Steps.orRaise _).bind fun timestampMs =>
    (Steps.orRaise _).bind fun nonce => actions_tick.bind fun _ => (Steps.orRaise _).bind
    fun _ => actions_tick.bind fun now => Steps.bind ?_ fun _ => .modify fun r => .pass r _
  exact .onPart fun r => .consume r nonceB64 now

theorem actions_authorizeRequest (http : SignedHttp) (permission method path : String)
    (ticket : Option String) :
    Steps (Action P runtime names)
      (authorizeRequest P runtime clock http permission method path ticket) := by
  have hcapability : Steps (Action P runtime names)
      (checkCapability P runtime clock http permission method path) := by
    unfold checkCapability
    refine .ite _ (.pure _) (.guard ?_)
    split
    · exact .guard (steps_rescue (actions_verifyCapability _ _ _ _ _ _ _ _))
    · exact .raise _
  exact .ite _ hcapability (actions_checkTicket ticket permission)

theorem actions_readBlobs {ε : Type} (mailboxTag : Bytes) :
    Steps (Action P runtime names)
      (readBlobs clock mailboxTag : EStateM ε Relay (List StoredBlob)) :=
  actions_tick.bind fun _ => Steps.get.bind fun _ => .pure _

theorem actions_decodeTag (mailboxTag : String) :
    Steps (Action P runtime names) (decodeTag mailboxTag) := steps_rescue (.orRaise _)

theorem actions_collectBlobs (mailboxTags : List String) (items : List BlobResponse) :
    Steps (Action P runtime names) (collectBlobs clock mailboxTags items) := by
  induction mailboxTags generalizing items with
  | nil => exact .pure _
  | cons tag mailboxTags ih =>
      exact (actions_decodeTag tag).bind fun _ => (actions_readBlobs _).bind fun _ => ih _

end Parts

/-! ### The routes -/

section Routes

variable {P runtime} {clock : Nat → Int}

theorem actions_issueGrant (request : CapabilityIssueRequest) :
    Steps (Action P runtime (Names P (.issueCapability request)))
      (issueGrant P runtime clock request) := by
  unfold issueGrant
  refine (Steps.orRaise _).bind fun authPublic => .orRaise_bind fun capabilityId hid =>
    (Steps.orRaise _).bind fun issuanceSalt => .guard (.guard ?_)
  refine (Steps.orRaise _).bind fun relayPrivate => actions_tick.bind fun now =>
    .orRaise_bind fun grant hgrant => ?_
  have hgrantId : grant.capabilityId = capabilityId := by
    unfold issueCapabilityGrant at hgrant
    split_ifs at hgrant
    cases hgrant
    rfl
  have hregister : Steps (Action P runtime (Names P (.issueCapability request)))
      (do registerGrant P runtime clock grant; return grant) :=
    (actions_registerGrant (.inl (hgrantId ▸ hid))).bind fun _ => .pure _
  cases hsuperseded : request.supersedesCapabilityId with
  | none => exact hregister
  | some superseded =>
      refine .ite _ (.orRaise_bind fun id hdecoded => ?_) hregister
      exact (actions_supersede (.inr ⟨superseded, hsuperseded, hdecoded⟩)).bind fun _ => hregister

/-- **A route takes actions**, and it registers and revokes the ids that the request names. -/
theorem actions_route (request : RelayRequest) :
    Steps (Action P runtime (Names P request)) (route P runtime clock request) := by
  cases request with
  | healthz => exact .pure _
  | issueCapability request =>
      unfold route issueCapability
      exact .guard ((actions_checkBootstrapTicket _).bind fun _ =>
        (steps_rescue (actions_issueGrant request)).bind fun _ => .pure _)
  | registerCapability grant =>
      unfold route registerCapability
      refine .guard ((steps_rescue (.orRaise_bind fun g hg => ?_)).bind fun _ => .pure _)
      exact (actions_registerGrant ⟨g, hg, rfl⟩).bind fun _ => .pure _
  | revokeCapability capabilityId ticket =>
      refine (actions_checkBootstrapTicket _).bind fun _ =>
        (steps_rescue (.orRaise_bind fun id hid => .guard ?_)).bind fun _ => .pure _
      exact actions_tick.bind fun now => .onPart fun r => .revoke r hid now (some 0)
  | storeBlob http payload =>
      unfold route storeBlob
      refine .guard ((actions_authorizeRequest http _ _ _ _).bind fun _ =>
        (steps_rescue ?_).bind fun _ => .pure _)
      exact (Steps.orRaise _).bind fun _ => (Steps.orRaise _).bind fun _ => actions_keepBlob _ _ _
  | fetchBlobsPost http payload =>
      unfold route fetchBlobsPost
      exact .guard ((actions_authorizeRequest http _ _ _ _).bind fun _ => .guard
        ((actions_collectBlobs _ _).bind fun _ => .pure _))
  | fetchBlobsLegacy mailboxTag =>
      exact (actions_decodeTag _).bind fun _ => (actions_readBlobs _).bind fun _ => .pure _
  | relayPacket packet ticket forwarded =>
      unfold route relayPacket
      refine .guard ((actions_checkTicket ticket _).bind fun _ => ?_)
      cases runtime.wrapSecret with
      | none => exact .raise _
      | some wrapSecret =>
          refine (steps_rescue ((Steps.orRaise _).bind fun _ => .orRaise _)).bind fun opened => ?_
          cases forwarded with
          | error e => exact .raise _
          | ok answer => exact .guard (.pure _)
  | ingestPacket inner ticket =>
      unfold route ingestPacket
      refine .guard ((actions_checkTicket ticket _).bind fun _ => ?_)
      cases runtime.wrapSecret with
      | none => exact .raise _
      | some wrapSecret =>
          refine (steps_rescue ?_).bind fun _ => .pure _
          exact (Steps.orRaise _).bind fun _ => (Steps.orRaise _).bind fun _ =>
            actions_keepBlob _ _ _
  | pairRegister inviteSecret =>
      refine (steps_rescue ?_).bind fun _ => .pure _
      exact (Steps.orRaise _).bind fun _ => actions_tick.bind fun _ => actions_onPairing _
  | pairStoreRequest request =>
      refine (steps_rescue ?_).bind fun _ => .pure _
      exact (Steps.orRaise _).bind fun _ => (Steps.orRaise _).bind fun _ =>
        actions_tick.bind fun _ => actions_onPairing _
  | pairPending inviteTag =>
      refine Steps.get.bind fun r => ?_
      split
      · exact .raise _
      · exact .pure _
  | pairStoreResponse inviteSecret response =>
      refine (steps_rescue ?_).bind fun _ => .pure _
      exact (Steps.orRaise _).bind fun _ => (Steps.orRaise _).bind fun _ => actions_onPairing _
  | pairFetchResponse inviteTag =>
      refine Steps.get.bind fun r => ?_
      split
      · exact .raise _
      · exact .pure _

end Routes

end Relay

end Yakr
