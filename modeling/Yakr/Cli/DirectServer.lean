import Yakr.Cli.Network

/-!
# Yakr.Cli.DirectServer

**Direct delivery: `direct_server.py` and its two clients.** A direct server keeps the
last blob stored under each tag. A sender stores at the hints of its recipient's profile;
the recipient polls the hints of the *sender's* profile, as `fetch_contact_inbound` takes
them from the record it has of the sender. A blob that was delivered is therefore among
what a fetch collects exactly when those two choices meet at one server and nobody has
stored under the tag since.
-/

namespace Yakr

open Lib Effect

/-! ### The server -/

/-- `DirectBlobBody`. -/
structure DirectBlobBody where
  mailboxTag : String
  expiresAt : Int
  ciphertext : String
deriving DecidableEq, Repr

namespace DirectBlobBody

/-- `model_dump`. -/
def toJson (b : DirectBlobBody) : Json :=
  .obj [("mailbox_tag", .str b.mailboxTag), ("expires_at", .int b.expiresAt),
    ("ciphertext", .str b.ciphertext)]

/-- The body a client posts for an outer blob. -/
def ofOuter (outer : OuterBlob) : DirectBlobBody :=
  { mailboxTag := b64encode outer.mailboxTag
    expiresAt := outer.expiresAt
    ciphertext := b64encode outer.ciphertext }

theorem toJson_ofOuter (outer : OuterBlob) : (ofOuter outer).toJson = outer.toRelayJson := rfl

theorem toJson_inj {a b : DirectBlobBody} (h : a.toJson = b.toJson) : a = b := by
  obtain ⟨tag, expires, ciphertext⟩ := a
  obtain ⟨tag', expires', ciphertext'⟩ := b
  simp only [toJson, Json.obj.injEq, List.cons.injEq, Prod.mk.injEq, Json.str.injEq,
    Json.int.injEq, true_and, and_true] at h
  obtain ⟨rfl, rfl, rfl⟩ := h
  rfl

end DirectBlobBody

structure DirectServerState where
  blobs : List DirectBlobBody := []
deriving DecidableEq, Repr

namespace DirectServerState

/-- `store_blob`. -/
def storeBlob (body : DirectBlobBody) (state : DirectServerState) : DirectServerState :=
  { state with blobs := Table.upsert DirectBlobBody.mailboxTag body state.blobs }

/-- `fetch_blob`. -/
def fetchBlob (state : DirectServerState) (mailboxTag : String) : List DirectBlobBody :=
  (Table.find DirectBlobBody.mailboxTag mailboxTag state.blobs).toList

end DirectServerState

/-! ### Requests over a network -/

/-- What becomes of one POST: the client sees an error when the reply is lost. -/
inductive Fate where
  | answered
  | lost
  | unreachable
deriving DecidableEq, Repr

/-- The direct servers. `posts` lists every body that was stored, oldest first; nothing
reads it. -/
structure Internet (Server : Type) where
  servers : Server → DirectServerState := fun _ => {}
  posts : List (Server × DirectBlobBody) := []

namespace Internet

variable {Server : Type} [DecidableEq Server]

/-- A server stores a body. -/
def store (server : Server) (body : DirectBlobBody) (net : Internet Server) : Internet Server :=
  { servers := fun s =>
      if s = server then (net.servers s).storeBlob body else net.servers s
    posts := net.posts ++ [(server, body)] }

variable (host : String → Server)

/-- `POST /v1/direct/blobs` at an address. -/
def post (fate : String → Fate) (body : DirectBlobBody) (address : String) :
    EStateM PyExc (Internet Server) Int := do
  match fate address with
  | .answered =>
      modify (store (host address) body)
      return 200
  | .lost =>
      modify (store (host address) body)
      throw (.httpError "timed out")
  | .unreachable => throw (.httpError "connection refused")

/-- `GET /v1/direct/blobs/{mailbox_tag}` at an address. -/
def get (answers : String → Bool) (mailboxTag address : String) :
    EStateM PyExc (Internet Server) (Int × List Json) := do
  if answers address then
    let net ← MonadState.get
    return (200, ((net.servers (host address)).fetchBlob mailboxTag).map DirectBlobBody.toJson)
  else throw (.httpError "connection refused")

end Internet

/-! ### Runs -/

/-- What is stored at direct servers between two fetches. -/
inductive DirectCall (Server : Type) where
  /-- The sender's `try_direct_delivery` of a blob to the hints of the recipient's profile. -/
  | deliver (outer : OuterBlob) (hints : List String) (fate : String → Fate)
  /-- Anybody else stores something. -/
  | other (server : Server) (body : DirectBlobBody)

/-- The network, and the blobs whose delivery returned `True`. -/
structure DirectRun (Server : Type) where
  net : Internet Server := {}
  delivered : List OuterBlob := []

namespace DirectRun

variable {Server : Type} [DecidableEq Server] (host : String → Server)

def step (s : DirectRun Server) : DirectCall Server → DirectRun Server
  | .deliver outer hints fate =>
      match (tryDirectDelivery (Internet.post host fate (.ofOuter outer)) hints).run s.net with
      | .ok true net => { net, delivered := s.delivered ++ [outer] }
      | result => { s with net := after result }
  | .other server body => { s with net := s.net.store server body }

/-- The state after the calls. -/
def run (calls : List (DirectCall Server)) : DirectRun Server := calls.foldl (step host) {}

/-- What the recipient's `fetch_contact_inbound` collects for one tag: the answer to its
polls of the sender's direct hints, then the relays' items. -/
def collect (s : DirectRun Server) (senderHints : List String) (answers : String → Bool)
    (relayItems : List Json) (tag : MailboxTag) : List Json :=
  (value? ((fetchDirectBlobs (Internet.get host answers tag.tagB64) senderHints).run s.net)).getD []
    ++ relayItems

variable {host}

/-! ### What a server holds -/

/-- What was stored at a server under a tag last. -/
def lastPost (net : Internet Server) (server : Server) (tag : String) : Option DirectBlobBody :=
  (((net.posts.filter fun p => p.1 = server).map Prod.snd).filter fun b =>
    b.mailboxTag = tag).getLast?

/-- Every server holds what was stored at it, written one after the other. -/
def Written (net : Internet Server) : Prop :=
  ∀ server, (net.servers server).blobs
    = ((net.posts.filter fun p => p.1 = server).map Prod.snd).foldl
        (fun rows b => Table.upsert DirectBlobBody.mailboxTag b rows) []

/-- One body is stored. -/
def Stored (net net' : Internet Server) : Prop := ∃ server body, net' = net.store server body

theorem Written.store {net : Internet Server} (h : Written net) (server : Server)
    (body : DirectBlobBody) : Written (net.store server body) := by
  intro s
  simp only [Internet.store, List.filter_append, List.map_append, List.foldl_append]
  by_cases hs : s = server
  · subst hs
    rw [if_pos rfl, DirectServerState.storeBlob, h s]
    simp
  · rw [if_neg hs, h s]
    simp [Ne.symm hs]

theorem Stored.written {net net' : Internet Server} (h : Written net) (hs : Stored net net') :
    Written net' := by
  obtain ⟨server, body, rfl⟩ := hs
  exact h.store server body

theorem steps_post (host : String → Server) (fate : String → Fate) (body : DirectBlobBody) (address : String) :
    Steps Stored (Internet.post host fate body address) := by
  have hstore : Steps Stored
      (modify (Internet.store (host address) body) : EStateM PyExc (Internet Server) PUnit) :=
    .modify fun net => ⟨host address, body, rfl⟩
  unfold Internet.post
  cases fate address with
  | answered => exact hstore.bind fun _ => .pure 200
  | lost => exact hstore.bind fun _ => .raise _
  | unreachable => exact .raise _

/-- A call stores bodies and nothing else. -/
theorem written_step {s : DirectRun Server} (h : Written s.net) (call : DirectCall Server) :
    Written (s.step host call).net := by
  cases call with
  | other server body => exact h.store server body
  | deliver outer hints fate =>
      have hafter := (steps_tryDirectDelivery (steps_post host fate (.ofOuter outer))
        hints).invariant (motive := Written) (fun _ _ hw hs => hs.written hw) h
      rw [step]
      split
      · rename_i net hrun
        rw [hrun] at hafter
        exact hafter
      · exact hafter

theorem written_run (host : String → Server) (calls : List (DirectCall Server)) : Written (run host calls).net := by
  induction calls using List.reverseRecOn with
  | nil => exact fun _ => rfl
  | append_singleton calls call ih =>
      rw [run, List.foldl_append]
      exact written_step ih call

/-! ### What a fetch collects -/

/-- The address of the first direct hint of the sender's profile that answers. -/
def polledHint (senderHints : List String) (answers : String → Bool) : Option String :=
  (senderHints.map rstripSlash).find? answers

omit [DecidableEq Server] in
theorem fetchDirectBlobs_run (net : Internet Server) (senderHints : List String)
    (answers : String → Bool) (tag : String) :
    (fetchDirectBlobs (Internet.get host answers tag) senderHints).run net
      = .ok (match polledHint senderHints answers with
          | some address =>
              ((net.servers (host address)).fetchBlob tag).map DirectBlobBody.toJson
          | none => []) net := by
  induction senderHints with
  | nil => rfl
  | cons hint senderHints ih =>
      rw [fetchDirectBlobs, polledHint, List.map_cons, List.find?_cons]
      cases hanswer : answers (rstripSlash hint) with
      | true =>
          simp [attempt_run, Internet.get, hanswer]
      | false =>
          simp [attempt_run, Internet.get, hanswer, PyExc.isHttpOrValueError, ih, polledHint]

theorem fetchBlob_eq {net : Internet Server} (h : Written net) (server : Server) (tag : String) :
    (net.servers server).fetchBlob tag = (lastPost net server tag).toList := by
  rw [DirectServerState.fetchBlob, h server, Table.find_foldl_upsert, lastPost]

/-- The blob is the last one stored under its tag at the server the recipient polls. -/
def Kept (host : String → Server) (net : Internet Server) (senderHints : List String)
    (answers : String → Bool) (outer : OuterBlob) : Prop :=
  ∃ address, polledHint senderHints answers = some address
    ∧ lastPost net (host address) (b64encode outer.mailboxTag) = some (.ofOuter outer)

theorem mem_collect {s : DirectRun Server} (h : Written s.net) {senderHints : List String}
    {answers : String → Bool} {relayItems : List Json} {tag : MailboxTag} {outer : OuterBlob}
    (htag : tag.tagB64 = b64encode outer.mailboxTag) :
    outer.toRelayJson ∈ s.collect host senderHints answers relayItems tag
      ↔ Kept host s.net senderHints answers outer ∨ outer.toRelayJson ∈ relayItems := by
  rw [collect, fetchDirectBlobs_run, value?, Option.getD_some, List.mem_append]
  apply or_congr_left
  cases hpolled : polledHint senderHints answers with
  | none => simp [Kept, hpolled]
  | some address =>
      simp only [Kept, hpolled, Option.some.injEq, exists_eq_left', fetchBlob_eq h, htag,
        List.mem_map, Option.mem_toList]
      constructor
      · rintro ⟨b, hb, hjson⟩
        rw [hb, DirectBlobBody.toJson_inj (hjson.trans (DirectBlobBody.toJson_ofOuter outer).symm)]
      · exact fun hb => ⟨_, hb, rfl⟩

/-- Every blob delivered directly is among the items of its tag, for the polled tags. -/
def ReachesRecipient (host : String → Server) (s : DirectRun Server) (senderHints : List String)
    (answers : String → String → Bool) (relayItems : String → List Json)
    (polled : List MailboxTag) : Prop :=
  ∀ outer ∈ s.delivered, ∀ tag ∈ polled, tag.tagB64 = b64encode outer.mailboxTag →
    outer.toRelayJson
      ∈ s.collect host senderHints (answers tag.tagB64) (relayItems tag.tagB64) tag

/-- **Direct delivery.** After any calls, every blob delivered directly is among what the
recipient collects exactly when each is the last one stored under its tag at the server
behind the first answering hint of the sender's profile, or a relay has it too. -/
theorem reachesRecipient_iff (host : String → Server) (calls : List (DirectCall Server))
    (senderHints : List String) (answers : String → String → Bool)
    (relayItems : String → List Json) (polled : List MailboxTag) :
    ReachesRecipient host (run host calls) senderHints answers relayItems polled
      ↔ ∀ outer ∈ (run host calls).delivered, ∀ tag ∈ polled,
          tag.tagB64 = b64encode outer.mailboxTag →
            Kept host (run host calls).net senderHints (answers tag.tagB64) outer
              ∨ outer.toRelayJson ∈ relayItems tag.tagB64 := by
  have hwritten := written_run host calls
  constructor
  · intro h outer houter tag htag heq
    exact (mem_collect hwritten heq).mp (h outer houter tag htag heq)
  · intro h outer houter tag htag heq
    exact (mem_collect hwritten heq).mpr (h outer houter tag htag heq)

/-! ### Two blobs that are not collected -/

namespace Sample

def blob (ciphertext : Bytes) : OuterBlob :=
  { version := 1, mailboxTag := [7], expiresAt := 0, ciphertext }

def tag : MailboxTag := { tag := [7], epoch := 0, direction := "alice->bob" }

/-- Alice delivers blobs of one tag to Bob's hint, where his server answers. -/
def calls (ciphertexts : List Bytes) : List (DirectCall String) :=
  ciphertexts.map fun c => .deliver (blob c) ["http://bob/"] fun _ => .answered

end Sample

/-- Bob polls Alice's hints: she has none, and he collects nothing. When she has his server's
address among hers, he collects the second of her two blobs and not the first. -/
theorem not_reachesRecipient :
    ¬ ReachesRecipient id (run id (Sample.calls [[1]])) [] (fun _ _ => true) (fun _ => [])
        [Sample.tag]
      ∧ ¬ ReachesRecipient id (run id (Sample.calls [[1], [2]])) ["http://bob"]
        (fun _ _ => true) (fun _ => []) [Sample.tag] := by
  constructor
  · intro h
    have hmem := h (Sample.blob [1]) (by decide +kernel) Sample.tag (by simp) rfl
    rw [mem_collect (written_run _ _) rfl] at hmem
    rcases hmem with ⟨address, haddress, -⟩ | hmem
    · cases haddress
    · cases hmem
  · intro h
    have hmem := h (Sample.blob [1]) (by decide +kernel) Sample.tag (by simp) rfl
    rw [mem_collect (written_run _ _) rfl] at hmem
    rcases hmem with ⟨address, haddress, hlast⟩ | hmem
    · have hpolled : polledHint ["http://bob"] (fun _ => true) = some "http://bob" := by
        decide +kernel
      cases hpolled.symm.trans haddress
      revert hlast
      decide +kernel
    · cases hmem

end DirectRun
end Yakr
