import TraxOs.PowerSync.ResetFiles
import TraxOs.PowerSync.Rotation
import TraxOs.PowerSync.RateLimits

/-!
# The server of a replica

What the server answers to the posts of a client about its replica, and what becomes of the epoch
at which it holds the replica. Only a reset that presents the current epoch raises it, and by one.
-/

namespace TraxOs.PowerSync

open TraxOs.Theory
open TraxOs.ApiClient (Value)

/-- The server for a user, with what it draws and how it prints a date. -/
structure Endpoint (Rest : Type) where
  platform : Platform
  userId : Uuid
  challengeId : Rest → Uuid
  isoDate : Timestamp → Text

namespace Endpoint

variable {Rest : Type}

/-- The request of a post. A challenge that is not a text is as invalid as an empty one. -/
def request (endpoint : Endpoint Rest) (rest : Rest) : ReplicaPost → Request
  | .classify session resourceId resourceIncarnationId =>
    .classify endpoint.userId session.binding session.credential resourceId resourceIncarnationId
  | .reset session resetRequestId _ =>
    .reset endpoint.userId session.binding session.credential resetRequestId
  | .acknowledgeReset session resetRequestId =>
    .acknowledgeReset endpoint.userId session.binding session.credential resetRequestId
  | .challenge session =>
    .challenge endpoint.userId session.binding session.credential (endpoint.challengeId rest)
  | .acknowledge session (.text challengeId) =>
    .acknowledge endpoint.userId session.binding session.credential challengeId
  | .acknowledge session _ => .acknowledge endpoint.userId session.binding session.credential []

/-- `{ error }`. -/
def refusal (status : Nat) (error : String) : Response :=
  ⟨status, .object [(ascii "error", .text (ascii error))]⟩

/-- What the client did is only as the client observed it. -/
def checkpointProof : Text × Value :=
  (ascii "checkpointProof", .text (ascii "client-observed-not-server-attested"))

/-- The session of a reset response. -/
def sessionBody (session : ReplicaSession) : Value :=
  .object [(ascii "replicaId", .text session.replicaId),
    (ascii "replicaEpoch", numberValue session.replicaEpoch),
    (ascii "credential", .text session.credential)]

/-- The response of an outcome. -/
def response (endpoint : Endpoint Rest) : Except Failure Reply → Response
  | .ok (.classified preserve) => ⟨200, .object [(ascii "preserve", .boolean preserve)]⟩
  | .ok (.reset session) => ⟨200, sessionBody session⟩
  | .ok .replicaNotStale => refusal 409 "replica_not_stale"
  | .ok .resetAcknowledged => ⟨200, .object [(ascii "acknowledged", .boolean true)]⟩
  | .ok (.challenged challengeId targetSequence expiresAt) =>
    ⟨201, .object [(ascii "challengeId", .text challengeId),
      (ascii "targetSequence", numberValue targetSequence),
      (ascii "expiresAt", .text (endpoint.isoDate expiresAt)), checkpointProof]⟩
  | .ok .checkpointAckRejected => refusal 409 "checkpoint_ack_rejected"
  | .ok .acknowledged => ⟨200, .object [(ascii "acknowledged", .boolean true), checkpointProof]⟩
  | .ok _ => refusal 403 "invalid_replica"
  | .error _ => refusal 400 "invalid_replica_request"

/-- A negative reply is no success. -/
theorem response_negative (endpoint : Endpoint Rest) (reply : Reply) (negative : reply.negative = true) :
    (endpoint.response (.ok reply)).status ≠ 200 := by
  cases reply <;> simp [Reply.negative, response, refusal] at negative ⊢

/-- A post is served by one transaction. -/
def post (endpoint : Endpoint Rest) (message : ReplicaPost) (outside : Database × Rest) :
    Except ClientFailure Response × (Database × Rest) :=
  (.ok (endpoint.response
      (serve (commandServer endpoint.platform) (endpoint.request outside.2 message) outside.1).1),
    (serve (commandServer endpoint.platform) (endpoint.request outside.2 message) outside.1).2,
    outside.2)

/-- The surroundings of a client whose posts the server answers. -/
def surrounding (endpoint : Endpoint Rest) (surroundings : ClientSurroundings (Database × Rest)) :
    ClientSurroundings (Database × Rest) :=
  { surroundings with post := endpoint.post }

/-- Only a post of a reset becomes a reset, of the session that it presents. -/
theorem request_reset (endpoint : Endpoint Rest) (rest : Rest) (message : ReplicaPost)
    (call : ResetCall) (same : endpoint.request rest message = call.request) :
    ∃ session resetRequestId fault, message = .reset session resetRequestId fault ∧
      call.binding = session.binding := by
  cases message with
  | reset session resetRequestId fault =>
    obtain ⟨userId, binding, credential, other⟩ := call
    obtain ⟨-, rfl, -, -⟩ := Request.reset.inj same
    exact ⟨session, resetRequestId, fault, rfl, rfl⟩
  | acknowledge session challengeId => cases challengeId <;> cases same
  | classify => cases same
  | acknowledgeReset => cases same
  | challenge => cases same

/-- A post fails and leaves the database, or is one commit. -/
theorem post_commits (endpoint : Endpoint Rest) (message : ReplicaPost) (outside : Database × Rest)
    (holds : Sequenced outside.1) :
    (∃ failure, endpoint.post message outside = (.ok (endpoint.response (.error failure)), outside)) ∨
      ∃ reply after, endpoint.post message outside =
          (.ok (endpoint.response (.ok reply)), (after, outside.2)) ∧
        Committed endpoint.platform (endpoint.request outside.2 message) reply outside.1 after := by
  cases served : serve (commandServer endpoint.platform) (endpoint.request outside.2 message) outside.1 with
  | mk answer after =>
    simp only [post, served]
    cases answer with
    | error failure =>
      rw [serve] at served
      split at served <;> cases served
      exact .inl ⟨failure, rfl⟩
    | ok reply => exact .inr ⟨reply, after, rfl, serve_committed _ _ _ _ holds reply served⟩

end Endpoint

section Epochs

/-- The epoch at which the server holds a replica. -/
def epochOf (db : Database) (replicaId : Uuid) : Option Nat :=
  (db.lookup (Key.replica replicaId)).map Replica.replicaEpoch

variable {platform : Platform}

/-- A commit leaves the epoch of a replica, or is a reset that presents it and raises it by
one. -/
theorem commit_epoch (replicaId : Uuid) (epoch : Nat) (request : Request) (reply : Reply)
    (before after : Database) (committed : Committed platform request reply before after)
    (held : epochOf before replicaId = some epoch) :
    epochOf after replicaId = some epoch ∨
      (epochOf after replicaId = some (epoch + 1) ∧ ∃ call : ResetCall, request = call.request ∧
        call.binding.replicaId = replicaId ∧ call.binding.replicaEpoch = epoch) := by
  have turns := commit_turns replicaId request reply before after committed
  unfold epochOf at held ⊢
  generalize before.lookup (Key.replica replicaId) = old at turns held
  generalize after.lookup (Key.replica replicaId) = new at turns ⊢
  cases turns with
  | kept => exact .inl held
  | registered => cases held
  | acknowledged => exact .inl held
  | disabled => exact .inl held
  | rotated call row now positive here valid accepts =>
    have same : row.replicaEpoch = epoch := Option.some.inj held
    have presented := accepts.2.2.1
    refine .inr ⟨?_, call, rfl, here, presented.symm.trans same⟩
    rw [← same, presented]
    rfl
  | repeated => exact .inl held
  | settled => exact .inl held
  | settledBefore => exact .inl held

/-- The session of a reset is at the epoch that the server holds afterwards, the one after the
epoch of the request. -/
theorem commit_reset (call : ResetCall) (session : ReplicaSession) (before after : Database)
    (committed : Committed platform call.request (.reset session) before after) :
    session.replicaEpoch = call.binding.replicaEpoch + 1 ∧
      epochOf after call.binding.replicaId = some (call.binding.replicaEpoch + 1) := by
  obtain ⟨userId, binding, credential, resetRequestId⟩ := call
  change Committed platform (.reset userId binding credential resetRequestId) _ _ _ at committed
  unfold epochOf
  cases committed with
  | quiet _ _ _ negative => cases negative
  | rotated _ _ _ _ now row positive _ _ valid presents written spared =>
    refine ⟨rfl, ?_⟩
    rw [written]
    rfl
  | repeated _ _ _ _ row _ valid found owner enabled repeats =>
    refine ⟨rfl, ?_⟩
    rw [Replica.repeatsReset, Bool.and_eq_true, Bool.and_eq_true, Bool.and_eq_true] at repeats
    rw [found, Option.map_some, of_decide_eq_true repeats.1.1.1]

/-- A number that is read back is the one that was written. -/
theorem positiveSafe_read (number : Nat) (read : PositiveSafe)
    (found : positiveSafe (some (numberValue number)) = some read) : read.1 = number := by
  by_cases safe : 1 ≤ number ∧ number ≤ maxSafeInteger
  · rw [positiveSafe_number number safe.1 safe.2] at found
    obtain rfl := Option.some.inj found
    rfl
  · simp only [positiveSafe, numberValue, ApiClient.Number.rational, Option.bind_some] at found
    rw [dif_neg (by simpa using safe)] at found
    cases found

/-- The epoch of a session that is read back from a response. -/
theorem parseReplicaSessionSecret_epoch (session : ReplicaSession) (read : ReplicaSessionSecret)
    (accepted : parseReplicaSessionSecret (Endpoint.sessionBody session) = .ok read) :
    read.binding.replicaEpoch = session.replicaEpoch := by
  unfold parseReplicaSessionSecret at accepted
  obtain ⟨input, opened, accepted⟩ := (bind_ok _ _ _).mp accepted
  obtain rfl := Except.ok.inj opened
  obtain ⟨_, _, accepted⟩ := (bind_ok _ _ _).mp accepted
  obtain ⟨replicaId, _, accepted⟩ := (bind_ok _ _ _).mp accepted
  split at accepted
  · split at accepted
    · cases accepted
    · next epoch found =>
      obtain ⟨secret, _, accepted⟩ := (bind_ok _ _ _).mp accepted
      obtain ⟨_, _, accepted⟩ := (bind_ok _ _ _).mp accepted
      obtain rfl := Except.ok.inj accepted
      exact positiveSafe_read _ _ found
  · cases accepted

/-- A reset that the client accepts has raised the epoch, to the one of its new session. -/
theorem reset_answered {Rest : Type} (endpoint : Endpoint Rest) (session newSession : ReplicaSessionSecret)
    (resetRequestId : Text) (fault : Bool) (outside : Database × Rest) (holds : Sequenced outside.1)
    (reset : Response)
    (answer : (endpoint.post (.reset session resetRequestId fault) outside).1 = .ok reset)
    (rotated : ReplicaClient.rotatedSession reset = .ok newSession) :
    newSession.binding.replicaEpoch = session.binding.replicaEpoch + 1 ∧
      epochOf (endpoint.post (.reset session resetRequestId fault) outside).2.1
        session.binding.replicaId = some (session.binding.replicaEpoch + 1) := by
  obtain ⟨_, successful, parsed⟩ := (bind_ok _ _ _).mp rotated
  have status := of_decide_eq_true ((require_ok _ _).mp successful)
  rcases endpoint.post_commits (.reset session resetRequestId fault) outside holds with
    ⟨failure, posted⟩ | ⟨reply, after, posted, committed⟩
  · rw [posted] at answer
    obtain rfl := Except.ok.inj answer
    simp [Endpoint.response, Endpoint.refusal] at status
  · rw [posted] at answer ⊢
    obtain rfl := Except.ok.inj answer
    obtain ⟨other, rfl⟩ : ∃ other, reply = .reset other := by
      change Committed _ (.reset _ _ _ _) _ _ _ at committed
      cases committed with
      | quiet _ _ _ negative => exact absurd status (endpoint.response_negative reply negative)
      | rotated => exact ⟨_, rfl⟩
      | repeated => exact ⟨_, rfl⟩
    obtain ⟨raised, held⟩ := commit_reset
      ⟨endpoint.userId, session.binding, session.credential, resetRequestId⟩ other _ _ committed
    refine ⟨?_, held⟩
    cases parse : parseReplicaSessionSecret (Endpoint.sessionBody other) with
    | error message =>
      rw [Endpoint.response, parse] at parsed
      cases parsed
    | ok read =>
      rw [Endpoint.response, parse] at parsed
      obtain rfl := Except.ok.inj parsed
      rw [parseReplicaSessionSecret_epoch other _ parse, raised]

end Epochs

end TraxOs.PowerSync
