import TraxOs.Theory.RelyGuarantee
import TraxOs.PowerSync.CommandServer

/-!
# What a transaction can commit

The effect of one committed transaction on the tables, under arbitrary
interference. Every transaction is classified once: a replica request under the
credential that its replica row accepts, a command under the receipt, the grant and
the resource that it found, a change of the retention state, or a retention run.
Properties of whole runs are inductions over the chain of classified commits.

A retention run is the one transaction whose statements do not all see the same
database. Its commit says what it found when it looked for expired markers, and
relates the floor that it read later to the markers that remain.
-/

namespace TraxOs.PowerSync

open TraxOs.Theory

/-- The credential check of `lockReplica`. -/
def Replica.accepts (platform : Platform) (row : Replica) (userId : Uuid) (binding : ReplicaBinding)
    (credential : Text) : Prop :=
  row.userId = userId ∧ row.disabledAt = none ∧ row.replicaEpoch = binding.replicaEpoch ∧
    row.credentialDigest = platform.sha256 credential

instance (platform : Platform) (row : Replica) (userId : Uuid) (binding : ReplicaBinding)
    (credential : Text) : Decidable (row.accepts platform userId binding credential) :=
  inferInstanceAs (Decidable (_ ∧ _))

/-- The database holds a replica that accepts a credential. -/
def Presents (platform : Platform) (db : Database) (userId : Uuid) (binding : ReplicaBinding)
    (credential : Text) (row : Replica) : Prop :=
  db.lookup (Key.replica binding.replicaId) = some row ∧
    row.accepts platform userId binding credential

/-- The singleton of `ps8_retention_state`. -/
def stateOf (db : Database) : Option RetentionState := db.lookup Key.retentionState

/-- An active grant gives the user the resource. -/
def granted (db : Database) (userId resourceId : Uuid) : Bool :=
  (db.lookup Key.syncGrants).any fun table => table.allow userId resourceId

/-- Every other row is as it was. -/
def Spares (keys : List Key) (before after : Database) : Prop :=
  ∀ key, key ∉ keys → after.lookup key = before.lookup key

/-- A reply that acknowledges nothing. -/
def Reply.negative : Reply → Bool
  | .invalidReplica => true
  | .replicaLimitReached => true
  | .checkpointAckRejected => true
  | .replicaNotStale => true
  | .done => true
  | _ => false

/-- A live resource is soft-deleted: its marker gets the next deletion sequence. -/
structure Buried (id : Uuid) (row : Resource) (state : RetentionState) (version : Nat)
    (deletedAt : Timestamp) (final : 1 < version) (before after : Database) : Prop where
  found : before.lookup (Key.resource id) = some row
  live : row.deletedAt = none
  unmarked : before.lookup (Key.marker id) = none
  counted : stateOf before = some state
  deleted : after.lookup (Key.resource id) = some (row.deleted version deletedAt final)
  marked : after.lookup (Key.marker id) = some (state.marker row version deletedAt final)
  allocated : stateOf after = some state.allocated

/-- A command as its transaction sees it. -/
structure CommandCall where
  userId : Uuid
  binding : ReplicaBinding
  credential : Text
  command : SpikeCommand
  attemptNumber : Nat
  eventId : Uuid

namespace CommandCall

variable (platform : Platform) (call : CommandCall)

/-- Its request. -/
def request : Request :=
  .command call.userId call.binding call.credential call.command call.attemptNumber call.eventId

/-- The key of its receipt. -/
abbrev receiptKey : Key := .receipt call.userId call.command.commandId

/-- The receipt with which a terminal outcome is recorded. -/
def receipt (state : ResultState) (code : ResultCode) (currentVersion : Nat) : Receipt :=
  receiptOf platform call.binding call.command state code currentVersion

/-- The receipt of an applied command. -/
def appliedReceipt : Receipt :=
  call.receipt platform .applied .applied (call.command.expectedRecordVersion + 1)

end CommandCall

/-- The commit of an applied command: the live incarnation that it names, at the
version that it expects, gets the next version, and one event and one receipt
record it. -/
structure Applies (platform : Platform) (call : CommandCall) (reply : Reply)
    (before after : Database) : Prop where
  granted : granted before call.userId call.command.resourceId = true
  free : before.lookup call.receiptKey = none
  told : reply = .results 200 (resultFromReceipt call.command.commandId
    (call.appliedReceipt platform) call.attemptNumber false)
  changes : ∃ row stored : Resource, before.lookup (Key.resource call.command.resourceId) = some row ∧
    row.incarnationId = call.command.resourceIncarnationId ∧ row.deletedAt = none ∧
      row.version = call.command.expectedRecordVersion ∧
        after.lookup (Key.resource call.command.resourceId) = some stored ∧
          stored.incarnationId = row.incarnationId ∧
            stored.version = call.command.expectedRecordVersion + 1
  eventFree : before.lookup (Key.changeEvent call.eventId) = none
  event : ∃ row : ChangeEvent, after.lookup (Key.changeEvent call.eventId) = some row ∧
    row.userId = call.userId ∧ row.commandId = call.command.commandId ∧
      row.resourceId = call.command.resourceId ∧
        row.resultingVersion = call.command.expectedRecordVersion + 1
  receipt : after.lookup call.receiptKey = some (call.appliedReceipt platform)
  buries : (call.command.kind ≠ .softDelete ∧
      Spares [.resource call.command.resourceId, .changeEvent call.eventId, call.receiptKey]
        before after) ∨
    ∃ row state deletedAt final, Buried call.command.resourceId row state
        (call.command.expectedRecordVersion + 1) deletedAt final before after ∧
      Spares [.resource call.command.resourceId, .retentionState, .marker call.command.resourceId,
        .changeEvent call.eventId, call.receiptKey] before after

/-- The commit of a command that is recorded without effect, with the receipt. -/
structure Records (call : CommandCall) (row : Receipt) (before after : Database) : Prop where
  free : before.lookup call.receiptKey = none
  receipt : after.lookup call.receiptKey = some row
  spared : Spares [call.receiptKey] before after

/-- The commit of a retention run. `looked` is the retention state at the moment when
the expired markers were found, and `next` the floor that was read afterwards. -/
structure Retains (before after : Database) (looked : RetentionState)
    (expired : List (Uuid × Marker)) (next : Nat) : Prop where
  due : ∀ entry ∈ expired, entry.2.expired looked = true ∧
    before.lookup (Key.marker entry.1) = some entry.2
  dropped : ∀ id marker, (id, marker) ∈ expired → after.lookup (Key.marker id) = none
  kept : ∀ id, (∀ entry ∈ expired, entry.1 ≠ id) →
    after.lookup (Key.marker id) = before.lookup (Key.marker id)
  later : ∀ id marker, after.lookup (Key.marker id) = some marker →
    marker.expired looked = false ∨
      ∀ entry ∈ expired, entry.2.deletionSequence < marker.deletionSequence
  state : ∃ old, stateOf before = some old ∧ next ≤ old.nextDeletionSequence ∧
    stateOf after = some (if expired = [] then old else old.withFloor next)
  floor : expired ≠ [] → ∀ id marker, after.lookup (Key.marker id) = some marker →
    next ≤ marker.deletionSequence
  reached : expired ≠ [] →
    (∃ id marker, after.lookup (Key.marker id) = some marker ∧ marker.deletionSequence = next) ∨
      ∀ entry ∈ expired, entry.2.deletionSequence < next
  resources : ∀ id (row : Resource), after.lookup (Key.resource id) = some row →
    ∃ old : Resource, before.lookup (Key.resource id) = some old ∧
      row.incarnationId = old.incarnationId ∧ row.version = old.version ∧
        row.deletedAt = old.deletedAt
  grants : ∀ grant ∈ grantsOf after, (after.lookup (Key.resource grant.resourceId)).isSome = true
  rebuilt : after.lookup Key.syncGrants ≠ before.lookup Key.syncGrants
  spared : ∀ key, (∀ id, key ≠ .resource id) → (∀ id, key ≠ .marker id) → key ≠ .retentionState →
    key ≠ .syncGrants → after.lookup key = before.lookup key

/-- The classification of commits. -/
inductive Committed (platform : Platform) : Request → Reply → Database → Database → Prop where
  | quiet (request : Request) (reply : Reply) (db : Database) (negative : reply.negative = true) :
      Committed platform request reply db db
  | counted (userId : Uuid) (binding : ReplicaBinding) (credential : Text) (row : Replica)
      (before after : Database) (presents : Presents platform before userId binding credential row)
      (spared : Spares [.rateWindow binding.replicaId] before after) :
      Committed platform (.rateWindow userId binding credential) .accepted before after
  | registered (userId replicaId : Uuid) (credential : Text) (now : Timestamp)
      (before after : Database) (free : before.lookup (Key.replica replicaId) = none)
      (written : after.lookup (Key.replica replicaId) =
        some (registeredReplica userId (platform.sha256 credential) now))
      (spared : Spares [.replica replicaId] before after) :
      Committed platform (.register userId replicaId credential)
        (.registered ⟨replicaId, 1, credential⟩) before after
  | challenged (userId : Uuid) (binding : ReplicaBinding) (credential : Text) (challengeId : Uuid)
      (target : Nat) (expiresAt : Timestamp) (row : Replica) (before after : Database)
      (presents : Presents platform before userId binding credential row)
      (spared : ∀ key, (∀ id, key ≠ .challenge id) → after.lookup key = before.lookup key) :
      Committed platform (.challenge userId binding credential challengeId)
        (.challenged challengeId target expiresAt) before after
  | acknowledged (userId : Uuid) (binding : ReplicaBinding) (credential : Text)
      (challengeId : Uuid) (sequence : Nat) (now : Timestamp) (row : Replica)
      (before after : Database) (presents : Presents platform before userId binding credential row)
      (written : after.lookup (Key.replica binding.replicaId) =
        some (row.acknowledged now sequence))
      (spared : Spares [.challenge challengeId, .replica binding.replicaId] before after) :
      Committed platform (.acknowledge userId binding credential challengeId) .acknowledged
        before after
  | rotated (userId : Uuid) (binding : ReplicaBinding) (credential resetRequestId : Text)
      (now : Timestamp) (row : Replica) (positive : 0 < binding.replicaEpoch + 1)
      (before after : Database) (valid : isVersion4Uuid resetRequestId = true)
      (presents : Presents platform before userId binding credential row)
      (written : after.lookup (Key.replica binding.replicaId) =
        some (row.rotated now (binding.replicaEpoch + 1)
          (platform.sha256 (nextSession platform binding resetRequestId).credential) resetRequestId
          positive))
      (spared : Spares [.replica binding.replicaId, .rateWindow binding.replicaId] before after) :
      Committed platform (.reset userId binding credential resetRequestId)
        (.reset (nextSession platform binding resetRequestId)) before after
  | repeated (userId : Uuid) (binding : ReplicaBinding) (credential resetRequestId : Text)
      (row : Replica) (db : Database) (valid : isVersion4Uuid resetRequestId = true)
      (found : db.lookup (Key.replica binding.replicaId) = some row) (owner : row.userId = userId)
      (enabled : row.disabledAt = none)
      (repeats : row.repeatsReset platform binding credential resetRequestId = true) :
      Committed platform (.reset userId binding credential resetRequestId)
        (.reset (nextSession platform binding resetRequestId)) db db
  | settled (userId : Uuid) (binding : ReplicaBinding) (credential resetRequestId : Text)
      (row : Replica) (before after : Database)
      (presents : Presents platform before userId binding credential row)
      (staged : row.stagedResetRequestId = some resetRequestId)
      (written : after.lookup (Key.replica binding.replicaId) = some (row.settled resetRequestId))
      (spared : Spares [.replica binding.replicaId] before after) :
      Committed platform (.acknowledgeReset userId binding credential resetRequestId)
        .resetAcknowledged before after
  | settledBefore (userId : Uuid) (binding : ReplicaBinding) (credential resetRequestId : Text)
      (row : Replica) (db : Database)
      (presents : Presents platform db userId binding credential row)
      (last : row.lastAcknowledgedResetRequestId = some resetRequestId)
      (unstaged : row.previousCredentialDigest = none) :
      Committed platform (.acknowledgeReset userId binding credential resetRequestId)
        .resetAcknowledged db db
  | classified (userId : Uuid) (binding : ReplicaBinding) (credential : Text)
      (resourceId incarnationId : Uuid) (preserve : Bool) (row : Replica) (db : Database)
      (presents : Presents platform db userId binding credential row) :
      Committed platform (.classify userId binding credential resourceId incarnationId)
        (.classified preserve) db db
  | disabled (replicaId : Uuid) (row : Replica) (now : Timestamp) (before after : Database)
      (found : before.lookup (Key.replica replicaId) = some row)
      (written : after.lookup (Key.replica replicaId) = some (row.disabled now))
      (spared : Spares [.replica replicaId] before after) :
      Committed platform (.disable replicaId) .done before after
  | replayed (call : CommandCall) (row : Replica) (receipt : Receipt) (db : Database)
      (presents : Presents platform db call.userId call.binding call.credential row)
      (allowed : granted db call.userId call.command.resourceId = true)
      (found : db.lookup call.receiptKey = some receipt)
      (binds : receipt.binds platform call.binding call.command = true) :
      Committed platform call.request
        (.results 200 (resultFromReceipt call.command.commandId receipt call.attemptNumber true)) db db
  | deniedAgain (call : CommandCall) (row : Replica) (receipt : Receipt) (db : Database)
      (presents : Presents platform db call.userId call.binding call.credential row)
      (revoked : granted db call.userId call.command.resourceId = false)
      (found : db.lookup call.receiptKey = some receipt)
      (binds : receipt.binds platform call.binding call.command = true) :
      Committed platform call.request
        (.results 403 (deniedResultFromDurableReceipt call.command.commandId receipt
          call.attemptNumber)) db db
  | denied (call : CommandCall) (row : Replica) (before after : Database)
      (presents : Presents platform before call.userId call.binding call.credential row)
      (revoked : granted before call.userId call.command.resourceId = false)
      (records : Records call (call.receipt platform .denied .commandDenied
        call.command.expectedRecordVersion) before after) :
      Committed platform call.request
        (.results 403 (deniedResultFromDurableReceipt call.command.commandId
          (call.receipt platform .denied .commandDenied call.command.expectedRecordVersion)
          call.attemptNumber)) before after
  | refused (call : CommandCall) (row : Replica) (resource : Resource) (code : ResultCode)
      (before after : Database)
      (presents : Presents platform before call.userId call.binding call.credential row)
      (allowed : granted before call.userId call.command.resourceId = true)
      (found : before.lookup (Key.resource call.command.resourceId) = some resource)
      (cause : (code = .staleIncarnation ∧
          resource.incarnationId ≠ call.command.resourceIncarnationId) ∨
        (code = .optimisticConflict ∧ resource.incarnationId = call.command.resourceIncarnationId ∧
          (resource.deletedAt ≠ none ∨ resource.version ≠ call.command.expectedRecordVersion)))
      (records : Records call (call.receipt platform .conflict code resource.version) before after) :
      Committed platform call.request
        (.results 200 (resultFromReceipt call.command.commandId
          (call.receipt platform .conflict code resource.version) call.attemptNumber false))
        before after
  | applied (call : CommandCall) (row : Replica) (reply : Reply) (before after : Database)
      (presents : Presents platform before call.userId call.binding call.credential row)
      (applies : Applies platform call reply before after) :
      Committed platform call.request reply before after
  | created (id incarnationId : Uuid) (payload : Text) (grants : List Grant)
      (before after : Database) (free : before.lookup (Key.resource id) = none)
      (written : after.lookup (Key.resource id) =
        some ⟨incarnationId, some payload, 1, none, by decide⟩)
      (rebuilt : ∀ grant ∈ grantsOf after,
        (after.lookup (Key.resource grant.resourceId)).isSome = true)
      (spared : Spares [.resource id, .syncGrants] before after) :
      Committed platform (.createResource id incarnationId payload grants) .done before after
  | refreshed (grants : List Grant) (before after : Database)
      (rebuilt : ∀ grant ∈ grantsOf after,
        (after.lookup (Key.resource grant.resourceId)).isSome = true)
      (spared : Spares [.syncGrants] before after) :
      Committed platform (.refreshGrants grants) .done before after
  | buried (id : Uuid) (row : Resource) (state : RetentionState) (deletedAt : Timestamp)
      (final : 1 < row.version + 1) (before after : Database)
      (buried : Buried id row state (row.version + 1) deletedAt final before after)
      (spared : Spares [.resource id, .retentionState, .marker id] before after) :
      Committed platform (.softDelete id) .done before after
  | reburied (id : Uuid) (row : Resource) (deletedAt : Timestamp) (final : 1 < row.version + 1)
      (before after : Database) (found : before.lookup (Key.resource id) = some row)
      (dead : row.deletedAt ≠ none)
      (written : after.lookup (Key.resource id) =
        some (row.deleted (row.version + 1) deletedAt final))
      (spared : Spares [.resource id] before after) :
      Committed platform (.softDelete id) .done before after
  | timed (next : Timestamp) (state : RetentionState) (before after : Database)
      (found : stateOf before = some state) (forward : state.effectiveNow ≤ next)
      (written : stateOf after = some (state.advanced next))
      (spared : Spares [.retentionState] before after) :
      Committed platform (.setTime next) .done before after
  | prolonged (next : Interval) (state : RetentionState) (enough : days 90 ≤ next)
      (before after : Database) (found : stateOf before = some state)
      (written : stateOf after = some (state.retaining next enough))
      (spared : Spares [.retentionState] before after) :
      Committed platform (.setGraveyardRetention next) .done before after
  | retained (payloads purged floor : Nat) (looked : RetentionState)
      (expired : List (Uuid × Marker)) (next : Nat) (before after : Database)
      (retains : Retains before after looked expired next) :
      Committed platform .runRetention (.retained payloads purged floor) before after

end TraxOs.PowerSync
