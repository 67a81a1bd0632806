import TraxOs.Theory.Store
import TraxOs.PowerSync.Protocol

/-!
# The tables of the command service

The rows that the command server, the retention job and the triggers read or
write, with the CHECK constraints of the schema as fields of the rows. The scope
columns of resources, markers and grants are left out: they only decide who is
granted what, and the grants are here.

A timestamp counts microseconds. An interval is a number of microseconds too: the
intervals of the schema and of its callers are days, and the session runs in UTC,
where a day has 24 hours. An interval with a month part has no counterpart here.
-/

namespace TraxOs.PowerSync

open TraxOs.Theory

/-- A `timestamptz`, in microseconds. -/
abbrev Timestamp := Nat

/-- An `interval` of days, in microseconds. -/
abbrev Interval := Nat

/-- `interval '1 day'` times a number. -/
def days (count : Nat) : Interval := count * 86400000000

/-- `interval '1 minute'` times a number. -/
def minutes (count : Nat) : Interval := count * 60000000

/-- The singleton of `ps8_retention_state`. -/
structure RetentionState where
  effectiveNow : Timestamp
  graveyardRetention : Interval
  retainedGraveyardFloor : Nat
  nextDeletionSequence : Nat
  longEnough : days 90 ≤ graveyardRetention
  floorPositive : 0 < retainedGraveyardFloor
  nextPositive : 0 < nextDeletionSequence
deriving DecidableEq

/-- A row of `ps8_replicas`. -/
structure Replica where
  userId : Uuid
  credentialDigest : Text
  replicaEpoch : Nat
  registeredAt : Timestamp
  lastClientObservedAckAt : Option Timestamp
  acknowledgedSequence : Option Nat
  resetAt : Option Timestamp
  disabledAt : Option Timestamp
  previousCredentialDigest : Option Text
  stagedResetRequestId : Option Uuid
  lastAcknowledgedResetRequestId : Option Uuid
  epochPositive : 0 < replicaEpoch
  acknowledgedTogether : lastClientObservedAckAt.isNone = acknowledgedSequence.isNone
  stagedTogether : previousCredentialDigest.isNone = stagedResetRequestId.isNone
deriving DecidableEq

/-- A row of `ps8_replica_challenges`. -/
structure Challenge where
  replicaId : Uuid
  replicaEpoch : Nat
  targetSequence : Nat
  issuedAt : Timestamp
  expiresAt : Timestamp
  acknowledgedAt : Option Timestamp
  expires : issuedAt < expiresAt
deriving DecidableEq

/-- A row of `ps8_command_rate_windows`. -/
structure RateWindow where
  replicaEpoch : Nat
  windowStartedAt : Timestamp
  requestCount : Nat
  counted : 0 < requestCount ∧ requestCount ≤ 64
deriving DecidableEq

/-- A row of `resources`. -/
structure Resource where
  incarnationId : Uuid
  payload : Option Text
  version : Nat
  deletedAt : Option Timestamp
  versionPositive : 0 < version
deriving DecidableEq

/-- A row of `ps8_resource_graveyard`. -/
structure Marker where
  incarnationId : Uuid
  finalVersion : Nat
  deletedAt : Timestamp
  deletionSequence : Nat
  final : 1 < finalVersion
  sequencePositive : 0 < deletionSequence
deriving DecidableEq

/-- A row of `ps8_command_receipts`. -/
structure Receipt where
  replicaId : Uuid
  replicaEpoch : Nat
  resourceId : Uuid
  digest : Text
  resultState : ResultState
  resultCode : ResultCode
  previousVersion : Nat
  currentVersion : Nat
deriving DecidableEq

/-- A row of `ps8_command_change_events`. -/
structure ChangeEvent where
  userId : Uuid
  commandId : Uuid
  resourceId : Uuid
  eventOrdinal : Nat
  eventType : Text
  resultingVersion : Nat
  changed : 1 < resultingVersion
deriving DecidableEq

/-- A row of `sync_grants`. -/
structure Grant where
  resourceId : Uuid
  userId : Uuid
  grantPath : Text
  userActive : Bool
  workspaceActive : Bool
  journeyActive : Bool
  partyActive : Bool
deriving DecidableEq

/-- The whole of `sync_grants`, which every rebuild replaces. `rebuilds` counts the
rebuilds: each of them deletes all rows and inserts new ones, so that no two
contents of the table are the same rows even when they read the same. -/
structure SyncGrants where
  grants : List Grant
  rebuilds : Nat
deriving DecidableEq

/-- The primary keys. The grants are one row, because they are only replaced as a
whole and the advisory lock `trax-ps8-sync-grants` is their lock. -/
inductive Key where
  | retentionState
  | replica (id : Uuid)
  | challenge (id : Uuid)
  | rateWindow (replicaId : Uuid)
  | resource (id : Uuid)
  | marker (resourceId : Uuid)
  | receipt (userId commandId : Uuid)
  | changeEvent (id : Uuid)
  | syncGrants
deriving DecidableEq

/-- The row under each key. -/
@[reducible] def Row : Key → Type
  | .retentionState => RetentionState
  | .replica _ => Replica
  | .challenge _ => Challenge
  | .rateWindow _ => RateWindow
  | .resource _ => Resource
  | .marker _ => Marker
  | .receipt _ _ => Receipt
  | .changeEvent _ => ChangeEvent
  | .syncGrants => SyncGrants

/-- A committed database, or one seen through a transaction's own writes. -/
abbrev Database := AList Row

/-- `ps8_replica_reset_required`, for a replica row. -/
def RetentionState.resetRequired (state : RetentionState) (lastAck : Option Timestamp)
    (checkpoint : Option Nat) : Bool :=
  match lastAck, checkpoint with
  | some observed, some sequence =>
    decide (observed + days 90 < state.effectiveNow) || decide (sequence < state.retainedGraveyardFloor)
  | _, _ => true

/-- The marker is due for the retention job. -/
def Marker.expired (marker : Marker) (state : RetentionState) : Bool :=
  decide (marker.deletedAt + state.graveyardRetention < state.effectiveNow)

/-- The grant counts for its user. -/
def Grant.active (grant : Grant) : Bool :=
  grant.userActive && grant.workspaceActive && grant.journeyActive && grant.partyActive

/-- Some active grant gives a user a resource. -/
def SyncGrants.allow (table : SyncGrants) (userId resourceId : Uuid) : Bool :=
  table.grants.any fun grant =>
    decide (grant.resourceId = resourceId) && decide (grant.userId = userId) && grant.active

/-- A replica of one user, found by a scan. -/
def replicaOf (userId : Uuid) : (key : Key) → Row key → Option Uuid
  | .replica id, row => if row.userId = userId then some id else none
  | _, _ => none

/-- A challenge of one replica, found by a scan. -/
def challengeOf (replicaId : Uuid) : (key : Key) → Row key → Option Uuid
  | .challenge id, row => if row.replicaId = replicaId then some id else none
  | _, _ => none

/-- A resource with an incarnation, found by a scan. -/
def resourceWith (incarnationId : Uuid) : (key : Key) → Row key → Option Uuid
  | .resource id, row => if row.incarnationId = incarnationId then some id else none
  | _, _ => none

/-- A change event of a command at an ordinal, found by a scan. -/
def eventAt (userId commandId : Uuid) (ordinal : Nat) : (key : Key) → Row key → Option Uuid
  | .changeEvent id, row =>
    if row.userId = userId ∧ row.commandId = commandId ∧ row.eventOrdinal = ordinal then some id
    else none
  | _, _ => none

/-- A marker, found by a scan. -/
def markerAny : (key : Key) → Row key → Option (Uuid × Marker)
  | .marker resourceId, row => some (resourceId, row)
  | _, _ => none

/-- A resource whose payload the retention job clears, found by a scan. -/
def clearable (now : Timestamp) : (key : Key) → Row key → Option (Uuid × Resource)
  | .resource id, row =>
    match row.deletedAt, row.payload with
    | some deletedAt, some _ => if deletedAt + days 30 < now then some (id, row) else none
    | _, _ => none
  | _, _ => none

/-- The markers of a database. -/
def markers (db : Database) : List (Uuid × Marker) := collect markerAny db

/-- The markers are the rows of the graveyard. -/
theorem mem_markers (db : Database) (resourceId : Uuid) (marker : Marker) :
    (resourceId, marker) ∈ markers db ↔ db.lookup (Key.marker resourceId) = some marker := by
  rw [markers, mem_collect]
  constructor
  · rintro ⟨key, row, found, picked⟩
    cases key with
    | marker id =>
      simp only [markerAny, Option.some.injEq, Prod.mk.injEq] at picked
      obtain ⟨rfl, rfl⟩ := picked
      exact found
    | _ => simp [markerAny] at picked
  · exact fun found => ⟨Key.marker resourceId, marker, found, rfl⟩

end TraxOs.PowerSync
