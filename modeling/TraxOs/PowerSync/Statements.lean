import TraxOs.Theory.Transactions
import TraxOs.PowerSync.Tables

/-!
# The statements of the command service

One operation for each statement that the command server and the SQL functions
execute, with the rows it sees, the rows it writes, the constraints it is subject
to and the locks it takes.

A statement whose parts take effect at different times is one operation for each
part. A soft delete first evaluates `ps8_now()` on the locked resource; its trigger
allocates the deletion sequence later. The retention job first finds and locks the
expired markers, and deletes them and their resources later.
-/

namespace TraxOs.PowerSync

open TraxOs.Theory

/-- Advisory locks other than that of the grants. -/
inductive Name where
  | retention
  | register (userId : Uuid)
deriving DecidableEq

/-- A replica as `lockReplica` returns it. -/
structure LockedReplica where
  row : Replica
  effectiveNow : Timestamp
  nextDeletionSequence : Nat
  stale : Bool
deriving DecidableEq

/-- The statements, in the order of the functions that issue them. -/
inductive Op where
  | lockReplica (replicaId : Uuid)
  | countRequest (replicaId : Uuid) (replicaEpoch : Nat)
  | acquireGrantReadLock
  | refreshReplica (replicaId : Uuid)
  | selectActiveGrant (userId resourceId : Uuid)
  | selectReceipt (userId commandId : Uuid)
  | insertReceiptOrNothing (userId commandId : Uuid) (row : Receipt)
  | lockResource (id : Uuid)
  | insertReceipt (userId commandId : Uuid) (row : Receipt)
  | updateResource (id : Uuid) (payload : Text) (version : Nat)
  | evaluateSoftDelete (id : Uuid)
  | writeSoftDelete (id : Uuid) (version : Nat) (deletedAt : Timestamp)
  | insertChangeEvent (id userId commandId resourceId : Uuid) (ordinal : Nat) (type : Text)
      (resultingVersion : Nat)
  | lockRegistration (userId : Uuid)
  | countReplicas (userId : Uuid)
  | insertReplica (replicaId userId : Uuid) (credentialDigest : Text)
  | deleteChallenges (replicaId : Uuid)
  | insertChallenge (id : Uuid) (row : Challenge)
  | acknowledgeChallenge (id replicaId : Uuid) (replicaEpoch : Nat)
  | recordAcknowledgement (replicaId : Uuid) (sequence : Nat)
  | rotateReplica (replicaId : Uuid) (targetEpoch : Nat) (credentialDigest : Text)
      (resetRequestId : Uuid)
  | deleteRateWindow (replicaId : Uuid)
  | settleReset (replicaId resetRequestId : Uuid)
  | disableReplica (replicaId : Uuid)
  | selectPreserved (userId resourceId incarnationId : Uuid)
  | insertResource (id incarnationId : Uuid) (payload : Text)
  | acquireGrantWriteLock
  | rebuildGrants (grants : List Grant)
  | setTime (next : Timestamp)
  | setGraveyardRetention (next : Interval)
  | acquireRetentionLock
  | clearPayloads
  | selectExpired
  | deleteExpired (expired : List (Uuid × Marker))
  | selectNextFloor
  | raiseFloor (next : Nat)
  | selectFloor

/-- The rows that each statement returns. -/
@[reducible] def Res : Op → Type
  | .lockReplica _ => Option LockedReplica
  | .countRequest _ _ => Option Nat
  | .acquireGrantReadLock => Unit
  | .refreshReplica _ => Bool
  | .selectActiveGrant _ _ => Bool
  | .selectReceipt _ _ => Option Receipt
  | .insertReceiptOrNothing _ _ _ => Unit
  | .lockResource _ => Option Resource
  | .insertReceipt _ _ _ => Unit
  | .updateResource _ _ _ => Unit
  | .evaluateSoftDelete _ => Option (Timestamp × Nat)
  | .writeSoftDelete _ _ _ => Unit
  | .insertChangeEvent _ _ _ _ _ _ _ => Unit
  | .lockRegistration _ => Unit
  | .countReplicas _ => Nat
  | .insertReplica _ _ _ => Unit
  | .deleteChallenges _ => Unit
  | .insertChallenge _ _ => Unit
  | .acknowledgeChallenge _ _ _ => Option Nat
  | .recordAcknowledgement _ _ => Unit
  | .rotateReplica _ _ _ _ => Unit
  | .deleteRateWindow _ => Unit
  | .settleReset _ _ => Unit
  | .disableReplica _ => Unit
  | .selectPreserved _ _ _ => Bool
  | .insertResource _ _ _ => Unit
  | .acquireGrantWriteLock => Unit
  | .rebuildGrants _ => Unit
  | .setTime _ => Unit
  | .setGraveyardRetention _ => Unit
  | .acquireRetentionLock => Unit
  | .clearPayloads => Nat
  | .selectExpired => List (Uuid × Marker)
  | .deleteExpired _ => Nat
  | .selectNextFloor => Nat
  | .raiseFloor _ => Unit
  | .selectFloor => Nat

/-- The replies with which a transaction is rolled back. -/
inductive Refusal where
  | invalidReplica
  | replicaResetRequired
  | commandRateLimited
  | idempotencyConflict
  | commandDenied
deriving DecidableEq

/-- Why a transaction commits nothing: a statement raised an error, or the program
rolled back. -/
inductive Failure where
  | raised
  | rolledBack (refusal : Refusal)
deriving DecidableEq

/-- What a statement does: raise an error, or answer with writes and locks. -/
abbrev Effect (α : Type) := Outcome Name Row Failure α

/-- The answer of a statement that writes nothing. -/
def answered {α : Type} (answer : α) : Effect α := .ran answer [] []

/-- The answer of a statement that writes one row. -/
def putting {α : Type} (answer : α) (key : Key) (row : Row key) : Effect α :=
  .ran answer [.put key row] []

/-- An error raised by the database. -/
def raised {α : Type} : Effect α := .failed .raised

/-- A statement that needs the singleton of `ps8_retention_state`. -/
def withState {α : Type} (db : Database) (effect : RetentionState → Effect α) : Effect α :=
  match db.lookup Key.retentionState with
  | some state => effect state
  | none => raised

/-- An UPDATE of one row: nothing happens when it does not exist. -/
def updating {T : Type} (found : Option T) (effect : T → Effect Unit) : Effect Unit :=
  match found with
  | some row => effect row
  | none => answered ()

/-- A replica row after a client-observed acknowledgement. -/
def Replica.acknowledged (row : Replica) (now : Timestamp) (sequence : Nat) : Replica :=
  { row with
    lastClientObservedAckAt := some now
    acknowledgedSequence := some sequence
    acknowledgedTogether := rfl }

/-- A replica row after its credential was rotated for a reset request. -/
def Replica.rotated (row : Replica) (now : Timestamp) (targetEpoch : Nat) (credentialDigest : Text)
    (resetRequestId : Uuid) (positive : 0 < targetEpoch) : Replica :=
  { row with
    replicaEpoch := targetEpoch
    previousCredentialDigest := some row.credentialDigest
    credentialDigest := credentialDigest
    stagedResetRequestId := some resetRequestId
    lastClientObservedAckAt := none
    acknowledgedSequence := none
    resetAt := some now
    epochPositive := positive
    acknowledgedTogether := rfl
    stagedTogether := rfl }

/-- A replica row after its reset was acknowledged. -/
def Replica.settled (row : Replica) (resetRequestId : Uuid) : Replica :=
  { row with
    previousCredentialDigest := none
    stagedResetRequestId := none
    lastAcknowledgedResetRequestId := some resetRequestId
    stagedTogether := rfl }

/-- A newly registered replica. -/
def registeredReplica (userId : Uuid) (credentialDigest : Text) (now : Timestamp) : Replica where
  userId := userId
  credentialDigest := credentialDigest
  replicaEpoch := 1
  registeredAt := now
  lastClientObservedAckAt := none
  acknowledgedSequence := none
  resetAt := none
  disabledAt := none
  previousCredentialDigest := none
  stagedResetRequestId := none
  lastAcknowledgedResetRequestId := none
  epochPositive := by decide
  acknowledgedTogether := rfl
  stagedTogether := rfl

/-- A resource after an update command. -/
def Resource.updated (row : Resource) (payload : Text) (version : Nat) (positive : 0 < version) :
    Resource :=
  { row with payload := some payload, version := version, versionPositive := positive }

/-- A resource after a soft delete. -/
def Resource.deleted (row : Resource) (version : Nat) (deletedAt : Timestamp) (final : 1 < version) :
    Resource :=
  { row with
    deletedAt := some deletedAt
    version := version
    versionPositive := Nat.lt_of_succ_lt final }

/-- The retention state after a deletion sequence was allocated. -/
def RetentionState.allocated (state : RetentionState) : RetentionState :=
  { state with
    nextDeletionSequence := state.nextDeletionSequence + 1
    nextPositive := Nat.succ_pos _ }

/-- The marker that `ps8_record_resource_graveyard` inserts. -/
def RetentionState.marker (state : RetentionState) (row : Resource) (version : Nat)
    (deletedAt : Timestamp) (final : 1 < version) : Marker where
  incarnationId := row.incarnationId
  finalVersion := version
  deletedAt := deletedAt
  deletionSequence := state.nextDeletionSequence
  final := final
  sequencePositive := state.nextPositive

/-- The retention state with its floor raised. -/
def RetentionState.withFloor (state : RetentionState) (next : Nat) : RetentionState :=
  { state with
    retainedGraveyardFloor := max state.retainedGraveyardFloor next
    floorPositive := Nat.lt_of_lt_of_le state.floorPositive (Nat.le_max_left _ _) }

/-- The retention state at a later time. -/
def RetentionState.advanced (state : RetentionState) (next : Timestamp) : RetentionState :=
  { state with effectiveNow := next }

/-- The retention state with another retention. -/
def RetentionState.retaining (state : RetentionState) (next : Interval) (enough : days 90 ≤ next) :
    RetentionState :=
  { state with graveyardRetention := next, longEnough := enough }

/-- A replica row after it was disabled. -/
def Replica.disabled (row : Replica) (now : Timestamp) : Replica :=
  { row with disabledAt := some now }

/-- `sync_grants` after a rebuild with the given rows. -/
def SyncGrants.rebuilt (db : Database) (grants : List Grant) : SyncGrants where
  grants := grants
  rebuilds := ((db.lookup Key.syncGrants).map SyncGrants.rebuilds).getD 0 + 1

/-- The grants of a database. -/
def grantsOf (db : Database) : List Grant :=
  ((db.lookup Key.syncGrants).map SyncGrants.grants).getD []

/-- What `ps8_run_retention` deletes: resources and markers, as far as their rows
still are of the expired incarnations. -/
def expiredKeys (db : Database) (expired : List (Uuid × Marker)) : List Key :=
  (expired.filter fun entry =>
      (db.lookup (Key.resource entry.1)).any fun row => row.incarnationId = entry.2.incarnationId).map
    (fun entry => .resource entry.1) ++
  (expired.filter fun entry =>
      (db.lookup (Key.marker entry.1)).any fun row => row.incarnationId = entry.2.incarnationId).map
    (fun entry => .marker entry.1)

/-- The meaning of every statement on the store it sees. -/
def execute : (op : Op) → Database → Effect (Res op)
  | .lockReplica replicaId, db =>
    match db.lookup (Key.replica replicaId), db.lookup Key.retentionState with
    | some row, some state =>
      .ran (some
        { row := row
          effectiveNow := state.effectiveNow
          nextDeletionSequence := state.nextDeletionSequence
          stale := state.resetRequired row.lastClientObservedAckAt row.acknowledgedSequence })
        [] [(.row (.replica replicaId), .update)]
    | _, _ => answered none
  | .countRequest replicaId replicaEpoch, db =>
    withState db fun state =>
      let fresh : RateWindow := ⟨replicaEpoch, state.effectiveNow, 1, by decide⟩
      match db.lookup (Key.rateWindow replicaId) with
      | none => putting (some 1) (.rateWindow replicaId) fresh
      | some window =>
        if window.replicaEpoch ≠ replicaEpoch ∨
            window.windowStartedAt + minutes 1 ≤ state.effectiveNow then
          putting (some 1) (.rateWindow replicaId) fresh
        else if within : window.requestCount < 64 then
          putting (some (window.requestCount + 1)) (.rateWindow replicaId)
            { window with
              replicaEpoch := replicaEpoch
              requestCount := window.requestCount + 1
              counted := ⟨Nat.succ_pos _, within⟩ }
        else answered none
  | .acquireGrantReadLock, _ => .ran () [] [(.row .syncGrants, .share)]
  | .refreshReplica replicaId, db =>
    match db.lookup (Key.replica replicaId), db.lookup Key.retentionState with
    | some row, some state =>
      answered (state.resetRequired row.lastClientObservedAckAt row.acknowledgedSequence)
    | _, _ => raised
  | .selectActiveGrant userId resourceId, db =>
    answered ((db.lookup Key.syncGrants).any fun table => table.allow userId resourceId)
  | .selectReceipt userId commandId, db => answered (db.lookup (Key.receipt userId commandId))
  | .insertReceiptOrNothing userId commandId row, db =>
    match db.lookup (Key.receipt userId commandId) with
    | some _ => answered ()
    | none => putting () (.receipt userId commandId) row
  | .lockResource id, db =>
    match db.lookup (Key.resource id) with
    | some row => .ran (some row) [] [(.row (.resource id), .update)]
    | none => answered none
  | .insertReceipt userId commandId row, db =>
    match db.lookup (Key.receipt userId commandId) with
    | some _ => raised
    | none => putting () (.receipt userId commandId) row
  | .updateResource id payload version, db =>
    updating (db.lookup (Key.resource id)) fun row =>
      if (0 : UInt16) ∈ payload then raised
      else if positive : 0 < version then
        putting () (.resource id) (row.updated payload version positive)
      else raised
  | .evaluateSoftDelete id, db =>
    withState db fun state =>
      match db.lookup (Key.resource id) with
      | some row =>
        .ran (some (state.effectiveNow, row.version)) [] [(.row (.resource id), .noKeyUpdate)]
      | none => answered none
  | .writeSoftDelete id version deletedAt, db =>
    updating (db.lookup (Key.resource id)) fun row =>
      if final : 1 < version then
        match row.deletedAt with
        | some earlier =>
          if earlier = deletedAt then
            putting () (.resource id) (row.deleted version deletedAt final)
          else raised
        | none =>
          withState db fun state =>
            if (db.lookup (Key.marker id)).isSome then raised
            else .ran ()
              [.put (.resource id) (row.deleted version deletedAt final),
               .put .retentionState state.allocated,
               .put (.marker id) (state.marker row version deletedAt final)] []
      else raised
  | .insertChangeEvent id userId commandId resourceId ordinal type resultingVersion, db =>
    if (db.lookup (Key.changeEvent id)).isSome ∨ collect (eventAt userId commandId ordinal) db ≠ [] then
      raised
    else if changed : 1 < resultingVersion then
      putting () (.changeEvent id)
        { userId := userId
          commandId := commandId
          resourceId := resourceId
          eventOrdinal := ordinal
          eventType := type
          resultingVersion := resultingVersion
          changed := changed }
    else raised
  | .lockRegistration userId, _ => .ran () [] [(.named (.register userId), .update)]
  | .countReplicas userId, db => answered (collect (replicaOf userId) db).length
  | .insertReplica replicaId userId credentialDigest, db =>
    withState db fun state =>
      match db.lookup (Key.replica replicaId) with
      | some _ => raised
      | none => putting () (.replica replicaId)
          (registeredReplica userId credentialDigest state.effectiveNow)
  | .deleteChallenges replicaId, db =>
    .ran () ((collect (challengeOf replicaId) db).map fun id => .drop (.challenge id)) []
  | .insertChallenge id row, db =>
    match db.lookup (Key.challenge id) with
    | some _ => raised
    | none => .ran () [.put (.challenge id) row] [(.row (.replica row.replicaId), .keyShare)]
  | .acknowledgeChallenge id replicaId replicaEpoch, db =>
    match db.lookup (Key.challenge id), db.lookup Key.retentionState with
    | some row, some state =>
      if row.replicaId = replicaId ∧ row.replicaEpoch = replicaEpoch ∧ row.acknowledgedAt = none ∧
          state.effectiveNow ≤ row.expiresAt ∧ state.retainedGraveyardFloor ≤ row.targetSequence then
        putting (some row.targetSequence) (.challenge id)
          { row with acknowledgedAt := some state.effectiveNow }
      else answered none
    | _, _ => answered none
  | .recordAcknowledgement replicaId sequence, db =>
    withState db fun state =>
      updating (db.lookup (Key.replica replicaId)) fun row =>
        putting () (.replica replicaId) (row.acknowledged state.effectiveNow sequence)
  | .rotateReplica replicaId targetEpoch credentialDigest resetRequestId, db =>
    withState db fun state =>
      updating (db.lookup (Key.replica replicaId)) fun row =>
        if positive : 0 < targetEpoch then
          putting () (.replica replicaId)
            (row.rotated state.effectiveNow targetEpoch credentialDigest resetRequestId positive)
        else raised
  | .deleteRateWindow replicaId, _ => .ran () [.drop (.rateWindow replicaId)] []
  | .settleReset replicaId resetRequestId, db =>
    updating (db.lookup (Key.replica replicaId)) fun row =>
      putting () (.replica replicaId) (row.settled resetRequestId)
  | .disableReplica replicaId, db =>
    withState db fun state =>
      updating (db.lookup (Key.replica replicaId)) fun row =>
        putting () (.replica replicaId) (row.disabled state.effectiveNow)
  | .selectPreserved userId resourceId incarnationId, db =>
    answered ((db.lookup (Key.resource resourceId)).any (fun row => row.incarnationId = incarnationId) &&
      (db.lookup Key.syncGrants).any fun table => table.allow userId resourceId)
  | .insertResource id incarnationId payload, db =>
    if (db.lookup (Key.marker id)).isSome ∨ (db.lookup (Key.resource id)).isSome ∨
        collect (resourceWith incarnationId) db ≠ [] then raised
    else putting () (.resource id) ⟨incarnationId, some payload, 1, none, by decide⟩
  | .acquireGrantWriteLock, _ => .ran () [] [(.row .syncGrants, .update)]
  | .rebuildGrants grants, db =>
    putting () .syncGrants (SyncGrants.rebuilt db
      (grants.filter fun grant => (db.lookup (Key.resource grant.resourceId)).isSome))
  | .setTime next, db =>
    withState db fun state =>
      if next < state.effectiveNow then raised
      else .ran () [.put .retentionState (state.advanced next)]
        [(.row .retentionState, .update)]
  | .setGraveyardRetention next, db =>
    if enough : days 90 ≤ next then
      updating (db.lookup Key.retentionState) fun state =>
        putting () .retentionState (state.retaining next enough)
    else raised
  | .acquireRetentionLock, _ => .ran () [] [(.named .retention, .update)]
  | .clearPayloads, db =>
    withState db fun state =>
      let cleared := collect (clearable state.effectiveNow) db
      .ran cleared.length
        (cleared.map fun entry => .put (.resource entry.1) { entry.2 with payload := none }) []
  | .selectExpired, db =>
    withState db fun state =>
      let expired := (markers db).filter fun entry => entry.2.expired state
      .ran expired [] (expired.map fun entry => (.row (.marker entry.1), .update))
  | .deleteExpired expired, db =>
    .ran (expired.filter fun entry => (db.lookup (Key.marker entry.1)).any
        fun row => row.incarnationId = entry.2.incarnationId).length
      ((expiredKeys db expired).map .drop ++ [.put .syncGrants (SyncGrants.rebuilt db
        ((grantsOf db).filter fun grant =>
          (db.lookup (Key.resource grant.resourceId)).isSome &&
            decide (Key.resource grant.resourceId ∉ expiredKeys db expired)))]) []
  | .selectNextFloor, db =>
    withState db fun state =>
      answered (((markers db).map fun entry => entry.2.deletionSequence).min?.getD
        state.nextDeletionSequence)
  | .raiseFloor next, db =>
    withState db fun state => putting () .retentionState (state.withFloor next)
  | .selectFloor, db => withState db fun state => answered state.retainedGraveyardFloor

end TraxOs.PowerSync
