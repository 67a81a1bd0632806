import TraxOs.PowerSync.Statements

/-!
# The command server

The transactions of `command-server.ts`, and beside them the other users of the
same tables: the retention job, the test clock, whoever changes resources, grants
and replicas from outside. A request stands for one transaction. It has passed
authentication, `credentialFrom` and the parsing of its body; a command request
is two transactions, one for the rate window and one for the command.

A refusal that the source answers after ROLLBACK is a failure of the program; the
other refusals are replies of a transaction that wrote nothing.
-/

namespace TraxOs.PowerSync

open TraxOs.Theory

/-- A program over the statements. -/
abbrev Action (α : Type) := Program Op Res Failure α

/-- `ReplicaSessionResponse`. -/
structure ReplicaSession where
  replicaId : Uuid
  replicaEpoch : Nat
  credential : Text
deriving DecidableEq

/-- The replies of committed transactions. -/
inductive Reply where
  | invalidReplica
  | accepted
  | results (status : Nat) (result : SpikeCommandResult)
  | registered (session : ReplicaSession)
  | replicaLimitReached
  | challenged (challengeId : Uuid) (targetSequence : Nat) (expiresAt : Timestamp)
  | checkpointAckRejected
  | acknowledged
  | replicaNotStale
  | reset (session : ReplicaSession)
  | resetAcknowledged
  | classified (preserve : Bool)
  | retained (payloadsCleared markersPurged retainedFloor : Nat)
  | done
deriving DecidableEq

/-- Roll the transaction back and answer with a refusal. -/
def rollBack {α : Type} (refusal : Refusal) : Action α := .fail (.rolledBack refusal)

/-- `lockReplica`. -/
def lockReplica (platform : Platform) (userId : Uuid) (binding : ReplicaBinding) (credential : Text) :
    Action (Option LockedReplica) := do
  let found ← Program.ask (Op.lockReplica binding.replicaId)
  match found with
  | none => pure none
  | some locked =>
    if locked.row.userId ≠ userId ∨ locked.row.disabledAt ≠ none ∨
        locked.row.replicaEpoch ≠ binding.replicaEpoch ∨
          locked.row.credentialDigest ≠ platform.sha256 credential then pure none
    else pure (some locked)

/-- `consumeCommandRateWindow`. -/
def consumeCommandRateWindow (platform : Platform) (userId : Uuid) (binding : ReplicaBinding)
    (credential : Text) : Action Reply := do
  let replica ← lockReplica platform userId binding credential
  match replica with
  | none => rollBack .invalidReplica
  | some locked =>
    if locked.stale then rollBack .replicaResetRequired
    else do
      let count ← Program.ask (Op.countRequest binding.replicaId binding.replicaEpoch)
      match count with
      | none => rollBack .commandRateLimited
      | some _ => pure .accepted

/-- `resultFromReceipt`. -/
def resultFromReceipt (commandId : Uuid) (row : Receipt) (attemptNumber : Nat) (replay : Bool) :
    SpikeCommandResult where
  commandId := commandId
  resourceId := row.resourceId
  digest := row.digest
  state := row.resultState
  code := if replay ∧ row.resultCode = .applied then .alreadyApplied else row.resultCode
  previousVersion := row.previousVersion
  currentVersion := row.currentVersion
  attemptNumber := attemptNumber

/-- `deniedResultFromDurableReceipt`. -/
def deniedResultFromDurableReceipt (commandId : Uuid) (row : Receipt) (attemptNumber : Nat) :
    SpikeCommandResult where
  commandId := commandId
  resourceId := row.resourceId
  digest := row.digest
  state := .denied
  code := .commandDenied
  previousVersion := row.previousVersion
  currentVersion := row.currentVersion
  attemptNumber := attemptNumber

/-- The receipt records exactly this command of this replica. -/
def Receipt.binds (platform : Platform) (row : Receipt) (binding : ReplicaBinding)
    (command : SpikeCommand) : Bool :=
  decide (row.replicaId = binding.replicaId) && decide (row.replicaEpoch = binding.replicaEpoch) &&
    decide (row.resourceId = command.resourceId) &&
      decide (row.digest = commandDigest platform command binding)

/-- A receipt as the server inserts it. -/
def receiptOf (platform : Platform) (binding : ReplicaBinding) (command : SpikeCommand)
    (state : ResultState) (code : ResultCode) (currentVersion : Nat) : Receipt where
  replicaId := binding.replicaId
  replicaEpoch := binding.replicaEpoch
  resourceId := command.resourceId
  digest := commandDigest platform command binding
  resultState := state
  resultCode := code
  previousVersion := command.expectedRecordVersion
  currentVersion := currentVersion

/-- The branch of `executeCommands` for a user without an active grant. -/
def denyCommand (platform : Platform) (userId : Uuid) (binding : ReplicaBinding)
    (command : SpikeCommand) (attemptNumber : Nat) : Action Reply := do
  let receipt ← Program.ask (Op.selectReceipt userId command.commandId)
  match receipt with
  | some row =>
    if row.binds platform binding command then
      pure (.results 403 (deniedResultFromDurableReceipt command.commandId row attemptNumber))
    else rollBack .idempotencyConflict
  | none => do
    Program.ask (Op.insertReceiptOrNothing userId command.commandId
      (receiptOf platform binding command .denied .commandDenied command.expectedRecordVersion))
    let stored ← Program.ask (Op.selectReceipt userId command.commandId)
    match stored with
    | some row =>
      if row.binds platform binding command then
        pure (.results 403 (deniedResultFromDurableReceipt command.commandId row attemptNumber))
      else rollBack .idempotencyConflict
    | none => rollBack .idempotencyConflict

/-- The branch of `executeCommands` for a command whose target was changed, deleted
or replaced since the command was made. -/
def refuseCommand (platform : Platform) (userId : Uuid) (binding : ReplicaBinding)
    (command : SpikeCommand) (attemptNumber : Nat) (code : ResultCode) (currentVersion : Nat) :
    Action Reply := do
  let receipt := receiptOf platform binding command .conflict code currentVersion
  Program.ask (Op.insertReceipt userId command.commandId receipt)
  pure (.results 200 (resultFromReceipt command.commandId receipt attemptNumber false))

/-- The UPDATE of a command. A soft delete evaluates `ps8_now()` before its trigger
allocates the marker. -/
def updateTarget (command : SpikeCommand) (currentVersion : Nat) : Action Unit :=
  match command.kind with
  | .update payload => Program.ask (Op.updateResource command.resourceId payload currentVersion)
  | .softDelete => do
    let evaluated ← Program.ask (Op.evaluateSoftDelete command.resourceId)
    match evaluated with
    | none => pure ()
    | some (now, _) => Program.ask (Op.writeSoftDelete command.resourceId currentVersion now)

/-- The branch of `executeCommands` that applies the command. -/
def applyCommand (platform : Platform) (userId : Uuid) (binding : ReplicaBinding)
    (command : SpikeCommand) (attemptNumber : Nat) (eventId : Uuid) : Action Reply := do
  let currentVersion := command.expectedRecordVersion + 1
  updateTarget command currentVersion
  Program.ask (Op.insertChangeEvent eventId userId command.commandId command.resourceId 0
    command.kind.type currentVersion)
  let receipt := receiptOf platform binding command .applied .applied currentVersion
  Program.ask (Op.insertReceipt userId command.commandId receipt)
  pure (.results 200 (resultFromReceipt command.commandId receipt attemptNumber false))

/-- The branch of `executeCommands` for a user with an active grant. -/
def settleCommand (platform : Platform) (userId : Uuid) (binding : ReplicaBinding)
    (command : SpikeCommand) (attemptNumber : Nat) (eventId : Uuid) : Action Reply := do
  let found ← Program.ask (Op.lockResource command.resourceId)
  match found with
  | none => rollBack .commandDenied
  | some resource => do
    let receipt ← Program.ask (Op.selectReceipt userId command.commandId)
    match receipt with
    | some row =>
      if row.binds platform binding command then
        pure (.results 200 (resultFromReceipt command.commandId row attemptNumber true))
      else rollBack .idempotencyConflict
    | none =>
      if resource.incarnationId ≠ command.resourceIncarnationId then
        refuseCommand platform userId binding command attemptNumber .staleIncarnation resource.version
      else if resource.deletedAt ≠ none ∨ resource.version ≠ command.expectedRecordVersion then
        refuseCommand platform userId binding command attemptNumber .optimisticConflict resource.version
      else applyCommand platform userId binding command attemptNumber eventId

/-- `executeCommands`, for the one command that an envelope carries. -/
def executeCommands (platform : Platform) (userId : Uuid) (binding : ReplicaBinding)
    (credential : Text) (command : SpikeCommand) (attemptNumber : Nat) (eventId : Uuid) :
    Action Reply := do
  let replica ← lockReplica platform userId binding credential
  match replica with
  | none => rollBack .invalidReplica
  | some _ => do
    Program.ask Op.acquireGrantReadLock
    let stale ← Program.ask (Op.refreshReplica binding.replicaId)
    if stale then rollBack .replicaResetRequired
    else do
      let hasActiveGrant ← Program.ask (Op.selectActiveGrant userId command.resourceId)
      if hasActiveGrant then settleCommand platform userId binding command attemptNumber eventId
      else denyCommand platform userId binding command attemptNumber

/-- `maxReplicasPerUser`. -/
def maxReplicasPerUser : Nat := 16

/-- `POST /spike/replicas/register`, with the identifier and the credential drawn. -/
def registerReplica (platform : Platform) (userId replicaId : Uuid) (credential : Text) :
    Action Reply := do
  Program.ask (Op.lockRegistration userId)
  let count ← Program.ask (Op.countReplicas userId)
  if maxReplicasPerUser ≤ count then pure .replicaLimitReached
  else do
    Program.ask (Op.insertReplica replicaId userId (platform.sha256 credential))
    pure (.registered ⟨replicaId, 1, credential⟩)

/-- A JavaScript date holds milliseconds. -/
def jsDate (time : Timestamp) : Timestamp := time / 1000 * 1000

/-- The row that a challenge inserts. -/
def challengeRow (binding : ReplicaBinding) (locked : LockedReplica) : Challenge where
  replicaId := binding.replicaId
  replicaEpoch := binding.replicaEpoch
  targetSequence := locked.nextDeletionSequence
  issuedAt := jsDate locked.effectiveNow
  expiresAt := jsDate locked.effectiveNow + minutes 5
  acknowledgedAt := none
  expires := Nat.lt_add_of_pos_right (by decide)

/-- `POST /spike/replicas/challenge`. -/
def issueChallenge (platform : Platform) (userId : Uuid) (binding : ReplicaBinding)
    (credential : Text) (challengeId : Uuid) : Action Reply := do
  let replica ← lockReplica platform userId binding credential
  match replica with
  | none => pure .invalidReplica
  | some locked => do
    Program.ask (Op.deleteChallenges binding.replicaId)
    let row := challengeRow binding locked
    Program.ask (Op.insertChallenge challengeId row)
    pure (.challenged challengeId row.targetSequence row.expiresAt)

/-- `/^[0-9a-f-]{36}$/`. -/
def challengeIdShape (text : Text) : Bool :=
  matchesAll (List.replicate 36 fun unit => hexadecimal unit || unit == 45) text

/-- `POST /spike/replicas/ack`. -/
def acknowledgeChallenge (platform : Platform) (userId : Uuid) (binding : ReplicaBinding)
    (credential : Text) (challengeId : Text) : Action Reply := do
  let replica ← lockReplica platform userId binding credential
  match replica with
  | none => pure .invalidReplica
  | some _ =>
    if challengeIdShape challengeId then do
      let target ← Program.ask
        (Op.acknowledgeChallenge challengeId binding.replicaId binding.replicaEpoch)
      match target with
      | none => pure .checkpointAckRejected
      | some sequence => do
        Program.ask (Op.recordAcknowledgement binding.replicaId sequence)
        pure .acknowledged
    else pure .invalidReplica

/-- The session that a reset request of a replica leads to. -/
def nextSession (platform : Platform) (binding : ReplicaBinding) (resetRequestId : Uuid) :
    ReplicaSession where
  replicaId := binding.replicaId
  replicaEpoch := binding.replicaEpoch + 1
  credential := rotatedCredential platform binding.replicaId resetRequestId (binding.replicaEpoch + 1)

/-- The request repeats the reset that is staged on the row, with the credential that
the reset replaced. -/
def Replica.repeatsReset (platform : Platform) (row : Replica) (binding : ReplicaBinding)
    (credential : Text) (resetRequestId : Uuid) : Bool :=
  decide (row.replicaEpoch = binding.replicaEpoch + 1) &&
    decide (row.stagedResetRequestId = some resetRequestId) &&
    decide (row.previousCredentialDigest = some (platform.sha256 credential)) &&
    decide (row.credentialDigest =
      platform.sha256 (nextSession platform binding resetRequestId).credential)

/-- `POST /spike/replicas/reset`. -/
def resetReplica (platform : Platform) (userId : Uuid) (binding : ReplicaBinding) (credential : Text)
    (resetRequestId : Text) : Action Reply :=
  if isVersion4Uuid resetRequestId then do
    let found ← Program.ask (Op.lockReplica binding.replicaId)
    match found with
    | none => pure .invalidReplica
    | some locked =>
      let session := nextSession platform binding resetRequestId
      if locked.row.userId ≠ userId ∨ locked.row.disabledAt ≠ none then pure .invalidReplica
      else if locked.row.repeatsReset platform binding credential resetRequestId then
        pure (.reset session)
      else if locked.row.replicaEpoch ≠ binding.replicaEpoch ∨
          locked.row.credentialDigest ≠ platform.sha256 credential then pure .invalidReplica
      else if locked.stale then do
        Program.ask (Op.rotateReplica binding.replicaId session.replicaEpoch
          (platform.sha256 session.credential) resetRequestId)
        Program.ask (Op.deleteRateWindow binding.replicaId)
        pure (.reset session)
      else pure .replicaNotStale
  else pure .invalidReplica

/-- `POST /spike/replicas/reset/ack`. -/
def acknowledgeReset (platform : Platform) (userId : Uuid) (binding : ReplicaBinding)
    (credential : Text) (resetRequestId : Text) : Action Reply :=
  if isVersion4Uuid resetRequestId then do
    let replica ← lockReplica platform userId binding credential
    match replica with
    | none => pure .invalidReplica
    | some locked =>
      if locked.row.lastAcknowledgedResetRequestId = some resetRequestId ∧
          locked.row.previousCredentialDigest = none then pure .resetAcknowledged
      else if locked.row.stagedResetRequestId ≠ some resetRequestId ∨
          locked.row.previousCredentialDigest = none then pure .invalidReplica
      else do
        Program.ask (Op.settleReset binding.replicaId resetRequestId)
        pure .resetAcknowledged
  else pure .invalidReplica

/-- `POST /spike/replicas/classify`. -/
def classifyResource (platform : Platform) (userId : Uuid) (binding : ReplicaBinding)
    (credential : Text) (resourceId incarnationId : Uuid) : Action Reply := do
  let replica ← lockReplica platform userId binding credential
  match replica with
  | none => pure .invalidReplica
  | some _ => do
    Program.ask Op.acquireGrantReadLock
    let preserve ← Program.ask (Op.selectPreserved userId resourceId incarnationId)
    pure (.classified preserve)

/-- `ps8_run_retention`. -/
def runRetention : Action Reply := do
  Program.ask Op.acquireGrantWriteLock
  Program.ask Op.acquireRetentionLock
  let cleared ← Program.ask Op.clearPayloads
  let expired ← Program.ask Op.selectExpired
  let purged ← Program.ask (Op.deleteExpired expired)
  if 0 < purged then do
    let next ← Program.ask Op.selectNextFloor
    Program.ask (Op.raiseFloor next)
  else pure ()
  let floor ← Program.ask Op.selectFloor
  pure (.retained cleared purged floor)

/-- An UPDATE that soft-deletes a resource without a command, as a limited writer
issues it. -/
def softDelete (id : Uuid) : Action Reply := do
  let evaluated ← Program.ask (Op.evaluateSoftDelete id)
  match evaluated with
  | none => pure .done
  | some (now, version) => do
    Program.ask (Op.writeSoftDelete id (version + 1) now)
    pure .done

/-- An INSERT of a resource, with the rebuild of the grants that it triggers. -/
def createResource (id incarnationId : Uuid) (payload : Text) (grants : List Grant) :
    Action Reply := do
  Program.ask (Op.insertResource id incarnationId payload)
  Program.ask Op.acquireGrantWriteLock
  Program.ask (Op.rebuildGrants grants)
  pure .done

/-- `refresh_sync_grants`, after a change of users or memberships. -/
def refreshSyncGrants (grants : List Grant) : Action Reply := do
  Program.ask Op.acquireGrantWriteLock
  Program.ask (Op.rebuildGrants grants)
  pure .done

/-- Everything that runs against the database. -/
inductive Request where
  | rateWindow (userId : Uuid) (binding : ReplicaBinding) (credential : Text)
  | command (userId : Uuid) (binding : ReplicaBinding) (credential : Text) (command : SpikeCommand)
      (attemptNumber : Nat) (eventId : Uuid)
  | register (userId replicaId : Uuid) (credential : Text)
  | challenge (userId : Uuid) (binding : ReplicaBinding) (credential : Text) (challengeId : Uuid)
  | acknowledge (userId : Uuid) (binding : ReplicaBinding) (credential : Text) (challengeId : Text)
  | reset (userId : Uuid) (binding : ReplicaBinding) (credential : Text) (resetRequestId : Text)
  | acknowledgeReset (userId : Uuid) (binding : ReplicaBinding) (credential : Text)
      (resetRequestId : Text)
  | classify (userId : Uuid) (binding : ReplicaBinding) (credential : Text)
      (resourceId incarnationId : Uuid)
  | disable (replicaId : Uuid)
  | createResource (id incarnationId : Uuid) (payload : Text) (grants : List Grant)
  | refreshGrants (grants : List Grant)
  | softDelete (id : Uuid)
  | setTime (next : Timestamp)
  | setGraveyardRetention (next : Interval)
  | runRetention

/-- The program of each request. -/
def program (platform : Platform) : Request → Action Reply
  | .rateWindow userId binding credential =>
    consumeCommandRateWindow platform userId binding credential
  | .command userId binding credential command attemptNumber eventId =>
    executeCommands platform userId binding credential command attemptNumber eventId
  | .register userId replicaId credential => registerReplica platform userId replicaId credential
  | .challenge userId binding credential challengeId =>
    issueChallenge platform userId binding credential challengeId
  | .acknowledge userId binding credential challengeId =>
    acknowledgeChallenge platform userId binding credential challengeId
  | .reset userId binding credential resetRequestId =>
    resetReplica platform userId binding credential resetRequestId
  | .acknowledgeReset userId binding credential resetRequestId =>
    acknowledgeReset platform userId binding credential resetRequestId
  | .classify userId binding credential resourceId incarnationId =>
    classifyResource platform userId binding credential resourceId incarnationId
  | .disable replicaId => do
    Program.ask (Op.disableReplica replicaId)
    pure .done
  | .createResource id incarnationId payload grants =>
    createResource id incarnationId payload grants
  | .refreshGrants grants => refreshSyncGrants grants
  | .softDelete id => softDelete id
  | .setTime next => do
    Program.ask (Op.setTime next)
    pure .done
  | .setGraveyardRetention next => do
    Program.ask (Op.setGraveyardRetention next)
    pure .done
  | .runRetention => runRetention

/-- The command service over its database. Nothing is ever stale: its requests rely
on their locks alone. -/
def commandServer (platform : Platform) : Service Name Row Res Failure Request Reply where
  execute := execute
  program := program platform
  current _ _ _ _ := true

end TraxOs.PowerSync
