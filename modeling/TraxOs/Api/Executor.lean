import TraxOs.Api.Repository

/-!
# The command executor

`CommandExecutor.execute_journey_update` as one unit of work: authority first,
then the advisory lock of the command, then its receipt, and only then the
journey. A refused update still completes; its terminal receipt is committed and
the refusal is raised afterwards.
-/

namespace TraxOs.Api

open TraxOs.Theory

/-- `authorize_permission`. -/
def authorizePermission (context : AuthContext) (permission : Permission) : Action Unit := do
  match ← Program.ask (Op.lockMembership context.scope) with
  | none => raise journeyWriteForbidden
  | some role => if roleAllows role permission then pure () else raise journeyWriteForbidden

/-- `CommandExecution`. -/
structure CommandExecution where
  commandId : Uuid
  commandType : String
  commandVersion : Nat
  outcome : CommandOutcome
  entityId : Uuid
  replayed : Bool
  journey : Option JourneyResponse
deriving DecidableEq

/-- The receipt that binds a command identifier to its content and outcome. -/
def commandReceipt (execution : CommandExecution) (requestDigest : Text) (now : Timestamp) :
    CommandReceipt where
  commandType := execution.commandType
  commandVersion := execution.commandVersion
  digestVersion := 1
  requestDigest := requestDigest
  outcome := execution.outcome
  entityType := "journey"
  entityId := execution.entityId
  createdAt := now

/-- `_replay_or_conflict`. -/
def replayOrConflict (prior : CommandReceipt) (commandId : Uuid) (commandType : String)
    (commandVersion : Nat) (requestDigest : Text) (entityId : Uuid) : Action CommandExecution :=
  if prior.commandType = commandType ∧ prior.commandVersion = commandVersion ∧
      prior.digestVersion = 1 ∧ prior.requestDigest = requestDigest ∧
        prior.entityType = "journey" ∧ prior.entityId = entityId then
    pure
      { commandId := commandId
        commandType := commandType
        commandVersion := commandVersion
        outcome := prior.outcome
        entityId := entityId
        replayed := true
        journey := none }
  else raise idempotencyConflict

section Executor

variable (platform : Platform) (context : AuthContext) (runtime : Runtime)

/-- `_write_terminal_receipt`. -/
def writeTerminalReceipt (execution : CommandExecution) (requestDigest : Text) : Action Unit :=
  Program.ask (Op.insertReceipt context.scope execution.commandId
    (commandReceipt execution requestDigest (runtime.clock 2)))

/-- The change set of an applied command. -/
def changeSetRow (execution : CommandExecution) (origin : Origin) (reversibility : Reversibility)
    (now : Timestamp) : CommandChangeSet where
  workspaceId := context.workspaceId
  actorUserId := context.userId
  commandId := execution.commandId
  commandType := execution.commandType
  commandVersion := execution.commandVersion
  origin := origin
  reversibility := reversibility
  entityType := "journey"
  entityId := execution.entityId
  createdAt := now

/-- The only event of an applied command. -/
def changeEventRow (changeSetId : Uuid) (execution : CommandExecution)
    (mutation : JourneyUpdateMutation) (now : Timestamp) : CommandChangeEvent where
  changeSetId := changeSetId
  workspaceId := context.workspaceId
  actorUserId := context.userId
  sequence := 1
  entityType := "journey"
  entityId := execution.entityId
  action := "updated"
  beforeState := mutation.before
  afterState := mutation.after
  createdAt := now

/-- `write_applied_audit` for the change set that the execution names. -/
def writeAppliedAudit (changeSetId : Uuid) (execution : CommandExecution)
    (mutation : JourneyUpdateMutation) (requestDigest : Text) (origin : Origin)
    (reversibility : Reversibility) : Action Unit := do
  let now := runtime.clock 2
  Program.ask (Op.insertChangeSet context.scope changeSetId
    (changeSetRow context execution origin reversibility now))
  Program.ask (Op.insertChangeEvent context.scope runtime.eventId
    (changeEventRow context changeSetId execution mutation now))
  Program.ask (Op.insertReceipt context.scope execution.commandId
    (commandReceipt execution requestDigest now))

/-- The terminal outcome that an error of `apply_journey_update` leads to, if it
leads to one. -/
def terminalOutcome (failure : Failure) : Option CommandOutcome :=
  match failure with
  | .application error =>
    if error.code = "version_conflict" then some .versionConflict
    else if error.code = "resource_not_found" then some .resourceNotFound
    else none
  | _ => none

/-- The part of `operation` that follows when no receipt was found. -/
def executeFresh (commandId : Uuid) (definition : CommandDefinition)
    (payload : JourneyUpdateCommandPayload) (requestDigest : Text) (origin : Origin) :
    Action CommandExecution := do
  match ← (applyJourneyUpdate context runtime payload.journeyId payload.toJourneyUpdate).attempt with
  | .error failure =>
    match terminalOutcome failure with
    | none => .fail failure
    | some outcome =>
      let terminal : CommandExecution :=
        { commandId := commandId
          commandType := definition.commandType
          commandVersion := definition.version
          outcome := outcome
          entityId := payload.journeyId
          replayed := false
          journey := none }
      writeTerminalReceipt context runtime terminal requestDigest
      pure terminal
  | .ok mutation =>
    let execution : CommandExecution :=
      { commandId := commandId
        commandType := definition.commandType
        commandVersion := definition.version
        outcome := .applied mutation.after.recordVersion runtime.changeSetId
        entityId := payload.journeyId
        replayed := false
        journey := some mutation.after }
    writeAppliedAudit context runtime runtime.changeSetId execution mutation requestDigest origin
      definition.reversibility
    pure execution

/-- `operation` of `execute_journey_update`. -/
def operation (commandId : Uuid) (commandType : String) (commandVersion : Nat)
    (definition : CommandDefinition) (payload : JourneyUpdateCommandPayload) (origin : Origin) :
    Action CommandExecution := do
  let requestDigest := commandDigestV1 platform commandId commandType commandVersion payload
  authorizePermission context definition.permission
  Program.ask (Op.lockCommand context.scope commandId)
  match ← Program.ask (Op.selectReceipt context.scope commandId) with
  | some prior =>
    replayOrConflict prior commandId commandType commandVersion requestDigest payload.journeyId
  | none => executeFresh context runtime commandId definition payload requestDigest origin

/-- What `execute_journey_update` raises after its unit of work has committed. -/
def raisedAfterCommit : CommandOutcome → Option ApplicationError
  | .applied _ _ => none
  | .versionConflict => some journeyConflict
  | .resourceNotFound => some resourceNotFound

/-- `execute_journey_update`. An error in the result is raised after the commit. -/
def executeJourneyUpdate (commandId : Uuid) (commandType : String) (commandVersion : Nat)
    (payload : JourneyUpdateCommandPayload) (origin : Origin) :
    Action (Except ApplicationError CommandExecution) :=
  match resolveCommand commandType commandVersion with
  | .error error => raise error
  | .ok definition => do
    let result ← operation platform context runtime commandId commandType commandVersion definition
      payload origin
    match raisedAfterCommit result.outcome with
    | some error => pure (.error error)
    | none => pure (.ok result)

end Executor

end TraxOs.Api
