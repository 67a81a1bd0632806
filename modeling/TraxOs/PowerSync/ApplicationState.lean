import TraxOs.Theory.Atomicity
import TraxOs.PowerSync.Serialization

/-!
# The application state of a client

The sidecar database that `ApplicationState` keeps beside the upload queue: overlays of
commands without an outcome, results that the user has not acknowledged, and the failed
attempts of each command. Overlays and results reserve bytes, and together with the
finalized quarantine they are bounded in number and bytes.

Each method is its statements in order. A statement that violates a constraint throws. A
method in a transaction is `atomically` around its loop, with the state that the loop had
reached when it threw; the other methods issue one statement that writes.
-/

namespace TraxOs.PowerSync

open TraxOs.Theory

section Capacity

/-- `spikeCapacityLimits`. -/
def maxOutstandingCommandsAndResults : Nat := 64

def maxSerializedOutstandingBytes : Nat := 65536

def terminalResultReservationBytes : Nat := 512

/-- What a method throws: an error of the source, or one of the database for a violated
constraint. -/
inductive StateError where
  | thrown (message : Text)
  | constraintFailed
deriving DecidableEq

/-- `throw new Error(message)`. -/
def throwing {α : Type} (message : String) : Except StateError α := .error (.thrown (ascii message))

/-- Throw an error unless a condition holds. -/
def require (condition : Bool) (message : String) : Except StateError Unit :=
  if condition then .ok () else throwing message

/-- `TerminalResultRecord`. -/
structure TerminalResultRecord where
  commandId : Text
  resourceId : Text
  state : Text
  code : Text
  previousVersion : Nat
  currentVersion : Nat
  digest : Text
  attemptNumber : Nat
deriving DecidableEq

/-- `terminalResultSerializedBytes`. -/
def terminalResultSerializedBytes (result : TerminalResultRecord) : Nat :=
  objectBytes
    [("commandId", .text result.commandId), ("resourceId", .text result.resourceId),
      ("state", .text result.state), ("code", .text result.code),
      ("previousVersion", .number result.previousVersion),
      ("currentVersion", .number result.currentVersion), ("digest", .text result.digest),
      ("attemptNumber", .number result.attemptNumber)]

/-- `reservedOutstandingBytes`. -/
def reservedOutstandingBytes (actualCommandBytes : Nat) : Except StateError Nat :=
  if actualCommandBytes < 1 ∨ maxSafeInteger < actualCommandBytes then
    throwing "Invalid command byte accounting input."
  else .ok (max actualCommandBytes terminalResultReservationBytes)

/-- A number of entries and the bytes that they reserve. -/
structure Usage where
  count : Nat
  bytes : Nat
deriving DecidableEq

/-- `assertOutstandingCapacity`. -/
def assertOutstandingCapacity (current : Usage) (addedBytes : Nat) : Except StateError Unit :=
  if maxSafeInteger < current.count ∨ maxSafeInteger < current.bytes ∨
      maxSafeInteger < addedBytes ∨ addedBytes < 1 then
    throwing "Invalid capacity accounting input."
  else if maxOutstandingCommandsAndResults < current.count + 1 then
    throwing "command_capacity_exceeded"
  else if maxSerializedOutstandingBytes < current.bytes + addedBytes then
    throwing "command_byte_capacity_exceeded"
  else .ok ()

end Capacity

section Commands

/-- The states of a finalized quarantine entry. -/
inductive QuarantineState where
  | pendingReview
  | invalidated
deriving DecidableEq

/-- `QuarantinedCommand`. -/
structure QuarantinedCommand where
  id : Text
  resourceId : Text
  resourceIncarnationId : Text
  commandType : Text
  expectedRecordVersion : Option Nat
  state : QuarantineState
  payload : Option Text
  exportable : Nat
  reservedBytes : Nat
deriving DecidableEq

/-- `QueuedCommandInput`. -/
structure QueuedCommandInput where
  commandId : Text
  type : Text
  resourceId : Text
  resourceIncarnationId : Option Text
  expectedRecordVersion : Nat
  payload : Option Text
deriving DecidableEq

/-- A command with its incarnation and its bytes, as `bindCommand` returns it. -/
structure BoundCommand where
  commandId : Text
  type : Text
  resourceId : Text
  resourceIncarnationId : Text
  expectedRecordVersion : Nat
  payload : Option Text
  actualSerializedBytes : Nat
  reservedBytes : Nat
deriving DecidableEq

/-- The bytes of the object that `bindCommand` serialises. -/
def commandBytes (commandId type resourceId resourceIncarnationId : Text)
    (expectedRecordVersion : Nat) (payload : Option Text) : Nat :=
  objectBytes
    [("commandId", .text commandId), ("type", .text type), ("resourceId", .text resourceId),
      ("resourceIncarnationId", .text resourceIncarnationId),
      ("expectedRecordVersion", .number expectedRecordVersion), ("payload", .ofText payload)]

/-- `bindCommand`, with the incarnation that the replicated resource has. -/
def bindCommand (command : QueuedCommandInput) (replicated : Option Text) :
    Except StateError BoundCommand := do
  require (1 ≤ command.expectedRecordVersion && command.expectedRecordVersion ≤ maxSafeInteger)
    "expectedRecordVersion must be a positive safe integer."
  match command.resourceIncarnationId.or replicated with
  | none => throwing "Cannot bind a command without one replicated resource incarnation."
  | some [] => throwing "Cannot bind a command without one replicated resource incarnation."
  | some resourceIncarnationId =>
    let actualSerializedBytes := commandBytes command.commandId command.type command.resourceId
      resourceIncarnationId command.expectedRecordVersion command.payload
    let reservedBytes ← reservedOutstandingBytes actualSerializedBytes
    return {
      commandId := command.commandId
      type := command.type
      resourceId := command.resourceId
      resourceIncarnationId := resourceIncarnationId
      expectedRecordVersion := command.expectedRecordVersion
      payload := command.payload
      actualSerializedBytes := actualSerializedBytes
      reservedBytes := reservedBytes }

end Commands

section Tables

/-- A row of `trax_app_command_results`. -/
structure ResultRow where
  id : Text
  resourceId : Text
  state : Text
  resultCode : Text
  previousVersion : Nat
  currentVersion : Nat
  digest : Text
  attemptNumber : Nat
  serializedBytes : Nat
  actualSerializedBytes : Nat
  sdkCompleted : Bool
deriving DecidableEq

/-- A row of `trax_app_optimistic_resources`. -/
structure OverlayRow where
  id : Text
  resourceId : Text
  resourceIncarnationId : Text
  commandType : Text
  payload : Option Text
  expectedRecordVersion : Nat
  serializedBytes : Nat
  actualSerializedBytes : Nat
deriving DecidableEq

/-- A row of `trax_app_upload_attempts`. -/
structure AttemptRow where
  id : Text
  failureCount : Nat
deriving DecidableEq

/-- The tables that the methods below read and write. -/
structure ApplicationTables where
  results : List ResultRow
  overlays : List OverlayRow
  attempts : List AttemptRow
deriving DecidableEq

namespace ApplicationTables

variable (tables : ApplicationTables)

/-- The result of a command. -/
def result (id : Text) : Option ResultRow := tables.results.find? fun row => row.id = id

/-- The overlay of a command. -/
def overlay (id : Text) : Option OverlayRow := tables.overlays.find? fun row => row.id = id

/-- INSERT INTO `trax_app_command_results`. -/
def insertResult (row : ResultRow) : Except StateError ApplicationTables :=
  if (tables.result row.id).isSome ∨ row.serializedBytes = 0 ∨ row.actualSerializedBytes = 0 then
    .error .constraintFailed
  else .ok { tables with results := tables.results ++ [row] }

/-- INSERT INTO `trax_app_optimistic_resources`. -/
def insertOverlay (row : OverlayRow) : Except StateError ApplicationTables :=
  if (tables.overlay row.id).isSome ∨ row.serializedBytes = 0 ∨ row.actualSerializedBytes = 0 then
    .error .constraintFailed
  else .ok { tables with overlays := tables.overlays ++ [row] }

/-- DELETE FROM `trax_app_optimistic_resources`, for one command. -/
def deleteOverlay (id : Text) : ApplicationTables :=
  { tables with overlays := tables.overlays.filter fun row => row.id ≠ id }

/-- DELETE FROM `trax_app_upload_attempts`, for one command. -/
def deleteAttempt (id : Text) : ApplicationTables :=
  { tables with attempts := tables.attempts.filter fun row => row.id ≠ id }

/-- UPDATE `trax_app_command_results` SET `sdk_completed=1`. -/
def completeResult (id : Text) : ApplicationTables :=
  { tables with
    results := tables.results.map fun row => if row.id = id then { row with sdkCompleted := true } else row }

/-- `hasActiveCommandId`. -/
def hasActiveCommandId (commandId : Text) : Bool :=
  (tables.result commandId).isSome || (tables.overlay commandId).isSome

/-- `capacityUsage`. -/
def capacityUsage : Usage where
  count := tables.results.length + tables.overlays.length
  bytes := (tables.results.map ResultRow.serializedBytes).sum +
    (tables.overlays.map OverlayRow.serializedBytes).sum

/-- `resultCapacityUsage`. -/
def resultCapacityUsage : Usage where
  count := tables.results.length
  bytes := (tables.results.map ResultRow.serializedBytes).sum

end ApplicationTables

end Tables

section Methods

/-- A code as it is compared: a replay reports an applied command as already applied. -/
def normalizedCode (code : Text) : Text :=
  if code = ascii "already_applied" then ascii "applied" else code

/-- The result repeats a stored one. -/
def ResultRow.compatible (existing : ResultRow) (result : TerminalResultRecord) : Bool :=
  decide (existing.resourceId = result.resourceId) && decide (existing.state = result.state) &&
    decide (normalizedCode existing.resultCode = normalizedCode result.code) &&
    decide (existing.previousVersion = result.previousVersion) &&
    decide (existing.currentVersion = result.currentVersion) &&
    decide (existing.digest = result.digest)

/-- A result as it is inserted. -/
def TerminalResultRecord.row (result : TerminalResultRecord) (reserved actual : Nat) : ResultRow where
  id := result.commandId
  resourceId := result.resourceId
  state := result.state
  resultCode := result.code
  previousVersion := result.previousVersion
  currentVersion := result.currentVersion
  digest := result.digest
  attemptNumber := result.attemptNumber
  serializedBytes := reserved
  actualSerializedBytes := actual
  sdkCompleted := false

/-- `prior?.serialized_bytes ?? reservedOutstandingBytes(actual)`. -/
def reservationAfter (prior : Option OverlayRow) (actual : Nat) : Except StateError Nat :=
  match prior with
  | some overlay => .ok overlay.serializedBytes
  | none => reservedOutstandingBytes actual

/-- One round of `persistResults`. -/
def persistResult (result : TerminalResultRecord) (tables : ApplicationTables) :
    Except StateError ApplicationTables :=
  match tables.result result.commandId with
  | some existing =>
    if existing.compatible result then
      .ok ((tables.deleteOverlay result.commandId).deleteAttempt result.commandId)
    else throwing "command_result_id_conflict"
  | none => do
    let prior := tables.overlay result.commandId
    let actual := terminalResultSerializedBytes result
    let reserved ← reservationAfter prior actual
    require (actual ≤ reserved) "terminal_result_reservation_exceeded"
    (if prior.isNone then assertOutstandingCapacity tables.capacityUsage reserved else .ok ())
    let inserted ← tables.insertResult (result.row reserved actual)
    return (inserted.deleteOverlay result.commandId).deleteAttempt result.commandId

/-- `persistResults`. -/
def persistResults (results : List TerminalResultRecord) (tables : ApplicationTables) :
    Except StateError Unit × ApplicationTables :=
  atomically (stepThrough persistResult results) tables

/-- One round of `markResultsSdkCompleted`. -/
def markResultSdkCompleted (commandId : Text) (tables : ApplicationTables) :
    Except StateError ApplicationTables :=
  match tables.result commandId with
  | none => throwing "Cannot complete a missing command result."
  | some _ => .ok (tables.completeResult commandId)

/-- `markResultsSdkCompleted`. -/
def markResultsSdkCompleted (commandIds : List Text) (tables : ApplicationTables) :
    Except StateError Unit × ApplicationTables :=
  atomically (stepThrough markResultSdkCompleted commandIds) tables

/-- A command as its overlay is inserted. -/
def BoundCommand.overlay (command : BoundCommand) : OverlayRow where
  id := command.commandId
  resourceId := command.resourceId
  resourceIncarnationId := command.resourceIncarnationId
  commandType := command.type
  payload := command.payload
  expectedRecordVersion := command.expectedRecordVersion
  serializedBytes := command.reservedBytes
  actualSerializedBytes := command.actualSerializedBytes

/-- One round of `addOverlays`, with the identifiers that the batch has inserted. -/
def addOverlay (command : BoundCommand) (state : ApplicationTables × List Text) :
    Except StateError (ApplicationTables × List Text) := do
  require (!(state.2.contains command.commandId || (state.1.result command.commandId).isSome))
    "command_id_already_active"
  let inserted ← state.1.insertOverlay command.overlay
  return (inserted, state.2 ++ [command.commandId])

/-- `addOverlays`. -/
def addOverlays (commands : List BoundCommand) (tables : ApplicationTables) :
    Except StateError (List Text) × ApplicationTables :=
  atomically (fun started =>
    let (outcome, after, inserted) := stepThrough addOverlay commands (started, [])
    (outcome.map fun _ => inserted, after)) tables

/-- `removeOverlays`. -/
def removeOverlays (commandIds : List Text) (tables : ApplicationTables) : ApplicationTables :=
  commandIds.foldl ApplicationTables.deleteOverlay tables

/-- `clearOverlays`. -/
def clearOverlays (tables : ApplicationTables) : ApplicationTables :=
  { tables with overlays := [], attempts := [] }

/-- `acknowledgeResult`. -/
def acknowledgeResult (commandId : Text) (tables : ApplicationTables) : Bool × ApplicationTables :=
  let deleted : ResultRow → Bool := fun row => decide (row.id = commandId) && row.sdkCompleted
  (decide ((tables.results.filter deleted).length = 1),
    { tables with results := tables.results.filter fun row => !deleted row })

/-- `recordTransientFailure`. -/
def recordTransientFailure (commandId : Text) (tables : ApplicationTables) :
    Except StateError Nat × ApplicationTables :=
  match tables.attempts.find? fun row => row.id = commandId with
  | none => (.ok 1, { tables with attempts := tables.attempts ++ [⟨commandId, 1⟩] })
  | some row =>
    if row.failureCount + 1 ≤ maxTransientUploadAttempts then
      (.ok (row.failureCount + 1),
        { tables with
          attempts := tables.attempts.map fun stored =>
            if stored.id = commandId then ⟨commandId, row.failureCount + 1⟩ else stored })
    else (.error .constraintFailed, tables)

/-- `finalizedQuarantineBytes`. -/
def finalizedQuarantineBytes (commands : List QuarantinedCommand) : Nat :=
  (commands.map QuarantinedCommand.reservedBytes).sum

/-- `combinedCapacityUsage`. -/
def combinedCapacityUsage (finalized : List QuarantinedCommand) (tables : ApplicationTables) :
    Usage where
  count := tables.capacityUsage.count + finalized.length
  bytes := tables.capacityUsage.bytes + finalizedQuarantineBytes finalized

/-- `queueCommands`, up to the overlay: what follows is the write to the queue, and
`removeOverlays` when that fails. -/
def queueCommands (finalized : List QuarantinedCommand) (replicated : Option Text)
    (commands : List QueuedCommandInput) (tables : ApplicationTables) :
    Except StateError (List Text) × ApplicationTables :=
  match commands with
  | [command] =>
    let admitted : Except StateError BoundCommand := do
      let bound ← bindCommand command replicated
      require (!((finalized.any fun entry => entry.id = bound.commandId) ||
        tables.hasActiveCommandId bound.commandId)) "command_id_already_active"
      assertOutstandingCapacity (combinedCapacityUsage finalized tables) bound.reservedBytes
      return bound
    match admitted with
    | .error error => (.error error, tables)
    | .ok bound => addOverlays [bound] tables
  | _ => (throwing "The M3a local transaction requires exactly one command.", tables)

end Methods

section Runs

/-- The operations of a client on its application state. -/
inductive Operation where
  | queueCommands (finalized : List QuarantinedCommand) (replicated : Option Text)
      (commands : List QueuedCommandInput)
  | removeOverlays (commandIds : List Text)
  | persistResults (results : List TerminalResultRecord)
  | markResultsSdkCompleted (commandIds : List Text)
  | acknowledgeResult (commandId : Text)
  | recordTransientFailure (commandId : Text)
  | clearOverlays
deriving DecidableEq

/-- What an operation returns. -/
inductive OperationAnswer where
  | nothing
  | inserted (commandIds : List Text)
  | deleted (found : Bool)
  | failures (count : Nat)
deriving DecidableEq

/-- Execute one operation. -/
def Operation.perform : Operation → ApplicationTables → Except StateError OperationAnswer × ApplicationTables
  | .queueCommands finalized replicated commands, tables =>
    let (outcome, after) := TraxOs.PowerSync.queueCommands finalized replicated commands tables
    (outcome.map .inserted, after)
  | .removeOverlays commandIds, tables => (.ok .nothing, TraxOs.PowerSync.removeOverlays commandIds tables)
  | .persistResults results, tables =>
    let (outcome, after) := TraxOs.PowerSync.persistResults results tables
    (outcome.map fun _ => .nothing, after)
  | .markResultsSdkCompleted commandIds, tables =>
    let (outcome, after) := TraxOs.PowerSync.markResultsSdkCompleted commandIds tables
    (outcome.map fun _ => .nothing, after)
  | .acknowledgeResult commandId, tables =>
    let (found, after) := TraxOs.PowerSync.acknowledgeResult commandId tables
    (.ok (.deleted found), after)
  | .recordTransientFailure commandId, tables =>
    let (outcome, after) := TraxOs.PowerSync.recordTransientFailure commandId tables
    (outcome.map .failures, after)
  | .clearOverlays, tables => (.ok .nothing, TraxOs.PowerSync.clearOverlays tables)

/-- The application state of a new client. -/
def ApplicationTables.empty : ApplicationTables := ⟨[], [], []⟩

/-- The state after some operations, each of which may have thrown. -/
def stateAfter (operations : List Operation) : ApplicationTables :=
  operations.foldl (fun tables operation => (operation.perform tables).2) .empty

/-- The state after one operation more. -/
theorem stateAfter_concat (operations : List Operation) (operation : Operation) :
    stateAfter (operations ++ [operation]) = (operation.perform (stateAfter operations)).2 := by
  simp [stateAfter]

end Runs

end TraxOs.PowerSync
