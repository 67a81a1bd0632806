import TraxOs.Theory.RelyGuarantee
import TraxOs.Api.StatementFacts
import TraxOs.Api.Routes

/-!
# What a commit can do

The effect of one committed request on everything but the rows of segments and
packing items: on journeys, memberships and the command ledger. Every request is
classified once, under arbitrary interference, and properties of whole runs are
inductions over the chain of classified commits.

A run is anchored at its sessions, which no request changes. It may also be anchored
at one journey: then that journey exists in its workspace from the start, nobody
deletes it, and every request comes through a route or the executor. Without a
journey every request is considered.
-/

namespace TraxOs.Api

open TraxOs.Theory

/-- The journey whose segments or packing items a route changes. -/
def Call.partsOf : Call → Option Uuid
  | .createSegment journeyId _ => some journeyId
  | .updateSegment journeyId _ _ => some journeyId
  | .reorderSegment journeyId _ _ => some journeyId
  | .deleteSegment journeyId _ => some journeyId
  | .createPacking journeyId _ => some journeyId
  | .updatePacking journeyId _ _ => some journeyId
  | .updatePackingProgress journeyId _ _ => some journeyId
  | .deletePacking journeyId _ => some journeyId
  | _ => none

/-- One use of the command executor. -/
structure CommandCall where
  commandId : Uuid
  commandType : String
  commandVersion : Nat
  payload : JourneyUpdateCommandPayload
  origin : Origin
  runtime : Runtime

/-- The use that a route makes of the executor. -/
def Call.commandCall (runtime : Runtime) : Call → Option CommandCall
  | .updateJourney journeyId command =>
    some ⟨runtime.commandId, "journey.update", 1, ⟨command, journeyId⟩, .web, runtime⟩
  | .journeyUpdateCommand command =>
    some ⟨command.commandId, "journey.update", command.commandVersion, command.payload, .web,
      runtime⟩
  | _ => none

namespace Request

/-- The route that a request runs, with its surroundings. -/
def call : Request → Option (Call × Runtime)
  | .http _ call runtime => some (call, runtime)
  | .operation _ call runtime => some (call, runtime)
  | _ => none

/-- The journey whose segments or packing items a request changes. -/
def partsOf (request : Request) : Option Uuid := request.call.bind fun entry => entry.1.partsOf

/-- The use that a request makes of the executor. -/
def commandCall : Request → Option CommandCall
  | .http _ call runtime => call.commandCall runtime
  | .operation _ call runtime => call.commandCall runtime
  | .command _ commandId commandType commandVersion payload origin runtime =>
    some ⟨commandId, commandType, commandVersion, payload, origin, runtime⟩
  | .administer _ _ _ => none

/-- The journey that a request deletes. -/
def deletes (request : Request) : Option Uuid :=
  request.call.bind fun entry =>
    match entry.1 with
    | .deleteJourney journeyId => some journeyId
    | _ => none

/-- The journey that a request creates. -/
def creates (request : Request) : Option Uuid :=
  request.call.bind fun entry =>
    match entry.1 with
    | .createJourney body => some (body.id.getD entry.2.entityId)
    | _ => none

/-- Requests that come through a route. -/
def isHttp : Request → Bool
  | .http _ _ _ => true
  | _ => false

/-- Operations that run for a context without a route's checks. -/
def isOperation : Request → Bool
  | .operation _ _ _ => true
  | _ => false

/-- The contexts that a request can act for. A route finds its context itself. -/
def actsFor (request : Request) (context : AuthContext) : Prop :=
  match request with
  | .http _ _ _ => True
  | .operation given _ _ => given = context
  | .command given _ _ _ _ _ _ => given = context
  | .administer _ _ _ => False

/-- The reply says that a command was newly applied. -/
def applies (request : Request) (reply : Reply) : Bool :=
  request.commandCall.isSome &&
    match reply with
    | .journey _ _ => true
    | .command body => !body.replayed
    | .executed execution => !execution.replayed
    | _ => false

end Request

/-- A use of the executor changes no part, and creates and deletes no journey. -/
theorem Request.command_apart (request : Request) (executes : request.commandCall.isSome = true) :
    request.partsOf = none ∧ request.creates = none ∧ request.deletes = none := by
  cases request with
  | http credentials call runtime =>
    cases call <;> simp_all [Request.partsOf, Request.creates, Request.deletes, Request.call,
      Call.partsOf, Request.commandCall, Call.commandCall]
  | operation context call runtime =>
    cases call <;> simp_all [Request.partsOf, Request.creates, Request.deletes, Request.call,
      Call.partsOf, Request.commandCall, Call.commandCall]
  | command context commandId commandType commandVersion payload origin runtime =>
    exact ⟨rfl, rfl, rfl⟩
  | administer workspaceId userId role => exact ⟨rfl, rfl, rfl⟩

/-- The creation or deletion of a journey changes no part otherwise. -/
theorem Request.journey_apart (request : Request) (journeyId : Uuid)
    (target : request.creates = some journeyId ∨ request.deletes = some journeyId) :
    request.partsOf = none := by
  cases request with
  | http credentials call runtime =>
    cases call <;> simp_all [Request.partsOf, Request.creates, Request.deletes, Request.call,
      Call.partsOf]
  | operation context call runtime =>
    cases call <;> simp_all [Request.partsOf, Request.creates, Request.deletes, Request.call,
      Call.partsOf]
  | command context commandId commandType commandVersion payload origin runtime => rfl
  | administer workspaceId userId role => rfl

/-- What a run is anchored at: the sessions by their token hashes, and possibly one
journey in its workspace. -/
structure Anchor where
  sessions : Text → Option Session
  journey : Option (Uuid × Uuid)

/-- The sessions of a database. -/
def sessionsOf (db : Database) : Text → Option Session :=
  fun tokenHash => db.lookup (Key.session tokenHash)

/-- The session that a route's request presents belongs to the actor. -/
def Request.signedBy (platform : Platform) (sessions : Text → Option Session) (request : Request)
    (context : AuthContext) : Prop :=
  match request with
  | .http credentials _ _ => ∃ session, sessions (platform.sha256 credentials.token) = some session ∧
      session.userId = context.userId
  | _ => True

/-- The actor's current role may write journeys. -/
def Authorized (db : Database) (context : AuthContext) : Prop :=
  ∃ row : Membership, db.lookup (Key.membership context.workspaceId context.userId) = some row ∧
    roleAllows row.role .journeyWrite = true

/-- A journey of a workspace counts one more change and is otherwise the same. -/
def Touched (before after : Database) (workspaceId journeyId : Uuid) : Prop :=
  ∃ (row stored : StoredJourney) (now : Timestamp),
    before.lookup (Key.journey journeyId) = some row ∧ row.1.workspaceId = workspaceId ∧
      after.lookup (Key.journey journeyId) = some stored ∧ stored.1 = row.1.touched now

/-- An applied command, with the journey row it replaced and the one it stored. -/
structure AppliedCommand where
  context : AuthContext
  call : CommandCall
  before : StoredJourney
  after : StoredJourney

namespace AppliedCommand

variable (platform : Platform) (command : AppliedCommand)

/-- The journey that the command names. -/
def journeyId : Uuid := command.call.payload.journeyId

/-- The execution that the executor reports. -/
def execution : CommandExecution where
  commandId := command.call.commandId
  commandType := "journey.update"
  commandVersion := 1
  outcome := .applied command.after.1.recordVersion command.call.runtime.changeSetId
  entityId := command.journeyId
  replayed := false
  journey := some (journeyResponse command.journeyId command.after.1)

/-- The digest of the command. -/
def digest : Text :=
  commandDigestV1 platform command.call.commandId command.call.commandType
    command.call.commandVersion command.call.payload

/-- Its receipt. -/
def receipt : CommandReceipt :=
  commandReceipt command.execution (command.digest platform) (command.call.runtime.clock 2)

/-- Its change set. -/
def changeSet : CommandChangeSet :=
  changeSetRow command.context command.execution command.call.origin .full
    (command.call.runtime.clock 2)

/-- Its change event, with the exact rows before and after. -/
def changeEvent : CommandChangeEvent :=
  changeEventRow command.context command.call.runtime.changeSetId command.execution
    ⟨journeyResponse command.journeyId command.before.1,
      journeyResponse command.journeyId command.after.1⟩ (command.call.runtime.clock 2)

/-- The key of its receipt. -/
abbrev receiptKey : Key :=
  .receipt command.context.workspaceId command.context.userId command.call.commandId

/-- The commit of the command: one compare-and-swap and the three rows that record
it, none of which existed before. -/
structure Explains (request : Request) (before after : Database) : Prop where
  executes : request.commandCall = some command.call
  acts : request.actsFor command.context
  authorized : Authorized before command.context
  journeyBefore : before.lookup (Key.journey command.journeyId) = some command.before
  inWorkspace : command.before.1.workspaceId = command.context.workspaceId
  expected : command.before.1.recordVersion = command.call.payload.expectedRecordVersion
  revised : command.after.1 =
    command.before.1.revised (journeyValues command.call.payload.toJourneyUpdate)
      (command.call.runtime.clock 1)
  journeyAfter : after.lookup (Key.journey command.journeyId) = some command.after
  receiptFree : before.lookup command.receiptKey = none
  receiptWritten : after.lookup (Key.receipt command.context.workspaceId command.context.userId
    command.call.commandId) = some (command.receipt platform)
  changeSetFree : before.lookup (Key.changeSet command.call.runtime.changeSetId) = none
  changeSetWritten : after.lookup (Key.changeSet command.call.runtime.changeSetId) =
    some command.changeSet
  changeEventFree : before.lookup (Key.changeEvent command.call.runtime.eventId) = none
  changeEventWritten : after.lookup (Key.changeEvent command.call.runtime.eventId) =
    some command.changeEvent
  spared : ∀ key, key ≠ Key.journey command.journeyId → key ≠ command.receiptKey →
    key ≠ Key.changeSet command.call.runtime.changeSetId →
      key ≠ Key.changeEvent command.call.runtime.eventId → after.lookup key = before.lookup key

end AppliedCommand

/-- A command that was refused for good, with the outcome it recorded. -/
structure RejectedCommand where
  context : AuthContext
  call : CommandCall
  outcome : CommandOutcome

namespace RejectedCommand

variable (platform : Platform) (command : RejectedCommand)

/-- Its terminal receipt. -/
def receipt : CommandReceipt where
  commandType := "journey.update"
  commandVersion := 1
  digestVersion := 1
  requestDigest := commandDigestV1 platform command.call.commandId command.call.commandType
    command.call.commandVersion command.call.payload
  outcome := command.outcome
  entityType := "journey"
  entityId := command.call.payload.journeyId
  createdAt := command.call.runtime.clock 2

/-- The key of its receipt. -/
abbrev receiptKey : Key :=
  .receipt command.context.workspaceId command.context.userId command.call.commandId

/-- The commit of the refusal: its receipt and nothing else. -/
structure Explains (request : Request) (before after : Database) : Prop where
  executes : request.commandCall = some command.call
  acts : request.actsFor command.context
  authorized : Authorized before command.context
  terminal : command.outcome = .versionConflict ∨ command.outcome = .resourceNotFound
  receiptFree : before.lookup command.receiptKey = none
  receiptWritten : after.lookup (Key.receipt command.context.workspaceId command.context.userId
    command.call.commandId) = some (command.receipt platform)
  spared : ∀ key, key ≠ command.receiptKey → after.lookup key = before.lookup key

end RejectedCommand

/-- The classification of commits. -/
inductive Committed (platform : Platform) (anchor : Anchor) (request : Request) (reply : Reply)
    (before after : Database) : Prop where
  | quiet (unchanged : after = before) (noParts : request.partsOf = none)
      (notApplied : request.applies reply = false)
  | changedParts (context : AuthContext) (journeyId : Uuid)
      (target : request.partsOf = some journeyId) (acts : request.actsFor context)
      (signed : request.signedBy platform anchor.sessions context)
      (authorized : request.isHttp = true → Authorized before context)
      (spared : ∀ key, key.isPart = false → key ≠ Key.journey journeyId →
        after.lookup key = before.lookup key)
      (touched : Touched before after context.workspaceId journeyId ∨
        ((∀ workspaceId, anchor.journey ≠ some (journeyId, workspaceId)) ∧
          after.lookup (Key.journey journeyId) = before.lookup (Key.journey journeyId)))
  | created (context : AuthContext) (journeyId : Uuid) (stored : StoredJourney)
      (creates : request.creates = some journeyId) (acts : request.actsFor context)
      (signed : request.signedBy platform anchor.sessions context)
      (authorized : request.isHttp = true → Authorized before context)
      (free : before.lookup (Key.journey journeyId) = none)
      (written : after.lookup (Key.journey journeyId) = some stored)
      (fresh : stored.1.recordVersion = 1)
      (inWorkspace : stored.1.workspaceId = context.workspaceId)
      (spared : ∀ key, key ≠ Key.journey journeyId → after.lookup key = before.lookup key)
  | deleted (context : AuthContext) (journeyId : Uuid) (row : StoredJourney)
      (deletes : request.deletes = some journeyId) (acts : request.actsFor context)
      (signed : request.signedBy platform anchor.sessions context)
      (authorized : request.isHttp = true → Authorized before context)
      (found : before.lookup (Key.journey journeyId) = some row)
      (inWorkspace : row.1.workspaceId = context.workspaceId)
      (gone : after.lookup (Key.journey journeyId) = none)
      (spared : ∀ key, key.isPart = false → key ≠ Key.journey journeyId →
        after.lookup key = before.lookup key)
  | applied (command : AppliedCommand) (explained : command.Explains platform request before after)
      (signed : request.signedBy platform anchor.sessions command.context)
      (told : request.applies reply = true)
  | rejected (command : RejectedCommand)
      (explained : command.Explains platform request before after)
      (signed : request.signedBy platform anchor.sessions command.context)
      (notApplied : request.applies reply = false)
  | administered (workspaceId userId : Uuid) (role : Option Role)
      (administers : request = .administer workspaceId userId role)
      (written : after.lookup (Key.membership workspaceId userId) = role.map Membership.mk)
      (spared : ∀ key, key ≠ Key.membership workspaceId userId →
        after.lookup key = before.lookup key)

end TraxOs.Api
