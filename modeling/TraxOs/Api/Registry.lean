import TraxOs.Theory.Json
import TraxOs.Api.Schema

/-!
# Application errors, command registry and digest

The stable errors of the API, the immutable registry of commands with the role
policy, and the digest that binds a command identifier to its content. SHA-256 is
not modelled: it is one of the functions of the platform that the server runs on.
The collation by which the database orders packing labels is another.

A failure is either an application error or one of PostgreSQL's refusals. Every
refusal of the database reaches the client as `internal_error`.
-/

namespace TraxOs.Api

open TraxOs.Theory

/-- The functions that the server takes from its platform. -/
structure Platform where
  sha256 : Text → Text
  collate : Text → Text → Bool

/-- `ApplicationError`: a public outcome with a stable status and code. -/
structure ApplicationError where
  statusCode : Nat
  code : String
  message : String
deriving DecidableEq, Repr

/-- Why PostgreSQL refuses a statement. -/
inductive DatabaseError where
  | uniqueViolation
  | foreignKeyViolation
  | valueRejected
  | rowSecurityViolation
deriving DecidableEq, Repr

/-- Why a request ends without a commit. The last two stand for the Python
exceptions that no handler expects: a list without the element to remove, and a
stored row that the response model rejects. -/
inductive Failure where
  | application (error : ApplicationError)
  | database (error : DatabaseError)
  | valueError
  | validationError
deriving DecidableEq, Repr

/-- `unexpected_exception_handler`. -/
def internalError : ApplicationError :=
  ⟨500, "internal_error", "An unexpected error occurred."⟩

/-- What the client is told about a failure. -/
def Failure.response : Failure → ApplicationError
  | .application error => error
  | .database _ => internalError
  | .valueError => internalError
  | .validationError => internalError

/-- `authenticate`. -/
def authenticationRequired : ApplicationError :=
  ⟨401, "authentication_required", "Authentication is required."⟩

/-- `require_csrf`. -/
def csrfFailed : ApplicationError :=
  ⟨403, "csrf_failed", "The request could not be verified."⟩

/-- `authorize_permission`. -/
def journeyWriteForbidden : ApplicationError :=
  ⟨403, "journey_write_forbidden", "You do not have permission to change this journey."⟩

/-- `not_found`. -/
def resourceNotFound : ApplicationError :=
  ⟨404, "resource_not_found", "Resource not found."⟩

/-- The version conflict of a journey. -/
def journeyConflict : ApplicationError :=
  ⟨409, "version_conflict", "The Journey changed; reload it."⟩

/-- The version conflict of a segment. -/
def segmentConflict : ApplicationError :=
  ⟨409, "version_conflict", "The route item changed; reload it."⟩

/-- The version conflict of a packing item. -/
def packingConflict : ApplicationError :=
  ⟨409, "version_conflict", "The packing item changed; reload it."⟩

/-- `reorder_segment` with a position behind the last one. -/
def positionInvalid : ApplicationError :=
  ⟨422, "position_invalid", "The requested position is invalid."⟩

/-- `update_packing_progress` with more packed than there is. -/
def quantityInvalid : ApplicationError :=
  ⟨422, "quantity_invalid", "Packed quantity exceeds quantity."⟩

/-- `_replay_or_conflict` for other content. -/
def idempotencyConflict : ApplicationError :=
  ⟨409, "idempotency_conflict",
    "The command identifier was already used for different content."⟩

/-- `resolve_command` for an unknown type. -/
def unsupportedCommand : ApplicationError :=
  ⟨422, "unsupported_command", "The command is not supported."⟩

/-- `resolve_command` for a known type in an unknown version. -/
def unsupportedCommandVersion : ApplicationError :=
  ⟨422, "unsupported_command_version", "The command version is not supported."⟩

/-- The permissions that the role policy knows. -/
inductive Permission where
  | journeyRead
  | journeyWrite
deriving DecidableEq, Repr

/-- `ROLE_PERMISSIONS`. -/
def rolePermissions : Role → List Permission
  | .owner => [.journeyRead, .journeyWrite]
  | .editor => [.journeyRead, .journeyWrite]
  | .viewer => [.journeyRead]

/-- `role_allows`. -/
def roleAllows (role : Role) (permission : Permission) : Bool :=
  (rolePermissions role).contains permission

/-- `CommandDefinition`, as far as the executor reads it. -/
structure CommandDefinition where
  commandType : String
  version : Nat
  permission : Permission
  reversibility : Reversibility
deriving DecidableEq

/-- The definition of `journey.update` in version 1. -/
def journeyUpdateV1 : CommandDefinition where
  commandType := "journey.update"
  version := 1
  permission := .journeyWrite
  reversibility := .full

/-- `COMMANDS`. -/
def commands : List CommandDefinition := [journeyUpdateV1]

/-- `resolve_command`. -/
def resolveCommand (commandType : String) (version : Nat) :
    Except ApplicationError CommandDefinition :=
  let versions := commands.filter fun candidate => candidate.commandType = commandType
  if versions.isEmpty then .error unsupportedCommand
  else
    match versions.find? fun candidate => candidate.version = version with
    | none => .error unsupportedCommandVersion
    | some definition => .ok definition

/-- The registry resolves one command only. -/
theorem resolveCommand_ok (commandType : String) (version : Nat) (definition : CommandDefinition)
    (resolved : resolveCommand commandType version = .ok definition) :
    commandType = "journey.update" ∧ version = 1 ∧ definition = journeyUpdateV1 := by
  by_cases known : "journey.update" = commandType
  · by_cases current : 1 = version
    · simp only [resolveCommand, commands, journeyUpdateV1, List.filter_cons, known,
        List.find?_cons, current, decide_true, if_true, List.isEmpty_cons, Bool.false_eq_true,
        if_false, Except.ok.injEq] at resolved
      subst resolved
      refine ⟨known.symm, current.symm, ?_⟩
      rw [journeyUpdateV1, known, current]
    · simp [resolveCommand, commands, journeyUpdateV1, known, current] at resolved
  · simp [resolveCommand, commands, journeyUpdateV1, known] at resolved

/-- `payload.model_dump(mode="json")` with its members sorted by name. -/
def JourneyUpdateCommandPayload.document (payload : JourneyUpdateCommandPayload) : Json :=
  let date : Option Date → Json := fun value => value.elim .null fun day => .text day.iso
  .object
    [("end_date".toList, date payload.endDate),
     ("expected_record_version".toList, .number payload.expectedRecordVersion),
     ("journey_id".toList, .text (uuidText payload.journeyId)),
     ("name".toList, .text payload.name),
     ("start_date".toList, date payload.startDate),
     ("status".toList, .text payload.status.literal.toList)]

/-- The canonical JSON that `command_digest_v1` hashes. -/
def canonicalCommand (commandId : Uuid) (commandType : String) (commandVersion : Nat)
    (payload : JourneyUpdateCommandPayload) : Json :=
  .object
    [("command_id".toList, .text (uuidText commandId)),
     ("command_type".toList, .text commandType.toList),
     ("command_version".toList, .number commandVersion),
     ("digest_version".toList, .number 1),
     ("payload".toList, payload.document)]

/-- `command_digest_v1`. -/
def commandDigestV1 (platform : Platform) (commandId : Uuid) (commandType : String)
    (commandVersion : Nat) (payload : JourneyUpdateCommandPayload) : Text :=
  platform.sha256 ("trax.command.digest.v1".toList ++
    nul :: (canonicalCommand commandId commandType commandVersion payload).render)

end TraxOs.Api
