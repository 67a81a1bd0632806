import TraxOs.ApiClient.Values
import TraxOs.PowerSync.CommandServer

/-!
# Commands on the wire

The client checks a queued entry, posts the command in an envelope and reads the
results; the server parses the envelope. Both sides read JSON values by hand. The text
in between is written by `JSON.stringify` and read by `JSON.parse`, which keep strings,
safe integers and own members as they are, so that a body is its value here.

The client looks at the types of a queued entry only. The server also looks at the
shape of identifiers, without regard to case, and at the length of a payload.
-/

namespace TraxOs.PowerSync

open TraxOs.ApiClient (Value Number)

/-- The own members of an object that was parsed. -/
abbrev Members := List (Text × Value)

/-- A member under a name of the source. -/
def Members.get (members : Members) (name : String) : Option Value := members.lookup (ascii name)

/-- A number that was computed as an integer. -/
def numberValue (number : Nat) : Value := .number (.finite number)

/-- A positive safe integer. -/
abbrev PositiveSafe := { number : Nat // 1 ≤ number ∧ number ≤ maxSafeInteger }

/-- `Number.isSafeInteger(value) && Number(value) >= 1`, with the number. -/
def positiveSafe : Option Value → Option PositiveSafe
  | some (.number number) =>
    number.rational.bind fun value =>
      if bounds : 1 ≤ value.num.toNat ∧ value.num.toNat ≤ maxSafeInteger then
        if value.den = 1 then some ⟨value.num.toNat, bounds⟩ else none
      else none
  | _ => none

/-- `value === 1`. -/
def isOne : Option Value → Bool
  | some (.number number) => number.rational == some 1
  | _ => false

/-- `value === text`. -/
def isText (text : Text) : Option Value → Bool
  | some (.text value) => value == text
  | _ => false

/-- The decimal text of a number. -/
def numeral (number : Nat) : Text := if number = 0 then ascii "0" else decimal number

/-- `text.toLowerCase()`, as far as an identifier depends on it: of the letters outside
ASCII none becomes a hexadecimal digit or a dash. -/
def toLowerCase (text : Text) : Text :=
  text.map fun unit => if 65 ≤ unit && unit ≤ 90 then unit + 32 else unit

/-- `left <= right` of strings, by code units. -/
def textAtMost : Text → Text → Bool
  | [], _ => true
  | _ :: _, [] => false
  | left :: lefts, right :: rights => left < right || (left == right && textAtMost lefts rights)

/-- `texts.sort().join(", ")`. -/
def sortedList (texts : List Text) : Text := (ascii ", ").intercalate (texts.mergeSort textAtMost)

/-- Throw a message of the source unless a condition holds. -/
def demand (condition : Bool) (message : String) : Except Text Unit :=
  if condition then .ok () else .error (ascii message)

/-- `record`. -/
def record (value : Value) (label : Text) : Except Text Members :=
  match value with
  | .object members => .ok members
  | _ => .error (label ++ ascii " must be an object.")

/-- `authorityFields`. -/
def authorityFields : List Text :=
  ["actor", "actorId", "user", "userId", "representedUser", "representedUserId", "workspace",
    "workspaceId", "workspace_id", "journey", "journeyId", "journey_id", "party", "partyId",
    "party_id", "audience", "owner", "ownerId", "grant", "grants"].map ascii

/-- `exactKeys`. -/
def exactKeys (members : Members) (allowed : List String) (label : Text) : Except Text Unit :=
  let unknown := (members.map Prod.fst).filter fun key => !(allowed.map ascii).contains key
  let authority := unknown.filter authorityFields.contains
  if !authority.isEmpty then
    .error (ascii "Client-supplied authority is forbidden: " ++ sortedList authority ++ ascii ".")
  else if !unknown.isEmpty then
    .error (label ++ ascii " has unknown fields: " ++ sortedList unknown ++ ascii ".")
  else .ok ()

/-- `boundedString`. -/
def boundedString (value : Option Value) (label : String) (maximum : Nat) : Except Text Text :=
  let refused := ascii label ++ ascii " must be a non-empty string of at most " ++
    numeral maximum ++ ascii " characters."
  match value with
  | some (.text text) =>
    if 1 ≤ text.length ∧ text.length ≤ maximum then .ok text else .error refused
  | _ => .error refused

/-- A version-4 identifier is an identifier. -/
theorem isUuid_of_version4 (text : Text) (valid : isVersion4Uuid text = true) :
    isUuid text = true := by
  refine matchesAll_mono _ _ text ?_ valid
  have same : ∀ unitClass : UnitClass, ∀ unit, unitClass unit = true → unitClass unit = true :=
    fun _ _ accepted => accepted
  have narrower : ∀ unit : UInt16, (unit == 52) = true →
      (decide (49 ≤ unit) && decide (unit ≤ 53)) = true := by
    intro unit four
    rw [beq_iff_eq.mp four]
    decide
  simp only [uuidShape, List.replicate, List.cons_append, List.nil_append]
  repeat' first | exact .nil | refine .cons (same _) ?_ | refine .cons narrower ?_

section Sessions

/-- `ReplicaSessionSecret`. -/
structure ReplicaSessionSecret where
  binding : ReplicaBinding
  credential : Text
deriving DecidableEq

/-- `[A-Za-z0-9_-]`, with the value of the character in base64url. -/
def base64Value (unit : UInt16) : Option Nat :=
  if 65 ≤ unit && unit ≤ 90 then some (unit.toNat - 65)
  else if 97 ≤ unit && unit ≤ 122 then some (unit.toNat - 71)
  else if 48 ≤ unit && unit ≤ 57 then some (unit.toNat + 4)
  else if unit == 45 then some 62
  else if unit == 95 then some 63
  else none

/-- A tagged secret: 43 characters of base64url that are the text of 32 bytes. The last of
them leaves two bits unused, which are zero when the bytes are encoded again. -/
def isCredential (text : Text) : Bool :=
  (ascii "r2_").isPrefixOf text && text.length == 46 &&
    ((text.drop 3).all fun unit => (base64Value unit).isSome) &&
      ((text.getLast?.bind base64Value).any fun last => last % 4 == 0)

/-- `parseReplicaSessionSecret`. -/
def parseReplicaSessionSecret (value : Value) : Except Text ReplicaSessionSecret := do
  let input ← record value (ascii "Replica session")
  exactKeys input ["replicaId", "replicaEpoch", "credential"] (ascii "Replica session")
  let replicaId ← toLowerCase <$> boundedString (input.get "replicaId") "replicaId" 36
  if valid : isVersion4Uuid replicaId = true then
    match positiveSafe (input.get "replicaEpoch") with
    | none => .error (ascii "replicaEpoch must be a positive safe integer.")
    | some epoch => do
      let credential ← boundedString (input.get "credential") "credential" 64
      demand (isCredential credential) "credential must encode a tagged 32-byte secret."
      pure ⟨⟨replicaId, epoch, isUuid_of_version4 _ valid, epoch.2.1, epoch.2.2⟩, credential⟩
  else .error (ascii "replicaId must be a version-4 UUID.")

end Sessions

section Queue

/-- `CrudEntry` of the SDK, with its data as it was parsed from the queue. -/
structure CrudEntry where
  table : Text
  op : Text
  id : Value
  opData : Option Members

/-- `CrudTransaction` of the SDK. -/
structure CrudTransaction where
  crud : List CrudEntry
  transactionId : Option (Fin (maxSafeInteger + 1))

/-- `requiredQueueColumns`. -/
def requiredQueueColumns : List String :=
  ["command_type", "command_version", "expected_record_version", "resource_id",
    "resource_incarnation_id", "upload_correlation_id"]

/-- `allowedQueueColumns`. -/
def allowedQueueColumns : List String := requiredQueueColumns ++ ["payload"]

/-- `assertPositiveExpectedRecordVersion`, with the number. -/
def assertPositiveExpectedRecordVersion (value : Option Value) : Except Text PositiveSafe :=
  match positiveSafe value with
  | some number => .ok number
  | none => .error (ascii "expectedRecordVersion must be a positive safe integer.")

/-- The payload of a queued update, or none. -/
def queuedKind (updates : Bool) (payload : Option Value) : Except Text CommandKind :=
  match updates, payload with
  | true, some (.text text) => .ok (.update text)
  | true, _ => .error (ascii "Update queue entry requires payload.")
  | false, none | false, some .null => .ok .softDelete
  | false, _ => .error (ascii "Soft-delete queue entry cannot carry payload.")

/-- The command of one queued entry, after the targets of the entries before it. -/
def validateQueuedEntry (targets : List Text) (entry : CrudEntry) : Except Text SpikeCommand := do
  demand (entry.table == ascii "command_queue" && entry.op == ascii "PUT")
    "Unsupported local CRUD: only command_queue PUT entries are accepted."
  let data := entry.opData.getD []
  let keys := data.map Prod.fst
  demand (entry.opData.isSome && (keys.all fun key => (allowedQueueColumns.map ascii).contains key) &&
    ((requiredQueueColumns.map ascii).all fun key => keys.contains key))
    "Malformed command_queue PUT columns."
  match entry.id, data.get "command_type", data.get "resource_id",
      data.get "resource_incarnation_id", data.get "upload_correlation_id" with
  | .text id, some (.text type), some (.text resourceId), some (.text incarnationId),
      some (.text _) => do
    demand (isOne (data.get "command_version")) "Malformed command_queue PUT values."
    let expected ← assertPositiveExpectedRecordVersion (data.get "expected_record_version")
    let updates := type == ascii "ps8.resource.update.v1"
    demand (updates || type == ascii "ps8.resource.soft_delete.v1")
      "Unsupported command_queue command type."
    demand (!targets.contains resourceId) "Duplicate resource target in one local transaction."
    let kind ← queuedKind updates (data.get "payload")
    pure ⟨id, kind, resourceId, incarnationId, expected⟩
  | _, _, _, _, _ => .error (ascii "Malformed command_queue PUT values.")

/-- The entries of a transaction, one after another. -/
def validateQueuedEntries : List Text → List CrudEntry → Except Text (List SpikeCommand)
  | _, [] => .ok []
  | targets, entry :: entries => do
    let command ← validateQueuedEntry targets entry
    let commands ← validateQueuedEntries (command.resourceId :: targets) entries
    pure (command :: commands)

/-- `validateQueuedCrud`. -/
def validateQueuedCrud (crud : List CrudEntry) : Except Text (List SpikeCommand) := do
  demand (crud.length == 1) "The M3a queue transaction must contain exactly one command."
  validateQueuedEntries [] crud

end Queue

section Envelope

/-- `SpikeCommandEnvelope`. -/
structure SpikeCommandEnvelope where
  binding : ReplicaBinding
  localTransactionId : Text
  commands : List SpikeCommand
deriving DecidableEq

/-- The payload of a posted update, or none. -/
def postedKind (updates : Bool) (payload : Option Value) : Except Text CommandKind :=
  if updates then .update <$> boundedString payload "payload" 512
  else if payload.isSome then .error (ascii "soft_delete commands do not accept payload.")
  else .ok .softDelete

/-- One element of `commands`, after the identifiers and the targets before it. -/
def parseCommand (index : Nat) (commandIds targets : List Text) (raw : Value) :
    Except Text SpikeCommand := do
  let label := ascii "commands[" ++ numeral index ++ ascii "]"
  let command ← record raw label
  exactKeys command ["commandId", "type", "resourceId", "resourceIncarnationId",
    "expectedRecordVersion", "payload"] label
  let commandId ← toLowerCase <$> boundedString (command.get "commandId") "commandId" 36
  let resourceId ← toLowerCase <$> boundedString (command.get "resourceId") "resourceId" 36
  let incarnationId ← toLowerCase <$>
    boundedString (command.get "resourceIncarnationId") "resourceIncarnationId" 36
  demand (isVersion4Uuid commandId) "commandId must be a version-4 UUID."
  demand (isUuid resourceId) "resourceId must be a UUID."
  demand (isUuid incarnationId) "resourceIncarnationId must be a UUID."
  let updates := isText (ascii "ps8.resource.update.v1") (command.get "type")
  demand (updates || isText (ascii "ps8.resource.soft_delete.v1") (command.get "type"))
    "Unsupported spike command type."
  let expected ← assertPositiveExpectedRecordVersion (command.get "expectedRecordVersion")
  let kind ← postedKind updates (command.get "payload")
  demand (!commandIds.contains commandId) "A transaction cannot contain duplicate command IDs."
  demand (!targets.contains resourceId) "A transaction cannot contain duplicate resource targets."
  pure ⟨commandId, kind, resourceId, incarnationId, expected⟩

/-- The elements of `commands`, one after another. -/
def parseCommands : Nat → List Text → List Text → List Value → Except Text (List SpikeCommand)
  | _, _, _, [] => .ok []
  | index, commandIds, targets, raw :: rest => do
    let command ← parseCommand index commandIds targets raw
    let commands ← parseCommands (index + 1) (command.commandId :: commandIds)
      (command.resourceId :: targets) rest
    pure (command :: commands)

/-- `parseCommandEnvelope`. -/
def parseCommandEnvelope (value : Value) : Except Text SpikeCommandEnvelope := do
  let input ← record value (ascii "Command envelope")
  exactKeys input ["spikeProtocol", "replicaId", "replicaEpoch", "localTransactionId", "commands"]
    (ascii "Command envelope")
  demand (isOne (input.get "spikeProtocol")) "Unsupported spike protocol."
  let replicaId ← toLowerCase <$> boundedString (input.get "replicaId") "replicaId" 36
  if valid : isUuid replicaId = true then
    match positiveSafe (input.get "replicaEpoch") with
    | none => .error (ascii "replicaEpoch must be a positive safe integer.")
    | some epoch => do
      let localTransactionId ←
        boundedString (input.get "localTransactionId") "localTransactionId" 128
      match input.get "commands" with
      | some (.array [raw]) => do
        let commands ← parseCommands 0 [] [] [raw]
        pure ⟨⟨replicaId, epoch, valid, epoch.2.1, epoch.2.2⟩, localTransactionId, commands⟩
      | _ => .error (ascii "The M3a envelope must contain exactly one command.")
  else .error (ascii "replicaId must be a UUID.")

end Envelope

section Bodies

/-- A command as the client posts it. -/
def commandValue (command : SpikeCommand) : Value :=
  .object ([(ascii "commandId", .text command.commandId), (ascii "type", .text command.kind.type),
    (ascii "resourceId", .text command.resourceId),
    (ascii "resourceIncarnationId", .text command.resourceIncarnationId),
    (ascii "expectedRecordVersion", numberValue command.expectedRecordVersion)] ++
      command.kind.payload.toList.map fun payload => (ascii "payload", .text payload))

/-- `String(transaction.transactionId)`. -/
def localTransactionId (transaction : CrudTransaction) : Text :=
  match transaction.transactionId with
  | some number => numeral number
  | none => ascii "undefined"

/-- The body that `uploadData` posts. -/
def uploadBody (session : ReplicaSessionSecret) (transaction : CrudTransaction)
    (commands : List SpikeCommand) : Value :=
  .object [(ascii "spikeProtocol", numberValue 1), (ascii "replicaId", .text session.binding.replicaId),
    (ascii "replicaEpoch", numberValue session.binding.replicaEpoch),
    (ascii "localTransactionId", .text (localTransactionId transaction)),
    (ascii "commands", .array (commands.map commandValue))]

/-- The text of a result state. -/
def ResultState.text : ResultState → Text
  | .applied => ascii "applied"
  | .conflict => ascii "conflict"
  | .denied => ascii "denied"

/-- The text of a result code. -/
def ResultCode.text : ResultCode → Text
  | .applied => ascii "applied"
  | .alreadyApplied => ascii "already_applied"
  | .optimisticConflict => ascii "optimistic_conflict"
  | .staleIncarnation => ascii "stale_incarnation"
  | .commandDenied => ascii "command_denied"

/-- A result as the server answers it. -/
def resultMembers (result : SpikeCommandResult) : Members :=
  [(ascii "commandId", .text result.commandId), (ascii "resourceId", .text result.resourceId),
    (ascii "digest", .text result.digest), (ascii "state", .text result.state.text),
    (ascii "code", .text result.code.text), (ascii "previousVersion", numberValue result.previousVersion),
    (ascii "currentVersion", numberValue result.currentVersion),
    (ascii "attemptNumber", numberValue result.attemptNumber)]

/-- The body of an answer with the result of one command. -/
def responseBody (result : SpikeCommandResult) : Value :=
  .object [(ascii "spikeProtocol", numberValue 1),
    (ascii "results", .array [.object (resultMembers result)])]

/-- The body of an answer to an envelope that does not parse. -/
def invalidCommandBody (message : Text) : Value :=
  .object [(ascii "error", .text (ascii "invalid_command")), (ascii "message", .text message)]

end Bodies

section Responses

/-- What the client takes from its runtime beside the hashes: `String(value)` for values
that are not strings. -/
structure ClientPlatform extends Platform where
  described : Option Value → Text

/-- `String(value)`. -/
def ClientPlatform.string (platform : ClientPlatform) : Option Value → Text
  | some (.text text) => text
  | value => platform.described value

/-- The state that belongs to a code. -/
def expectedState (code : Option Value) : Text :=
  if isText (ascii "optimistic_conflict") code || isText (ascii "stale_incarnation") code then
    ascii "conflict"
  else if isText (ascii "command_denied") code then ascii "denied"
  else ascii "applied"

/-- The known codes. -/
def resultCodes : List Text :=
  ["applied", "already_applied", "optimistic_conflict", "stale_incarnation", "command_denied"].map ascii

/-- One result, with the commands that still await one. The results of a response are the
objects as they were read. -/
def parseResult (platform : ClientPlatform) (binding : ReplicaBinding) (expected : List SpikeCommand)
    (raw : Value) : Except Text (Members × List SpikeCommand) := do
  let result ← record raw (ascii "Command result")
  exactKeys result ["commandId", "resourceId", "digest", "state", "code", "previousVersion",
    "currentVersion", "attemptNumber"] (ascii "Command result")
  let named := platform.string (result.get "commandId")
  match expected.find? fun command => command.commandId == named with
  | none => .error (ascii "Command result identity or digest mismatch.")
  | some command => do
    demand (isText command.resourceId (result.get "resourceId") &&
        isText (commandDigest platform.toPlatform command binding) (result.get "digest"))
      "Command result identity or digest mismatch."
    let state := result.get "state"
    demand (isText (ascii "applied") state || isText (ascii "conflict") state ||
      isText (ascii "denied") state) "Unknown command result state."
    let code := result.get "code"
    demand (resultCodes.contains (platform.string code)) "Unknown command result code."
    demand (isText (expectedState code) state) "Inconsistent command result state and code."
    demand (positiveSafe (result.get "previousVersion")).isSome "Invalid previousVersion."
    demand (positiveSafe (result.get "currentVersion")).isSome "Invalid currentVersion."
    demand (positiveSafe (result.get "attemptNumber")).isSome "Invalid attemptNumber."
    pure (result, expected.filter fun other => other.commandId != command.commandId)

/-- The results, one after another. -/
def parseResults (platform : ClientPlatform) (binding : ReplicaBinding) :
    List SpikeCommand → List Value → Except Text (List Members × List SpikeCommand)
  | expected, [] => .ok ([], expected)
  | expected, raw :: rest => do
    let (result, awaited) ← parseResult platform binding expected raw
    let (results, left) ← parseResults platform binding awaited rest
    pure (result :: results, left)

/-- `parseCommandResponse`. Of two commands with one identifier the map holds the later. -/
def parseCommandResponse (platform : ClientPlatform) (value : Value) (commands : List SpikeCommand)
    (binding : ReplicaBinding) : Except Text (List Members) := do
  let input ← record value (ascii "Command response")
  exactKeys input ["spikeProtocol", "results"] (ascii "Command response")
  match input.get "results" with
  | some (.array items) => do
    demand (isOne (input.get "spikeProtocol") && items.length == commands.length)
      "Command response does not match the request."
    let (results, left) ← parseResults platform binding commands.reverse items
    demand left.isEmpty "Command response omitted results."
    pure results
  | _ => .error (ascii "Command response does not match the request.")

/-- How one call of `uploadData` ends: the transaction is completed with results, the
replica needs a reset, a transient failure was counted, or an error is thrown that leaves
the transaction and its count of failures as they were. -/
inductive UploadOutcome where
  | completed (results : List Members)
  | replicaResetRequired
  | retried (failures : Nat)
  | thrown (message : Text)

/-- `maxTransientUploadAttempts`. -/
def maxTransientUploadAttempts : Nat := 5

/-- A result that the client records by itself. -/
def failedResult (platform : ClientPlatform) (binding : ReplicaBinding) (command : SpikeCommand)
    (code : String) (attemptNumber : Nat) : Members :=
  [(ascii "commandId", .text command.commandId), (ascii "resourceId", .text command.resourceId),
    (ascii "state", .text (ascii "failed")), (ascii "code", .text (ascii code)),
    (ascii "previousVersion", numberValue command.expectedRecordVersion),
    (ascii "currentVersion", numberValue command.expectedRecordVersion),
    (ascii "digest", .text (commandDigest platform.toPlatform command binding)),
    (ascii "attemptNumber", numberValue attemptNumber)]

/-- A transient failure is counted, and the last one that is allowed completes the
transaction. -/
def transientFailure (platform : ClientPlatform) (binding : ReplicaBinding)
    (commands : List SpikeCommand) (failures : Nat) : UploadOutcome :=
  if maxTransientUploadAttempts ≤ failures + 1 then
    .completed ((commands.take 1).map fun command =>
      failedResult platform binding command "retry_exhausted" (failures + 1))
  else .retried (failures + 1)

/-- `parsed.results[0]?.state !== "denied"`, negated. -/
def firstDenied : List Members → Bool
  | [] => false
  | result :: _ => isText (ascii "denied") (result.get "state")

/-- The answer reports that another command used the identifier. -/
def isIdempotencyConflict : Value → Bool
  | .object members => isText (ascii "idempotency_conflict") (Members.get members "error")
  | _ => false

/-- Complete the transaction with parsed results, or throw. -/
def completeWith : Except Text (List Members) → UploadOutcome
  | .ok results => .completed results
  | .error message => .thrown message

/-- `uploadData` after its request: `none` when the request failed, otherwise the status
and the body, if it is JSON. -/
def uploadData (platform : ClientPlatform) (session : ReplicaSessionSecret)
    (commands : List SpikeCommand) (failures : Nat) (response : Option (Nat × Option Value)) :
    UploadOutcome :=
  match response with
  | none => transientFailure platform session.binding commands failures
  | some (status, body) =>
    if status = 428 then .replicaResetRequired
    else if status = 429 ∨ 500 ≤ status then transientFailure platform session.binding commands failures
    else
      match body with
      | none => .thrown (ascii "Malformed spike command response.")
      | some raw =>
        if status = 403 then
          match parseCommandResponse platform raw commands session.binding with
          | .ok results =>
            if firstDenied results then .completed results
            else .thrown (ascii "Denied command response lacks a digest-bound terminal result.")
          | .error message => .thrown message
        else if status = 409 ∧ isIdempotencyConflict raw then
          .completed ((commands.take 1).map fun command =>
            failedResult platform session.binding command "idempotency_conflict" 1)
        else if 200 ≤ status ∧ status ≤ 299 then
          completeWith (parseCommandResponse platform raw commands session.binding)
        else .thrown (ascii "Spike command upload failed with HTTP " ++ numeral status ++ ascii ".")

end Responses

end TraxOs.PowerSync
