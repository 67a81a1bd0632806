import TraxOs.Theory.Sequences
import TraxOs.PowerSync.ApplicationState

/-!
# The quarantine of a reset

When the server no longer serves a replica, the client resets it. Every command without an
outcome becomes an intent in the quarantine sidecar, and after the new replica has synced
each intent is finalized: for review, or without its payload. The sidecar is a JSON file,
and its writer and its reader are different code.

The file holds the JSON text of a value, written and parsed without loss, so that the file
is the value here. The members of an object are named, and their order does not matter.
The responses of the server and the rows of the new replica are parameters of a reset, and
so is the order in which texts are compared.
-/

namespace TraxOs.PowerSync

open TraxOs.Theory
open TraxOs.ApiClient (Value Number)

section Stores

/-- The part of an entry that its reservation is computed from. -/
structure QuarantineEntry where
  id : Text
  resourceId : Text
  resourceIncarnationId : Text
  commandType : Text
  payload : Option Text
  expectedRecordVersion : Option Nat
deriving DecidableEq

/-- `QuarantineIntent`. -/
structure QuarantineIntent where
  id : Text
  commandType : Text
  resourceId : Text
  resourceIncarnationId : Text
  payload : Option Text
  expectedRecordVersion : Nat
  initiallyAuthorized : Bool
  reservedBytes : Nat
deriving DecidableEq

/-- `QuarantineStore`, of version 2. -/
structure QuarantineStore where
  finalized : List QuarantinedCommand
  pending : List QuarantineIntent
deriving DecidableEq

/-- The text of a state. -/
def QuarantineState.text : QuarantineState → Text
  | .pendingReview => ascii "pending_review"
  | .invalidated => ascii "invalidated"

/-- The entry of a finalized command. -/
def QuarantinedCommand.entry (command : QuarantinedCommand) : QuarantineEntry where
  id := command.id
  resourceId := command.resourceId
  resourceIncarnationId := command.resourceIncarnationId
  commandType := command.commandType
  payload := command.payload
  expectedRecordVersion := command.expectedRecordVersion

/-- The entry of an intent. -/
def QuarantineIntent.entry (intent : QuarantineIntent) : QuarantineEntry where
  id := intent.id
  resourceId := intent.resourceId
  resourceIncarnationId := intent.resourceIncarnationId
  commandType := intent.commandType
  payload := intent.payload
  expectedRecordVersion := some intent.expectedRecordVersion

/-- An entry as it is serialised with a state. -/
def QuarantineEntry.finalizedBytes (entry : QuarantineEntry) (state : QuarantineState)
    (payload : Option Text) (exportable reserved : Nat) : Nat :=
  objectBytes
    [("id", .text entry.id), ("resource_id", .text entry.resourceId),
      ("resource_incarnation_id", .text entry.resourceIncarnationId),
      ("command_type", .text entry.commandType),
      ("expected_record_version", .ofNumber entry.expectedRecordVersion),
      ("state", .text state.text), ("payload", .ofText payload),
      ("exportable", .number exportable), ("reserved_bytes", .number reserved)]

/-- An entry as it is serialised as an intent. -/
def QuarantineEntry.pendingBytes (entry : QuarantineEntry) (initiallyAuthorized : Bool)
    (reserved : Nat) : Nat :=
  objectBytes
    [("id", .text entry.id), ("resource_id", .text entry.resourceId),
      ("resource_incarnation_id", .text entry.resourceIncarnationId),
      ("command_type", .text entry.commandType), ("payload", .ofText entry.payload),
      ("expected_record_version", .ofNumber entry.expectedRecordVersion),
      ("initiallyAuthorized", .boolean initiallyAuthorized), ("reserved_bytes", .number reserved)]

/-- `quarantineEntryReservationBytes`. -/
def quarantineEntryReservationBytes (entry : QuarantineEntry) : Nat :=
  let reservationCeiling := maxSerializedOutstandingBytes
  let initial := entry.pendingBytes true reservationCeiling
  let retained := entry.finalizedBytes .pendingReview entry.payload 1 reservationCeiling
  let invalidated := entry.finalizedBytes .invalidated none 0 reservationCeiling
  max terminalResultReservationBytes (max initial (max retained invalidated))

end Stores

section Reader

/-- `Number(value)` for a value that is not a number. It may be `NaN`. -/
abbrev Conversion := Option Value → Option Number

/-- `Number(value)`. -/
def Conversion.number (convert : Conversion) : Option Value → Option Number
  | some (.number number) => some number
  | value => convert value

/-- `Number(value)`, when it is a positive safe integer. -/
def Conversion.positiveSafe (convert : Conversion) (value : Option Value) : Option Nat :=
  (TraxOs.PowerSync.positiveSafe ((convert.number value).map .number)).map Subtype.val

/-- `Number(value) === expected`. -/
def Conversion.isNumber (convert : Conversion) (value : Option Value) (expected : Nat) : Bool :=
  (convert.number value).any fun number => number.rational == some (expected : ℚ)

/-- `value.name` of a value that was parsed. -/
def memberOf (value : Value) (name : String) : Option Value :=
  match value with
  | .object members => Members.get members name
  | _ => none

/-- `value === null`. -/
def isNull : Option Value → Bool
  | some .null => true
  | _ => false

/-- The members of an object that is not an array. -/
def objectMembers (raw : Value) (message : String) : Except StateError Members :=
  match raw with
  | .object members => .ok members
  | _ => throwing message

/-- `quarantineString`. -/
def quarantineString (value : Option Value) (field : String) : Except StateError Text :=
  match value with
  | some (.text (unit :: rest)) => .ok (unit :: rest)
  | _ => .error (.thrown (ascii "Invalid quarantine " ++ ascii field ++ ascii "."))

/-- `value.payload === null ? null : quarantineString(value.payload, "payload")`. -/
def quarantinePayload (value : Option Value) : Except StateError (Option Text) :=
  if isNull value then .ok none else (quarantineString value "payload").map some

/-- `normalizeQuarantineReservation`. -/
def normalizeQuarantineReservation (convert : Conversion) (raw : Option Value)
    (entry : QuarantineEntry) : Except StateError Nat := do
  let minimum := quarantineEntryReservationBytes entry
  let reserved := (((convert.positiveSafe raw).filter fun candidate => minimum ≤ candidate).getD minimum)
  require (reserved ≤ maxSerializedOutstandingBytes) "Invalid quarantine reservation."
  return reserved

/-- The identifiers, the payload and the version of an entry that is read. -/
def quarantineEntry (value : Members) (payload : Option Text) (expectedRecordVersion : Option Nat) :
    Except StateError QuarantineEntry := do
  let id ← quarantineString (value.get "id") "id"
  let resourceId ← quarantineString (value.get "resource_id") "resource_id"
  let resourceIncarnationId ←
    quarantineString (value.get "resource_incarnation_id") "resource_incarnation_id"
  let commandType ← quarantineString (value.get "command_type") "command_type"
  return ⟨id, resourceId, resourceIncarnationId, commandType, payload, expectedRecordVersion⟩

/-- `Number(value)` as the expected version of an entry. -/
def quarantineVersion (convert : Conversion) (value : Option Value) : Except StateError Nat :=
  match convert.positiveSafe value with
  | some version => .ok version
  | none => throwing "Invalid quarantine expected version."

/-- The state of a finalized entry. -/
def finalizedState (value : Option Value) : Except StateError QuarantineState :=
  if isText (ascii "pending_review") value then .ok .pendingReview
  else if isText (ascii "invalidated") value then .ok .invalidated
  else throwing "Invalid finalized quarantine state."

/-- `normalizeFinalizedQuarantine`. -/
def normalizeFinalizedQuarantine (convert : Conversion) (allowLegacyMissingVersion : Bool)
    (raw : Value) : Except StateError QuarantinedCommand := do
  let value ← objectMembers raw "Invalid finalized quarantine entry."
  let state ← finalizedState (value.get "state")
  let payload ← quarantinePayload (value.get "payload")
  let exportable := if state = .pendingReview then 1 else 0
  require (convert.isNumber (value.get "exportable") exportable &&
    (state == .pendingReview || payload.isNone)) "Inconsistent finalized quarantine entry."
  let version := value.get "expected_record_version"
  let expectedRecordVersion ←
    (if isNull version || (allowLegacyMissingVersion && version.isNone) then .ok none
    else (quarantineVersion convert version).map some)
  let base ← quarantineEntry value payload expectedRecordVersion
  let reservedBytes ← normalizeQuarantineReservation convert (value.get "reserved_bytes") base
  require (base.finalizedBytes state payload exportable reservedBytes ≤ reservedBytes)
    "Finalized quarantine representation exceeds reservation."
  return {
    id := base.id
    resourceId := base.resourceId
    resourceIncarnationId := base.resourceIncarnationId
    commandType := base.commandType
    expectedRecordVersion := base.expectedRecordVersion
    state := state
    payload := base.payload
    exportable := exportable
    reservedBytes := reservedBytes }

/-- `typeof value !== "boolean"` throws. -/
def authorizationState (value : Option Value) : Except StateError Bool :=
  match value with
  | some (.boolean value) => .ok value
  | _ => throwing "Invalid pending quarantine authorization state."

/-- `normalizePendingQuarantine`. -/
def normalizePendingQuarantine (convert : Conversion) (raw : Value) :
    Except StateError QuarantineIntent := do
  let value ← objectMembers raw "Invalid pending quarantine entry."
  let initiallyAuthorized ← authorizationState (value.get "initiallyAuthorized")
  let payload ← quarantinePayload (value.get "payload")
  require (initiallyAuthorized || payload.isNone) "Denied quarantine intent retained payload."
  let expectedRecordVersion ← quarantineVersion convert (value.get "expected_record_version")
  let base ← quarantineEntry value payload (some expectedRecordVersion)
  let reservedBytes ← normalizeQuarantineReservation convert (value.get "reserved_bytes") base
  require (base.pendingBytes initiallyAuthorized reservedBytes ≤ reservedBytes)
    "Pending quarantine representation exceeds reservation."
  return {
    id := base.id
    commandType := base.commandType
    resourceId := base.resourceId
    resourceIncarnationId := base.resourceIncarnationId
    payload := base.payload
    expectedRecordVersion := expectedRecordVersion
    initiallyAuthorized := initiallyAuthorized
    reservedBytes := reservedBytes }

/-- The identifiers of a store, in its order. -/
def QuarantineStore.ids (store : QuarantineStore) : List Text :=
  store.finalized.map QuarantinedCommand.id ++ store.pending.map QuarantineIntent.id

/-- `assertUniqueQuarantineIds`. -/
def assertUniqueQuarantineIds (store : QuarantineStore) : Except StateError Unit :=
  require (decide store.ids.Nodup) "quarantine_duplicate_id_conflict"

/-- The entries of a store of version 1, one after another. -/
def legacyEntries (convert : Conversion) : List Value → Except StateError QuarantineStore
  | [] => .ok ⟨[], []⟩
  | item :: rest => do
    let state := memberOf item "state"
    if isText (ascii "pending_review") state || isText (ascii "invalidated") state then
      let command ← normalizeFinalizedQuarantine convert true item
      let store ← legacyEntries convert rest
      return { store with finalized := command :: store.finalized }
    else
      require (memberOf item "expected_record_version").isSome
        "legacy_unfinished_reset_missing_expected_record_version"
      let intent ← normalizePendingQuarantine convert item
      let store ← legacyEntries convert rest
      return { store with pending := intent :: store.pending }

/-- What `readQuarantineStore` returns. -/
structure QuarantineRead where
  store : QuarantineStore
  existed : Bool
  migrated : Bool
deriving DecidableEq

/-- `value === number`. -/
def isExactly (number : Nat) : Option Value → Bool
  | some (.number value) => value.rational == some (number : ℚ)
  | _ => false

/-- `readQuarantineStore`, of a file that may be missing. -/
def readQuarantineStore (convert : Conversion) (file : Option Value) : Except StateError QuarantineRead :=
  match file with
  | none => .ok ⟨⟨[], []⟩, false, false⟩
  | some value => do
    let record ← objectMembers value "Invalid application quarantine sidecar."
    match isExactly 2 (record.get "version"), record.get "finalized", record.get "pending",
        isExactly 1 (record.get "version"), record.get "commands" with
    | true, some (.array finalized), some (.array pending), _, _ => do
      let commands ← finalized.mapM (normalizeFinalizedQuarantine convert false)
      let intents ← pending.mapM (normalizePendingQuarantine convert)
      assertUniqueQuarantineIds ⟨commands, intents⟩
      return ⟨⟨commands, intents⟩, true, false⟩
    | _, _, _, true, some (.array items) => do
      let store ← legacyEntries convert items
      assertUniqueQuarantineIds store
      return ⟨store, true, true⟩
    | _, _, _, _, _ => throwing "Invalid application quarantine sidecar."

end Reader

section Writer

/-- A text or `null`. -/
def textValue : Option Text → Value
  | some text => .text text
  | none => .null

/-- A finalized entry as it is written. -/
def QuarantinedCommand.value (command : QuarantinedCommand) : Value :=
  .object [(ascii "id", .text command.id), (ascii "resource_id", .text command.resourceId),
    (ascii "resource_incarnation_id", .text command.resourceIncarnationId),
    (ascii "command_type", .text command.commandType),
    (ascii "expected_record_version", command.expectedRecordVersion.elim .null numberValue),
    (ascii "state", .text command.state.text), (ascii "payload", textValue command.payload),
    (ascii "exportable", numberValue command.exportable),
    (ascii "reserved_bytes", numberValue command.reservedBytes)]

/-- An intent as it is written. -/
def QuarantineIntent.value (intent : QuarantineIntent) : Value :=
  .object [(ascii "id", .text intent.id), (ascii "command_type", .text intent.commandType),
    (ascii "resource_id", .text intent.resourceId),
    (ascii "resource_incarnation_id", .text intent.resourceIncarnationId),
    (ascii "payload", textValue intent.payload),
    (ascii "expected_record_version", numberValue intent.expectedRecordVersion),
    (ascii "initiallyAuthorized", .boolean intent.initiallyAuthorized),
    (ascii "reserved_bytes", numberValue intent.reservedBytes)]

/-- The store as `writePrivateJsonAtomically` writes it. -/
def QuarantineStore.value (store : QuarantineStore) : Value :=
  .object [(ascii "version", numberValue 2),
    (ascii "finalized", .array (store.finalized.map QuarantinedCommand.value)),
    (ascii "pending", .array (store.pending.map QuarantineIntent.value))]

end Writer

section Resets

/-- `assertCombinedOutstandingCapacity`. -/
def assertCombinedOutstandingCapacity (combined : Usage) : Except StateError Unit := do
  require (combined.count ≤ maxSafeInteger && combined.bytes ≤ maxSafeInteger)
    "Invalid combined capacity accounting input."
  require (combined.count ≤ maxOutstandingCommandsAndResults) "quarantine_capacity_exceeded"
  require (combined.bytes ≤ maxSerializedOutstandingBytes) "quarantine_byte_capacity_exceeded"

/-- `assertResetCapacity`. -/
def assertResetCapacity (tables : ApplicationTables) (store : QuarantineStore) :
    Except StateError Unit :=
  assertCombinedOutstandingCapacity
    { count := tables.resultCapacityUsage.count + store.finalized.length + store.pending.length
      bytes := tables.resultCapacityUsage.bytes + finalizedQuarantineBytes store.finalized +
        (store.pending.map QuarantineIntent.reservedBytes).sum }

/-- A command without an outcome, as the queue or an overlay holds it. -/
structure Candidate where
  id : Text
  commandType : Text
  resourceId : Text
  resourceIncarnationId : Text
  payload : Option Text
  expectedRecordVersion : Nat
deriving DecidableEq

/-- The candidate of an overlay. -/
def OverlayRow.candidate (row : OverlayRow) : Candidate where
  id := row.id
  commandType := row.commandType
  resourceId := row.resourceId
  resourceIncarnationId := row.resourceIncarnationId
  payload := row.payload
  expectedRecordVersion := row.expectedRecordVersion

/-- `readOverlayRecords`. -/
def readOverlayRecords (collation : Text → Text → Bool) (tables : ApplicationTables) :
    List OverlayRow :=
  sortBy (fun left right => collation left.id right.id) tables.overlays

/-- The commands of the queue, then those that only an overlay holds. -/
def resetCandidates (queued : List Candidate) (overlays : List OverlayRow) : List Candidate :=
  queued ++ (overlays.filter fun overlay => !queued.any fun command => command.id = overlay.id).map
    OverlayRow.candidate

/-- The intent of a candidate, after the server was asked whether to preserve it. -/
def Candidate.intent (item : Candidate) (overlays : List OverlayRow) (initiallyAuthorized : Bool) :
    QuarantineIntent :=
  let overlayReservation :=
    ((overlays.find? fun overlay => overlay.id = item.id).map OverlayRow.serializedBytes).getD 0
  let base : QuarantineEntry :=
    { id := item.id
      resourceId := item.resourceId
      resourceIncarnationId := item.resourceIncarnationId
      commandType := item.commandType
      payload := if initiallyAuthorized then item.payload else none
      expectedRecordVersion := some item.expectedRecordVersion }
  { id := item.id
    commandType := item.commandType
    resourceId := item.resourceId
    resourceIncarnationId := item.resourceIncarnationId
    payload := base.payload
    expectedRecordVersion := item.expectedRecordVersion
    initiallyAuthorized := initiallyAuthorized
    reservedBytes := max overlayReservation (quarantineEntryReservationBytes base) }

/-- The pending quarantine of a reset. -/
def pendingQuarantine (queued : List Candidate) (overlays : List OverlayRow)
    (preserve : Candidate → Bool) : List QuarantineIntent :=
  (resetCandidates queued overlays).map fun item => item.intent overlays (preserve item)

/-- The first part of `performReplicaReset`: the store that it writes before anything is
cleared. `queued` are the commands of the queue, `preserve` the answers of the server. -/
def quarantineReset (collation : Text → Text → Bool) (queued : List Candidate)
    (tables : ApplicationTables) (prior : QuarantineStore) (preserve : Candidate → Bool) :
    Except StateError QuarantineStore := do
  let overlays := readOverlayRecords collation tables
  require (queued.all fun command => overlays.all fun overlay =>
      overlay.id != command.id || overlay.candidate == command)
    "SDK queue and application overlay intent diverged."
  require prior.pending.isEmpty "Unexpected pending quarantine without reset state."
  require ((resetCandidates queued overlays).all fun candidate =>
      prior.finalized.all fun command => command.id != candidate.id)
    "quarantine_duplicate_id_conflict"
  let store : QuarantineStore := ⟨prior.finalized, pendingQuarantine queued overlays preserve⟩
  assertResetCapacity tables store
  return store

/-- An intent after the reset: `visible` when it was and is authorised and its resource is
in the new replica. -/
def QuarantineIntent.finalized (item : QuarantineIntent) (visible : Bool) : QuarantinedCommand where
  id := item.id
  resourceId := item.resourceId
  resourceIncarnationId := item.resourceIncarnationId
  commandType := item.commandType
  expectedRecordVersion := some item.expectedRecordVersion
  state := if visible then .pendingReview else .invalidated
  payload := if visible then item.payload else none
  exportable := if visible then 1 else 0
  reservedBytes := item.reservedBytes

/-- The bytes of a finalized entry. -/
def QuarantinedCommand.bytes (command : QuarantinedCommand) : Nat :=
  command.entry.finalizedBytes command.state command.payload command.exportable command.reservedBytes

/-- `mergeFinalizedQuarantine`. -/
def mergeFinalizedQuarantine (localeCompare : Text → Text → Bool)
    (existing additions : List QuarantinedCommand) : Except StateError (List QuarantinedCommand) := do
  require (decide ((existing ++ additions).map QuarantinedCommand.id).Nodup)
    "quarantine_duplicate_id_conflict"
  return sortBy (fun left right => localeCompare left.id right.id) (existing ++ additions)

/-- The last part of `performReplicaReset`: the store that it writes after the new replica
has synced. `preserve` are the answers of the server, `present` the resources in the new
replica. -/
def finalizeReset (localeCompare : Text → Text → Bool) (tables : ApplicationTables)
    (retained : QuarantineStore) (preserve present : QuarantineIntent → Bool) :
    Except StateError QuarantineStore := do
  assertResetCapacity tables retained
  let additions := retained.pending.map fun item =>
    item.finalized (item.initiallyAuthorized && preserve item && present item)
  require (additions.all fun command => command.bytes ≤ command.reservedBytes)
    "quarantine_representation_reservation_exceeded"
  let merged ← mergeFinalizedQuarantine localeCompare retained.finalized additions
  assertResetCapacity tables ⟨merged, []⟩
  return ⟨merged, []⟩

end Resets

end TraxOs.PowerSync
