import TraxOs.PowerSync.Envelopes
import TraxOs.PowerSync.Receipts
import TraxOs.Theory.Results

/-!
# Agreement on queued commands

An admitted entry travels when the server reads the very command that the client posts
and the client accepts every result that the server answers for it. It does exactly when
its identifiers are canonical and the payload of an update has between 1 and 512 units.
An identifier in upper case is read as another identifier, and everything else is refused
with a status that the client neither counts as a failure nor completes.

Results are read back as long as versions are safe integers. The receipts of a run keep
the versions and the codes that its transactions recorded, so that this is an invariant
of the ledger.
-/

namespace TraxOs.PowerSync

open TraxOs.Theory
open TraxOs.ApiClient (Value Number)

/-- A string with a property. -/
def textSatisfies (property : Text → Bool) : Option Value → Bool
  | some (.text text) => property text
  | _ => false

/-- The length that the server admits of a payload. -/
def payloadLength (payload : Text) : Bool := 1 ≤ payload.length && payload.length ≤ 512

/-- What the server asks of an entry beyond what the client checks. -/
def CrudEntry.wellShaped (entry : CrudEntry) : Bool :=
  let data : Members := entry.opData.getD []
  textSatisfies isVersion4Uuid (some entry.id) && textSatisfies isUuid (data.get "resource_id") &&
    textSatisfies isUuid (data.get "resource_incarnation_id") &&
      (isText (ascii "ps8.resource.soft_delete.v1") (data.get "command_type") ||
        textSatisfies payloadLength (data.get "payload"))

/-- The same of a command. -/
structure Canonical (command : SpikeCommand) : Prop where
  commandId : isVersion4Uuid command.commandId = true
  resourceId : isUuid command.resourceId = true
  incarnationId : isUuid command.resourceIncarnationId = true
  payload : ∀ payload, command.kind = .update payload → payloadLength payload = true

/-- A command with a version that is a positive safe integer. -/
def Versioned (command : SpikeCommand) : Prop :=
  1 ≤ command.expectedRecordVersion ∧ command.expectedRecordVersion ≤ maxSafeInteger

section Checks

variable {α β : Type}

/-- A condition is met when the check succeeds. -/
theorem demand_ok (condition : Bool) (message : String) (value : Unit) :
    demand condition message = .ok value ↔ condition = true := by
  cases condition <;> simp [demand]

/-- A bounded string is a string within its bounds. -/
theorem boundedString_ok (value : Option Value) (label : String) (maximum : Nat) (text : Text) :
    boundedString value label maximum = .ok text ↔
      value = some (.text text) ∧ 1 ≤ text.length ∧ text.length ≤ maximum := by
  unfold boundedString
  split
  · next given =>
    split
    · next bounds =>
      constructor
      · rintro ⟨⟩
        exact ⟨rfl, bounds⟩
      · rintro ⟨⟨⟩, -⟩
        rfl
    · next bounds =>
      constructor
      · rintro ⟨⟩
      · rintro ⟨⟨⟩, within⟩
        exact absurd within bounds
  · next other =>
    constructor
    · rintro ⟨⟩
    · rintro ⟨rfl, -⟩
      exact absurd rfl (other text)

/-- A positive safe integer is read from its number. -/
theorem positiveSafe_number (number : Nat) (positive : 1 ≤ number) (safe : number ≤ maxSafeInteger) :
    positiveSafe (some (numberValue number)) = some ⟨number, positive, safe⟩ := by
  have read : ((number : ℚ).num.toNat) = number := by simp
  simp [positiveSafe, numberValue, Number.rational, positive, safe]

/-- The texts of a shape have no upper-case letters. -/
theorem toLowerCase_shape (classes : List UnitClass) (text : Text)
    (lower : ∀ unitClass ∈ classes, ∀ unit : UInt16, unitClass unit = true → ¬ (65 ≤ unit ∧ unit ≤ 90))
    (matched : matchesAll classes text = true) : toLowerCase text = text := by
  induction classes generalizing text with
  | nil =>
    cases text with
    | nil => rfl
    | cons unit rest => cases matched
  | cons unitClass classes inductionHypothesis =>
    cases text with
    | nil => cases matched
    | cons unit rest =>
      simp only [matchesAll, Bool.and_eq_true] at matched
      have kept := lower unitClass List.mem_cons_self unit matched.1
      have later := inductionHypothesis rest
        (fun other member => lower other (List.mem_cons_of_mem unitClass member)) matched.2
      simp only [toLowerCase, List.map_cons] at later ⊢
      rw [later, if_neg (by simpa using kept)]

/-- An identifier is in lower case. -/
theorem toLowerCase_uuid (text : Text) (valid : isUuid text = true) : toLowerCase text = text := by
  refine toLowerCase_shape _ text ?_ valid
  intro unitClass member unit accepted ⟨atLeast, atMost⟩
  have classes : unitClass ∈ [hexadecimal, fun unit => unit == 45,
      fun unit => 49 ≤ unit && unit ≤ 53,
      fun unit => unit == 56 || unit == 57 || unit == 97 || unit == 98] := by
    simp only [uuidShape, List.mem_append, List.mem_cons, List.mem_replicate] at member
    simp only [List.mem_cons]
    tauto
  rw [UInt16.le_iff_toNat_le] at atLeast atMost
  simp only [List.mem_cons, List.not_mem_nil, or_false] at classes
  obtain rfl | rfl | rfl | rfl := classes
  all_goals
    simp only [hexadecimal, Bool.or_eq_true, Bool.and_eq_true, decide_eq_true_eq, beq_iff_eq,
      UInt16.le_iff_toNat_le, ← UInt16.toNat_inj] at accepted
    simp at accepted atLeast atMost
    omega

/-- An identifier has 36 characters. -/
theorem uuid_length (text : Text) (valid : isUuid text = true) : text.length = 36 :=
  matchesAll_length _ text valid

end Checks

section Queued

/-- What an admitted entry holds. -/
theorem validated_entry (targets : List Text) (entry : CrudEntry) (command : SpikeCommand)
    (admitted : validateQueuedEntry targets entry = .ok command) :
    ∃ data, entry.opData = some data ∧ entry.id = .text command.commandId ∧
      Members.get data "resource_id" = some (.text command.resourceId) ∧
        Members.get data "resource_incarnation_id" = some (.text command.resourceIncarnationId) ∧
          Members.get data "command_type" = some (.text command.kind.type) ∧ Versioned command ∧
            ∀ payload, command.kind = .update payload →
              Members.get data "payload" = some (.text payload) := by
  unfold validateQueuedEntry at admitted
  obtain ⟨_, -, admitted⟩ := (bind_ok _ _ _).mp admitted
  obtain ⟨_, columns, admitted⟩ := (bind_ok _ _ _).mp admitted
  have given := (demand_ok _ _ _).mp columns
  cases present : entry.opData with
  | none => simp [present] at given
  | some data =>
    refine ⟨data, rfl, ?_⟩
    simp only [present, Option.getD_some] at admitted
    split at admitted
    · next id type resourceId incarnationId _ named typed target incarnation _ =>
      obtain ⟨_, -, admitted⟩ := (bind_ok _ _ _).mp admitted
      obtain ⟨expected, -, admitted⟩ := (bind_ok _ _ _).mp admitted
      obtain ⟨_, supported, admitted⟩ := (bind_ok _ _ _).mp admitted
      obtain ⟨_, -, admitted⟩ := (bind_ok _ _ _).mp admitted
      obtain ⟨kind, carried, admitted⟩ := (bind_ok _ _ _).mp admitted
      have known := (demand_ok _ _ _).mp supported
      cases admitted
      refine ⟨named, target, incarnation, ?_⟩
      unfold queuedKind at carried
      split at carried
      · next _ _ text updates sent =>
        obtain rfl := beq_iff_eq.mp updates
        cases carried
        refine ⟨typed, expected.2, ?_⟩
        rintro _ ⟨⟩
        exact sent
      · cases carried
      · next _ _ other _ =>
        simp only [other, Bool.false_or] at known
        obtain rfl := beq_iff_eq.mp known
        cases carried
        exact ⟨typed, expected.2, by simp⟩
      · next _ _ other _ =>
        simp only [other, Bool.false_or] at known
        obtain rfl := beq_iff_eq.mp known
        cases carried
        exact ⟨typed, expected.2, by simp⟩
      · cases carried
    · cases admitted

/-- An admitted entry is well shaped exactly when its command is canonical. -/
theorem wellShaped_iff (targets : List Text) (entry : CrudEntry) (command : SpikeCommand)
    (admitted : validateQueuedEntry targets entry = .ok command) :
    entry.wellShaped = true ↔ Canonical command := by
  obtain ⟨data, present, named, target, incarnation, typed, -, carried⟩ :=
    validated_entry targets entry command admitted
  obtain ⟨commandId, kind, resourceId, incarnationId, expected⟩ := command
  simp only [CrudEntry.wellShaped, present, Option.getD_some, named, target, incarnation, typed,
    textSatisfies, isText, Bool.and_eq_true, Bool.or_eq_true]
  cases kind with
  | update payload =>
    have apart : ((CommandKind.update payload).type == ascii "ps8.resource.soft_delete.v1") = false :=
      rfl
    simp only [carried payload rfl, apart, Bool.false_eq_true, false_or]
    constructor
    · rintro ⟨⟨⟨version, resource⟩, renewed⟩, bounded⟩
      refine ⟨version, resource, renewed, ?_⟩
      rintro _ ⟨⟩
      exact bounded
    · rintro ⟨version, resource, renewed, bounded⟩
      exact ⟨⟨⟨version, resource⟩, renewed⟩, bounded payload rfl⟩
  | softDelete =>
    have same : (CommandKind.softDelete.type == ascii "ps8.resource.soft_delete.v1") = true := rfl
    simp only [same, true_or, and_true]
    constructor
    · rintro ⟨⟨version, resource⟩, renewed⟩
      exact ⟨version, resource, renewed, by simp⟩
    · rintro ⟨version, resource, renewed, _⟩
      exact ⟨⟨version, resource⟩, renewed⟩

/-- An admitted transaction has one entry. -/
theorem validated_crud (crud : List CrudEntry) (commands : List SpikeCommand)
    (admitted : validateQueuedCrud crud = .ok commands) :
    ∃ entry command, crud = [entry] ∧ commands = [command] ∧
      validateQueuedEntry [] entry = .ok command := by
  unfold validateQueuedCrud at admitted
  obtain ⟨_, single, admitted⟩ := (bind_ok _ _ _).mp admitted
  have counted := beq_iff_eq.mp ((demand_ok _ _ _).mp single)
  obtain ⟨entry, rfl⟩ := List.length_eq_one_iff.mp counted
  unfold validateQueuedEntries at admitted
  obtain ⟨command, valid, admitted⟩ := (bind_ok _ _ _).mp admitted
  cases admitted
  exact ⟨entry, command, rfl, rfl, valid⟩

end Queued

section Envelopes

/-- The server reads canonical commands only. -/
theorem parseCommand_canonical (index : Nat) (commandIds targets : List Text) (raw : Value)
    (command : SpikeCommand) (parsed : parseCommand index commandIds targets raw = .ok command) :
    Canonical command ∧ Versioned command := by
  unfold parseCommand at parsed
  obtain ⟨members, -, parsed⟩ := (bind_ok _ _ _).mp parsed
  obtain ⟨_, -, parsed⟩ := (bind_ok _ _ _).mp parsed
  obtain ⟨commandId, -, parsed⟩ := (bind_ok _ _ _).mp parsed
  obtain ⟨resourceId, -, parsed⟩ := (bind_ok _ _ _).mp parsed
  obtain ⟨incarnationId, -, parsed⟩ := (bind_ok _ _ _).mp parsed
  obtain ⟨_, version, parsed⟩ := (bind_ok _ _ _).mp parsed
  obtain ⟨_, resource, parsed⟩ := (bind_ok _ _ _).mp parsed
  obtain ⟨_, incarnation, parsed⟩ := (bind_ok _ _ _).mp parsed
  obtain ⟨_, -, parsed⟩ := (bind_ok _ _ _).mp parsed
  obtain ⟨expected, -, parsed⟩ := (bind_ok _ _ _).mp parsed
  obtain ⟨kind, carried, parsed⟩ := (bind_ok _ _ _).mp parsed
  obtain ⟨_, -, parsed⟩ := (bind_ok _ _ _).mp parsed
  obtain ⟨_, -, parsed⟩ := (bind_ok _ _ _).mp parsed
  cases parsed
  refine ⟨⟨(demand_ok _ _ _).mp version, (demand_ok _ _ _).mp resource,
    (demand_ok _ _ _).mp incarnation, ?_⟩, expected.2⟩
  rintro payload rfl
  unfold postedKind at carried
  split at carried
  · obtain ⟨text, bounded, same⟩ := (map_ok _ _ _).mp carried
    cases same
    obtain ⟨-, nonempty, short⟩ := (boundedString_ok _ _ _ _).mp bounded
    simp [payloadLength, nonempty, short]
  · split at carried
    · cases carried
    · cases carried

/-- An identifier is read as it was written. -/
theorem identifier_ok (text : Text) (label : String) (valid : isUuid text = true) :
    (toLowerCase <$> boundedString (some (.text text)) label 36) = .ok text := by
  have length := uuid_length text valid
  refine (map_ok _ _ _).mpr ⟨text, ?_, toLowerCase_uuid text valid⟩
  exact (boundedString_ok _ _ _ _).mpr ⟨rfl, by omega, by omega⟩

/-- The members of a posted command. -/
def commandMembers (command : SpikeCommand) : Members :=
  [(ascii "commandId", .text command.commandId), (ascii "type", .text command.kind.type),
    (ascii "resourceId", .text command.resourceId),
    (ascii "resourceIncarnationId", .text command.resourceIncarnationId),
    (ascii "expectedRecordVersion", numberValue command.expectedRecordVersion)] ++
      command.kind.payload.toList.map fun payload => (ascii "payload", .text payload)

/-- The server knows all of them. -/
theorem commandMembers_known (command : SpikeCommand) (label : Text) :
    exactKeys (commandMembers command) ["commandId", "type", "resourceId", "resourceIncarnationId",
      "expectedRecordVersion", "payload"] label = .ok () := by
  obtain ⟨commandId, kind, resourceId, incarnationId, expected⟩ := command
  cases kind with
  | update payload => rfl
  | softDelete => rfl

/-- The kind of a canonical command is read as it was written. -/
theorem postedKind_ok (command : SpikeCommand) (canonical : Canonical command) :
    postedKind (isText (ascii "ps8.resource.update.v1") (some (.text command.kind.type)))
      ((commandMembers command).get "payload") = .ok command.kind := by
  obtain ⟨commandId, kind, resourceId, incarnationId, expected⟩ := command
  cases kind with
  | update payload =>
    have bounded := canonical.payload payload rfl
    simp only [payloadLength, Bool.and_eq_true, decide_eq_true_eq] at bounded
    refine (map_ok _ _ _).mpr ⟨payload, ?_, rfl⟩
    exact (boundedString_ok _ _ _ _).mpr ⟨rfl, bounded⟩
  | softDelete => rfl

/-- A canonical command is read as it was written. -/
theorem parseCommand_commandValue (index : Nat) (command : SpikeCommand)
    (canonical : Canonical command) (versioned : Versioned command) :
    parseCommand index [] [] (commandValue command) = .ok command := by
  have supported : (isText (ascii "ps8.resource.update.v1") (some (.text command.kind.type)) ||
      isText (ascii "ps8.resource.soft_delete.v1") (some (.text command.kind.type))) = true := by
    cases command.kind with
    | update payload => rfl
    | softDelete => rfl
  have number : assertPositiveExpectedRecordVersion (some (numberValue command.expectedRecordVersion))
      = .ok ⟨command.expectedRecordVersion, versioned⟩ := by
    rw [assertPositiveExpectedRecordVersion, positiveSafe_number _ versioned.1 versioned.2]
  unfold parseCommand
  refine (bind_ok _ _ _).mpr ⟨commandMembers command, rfl, ?_⟩
  refine (bind_ok _ _ _).mpr ⟨(), commandMembers_known command _, ?_⟩
  refine (bind_ok _ _ _).mpr ⟨_, identifier_ok _ _ (isUuid_of_version4 _ canonical.commandId), ?_⟩
  refine (bind_ok _ _ _).mpr ⟨_, identifier_ok _ _ canonical.resourceId, ?_⟩
  refine (bind_ok _ _ _).mpr ⟨_, identifier_ok _ _ canonical.incarnationId, ?_⟩
  refine (bind_ok _ _ _).mpr ⟨(), (demand_ok _ _ _).mpr canonical.commandId, ?_⟩
  refine (bind_ok _ _ _).mpr ⟨(), (demand_ok _ _ _).mpr canonical.resourceId, ?_⟩
  refine (bind_ok _ _ _).mpr ⟨(), (demand_ok _ _ _).mpr canonical.incarnationId, ?_⟩
  refine (bind_ok _ _ _).mpr ⟨(), (demand_ok _ _ _).mpr supported, ?_⟩
  refine (bind_ok _ _ _).mpr ⟨_, number, ?_⟩
  refine (bind_ok _ _ _).mpr ⟨_, postedKind_ok command canonical, ?_⟩
  rfl

/-- The local identifier of a transaction is a bounded string. -/
theorem localTransactionId_ok (transaction : CrudTransaction) :
    boundedString (some (.text (localTransactionId transaction))) "localTransactionId" 128 =
      .ok (localTransactionId transaction) := by
  refine (boundedString_ok _ _ _ _).mpr ⟨rfl, ?_⟩
  unfold localTransactionId
  split
  · next number _ =>
    unfold numeral
    split
    · decide
    · next positive =>
      have digits : (Nat.digits 10 number.val).length ≤ 16 := by
        rw [Nat.digits_length_le_iff (by decide)]
        exact lt_of_lt_of_le number.isLt (by decide)
      have some_digit : Nat.digits 10 number.val ≠ [] := Nat.digits_ne_nil_iff_ne_zero.mpr positive
      have counted := List.length_pos_iff.mpr some_digit
      simp only [decimal, List.length_map, List.length_reverse]
      omega
  · decide

/-- The members of a posted envelope. -/
def envelopeMembers (session : ReplicaSessionSecret) (transaction : CrudTransaction)
    (commands : List SpikeCommand) : Members :=
  [(ascii "spikeProtocol", numberValue 1), (ascii "replicaId", .text session.binding.replicaId),
    (ascii "replicaEpoch", numberValue session.binding.replicaEpoch),
    (ascii "localTransactionId", .text (localTransactionId transaction)),
    (ascii "commands", .array (commands.map commandValue))]

/-- The envelope of a posted command. -/
theorem parseEnvelope_body (session : ReplicaSessionSecret) (transaction : CrudTransaction)
    (command : SpikeCommand) (envelope : SpikeCommandEnvelope) :
    parseCommandEnvelope (uploadBody session transaction [command]) = .ok envelope ↔
      ∃ received, parseCommand 0 [] [] (commandValue command) = .ok received ∧
        envelope = ⟨session.binding, localTransactionId transaction, [received]⟩ := by
  have epoch : positiveSafe ((envelopeMembers session transaction [command]).get "replicaEpoch") =
      some ⟨session.binding.replicaEpoch, session.binding.positive, session.binding.safe⟩ :=
    positiveSafe_number _ session.binding.positive session.binding.safe
  have named := identifier_ok session.binding.replicaId "replicaId" session.binding.identified
  have numbered := localTransactionId_ok transaction
  have steps : parseCommandEnvelope (uploadBody session transaction [command]) =
      (parseCommands 0 [] [] [commandValue command] >>= fun commands =>
        .ok ⟨session.binding, localTransactionId transaction, commands⟩) := by
    change (toLowerCase <$> boundedString (some (.text session.binding.replicaId)) "replicaId" 36
      >>= _) = _
    rw [named]
    change (if valid : isUuid session.binding.replicaId = true then _ else _) = _
    simp only [envelopeMembers] at epoch
    rw [dif_pos session.binding.identified, epoch]
    change (boundedString (some (.text (localTransactionId transaction))) "localTransactionId" 128
      >>= _) = _
    rw [numbered]
    rfl
  rw [steps, bind_ok]
  simp only [parseCommands, bind_ok]
  constructor
  · rintro ⟨_, ⟨received, parsed, _, ⟨⟩, ⟨⟩⟩, ⟨⟩⟩
    exact ⟨received, parsed, rfl⟩
  · rintro ⟨received, parsed, rfl⟩
    exact ⟨[received], ⟨received, parsed, [], rfl, rfl⟩, rfl⟩

end Envelopes

section Results

variable (platform : ClientPlatform)

/-- The state that a result with a code has. -/
def ResultCode.state : ResultCode → ResultState
  | .applied | .alreadyApplied => .applied
  | .optimisticConflict | .staleIncarnation => .conflict
  | .commandDenied => .denied

/-- The client expects it. -/
theorem expectedState_text (code : ResultCode) :
    expectedState (some (.text code.text)) = code.state.text := by
  cases code <;> rfl

/-- A result of a command that the client can read. -/
structure ReadableFor (command : SpikeCommand) (binding : ReplicaBinding)
    (result : SpikeCommandResult) : Prop where
  commandId : result.commandId = command.commandId
  resourceId : result.resourceId = command.resourceId
  digest : result.digest = commandDigest platform.toPlatform command binding
  state : result.state = result.code.state
  previous : 1 ≤ result.previousVersion ∧ result.previousVersion ≤ maxSafeInteger
  current : 1 ≤ result.currentVersion ∧ result.currentVersion ≤ maxSafeInteger
  attempt : 1 ≤ result.attemptNumber ∧ result.attemptNumber ≤ maxSafeInteger

/-- A readable result is read. -/
theorem parseResult_ok (command : SpikeCommand) (binding : ReplicaBinding)
    (result : SpikeCommandResult) (readable : ReadableFor platform command binding result) :
    parseResult platform binding [command] (.object (resultMembers result)) =
      .ok (resultMembers result, []) := by
  have found : [command].find? (fun other => other.commandId == platform.string
      (Members.get (resultMembers result) "commandId")) = some command := by
    have named : platform.string (Members.get (resultMembers result) "commandId") = result.commandId := rfl
    simp [named, readable.commandId]
  have known : ∀ state : ResultState, (isText (ascii "applied") (some (.text state.text)) ||
      isText (ascii "conflict") (some (.text state.text)) ||
        isText (ascii "denied") (some (.text state.text))) = true := by
    intro state
    cases state <;> rfl
  have coded : resultCodes.contains (platform.string (some (.text result.code.text))) = true := by
    cases result.code <;> rfl
  have consistent : isText (expectedState (some (.text result.code.text)))
      (some (.text result.state.text)) = true := by
    rw [expectedState_text, readable.state]
    simp [isText]
  have named : (isText command.resourceId (some (.text result.resourceId)) &&
      isText (commandDigest platform.toPlatform command binding) (some (.text result.digest))) = true := by
    simp [isText, readable.resourceId, readable.digest]
  have safe : ∀ number, 1 ≤ number ∧ number ≤ maxSafeInteger →
      (positiveSafe (some (numberValue number))).isSome = true := by
    intro number bounds
    rw [positiveSafe_number number bounds.1 bounds.2]
    rfl
  unfold parseResult
  refine (bind_ok _ _ _).mpr ⟨resultMembers result, rfl, ?_⟩
  refine (bind_ok _ _ _).mpr ⟨(), rfl, ?_⟩
  simp only [found]
  refine (bind_ok _ _ _).mpr ⟨(), (demand_ok _ _ _).mpr named, ?_⟩
  refine (bind_ok _ _ _).mpr ⟨(), (demand_ok _ _ _).mpr (known result.state), ?_⟩
  refine (bind_ok _ _ _).mpr ⟨(), (demand_ok _ _ _).mpr coded, ?_⟩
  refine (bind_ok _ _ _).mpr ⟨(), (demand_ok _ _ _).mpr consistent, ?_⟩
  refine (bind_ok _ _ _).mpr ⟨(), (demand_ok _ _ _).mpr (safe _ readable.previous), ?_⟩
  refine (bind_ok _ _ _).mpr ⟨(), (demand_ok _ _ _).mpr (safe _ readable.current), ?_⟩
  refine (bind_ok _ _ _).mpr ⟨(), (demand_ok _ _ _).mpr (safe _ readable.attempt), ?_⟩
  have awaited : [command].filter (fun other => other.commandId != command.commandId) = [] := by
    simp
  rw [awaited]
  rfl

/-- An answer with a readable result is read. -/
theorem parseCommandResponse_ok (command : SpikeCommand) (binding : ReplicaBinding)
    (result : SpikeCommandResult) (readable : ReadableFor platform command binding result) :
    parseCommandResponse platform (responseBody result) [command] binding =
      .ok [resultMembers result] := by
  have results : parseResults platform binding [command] [.object (resultMembers result)] =
      .ok ([resultMembers result], []) := by
    unfold parseResults
    refine (bind_ok _ _ _).mpr ⟨_, parseResult_ok platform command binding result readable, ?_⟩
    rfl
  change (parseResults platform binding [command] [.object (resultMembers result)] >>= _) = _
  rw [results]
  rfl

/-- An answer that is read completes the transaction, under the status that the server
gives it. -/
theorem uploadData_completed (session : ReplicaSessionSecret) (command : SpikeCommand)
    (failures status : Nat) (result : SpikeCommandResult)
    (readable : ReadableFor platform command session.binding result)
    (answered : status = 200 ∨ status = 403 ∧ result.state = .denied) :
    uploadData platform session [command] failures (some (status, some (responseBody result))) =
      .completed [resultMembers result] := by
  have read := parseCommandResponse_ok platform command session.binding result readable
  obtain rfl | ⟨rfl, denied⟩ := answered
  · simp [uploadData, read, completeWith]
  · have first : firstDenied [resultMembers result] = true := by
      change isText (ascii "denied") (some (.text result.state.text)) = true
      rw [denied]
      rfl
    simp [uploadData, read, first]

end Results

section Receipts

variable {platform : Platform} {before after : Database}

/-- A command whose version and attempt are positive safe integers, as in a parsed envelope. -/
structure Measured (call : CommandCall) : Prop where
  versioned : Versioned call.command
  attempted : 1 ≤ call.attemptNumber ∧ call.attemptNumber ≤ maxSafeInteger

/-- A receipt that the client can read in every answer. -/
structure Receipt.Readable (receipt : Receipt) : Prop where
  state : receipt.resultState = receipt.resultCode.state
  previous : 1 ≤ receipt.previousVersion ∧ receipt.previousVersion ≤ maxSafeInteger
  current : 1 ≤ receipt.currentVersion ∧ receipt.currentVersion ≤ maxSafeInteger

/-- The receipts that a command can leave. -/
inductive Leaves (platform : Platform) (call : CommandCall) (before : Database) : Receipt → Prop where
  | denied : Leaves platform call before
      (call.receipt platform .denied .commandDenied call.command.expectedRecordVersion)
  | refused (code : ResultCode) (resource : Resource) (conflicts : code.state = .conflict)
      (found : before.lookup (Key.resource call.command.resourceId) = some resource) :
      Leaves platform call before (call.receipt platform .conflict code resource.version)
  | applied (resource : Resource)
      (found : before.lookup (Key.resource call.command.resourceId) = some resource)
      (version : resource.version = call.command.expectedRecordVersion) :
      Leaves platform call before (call.appliedReceipt platform)

/-- A commit leaves the receipts that were there, and at most one of its command. -/
theorem commit_receipts (request : Request) (reply : Reply) (before after : Database)
    (committed : Committed platform request reply before after) (userId commandId : Uuid)
    (receipt : Receipt) (found : after.lookup (Key.receipt userId commandId) = some receipt) :
    before.lookup (Key.receipt userId commandId) = some receipt ∨
      ∃ call, request = call.request ∧ Leaves platform call before receipt := by
  have spared : ∀ keys, Spares keys before after → Key.receipt userId commandId ∉ keys →
      before.lookup (Key.receipt userId commandId) = some receipt :=
    fun keys spares other => (spares _ other).symm.trans found
  have written : ∀ (call : CommandCall) (row : Receipt), Records call row before after →
      Leaves platform call before row → before.lookup (Key.receipt userId commandId) = some receipt ∨
        Leaves platform call before receipt := by
    intro call row records leaves
    by_cases own : Key.receipt userId commandId = call.receiptKey
    · obtain ⟨rfl, rfl⟩ := Key.receipt.inj own
      obtain rfl : row = receipt := Option.some.inj (records.receipt.symm.trans found)
      exact Or.inr leaves
    · exact Or.inl (spared _ records.spared (by simpa using own))
  cases committed with
  | counted _ _ _ _ _ _ _ spares => exact Or.inl (spared _ spares (by simp))
  | registered _ _ _ _ _ _ _ _ spares => exact Or.inl (spared _ spares (by simp))
  | challenged _ _ _ _ _ _ _ _ _ _ spares => exact Or.inl ((spares _ (by simp)).symm.trans found)
  | acknowledged _ _ _ _ _ _ _ _ _ _ _ spares => exact Or.inl (spared _ spares (by simp))
  | rotated _ _ _ _ _ _ _ _ _ _ _ _ spares => exact Or.inl (spared _ spares (by simp))
  | settled _ _ _ _ _ _ _ _ _ _ spares => exact Or.inl (spared _ spares (by simp))
  | disabled _ _ _ _ _ _ _ spares => exact Or.inl (spared _ spares (by simp))
  | created _ _ _ _ _ _ _ _ _ spares => exact Or.inl (spared _ spares (by simp))
  | refreshed _ _ _ _ spares => exact Or.inl (spared _ spares (by simp))
  | buried _ _ _ _ _ _ _ _ spares => exact Or.inl (spared _ spares (by simp))
  | reburied _ _ _ _ _ _ _ _ _ spares => exact Or.inl (spared _ spares (by simp))
  | timed _ _ _ _ _ _ _ spares => exact Or.inl (spared _ spares (by simp))
  | prolonged _ _ _ _ _ _ _ spares => exact Or.inl (spared _ spares (by simp))
  | retained _ _ _ _ _ _ _ _ retains =>
    exact Or.inl ((retains.spared _ (by simp) (by simp) (by simp) (by simp)).symm.trans found)
  | denied call _ _ _ _ _ records =>
    obtain kept | leaves := written call _ records .denied
    · exact Or.inl kept
    · exact Or.inr ⟨call, rfl, leaves⟩
  | refused call _ resource code _ _ _ _ there cause records =>
    have conflicts : code.state = .conflict := by
      obtain ⟨rfl, _⟩ | ⟨rfl, _⟩ := cause
      · rfl
      · rfl
    obtain kept | leaves := written call _ records (.refused code resource conflicts there)
    · exact Or.inl kept
    · exact Or.inr ⟨call, rfl, leaves⟩
  | applied call _ _ _ _ _ applies =>
    obtain ⟨row, _, there, _, _, version, _⟩ := applies.changes
    by_cases own : Key.receipt userId commandId = call.receiptKey
    · obtain ⟨rfl, rfl⟩ := Key.receipt.inj own
      obtain rfl := Option.some.inj (applies.receipt.symm.trans found)
      exact Or.inr ⟨call, rfl, .applied row there version⟩
    · obtain ⟨_, spares⟩ | ⟨_, _, _, _, _, spares⟩ := applies.buries
      · exact Or.inl (spared _ spares (by simpa using own))
      · exact Or.inl (spared _ spares (by simpa using own))
  | _ => exact Or.inl found

/-- What a measured command leaves can be read, while versions are below the largest safe
integer. -/
theorem leaves_readable (call : CommandCall) (measured : Measured call)
    (safe : ∀ id (row : Resource), before.lookup (Key.resource id) = some row →
      row.version < maxSafeInteger) (receipt : Receipt)
    (leaves : Leaves platform call before receipt) : receipt.Readable := by
  cases leaves with
  | denied => exact ⟨rfl, measured.versioned, measured.versioned⟩
  | refused code resource conflicts found =>
    exact ⟨conflicts.symm, measured.versioned, resource.versionPositive, (safe _ _ found).le⟩
  | applied resource found version =>
    have below := safe _ _ found
    refine ⟨rfl, measured.versioned, ?_, ?_⟩
    · exact Nat.succ_pos _
    · rw [version] at below
      exact below

/-- Every state that a history commits from has versions below the largest safe integer,
and every command that it carries is measured. -/
def WithinIntegers (history : List (Commit Row Request Reply)) : Prop :=
  ∀ commit ∈ history, (∀ id (row : Resource), commit.before.lookup (Key.resource id) = some row →
      row.version < maxSafeInteger) ∧
    ∀ call : CommandCall, commit.request = call.request → Measured call

/-- The receipts of such a history can be read. -/
theorem linked_readable (first last : Database) (history : List (Commit Row Request Reply))
    (linked : Linked (Committed platform) first history last) (within : WithinIntegers history)
    (holds : ∀ userId commandId (receipt : Receipt),
      first.lookup (Key.receipt userId commandId) = some receipt → receipt.Readable) :
    ∀ userId commandId (receipt : Receipt),
      last.lookup (Key.receipt userId commandId) = some receipt → receipt.Readable := by
  induction linked with
  | nil => exact holds
  | snoc history commit _ related inductionHypothesis =>
    have earlier := inductionHypothesis fun other member => within other (by simp [member])
    obtain ⟨safe, measured⟩ := within commit (by simp)
    intro userId commandId receipt found
    obtain kept | ⟨call, asked, leaves⟩ := commit_receipts _ _ _ _ related userId commandId receipt found
    · exact earlier userId commandId receipt kept
    · exact leaves_readable call (measured call asked) safe receipt leaves

/-- The result that reports a readable receipt can be read. -/
theorem receipt_readable (platform : ClientPlatform) (call : CommandCall) (receipt : Receipt)
    (measured : Measured call) (readable : receipt.Readable)
    (binds : receipt.binds platform.toPlatform call.binding call.command = true) :
    (∀ replay, ReadableFor platform call.command call.binding
      (resultFromReceipt call.command.commandId receipt call.attemptNumber replay)) ∧
      ReadableFor platform call.command call.binding
        (deniedResultFromDurableReceipt call.command.commandId receipt call.attemptNumber) := by
  simp only [Receipt.binds, Bool.and_eq_true, decide_eq_true_eq] at binds
  obtain ⟨⟨⟨_, _⟩, resource⟩, digest⟩ := binds
  constructor
  · intro replay
    refine ⟨rfl, resource, digest, ?_, readable.previous, readable.current, measured.attempted⟩
    simp only [resultFromReceipt]
    split
    · next again => rw [readable.state, again.2]; rfl
    · exact readable.state
  · exact ⟨rfl, resource, digest, rfl, readable.previous, readable.current, measured.attempted⟩

end Receipts

/-- A queued transaction agrees on both sides: the server reads the posted commands for the
posted replica, so that both sides hash the same, and in every run of the command server
the client accepts each result of them and completes the transaction. -/
structure Agrees (platform : ClientPlatform) (session : ReplicaSessionSecret)
    (transaction : CrudTransaction) (commands : List SpikeCommand) : Prop where
  received : ∃ envelope, parseCommandEnvelope (uploadBody session transaction commands) = .ok envelope ∧
    envelope.binding = session.binding ∧ envelope.commands = commands ∧
      envelope.commands.map (commandDigest platform.toPlatform · envelope.binding) =
        commands.map (commandDigest platform.toPlatform · session.binding)
  settled : ∀ (envelope : SpikeCommandEnvelope)
      (permits : System Name Row Res Failure Request Reply → Event Request → Prop) (db : Database)
      (last : System Name Row Res Failure Request Reply),
    parseCommandEnvelope (uploadBody session transaction commands) = .ok envelope →
      Sequenced db → LedgerEmpty db →
        Run (commandServer platform.toPlatform) permits (System.initial db) last →
          WithinIntegers last.history → ∀ commit ∈ last.history,
            ∀ (call : CommandCall) (status : Nat) (result : SpikeCommandResult),
              commit.request = call.request → call.binding = envelope.binding →
                [call.command] = envelope.commands → commit.reply = .results status result →
                  parseCommandResponse platform (responseBody result) commands session.binding =
                      .ok [resultMembers result] ∧
                    ∀ failures, uploadData platform session commands failures
                      (some (status, some (responseBody result))) = .completed [resultMembers result]

section Runs

variable {platform : ClientPlatform}

/-- A result of a run is one that the client of its command can read. -/
theorem history_results (permits : System Name Row Res Failure Request Reply → Event Request → Prop)
    (db : Database) (holds : Sequenced db) (empty : LedgerEmpty db)
    (last : System Name Row Res Failure Request Reply)
    (run : Run (commandServer platform.toPlatform) permits (System.initial db) last)
    (within : WithinIntegers last.history) (commit : Commit Row Request Reply)
    (member : commit ∈ last.history) (call : CommandCall) (status : Nat) (result : SpikeCommandResult)
    (asked : commit.request = call.request) (told : commit.reply = .results status result) :
    ReadableFor platform call.command call.binding result ∧
      (status = 200 ∨ status = 403 ∧ result.state = .denied) := by
  have committed := history_committed platform.toPlatform permits db holds last run
  obtain ⟨index, place⟩ := List.getElem?_of_mem member
  obtain ⟨-, after, related⟩ := committed.around index commit place
  have front := (committed.split (index + 1) commit.after after).1
  have readable := linked_readable db commit.after _ front
    (fun other taken => within other (List.mem_of_mem_take taken))
    (fun userId commandId receipt found => by rw [empty.receipts] at found; cases found)
  obtain ⟨receipt, written, binds, reported⟩ :=
    commit_results call _ _ _ _ related asked status result told
  have measured := (within commit member).2 call asked
  obtain ⟨replays, denies⟩ := receipt_readable platform call receipt measured
    (readable _ _ receipt written) binds
  obtain ⟨rfl, replay, rfl⟩ | ⟨rfl, rfl⟩ := reported
  · exact ⟨replays replay, Or.inl rfl⟩
  · exact ⟨denies, Or.inr ⟨rfl, rfl⟩⟩

/-- For every session that the client can hold, an admitted transaction agrees on both sides
exactly when its entry is well shaped. -/
theorem queue_agreement (platform : ClientPlatform) (document : Value) (transaction : CrudTransaction)
    (commands : List SpikeCommand) (admitted : validateQueuedCrud transaction.crud = .ok commands) :
    ∀ session, parseReplicaSessionSecret document = .ok session →
      (Agrees platform session transaction commands ↔
        ∀ entry ∈ transaction.crud, entry.wellShaped = true) := by
  intro session _
  obtain ⟨entry, command, single, rfl, valid⟩ := validated_crud _ _ admitted
  obtain ⟨_, _, _, _, _, _, versioned, _⟩ := validated_entry [] entry command valid
  rw [single, List.forall_mem_singleton, wellShaped_iff [] entry command valid]
  constructor
  · intro agrees
    obtain ⟨envelope, parsed, -, same, -⟩ := agrees.received
    obtain ⟨received, read, rfl⟩ := (parseEnvelope_body _ _ _ _).mp parsed
    obtain rfl : received = command := List.singleton_inj.mp same
    exact (parseCommand_canonical _ _ _ _ _ read).1
  · intro canonical
    have read := parseCommand_commandValue 0 command canonical versioned
    constructor
    · exact ⟨⟨session.binding, localTransactionId transaction, [command]⟩,
        (parseEnvelope_body _ _ _ _).mpr ⟨command, read, rfl⟩, rfl, rfl, rfl⟩
    · intro envelope permits db last parsed holds empty run within commit member call status result
        asked bound carried told
      obtain ⟨received, again, rfl⟩ := (parseEnvelope_body _ _ _ _).mp parsed
      obtain rfl := Except.ok.inj (again.symm.trans read)
      obtain rfl := List.singleton_inj.mp carried
      obtain ⟨readable, answered⟩ := history_results permits db holds empty last run within commit
        member call status result asked told
      rw [bound] at readable
      exact ⟨parseCommandResponse_ok platform _ _ result readable,
        fun failures => uploadData_completed platform session _ failures status result readable answered⟩

end Runs

namespace Sample

/-- A client over the sample hashes. -/
def client : ClientPlatform := ⟨platform, fun _ => ascii "object"⟩

/-- A session document of the sample replica. -/
def sessionDocument : Value :=
  .object [(ascii "replicaId", .text replicaId), (ascii "replicaEpoch", numberValue 1),
    (ascii "credential", .text (ascii "r2_" ++ List.replicate 43 65))]

/-- A queued update with a payload. -/
def queued (payload : Text) : CrudTransaction where
  crud := [
    { table := ascii "command_queue"
      op := ascii "PUT"
      id := .text (ascii "66666666-6666-4666-8666-666666666666")
      opData := some [(ascii "command_type", .text (ascii "ps8.resource.update.v1")),
        (ascii "command_version", numberValue 1), (ascii "resource_id", .text document),
        (ascii "resource_incarnation_id", .text incarnationId),
        (ascii "expected_record_version", numberValue 1), (ascii "payload", .text payload),
        (ascii "upload_correlation_id", .text (ascii "correlation"))] }]
  transactionId := some 1

end Sample

/-- A queued update with a text agrees. -/
theorem queue_agreement_text : ∃ session commands,
    parseReplicaSessionSecret Sample.sessionDocument = .ok session ∧
      validateQueuedCrud (Sample.queued (ascii "text")).crud = .ok commands ∧
        Agrees Sample.client session (Sample.queued (ascii "text")) commands := by
  refine ⟨_, _, rfl, rfl, ?_⟩
  exact (queue_agreement Sample.client Sample.sessionDocument (Sample.queued (ascii "text")) _ rfl _
    rfl).mpr (by decide)

/-- An update with an empty payload is admitted, refused by the server, and left in the queue
by every upload that is answered. -/
theorem empty_payload_stuck : ∃ session commands message,
    parseReplicaSessionSecret Sample.sessionDocument = .ok session ∧
      validateQueuedCrud (Sample.queued []).crud = .ok commands ∧
        parseCommandEnvelope (uploadBody session (Sample.queued []) commands) = .error message ∧
          ∀ failures, uploadData Sample.client session commands failures
            (some (400, some (invalidCommandBody message))) =
              .thrown (ascii "Spike command upload failed with HTTP 400.") := by
  refine ⟨_, _, _, rfl, rfl, rfl, fun failures => rfl⟩

end TraxOs.PowerSync
