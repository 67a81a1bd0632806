import TraxOs.PowerSync.ApplicationSafety
import TraxOs.PowerSync.Quarantine

/-!
# What a reset reserves

Admission charges a command for the object that `bindCommand` serialises, the quarantine
charges it for the largest of three other objects. All of them have the same texts in
them, so that their sizes differ by a constant: for a command whose payload is preserved
the quarantine charges 69 bytes more. The reservation of the overlay absorbs the difference
only as far as it exceeds the size of the command.
-/

namespace TraxOs.PowerSync

open TraxOs.Theory

section Sizes

/-- The bytes of the values that an entry has beside its payload. -/
def QuarantineEntry.fieldBytes (entry : QuarantineEntry) : Nat :=
  textBytes entry.id + textBytes entry.resourceId + textBytes entry.resourceIncarnationId +
    textBytes entry.commandType + (Scalar.ofNumber entry.expectedRecordVersion).bytes

/-- The bytes of a payload or of `null`. -/
def payloadBytes (payload : Option Text) : Nat := (Scalar.ofText payload).bytes

/-- No payload is shorter than its quotation marks. -/
theorem two_le_payloadBytes (payload : Option Text) : 2 ≤ payloadBytes payload := by
  cases payload with
  | none => decide
  | some text => exact Nat.le_add_left 2 (contentBytes text)

/-- The size of an object is that of its names and of its values. -/
theorem objectBytes_cons (name : String) (value : Scalar) (members : List (String × Scalar))
    (more : members ≠ []) :
    objectBytes ((name, value) :: members) =
      textBytes (ascii name) + value.bytes + 2 + objectBytes members := by
  obtain ⟨first, rest, rfl⟩ := List.exists_cons_of_ne_nil more
  simp only [objectBytes, List.length_cons, List.map_cons, List.sum_cons]
  omega

/-- An object with one member. -/
theorem objectBytes_single (name : String) (value : Scalar) :
    objectBytes [(name, value)] = textBytes (ascii name) + value.bytes + 3 := by
  simp only [objectBytes, List.length_cons, List.length_nil, List.map_cons, List.map_nil,
    List.sum_cons, List.sum_nil]
  omega

/-- The size of a bound command. -/
theorem commandBytes_eq (commandId type resourceId resourceIncarnationId : Text)
    (expectedRecordVersion : Nat) (payload : Option Text) :
    commandBytes commandId type resourceId resourceIncarnationId expectedRecordVersion payload =
      97 + (textBytes commandId + textBytes resourceId + textBytes resourceIncarnationId +
        textBytes type + (numeral expectedRecordVersion).length) + payloadBytes payload := by
  have names : textBytes (ascii "commandId") = 11 ∧ textBytes (ascii "type") = 6 ∧
      textBytes (ascii "resourceId") = 12 ∧ textBytes (ascii "resourceIncarnationId") = 23 ∧
      textBytes (ascii "expectedRecordVersion") = 23 ∧ textBytes (ascii "payload") = 9 := by decide
  obtain ⟨one, two, three, four, five, six⟩ := names
  simp only [commandBytes, payloadBytes, objectBytes_cons, objectBytes_single, ne_eq,
    reduceCtorEq, not_false_eq_true, Scalar.bytes, one, two, three, four, five, six]
  omega

/-- The size of an intent. -/
theorem pendingBytes_eq (entry : QuarantineEntry) (initiallyAuthorized : Bool) (reserved : Nat) :
    entry.pendingBytes initiallyAuthorized reserved =
      144 + entry.fieldBytes + payloadBytes entry.payload +
        (Scalar.boolean initiallyAuthorized).bytes + (numeral reserved).length := by
  have names : textBytes (ascii "id") = 4 ∧ textBytes (ascii "resource_id") = 13 ∧
      textBytes (ascii "resource_incarnation_id") = 25 ∧ textBytes (ascii "command_type") = 14 ∧
      textBytes (ascii "payload") = 9 ∧ textBytes (ascii "expected_record_version") = 25 ∧
      textBytes (ascii "initiallyAuthorized") = 21 ∧ textBytes (ascii "reserved_bytes") = 16 := by
    decide
  obtain ⟨one, two, three, four, five, six, seven, eight⟩ := names
  simp only [QuarantineEntry.pendingBytes, QuarantineEntry.fieldBytes, payloadBytes,
    objectBytes_cons, objectBytes_single, ne_eq, reduceCtorEq, not_false_eq_true, one, two, three,
    four, five, six, seven, eight]
  simp only [Scalar.bytes]
  omega

/-- The size of a finalized entry. -/
theorem finalizedBytes_eq (entry : QuarantineEntry) (state : QuarantineState)
    (payload : Option Text) (exportable reserved : Nat) :
    entry.finalizedBytes state payload exportable reserved =
      144 + entry.fieldBytes + payloadBytes payload + textBytes state.text +
        (numeral exportable).length + (numeral reserved).length := by
  have names : textBytes (ascii "id") = 4 ∧ textBytes (ascii "resource_id") = 13 ∧
      textBytes (ascii "resource_incarnation_id") = 25 ∧ textBytes (ascii "command_type") = 14 ∧
      textBytes (ascii "payload") = 9 ∧ textBytes (ascii "expected_record_version") = 25 ∧
      textBytes (ascii "state") = 7 ∧ textBytes (ascii "exportable") = 12 ∧
      textBytes (ascii "reserved_bytes") = 16 := by decide
  obtain ⟨one, two, three, four, five, six, seven, eight, nine⟩ := names
  simp only [QuarantineEntry.finalizedBytes, QuarantineEntry.fieldBytes, payloadBytes,
    objectBytes_cons, objectBytes_single, ne_eq, reduceCtorEq, not_false_eq_true, one, two, three,
    four, five, six, seven, eight, nine]
  simp only [Scalar.bytes]
  omega

/-- The reservation of an entry is the size of its finalized form for review, at least
that of a result. -/
theorem quarantineEntryReservationBytes_eq (entry : QuarantineEntry) :
    quarantineEntryReservationBytes entry =
      max 512 (166 + entry.fieldBytes + payloadBytes entry.payload) := by
  have states : textBytes QuarantineState.pendingReview.text = 16 ∧
      textBytes QuarantineState.invalidated.text = 13 ∧ payloadBytes none = 4 ∧
      (numeral 0).length = 1 ∧ (numeral 1).length = 1 ∧
      (numeral maxSerializedOutstandingBytes).length = 5 ∧ (Scalar.boolean true).bytes = 4 := by
    decide
  obtain ⟨review, invalidated, missing, zero, one, ceiling, affirmed⟩ := states
  have payload := two_le_payloadBytes entry.payload
  simp only [quarantineEntryReservationBytes, pendingBytes_eq, finalizedBytes_eq, review,
    invalidated, missing, zero, one, ceiling, affirmed, terminalResultReservationBytes]
  omega

end Sizes

section Admission

/-- An overlay that `queueCommands` wrote. -/
structure OverlayRow.Admitted (row : OverlayRow) : Prop where
  actual : row.actualSerializedBytes = commandBytes row.id row.commandType row.resourceId
    row.resourceIncarnationId row.expectedRecordVersion row.payload
  reserved : row.serializedBytes = max row.actualSerializedBytes terminalResultReservationBytes
  incarnation : row.resourceIncarnationId ≠ []
  version : 1 ≤ row.expectedRecordVersion ∧ row.expectedRecordVersion ≤ maxSafeInteger

/-- A bound command makes such an overlay. -/
theorem bindCommand_admitted (command : QueuedCommandInput) (replicated : Option Text)
    (bound : BoundCommand) (done : bindCommand command replicated = .ok bound) :
    bound.overlay.Admitted := by
  unfold bindCommand at done
  obtain ⟨_, versioned, rest⟩ := (bind_ok _ _ _).mp done
  rw [require_ok, Bool.and_eq_true, decide_eq_true_iff, decide_eq_true_iff] at versioned
  split at rest
  · cases rest
  · cases rest
  · next incarnation other _ =>
    obtain ⟨reserved, passed, rest⟩ := (bind_ok _ _ _).mp rest
    obtain rfl := Except.ok.inj rest
    exact ⟨rfl, reservedOutstandingBytes_ok _ _ passed, fun empty => other empty, versioned⟩

/-- `persistResults` makes no overlay. -/
theorem persistResults_overlays (results : List TerminalResultRecord) (tables : ApplicationTables) :
    ∀ row ∈ (persistResults results tables).2.overlays, row ∈ tables.overlays := by
  refine transaction_related persistResult
    (fun before after => ∀ row ∈ after.overlays, row ∈ before.overlays) (fun _ _ there => there)
    (fun _ _ _ one two row there => one row (two row there)) results ?_ tables
  intro result _ state next done row there
  rcases persistResult_done result state next done with ⟨_, _, _, rfl⟩ | ⟨_, _, _, _, rfl⟩
  · exact (List.mem_filter.mp there).1
  · exact (List.mem_filter.mp there).1

/-- Every overlay in a state that a client reaches was written by `queueCommands`. -/
theorem stateAfter_admitted (operations : List Operation) :
    ∀ row ∈ (stateAfter operations).overlays, row.Admitted := by
  induction operations using List.reverseRecOn with
  | nil => simp [stateAfter, ApplicationTables.empty]
  | append_singleton earlier operation inductionHypothesis =>
    rw [stateAfter_concat]
    intro row there
    cases operation with
    | queueCommands finalized replicated commands =>
      rcases queueCommands_changes finalized replicated commands (stateAfter earlier) with
        same | ⟨command, bound, _, bind, _, _, added⟩
      · have kept : (queueCommands finalized replicated commands (stateAfter earlier)).2.overlays =
            (stateAfter earlier).overlays := congrArg ApplicationTables.overlays same
        exact inductionHypothesis row (kept ▸ there)
      · have grown : (queueCommands finalized replicated commands (stateAfter earlier)).2.overlays =
            (stateAfter earlier).overlays ++ [bound.overlay] :=
          congrArg ApplicationTables.overlays added
        rcases List.mem_append.mp (grown ▸ there) with there | there
        · exact inductionHypothesis row there
        · rw [List.mem_singleton.mp there]
          exact bindCommand_admitted command replicated bound bind
    | removeOverlays commandIds =>
      exact inductionHypothesis row ((removeOverlays_fewer commandIds _).2.subset there)
    | persistResults results => exact inductionHypothesis row (persistResults_overlays results _ row there)
    | markResultsSdkCompleted commandIds =>
      have kept := transaction_related markResultSdkCompleted
        (fun before after => after.overlays = before.overlays) (fun _ => rfl)
        (fun _ _ _ one two => two.trans one) commandIds
        (fun commandId _ state next done => by
          obtain ⟨_, rfl⟩ := markResultSdkCompleted_done commandId state next done
          rfl) (stateAfter earlier)
      exact inductionHypothesis row (kept ▸ there)
    | acknowledgeResult commandId => exact inductionHypothesis row there
    | recordTransientFailure commandId =>
      have kept := (recordTransientFailure_attempts commandId (stateAfter earlier)).2
      exact inductionHypothesis row (kept ▸ there)
    | clearOverlays => cases there

end Admission

section Pending

/-- What the quarantine reserves for an overlay: the payload is kept or replaced by
`null`. -/
def OverlayRow.resetBytes (row : OverlayRow) (initiallyAuthorized : Bool) : Nat :=
  max 512 (max row.actualSerializedBytes (row.actualSerializedBytes + 69 +
    payloadBytes (if initiallyAuthorized then row.payload else none) - payloadBytes row.payload))

/-- It exceeds the reservation of the overlay by 71 bytes at most. -/
theorem OverlayRow.Admitted.resetBytes_le {row : OverlayRow} (admitted : row.Admitted)
    (initiallyAuthorized : Bool) : row.resetBytes initiallyAuthorized ≤ row.serializedBytes + 71 := by
  have payload := two_le_payloadBytes row.payload
  have missing : payloadBytes none = 4 := by decide
  have reserved := admitted.reserved
  rw [terminalResultReservationBytes] at reserved
  unfold OverlayRow.resetBytes
  split
  · omega
  · omega

/-- The intent of an overlay reserves that. -/
theorem intent_reservedBytes (overlays : List OverlayRow) (row : OverlayRow)
    (admitted : row.Admitted) (initiallyAuthorized : Bool)
    (found : (overlays.find? fun overlay => overlay.id = row.id) = some row) :
    (row.candidate.intent overlays initiallyAuthorized).reservedBytes =
      row.resetBytes initiallyAuthorized := by
  have actual := admitted.actual
  have reserved := admitted.reserved
  rw [commandBytes_eq] at actual
  rw [terminalResultReservationBytes] at reserved
  have payload := two_le_payloadBytes row.payload
  have overlay : ((overlays.find? fun overlay => overlay.id = row.candidate.id).map
      OverlayRow.serializedBytes).getD 0 = row.serializedBytes := by
    have same : (overlays.find? fun overlay => overlay.id = row.candidate.id) = some row := found
    rw [same, Option.map_some, Option.getD_some]
  simp only [Candidate.intent, overlay, quarantineEntryReservationBytes_eq]
  simp only [OverlayRow.candidate, QuarantineEntry.fieldBytes, OverlayRow.resetBytes,
    Scalar.ofNumber, Scalar.bytes]
  omega

variable (collation : Text → Text → Bool) (tables : ApplicationTables)

/-- The records are the overlays in some order. -/
theorem readOverlayRecords_perm : (readOverlayRecords collation tables).Perm tables.overlays :=
  sortBy_perm _ _

/-- When every queued command has its overlay, the candidates are those of the overlays. -/
theorem resetCandidates_perm (balanced : Balanced tables) (queued : List Candidate)
    (distinct : (queued.map Candidate.id).Nodup)
    (matched : ∀ command ∈ queued, ∃ overlay ∈ tables.overlays, overlay.candidate = command) :
    (resetCandidates queued (readOverlayRecords collation tables)).Perm
      (tables.overlays.map OverlayRow.candidate) := by
  have sorted := readOverlayRecords_perm collation tables
  have keyed : (tables.overlays.map OverlayRow.candidate).Nodup := by
    refine List.Nodup.of_map Candidate.id ?_
    rw [List.map_map]
    exact balanced.overlaysKeyed
  have others : ((readOverlayRecords collation tables).map OverlayRow.candidate).Nodup :=
    (sorted.map _).nodup_iff.mpr keyed
  have candidates : (resetCandidates queued (readOverlayRecords collation tables)).Nodup := by
    refine List.nodup_append.mpr ⟨List.Nodup.of_map _ distinct,
      others.sublist (List.filter_sublist.map _), ?_⟩
    intro command here other there same
    obtain ⟨overlay, member, rfl⟩ := List.mem_map.mp there
    have absent := (List.mem_filter.mp member).2
    subst same
    simp only [Bool.not_eq_true', List.any_eq_false, decide_eq_true_eq] at absent
    exact absent _ here rfl
  refine (List.perm_ext_iff_of_nodup candidates keyed).mpr fun command => ?_
  simp only [resetCandidates, List.mem_append, List.mem_map, List.mem_filter, Bool.not_eq_true',
    List.any_eq_false, decide_eq_true_eq]
  constructor
  · rintro (here | ⟨overlay, ⟨there, _⟩, rfl⟩)
    · exact matched command here
    · exact ⟨overlay, sorted.mem_iff.mp there, rfl⟩
  · rintro ⟨overlay, there, rfl⟩
    by_cases known : ∃ command ∈ queued, command.id = overlay.id
    · obtain ⟨command, here, same⟩ := known
      obtain ⟨stored, member, rfl⟩ := matched command here
      have equal := List.inj_on_of_nodup_map balanced.overlaysKeyed member there same
      exact Or.inl (equal ▸ here)
    · right
      refine ⟨overlay, ⟨sorted.mem_iff.mpr there, ?_⟩, rfl⟩
      exact fun command here same => known ⟨command, here, same⟩

/-- The pending quarantine has one intent for each overlay, and reserves their bytes. -/
theorem pendingQuarantine_reserves (balanced : Balanced tables)
    (admitted : ∀ row ∈ tables.overlays, row.Admitted) (queued : List Candidate)
    (distinct : (queued.map Candidate.id).Nodup)
    (matched : ∀ command ∈ queued, ∃ overlay ∈ tables.overlays, overlay.candidate = command)
    (preserve : Candidate → Bool) :
    let pending := pendingQuarantine queued (readOverlayRecords collation tables) preserve
    pending.length = tables.overlays.length ∧
      (pending.map QuarantineIntent.reservedBytes).sum =
        (tables.overlays.map fun row => row.resetBytes (preserve row.candidate)).sum := by
  have candidates := resetCandidates_perm collation tables balanced queued distinct matched
  have sorted := readOverlayRecords_perm collation tables
  have keyed : ((readOverlayRecords collation tables).map OverlayRow.id).Nodup :=
    (sorted.map _).nodup_iff.mpr balanced.overlaysKeyed
  constructor
  · rw [pendingQuarantine, List.length_map, candidates.length_eq, List.length_map]
  · rw [pendingQuarantine, List.map_map, (candidates.map _).sum_eq, List.map_map]
    congr 1
    refine List.map_congr_left fun row there => ?_
    have found := (find_keyed OverlayRow.id _ keyed row.id row).mpr ⟨sorted.mem_iff.mpr there, rfl⟩
    exact intent_reservedBytes _ row (admitted row there) _ found

end Pending

section Capacity

/-- The capacity check passes within the limits. -/
theorem assertResetCapacity_ok (tables : ApplicationTables) (store : QuarantineStore) :
    assertResetCapacity tables store = .ok () ↔
      tables.resultCapacityUsage.count + store.finalized.length + store.pending.length ≤ 64 ∧
        tables.resultCapacityUsage.bytes + finalizedQuarantineBytes store.finalized +
          (store.pending.map QuarantineIntent.reservedBytes).sum ≤ 65536 := by
  have safe : 65536 ≤ maxSafeInteger := by decide
  simp only [assertResetCapacity, assertCombinedOutstandingCapacity]
  constructor
  · intro passed
    obtain ⟨_, _, rest⟩ := (bind_ok _ _ _).mp passed
    obtain ⟨_, few, small⟩ := (bind_ok _ _ _).mp rest
    rw [require_ok, decide_eq_true_iff] at few small
    exact ⟨few, small⟩
  · rintro ⟨few, small⟩
    refine (bind_ok _ _ _).mpr ⟨(), ?_, (bind_ok _ _ _).mpr ⟨(), ?_, ?_⟩⟩
    · rw [require_ok, Bool.and_eq_true, decide_eq_true_iff, decide_eq_true_iff]
      exact ⟨by omega, by omega⟩
    · rw [require_ok, decide_eq_true_iff]
      exact few
    · rw [require_ok, decide_eq_true_iff]
      exact small

/-- The reservations of the quarantine exceed those of the overlays by 71 bytes for each
overlay at most. -/
theorem resetBytes_sum (rows : List OverlayRow) (admitted : ∀ row ∈ rows, row.Admitted)
    (preserve : Candidate → Bool) :
    (rows.map fun row => row.resetBytes (preserve row.candidate)).sum ≤
      (rows.map OverlayRow.serializedBytes).sum + 71 * rows.length := by
  induction rows with
  | nil => simp
  | cons row rows inductionHypothesis =>
    have here := (admitted row List.mem_cons_self).resetBytes_le (preserve row.candidate)
    have rest := inductionHypothesis fun other there => admitted other (List.mem_cons_of_mem row there)
    simp only [List.map_cons, List.sum_cons, List.length_cons]
    omega

/-- The capacity check of a reset, in a state that is balanced and whose overlays were
admitted. -/
theorem pendingQuarantine_capacity (collation : Text → Text → Bool) (tables : ApplicationTables)
    (balanced : Balanced tables) (admitted : ∀ row ∈ tables.overlays, row.Admitted)
    (finalized : List QuarantinedCommand)
    (few : (combinedCapacityUsage finalized tables).count ≤ 64) (queued : List Candidate)
    (distinct : (queued.map Candidate.id).Nodup)
    (matched : ∀ command ∈ queued, ∃ overlay ∈ tables.overlays, overlay.candidate = command)
    (preserve : Candidate → Bool) :
    let pending := pendingQuarantine queued (readOverlayRecords collation tables) preserve
    tables.resultCapacityUsage.count + finalized.length + pending.length ≤ 64 ∧
      (assertResetCapacity tables ⟨finalized, pending⟩ = .ok () ↔
        tables.resultCapacityUsage.bytes + finalizedQuarantineBytes finalized +
          (tables.overlays.map fun row => row.resetBytes (preserve row.candidate)).sum ≤ 65536) := by
  obtain ⟨count, bytes⟩ := pendingQuarantine_reserves collation tables balanced admitted queued
    distinct matched preserve
  have room : tables.resultCapacityUsage.count + finalized.length +
      (pendingQuarantine queued (readOverlayRecords collation tables) preserve).length ≤ 64 := by
    simp only [combinedCapacityUsage, ApplicationTables.capacityUsage] at few
    rw [count, ApplicationTables.resultCapacityUsage]
    dsimp only
    omega
  refine ⟨room, ?_⟩
  rw [assertResetCapacity_ok, bytes]
  exact ⟨fun both => both.2, fun fits => ⟨room, fits⟩⟩

end Capacity

section Completeness

/-- The overlay of a command with a known incarnation. -/
def QueuedCommandInput.overlay (command : QueuedCommandInput) (incarnation : Text) : OverlayRow :=
  let actual := commandBytes command.commandId command.type command.resourceId incarnation
    command.expectedRecordVersion command.payload
  { id := command.commandId
    resourceId := command.resourceId
    resourceIncarnationId := incarnation
    commandType := command.type
    payload := command.payload
    expectedRecordVersion := command.expectedRecordVersion
    serializedBytes := max actual terminalResultReservationBytes
    actualSerializedBytes := actual }

/-- A command with a safe version and a known incarnation is admitted when there is room. -/
theorem queueCommands_admits (command : QueuedCommandInput) (incarnation : Text)
    (named : command.resourceIncarnationId = some incarnation) (known : incarnation ≠ [])
    (version : 1 ≤ command.expectedRecordVersion ∧ command.expectedRecordVersion ≤ maxSafeInteger)
    (tables : ApplicationTables) (results : tables.results = [])
    (fresh : ∀ row ∈ tables.overlays, row.id ≠ command.commandId)
    (few : tables.capacityUsage.count + 1 ≤ 64)
    (small : tables.capacityUsage.bytes + (command.overlay incarnation).serializedBytes ≤ 65536) :
    (queueCommands [] none [command] tables).2 =
      { tables with overlays := tables.overlays ++ [command.overlay incarnation] } := by
  obtain ⟨unit, rest, rfl⟩ := List.exists_cons_of_ne_nil known
  have safe : 65536 ≤ maxSafeInteger := by decide
  have nonempty : 1 ≤ commandBytes command.commandId command.type command.resourceId
      (unit :: rest) command.expectedRecordVersion command.payload := by
    rw [commandBytes_eq]
    omega
  have absent : tables.overlay command.commandId = none :=
    (find_keyed_none OverlayRow.id tables.overlays command.commandId).mpr fresh
  have inactive : tables.result command.commandId = none := by
    simp [ApplicationTables.result, results]
  simp only [QueuedCommandInput.overlay, terminalResultReservationBytes] at small
  have reserved : reservedOutstandingBytes (commandBytes command.commandId command.type
      command.resourceId (unit :: rest) command.expectedRecordVersion command.payload) =
        .ok (command.overlay (unit :: rest)).serializedBytes := by
    rw [reservedOutstandingBytes, if_neg (by omega)]
    rfl
  have room : assertOutstandingCapacity (combinedCapacityUsage [] tables)
      (command.overlay (unit :: rest)).serializedBytes = .ok () := by
    simp only [assertOutstandingCapacity, combinedCapacityUsage, finalizedQuarantineBytes,
      List.map_nil, List.sum_nil, List.length_nil, QueuedCommandInput.overlay,
      terminalResultReservationBytes, maxOutstandingCommandsAndResults,
      maxSerializedOutstandingBytes]
    rw [if_neg (by omega), if_neg (by omega), if_neg (by omega)]
  let bound : BoundCommand :=
    { commandId := command.commandId
      type := command.type
      resourceId := command.resourceId
      resourceIncarnationId := unit :: rest
      expectedRecordVersion := command.expectedRecordVersion
      payload := command.payload
      actualSerializedBytes := (command.overlay (unit :: rest)).actualSerializedBytes
      reservedBytes := (command.overlay (unit :: rest)).serializedBytes }
  have binds : bindCommand command none = .ok bound := by
    have versioned : require (1 ≤ command.expectedRecordVersion &&
        command.expectedRecordVersion ≤ maxSafeInteger)
          "expectedRecordVersion must be a positive safe integer." = .ok () := by
      simp [require, version]
    simp only [bindCommand, versioned, named, Option.some_or, reserved]
    rfl
  have free : require (!(([] : List QuarantinedCommand).any (fun entry => entry.id = bound.commandId) ||
      tables.hasActiveCommandId bound.commandId)) "command_id_already_active" = .ok () := by
    have idle : tables.hasActiveCommandId bound.commandId = false := by
      simp [bound, ApplicationTables.hasActiveCommandId, inactive, absent]
    simp [require, idle]
  have inserted : tables.insertOverlay bound.overlay =
      .ok { tables with overlays := tables.overlays ++ [bound.overlay] } := by
    have positive : bound.overlay.serializedBytes ≠ 0 ∧ bound.overlay.actualSerializedBytes ≠ 0 := by
      simp only [bound, BoundCommand.overlay, QueuedCommandInput.overlay]
      omega
    have unknown : tables.overlay bound.overlay.id = none := absent
    simp [ApplicationTables.insertOverlay, unknown, positive]
  have added : addOverlay bound (tables, []) =
      .ok ({ tables with overlays := tables.overlays ++ [bound.overlay] }, [bound.commandId]) := by
    have unused : (tables.result bound.commandId).isSome = false := by simp [bound, inactive]
    simp only [addOverlay, List.contains_nil, unused, Bool.or_false, Bool.not_false, inserted]
    rfl
  have accepted : (addOverlays [bound] tables).2 =
      { tables with overlays := tables.overlays ++ [bound.overlay] } := by
    simp only [addOverlays, atomically, stepThrough, added]
    rfl
  unfold queueCommands
  simp only [binds, bind, Except.bind, free]
  have same : assertOutstandingCapacity (combinedCapacityUsage [] tables) bound.reservedBytes =
      .ok () := room
  simp only [same]
  exact accepted

/-- Commands for which there is room are all admitted, when the replica has nothing else. -/
theorem stateAfter_queued (commands : List QueuedCommandInput) (incarnation : Text)
    (named : ∀ command ∈ commands, command.resourceIncarnationId = some incarnation)
    (known : incarnation ≠ [])
    (version : ∀ command ∈ commands,
      1 ≤ command.expectedRecordVersion ∧ command.expectedRecordVersion ≤ maxSafeInteger)
    (distinct : (commands.map QueuedCommandInput.commandId).Nodup) (few : commands.length ≤ 64)
    (small : ((commands.map fun command => command.overlay incarnation).map
      OverlayRow.serializedBytes).sum ≤ 65536) :
    stateAfter (commands.map fun command => .queueCommands [] none [command]) =
      ⟨[], commands.map fun command => command.overlay incarnation, []⟩ := by
  induction commands using List.reverseRecOn with
  | nil => rfl
  | append_singleton earlier command inductionHypothesis =>
    simp only [List.map_append, List.map_cons, List.map_nil, List.sum_append, List.sum_cons,
      List.sum_nil, List.length_append, List.length_cons, List.length_nil] at distinct few small ⊢
    have before := inductionHypothesis (fun other there => named other (by simp [there]))
      (fun other there => version other (by simp [there])) (List.nodup_append.mp distinct).1
      (by omega) (by omega)
    rw [stateAfter_concat, before]
    have fresh : ∀ row ∈ earlier.map fun command => command.overlay incarnation,
        row.id ≠ command.commandId := by
      intro row there
      obtain ⟨other, member, rfl⟩ := List.mem_map.mp there
      exact (List.nodup_append.mp distinct).2.2 _ (List.mem_map_of_mem member) _ List.mem_cons_self
    refine queueCommands_admits command incarnation (named command (by simp)) known
      (version command (by simp)) _ rfl fresh ?_ ?_
    · simp only [ApplicationTables.capacityUsage, List.length_nil, List.length_map]
      omega
    · simp only [ApplicationTables.capacityUsage, List.map_nil, List.sum_nil]
      omega

end Completeness

namespace Sample

/-- A UUID of one digit, but for the first two. -/
def uuid (first second digit : UInt16) : Text :=
  first :: second :: List.replicate 6 digit ++ 0x2D :: List.replicate 4 digit ++
    0x2D :: List.replicate 4 digit ++ 0x2D :: List.replicate 4 digit ++
    0x2D :: List.replicate 12 digit

/-- A resource and its incarnation. -/
def noteId : Text := uuid 0x38 0x38 0x38

def noteIncarnation : Text := uuid 0x39 0x39 0x39

/-- The command with a number, whose payload is 512 euro signs. -/
def largeUpdate (number : Nat) : QueuedCommandInput where
  commandId := uuid (0x30 + (number / 10).toUInt16) (0x30 + (number % 10).toUInt16) 0x34
  type := ascii "ps8.resource.update.v1"
  resourceId := noteId
  resourceIncarnationId := some noteIncarnation
  expectedRecordVersion := 1
  payload := some (List.replicate 512 0x20AC)

/-- The client queues some of these commands. -/
def queuedUpdates (count : Nat) : List Operation :=
  (List.range count).map fun number => .queueCommands [] none [largeUpdate number]

end Sample

/-- Outside surrogate pairs the units of a text are written one by one. -/
theorem contentBytes_unpaired (text : Text)
    (unpaired : ∀ unit ∈ text, ApiClient.leading unit = false) :
    contentBytes text = (text.map unitBytes).sum := by
  induction text with
  | nil => rfl
  | cons first rest inductionHypothesis =>
    have later := inductionHypothesis fun unit there => unpaired unit (List.mem_cons_of_mem first there)
    cases rest with
    | nil => simp [contentBytes]
    | cons second rest =>
      have single : ApiClient.leading first = false := unpaired first List.mem_cons_self
      rw [contentBytes, single, later]
      simp only [Bool.false_and, Bool.false_eq_true, if_false, List.map_cons, List.sum_cons]
      omega

/-- The payload has three bytes for each sign. -/
theorem contentBytes_euros (count : Nat) : contentBytes (List.replicate count 0x20AC) = 3 * count := by
  have unpaired : ApiClient.leading 0x20AC = false := by decide
  have unit : unitBytes 0x20AC = 3 := by decide
  rw [contentBytes_unpaired _ fun unit there => (List.mem_replicate.mp there).2 ▸ unpaired,
    List.map_replicate, List.sum_replicate, unit, Nat.mul_comm]
  rfl

/-- A UUID has 36 bytes. -/
theorem textBytes_uuid (first second digit : UInt16)
    (plain : ∀ unit ∈ [first, second, digit], ApiClient.leading unit = false ∧ unitBytes unit = 1) :
    textBytes (Sample.uuid first second digit) = 38 := by
  have hyphen : ApiClient.leading 0x2D = false ∧ unitBytes 0x2D = 1 := by decide
  have units : ∀ unit ∈ Sample.uuid first second digit,
      ApiClient.leading unit = false ∧ unitBytes unit = 1 := by
    intro unit there
    simp only [List.mem_cons, List.not_mem_nil, or_false, forall_eq_or_imp, forall_eq] at plain
    have known : unit = first ∨ unit = second ∨ unit = digit ∨ unit = 0x2D := by
      simp only [Sample.uuid, List.cons_append, List.append_assoc, List.mem_cons, List.mem_append,
        List.mem_replicate] at there
      tauto
    rcases known with rfl | rfl | rfl | rfl
    · exact plain.1
    · exact plain.2.1
    · exact plain.2.2
    · exact hyphen
  have lengths : (Sample.uuid first second digit).map unitBytes = List.replicate 36 1 :=
    List.eq_replicate_iff.mpr ⟨by simp [Sample.uuid], by
      intro size there
      obtain ⟨unit, member, rfl⟩ := List.mem_map.mp there
      exact (units unit member).2⟩
  rw [textBytes, contentBytes_unpaired _ fun unit there => (units unit there).1, lengths]
  rfl

/-- Each of the commands has 1,774 bytes. -/
theorem largeUpdate_bytes (number : Nat) (few : number < 36) :
    ((Sample.largeUpdate number).overlay Sample.noteIncarnation).actualSerializedBytes = 1774 := by
  have digits : ∀ digit < 10, ApiClient.leading (0x30 + digit.toUInt16) = false ∧
      unitBytes (0x30 + digit.toUInt16) = 1 := by decide +kernel
  have four : ApiClient.leading 0x34 = false ∧ unitBytes 0x34 = 1 := by decide
  have id : textBytes (Sample.largeUpdate number).commandId = 38 := by
    refine textBytes_uuid _ _ _ fun unit there => ?_
    simp only [List.mem_cons, List.not_mem_nil, or_false] at there
    rcases there with rfl | rfl | rfl
    · exact digits (number / 10) (by omega)
    · exact digits (number % 10) (by omega)
    · exact four
  have others : textBytes Sample.noteId = 38 ∧ textBytes Sample.noteIncarnation = 38 ∧
      textBytes (ascii "ps8.resource.update.v1") = 24 ∧ (numeral 1).length = 1 := by decide +kernel
  obtain ⟨resource, incarnation, type, version⟩ := others
  have payload : payloadBytes (Sample.largeUpdate number).payload = 1538 := by
    simp only [Sample.largeUpdate, payloadBytes, Scalar.ofText, Scalar.bytes, textBytes,
      contentBytes_euros]
  simp only [QueuedCommandInput.overlay, commandBytes_eq, id, payload]
  simp only [Sample.largeUpdate, resource, incarnation, type, version]

/-- The client admits such commands while there is room. -/
theorem queuedUpdates_admitted (count : Nat) (few : count ≤ 36) :
    stateAfter (Sample.queuedUpdates count) = ⟨[], (List.range count).map fun number =>
      (Sample.largeUpdate number).overlay Sample.noteIncarnation, []⟩ := by
  have sizes : ((List.range count).map fun number =>
      ((Sample.largeUpdate number).overlay Sample.noteIncarnation).serializedBytes) =
        List.replicate count 1774 := by
    refine List.eq_replicate_iff.mpr ⟨by simp, ?_⟩
    intro size there
    obtain ⟨number, member, rfl⟩ := List.mem_map.mp there
    have actual := largeUpdate_bytes number (by have := List.mem_range.mp member; omega)
    simp only [QueuedCommandInput.overlay] at actual ⊢
    rw [actual]
    rfl
  have distinct : ((List.range 36).map fun number =>
      (Sample.largeUpdate number).commandId).Nodup := by decide +kernel
  have fewer : ((List.range count).map fun number => (Sample.largeUpdate number).commandId).Nodup :=
    distinct.sublist ((List.range_sublist.mpr few).map _)
  have admitted := stateAfter_queued ((List.range count).map Sample.largeUpdate)
    Sample.noteIncarnation
    (fun command there => by
      obtain ⟨number, _, rfl⟩ := List.mem_map.mp there
      rfl)
    (by decide)
    (fun command there => by
      have positive : 1 ≤ maxSafeInteger := by decide
      obtain ⟨number, _, rfl⟩ := List.mem_map.mp there
      exact ⟨Nat.le_refl 1, positive⟩)
    (by simpa [List.map_map, Function.comp_def] using fewer) (by simp; omega)
    (by
      simp only [List.map_map, Function.comp_def]
      exact (congrArg List.sum sizes).trans_le (by simp; omega))
  simpa only [List.map_map, Function.comp_def, Sample.queuedUpdates] using admitted

/-- A reset that preserves every queued command is refused when the quarantine would
reserve too much. -/
theorem reset_refused (collation : Text → Text → Bool) (tables : ApplicationTables)
    (balanced : Balanced tables) (admitted : ∀ row ∈ tables.overlays, row.Admitted)
    (few : (combinedCapacityUsage [] tables).count ≤ 64)
    (excess : 65536 < (tables.overlays.map fun row => row.resetBytes true).sum) :
    assertResetCapacity tables ⟨[], pendingQuarantine (tables.overlays.map OverlayRow.candidate)
      (readOverlayRecords collation tables) fun _ => true⟩ ≠ .ok () := by
  intro passed
  have distinct : ((tables.overlays.map OverlayRow.candidate).map Candidate.id).Nodup := by
    rw [List.map_map]
    exact balanced.overlaysKeyed
  have capacity := (pendingQuarantine_capacity collation tables balanced admitted [] few _ distinct
    (fun command there => List.mem_map.mp there) fun _ => true).2.mp passed
  omega

end TraxOs.PowerSync
