import TraxOs.Api.Renumbering

/-!
# Outdated versions

Five operations change a stored row only if the caller still knows its version. A journey
is compared after it was locked, a moved segment when it is read, and the other rows by the
UPDATE itself. A parameter that the database cannot take is refused before any version is
compared, and the quantity of a packing item is checked before that.

An outdated version is therefore reported as the version conflict exactly when nothing
stands in front of the comparison.
-/

namespace TraxOs.Api

open TraxOs.Theory

/-- The database takes these parameters of an UPDATE. -/
def Bindable (expected : Nat) (texts : List Text) : Prop :=
  expected ≤ maxBigint ∧ ∀ text ∈ texts, nul ∉ text

instance (expected : Nat) (texts : List Text) : Decidable (Bindable expected texts) :=
  inferInstanceAs (Decidable (_ ∧ _))

/-- The rows of journeys and of their parts. -/
def Key.isTravel : Key → Bool
  | .journey _ => true
  | key => key.isPart

section Staleness

variable (platform : Platform) (context : AuthContext) (runtime : Runtime) (db : Database)

/-- The executor comes to the journey: the actor may write, and the command is new. -/
structure Executes (commandId : Uuid) : Prop where
  allowed : ∃ membership : Membership,
    db.lookup (Key.membership context.workspaceId context.userId) = some membership ∧
      roleAllows membership.role .journeyWrite = true
  unused : db.lookup (Key.receipt context.workspaceId context.userId commandId) = none

/-- The row that an edit names is stored and shown, in another version than the edit
expects. -/
def Call.Outdated : Call → Prop
  | .updateSegment journeyId segmentId command =>
    ∃ row, segmentIn db context.scope journeyId segmentId = some row ∧
      row.1.recordVersion ≠ command.expectedRecordVersion
  | .reorderSegment journeyId segmentId command =>
    ∃ row, segmentIn db context.scope journeyId segmentId = some row ∧
      row.1.recordVersion ≠ command.expectedRecordVersion
  | .updatePacking journeyId itemId command =>
    ∃ row, packingItemIn db context.scope journeyId itemId = some row ∧
      row.1.recordVersion ≠ command.expectedRecordVersion
  | .updatePackingProgress journeyId itemId command =>
    ∃ row, packingItemIn db context.scope journeyId itemId = some row ∧
      row.1.recordVersion ≠ command.expectedRecordVersion
  | .updateJourney journeyId command =>
    Executes context db runtime.commandId ∧
      ∃ row, visibleJourney db context.scope journeyId = some row ∧
        row.1.recordVersion ≠ command.expectedRecordVersion
  | .journeyUpdateCommand command =>
    (Executes context db command.commandId ∧ command.commandVersion = 1) ∧
      ∃ row, visibleJourney db context.scope command.payload.journeyId = some row ∧
        row.1.recordVersion ≠ command.payload.expectedRecordVersion
  | _ => False

/-- Nothing stands in front of the comparison of versions. -/
def Call.Comparable : Call → Prop
  | .updateSegment _ _ command =>
    Bindable command.expectedRecordVersion (segmentValues command.toSegmentInput).texts
  | .updatePacking _ _ command =>
    Bindable command.expectedRecordVersion (packingValues command).texts
  | .updatePackingProgress journeyId itemId command =>
    (∀ row, packingItemIn db context.scope journeyId itemId = some row →
      command.packedQuantity ≤ row.1.quantity) ∧ Bindable command.expectedRecordVersion []
  | _ => True

/-- The call is answered with the version conflict, and no journey, segment or packing
item changes. -/
structure Conflicts (call : Call) : Prop where
  told : statusAndCode (serve (plainApi platform) (.operation context call runtime) db).1 =
    (409, some "version_conflict")
  unchanged : ∀ key : Key, key.isTravel = true →
    (serve (plainApi platform) (.operation context call runtime) db).2.lookup key = db.lookup key

variable {platform context runtime db}

/-- A call that fails leaves the store as it was. -/
theorem serve_failed (call : Call) (failure : Failure)
    (failed : alone (plainApi platform) (handle platform context runtime call) db =
      .error failure) :
    serve (plainApi platform) (.operation context call runtime) db = (.error failure, db) := by
  have program : (plainApi platform).program (.operation context call runtime) =
      handle platform context runtime call := rfl
  rw [serve, program, failed]

/-- A call that completes is answered and committed. -/
theorem serve_completed (call : Call) (reply : Reply) (after : Database)
    (completes : alone (plainApi platform) (handle platform context runtime call) db =
      .ok (reply, after)) :
    serve (plainApi platform) (.operation context call runtime) db = (.ok reply, after) := by
  have program : (plainApi platform).program (.operation context call runtime) =
      handle platform context runtime call := rfl
  rw [serve, program, completes]

/-- A call that raises a version conflict reports it and changes nothing. -/
theorem conflicts_of_raised (call : Call) (conflict : ApplicationError)
    (raised : alone (plainApi platform) (handle platform context runtime call) db =
      .error (.application conflict))
    (status : conflict.statusCode = 409) (code : conflict.code = "version_conflict") :
    Conflicts platform context runtime db call := by
  have served := serve_failed call _ raised
  constructor
  · rw [served]
    exact congrArg₂ Prod.mk status (congrArg some code)
  · intro key _
    rw [served]

/-- A call that fails with another status does not report a version conflict. -/
theorem not_conflicts_of_failed (call : Call) (failure : Failure)
    (failed : alone (plainApi platform) (handle platform context runtime call) db =
      .error failure) (other : failure.response.statusCode ≠ 409) :
    ¬ Conflicts platform context runtime db call := by
  rintro ⟨told, _⟩
  rw [serve_failed call _ failed] at told
  exact other (congrArg Prod.fst told)

/-- A guarded UPDATE changes no row of another version: it finds none, or the database
does not take it. -/
theorem comparing_outdated {T α : Type} (texts : List Text) (expected : Nat) (row : T)
    (version : T → Nat) (swap : T → Effect (Option α)) (outdated : version row ≠ expected) :
    comparing texts expected (some row) version swap =
      if Bindable expected texts then answered none else refused .valueRejected := by
  unfold comparing
  by_cases bindable : Bindable expected texts
  · rw [if_pos bindable, if_neg]
    · exact if_neg outdated
    · rintro (wide | ⟨text, member, present⟩)
      · exact Nat.not_lt.mpr bindable.1 wide
      · exact bindable.2 text member present
  · rw [if_neg bindable, if_pos]
    by_contra neither
    rw [not_or] at neither
    refine bindable ⟨Nat.not_lt.mp neither.1, ?_⟩
    intro text member present
    exact neither.2 ⟨text, member, present⟩

/-- A packing item is shown together with its journey. -/
theorem packingItemIn_visible (scope : Scope) (journeyId itemId : Uuid) (row : StoredPackingItem)
    (shown : packingItemIn db scope journeyId itemId = some row) :
    (visibleJourney db scope journeyId).isSome = true := by
  rw [packingItemIn, Option.filter_eq_some_iff, decide_eq_true_eq] at shown
  obtain ⟨seen, inside⟩ := shown
  unfold visiblePackingItem at seen
  split at seen
  · cases seen
  · split at seen
    · next visible =>
      cases seen
      exact inside ▸ visible
    · cases seen

/-- `_owned_packing` completes for a shown item. -/
theorem ownedPacking_completes (journeyId itemId : Uuid) (row : StoredPackingItem)
    (shown : packingItemIn db context.scope journeyId itemId = some row) :
    alone (plainApi platform) (ownedPacking context journeyId itemId) db = .ok (row, db) := by
  obtain ⟨journey, seen⟩ := Option.isSome_iff_exists.mp (packingItemIn_visible _ _ _ _ shown)
  have journeyRan : (plainApi platform).execute
      (Op.selectJourney context.scope journeyId false) db = .ran (some journey) [] [] := by
    simp [plainApi, api, execute, seen]
  have itemRan : (plainApi platform).execute
      (Op.selectPackingItem context.scope journeyId itemId) db = .ran (some row) [] [] := by
    simp [plainApi, api, execute, shown, answered]
  unfold ownedPacking journeyRow
  simp only [Program.ask_bind, Program.perform_bind, Program.pure_eq]
  rw [alone_ran _ _ _ db (some journey) [] [] journeyRan]
  simp only [applyAll_nil, Program.done_bind]
  rw [alone_ran _ _ _ db (some row) [] [] itemRan]
  rfl

/-- A call that comes to a guarded UPDATE of a row in another version, and raises a version
conflict when the UPDATE finds no row, conflicts when the database takes its parameters. -/
theorem guarded_conflicts (call : Call) (op : Op) (next : Res op → Action Reply) (absent : Res op)
    (expected : Nat) (texts : List Text) (conflict : ApplicationError)
    (comes : alone (plainApi platform) (handle platform context runtime call) db =
      alone (plainApi platform) (.perform op next) db)
    (executed : execute platform op db =
      if Bindable expected texts then answered absent else refused .valueRejected)
    (raises : next absent = .fail (.application conflict))
    (status : conflict.statusCode = 409) (code : conflict.code = "version_conflict") :
    Conflicts platform context runtime db call ↔ Bindable expected texts := by
  have executed : (plainApi platform).execute op db = _ := executed
  by_cases bindable : Bindable expected texts
  · rw [if_pos bindable] at executed
    refine iff_of_true (conflicts_of_raised call conflict ?_ status code) bindable
    rw [comes, alone_ran _ op next db absent [] [] executed, raises]
    rfl
  · rw [if_neg bindable] at executed
    refine iff_of_false (not_conflicts_of_failed call (.database .valueRejected) ?_ (by decide))
      bindable
    rw [comes, alone_failed _ op next db _ executed]

/-! ## The five operations -/

/-- `update_segment` compares the version in its UPDATE. -/
theorem updateSegment_conflicts (journeyId segmentId : Uuid) (command : SegmentUpdate)
    (row : StoredSegment) (shown : segmentIn db context.scope journeyId segmentId = some row)
    (outdated : row.1.recordVersion ≠ command.expectedRecordVersion) :
    Conflicts platform context runtime db (.updateSegment journeyId segmentId command) ↔
      Bindable command.expectedRecordVersion (segmentValues command.toSegmentInput).texts := by
  have owning : alone (plainApi platform) (ownedSegment context journeyId segmentId) db =
      .ok (row, db) := ownedSegment_completes context journeyId segmentId db row shown
  apply guarded_conflicts _ (.swapSegment context.scope journeyId segmentId
    command.expectedRecordVersion (segmentValues command.toSegmentInput) (runtime.clock 1)) _ none
      _ _ segmentConflict
  · simp only [handle, updateSegment, Program.bind_assoc]
    rw [alone_bind, owning]
    simp only [Program.ask_bind]
    rfl
  · simp only [execute, shown]
    exact comparing_outdated _ _ row (fun row => row.1.recordVersion) _ outdated
  · rfl
  · rfl
  · rfl

/-- `update_packing` does too. -/
theorem updatePacking_conflicts (journeyId itemId : Uuid) (command : PackingUpdate)
    (row : StoredPackingItem) (shown : packingItemIn db context.scope journeyId itemId = some row)
    (outdated : row.1.recordVersion ≠ command.expectedRecordVersion) :
    Conflicts platform context runtime db (.updatePacking journeyId itemId command) ↔
      Bindable command.expectedRecordVersion (packingValues command).texts := by
  have owning := @ownedPacking_completes platform context db journeyId itemId row shown
  apply guarded_conflicts _ (.swapPackingItem context.scope journeyId itemId
    command.expectedRecordVersion (packingValues command) (runtime.clock 1)) _ none
      _ _ packingConflict
  · simp only [handle, updatePacking, Program.bind_assoc]
    rw [alone_bind, owning]
    simp only [Program.ask_bind]
    rfl
  · simp only [execute, shown]
    exact comparing_outdated _ _ row (fun row => row.1.recordVersion) _ outdated
  · rfl
  · rfl
  · rfl

/-- `update_packing_progress` compares the quantity first. -/
theorem updatePackingProgress_conflicts (journeyId itemId : Uuid)
    (command : PackingProgressUpdate) (row : StoredPackingItem)
    (shown : packingItemIn db context.scope journeyId itemId = some row)
    (outdated : row.1.recordVersion ≠ command.expectedRecordVersion) :
    Conflicts platform context runtime db (.updatePackingProgress journeyId itemId command) ↔
      command.packedQuantity ≤ row.1.quantity ∧ Bindable command.expectedRecordVersion [] := by
  have owning := @ownedPacking_completes platform context db journeyId itemId row shown
  by_cases enough : command.packedQuantity ≤ row.1.quantity
  · rw [and_iff_right enough]
    apply guarded_conflicts _ (.swapPackingProgress context.scope journeyId itemId
      command.expectedRecordVersion command.packedQuantity (runtime.clock 1)) _ none
        _ _ packingConflict
    · simp only [handle, updatePackingProgress, Program.bind_assoc]
      rw [alone_bind, owning]
      simp only [Nat.not_lt.mpr enough, if_false, Program.ask_bind]
      rfl
    · simp only [execute, shown]
      exact comparing_outdated _ _ row (fun row => row.1.recordVersion) _ outdated
    · rfl
    · rfl
    · rfl
  · refine iff_of_false (not_conflicts_of_failed _ (.application quantityInvalid) ?_ (by decide))
      fun both => enough both.1
    simp only [handle, updatePackingProgress, Program.bind_assoc]
    rw [alone_bind, owning]
    simp only [Nat.lt_of_not_le enough, if_true]
    rfl

/-- `reorder_segment` compares the version before anything else. -/
theorem reorderSegment_conflicts (journeyId segmentId : Uuid) (command : SegmentReorder)
    (row : StoredSegment) (shown : segmentIn db context.scope journeyId segmentId = some row)
    (outdated : row.1.recordVersion ≠ command.expectedRecordVersion) :
    Conflicts platform context runtime db (.reorderSegment journeyId segmentId command) := by
  have owning : alone (plainApi platform) (ownedSegment context journeyId segmentId) db =
      .ok (row, db) := ownedSegment_completes context journeyId segmentId db row shown
  refine conflicts_of_raised _ segmentConflict ?_ rfl rfl
  simp only [handle, reorderSegment, Program.bind_assoc]
  rw [alone_bind, owning]
  simp only [if_pos outdated]
  rfl

/-- `apply_journey_update` compares the version of the locked row, and its refusal is caught
by the executor. -/
theorem applyJourneyUpdate_outdated (journeyId : Uuid) (command : JourneyUpdate)
    (row : StoredJourney) (seen : visibleJourney db context.scope journeyId = some row)
    (outdated : row.1.recordVersion ≠ command.expectedRecordVersion) :
    alone (plainApi platform) (applyJourneyUpdate context runtime journeyId command).attempt db =
      .ok (.error (.application journeyConflict), db) := by
  have locking : (plainApi platform).execute (Op.selectJourney context.scope journeyId true) db =
      .ran (some row) [] [(.row (.journey journeyId), .update)] := by
    simp [plainApi, api, execute, seen]
  unfold applyJourneyUpdate journeyRow
  simp only [Program.ask_bind, Program.perform_bind, Program.attempt_perform]
  rw [alone_ran _ _ _ db _ _ _ locking]
  simp only [Program.pure_eq, Program.done_bind, if_pos outdated]
  rfl

/-- The receipt of a version conflict is accepted. -/
theorem insertReceipt_conflict (commandId : Uuid) (receipt : CommandReceipt)
    (belongs : isMember db context.scope = true)
    (unused : db.lookup (Key.receipt context.workspaceId context.userId commandId) = none)
    (conflicted : receipt.outcome = .versionConflict) :
    (plainApi platform).execute (Op.insertReceipt context.scope commandId receipt) db =
      .ran () [.put (.receipt context.workspaceId context.userId commandId) receipt] [] := by
  have free : (db.lookup (Key.receipt context.scope.workspaceId context.scope.userId
      commandId)).isSome = false := by
    rw [AuthContext.scope, unused]
    rfl
  have inScope : receiptInScope db context.scope commandId receipt = true := by
    rw [receiptInScope, conflicted]
  simp only [plainApi, api, execute, belongs, free, inScope, conflicted, if_true,
    Bool.false_eq_true, if_false]
  rfl

/-- A new command with an outdated version completes with the receipt of its refusal. -/
theorem executeFresh_outdated (commandId : Uuid) (payload : JourneyUpdateCommandPayload)
    (digest : Text) (origin : Origin) (belongs : isMember db context.scope = true)
    (unused : db.lookup (Key.receipt context.workspaceId context.userId commandId) = none)
    (row : StoredJourney) (seen : visibleJourney db context.scope payload.journeyId = some row)
    (outdated : row.1.recordVersion ≠ payload.expectedRecordVersion) :
    ∃ execution receipt, execution.outcome = .versionConflict ∧
      alone (plainApi platform)
        (executeFresh context runtime commandId journeyUpdateV1 payload digest origin) db =
          .ok (execution,
            db.insert (Key.receipt context.workspaceId context.userId commandId) receipt) := by
  let terminal : CommandExecution :=
    ⟨commandId, "journey.update", 1, .versionConflict, payload.journeyId, false, none⟩
  refine ⟨terminal, commandReceipt terminal digest (runtime.clock 2), rfl, ?_⟩
  have conflict : terminalOutcome (.application journeyConflict) = some .versionConflict := by
    decide
  unfold executeFresh
  rw [alone_bind, applyJourneyUpdate_outdated payload.journeyId payload.toJourneyUpdate row seen
    outdated]
  simp only [conflict]
  unfold writeTerminalReceipt
  rw [Program.ask_bind, alone_ran _ _ _ db () _ []
    (insertReceipt_conflict commandId (commandReceipt terminal digest (runtime.clock 2)) belongs
      unused rfl)]
  rfl

/-- The executor commits that receipt and raises the conflict. -/
theorem executeJourneyUpdate_outdated (commandId : Uuid) (payload : JourneyUpdateCommandPayload)
    (origin : Origin) (executes : Executes context db commandId) (row : StoredJourney)
    (seen : visibleJourney db context.scope payload.journeyId = some row)
    (outdated : row.1.recordVersion ≠ payload.expectedRecordVersion) :
    ∃ receipt : CommandReceipt,
      alone (plainApi platform) (executeJourneyUpdate platform context runtime commandId
        "journey.update" 1 payload origin) db =
        .ok (.error journeyConflict,
          db.insert (Key.receipt context.workspaceId context.userId commandId) receipt) := by
  obtain ⟨⟨membership, member, allowed⟩, unused⟩ := executes
  have belongs : isMember db context.scope = true := by
    rw [isMember, AuthContext.scope, member]
    rfl
  have admitting : (plainApi platform).execute (Op.lockMembership context.scope) db =
      .ran (some membership.role) []
        [(.row (.membership context.workspaceId context.userId), .share)] := by
    simp [plainApi, api, execute, AuthContext.scope, member]
  have locking : (plainApi platform).execute (Op.lockCommand context.scope commandId) db =
      .ran () [] [(.named (.command context.workspaceId context.userId commandId), .update)] := rfl
  have fresh : (plainApi platform).execute (Op.selectReceipt context.scope commandId) db =
      .ran none [] [] := by
    simp [plainApi, api, execute, AuthContext.scope, unused, answered]
  have resolves : resolveCommand "journey.update" 1 = .ok journeyUpdateV1 := by decide
  obtain ⟨execution, receipt, conflicted, completes⟩ :=
    @executeFresh_outdated platform context runtime db commandId payload
      (commandDigestV1 platform commandId "journey.update" 1 payload) origin belongs unused row seen
        outdated
  refine ⟨receipt, ?_⟩
  unfold executeJourneyUpdate
  simp only [resolves]
  unfold operation authorizePermission
  simp only [Program.ask_bind, Program.perform_bind, Program.bind_assoc]
  rw [alone_ran _ _ _ db _ _ _ admitting]
  simp only [applyAll_nil, journeyUpdateV1, allowed, if_true, Program.pure_eq, Program.done_bind]
  rw [alone_ran _ _ _ db _ _ _ locking]
  simp only [applyAll_nil]
  rw [alone_ran _ _ _ db _ _ _ fresh]
  simp only [applyAll_nil]
  rw [alone_bind]
  unfold journeyUpdateV1 at completes
  rw [completes]
  simp only [conflicted, raisedAfterCommit]
  rfl

/-- Whatever the executor's result becomes, it is the conflict. -/
theorem conflicts_of_executed (call : Call) (commandId : Uuid)
    (payload : JourneyUpdateCommandPayload) (origin : Origin)
    (rest : Except ApplicationError CommandExecution → Action Reply)
    (handled : handle platform context runtime call =
      executeJourneyUpdate platform context runtime commandId "journey.update" 1 payload origin >>=
        rest)
    (raises : rest (.error journeyConflict) = .done (.error journeyConflict))
    (executes : Executes context db commandId) (row : StoredJourney)
    (seen : visibleJourney db context.scope payload.journeyId = some row)
    (outdated : row.1.recordVersion ≠ payload.expectedRecordVersion) :
    Conflicts platform context runtime db call := by
  obtain ⟨receipt, executed⟩ := @executeJourneyUpdate_outdated platform context runtime db
    commandId payload origin executes row seen outdated
  have completes : alone (plainApi platform) (handle platform context runtime call) db =
      .ok (.error journeyConflict,
        db.insert (Key.receipt context.workspaceId context.userId commandId) receipt) := by
    rw [handled, alone_bind, executed]
    simp only [raises]
    rfl
  have served := serve_completed call _ _ completes
  constructor
  · rw [served]
    rfl
  · intro key travel
    rw [served, AList.lookup_insert_ne]
    rintro rfl
    cases travel

/-- An edit of a stored row with an outdated version is answered with the version conflict,
and leaves journeys, segments and packing items as they are, exactly when nothing stands in
front of the comparison of versions. -/
theorem outdated_conflicts (call : Call) (outdated : call.Outdated context runtime db) :
    Conflicts platform context runtime db call ↔ call.Comparable context db := by
  cases call with
  | updateSegment journeyId segmentId command =>
    obtain ⟨row, shown, differs⟩ := outdated
    exact updateSegment_conflicts journeyId segmentId command row shown differs
  | reorderSegment journeyId segmentId command =>
    obtain ⟨row, shown, differs⟩ := outdated
    exact iff_of_true (reorderSegment_conflicts journeyId segmentId command row shown differs)
      trivial
  | updatePacking journeyId itemId command =>
    obtain ⟨row, shown, differs⟩ := outdated
    exact updatePacking_conflicts journeyId itemId command row shown differs
  | updatePackingProgress journeyId itemId command =>
    obtain ⟨row, shown, differs⟩ := outdated
    rw [updatePackingProgress_conflicts journeyId itemId command row shown differs]
    apply and_congr_left'
    constructor
    · intro enough found same
      rw [shown] at same
      cases same
      exact enough
    · intro enough
      exact enough row shown
  | updateJourney journeyId command =>
    obtain ⟨executes, row, seen, differs⟩ := outdated
    refine iff_of_true ?_ trivial
    exact conflicts_of_executed _ runtime.commandId
      { toJourneyUpdate := command, journeyId := journeyId } .web _ rfl rfl executes row seen
        differs
  | journeyUpdateCommand command =>
    obtain ⟨commandId, commandVersion, payload, positive⟩ := command
    obtain ⟨⟨executes, version⟩, row, seen, differs⟩ := outdated
    subst version
    refine iff_of_true ?_ trivial
    exact conflicts_of_executed _ commandId payload .web _ rfl rfl executes row seen differs
  | _ => cases outdated

end Staleness

namespace Sample

/-- Two maps to pack. -/
def maps : PackingItem := ⟨7, "Map".toList, .documents, 2, 0, false, 1, 0, 0⟩

theorem maps_admissible : maps.Admissible := by decide

/-- The sample journey with one stay and its maps. -/
def furnished : Database :=
  (database.insert (Key.segment 20) ⟨stop 0, stop_admissible 0 (Nat.zero_le _)⟩).insert
    (Key.packingItem 30) ⟨maps, maps_admissible⟩

theorem named_fits : nameFits (some "Roma".toList) = true ∧ nameFits none = true ∧
    nameFits none = true := by decide

theorem named_detailed : SegmentKind.stay.detailed (some "Roma".toList) none none = true := by
  decide

theorem nul_short : [nul].length ≤ 5000 := by decide

/-- An update of the stay that expects some version. -/
def restay (notes : Text) (short : notes.length ≤ 5000) (expected : Nat)
    (positive : 1 ≤ expected) : Call :=
  .updateSegment 7 20
    { kind := .stay, startDate := none, endDate := none, placeName := some "Roma".toList
      originName := none, destinationName := none, transportMode := [], notes := notes
      namesFit := named_fits, transportLength := unmoved, notesLength := short
      datesAreOrdered := undated, hasDetails := named_detailed
      expectedRecordVersion := expected, expectedPositive := positive }

/-- Progress of the maps that expects some version. -/
def pack (packed : Nat) (bounds : packed ≤ 99) (expected : Nat) (positive : 1 ≤ expected) : Call :=
  .updatePackingProgress 7 30
    { expectedRecordVersion := expected, packedQuantity := packed, expectedPositive := positive
      packedBounds := bounds }

theorem few_packed : 3 ≤ 99 := by decide

end Sample

/-- The stay is not in its second version, and the update is told so. -/
theorem outdated_conflicts_stay :
    Conflicts Sample.platform Sample.context Sample.runtime Sample.furnished
      (Sample.restay [] Sample.unremarked 2 (Nat.succ_pos 1)) := by
  refine (outdated_conflicts _ ?_).mpr ⟨by decide, by decide⟩
  exact ⟨_, rfl, by decide⟩

/-- The answer to an edit of the furnished journey. -/
def Sample.answer (call : Call) : Nat × Option String :=
  statusAndCode (serve (plainApi platform) (.operation context call runtime) furnished).1

/-- A version past the range of its column, and a note with a NUL, are answered with an
internal error although the version is outdated. More packed than there is comes first, too. -/
theorem outdated_unreported :
    ((Sample.restay [] Sample.unremarked (maxBigint + 1) (Nat.succ_pos _)).Outdated Sample.context
        Sample.runtime Sample.furnished ∧
      Sample.answer (Sample.restay [] Sample.unremarked (maxBigint + 1) (Nat.succ_pos _)) =
        (500, some "internal_error")) ∧
      ((Sample.restay [nul] Sample.nul_short 2 (Nat.succ_pos 1)).Outdated Sample.context
        Sample.runtime Sample.furnished ∧
      Sample.answer (Sample.restay [nul] Sample.nul_short 2 (Nat.succ_pos 1)) =
        (500, some "internal_error")) ∧
      (Sample.pack 3 Sample.few_packed 2 (Nat.succ_pos 1)).Outdated Sample.context
        Sample.runtime Sample.furnished ∧
      Sample.answer (Sample.pack 3 Sample.few_packed 2 (Nat.succ_pos 1)) =
        (422, some "quantity_invalid") := by
  refine ⟨⟨⟨_, rfl, by decide⟩, by decide +kernel⟩, ⟨⟨_, rfl, by decide⟩, by decide +kernel⟩,
    ⟨_, rfl, by decide⟩, by decide +kernel⟩

end TraxOs.Api
