import TraxOs.Theory.Results
import TraxOs.Theory.Tallies
import TraxOs.PowerSync.ApplicationState

/-!
# The accounting of the application state

What every operation of the client keeps true of its sidecar database: no command is an
overlay and a result at once, every row reserves the bytes that it takes, and the
reservations stay within the limits. A result takes over the reservation of its overlay,
so that neither the number of rows nor the reserved bytes change. What a method does is
said once, by an inversion lemma for each of its rounds.
-/

namespace TraxOs.PowerSync

open TraxOs.Theory

section Rounds

/-- The limits that `assertOutstandingCapacity` checks. -/
theorem assertOutstandingCapacity_ok (current : Usage) (addedBytes : Nat)
    (passed : assertOutstandingCapacity current addedBytes = .ok ()) :
    current.count + 1 ≤ maxOutstandingCommandsAndResults ∧
      current.bytes + addedBytes ≤ maxSerializedOutstandingBytes := by
  unfold assertOutstandingCapacity throwing at passed
  split at passed
  · cases passed
  · split at passed
    · cases passed
    · split at passed
      · cases passed
      · omega

/-- A reservation is at least that of a result. -/
theorem reservedOutstandingBytes_ok (actual reserved : Nat)
    (passed : reservedOutstandingBytes actual = .ok reserved) :
    reserved = max actual terminalResultReservationBytes := by
  unfold reservedOutstandingBytes throwing at passed
  split at passed
  · cases passed
  · exact (Except.ok.inj passed).symm

/-- A requirement that did not throw is met. -/
@[simp] theorem require_ok (condition : Bool) (message : String) :
    require condition message = .ok () ↔ condition = true := by
  cases condition <;> simp [require, throwing]

/-- Where the reservation of a new result comes from: its overlay, or free capacity. -/
inductive Reserves (tables : ApplicationTables) (id : Text) (reserved : Nat) : Prop where
  | overlay (row : OverlayRow) (found : tables.overlay id = some row)
      (same : reserved = row.serializedBytes)
  | capacity (none : tables.overlay id = none)
      (few : tables.capacityUsage.count + 1 ≤ maxOutstandingCommandsAndResults)
      (small : tables.capacityUsage.bytes + reserved ≤ maxSerializedOutstandingBytes)

/-- A round of `persistResults` that did not throw has found the result or inserted it. -/
theorem persistResult_done (result : TerminalResultRecord) (tables next : ApplicationTables)
    (done : persistResult result tables = .ok next) :
    (∃ existing, tables.result result.commandId = some existing ∧ existing.compatible result = true ∧
        next = (tables.deleteOverlay result.commandId).deleteAttempt result.commandId) ∨
      (tables.result result.commandId = none ∧ ∃ reserved,
        terminalResultSerializedBytes result ≤ reserved ∧ Reserves tables result.commandId reserved ∧
        next = (({ tables with results := tables.results ++
            [result.row reserved (terminalResultSerializedBytes result)] } :
          ApplicationTables).deleteOverlay result.commandId).deleteAttempt result.commandId) := by
  unfold persistResult at done
  split at done
  · next existing found =>
    split at done
    · next compatible =>
      cases done
      exact Or.inl ⟨existing, found, compatible, rfl⟩
    · cases done
  · next absent =>
    obtain ⟨reserved, prior, rest⟩ := (bind_ok _ _ _).mp done
    obtain ⟨_, covered, rest⟩ := (bind_ok _ _ _).mp rest
    obtain ⟨_, room, rest⟩ := (bind_ok _ _ _).mp rest
    obtain ⟨inserted, insertion, rest⟩ := (bind_ok _ _ _).mp rest
    obtain rfl := Except.ok.inj rest
    rw [require_ok, decide_eq_true_iff] at covered
    refine Or.inr ⟨absent, reserved, covered, ?_, ?_⟩
    · cases found : tables.overlay result.commandId with
      | some row =>
        rw [found] at prior
        exact .overlay row found (Except.ok.inj prior).symm
      | none =>
        rw [found] at room
        obtain ⟨few, small⟩ := assertOutstandingCapacity_ok _ _ room
        exact .capacity found few small
    · unfold ApplicationTables.insertResult at insertion
      split at insertion
      · cases insertion
      · rw [← Except.ok.inj insertion]

/-- A round of `markResultsSdkCompleted` that did not throw has found the result. -/
theorem markResultSdkCompleted_done (commandId : Text) (tables next : ApplicationTables)
    (done : markResultSdkCompleted commandId tables = .ok next) :
    (∃ row, tables.result commandId = some row) ∧ next = tables.completeResult commandId := by
  unfold markResultSdkCompleted throwing at done
  split at done
  · cases done
  · next row found =>
    cases done
    exact ⟨⟨row, found⟩, rfl⟩

/-- A command that was admitted: it is bound, it is not active and there is room for it. -/
structure Admits (finalized : List QuarantinedCommand) (tables : ApplicationTables)
    (bound : BoundCommand) : Prop where
  inactive : tables.result bound.commandId = none
  fresh : tables.overlay bound.commandId = none
  covered : bound.actualSerializedBytes ≤ bound.reservedBytes
  few : (combinedCapacityUsage finalized tables).count + 1 ≤ maxOutstandingCommandsAndResults
  small : (combinedCapacityUsage finalized tables).bytes + bound.reservedBytes ≤
    maxSerializedOutstandingBytes

/-- A command is bound with a reservation for its bytes. -/
theorem bindCommand_covered (command : QueuedCommandInput) (replicated : Option Text)
    (bound : BoundCommand) (done : bindCommand command replicated = .ok bound) :
    bound.actualSerializedBytes ≤ bound.reservedBytes := by
  unfold bindCommand at done
  obtain ⟨_, _, rest⟩ := (bind_ok _ _ _).mp done
  split at rest
  · cases rest
  · cases rest
  · obtain ⟨reserved, passed, rest⟩ := (bind_ok _ _ _).mp rest
    obtain rfl := Except.ok.inj rest
    rw [reservedOutstandingBytes_ok _ _ passed]
    exact Nat.le_max_left _ _

/-- The insertion of the overlay of one command: it happens, or nothing does. -/
theorem addOverlays_one (bound : BoundCommand) (tables : ApplicationTables) :
    (addOverlays [bound] tables).2 = tables ∨
      (tables.result bound.commandId = none ∧ tables.overlay bound.commandId = none ∧
        (addOverlays [bound] tables).2 =
          { tables with overlays := tables.overlays ++ [bound.overlay] }) := by
  simp only [addOverlays, atomically, stepThrough]
  cases round : addOverlay bound (tables, []) with
  | error error => exact Or.inl rfl
  | ok state =>
    right
    unfold addOverlay at round
    obtain ⟨_, free, rest⟩ := (bind_ok _ _ _).mp round
    obtain ⟨inserted, insertion, rest⟩ := (bind_ok _ _ _).mp rest
    obtain rfl := Except.ok.inj rest
    rw [require_ok] at free
    unfold ApplicationTables.insertOverlay at insertion
    split at insertion
    · cases insertion
    · next missing =>
      obtain rfl := Except.ok.inj insertion
      simp only [not_or] at missing
      refine ⟨by simpa using free, ?_, rfl⟩
      simpa [BoundCommand.overlay] using missing.1

/-- A call of `queueCommands` changes nothing, or it admits one command. -/
theorem queueCommands_changes (finalized : List QuarantinedCommand) (replicated : Option Text)
    (commands : List QueuedCommandInput) (tables : ApplicationTables) :
    (queueCommands finalized replicated commands tables).2 = tables ∨
      ∃ command bound, commands = [command] ∧ bindCommand command replicated = .ok bound ∧
        (∀ entry ∈ finalized, entry.id ≠ bound.commandId) ∧ Admits finalized tables bound ∧
        (queueCommands finalized replicated commands tables).2 =
          { tables with overlays := tables.overlays ++ [bound.overlay] } := by
  unfold queueCommands
  split
  · next command =>
    dsimp only
    split
    · exact Or.inl rfl
    · next bound admitted =>
      obtain ⟨bound', bind, rest⟩ := (bind_ok _ _ _).mp admitted
      obtain ⟨_, free, rest⟩ := (bind_ok _ _ _).mp rest
      obtain ⟨_, room, rest⟩ := (bind_ok _ _ _).mp rest
      obtain rfl := Except.ok.inj rest
      rcases addOverlays_one bound' tables with same | ⟨inactive, fresh, added⟩
      · exact Or.inl same
      · right
        obtain ⟨few, small⟩ := assertOutstandingCapacity_ok _ _ room
        rw [require_ok] at free
        refine ⟨command, bound', rfl, bind, ?_, ⟨inactive, fresh, ?_, few, small⟩, added⟩
        · intro entry member same
          have unclaimed : (finalized.any fun entry => decide (entry.id = bound'.commandId)) = false := by
            simp only [Bool.not_eq_true', Bool.or_eq_false_iff] at free
            exact free.1
          simpa [same] using List.any_eq_false.mp unclaimed entry member
        · exact bindCommand_covered command replicated bound' bind
  · exact Or.inl rfl

end Rounds

section Accounting

/-- What is true of the tables in every state that a client reaches. -/
structure Balanced (tables : ApplicationTables) : Prop where
  resultsKeyed : (tables.results.map ResultRow.id).Nodup
  overlaysKeyed : (tables.overlays.map OverlayRow.id).Nodup
  apart : ∀ row ∈ tables.results, ∀ overlay ∈ tables.overlays, row.id ≠ overlay.id
  resultsCovered : ∀ row ∈ tables.results, row.actualSerializedBytes ≤ row.serializedBytes
  overlaysCovered : ∀ row ∈ tables.overlays, row.actualSerializedBytes ≤ row.serializedBytes
  few : tables.capacityUsage.count ≤ maxOutstandingCommandsAndResults
  small : tables.capacityUsage.bytes ≤ maxSerializedOutstandingBytes

/-- An empty state is balanced. -/
theorem balanced_empty : Balanced .empty := by
  constructor <;> simp [ApplicationTables.empty, ApplicationTables.capacityUsage]

/-- A state with fewer rows is balanced. -/
theorem Balanced.fewer {tables next : ApplicationTables} (balanced : Balanced tables)
    (results : next.results.Sublist tables.results)
    (overlays : next.overlays.Sublist tables.overlays) : Balanced next where
  resultsKeyed := balanced.resultsKeyed.sublist (results.map _)
  overlaysKeyed := balanced.overlaysKeyed.sublist (overlays.map _)
  apart row here overlay there := balanced.apart row (results.subset here) overlay (overlays.subset there)
  resultsCovered row here := balanced.resultsCovered row (results.subset here)
  overlaysCovered row here := balanced.overlaysCovered row (overlays.subset here)
  few := by
    have fewerResults := results.length_le
    have fewerOverlays := overlays.length_le
    have few := balanced.few
    simp only [ApplicationTables.capacityUsage] at few ⊢
    omega
  small := by
    have fewerResults := sum_sublist ResultRow.serializedBytes _ _ results
    have fewerOverlays := sum_sublist OverlayRow.serializedBytes _ _ overlays
    have small := balanced.small
    simp only [ApplicationTables.capacityUsage] at small ⊢
    omega

/-- In a balanced state the overlay of a command is the row under its identifier. -/
theorem Balanced.overlay_iff {tables : ApplicationTables} (balanced : Balanced tables) (id : Text)
    (row : OverlayRow) :
    tables.overlay id = some row ↔ row ∈ tables.overlays ∧ row.id = id :=
  find_keyed OverlayRow.id tables.overlays balanced.overlaysKeyed id row

/-- So is its result. -/
theorem Balanced.result_iff {tables : ApplicationTables} (balanced : Balanced tables) (id : Text)
    (row : ResultRow) :
    tables.result id = some row ↔ row ∈ tables.results ∧ row.id = id :=
  find_keyed ResultRow.id tables.results balanced.resultsKeyed id row

/-- A command with a result has no overlay, so that nothing is deleted with it. -/
theorem Balanced.deleteOverlay_result {tables : ApplicationTables} (balanced : Balanced tables) (id : Text)
    (row : ResultRow) (found : tables.result id = some row) : tables.deleteOverlay id = tables := by
  obtain ⟨member, rfl⟩ := (balanced.result_iff id row).mp found
  have kept : (tables.overlays.filter fun overlay => overlay.id ≠ row.id) = tables.overlays := by
    refine List.filter_eq_self.mpr fun overlay there => ?_
    simpa using (balanced.apart row member overlay there).symm
  simp only [ApplicationTables.deleteOverlay, kept]

/-- Without its overlay, the overlays are one less and reserve so much less; a command
without an overlay has none to lose. -/
theorem Balanced.without_overlay {tables : ApplicationTables} (balanced : Balanced tables) (id : Text)
    (reserved : Nat) (reserves : Reserves tables id reserved) :
    let others := tables.overlays.filter fun overlay => overlay.id ≠ id
    (others.length + 1 + tables.results.length = tables.capacityUsage.count ∧
      (others.map OverlayRow.serializedBytes).sum + reserved +
        (tables.results.map ResultRow.serializedBytes).sum = tables.capacityUsage.bytes ∧
      ∃ row, tables.overlay id = some row) ∨
    (others = tables.overlays ∧ tables.overlay id = none ∧
      tables.capacityUsage.count + 1 ≤ maxOutstandingCommandsAndResults ∧
      tables.capacityUsage.bytes + reserved ≤ maxSerializedOutstandingBytes) := by
  cases reserves with
  | overlay row found same =>
    left
    obtain ⟨member, rfl⟩ := (balanced.overlay_iff id row).mp found
    have count := length_without OverlayRow.id tables.overlays balanced.overlaysKeyed row member
    have bytes := sum_without OverlayRow.id OverlayRow.serializedBytes tables.overlays
      balanced.overlaysKeyed row member
    simp only [ApplicationTables.capacityUsage]
    exact ⟨by omega, by omega, row, found⟩
  | capacity absent few small =>
    right
    refine ⟨List.filter_eq_self.mpr fun overlay there => ?_, absent, few, small⟩
    have apart := (find_keyed_none OverlayRow.id tables.overlays id).mp absent overlay there
    simpa using apart

/-- A command is active when a row of either table has its identifier. -/
theorem hasActiveCommandId_iff (tables : ApplicationTables) (id : Text) :
    tables.hasActiveCommandId id = true ↔
      (∃ row ∈ tables.results, row.id = id) ∨ ∃ overlay ∈ tables.overlays, overlay.id = id := by
  simp [ApplicationTables.hasActiveCommandId, ApplicationTables.result, ApplicationTables.overlay,
    List.find?_isSome]

/-- What a round of `persistResults` keeps: accounting, the active commands, and the usage
when its command was active. -/
theorem persistResult_balanced (result : TerminalResultRecord) (tables next : ApplicationTables)
    (balanced : Balanced tables) (done : persistResult result tables = .ok next) :
    Balanced next ∧
      (∀ id, tables.hasActiveCommandId id = true → next.hasActiveCommandId id = true) ∧
      (tables.hasActiveCommandId result.commandId = true → next.capacityUsage = tables.capacityUsage) := by
  rcases persistResult_done result tables next done with
    ⟨existing, found, _, rfl⟩ | ⟨absent, reserved, covered, reserves, rfl⟩
  · rw [balanced.deleteOverlay_result _ existing found]
    exact ⟨balanced.fewer (List.Sublist.refl _) (List.Sublist.refl _), fun _ active => active,
      fun _ => rfl⟩
  · have others := balanced.without_overlay result.commandId reserved reserves
    have fresh := (find_keyed_none ResultRow.id tables.results result.commandId).mp absent
    refine ⟨?_, ?_, ?_⟩
    · constructor
      case resultsKeyed =>
        simp only [ApplicationTables.deleteAttempt, ApplicationTables.deleteOverlay, List.map_append,
          List.map_cons, List.map_nil]
        refine List.nodup_append.mpr ⟨balanced.resultsKeyed, List.nodup_singleton _, ?_⟩
        intro id member other last same
        obtain ⟨row, there, rfl⟩ := List.mem_map.mp member
        rw [List.mem_singleton.mp last] at same
        exact fresh row there same
      case overlaysKeyed => exact balanced.overlaysKeyed.sublist (List.filter_sublist.map _)
      case apart =>
        intro row here overlay there
        obtain ⟨member, other⟩ := List.mem_filter.mp there
        rcases List.mem_append.mp here with here | here
        · exact balanced.apart row here overlay member
        · rw [List.mem_singleton.mp here]
          have apart : overlay.id ≠ result.commandId := by simpa using other
          exact apart.symm
      case resultsCovered =>
        intro row here
        rcases List.mem_append.mp here with here | here
        · exact balanced.resultsCovered row here
        · rw [List.mem_singleton.mp here]
          exact covered
      case overlaysCovered =>
        intro row here
        exact balanced.overlaysCovered row (List.mem_filter.mp here).1
      case few =>
        have few := balanced.few
        simp only [ApplicationTables.capacityUsage, ApplicationTables.deleteAttempt,
          ApplicationTables.deleteOverlay, List.length_append, List.length_singleton] at few others ⊢
        rcases others with ⟨count, _, _⟩ | ⟨same, _, count, _⟩
        · omega
        · rw [same]
          omega
      case small =>
        have small := balanced.small
        simp only [ApplicationTables.capacityUsage, ApplicationTables.deleteAttempt,
          ApplicationTables.deleteOverlay, List.map_append, List.map_cons, List.map_nil,
          List.sum_append, List.sum_cons, List.sum_nil, TerminalResultRecord.row] at small others ⊢
        rcases others with ⟨_, bytes, _⟩ | ⟨same, _, _, bytes⟩
        · omega
        · rw [same]
          omega
    · intro id active
      rw [hasActiveCommandId_iff] at active ⊢
      by_cases same : id = result.commandId
      · exact Or.inl ⟨_, List.mem_append_right _ (List.mem_singleton_self _), same.symm⟩
      · rcases active with ⟨row, there, named⟩ | ⟨overlay, there, named⟩
        · exact Or.inl ⟨row, List.mem_append_left _ there, named⟩
        · exact Or.inr ⟨overlay, List.mem_filter.mpr ⟨there, by simpa [named] using same⟩, named⟩
    · intro active
      rcases others with ⟨count, bytes, _⟩ | ⟨_, missing, _, _⟩
      · simp only [ApplicationTables.capacityUsage, ApplicationTables.deleteAttempt,
          ApplicationTables.deleteOverlay, List.length_append, List.length_singleton, List.map_append,
          List.map_cons, List.map_nil, List.sum_append, List.sum_cons, List.sum_nil,
          TerminalResultRecord.row, Usage.mk.injEq] at count bytes ⊢
        exact ⟨by omega, by omega⟩
      · simp [ApplicationTables.hasActiveCommandId, absent, missing] at active

/-- `persistResults` keeps a state balanced, and when each of its commands is active it
changes neither the number of rows nor the reserved bytes. -/
theorem persistResults_balanced (results : List TerminalResultRecord) (tables : ApplicationTables)
    (balanced : Balanced tables) :
    Balanced (persistResults results tables).2 ∧
      ((∀ result ∈ results, tables.hasActiveCommandId result.commandId = true) →
        (persistResults results tables).2.capacityUsage = tables.capacityUsage) := by
  have whole := transaction_related persistResult
    (fun before after => Balanced before → Balanced after ∧
      ((∀ result ∈ results, before.hasActiveCommandId result.commandId = true) →
        (∀ result ∈ results, after.hasActiveCommandId result.commandId = true) ∧
          after.capacityUsage = before.capacityUsage))
    (fun state balanced => ⟨balanced, fun active => ⟨active, rfl⟩⟩)
    (by
      intro first second third one two balanced
      obtain ⟨middle, early⟩ := one balanced
      obtain ⟨last, late⟩ := two middle
      refine ⟨last, fun active => ?_⟩
      obtain ⟨still, same⟩ := early active
      obtain ⟨later, equal⟩ := late still
      exact ⟨later, equal.trans same⟩)
    results
    (by
      intro result member state next done balanced
      obtain ⟨after, active, usage⟩ := persistResult_balanced result state next balanced done
      exact ⟨after, fun all => ⟨fun other there => active _ (all other there),
        usage (all result member)⟩⟩)
    tables balanced
  exact ⟨whole.1, fun active => (whole.2 active).2⟩

/-- Completion changes the mark of one row and nothing else. -/
theorem completeResult_balanced (tables : ApplicationTables) (id : Text) (balanced : Balanced tables) :
    Balanced (tables.completeResult id) := by
  have ids : (tables.completeResult id).results.map ResultRow.id = tables.results.map ResultRow.id := by
    simp only [ApplicationTables.completeResult, List.map_map]
    refine List.map_congr_left fun row _ => ?_
    simp only [Function.comp]
    split <;> rfl
  have bytes : (tables.completeResult id).results.map ResultRow.serializedBytes =
      tables.results.map ResultRow.serializedBytes := by
    simp only [ApplicationTables.completeResult, List.map_map]
    refine List.map_congr_left fun row _ => ?_
    simp only [Function.comp]
    split <;> rfl
  have usage : (tables.completeResult id).capacityUsage = tables.capacityUsage := by
    simp only [ApplicationTables.capacityUsage, bytes]
    simp [ApplicationTables.completeResult]
  constructor
  case resultsKeyed => exact ids ▸ balanced.resultsKeyed
  case overlaysKeyed => exact balanced.overlaysKeyed
  case apart =>
    intro row here overlay there
    obtain ⟨stored, member, same⟩ := List.mem_map.mp here
    have apart := balanced.apart stored member overlay there
    split at same <;> (subst same; exact apart)
  case resultsCovered =>
    intro row here
    obtain ⟨stored, member, same⟩ := List.mem_map.mp here
    have covered := balanced.resultsCovered stored member
    split at same <;> (subst same; exact covered)
  case overlaysCovered => exact balanced.overlaysCovered
  case few => exact usage ▸ balanced.few
  case small => exact usage ▸ balanced.small

/-- An admitted command leaves a balanced state. -/
theorem admits_balanced (finalized : List QuarantinedCommand) (tables : ApplicationTables)
    (bound : BoundCommand) (balanced : Balanced tables) (admits : Admits finalized tables bound) :
    Balanced { tables with overlays := tables.overlays ++ [bound.overlay] } := by
  have inactive := (find_keyed_none ResultRow.id tables.results _).mp admits.inactive
  have fresh := (find_keyed_none OverlayRow.id tables.overlays _).mp admits.fresh
  constructor
  case resultsKeyed => exact balanced.resultsKeyed
  case overlaysKeyed =>
    rw [List.map_append]
    refine List.nodup_append.mpr ⟨balanced.overlaysKeyed, List.nodup_singleton _, ?_⟩
    intro id member other last same
    obtain ⟨row, there, rfl⟩ := List.mem_map.mp member
    rw [List.mem_singleton.mp last] at same
    exact fresh row there same
  case apart =>
    intro row here overlay there
    rcases List.mem_append.mp there with there | there
    · exact balanced.apart row here overlay there
    · rw [List.mem_singleton.mp there]
      exact inactive row here
  case resultsCovered => exact balanced.resultsCovered
  case overlaysCovered =>
    intro row here
    rcases List.mem_append.mp here with here | here
    · exact balanced.overlaysCovered row here
    · rw [List.mem_singleton.mp here]
      exact admits.covered
  case few =>
    have few := admits.few
    simp only [combinedCapacityUsage, ApplicationTables.capacityUsage, List.length_append,
      List.length_singleton] at few ⊢
    omega
  case small =>
    have small := admits.small
    simp only [combinedCapacityUsage, ApplicationTables.capacityUsage, List.map_append,
      List.map_cons, List.map_nil, List.sum_append, List.sum_cons, List.sum_nil,
      BoundCommand.overlay] at small ⊢
    omega

/-- Removed overlays are overlays no more, and nothing else changes. -/
theorem removeOverlays_fewer (commandIds : List Text) (tables : ApplicationTables) :
    (removeOverlays commandIds tables).results = tables.results ∧
      (removeOverlays commandIds tables).overlays.Sublist tables.overlays := by
  induction commandIds generalizing tables with
  | nil => exact ⟨rfl, List.Sublist.refl _⟩
  | cons commandId rest inductionHypothesis =>
    obtain ⟨results, overlays⟩ := inductionHypothesis (tables.deleteOverlay commandId)
    exact ⟨results, overlays.trans List.filter_sublist⟩

/-- A failed attempt is counted in its own table. -/
theorem recordTransientFailure_attempts (commandId : Text) (tables : ApplicationTables) :
    (recordTransientFailure commandId tables).2.results = tables.results ∧
      (recordTransientFailure commandId tables).2.overlays = tables.overlays := by
  unfold recordTransientFailure
  split
  · exact ⟨rfl, rfl⟩
  · split <;> exact ⟨rfl, rfl⟩

/-- Every operation keeps a balanced state balanced. -/
theorem perform_balanced (operation : Operation) (tables : ApplicationTables) (balanced : Balanced tables) :
    Balanced (operation.perform tables).2 := by
  cases operation with
  | queueCommands finalized replicated commands =>
    rcases queueCommands_changes finalized replicated commands tables with
      same | ⟨_, bound, _, _, _, admits, added⟩
    · exact same.symm ▸ balanced
    · exact added.symm ▸ admits_balanced finalized tables bound balanced admits
  | removeOverlays commandIds =>
    obtain ⟨results, overlays⟩ := removeOverlays_fewer commandIds tables
    exact balanced.fewer (results ▸ List.Sublist.refl _) overlays
  | persistResults results => exact (persistResults_balanced results tables balanced).1
  | markResultsSdkCompleted commandIds =>
    refine transaction_related markResultSdkCompleted (fun before after => Balanced before → Balanced after)
      (fun _ same => same) (fun _ _ _ one two first => two (one first)) commandIds ?_ tables balanced
    intro commandId _ state next done before
    obtain ⟨_, rfl⟩ := markResultSdkCompleted_done commandId state next done
    exact completeResult_balanced state commandId before
  | acknowledgeResult commandId => exact balanced.fewer List.filter_sublist (List.Sublist.refl _)
  | recordTransientFailure commandId =>
    obtain ⟨results, overlays⟩ := recordTransientFailure_attempts commandId tables
    exact balanced.fewer (results ▸ List.Sublist.refl _) (overlays ▸ List.Sublist.refl _)
  | clearOverlays => exact balanced.fewer (List.Sublist.refl _) (List.nil_sublist _)

/-- So every state that a client reaches is balanced. -/
theorem stateAfter_balanced (operations : List Operation) : Balanced (stateAfter operations) := by
  induction operations using List.reverseRecOn with
  | nil => exact balanced_empty
  | append_singleton earlier operation inductionHypothesis =>
    rw [stateAfter_concat]
    exact perform_balanced operation _ inductionHypothesis

end Accounting

section Results

/-- The results between two states without completion or acknowledgement: none is lost or
changed, and none that is new is completed. -/
structure AddsResults (before after : ApplicationTables) : Prop where
  kept : ∀ row ∈ before.results, row ∈ after.results
  pending : ∀ row ∈ after.results, row.sdkCompleted = true → row ∈ before.results

/-- Equal results extend each other. -/
theorem adds_same (before after : ApplicationTables) (same : after.results = before.results) :
    AddsResults before after :=
  ⟨fun _ there => same ▸ there, fun _ there _ => same ▸ there⟩

/-- `persistResults` only adds results, with no mark of completion. -/
theorem persistResult_adds (result : TerminalResultRecord) (tables next : ApplicationTables)
    (done : persistResult result tables = .ok next) : AddsResults tables next := by
  rcases persistResult_done result tables next done with
    ⟨_, _, _, rfl⟩ | ⟨_, reserved, _, _, rfl⟩
  · exact adds_same _ _ rfl
  · constructor
    · exact fun row there => List.mem_append_left _ there
    · intro row there completed
      rcases List.mem_append.mp there with there | there
      · exact there
      · rw [List.mem_singleton.mp there] at completed
        cases completed

/-- The relation is transitive. -/
theorem AddsResults.trans {first second third : ApplicationTables} (one : AddsResults first second)
    (two : AddsResults second third) : AddsResults first third :=
  ⟨fun row there => two.kept row (one.kept row there),
    fun row there completed => one.pending row (two.pending row there completed) completed⟩

theorem persistResults_adds (results : List TerminalResultRecord) (tables : ApplicationTables) :
    AddsResults tables (persistResults results tables).2 :=
  transaction_related persistResult AddsResults (fun _ => adds_same _ _ rfl)
    (fun _ _ _ one two => one.trans two) results
    (fun result _ state next done => persistResult_adds result state next done) tables

/-- A compatible replay of a stored result is accepted, and at most its failed attempts
are forgotten. -/
theorem persistResults_replay (result : TerminalResultRecord) (tables : ApplicationTables)
    (balanced : Balanced tables) (row : ResultRow) (member : row ∈ tables.results)
    (same : row.id = result.commandId) (compatible : row.compatible result = true) :
    persistResults [result] tables = (.ok (), tables.deleteAttempt result.commandId) := by
  have found : tables.result result.commandId = some row :=
    (balanced.result_iff _ row).mpr ⟨member, same⟩
  simp only [persistResults, atomically, stepThrough, persistResult, found, compatible, if_true,
    balanced.deleteOverlay_result _ row found]

/-- A batch with an incompatible replay throws. -/
theorem persistResults_conflict (results : List TerminalResultRecord) (tables : ApplicationTables)
    (balanced : Balanced tables) (row : ResultRow) (member : row ∈ tables.results)
    (result : TerminalResultRecord) (there : result ∈ results) (same : row.id = result.commandId)
    (incompatible : row.compatible result = false) :
    ∃ error, (persistResults results tables).1 = .error error := by
  cases outcome : (persistResults results tables).1 with
  | error error => exact ⟨error, rfl⟩
  | ok =>
    have body := atomically_done _ tables () outcome
    have done : (stepThrough persistResult results tables).1 = .ok () :=
      (congrArg Prod.fst body).symm.trans outcome
    obtain ⟨earlier, _, split, _, next, ran⟩ := stepThrough_done persistResult results tables done
      result there
    obtain ⟨reached, kept⟩ := stepThrough_related persistResult
      (fun before after => (Balanced before → Balanced after) ∧ AddsResults before after)
      (fun _ => ⟨id, adds_same _ _ rfl⟩)
      (fun _ _ _ one two => ⟨fun first => two.1 (one.1 first), one.2.trans two.2⟩) earlier
      (fun item _ state after ran => ⟨fun first => (persistResult_balanced item state after first ran).1,
        persistResult_adds item state after ran⟩) tables
    have found : (stepThrough persistResult earlier tables).2.result result.commandId = some row :=
      ((reached balanced).result_iff _ row).mpr ⟨kept.kept row member, same⟩
    rcases persistResult_done result _ next ran with
      ⟨existing, stored, compatible, _⟩ | ⟨absent, _⟩
    · obtain rfl := Option.some.inj (found.symm.trans stored)
      rw [incompatible] at compatible
      cases compatible
    · rw [found] at absent
      cases absent

/-- What `markResultsSdkCompleted` does to the results: none is lost, and a row that is
new is that of one of the commands. -/
theorem markResultsSdkCompleted_rows (commandIds : List Text) (tables : ApplicationTables) :
    (∀ row ∈ tables.results, ∃ later ∈ (markResultsSdkCompleted commandIds tables).2.results,
        later.id = row.id) ∧
      ∀ row ∈ (markResultsSdkCompleted commandIds tables).2.results, row ∈ tables.results ∨
        (row.id ∈ commandIds ∧ ∃ stored ∈ tables.results, stored.id = row.id) := by
  refine transaction_related markResultSdkCompleted
    (fun before after => (∀ row ∈ before.results, ∃ later ∈ after.results, later.id = row.id) ∧
      ∀ row ∈ after.results, row ∈ before.results ∨
        (row.id ∈ commandIds ∧ ∃ stored ∈ before.results, stored.id = row.id))
    (fun _ => ⟨fun row there => ⟨row, there, rfl⟩, fun _ there => Or.inl there⟩) ?_ commandIds ?_ tables
  · rintro first second third ⟨kept, known⟩ ⟨still, recent⟩
    constructor
    · intro row there
      obtain ⟨middle, between, same⟩ := kept row there
      obtain ⟨later, last, also⟩ := still middle between
      exact ⟨later, last, also.trans same⟩
    · intro row there
      rcases recent row there with before | ⟨named, stored, between, same⟩
      · exact known row before
      · rcases known stored between with before | ⟨_, original, before, also⟩
        · exact Or.inr ⟨named, stored, before, same⟩
        · exact Or.inr ⟨named, original, before, also.trans same⟩
  · intro commandId named state next done
    obtain ⟨_, rfl⟩ := markResultSdkCompleted_done commandId state next done
    constructor
    · intro row there
      refine ⟨_, List.mem_map_of_mem there, ?_⟩
      split <;> rfl
    · intro row there
      obtain ⟨stored, before, made⟩ := List.mem_map.mp there
      split at made
      · next same =>
        subst made
        exact Or.inr ⟨same ▸ named, stored, before, rfl⟩
      · exact Or.inl (made ▸ before)

/-- The results after an operation that neither completes nor acknowledges. -/
theorem perform_adds (operation : Operation) (tables : ApplicationTables)
    (marks : ∀ commandIds, operation ≠ .markResultsSdkCompleted commandIds)
    (acknowledges : ∀ commandId, operation ≠ .acknowledgeResult commandId) :
    AddsResults tables (operation.perform tables).2 := by
  cases operation with
  | queueCommands finalized replicated commands =>
    rcases queueCommands_changes finalized replicated commands tables with
      same | ⟨_, _, _, _, _, _, added⟩
    · exact adds_same _ _ (congrArg ApplicationTables.results same)
    · have results := congrArg ApplicationTables.results added
      exact adds_same _ _ results
  | removeOverlays commandIds => exact adds_same _ _ (removeOverlays_fewer commandIds tables).1
  | persistResults results => exact persistResults_adds results tables
  | markResultsSdkCompleted commandIds => exact absurd rfl (marks commandIds)
  | acknowledgeResult commandId => exact absurd rfl (acknowledges commandId)
  | recordTransientFailure commandId =>
    exact adds_same _ _ (recordTransientFailure_attempts commandId tables).1
  | clearOverlays => exact adds_same _ _ rfl

/-- Only the acknowledgement of a completed result deletes it. -/
theorem perform_deletes (operation : Operation) (tables : ApplicationTables) (row : ResultRow)
    (member : row ∈ tables.results)
    (deleted : ∀ later ∈ (operation.perform tables).2.results, later.id ≠ row.id) :
    operation = .acknowledgeResult row.id ∧ row.sdkCompleted = true := by
  by_cases marks : ∃ commandIds, operation = .markResultsSdkCompleted commandIds
  · obtain ⟨commandIds, rfl⟩ := marks
    obtain ⟨later, there, same⟩ := (markResultsSdkCompleted_rows commandIds tables).1 row member
    exact absurd same (deleted later there)
  · by_cases acknowledges : ∃ commandId, operation = .acknowledgeResult commandId
    · obtain ⟨commandId, rfl⟩ := acknowledges
      by_cases own : row.id = commandId ∧ row.sdkCompleted = true
      · exact ⟨own.1 ▸ rfl, own.2⟩
      · have kept : row ∈ (acknowledgeResult commandId tables).2.results := by
          refine List.mem_filter.mpr ⟨member, ?_⟩
          simpa [imp_iff_not_or] using own
        exact absurd rfl (deleted row kept)
    · have added := perform_adds operation tables (fun ids same => marks ⟨ids, same⟩)
        (fun id same => acknowledges ⟨id, same⟩)
      exact absurd rfl (deleted row (added.kept row member))

/-- Only a call of `markResultsSdkCompleted` for a stored result completes it. -/
theorem perform_completes (operation : Operation) (tables : ApplicationTables) (row : ResultRow)
    (there : row ∈ (operation.perform tables).2.results) (completed : row.sdkCompleted = true)
    (fresh : row ∉ tables.results) :
    ∃ commandIds, operation = .markResultsSdkCompleted commandIds ∧ row.id ∈ commandIds ∧
      (markResultsSdkCompleted commandIds tables).1 = .ok () ∧
        ∃ stored ∈ tables.results, stored.id = row.id := by
  by_cases marks : ∃ commandIds, operation = .markResultsSdkCompleted commandIds
  · obtain ⟨commandIds, rfl⟩ := marks
    obtain ⟨named, stored⟩ :=
      ((markResultsSdkCompleted_rows commandIds tables).2 row there).resolve_left fresh
    refine ⟨commandIds, rfl, named, ?_, stored⟩
    cases outcome : (markResultsSdkCompleted commandIds tables).1 with
    | ok => rfl
    | error error =>
      have unchanged := atomically_failed _ tables error outcome
      exact absurd (unchanged ▸ there) fresh
  · by_cases acknowledges : ∃ commandId, operation = .acknowledgeResult commandId
    · obtain ⟨commandId, rfl⟩ := acknowledges
      exact absurd (List.mem_filter.mp there).1 fresh
    · have added := perform_adds operation tables (fun ids same => marks ⟨ids, same⟩)
        (fun id same => acknowledges ⟨id, same⟩)
      exact absurd (added.pending row there completed) fresh

/-- The completion of a result was recorded: a call of `markResultsSdkCompleted` named it
and succeeded while it was stored, and the completed row has been there ever since. -/
def CompletionRecorded (operations : List Operation) (row : ResultRow) : Prop :=
  ∃ earlier commandIds later, operations = earlier ++ .markResultsSdkCompleted commandIds :: later ∧
    row.id ∈ commandIds ∧ (markResultsSdkCompleted commandIds (stateAfter earlier)).1 = .ok () ∧
    (∃ stored ∈ (stateAfter earlier).results, stored.id = row.id) ∧
    ∀ front back, later = front ++ back →
      row ∈ (stateAfter (earlier ++ .markResultsSdkCompleted commandIds :: front)).results

/-- Every completed result in a state that a client reaches was recorded. -/
theorem completed_recorded (operations : List Operation) (row : ResultRow)
    (there : row ∈ (stateAfter operations).results) (completed : row.sdkCompleted = true) :
    CompletionRecorded operations row := by
  induction operations using List.reverseRecOn with
  | nil => simp [stateAfter, ApplicationTables.empty] at there
  | append_singleton before operation inductionHypothesis =>
    by_cases known : row ∈ (stateAfter before).results
    · obtain ⟨earlier, commandIds, later, rfl, named, done, stored, since⟩ :=
        inductionHypothesis known
      refine ⟨earlier, commandIds, later ++ [operation], by simp, named, done, stored, ?_⟩
      intro front back split
      rcases List.eq_nil_or_concat back with rfl | ⟨rest, last, rfl⟩
      · rw [List.append_nil] at split
        rw [← split]
        simpa using there
      · rw [List.concat_eq_append, ← List.append_assoc] at split
        exact since front rest (List.append_inj' split rfl).1
    · rw [stateAfter_concat] at there
      obtain ⟨commandIds, rfl, named, done, stored⟩ :=
        perform_completes operation _ row there completed known
      refine ⟨before, commandIds, [], rfl, named, done, stored, ?_⟩
      intro front back split
      obtain ⟨rfl, _⟩ := List.append_eq_nil_iff.mp split.symm
      rw [stateAfter_concat]
      exact there

end Results

section Throws

/-- A call of `queueCommands` that throws changes nothing. -/
theorem queueCommands_throws (finalized : List QuarantinedCommand) (replicated : Option Text)
    (commands : List QueuedCommandInput) (tables : ApplicationTables) (error : StateError)
    (threw : (queueCommands finalized replicated commands tables).1 = .error error) :
    (queueCommands finalized replicated commands tables).2 = tables := by
  unfold queueCommands at threw ⊢
  split
  · next command =>
    dsimp only at threw ⊢
    split
    · rfl
    · next bound admitted =>
      rw [admitted] at threw
      exact atomically_failed _ tables error threw
  · rfl

/-- Every operation that throws leaves the whole state as it was. -/
theorem perform_throws (operation : Operation) (tables : ApplicationTables) (error : StateError)
    (threw : (operation.perform tables).1 = .error error) : (operation.perform tables).2 = tables := by
  have inner : ∀ {α : Type} (outcome : Except StateError α) (answer : α → OperationAnswer),
      outcome.map answer = .error error → outcome = .error error := by
    intro α outcome answer mapped
    cases outcome with
    | error inner => simpa [Except.map] using mapped
    | ok value => cases mapped
  cases operation with
  | queueCommands finalized replicated commands =>
    exact queueCommands_throws finalized replicated commands tables error (inner _ _ threw)
  | removeOverlays commandIds => cases threw
  | persistResults results => exact atomically_failed _ tables error (inner _ _ threw)
  | markResultsSdkCompleted commandIds => exact atomically_failed _ tables error (inner _ _ threw)
  | acknowledgeResult commandId => cases threw
  | recordTransientFailure commandId =>
    have failed := inner _ _ threw
    simp only [Operation.perform]
    unfold recordTransientFailure at failed ⊢
    split
    · next absent =>
      rw [absent] at failed
      cases failed
    · next row found =>
      rw [found] at failed
      dsimp only at failed
      split at failed
      · cases failed
      · next many => rw [if_neg many]
  | clearOverlays => cases threw

end Throws

/-- The local application state, after any operations with any commands and results. No
command is an overlay and a result; rows reserve the bytes that they take, within the
limits. Results for active commands leave the number of rows and the reserved bytes as
they were. A stored result outlasts every replay; a compatible one is accepted, and a batch
with an incompatible one throws. Only the acknowledgement of a result whose completion was
recorded deletes it. What throws changes nothing. -/
theorem application_state_invariants (operations : List Operation) :
    let tables := stateAfter operations
    (∀ id, ¬ ((∃ overlay ∈ tables.overlays, overlay.id = id) ∧ ∃ row ∈ tables.results, row.id = id)) ∧
    ((∀ row ∈ tables.results, row.actualSerializedBytes ≤ row.serializedBytes) ∧
      ∀ row ∈ tables.overlays, row.actualSerializedBytes ≤ row.serializedBytes) ∧
    (tables.capacityUsage.count ≤ 64 ∧ tables.capacityUsage.bytes ≤ 65536) ∧
    (∀ results : List TerminalResultRecord,
      (∀ result ∈ results, tables.hasActiveCommandId result.commandId = true) →
        (persistResults results tables).2.capacityUsage = tables.capacityUsage) ∧
    (∀ row ∈ tables.results, ∀ results : List TerminalResultRecord,
      row ∈ (persistResults results tables).2.results ∧
      (∀ result : TerminalResultRecord, row.id = result.commandId → row.compatible result = true →
        persistResults [result] tables = (.ok (), tables.deleteAttempt result.commandId)) ∧
      ∀ result ∈ results, row.id = result.commandId → row.compatible result = false →
        ∃ error, (persistResults results tables).1 = .error error) ∧
    (∀ (operation : Operation), ∀ row ∈ tables.results,
      (∀ later ∈ (operation.perform tables).2.results, later.id ≠ row.id) →
        operation = .acknowledgeResult row.id ∧ CompletionRecorded operations row) ∧
    ∀ (operation : Operation) (error : StateError), (operation.perform tables).1 = .error error →
      (operation.perform tables).2 = tables := by
  intro tables
  have balanced : Balanced tables := stateAfter_balanced operations
  refine ⟨?_, ⟨balanced.resultsCovered, balanced.overlaysCovered⟩, ⟨balanced.few, balanced.small⟩, ?_, ?_, ?_, ?_⟩
  · rintro id ⟨⟨overlay, there, rfl⟩, row, here, same⟩
    exact balanced.apart row here overlay there same
  · exact fun results => (persistResults_balanced results tables balanced).2
  · intro row member results
    refine ⟨(persistResults_adds results tables).kept row member, ?_, ?_⟩
    · intro result same compatible
      exact persistResults_replay result tables balanced row member same compatible
    · intro result there same incompatible
      exact persistResults_conflict results tables balanced row member result there same incompatible
  · intro operation row member deleted
    obtain ⟨acknowledged, completed⟩ := perform_deletes operation tables row member deleted
    exact ⟨acknowledged, completed_recorded operations row member completed⟩
  · exact fun operation error => perform_throws operation tables error

end TraxOs.PowerSync
