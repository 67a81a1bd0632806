import TraxOs.PowerSync.ClientChanges

/-!
# What a reset keeps

Between the two files, the tables and the memory of the client a command changes its place
several times. One invariant says of some commands that none of them is lost. Each function of
a reset keeps it at every `await`, wherever it stops, and so do the other operations when they
do not interfere with a reset that is unfinished.
-/

namespace TraxOs.PowerSync

open TraxOs.Theory
open TraxOs.ApiClient (Value)

section Admission

/-- What an admitted command does to the tables. -/
structure Admitted (commands : List QueuedCommandInput) (inserted : List Text)
    (before after : ApplicationTables) : Prop where
  single : ∃ command, commands = [command] ∧ inserted = [command.commandId]
  inactive : ∀ id ∈ inserted, ¬ before.Active id
  overlays : after.overlayIds = before.overlayIds ++ inserted
  results : after.results = before.results

/-- A bound command keeps its identifier. -/
theorem bindCommand_id (command : QueuedCommandInput) (replicated : Option Text)
    (bound : BoundCommand) (done : bindCommand command replicated = .ok bound) :
    bound.commandId = command.commandId := by
  unfold bindCommand at done
  obtain ⟨_, _, rest⟩ := (bind_ok _ _ _).mp done
  split at rest
  · cases rest
  · cases rest
  · obtain ⟨_, _, rest⟩ := (bind_ok _ _ _).mp rest
    obtain rfl := Except.ok.inj rest
    rfl

/-- Where nothing is found there is no identifier. -/
theorem not_active (tables : ApplicationTables) (id : Text) (result : tables.result id = none)
    (overlay : tables.overlay id = none) : ¬ tables.Active id := by
  rintro (overlaid | resulted)
  · obtain ⟨row, member, same⟩ := List.mem_map.mp overlaid
    exact absurd (decide_eq_true same) (List.find?_eq_none.mp overlay row member)
  · obtain ⟨row, member, same⟩ := List.mem_map.mp resulted
    exact absurd (decide_eq_true same) (List.find?_eq_none.mp result row member)

/-- `queueCommands` admits one command, which was not active. -/
theorem queueCommands_admitted (finalized : List QuarantinedCommand) (replicated : Option Text)
    (commands : List QueuedCommandInput) (tables : ApplicationTables) (inserted : List Text)
    (admitted : (queueCommands finalized replicated commands tables).1 = .ok inserted) :
    Admitted commands inserted tables (queueCommands finalized replicated commands tables).2 := by
  unfold queueCommands at admitted ⊢
  split at admitted
  · next command =>
    dsimp only at admitted ⊢
    split at admitted
    · cases admitted
    · next bound checked =>
      obtain ⟨bound', bind, rest⟩ := (bind_ok _ _ _).mp checked
      obtain ⟨_, _, rest⟩ := (bind_ok _ _ _).mp rest
      obtain ⟨_, _, rest⟩ := (bind_ok _ _ _).mp rest
      obtain rfl := Except.ok.inj rest
      simp only [addOverlays, atomically, stepThrough] at admitted ⊢
      cases round : addOverlay bound' (tables, []) with
      | error error =>
        rw [round] at admitted
        cases admitted
      | ok state =>
        rw [round] at admitted
        unfold addOverlay at round
        obtain ⟨_, free, rest⟩ := (bind_ok _ _ _).mp round
        obtain ⟨after, insertion, rest⟩ := (bind_ok _ _ _).mp rest
        obtain rfl := Except.ok.inj rest
        rw [require_ok] at free
        obtain rfl := Except.ok.inj admitted
        unfold ApplicationTables.insertOverlay at insertion
        split at insertion
        · cases insertion
        · next missing =>
          obtain rfl := Except.ok.inj insertion
          simp only [not_or] at missing
          have absent : tables.overlay bound'.commandId = none := by
            simpa [BoundCommand.overlay] using missing.1
          have unsettled : tables.result bound'.commandId = none := by simpa using free
          have same := bindCommand_id command replicated bound' bind
          refine ⟨⟨command, rfl, by rw [same]; rfl⟩, ?_, ?_, rfl⟩
          · intro id member
            obtain rfl : id = bound'.commandId := List.mem_singleton.mp member
            exact not_active tables _ unsettled absent
          · show (tables.overlays ++ [bound'.overlay]).map OverlayRow.id = _
            exact List.map_append
  · cases admitted

end Admission

section Keeping

variable {Outside : Type}

/-- A command is represented: by an overlay or a result, or in the quarantine file. -/
def Represented (world : ClientWorld Outside) (id : Text) : Prop :=
  id ∈ world.tables.overlayIds ∨ id ∈ world.tables.resultIds ∨
    id ∈ pendingIds world.quarantineFile ∨ id ∈ finalizedIds world.quarantineFile

instance (world : ClientWorld Outside) (id : Text) : Decidable (Represented world id) :=
  inferInstanceAs (Decidable (_ ∨ _))

/-- The reset state in the file has a phase before `cleared`. -/
def uncleared (file : Option Value) : Bool :=
  file.any fun value => !isText (ascii "cleared") (memberOf value "phase")

/-- A state is uncleared by its phase. -/
theorem uncleared_written (state : ResetState) :
    uncleared (some state.value) = true ↔ ∀ session, state.phase ≠ .cleared session := by
  have texts : uncleared (some state.value) = !isText (ascii "cleared") (some (.text state.phase.text)) :=
    rfl
  have others : isText (ascii "cleared") (some (.text (ascii "quarantined"))) = false ∧
      isText (ascii "cleared") (some (.text (ascii "session_staged"))) = false ∧
        isText (ascii "cleared") (some (.text (ascii "cleared"))) = true := by decide
  rw [texts]
  cases state.phase with
  | quarantined => simp [ResetPhase.text, others]
  | sessionStaged newSession => simp [ResetPhase.text, others]
  | cleared newSession => simp [ResetPhase.text, others]

/-- An uncleared state is there. -/
theorem isSome_of_uncleared (file : Option Value) (unfinished : uncleared file = true) :
    file.isSome = true := by
  cases file with
  | none => cases unfinished
  | some value => rfl

/-- What holds at every `await` of the client and between its operations, for some commands
that must not be lost. Intents count only while a reset is unfinished, since the next reset
writes others. Until the replica is cleared the intents cover the overlays, and without an
unfinished reset the memory knows the finalized entries of the file. -/
structure Kept (ids : List Text) (world : ClientWorld Outside) : Prop where
  tables : Balanced world.tables
  quarantine : QuarantineFile world.quarantineFile
  reset : ResetFile world.resetFile
  held : ∀ id ∈ ids, world.tables.Active id ∨ id ∈ finalizedIds world.quarantineFile ∨
    (world.resetFile.isSome = true ∧ id ∈ pendingIds world.quarantineFile)
  covered : uncleared world.resetFile = true → ∀ id ∈ world.tables.overlayIds,
    id ∈ pendingIds world.quarantineFile
  known : world.resetFile = none → ∀ id ∈ finalizedIds world.quarantineFile,
    id ∈ world.finalizedQuarantine.map QuarantinedCommand.id

/-- What is kept is represented. -/
theorem Kept.represented {ids : List Text} {world : ClientWorld Outside} (kept : Kept ids world)
    (id : Text) (member : id ∈ ids) : Represented world id := by
  rcases kept.held id member with (overlaid | resulted) | finalized | ⟨_, pending⟩
  · exact .inl overlaid
  · exact .inr (.inl resulted)
  · exact .inr (.inr (.inr finalized))
  · exact .inr (.inr (.inl pending))

/-- Fewer commands are kept all the more. -/
theorem Kept.fewer {ids fewer : List Text} {world : ClientWorld Outside} (kept : Kept ids world)
    (subset : fewer ⊆ ids) : Kept fewer world :=
  { kept with held := fun id member => kept.held id (subset member) }

/-- What the world is like after steps in the background: no command is lost, no overlay is
new, and what only the operations behind the gate write is as it was. -/
structure Since (before after : ClientWorld Outside) : Prop extends Untouched before after where
  balanced : Balanced before.tables → Balanced after.tables
  active : ∀ id, before.tables.Active id → after.tables.Active id
  overlays : ∀ id ∈ after.tables.overlayIds, id ∈ before.tables.overlayIds

theorem Since.of_same {before after : ClientWorld Outside} (untouched : Untouched before after)
    (tables : after.tables = before.tables) : Since before after where
  toUntouched := untouched
  balanced first := tables ▸ first
  active _ there := tables ▸ there
  overlays _ there := tables ▸ there

theorem Since.refl (world : ClientWorld Outside) : Since world world := .of_same (.refl world) rfl

theorem Since.trans {first second third : ClientWorld Outside} (one : Since first second)
    (two : Since second third) : Since first third where
  toUntouched := one.toUntouched.trans two.toUntouched
  balanced first := two.balanced (one.balanced first)
  active id there := two.active id (one.active id there)
  overlays id there := one.overlays id (two.overlays id there)

/-- A step in the background uploads at most. -/
theorem Since.step (surroundings : ClientSurroundings Outside) (world : ClientWorld Outside)
    (step : Background Outside) : Since world ((clientHost surroundings).step step world) := by
  have untouched := Untouched.step surroundings world step
  cases step with
  | persistResults results =>
    have uploads := persistResults_uploads results world.tables
    exact ⟨untouched, perform_balanced (.persistResults results) _, uploads.active, uploads.overlays⟩
  | complete => exact .of_same untouched rfl
  | markResultsSdkCompleted commandIds =>
    have uploads := markResultsSdkCompleted_uploads commandIds world.tables
    exact ⟨untouched, perform_balanced (.markResultsSdkCompleted commandIds) _, uploads.active,
      uploads.overlays⟩
  | recordTransientFailure commandId =>
    have uploads := recordTransientFailure_uploads commandId world.tables
    exact ⟨untouched, perform_balanced (.recordTransientFailure commandId) _, uploads.active,
      uploads.overlays⟩
  | requireReset => exact .of_same untouched rfl
  | outside next => exact .of_same untouched rfl

/-- What goes on in the background keeps what is kept. -/
theorem Kept.since {ids : List Text} {world next : ClientWorld Outside} (kept : Kept ids world)
    (since : Since world next) : Kept ids next where
  tables := since.balanced kept.tables
  quarantine := since.quarantine ▸ kept.quarantine
  reset := since.reset ▸ kept.reset
  held id member := by
    rw [since.quarantine, since.reset]
    exact (kept.held id member).imp_left (since.active id)
  covered unfinished id overlaid := by
    rw [since.quarantine]
    exact kept.covered (since.reset ▸ unfinished) id (since.overlays id overlaid)
  known absent id finalized := by
    rw [since.memory]
    exact kept.known (since.reset ▸ absent) id (since.quarantine ▸ finalized)

variable {surroundings : ClientSurroundings Outside}
variable {rule : Rule (ClientWorld Outside) (Background Outside) ClientRequest}
variable {ids : List Text}

/-- The background is calm for what is kept. -/
theorem kept_calm (stages : Stage ClientRequest → Prop) :
    Calm surroundings rule stages Since (Kept ids) where
  refl := Since.refl
  trans _ _ _ := Since.trans
  steps _ _ world step _ := Since.step surroundings world step
  closed _ _ := Kept.since
  untouched _ _ since := since.toUntouched
  posted _ _ _ _ _ := .of_same ⟨rfl, rfl, rfl, rfl, rfl, rfl⟩ rfl
  closing _ _ := .of_same ⟨rfl, rfl, rfl, rfl, rfl, rfl⟩ rfl
  granting _ := .of_same ⟨rfl, rfl, rfl, rfl, rfl, rfl⟩ rfl
  emptying _ := .of_same ⟨rfl, rfl, rfl, rfl, rfl, rfl⟩ rfl

theorem kept_upholds : Upholds surroundings rule Since Since (Kept ids) where
  calm := kept_calm _
  quiet := kept_calm _
  reset _ kept := kept.reset
  quarantine _ kept := kept.quarantine

variable {world : ClientWorld Outside}

/-- While no reset is unfinished, another quarantine with the same finalized entries may be
written. -/
theorem Kept.withPending (kept : Kept ids world) (begins : world.resetFile = none)
    (store : QuarantineStore)
    (finalized : store.finalized.map QuarantinedCommand.id = finalizedIds world.quarantineFile) :
    Kept ids { world with quarantineFile := some store.value } where
  tables := kept.tables
  quarantine := .inr ⟨store, rfl⟩
  reset := kept.reset
  held id member := by
    rcases kept.held id member with active | listed | ⟨unfinished, -⟩
    · exact .inl active
    · exact .inr (.inl (by rwa [finalizedIds_written, finalized]))
    · rw [begins] at unfinished
      cases unfinished
  covered unfinished := by
    simp only [begins, uncleared, Option.any_none, Bool.false_eq_true] at unfinished
  known _ id listed := by
    rw [finalizedIds_written, finalized] at listed
    exact kept.known begins id listed

/-- A reset state may be written while the intents cover the overlays, or when the replica is
cleared. -/
theorem Kept.withState (kept : Kept ids world) (state : ResetState)
    (covered : (∀ session, state.phase ≠ .cleared session) → ∀ id ∈ world.tables.overlayIds,
      id ∈ pendingIds world.quarantineFile) :
    Kept ids { world with resetFile := some state.value } where
  tables := kept.tables
  quarantine := kept.quarantine
  reset := .inr ⟨state, rfl⟩
  held id member := (kept.held id member).imp_right (·.imp_right fun pending => ⟨rfl, pending.2⟩)
  covered unfinished := covered ((uncleared_written state).mp unfinished)
  known absent := by cases absent

/-- The overlays may be cleared while a reset is unfinished that the intents cover them for. -/
theorem Kept.clear (kept : Kept ids world) (unfinished : uncleared world.resetFile = true) :
    Kept ids { world with tables := clearOverlays world.tables } where
  tables := perform_balanced .clearOverlays _ kept.tables
  quarantine := kept.quarantine
  reset := kept.reset
  held id member := by
    have present := isSome_of_uncleared _ unfinished
    rcases kept.held id member with (overlaid | resulted) | finalized | pending
    · exact .inr (.inr ⟨present, kept.covered unfinished id overlaid⟩)
    · exact .inl (.inr resulted)
    · exact .inr (.inl finalized)
    · exact .inr (.inr pending)
  covered _ _ overlaid := by cases overlaid
  known := kept.known

/-- While no overlay is about to be cleared, a command may get one. -/
theorem Kept.enqueue (kept : Kept ids world) (settled : uncleared world.resetFile = false)
    {commands : List QueuedCommandInput} {inserted : List Text} {after : ApplicationTables}
    (admitted : Admitted commands inserted world.tables after) (balanced : Balanced after) :
    Kept (ids ++ inserted) { world with tables := after } where
  tables := balanced
  quarantine := kept.quarantine
  reset := kept.reset
  held id member := by
    have results : after.resultIds = world.tables.resultIds := by
      rw [ApplicationTables.resultIds, admitted.results]
      rfl
    rcases List.mem_append.mp member with earlier | added
    · refine (kept.held id earlier).imp_left ?_
      rintro (overlaid | resulted)
      · exact .inl (by rw [admitted.overlays]; exact List.mem_append_left _ overlaid)
      · exact .inr (by rw [results]; exact resulted)
    · exact .inl (.inl (by rw [admitted.overlays]; exact List.mem_append_right _ added))
  covered unfinished := by
    rw [settled] at unfinished
    cases unfinished
  known := kept.known

/-- And the overlay may be removed again. -/
theorem Kept.withdraw {first last : ClientWorld Outside} {inserted : List Text}
    (kept : Kept ids first) (inactive : ∀ id ∈ inserted, ¬ first.tables.Active id)
    (admitted : Kept (ids ++ inserted) last) (quarantine : last.quarantineFile = first.quarantineFile)
    (reset : last.resetFile = first.resetFile) :
    Kept ids { last with tables := removeOverlays inserted last.tables } := by
  obtain ⟨results, overlays⟩ := removeOverlays_fewer inserted last.tables
  refine ⟨perform_balanced (.removeOverlays inserted) _ admitted.tables, admitted.quarantine,
    admitted.reset, ?_, ?_, admitted.known⟩
  · intro id member
    by_cases added : id ∈ inserted
    · rw [quarantine, reset]
      exact .inr ((kept.held id member).resolve_left (inactive id added))
    · refine (admitted.held id (List.mem_append_left _ member)).imp_left ?_
      rintro (overlaid | resulted)
      · exact .inl ((mem_removeOverlays inserted last.tables id).mpr ⟨overlaid, added⟩)
      · exact .inr (by rw [ApplicationTables.resultIds, results]; exact resulted)
  · intro unfinished id overlaid
    exact admitted.covered unfinished id ((overlays.map OverlayRow.id).subset overlaid)

/-- Once the replica is cleared, intents may be finalized. -/
theorem Kept.finalize (kept : Kept ids world) (state : ResetState)
    (stored : world.resetFile = some state.value) (newSession : ReplicaSessionSecret)
    (cleared : state.phase = .cleared newSession) (merged : List QuarantinedCommand)
    (complete : ∀ id, id ∈ finalizedIds world.quarantineFile ∨ id ∈ pendingIds world.quarantineFile →
      id ∈ merged.map QuarantinedCommand.id) :
    Kept ids { world with quarantineFile := some (QuarantineStore.mk merged []).value } where
  tables := kept.tables
  quarantine := .inr ⟨⟨merged, []⟩, rfl⟩
  reset := kept.reset
  held id member := by
    rw [finalizedIds_written]
    rcases kept.held id member with active | finalized | ⟨_, pending⟩
    · exact .inl active
    · exact .inr (.inl (complete id (.inl finalized)))
    · exact .inr (.inl (complete id (.inr pending)))
  covered unfinished := by
    rw [stored, uncleared_written] at unfinished
    exact absurd cleared (unfinished newSession)
  known absent := by
    rw [stored] at absent
    cases absent

/-- The reset is over when nothing is pending and the memory knows what the file has. -/
theorem Kept.finish (kept : Kept ids world) (merged : List QuarantinedCommand)
    (stored : world.quarantineFile = some (QuarantineStore.mk merged []).value)
    (known : world.finalizedQuarantine = merged) : Kept ids { world with resetFile := none } where
  tables := kept.tables
  quarantine := kept.quarantine
  reset := .inl rfl
  held id member := by
    rcases kept.held id member with active | finalized | ⟨_, pending⟩
    · exact .inl active
    · exact .inr (.inl finalized)
    · rw [stored, pendingIds_written] at pending
      cases pending
  covered unfinished := by cases unfinished
  known _ id listed := by
    rw [stored, finalizedIds_written] at listed
    rwa [known]

/-- The commands but one. -/
abbrev but (ids : List Text) (commandId : Text) : List Text := ids.filter fun id => id ≠ commandId

/-- At most one row has the identifier of a command. -/
theorem deletedResults_length (tables : ApplicationTables) (commandId : Text)
    (keyed : (tables.results.map ResultRow.id).Nodup) :
    (tables.results.filter fun row => decide (row.id = commandId) && row.sdkCompleted).length ≤ 1 := by
  set deleted := tables.results.filter fun row => decide (row.id = commandId) && row.sdkCompleted
  have same : deleted.map ResultRow.id = List.replicate deleted.length commandId := by
    refine List.eq_replicate_iff.mpr ⟨List.length_map _, ?_⟩
    intro id member
    obtain ⟨row, there, rfl⟩ := List.mem_map.mp member
    have matched := (List.mem_filter.mp there).2
    rw [Bool.and_eq_true] at matched
    exact of_decide_eq_true matched.1
  have fewer : deleted.Sublist tables.results := List.filter_sublist
  have distinct := keyed.sublist (fewer.map ResultRow.id)
  exact List.nodup_replicate.mp (same ▸ distinct)

/-- An acknowledged result is the only one that goes, and it goes only when it is found. -/
theorem Kept.acknowledge (kept : Kept ids world) (commandId : Text) :
    Kept (but ids commandId) { world with tables := (acknowledgeResult commandId world.tables).2 } ∧
      ((acknowledgeResult commandId world.tables).1 = false →
        Kept ids { world with tables := (acknowledgeResult commandId world.tables).2 }) := by
  have balanced := perform_balanced (.acknowledgeResult commandId) _ kept.tables
  have stays : ∀ id, (∀ row ∈ world.tables.results, row.id = id →
      ¬ (row.id = commandId ∧ row.sdkCompleted = true)) → world.tables.Active id →
        (acknowledgeResult commandId world.tables).2.Active id := by
    intro id spared active
    refine active.imp_right fun resulted => ?_
    obtain ⟨row, member, same⟩ := List.mem_map.mp resulted
    refine List.mem_map.mpr ⟨row, List.mem_filter.mpr ⟨member, ?_⟩, same⟩
    simpa [Decidable.imp_iff_not_or] using spared row member same
  constructor
  · refine ⟨balanced, kept.quarantine, kept.reset, ?_, kept.covered, kept.known⟩
    intro id member
    obtain ⟨listed, other⟩ := List.mem_filter.mp member
    refine (kept.held id listed).imp_left (stays id ?_)
    rintro row _ rfl ⟨same, _⟩
    exact absurd same (of_decide_eq_true other)
  · intro missing
    refine ⟨balanced, kept.quarantine, kept.reset, ?_, kept.covered, kept.known⟩
    intro id listed
    refine (kept.held id listed).imp_left (stays id ?_)
    rintro row member rfl ⟨same, completed⟩
    have found : row ∈ world.tables.results.filter fun row =>
        decide (row.id = commandId) && row.sdkCompleted :=
      List.mem_filter.mpr ⟨member, by rw [decide_eq_true same, completed]; rfl⟩
    have single := deletedResults_length world.tables commandId kept.tables.resultsKeyed
    have some := List.length_pos_of_mem found
    simp only [acknowledgeResult, decide_eq_false_iff_not] at missing
    omega

/-- The quarantine file has no intents of an unfinished reset, and the memory knows its finalized
entries. -/
structure Discardable (world : ClientWorld Outside) : Prop where
  empty : world.resetFile.isSome = true → pendingIds world.quarantineFile = []
  known : ∀ id ∈ finalizedIds world.quarantineFile,
    id ∈ world.finalizedQuarantine.map QuarantinedCommand.id

theorem Discardable.since {next : ClientWorld Outside} (discardable : Discardable world)
    (since : Since world next) : Discardable next where
  empty unfinished := by
    rw [since.quarantine]
    exact discardable.empty (since.reset ▸ unfinished)
  known id listed := by
    rw [since.memory]
    exact discardable.known id (since.quarantine ▸ listed)

/-- Then an entry of the quarantine may go, and the others stay. -/
theorem Kept.discard (kept : Kept ids world) (discardable : Discardable world)
    (commandId : Text) (next : List QuarantinedCommand)
    (others : ∀ id ∈ world.finalizedQuarantine.map QuarantinedCommand.id, id ≠ commandId →
      id ∈ next.map QuarantinedCommand.id)
    (known : ∀ id ∈ next.map QuarantinedCommand.id,
      id ∈ world.finalizedQuarantine.map QuarantinedCommand.id) :
    Kept (but ids commandId)
      { world with quarantineFile := some (QuarantineStore.mk next []).value } where
  tables := kept.tables
  quarantine := .inr ⟨⟨next, []⟩, rfl⟩
  reset := kept.reset
  held id member := by
    obtain ⟨listed, other⟩ := List.mem_filter.mp member
    rw [finalizedIds_written]
    rcases kept.held id listed with active | finalized | ⟨unfinished, pending⟩
    · exact .inl active
    · exact .inr (.inl (others id (discardable.known id finalized) (of_decide_eq_true other)))
    · rw [discardable.empty unfinished] at pending
      cases pending
  covered unfinished id overlaid := by
    have present := isSome_of_uncleared _ unfinished
    have covered := kept.covered unfinished id overlaid
    rw [discardable.empty present] at covered
    cases covered
  known _ id listed := by
    rw [finalizedIds_written] at listed
    exact known id listed

/-- While a reset is unfinished the memory may change. -/
theorem Kept.remember (kept : Kept ids world) (present : world.resetFile ≠ none)
    (finalized : List QuarantinedCommand) :
    Kept ids { world with finalizedQuarantine := finalized } :=
  { kept with known := fun absent => absurd absent present }

/-- The tables, the files and the memory are all that is kept. -/
theorem Kept.same {next : ClientWorld Outside} (kept : Kept ids world)
    (tables : next.tables = world.tables) (quarantine : next.quarantineFile = world.quarantineFile)
    (reset : next.resetFile = world.resetFile)
    (memory : next.finalizedQuarantine = world.finalizedQuarantine) : Kept ids next where
  tables := tables ▸ kept.tables
  quarantine := quarantine ▸ kept.quarantine
  reset := reset ▸ kept.reset
  held id member := by
    rw [tables, quarantine, reset]
    exact kept.held id member
  covered := by
    rw [tables, quarantine, reset]
    exact kept.covered
  known := by
    rw [quarantine, reset, memory]
    exact kept.known

/-- A snapshot has a candidate for each overlay. -/
theorem candidates_cover (tables : ApplicationTables) (collation : Text → Text → Bool)
    (queued : List Candidate) (id : Text) (overlaid : id ∈ tables.overlayIds) :
    id ∈ (resetCandidates queued (readOverlayRecords collation tables)).map Candidate.id := by
  obtain ⟨row, member, rfl⟩ := List.mem_map.mp overlaid
  simp only [resetCandidates, List.map_append, List.mem_append, List.mem_map]
  by_cases listed : queued.any (fun command => command.id = row.id) = true
  · obtain ⟨command, queuedToo, same⟩ := List.any_eq_true.mp listed
    exact .inl ⟨command, queuedToo, by simpa using same⟩
  · have kept : row ∈ (readOverlayRecords collation tables).filter fun overlay =>
        !queued.any fun command => command.id = overlay.id :=
      List.mem_filter.mpr ⟨(mem_sortBy _ _ row).mpr member, by simpa using listed⟩
    exact .inr ⟨row.candidate, ⟨row, kept, rfl⟩, rfl⟩

/-- Each change of a reset loses nothing. -/
theorem kept_changes (start world next : ClientWorld Outside) (kept : Kept ids world)
    (change : Change surroundings rule Since Since (Kept ids) start world next) : Kept ids next := by
  cases change with
  | quarantined first second _ snapshot store taken later quarantines =>
    exact kept.withPending (later.reset.trans (taken.later.reset.trans taken.idle)) store
      quarantines.finalized
  | begun first second written _ snapshot store state taken later quarantines after phase session =>
    refine kept.withState state fun _ id overlaid => ?_
    obtain ⟨queued, _, candidates⟩ := taken.candidates
    have listed := candidates_cover _ surroundings.collation queued id
      (later.overlays id (after.overlays id overlaid))
    rw [after.quarantine, pendingIds_written, quarantines.pending, candidates]
    exact listed
  | staged before _ state newSession answered =>
    refine kept.withState _ fun _ => kept.covered ?_
    rw [answered.since.reset, answered.stored, uncleared_written, answered.phase]
    exact fun _ same => by cases same
  | counted => exact kept.same rfl rfl rfl rfl
  | adopted => exact kept.same rfl rfl rfl rfl
  | cleared _ state newSession stored phase =>
    refine kept.clear ?_
    rw [stored, uncleared_written, phase]
    exact fun _ same => by cases same
  | clearedState => exact kept.withState _ fun other => absurd rfl (other _)
  | entered => exact kept.same rfl rfl rfl rfl
  | recorded => exact kept.same rfl rfl rfl rfl
  | finalized _ state newSession stored phase merged same =>
    refine kept.finalize state stored newSession phase merged fun id listed => ?_
    exact same.mem_iff.mpr (List.mem_append.mpr listed)
  | remembered _ state merged stored file =>
    refine kept.remember ?_ merged
    rw [stored]
    exact Option.some_ne_none _
  | unlinked _ state newSession merged entered file memory => exact kept.finish merged file memory

namespace ReplicaClient

/-- A command is admitted, or nothing is lost by the attempt. -/
theorem queueCommands_loses_nothing (kept : Kept ids world)
    (settled : uncleared world.resetFile = false) (commands : List QueuedCommandInput)
    (correlationId : Text) :
    Keeps surroundings rule (Kept ids) (queueCommands commands correlationId) world fun _ reached =>
      Kept (ids ++ commands.map QueuedCommandInput.commandId) reached := by
  have calm : Calm surroundings rule (fun _ => True) Since (Kept ids) := kept_calm _
  have admitted : ∀ one replicated inserted, Since world one →
      (queueAdmission commands replicated one).1 = .ok inserted →
        Kept (ids ++ inserted) { one with tables := (queueAdmission commands replicated one).2 } := by
    intro one replicated inserted since accepted
    have keptOne := kept.since since
    have balanced := perform_balanced (.queueCommands one.finalizedQuarantine replicated commands) _
      keptOne.tables
    exact keptOne.enqueue (by rw [since.reset, settled])
      (queueCommands_admitted _ _ _ _ _ accepted) balanced
  have writing : ∀ crud before, Since before
      ((clientHost surroundings).effect (.writeTransaction crud) before).2 :=
    fun crud before => .of_same ⟨rfl, rfl, rfl, rfl, rfl, rfl⟩ rfl
  refine Host.safe_returns _ world
    (queueCommands_keeps calm kept commands correlationId ?_) ?_
  · intro before next still change
    cases change with
    | admitted _ replicated inserted since accepted =>
      exact (admitted _ replicated inserted since accepted).fewer (List.subset_append_left ids inserted)
    | written one _ replicated inserted queued => exact still.since (writing _ before)
    | withdrawn one before _ replicated inserted queued after =>
      have more := (admitted one replicated inserted queued.since queued.accepted).since queued.after
      have here : Since before _ := after.elim id fun there => (writing _ before).trans there
      have accepted := queueCommands_admitted _ _ _ _ _ queued.accepted
      exact (kept.since queued.since).withdraw accepted.inactive (more.since here)
        (here.quarantine.trans queued.after.quarantine) (here.reset.trans queued.after.reset)
  · rintro _ reached still ⟨one, before, replicated, inserted, queued, there⟩
    have more := (admitted one replicated inserted queued.since queued.accepted).since queued.after
    have accepted := queueCommands_admitted _ _ _ _ _ queued.accepted
    obtain ⟨command, rfl, rfl⟩ := accepted.single
    exact more.since ((writing _ before).trans there)

/-- An acknowledged result is the only one that goes. -/
theorem acknowledgeCommandResult_loses_nothing (kept : Kept ids world) (commandId : Text) :
    Keeps surroundings rule (Kept (but ids commandId))
      (acknowledgeCommandResult commandId) world fun found reached =>
        found = false → Kept ids reached := by
  apply Host.safe_look
  apply Host.safe_become
  obtain ⟨others, missing⟩ := kept.acknowledge commandId
  exact ⟨others, missing⟩

/-- What remains after an acknowledgement are the other entries. -/
theorem acknowledgement_remaining (current next : List QuarantinedCommand) (commandId : Text)
    (found : persistQuarantineAcknowledgement current commandId = some next) :
    (∃ command ∈ current, command.id = commandId) ∧ next ⊆ current ∧
      ∀ command ∈ current, command.id ≠ commandId → command ∈ next := by
  unfold persistQuarantineAcknowledgement at found
  split at found
  · next listed =>
    obtain rfl := Option.some.inj found
    obtain ⟨command, member, same⟩ := List.any_eq_true.mp listed
    exact ⟨⟨command, member, of_decide_eq_true same⟩, List.eraseP_subset,
      fun entry there other => (List.mem_eraseP_of_neg (by simpa using other)).mpr there⟩
  · cases found

/-- An acknowledged entry of the quarantine is the only one that goes. -/
theorem acknowledgeQuarantined_loses_nothing (kept : Kept ids world) (commandId : Text)
    (settled : Discardable world ∨
      ∀ command ∈ world.finalizedQuarantine, command.id ≠ commandId) :
    Keeps surroundings rule (Kept (but ids commandId))
      (acknowledgeOrDiscardQuarantinedCommand commandId) world fun found reached =>
        found = false → Kept ids reached := by
  have fewer : Kept (but ids commandId) world :=
    kept.fewer fun id there => (List.mem_filter.mp there).1
  have calm : Calm surroundings rule (fun _ => True) Since (Kept (but ids commandId)) :=
    kept_calm _
  refine Host.safe_returns _ world
    (acknowledgeQuarantined_keeps calm fewer commandId ?_)
    fun _ _ _ unfound missing => unfound missing ▸ kept
  intro next found
  obtain ⟨⟨command, member, same⟩, subset, others⟩ := acknowledgement_remaining _ _ _ found
  have discardable : Discardable world := settled.resolve_right fun none => none command member same
  have discard : ∀ reached, Since world reached → Kept (but ids commandId)
      { reached with quarantineFile := some (QuarantineStore.mk next []).value } := by
    intro reached since
    refine (kept.since since).discard (discardable.since since) commandId next ?_ ?_
    · intro id listed other
      rw [since.memory] at listed
      obtain ⟨entry, there, rfl⟩ := List.mem_map.mp listed
      exact List.mem_map_of_mem (others entry there other)
    · intro id listed
      rw [since.memory]
      exact List.map_subset _ subset listed
  intro before after still change
  cases change with
  | discarded _ since => exact discard before since
  | forgotten one _ since wrote =>
    have known : ∀ id ∈ finalizedIds before.quarantineFile, id ∈ next.map QuarantinedCommand.id := by
      intro id listed
      rwa [wrote.quarantine, finalizedIds_written] at listed
    exact { (discard one since).since wrote with known := fun _ => known }

end ReplicaClient

end Keeping

end TraxOs.PowerSync
