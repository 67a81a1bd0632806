import TraxOs.PowerSync.CommitSafety

/-!
# Commands, retention and the whole service

The executor of commands under interference: it finds the stored receipt, refuses,
or changes the locked resource and records the change. Then the retention run, whose
statements look at the tables at different times, and the writers outside the server.
With the replica requests this covers every transaction, so every run of the service
is a chain of classified commits.
-/

namespace TraxOs.PowerSync

open TraxOs.Theory

section Commands

variable {platform : Platform} {request : Request}

/-- No commit changes or removes a receipt. -/
theorem commit_keeps_receipt (request : Request) (reply : Reply) (before after : Database)
    (committed : Committed platform request reply before after) (userId commandId : Uuid)
    (row : Receipt) (found : before.lookup (Key.receipt userId commandId) = some row) :
    after.lookup (Key.receipt userId commandId) = some row := by
  have spared : ∀ keys, Spares keys before after → Key.receipt userId commandId ∉ keys →
      after.lookup (Key.receipt userId commandId) = some row :=
    fun keys spares outside => (spares _ outside).trans found
  have recorded : ∀ (call : CommandCall) (keys : List Key), before.lookup call.receiptKey = none →
      Spares keys before after →
        (∀ key ∈ keys, key = call.receiptKey ∨ ∀ user command, key ≠ .receipt user command) →
          after.lookup (Key.receipt userId commandId) = some row := by
    intro call keys free spares others
    apply spared keys spares
    intro member
    rcases others _ member with same | other
    · rw [← same, found] at free
      cases free
    · exact other userId commandId rfl
  cases committed with
  | quiet => exact found
  | counted _ _ _ _ _ _ _ spares => exact spared _ spares (by simp)
  | registered _ _ _ _ _ _ _ _ spares => exact spared _ spares (by simp)
  | challenged _ _ _ _ _ _ _ _ _ _ spares => exact (spares _ (by simp)).trans found
  | acknowledged _ _ _ _ _ _ _ _ _ _ _ spares => exact spared _ spares (by simp)
  | rotated _ _ _ _ _ _ _ _ _ _ _ _ spares => exact spared _ spares (by simp)
  | repeated => exact found
  | settled _ _ _ _ _ _ _ _ _ _ spares => exact spared _ spares (by simp)
  | settledBefore => exact found
  | classified => exact found
  | disabled _ _ _ _ _ _ _ spares => exact spared _ spares (by simp)
  | replayed => exact found
  | deniedAgain => exact found
  | denied call _ _ _ _ _ records => exact recorded call _ records.free records.spared (by simp)
  | refused call _ _ _ _ _ _ _ _ _ records =>
    exact recorded call _ records.free records.spared (by simp)
  | applied call _ _ _ _ _ applies =>
    rcases applies.buries with ⟨_, spares⟩ | ⟨_, _, _, _, _, spares⟩
    · exact recorded call _ applies.free spares (by simp)
    · exact recorded call _ applies.free spares (by simp)
  | created _ _ _ _ _ _ _ _ _ spares => exact spared _ spares (by simp)
  | refreshed _ _ _ _ spares => exact spared _ spares (by simp)
  | buried _ _ _ _ _ _ _ _ spares => exact spared _ spares (by simp)
  | reburied _ _ _ _ _ _ _ _ _ spares => exact spared _ spares (by simp)
  | timed _ _ _ _ _ _ _ spares => exact spared _ spares (by simp)
  | prolonged _ _ _ _ _ _ _ spares => exact spared _ spares (by simp)
  | retained _ _ _ _ _ _ _ _ retains =>
    exact (retains.spared _ (by simp) (by simp) (by simp) (by simp)).trans found

/-- A receipt that was read is still there whatever interferes. -/
theorem receipt_reaches (progress : Progress Name Row Res) (store later : Database)
    (reached : Reaches (commandServer platform) (commitContract platform) request progress store later)
    (userId commandId : Uuid) (row : Receipt)
    (found : store.lookup (Key.receipt userId commandId) = some row) :
    later.lookup (Key.receipt userId commandId) = some row := by
  induction reached with
  | refl => exact found
  | tail _ interferes inductionHypothesis =>
    obtain ⟨_, _, other, reply, _, _, _, committed, _⟩ := interferes
    exact commit_keeps_receipt other reply _ _ committed userId commandId row inductionHypothesis

/-- The replica and the grants of a command are known and locked. -/
structure Entitled (platform : Platform) (call : CommandCall) (row : Replica) (allowed : Bool)
    (progress : Progress Name Row Res) (store : Database) : Prop where
  holding : Holding platform call.userId call.binding call.credential row progress store
  grants : ∃ table : Option SyncGrants, Pinned progress store Key.syncGrants table ∧
    (table.any fun table => table.allow call.userId call.command.resourceId) = allowed

/-- They stay so. -/
theorem Entitled.keep {call : CommandCall} {row : Replica} {allowed : Bool}
    {progress grown : Progress Name Row Res} {store later : Database}
    (entitled : Entitled platform call row allowed progress store)
    (keeps : Keeps progress store grown later) : Entitled platform call row allowed grown later := by
  obtain ⟨table, pinned, same⟩ := entitled.grants
  exact ⟨entitled.holding.keep keeps, table, keeps _ _ pinned, same⟩

/-- In every database that comes the grant is as it was read. -/
theorem Entitled.granted {call : CommandCall} {row : Replica} {allowed : Bool}
    {progress : Progress Name Row Res} {store later : Database}
    (entitled : Entitled platform call row allowed progress store)
    (reached : Reaches (commandServer platform) (commitContract platform) request progress store
      later) : granted later call.userId call.command.resourceId = allowed := by
  obtain ⟨table, pinned, same⟩ := entitled.grants
  rw [PowerSync.granted, (keeps_reaches _ _ request progress store later reached _ _ pinned).1]
  exact same

/-- The branch without an active grant records a denial or repeats it. -/
theorem safe_deny (call : CommandCall) (row : Replica) (progress : Progress Name Row Res)
    (store : Database) (clean : progress.writes = [])
    (entitled : Entitled platform call row false progress store) :
    Proceeds platform call.request
      (denyCommand platform call.userId call.binding call.command call.attemptNumber) progress store
      (Promises (commandServer platform) (commitContract platform) call.request) := by
  have again : ∀ (grown : Progress Name Row Res) (later : Database) (stored : Receipt),
      grown.writes = [] → Entitled platform call row false grown later →
        later.lookup call.receiptKey = some stored →
          stored.binds platform call.binding call.command = true →
            Promised platform call.request (.results 403 (deniedResultFromDurableReceipt
              call.command.commandId stored call.attemptNumber)) grown later := by
    intro grown later stored empty held found binds last _ further
    rw [Progress.view, empty, applyAll_nil]
    exact .deniedAgain call row stored last (held.holding.presents further) (held.granted further)
      (receipt_reaches grown later last further _ _ stored found) binds
  simp only [denyCommand, Program.ask_bind]
  apply proceeds_read _ _ _ _ _ clean fun db answer writes locks ran =>
    (ran_selectReceipt db _ _ answer writes locks ran).1
  intro first one answer locks cleanOne stepOne ran
  obtain ⟨_, rfl⟩ := ran_selectReceipt one _ _ answer [] locks ran
  have heldOne := entitled.keep stepOne.keeps
  cases found : one.lookup (Key.receipt call.userId call.command.commandId) with
  | some stored =>
    dsimp only
    split
    · next binds => exact again first one stored cleanOne heldOne found binds
    · exact trivial
  | none =>
    dsimp only
    apply proceeds_step
    intro second two answer writes more stepTwo _ ran
    have heldTwo := heldOne.keep stepTwo.keeps
    rcases ran_insertReceiptOrNothing _ _ _ _ answer writes more ran with ⟨_, rfl⟩ | ⟨absent, rfl⟩
    · have cleanTwo : second.writes = [] := by simp [stepTwo.buffer, cleanOne]
      apply proceeds_read _ _ _ _ _ cleanTwo fun db answer writes locks ran =>
        (ran_selectReceipt db _ _ answer writes locks ran).1
      intro third three answer last cleanThree stepThree ran
      obtain ⟨_, rfl⟩ := ran_selectReceipt three _ _ answer [] last ran
      cases stored : three.lookup (Key.receipt call.userId call.command.commandId) with
      | none => exact trivial
      | some row =>
        dsimp only
        split
        · next binds =>
          exact again third three row cleanThree (heldTwo.keep stepThree.keeps) stored binds
        · exact trivial
    · rw [Progress.view, cleanOne, applyAll_nil] at absent
      have pinned := stepTwo.written _ List.mem_cons_self
      rw [Write.key, absent] at pinned
      apply proceeds_step
      intro third three answer writes last stepThree _ ran
      obtain ⟨rfl, rfl⟩ := ran_selectReceipt _ _ _ answer writes last ran
      have own : (second.view three).lookup (Key.receipt call.userId call.command.commandId) =
          some (receiptOf platform call.binding call.command .denied .commandDenied
            call.command.expectedRecordVersion) := by
        simp [Progress.view, stepTwo.buffer, cleanOne, Write.apply]
      simp only [own]
      split
      · intro final _ further
        have free := keeps_reaches _ _ _ third three final further _ _ (stepThree.keeps _ _ pinned)
        refine .denied call row _ _
          ((heldTwo.keep stepThree.keeps).holding.presents further)
          ((heldTwo.keep stepThree.keeps).granted further)
          ⟨free.1, ?_, spares_written _ third final ?_⟩
        · simp [Progress.view, stepThree.buffer, stepTwo.buffer, cleanOne, Write.apply,
            CommandCall.receipt]
        · simp [stepThree.buffer, stepTwo.buffer, cleanOne, Write.key]
      · exact trivial

/-- The branch that refuses a command records a conflict. -/
theorem safe_refuse (call : CommandCall) (row : Replica) (resource : Resource) (code : ResultCode)
    (cause : (code = .staleIncarnation ∧
        resource.incarnationId ≠ call.command.resourceIncarnationId) ∨
      (code = .optimisticConflict ∧ resource.incarnationId = call.command.resourceIncarnationId ∧
        (resource.deletedAt ≠ none ∨ resource.version ≠ call.command.expectedRecordVersion)))
    (progress : Progress Name Row Res) (store : Database) (clean : progress.writes = [])
    (entitled : Entitled platform call row true progress store)
    (held : Pinned progress store (Key.resource call.command.resourceId) (some resource)) :
    Proceeds platform call.request
      (refuseCommand platform call.userId call.binding call.command call.attemptNumber code
        resource.version) progress store
      (Promises (commandServer platform) (commitContract platform) call.request) := by
  simp only [refuseCommand, Program.ask_bind]
  apply proceeds_step
  intro grown one answer writes locks step _ ran
  obtain ⟨absent, rfl⟩ := ran_insertReceipt _ _ _ _ answer writes locks ran
  rw [Progress.view, clean, applyAll_nil] at absent
  have pinned := step.written _ List.mem_cons_self
  rw [Write.key, absent] at pinned
  have heldOne := entitled.keep step.keeps
  intro last _ further
  have kept := keeps_reaches _ _ _ grown one last further
  refine .refused call row resource code _ _ (heldOne.holding.presents further)
    (heldOne.granted further) (kept _ _ (step.keeps _ _ held)).1 cause
    ⟨(kept _ _ pinned).1, ?_, spares_written _ grown last ?_⟩
  · simp [Progress.view, step.buffer, clean, Write.apply, CommandCall.receipt]
  · simp [step.buffer, clean, Write.key]

/-- The resource of a command has been changed and nothing else written. -/
structure Changing (call : CommandCall) (row : Resource) (progress : Progress Name Row Res)
    (store : Database) : Prop where
  held : Pinned progress store (Key.resource call.command.resourceId) (some row)
  shape : (∃ stored : Resource, call.command.kind ≠ .softDelete ∧
      stored.incarnationId = row.incarnationId ∧
        stored.version = call.command.expectedRecordVersion + 1 ∧
          progress.writes = [.put (.resource call.command.resourceId) stored]) ∨
    ∃ (state : RetentionState) (deletedAt : Timestamp)
        (final : 1 < call.command.expectedRecordVersion + 1),
      Pinned progress store Key.retentionState (some state) ∧
        Pinned progress store (Key.marker call.command.resourceId) none ∧
          progress.writes =
            [.put (.resource call.command.resourceId)
              (row.deleted (call.command.expectedRecordVersion + 1) deletedAt final),
             .put .retentionState state.allocated,
             .put (.marker call.command.resourceId)
              (state.marker row (call.command.expectedRecordVersion + 1) deletedAt final)]

/-- The UPDATE of a command changes its live resource, and the trigger of a soft
delete allocates the marker. -/
theorem proceeds_target (call : CommandCall) (row : Resource) (live : row.deletedAt = none)
    (progress : Progress Name Row Res) (store : Database) (clean : progress.writes = [])
    (held : Pinned progress store (Key.resource call.command.resourceId) (some row)) :
    Proceeds platform request
      (updateTarget call.command (call.command.expectedRecordVersion + 1)) progress store
      fun _ grown later => Keeps progress store grown later ∧ Changing call row grown later := by
  unfold updateTarget
  cases kind : call.command.kind with
  | update payload =>
    apply proceeds_step
    intro grown one answer writes locks step _ ran
    have kept := step.keeps _ _ held
    rcases ran_updateResource _ _ _ _ answer writes locks ran with
      ⟨absent, _⟩ | ⟨found, positive, present, rfl⟩
    · rw [Progress.view, clean, applyAll_nil, kept.1] at absent
      cases absent
    · rw [Progress.view, clean, applyAll_nil, kept.1, Option.some.injEq] at present
      subst present
      exact ⟨step.keeps, kept, Or.inl
        ⟨row.updated payload (call.command.expectedRecordVersion + 1) positive, by simp [kind], rfl,
          rfl, by simp [step.buffer, clean]⟩⟩
  | softDelete =>
    simp only [Program.ask_bind]
    apply proceeds_read _ _ _ _ _ clean fun db answer writes locks ran =>
      (ran_evaluateSoftDelete db _ answer writes locks ran).1
    intro first one answer locks cleanOne stepOne ran
    have keptOne := stepOne.keeps _ _ held
    rcases (ran_evaluateSoftDelete one _ answer [] locks ran).2 with
      ⟨_, absent⟩ | ⟨now, found, rfl, _, _⟩
    · rw [keptOne.1] at absent
      cases absent
    · apply proceeds_step
      intro second two answer writes more stepTwo _ ran
      have keptTwo := stepTwo.keeps _ _ keptOne
      rcases ran_writeSoftDelete _ _ _ _ answer writes more ran with
        ⟨absent, _⟩ | ⟨again, final, there, ⟨dead, _⟩ | ⟨_, state, counted, unmarked, rfl⟩⟩
      · rw [Progress.view, cleanOne, applyAll_nil, keptTwo.1] at absent
        cases absent
      · rw [Progress.view, cleanOne, applyAll_nil, keptTwo.1, Option.some.injEq] at there
        exact absurd (there ▸ live) dead
      · rw [Progress.view, cleanOne, applyAll_nil] at there counted unmarked
        rw [keptTwo.1, Option.some.injEq] at there
        subst there
        have statePinned := stepTwo.written (.put .retentionState state.allocated) (by simp)
        have markerPinned := stepTwo.written
          (.put (.marker call.command.resourceId)
            (state.marker row (call.command.expectedRecordVersion + 1) now final)) (by simp)
        rw [Write.key, counted] at statePinned
        rw [Write.key, unmarked] at markerPinned
        exact ⟨stepOne.keeps.trans stepTwo.keeps, keptTwo, Or.inr ⟨state, now, final, statePinned,
          markerPinned, by simp [stepTwo.buffer, cleanOne]⟩⟩

/-- After the resource, the event and the receipt are recorded. -/
theorem safe_record (call : CommandCall) (replica : Replica) (row : Resource)
    (progress : Progress Name Row Res) (store : Database)
    (entitled : Entitled platform call replica true progress store)
    (live : row.deletedAt = none) (same : row.incarnationId = call.command.resourceIncarnationId)
    (expected : row.version = call.command.expectedRecordVersion)
    (changing : Changing call row progress store) :
    Proceeds platform call.request
      (do
        Program.ask (Op.insertChangeEvent call.eventId call.userId call.command.commandId
          call.command.resourceId 0 call.command.kind.type (call.command.expectedRecordVersion + 1))
        Program.ask (Op.insertReceipt call.userId call.command.commandId
          (call.appliedReceipt platform))
        pure (.results 200 (resultFromReceipt call.command.commandId (call.appliedReceipt platform)
          call.attemptNumber false))) progress store
      (Promises (commandServer platform) (commitContract platform) call.request) := by
  simp only [Program.ask_bind]
  apply proceeds_step
  intro first one answer writes locks stepOne _ ran
  obtain ⟨eventAbsent, event, user, command, resource, version, rfl⟩ :=
    ran_insertChangeEvent _ _ _ _ _ _ _ _ answer writes locks ran
  apply proceeds_step
  intro second two answer writes more stepTwo _ ran
  obtain ⟨receiptAbsent, rfl⟩ := ran_insertReceipt _ _ _ _ answer writes more ran
  intro last _ further
  have kept := keeps_reaches _ _ _ second two last further
  have held := (entitled.keep stepOne.keeps).keep stepTwo.keeps
  have eventFree : last.lookup (Key.changeEvent call.eventId) = none := by
    have pinned := stepOne.written _ List.mem_cons_self
    have seen : one.lookup (Key.changeEvent call.eventId) = none := by
      rw [← eventAbsent, Progress.view]
      symm
      apply lookup_applyAll_untouched
      rcases changing.shape with ⟨_, _, _, _, written⟩ | ⟨_, _, _, _, _, written⟩ <;>
        simp [written, Write.key]
    rw [Write.key, seen] at pinned
    exact (kept _ _ (stepTwo.keeps _ _ pinned)).1
  have receiptFree : last.lookup call.receiptKey = none := by
    have pinned := stepTwo.written _ List.mem_cons_self
    have seen : two.lookup call.receiptKey = none := by
      rw [← receiptAbsent, Progress.view]
      symm
      apply lookup_applyAll_untouched
      rcases changing.shape with ⟨_, _, _, _, written⟩ | ⟨_, _, _, _, _, written⟩ <;>
        simp [stepOne.buffer, written, Write.key]
    rw [Write.key, seen] at pinned
    exact (kept _ _ pinned).1
  have resourceHeld := (kept _ _ (stepTwo.keeps _ _ (stepOne.keeps _ _ changing.held))).1
  have buffer : second.writes = progress.writes ++ [.put (.changeEvent call.eventId) event,
      .put call.receiptKey (call.appliedReceipt platform)] := by
    simp [stepTwo.buffer, stepOne.buffer]
  refine .applied call replica _ _ _ (held.holding.presents further) ?_
  rcases changing.shape with ⟨stored, kind, incarnation, bumped, written⟩ |
    ⟨state, deletedAt, final, statePinned, markerPinned, written⟩
  · refine ⟨held.granted further, receiptFree, rfl, ⟨row, stored, resourceHeld, same, live, expected,
      ?_, incarnation, bumped⟩, eventFree, ⟨event, ?_, user, command, resource, version⟩, ?_,
      Or.inl ⟨kind, spares_written _ second last ?_⟩⟩
    · simp [Progress.view, buffer, written, Write.apply, AList.lookup_insert_ne]
    · simp [Progress.view, buffer, written, Write.apply, AList.lookup_insert_ne]
    · simp [Progress.view, buffer, written, Write.apply]
    · simp [buffer, written, Write.key]
  · have stateHeld := (kept _ _ (stepTwo.keeps _ _ (stepOne.keeps _ _ statePinned))).1
    have markerHeld := (kept _ _ (stepTwo.keeps _ _ (stepOne.keeps _ _ markerPinned))).1
    refine ⟨held.granted further, receiptFree, rfl, ⟨row,
      row.deleted (call.command.expectedRecordVersion + 1) deletedAt final, resourceHeld, same, live,
      expected, ?_, rfl, rfl⟩, eventFree, ⟨event, ?_, user, command, resource, version⟩, ?_,
      Or.inr ⟨row, state, deletedAt, final, ⟨resourceHeld, live, markerHeld, stateHeld, ?_, ?_, ?_⟩,
        spares_written _ second last ?_⟩⟩
    · simp [Progress.view, buffer, written, Write.apply, AList.lookup_insert_ne]
    · simp [Progress.view, buffer, written, Write.apply, AList.lookup_insert_ne]
    · simp [Progress.view, buffer, written, Write.apply]
    · simp [Progress.view, buffer, written, Write.apply, AList.lookup_insert_ne]
    · simp [Progress.view, buffer, written, Write.apply, AList.lookup_insert_ne]
    · simp [stateOf, Progress.view, buffer, written, Write.apply, AList.lookup_insert_ne]
    · simp [buffer, written, Write.key]

/-- The branch that applies a command. -/
theorem safe_apply (call : CommandCall) (replica : Replica) (row : Resource)
    (progress : Progress Name Row Res) (store : Database) (clean : progress.writes = [])
    (entitled : Entitled platform call replica true progress store)
    (held : Pinned progress store (Key.resource call.command.resourceId) (some row))
    (live : row.deletedAt = none) (same : row.incarnationId = call.command.resourceIncarnationId)
    (expected : row.version = call.command.expectedRecordVersion) :
    Proceeds platform call.request
      (applyCommand platform call.userId call.binding call.command call.attemptNumber call.eventId)
      progress store (Promises (commandServer platform) (commitContract platform) call.request) := by
  apply leads_bind
  apply leads_mono _ _ _ _ _ _ _ _ (proceeds_target call row live progress store clean held)
  rintro _ grown later ⟨keeps, changing⟩
  exact safe_record call replica row grown later (entitled.keep keeps) live same expected changing

/-- The branch with an active grant. -/
theorem safe_settle (call : CommandCall) (replica : Replica) (progress : Progress Name Row Res)
    (store : Database) (clean : progress.writes = [])
    (entitled : Entitled platform call replica true progress store) :
    Proceeds platform call.request
      (settleCommand platform call.userId call.binding call.command call.attemptNumber call.eventId)
      progress store (Promises (commandServer platform) (commitContract platform) call.request) := by
  simp only [settleCommand, Program.ask_bind]
  apply proceeds_read _ _ _ _ _ clean fun db answer writes locks ran =>
    (ran_lockResource db _ answer writes locks ran).1
  intro first one answer locks cleanOne stepOne ran
  obtain ⟨_, seen, locked⟩ := ran_lockResource one _ answer [] locks ran
  cases answer with
  | none => exact trivial
  | some row =>
    have held := stepOne.locked _ _ (locked rfl) (by decide)
    rw [← seen] at held
    dsimp only
    apply proceeds_read _ _ _ _ _ cleanOne fun db answer writes locks ran =>
      (ran_selectReceipt db _ _ answer writes locks ran).1
    intro second two answer more cleanTwo stepTwo ran
    obtain ⟨_, seen⟩ := ran_selectReceipt two _ _ answer [] more ran
    have heldTwo := (entitled.keep stepOne.keeps).keep stepTwo.keeps
    have rowTwo := stepTwo.keeps _ _ held
    cases answer with
    | some stored =>
      dsimp only
      split
      · next binds =>
        intro last _ further
        rw [Progress.view, cleanTwo, applyAll_nil]
        exact .replayed call replica stored last (heldTwo.holding.presents further)
          (heldTwo.granted further)
          (receipt_reaches second two last further _ _ stored seen.symm) binds
      · exact trivial
    | none =>
      dsimp only
      split
      · next other =>
        exact safe_refuse call replica row .staleIncarnation (Or.inl ⟨rfl, other⟩) second two
          cleanTwo heldTwo rowTwo
      · next same =>
        rw [not_not] at same
        split
        · next changed =>
          exact safe_refuse call replica row .optimisticConflict (Or.inr ⟨rfl, same, changed⟩) second
            two cleanTwo heldTwo rowTwo
        · next current =>
          simp only [not_or, not_not, ne_eq] at current
          exact safe_apply call replica row second two cleanTwo heldTwo rowTwo current.1 same current.2

/-- `executeCommands`. -/
theorem safe_command (call : CommandCall) (db : Database) :
    Safe (commandServer platform) (commitContract platform) call.request
      (executeCommands platform call.userId call.binding call.credential call.command
        call.attemptNumber call.eventId) .empty db := by
  apply leads_bind
  apply leads_mono _ _ _ _ _ _ _ _
    (proceeds_lockReplica call.userId call.binding call.credential db)
  rintro found grown store ⟨clean, held⟩
  cases found with
  | none => exact trivial
  | some locked =>
    simp only [Program.ask_bind]
    apply proceeds_read _ _ _ _ _ clean fun db answer writes locks ran =>
      (ran_acquireGrantReadLock db answer writes locks ran).1
    intro first one _ locks cleanOne stepOne ran
    have grants := stepOne.locked _ _ (ran_acquireGrantReadLock one _ [] locks ran).2 (by decide)
    apply proceeds_read _ _ _ _ _ cleanOne fun db answer writes locks ran =>
      ran_refreshReplica db _ answer writes locks ran
    intro second two stale _ cleanTwo stepTwo _
    split
    · exact trivial
    · apply proceeds_read _ _ _ _ _ cleanTwo fun db answer writes locks ran =>
        (ran_selectActiveGrant db _ _ answer writes locks ran).1
      intro third three allowed more cleanThree stepThree ran
      obtain ⟨_, rfl⟩ := ran_selectActiveGrant three _ _ allowed [] more ran
      have pinned := stepThree.keeps _ _ (stepTwo.keeps _ _ grants)
      have entitled : ∀ allowed, (three.lookup Key.syncGrants).any
            (fun table => table.allow call.userId call.command.resourceId) = allowed →
          Entitled platform call locked.row allowed third three := by
        rintro _ rfl
        exact ⟨(((held locked rfl).keep stepOne.keeps).keep stepTwo.keeps).keep stepThree.keeps, _,
          pinned, by rw [pinned.1]⟩
      split
      · next allowed =>
        exact safe_settle call locked.row third three cleanThree (entitled true allowed)
      · next revoked =>
        exact safe_deny call locked.row third three cleanThree
          (entitled false (Bool.not_eq_true _ ▸ revoked))

end Commands

section Retention

variable {platform : Platform} {request : Request}

/-- Markers are only added, each with a sequence beyond all that were allocated, and
no resource is removed. -/
structure Extends (before after : Database) : Prop where
  kept : ∀ id marker, before.lookup (Key.marker id) = some marker →
    after.lookup (Key.marker id) = some marker
  added : ∀ id marker, after.lookup (Key.marker id) = some marker →
    before.lookup (Key.marker id) = some marker ∨
      ∀ state, stateOf before = some state → state.nextDeletionSequence ≤ marker.deletionSequence
  counted : ∀ state, stateOf before = some state → ∃ next, stateOf after = some next ∧
    state.nextDeletionSequence ≤ next.nextDeletionSequence
  present : ∀ id, (before.lookup (Key.resource id)).isSome = true →
    (after.lookup (Key.resource id)).isSome = true

theorem Extends.refl (db : Database) : Extends db db :=
  ⟨fun _ _ found => found, fun _ _ found => Or.inl found, fun state found => ⟨state, found, le_rfl⟩,
    fun _ there => there⟩

theorem Extends.trans {first second third : Database} (one : Extends first second)
    (two : Extends second third) (holds : Sequenced first) : Extends first third where
  kept id marker found := two.kept id marker (one.kept id marker found)
  added id marker found := by
    obtain ⟨state, present, _⟩ := holds.counted
    rcases two.added id marker found with earlier | beyond
    · exact one.added id marker earlier
    · refine Or.inr fun same also => ?_
      obtain rfl : state = same := Option.some.inj (present.symm.trans also)
      obtain ⟨next, reached, below⟩ := one.counted state present
      exact below.trans (beyond next reached)
  counted state found := by
    obtain ⟨next, reached, below⟩ := one.counted state found
    obtain ⟨last, final, above⟩ := two.counted next reached
    exact ⟨last, final, below.trans above⟩
  present id there := two.present id (one.present id there)

/-- A soft delete adds one marker. -/
theorem extends_buried (before after : Database) (id : Uuid) (row : Resource)
    (state : RetentionState) (version : Nat) (deletedAt : Timestamp) (final : 1 < version)
    (buried : Buried id row state version deletedAt final before after)
    (others : ∀ other, other ≠ id →
      after.lookup (Key.marker other) = before.lookup (Key.marker other))
    (resources : ∀ other, other ≠ id →
      after.lookup (Key.resource other) = before.lookup (Key.resource other)) :
    Extends before after where
  kept other marker found := by
    by_cases same : other = id
    · rw [same, buried.unmarked] at found
      cases found
    · rw [others other same]
      exact found
  added other marker found := by
    by_cases same : other = id
    · rw [same, buried.marked, Option.some.injEq] at found
      refine Or.inr fun old present => ?_
      obtain rfl : state = old := Option.some.inj (buried.counted.symm.trans present)
      rw [← found]
      exact le_rfl
    · exact Or.inl ((others other same).symm.trans found)
  counted old present := by
    obtain rfl : state = old := Option.some.inj (buried.counted.symm.trans present)
    exact ⟨state.allocated, buried.allocated, Nat.le_succ _⟩
  present other there := by
    by_cases same : other = id
    · rw [same, buried.deleted]
      rfl
    · rw [resources other same]
      exact there

/-- Every commit that leaves the grants as they are only adds markers. -/
theorem commit_extends (request : Request) (reply : Reply) (before after : Database)
    (committed : Committed platform request reply before after)
    (grants : after.lookup Key.syncGrants = before.lookup Key.syncGrants) :
    Extends before after := by
  have written : ∀ keys, Spares keys before after → (∀ id, Key.marker id ∉ keys) →
      (∀ state, stateOf before = some state → ∃ next, stateOf after = some next ∧
        state.nextDeletionSequence ≤ next.nextDeletionSequence) →
        (∀ id, Key.resource id ∈ keys → (after.lookup (Key.resource id)).isSome = true) →
          Extends before after := by
    intro keys spares markers counted resources
    refine ⟨fun id marker found => (spares _ (markers id)).trans found,
      fun id marker found => Or.inl ((spares _ (markers id)).symm.trans found), counted, ?_⟩
    intro id there
    by_cases changed : Key.resource id ∈ keys
    · exact resources id changed
    · rw [spares _ changed]
      exact there
  have same : ∀ keys, Spares keys before after → Key.retentionState ∉ keys →
      (∀ id, Key.marker id ∉ keys) →
        (∀ id, Key.resource id ∈ keys → (after.lookup (Key.resource id)).isSome = true) →
          Extends before after := by
    intro keys spares state markers resources
    exact written keys spares markers
      (fun old present => ⟨old, (spares _ state).trans present, le_rfl⟩) resources
  have restated : ∀ old new : RetentionState, stateOf before = some old →
      stateOf after = some new → new.nextDeletionSequence = old.nextDeletionSequence →
        Spares [.retentionState] before after → Extends before after := by
    intro old new found next equal spares
    refine written _ spares (by simp) ?_ (by simp)
    intro state present
    obtain rfl : old = state := Option.some.inj (found.symm.trans present)
    exact ⟨new, next, equal.ge⟩
  cases committed with
  | quiet => exact .refl before
  | counted _ _ _ _ _ _ _ spares => exact same _ spares (by simp) (by simp) (by simp)
  | registered _ _ _ _ _ _ _ _ spares => exact same _ spares (by simp) (by simp) (by simp)
  | challenged _ _ _ _ _ _ _ _ _ _ spares =>
    refine ⟨fun id marker found => (spares _ (by simp)).trans found,
      fun id marker found => Or.inl ((spares _ (by simp)).symm.trans found),
      fun state present => ⟨state, (spares _ (by simp)).trans present, le_rfl⟩, ?_⟩
    intro id there
    rw [spares _ (by simp)]
    exact there
  | acknowledged _ _ _ _ _ _ _ _ _ _ _ spares => exact same _ spares (by simp) (by simp) (by simp)
  | rotated _ _ _ _ _ _ _ _ _ _ _ _ spares => exact same _ spares (by simp) (by simp) (by simp)
  | repeated => exact .refl before
  | settled _ _ _ _ _ _ _ _ _ _ spares => exact same _ spares (by simp) (by simp) (by simp)
  | settledBefore => exact .refl before
  | classified => exact .refl before
  | disabled _ _ _ _ _ _ _ spares => exact same _ spares (by simp) (by simp) (by simp)
  | replayed => exact .refl before
  | deniedAgain => exact .refl before
  | denied _ _ _ _ _ _ records => exact same _ records.spared (by simp) (by simp) (by simp)
  | refused _ _ _ _ _ _ _ _ _ _ records => exact same _ records.spared (by simp) (by simp) (by simp)
  | applied call _ _ _ _ _ applies =>
    rcases applies.buries with ⟨_, spares⟩ | ⟨row, state, deletedAt, final, buried, spares⟩
    · refine same _ spares (by simp) (by simp) ?_
      obtain ⟨_, stored, _, _, _, _, changed, _⟩ := applies.changes
      simp [changed]
    · exact extends_buried _ _ _ row state _ deletedAt final buried
        (fun other differ => spares _ (by simp [differ]))
        fun other differ => spares _ (by simp [differ])
  | created id _ _ _ _ _ _ created _ spares =>
    exact same _ spares (by simp) (by simp) (by simp [created])
  | refreshed _ _ _ _ spares => exact same _ spares (by simp) (by simp) (by simp)
  | buried id row state deletedAt final _ _ buried spares =>
    exact extends_buried _ _ id row state _ deletedAt final buried
      (fun other differ => spares _ (by simp [differ]))
      fun other differ => spares _ (by simp [differ])
  | reburied id _ _ _ _ _ _ _ changed spares =>
    exact same _ spares (by simp) (by simp) (by simp [changed])
  | timed next state _ _ found _ stored spares =>
    exact restated state (state.advanced next) found stored rfl spares
  | prolonged next state enough _ _ found stored spares =>
    exact restated state (state.retaining next enough) found stored rfl spares
  | retained _ _ _ _ _ _ _ _ retains => exact absurd grants retains.rebuilt

/-- While the grants are locked, markers are only added. -/
theorem extends_reaches (progress : Progress Name Row Res) (store later : Database)
    (holds : Sequenced store) (grants : Option SyncGrants)
    (pinned : Pinned progress store Key.syncGrants grants)
    (reached : Reaches (commandServer platform) (commitContract platform) request progress store
      later) : Extends store later ∧ Sequenced later := by
  induction reached with
  | refl => exact ⟨.refl store, holds⟩
  | tail earlier interferes inductionHypothesis =>
    have before := (keeps_reaches _ _ request progress store _ earlier _ _ pinned).1
    have after := (keeps_reaches _ _ request progress store _ (earlier.tail interferes) _ _ pinned).1
    obtain ⟨kept, _, other, reply, _, _, _, committed, _⟩ := interferes
    exact ⟨inductionHypothesis.1.trans
      (commit_extends other reply _ _ committed (after.trans before.symm)) holds, kept⟩

/-- Expired markers have been found and deleted. What the buffer shows of a database
does not depend on what is committed to it meanwhile. -/
structure Swept (looked : RetentionState) (expired : List (Uuid × Marker))
    (progress : Progress Name Row Res) (store : Database) : Prop where
  holds : Sequenced store
  grants : ∃ (table : Option SyncGrants) (rebuilt : SyncGrants),
    Pinned progress store Key.syncGrants table ∧ table ≠ some rebuilt ∧
      (∀ base, (progress.view base).lookup Key.syncGrants = some rebuilt) ∧
        ∀ grant ∈ rebuilt.grants, (store.lookup (Key.resource grant.resourceId)).isSome = true ∧
          ∀ base, (base.lookup (Key.resource grant.resourceId)).isSome = true →
            ((progress.view base).lookup (Key.resource grant.resourceId)).isSome = true
  due : ∀ entry ∈ expired, entry.2.expired looked = true ∧
    Pinned progress store (Key.marker entry.1) (some entry.2)
  remaining : ∀ id marker, store.lookup (Key.marker id) = some marker →
    (∀ entry ∈ expired, entry.1 ≠ id) → marker.expired looked = false ∨
      ∀ entry ∈ expired, entry.2.deletionSequence < marker.deletionSequence
  dropped : ∀ base id marker, (id, marker) ∈ expired →
    (progress.view base).lookup (Key.marker id) = none
  kept : ∀ base id, (∀ entry ∈ expired, entry.1 ≠ id) →
    (progress.view base).lookup (Key.marker id) = base.lookup (Key.marker id)
  resources : ∀ base id (row : Resource), (progress.view base).lookup (Key.resource id) = some row →
    base.lookup (Key.resource id) = some row ∨
      ∃ old : Resource, Pinned progress store (Key.resource id) (some old) ∧
        row = { old with payload := none }
  spared : ∀ base key, (∀ id, key ≠ .resource id) → (∀ id, key ≠ .marker id) →
    key ≠ .syncGrants → (progress.view base).lookup key = base.lookup key

/-- A marker that is retained when others are found expired is not expired or beyond
them, whatever is added meanwhile. -/
theorem remaining_extends (looked : RetentionState) (expired : List (Uuid × Marker))
    (store later : Database) (holds : Sequenced store) (growth : Extends store later)
    (present : ∀ entry ∈ expired, store.lookup (Key.marker entry.1) = some entry.2)
    (remaining : ∀ id marker, store.lookup (Key.marker id) = some marker →
      (∀ entry ∈ expired, entry.1 ≠ id) → marker.expired looked = false ∨
        ∀ entry ∈ expired, entry.2.deletionSequence < marker.deletionSequence)
    (id : Uuid) (marker : Marker) (found : later.lookup (Key.marker id) = some marker)
    (outside : ∀ entry ∈ expired, entry.1 ≠ id) :
    marker.expired looked = false ∨
      ∀ entry ∈ expired, entry.2.deletionSequence < marker.deletionSequence := by
  rcases growth.added id marker found with earlier | beyond
  · exact remaining id marker earlier outside
  · obtain ⟨state, counted, _, bounds⟩ := holds.counted
    refine Or.inr fun entry member => ?_
    exact Nat.lt_of_lt_of_le (bounds entry.1 entry.2 (present entry member)).2 (beyond state counted)

/-- The commit of a sweep. `raised` is the floor that was written, if one was. -/
theorem retains_swept (looked : RetentionState) (expired : List (Uuid × Marker))
    (progress : Progress Name Row Res) (store last : Database)
    (swept : Swept looked expired progress store)
    (keeps : ∀ key value, Pinned progress store key value → last.lookup key = value)
    (growth : Extends store last) (after : Database) (next : Nat)
    (shown : ∀ key, key ≠ .retentionState → after.lookup key = (progress.view last).lookup key)
    (state : ∃ old, stateOf last = some old ∧ next ≤ old.nextDeletionSequence ∧
      stateOf after = some (if expired = [] then old else old.withFloor next))
    (floor : expired ≠ [] → ∀ id marker, after.lookup (Key.marker id) = some marker →
      next ≤ marker.deletionSequence)
    (attained : expired ≠ [] →
      (∃ id marker, after.lookup (Key.marker id) = some marker ∧ marker.deletionSequence = next) ∨
        ∀ entry ∈ expired, entry.2.deletionSequence < next) :
    Retains last after looked expired next := by
  obtain ⟨table, rebuilt, pinned, differ, grants, granted⟩ := swept.grants
  refine ⟨?_, ?_, ?_, ?_, state, floor, attained, ?_, ?_, ?_, ?_⟩
  · exact fun entry member =>
      ⟨(swept.due entry member).1, keeps _ _ (swept.due entry member).2⟩
  · intro id marker member
    rw [shown _ (by simp)]
    exact swept.dropped last id marker member
  · intro id outside
    rw [shown _ (by simp)]
    exact swept.kept last id outside
  · intro id marker found
    rw [shown _ (by simp)] at found
    have outside : ∀ entry ∈ expired, entry.1 ≠ id := by
      rintro ⟨other, gone⟩ member rfl
      rw [swept.dropped last other gone member] at found
      cases found
    rw [swept.kept last id outside] at found
    exact remaining_extends looked expired store last swept.holds growth
      (fun entry member => (swept.due entry member).2.1) swept.remaining id marker found outside
  · intro id row found
    rw [shown _ (by simp)] at found
    rcases swept.resources last id row found with same | ⟨old, held, rfl⟩
    · exact ⟨row, same, rfl, rfl, rfl⟩
    · exact ⟨old, keeps _ _ held, rfl, rfl, rfl⟩
  · intro grant member
    rw [grantsOf, shown _ (by simp), grants last] at member
    rw [shown _ (by simp)]
    exact (granted grant member).2 last (growth.present _ (granted grant member).1)
  · rw [shown _ (by simp), grants last, keeps _ _ pinned]
    exact differ.symm
  · intro key resource marker state grant
    rw [shown key state]
    exact swept.spared last key resource marker grant

/-- The floor that is read after a sweep, in the database of that moment: it is below
what is retained there, and it is attained or beyond everything allocated. -/
structure Floored (expired : List (Uuid × Marker)) (progress : Progress Name Row Res)
    (store : Database) (state : RetentionState) (next : Nat) : Prop where
  counted : stateOf store = some state
  below : ∀ id marker, (∀ entry ∈ expired, entry.1 ≠ id) →
    store.lookup (Key.marker id) = some marker → next ≤ marker.deletionSequence
  attained : (∃ id marker, (∀ entry ∈ expired, entry.1 ≠ id) ∧
    store.lookup (Key.marker id) = some marker ∧ marker.deletionSequence = next) ∨
      next = state.nextDeletionSequence

/-- It is within what has been allocated. -/
theorem Floored.bounded {expired : List (Uuid × Marker)} {progress : Progress Name Row Res}
    {store : Database} {state : RetentionState} {next : Nat}
    (floored : Floored expired progress store state next) (holds : Sequenced store) :
    next ≤ state.nextDeletionSequence := by
  obtain ⟨found, present, _, bounds⟩ := holds.counted
  obtain rfl : found = state := Option.some.inj (present.symm.trans floored.counted)
  rcases floored.attained with ⟨id, marker, _, there, same⟩ | same
  · have inside := (bounds id marker there).2
    omega
  · exact same.le

/-- It is still so, as far as it matters, after markers were added. -/
theorem Floored.grown {expired : List (Uuid × Marker)} {progress : Progress Name Row Res}
    {store later : Database} {state : RetentionState} {next : Nat}
    (floored : Floored expired progress store state next) (holds : Sequenced store)
    (growth : Extends store later)
    (present : ∀ entry ∈ expired, store.lookup (Key.marker entry.1) = some entry.2) :
    (∀ id marker, (∀ entry ∈ expired, entry.1 ≠ id) →
      later.lookup (Key.marker id) = some marker → next ≤ marker.deletionSequence) ∧
    ((∃ id marker, (∀ entry ∈ expired, entry.1 ≠ id) ∧
        later.lookup (Key.marker id) = some marker ∧ marker.deletionSequence = next) ∨
      ∀ entry ∈ expired, entry.2.deletionSequence < next) := by
  constructor
  · intro id marker outside found
    rcases growth.added id marker found with earlier | beyond
    · exact floored.below id marker outside earlier
    · exact (floored.bounded holds).trans (beyond state floored.counted)
  · rcases floored.attained with ⟨id, marker, outside, found, same⟩ | same
    · exact Or.inl ⟨id, marker, outside, growth.kept id marker found, same⟩
    · obtain ⟨found, there, _, bounds⟩ := holds.counted
      obtain rfl : found = state := Option.some.inj (there.symm.trans floored.counted)
      exact Or.inr fun entry member =>
        same ▸ (bounds entry.1 entry.2 (present entry member)).2

/-- After a sweep: the floor is raised to what remains, if anything was purged. -/
theorem safe_raise (looked : RetentionState) (expired : List (Uuid × Marker)) (cleared : Nat)
    (progress : Progress Name Row Res) (store : Database)
    (swept : Swept looked expired progress store) :
    Proceeds platform .runRetention
      (do
        if 0 < expired.length then do
          let next ← Program.ask Op.selectNextFloor
          Program.ask (Op.raiseFloor next)
        else pure ()
        let floor ← Program.ask Op.selectFloor
        pure (.retained cleared expired.length floor)) progress store
      (Promises (commandServer platform) (commitContract platform) .runRetention) := by
  obtain ⟨table, _, pinned, _⟩ := swept.grants
  split
  · next purged =>
    simp only [Program.ask_bind]
    apply proceeds_step
    intro first one next writes locks stepOne reachedOne ran
    obtain ⟨growthOne, holdsOne⟩ :=
      extends_reaches progress store one swept.holds table pinned reachedOne
    obtain ⟨rfl, state, counted, below, attained⟩ := ran_selectNextFloor _ next writes locks ran
    rw [swept.spared one _ (by simp) (by simp) (by simp)] at counted
    have presentOne : ∀ entry ∈ expired, one.lookup (Key.marker entry.1) = some entry.2 :=
      fun entry member => (stepOne.keeps _ _ (swept.due entry member).2).1
    have floored : Floored expired progress one state next := by
      refine ⟨counted, ?_, ?_⟩
      · intro id marker outside found
        exact below id marker ((swept.kept one id outside).trans found)
      · refine attained.imp_left ?_
        rintro ⟨id, marker, found, same⟩
        have outside : ∀ entry ∈ expired, entry.1 ≠ id := by
          rintro ⟨other, gone⟩ member rfl
          rw [swept.dropped one other gone member] at found
          cases found
        exact ⟨id, marker, outside, (swept.kept one id outside).symm.trans found, same⟩
    apply proceeds_step
    intro second two answer writes more stepTwo reachedTwo ran
    obtain ⟨old, found, rfl⟩ := ran_raiseFloor _ next answer writes more ran
    have bufferOne : first.writes = progress.writes := by simp [stepOne.buffer]
    have viewOne : ∀ base, first.view base = progress.view base :=
      fun base => by simp [Progress.view, bufferOne]
    rw [viewOne, swept.spared two _ (by simp) (by simp) (by simp)] at found
    apply proceeds_step
    intro third three floor writes others stepThree reachedThree ran
    obtain rfl := ran_selectFloor _ floor writes others ran
    intro last holds further
    have pinnedOne := stepOne.keeps _ _ pinned
    have pinnedTwo := stepTwo.keeps _ _ pinnedOne
    have grownTwo := extends_reaches first one two holdsOne table pinnedOne reachedTwo
    have grownThree := extends_reaches second two three grownTwo.2 table pinnedTwo reachedThree
    have grownLast := extends_reaches third three last grownThree.2 table
      (stepThree.keeps _ _ pinnedTwo) further
    have growth : Extends one last :=
      grownTwo.1.trans (grownThree.1.trans grownLast.1 grownTwo.2) holdsOne
    have oldHeld : stateOf last = some old := by
      have held := stepTwo.written _ List.mem_cons_self
      rw [Write.key, found] at held
      exact (keeps_reaches _ _ _ third three last further _ _ (stepThree.keeps _ _ held)).1
    have view : third.view last = (progress.view last).insert Key.retentionState (old.withFloor next) := by
      simp [Progress.view, stepThree.buffer, stepTwo.buffer, bufferOne, Write.apply]
    have retained : ∀ id marker, (third.view last).lookup (Key.marker id) = some marker ↔
        (∀ entry ∈ expired, entry.1 ≠ id) ∧ last.lookup (Key.marker id) = some marker := by
      intro id marker
      rw [view, AList.lookup_insert_ne (by simp)]
      constructor
      · intro found
        have outside : ∀ entry ∈ expired, entry.1 ≠ id := by
          rintro ⟨other, gone⟩ member rfl
          rw [swept.dropped last other gone member] at found
          cases found
        exact ⟨outside, (swept.kept last id outside).symm.trans found⟩
      · rintro ⟨outside, found⟩
        exact (swept.kept last id outside).trans found
    obtain ⟨belowLast, attainedLast⟩ := floored.grown holdsOne growth presentOne
    refine .retained cleared expired.length floor looked expired next last _
      (retains_swept looked expired progress store last swept ?_ (growthOne.trans growth swept.holds)
        _ next ?_ ⟨old, oldHeld, ?_, ?_⟩ ?_ ?_)
    · intro key value held
      exact (keeps_reaches _ _ _ third three last further _ _
        (stepThree.keeps _ _ (stepTwo.keeps _ _ (stepOne.keeps _ _ held)))).1
    · intro key other
      rw [view, AList.lookup_insert_ne other]
    · obtain ⟨final, same, above⟩ := growth.counted state counted
      obtain rfl : old = final := Option.some.inj (oldHeld.symm.trans same)
      exact (floored.bounded holdsOne).trans above
    · rw [stateOf, view, AList.lookup_insert, if_neg (List.ne_nil_of_length_pos purged)]
    · exact fun _ id marker found =>
        belowLast id marker ((retained id marker).mp found).1 ((retained id marker).mp found).2
    · intro _
      refine attainedLast.imp_left ?_
      rintro ⟨id, marker, outside, found, same⟩
      exact ⟨id, marker, (retained id marker).mpr ⟨outside, found⟩, same⟩
  · next purged =>
    have none : expired = [] := by simpa using purged
    simp only [Program.ask_bind, Program.pure_eq]
    apply proceeds_step
    intro first one floor writes locks stepOne reachedOne ran
    obtain rfl := ran_selectFloor _ floor writes locks ran
    intro last holds further
    have grownOne := extends_reaches progress store one swept.holds table pinned reachedOne
    have grownLast := extends_reaches first one last grownOne.2 table (stepOne.keeps _ _ pinned)
      further
    have view : first.view last = progress.view last := by simp [Progress.view, stepOne.buffer]
    obtain ⟨state, counted, _⟩ := holds.counted
    refine .retained cleared expired.length floor looked expired 0 last _
      (retains_swept looked expired progress store last swept ?_
        (grownOne.1.trans grownLast.1 swept.holds) _ 0 ?_ ⟨state, counted, Nat.zero_le _, ?_⟩ ?_ ?_)
    · intro key value held
      exact (keeps_reaches _ _ _ first one last further _ _ (stepOne.keeps _ _ held)).1
    · exact fun key _ => by rw [view]
    · rw [stateOf, view, swept.spared last _ (by simp) (by simp) (by simp), if_pos none]
      exact counted
    · exact fun purges => absurd none purges
    · exact fun purges => absurd none purges

/-- The markers that a sweep deletes are all that were found expired: their rows are
locked, so they are still of the same incarnations. -/
theorem marker_mem_expiredKeys (db : Database) (expired : List (Uuid × Marker)) (id : Uuid)
    (present : ∀ entry ∈ expired, db.lookup (Key.marker entry.1) = some entry.2) :
    Key.marker id ∈ expiredKeys db expired ↔ ∃ entry ∈ expired, entry.1 = id := by
  simp only [expiredKeys, List.mem_append, List.mem_map, List.mem_filter]
  constructor
  · rintro (⟨entry, _, same⟩ | ⟨entry, ⟨member, _⟩, same⟩)
    · cases same
    · exact ⟨entry, member, Key.marker.inj same⟩
  · rintro ⟨entry, member, rfl⟩
    exact Or.inr ⟨entry, ⟨member, by simp [present entry member]⟩, rfl⟩

/-- The keys that a sweep deletes are of resources and markers. -/
theorem expiredKeys_kind (db : Database) (expired : List (Uuid × Marker)) (key : Key)
    (member : key ∈ expiredKeys db expired) :
    (∃ id, key = .resource id) ∨ ∃ id, key = .marker id := by
  simp only [expiredKeys, List.mem_append, List.mem_map] at member
  rcases member with ⟨entry, _, rfl⟩ | ⟨entry, _, rfl⟩
  · exact Or.inl ⟨entry.1, rfl⟩
  · exact Or.inr ⟨entry.1, rfl⟩

/-- Payloads have been cleared and the expired markers found and locked. -/
structure Looked (looked : RetentionState) (expired : List (Uuid × Marker))
    (progress : Progress Name Row Res) (store : Database) : Prop where
  holds : Sequenced store
  grants : ∃ table : Option SyncGrants, Pinned progress store Key.syncGrants table
  found : ∀ id marker, (id, marker) ∈ expired ↔
    store.lookup (Key.marker id) = some marker ∧ marker.expired looked = true
  locked : ∀ entry ∈ expired, Pinned progress store (Key.marker entry.1) (some entry.2)
  resources : ∀ id, (∀ base, (progress.view base).lookup (Key.resource id) =
      base.lookup (Key.resource id)) ∨
    ∃ old : Resource, Pinned progress store (Key.resource id) (some old) ∧
      ∀ base, (progress.view base).lookup (Key.resource id) = some { old with payload := none }
  spared : ∀ base key, (∀ id, key ≠ Key.resource id) →
    (progress.view base).lookup key = base.lookup key

/-- Deleting what was found makes it swept. -/
theorem swept_deleted (looked : RetentionState) (expired : List (Uuid × Marker))
    (progress grown : Progress Name Row Res) (store later : Database)
    (seen : Looked looked expired progress store) (holds : Sequenced later)
    (reached : Reaches (commandServer platform) (commitContract platform) request progress store
      later)
    (keeps : Keeps progress store grown later) (rebuilt : SyncGrants)
    (rebuild : rebuilt = SyncGrants.rebuilt (progress.view later)
      ((grantsOf (progress.view later)).filter fun grant =>
        ((progress.view later).lookup (Key.resource grant.resourceId)).isSome &&
          decide (Key.resource grant.resourceId ∉ expiredKeys (progress.view later) expired)))
    (buffer : grown.writes = progress.writes ++
      ((expiredKeys (progress.view later) expired).map .drop ++ [.put .syncGrants rebuilt])) :
    Swept looked expired grown later := by
  obtain ⟨table, pinned⟩ := seen.grants
  have growth := (extends_reaches progress store later seen.holds table pinned reached).1
  have shown : ∀ base key, key ≠ Key.syncGrants → (grown.view base).lookup key =
      if key ∈ expiredKeys (progress.view later) expired then none
      else (progress.view base).lookup key := by
    intro base key other
    rw [Progress.view, buffer, applyAll_append, applyAll_append, applyAll_cons, applyAll_nil,
      Write.apply, AList.lookup_insert_ne other, lookup_applyAll_drops]
    rfl
  have due : ∀ entry ∈ expired, Pinned grown later (Key.marker entry.1) (some entry.2) :=
    fun entry member => keeps _ _ (seen.locked entry member)
  have markers : ∀ id, Key.marker id ∈ expiredKeys (progress.view later) expired ↔
      ∃ entry ∈ expired, entry.1 = id := by
    intro id
    apply marker_mem_expiredKeys
    intro entry member
    exact (seen.spared later _ (by simp)).trans (due entry member).1
  have untouched : ∀ base key, (∀ id, key ≠ .resource id) → (∀ id, key ≠ .marker id) →
      key ≠ Key.syncGrants → (grown.view base).lookup key = base.lookup key := by
    intro base key resource marker grants
    rw [shown base key grants, if_neg, seen.spared base key resource]
    intro member
    rcases expiredKeys_kind _ expired key member with ⟨id, rfl⟩ | ⟨id, rfl⟩
    · exact resource id rfl
    · exact marker id rfl
  refine ⟨holds, ⟨table, rebuilt, keeps _ _ pinned, ?_, ?_, ?_⟩, ?_, ?_, ?_, ?_, ?_, untouched⟩
  · intro same
    have rows : (progress.view later).lookup Key.syncGrants = some rebuilt :=
      ((seen.spared later _ (by simp)).trans (keeps _ _ pinned).1).trans same
    have counted : rebuilt.rebuilds = rebuilt.rebuilds + 1 := by
      conv_lhs => rw [rebuild, SyncGrants.rebuilt, rows]
      rfl
    omega
  · intro base
    rw [Progress.view, buffer, applyAll_append, applyAll_append, applyAll_cons, applyAll_nil,
      Write.apply, AList.lookup_insert]
  · intro grant member
    rw [rebuild, SyncGrants.rebuilt, List.mem_filter, Bool.and_eq_true, decide_eq_true_eq] at member
    obtain ⟨_, present, outside⟩ := member
    rcases seen.resources grant.resourceId with same | ⟨old, held, cleared⟩
    · refine ⟨same later ▸ present, fun base there => ?_⟩
      rw [shown base _ (by simp), if_neg outside, same base]
      exact there
    · refine ⟨by rw [(keeps _ _ held).1]; rfl, fun base _ => ?_⟩
      rw [shown base _ (by simp), if_neg outside, cleared base]
      rfl
  · rintro ⟨id, marker⟩ member
    exact ⟨((seen.found id marker).mp member).2, due _ member⟩
  · intro id marker there outside
    apply remaining_extends looked expired store later seen.holds growth
      (fun entry member => (seen.locked entry member).1) ?_ id marker there outside
    intro other found earlier absent
    refine Or.inl (Bool.eq_false_iff.mpr fun old => ?_)
    exact absent _ ((seen.found other found).mpr ⟨earlier, old⟩) rfl
  · intro base id marker member
    rw [shown base _ (by simp), if_pos ((markers id).mpr ⟨_, member, rfl⟩)]
  · intro base id outside
    rw [shown base _ (by simp), if_neg, seen.spared base _ (by simp)]
    intro member
    obtain ⟨entry, gone, same⟩ := (markers id).mp member
    exact outside entry gone same
  · intro base id row there
    rw [shown base _ (by simp)] at there
    split at there
    · cases there
    · rcases seen.resources id with same | ⟨old, held, cleared⟩
      · exact Or.inl ((same base).symm.trans there)
      · rw [cleared base, Option.some.injEq] at there
        exact Or.inr ⟨old, keeps _ _ held, there.symm⟩

/-- `ps8_run_retention`. -/
theorem safe_retention (db : Database) :
    Safe (commandServer platform) (commitContract platform) .runRetention runRetention .empty db := by
  simp only [runRetention, Safe, Program.ask_bind]
  apply proceeds_read _ _ _ _ _ rfl fun db answer writes locks ran =>
    (ran_acquireGrantWriteLock db answer writes locks ran).1
  intro first one _ locks cleanOne stepOne ran
  have grantsOne := stepOne.locked _ _ (ran_acquireGrantWriteLock one _ [] locks ran).2 (by decide)
  apply proceeds_read _ _ _ _ _ cleanOne fun db answer writes locks ran =>
    ran_acquireRetentionLock db answer writes locks ran
  intro second two _ _ cleanTwo stepTwo _
  apply proceeds_step
  intro third three cleared puts more stepThree _ ran
  have clears := ran_clearPayloads _ cleared puts more ran
  rw [Progress.view, cleanTwo, applyAll_nil] at clears
  apply proceeds_step
  intro fourth four expired writes others stepFour _ ran
  obtain ⟨rfl, looked, _, found, locked⟩ := ran_selectExpired _ expired writes others ran
  have view : ∀ base, fourth.view base = applyAll puts base := by
    intro base
    simp [Progress.view, stepFour.buffer, stepThree.buffer, cleanTwo]
  have spared : ∀ base key, (∀ id, key ≠ Key.resource id) →
      (fourth.view base).lookup key = base.lookup key := by
    intro base key other
    rw [view]
    apply lookup_applyAll_untouched
    intro write member same
    obtain ⟨id, _, _, rfl⟩ := clears write member
    exact other id same.symm
  have viewThree : third.view four = fourth.view four := by
    rw [view, Progress.view, stepThree.buffer, cleanTwo, List.nil_append]
  rw [viewThree] at found
  have seen : Looked looked expired fourth four := by
    refine ⟨stepFour.holds, ⟨_, stepFour.keeps _ _ (stepThree.keeps _ _ (stepTwo.keeps _ _ grantsOne))⟩,
      ?_, ?_, ?_, spared⟩
    · intro id marker
      rw [found id marker, spared four _ (by simp)]
    · rintro ⟨id, marker⟩ member
      have present := ((found id marker).mp member).1
      rw [spared four _ (by simp)] at present
      have pinned := stepFour.locked _ _ (locked _ member) (by decide)
      rw [present] at pinned
      exact pinned
    · intro id
      simp only [view]
      refine (lookup_applyAll_puts puts (Key.resource id) ?_).imp_right ?_
      · intro write member
        obtain ⟨other, row, _, rfl⟩ := clears write member
        exact ⟨_, _, rfl⟩
      · rintro ⟨row, member, shown⟩
        obtain ⟨other, old, present, same⟩ := clears _ member
        cases same
        have pinned := stepThree.written _ member
        rw [Write.key, present] at pinned
        exact ⟨old, stepFour.keeps _ _ pinned, shown⟩
  apply proceeds_step
  intro fifth five purged writes last stepFive reached ran
  obtain ⟨rfl, rfl⟩ := ran_deleteExpired _ expired purged writes last ran
  have swept := swept_deleted looked expired fourth fifth four five seen stepFive.holds reached
    stepFive.keeps _ rfl stepFive.buffer
  have all : (expired.filter fun entry => ((fourth.view five).lookup (Key.marker entry.1)).any
      fun row => row.incarnationId = entry.2.incarnationId) = expired := by
    rw [List.filter_eq_self]
    intro entry member
    rw [spared five _ (by simp), (swept.due entry member).2.1]
    simp
  rw [all]
  exact safe_raise looked expired cleared fifth five swept

end Retention

end TraxOs.PowerSync
