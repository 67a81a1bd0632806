import TraxOs.Api.CommitSafety

/-!
# Commands, journey routes and the whole service

The executor under interference: where a fresh update leads, what the audit rows
add, and which of the classified commits each end of the program makes. With the
routes on parts of a journey this covers every request, so every run of the
service is a chain of classified commits.
-/

namespace TraxOs.Api

open TraxOs.Theory

section Executor

variable {platform : Platform} {anchor : Anchor} {request : Request}

/-- An insertion of one row, under a key that the buffer does not mention, pins the
key's absence. -/
theorem proceeds_insert (op : Op) (key : Key) (row : Res op → Row key)
    (inserts : ∀ (db : Database) (answer : Res op) (writes : List (Write Row))
      (locks : Locks Key Name), execute platform op db = .ran answer writes locks →
        db.lookup key = none ∧ writes = [.put key (row answer)])
    (progress : Progress Name Row Res) (store : Database)
    (unmentioned : ∀ write ∈ progress.writes, write.key ≠ key) :
    Proceeds platform anchor request (Program.ask op) progress store fun answer grown later =>
      grown.writes = progress.writes ++ [.put key (row answer)] ∧
        Keeps progress store grown later ∧ Pinned grown later key none := by
  intro later _ reached answer writes locks ran
  obtain ⟨free, rfl⟩ := inserts _ answer writes locks ran
  have absent : later.lookup key = none :=
    (lookup_applyAll_untouched progress.writes later key unmentioned).symm.trans free
  refine ⟨rfl, keeps_step progress store later op answer _ locks reached, ?_⟩
  have pinned := pinned_written progress later op answer [Write.put key (row answer)] locks _
    List.mem_cons_self
  simp only [Write.key, absent] at pinned
  exact pinned

/-- Where `apply_journey_update` leads from an empty buffer: to a refusal with
nothing written, or to the compare-and-swap of a row that is pinned. -/
theorem proceeds_update (context : AuthContext) (runtime : Runtime) (journeyId : Uuid)
    (command : JourneyUpdate) (progress : Progress Name Row Res) (store : Database)
    (clean : progress.writes = []) :
    Proceeds platform anchor request
      (applyJourneyUpdate context runtime journeyId command).attempt progress store
      fun result grown later => Keeps progress store grown later ∧
        match result with
        | .error failure => grown.writes = [] ∧
            (failure = .application journeyConflict ∨ failure = .application resourceNotFound)
        | .ok mutation => ∃ row stored : StoredJourney,
            Pinned grown later (Key.journey journeyId) (some row) ∧
              row.1.workspaceId = context.workspaceId ∧
                row.1.recordVersion = command.expectedRecordVersion ∧
                  stored.1 = row.1.revised (journeyValues command) (runtime.clock 1) ∧
                    mutation = ⟨journeyResponse journeyId row.1,
                      journeyResponse journeyId stored.1⟩ ∧
                    grown.writes = [.put (Key.journey journeyId) stored] := by
  simp only [applyJourneyUpdate, journeyRow, Program.ask_bind, Program.perform_bind,
    Program.attempt_perform]
  intro later _ reached answer writes locks ran
  obtain ⟨rfl, seen, locked⟩ := ran_selectJourney platform _ _ _ _ _ _ _ ran
  have kept := keeps_step progress store later (Op.selectJourney context.scope journeyId true)
    answer [] locks reached
  have still : (progress.extend (Op.selectJourney context.scope journeyId true) answer []
      locks).writes = [] := by simp [Progress.extend, clean]
  cases answer with
  | none => exact ⟨kept, still, Or.inr rfl⟩
  | some row =>
    simp only [Progress.view, clean, applyAll_nil] at seen
    obtain ⟨present, owner, _⟩ := (visibleJourney_some _ _ _ _).mp seen.symm
    have pinned := pinned_locked progress later (Op.selectJourney context.scope journeyId true)
      (some row) [] locks (Key.journey journeyId) .update (locked rfl rfl) (by decide)
    rw [present] at pinned
    simp only [Program.pure_eq, Program.done_bind]
    by_cases same : row.1.recordVersion = command.expectedRecordVersion
    · simp only [same, ne_eq, not_true_eq_false, if_false, Program.attempt_perform]
      intro last _ further swapped added taken ran
      have keptAgain := keeps_step _ later last (Op.swapJourney context.scope journeyId
        command.expectedRecordVersion (journeyValues command) (runtime.clock 1)) swapped added taken
        further
      rcases ran_swapJourney platform _ _ _ _ _ _ swapped added taken ran with
        ⟨rfl, rfl⟩ | ⟨found, stored, visible, _, revised, rfl, rfl⟩
      · exact ⟨kept.trans keptAgain, by simp [Progress.extend, clean], Or.inl rfl⟩
      · simp only [Progress.view, still, applyAll_nil] at visible
        have stays := (keeps_reaches _ _ request _ later last further _ _ pinned).1
        obtain rfl := Option.some.inj
          (stays.symm.trans ((visibleJourney_some _ _ _ _).mp visible).1)
        exact ⟨kept.trans keptAgain, row, stored, keptAgain _ _ pinned, owner, same, revised, rfl,
          by simp [Progress.extend, clean]⟩
    · simp only [ne_eq, same, not_false_eq_true, if_true]
      exact ⟨kept, still, Or.inl rfl⟩

/-- A situation in which the next commit is that of an applied command. -/
structure Applying (platform : Platform) (anchor : Anchor) (request : Request) (command : AppliedCommand)
    (progress : Progress Name Row Res) (store : Database) : Prop where
  executes : request.commandCall = some command.call
  acts : request.actsFor command.context
  signed : request.signedBy platform anchor.sessions command.context
  authority : Holds command.context progress store
  journeyPinned : Pinned progress store (Key.journey command.journeyId) (some command.before)
  inWorkspace : command.before.1.workspaceId = command.context.workspaceId
  expected : command.before.1.recordVersion = command.call.payload.expectedRecordVersion
  revised : command.after.1 =
    command.before.1.revised (journeyValues command.call.payload.toJourneyUpdate)
      (command.call.runtime.clock 1)
  changeSetPinned : Pinned progress store (Key.changeSet command.call.runtime.changeSetId) none
  changeEventPinned : Pinned progress store (Key.changeEvent command.call.runtime.eventId) none
  receiptPinned : Pinned progress store (Key.receipt command.context.workspaceId
    command.context.userId command.call.commandId) none
  written : progress.writes =
    [.put (Key.journey command.journeyId) command.after,
     .put (Key.changeSet command.call.runtime.changeSetId) command.changeSet,
     .put (Key.changeEvent command.call.runtime.eventId) command.changeEvent,
     .put (Key.receipt command.context.workspaceId command.context.userId command.call.commandId)
       (command.receipt platform)]

/-- That commit. -/
theorem promise_applied (command : AppliedCommand) (reply : Reply)
    (told : request.applies reply = true) (progress : Progress Name Row Res) (store : Database)
    (applying : Applying platform anchor request command progress store) :
    Promises (plainApi platform) (commitContract platform anchor) request reply progress store := by
  intro later _ reached
  have kept := keeps_reaches (plainApi platform) (commitContract platform anchor) request progress
    store later reached
  refine .applied command ?_ applying.signed told
  simp only [Progress.view, applying.written, applyAll_cons, applyAll_nil, Write.apply]
  exact {
    executes := applying.executes
    acts := applying.acts
    authorized := (applying.authority.keep kept).authorized
    journeyBefore := (kept _ _ applying.journeyPinned).1
    inWorkspace := applying.inWorkspace
    expected := applying.expected
    revised := applying.revised
    journeyAfter := by simp [AList.lookup_insert_ne]
    receiptFree := (kept _ _ applying.receiptPinned).1
    receiptWritten := by simp
    changeSetFree := (kept _ _ applying.changeSetPinned).1
    changeSetWritten := by simp [AList.lookup_insert_ne]
    changeEventFree := (kept _ _ applying.changeEventPinned).1
    changeEventWritten := by simp [AList.lookup_insert_ne]
    spared := by
      intro key notJourney notReceipt notChangeSet notChangeEvent
      rw [AList.lookup_insert_ne notReceipt, AList.lookup_insert_ne notChangeEvent,
        AList.lookup_insert_ne notChangeSet, AList.lookup_insert_ne notJourney] }

/-- A situation in which the next commit is that of a refused command. -/
structure Rejecting (platform : Platform) (anchor : Anchor) (request : Request) (command : RejectedCommand)
    (progress : Progress Name Row Res) (store : Database) : Prop where
  executes : request.commandCall = some command.call
  acts : request.actsFor command.context
  signed : request.signedBy platform anchor.sessions command.context
  authority : Holds command.context progress store
  terminal : command.outcome = .versionConflict ∨ command.outcome = .resourceNotFound
  receiptPinned : Pinned progress store (Key.receipt command.context.workspaceId
    command.context.userId command.call.commandId) none
  written : progress.writes =
    [.put (Key.receipt command.context.workspaceId command.context.userId command.call.commandId)
      (command.receipt platform)]

/-- That commit. -/
theorem promise_rejected (command : RejectedCommand) (reply : Reply)
    (notApplied : request.applies reply = false) (progress : Progress Name Row Res)
    (store : Database) (rejecting : Rejecting platform anchor request command progress store) :
    Promises (plainApi platform) (commitContract platform anchor) request reply progress store := by
  intro later _ reached
  have kept := keeps_reaches (plainApi platform) (commitContract platform anchor) request progress
    store later reached
  refine .rejected command ?_ rejecting.signed notApplied
  simp only [Progress.view, rejecting.written, applyAll_cons, applyAll_nil, Write.apply]
  exact {
    executes := rejecting.executes
    acts := rejecting.acts
    authorized := (rejecting.authority.keep kept).authorized
    terminal := rejecting.terminal
    receiptFree := (kept _ _ rejecting.receiptPinned).1
    receiptWritten := by simp
    spared := fun key notReceipt => AList.lookup_insert_ne notReceipt }

/-- A request that wrote nothing commits nothing. -/
theorem promise_quiet (reply : Reply) (noParts : request.partsOf = none)
    (notApplied : request.applies reply = false) (progress : Progress Name Row Res)
    (store : Database) (clean : progress.writes = []) :
    Promises (plainApi platform) (commitContract platform anchor) request reply progress store := by
  intro later _ _
  exact .quiet (by simp [Progress.view, clean]) noParts notApplied

/-- How the execution of a fresh command ends: refused, or applied. -/
def Settled (platform : Platform) (anchor : Anchor) (request : Request) (execution : CommandExecution)
    (progress : Progress Name Row Res) (store : Database) : Prop :=
  (∃ command : RejectedCommand, Rejecting platform anchor request command progress store ∧
      execution.outcome = command.outcome) ∨
    ∃ command : AppliedCommand, Applying platform anchor request command progress store ∧
      execution = command.execution

/-- The audit rows of an update, after its compare-and-swap. -/
theorem proceeds_audit (command : AppliedCommand) (progress : Progress Name Row Res)
    (store : Database) (executes : request.commandCall = some command.call)
    (acts : request.actsFor command.context)
    (signed : request.signedBy platform anchor.sessions command.context) (authority : Holds command.context progress store)
    (journeyPinned : Pinned progress store (Key.journey command.journeyId) (some command.before))
    (inWorkspace : command.before.1.workspaceId = command.context.workspaceId)
    (expected : command.before.1.recordVersion = command.call.payload.expectedRecordVersion)
    (revised : command.after.1 =
      command.before.1.revised (journeyValues command.call.payload.toJourneyUpdate)
        (command.call.runtime.clock 1))
    (written : progress.writes = [.put (Key.journey command.journeyId) command.after]) :
    Proceeds platform anchor request
      (writeAppliedAudit command.context command.call.runtime command.call.runtime.changeSetId
        command.execution ⟨journeyResponse command.journeyId command.before.1,
          journeyResponse command.journeyId command.after.1⟩ (command.digest platform)
        command.call.origin .full) progress store
      fun _ grown later => Applying platform anchor request command grown later := by
  apply leads_bind
  apply leads_mono _ _ _ _ _ _ _ _ (proceeds_insert _ (Key.changeSet _) (fun _ => _)
    (fun db answer writes locks ran => ran_insertChangeSet platform db _ _ _ answer writes locks ran)
    progress store (by simp [written, Write.key]))
  rintro _ first one ⟨firstWrites, firstKeeps, changeSetPinned⟩
  apply leads_bind
  apply leads_mono _ _ _ _ _ _ _ _ (proceeds_insert _ (Key.changeEvent _) (fun _ => _)
    (fun db answer writes locks ran =>
      ran_insertChangeEvent platform db _ _ _ answer writes locks ran)
    first one (by simp [firstWrites, written, Write.key]))
  rintro _ second two ⟨secondWrites, secondKeeps, changeEventPinned⟩
  apply leads_mono _ _ _ _ _ _ _ _ (proceeds_insert _
    (Key.receipt command.context.workspaceId command.context.userId command.call.commandId)
    (fun _ => _)
    (fun db answer writes locks ran => ran_insertReceipt platform db _ _ _ answer writes locks ran)
    second two (by simp [secondWrites, firstWrites, written, Write.key]))
  rintro _ third three ⟨thirdWrites, thirdKeeps, receiptPinned⟩
  have all := (firstKeeps.trans secondKeeps).trans thirdKeeps
  exact {
    executes := executes
    acts := acts
    signed := signed
    authority := authority.keep all
    journeyPinned := all _ _ journeyPinned
    inWorkspace := inWorkspace
    expected := expected
    revised := revised
    changeSetPinned := (secondKeeps.trans thirdKeeps) _ _ changeSetPinned
    changeEventPinned := thirdKeeps _ _ changeEventPinned
    receiptPinned := receiptPinned
    written := by rw [thirdWrites, secondWrites, firstWrites, written]; rfl }

/-- A terminal receipt for a command whose update was refused. -/
theorem proceeds_terminal (command : RejectedCommand) (execution : CommandExecution)
    (digest : Text) (matching : commandReceipt execution digest (command.call.runtime.clock 2) =
      command.receipt platform) (sameId : execution.commandId = command.call.commandId)
    (progress : Progress Name Row Res) (store : Database)
    (executes : request.commandCall = some command.call)
    (acts : request.actsFor command.context)
    (signed : request.signedBy platform anchor.sessions command.context) (authority : Holds command.context progress store)
    (terminal : command.outcome = .versionConflict ∨ command.outcome = .resourceNotFound)
    (clean : progress.writes = []) :
    Proceeds platform anchor request
      (writeTerminalReceipt command.context command.call.runtime execution digest) progress store
      fun _ grown later => Rejecting platform anchor request command grown later := by
  apply leads_mono _ _ _ _ _ _ _ _ (proceeds_insert _
    (Key.receipt command.context.workspaceId command.context.userId execution.commandId)
    (fun _ => _)
    (fun db answer writes locks ran => ran_insertReceipt platform db _ _ _ answer writes locks ran)
    progress store (by simp [clean]))
  rintro _ grown later ⟨writes, keeps, receiptPinned⟩
  rw [sameId] at receiptPinned
  exact {
    executes := executes
    acts := acts
    signed := signed
    authority := authority.keep keeps
    terminal := terminal
    receiptPinned := receiptPinned
    written := by rw [writes, clean, matching, sameId]; rfl }

/-- Where a command leads that had no receipt. -/
theorem proceeds_fresh (context : AuthContext) (call : CommandCall)
    (executes : request.commandCall = some call) (acts : request.actsFor context)
    (signed : request.signedBy platform anchor.sessions context)
    (progress : Progress Name Row Res) (store : Database) (clean : progress.writes = [])
    (authority : Holds context progress store) :
    Proceeds platform anchor request
      (executeFresh context call.runtime call.commandId journeyUpdateV1 call.payload
        (commandDigestV1 platform call.commandId call.commandType call.commandVersion call.payload)
        call.origin) progress store
      fun execution grown later => execution.replayed = false ∧
        Settled platform anchor request execution grown later := by
  simp only [executeFresh]
  apply leads_bind
  apply leads_mono _ _ _ _ _ _ _ _ (proceeds_update context call.runtime call.payload.journeyId
    call.payload.toJourneyUpdate progress store clean)
  rintro result grown later ⟨keeps, outcome⟩
  have refusal : ∀ (kind : CommandOutcome),
      (kind = .versionConflict ∨ kind = .resourceNotFound) → grown.writes = [] →
      Proceeds platform anchor request
        (do
          let terminal : CommandExecution :=
            { commandId := call.commandId
              commandType := journeyUpdateV1.commandType
              commandVersion := journeyUpdateV1.version
              outcome := kind
              entityId := call.payload.journeyId
              replayed := false
              journey := none }
          writeTerminalReceipt context call.runtime terminal
            (commandDigestV1 platform call.commandId call.commandType call.commandVersion
              call.payload)
          pure terminal) grown later
        fun execution last final => execution.replayed = false ∧
          Settled platform anchor request execution last final := by
    intro kind terminal empty
    apply leads_bind
    apply leads_mono _ _ _ _ _ _ _ _ (proceeds_terminal ⟨context, call, kind⟩ _ _ rfl rfl grown later
      executes acts signed (authority.keep keeps) terminal empty)
    rintro _ last final rejecting
    exact ⟨rfl, Or.inl ⟨⟨context, call, kind⟩, rejecting, rfl⟩⟩
  cases result with
  | error failure =>
    obtain ⟨empty, rfl | rfl⟩ := outcome
    · exact refusal .versionConflict (Or.inl rfl) empty
    · exact refusal .resourceNotFound (Or.inr rfl) empty
  | ok mutation =>
    obtain ⟨row, stored, pinned, owner, same, revised, rfl, written⟩ := outcome
    apply leads_bind
    apply leads_mono _ _ _ _ _ _ _ _ (proceeds_audit ⟨context, call, row, stored⟩ grown later
      executes acts signed (authority.keep keeps) pinned owner same revised written)
    rintro _ last final applying
    exact ⟨rfl, Or.inr ⟨⟨context, call, row, stored⟩, applying, rfl⟩⟩

/-- How one use of the executor ends. -/
def Executed (platform : Platform) (anchor : Anchor) (request : Request)
    (result : Except ApplicationError CommandExecution) (progress : Progress Name Row Res)
    (store : Database) : Prop :=
  match result with
  | .error _ => progress.writes = [] ∨
      ∃ command : RejectedCommand, Rejecting platform anchor request command progress store
  | .ok execution => (execution.replayed = true ∧ execution.journey = none ∧ progress.writes = []) ∨
      ∃ command : AppliedCommand, Applying platform anchor request command progress store ∧
        execution = command.execution

/-- Where `execute_journey_update` leads. -/
theorem proceeds_execute (context : AuthContext) (call : CommandCall)
    (executes : request.commandCall = some call) (acts : request.actsFor context)
    (signed : request.signedBy platform anchor.sessions context)
    (progress : Progress Name Row Res) (store : Database) (clean : progress.writes = []) :
    Proceeds platform anchor request
      (executeJourneyUpdate platform context call.runtime call.commandId call.commandType
        call.commandVersion call.payload call.origin) progress store
      (Executed platform anchor request) := by
  unfold executeJourneyUpdate
  cases resolved : resolveCommand call.commandType call.commandVersion with
  | error error => exact trivial
  | ok definition =>
    obtain ⟨_, _, rfl⟩ := resolveCommand_ok _ _ definition resolved
    apply leads_bind
    simp only [operation]
    apply leads_bind
    apply leads_mono _ _ _ _ _ _ _ _ (proceeds_authorize context progress store clean)
    rintro _ first one ⟨firstClean, _, authority⟩
    simp only [Program.ask_bind]
    intro two _ reachedTwo answer writes locks ran
    obtain rfl := reads_only platform (first.view two) _ rfl answer writes locks ran
    have keepsTwo := keeps_step first one two (Op.lockCommand context.scope call.commandId) answer
      [] locks reachedTwo
    have cleanTwo : (first.extend (Op.lockCommand context.scope call.commandId) answer []
        locks).writes = [] := by simp [Progress.extend, firstClean]
    intro three _ reachedThree prior writes more ran
    obtain ⟨rfl, rfl, _⟩ := ran_selectReceipt platform _ _ _ prior writes more ran
    have keepsThree := keeps_step _ two three (Op.selectReceipt context.scope call.commandId) prior
      [] [] reachedThree
    have cleanThree : ((first.extend (Op.lockCommand context.scope call.commandId) answer []
        locks).extend (Op.selectReceipt context.scope call.commandId) prior [] []).writes = [] := by
      simp [Progress.extend, firstClean]
    cases prior with
    | some receipt =>
      simp only [replayOrConflict]
      split
      · simp only [Program.pure_eq, leads_done]
        cases raised : raisedAfterCommit receipt.outcome with
        | none => exact Or.inl ⟨rfl, rfl, cleanThree⟩
        | some error => exact Or.inl cleanThree
      · exact trivial
    | none =>
      apply leads_mono _ _ _ _ _ _ _ _ (proceeds_fresh context call executes acts signed _ three
        cleanThree (authority.keep (keepsTwo.trans keepsThree)))
      rintro execution grown later ⟨_, ⟨command, rejecting, sameOutcome⟩ | ⟨command, applying, rfl⟩⟩
      · have raised : ∃ error, raisedAfterCommit execution.outcome = some error := by
          rw [sameOutcome]
          rcases rejecting.terminal with conflict | missing
          · exact ⟨journeyConflict, by rw [conflict]; rfl⟩
          · exact ⟨resourceNotFound, by rw [missing]; rfl⟩
        obtain ⟨error, raised⟩ := raised
        simp only [raised]
        exact Or.inr ⟨command, rejecting⟩
      · exact Or.inr ⟨command, applying, rfl⟩

end Executor

section Routes

variable {platform : Platform} {anchor : Anchor} {request : Request}

/-- A route's use of the executor is its request's. -/
theorem commandCall_running (call : Call) (runtime : Runtime)
    (running : request.call = some (call, runtime)) :
    request.commandCall = call.commandCall runtime := by
  cases request with
  | http credentials given surroundings => cases running; rfl
  | operation context given surroundings => cases running; rfl
  | command => cases running
  | administer => cases running

/-- The four reading routes only read. -/
theorem handle_reads (context : AuthContext) (runtime : Runtime) (call : Call)
    (reads : call.mutates = false) :
    (handle platform context runtime call).Only fun op => op.reads = true := by
  have found : ∀ (journeyId : Uuid) (forUpdate : Bool),
      (journeyRow context journeyId forUpdate).Only fun op => op.reads = true := by
    intro journeyId forUpdate
    refine ⟨rfl, fun answer => ?_⟩
    cases answer <;> trivial
  cases call with
  | listJourneys => exact ⟨rfl, fun _ => trivial⟩
  | getJourney journeyId =>
    exact Program.only_bind _ _ _ (Program.only_bind _ _ _ (found journeyId false) fun _ => trivial)
      fun _ => trivial
  | listSegments journeyId =>
    refine Program.only_bind _ _ _ (Program.only_bind _ _ _ (found journeyId false) fun _ => ?_)
      fun _ => trivial
    refine Program.only_bind _ (Program.ask _) _ ⟨rfl, fun _ => trivial⟩ fun rows => ?_
    split <;> trivial
  | listPacking journeyId =>
    refine Program.only_bind _ _ _ (Program.only_bind _ _ _ (found journeyId false) fun _ => ?_)
      fun _ => trivial
    refine Program.only_bind _ (Program.ask _) _ ⟨rfl, fun _ => trivial⟩ fun rows => ?_
    split <;> trivial
  | _ => simp [Call.mutates] at reads

/-- `create_journey` commits a journey that did not exist. -/
theorem proceeds_create (context : AuthContext) (runtime : Runtime) (body : JourneyCreate)
    (running : request.call = some (.createJourney body, runtime)) (acts : request.actsFor context)
    (signed : request.signedBy platform anchor.sessions context)
    (progress : Progress Name Row Res) (store : Database) (clean : progress.writes = [])
    (authority : request.isHttp = true → Holds context progress store) :
    Proceeds platform anchor request (handle platform context runtime (.createJourney body)) progress
      store (Promises (plainApi platform) (commitContract platform anchor) request) := by
  simp only [handle, createJourney, Program.ask_bind, Program.perform_bind, Program.pure_eq,
    Program.done_bind]
  intro first _ reached stored writes locks ran
  obtain ⟨_, free, same, written⟩ := ran_insertJourney platform _ _ _ _ stored writes locks ran
  simp only [Progress.view, clean, applyAll_nil] at free
  intro later _ further
  have keeps := keeps_step progress store first _ stored writes locks reached
  have kept := keeps_reaches _ _ request _ first later further
  have pinned := kept _ _ (pinned_written progress first _ stored writes locks
    (.put (Key.journey (body.id.getD runtime.entityId)) stored) (by simp [written]))
  rw [Progress.view_extend, written]
  simp only [Progress.view, clean, applyAll_nil, applyAll_cons, Write.apply]
  refine .created context (body.id.getD runtime.entityId) stored ?_ acts signed
    (fun http => (((authority http).keep keeps).keep kept).authorized) (pinned.1.trans free)
    (AList.lookup_insert _) (by rw [same]; rfl) (by rw [same]; rfl)
    (fun key other => AList.lookup_insert_ne other)
  simp [Request.creates, running]

/-- `delete_journey` commits the removal of a journey of the actor's workspace. -/
theorem proceeds_delete (context : AuthContext) (runtime : Runtime) (journeyId : Uuid)
    (running : request.call = some (.deleteJourney journeyId, runtime))
    (acts : request.actsFor context)
    (signed : request.signedBy platform anchor.sessions context) (progress : Progress Name Row Res) (store : Database)
    (clean : progress.writes = [])
    (authority : request.isHttp = true → Holds context progress store) :
    Proceeds platform anchor request (handle platform context runtime (.deleteJourney journeyId))
      progress store (Promises (plainApi platform) (commitContract platform anchor) request) := by
  simp only [handle, deleteJourney, Program.ask_bind, Program.perform_bind]
  intro first _ reached deleted writes locks ran
  rcases ran_deleteJourney platform _ _ _ deleted writes locks ran with
    ⟨_, rfl, rfl⟩ | ⟨row, visible, rfl, written⟩
  · exact trivial
  · simp only [if_true, Program.pure_eq, Program.done_bind]
    simp only [Progress.view, clean, applyAll_nil] at visible
    obtain ⟨present, owner, _⟩ := (visibleJourney_some _ _ _ _).mp visible
    intro later _ further
    have keeps := keeps_step progress store first (Op.deleteJourney context.scope journeyId) true
      writes locks reached
    have kept := keeps_reaches _ _ request _ first later further
    have pinned := kept _ _ (pinned_written progress first (Op.deleteJourney context.scope journeyId)
      true writes locks (.drop (Key.journey journeyId)) (by simp [written]))
    have parts := cascade_parts (progress.view first) journeyId
    have shown : ∀ key : Key, key.isPart = false →
        ((progress.extend (Op.deleteJourney context.scope journeyId) true writes
          locks).view later).lookup key = (later.erase (Key.journey journeyId)).lookup key := by
      intro key central
      rw [Progress.view_extend, written, applyAll_cons,
        lookup_applyAll_untouched (cascade (progress.view first) journeyId)]
      · simp [Progress.view, clean, Write.apply]
      · intro write member same
        rw [← same, parts write member] at central
        cases central
    refine .deleted context journeyId row (by simp [Request.deletes, running]) acts signed
      (fun http => (((authority http).keep keeps).keep kept).authorized) (pinned.1.trans present)
      owner ?_ ?_
    · rw [shown _ rfl]
      exact AList.lookup_erase _ _
    · intro key central other
      rw [shown key central]
      exact AList.lookup_erase_ne other

/-- Every route commits what its class allows. -/
theorem proceeds_handle (context : AuthContext) (runtime : Runtime) (call : Call)
    (running : request.call = some (call, runtime)) (acts : request.actsFor context)
    (signed : request.signedBy platform anchor.sessions context)
    (operations : anchor.journey.isSome = true → request.isHttp = true)
    (progress : Progress Name Row Res) (store : Database) (clean : progress.writes = [])
    (authority : request.isHttp = true → Holds context progress store) :
    Proceeds platform anchor request (handle platform context runtime call) progress store
      (Promises (plainApi platform) (commitContract platform anchor) request) := by
  have sameParts : request.partsOf = call.partsOf := by simp [Request.partsOf, running]
  have sameCommand := commandCall_running call runtime running
  cases target : call.partsOf with
  | some journeyId =>
    apply leads_mono _ _ _ _ _ _ _ _ (proceeds_parts context journeyId operations
      (handle platform context runtime call)
      (handle_parts context runtime journeyId platform call target) progress store clean authority)
    exact fun reply grown later made =>
      promise_touched context journeyId reply (sameParts.trans target) acts signed grown later
        made
  | none =>
    have noParts : request.partsOf = none := sameParts.trans target
    have unread : ∀ reads : call.mutates = false, Proceeds platform anchor request
        (handle platform context runtime call) progress store
        (Promises (plainApi platform) (commitContract platform anchor) request) := by
      intro reads
      apply leads_mono _ _ _ _ _ _ _ _ (proceeds_reading _
        (handle_reads context runtime call reads) progress store)
      rintro reply grown later ⟨same, _⟩
      refine promise_quiet reply noParts ?_ grown later (same.trans clean)
      simp only [Request.applies, sameCommand]
      cases call <;> simp [Call.mutates, Call.commandCall] at reads ⊢
    cases call with
    | listJourneys => exact unread rfl
    | getJourney journeyId => exact unread rfl
    | listSegments journeyId => exact unread rfl
    | listPacking journeyId => exact unread rfl
    | createJourney body =>
      exact proceeds_create context runtime body running acts signed progress store clean
        authority
    | deleteJourney journeyId =>
      exact proceeds_delete context runtime journeyId running acts signed progress store clean
        authority
    | updateJourney journeyId body =>
      simp only [handle, updateJourneyRoute]
      apply leads_bind
      apply leads_mono _ _ _ _ _ _ _ _ (proceeds_execute context
        ⟨runtime.commandId, "journey.update", 1, ⟨body, journeyId⟩, .web, runtime⟩ sameCommand acts
        signed progress store clean)
      rintro (error | execution) grown later executed
      · rcases executed with empty | ⟨command, rejecting⟩
        · exact promise_quiet _ noParts (by simp [Request.applies]) grown later empty
        · exact promise_rejected command _ (by simp [Request.applies]) grown later rejecting
      · rcases executed with ⟨_, noJourney, empty⟩ | ⟨command, applying, rfl⟩
        · simp only [noJourney, respond, Program.pure_eq, leads_done]
          exact promise_quiet _ noParts (by simp [Request.applies]) grown later empty
        · refine promise_applied command _ ?_ grown later applying
          simp [Request.applies, sameCommand, Call.commandCall, AppliedCommand.execution, respond]
    | journeyUpdateCommand body =>
      simp only [handle, canonicalUpdateJourney]
      apply leads_bind
      apply leads_mono _ _ _ _ _ _ _ _ (proceeds_execute context
        ⟨body.commandId, "journey.update", body.commandVersion, body.payload, .web, runtime⟩
        sameCommand acts signed progress store clean)
      rintro (error | execution) grown later executed
      · rcases executed with empty | ⟨command, rejecting⟩
        · exact promise_quiet _ noParts (by simp [Request.applies]) grown later empty
        · exact promise_rejected command _ (by simp [Request.applies]) grown later rejecting
      · rcases executed with ⟨replayed, _, empty⟩ | ⟨command, applying, rfl⟩
        · cases kind : execution.outcome with
          | applied recordVersion changeSetId =>
            simp only [kind, Program.pure_eq, leads_done]
            exact promise_quiet _ noParts (by simp [Request.applies, replayed]) grown later empty
          | versionConflict =>
            simp only [kind, Program.pure_eq, leads_done]
            exact promise_quiet _ noParts (by simp [Request.applies]) grown later empty
          | resourceNotFound =>
            simp only [kind, Program.pure_eq, leads_done]
            exact promise_quiet _ noParts (by simp [Request.applies]) grown later empty
        · refine promise_applied command _ ?_ grown later applying
          simp [Request.applies, sameCommand, Call.commandCall, AppliedCommand.execution]
    | _ => simp [Call.partsOf] at target

/-- The program of every allowed request is safe. -/
theorem commits_safe (request : Request) (db : Database)
    (allowed : (commitContract platform anchor).Allowed request) :
    Safe (plainApi platform) (commitContract platform anchor) request (program platform request)
      .empty db := by
  cases request with
  | http credentials call runtime =>
    apply leads_bind
    apply leads_mono _ _ _ _ _ _ _ _
      (proceeds_routeContext runtime credentials call.mutates db)
    rintro context grown later ⟨clean, signed, authority⟩
    cases mutates : call.mutates with
    | true =>
      have acts : (Request.http credentials call runtime).actsFor context := trivial
      exact proceeds_handle context runtime call rfl acts signed (fun _ => rfl) grown later clean
        fun _ => authority mutates
    | false =>
      apply leads_mono _ _ _ _ _ _ _ _ (proceeds_reading _
        (handle_reads context runtime call mutates) grown later)
      rintro reply last final ⟨same, _⟩
      refine promise_quiet reply ?_ ?_ last final (same.trans clean)
      · cases call <;> simp [Call.mutates] at mutates <;> rfl
      · cases call <;> simp [Call.mutates] at mutates <;> rfl
  | operation context call runtime =>
    have acts : (Request.operation context call runtime).actsFor context := rfl
    refine proceeds_handle context runtime call rfl acts trivial ?_ .empty db rfl (by simp [Request.isHttp])
    intro anchored
    obtain ⟨⟨journeyId, workspaceId⟩, same⟩ := Option.isSome_iff_exists.mp anchored
    simpa [Request.isOperation] using (allowed journeyId workspaceId same).1
  | command context commandId commandType commandVersion payload origin runtime =>
    have acts : (Request.command context commandId commandType commandVersion payload origin
      runtime).actsFor context := rfl
    simp only [program, Safe]
    apply leads_bind
    apply leads_mono _ _ _ _ _ _ _ _ (proceeds_execute context
      ⟨commandId, commandType, commandVersion, payload, origin, runtime⟩ rfl acts trivial .empty db rfl)
    rintro (error | execution) grown later executed
    · rcases executed with empty | ⟨command, rejecting⟩
      · exact promise_quiet _ rfl rfl grown later empty
      · exact promise_rejected command _ rfl grown later rejecting
    · rcases executed with ⟨replayed, _, empty⟩ | ⟨command, applying, rfl⟩
      · exact promise_quiet _ rfl (by simp [Request.applies, replayed]) grown later empty
      · exact promise_applied command _ rfl grown later applying
  | administer workspaceId userId role =>
    simp only [program, Program.ask_bind]
    intro first _ _ answer writes locks ran
    cases ran
    intro later _ _
    refine .administered workspaceId userId role rfl ?_ ?_
    · cases role <;> simp [Progress.view, Progress.extend, Progress.empty, Write.apply]
    · intro key other
      apply lookup_applyAll_untouched
      cases role <;> simp [Progress.extend, Progress.empty, Write.key, Ne.symm other]

/-- In every run from a store at rest, the history is a chain of classified commits. -/
theorem history_classified
    (permits : System Name Row Res Failure Request Reply → Event Request → Prop)
    (admitted : ∀ system request, permits system (.arrive request) →
      (commitContract platform anchor).Allowed request)
    (db : Database) (holds : (commitContract platform anchor).Inv db)
    (last : System Name Row Res Failure Request Reply)
    (run : Run (plainApi platform) permits (System.initial db) last) :
    Sound (plainApi platform) (commitContract platform anchor) db last := by
  apply run_sound (plainApi platform) (commitContract platform anchor) permits
    (System.initial db) last db admitted
  · intro system index process reply earlier _ found _
    exact never_stale (plainApi platform) permits (System.initial db) system
      (fun _ _ _ _ => rfl) earlier (by simp [System.initial]) process (List.mem_of_getElem? found)
  · exact fun request store allowed _ => commits_safe request store allowed
  · exact fun request reply before after allowed inside committed =>
      commit_keeps_anchor platform anchor request reply before after allowed inside committed
  · exact sound_initial (plainApi platform) (commitContract platform anchor) db holds
  · exact run

end Routes

/-- In every run the history is a chain of classified commits. -/
theorem history_committed (platform : Platform) (db : Database)
    (last : System Name Row Res Failure Request Reply)
    (run : Run (plainApi platform) (fun _ _ => True) (System.initial db) last) :
    Linked (Committed platform ⟨sessionsOf db, none⟩) db last.history last.db := by
  have sound : Sound (plainApi platform) (commitContract platform ⟨sessionsOf db, none⟩) db last := by
    apply history_classified (fun _ _ => True) _ db _ last run
    · intro _ _ _ journeyId workspaceId anchored
      cases anchored
    · exact ⟨rfl, fun journeyId workspaceId anchored => by cases anchored⟩
  exact sound.linked.mono fun _ _ _ _ admits => admits.2.2.2

/-- One request alone is one classified commit, when it is accepted. -/
theorem serve_committed (platform : Platform) (request : Request) (db after : Database)
    (reply : Reply) (served : serve (plainApi platform) request db = (.ok reply, after)) :
    Committed platform ⟨sessionsOf db, none⟩ request reply db after := by
  apply safe_alone (plainApi platform) (commitContract platform ⟨sessionsOf db, none⟩) request
    (program platform request) .empty db after reply
  · exact ⟨rfl, fun journeyId workspaceId anchored => by cases anchored⟩
  · exact commits_safe request db fun journeyId workspaceId anchored => by cases anchored
  · rw [serve] at served
    split at served
    · cases served
    · next executed =>
      cases served
      exact executed

end TraxOs.Api
