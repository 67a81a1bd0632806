import TraxOs.Api.Authority
import TraxOs.Api.Replays
import TraxOs.Api.Staleness

/-!
# What one update command does

An update command that is served alone ends in one of six ways. It fails and leaves
everything as it was; it meets a receipt of other content, or a receipt of its own, which
is answered as it was recorded; or it is new, and then it is applied or refused, and leaves
its receipt.
-/

namespace TraxOs.Api

open TraxOs.Theory

/-- A receipt records a command: `exact` in `_replay_or_conflict`. -/
def CommandReceipt.Records (platform : Platform) (command : JourneyUpdateCommand)
    (receipt : CommandReceipt) : Prop :=
  receipt.commandType = "journey.update" ∧ receipt.commandVersion = command.commandVersion ∧
    receipt.digestVersion = 1 ∧
      receipt.requestDigest = commandDigestV1 platform command.commandId "journey.update"
        command.commandVersion command.payload ∧
        receipt.entityType = "journey" ∧ receipt.entityId = command.payload.journeyId

/-- The receipt of a command under some scope. -/
abbrev receiptIn (db : Database) (scope : Scope) (commandId : Uuid) : Option CommandReceipt :=
  db.lookup (Key.receipt scope.workspaceId scope.userId commandId)

/-- The reply to an update command, and the database that it leaves. -/
inductive Outcomes (platform : Platform) (scope : Scope) (command : JourneyUpdateCommand)
    (db : Database) : Except Failure Reply → Database → Prop where
  | failed (failure : Failure) (other : failure.response.statusCode ≠ 409) :
      Outcomes platform scope command db (.error failure) db
  | clashed (receipt : CommandReceipt)
      (found : receiptIn db scope command.commandId = some receipt)
      (differs : ¬ receipt.Records platform command) :
      Outcomes platform scope command db (.error (.application idempotencyConflict)) db
  | repeated (receipt : CommandReceipt) (version : Nat) (changeSetId : Uuid)
      (body : JourneyUpdateCommandResponse)
      (found : receiptIn db scope command.commandId = some receipt)
      (applied : receipt.outcome = .applied version changeSetId) :
      Outcomes platform scope command db (.ok (.command body)) db
  | refusedBefore (receipt : CommandReceipt) (error : ApplicationError)
      (found : receiptIn db scope command.commandId = some receipt)
      (raised : raisedAfterCommit receipt.outcome = some error) :
      Outcomes platform scope command db (.ok (.error error)) db
  | applied (row stored : StoredJourney) (now : Timestamp) (receipt : CommandReceipt)
      (version : Nat) (changeSetId eventId : Uuid) (body : JourneyUpdateCommandResponse)
      (after : Database) (unused : receiptIn db scope command.commandId = none)
      (seen : visibleJourney db scope command.payload.journeyId = some row)
      (current : row.1.recordVersion = command.payload.expectedRecordVersion)
      (revised : stored.1 = row.1.revised (journeyValues command.payload.toJourneyUpdate) now)
      (written : after.lookup (Key.journey command.payload.journeyId) = some stored)
      (recorded : receiptIn after scope command.commandId = some receipt)
      (records : receipt.Records platform command)
      (outcome : receipt.outcome = .applied version changeSetId)
      (spared : ∀ key, key ∉ [.journey command.payload.journeyId, .changeSet changeSetId,
          .changeEvent eventId, .receipt scope.workspaceId scope.userId command.commandId] →
        after.lookup key = db.lookup key) :
      Outcomes platform scope command db (.ok (.command body)) after
  | refused (receipt : CommandReceipt) (error : ApplicationError)
      (unused : receiptIn db scope command.commandId = none)
      (outdated : ∀ row : StoredJourney,
        visibleJourney db scope command.payload.journeyId = some row →
          row.1.recordVersion ≠ command.payload.expectedRecordVersion)
      (records : receipt.Records platform command)
      (raised : raisedAfterCommit receipt.outcome = some error) :
      Outcomes platform scope command db (.ok (.error error))
        (db.insert (Key.receipt scope.workspaceId scope.userId command.commandId) receipt)

/-- What the executor returns for a command, and the database that it leaves. -/
def Concludes (platform : Platform) (scope : Scope) (command : JourneyUpdateCommand) (db : Database)
    (execution : CommandExecution) (after : Database) : Prop :=
  (∃ recordVersion changeSetId, execution.outcome = .applied recordVersion changeSetId ∧
      ∀ body, Outcomes platform scope command db (.ok (.command body)) after) ∨
    ∃ error, raisedAfterCommit execution.outcome = some error ∧
      Outcomes platform scope command db (.ok (.error error)) after

section Execution

variable {platform : Platform} {context : AuthContext} {runtime : Runtime} {db : Database}

/-- The database refuses a statement with an error of its own. -/
theorem execute_failed (platform : Platform) (op : Op) (db : Database) (failure : Failure)
    (failed : execute platform op db = .failed failure) : ∃ error, failure = .database error := by
  cases op <;> simp only [execute, comparing, relocate, storing] at failed <;>
    (repeat' split at failed) <;> cases failed <;> exact ⟨_, rfl⟩

/-- A statement is refused by the database, or it hands over to what follows. -/
theorem alone_performs {α : Type} (platform : Platform) (op : Op) (next : Res op → Action α)
    (db : Database) :
    (∃ error, alone (plainApi platform) (.perform op next) db = .error (.database error)) ∨
      ∃ answer writes locks, execute platform op db = .ran answer writes locks ∧
        alone (plainApi platform) (.perform op next) db =
          alone (plainApi platform) (next answer) (applyAll writes db) := by
  cases executed : execute platform op db with
  | failed failure =>
    obtain ⟨error, rfl⟩ := execute_failed platform op db failure executed
    exact Or.inl ⟨error, alone_failed _ op next db _ executed⟩
  | ran answer writes locks =>
    exact Or.inr ⟨answer, writes, locks, rfl, alone_ran _ op next db answer writes locks executed⟩

/-- Whoever may write is authorized. -/
theorem authorize_allows (authorized : Authorized db context) :
    alone (plainApi platform) (authorizePermission context .journeyWrite) db = .ok ((), db) := by
  obtain ⟨row, found, allows⟩ := authorized
  have ran : execute platform (.lockMembership context.scope) db =
      .ran (some row.role) []
        [(.row (.membership context.workspaceId context.userId), .share)] := by
    simp only [execute, AuthContext.scope, found]
  unfold authorizePermission
  rw [Program.ask_bind, alone_ran _ _ _ _ _ _ _ ran]
  simp only [allows, if_true]
  rfl

/-- The checks of a mutation route fail, or find the context of the session and its current
authority. -/
theorem mutationContext_alone (platform : Platform) (runtime : Runtime) (db : Database)
    (credentials : Credentials) :
    (∃ failure, alone (plainApi platform) (mutationContext platform runtime credentials) db =
        .error failure ∧ failure.response.statusCode ≠ 409) ∨
      ∃ context csrfHash,
        findSession db (platform.sha256 credentials.token) (runtime.clock 0) =
          some (context, csrfHash) ∧ Authorized db context ∧
            alone (plainApi platform) (mutationContext platform runtime credentials) db =
              .ok (context, db) := by
  rw [mutationContext, alone_bind, authenticate_alone]
  by_cases anonymous : credentials.token.isEmpty = true
  · rw [if_pos anonymous]
    exact Or.inl ⟨_, rfl, by decide⟩
  rw [if_neg anonymous]
  cases found : findSession db (platform.sha256 credentials.token) (runtime.clock 0) with
  | none => exact Or.inl ⟨_, rfl, by decide⟩
  | some pair =>
    obtain ⟨context, csrfHash⟩ := pair
    simp only [requireCsrf]
    split
    · exact Or.inl ⟨_, rfl, by decide⟩
    · rw [Program.pure_eq, Program.done_bind, alone_bind]
      by_cases authorized : Authorized db context
      · rw [authorize_allows authorized]
        exact Or.inr ⟨context, csrfHash, rfl, authorized, rfl⟩
      · rw [authorize_denies platform db context authorized]
        exact Or.inl ⟨_, rfl, by decide⟩

/-- What the attempt to apply an update comes to: the row that it finds is not the expected
one, or it is replaced, or the database does not take the values. -/
theorem applyJourneyUpdate_alone (platform : Platform) (context : AuthContext)
    (runtime : Runtime) (db : Database) (journeyId : Uuid) (command : JourneyUpdate) :
    (∃ error outcome, alone (plainApi platform)
          (applyJourneyUpdate context runtime journeyId command).attempt db =
            .ok (.error (.application error), db) ∧
        terminalOutcome (.application error) = some outcome ∧
          (∃ raised, raisedAfterCommit outcome = some raised) ∧
            ∀ row : StoredJourney, visibleJourney db context.scope journeyId = some row →
              row.1.recordVersion ≠ command.expectedRecordVersion) ∨
      (∃ error, alone (plainApi platform)
        (applyJourneyUpdate context runtime journeyId command).attempt db =
          .error (.database error)) ∨
      ∃ (row stored : StoredJourney) (mutation : JourneyUpdateMutation),
        visibleJourney db context.scope journeyId = some row ∧
          row.1.recordVersion = command.expectedRecordVersion ∧
            stored.1 = row.1.revised (journeyValues command) (runtime.clock 1) ∧
              alone (plainApi platform)
                (applyJourneyUpdate context runtime journeyId command).attempt db =
                  .ok (.ok mutation, db.insert (Key.journey journeyId) stored) := by
  cases seen : visibleJourney db context.scope journeyId with
  | none =>
    have looking : (plainApi platform).execute (Op.selectJourney context.scope journeyId true) db =
        .ran none [] [] := by
      simp [plainApi, api, execute, seen, answered]
    refine Or.inl ⟨resourceNotFound, .resourceNotFound, ?_, by decide, ⟨_, rfl⟩, fun row none => ?_⟩
    · unfold applyJourneyUpdate journeyRow
      simp only [Program.ask_bind, Program.perform_bind, Program.attempt_perform]
      rw [alone_ran _ _ _ db _ _ _ looking]
      rfl
    · cases none
  | some row =>
    by_cases same : row.1.recordVersion = command.expectedRecordVersion
    · have locking : (plainApi platform).execute
          (Op.selectJourney context.scope journeyId true) db =
            .ran (some row) [] [(.row (.journey journeyId), .update)] := by
        simp [plainApi, api, execute, seen]
      refine Or.inr ?_
      unfold applyJourneyUpdate journeyRow
      simp only [Program.ask_bind, Program.perform_bind, Program.attempt_perform]
      rw [alone_ran _ _ _ db _ _ _ locking]
      simp only [Program.pure_eq, Program.done_bind, same, ne_eq, not_true_eq_false, if_false,
        Program.attempt_perform, applyAll_nil]
      rcases alone_performs platform (Op.swapJourney context.scope journeyId
          command.expectedRecordVersion (journeyValues command) (runtime.clock 1)) _ db with
        ⟨error, refused⟩ | ⟨answer, writes, locks, ran, continues⟩
      · exact Or.inl ⟨error, refused⟩
      · rw [continues]
        simp only [execute, comparing, seen, same, if_true] at ran
        split at ran
        · cases ran
        · obtain ⟨admissible, stored⟩ := (storing_ran _ _ _ _ _).mp ran
          cases stored
          exact Or.inr ⟨row, ⟨_, admissible⟩, _, rfl, same, rfl, rfl⟩
    · refine Or.inl ⟨journeyConflict, .versionConflict,
        applyJourneyUpdate_outdated journeyId command row seen same, by decide, ⟨_, rfl⟩,
        fun other there => ?_⟩
      obtain rfl := Option.some.inj there
      exact same

/-- The audit of an applied command is written, or the database refuses it. -/
theorem writeAppliedAudit_alone (platform : Platform) (context : AuthContext)
    (runtime : Runtime) (db : Database) (changeSetId : Uuid) (execution : CommandExecution)
    (mutation : JourneyUpdateMutation) (digest : Text) (origin : Origin)
    (reversibility : Reversibility) :
    (∃ error, alone (plainApi platform) (writeAppliedAudit context runtime changeSetId execution
        mutation digest origin reversibility) db = .error (.database error)) ∨
      ∃ (changeSet : CommandChangeSet) (event : CommandChangeEvent),
        alone (plainApi platform) (writeAppliedAudit context runtime changeSetId execution
          mutation digest origin reversibility) db =
            .ok ((), ((db.insert (Key.changeSet changeSetId) changeSet).insert
              (Key.changeEvent runtime.eventId) event).insert
                (Key.receipt context.workspaceId context.userId execution.commandId)
                  (commandReceipt execution digest (runtime.clock 2))) := by
  unfold writeAppliedAudit
  simp only [Program.ask_bind]
  rcases alone_performs platform (Op.insertChangeSet context.scope changeSetId
      (changeSetRow context execution origin reversibility (runtime.clock 2))) _ db with
    ⟨error, refused⟩ | ⟨one, oneWrites, oneLocks, first, continues⟩
  · exact Or.inl ⟨error, refused⟩
  obtain ⟨_, rfl⟩ := ran_insertChangeSet platform db _ _ _ one oneWrites oneLocks first
  rw [continues]
  rcases alone_performs platform (Op.insertChangeEvent context.scope runtime.eventId
      (changeEventRow context changeSetId execution mutation (runtime.clock 2))) _ _ with
    ⟨error, refused⟩ | ⟨two, twoWrites, twoLocks, second, continues⟩
  · exact Or.inl ⟨error, refused⟩
  obtain ⟨_, rfl⟩ := ran_insertChangeEvent platform _ _ _ _ two twoWrites twoLocks second
  rw [continues]
  rcases alone_performs platform (Op.insertReceipt context.scope execution.commandId
      (commandReceipt execution digest (runtime.clock 2))) Program.done _ with
    ⟨error, refused⟩ | ⟨three, threeWrites, threeLocks, third, continues⟩
  · exact Or.inl ⟨error, refused⟩
  obtain ⟨_, rfl⟩ := ran_insertReceipt platform _ _ _ _ three threeWrites threeLocks third
  exact Or.inr ⟨_, _, continues⟩

/-- A command without a receipt: the database refuses it, or it is applied or refused for
good, with its receipt. -/
theorem executeFresh_alone (platform : Platform) (runtime : Runtime)
    (command : JourneyUpdateCommand) (origin : Origin) (version : command.commandVersion = 1)
    (unused : receiptIn db context.scope command.commandId = none) :
    (∃ error, alone (plainApi platform) (executeFresh context runtime command.commandId
        journeyUpdateV1 command.payload (commandDigestV1 platform command.commandId
          "journey.update" command.commandVersion command.payload) origin) db =
            .error (.database error)) ∨
      ∃ (execution : CommandExecution) (after : Database),
        alone (plainApi platform) (executeFresh context runtime command.commandId
          journeyUpdateV1 command.payload (commandDigestV1 platform command.commandId
            "journey.update" command.commandVersion command.payload) origin) db =
              .ok (execution, after) ∧
          Concludes platform context.scope command db execution after := by
  unfold executeFresh
  rw [alone_bind]
  rcases applyJourneyUpdate_alone platform context runtime db command.payload.journeyId
      command.payload.toJourneyUpdate with
    ⟨error, outcome, attempted, terminal, ⟨raised, raises⟩, outdated⟩ | ⟨error, attempted⟩ |
    ⟨row, stored, mutation, seen, current, revised, attempted⟩
  · rw [attempted]
    simp only [terminal]
    unfold writeTerminalReceipt
    rw [Program.ask_bind]
    rcases alone_performs platform (Op.insertReceipt context.scope command.commandId
        (commandReceipt ⟨command.commandId, journeyUpdateV1.commandType, journeyUpdateV1.version,
          outcome, command.payload.journeyId, false, none⟩ (commandDigestV1 platform
            command.commandId "journey.update" command.commandVersion command.payload)
          (runtime.clock 2))) _ db with
      ⟨error, refused⟩ | ⟨answer, writes, locks, ran, continues⟩
    · exact Or.inl ⟨error, refused⟩
    · obtain ⟨_, rfl⟩ := ran_insertReceipt platform db _ _ _ answer writes locks ran
      refine Or.inr ⟨_, _, continues, Or.inr ⟨raised, raises, ?_⟩⟩
      exact .refused _ raised unused outdated ⟨rfl, version.symm, rfl, rfl, rfl, rfl⟩ raises
  · rw [attempted]
    exact Or.inl ⟨error, rfl⟩
  · rw [attempted]
    simp only
    rw [alone_bind]
    rcases writeAppliedAudit_alone platform context runtime
        (db.insert (Key.journey command.payload.journeyId) stored)
        runtime.changeSetId ⟨command.commandId, journeyUpdateV1.commandType,
          journeyUpdateV1.version, .applied mutation.after.recordVersion runtime.changeSetId,
          command.payload.journeyId, false, some mutation.after⟩ mutation
        (commandDigestV1 platform command.commandId "journey.update" command.commandVersion
          command.payload) origin journeyUpdateV1.reversibility with
      ⟨error, refused⟩ | ⟨changeSet, event, written⟩
    · rw [refused]
      exact Or.inl ⟨error, rfl⟩
    · rw [written]
      refine Or.inr ⟨_, _, rfl, Or.inl ⟨_, _, rfl, fun body => ?_⟩⟩
      refine .applied row stored (runtime.clock 1) _ mutation.after.recordVersion
        runtime.changeSetId runtime.eventId body _ unused seen current revised ?_
        (AList.lookup_insert _) ⟨rfl, version.symm, rfl, rfl, rfl, rfl⟩ rfl ?_
      · simp [AList.lookup_insert_ne]
      · intro key other
        simp only [List.mem_cons, List.not_mem_nil, or_false, not_or] at other
        obtain ⟨notJourney, notChangeSet, notEvent, notReceipt⟩ := other
        refine (AList.lookup_insert_ne notReceipt).trans ?_
        rw [AList.lookup_insert_ne notEvent, AList.lookup_insert_ne notChangeSet,
          AList.lookup_insert_ne notJourney]

/-- The operation of a command, for a context that may write. -/
theorem operation_alone (platform : Platform) (runtime : Runtime)
    (command : JourneyUpdateCommand) (origin : Origin)
    (version : command.commandVersion = 1) (authorized : Authorized db context) :
    (∃ failure, alone (plainApi platform) (operation platform context runtime command.commandId
          "journey.update" command.commandVersion journeyUpdateV1 command.payload origin) db =
            .error failure ∧
        Outcomes platform context.scope command db (.error failure) db) ∨
      ∃ execution after, alone (plainApi platform) (operation platform context runtime
          command.commandId "journey.update" command.commandVersion journeyUpdateV1 command.payload
            origin) db = .ok (execution, after) ∧
        Concludes platform context.scope command db execution after := by
  have belongs : isMember db context.scope = true := by
    obtain ⟨row, found, _⟩ := authorized
    rw [isMember, AuthContext.scope, found]
    rfl
  have locking : (plainApi platform).execute (Op.lockCommand context.scope command.commandId) db =
      .ran () [] [(.named (.command context.workspaceId context.userId command.commandId),
        .update)] := rfl
  have looking : (plainApi platform).execute
      (Op.selectReceipt context.scope command.commandId) db =
        .ran (receiptIn db context.scope command.commandId) [] [] := by
    simp [plainApi, api, execute, belongs, answered, receiptIn]
  unfold operation
  rw [show journeyUpdateV1.permission = Permission.journeyWrite from rfl, alone_bind,
    authorize_allows authorized]
  simp only [Program.ask_bind]
  rw [alone_ran _ _ _ _ _ _ _ locking, applyAll_nil, alone_ran _ _ _ _ _ _ _ looking,
    applyAll_nil]
  cases found : receiptIn db context.scope command.commandId with
  | none =>
    rcases executeFresh_alone platform runtime command origin version
        found with ⟨error, refused⟩ | ⟨execution, after, completes, concludes⟩
    · exact Or.inl ⟨_, refused, .failed _ (by simp [Failure.response, internalError])⟩
    · exact Or.inr ⟨execution, after, completes, concludes⟩
  | some receipt =>
    simp only [replayOrConflict]
    split
    · refine Or.inr ⟨_, _, rfl, ?_⟩
      cases raised : raisedAfterCommit receipt.outcome with
      | none =>
        obtain ⟨recordVersion, changeSetId, applied⟩ :=
          raisedAfterCommit_none receipt.outcome raised
        exact Or.inl ⟨recordVersion, changeSetId, applied, fun body =>
          .repeated receipt recordVersion changeSetId body found applied⟩
      | some error => exact Or.inr ⟨error, raised, .refusedBefore receipt error found raised⟩
    · next differs => exact Or.inl ⟨_, rfl, .clashed receipt found differs⟩

/-- The route of the command, for a context that may write. -/
theorem canonicalUpdateJourney_alone (platform : Platform) (runtime : Runtime)
    (command : JourneyUpdateCommand) (authorized : Authorized db context) :
    (∃ failure, alone (plainApi platform)
          (canonicalUpdateJourney platform context runtime command) db = .error failure ∧
        Outcomes platform context.scope command db (.error failure) db) ∨
      ∃ reply after, alone (plainApi platform)
          (canonicalUpdateJourney platform context runtime command) db = .ok (reply, after) ∧
        Outcomes platform context.scope command db (.ok reply) after := by
  unfold canonicalUpdateJourney executeJourneyUpdate
  cases resolved : resolveCommand "journey.update" command.commandVersion with
  | error error =>
    refine Or.inl ⟨.application error, rfl, .failed _ ?_⟩
    simp only [resolveCommand, commands, journeyUpdateV1, List.filter_cons, decide_true, if_true,
      List.filter_nil, List.isEmpty_cons, Bool.false_eq_true, if_false] at resolved
    split at resolved
    · cases resolved
      decide
    · cases resolved
  | ok definition =>
    obtain ⟨_, version, rfl⟩ := resolveCommand_ok _ _ _ resolved
    simp only
    rw [alone_bind, alone_bind]
    rcases operation_alone platform runtime command .web version
        authorized with ⟨failure, failed, outcome⟩ | ⟨execution, after, completes, concludes⟩
    · rw [failed]
      exact Or.inl ⟨failure, rfl, outcome⟩
    · rw [completes]
      rcases concludes with ⟨recordVersion, changeSetId, applied, outcome⟩ | ⟨error, raised, outcome⟩
      · simp only [applied, raisedAfterCommit, Program.pure_eq, alone_done]
        exact Or.inr ⟨_, _, rfl, outcome _⟩
      · simp only [raised, Program.pure_eq, alone_done]
        exact Or.inr ⟨_, _, rfl, outcome⟩

/-- What serving an update command comes to, for whoever the session belongs to. -/
theorem serve_outcomes (credentials : Credentials) (command : JourneyUpdateCommand)
    (scope : Scope)
    (acts : ∀ context csrfHash,
      findSession db (platform.sha256 credentials.token) (runtime.clock 0) =
        some (context, csrfHash) → context.scope = scope) :
    Outcomes platform scope command db
      (serve (plainApi platform) (.http credentials (.journeyUpdateCommand command) runtime) db).1
      (serve (plainApi platform) (.http credentials (.journeyUpdateCommand command) runtime) db).2 := by
  have program : (plainApi platform).program
      (.http credentials (.journeyUpdateCommand command) runtime) =
        mutationContext platform runtime credentials >>= fun context =>
          canonicalUpdateJourney platform context runtime command := rfl
  rw [serve, program, alone_bind]
  rcases mutationContext_alone platform runtime db credentials with
    ⟨failure, failed, other⟩ | ⟨context, csrfHash, found, authorized, completes⟩
  · rw [failed]
    exact .failed failure other
  · obtain rfl := acts context csrfHash found
    rw [completes]
    rcases canonicalUpdateJourney_alone platform runtime command
        authorized with ⟨failure, failed, outcome⟩ | ⟨reply, after, completes, outcome⟩
    · simp only [failed]
      exact outcome
    · simp only [completes]
      exact outcome

end Execution

end TraxOs.Api
