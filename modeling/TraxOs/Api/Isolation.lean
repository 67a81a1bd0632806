import TraxOs.Theory.Unwinding
import TraxOs.Api.Twins

/-!
# Isolation of workspaces

What happens in other workspaces makes no difference to a workspace: its requests get the
same replies and have the same effect on its rows, whatever others do in between. The one
exception is the identifier of a row that a request inserts. It may be taken by a row that
the workspace does not see, and then the insertion is refused.
-/

namespace TraxOs.Api

open TraxOs.Theory

/-- Two ends of an action that nobody in the workspace can tell apart. -/
def SameEnd (workspaceId : Uuid) (inserted : List Key) {α : Type} :
    Except Failure (α × Database) → Except Failure (α × Database) → Prop
  | .error failure, .error other => failure = other
  | .ok (value, left), .ok (other, right) => value = other ∧ Twins workspaceId inserted left right
  | _, _ => False

/-- An action that ends the same on twins. -/
def Indifferent (platform : Platform) (workspaceId : Uuid) (inserted : List Key) {α : Type}
    (action : Action α) : Prop :=
  ∀ left right, Twins workspaceId inserted left right →
    SameEnd workspaceId inserted (alone (plainApi platform) action left)
      (alone (plainApi platform) action right)

section Actions

variable {platform : Platform} {workspaceId : Uuid} {inserted : List Key} {left right : Database}
  {α β : Type}

/-- One statement with the same outcome, and what follows. -/
theorem sameEnd_perform (op : Op) (next : Res op → Action α)
    (same : SameOutcome workspaceId inserted left right (execute platform op left)
      (execute platform op right))
    (later : ∀ answer ours theirs locks others, execute platform op left = .ran answer ours locks →
      execute platform op right = .ran answer theirs others →
        Twins workspaceId inserted (applyAll ours left) (applyAll theirs right) →
          SameEnd workspaceId inserted
            (alone (plainApi platform) (next answer) (applyAll ours left))
            (alone (plainApi platform) (next answer) (applyAll theirs right))) :
    SameEnd workspaceId inserted (alone (plainApi platform) (.perform op next) left)
      (alone (plainApi platform) (.perform op next) right) := by
  cases ran : execute platform op left with
  | failed error =>
    cases again : execute platform op right with
    | failed other =>
      rw [ran, again] at same
      rw [alone_failed (plainApi platform) op next left error ran,
        alone_failed (plainApi platform) op next right other again]
      exact same
    | ran other theirs others =>
      rw [ran, again] at same
      exact same.elim
  | ran answer ours locks =>
    cases again : execute platform op right with
    | failed other =>
      rw [ran, again] at same
      exact same.elim
    | ran other theirs others =>
      rw [ran, again] at same
      obtain ⟨rfl, twins⟩ := same
      rw [alone_ran (plainApi platform) op next left answer ours locks ran,
        alone_ran (plainApi platform) op next right answer theirs others again]
      exact later answer ours theirs locks others ran again twins

theorem indifferent_done (value : α) : Indifferent platform workspaceId inserted (.done value) :=
  fun _ _ twins => ⟨rfl, twins⟩

theorem indifferent_fail (failure : Failure) :
    Indifferent platform workspaceId inserted (.fail failure : Action α) :=
  fun _ _ _ => rfl

/-- A sequence of actions. -/
theorem indifferent_bind (action : Action α) (rest : α → Action β)
    (first : Indifferent platform workspaceId inserted action)
    (second : ∀ value, Indifferent platform workspaceId inserted (rest value)) :
    Indifferent platform workspaceId inserted (action >>= rest) := by
  intro left right twins
  have same := first left right twins
  rw [alone_bind, alone_bind]
  cases ended : alone (plainApi platform) action left with
  | error failure =>
    cases again : alone (plainApi platform) action right with
    | error other =>
      rw [ended, again] at same
      exact same
    | ok other =>
      rw [ended, again] at same
      exact same.elim
  | ok entry =>
    cases again : alone (plainApi platform) action right with
    | error other =>
      rw [ended, again] at same
      exact same.elim
    | ok other =>
      obtain ⟨value, leftAfter⟩ := entry
      obtain ⟨_, rightAfter⟩ := other
      rw [ended, again] at same
      obtain ⟨rfl, after⟩ := same
      exact second value leftAfter rightAfter after

end Actions

section Routes

variable {platform : Platform} {inserted : List Key} {left right : Database}
  {α : Type} (context : AuthContext) (runtime : Runtime)

/-- A statement of which it is known that it tells nothing. -/
structure Discreet (scope : Scope) (inserted : List Key) (op : Op) : Prop where
  issued : op.scope = some scope
  fresh : ∀ key, op.inserts = some key → key ∈ inserted
  eventless : ∀ scope id row, op ≠ .insertChangeEvent scope id row

/-- What a route asks is discreet, unless it inserts change events. -/
theorem discreet_asked {scope : Scope} {packs : Bool} {op : Op}
    (asked : Asked scope inserted packs op) (eventless : ∀ id, Key.changeEvent id ∉ inserted) :
    Discreet scope inserted op where
  issued := asked.issued
  fresh := asked.inserts
  eventless own id row same := by
    subst same
    exact eventless id (asked.inserts _ rfl)

/-- An action whose statements are all discreet. -/
theorem indifferent_only (collates : platform.Collates) (action : Action α)
    (only : action.Only (Discreet context.scope inserted)) :
    Indifferent platform context.workspaceId inserted action := by
  induction action with
  | done value => exact indifferent_done value
  | fail failure => exact indifferent_fail failure
  | perform op next inductionHypothesis =>
    intro left right twins
    obtain ⟨issued, fresh, eventless⟩ := only.1
    apply sameEnd_perform op next (sameOutcome_execute context.scope collates twins op
      issued fresh eventless)
    intro answer ours theirs _ _ _ _ after
    exact inductionHypothesis answer (only.2 answer) _ _ after

/-- The change event follows its change set. -/
theorem indifferent_audit (collates : platform.Collates) (execution : CommandExecution)
    (mutation : JourneyUpdateMutation) (requestDigest : Text) (origin : Origin)
    (reversibility : Reversibility) (changeSet : .changeSet runtime.changeSetId ∈ inserted)
    (changeEvent : .changeEvent runtime.eventId ∈ inserted) :
    Indifferent platform context.workspaceId inserted
      (writeAppliedAudit context runtime runtime.changeSetId execution mutation requestDigest origin
        reversibility) := by
  intro left right twins
  refine sameEnd_perform _ _ (sameOutcome_execute context.scope collates twins _ rfl
    (fun key named => by cases named; exact changeSet) (by simp)) ?_
  intro _ ours theirs _ _ ran again stored
  obtain ⟨_, rfl⟩ := ran_insertChangeSet platform _ _ _ _ _ _ _ ran
  obtain ⟨_, rfl⟩ := ran_insertChangeSet platform _ _ _ _ _ _ _ again
  have equal := alike_insertChangeEvent platform context.scope stored
    runtime.eventId (changeEventRow context runtime.changeSetId execution mutation
      (runtime.clock 2)) changeEvent _ (AList.lookup_insert _) rfl
  refine sameEnd_perform _ _ (sameOutcome_equal context.scope stored _ rfl equal) ?_
  intro _ ours theirs _ _ _ _ recorded
  have receipt : (Program.ask (Op.insertReceipt context.scope execution.commandId
      (commandReceipt execution requestDigest (runtime.clock 2))) : Action Unit).Only
        (Discreet context.scope inserted) :=
    ⟨⟨rfl, by simp [Op.inserts], by simp⟩, fun _ => trivial⟩
  exact indifferent_only context collates _ receipt _ _ recorded

/-- An action that inserts nothing. -/
theorem indifferent_asked (collates : platform.Collates) (action : Action α)
    (asks : action.Only (Asked context.scope [] false)) :
    Indifferent platform context.workspaceId inserted action := by
  apply indifferent_only context collates
  apply asks.mono
  intro op asked
  have discreet := discreet_asked asked (by simp)
  refine ⟨discreet.issued, fun key named => ?_, discreet.eventless⟩
  cases discreet.fresh key named

/-- The part of an execution for which no receipt was found. -/
theorem indifferent_executeFresh (collates : platform.Collates) (commandId : Uuid)
    (definition : CommandDefinition) (payload : JourneyUpdateCommandPayload)
    (requestDigest : Text) (origin : Origin) (changeSet : .changeSet runtime.changeSetId ∈ inserted)
    (changeEvent : .changeEvent runtime.eventId ∈ inserted) :
    Indifferent platform context.workspaceId inserted
      (executeFresh context runtime commandId definition payload requestDigest origin) := by
  apply indifferent_bind
  · exact indifferent_asked context collates _ (Program.only_attempt _ _
      (applyJourneyUpdate_asks context runtime payload.journeyId payload.toJourneyUpdate))
  · intro result
    cases result with
    | error failure =>
      simp only
      split
      · exact indifferent_fail failure
      · exact indifferent_asked context collates _
          ⟨asked_plain context _ rfl rfl rfl, fun _ => trivial⟩
    | ok mutation =>
      apply indifferent_bind
      · exact indifferent_audit context runtime collates _ mutation requestDigest origin _ changeSet
          changeEvent
      · exact fun _ => indifferent_done _

/-- One use of the executor. -/
theorem indifferent_executeJourneyUpdate (collates : platform.Collates) (commandId : Uuid)
    (commandType : String) (commandVersion : Nat) (payload : JourneyUpdateCommandPayload)
    (origin : Origin) (changeSet : .changeSet runtime.changeSetId ∈ inserted)
    (changeEvent : .changeEvent runtime.eventId ∈ inserted) :
    Indifferent platform context.workspaceId inserted
      (executeJourneyUpdate platform context runtime commandId commandType commandVersion payload
        origin) := by
  unfold executeJourneyUpdate
  split
  · exact indifferent_fail _
  · apply indifferent_bind
    · unfold operation
      apply indifferent_bind
      · exact indifferent_asked context collates _ (authorizePermission_asks context _)
      intro _
      apply indifferent_bind
      · exact indifferent_asked context collates _
          ⟨asked_plain context _ rfl rfl rfl, fun _ => trivial⟩
      intro _
      apply indifferent_bind
      · exact indifferent_asked context collates _
          ⟨asked_plain context _ rfl rfl rfl, fun _ => trivial⟩
      intro prior
      cases prior with
      | some prior =>
        simp only [replayOrConflict]
        split
        · exact indifferent_done _
        · exact indifferent_fail _
      | none =>
        exact indifferent_executeFresh context runtime collates _ _ _ _ _ changeSet changeEvent
    · intro result
      split <;> exact indifferent_done _

/-- Every route. -/
theorem indifferent_handle (collates : platform.Collates) (call : Call) :
    Indifferent platform context.workspaceId (call.inserts runtime)
      (handle platform context runtime call) := by
  by_cases eventless : ∀ id, Key.changeEvent id ∉ call.inserts runtime
  · apply indifferent_only context collates
    exact (handle_asks platform context runtime call).mono
      fun op asked => discreet_asked asked eventless
  · cases call with
    | updateJourney journeyId command =>
      apply indifferent_bind
      · exact indifferent_executeJourneyUpdate context runtime collates _ _ _ _ _
          List.mem_cons_self (List.mem_cons_of_mem _ List.mem_cons_self)
      · intro result
        cases result <;> exact indifferent_done _
    | journeyUpdateCommand command =>
      apply indifferent_bind
      · exact indifferent_executeJourneyUpdate context runtime collates _ _ _ _ _
          List.mem_cons_self (List.mem_cons_of_mem _ List.mem_cons_self)
      · intro result
        cases result with
        | error error => exact indifferent_done _
        | ok execution =>
          simp only
          split <;> exact indifferent_done _
    | _ => exact absurd (by simp [Call.inserts]) eventless

end Routes

section Requests

/-- The keys that a request inserts. -/
def Request.inserts : Request → List Key
  | .http _ call runtime => call.inserts runtime
  | .operation _ call runtime => call.inserts runtime
  | .command _ _ _ _ _ _ runtime =>
    [.changeSet runtime.changeSetId, .changeEvent runtime.eventId]
  | .administer _ _ _ => []

/-- A request of a workspace. One that is turned away before its workspace is known, and a
change of memberships, concern every workspace. -/
def Request.concerns (platform : Platform) (workspaceId : Uuid) (request : Request)
    (db : Database) : Prop :=
  match request with
  | .http credentials _ runtime => ∀ entry,
    findSession db (platform.sha256 credentials.token) (runtime.clock 0) = some entry →
      entry.1.workspaceId = workspaceId
  | .operation context _ _ => context.workspaceId = workspaceId
  | .command context _ _ _ _ _ _ => context.workspaceId = workspaceId
  | .administer _ _ _ => True

/-- Of the keys that a request inserts, the same are taken. -/
def Request.AgreesOn (request : Request) (left right : Database) : Prop :=
  ∀ key ∈ request.inserts, (left.lookup key).isSome = (right.lookup key).isSome

variable {platform : Platform} {workspaceId other : Uuid} {left right : Database}

/-- Databases that are alike, and of which the same keys are taken, are twins. -/
theorem twins_agreed (alike : AlikeIn workspaceId left right) (inserted : List Key)
    (agreed : ∀ key ∈ inserted, (left.lookup key).isSome = (right.lookup key).isSome) :
    Twins workspaceId inserted left right := by
  have one_way : ∀ {left right : Database}, AlikeIn workspaceId left right → ∀ key,
      (left.lookup key).isSome = (right.lookup key).isSome →
        HeldElsewhere workspaceId left key → HeldElsewhere workspaceId right key := by
    rintro left right alike key same ⟨row, found, outside⟩
    rw [found] at same
    obtain ⟨stored, there⟩ := Option.isSome_iff_exists.mp same.symm
    refine ⟨stored, there, fun inside => outside ?_⟩
    obtain ⟨here, within⟩ := (alike.rows key stored).mpr ⟨there, inside⟩
    rw [found, Option.some.injEq] at here
    exact here ▸ within
  refine ⟨alike, fun key member => ?_⟩
  exact ⟨one_way alike key (agreed key member), one_way alike.symm key (agreed key member).symm⟩

/-- What a request of the workspace answers and leaves behind. -/
theorem serve_same {request : Request} (inserted : List Key)
    (alike : AlikeIn workspaceId left right)
    (same : SameEnd workspaceId inserted
      (alone (plainApi platform) (program platform request) left)
      (alone (plainApi platform) (program platform request) right)) :
    (serve (plainApi platform) request left).1 = (serve (plainApi platform) request right).1 ∧
      AlikeIn workspaceId (serve (plainApi platform) request left).2
        (serve (plainApi platform) request right).2 := by
  unfold serve
  rw [show (plainApi platform).program = program platform from rfl]
  cases ended : alone (plainApi platform) (program platform request) left with
  | error failure =>
    cases again : alone (plainApi platform) (program platform request) right with
    | error other =>
      rw [ended, again] at same
      exact ⟨congrArg Except.error same, alike⟩
    | ok entry =>
      rw [ended, again] at same
      exact same.elim
  | ok entry =>
    cases again : alone (plainApi platform) (program platform request) right with
    | error other =>
      rw [ended, again] at same
      exact same.elim
    | ok entry' =>
      rw [ended, again] at same
      exact ⟨congrArg Except.ok same.1, same.2.alike⟩

/-- The API continues an HTTP request after it has looked for the session. -/
theorem indifferent_afterSession (collates : platform.Collates) (credentials : Credentials)
    (call : Call) (runtime : Runtime) (context : AuthContext) (csrfHash : Text) :
    Indifferent platform context.workspaceId (call.inserts runtime)
      (afterSession platform credentials call runtime (some (context, csrfHash))) := by
  simp only [afterSession]
  split
  · apply indifferent_bind
    · unfold requireCsrf
      split
      · exact indifferent_fail _
      · exact indifferent_done _
    · intro _
      apply indifferent_bind
      · exact indifferent_asked context collates _ (authorizePermission_asks context _)
      · exact fun _ => indifferent_handle context runtime collates call
  · exact indifferent_handle context runtime collates call

/-- An HTTP request of the workspace. -/
theorem sameEnd_http (collates : platform.Collates) (credentials : Credentials) (call : Call)
    (runtime : Runtime) (twins : Twins workspaceId (call.inserts runtime) left right)
    (concerns : (Request.http credentials call runtime).concerns platform workspaceId left) :
    SameEnd workspaceId (call.inserts runtime)
      (alone (plainApi platform) (program platform (.http credentials call runtime)) left)
      (alone (plainApi platform) (program platform (.http credentials call runtime)) right) := by
  rw [http_program]
  split
  · rfl
  · have same := findSession_same left right twins.alike.identities
      (platform.sha256 credentials.token) (runtime.clock 0)
    rw [alone_ran (plainApi platform) _ _ left _ [] [] rfl,
      alone_ran (plainApi platform) _ _ right _ [] [] rfl, ← same]
    cases found : findSession left (platform.sha256 credentials.token) (runtime.clock 0) with
    | none => rfl
    | some entry =>
      obtain ⟨context, csrfHash⟩ := entry
      obtain rfl := concerns _ found
      exact indifferent_afterSession collates credentials call runtime context csrfHash left right
        twins

/-- A change of memberships leaves the rows of every workspace alone. -/
theorem alike_administered (alike : AlikeIn workspaceId left right) (writes : List (Write Row))
    (identities : ∀ write ∈ writes, write.key.isIdentity = true)
    (first : Consistent (applyAll writes left)) (second : Consistent (applyAll writes right)) :
    AlikeIn workspaceId (applyAll writes left) (applyAll writes right) := by
  have untouched : ∀ (db : Database) (key : Key), key.isIdentity = false →
      (applyAll writes db).lookup key = db.lookup key := by
    intro db key plain
    apply lookup_applyAll_untouched
    rintro write member rfl
    rw [identities write member] at plain
    cases plain
  have shows_same : ∀ (db : Database) (key : Key) (row : Row key),
      Shows workspaceId (applyAll writes db) key row ↔ Shows workspaceId db key row := by
    intro db key row
    cases key with
    | journey id => simp only [Shows, Key.inWorkspace, untouched db (Key.journey id) rfl]
    | segment id =>
      simp only [Shows, Key.inWorkspace, untouched db (Key.segment id) rfl,
        untouched db (Key.journey row.1.journeyId) rfl]
    | packingItem id =>
      simp only [Shows, Key.inWorkspace, untouched db (Key.packingItem id) rfl,
        untouched db (Key.journey row.1.journeyId) rfl]
    | receipt owner userId commandId =>
      simp only [Shows, Key.inWorkspace, untouched db (Key.receipt owner userId commandId) rfl]
    | changeSet id => simp only [Shows, Key.inWorkspace, untouched db (Key.changeSet id) rfl]
    | changeEvent id => simp only [Shows, Key.inWorkspace, untouched db (Key.changeEvent id) rfl]
    | _ => simp [Shows, Key.inWorkspace]
  refine ⟨?_, ?_, first, second⟩
  · intro key identity
    by_cases written : ∃ write ∈ writes, write.key = key
    · exact lookup_applyAll_written writes left right key written
    · have spared : ∀ write ∈ writes, write.key ≠ key :=
        fun write member same => written ⟨write, member, same⟩
      rw [lookup_applyAll_untouched writes left key spared,
        lookup_applyAll_untouched writes right key spared]
      exact alike.identities key identity
  · intro key row
    rw [shows_same left, shows_same right]
    exact alike.rows key row

/-- Confinement composes, as long as no reference dangles. -/
theorem ConfinedTo.trans {first middle last : Database} (earlier : ConfinedTo other first middle)
    (later : ConfinedTo other middle last) (before : Integral first)
    (after : Integral last) : ConfinedTo other first last := by
  have journeys : ∀ {one two : Database}, ConfinedTo other one two → ∀ id (old new : StoredJourney),
      one.lookup (Key.journey id) = some old → two.lookup (Key.journey id) = some new →
        (old.1.workspaceId = other ↔ new.1.workspaceId = other) := by
    intro one two confined id old new found there
    rcases confined (Key.journey id) with same | ⟨_, own, now⟩
    · rw [same, found, Option.some.injEq] at there
      rw [there]
    · exact ⟨fun _ => now new there, fun _ => own old found⟩
  intro key
  rcases later key with same | ⟨plain, own, now⟩
  · rcases earlier key with still | ⟨plain, own, now⟩
    · exact Or.inl (same.trans still)
    · refine Or.inr ⟨plain, own, fun row found => ?_⟩
      rw [same] at found
      apply inWorkspace_moved key row (now row found)
      · exact fun target refers => after key row (same.trans found) target refers
      · exact fun id old new there owner here => (journeys later id old new there here).mp owner
  · rcases earlier key with still | ⟨_, owned, _⟩
    · refine Or.inr ⟨plain, fun row found => ?_, now⟩
      apply inWorkspace_moved key row (own row (still.trans found))
      · exact fun target refers => before key row found target refers
      · exact fun id old new there owner here => (journeys earlier id new old here there).mpr owner
    · exact Or.inr ⟨plain, owned, now⟩

/-- An action in the scope of one context. -/
theorem alone_confined {α : Type} (scope : Scope) (action : Action α)
    (only : action.Only fun op => op.scope = some scope) (db after : Database) (value : α)
    (consistent : Consistent db)
    (completes : alone (plainApi platform) action db = .ok (value, after)) :
    ConfinedTo scope.workspaceId db after ∧ Consistent after := by
  induction action generalizing db with
  | done result =>
    rw [alone_done, Except.ok.injEq, Prod.mk.injEq] at completes
    obtain ⟨_, rfl⟩ := completes
    exact ⟨fun key => Or.inl rfl, consistent⟩
  | fail failure => cases completes
  | perform op next inductionHypothesis =>
    obtain ⟨answer, writes, locks, ran, later⟩ := alone_ok_perform _ _ _ _ _ _ completes
    have middle := execute_consistent platform op answer writes locks consistent ran
    have own := confined_of_writes writes
      (execute_confines platform op only.1 answer writes locks ran)
    obtain ⟨rest, last⟩ := inductionHypothesis answer (only.2 answer) _ middle later
    exact ⟨own.trans rest consistent.integral last.integral, last⟩

/-- What is confined to another workspace makes no difference. -/
theorem alike_elsewhere (alike : AlikeIn workspaceId left right) (different : workspaceId ≠ other)
    (after : Database) (confined : ConfinedTo other left after) (consistent : Consistent after) :
    AlikeIn workspaceId after right := by
  refine ⟨?_, ?_, consistent, alike.right⟩
  · intro key identity
    rcases confined key with same | ⟨plain, _⟩
    · rw [same]
      exact alike.identities key identity
    · rw [identity] at plain
      cases plain
  · intro key row
    exact (confined.elsewhere different key row).symm.trans (alike.rows key row)

end Requests

/-- Single requests, of the workspace and of others. -/
theorem requests_unwind (platform : Platform) (collates : platform.Collates) (workspaceId : Uuid) :
    Unwinds (serve (plainApi platform)) (Request.concerns platform workspaceId)
      (AlikeIn workspaceId) Request.AgreesOn := by
  constructor
  · exact fun left right alike => alike.symm
  · -- A request of another workspace is confined to that one.
    intro request left right elsewhere alike
    have confined : ∀ (context : AuthContext), workspaceId ≠ context.workspaceId →
        ∀ (action : Action Reply) (db : Database),
          action.Only (fun op => op.scope = some context.scope) → AlikeIn workspaceId db right →
            ∀ reply after, alone (plainApi platform) action db = .ok (reply, after) →
              AlikeIn workspaceId after right := by
      intro context different action db only alike reply after completes
      obtain ⟨inside, consistent⟩ := alone_confined context.scope action only db after reply
        alike.left completes
      exact alike_elsewhere alike different after inside consistent
    unfold serve
    rw [show (plainApi platform).program = program platform from rfl]
    cases ended : alone (plainApi platform) (program platform request) left with
    | error failure => exact alike
    | ok entry =>
      obtain ⟨reply, after⟩ := entry
      cases request with
      | http credentials call runtime =>
        rw [http_program] at ended
        split at ended
        · cases ended
        · rw [alone_ran (plainApi platform) _ _ left _ [] [] rfl] at ended
          simp only [Request.concerns, not_forall] at elsewhere
          obtain ⟨⟨context, csrfHash⟩, found, different⟩ := elsewhere
          rw [found] at ended
          exact confined context (Ne.symm different) _ left
            (afterSession_issued credentials call runtime context csrfHash) alike reply after ended
      | operation context call runtime =>
        exact confined context (Ne.symm elsewhere) _ left
          ((handle_asks platform context runtime call).mono fun _ asked => asked.issued) alike reply
          after ended
      | command context commandId commandType commandVersion payload origin runtime =>
        exact confined context (Ne.symm elsewhere) _ left (command_issued platform context commandId
          commandType commandVersion payload origin runtime) alike reply after ended
      | administer owner userId role => exact absurd trivial elsewhere
  · intro request left right concerns agreed alike
    have twins := twins_agreed alike request.inserts agreed
    cases request with
    | http credentials call runtime =>
      exact serve_same _ alike (sameEnd_http collates credentials call runtime twins concerns)
    | operation context call runtime =>
      obtain rfl := concerns
      exact serve_same _ alike (indifferent_handle context runtime collates call left right twins)
    | command context commandId commandType commandVersion payload origin runtime =>
      obtain rfl := concerns
      apply serve_same [.changeSet runtime.changeSetId, .changeEvent runtime.eventId] alike
      refine indifferent_bind _ _ (indifferent_executeJourneyUpdate context runtime collates _ _ _ _
        _ (by simp) (by simp)) ?_ left right twins
      intro result
      split <;> exact indifferent_done _
    | administer owner userId role =>
      refine ⟨rfl, ?_⟩
      have first := execute_consistent platform (.writeMembership owner userId role) () _ []
        alike.left rfl
      have second := execute_consistent platform (.writeMembership owner userId role) () _ []
        alike.right rfl
      refine alike_administered alike _ ?_ first second
      intro write member
      rw [List.mem_singleton.mp member]
      cases role <;> rfl

/-- Two runs serve the same requests of a workspace, each of them with any requests of other
workspaces in between. If the databases show the workspace the same at first, and whenever a
request of it inserts a row, then the same keys are taken, its requests get the same replies
and the databases show it the same in the end. -/
theorem workspaces_isolated (platform : Platform) (collates : platform.Collates)
    (workspaceId : Uuid) (left right lastLeft lastRight : Database)
    (ours theirs : List (Except Failure Reply)) (alike : AlikeIn workspaceId left right)
    (abreast : Abreast (serve (plainApi platform)) (Request.concerns platform workspaceId)
      Request.AgreesOn left right ours theirs lastLeft lastRight) :
    ours = theirs ∧ AlikeIn workspaceId lastLeft lastRight :=
  abreast_same (requests_unwind platform collates workspaceId) abreast alike

namespace Sample

theorem oslo_named : 1 ≤ "Oslo".toList.length ∧ "Oslo".toList.length ≤ 200 := by decide

theorem socks_labelled : 1 ≤ "Socks".toList.length ∧ "Socks".toList.length ≤ 200 := by decide

theorem socks_few : 1 ≤ 1 ∧ 1 ≤ 99 := by decide

/-- Somebody in another workspace creates a journey. -/
def neighbour : Request :=
  .operation ⟨5, 6, 7, [], [], .owner⟩
    (.createJourney
      { name := "Oslo".toList, startDate := none, endDate := none, nameLength := oslo_named
        datesAreOrdered := undated, id := some 8 }) runtime

/-- The owner packs something. -/
def socksRequest : Request :=
  .http credentials
    (.createPacking 7
      { label := "Socks".toList, category := .other, quantity := 1, essential := false
        labelLength := socks_labelled, quantityBounds := socks_few, id := some 30 }) runtime

theorem platform_collates : platform.Collates where
  ordering := by
    constructor
    · intro left right
      rcases le_total left right with forth | back
      · exact Or.inl (decide_eq_true forth)
      · exact Or.inr (decide_eq_true back)
    · intro first second third forth further
      exact decide_eq_true (le_trans (of_decide_eq_true forth) (of_decide_eq_true further))
  distinct left right forth back :=
    le_antisymm (of_decide_eq_true forth) (of_decide_eq_true back)

theorem database_consistent : Consistent database where
  integral := resolved_of_entries (by decide +kernel)
  events id row found := by
    have member := AList.mem_lookup_iff.mp found
    simp [database] at member

end Sample

/-- The owner packs the same, with or without a neighbour. -/
theorem workspaces_isolated_neighbour :
    [(serve (plainApi Sample.platform) Sample.socksRequest
        (serve (plainApi Sample.platform) Sample.neighbour Sample.database).2).1] =
      [(serve (plainApi Sample.platform) Sample.socksRequest Sample.database).1] ∧
    AlikeIn 2 (serve (plainApi Sample.platform) Sample.socksRequest
        (serve (plainApi Sample.platform) Sample.neighbour Sample.database).2).2
      (serve (plainApi Sample.platform) Sample.socksRequest Sample.database).2 := by
  have alike : AlikeIn 2 Sample.database Sample.database :=
    ⟨fun _ _ => rfl, fun _ _ => Iff.rfl, Sample.database_consistent, Sample.database_consistent⟩
  refine workspaces_isolated Sample.platform Sample.platform_collates 2 _ _ _ _ _ _ alike
    (.first Sample.neighbour ?_ (.both Sample.socksRequest ?_ ?_ (.rest _ _)))
  · exact fun own => absurd own (by decide : (6 : Uuid) ≠ 2)
  · intro entry found
    have owned : (findSession (serve (plainApi Sample.platform) Sample.neighbour
        Sample.database).2 (Sample.platform.sha256 Sample.credentials.token)
          (Sample.runtime.clock 0)).all (fun entry => decide (entry.1.workspaceId = 2)) = true := by
      decide +kernel
    rw [found] at owned
    exact of_decide_eq_true owned
  · intro key member
    rw [List.mem_singleton.mp member]
    decide +kernel

end TraxOs.Api
