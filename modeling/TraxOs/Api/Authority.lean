import TraxOs.Api.Ledger

/-!
# Current authority

Who may not write is told so before anything else is looked at. A mutation route
authenticates, verifies the request and then asks for the current role; the
executor asks again. The denial depends on sessions, users, workspaces and
memberships only, so it tells nothing about receipts or resources.

The role is read under a lock that lasts until the commit. In every interleaving a
commit with an effect is made while the actor's role still allows it.
-/

namespace TraxOs.Api

open TraxOs.Theory

/-- Rows that say who somebody is and where they belong. -/
def Key.isIdentity : Key → Bool
  | .session _ => true
  | .user _ => true
  | .workspace _ => true
  | .membership _ _ => true
  | _ => false

/-- Two databases know the same people. -/
def SameIdentities (left right : Database) : Prop :=
  ∀ key, key.isIdentity = true → left.lookup key = right.lookup key

/-- What a mutation route answers to somebody without the authority to write. -/
def denial (platform : Platform) (db : Database) (runtime : Runtime) (credentials : Credentials) :
    ApplicationError :=
  if credentials.token.isEmpty then authenticationRequired
  else
    match findSession db (platform.sha256 credentials.token) (runtime.clock 0) with
    | none => authenticationRequired
    | some (_, csrfHash) =>
      if credentials.csrfCookie.isEmpty || credentials.csrfHeader.isEmpty ||
          credentials.csrfCookie ≠ credentials.csrfHeader ||
            platform.sha256 credentials.csrfHeader ≠ csrfHash then csrfFailed
      else journeyWriteForbidden

/-- The session, if it is one, belongs to somebody whose current role in the
workspace is missing or does not allow writing. -/
def Powerless (platform : Platform) (db : Database) (runtime : Runtime)
    (credentials : Credentials) : Prop :=
  ∀ context csrfHash, findSession db (platform.sha256 credentials.token) (runtime.clock 0) =
    some (context, csrfHash) → ¬ Authorized db context

/-- `authorize_permission` refuses whoever may not write. -/
theorem authorize_denies (platform : Platform) (db : Database) (context : AuthContext)
    (powerless : ¬ Authorized db context) :
    alone (plainApi platform) (authorizePermission context .journeyWrite) db =
      .error (.application journeyWriteForbidden) := by
  simp only [authorizePermission, Program.ask_bind]
  cases found : db.lookup (Key.membership context.workspaceId context.userId) with
  | none =>
    have ran : execute platform (.lockMembership context.scope) db =
        .ran (none : Option Role) [] [] := by
      simp only [execute, AuthContext.scope, found]
      rfl
    rw [alone_ran _ _ _ _ _ _ _ ran]
    rfl
  | some row =>
    have ran : execute platform (.lockMembership context.scope) db =
        .ran (some row.role) []
          [(.row (.membership context.workspaceId context.userId), .share)] := by
      simp only [execute, AuthContext.scope, found]
    have refused : roleAllows row.role .journeyWrite = false := by
      rw [← Bool.not_eq_true]
      exact fun allows => powerless ⟨row, found, allows⟩
    rw [alone_ran _ _ _ _ _ _ _ ran]
    simp only [refused]
    rfl

/-- `authenticate` as a function of the database. -/
theorem authenticate_alone (platform : Platform) (db : Database) (runtime : Runtime)
    (credentials : Credentials) :
    alone (plainApi platform) (authenticate platform runtime credentials) db =
      if credentials.token.isEmpty then .error (.application authenticationRequired)
      else
        match findSession db (platform.sha256 credentials.token) (runtime.clock 0) with
        | none => .error (.application authenticationRequired)
        | some found => .ok (found, db) := by
  unfold authenticate
  split
  · rfl
  · have ran : execute platform
        (.findSession (platform.sha256 credentials.token) (runtime.clock 0)) db =
          .ran (findSession db (platform.sha256 credentials.token) (runtime.clock 0)) [] [] := rfl
    rw [Program.ask_bind, alone_ran _ _ _ _ _ _ _ ran]
    cases findSession db (platform.sha256 credentials.token) (runtime.clock 0) <;> rfl

/-- The checks of a mutation route deny whoever may not write. -/
theorem mutationContext_denies (platform : Platform) (db : Database) (runtime : Runtime)
    (credentials : Credentials) (powerless : Powerless platform db runtime credentials) :
    alone (plainApi platform) (mutationContext platform runtime credentials) db =
      .error (.application (denial platform db runtime credentials)) := by
  rw [mutationContext, alone_bind, authenticate_alone, denial]
  by_cases anonymous : credentials.token.isEmpty = true
  · rw [if_pos anonymous, if_pos anonymous]
  · rw [if_neg anonymous, if_neg anonymous]
    cases found : findSession db (platform.sha256 credentials.token) (runtime.clock 0) with
    | none => rfl
    | some pair =>
      obtain ⟨context, csrfHash⟩ := pair
      simp only [requireCsrf]
      split
      · rfl
      · rw [Program.pure_eq, Program.done_bind, alone_bind,
          authorize_denies platform db context (powerless context csrfHash found)]

/-- Every mutation route denies whoever may not write, and changes nothing. -/
theorem route_denies (platform : Platform) (db : Database) (runtime : Runtime)
    (credentials : Credentials) (call : Call) (mutates : call.mutates = true)
    (powerless : Powerless platform db runtime credentials) :
    serve (plainApi platform) (.http credentials call runtime) db =
      (.error (.application (denial platform db runtime credentials)), db) := by
  have failed : alone (plainApi platform) (program platform (.http credentials call runtime)) db =
      .error (.application (denial platform db runtime credentials)) := by
    simp only [program, routeContext, mutates, if_true]
    rw [alone_bind, mutationContext_denies platform db runtime credentials powerless]
  rw [serve, show (plainApi platform).program = program platform from rfl, failed]

/-- The executor denies whoever may not write, before it looks for a receipt. -/
theorem executor_denies (platform : Platform) (db : Database) (context : AuthContext)
    (commandId : Uuid) (commandType : String) (commandVersion : Nat)
    (definition : CommandDefinition) (payload : JourneyUpdateCommandPayload) (origin : Origin)
    (runtime : Runtime) (known : resolveCommand commandType commandVersion = .ok definition)
    (powerless : ¬ Authorized db context) :
    serve (plainApi platform)
        (.command context commandId commandType commandVersion payload origin runtime) db =
      (.error (.application journeyWriteForbidden), db) := by
  obtain ⟨_, _, rfl⟩ := resolveCommand_ok _ _ definition known
  have failed : alone (plainApi platform) (program platform
      (.command context commandId commandType commandVersion payload origin runtime)) db =
        .error (.application journeyWriteForbidden) := by
    simp only [program, executeJourneyUpdate, known, operation]
    rw [alone_bind, alone_bind, alone_bind]
    rw [show journeyUpdateV1.permission = Permission.journeyWrite from rfl,
      authorize_denies platform db context powerless]
  rw [serve, show (plainApi platform).program = program platform from rfl, failed]

/-- The personal workspaces of a user depend on identities only. -/
theorem personalWorkspaces_same (left right : Database) (same : SameIdentities left right)
    (userId : Uuid) : personalWorkspaces left userId = personalWorkspaces right userId := by
  have workspaces : ∀ id, left.lookup (Key.workspace id) = right.lookup (Key.workspace id) :=
    fun id => same _ rfl
  have ordering : TotalComparison fun one two : Nat × Uuid × Role => one.1 < two.1 ||
      (one.1 == two.1 && one.2.1.toNat ≤ two.2.1.toNat) := by
    constructor
    · intro one two
      simp only [Bool.or_eq_true, Bool.and_eq_true, decide_eq_true_eq, beq_iff_eq]
      omega
    · intro one two three
      simp only [Bool.or_eq_true, Bool.and_eq_true, decide_eq_true_eq, beq_iff_eq]
      omega
  simp only [personalWorkspaces, workspaces]
  apply sortBy_congr _ ordering
  · apply collect_perm
    intro key row picked
    apply same
    cases key with
    | membership workspaceId memberId => rfl
    | _ => cases picked
  · intro one oneFound two twoFound oneFirst twoFirst
    rw [mem_collect] at oneFound twoFound
    obtain ⟨oneKey, oneRow, onePresent, onePicked⟩ := oneFound
    obtain ⟨twoKey, twoRow, twoPresent, twoPicked⟩ := twoFound
    cases oneKey with
    | membership oneWorkspace oneMember =>
      cases twoKey with
      | membership twoWorkspace twoMember =>
        simp only at onePicked twoPicked
        obtain ⟨oneOwn, oneBranch⟩ := Option.ite_none_right_eq_some.mp onePicked
        obtain ⟨twoOwn, twoBranch⟩ := Option.ite_none_right_eq_some.mp twoPicked
        obtain rfl : oneMember = twoMember := oneOwn.trans twoOwn.symm
        cases oneOf : right.lookup (Key.workspace oneWorkspace) with
        | none =>
          rw [oneOf] at oneBranch
          cases oneBranch
        | some first =>
          cases twoOf : right.lookup (Key.workspace twoWorkspace) with
          | none =>
            rw [twoOf] at twoBranch
            cases twoBranch
          | some second =>
            rw [oneOf] at oneBranch
            rw [twoOf] at twoBranch
            obtain ⟨_, oneSame⟩ := Option.ite_none_right_eq_some.mp oneBranch
            obtain ⟨_, twoSame⟩ := Option.ite_none_right_eq_some.mp twoBranch
            obtain rfl := Option.some.inj oneSame
            obtain rfl := Option.some.inj twoSame
            obtain rfl : oneWorkspace = twoWorkspace := by
              apply BitVec.eq_of_toNat_eq
              simp only [Bool.or_eq_true, Bool.and_eq_true, decide_eq_true_eq, beq_iff_eq]
                at oneFirst twoFirst
              omega
            obtain rfl : oneRow = twoRow := Option.some.inj (onePresent.symm.trans twoPresent)
            obtain rfl : first = second := Option.some.inj (oneOf.symm.trans twoOf)
            rfl
      | _ => cases twoPicked
    | _ => cases onePicked

/-- So does what a session yields. -/
theorem findSession_same (left right : Database) (same : SameIdentities left right)
    (tokenHash : Text) (now : Timestamp) :
    findSession left tokenHash now = findSession right tokenHash now := by
  simp only [findSession]
  rw [same (Key.session tokenHash) rfl]
  cases right.lookup (Key.session tokenHash) with
  | none => rfl
  | some session =>
    simp only [same (Key.user session.userId) rfl,
      personalWorkspaces_same left right same session.userId]

/-- The denial depends on identities only. -/
theorem denial_same (platform : Platform) (left right : Database)
    (same : SameIdentities left right) (runtime : Runtime) (credentials : Credentials) :
    denial platform left runtime credentials = denial platform right runtime credentials := by
  rw [denial, denial, findSession_same left right same]

/-- A denial is always 401 or 403. -/
theorem denial_status (platform : Platform) (db : Database) (runtime : Runtime)
    (credentials : Credentials) :
    (denial platform db runtime credentials).statusCode = 401 ∨
      (denial platform db runtime credentials).statusCode = 403 := by
  unfold denial
  split
  · exact Or.inl rfl
  · split
    · exact Or.inl rfl
    · split
      · exact Or.inr rfl
      · exact Or.inr rfl

section Runs

/-- Everything that a commit changed among journeys and receipts belongs to the
context's workspace and actor. -/
structure Within (context : AuthContext) (before after : Database) : Prop where
  journeys : ∀ journeyId (row : StoredJourney),
    before.lookup (Key.journey journeyId) = some row ∨
      after.lookup (Key.journey journeyId) = some row →
        after.lookup (Key.journey journeyId) ≠ before.lookup (Key.journey journeyId) →
          row.1.workspaceId = context.workspaceId
  receipts : ∀ workspaceId actorUserId commandId,
    after.lookup (Key.receipt workspaceId actorUserId commandId) ≠
      before.lookup (Key.receipt workspaceId actorUserId commandId) →
        workspaceId = context.workspaceId ∧ actorUserId = context.userId

/-- Nothing changed. -/
theorem within_spared (context : AuthContext) (before after : Database)
    (journeys : ∀ journeyId,
      after.lookup (Key.journey journeyId) = before.lookup (Key.journey journeyId))
    (receipts : ∀ workspaceId actorUserId commandId,
      after.lookup (Key.receipt workspaceId actorUserId commandId) =
        before.lookup (Key.receipt workspaceId actorUserId commandId)) :
    Within context before after := by
  constructor
  · intro journeyId row _ changed
    exact absurd (journeys journeyId) changed
  · intro workspaceId actorUserId commandId changed
    exact absurd (receipts workspaceId actorUserId commandId) changed

/-- Only one journey of the workspace changed. -/
theorem within_journey (context : AuthContext) (before after : Database) (journeyId : Uuid)
    (spared : ∀ key, key.isPart = false → key ≠ Key.journey journeyId →
      after.lookup key = before.lookup key)
    (old : ∀ row : StoredJourney, before.lookup (Key.journey journeyId) = some row →
      row.1.workspaceId = context.workspaceId)
    (new : ∀ row : StoredJourney, after.lookup (Key.journey journeyId) = some row →
      row.1.workspaceId = context.workspaceId) : Within context before after := by
  constructor
  · intro other row found changed
    by_cases same : other = journeyId
    · subst same
      rcases found with before | after
      · exact old row before
      · exact new row after
    · exact absurd (spared _ rfl fun clash => same (Key.journey.inj clash)) changed
  · intro workspaceId actorUserId commandId changed
    exact absurd (spared _ rfl (by simp)) changed

/-- A commit with an effect, unless it is one of an operation without a route or an
operator's, is made for an actor whose current role allows it. -/
theorem commit_authorized (platform : Platform) (anchor : Anchor) (request : Request)
    (reply : Reply) (before after : Database)
    (committed : Committed platform anchor request reply before after)
    (effective : after ≠ before) (routed : request.isOperation = false)
    (served : ∀ workspaceId userId role, request ≠ .administer workspaceId userId role) :
    ∃ context, request.actsFor context ∧ request.signedBy platform anchor.sessions context ∧
      Authorized before context ∧ Within context before after := by
  have isRoute : request.commandCall = none → request.isHttp = true := by
    intro noCommand
    cases request with
    | http => rfl
    | operation => cases routed
    | command => cases noCommand
    | administer workspaceId userId role => exact absurd rfl (served workspaceId userId role)
  have noCommand : request.partsOf ≠ none ∨ request.creates ≠ none ∨ request.deletes ≠ none →
      request.commandCall = none := by
    intro other
    rw [← Option.not_isSome_iff_eq_none]
    intro executes
    obtain ⟨noParts, noCreation, noDeletion⟩ := request.command_apart executes
    rcases other with parts | creates | deletes
    · exact parts noParts
    · exact creates noCreation
    · exact deletes noDeletion
  cases committed with
  | quiet unchanged => exact absurd unchanged effective
  | changedParts context journeyId target acts signed authorized spared touched =>
    have http : request.isHttp = true := isRoute (noCommand (Or.inl (by simp [target])))
    refine ⟨context, acts, signed, authorized http, ?_⟩
    rcases touched with ⟨row, stored, now, found, owner, written, counted⟩ | ⟨_, unchanged⟩
    · apply within_journey context before after journeyId spared
      · intro other otherFound
        obtain rfl : row = other := Option.some.inj (found.symm.trans otherFound)
        exact owner
      · intro other otherFound
        obtain rfl : stored = other := Option.some.inj (written.symm.trans otherFound)
        rw [counted]
        exact owner
    · apply within_spared
      · intro other
        by_cases same : other = journeyId
        · rw [same, unchanged]
        · exact spared _ rfl fun clash => same (Key.journey.inj clash)
      · exact fun workspaceId actorUserId commandId => spared _ rfl (by simp)
  | created context journeyId stored creates acts signed authorized free written fresh inWorkspace
      spared =>
    have http : request.isHttp = true := isRoute (noCommand (Or.inr (Or.inl (by simp [creates]))))
    refine ⟨context, acts, signed, authorized http, ?_⟩
    apply within_journey context before after journeyId (fun key _ other => spared key other)
    · intro row found
      rw [free] at found
      cases found
    · intro row found
      obtain rfl : stored = row := Option.some.inj (written.symm.trans found)
      exact inWorkspace
  | deleted context journeyId row deletes acts signed authorized found inWorkspace gone spared =>
    have http : request.isHttp = true := isRoute (noCommand (Or.inr (Or.inr (by simp [deletes]))))
    refine ⟨context, acts, signed, authorized http, ?_⟩
    apply within_journey context before after journeyId spared
    · intro other otherFound
      obtain rfl : row = other := Option.some.inj (found.symm.trans otherFound)
      exact inWorkspace
    · intro other otherFound
      rw [gone] at otherFound
      cases otherFound
  | applied command explained signed told =>
    refine ⟨command.context, explained.acts, signed, explained.authorized, ?_, ?_⟩
    · intro journeyId row found changed
      by_cases same : journeyId = command.journeyId
      · subst same
        rcases found with found | found
        · obtain rfl : command.before = row :=
            Option.some.inj (explained.journeyBefore.symm.trans found)
          exact explained.inWorkspace
        · obtain rfl : command.after = row :=
            Option.some.inj (explained.journeyAfter.symm.trans found)
          rw [explained.revised]
          exact explained.inWorkspace
      · refine absurd (explained.spared _ ?_ (by simp) (by simp) (by simp)) changed
        exact fun clash => same (Key.journey.inj clash)
    · intro workspaceId actorUserId commandId changed
      by_contra other
      refine changed (explained.spared _ (by simp) ?_ (by simp) (by simp))
      intro clash
      obtain ⟨workspace, actor, _⟩ := Key.receipt.inj clash
      exact other ⟨workspace, actor⟩
  | rejected command explained signed notApplied =>
    refine ⟨command.context, explained.acts, signed, explained.authorized, ?_, ?_⟩
    · intro journeyId row found changed
      exact absurd (explained.spared _ (by simp)) changed
    · intro workspaceId actorUserId commandId changed
      by_contra other
      refine changed (explained.spared _ ?_)
      intro clash
      obtain ⟨workspace, actor, _⟩ := Key.receipt.inj clash
      exact other ⟨workspace, actor⟩
  | administered workspaceId userId role administers written spared =>
    exact absurd administers (served workspaceId userId role)

/-- Only an operator changes a membership. -/
theorem commit_keeps_membership (platform : Platform) (anchor : Anchor) (request : Request)
    (reply : Reply) (before after : Database)
    (committed : Committed platform anchor request reply before after)
    (workspaceId userId : Uuid) (other : ∀ role, request ≠ .administer workspaceId userId role) :
    after.lookup (Key.membership workspaceId userId) =
      before.lookup (Key.membership workspaceId userId) := by
  cases committed with
  | quiet unchanged => rw [unchanged]
  | changedParts _ _ _ _ _ _ spared => exact spared _ rfl (by simp)
  | created _ _ _ _ _ _ _ _ _ _ _ spared => exact spared _ (by simp)
  | deleted _ _ _ _ _ _ _ _ _ _ spared => exact spared _ rfl (by simp)
  | applied command explained => exact explained.spared _ (by simp) (by simp) (by simp) (by simp)
  | rejected command explained => exact explained.spared _ (by simp)
  | administered workspace user role administers _ spared =>
    apply spared
    intro clash
    obtain ⟨rfl, rfl⟩ := Key.membership.inj clash
    exact other role administers

/-- Until the operator's next change a membership stays what it was made. -/
theorem linked_keeps_membership (platform : Platform) (anchor : Anchor) (first last : Database)
    (history : History) (linked : Linked (Committed platform anchor) first history last)
    (workspaceId userId : Uuid)
    (others : ∀ commit ∈ history, ∀ role,
      commit.request ≠ .administer workspaceId userId role) :
    last.lookup (Key.membership workspaceId userId) =
      first.lookup (Key.membership workspaceId userId) := by
  induction linked with
  | nil => rfl
  | snoc history commit earlier committed inductionHypothesis =>
    rw [commit_keeps_membership platform anchor commit.request commit.reply commit.before
      commit.after committed workspaceId userId (others commit (by simp))]
    exact inductionHypothesis fun other member => others other (List.mem_append_left _ member)

/-- A committed state from which on the actor may not write in the workspace: the
membership is missing or its role does not allow it, and no operator changes that
before the commit at an index. -/
def DemotedBefore (db : Database) (history : History) (workspaceId userId : Uuid) (later : Nat) :
    Prop :=
  ∃ earlier state, earlier ≤ later ∧ (states db history)[earlier]? = some state ∧
    (∀ row : Membership, state.lookup (Key.membership workspaceId userId) = some row →
      roleAllows row.role .journeyWrite = false) ∧
      ∀ index between, earlier ≤ index → index < later → history[index]? = some between →
        ∀ role, between.request ≠ .administer workspaceId userId role

/-- Then the actor has no authority when that commit is made. -/
theorem demoted_unauthorized (platform : Platform) (anchor : Anchor) (db last : Database)
    (history : History) (linked : Linked (Committed platform anchor) db history last)
    (later : Nat) (commit : Commit Row Request Reply) (here : history[later]? = some commit)
    (context : AuthContext)
    (demoted : DemotedBefore db history context.workspaceId context.userId later) :
    ¬ Authorized commit.before context := by
  rintro ⟨row, found, allows⟩
  obtain ⟨earlier, state, ordered, there, powerless, untouched⟩ := demoted
  obtain ⟨between, inside⟩ := linked.between earlier later state commit.before ordered there
    (linked.around later commit here).1
  have kept := linked_keeps_membership platform anchor state commit.before _ between
    context.workspaceId context.userId (by
      intro other member role
      obtain ⟨index, lower, upper, place⟩ := inside other member
      exact untouched index other lower upper place role)
  rw [found] at kept
  rw [powerless row kept.symm] at allows
  cases allows

end Runs

/-- Current authority masks everything: what a powerless actor is told, and that no
commit takes effect without authority. -/
structure AuthorityMasks (platform : Platform) (db : Database) : Prop where
  routes : ∀ credentials call runtime, call.mutates = true →
    Powerless platform db runtime credentials →
      serve (plainApi platform) (.http credentials call runtime) db =
        (.error (.application (denial platform db runtime credentials)), db) ∧
          ((denial platform db runtime credentials).statusCode = 401 ∨
            (denial platform db runtime credentials).statusCode = 403)
  executor : ∀ context commandId commandType commandVersion definition payload origin runtime,
    resolveCommand commandType commandVersion = .ok definition → ¬ Authorized db context →
      serve (plainApi platform)
          (.command context commandId commandType commandVersion payload origin runtime) db =
        (.error (.application journeyWriteForbidden), db)
  indifferent : ∀ other, SameIdentities other db → ∀ runtime credentials,
    denial platform other runtime credentials = denial platform db runtime credentials
  held : ∀ last, Run (plainApi platform) (fun _ _ => True) (System.initial db) last →
    ∀ commit ∈ last.history, commit.after ≠ commit.before → commit.request.isOperation = false →
      (∀ workspaceId userId role, commit.request ≠ .administer workspaceId userId role) →
        ∃ context, commit.request.actsFor context ∧
          commit.request.signedBy platform (sessionsOf db) context ∧
            Authorized commit.before context ∧ Within context commit.before commit.after
  demotedCommand : ∀ last, Run (plainApi platform) (fun _ _ => True) (System.initial db) last →
    ∀ later commit, last.history[later]? = some commit →
      ∀ context commandId commandType commandVersion payload origin runtime,
        commit.request =
            .command context commandId commandType commandVersion payload origin runtime →
          DemotedBefore db last.history context.workspaceId context.userId later →
            commit.after = commit.before
  demotedRoute : ∀ last, Run (plainApi platform) (fun _ _ => True) (System.initial db) last →
    ∀ later commit, last.history[later]? = some commit → ∀ credentials call runtime session,
      commit.request = .http credentials call runtime →
        sessionsOf db (platform.sha256 credentials.token) = some session → ∀ workspaceId,
          DemotedBefore db last.history workspaceId session.userId later →
            (∀ journeyId (row : StoredJourney), row.1.workspaceId = workspaceId →
              (commit.before.lookup (Key.journey journeyId) = some row ↔
                commit.after.lookup (Key.journey journeyId) = some row)) ∧
              ∀ commandId,
                commit.after.lookup (Key.receipt workspaceId session.userId commandId) =
                  commit.before.lookup (Key.receipt workspaceId session.userId commandId)

/-- In every database and every run from it, current authority masks everything. -/
theorem current_authority_masks (platform : Platform) (db : Database) :
    AuthorityMasks platform db := by
  have held : ∀ last, Run (plainApi platform) (fun _ _ => True) (System.initial db) last →
      ∀ commit ∈ last.history, commit.after ≠ commit.before →
        commit.request.isOperation = false →
          (∀ workspaceId userId role, commit.request ≠ .administer workspaceId userId role) →
            ∃ context, commit.request.actsFor context ∧
              commit.request.signedBy platform (sessionsOf db) context ∧
                Authorized commit.before context ∧ Within context commit.before commit.after := by
    intro last run commit member effective routed served
    obtain ⟨index, here⟩ := List.getElem?_of_mem member
    have linked := history_committed platform db last run
    exact commit_authorized platform _ commit.request commit.reply commit.before commit.after
      (linked.around index commit here).2.2 effective routed served
  refine ⟨?_, ?_, ?_, held, ?_, ?_⟩
  · intro credentials call runtime mutates powerless
    exact ⟨route_denies platform db runtime credentials call mutates powerless,
      denial_status platform db runtime credentials⟩
  · intro context commandId commandType commandVersion definition payload origin runtime known
      powerless
    exact executor_denies platform db context commandId commandType commandVersion definition
      payload origin runtime known powerless
  · intro other same runtime credentials
    exact denial_same platform other db same runtime credentials
  · intro last run later commit here context commandId commandType commandVersion payload origin
      runtime same demoted
    by_contra effective
    obtain ⟨actor, acts, _, authorized, _⟩ := held last run commit (List.mem_of_getElem? here)
      effective (by rw [same]; rfl) (by rw [same]; simp)
    rw [same] at acts
    obtain rfl : context = actor := acts
    exact demoted_unauthorized platform _ db last.db last.history
      (history_committed platform db last run) later commit here context demoted authorized
  · intro last run later commit here credentials call runtime session same presented workspaceId
      demoted
    have spared : ∀ key : Key, (∀ context, Within context commit.before commit.after →
        context.userId = session.userId → commit.after.lookup key ≠ commit.before.lookup key →
          context.workspaceId = workspaceId) →
            commit.after.lookup key = commit.before.lookup key := by
      intro key placed
      by_contra changed
      have effective : commit.after ≠ commit.before := fun unchanged => changed (by rw [unchanged])
      obtain ⟨actor, _, signed, authorized, within⟩ := held last run commit
        (List.mem_of_getElem? here) effective (by rw [same]; rfl) (by rw [same]; simp)
      rw [same] at signed
      obtain ⟨mine, found, owner⟩ := signed
      obtain rfl : session = mine := Option.some.inj (presented.symm.trans found)
      have place := placed actor within owner.symm changed
      rw [← place, owner] at demoted
      exact demoted_unauthorized platform _ db last.db last.history
        (history_committed platform db last run) later commit here actor demoted authorized
    constructor
    · intro journeyId row inside
      constructor
      · intro found
        rw [← found]
        apply spared
        intro context within _ changed
        exact (within.journeys journeyId row (Or.inl found) changed).symm.trans inside
      · intro found
        rw [← found]
        symm
        apply spared
        intro context within _ changed
        exact (within.journeys journeyId row (Or.inr found) changed).symm.trans inside
    · intro commandId
      apply spared
      intro context within _ changed
      exact (within.receipts _ _ _ changed).1.symm

end TraxOs.Api
