import TraxOs.Theory.RelyGuarantee
import TraxOs.Theory.Results
import TraxOs.PowerSync.Relations

/-!
# The projection of grants is exact

Two databases agree when the join finds the same in them. A transaction that changes what
the join finds rebuilds the grants before its next statement, and holds their lock from
then on, so that no other transaction commits such a change before it. The exception is an
UPDATE that gives resources new identifiers and sets no column of their scope: its trigger
is not defined for that.
-/

namespace TraxOs.PowerSync.Relations

open TraxOs.Theory

section Join

/-- What the join reads of the tables. -/
def userActive (db : Database) (userId : Uuid) : Option Bool :=
  (db.lookup (Key.user userId)).map User.active

def workspaceActive (db : Database) (workspaceId userId : Uuid) : Option Bool :=
  (db.lookup (Key.workspaceMembership workspaceId userId)).map Membership.active

def journeyActive (db : Database) (workspaceId journeyId userId : Uuid) : Option Bool :=
  (db.lookup (Key.journeyMembership workspaceId journeyId userId)).map Membership.active

def partyActive (db : Database) (workspaceId journeyId partyId userId : Uuid) : Option Bool :=
  (db.lookup (Key.partyMembership workspaceId journeyId partyId userId)).map Membership.active

def scopeOf (db : Database) (id : Uuid) : Option Scope :=
  (db.lookup (Key.resource id)).map Resource.scope

/-- The relational join: resources with the users of their journey, and resources for a
party with the users of exactly that party. -/
inductive Projects (db : Database) : Grant → Prop where
  | journey (id userId : Uuid) (scope : Scope) (user workspace journey : Bool)
      (resource : scopeOf db id = some scope) (audience : scope.audience = .journey)
      (member : journeyActive db scope.workspaceId scope.journeyId userId = some journey)
      (workspaceMember : workspaceActive db scope.workspaceId userId = some workspace)
      (known : userActive db userId = some user) :
      Projects db
        { resourceId := id
          userId := userId
          grantPath := journeyPath
          workspaceId := scope.workspaceId
          journeyId := scope.journeyId
          partyId := none
          userActive := user
          workspaceActive := workspace
          journeyActive := journey
          partyActive := true }
  | party (id userId partyId : Uuid) (scope : Scope) (user workspace journey party : Bool)
      (resource : scopeOf db id = some scope) (audience : scope.audience = .party)
      (exact : scope.partyId = some partyId)
      (partyMember :
        partyActive db scope.workspaceId scope.journeyId partyId userId = some party)
      (member : journeyActive db scope.workspaceId scope.journeyId userId = some journey)
      (workspaceMember : workspaceActive db scope.workspaceId userId = some workspace)
      (known : userActive db userId = some user) :
      Projects db
        { resourceId := id
          userId := userId
          grantPath := partyPath partyId
          workspaceId := scope.workspaceId
          journeyId := scope.journeyId
          partyId := some partyId
          userActive := user
          workspaceActive := workspace
          journeyActive := journey
          partyActive := party }

/-- `sync_grants` holds the rows of the join. -/
def Exact (db : Database) : Prop := ∀ grant, grant ∈ grantsOf db ↔ Projects db grant

/-- An exact relationship between a user and a resource whose parts are all active. -/
inductive Related (db : Database) (userId resourceId : Uuid) : Prop where
  | journey (scope : Scope) (resource : scopeOf db resourceId = some scope)
      (audience : scope.audience = .journey)
      (member : journeyActive db scope.workspaceId scope.journeyId userId = some true)
      (workspaceMember : workspaceActive db scope.workspaceId userId = some true)
      (known : userActive db userId = some true)
  | party (scope : Scope) (partyId : Uuid) (resource : scopeOf db resourceId = some scope)
      (audience : scope.audience = .party) (exact : scope.partyId = some partyId)
      (partyMember : partyActive db scope.workspaceId scope.journeyId partyId userId = some true)
      (member : journeyActive db scope.workspaceId scope.journeyId userId = some true)
      (workspaceMember : workspaceActive db scope.workspaceId userId = some true)
      (known : userActive db userId = some true)

/-- The rows for the journey, as they are computed. -/
theorem mem_journeyGrants (db : Database) (id : Uuid) (scope : Scope) (grant : Grant) :
    grant ∈ collect (journeyGrant db id scope) db ↔
      ∃ userId user workspace journey,
        journeyActive db scope.workspaceId scope.journeyId userId = some journey ∧
        workspaceActive db scope.workspaceId userId = some workspace ∧
        userActive db userId = some user ∧
        grant = ⟨id, userId, journeyPath, scope.workspaceId, scope.journeyId, none, user, workspace,
          journey, true⟩ := by
  simp only [mem_collect, journeyActive, workspaceActive, userActive, Option.map_eq_some_iff]
  constructor
  · rintro ⟨key, row, found, picked⟩
    cases key with
    | journeyMembership workspaceId journeyId userId =>
      simp only [journeyGrant] at picked
      split at picked
      · next here =>
        obtain ⟨rfl, rfl⟩ := here
        split at picked
        · next workspaceMembership user one two =>
          exact ⟨userId, user.active, workspaceMembership.active, row.active, ⟨row, found, rfl⟩,
            ⟨workspaceMembership, one, rfl⟩, ⟨user, two, rfl⟩, (Option.some.inj picked).symm⟩
        · cases picked
      · cases picked
    | _ => cases picked
  · rintro ⟨userId, _, _, _, ⟨row, found, rfl⟩, ⟨membership, one, rfl⟩, ⟨user, two, rfl⟩, rfl⟩
    refine ⟨.journeyMembership scope.workspaceId scope.journeyId userId, row, found, ?_⟩
    simp only [journeyGrant, and_self, if_true, one, two]

/-- The rows for the party, as they are computed. -/
theorem mem_partyGrants (db : Database) (id : Uuid) (scope : Scope) (grant : Grant) :
    grant ∈ collect (partyGrant db id scope) db ↔
      ∃ userId partyId user workspace journey party, scope.partyId = some partyId ∧
        partyActive db scope.workspaceId scope.journeyId partyId userId = some party ∧
        journeyActive db scope.workspaceId scope.journeyId userId = some journey ∧
        workspaceActive db scope.workspaceId userId = some workspace ∧
        userActive db userId = some user ∧
        grant = ⟨id, userId, partyPath partyId, scope.workspaceId, scope.journeyId, some partyId, user,
          workspace, journey, party⟩ := by
  simp only [mem_collect, partyActive, journeyActive, workspaceActive, userActive,
    Option.map_eq_some_iff]
  constructor
  · rintro ⟨key, row, found, picked⟩
    cases key with
    | partyMembership workspaceId journeyId partyId userId =>
      simp only [partyGrant] at picked
      split at picked
      · next here =>
        obtain ⟨rfl, rfl, exact⟩ := here
        split at picked
        · next journeyMembership workspaceMembership user one two three =>
          exact ⟨userId, partyId, user.active, workspaceMembership.active, journeyMembership.active,
            row.active, exact.symm, ⟨row, found, rfl⟩, ⟨journeyMembership, one, rfl⟩,
            ⟨workspaceMembership, two, rfl⟩, ⟨user, three, rfl⟩, (Option.some.inj picked).symm⟩
        · cases picked
      · cases picked
    | _ => cases picked
  · rintro ⟨userId, partyId, _, _, _, _, exact, ⟨row, found, rfl⟩, ⟨membership, one, rfl⟩,
      ⟨workspaceMembership, two, rfl⟩, ⟨user, three, rfl⟩, rfl⟩
    refine ⟨.partyMembership scope.workspaceId scope.journeyId partyId userId, row, found, ?_⟩
    simp only [partyGrant, exact, and_self, if_true, one, two, three]

/-- The SELECT computes the join. -/
theorem mem_joinGrants (db : Database) (grant : Grant) : grant ∈ joinGrants db ↔ Projects db grant := by
  have located : ∀ id scope, (id, scope) ∈ collect resourceOf db ↔ scopeOf db id = some scope := by
    intro id scope
    simp only [mem_collect, scopeOf, Option.map_eq_some_iff]
    constructor
    · rintro ⟨key, row, found, picked⟩
      cases key with
      | resource id =>
        cases picked
        exact ⟨row, found, rfl⟩
      | _ => cases picked
    · rintro ⟨row, found, rfl⟩
      exact ⟨.resource id, row, found, rfl⟩
  simp only [joinGrants, List.mem_flatMap, Prod.exists, located]
  constructor
  · rintro ⟨id, scope, resource, picked⟩
    cases audience : scope.audience with
    | journey =>
      rw [audience] at picked
      obtain ⟨userId, user, workspace, journey, member, workspaceMember, known, rfl⟩ :=
        (mem_journeyGrants db id scope grant).mp picked
      exact .journey id userId scope user workspace journey resource audience member workspaceMember
        known
    | party =>
      rw [audience] at picked
      obtain ⟨userId, partyId, user, workspace, journey, party, exact, partyMember, member,
        workspaceMember, known, rfl⟩ := (mem_partyGrants db id scope grant).mp picked
      exact .party id userId partyId scope user workspace journey party resource audience exact
        partyMember member workspaceMember known
  · rintro (⟨id, userId, scope, user, workspace, journey, resource, audience, member, workspaceMember,
      known⟩ | ⟨id, userId, partyId, scope, user, workspace, journey, party, resource, audience, exact,
      partyMember, member, workspaceMember, known⟩)
    · refine ⟨id, scope, resource, ?_⟩
      rw [audience]
      exact (mem_journeyGrants db id scope _).mpr ⟨userId, user, workspace, journey, member,
        workspaceMember, known, rfl⟩
    · refine ⟨id, scope, resource, ?_⟩
      rw [audience]
      exact (mem_partyGrants db id scope _).mpr ⟨userId, partyId, user, workspace, journey, party,
        exact, partyMember, member, workspaceMember, known, rfl⟩

/-- What the SELECT computed is exact. -/
theorem exact_of_join (db : Database) (same : grantsOf db = joinGrants db) : Exact db := by
  intro grant
  rw [same, mem_joinGrants]

/-- Some active grant of a user is for a resource exactly when they are related. -/
theorem active_grant_iff (db : Database) (exact : Exact db) (userId resourceId : Uuid) :
    (∃ grant ∈ grantsOf db, grant.userId = userId ∧ grant.resourceId = resourceId ∧
      grant.active = true) ↔ Related db userId resourceId := by
  constructor
  · rintro ⟨grant, stored, rfl, rfl, active⟩
    simp only [Grant.active, Bool.and_eq_true] at active
    obtain ⟨⟨⟨user, workspace⟩, journey⟩, party⟩ := active
    cases (exact grant).mp stored with
    | journey id userId scope _ _ _ resource audience member workspaceMember known =>
      subst user workspace journey
      exact .journey scope resource audience member workspaceMember known
    | party id userId partyId scope _ _ _ _ resource audience own partyMember member workspaceMember
        known =>
      subst user workspace journey party
      exact .party scope partyId resource audience own partyMember member workspaceMember known
  · rintro (⟨scope, resource, audience, member, workspaceMember, known⟩ |
      ⟨scope, partyId, resource, audience, own, partyMember, member, workspaceMember, known⟩)
    · exact ⟨_, (exact _).mpr (.journey resourceId userId scope true true true resource audience member
        workspaceMember known), rfl, rfl, rfl⟩
    · exact ⟨_, (exact _).mpr (.party resourceId userId partyId scope true true true true resource
        audience own partyMember member workspaceMember known), rfl, rfl, rfl⟩

/-- As many of the resources are granted as there are when each of them is. -/
theorem hasActiveGrant_iff (db : Database) (userId : Uuid) (resourceIds : List Uuid)
    (distinct : resourceIds.Nodup) :
    hasActiveGrant db userId resourceIds = true ↔ ∀ resourceId ∈ resourceIds,
      ∃ grant ∈ grantsOf db, grant.userId = userId ∧ grant.resourceId = resourceId ∧
        grant.active = true := by
  have granted : ∀ resourceId, resourceId ∈ (((grantsOf db).filter fun grant =>
      decide (grant.userId = userId) && resourceIds.contains grant.resourceId && grant.active).map
        Grant.resourceId).dedup ↔ resourceId ∈ resourceIds ∧ ∃ grant ∈ grantsOf db,
          grant.userId = userId ∧ grant.resourceId = resourceId ∧ grant.active = true := by
    intro resourceId
    simp only [List.mem_dedup, List.mem_map, List.mem_filter, Bool.and_eq_true, decide_eq_true_eq,
      List.contains_iff_mem]
    constructor
    · rintro ⟨grant, ⟨stored, ⟨user, wanted⟩, active⟩, rfl⟩
      exact ⟨wanted, grant, stored, user, rfl, active⟩
    · rintro ⟨wanted, grant, stored, user, rfl, active⟩
      exact ⟨grant, ⟨stored, ⟨user, wanted⟩, active⟩, rfl⟩
  have unique := List.nodup_dedup (((grantsOf db).filter fun grant =>
    decide (grant.userId = userId) && resourceIds.contains grant.resourceId && grant.active).map
      Grant.resourceId)
  rw [hasActiveGrant, decide_eq_true_iff]
  constructor
  · intro counted resourceId wanted
    have inside : _ ⊆ resourceIds := fun resourceId there => ((granted resourceId).mp there).1
    have all := (List.subperm_of_subset unique inside).perm_of_length_le counted.ge
    exact ((granted resourceId).mp (all.mem_iff.mpr wanted)).2
  · intro each
    refine ((List.perm_ext_iff_of_nodup unique distinct).mpr fun resourceId => ?_).length_eq
    rw [granted]
    exact ⟨fun both => both.1, fun wanted => ⟨wanted, each resourceId wanted⟩⟩

end Join

section Agreement

/-- The join finds the same in two databases. -/
structure Agree (left right : Database) : Prop where
  users : ∀ userId, userActive left userId = userActive right userId
  workspaceMemberships : ∀ workspaceId userId,
    workspaceActive left workspaceId userId = workspaceActive right workspaceId userId
  journeyMemberships : ∀ workspaceId journeyId userId,
    journeyActive left workspaceId journeyId userId = journeyActive right workspaceId journeyId userId
  partyMemberships : ∀ workspaceId journeyId partyId userId,
    partyActive left workspaceId journeyId partyId userId =
      partyActive right workspaceId journeyId partyId userId
  resources : ∀ id, scopeOf left id = scopeOf right id

variable {first second third : Database}

theorem Agree.refl (db : Database) : Agree db db :=
  ⟨fun _ => rfl, fun _ _ => rfl, fun _ _ _ => rfl, fun _ _ _ _ => rfl, fun _ => rfl⟩

theorem Agree.symm (agree : Agree first second) : Agree second first :=
  ⟨fun _ => (agree.users _).symm, fun _ _ => (agree.workspaceMemberships _ _).symm,
    fun _ _ _ => (agree.journeyMemberships _ _ _).symm,
    fun _ _ _ _ => (agree.partyMemberships _ _ _ _).symm, fun _ => (agree.resources _).symm⟩

theorem Agree.trans (left : Agree first second) (right : Agree second third) : Agree first third :=
  ⟨fun _ => (left.users _).trans (right.users _),
    fun _ _ => (left.workspaceMemberships _ _).trans (right.workspaceMemberships _ _),
    fun _ _ _ => (left.journeyMemberships _ _ _).trans (right.journeyMemberships _ _ _),
    fun _ _ _ _ => (left.partyMemberships _ _ _ _).trans (right.partyMemberships _ _ _ _),
    fun _ => (left.resources _).trans (right.resources _)⟩

/-- The tables of the join. -/
def Table.joined : Table → Bool
  | .users | .workspaceMemberships | .journeyMemberships | .partyMemberships | .resources => true
  | .workspaces | .journeys | .parties | .syncGrants => false

/-- Databases with the same rows in the tables of the join agree. -/
theorem agree_of_lookup (same : ∀ key : Key, key.table.joined = true →
    first.lookup key = second.lookup key) : Agree first second where
  users userId := congrArg (Option.map User.active) (same (.user userId) rfl)
  workspaceMemberships workspaceId userId :=
    congrArg (Option.map Membership.active) (same (.workspaceMembership workspaceId userId) rfl)
  journeyMemberships workspaceId journeyId userId :=
    congrArg (Option.map Membership.active) (same (.journeyMembership workspaceId journeyId userId) rfl)
  partyMemberships workspaceId journeyId partyId userId :=
    congrArg (Option.map Membership.active)
      (same (.partyMembership workspaceId journeyId partyId userId) rfl)
  resources id := congrArg (Option.map Resource.scope) (same (.resource id) rfl)

/-- The join of databases that agree is the same. -/
theorem projects_of_agree (agree : Agree first second) (grant : Grant)
    (projects : Projects first grant) : Projects second grant := by
  cases projects with
  | journey id userId scope user workspace journey resource audience member workspaceMember known =>
    exact .journey id userId scope user workspace journey ((agree.resources id).symm.trans resource)
      audience ((agree.journeyMemberships _ _ _).symm.trans member)
      ((agree.workspaceMemberships _ _).symm.trans workspaceMember)
      ((agree.users userId).symm.trans known)
  | party id userId partyId scope user workspace journey party resource audience own partyMember
      member workspaceMember known =>
    exact .party id userId partyId scope user workspace journey party
      ((agree.resources id).symm.trans resource) audience own
      ((agree.partyMemberships _ _ _ _).symm.trans partyMember)
      ((agree.journeyMemberships _ _ _).symm.trans member)
      ((agree.workspaceMemberships _ _).symm.trans workspaceMember)
      ((agree.users userId).symm.trans known)

/-- So that with the same grants they are both exact. -/
theorem exact_of_agree (agree : Agree first second)
    (same : first.lookup Key.syncGrants = second.lookup Key.syncGrants) (exact : Exact first) :
    Exact second := by
  have grants : grantsOf second = grantsOf first := by rw [grantsOf, grantsOf, same]
  intro grant
  rw [grants, exact grant]
  exact ⟨projects_of_agree agree grant, projects_of_agree agree.symm grant⟩

/-- A buffer of writes shows the same of databases that show the same. -/
theorem map_lookup_applyAll {α : Type} (writes : List (Write Row)) (key : Key) (read : Row key → α)
    (same : (first.lookup key).map read = (second.lookup key).map read) :
    ((applyAll writes first).lookup key).map read = ((applyAll writes second).lookup key).map read := by
  by_cases written : ∃ write ∈ writes, write.key = key
  · rw [lookup_applyAll_written writes first second key written]
  · have untouched : ∀ write ∈ writes, write.key ≠ key :=
      fun write member here => written ⟨write, member, here⟩
    rw [lookup_applyAll_untouched writes first key untouched,
      lookup_applyAll_untouched writes second key untouched, same]

/-- Databases that agree do so under the same buffer of writes. -/
theorem agree_applyAll (writes : List (Write Row)) (agree : Agree first second) :
    Agree (applyAll writes first) (applyAll writes second) where
  users userId := map_lookup_applyAll writes (.user userId) User.active (agree.users userId)
  workspaceMemberships workspaceId userId :=
    map_lookup_applyAll writes (.workspaceMembership workspaceId userId) Membership.active
      (agree.workspaceMemberships workspaceId userId)
  journeyMemberships workspaceId journeyId userId :=
    map_lookup_applyAll writes (.journeyMembership workspaceId journeyId userId) Membership.active
      (agree.journeyMemberships workspaceId journeyId userId)
  partyMemberships workspaceId journeyId partyId userId :=
    map_lookup_applyAll writes (.partyMembership workspaceId journeyId partyId userId)
      Membership.active (agree.partyMemberships workspaceId journeyId partyId userId)
  resources id := map_lookup_applyAll writes (.resource id) Resource.scope (agree.resources id)

end Agreement

section Effects

/-- The writes leave the join and the grants as they are. -/
structure Spares (writes : List (Write Row)) (db : Database) : Prop where
  agree : Agree (applyAll writes db) db
  grants : (applyAll writes db).lookup Key.syncGrants = db.lookup Key.syncGrants

/-- So do writes to other tables. -/
theorem spares_elsewhere (writes : List (Write Row)) (db : Database)
    (elsewhere : ∀ write ∈ writes, write.key.table.joined = false ∧ write.key ≠ .syncGrants) :
    Spares writes db where
  agree := by
    refine agree_of_lookup fun key joined => ?_
    refine lookup_applyAll_untouched writes db key fun write member same => ?_
    have other := (elsewhere write member).1
    rw [same, joined] at other
    cases other
  grants := lookup_applyAll_untouched writes db _ fun write member => (elsewhere write member).2

/-- No key of the tables that clients change is that of the grants. -/
theorem Key.apart {key : Key} {table : Table} (here : key.table = table)
    (other : table ≠ .syncGrants) : key ≠ .syncGrants := by
  rintro rfl
  exact other here.symm

/-- An INSERT writes its table. -/
theorem insertEntries_table (table : Table) (rows : List Entry) (db : Database)
    (writes : List (Write Row)) (ran : insertEntries table db rows = .ok writes) :
    ∀ write ∈ writes, write.key.table = table := by
  induction rows generalizing db writes with
  | nil =>
    cases ran
    exact List.forall_mem_nil _
  | cons entry rows inductionHypothesis =>
    rw [insertEntries] at ran
    obtain ⟨_, own, ran⟩ := (bind_ok _ _ _).mp ran
    obtain ⟨_, _, ran⟩ := (bind_ok _ _ _).mp ran
    obtain ⟨rest, later, ran⟩ := (bind_ok _ _ _).mp ran
    cases ran
    refine List.forall_mem_cons.mpr ⟨?_, inductionHypothesis _ rest later⟩
    split at own
    · assumption
    · cases own

/-- A change of one row writes its table. -/
theorem applyChange_table (table : Table) (columns : List ResourceColumn) (db : Database) (key : Key)
    (entry : Entry) (writes : List (Write Row))
    (ran : applyChange table columns db key entry = .ok writes) :
    ∀ write ∈ writes, write.key.table = table := by
  unfold applyChange at ran
  split at ran
  · cases ran
    exact List.forall_mem_nil _
  · split at ran
    · next own =>
      obtain ⟨old, new, _⟩ := own
      split at ran
      · cases ran
        exact List.forall_mem_singleton.mpr new
      · split at ran
        · cases ran
        · cases ran
          exact List.forall_mem_cons.mpr ⟨old, List.forall_mem_singleton.mpr new⟩
    · cases ran

/-- An UPDATE writes its table. -/
theorem applyChanges_table (table : Table) (columns : List ResourceColumn)
    (changes : List (Key × Entry)) (db : Database) (writes : List (Write Row))
    (ran : applyChanges table columns db changes = .ok writes) :
    ∀ write ∈ writes, write.key.table = table := by
  induction changes generalizing db writes with
  | nil =>
    cases ran
    exact List.forall_mem_nil _
  | cons change changes inductionHypothesis =>
    rw [applyChanges] at ran
    obtain ⟨first, here, ran⟩ := (bind_ok _ _ _).mp ran
    obtain ⟨rest, later, ran⟩ := (bind_ok _ _ _).mp ran
    cases ran
    intro write member
    rcases List.mem_append.mp member with member | member
    · exact applyChange_table table columns db change.1 change.2 first here write member
    · exact inductionHypothesis _ rest later write member

/-- An UPDATE of `resources` that changes neither the identifier nor the scope leaves the
join. -/
theorem applyChange_spares (columns : List ResourceColumn)
    (unwatched : columns.any ResourceColumn.watched = false) (db : Database) (key : Key) (entry : Entry)
    (same : entry.1 = key) (writes : List (Write Row))
    (ran : applyChange .resources columns db key entry = .ok writes) : Spares writes db := by
  have unset : ∀ column : ResourceColumn, column.watched = true → columns.contains column = false := by
    intro column watched
    rw [Bool.eq_false_iff]
    intro there
    have some_watched := List.any_eq_true.mpr ⟨column, List.contains_iff_mem.mp there, watched⟩
    rw [unwatched] at some_watched
    cases some_watched
  unfold applyChange at ran
  split at ran
  · cases ran
    exact ⟨Agree.refl db, rfl⟩
  · next row found =>
    split at ran
    · next own =>
      obtain ⟨old, new, kept⟩ := own
      obtain ⟨newKey, newRow⟩ := entry
      obtain rfl : newKey = key := same
      cases newKey with
      | resource newId =>
        simp only [keeps, unset .workspaceId rfl, unset .journeyId rfl, unset .audience rfl,
          unset .partyId rfl, Bool.false_or, Bool.and_eq_true, decide_eq_true_eq] at kept
        obtain ⟨⟨⟨⟨⟨⟨_, workspace⟩, journey⟩, audience⟩, party⟩, _⟩, _⟩ := kept
        cases ran
        have scope : newRow.scope = row.scope := by
          cases one : newRow.scope
          cases two : row.scope
          rw [one, two] at workspace journey audience party
          simp_all
        refine ⟨⟨fun _ => ?_, fun _ _ => ?_, fun _ _ _ => ?_, fun _ _ _ _ => ?_, fun tested => ?_⟩, ?_⟩
        · rw [userActive, userActive, lookup_applyAll_untouched _ _ _ (by simp [putEntry, Write.key])]
        · rw [workspaceActive, workspaceActive,
            lookup_applyAll_untouched _ _ _ (by simp [putEntry, Write.key])]
        · rw [journeyActive, journeyActive,
            lookup_applyAll_untouched _ _ _ (by simp [putEntry, Write.key])]
        · rw [partyActive, partyActive,
            lookup_applyAll_untouched _ _ _ (by simp [putEntry, Write.key])]
        · by_cases here : tested = newId
          · subst here
            simp [scopeOf, putEntry, Write.apply, found, scope]
          · rw [scopeOf, scopeOf, lookup_applyAll_untouched _ _ _ (by
              simpa [putEntry, Write.key] using Ne.symm here)]
        · exact lookup_applyAll_untouched _ _ _ (by simp [putEntry, Write.key])
      | _ => cases old
    · cases ran

/-- Such an UPDATE of many rows as well. -/
theorem applyChanges_spares (columns : List ResourceColumn)
    (unwatched : columns.any ResourceColumn.watched = false) (changes : List (Key × Entry))
    (same : ∀ change ∈ changes, change.2.1 = change.1) (db : Database) (writes : List (Write Row))
    (ran : applyChanges .resources columns db changes = .ok writes) : Spares writes db := by
  induction changes generalizing db writes with
  | nil =>
    cases ran
    exact ⟨Agree.refl db, rfl⟩
  | cons change changes inductionHypothesis =>
    rw [applyChanges] at ran
    obtain ⟨first, here, ran⟩ := (bind_ok _ _ _).mp ran
    obtain ⟨rest, later, ran⟩ := (bind_ok _ _ _).mp ran
    cases ran
    obtain ⟨own, others⟩ := List.forall_mem_cons.mp same
    have one := applyChange_spares columns unwatched db change.1 change.2 own first here
    have others := inductionHypothesis others _ rest later
    constructor
    · rw [applyAll_append]
      exact others.agree.trans one.agree
    · rw [applyAll_append]
      exact others.grants.trans one.grants

/-- Deleting rows does not rebuild the grants. -/
theorem erasing_rebuilds (db : Database) (deleted : List Entry)
    (others : ∀ entry ∈ deleted, entry.1 ≠ .syncGrants) (answer : List Entry)
    (writes : List (Write Row)) (locks : Locks Key Empty)
    (ran : erasing db deleted = .ran answer writes locks) :
    rebuildsOf (applyAll writes db) = rebuildsOf db := by
  unfold erasing at ran
  cases ran
  have dropped : (applyAll (deleted.map fun entry => .drop entry.1) db).lookup Key.syncGrants =
      db.lookup Key.syncGrants := by
    refine lookup_applyAll_untouched _ db _ fun write member => ?_
    obtain ⟨entry, there, rfl⟩ := List.mem_map.mp member
    exact others entry there
  rw [applyAll_append]
  split
  · simp only [applyAll_nil, rebuildsOf, dropped]
  · simp [rebuildsOf, Write.apply]

/-- Deleting rows of other tables leaves the join and the grants. -/
theorem erasing_spares (db : Database) (deleted : List Entry)
    (elsewhere : ∀ entry ∈ deleted, entry.1.table.joined = false ∧ entry.1 ≠ .syncGrants)
    (answer : List Entry) (writes : List (Write Row)) (locks : Locks Key Empty)
    (ran : erasing db deleted = .ran answer writes locks) : Spares writes db := by
  have all : remainingGrants deleted (grantsOf db) = grantsOf db := by
    refine List.filter_eq_self.mpr fun grant _ => List.all_eq_true.mpr fun entry there => ?_
    have other := (elsewhere entry there).1
    rw [Bool.and_eq_true, decide_eq_true_iff, decide_eq_true_iff]
    constructor
    · intro same
      rw [same] at other
      cases other
    · intro same
      rw [same] at other
      cases other
  simp only [erasing, all, if_true, List.append_nil] at ran
  cases ran
  refine spares_elsewhere _ db fun write member => ?_
  obtain ⟨entry, there, rfl⟩ := List.mem_map.mp member
  exact elsewhere entry there

/-- The rows that a DELETE finds are of its table. -/
theorem entriesAt_table (db : Database) (table : Table) (keys : List Key) :
    ∀ entry ∈ entriesAt db table keys, entry.1.table = table := by
  intro entry there
  obtain ⟨key, _, found⟩ := List.mem_filterMap.mp there
  split at found
  · next own =>
    obtain ⟨row, _, rfl⟩ := Option.map_eq_some_iff.mp found
    exact own
  · cases found

/-- The rows that a cascade finds are of the table of its foreign key. -/
theorem referring_table (db : Database) (constraint : ForeignKey) (deleted : List Entry) :
    ∀ entry ∈ referring db constraint deleted, entry.1.table = constraint.child := by
  intro entry there
  obtain ⟨key, row, _, found⟩ := (mem_collect _ _ _).mp there
  split at found
  · next own =>
    cases found
    exact own.1
  · cases found

/-- The rows that refer are never the grants. -/
theorem ForeignKey.child_ne (constraint : ForeignKey) : constraint.child ≠ .syncGrants := by
  cases constraint <;> decide

/-- No statement takes rebuilds back. -/
theorem execute_rebuilds (op : Op) (db : Database) (answer : Res op) (writes : List (Write Row))
    (locks : Locks Key Empty) (ran : execute op db = .ran answer writes locks) :
    rebuildsOf db ≤ rebuildsOf (applyAll writes db) := by
  have untouched : ∀ table : Table, table ≠ .syncGrants →
      (∀ write ∈ writes, write.key.table = table) →
        rebuildsOf (applyAll writes db) = rebuildsOf db := by
    intro table other own
    rw [rebuildsOf, rebuildsOf, lookup_applyAll_untouched writes db _ fun write member =>
      Key.apart (own write member) other]
  cases op with
  | insert table rows =>
    simp only [execute] at ran
    split at ran
    · cases ran
    · next other =>
      split at ran
      · cases ran
      · next entries inserted =>
        unfold writing at ran
        split at ran
        · cases ran
          exact (untouched table other (insertEntries_table table rows db _ inserted)).ge
        · cases ran
  | update table columns changes =>
    simp only [execute] at ran
    split at ran
    · cases ran
    · next other =>
      split at ran
      · cases ran
      · next entries updated =>
        unfold writing at ran
        split at ran
        · cases ran
          exact (untouched table other (applyChanges_table table columns changes db _ updated)).ge
        · cases ran
  | delete table keys =>
    simp only [execute] at ran
    split at ran
    · cases ran
    · next other =>
      exact (erasing_rebuilds db _ (fun entry there =>
        Key.apart (entriesAt_table db table keys entry there) other) answer writes locks ran).ge
  | cascade constraint deleted =>
    exact (erasing_rebuilds db _ (fun entry there =>
      Key.apart (referring_table db constraint deleted entry there) constraint.child_ne) answer writes
        locks ran).ge
  | acquireGrantWriteLock =>
    cases ran
    exact Nat.le_refl _
  | rebuildGrants =>
    cases ran
    simp [rebuildsOf, Write.apply, rebuilt]
  | acquireGrantReadLock =>
    cases ran
    exact Nat.le_refl _
  | selectActiveGrants userId resourceIds =>
    cases ran
    exact Nat.le_refl _

/-- A rebuild makes the grants exact. -/
theorem rebuildGrants_exact (db : Database) :
    Exact (applyAll [.put .syncGrants (rebuilt db)] db) ∧
      rebuildsOf (applyAll [.put .syncGrants (rebuilt db)] db) = rebuildsOf db + 1 := by
  have agree : Agree (applyAll [.put .syncGrants (rebuilt db)] db) db := by
    refine agree_of_lookup fun key joined => lookup_applyAll_untouched _ db key fun write member => ?_
    rw [List.mem_singleton.mp member]
    rintro rfl
    cases joined
  refine ⟨fun grant => ?_, by simp [rebuildsOf, Write.apply, rebuilt]⟩
  have stored : grantsOf (applyAll [.put .syncGrants (rebuilt db)] db) = joinGrants db := by
    simp [grantsOf, Write.apply, rebuilt]
  rw [stored, mem_joinGrants]
  exact ⟨projects_of_agree agree.symm grant, projects_of_agree agree grant⟩

end Effects

section Interference

/-- The statement refreshes the grants when it changes what the join finds: it sets a
watched column when it gives a resource another identifier. -/
def Statement.Watched : Statement → Prop
  | .update .resources columns changes =>
    (∀ change ∈ changes, change.2.1 = change.1) ∨ columns.any ResourceColumn.watched = true
  | _ => True

/-- Every statement of the request does. -/
def Request.Watched : Request → Prop
  | .change statements => ∀ statement ∈ statements, statement.Watched
  | .executeCommands _ _ => True

/-- The decision of `executeCommands` is the relation of the user to the resources. -/
def Decided (request : Request) (reply : Reply) (before : Database) : Prop :=
  ∀ userId resourceIds granted, request = .executeCommands userId resourceIds →
    reply = .decided granted → resourceIds.Nodup →
      (granted = true ↔ ∀ resourceId ∈ resourceIds, Related before userId resourceId)

/-- What every transaction promises: its commit leaves the grants exact, and it changes
what the join finds only with a rebuild. -/
def projectionContract : Contract Row Request Reply where
  Allowed := Request.Watched
  Inv := Exact
  Commits request reply before after :=
    Exact after ∧ (after.lookup Key.syncGrants = before.lookup Key.syncGrants → Agree after before) ∧
      Decided request reply before

variable {request : Request} {progress : Progress Empty Row Res} {store later : Database}

/-- What holds of a transaction at any time: it has the locks of its writes, and its
rebuilds come on top of the committed ones. -/
structure Started (progress : Progress Empty Row Res) (store : Database) : Prop where
  owned : ∀ write ∈ progress.writes, write.lock ∈ progress.locks
  ahead : rebuildsOf store ≤ rebuildsOf (progress.view store)

/-- The transaction has changed nothing that the join finds, or it has rebuilt the grants
and holds their lock. -/
inductive Rebuilt (progress : Progress Empty Row Res) (store : Database) : Prop where
  | untouched (agree : Agree (progress.view store) store)
      (grants : (progress.view store).lookup Key.syncGrants = store.lookup Key.syncGrants)
  | locked (mode : LockMode) (held : (Resource.row Key.syncGrants, mode) ∈ progress.locks)
      (strong : mode ≠ .keyShare) (ahead : rebuildsOf store < rebuildsOf (progress.view store))

/-- What holds of a transaction between its statements. -/
structure Settled (progress : Progress Empty Row Res) (store : Database) : Prop
    extends Started progress store where
  exact : Exact (progress.view store)
  rebuilt : Rebuilt progress store

/-- The row that a transaction wrote is still committed as it was. -/
theorem owned_unchanged (owned : ∀ write ∈ progress.writes, write.lock ∈ progress.locks)
    (reached : Reaches relations projectionContract request progress store later)
    (write : Write Row) (member : write ∈ progress.writes) :
    later.lookup write.key = store.lookup write.key := by
  have held := owned write member
  cases write with
  | put key row =>
    exact lookup_locked relations projectionContract request progress store later key .noKeyUpdate
      reached held (by decide)
  | drop key =>
    exact lookup_locked relations projectionContract request progress store later key .update
      reached held (by decide)

/-- What a transaction sees of a row as committed, it sees as committed later on. -/
theorem view_unchanged {α : Type} (owned : ∀ write ∈ progress.writes, write.lock ∈ progress.locks)
    (reached : Reaches relations projectionContract request progress store later) (key : Key)
    (read : Row key → α)
    (same : ((progress.view store).lookup key).map read = (store.lookup key).map read) :
    ((progress.view later).lookup key).map read = (later.lookup key).map read := by
  by_cases written : ∃ write ∈ progress.writes, write.key = key
  · obtain ⟨write, member, rfl⟩ := written
    have kept := owned_unchanged owned reached write member
    have shown : (progress.view later).lookup write.key = (progress.view store).lookup write.key :=
      lookup_applyAll_written progress.writes later store write.key ⟨write, member, rfl⟩
    rw [shown, kept, same]
  · have untouched : (progress.view later).lookup key = later.lookup key :=
      lookup_applyAll_untouched progress.writes later key fun write member here =>
        written ⟨write, member, here⟩
    rw [untouched]

/-- Interference keeps the first. -/
theorem started_reaches (started : Started progress store)
    (reached : Reaches relations projectionContract request progress store later) :
    Started progress later := by
  refine ⟨started.owned, ?_⟩
  by_cases written : ∃ write ∈ progress.writes, write.key = .syncGrants
  · have shown : (progress.view later).lookup Key.syncGrants =
        (progress.view store).lookup Key.syncGrants :=
      lookup_applyAll_written progress.writes later store _ written
    obtain ⟨write, member, here⟩ := written
    have kept : later.lookup Key.syncGrants = store.lookup Key.syncGrants :=
      here ▸ owned_unchanged started.owned reached write member
    have ahead := started.ahead
    simp only [rebuildsOf, shown, kept] at ahead ⊢
    exact ahead
  · have untouched : (progress.view later).lookup Key.syncGrants = later.lookup Key.syncGrants :=
      lookup_applyAll_untouched progress.writes later _ fun write member here =>
        written ⟨write, member, here⟩
    simp only [rebuildsOf, untouched, Nat.le_refl]

/-- One commit of another transaction keeps the second. -/
theorem settled_interferes (settled : Settled progress store)
    (interferes : Interferes relations projectionContract request progress store later) :
    Settled progress later := by
  have reached : Reaches relations projectionContract request progress store later :=
    .single interferes
  have started := started_reaches settled.toStarted reached
  obtain ⟨exact, _, other, reply, writes, held, _, ⟨_, sparing, _⟩, _⟩ := interferes
  cases settled.rebuilt with
  | untouched agree grants =>
    have agrees : Agree (progress.view later) later :=
      { users := fun userId =>
          view_unchanged settled.owned reached (.user userId) User.active (agree.users userId)
        workspaceMemberships := fun workspaceId userId =>
          view_unchanged settled.owned reached (.workspaceMembership workspaceId userId)
            Membership.active (agree.workspaceMemberships workspaceId userId)
        journeyMemberships := fun workspaceId journeyId userId =>
          view_unchanged settled.owned reached (.journeyMembership workspaceId journeyId userId)
            Membership.active (agree.journeyMemberships workspaceId journeyId userId)
        partyMemberships := fun workspaceId journeyId partyId userId =>
          view_unchanged settled.owned reached (.partyMembership workspaceId journeyId partyId userId)
            Membership.active (agree.partyMemberships workspaceId journeyId partyId userId)
        resources := fun id =>
          view_unchanged settled.owned reached (.resource id) Resource.scope (agree.resources id) }
    have same : (progress.view later).lookup Key.syncGrants = later.lookup Key.syncGrants := by
      have shown := view_unchanged settled.owned reached .syncGrants id (congrArg (Option.map id) grants)
      simpa using shown
    exact ⟨started, exact_of_agree agrees.symm same.symm exact, .untouched agrees same⟩
  | locked mode locked strong ahead =>
    have kept : later.lookup Key.syncGrants = store.lookup Key.syncGrants :=
      lookup_locked relations projectionContract request progress store later _ mode reached locked
        strong
    have agree := agree_applyAll progress.writes (sparing kept)
    have same : (progress.view later).lookup Key.syncGrants =
        (progress.view store).lookup Key.syncGrants :=
      lookup_applyAll_congr progress.writes later store _ kept
    refine ⟨started, exact_of_agree agree.symm same.symm settled.exact, .locked mode locked strong ?_⟩
    simp only [rebuildsOf, kept, same] at ahead ⊢
    exact ahead

/-- And so does any number of them. -/
theorem settled_reaches (settled : Settled progress store)
    (reached : Reaches relations projectionContract request progress store later) :
    Settled progress later := by
  induction reached with
  | refl => exact settled
  | tail _ interferes inductionHypothesis => exact settled_interferes inductionHypothesis interferes

/-- A statement keeps the first. -/
theorem started_extend (started : Started progress store) (op : Op) (answer : Res op)
    (writes : List (Write Row)) (locks : Locks Key Empty)
    (ran : execute op (progress.view store) = .ran answer writes locks) :
    Started (progress.extend op answer writes locks) store where
  owned := by
    intro write member
    simp only [Progress.extend, List.mem_append, List.mem_map] at member ⊢
    rcases member with member | member
    · exact Or.inl (started.owned write member)
    · exact Or.inr (Or.inr ⟨write, member, rfl⟩)
  ahead := by
    rw [Progress.view_extend]
    exact started.ahead.trans (execute_rebuilds op _ answer writes locks ran)

/-- A statement that spares the join and the grants keeps the second. -/
theorem settled_extend (settled : Settled progress store) (op : Op) (answer : Res op)
    (writes : List (Write Row)) (locks : Locks Key Empty)
    (ran : execute op (progress.view store) = .ran answer writes locks)
    (spares : Spares writes (progress.view store)) :
    Settled (progress.extend op answer writes locks) store := by
  have started := started_extend settled.toStarted op answer writes locks ran
  refine ⟨started, ?_, ?_⟩
  · rw [Progress.view_extend]
    exact exact_of_agree spares.agree.symm spares.grants.symm settled.exact
  · cases settled.rebuilt with
    | untouched agree grants =>
      refine .untouched ?_ ?_
      · rw [Progress.view_extend]
        exact spares.agree.trans agree
      · rw [Progress.view_extend]
        exact spares.grants.trans grants
    | locked mode held strong ahead =>
      refine .locked mode (List.mem_append_left _ held) strong ?_
      rw [Progress.view_extend]
      exact ahead.trans_le (execute_rebuilds op _ answer writes locks ran)

end Interference

section Programs

variable {request : Request} {progress : Progress Empty Row Res} {store : Database}

/-- Where a program leads among these transactions. -/
abbrev LeadsTo (request : Request) {α : Type} (program : Script α)
    (progress : Progress Empty Row Res) (store : Database)
    (post : α → Progress Empty Row Res → Database → Prop) : Prop :=
  Leads relations projectionContract request program progress store post

/-- A rebuild settles a transaction, whatever it has changed. -/
theorem refresh_settles (started : Started progress store) :
    LeadsTo request refreshSyncGrants progress store fun _ => Settled := by
  simp only [refreshSyncGrants, Program.ask_bind]
  intro first _ reached answer writes locks ran
  have before := started_extend (started_reaches started reached) _ answer writes locks ran
  intro later _ reached rebuild changes held done
  have waiting := started_reaches before reached
  have after := started_extend waiting _ rebuild changes held done
  cases done
  obtain ⟨exact, one⟩ := rebuildGrants_exact
    ((progress.extend .acquireGrantWriteLock answer writes locks).view later)
  refine ⟨after, ?_, ?_⟩
  · rw [Progress.view_extend]
    exact exact
  · refine .locked .noKeyUpdate ?_ (by decide) ?_
    · simp [Progress.extend, Write.lock]
    · rw [Progress.view_extend, one]
      exact Nat.lt_succ_of_le waiting.ahead

/-- A cascade to a table without the trigger spares the join. -/
theorem cascade_spares (constraint : ForeignKey) (deleted : List Entry) (db : Database)
    (unwatched : refreshes constraint.child .delete = false) (answer : List Entry)
    (writes : List (Write Row)) (locks : Locks Key Empty)
    (ran : execute (.cascade constraint deleted) db = .ran answer writes locks) :
    Spares writes db := by
  refine erasing_spares db _ (fun entry there => ?_) answer writes locks ran
  have own := referring_table db constraint deleted entry there
  refine ⟨?_, Key.apart own constraint.child_ne⟩
  rw [own]
  cases constraint with
  | journeysWorkspace => rfl
  | partiesJourney => rfl
  | _ => cases unwatched

/-- The triggers lead to a settled transaction, when it is settled before or a rebuild
waits among them: what a cascade deletes has a rebuild of its own. -/
theorem afterTriggers_settles (steps : Nat) (waiting : List TriggerEvent)
    (started : Started progress store)
    (owed : .refresh ∈ waiting ∨ Settled progress store) :
    LeadsTo request (afterTriggers steps waiting) progress store fun _ => Settled := by
  induction steps generalizing waiting progress store with
  | zero =>
    cases waiting with
    | nil =>
      simp only [afterTriggers]
      exact owed.resolve_left (by simp)
    | cons event waiting => trivial
  | succ steps inductionHypothesis =>
    cases waiting with
    | nil =>
      simp only [afterTriggers]
      exact owed.resolve_left (by simp)
    | cons event waiting =>
      cases event with
      | refresh =>
        simp only [afterTriggers]
        apply leads_bind
        refine leads_mono _ _ _ _ _ _ _ (fun _ middle reached settled => ?_) (refresh_settles started)
        exact inductionHypothesis waiting settled.toStarted (Or.inr settled)
      | cascade constraint deleted =>
        simp only [afterTriggers, Program.ask_bind]
        intro later _ reached answer writes locks ran
        have here := started_reaches started reached
        have after := started_extend here _ answer writes locks ran
        refine inductionHypothesis _ after ?_
        by_cases watched : refreshes constraint.child .delete = true
        · left
          simp [eventsAfter, watched]
        · rcases owed with owed | settled
          · left
            have later_refresh : TriggerEvent.refresh ∈ waiting := by simpa using owed
            exact List.mem_append_left _ later_refresh
          · right
            exact settled_extend (settled_reaches settled reached) _ answer writes locks ran
              (cascade_spares constraint deleted _ (Bool.eq_false_iff.mpr watched) answer writes locks
                ran)

/-- Where the trigger of a statement is not defined, the statement spares the join. -/
theorem writing_spares (db : Database) (writes : List (Write Row)) (written : List Entry)
    (answer : Unit) (changes : List (Write Row)) (locks : Locks Key Empty)
    (ran : writing db writes written = .ran answer changes locks) : changes = writes := by
  unfold writing at ran
  split at ran
  · cases ran
    rfl
  · cases ran

/-- The tables without triggers are not of the join. -/
theorem unwatched_joined (table : Table) (command : Command)
    (unwatched : refreshes table command = false)
    (other : table = .resources → command = .insert ∨ command = .delete) :
    table.joined = false := by
  cases table with
  | resources =>
    rcases other rfl with rfl | rfl
    · cases unwatched
    · cases unwatched
  | workspaces => rfl
  | journeys => rfl
  | parties => rfl
  | syncGrants => rfl
  | _ => cases command <;> cases unwatched

/-- The triggers of a statement settle a transaction. -/
theorem fireTriggers_settles (table : Table) (command : Command) (deleted : List Entry)
    (started : Started progress store)
    (owed : refreshes table command = true ∨ Settled progress store) :
    LeadsTo request (fireTriggers table command deleted) progress store fun _ => Settled := by
  refine afterTriggers_settles _ _ started (owed.imp (fun watched => ?_) fun settled => settled)
  simp [eventsAfter, watched]

/-- A statement leads from a settled transaction to a settled one. -/
theorem statement_settles (statement : Statement) (watched : statement.Watched)
    (settled : Settled progress store) :
    LeadsTo request statement.run progress store fun _ => Settled := by
  cases statement with
  | insert table rows =>
    simp only [Statement.run, Program.ask_bind]
    intro later _ reached answer writes locks ran
    have here := settled_reaches settled reached
    refine fireTriggers_settles _ _ _ (started_extend here.toStarted _ answer writes locks ran) ?_
    by_cases triggered : refreshes table .insert = true
    · exact Or.inl triggered
    · right
      refine settled_extend here _ answer writes locks ran ?_
      have outside := unwatched_joined table .insert (Bool.eq_false_iff.mpr triggered)
        fun _ => Or.inl rfl
      simp only [relations, execute] at ran
      split at ran
      · cases ran
      · next other =>
        split at ran
        · cases ran
        · next entries inserted =>
          obtain rfl := writing_spares _ _ _ _ _ _ ran
          have own := insertEntries_table table rows _ _ inserted
          exact spares_elsewhere _ _ fun write member =>
            ⟨own write member ▸ outside, Key.apart (own write member) other⟩
  | update table columns changes =>
    simp only [Statement.run, Program.ask_bind]
    intro later _ reached answer writes locks ran
    have here := settled_reaches settled reached
    refine fireTriggers_settles _ _ _ (started_extend here.toStarted _ answer writes locks ran) ?_
    by_cases triggered : refreshes table (.update columns) = true
    · exact Or.inl triggered
    · right
      refine settled_extend here _ answer writes locks ran ?_
      simp only [relations, execute] at ran
      split at ran
      · cases ran
      · next other =>
        split at ran
        · cases ran
        · next entries updated =>
          obtain rfl := writing_spares _ _ _ _ _ _ ran
          by_cases resources : table = .resources
          · subst resources
            have unwatched : columns.any ResourceColumn.watched = false :=
              Bool.eq_false_iff.mpr triggered
            have same : ∀ change ∈ changes, change.2.1 = change.1 :=
              watched.resolve_right triggered
            exact applyChanges_spares columns unwatched changes same _ _ updated
          · have outside := unwatched_joined table (.update columns) (Bool.eq_false_iff.mpr triggered)
              fun same => absurd same resources
            have own := applyChanges_table table columns changes _ _ updated
            exact spares_elsewhere _ _ fun write member =>
              ⟨own write member ▸ outside, Key.apart (own write member) other⟩
  | delete table keys =>
    simp only [Statement.run, Program.ask_bind]
    intro later _ reached answer writes locks ran
    have here := settled_reaches settled reached
    refine fireTriggers_settles _ _ _ (started_extend here.toStarted _ answer writes locks ran) ?_
    by_cases triggered : refreshes table .delete = true
    · exact Or.inl triggered
    · right
      refine settled_extend here _ answer writes locks ran ?_
      have outside := unwatched_joined table .delete (Bool.eq_false_iff.mpr triggered)
        fun _ => Or.inr rfl
      simp only [relations, execute] at ran
      split at ran
      · cases ran
      · next other =>
        refine erasing_spares _ _ (fun entry there => ?_) _ _ _ ran
        have own := entriesAt_table _ table keys entry there
        exact ⟨own ▸ outside, Key.apart own other⟩

/-- So do the statements of a transaction, one after another. -/
theorem statements_settle (statements : List Statement)
    (watched : ∀ statement ∈ statements, statement.Watched) (settled : Settled progress store) :
    LeadsTo request (Program.each statements Statement.run) progress store fun _ => Settled := by
  induction statements generalizing progress store with
  | nil => exact settled
  | cons statement statements inductionHypothesis =>
    obtain ⟨first, others⟩ := List.forall_mem_cons.mp watched
    rw [Program.each_cons]
    apply leads_bind
    exact leads_mono _ _ _ _ _ _ _ (fun _ _ _ next => inductionHypothesis others next)
      (statement_settles statement first settled)

/-- What a cascade adds to the triggers that wait is less than the cascade. -/
theorem eventsAfter_steps (constraint : ForeignKey) (deleted further : List Entry) :
    ((eventsAfter constraint.child .delete further).map TriggerEvent.steps).sum + 1 =
      (TriggerEvent.cascade constraint deleted).steps := by
  cases constraint <;> rfl

/-- The triggers come to an end in the steps that are given to them. -/
theorem afterTriggers_ends (steps : Nat) (waiting : List TriggerEvent)
    (enough : (waiting.map TriggerEvent.steps).sum ≤ steps) :
    (afterTriggers steps waiting).Avoids .triggersRunning := by
  induction steps generalizing waiting with
  | zero =>
    cases waiting with
    | nil => trivial
    | cons event waiting =>
      have positive : 0 < event.steps := by
        cases event with
        | refresh => decide
        | cascade constraint deleted =>
          rw [← eventsAfter_steps constraint deleted []]
          exact Nat.succ_pos _
      rw [List.map_cons, List.sum_cons] at enough
      omega
  | succ steps inductionHypothesis =>
    cases waiting with
    | nil => trivial
    | cons event waiting =>
      rw [List.map_cons, List.sum_cons] at enough
      cases event with
      | refresh =>
        have one : TriggerEvent.refresh.steps = 1 := rfl
        refine Program.avoids_bind _ _ _ (fun _ _ => trivial) fun _ => ?_
        exact inductionHypothesis waiting (by omega)
      | cascade constraint deleted =>
        intro further
        have less := eventsAfter_steps constraint deleted further
        refine inductionHypothesis _ ?_
        rw [List.map_append, List.sum_append]
        omega

/-- So that a transaction fails only by what it executes. -/
theorem transaction_ends (request : Request) :
    (transaction request).Avoids .triggersRunning := by
  have fired : ∀ table command deleted,
      (fireTriggers table command deleted).Avoids .triggersRunning :=
    fun _ _ _ => afterTriggers_ends _ _ (Nat.le_refl _)
  cases request with
  | change statements =>
    refine Program.avoids_bind _ _ _ (Program.avoids_each _ _ _ fun statement => ?_) fun _ => trivial
    cases statement with
    | insert table rows => exact fun _ => fired table .insert []
    | update table columns changes => exact fun _ => fired table (.update columns) []
    | delete table keys => exact fun deleted => fired table .delete deleted
  | executeCommands userId resourceIds => exact fun _ _ => trivial

/-- A transaction that has executed nothing is settled. -/
theorem settled_empty (db : Database) (exact : Exact db) : Settled Progress.empty db where
  owned := by simp [Progress.empty]
  ahead := Nat.le_refl _
  exact := exact
  rebuilt := .untouched (Agree.refl db) rfl

/-- Every transaction keeps its promise. -/
theorem transaction_safe (request : Request) (db : Database) (watched : request.Watched)
    (exact : Exact db) :
    Safe relations projectionContract request (transaction request) .empty db := by
  cases request with
  | change statements =>
    apply leads_bind
    refine leads_mono _ _ _ _ _ _ _ (fun _ progress store settled => ?_)
      (statements_settle statements watched (settled_empty db exact))
    intro later _ reached
    have last := settled_reaches settled reached
    refine ⟨last.exact, fun same => ?_, ?_⟩
    · cases last.rebuilt with
      | untouched agree grants => exact agree
      | locked mode held strong ahead =>
        simp only [rebuildsOf, same, lt_irrefl] at ahead
    · rintro userId resourceIds granted ⟨⟩
  | executeCommands userId resourceIds =>
    simp only [transaction, Program.ask_bind]
    intro first _ _ answer writes locks ran
    cases ran
    intro second exactSecond _ granted writes locks ran
    cases ran
    intro later exactLater reached
    refine ⟨exactLater, fun _ => Agree.refl later, ?_⟩
    rintro _ _ _ ⟨⟩ ⟨⟩ distinct
    have kept : later.lookup Key.syncGrants = second.lookup Key.syncGrants :=
      lookup_locked relations projectionContract _ _ second later .syncGrants .share reached
        (by simp [Progress.extend, Progress.empty]) (by decide)
    have grants : grantsOf second = grantsOf later := by rw [grantsOf, grantsOf, kept]
    have same : hasActiveGrant second userId resourceIds = hasActiveGrant later userId resourceIds := by
      rw [hasActiveGrant, hasActiveGrant, grants]
    have decision := hasActiveGrant_iff later userId resourceIds distinct
    simp only [active_grant_iff later exactLater] at decision
    exact (Bool.eq_iff_iff.mp same).trans decision

end Programs

section Runs

/-- In every run whose statements are watched, every committed state holds exactly the
rows of the join, and every `executeCommands` decides by the relation of its user to its
resources. -/
theorem grants_exact (permits : System Empty Row Res Failure Request Reply → Event Request → Prop)
    (watched : ∀ system request, permits system (.arrive request) → request.Watched)
    (db : Database) (exact : Exact db) (last : System Empty Row Res Failure Request Reply)
    (run : Run relations permits (System.initial db) last) :
    Exact last.db ∧
      (∀ userId resourceIds, resourceIds.Nodup → (hasActiveGrant last.db userId resourceIds = true ↔
        ∀ resourceId ∈ resourceIds, Related last.db userId resourceId)) ∧
      ∀ commit ∈ last.history, Exact commit.before ∧ Exact commit.after ∧
        Decided commit.request commit.reply commit.before := by
  have sound : Sound relations projectionContract db last := by
    apply run_sound relations projectionContract permits (System.initial db) last db
    · exact watched
    · intro system index process reply earlier _ found _
      exact never_stale relations permits (System.initial db) system (fun _ _ _ _ => rfl) earlier
        (by simp [System.initial]) process (List.mem_of_getElem? found)
    · exact fun request store allowed holds => transaction_safe request store allowed holds
    · exact fun request reply before after _ _ commits => commits.1
    · exact sound_initial relations projectionContract db exact
    · exact run
  refine ⟨sound.invariant, fun userId resourceIds distinct => ?_, fun commit member => ?_⟩
  · rw [hasActiveGrant_iff last.db userId resourceIds distinct]
    simp only [active_grant_iff last.db sound.invariant]
  · obtain ⟨index, here⟩ := List.mem_iff_getElem?.mp member
    obtain ⟨_, _, _, before, after, _, _, decided⟩ := sound.linked.around index commit here
    exact ⟨before, after, decided⟩

namespace Sample

/-- A user in a workspace of two journeys. -/
def userId : Uuid := ascii "11111111-1111-4111-8111-111111111111"

def workspaceId : Uuid := ascii "22222222-2222-4222-8222-222222222222"

def journeyId : Uuid := ascii "33333333-3333-4333-8333-333333333333"

def otherJourneyId : Uuid := ascii "44444444-4444-4444-8444-444444444444"

/-- The resource of each journey, and an identifier that none has. -/
def resourceId : Uuid := ascii "55555555-5555-4555-8555-555555555555"

def otherResourceId : Uuid := ascii "66666666-6666-4666-8666-666666666666"

def unusedId : Uuid := ascii "77777777-7777-4777-8777-777777777777"

/-- A resource for everybody in a journey. -/
def resourceOf (journeyId : Uuid) : Resource where
  scope :=
    { workspaceId := workspaceId
      journeyId := journeyId
      audience := .journey
      partyId := none
      checked := by decide }
  payload := none
  version := 1

/-- The tables, in which the user is a member of the first journey only. -/
def tables : Database :=
  applyAll [.put (.user userId) ⟨true⟩, .put (.workspace workspaceId) (),
    .put (.workspaceMembership workspaceId userId) ⟨true⟩, .put (.journey journeyId) ⟨workspaceId⟩,
    .put (.journey otherJourneyId) ⟨workspaceId⟩,
    .put (.journeyMembership workspaceId journeyId userId) ⟨true⟩,
    .put (.resource resourceId) (resourceOf journeyId),
    .put (.resource otherResourceId) (resourceOf otherJourneyId)] ∅

/-- The same with their grants. -/
def database : Database := tables.insert Key.syncGrants (rebuilt tables)

/-- The grants are those of the join. -/
theorem database_exact : Exact database := exact_of_join database (by decide +kernel)

/-- A transaction lets the user into the other journey and deletes the first one. -/
def moved : Request :=
  .change
    [.insert .journeyMemberships [⟨.journeyMembership workspaceId otherJourneyId userId, ⟨true⟩⟩],
      .delete .journeys [.journey journeyId]]

/-- One UPDATE of identifiers gives the first resource an unused one and the second
resource that of the first. -/
def exchanged : Request :=
  .change [.update .resources [.id] [(.resource resourceId, ⟨.resource unusedId, resourceOf journeyId⟩),
    (.resource otherResourceId, ⟨.resource resourceId, resourceOf otherJourneyId⟩)]]

/-- What was decided for whom. -/
structure Decision where
  userId : Uuid
  resourceIds : List Uuid
  reply : Reply
deriving DecidableEq

/-- The decision of a transaction. -/
def decision (commit : Commit Row Request Reply) : Option Decision :=
  match commit.request with
  | .executeCommands userId resourceIds => some ⟨userId, resourceIds, commit.reply⟩
  | .change _ => none

/-- A change takes its steps while a command for a resource waits for the grants. -/
def interleaved (change : Request) (steps : Nat) (resourceId : Uuid) : List (Event Request) :=
  [.arrive change, .advance 0, .arrive (.executeCommands userId [resourceId])] ++
    List.replicate steps (.advance 0) ++ List.replicate 3 (.advance 1)

end Sample

/-- While a command waits for the grants, its user is let into a journey and the other one
is deleted. It is authorised afterwards, as it should be. -/
theorem grants_exact_moved :
    ∃ last, (System.initial Sample.database).steps relations
        (Sample.interleaved Sample.moved 20 Sample.otherResourceId) = some last ∧
      last.history.map Sample.decision =
        [none, some ⟨Sample.userId, [Sample.otherResourceId], .decided true⟩] ∧
      Exact last.db ∧ Related last.db Sample.userId Sample.otherResourceId := by
  have made : ((System.initial Sample.database).steps relations
      (Sample.interleaved Sample.moved 20 Sample.otherResourceId)).map (fun last =>
        (last.history.map Sample.decision,
          hasActiveGrant last.db Sample.userId [Sample.otherResourceId])) =
            some ([none, some ⟨Sample.userId, [Sample.otherResourceId], .decided true⟩], true) := by
    decide +kernel
  obtain ⟨last, ran, observed⟩ := Option.map_eq_some_iff.mp made
  obtain ⟨decisions, granted⟩ := Prod.mk.inj observed
  have permitted : ∀ event ∈ Sample.interleaved Sample.moved 20 Sample.otherResourceId,
      ∀ _ : System Empty Row Res Failure Request Reply,
        ∀ request, event = .arrive request → request.Watched := by
    intro event member _ request arrived
    subst arrived
    simp only [Sample.interleaved, List.append_assoc, List.mem_append, List.mem_cons,
      List.mem_replicate, Event.arrive.injEq, reduceCtorEq, List.not_mem_nil, and_false, or_false,
      false_or] at member
    rcases member with rfl | rfl
    · rintro statement there
      simp only [List.mem_cons, List.not_mem_nil, or_false] at there
      rcases there with rfl | rfl <;> trivial
    · trivial
  obtain ⟨exact, authorised, _⟩ := grants_exact
    (fun _ event => ∀ request, event = .arrive request → request.Watched)
    (fun _ request permitted => permitted request rfl) Sample.database Sample.database_exact last
    (run_of_steps _ _ _ _ _ permitted ran)
  have related := (authorised Sample.userId [Sample.otherResourceId] (List.nodup_singleton _)).mp granted
  exact ⟨last, ran, decisions, exact, related _ (List.mem_singleton_self _)⟩

/-- The exchange of identifiers leaves the grants of the first resource where they are. A
command for what was the second resource is authorised by them. -/
theorem grants_inexact_exchanged :
    ∃ last, (System.initial Sample.database).steps relations
        (Sample.interleaved Sample.exchanged 1 Sample.resourceId) = some last ∧
      Run relations (fun _ _ => True) (System.initial Sample.database) last ∧
      last.history.map Sample.decision =
        [none, some ⟨Sample.userId, [Sample.resourceId], .decided true⟩] ∧
      Exact Sample.database ∧ ¬ Exact last.db ∧
        ¬ Related last.db Sample.userId Sample.resourceId := by
  have made : ((System.initial Sample.database).steps relations
      (Sample.interleaved Sample.exchanged 1 Sample.resourceId)).map (fun last =>
        (last.history.map Sample.decision, hasActiveGrant last.db Sample.userId [Sample.resourceId],
          scopeOf last.db Sample.resourceId,
          journeyActive last.db Sample.workspaceId Sample.otherJourneyId Sample.userId)) =
            some ([none, some ⟨Sample.userId, [Sample.resourceId], .decided true⟩], true,
              some (Sample.resourceOf Sample.otherJourneyId).scope, none) := by
    decide +kernel
  obtain ⟨last, ran, observed⟩ := Option.map_eq_some_iff.mp made
  simp only [Prod.mk.injEq] at observed
  obtain ⟨decisions, granted, placed, outside⟩ := observed
  have unrelated : ¬ Related last.db Sample.userId Sample.resourceId := by
    rintro (⟨scope, resource, _, member, _, _⟩ | ⟨scope, _, resource, audience, _, _, _, _, _⟩)
    · cases placed.symm.trans resource
      cases outside.symm.trans member
    · cases placed.symm.trans resource
      cases audience
  refine ⟨last, ran, run_of_steps _ _ _ _ _ (fun _ _ _ => trivial) ran, decisions,
    Sample.database_exact, fun exact => ?_, unrelated⟩
  have each := (hasActiveGrant_iff last.db _ _ (List.nodup_singleton _)).mp granted
  exact unrelated ((active_grant_iff last.db exact _ _).mp (each _ (List.mem_singleton_self _)))

end Runs

end TraxOs.PowerSync.Relations
