import TraxOs.Api.Authority
import TraxOs.Api.Integrity

/-!
# One workspace at a time

Journeys and ledger rows name their workspace, segments and packing items belong to that of
their journey. Every statement of a request is issued in the scope of one context and writes
rows of its workspace only. Beside others this needs the locks once more: a row that a
request changes keeps its journey until the request commits, so it is still a row of the
same workspace then.

The operator changes memberships, and nobody else does.
-/

namespace TraxOs.Api

open TraxOs.Theory

/-- A row that belongs to a workspace. -/
def Key.inWorkspace (db : Database) (workspaceId : Uuid) : (key : Key) → Row key → Prop
  | .journey _, row => row.1.workspaceId = workspaceId
  | .segment _, row => ∃ journey : StoredJourney,
    db.lookup (Key.journey row.1.journeyId) = some journey ∧ journey.1.workspaceId = workspaceId
  | .packingItem _, row => ∃ journey : StoredJourney,
    db.lookup (Key.journey row.1.journeyId) = some journey ∧ journey.1.workspaceId = workspaceId
  | .receipt owner _ _, _ => owner = workspaceId
  | .changeSet _, row => row.workspaceId = workspaceId
  | .changeEvent _, row => row.workspaceId = workspaceId
  | _, _ => False

/-- Whatever is written belongs to the workspace, before and afterwards. -/
def WritesWithin (workspaceId : Uuid) (writes : List (Write Row)) (before after : Database) : Prop :=
  ∀ key, (∃ write ∈ writes, write.key = key) →
    key.isIdentity = false ∧
      (∀ row, before.lookup key = some row → key.inWorkspace before workspaceId row) ∧
        ∀ row, after.lookup key = some row → key.inWorkspace after workspaceId row

/-- Each row is left alone, or belongs to the workspace before and afterwards. -/
def ConfinedTo (workspaceId : Uuid) (before after : Database) : Prop :=
  ∀ key, after.lookup key = before.lookup key ∨
    (key.isIdentity = false ∧
      (∀ row, before.lookup key = some row → key.inWorkspace before workspaceId row) ∧
        ∀ row, after.lookup key = some row → key.inWorkspace after workspaceId row)

section Belonging

variable {workspaceId other : Uuid} {left right before after : Database}

/-- A row stays in its workspace when its journey does. -/
theorem inWorkspace_moved (key : Key) (row : Row key) (inside : key.inWorkspace left workspaceId row)
    (present : ∀ target ∈ key.refs row, (right.lookup target).isSome = true)
    (kept : ∀ id (old new : StoredJourney), left.lookup (Key.journey id) = some old →
      old.1.workspaceId = workspaceId → right.lookup (Key.journey id) = some new →
        new.1.workspaceId = workspaceId) :
    key.inWorkspace right workspaceId row := by
  cases key with
  | segment id =>
    obtain ⟨journey, found, owner⟩ := inside
    obtain ⟨now, there⟩ := Option.isSome_iff_exists.mp (present _ (List.mem_singleton_self _))
    exact ⟨now, there, kept _ journey now found owner there⟩
  | packingItem id =>
    obtain ⟨journey, found, owner⟩ := inside
    obtain ⟨now, there⟩ := Option.isSome_iff_exists.mp (present _ (List.mem_singleton_self _))
    exact ⟨now, there, kept _ journey now found owner there⟩
  | _ => exact inside

/-- Writing within a workspace moves no journey to another one. -/
theorem WritesWithin.journeys {writes : List (Write Row)}
    (within : WritesWithin workspaceId writes before (applyAll writes before)) (id : Uuid)
    (old new : StoredJourney) (found : before.lookup (Key.journey id) = some old)
    (there : (applyAll writes before).lookup (Key.journey id) = some new) :
    new.1.workspaceId = old.1.workspaceId := by
  by_cases written : ∃ write ∈ writes, write.key = Key.journey id
  · obtain ⟨_, first, second⟩ := within (Key.journey id) written
    exact (second new there).trans (Eq.symm (first old found))
  · rw [lookup_applyAll_untouched writes before _
      fun write member same => written ⟨write, member, same⟩, found, Option.some.injEq] at there
    rw [there]

/-- Writing within a workspace decides for no other row whether it belongs to it. -/
theorem WritesWithin.inside {writes : List (Write Row)}
    (within : WritesWithin workspaceId writes before (applyAll writes before)) (key : Key)
    (row : Row key) (first : ∀ target ∈ key.refs row, (before.lookup target).isSome = true)
    (second : ∀ target ∈ key.refs row, ((applyAll writes before).lookup target).isSome = true) :
    key.inWorkspace before workspaceId row ↔
      key.inWorkspace (applyAll writes before) workspaceId row := by
  constructor
  · intro inside
    exact inWorkspace_moved key row inside second
      fun id old new there owner here => (within.journeys id old new there here).trans owner
  · intro inside
    exact inWorkspace_moved key row inside first
      fun id old new there owner here => (within.journeys id new old here there).symm.trans owner

/-- No row belongs to two workspaces. -/
theorem inWorkspace_unique (key : Key) (row : Row key)
    (first : key.inWorkspace left workspaceId row) (second : key.inWorkspace left other row) :
    workspaceId = other := by
  cases key with
  | journey id => exact first.symm.trans second
  | segment id =>
    obtain ⟨journey, found, owner⟩ := first
    obtain ⟨again, same, owner'⟩ := second
    rw [found, Option.some.injEq] at same
    subst same
    exact owner.symm.trans owner'
  | packingItem id =>
    obtain ⟨journey, found, owner⟩ := first
    obtain ⟨again, same, owner'⟩ := second
    rw [found, Option.some.injEq] at same
    subst same
    exact owner.symm.trans owner'
  | receipt owner userId commandId => exact Eq.trans (Eq.symm first) second
  | changeSet id => exact first.symm.trans second
  | changeEvent id => exact first.symm.trans second
  | _ => exact first.elim

/-- Writing within a workspace is confined to it. -/
theorem confined_of_writes (writes : List (Write Row))
    (within : WritesWithin workspaceId writes before (applyAll writes before)) :
    ConfinedTo workspaceId before (applyAll writes before) := by
  intro key
  by_cases written : ∃ write ∈ writes, write.key = key
  · exact Or.inr (within key written)
  · exact Or.inl (lookup_applyAll_untouched writes before key
      fun write member same => written ⟨write, member, same⟩)

/-- The rows of every other workspace are the same before and afterwards. -/
theorem ConfinedTo.elsewhere (confined : ConfinedTo workspaceId before after)
    (different : other ≠ workspaceId) (key : Key) (row : Row key) :
    before.lookup key = some row ∧ key.inWorkspace before other row ↔
      after.lookup key = some row ∧ key.inWorkspace after other row := by
  -- A row of the other workspace is not among those that may change.
  have forth : ∀ (key : Key) (row : Row key), before.lookup key = some row →
      key.inWorkspace before other row → after.lookup key = some row := by
    intro key row found inside
    rcases confined key with same | ⟨_, own, _⟩
    · rw [same, found]
    · exact absurd (inWorkspace_unique key row inside (own row found)) different
  have back : ∀ (key : Key) (row : Row key), after.lookup key = some row →
      key.inWorkspace after other row → before.lookup key = some row := by
    intro key row found inside
    rcases confined key with same | ⟨_, _, own⟩
    · rw [← same, found]
    · exact absurd (inWorkspace_unique key row inside (own row found)) different
  constructor
  · rintro ⟨found, inside⟩
    refine ⟨forth key row found inside, ?_⟩
    cases key with
    | segment id =>
      obtain ⟨journey, there, owner⟩ := inside
      exact ⟨journey, forth (Key.journey _) journey there owner, owner⟩
    | packingItem id =>
      obtain ⟨journey, there, owner⟩ := inside
      exact ⟨journey, forth (Key.journey _) journey there owner, owner⟩
    | _ => exact inside
  · rintro ⟨found, inside⟩
    refine ⟨back key row found inside, ?_⟩
    cases key with
    | segment id =>
      obtain ⟨journey, there, owner⟩ := inside
      exact ⟨journey, back (Key.journey _) journey there owner, owner⟩
    | packingItem id =>
      obtain ⟨journey, there, owner⟩ := inside
      exact ⟨journey, back (Key.journey _) journey there owner, owner⟩
    | _ => exact inside

end Belonging

section Statements

variable (platform : Platform) {db : Database} {scope : Scope}

theorem confines_nothing (workspaceId : Uuid) : WritesWithin workspaceId [] db db := by
  rintro key ⟨write, member, _⟩
  cases member

/-- A statement that stores one row in a workspace. -/
theorem confines_put (workspaceId : Uuid) (key : Key) (row : Row key)
    (plain : key.isIdentity = false)
    (before : ∀ old, db.lookup key = some old → key.inWorkspace db workspaceId old)
    (after : key.inWorkspace db workspaceId row) :
    WritesWithin workspaceId [.put key row] db (applyAll [.put key row] db) := by
  rintro tested ⟨write, member, same⟩
  rw [List.mem_singleton.mp member] at same
  obtain rfl : key = tested := same
  refine ⟨plain, before, fun stored found => ?_⟩
  simp only [applyAll_cons, applyAll_nil, Write.apply] at found ⊢
  rw [AList.lookup_insert, Option.some.injEq] at found
  subst found
  cases key with
  | segment id =>
    obtain ⟨journey, there, owner⟩ := after
    exact ⟨journey, by rw [AList.lookup_insert_ne (by simp)]; exact there, owner⟩
  | packingItem id =>
    obtain ⟨journey, there, owner⟩ := after
    exact ⟨journey, by rw [AList.lookup_insert_ne (by simp)]; exact there, owner⟩
  | _ => exact after

/-- A statement that drops rows of a workspace. -/
theorem confines_drops (workspaceId : Uuid) (dropped : List Key)
    (before : ∀ key ∈ dropped, key.isIdentity = false ∧
      ∀ old, db.lookup key = some old → key.inWorkspace db workspaceId old) :
    WritesWithin workspaceId (dropped.map Write.drop) db
      (applyAll (dropped.map Write.drop) db) := by
  rintro key ⟨write, member, rfl⟩
  obtain ⟨gone, among, rfl⟩ := List.mem_map.mp member
  obtain ⟨plain, inside⟩ := before gone among
  refine ⟨plain, inside, fun row found => ?_⟩
  rw [lookup_applyAll_drops, if_pos (by exact among)] at found
  cases found

/-- What is visible in a scope belongs to its workspace. -/
theorem visible_within (journeyId : Uuid) (visible : (visibleJourney db scope journeyId).isSome = true) :
    ∃ journey : StoredJourney, db.lookup (Key.journey journeyId) = some journey ∧
      journey.1.workspaceId = scope.workspaceId := by
  obtain ⟨journey, shown⟩ := Option.isSome_iff_exists.mp visible
  obtain ⟨found, owner, _⟩ := (visibleJourney_some db scope journeyId journey).mp shown
  exact ⟨journey, found, owner⟩

/-- An update of a visible journey. -/
theorem confines_journey (id : Uuid) (row stored : StoredJourney)
    (shown : visibleJourney db scope id = some row)
    (same : stored.1.workspaceId = row.1.workspaceId) :
    WritesWithin scope.workspaceId [.put (Key.journey id) stored] db
      (applyAll [.put (Key.journey id) stored] db) := by
  obtain ⟨found, owner, _⟩ := (visibleJourney_some db scope id row).mp shown
  apply confines_put _ _ _ rfl
  · intro old present
    rw [found, Option.some.injEq] at present
    subst present
    exact owner
  · exact same.trans owner

/-- An update of a visible segment in its journey. -/
theorem confines_segment (id : Uuid) (row stored : StoredSegment)
    (present : db.lookup (Key.segment id) = some row)
    (visible : (visibleJourney db scope row.1.journeyId).isSome = true)
    (inside : stored.1.journeyId = row.1.journeyId) :
    WritesWithin scope.workspaceId [.put (Key.segment id) stored] db
      (applyAll [.put (Key.segment id) stored] db) := by
  have owned := visible_within row.1.journeyId visible
  apply confines_put _ _ _ rfl
  · intro old found
    rw [present, Option.some.injEq] at found
    subst found
    exact owned
  · rw [← inside] at owned
    exact owned

/-- An update of a visible packing item in its journey. -/
theorem confines_packingItem (id : Uuid) (row stored : StoredPackingItem)
    (present : db.lookup (Key.packingItem id) = some row)
    (visible : (visibleJourney db scope row.1.journeyId).isSome = true)
    (inside : stored.1.journeyId = row.1.journeyId) :
    WritesWithin scope.workspaceId [.put (Key.packingItem id) stored] db
      (applyAll [.put (Key.packingItem id) stored] db) := by
  have owned := visible_within row.1.journeyId visible
  apply confines_put _ _ _ rfl
  · intro old found
    rw [present, Option.some.injEq] at found
    subst found
    exact owned
  · rw [← inside] at owned
    exact owned

/-- The deletion of a visible journey drops rows of its workspace. -/
theorem confines_deleteJourney (journeyId : Uuid)
    (visible : (visibleJourney db scope journeyId).isSome = true) :
    WritesWithin scope.workspaceId (.drop (.journey journeyId) :: cascade db journeyId) db
      (applyAll (.drop (.journey journeyId) :: cascade db journeyId) db) := by
  rw [cascade_drops]
  apply confines_drops
  obtain ⟨journey, there, owner⟩ := visible_within journeyId visible
  intro key member
  rcases List.mem_cons.mp member with rfl | member
  · refine ⟨rfl, fun old found => ?_⟩
    rw [there, Option.some.injEq] at found
    subst found
    exact owner
  · rcases List.mem_append.mp member with member | member
    · obtain ⟨⟨id, row⟩, among, rfl⟩ := List.mem_map.mp member
      obtain ⟨present, inside⟩ := (mem_timeline db journeyId id row).mp among
      refine ⟨rfl, fun old found => ?_⟩
      rw [present, Option.some.injEq] at found
      subst found
      exact ⟨journey, inside ▸ there, owner⟩
    · obtain ⟨⟨id, row⟩, among, rfl⟩ := List.mem_map.mp member
      obtain ⟨key, stored, present, picked⟩ := (mem_collect _ _ _).mp among
      cases key with
      | packingItem other =>
        simp only [packingItemOf] at picked
        split at picked
        · next inside =>
          simp only [Option.some.injEq, Prod.mk.injEq] at picked
          obtain ⟨rfl, rfl⟩ := picked
          refine ⟨rfl, fun old found => ?_⟩
          rw [present, Option.some.injEq] at found
          subst found
          exact ⟨journey, inside ▸ there, owner⟩
        · cases picked
      | _ => cases picked

/-- A visible packing item is stored, in a visible journey. -/
theorem visiblePackingItem_some (id : Uuid) (row : StoredPackingItem)
    (shown : visiblePackingItem db scope id = some row) :
    db.lookup (Key.packingItem id) = some row ∧
      (visibleJourney db scope row.1.journeyId).isSome = true := by
  unfold visiblePackingItem at shown
  split at shown
  · cases shown
  · next stored present =>
    split at shown
    · next visible =>
      cases shown
      exact ⟨present, visible⟩
    · cases shown

/-- A compare-and-swap of a packing item. -/
theorem confines_comparing (texts : List Text) (journeyId id : Uuid) (expected : Nat)
    (revise : PackingItem → PackingItem) (stays : ∀ row, (revise row).journeyId = row.journeyId)
    (answer : Option StoredPackingItem) (writes : List (Write Row)) (locks : Locks Key Name)
    (ran : (comparing texts expected (packingItemIn db scope journeyId id)
      (fun row => row.1.recordVersion) fun row =>
        storing (revise row.1) fun (stored : StoredPackingItem) =>
          .ran (some stored) [.put (.packingItem id) stored] []) = .ran answer writes locks) :
    WritesWithin scope.workspaceId writes db (applyAll writes db) := by
  rcases comparing_ran _ _ _ _ _ _ _ _ ran with ⟨_, rfl, _⟩ | ⟨row, found, _, swapped⟩
  · exact confines_nothing _
  · obtain ⟨admissible, swapped⟩ := (storing_ran _ _ _ _ _).mp swapped
    cases swapped
    obtain ⟨shown, _⟩ := (Option.filter_eq_some_iff).mp found
    obtain ⟨present, visible⟩ := visiblePackingItem_some id row shown
    exact confines_packingItem id row _ present visible (stays row.1)

/-- Every statement in a scope writes within its workspace. -/
theorem execute_confines (op : Op) (issued : op.scope = some scope) (answer : Res op)
    (writes : List (Write Row)) (locks : Locks Key Name)
    (ran : execute platform op db = .ran answer writes locks) :
    WritesWithin scope.workspaceId writes db (applyAll writes db) := by
  by_cases reads : op.reads = true
  · rw [reads_only platform db op reads answer writes locks ran]
    exact confines_nothing _
  · cases op with
    | insertChangeSet own id row =>
      obtain rfl : own = scope := Option.some.inj issued
      obtain ⟨free, rfl⟩ := ran_insertChangeSet platform _ _ _ _ _ _ _ ran
      apply confines_put _ _ _ rfl
      · exact fun old found => absurd (free.symm.trans found) (by simp)
      · by_contra foreign
        have outside : ¬ row.workspaceId = own.workspaceId := foreign
        simp [execute, outside] at ran
    | insertChangeEvent own id row =>
      obtain rfl : own = scope := Option.some.inj issued
      obtain ⟨free, rfl⟩ := ran_insertChangeEvent platform _ _ _ _ _ _ _ ran
      apply confines_put _ _ _ rfl
      · exact fun old found => absurd (free.symm.trans found) (by simp)
      · by_contra foreign
        have outside : ¬ row.workspaceId = own.workspaceId := foreign
        simp [execute, outside] at ran
    | insertReceipt own commandId row =>
      obtain rfl : own = scope := Option.some.inj issued
      obtain ⟨_, rfl⟩ := ran_insertReceipt platform _ _ _ _ _ _ _ ran
      exact confines_put _ _ _ rfl (fun _ _ => rfl) rfl
    | insertJourney own id row =>
      obtain rfl : own = scope := Option.some.inj issued
      obtain ⟨owner, free, same, rfl⟩ := ran_insertJourney platform _ _ _ _ _ _ _ ran
      apply confines_put _ _ _ rfl
      · exact fun old found => absurd (free.symm.trans found) (by simp)
      · rw [← same] at owner
        exact owner
    | swapJourney own id expected values now =>
      obtain rfl : own = scope := Option.some.inj issued
      rcases ran_swapJourney platform _ _ _ _ _ _ _ _ _ ran with ⟨_, rfl⟩ |
        ⟨row, stored, shown, _, revised, _, rfl⟩
      · exact confines_nothing _
      · exact confines_journey id row stored shown (by rw [revised]; rfl)
    | touchJourney own id now =>
      obtain rfl : own = scope := Option.some.inj issued
      rcases ran_touchJourney platform _ _ _ _ _ _ _ ran with ⟨_, rfl⟩ |
        ⟨row, stored, shown, touched, rfl⟩
      · exact confines_nothing _
      · exact confines_journey id row stored shown (by rw [touched]; rfl)
    | deleteJourney own id =>
      obtain rfl : own = scope := Option.some.inj issued
      rcases ran_deleteJourney platform _ _ _ _ _ _ ran with ⟨_, _, rfl⟩ | ⟨row, shown, _, rfl⟩
      · exact confines_nothing _
      · exact confines_deleteJourney id (by rw [shown]; rfl)
    | insertSegment own id row =>
      obtain rfl : own = scope := Option.some.inj issued
      obtain ⟨same, free, _, rfl⟩ := ran_insertSegment platform _ _ _ _ _ _ _ ran
      apply confines_put _ _ _ rfl
      · exact fun old found => absurd (free.symm.trans found) (by simp)
      · by_cases visible : (visibleJourney db own row.journeyId).isSome = true
        · rw [← same] at visible
          exact visible_within _ visible
        · simp [execute, visible] at ran
    | swapSegment own journeyId id expected values now =>
      obtain rfl : own = scope := Option.some.inj issued
      rcases ran_swapSegment platform _ _ _ _ _ _ _ _ _ _ ran with ⟨_, rfl⟩ |
        ⟨row, stored, shown, _, revised, _, rfl⟩
      · exact confines_nothing _
      · obtain ⟨present, inside, visible⟩ := (segmentIn_some _ _ _ _ _).mp shown
        exact confines_segment id row stored present (inside ▸ visible) (by rw [revised]; rfl)
    | shiftSegment own journeyId id =>
      obtain rfl : own = scope := Option.some.inj issued
      rcases ran_shiftSegment platform _ _ _ _ _ _ _ ran with ⟨_, rfl⟩ |
        ⟨row, stored, shown, moved, rfl⟩
      · exact confines_nothing _
      · obtain ⟨present, inside, visible⟩ := (segmentIn_some _ _ _ _ _).mp shown
        exact confines_segment id row stored present (inside ▸ visible) (by rw [moved])
    | placeSegment own id position stamp bump =>
      obtain rfl : own = scope := Option.some.inj issued
      rcases ran_placeSegment platform _ _ _ _ _ _ _ _ _ ran with ⟨_, rfl⟩ |
        ⟨row, stored, shown, placed, rfl⟩
      · exact confines_nothing _
      · obtain ⟨present, visible⟩ := (visibleSegment_some _ _ _ _).mp shown
        exact confines_segment id row stored present visible (by rw [placed]; rfl)
    | deleteSegment own id =>
      obtain rfl : own = scope := Option.some.inj issued
      rcases ran_deleteSegment platform _ _ _ _ _ _ ran with ⟨_, rfl⟩ | ⟨row, shown, rfl⟩
      · exact confines_nothing _
      · obtain ⟨present, visible⟩ := (visibleSegment_some _ _ _ _).mp shown
        refine confines_drops own.workspaceId [Key.segment id] ?_
        intro key member
        obtain rfl := List.mem_singleton.mp member
        refine ⟨rfl, fun old found => ?_⟩
        rw [present, Option.some.injEq] at found
        subst found
        exact visible_within _ visible
    | insertPackingItem own id row =>
      obtain rfl : own = scope := Option.some.inj issued
      obtain ⟨free, same, rfl⟩ := ran_addPackingItem platform _ _ _ _ _ _ _ ran
      apply confines_put _ _ _ rfl
      · exact fun old found => absurd (free.symm.trans found) (by simp)
      · by_cases visible : (visibleJourney db own row.journeyId).isSome = true
        · rw [← same] at visible
          exact visible_within _ visible
        · simp [execute, visible] at ran
    | swapPackingItem own journeyId id expected values now =>
      obtain rfl : own = scope := Option.some.inj issued
      exact confines_comparing values.texts journeyId id expected
        (fun row => row.revised values now) (fun _ => rfl) answer writes locks ran
    | swapPackingProgress own journeyId id expected packedQuantity now =>
      obtain rfl : own = scope := Option.some.inj issued
      exact confines_comparing [] journeyId id expected
        (fun row => row.progressed packedQuantity now) (fun _ => rfl) answer writes locks ran
    | deletePackingItem own id =>
      obtain rfl : own = scope := Option.some.inj issued
      simp only [execute] at ran
      split at ran
      · rw [((answered_ran _ _ _ _).mp ran).2.1]
        exact confines_nothing _
      · next row shown =>
        cases ran
        obtain ⟨present, visible⟩ := visiblePackingItem_some id row shown
        refine confines_drops own.workspaceId [Key.packingItem id] ?_
        intro key member
        obtain rfl := List.mem_singleton.mp member
        refine ⟨rfl, fun old found => ?_⟩
        rw [present, Option.some.injEq] at found
        subst found
        exact visible_within _ visible
    | writeMembership workspaceId userId role => cases issued
    | _ => simp [Op.reads] at reads

end Statements

section Discipline

variable (platform : Platform)

/-- The scopes in which a request may act: that of its context, or one of the owner of the
session that its token names. -/
def Acts (request : Request) (store : Database) (scope : Scope) : Prop :=
  match request with
  | .http credentials _ _ => ∃ session : Session,
    store.lookup (Key.session (platform.sha256 credentials.token)) = some session ∧
      session.userId = scope.userId
  | .operation context _ _ => scope = context.scope
  | .command context _ _ _ _ _ _ => scope = context.scope
  | .administer _ _ _ => False

/-- The operator changes one membership; any other commit is confined to the workspace of a
scope in which its request may act. -/
def StaysInside (request : Request) (_ : Reply) (before after : Database) : Prop :=
  (∃ workspaceId userId role, request = .administer workspaceId userId role ∧
    ∀ key, key ≠ Key.membership workspaceId userId → after.lookup key = before.lookup key) ∨
  ∃ scope, Acts platform request before scope ∧ ConfinedTo scope.workspaceId before after

/-- A request whose scope is known. -/
structure InScope (request : Request) (rest : Action Reply) (progress : Progress Name Row Res)
    (store : Database) (scope : Scope) : Prop where
  acts : Acts platform request store scope
  issued : rest.Only fun op => op.scope = some scope
  within : WritesWithin scope.workspaceId progress.writes store (progress.view store)

/-- A request that has not found its context yet, and never will if it has failed. -/
structure Starting (request : Request) (rest : Action Reply)
    (progress : Progress Name Row Res) : Prop where
  http : ∃ credentials call runtime, request = .http credentials call runtime
  waiting : rest = program platform request ∨ ∃ failure, rest = .fail failure
  clean : progress.writes = []

/-- The operator's request. -/
structure Administering (request : Request) (rest : Action Reply)
    (progress : Progress Name Row Res) (workspaceId userId : Uuid) : Prop where
  named : ∃ role, request = .administer workspaceId userId role ∧
    rest.Only fun op => op = .writeMembership workspaceId userId role
  writes : ∀ write ∈ progress.writes, write.key = Key.membership workspaceId userId

/-- Requests in their workspaces, whose rows have no dangling references. -/
def workspaceDiscipline : Discipline Name Row Res Failure Request Reply where
  Inv := Integral
  Fine request rest progress store :=
    (referenceDiscipline Key.refs : Discipline Name Row Res Failure Request Reply).Fine request rest
      progress store ∧
    (Starting platform request rest progress ∨
      (∃ workspaceId userId, Administering request rest progress workspaceId userId) ∨
        ∃ scope, InScope platform request rest progress store scope)
  Commits := StaysInside platform

variable {platform} {request other : Request} {rest : Action Reply} {reply : Reply}
  {progress mine theirs : Progress Name Row Res} {store : Database} {scope : Scope}

/-- What an HTTP request does when it knows its session. -/
def afterSession (platform : Platform) (credentials : Credentials) (call : Call)
    (runtime : Runtime) : Option (AuthContext × Text) → Action Reply
  | none => raise authenticationRequired
  | some (context, csrfHash) =>
    if call.mutates then do
      requireCsrf platform credentials csrfHash
      authorizePermission context .journeyWrite
      handle platform context runtime call
    else handle platform context runtime call

/-- The first statement of an HTTP request looks for its session. -/
theorem http_program (credentials : Credentials) (call : Call) (runtime : Runtime) :
    program platform (.http credentials call runtime) =
      if credentials.token.isEmpty then raise authenticationRequired
      else .perform (Op.findSession (platform.sha256 credentials.token) (runtime.clock 0))
        (afterSession platform credentials call runtime) := by
  unfold program routeContext mutationContext authenticate
  by_cases missing : credentials.token.isEmpty = true
  · cases mutates : call.mutates <;> simp [missing, mutates, raise]
  · cases mutates : call.mutates with
    | false =>
      simp only [missing, mutates, Bool.false_eq_true, if_false, Program.ask_bind,
        Program.perform_bind]
      congr 1
      funext found
      cases found <;> simp [afterSession, mutates, raise]
    | true =>
      simp only [missing, mutates, Bool.false_eq_true, if_false, if_true, Program.ask_bind,
        Program.perform_bind]
      congr 1
      funext found
      cases found <;> simp [afterSession, mutates, raise, Program.bind_assoc]

/-- Everything that follows is issued in the scope of the context that it finds. -/
theorem afterSession_issued (credentials : Credentials) (call : Call) (runtime : Runtime)
    (context : AuthContext) (csrfHash : Text) :
    (afterSession platform credentials call runtime (some (context, csrfHash))).Only
      fun op => op.scope = some context.scope := by
  have handled : (handle platform context runtime call).Only
      fun op => op.scope = some context.scope :=
    (handle_asks platform context runtime call).mono fun _ asked => asked.issued
  have asks : (authorizePermission context .journeyWrite).Only (Asked context.scope [] false) :=
    authorizePermission_asks context .journeyWrite
  have authorized : (authorizePermission context .journeyWrite).Only
      fun op => op.scope = some context.scope := asks.mono fun _ asked => asked.issued
  simp only [afterSession]
  split
  · apply Program.only_bind
    · unfold requireCsrf
      split <;> trivial
    · intro _
      exact Program.only_bind _ _ _ authorized fun _ => handled
  · exact handled

/-- What a peer leaves of sessions and of the workspaces of journeys. -/
structure Respects (before after : Database) : Prop where
  sessions : ∀ tokenHash, after.lookup (Key.session tokenHash) = before.lookup (Key.session tokenHash)
  journeys : ∀ id (old new : StoredJourney), before.lookup (Key.journey id) = some old →
    after.lookup (Key.journey id) = some new → new.1.workspaceId = old.1.workspaceId

/-- A request at its commit respects the others. -/
theorem respects_of_fine (fine : (workspaceDiscipline platform).Fine request (.done reply) progress
    store) : Respects store (progress.view store) := by
  rcases fine.2 with starting | ⟨workspaceId, userId, administering⟩ | ⟨scope, inScope⟩
  · rw [Progress.view, starting.clean]
    refine ⟨fun _ => rfl, fun id old new found there => ?_⟩
    rw [applyAll_nil, found, Option.some.injEq] at there
    rw [there]
  · have untouched : ∀ key, key ≠ Key.membership workspaceId userId →
        (progress.view store).lookup key = store.lookup key := by
      intro key different
      apply lookup_applyAll_untouched
      intro write member same
      exact different (same.symm.trans (administering.writes write member))
    refine ⟨fun tokenHash => untouched _ (by simp), fun id old new found there => ?_⟩
    rw [untouched _ (by simp), found, Option.some.injEq] at there
    rw [there]
  · refine ⟨fun tokenHash => ?_, inScope.within.journeys⟩
    apply lookup_applyAll_untouched
    intro write member same
    have plain := (inScope.within (Key.session tokenHash) ⟨write, member, same⟩).1
    cases plain

/-- One statement more of a request in its scope. -/
theorem InScope.extend (inScope : InScope platform request rest progress store scope)
    (op : Op) (next : Res op → Action Reply) (asks : rest = .perform op next) (answer : Res op)
    (writes : List (Write Row)) (locks : Locks Key Name)
    (ran : execute platform op (progress.view store) = .ran answer writes locks)
    (integral : Integral store)
    (resolved : Integral ((progress.extend op answer writes locks).view store)) :
    InScope platform request (next answer) (progress.extend op answer writes locks) store scope := by
  subst asks
  refine ⟨inScope.acts, inScope.issued.2 answer, ?_⟩
  have own := execute_confines platform op inScope.issued.1 answer writes locks ran
  rw [Progress.view_extend] at resolved ⊢
  intro key written
  by_cases now : ∃ write ∈ writes, write.key = key
  · obtain ⟨plain, first, second⟩ := own key now
    refine ⟨plain, fun row found => ?_, second⟩
    by_cases before : ∃ write ∈ progress.writes, write.key = key
    · exact (inScope.within key before).2.1 row found
    · -- The row was read through the buffer, and belongs to the workspace there.
      have shown : (progress.view store).lookup key = some row := by
        rw [← found]
        exact lookup_applyAll_untouched _ store key
          fun write member same => before ⟨write, member, same⟩
      apply inWorkspace_moved key row (first row shown) (integral key row found)
      intro id old new there owner here
      exact (inScope.within.journeys id new old here there).symm.trans owner
  · have earlier : ∃ write ∈ progress.writes, write.key = key := by
      obtain ⟨write, member, same⟩ := written
      rcases List.mem_append.mp member with before | after
      · exact ⟨write, before, same⟩
      · exact absurd ⟨write, after, same⟩ now
    obtain ⟨plain, first, second⟩ := inScope.within key earlier
    refine ⟨plain, first, fun row found => ?_⟩
    have shown : (progress.view store).lookup key = some row := by
      rw [← found]
      exact (lookup_applyAll_untouched writes _ key
        fun write member same => now ⟨write, member, same⟩).symm
    exact inWorkspace_moved key row (second row shown) (resolved key row found)
      fun id old new there owner here => (own.journeys id old new there here).trans owner

/-- A peer's commit leaves a request in its scope. -/
theorem InScope.beside (inScope : InScope platform request rest mine store scope)
    (respects : Respects store (theirs.view store)) (owned : Owned mine) (theirs_owned : Owned theirs)
    (free : compatible mine.locks theirs.locks = true) (integral : Integral (theirs.view store))
    (resolved : Integral (mine.view (theirs.view store))) :
    InScope platform request rest mine (theirs.view store) scope := by
  refine ⟨?_, inScope.issued, ?_⟩
  · have acts := inScope.acts
    unfold Acts at acts ⊢
    cases request with
    | http credentials call runtime =>
      obtain ⟨session, found, owner⟩ := acts
      exact ⟨session, (respects.sessions _).trans found, owner⟩
    | _ => exact acts
  · intro key written
    obtain ⟨plain, first, second⟩ := inScope.within key written
    refine ⟨plain, fun row found => ?_, fun row found => ?_⟩
    · have before : store.lookup key = some row := by
        rw [← found]
        exact (lookup_applyAll_untouched theirs.writes store key
          (written_apart owned theirs_owned free key written)).symm
      exact inWorkspace_moved key row (first row before) (integral key row found)
        fun id old new there owner here => (respects.journeys id old new there here).trans owner
    · have shown : (mine.view store).lookup key = some row := by
        rw [← found]
        exact lookup_applyAll_written mine.writes store (theirs.view store) key written
      apply inWorkspace_moved key row (second row shown) (resolved key row found)
      intro id old new there owner here
      by_cases put : ∃ write ∈ mine.writes, write.key = Key.journey id
      · have same : (mine.view (theirs.view store)).lookup (Key.journey id) =
            (mine.view store).lookup (Key.journey id) :=
          lookup_applyAll_written mine.writes _ _ _ put
        rw [same, there, Option.some.injEq] at here
        exact here ▸ owner
      · have spared : ∀ write ∈ mine.writes, write.key ≠ Key.journey id :=
          fun write member same => put ⟨write, member, same⟩
        rw [Progress.view, lookup_applyAll_untouched mine.writes _ _ spared] at there here
        exact (respects.journeys id old new there here).trans owner

/-- The first statement of a request that has not found its context. -/
theorem starting_proceeds {op : Op} {next : Res op → Action Reply}
    (starting : Starting platform request (.perform op next) progress)
    (answer : Res op) (writes : List (Write Row)) (locks : Locks Key Name)
    (ran : execute platform op (progress.view store) = .ran answer writes locks) :
    Starting platform request (next answer) (progress.extend op answer writes locks) ∨
      ∃ scope, InScope platform request (next answer) (progress.extend op answer writes locks) store
        scope := by
  obtain ⟨credentials, call, runtime, rfl⟩ := starting.http
  have begun : program platform (.http credentials call runtime) = .perform op next := by
    rcases starting.waiting with same | ⟨failure, failed⟩
    · exact same.symm
    · cases failed
  rw [http_program] at begun
  split at begun
  · cases begun
  · obtain ⟨rfl, later⟩ := Program.perform.inj begun
    obtain rfl := eq_of_heq later
    rw [Progress.view, starting.clean, applyAll_nil] at ran
    obtain ⟨found, rfl, rfl⟩ := ran_findSession platform _ _ _ _ _ _ ran
    have clean : (progress.extend (Op.findSession (platform.sha256 credentials.token)
        (runtime.clock 0)) answer [] []).writes = [] := by
      simp [Progress.extend, starting.clean]
    cases answer with
    | none => exact Or.inl ⟨⟨_, _, _, rfl⟩, Or.inr ⟨_, rfl⟩, clean⟩
    | some entry =>
      obtain ⟨context, csrfHash⟩ := entry
      obtain ⟨session, present, owner⟩ := findSession_some store _ _ _ _ found.symm
      refine Or.inr ⟨context.scope, ⟨session, present, owner⟩,
        afterSession_issued credentials call runtime context csrfHash, ?_⟩
      rw [clean]
      rintro key ⟨write, member, _⟩
      cases member

variable (platform)

/-- The executor issues its statements in the scope of its context. -/
theorem command_issued (context : AuthContext) (commandId : Uuid) (commandType : String)
    (commandVersion : Nat) (payload : JourneyUpdateCommandPayload) (origin : Origin)
    (runtime : Runtime) :
    (program platform (.command context commandId commandType commandVersion payload origin
      runtime)).Only fun op => op.scope = some context.scope := by
  have asks : (executeJourneyUpdate platform context runtime commandId commandType commandVersion
      payload origin).Only (Asked context.scope
        [.changeSet runtime.changeSetId, .changeEvent runtime.eventId] false) :=
    executeJourneyUpdate_asks platform context runtime commandId commandType commandVersion payload
      origin (by simp) (by simp)
  apply Program.only_bind
  · exact asks.mono fun _ asked => asked.issued
  · intro result
    split <;> trivial

/-- Requests stay in their workspaces beside each other. -/
theorem workspaces_disciplined : (workspaceDiscipline platform).Kept (plainApi platform) := by
  have references : (referenceDiscipline Key.refs :
      Discipline Name Row Res Failure Request Reply).Kept (plainApi platform) :=
    references_disciplined (execute_minds platform fun _ _ _ _ => true)
  have nothing : ∀ (workspaceId : Uuid) (store : Database), WritesWithin workspaceId
      (Progress.empty : Progress Name Row Res).writes store
        ((Progress.empty : Progress Name Row Res).view store) := by
    rintro workspaceId store key ⟨write, member, _⟩
    cases member
  constructor
  · intro request store integral
    refine ⟨references.starts request store integral, ?_⟩
    cases request with
    | http credentials call runtime => exact Or.inl ⟨⟨_, _, _, rfl⟩, Or.inl rfl, rfl⟩
    | operation context call runtime =>
      refine Or.inr (Or.inr ⟨context.scope, rfl, ?_, nothing _ store⟩)
      exact (handle_asks platform context runtime call).mono fun _ asked => asked.issued
    | command context commandId commandType commandVersion payload origin runtime =>
      exact Or.inr (Or.inr ⟨context.scope, rfl, command_issued platform context commandId
        commandType commandVersion payload origin runtime, nothing _ store⟩)
    | administer workspaceId userId role =>
      exact Or.inr (Or.inl ⟨workspaceId, userId, ⟨role, rfl, rfl, fun _ => trivial⟩,
        fun write member => by cases member⟩)
  · intro request op next progress store answer writes locks integral fine ran
    have grown := references.proceeds request op next progress store answer writes locks integral
      fine.1 ran
    refine ⟨grown, ?_⟩
    rcases fine.2 with starting | ⟨workspaceId, userId, administering⟩ | ⟨scope, inScope⟩
    · rcases starting_proceeds starting answer writes locks ran with still | inScope
      · exact Or.inl still
      · exact Or.inr (Or.inr inScope)
    · obtain ⟨role, named, only⟩ := administering.named
      refine Or.inr (Or.inl ⟨workspaceId, userId, ⟨role, named, only.2 answer⟩, ?_⟩)
      intro write member
      rcases List.mem_append.mp member with before | now
      · exact administering.writes write before
      · obtain rfl := only.1
        cases ran
        cases role <;> exact List.mem_singleton.mp now ▸ rfl
    · exact Or.inr (Or.inr ⟨scope, inScope.extend op next rfl answer writes locks ran integral
        grown.1⟩)
  · intro request reply progress store integral fine
    refine ⟨fine.1.1, ?_⟩
    rcases fine.2 with starting | ⟨workspaceId, userId, administering⟩ | ⟨scope, inScope⟩
    · obtain ⟨credentials, call, runtime, rfl⟩ := starting.http
      rcases starting.waiting with begun | ⟨failure, failed⟩
      · rw [http_program] at begun
        split at begun <;> cases begun
      · cases failed
    · obtain ⟨role, named, _⟩ := administering.named
      refine Or.inl ⟨workspaceId, userId, role, named, fun key different => ?_⟩
      apply lookup_applyAll_untouched
      intro write member same
      exact different (same.symm.trans (administering.writes write member))
    · exact Or.inr ⟨scope, inScope.acts, confined_of_writes progress.writes inScope.within⟩
  · intro request rest mine other reply theirs store integral fine theirs_fine owned theirs_owned
      free
    have beside := references.peers request rest mine other reply theirs store integral fine.1
      theirs_fine.1 owned theirs_owned free
    refine ⟨beside, ?_⟩
    rcases fine.2 with starting | administering | ⟨scope, inScope⟩
    · exact Or.inl starting
    · exact Or.inr (Or.inl administering)
    · exact Or.inr (Or.inr ⟨scope, inScope.beside (respects_of_fine theirs_fine) owned theirs_owned
        free theirs_fine.1.1 beside.1⟩)

end Discipline

end TraxOs.Api
