import TraxOs.Api.Statements

/-!
# What a statement did

The facts that follow from the answer of a statement, one lemma for each kind.
Programs are analysed with these facts and never unfold a statement again.

Most statements either read, or change rows of segments and packing items only.
The few others concern memberships, journeys and the ledger, and each of them has
a lemma of its own that gives its guards and its writes.
-/

namespace TraxOs.Api

open TraxOs.Theory

/-- Keys of the rows that belong to a journey. -/
def Key.isPart : Key → Bool
  | .segment _ => true
  | .packingItem _ => true
  | _ => false

/-- Statements that write nothing. -/
def Op.reads : Op → Bool
  | .findSession _ _ => true
  | .lockMembership _ => true
  | .lockCommand _ _ => true
  | .selectReceipt _ _ => true
  | .listJourneys _ => true
  | .selectJourney _ _ _ => true
  | .listSegments _ _ => true
  | .selectSegment _ _ _ => true
  | .nextPosition _ _ => true
  | .listPacking _ _ => true
  | .selectPackingItem _ _ _ => true
  | _ => false

/-- Statements that ask who somebody is. -/
def Op.identifies : Op → Bool
  | .findSession _ _ => true
  | .lockMembership _ => true
  | _ => false

/-- Statements that write rows of segments and packing items, if any. -/
def Op.changesParts (op : Op) : Bool :=
  op.reads ||
    match op with
    | .insertSegment _ _ _ => true
    | .swapSegment _ _ _ _ _ _ => true
    | .shiftSegment _ _ _ => true
    | .placeSegment _ _ _ _ _ => true
    | .deleteSegment _ _ => true
    | .insertPackingItem _ _ _ => true
    | .swapPackingItem _ _ _ _ _ _ => true
    | .swapPackingProgress _ _ _ _ _ _ => true
    | .deletePackingItem _ _ => true
    | _ => false

section Answers

variable {α : Type}

@[simp] theorem answered_ran (given answer : α) (writes : List (Write Row))
    (locks : Locks Key Name) :
    answered given = .ran answer writes locks ↔ given = answer ∧ writes = [] ∧ locks = [] := by
  simp only [answered, Outcome.ran.injEq, eq_comm (a := []) (b := writes),
    eq_comm (a := []) (b := locks)]

@[simp] theorem refused_ran (error : DatabaseError) (answer : α) (writes : List (Write Row))
    (locks : Locks Key Name) : (refused error : Effect α) = .ran answer writes locks ↔ False := by
  simp [refused]

/-- A stored row satisfies its constraints; otherwise the statement is refused. -/
@[simp] theorem storing_ran {T : Type} {Admissible : T → Prop} [DecidablePred Admissible] (row : T)
    (effect : { row : T // Admissible row } → Effect α) (answer : α)
    (writes : List (Write Row)) (locks : Locks Key Name) :
    storing row effect = .ran answer writes locks ↔
      ∃ admissible : Admissible row, effect ⟨row, admissible⟩ = .ran answer writes locks := by
  unfold storing
  split
  · next admissible => simp [admissible]
  · next inadmissible => simp [inadmissible]

/-- A compare-and-swap either finds nothing to swap, or swaps the row that it found
at the expected version. -/
theorem comparing_ran {T : Type} (texts : List Text) (expected : Nat) (found : Option T) (version : T → Nat)
    (swap : T → Effect (Option α)) (answer : Option α) (writes : List (Write Row))
    (locks : Locks Key Name)
    (ran : comparing texts expected found version swap = .ran answer writes locks) :
    (answer = none ∧ writes = [] ∧ locks = []) ∨
      ∃ row, found = some row ∧ version row = expected ∧ swap row = .ran answer writes locks := by
  unfold comparing at ran
  split at ran
  · simp at ran
  · cases found with
    | none =>
      obtain ⟨rfl, rfl, rfl⟩ := (answered_ran _ _ _ _).mp ran
      exact Or.inl ⟨rfl, rfl, rfl⟩
    | some row =>
      by_cases same : version row = expected
      · simp only [same, if_true] at ran
        exact Or.inr ⟨row, rfl, same, ran⟩
      · simp only [same, if_false] at ran
        obtain ⟨rfl, rfl, rfl⟩ := (answered_ran _ _ _ _).mp ran
        exact Or.inl ⟨rfl, rfl, rfl⟩

/-- A compare-and-swap of a part writes only that part. -/
theorem comparing_parts {T : Type} {Admissible : T → Prop} [DecidablePred Admissible]
    (texts : List Text) (expected : Nat) (found : Option { row : T // Admissible row }) (key : Key)
    (change : T → T) (version : { row : T // Admissible row } → Nat)
    (put : { row : T // Admissible row } → Row key)
    (answer : Option { row : T // Admissible row }) (writes : List (Write Row))
    (locks : Locks Key Name) (part : key.isPart = true)
    (ran : (comparing texts expected found version fun row =>
      storing (change row.1) fun stored => .ran (some stored) [.put key (put stored)] []) =
        .ran answer writes locks) :
    ∀ write ∈ writes, write.key.isPart = true := by
  rcases comparing_ran _ _ _ _ _ _ _ _ ran with ⟨_, rfl, _⟩ | ⟨row, _, _, swapped⟩
  · simp
  · obtain ⟨admissible, swapped⟩ := (storing_ran _ _ _ _ _).mp swapped
    cases swapped
    simp [Write.key, part]

end Answers

section Reading

variable (platform : Platform) (db : Database)

/-- A reading statement writes nothing. -/
theorem reads_only (op : Op) (reads : op.reads = true) (answer : Res op)
    (writes : List (Write Row)) (locks : Locks Key Name)
    (ran : execute platform op db = .ran answer writes locks) : writes = [] := by
  cases op with
  | lockMembership scope =>
    simp only [execute] at ran
    split at ran
    · exact ((answered_ran _ _ _ _).mp ran).2.1
    · cases ran
      rfl
  | lockCommand scope commandId =>
    cases ran
    rfl
  | selectJourney scope id forUpdate =>
    simp only [execute] at ran
    split at ran
    · exact ((answered_ran _ _ _ _).mp ran).2.1
    · cases ran
      rfl
  | findSession tokenHash now => exact ((answered_ran _ _ _ _).mp ran).2.1
  | selectReceipt scope commandId => exact ((answered_ran _ _ _ _).mp ran).2.1
  | listJourneys scope => exact ((answered_ran _ _ _ _).mp ran).2.1
  | listSegments scope journeyId => exact ((answered_ran _ _ _ _).mp ran).2.1
  | selectSegment scope journeyId id => exact ((answered_ran _ _ _ _).mp ran).2.1
  | nextPosition scope journeyId => exact ((answered_ran _ _ _ _).mp ran).2.1
  | listPacking scope journeyId => exact ((answered_ran _ _ _ _).mp ran).2.1
  | selectPackingItem scope journeyId id => exact ((answered_ran _ _ _ _).mp ran).2.1
  | _ => simp [Op.reads] at reads

/-- A moved segment is written at its own key. -/
theorem relocate_parts (id : Uuid) (row : StoredSegment) (moved : Segment) (answer : Unit)
    (writes : List (Write Row)) (locks : Locks Key Name)
    (ran : relocate db id row moved = .ran answer writes locks) :
    ∀ write ∈ writes, write.key.isPart = true := by
  simp only [relocate, storing_ran] at ran
  obtain ⟨admissible, ran⟩ := ran
  split at ran
  · simp at ran
  · cases ran
    simp [Write.key, Key.isPart]

/-- A statement on the parts of a journey writes only such rows. -/
theorem changes_parts (op : Op) (parts : op.changesParts = true) (answer : Res op)
    (writes : List (Write Row)) (locks : Locks Key Name)
    (ran : execute platform op db = .ran answer writes locks) :
    ∀ write ∈ writes, write.key.isPart = true := by
  by_cases reads : op.reads = true
  · rw [reads_only platform db op reads answer writes locks ran]
    simp
  · cases op with
    | insertSegment scope id row =>
      simp only [execute] at ran
      split at ran
      · obtain ⟨admissible, ran⟩ := (storing_ran _ _ _ _ _).mp ran
        split at ran
        · simp at ran
        · cases ran
          simp [Write.key, Key.isPart]
      · simp at ran
    | swapSegment scope journeyId id expected values now =>
      exact comparing_parts _ expected _ (.segment id) (fun (row : Segment) => row.revised values now)
        _ (fun stored => stored) _ _ _ rfl ran
    | shiftSegment scope journeyId id =>
      simp only [execute] at ran
      split at ran
      · simp [((answered_ran _ _ _ _).mp ran).2.1]
      · exact relocate_parts db _ _ _ _ writes locks ran
    | placeSegment scope id position stamp bump =>
      simp only [execute] at ran
      split at ran
      · simp [((answered_ran _ _ _ _).mp ran).2.1]
      · exact relocate_parts db _ _ _ _ writes locks ran
    | deleteSegment scope id =>
      simp only [execute] at ran
      split at ran
      · simp [((answered_ran _ _ _ _).mp ran).2.1]
      · cases ran
        simp [Write.key, Key.isPart]
    | insertPackingItem scope id row =>
      simp only [execute] at ran
      split at ran
      · obtain ⟨admissible, ran⟩ := (storing_ran _ _ _ _ _).mp ran
        split at ran
        · simp at ran
        · cases ran
          simp [Write.key, Key.isPart]
      · simp at ran
    | swapPackingItem scope journeyId id expected values now =>
      exact comparing_parts _ expected _ (.packingItem id)
        (fun (row : PackingItem) => row.revised values now) _ (fun stored => stored) _ _ _ rfl ran
    | swapPackingProgress scope journeyId id expected packedQuantity now =>
      exact comparing_parts _ expected _ (.packingItem id)
        (fun (row : PackingItem) => row.progressed packedQuantity now) _ (fun stored => stored)
        _ _ _ rfl ran
    | deletePackingItem scope id =>
      simp only [execute] at ran
      split at ran
      · simp [((answered_ran _ _ _ _).mp ran).2.1]
      · cases ran
        simp [Write.key, Key.isPart]
    | _ => simp [Op.changesParts, Op.reads] at parts reads

end Reading

section Central

variable (platform : Platform) (db : Database)

/-- A visible journey is stored, belongs to the selected workspace, and the actor
is a member of that workspace. -/
theorem visibleJourney_some (scope : Scope) (id : Uuid) (row : StoredJourney) :
    visibleJourney db scope id = some row ↔
      db.lookup (Key.journey id) = some row ∧ row.1.workspaceId = scope.workspaceId ∧
        isMember db scope = true := by
  simp only [visibleJourney]
  cases found : db.lookup (Key.journey id) with
  | none => simp
  | some stored =>
    simp only [Option.ite_none_right_eq_some, Option.some.injEq]
    constructor
    · rintro ⟨⟨owner, member⟩, rfl⟩
      exact ⟨rfl, owner, member⟩
    · rintro ⟨rfl, owner, member⟩
      exact ⟨⟨owner, member⟩, rfl⟩

/-- `lockMembership` answers with the current role and locks the row it read. -/
theorem ran_lockMembership (scope : Scope) (answer : Option Role) (writes : List (Write Row))
    (locks : Locks Key Name)
    (ran : execute platform (.lockMembership scope) db = .ran answer writes locks) :
    writes = [] ∧
      ((db.lookup (Key.membership scope.workspaceId scope.userId) = none ∧ answer = none) ∨
        ∃ row : Membership,
          db.lookup (Key.membership scope.workspaceId scope.userId) = some row ∧
            answer = some row.role ∧
              (Resource.row (Key.membership scope.workspaceId scope.userId), LockMode.share) ∈
                locks) := by
  simp only [execute] at ran
  split at ran
  · next missing =>
    obtain ⟨rfl, rfl, rfl⟩ := (answered_ran _ _ _ _).mp ran
    exact ⟨rfl, Or.inl ⟨missing, rfl⟩⟩
  · next row found =>
    cases ran
    exact ⟨rfl, Or.inr ⟨row, found, rfl, List.mem_singleton.mpr rfl⟩⟩

/-- `selectJourney` answers with the visible row, and locks it when it is read for
update. -/
theorem ran_selectJourney (scope : Scope) (id : Uuid) (forUpdate : Bool)
    (answer : Option StoredJourney) (writes : List (Write Row)) (locks : Locks Key Name)
    (ran : execute platform (.selectJourney scope id forUpdate) db = .ran answer writes locks) :
    writes = [] ∧ answer = visibleJourney db scope id ∧
      (forUpdate = true → answer.isSome = true →
        (Resource.row (Key.journey id), LockMode.update) ∈ locks) := by
  simp only [execute] at ran
  split at ran
  · next missing =>
    obtain ⟨rfl, rfl, rfl⟩ := (answered_ran _ _ _ _).mp ran
    exact ⟨rfl, missing.symm, by simp⟩
  · next row found =>
    cases ran
    refine ⟨rfl, found.symm, ?_⟩
    rintro rfl _
    exact List.mem_singleton.mpr rfl

/-- The context that a session yields is its owner's. -/
theorem findSession_some (tokenHash : Text) (now : Timestamp) (context : AuthContext)
    (csrfHash : Text) (found : findSession db tokenHash now = some (context, csrfHash)) :
    ∃ session, db.lookup (Key.session tokenHash) = some session ∧
      session.userId = context.userId := by
  simp only [findSession] at found
  split at found
  · cases found
  · next session present =>
    split at found
    · split at found
      · cases found
        exact ⟨session, present, rfl⟩
      · cases found
    · cases found

/-- `findSession` only reads. -/
theorem ran_findSession (tokenHash : Text) (now : Timestamp)
    (answer : Option (AuthContext × Text)) (writes : List (Write Row)) (locks : Locks Key Name)
    (ran : execute platform (.findSession tokenHash now) db = .ran answer writes locks) :
    answer = findSession db tokenHash now ∧ writes = [] ∧ locks = [] := by
  obtain ⟨rfl, rfl, rfl⟩ := (answered_ran _ _ _ _).mp ran
  exact ⟨rfl, rfl, rfl⟩

/-- `selectReceipt` shows the actor's own receipts only. -/
theorem ran_selectReceipt (scope : Scope) (commandId : Uuid) (answer : Option CommandReceipt)
    (writes : List (Write Row)) (locks : Locks Key Name)
    (ran : execute platform (.selectReceipt scope commandId) db = .ran answer writes locks) :
    writes = [] ∧ locks = [] ∧ answer = if isMember db scope then
      db.lookup (Key.receipt scope.workspaceId scope.userId commandId) else none := by
  obtain ⟨rfl, rfl, rfl⟩ := (answered_ran _ _ _ _).mp ran
  exact ⟨rfl, rfl, rfl⟩

/-- `swapJourney` revises the visible row when it has the expected version. -/
theorem ran_swapJourney (scope : Scope) (id : Uuid) (expected : Nat) (values : JourneyValues)
    (now : Timestamp) (answer : Option StoredJourney) (writes : List (Write Row))
    (locks : Locks Key Name)
    (ran : execute platform (.swapJourney scope id expected values now) db =
      .ran answer writes locks) :
    (answer = none ∧ writes = []) ∨
      ∃ row stored : StoredJourney, visibleJourney db scope id = some row ∧
        row.1.recordVersion = expected ∧ stored.1 = row.1.revised values now ∧
          answer = some stored ∧ writes = [.put (Key.journey id) stored] := by
  rcases comparing_ran _ _ _ _ _ _ _ _ ran with ⟨rfl, rfl, _⟩ | ⟨row, found, same, swapped⟩
  · exact Or.inl ⟨rfl, rfl⟩
  · obtain ⟨admissible, swapped⟩ := (storing_ran _ _ _ _ _).mp swapped
    cases swapped
    exact Or.inr ⟨row, ⟨row.1.revised values now, admissible⟩, found, same, rfl, rfl, rfl⟩

/-- `touchJourney` counts one change of the visible row. -/
theorem ran_touchJourney (scope : Scope) (id : Uuid) (now : Timestamp) (answer : Unit)
    (writes : List (Write Row)) (locks : Locks Key Name)
    (ran : execute platform (.touchJourney scope id now) db = .ran answer writes locks) :
    (visibleJourney db scope id = none ∧ writes = []) ∨
      ∃ row stored : StoredJourney, visibleJourney db scope id = some row ∧
        stored.1 = row.1.touched now ∧ writes = [.put (Key.journey id) stored] := by
  simp only [execute] at ran
  split at ran
  · next missing =>
    obtain ⟨rfl, rfl, rfl⟩ := (answered_ran _ _ _ _).mp ran
    exact Or.inl ⟨missing, rfl⟩
  · next row found =>
    obtain ⟨admissible, ran⟩ := (storing_ran _ _ _ _ _).mp ran
    cases ran
    exact Or.inr ⟨row, ⟨row.1.touched now, admissible⟩, found, rfl, rfl⟩

/-- `insertJourney` stores the given row under an identifier that was free. -/
theorem ran_insertJourney (scope : Scope) (id : Uuid) (row : Journey) (answer : StoredJourney)
    (writes : List (Write Row)) (locks : Locks Key Name)
    (ran : execute platform (.insertJourney scope id row) db = .ran answer writes locks) :
    row.workspaceId = scope.workspaceId ∧ db.lookup (Key.journey id) = none ∧ answer.1 = row ∧
      writes = [.put (Key.journey id) answer] := by
  simp only [execute] at ran
  split at ran
  · simp at ran
  · next inside =>
    obtain ⟨admissible, ran⟩ := (storing_ran _ _ _ _ _).mp ran
    split at ran
    · simp at ran
    · next free =>
      cases ran
      refine ⟨?_, ?_, rfl, rfl⟩
      · exact not_not.mp fun foreign => inside (Or.inl foreign)
      · exact Option.not_isSome_iff_eq_none.mp free

/-- The cascade of a deletion drops parts only. -/
theorem cascade_parts (journeyId : Uuid) :
    ∀ write ∈ cascade db journeyId, write.key.isPart = true := by
  intro write member
  simp only [cascade, List.mem_append, List.mem_map] at member
  rcases member with ⟨entry, _, rfl⟩ | ⟨entry, _, rfl⟩ <;> rfl

/-- `deleteJourney` drops the visible row and what belongs to it. -/
theorem ran_deleteJourney (scope : Scope) (id : Uuid) (answer : Bool)
    (writes : List (Write Row)) (locks : Locks Key Name)
    (ran : execute platform (.deleteJourney scope id) db = .ran answer writes locks) :
    (visibleJourney db scope id = none ∧ answer = false ∧ writes = []) ∨
      ∃ row : StoredJourney, visibleJourney db scope id = some row ∧ answer = true ∧
        writes = .drop (Key.journey id) :: cascade db id := by
  simp only [execute] at ran
  split at ran
  · next missing =>
    obtain ⟨rfl, rfl, rfl⟩ := (answered_ran _ _ _ _).mp ran
    exact Or.inl ⟨missing, rfl, rfl⟩
  · next row found =>
    cases ran
    exact Or.inr ⟨row, found, rfl, rfl⟩

/-- `insertChangeSet` stores a row of the selected actor under a free identifier. -/
theorem ran_insertChangeSet (scope : Scope) (id : Uuid) (row : CommandChangeSet) (answer : Unit)
    (writes : List (Write Row)) (locks : Locks Key Name)
    (ran : execute platform (.insertChangeSet scope id row) db = .ran answer writes locks) :
    db.lookup (Key.changeSet id) = none ∧ writes = [.put (Key.changeSet id) row] := by
  simp only [execute] at ran
  split at ran
  · simp at ran
  · split at ran
    · simp at ran
    · next free =>
      cases ran
      exact ⟨Option.not_isSome_iff_eq_none.mp fun taken => free (Or.inl taken), rfl⟩

/-- `insertChangeEvent` stores the given row under a free identifier. -/
theorem ran_insertChangeEvent (scope : Scope) (id : Uuid) (row : CommandChangeEvent)
    (answer : Unit) (writes : List (Write Row)) (locks : Locks Key Name)
    (ran : execute platform (.insertChangeEvent scope id row) db = .ran answer writes locks) :
    db.lookup (Key.changeEvent id) = none ∧ writes = [.put (Key.changeEvent id) row] := by
  simp only [execute] at ran
  split at ran
  · simp at ran
  · split at ran
    · simp at ran
    · split at ran
      · simp at ran
      · next free =>
        split at ran
        · cases ran
          exact ⟨Option.not_isSome_iff_eq_none.mp fun taken => free (Or.inl taken), rfl⟩
        · simp at ran

/-- `insertReceipt` stores the given row for a command that had no receipt. -/
theorem ran_insertReceipt (scope : Scope) (commandId : Uuid) (row : CommandReceipt)
    (answer : Unit) (writes : List (Write Row)) (locks : Locks Key Name)
    (ran : execute platform (.insertReceipt scope commandId row) db = .ran answer writes locks) :
    db.lookup (Key.receipt scope.workspaceId scope.userId commandId) = none ∧
      writes = [.put (Key.receipt scope.workspaceId scope.userId commandId) row] := by
  simp only [execute] at ran
  split at ran
  · split at ran
    · simp at ran
    · next free =>
      split at ran
      · cases ran
        exact ⟨Option.not_isSome_iff_eq_none.mp free, rfl⟩
      · simp at ran
  · simp at ran

end Central

end TraxOs.Api
