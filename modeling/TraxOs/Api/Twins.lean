import TraxOs.Api.Confinement

/-!
# Databases that show a workspace the same

Twins agree on who is who and on the rows of one workspace. They may differ in everything
that belongs to other workspaces, except that certain identifiers are taken there in both or
in neither: primary keys are unique across workspaces, so an insertion tells whether its
identifier is taken.

Every statement in a scope of the workspace does the same to twins and leaves twins behind.
The insertion of a change event is a special case: its uniqueness is looked up by the change
set, which has to be one of the workspace's own.
-/

namespace TraxOs.Api

open TraxOs.Theory

/-- The order of texts under the collation of the database decides any two texts, and tells
different ones apart. -/
structure Platform.Collates (platform : Platform) : Prop where
  ordering : TotalComparison platform.collate
  distinct : ∀ left right, platform.collate left right = true →
    platform.collate right left = true → left = right

/-- References resolve, and a change event belongs to the workspace of its change set. -/
structure Consistent (db : Database) : Prop where
  integral : Integral db
  events : ∀ id (row : CommandChangeEvent), db.lookup (Key.changeEvent id) = some row →
    ∃ changeSet : CommandChangeSet, db.lookup (Key.changeSet row.changeSetId) = some changeSet ∧
      changeSet.workspaceId = row.workspaceId

/-- A row of the workspace. -/
def Shows (workspaceId : Uuid) (db : Database) (key : Key) (row : Row key) : Prop :=
  db.lookup key = some row ∧ key.inWorkspace db workspaceId row

/-- The key is taken by a row outside the workspace. -/
def HeldElsewhere (workspaceId : Uuid) (db : Database) (key : Key) : Prop :=
  ∃ row, db.lookup key = some row ∧ ¬ key.inWorkspace db workspaceId row

/-- Two consistent databases that know the same people and have the same rows in the
workspace. -/
structure AlikeIn (workspaceId : Uuid) (left right : Database) : Prop where
  identities : SameIdentities left right
  rows : ∀ key row, Shows workspaceId left key row ↔ Shows workspaceId right key row
  left : Consistent left
  right : Consistent right

/-- Moreover, of certain keys the same are taken elsewhere. -/
structure Twins (workspaceId : Uuid) (inserted : List Key) (left right : Database) : Prop where
  alike : AlikeIn workspaceId left right
  taken : ∀ key ∈ inserted, HeldElsewhere workspaceId left key ↔ HeldElsewhere workspaceId right key

theorem AlikeIn.symm {workspaceId : Uuid} {left right : Database}
    (alike : AlikeIn workspaceId left right) : AlikeIn workspaceId right left where
  identities key identity := (alike.identities key identity).symm
  rows key row := (alike.rows key row).symm
  left := alike.right
  right := alike.left

section Consistency

variable (platform : Platform) {db : Database}

/-- Statements that store rows of the history of commands. -/
def Op.records : Op → Bool
  | .insertChangeSet _ _ _ => true
  | .insertChangeEvent _ _ _ => true
  | _ => false

/-- Other statements write no change set and no change event. -/
theorem recordless_writes (op : Op) (recordless : op.records = false) (answer : Res op)
    (writes : List (Write Row)) (locks : Locks Key Name)
    (ran : execute platform op db = .ran answer writes locks) :
    ∀ write ∈ writes, ∀ id, write.key ≠ .changeSet id ∧ write.key ≠ .changeEvent id := by
  have elsewhere : ∀ key : Key, key.isPart = true →
      ∀ id, key ≠ .changeSet id ∧ key ≠ .changeEvent id := by
    intro key part id
    constructor <;> rintro rfl <;> cases part
  by_cases parts : op.changesParts = true
  · intro write member
    exact elsewhere _ (changes_parts platform db op parts answer writes locks ran write member)
  · cases op with
    | insertReceipt scope commandId row =>
      obtain ⟨_, rfl⟩ := ran_insertReceipt platform _ _ _ _ _ _ _ ran
      simp [Write.key]
    | insertJourney scope id row =>
      obtain ⟨_, _, _, rfl⟩ := ran_insertJourney platform _ _ _ _ _ _ _ ran
      simp [Write.key]
    | swapJourney scope id expected values now =>
      rcases ran_swapJourney platform _ _ _ _ _ _ _ _ _ ran with ⟨_, rfl⟩ |
        ⟨_, _, _, _, _, _, rfl⟩ <;> simp [Write.key]
    | touchJourney scope id now =>
      rcases ran_touchJourney platform _ _ _ _ _ _ _ ran with ⟨_, rfl⟩ | ⟨_, _, _, _, rfl⟩ <;>
        simp [Write.key]
    | deleteJourney scope id =>
      rcases ran_deleteJourney platform _ _ _ _ _ _ ran with ⟨_, _, rfl⟩ | ⟨_, _, _, rfl⟩
      · simp
      · intro write member
        rcases List.mem_cons.mp member with rfl | member
        · simp [Write.key]
        · exact elsewhere _ (cascade_parts db id write member)
    | writeMembership workspaceId userId role =>
      cases ran
      cases role <;> simp [Write.key]
    | _ => simp [Op.changesParts, Op.reads, Op.records] at parts recordless

/-- Every statement keeps a database consistent. -/
theorem execute_consistent (op : Op) (answer : Res op) (writes : List (Write Row))
    (locks : Locks Key Name) (consistent : Consistent db)
    (ran : execute platform op db = .ran answer writes locks) :
    Consistent (applyAll writes db) := by
  have integral := (execute_minds platform (fun _ _ _ _ => true) op db answer writes locks
    consistent.integral ran).1
  refine ⟨integral, ?_⟩
  by_cases recordless : op.records = false
  · have spared := recordless_writes platform op recordless answer writes locks ran
    intro id row found
    rw [lookup_applyAll_untouched writes db _
      fun write member => (spared write member id).2] at found
    obtain ⟨changeSet, present, owner⟩ := consistent.events id row found
    refine ⟨changeSet, ?_, owner⟩
    rw [lookup_applyAll_untouched writes db _ fun write member => (spared write member _).1]
    exact present
  · cases op with
    | insertChangeSet scope setId stored =>
      obtain ⟨free, rfl⟩ := ran_insertChangeSet platform _ _ _ _ _ _ _ ran
      intro id row found
      simp only [applyAll_cons, applyAll_nil, Write.apply] at found ⊢
      rw [AList.lookup_insert_ne (by simp)] at found
      obtain ⟨changeSet, present, owner⟩ := consistent.events id row found
      refine ⟨changeSet, ?_, owner⟩
      by_cases same : row.changeSetId = setId
      · rw [same, free] at present
        cases present
      · rw [AList.lookup_insert_ne (by simpa using same)]
        exact present
    | insertChangeEvent scope eventId stored =>
      have inside : eventInScope db stored = true := by
        by_contra outside
        simp only [execute, if_neg outside] at ran
        split at ran
        · simp at ran
        · split at ran
          · simp at ran
          · split at ran <;> simp at ran
      obtain ⟨_, rfl⟩ := ran_insertChangeEvent platform _ _ _ _ _ _ _ ran
      obtain ⟨changeSet, present, fits⟩ := (Option.any_eq_true _ _).mp inside
      have owner : changeSet.workspaceId = stored.workspaceId := (of_decide_eq_true fits).1
      intro id row found
      simp only [applyAll_cons, applyAll_nil, Write.apply] at found ⊢
      rw [AList.lookup_insert_ne (by simp)]
      by_cases same : id = eventId
      · subst same
        rw [AList.lookup_insert, Option.some.injEq] at found
        subst found
        exact ⟨changeSet, present, owner⟩
      · rw [AList.lookup_insert_ne (by simpa using same)] at found
        exact consistent.events id row found
    | _ => simp [Op.records] at recordless

end Consistency

section Writing

variable {workspaceId : Uuid} {inserted : List Key} {left right db : Database}
  {ours theirs writes : List (Write Row)}

/-- What is taken elsewhere stays so when the workspace is written. -/
theorem heldElsewhere_kept (before : Integral db) (after : Integral (applyAll writes db))
    (within : WritesWithin workspaceId writes db (applyAll writes db)) (key : Key) :
    HeldElsewhere workspaceId db key ↔ HeldElsewhere workspaceId (applyAll writes db) key := by
  have unwritten : (¬ ∃ write ∈ writes, write.key = key) →
      (applyAll writes db).lookup key = db.lookup key := by
    intro spared
    exact lookup_applyAll_untouched writes db key
      fun write member same => spared ⟨write, member, same⟩
  constructor
  · rintro ⟨row, found, outside⟩
    by_cases written : ∃ write ∈ writes, write.key = key
    · exact absurd ((within key written).2.1 row found) outside
    · have there : (applyAll writes db).lookup key = some row := (unwritten written).trans found
      refine ⟨row, there, fun inside => outside ?_⟩
      exact (within.inside key row (before key row found) (after key row there)).mpr inside
  · rintro ⟨row, found, outside⟩
    by_cases written : ∃ write ∈ writes, write.key = key
    · exact absurd ((within key written).2.2 row found) outside
    · have there : db.lookup key = some row := (unwritten written).symm.trans found
      refine ⟨row, there, fun inside => outside ?_⟩
      exact (within.inside key row (before key row there) (after key row found)).mp inside

/-- A row that one twin shows after the workspace was written in both. -/
theorem shows_written (alike : AlikeIn workspaceId left right)
    (first : WritesWithin workspaceId ours left (applyAll ours left))
    (second : WritesWithin workspaceId theirs right (applyAll theirs right))
    (integral : Integral (applyAll ours left)) (other : Integral (applyAll theirs right))
    (same : ∀ key, (∃ write ∈ ours, write.key = key) ∨ (∃ write ∈ theirs, write.key = key) →
      (applyAll ours left).lookup key = (applyAll theirs right).lookup key)
    (key : Key) (row : Row key) (shown : Shows workspaceId (applyAll ours left) key row) :
    Shows workspaceId (applyAll theirs right) key row := by
  have spared : ∀ key, ¬ ((∃ write ∈ ours, write.key = key) ∨ ∃ write ∈ theirs, write.key = key) →
      (applyAll ours left).lookup key = left.lookup key ∧
        (applyAll theirs right).lookup key = right.lookup key := by
    intro key unwritten
    exact ⟨lookup_applyAll_untouched ours left key
        fun write member hit => unwritten (Or.inl ⟨write, member, hit⟩),
      lookup_applyAll_untouched theirs right key
        fun write member hit => unwritten (Or.inr ⟨write, member, hit⟩)⟩
  obtain ⟨found, inside⟩ := shown
  by_cases written : (∃ write ∈ ours, write.key = key) ∨ ∃ write ∈ theirs, write.key = key
  · have there := (same key written).symm.trans found
    refine ⟨there, inWorkspace_moved key row inside (other key row there) ?_⟩
    intro id old new present owner here
    by_cases changed : (∃ write ∈ ours, write.key = Key.journey id) ∨
        ∃ write ∈ theirs, write.key = Key.journey id
    · rw [← same _ changed, present, Option.some.injEq] at here
      exact here ▸ owner
    · obtain ⟨mine, others⟩ := spared _ changed
      rw [mine] at present
      have shown := (alike.rows (Key.journey id) old).mp ⟨present, owner⟩
      rw [others, shown.1, Option.some.injEq] at here
      exact here ▸ owner
  · obtain ⟨mine, others⟩ := spared key written
    have before : left.lookup key = some row := mine.symm.trans found
    have within := (first.inside key row (alike.left.integral key row before)
      (integral key row found)).mpr inside
    obtain ⟨after, owned⟩ := (alike.rows key row).mp ⟨before, within⟩
    have there : (applyAll theirs right).lookup key = some row := others.trans after
    exact ⟨there, (second.inside key row (alike.right.integral key row after)
      (other key row there)).mp owned⟩

/-- Twins stay twins when the workspace is written alike. -/
theorem twins_written (twins : Twins workspaceId inserted left right)
    (first : WritesWithin workspaceId ours left (applyAll ours left))
    (second : WritesWithin workspaceId theirs right (applyAll theirs right))
    (consistent : Consistent (applyAll ours left)) (other : Consistent (applyAll theirs right))
    (same : ∀ key, (∃ write ∈ ours, write.key = key) ∨ (∃ write ∈ theirs, write.key = key) →
      (applyAll ours left).lookup key = (applyAll theirs right).lookup key) :
    Twins workspaceId inserted (applyAll ours left) (applyAll theirs right) := by
  have alike := twins.alike
  constructor
  · refine ⟨?_, ?_, consistent, other⟩
    · intro key identity
      by_cases written : (∃ write ∈ ours, write.key = key) ∨ ∃ write ∈ theirs, write.key = key
      · exact same key written
      · rw [lookup_applyAll_untouched ours left key
            fun write member hit => written (Or.inl ⟨write, member, hit⟩),
          lookup_applyAll_untouched theirs right key
            fun write member hit => written (Or.inr ⟨write, member, hit⟩)]
        exact alike.identities key identity
    · intro key row
      constructor
      · exact shows_written alike first second consistent.integral other.integral same key row
      · exact shows_written alike.symm second first other.integral consistent.integral
          (fun key written => (same key written.symm).symm) key row
  · intro key member
    rw [← heldElsewhere_kept alike.left.integral consistent.integral first,
      ← heldElsewhere_kept alike.right.integral other.integral second]
    exact twins.taken key member

end Writing

section Queries

variable {scope : Scope} {left right : Database}

/-- Twins agree on the membership that row security asks for. -/
theorem alike_isMember (alike : AlikeIn scope.workspaceId left right) :
    isMember left scope = isMember right scope := by
  rw [isMember, isMember, alike.identities (Key.membership scope.workspaceId scope.userId) rfl]

/-- A row that the workspace owns by itself is looked up alike. -/
theorem alike_visibleJourney (alike : AlikeIn scope.workspaceId left right) (id : Uuid) :
    visibleJourney left scope id = visibleJourney right scope id := by
  apply Option.ext
  intro row
  rw [visibleJourney_some, visibleJourney_some, alike_isMember alike]
  have shown := alike.rows (Key.journey id) row
  constructor
  · rintro ⟨found, owner, member⟩
    obtain ⟨there, owned⟩ := shown.mp ⟨found, owner⟩
    exact ⟨there, owned, member⟩
  · rintro ⟨found, owner, member⟩
    obtain ⟨there, owned⟩ := shown.mpr ⟨found, owner⟩
    exact ⟨there, owned, member⟩

/-- One direction of the next lemma. -/
theorem alike_segment (alike : AlikeIn scope.workspaceId left right) (id : Uuid)
    (row : StoredSegment) (found : left.lookup (Key.segment id) = some row)
    (visible : (visibleJourney left scope row.1.journeyId).isSome = true) :
    right.lookup (Key.segment id) = some row :=
  ((alike.rows (Key.segment id) row).mp ⟨found, visible_within _ visible⟩).1

theorem alike_visibleSegment (alike : AlikeIn scope.workspaceId left right) (id : Uuid) :
    visibleSegment left scope id = visibleSegment right scope id := by
  apply Option.ext
  intro row
  rw [visibleSegment_some, visibleSegment_some]
  constructor
  · rintro ⟨found, visible⟩
    exact ⟨alike_segment alike id row found visible, alike_visibleJourney alike _ ▸ visible⟩
  · rintro ⟨found, visible⟩
    exact ⟨alike_segment alike.symm id row found visible, alike_visibleJourney alike _ ▸ visible⟩

theorem alike_segmentIn (alike : AlikeIn scope.workspaceId left right) (journeyId id : Uuid) :
    segmentIn left scope journeyId id = segmentIn right scope journeyId id := by
  rw [segmentIn, segmentIn, alike_visibleSegment alike]

theorem alike_packingItem (alike : AlikeIn scope.workspaceId left right) (id : Uuid)
    (row : StoredPackingItem) (found : left.lookup (Key.packingItem id) = some row)
    (visible : (visibleJourney left scope row.1.journeyId).isSome = true) :
    right.lookup (Key.packingItem id) = some row :=
  ((alike.rows (Key.packingItem id) row).mp ⟨found, visible_within _ visible⟩).1

/-- A visible packing item, from both sides. -/
theorem visiblePackingItem_iff (db : Database) (id : Uuid) (row : StoredPackingItem) :
    visiblePackingItem db scope id = some row ↔
      db.lookup (Key.packingItem id) = some row ∧
        (visibleJourney db scope row.1.journeyId).isSome = true := by
  refine ⟨visiblePackingItem_some id row, ?_⟩
  rintro ⟨found, visible⟩
  rw [visiblePackingItem, found]
  exact if_pos visible

theorem alike_visiblePackingItem (alike : AlikeIn scope.workspaceId left right) (id : Uuid) :
    visiblePackingItem left scope id = visiblePackingItem right scope id := by
  apply Option.ext
  intro row
  rw [visiblePackingItem_iff, visiblePackingItem_iff]
  constructor
  · rintro ⟨found, visible⟩
    exact ⟨alike_packingItem alike id row found visible, alike_visibleJourney alike _ ▸ visible⟩
  · rintro ⟨found, visible⟩
    exact ⟨alike_packingItem alike.symm id row found visible, alike_visibleJourney alike _ ▸ visible⟩

theorem alike_packingItemIn (alike : AlikeIn scope.workspaceId left right) (journeyId id : Uuid) :
    packingItemIn left scope journeyId id = packingItemIn right scope journeyId id := by
  rw [packingItemIn, packingItemIn, alike_visiblePackingItem alike]

/-- The timeline of a visible journey. -/
theorem alike_timeline (alike : AlikeIn scope.workspaceId left right) (journeyId : Uuid)
    (visible : (visibleJourney left scope journeyId).isSome = true) :
    timeline left journeyId = timeline right journeyId := by
  have seen : (visibleJourney right scope journeyId).isSome = true :=
    alike_visibleJourney alike journeyId ▸ visible
  have found : ∀ entry, entry ∈ timeline left journeyId ↔ entry ∈ timeline right journeyId := by
    rintro ⟨id, row⟩
    rw [mem_timeline, mem_timeline]
    constructor
    · rintro ⟨present, inside⟩
      exact ⟨alike_segment alike id row present (inside ▸ visible), inside⟩
    · rintro ⟨present, inside⟩
      exact ⟨alike_segment alike.symm id row present (inside ▸ seen), inside⟩
  have members : ∀ entry, entry ∈ collect (segmentOf journeyId) left ↔
      entry ∈ collect (segmentOf journeyId) right := by
    intro entry
    rw [← mem_sortBy byPosition, ← mem_sortBy byPosition (collect (segmentOf journeyId) right)]
    exact found entry
  apply sortBy_members byPosition byPosition_total _ _ _ _ members
  · rintro ⟨id, row⟩ here ⟨other, stored⟩ there forth back
    simp only [byPosition, Bool.or_eq_true, Bool.and_eq_true, decide_eq_true_eq, beq_iff_eq]
      at forth back
    obtain rfl : id = other := by
      apply BitVec.eq_of_toNat_eq
      omega
    have first := ((mem_timeline left journeyId id row).mp ((mem_sortBy byPosition _ _).mpr here)).1
    have second :=
      ((mem_timeline left journeyId id stored).mp ((mem_sortBy byPosition _ _).mpr there)).1
    rw [first, Option.some.injEq] at second
    rw [second]
  · exact ((sortBy_perm byPosition _).nodup_iff).mp (timeline_nodup left journeyId)
  · exact ((sortBy_perm byPosition _).nodup_iff).mp (timeline_nodup right journeyId)

theorem alike_visibleTimeline (alike : AlikeIn scope.workspaceId left right) (journeyId : Uuid) :
    visibleTimeline left scope journeyId = visibleTimeline right scope journeyId := by
  unfold visibleTimeline
  rw [← alike_visibleJourney alike]
  by_cases visible : (visibleJourney left scope journeyId).isSome = true
  · rw [if_pos visible, if_pos visible, alike_timeline alike journeyId visible]
  · rw [if_neg visible, if_neg visible]

theorem alike_positionTaken (alike : AlikeIn scope.workspaceId left right) (except journeyId : Uuid)
    (position : Nat) (visible : (visibleJourney left scope journeyId).isSome = true) :
    positionTaken left except journeyId position = positionTaken right except journeyId position := by
  rw [positionTaken, positionTaken, alike_timeline alike journeyId visible]

/-- The packing items of a journey. -/
theorem mem_packing (db : Database) (journeyId id : Uuid) (row : StoredPackingItem) :
    (id, row) ∈ collect (packingItemOf journeyId) db ↔
      db.lookup (Key.packingItem id) = some row ∧ row.1.journeyId = journeyId := by
  rw [mem_collect]
  constructor
  · rintro ⟨key, stored, present, picked⟩
    cases key with
    | packingItem other =>
      simp only [packingItemOf, Option.ite_none_right_eq_some, Option.some.injEq,
        Prod.mk.injEq] at picked
      obtain ⟨inside, rfl, rfl⟩ := picked
      exact ⟨present, inside⟩
    | _ => cases picked
  · rintro ⟨present, inside⟩
    exact ⟨Key.packingItem id, row, present, if_pos inside⟩

/-- A scan for packing items finds none twice. -/
theorem packing_nodup (db : Database) (journeyId : Uuid) :
    (collect (packingItemOf journeyId) db).Nodup := by
  apply collect_nodup
  rintro ⟨key, row⟩ ⟨other, stored⟩ found first second
  cases key with
  | packingItem id =>
    cases other with
    | packingItem same =>
      simp only [packingItemOf, Option.ite_none_right_eq_some, Option.some.injEq] at first second
      obtain ⟨_, rfl⟩ := first
      obtain ⟨_, again⟩ := second
      cases again
      rfl
    | _ => cases second
  | _ => cases first

/-- The journeys of a workspace. -/
theorem mem_journeys (db : Database) (workspaceId id : Uuid) (row : StoredJourney) :
    (id, row) ∈ collect (journeyOf workspaceId) db ↔
      db.lookup (Key.journey id) = some row ∧ row.1.workspaceId = workspaceId := by
  rw [mem_collect]
  constructor
  · rintro ⟨key, stored, present, picked⟩
    cases key with
    | journey other =>
      simp only [journeyOf, Option.ite_none_right_eq_some, Option.some.injEq,
        Prod.mk.injEq] at picked
      obtain ⟨inside, rfl, rfl⟩ := picked
      exact ⟨present, inside⟩
    | _ => cases picked
  · rintro ⟨present, inside⟩
    exact ⟨Key.journey id, row, present, if_pos inside⟩

/-- A scan for journeys finds none twice. -/
theorem journeys_nodup (db : Database) (workspaceId : Uuid) :
    (collect (journeyOf workspaceId) db).Nodup := by
  apply collect_nodup
  rintro ⟨key, row⟩ ⟨other, stored⟩ found first second
  cases key with
  | journey id =>
    cases other with
    | journey same =>
      simp only [journeyOf, Option.ite_none_right_eq_some, Option.some.injEq] at first second
      obtain ⟨_, rfl⟩ := first
      obtain ⟨_, again⟩ := second
      cases again
      rfl
    | _ => cases second
  | _ => cases first

/-- The list of journeys. -/
theorem alike_journeys (alike : AlikeIn scope.workspaceId left right) :
    sortBy byRecency (collect (journeyOf scope.workspaceId) left) =
      sortBy byRecency (collect (journeyOf scope.workspaceId) right) := by
  have recency : byRecency =
      descending (fun entry => entry.2.1.updatedAt) (fun entry => entry.1.toNat) := rfl
  rw [recency]
  apply sortBy_members _ (descending_total _ _) _ _ (journeys_nodup left _) (journeys_nodup right _)
  · rintro ⟨id, row⟩
    rw [mem_journeys, mem_journeys]
    exact alike.rows (Key.journey id) row
  · rintro ⟨id, row⟩ here ⟨other, stored⟩ there forth back
    have numbers := descending_minor _ _ _ _ forth back
    obtain rfl : id = other := BitVec.eq_of_toNat_eq numbers
    have first := ((mem_journeys left _ id row).mp here).1
    have second := ((mem_journeys left _ id stored).mp there).1
    rw [first, Option.some.injEq] at second
    rw [second]

/-- The order of packing lists compares three keys, one after the other. -/
theorem byCategory_lexical (platform : Platform) : byCategory platform =
    lexical platform.collate (fun entry => entry.2.1.category.literal.toList)
      (lexical platform.collate (fun entry => entry.2.1.label)
        fun one two => decide (one.1.toNat ≤ two.1.toNat)) := by
  funext one two
  rfl

/-- The list of packing items of a visible journey. -/
theorem alike_packing {platform : Platform} (collates : platform.Collates)
    (alike : AlikeIn scope.workspaceId left right) (journeyId : Uuid)
    (visible : (visibleJourney left scope journeyId).isSome = true) :
    sortBy (byCategory platform) (collect (packingItemOf journeyId) left) =
      sortBy (byCategory platform) (collect (packingItemOf journeyId) right) := by
  have numbers : TotalComparison fun one two : Uuid × StoredPackingItem =>
      decide (one.1.toNat ≤ two.1.toNat) := by
    constructor
    · intro one two
      simp only [decide_eq_true_eq]
      omega
    · intro one two three
      simp only [decide_eq_true_eq]
      omega
  have seen : (visibleJourney right scope journeyId).isSome = true :=
    alike_visibleJourney alike journeyId ▸ visible
  rw [byCategory_lexical]
  apply sortBy_members _ (lexical_total collates.ordering collates.distinct
    (lexical_total collates.ordering collates.distinct numbers)) _ _ (packing_nodup left _)
    (packing_nodup right _)
  · rintro ⟨id, row⟩
    rw [mem_packing, mem_packing]
    constructor
    · rintro ⟨present, inside⟩
      exact ⟨alike_packingItem alike id row present (inside ▸ visible), inside⟩
    · rintro ⟨present, inside⟩
      exact ⟨alike_packingItem alike.symm id row present (inside ▸ seen), inside⟩
  · rintro ⟨id, row⟩ here ⟨other, stored⟩ there forth back
    obtain ⟨labels, labels_back⟩ := lexical_tie collates.distinct _ _ forth back
    obtain ⟨least, greatest⟩ := lexical_tie collates.distinct _ _ labels labels_back
    obtain rfl : id = other := by
      apply BitVec.eq_of_toNat_eq
      exact Nat.le_antisymm (of_decide_eq_true least) (of_decide_eq_true greatest)
    have first := ((mem_packing left _ id row).mp here).1
    have second := ((mem_packing left _ id stored).mp there).1
    rw [first, Option.some.injEq] at second
    rw [second]

/-- Among the twins, an identifier is taken in both or in neither. -/
theorem twins_free {workspaceId : Uuid} {inserted : List Key}
    (twins : Twins workspaceId inserted left right) (key : Key) (member : key ∈ inserted) :
    (left.lookup key).isSome = (right.lookup key).isSome := by
  have one_way : ∀ {left right : Database}, AlikeIn workspaceId left right →
      (HeldElsewhere workspaceId left key → HeldElsewhere workspaceId right key) →
        (left.lookup key).isSome = true → (right.lookup key).isSome = true := by
    intro left right alike held present
    obtain ⟨row, found⟩ := Option.isSome_iff_exists.mp present
    by_cases inside : key.inWorkspace left workspaceId row
    · rw [((alike.rows key row).mp ⟨found, inside⟩).1]
      rfl
    · obtain ⟨other, there, _⟩ := held ⟨row, found, inside⟩
      rw [there]
      rfl
  apply Bool.eq_iff_iff.mpr
  exact ⟨one_way twins.alike (twins.taken key member).mp,
    one_way twins.alike.symm (twins.taken key member).mpr⟩

/-- A row of the ledger that names the workspace itself. -/
theorem alike_changeSet (alike : AlikeIn scope.workspaceId left right) (id : Uuid)
    (row : CommandChangeSet) (owner : row.workspaceId = scope.workspaceId) :
    left.lookup (Key.changeSet id) = some row ↔ right.lookup (Key.changeSet id) = some row := by
  have shown := alike.rows (Key.changeSet id) row
  exact ⟨fun found => (shown.mp ⟨found, owner⟩).1, fun found => (shown.mpr ⟨found, owner⟩).1⟩

theorem alike_receipt (alike : AlikeIn scope.workspaceId left right) (userId commandId : Uuid) :
    left.lookup (Key.receipt scope.workspaceId userId commandId) =
      right.lookup (Key.receipt scope.workspaceId userId commandId) := by
  apply Option.ext
  intro row
  have shown := alike.rows (Key.receipt scope.workspaceId userId commandId) row
  exact ⟨fun found => (shown.mp ⟨found, rfl⟩).1, fun found => (shown.mpr ⟨found, rfl⟩).1⟩

end Queries

section Statements

variable {platform : Platform} {scope : Scope} {inserted : List Key} {left right : Database}

/-- A check of a change set that only one of the workspace passes. -/
theorem alike_changeSet_any (alike : AlikeIn scope.workspaceId left right) (id : Uuid)
    (check : CommandChangeSet → Bool)
    (owned : ∀ row, check row = true → row.workspaceId = scope.workspaceId) :
    (left.lookup (Key.changeSet id)).any check = (right.lookup (Key.changeSet id)).any check := by
  apply Bool.eq_iff_iff.mpr
  rw [Option.any_eq_true, Option.any_eq_true]
  constructor
  · rintro ⟨row, found, passed⟩
    exact ⟨row, (alike_changeSet alike id row (owned row passed)).mp found, passed⟩
  · rintro ⟨row, found, passed⟩
    exact ⟨row, (alike_changeSet alike id row (owned row passed)).mpr found, passed⟩

/-- What a scan finds, if anything. -/
theorem collect_ne_nil {α : Type} (pick : (key : Key) → Row key → Option α) (db : Database) :
    collect pick db ≠ [] ↔ ∃ key row, db.lookup key = some row ∧ (pick key row).isSome = true := by
  constructor
  · intro something
    obtain ⟨found, member⟩ := List.exists_mem_of_ne_nil _ something
    obtain ⟨key, row, present, picked⟩ := (mem_collect pick db found).mp member
    exact ⟨key, row, present, by rw [picked]; rfl⟩
  · rintro ⟨key, row, present, picked⟩
    obtain ⟨found, same⟩ := Option.isSome_iff_exists.mp picked
    exact List.ne_nil_of_mem ((mem_collect pick db found).mpr ⟨key, row, present, same⟩)

/-- A scan that only picks rows of the workspace. -/
theorem alike_collect {α : Type} (pick : (key : Key) → Row key → Option α)
    (alike : AlikeIn scope.workspaceId left right)
    (leftOwned : ∀ key row, left.lookup key = some row → (pick key row).isSome = true →
      key.inWorkspace left scope.workspaceId row)
    (rightOwned : ∀ key row, right.lookup key = some row → (pick key row).isSome = true →
      key.inWorkspace right scope.workspaceId row) :
    collect pick left ≠ [] ↔ collect pick right ≠ [] := by
  rw [collect_ne_nil, collect_ne_nil]
  constructor
  · rintro ⟨key, row, found, picked⟩
    exact ⟨key, row, ((alike.rows key row).mp ⟨found, leftOwned key row found picked⟩).1, picked⟩
  · rintro ⟨key, row, found, picked⟩
    exact ⟨key, row, ((alike.rows key row).mpr ⟨found, rightOwned key row found picked⟩).1, picked⟩

/-- The insertion of a change set. -/
theorem alike_insertChangeSet (twins : Twins scope.workspaceId inserted left right) (id : Uuid)
    (row : CommandChangeSet) (member : .changeSet id ∈ inserted) :
    execute platform (.insertChangeSet scope id row) left =
      execute platform (.insertChangeSet scope id row) right := by
  by_cases foreign : row.workspaceId ≠ scope.workspaceId
  · simp [execute, foreign]
  · have owner : row.workspaceId = scope.workspaceId := Decidable.not_not.mp foreign
    have unique : collect (changeSetFor row.workspaceId row.actorUserId row.commandId) left ≠ [] ↔
        collect (changeSetFor row.workspaceId row.actorUserId row.commandId) right ≠ [] := by
      have owned : ∀ (db : Database) key (stored : Row key), db.lookup key = some stored →
          (changeSetFor row.workspaceId row.actorUserId row.commandId key stored).isSome = true →
            key.inWorkspace db scope.workspaceId stored := by
        intro db key stored _ picked
        cases key with
        | changeSet other =>
          simp only [changeSetFor] at picked
          split at picked
          · next matches_row => exact matches_row.1.trans owner
          · cases picked
        | _ => cases picked
      exact alike_collect _ twins.alike (owned left) (owned right)
    simp only [execute, alike_isMember twins.alike, twins_free twins _ member, unique]

/-- The insertion of a change event for a change set of the workspace. -/
theorem alike_insertChangeEvent (platform : Platform) (scope : Scope)
    (twins : Twins scope.workspaceId inserted left right) (id : Uuid) (row : CommandChangeEvent) (member : .changeEvent id ∈ inserted) (changeSet : CommandChangeSet)
    (present : left.lookup (Key.changeSet row.changeSetId) = some changeSet)
    (owner : changeSet.workspaceId = scope.workspaceId) :
    execute platform (.insertChangeEvent scope id row) left =
      execute platform (.insertChangeEvent scope id row) right := by
  have there := (alike_changeSet twins.alike row.changeSetId changeSet owner).mp present
  have unique : collect (changeEventAt row.changeSetId row.sequence) left ≠ [] ↔
      collect (changeEventAt row.changeSetId row.sequence) right ≠ [] := by
    have owned : ∀ db : Database, Consistent db →
        db.lookup (Key.changeSet row.changeSetId) = some changeSet →
          ∀ key (stored : Row key), db.lookup key = some stored →
            (changeEventAt row.changeSetId row.sequence key stored).isSome = true →
              key.inWorkspace db scope.workspaceId stored := by
      intro db consistent here key stored found picked
      cases key with
      | changeEvent other =>
        simp only [changeEventAt] at picked
        split at picked
        · next named =>
          obtain ⟨named_set, same, agrees⟩ := consistent.events other stored found
          rw [named.1, here, Option.some.injEq] at same
          subst same
          exact agrees.symm.trans owner
        · cases picked
      | _ => cases picked
    exact alike_collect _ twins.alike (owned left twins.alike.left present)
      (owned right twins.alike.right there)
  by_cases foreign : row.workspaceId ≠ scope.workspaceId
  · simp [execute, foreign]
  · have own : row.workspaceId = scope.workspaceId := Decidable.not_not.mp foreign
    have inside : eventInScope left row = eventInScope right row := by
      apply alike_changeSet_any twins.alike
      intro stored fits
      exact (of_decide_eq_true fits).1.trans own
    simp only [execute, alike_isMember twins.alike, twins_free twins _ member, unique, inside]

/-- Any other statement in the scope, except for the deletion of a journey. -/
theorem alike_execute (collates : platform.Collates)
    (twins : Twins scope.workspaceId inserted left right) (op : Op)
    (issued : op.scope = some scope) (fresh : ∀ key, op.inserts = some key → key ∈ inserted)
    (eventless : op.records = false) (keeps : ∀ scope id, op ≠ .deleteJourney scope id) :
    execute platform op left = execute platform op right := by
  have alike := twins.alike
  cases op with
  | findSession tokenHash now => cases issued
  | lockMembership own =>
    obtain rfl : own = scope := Option.some.inj issued
    simp only [execute, alike.identities (Key.membership own.workspaceId own.userId) rfl]
  | lockCommand own commandId => rfl
  | selectReceipt own commandId =>
    obtain rfl : own = scope := Option.some.inj issued
    simp only [execute, alike_isMember alike, alike_receipt alike]
  | insertReceipt own commandId row =>
    obtain rfl : own = scope := Option.some.inj issued
    have inside : receiptInScope left own commandId row = receiptInScope right own commandId row := by
      unfold receiptInScope
      split
      · apply alike_changeSet_any alike
        intro stored fits
        exact (of_decide_eq_true fits).1
      · rfl
    simp only [execute, alike_isMember alike, alike_receipt alike, inside]
  | listJourneys own =>
    obtain rfl : own = scope := Option.some.inj issued
    simp only [execute, alike_isMember alike, alike_journeys alike]
  | selectJourney own id forUpdate =>
    obtain rfl : own = scope := Option.some.inj issued
    simp only [execute, alike_visibleJourney alike]
  | insertJourney own id row =>
    obtain rfl : own = scope := Option.some.inj issued
    simp only [execute, alike_isMember alike, twins_free twins _ (fresh _ rfl)]
  | swapJourney own id expected values now =>
    obtain rfl : own = scope := Option.some.inj issued
    simp only [execute, alike_visibleJourney alike]
  | touchJourney own id now =>
    obtain rfl : own = scope := Option.some.inj issued
    simp only [execute, alike_visibleJourney alike]
  | listSegments own journeyId =>
    obtain rfl : own = scope := Option.some.inj issued
    simp only [execute, alike_visibleTimeline alike]
  | selectSegment own journeyId id =>
    obtain rfl : own = scope := Option.some.inj issued
    simp only [execute, alike_segmentIn alike]
  | nextPosition own journeyId =>
    obtain rfl : own = scope := Option.some.inj issued
    simp only [execute, alike_visibleTimeline alike]
  | insertSegment own id row =>
    obtain rfl : own = scope := Option.some.inj issued
    simp only [execute, ← alike_visibleJourney alike]
    by_cases visible : (visibleJourney left own row.journeyId).isSome = true
    · simp only [visible, if_true, twins_free twins _ (fresh _ rfl),
        alike_positionTaken alike id row.journeyId row.position visible]
    · simp only [visible, Bool.false_eq_true, if_false]
  | swapSegment own journeyId id expected values now =>
    obtain rfl : own = scope := Option.some.inj issued
    simp only [execute, alike_segmentIn alike]
  | shiftSegment own journeyId id =>
    obtain rfl : own = scope := Option.some.inj issued
    simp only [execute, ← alike_segmentIn alike]
    cases shown : segmentIn left own journeyId id with
    | none => rfl
    | some row =>
      obtain ⟨_, inside, visible⟩ := (segmentIn_some _ _ _ _ _).mp shown
      simp only [relocate, alike_positionTaken alike id _ _ (inside ▸ visible)]
  | placeSegment own id position stamp bump =>
    obtain rfl : own = scope := Option.some.inj issued
    simp only [execute, ← alike_visibleSegment alike]
    cases shown : visibleSegment left own id with
    | none => rfl
    | some row =>
      obtain ⟨_, visible⟩ := (visibleSegment_some _ _ _ _).mp shown
      have same : (row.1.placed position stamp bump).journeyId = row.1.journeyId := rfl
      simp only [relocate, same, alike_positionTaken alike id _ _ visible]
  | deleteSegment own id =>
    obtain rfl : own = scope := Option.some.inj issued
    simp only [execute, alike_visibleSegment alike]
  | listPacking own journeyId =>
    obtain rfl : own = scope := Option.some.inj issued
    simp only [execute, ← alike_visibleJourney alike]
    by_cases visible : (visibleJourney left own journeyId).isSome = true
    · simp only [visible, if_true, alike_packing collates alike journeyId visible]
    · simp only [visible, Bool.false_eq_true, if_false]
  | selectPackingItem own journeyId id =>
    obtain rfl : own = scope := Option.some.inj issued
    simp only [execute, alike_packingItemIn alike]
  | insertPackingItem own id row =>
    obtain rfl : own = scope := Option.some.inj issued
    simp only [execute, alike_visibleJourney alike, twins_free twins _ (fresh _ rfl)]
  | swapPackingItem own journeyId id expected values now =>
    obtain rfl : own = scope := Option.some.inj issued
    simp only [execute, alike_packingItemIn alike]
  | swapPackingProgress own journeyId id expected packedQuantity now =>
    obtain rfl : own = scope := Option.some.inj issued
    simp only [execute, alike_packingItemIn alike]
  | deletePackingItem own id =>
    obtain rfl : own = scope := Option.some.inj issued
    simp only [execute, alike_visiblePackingItem alike]
  | deleteJourney own id => exact absurd rfl (keeps own id)
  | insertChangeSet own id row => cases eventless
  | insertChangeEvent own id row => cases eventless
  | writeMembership workspaceId userId role => cases issued

/-- The deletion of a visible journey drops the same rows in both. -/
theorem alike_cascade (alike : AlikeIn scope.workspaceId left right) (journeyId : Uuid)
    (visible : (visibleJourney left scope journeyId).isSome = true) (key : Key) :
    (∃ write ∈ Write.drop (.journey journeyId) :: cascade left journeyId, write.key = key) ↔
      ∃ write ∈ Write.drop (.journey journeyId) :: cascade right journeyId, write.key = key := by
  have seen : (visibleJourney right scope journeyId).isSome = true :=
    alike_visibleJourney alike journeyId ▸ visible
  have one_way : ∀ {left right : Database}, AlikeIn scope.workspaceId left right →
      (visibleJourney left scope journeyId).isSome = true →
        (∃ write ∈ Write.drop (.journey journeyId) :: cascade left journeyId, write.key = key) →
          ∃ write ∈ Write.drop (.journey journeyId) :: cascade right journeyId,
            write.key = key := by
    rintro left right alike visible ⟨write, member, rfl⟩
    rcases List.mem_cons.mp member with rfl | member
    · exact ⟨_, List.mem_cons_self, rfl⟩
    · rcases List.mem_append.mp member with member | member
      · obtain ⟨entry, among, rfl⟩ := List.mem_map.mp member
        rw [alike_timeline alike journeyId visible] at among
        exact ⟨_, List.mem_cons_of_mem _ (List.mem_append_left _
          (List.mem_map.mpr ⟨entry, among, rfl⟩)), rfl⟩
      · obtain ⟨⟨id, row⟩, among, rfl⟩ := List.mem_map.mp member
        obtain ⟨present, inside⟩ := (mem_packing left journeyId id row).mp among
        have there := alike_packingItem alike id row present (inside ▸ visible)
        refine ⟨_, List.mem_cons_of_mem _ (List.mem_append_right _ (List.mem_map.mpr
          ⟨(id, row), (mem_packing right journeyId id row).mpr ⟨there, inside⟩, rfl⟩)), rfl⟩
  exact ⟨one_way alike visible, one_way alike.symm seen⟩

/-- A journey's deletion shows nothing of what it has dropped. -/
theorem lookup_cascade (db : Database) (journeyId : Uuid) (key : Key)
    (written : ∃ write ∈ Write.drop (.journey journeyId) :: cascade db journeyId, write.key = key) :
    (applyAll (.drop (.journey journeyId) :: cascade db journeyId) db).lookup key = none := by
  rw [cascade_drops] at written ⊢
  rw [lookup_applyAll_drops, if_pos]
  obtain ⟨write, member, rfl⟩ := written
  obtain ⟨gone, among, rfl⟩ := List.mem_map.mp member
  exact among

/-- Two outcomes that nobody in the workspace can tell apart. -/
def SameOutcome (workspaceId : Uuid) (inserted : List Key) (left right : Database) {α : Type} :
    Effect α → Effect α → Prop
  | .failed error, .failed other => error = other
  | .ran answer ours _, .ran other theirs _ =>
    answer = other ∧ Twins workspaceId inserted (applyAll ours left) (applyAll theirs right)
  | _, _ => False

/-- A statement that does the same to twins leaves twins. -/
theorem sameOutcome_equal (scope : Scope) (twins : Twins scope.workspaceId inserted left right) (op : Op)
    (issued : op.scope = some scope)
    (equal : execute platform op left = execute platform op right) :
    SameOutcome scope.workspaceId inserted left right (execute platform op left)
      (execute platform op right) := by
  cases ran : execute platform op left with
  | failed error =>
    rw [← equal, ran]
    rfl
  | ran answer writes locks =>
    have again : execute platform op right = .ran answer writes locks := equal.symm.trans ran
    rw [again]
    refine ⟨rfl, twins_written twins (execute_confines platform op issued answer writes locks ran)
      (execute_confines platform op issued answer writes locks again)
      (execute_consistent platform op answer writes locks twins.alike.left ran)
      (execute_consistent platform op answer writes locks twins.alike.right again) ?_⟩
    intro key written
    rcases written with written | written
    · exact lookup_applyAll_written writes left right key written
    · exact lookup_applyAll_written writes left right key written

/-- Every statement in the scope but the insertion of a change event. -/
theorem sameOutcome_execute (scope : Scope) (collates : platform.Collates)
    (twins : Twins scope.workspaceId inserted left right) (op : Op)
    (issued : op.scope = some scope) (fresh : ∀ key, op.inserts = some key → key ∈ inserted)
    (eventless : ∀ scope id row, op ≠ .insertChangeEvent scope id row) :
    SameOutcome scope.workspaceId inserted left right (execute platform op left)
      (execute platform op right) := by
  by_cases records : op.records = true
  · cases op with
    | insertChangeSet own id row =>
      obtain rfl : own = scope := Option.some.inj issued
      exact sameOutcome_equal _ twins _ rfl (alike_insertChangeSet twins id row (fresh _ rfl))
    | insertChangeEvent own id row => exact absurd rfl (eventless own id row)
    | _ => cases records
  · have plain : op.records = false := Bool.not_eq_true _ ▸ records
    by_cases deletes : ∃ own id, op = .deleteJourney own id
    · obtain ⟨own, id, rfl⟩ := deletes
      obtain rfl : own = scope := Option.some.inj issued
      by_cases visible : (visibleJourney left own id).isSome = true
      · obtain ⟨row, shown⟩ := Option.isSome_iff_exists.mp visible
        have seen : visibleJourney right own id = some row :=
          alike_visibleJourney twins.alike id ▸ shown
        have ran : execute platform (.deleteJourney own id) left =
            .ran true (.drop (.journey id) :: cascade left id) [] := by simp [execute, shown]
        have again : execute platform (.deleteJourney own id) right =
            .ran true (.drop (.journey id) :: cascade right id) [] := by simp [execute, seen]
        rw [ran, again]
        refine ⟨rfl, twins_written twins (execute_confines platform _ rfl _ _ _ ran)
          (execute_confines platform _ rfl _ _ _ again)
          (execute_consistent platform _ _ _ _ twins.alike.left ran)
          (execute_consistent platform _ _ _ _ twins.alike.right again) ?_⟩
        intro key written
        have both := alike_cascade twins.alike id visible key
        rcases written with written | written
        · rw [lookup_cascade left id key written, lookup_cascade right id key (both.mp written)]
        · rw [lookup_cascade left id key (both.mpr written), lookup_cascade right id key written]
      · have hidden : visibleJourney left own id = none := Option.not_isSome_iff_eq_none.mp visible
        apply sameOutcome_equal _ twins _ rfl
        simp only [execute, ← alike_visibleJourney twins.alike, hidden]
    · apply sameOutcome_equal scope twins op issued
      exact alike_execute collates twins op issued fresh plain
        fun own id same => deletes ⟨own, id, same⟩

end Statements

end TraxOs.Api
