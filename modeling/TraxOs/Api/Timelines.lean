import TraxOs.Theory.Arrangements
import TraxOs.Api.StatementFacts

/-!
# Where each segment stands

The timeline of a journey as an arrangement of its segments. A timeline is contiguous
when its positions are 0, 1, 2 and so on; then the order of the identifiers lists the
places of the segments, and the places decide the order.

The statements on segments, seen from there: what each of them answers and writes, and
which places it changes.
-/

namespace TraxOs.Api

open TraxOs.Theory

section Places

variable (db : Database) (journeyId : Uuid)

/-- The position of a segment in the timeline of a journey, if it is there. -/
def placeOf (id : Uuid) : Option Nat :=
  match db.lookup (Key.segment id) with
  | none => none
  | some row => if row.1.journeyId = journeyId then some row.1.position else none

/-- The identifiers of the segments of a journey, in the order of their positions. -/
def order : List Uuid := (timeline db journeyId).map Prod.fst

/-- The positions of the segments of a journey. -/
def positions : List Nat := (timeline db journeyId).map fun entry => entry.2.1.position

/-- The positions are exactly 0 to n - 1. -/
def Contiguous : Prop := positions db journeyId = List.range (order db journeyId).length

instance : Decidable (Contiguous db journeyId) :=
  inferInstanceAs (Decidable (positions db journeyId = List.range (order db journeyId).length))

/-- A timeline has the segments of its journey. -/
theorem mem_timeline (id : Uuid) (row : StoredSegment) :
    (id, row) ∈ timeline db journeyId ↔
      db.lookup (Key.segment id) = some row ∧ row.1.journeyId = journeyId := by
  rw [timeline, mem_sortBy, mem_collect]
  constructor
  · rintro ⟨key, stored, found, picked⟩
    cases key with
    | segment other =>
      simp only [segmentOf] at picked
      split at picked
      · next inside =>
        cases picked
        exact ⟨found, inside⟩
      · cases picked
    | _ => cases picked
  · rintro ⟨found, inside⟩
    exact ⟨Key.segment id, row, found, by simp [segmentOf, inside]⟩

/-- No segment is found twice. -/
theorem timeline_nodup : (timeline db journeyId).Nodup := by
  rw [timeline, (sortBy_perm byPosition _).nodup_iff]
  apply collect_nodup
  rintro ⟨key, row⟩ ⟨other, stored⟩ found first second
  cases key with
  | segment id =>
    cases other with
    | segment same =>
      simp only [segmentOf] at first second
      split at first
      · split at second
        · cases first
          cases second
          rfl
        · cases second
      · cases first
    | _ => cases second
  | _ => cases first

/-- The order of positions is a total one. -/
theorem byPosition_total : TotalComparison byPosition := by
  constructor
  · intro left right
    simp only [byPosition, Bool.or_eq_true, Bool.and_eq_true, decide_eq_true_eq, beq_iff_eq]
    omega
  · intro first second third
    simp only [byPosition, Bool.or_eq_true, Bool.and_eq_true, decide_eq_true_eq, beq_iff_eq]
    omega

/-- A segment has the place that its row names. -/
theorem placeOf_eq_some (id : Uuid) (position : Nat) :
    placeOf db journeyId id = some position ↔
      ∃ row : StoredSegment, db.lookup (Key.segment id) = some row ∧
        row.1.journeyId = journeyId ∧ row.1.position = position := by
  unfold placeOf
  cases found : db.lookup (Key.segment id) with
  | none => simp
  | some row =>
    by_cases inside : row.1.journeyId = journeyId
    · simp only [inside, if_true, Option.some.injEq]
      constructor
      · intro same
        exact ⟨row, rfl, inside, same⟩
      · rintro ⟨stored, rfl, _, same⟩
        exact same
    · simp only [inside, if_false]
      constructor
      · intro impossible
        cases impossible
      · rintro ⟨stored, same, there, _⟩
        cases same
        exact absurd there inside

/-- The order has the segments of the journey. -/
theorem mem_order (id : Uuid) :
    id ∈ order db journeyId ↔ ∃ row : StoredSegment, db.lookup (Key.segment id) = some row ∧
      row.1.journeyId = journeyId := by
  rw [order, List.mem_map]
  constructor
  · rintro ⟨⟨other, row⟩, member, rfl⟩
    exact ⟨row, (mem_timeline db journeyId other row).mp member⟩
  · rintro ⟨row, found⟩
    exact ⟨(id, row), (mem_timeline db journeyId id row).mpr found, rfl⟩

/-- No other segment has a place. -/
theorem placeOf_unordered (id : Uuid) (missing : id ∉ order db journeyId) :
    placeOf db journeyId id = none := by
  cases placed : placeOf db journeyId id with
  | none => rfl
  | some position =>
    obtain ⟨row, found, inside, _⟩ := (placeOf_eq_some db journeyId id position).mp placed
    exact absurd ((mem_order db journeyId id).mpr ⟨row, found, inside⟩) missing

variable {db journeyId}

/-- The order of a contiguous timeline lists the places of its segments. -/
theorem lists_order (contiguous : Contiguous db journeyId) :
    Lists (placeOf db journeyId) (order db journeyId) := by
  have standing : ∀ (index : Nat) (entry : Uuid × StoredSegment),
      (timeline db journeyId)[index]? = some entry → entry.2.1.position = index := by
    intro index entry here
    have shown : (positions db journeyId)[index]? = some entry.2.1.position := by
      rw [positions, List.getElem?_map, here]
      rfl
    have bounded : index < (order db journeyId).length := by
      rw [order, List.length_map]
      exact (List.getElem?_eq_some_iff.mp here).1
    rw [contiguous, List.getElem?_range bounded, Option.some.injEq] at shown
    exact shown.symm
  intro id position
  rw [placeOf_eq_some]
  constructor
  · rintro ⟨row, found, inside, same⟩
    obtain ⟨index, here⟩ := List.getElem?_of_mem ((mem_timeline db journeyId id row).mpr
      ⟨found, inside⟩)
    have stands := standing index (id, row) here
    rw [order, List.getElem?_map, ← same, stands, here]
    rfl
  · intro here
    rw [order, List.getElem?_map, Option.map_eq_some_iff] at here
    obtain ⟨⟨other, row⟩, there, rfl⟩ := here
    obtain ⟨found, inside⟩ := (mem_timeline db journeyId other row).mp (List.mem_of_getElem? there)
    exact ⟨row, found, inside, standing position (other, row) there⟩

/-- A list of the places of the segments is their order, and then the timeline is
contiguous. -/
theorem order_of_lists {listed : List Uuid} (lists : Lists (placeOf db journeyId) listed) :
    order db journeyId = listed ∧ Contiguous db journeyId := by
  have place : ∀ entry ∈ timeline db journeyId,
      placeOf db journeyId entry.1 = some entry.2.1.position := by
    rintro ⟨id, row⟩ member
    obtain ⟨found, inside⟩ := (mem_timeline db journeyId id row).mp member
    exact (placeOf_eq_some db journeyId id _).mpr ⟨row, found, inside, rfl⟩
  have injective : ∀ one ∈ timeline db journeyId, ∀ two ∈ timeline db journeyId,
      one.2.1.position = two.2.1.position → one = two := by
    rintro ⟨one, oneRow⟩ oneMember ⟨two, twoRow⟩ twoMember same
    have first := (lists _ _).mp (place _ oneMember)
    have second := (lists _ _).mp (place _ twoMember)
    rw [same, second, Option.some.injEq] at first
    simp only at first
    subst first
    have oneFound := ((mem_timeline db journeyId _ oneRow).mp oneMember).1
    have twoFound := ((mem_timeline db journeyId _ twoRow).mp twoMember).1
    rw [oneFound, Option.some.injEq] at twoFound
    rw [twoFound]
  have distinct : (positions db journeyId).Nodup :=
    (List.nodup_map_iff_inj_on (timeline_nodup db journeyId)).mpr injective
  have same : (positions db journeyId).Perm (List.range listed.length) := by
    rw [List.perm_ext_iff_of_nodup distinct List.nodup_range]
    intro position
    rw [List.mem_range, positions, List.mem_map]
    constructor
    · rintro ⟨entry, member, rfl⟩
      exact lists.bounded entry.1 _ (place entry member)
    · intro bounded
      have placed := (lists listed[position] position).mpr (List.getElem?_eq_getElem bounded)
      obtain ⟨row, found, inside, stands⟩ := (placeOf_eq_some db journeyId _ _).mp placed
      exact ⟨(listed[position], row), (mem_timeline db journeyId _ _).mpr ⟨found, inside⟩, stands⟩
  have ascending : (positions db journeyId).Pairwise (· ≤ ·) := by
    rw [positions, List.pairwise_map]
    apply (sortBy_sorted byPosition byPosition_total _).imp
    intro left right before
    simp only [byPosition, Bool.or_eq_true, Bool.and_eq_true, decide_eq_true_eq, beq_iff_eq]
      at before
    omega
  have exact : positions db journeyId = List.range listed.length :=
    List.Perm.eq_of_pairwise (fun left right _ _ forth back => Nat.le_antisymm forth back) ascending
      List.pairwise_le_range same
  have contiguous : Contiguous db journeyId := by
    have extent := congrArg List.length exact
    rw [List.length_range, positions, List.length_map] at extent
    rw [Contiguous, exact, order, List.length_map, extent]
  exact ⟨(lists_order contiguous).unique lists, contiguous⟩

/-- A list of the segments of a journey in ascending order is its timeline. -/
theorem timeline_eq (entries : List (Uuid × StoredSegment)) (distinct : entries.Nodup)
    (same : ∀ id row, (id, row) ∈ entries ↔
      db.lookup (Key.segment id) = some row ∧ row.1.journeyId = journeyId)
    (ascending : entries.Pairwise fun left right => byPosition left right = true) :
    timeline db journeyId = entries := by
  have member : ∀ entry, entry ∈ collect (segmentOf journeyId) db ↔ entry ∈ timeline db journeyId :=
    fun entry => (mem_sortBy byPosition _ entry).symm
  apply sortBy_eq byPosition byPosition_total _ _ _ ascending
  · rintro ⟨one, oneRow⟩ oneMember ⟨two, twoRow⟩ twoMember forth back
    simp only [byPosition, Bool.or_eq_true, Bool.and_eq_true, decide_eq_true_eq, beq_iff_eq]
      at forth back
    obtain rfl : one = two := BitVec.eq_of_toNat_eq (by omega)
    have oneFound := ((mem_timeline db journeyId one oneRow).mp ((member _).mp oneMember)).1
    have twoFound := ((mem_timeline db journeyId one twoRow).mp ((member _).mp twoMember)).1
    rw [oneFound, Option.some.injEq] at twoFound
    rw [twoFound]
  · have found : (collect (segmentOf journeyId) db).Nodup :=
      ((sortBy_perm byPosition _).nodup_iff).mp (timeline_nodup db journeyId)
    rw [List.perm_ext_iff_of_nodup distinct found]
    rintro ⟨id, row⟩
    rw [member, mem_timeline]
    exact same id row

/-- Without one of its segments a timeline keeps its order. -/
theorem order_erase (id : Uuid) :
    order (db.erase (Key.segment id)) journeyId = (order db journeyId).filter (· ≠ id) := by
  have same : timeline (db.erase (Key.segment id)) journeyId =
      (timeline db journeyId).filter fun entry => entry.1 ≠ id := by
    apply timeline_eq
    · exact (timeline_nodup db journeyId).filter _
    · intro other row
      rw [List.mem_filter, mem_timeline]
      by_cases clash : other = id
      · subst clash
        simp
      · rw [AList.lookup_erase_ne (by simpa using clash)]
        simp [clash]
    · exact (sortBy_sorted byPosition byPosition_total _).filter _
  rw [order, same, order, List.filter_map]
  rfl

/-- A position is taken when another segment stands there. -/
theorem positionTaken_iff (except : Uuid) (position : Nat) :
    positionTaken db except journeyId position = true ↔
      ∃ id, id ≠ except ∧ placeOf db journeyId id = some position := by
  rw [positionTaken, List.any_eq_true]
  constructor
  · rintro ⟨⟨id, row⟩, member, found⟩
    simp only [ne_eq, decide_not, Bool.and_eq_true, Bool.not_eq_true', decide_eq_false_iff_not,
      beq_iff_eq] at found
    obtain ⟨present, inside⟩ := (mem_timeline db journeyId id row).mp member
    exact ⟨id, found.1, (placeOf_eq_some db journeyId id _).mpr ⟨row, present, inside, found.2⟩⟩
  · rintro ⟨id, other, placed⟩
    obtain ⟨row, present, inside, stands⟩ := (placeOf_eq_some db journeyId id _).mp placed
    refine ⟨(id, row), (mem_timeline db journeyId id row).mpr ⟨present, inside⟩, ?_⟩
    simp [other, stands]

/-- The next position after a contiguous timeline is its length. -/
theorem next_of_contiguous (contiguous : Contiguous db journeyId) :
    (timeline db journeyId).foldr (fun entry next => max next (entry.2.1.position + 1)) 0 =
      (order db journeyId).length := by
  have folded : ∀ entries : List (Uuid × StoredSegment),
      entries.foldr (fun entry next => max next (entry.2.1.position + 1)) 0 =
        (entries.map fun entry => entry.2.1.position).foldr (fun position next =>
          max next (position + 1)) 0 := by
    intro entries
    rw [List.foldr_map]
  have ranged : ∀ count, (List.range count).foldr (fun position next => max next (position + 1)) 0 =
      count := by
    have started : ∀ count start, (List.range count).foldr
        (fun position next => max next (position + 1)) start = max start count := by
      intro count
      induction count with
      | zero => simp
      | succ count inductionHypothesis =>
        intro start
        rw [List.range_succ, List.foldr_append, List.foldr_cons, List.foldr_nil,
          inductionHypothesis]
        omega
    intro count
    rw [started]
    omega
  rw [folded]
  have exact : (timeline db journeyId).map (fun entry => entry.2.1.position) =
      List.range (order db journeyId).length := contiguous
  rw [exact, ranged]

end Places

section Statements

variable (platform : Platform) (db : Database)

/-- A segment that the selected journey shows. -/
theorem segmentIn_some (scope : Scope) (journeyId id : Uuid) (row : StoredSegment) :
    segmentIn db scope journeyId id = some row ↔
      db.lookup (Key.segment id) = some row ∧ row.1.journeyId = journeyId ∧
        (visibleJourney db scope journeyId).isSome = true := by
  simp only [segmentIn, visibleSegment, Option.filter_eq_some_iff, decide_eq_true_eq]
  cases found : db.lookup (Key.segment id) with
  | none => simp
  | some stored =>
    constructor
    · rintro ⟨shown, rfl⟩
      simp only at shown
      split at shown
      · next visible =>
        cases shown
        exact ⟨rfl, rfl, visible⟩
      · cases shown
    · rintro ⟨same, rfl, visible⟩
      cases same
      simp [visible]

/-- A segment that row security shows. -/
theorem visibleSegment_some (scope : Scope) (id : Uuid) (row : StoredSegment) :
    visibleSegment db scope id = some row ↔
      db.lookup (Key.segment id) = some row ∧
        (visibleJourney db scope row.1.journeyId).isSome = true := by
  unfold visibleSegment
  cases found : db.lookup (Key.segment id) with
  | none => simp
  | some stored =>
    simp only
    constructor
    · intro shown
      split at shown
      · next visible =>
        cases shown
        exact ⟨rfl, visible⟩
      · cases shown
    · rintro ⟨same, visible⟩
      cases same
      simp [visible]

/-- `listSegments` shows the timeline. -/
theorem ran_listSegments (scope : Scope) (journeyId : Uuid)
    (answer : List (Uuid × StoredSegment)) (writes : List (Write Row)) (locks : Locks Key Name)
    (ran : execute platform (.listSegments scope journeyId) db = .ran answer writes locks) :
    answer = visibleTimeline db scope journeyId ∧ writes = [] ∧ locks = [] := by
  obtain ⟨rfl, rfl, rfl⟩ := (answered_ran _ _ _ _).mp ran
  exact ⟨rfl, rfl, rfl⟩

/-- `selectSegment` shows one segment. -/
theorem ran_selectSegment (scope : Scope) (journeyId id : Uuid) (answer : Option StoredSegment)
    (writes : List (Write Row)) (locks : Locks Key Name)
    (ran : execute platform (.selectSegment scope journeyId id) db = .ran answer writes locks) :
    answer = segmentIn db scope journeyId id ∧ writes = [] ∧ locks = [] := by
  obtain ⟨rfl, rfl, rfl⟩ := (answered_ran _ _ _ _).mp ran
  exact ⟨rfl, rfl, rfl⟩

/-- `nextPosition` is the length of a visible contiguous timeline. -/
theorem ran_nextPosition (scope : Scope) (journeyId : Uuid) (answer : Nat)
    (writes : List (Write Row)) (locks : Locks Key Name)
    (visible : (visibleJourney db scope journeyId).isSome = true)
    (contiguous : Contiguous db journeyId)
    (ran : execute platform (.nextPosition scope journeyId) db = .ran answer writes locks) :
    answer = (order db journeyId).length ∧ writes = [] ∧ locks = [] := by
  obtain ⟨rfl, rfl, rfl⟩ := (answered_ran _ _ _ _).mp ran
  refine ⟨?_, rfl, rfl⟩
  rw [visibleTimeline, if_pos visible, next_of_contiguous contiguous]

/-- `insertSegment` stores the given row under a free identifier, at a free position
of a visible journey. -/
theorem ran_insertSegment (scope : Scope) (id : Uuid) (row : Segment) (answer : StoredSegment)
    (writes : List (Write Row)) (locks : Locks Key Name)
    (ran : execute platform (.insertSegment scope id row) db = .ran answer writes locks) :
    answer.1 = row ∧ db.lookup (Key.segment id) = none ∧
      positionTaken db id row.journeyId row.position = false ∧
        writes = [.put (Key.segment id) answer] := by
  simp only [execute] at ran
  split at ran
  · obtain ⟨admissible, ran⟩ := (storing_ran _ _ _ _ _).mp ran
    split at ran
    · simp at ran
    · next free =>
      cases ran
      refine ⟨rfl, ?_, ?_, rfl⟩
      · exact Option.not_isSome_iff_eq_none.mp fun taken => free (Or.inl taken)
      · exact Bool.not_eq_true _ ▸ fun taken => free (Or.inr taken)
  · simp at ran

/-- `swapSegment` revises the shown row when it has the expected version. -/
theorem ran_swapSegment (scope : Scope) (journeyId id : Uuid) (expected : Nat)
    (values : SegmentValues) (now : Timestamp) (answer : Option StoredSegment)
    (writes : List (Write Row)) (locks : Locks Key Name)
    (ran : execute platform (.swapSegment scope journeyId id expected values now) db =
      .ran answer writes locks) :
    (answer = none ∧ writes = []) ∨
      ∃ row stored : StoredSegment, segmentIn db scope journeyId id = some row ∧
        row.1.recordVersion = expected ∧ stored.1 = row.1.revised values now ∧
          answer = some stored ∧ writes = [.put (Key.segment id) stored] := by
  rcases comparing_ran _ _ _ _ _ _ _ _ ran with ⟨rfl, rfl, _⟩ | ⟨row, found, same, swapped⟩
  · exact Or.inl ⟨rfl, rfl⟩
  · obtain ⟨admissible, swapped⟩ := (storing_ran _ _ _ _ _).mp swapped
    cases swapped
    exact Or.inr ⟨row, ⟨row.1.revised values now, admissible⟩, found, same, rfl, rfl, rfl⟩

/-- A segment is moved to a free position only. -/
theorem ran_relocate (id : Uuid) (row : StoredSegment) (moved : Segment) (answer : Unit)
    (writes : List (Write Row)) (locks : Locks Key Name)
    (ran : relocate db id row moved = .ran answer writes locks) :
    ∃ stored : StoredSegment, stored.1 = moved ∧
      positionTaken db id moved.journeyId moved.position = false ∧
        writes = [.put (Key.segment id) stored] := by
  obtain ⟨admissible, ran⟩ := (storing_ran _ _ _ _ _).mp ran
  split at ran
  · simp at ran
  · next free =>
    cases ran
    exact ⟨⟨moved, admissible⟩, rfl, Bool.not_eq_true _ ▸ free, rfl⟩

/-- `shiftSegment` moves a shown segment out of the way. -/
theorem ran_shiftSegment (scope : Scope) (journeyId id : Uuid) (answer : Unit)
    (writes : List (Write Row)) (locks : Locks Key Name)
    (ran : execute platform (.shiftSegment scope journeyId id) db = .ran answer writes locks) :
    (segmentIn db scope journeyId id = none ∧ writes = []) ∨
      ∃ row stored : StoredSegment, segmentIn db scope journeyId id = some row ∧
        stored.1 = { row.1 with position := row.1.position + shiftOffset } ∧
          writes = [.put (Key.segment id) stored] := by
  simp only [execute] at ran
  split at ran
  · next missing =>
    obtain ⟨rfl, rfl, rfl⟩ := (answered_ran _ _ _ _).mp ran
    exact Or.inl ⟨missing, rfl⟩
  · next row found =>
    obtain ⟨stored, same, _, rfl⟩ := ran_relocate db id row _ answer writes locks ran
    exact Or.inr ⟨row, stored, found, same, rfl⟩

/-- `placeSegment` gives a visible segment its new position. -/
theorem ran_placeSegment (scope : Scope) (id : Uuid) (position : Nat) (stamp : Option Timestamp)
    (bump : Bool) (answer : Unit) (writes : List (Write Row)) (locks : Locks Key Name)
    (ran : execute platform (.placeSegment scope id position stamp bump) db =
      .ran answer writes locks) :
    (visibleSegment db scope id = none ∧ writes = []) ∨
      ∃ row stored : StoredSegment, visibleSegment db scope id = some row ∧
        stored.1 = row.1.placed position stamp bump ∧ writes = [.put (Key.segment id) stored] := by
  simp only [execute] at ran
  split at ran
  · next missing =>
    obtain ⟨rfl, rfl, rfl⟩ := (answered_ran _ _ _ _).mp ran
    exact Or.inl ⟨missing, rfl⟩
  · next row found =>
    obtain ⟨stored, same, _, rfl⟩ := ran_relocate db id row _ answer writes locks ran
    exact Or.inr ⟨row, stored, found, same, rfl⟩

/-- `deleteSegment` drops a visible segment. -/
theorem ran_deleteSegment (scope : Scope) (id : Uuid) (answer : Unit)
    (writes : List (Write Row)) (locks : Locks Key Name)
    (ran : execute platform (.deleteSegment scope id) db = .ran answer writes locks) :
    (visibleSegment db scope id = none ∧ writes = []) ∨
      ∃ row : StoredSegment, visibleSegment db scope id = some row ∧
        writes = [.drop (Key.segment id)] := by
  simp only [execute] at ran
  split at ran
  · next missing =>
    obtain ⟨rfl, rfl, rfl⟩ := (answered_ran _ _ _ _).mp ran
    exact Or.inl ⟨missing, rfl⟩
  · next row found =>
    cases ran
    exact Or.inr ⟨row, found, rfl⟩

end Statements

end TraxOs.Api
