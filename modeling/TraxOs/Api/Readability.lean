import TraxOs.Api.CommitSafety
import TraxOs.Api.TimelineOperations
import TraxOs.Theory.RelyGuarantee

/-!
# Rows that can be read back

Segment and packing responses carry the constraints of their inputs, and every read
validates them again. A stored row that does not satisfy them is poison: it was
committed, but neither its own response nor any list that contains it can be built.

The repository strips what the input models have measured. For segments that makes no
difference to the constraints. For a packing label it does: a label of white space is
long enough before it is stripped and empty afterwards, and the table admits it.
-/

namespace TraxOs.Api

open TraxOs.Theory

/-- A segment row that validates as a response. -/
def Segment.Readable (row : Segment) : Prop := ∀ id, (segmentResponse id row).isSome = true

/-- A packing item that validates as a response. -/
def PackingItem.Readable (row : PackingItem) : Prop := ∀ id, (packingResponse id row).isSome = true

/-- All rows of both tables can be read back. -/
structure Readable (db : Database) : Prop where
  segments : ∀ id (row : StoredSegment), db.lookup (Key.segment id) = some row → row.1.Readable
  packing : ∀ id (row : StoredPackingItem), db.lookup (Key.packingItem id) = some row →
    row.1.Readable

/-- The constraints of a segment response. -/
theorem segment_readable (row : Segment) :
    row.Readable ↔ (nameFits row.placeName = true ∧ nameFits row.originName = true ∧
        nameFits row.destinationName = true) ∧ row.transportMode.length ≤ 100 ∧
      row.notes.length ≤ 5000 ∧ datesOrdered row.startDate row.endDate ∧
        row.kind.detailed row.placeName row.originName row.destinationName = true := by
  unfold Segment.Readable segmentResponse
  constructor
  · intro readable
    by_contra invalid
    have shown := readable 0
    rw [dif_neg invalid] at shown
    cases shown
  · intro valid id
    rw [dif_pos valid]
    rfl

/-- The constraints of a packing response. -/
theorem packing_readable (row : PackingItem) :
    row.Readable ↔ (1 ≤ row.label.length ∧ row.label.length ≤ 200) ∧
      (1 ≤ row.quantity ∧ row.quantity ≤ 99) := by
  unfold PackingItem.Readable packingResponse
  constructor
  · intro readable
    by_contra invalid
    have shown := readable 0
    rw [dif_neg invalid] at shown
    cases shown
  · intro valid id
    rw [dif_pos valid]
    rfl

section Normalisation

/-- Stripping a name keeps it short enough. -/
theorem nameFits_strip (name : Option Text) (fits : nameFits name = true) :
    nameFits (stripName name) = true := by
  cases name with
  | none => rfl
  | some text =>
    have short : text.length ≤ 200 := by simpa [nameFits] using fits
    have shorter := strip_length text
    rw [stripName]
    split
    · rfl
    · simp only [nameFits, Option.all_some, decide_eq_true_eq]
      omega

/-- A name that is present stays present. -/
theorem named_strip (name : Option Text) (present : named name = true) :
    named (stripName name) = true := by
  cases name with
  | none => cases present
  | some text =>
    have visible : strip text ≠ [] := by simpa [named] using present
    have filled : ¬ text.isEmpty = true := by
      rw [List.isEmpty_iff]
      rintro rfl
      exact visible rfl
    rw [stripName, if_neg filled]
    simp only [named, Bool.not_eq_true', List.isEmpty_eq_false_iff]
    intro empty
    apply visible
    rw [strip_eq_nil] at empty ⊢
    intro character member
    by_contra other
    exact other (empty character (mem_trimBy isSpace text character member
      (Bool.not_eq_true _ ▸ other)))

/-- A validated segment, normalised, still has its details. -/
theorem detailed_strip (kind : SegmentKind) (placeName originName destinationName : Option Text)
    (detailed : kind.detailed placeName originName destinationName = true) :
    kind.detailed (stripName placeName) (stripName originName) (stripName destinationName) =
      true := by
  cases kind with
  | stay => exact named_strip placeName detailed
  | move =>
    simp only [SegmentKind.detailed, Bool.and_eq_true] at detailed ⊢
    exact ⟨named_strip originName detailed.1, named_strip destinationName detailed.2⟩

/-- The row that `create_segment` inserts is readable. -/
theorem newSegment_readable (journeyId : Uuid) (position : Nat) (command : SegmentInput)
    (now : Timestamp) : (newSegment journeyId position (segmentValues command) now).Readable := by
  rw [segment_readable]
  have transport := strip_length command.transportMode
  have notes := strip_length command.notes
  have transportFits := command.transportLength
  have notesFit := command.notesLength
  simp only [newSegment, segmentValues]
  refine ⟨⟨nameFits_strip _ command.namesFit.1, nameFits_strip _ command.namesFit.2.1,
    nameFits_strip _ command.namesFit.2.2⟩, by omega, by omega, command.datesAreOrdered, ?_⟩
  exact detailed_strip command.kind _ _ _ command.hasDetails

/-- The row that `update_segment` leaves is readable, whatever it replaces. -/
theorem revised_readable (row : Segment) (command : SegmentInput) (now : Timestamp) :
    (row.revised (segmentValues command) now).Readable := by
  have fresh := newSegment_readable row.journeyId row.position command now
  rw [segment_readable] at fresh ⊢
  exact fresh

/-- Moving a segment keeps it readable. -/
theorem placed_readable (row : Segment) (position : Nat) (stamp : Option Timestamp) (bump : Bool)
    (readable : row.Readable) : (row.placed position stamp bump).Readable := by
  rw [segment_readable] at readable ⊢
  exact readable

theorem shifted_readable (row : Segment) (position : Nat) (readable : row.Readable) :
    ({ row with position := position } : Segment).Readable := by
  rw [segment_readable] at readable ⊢
  exact readable

/-- A packing row is readable when its stripped label is not empty. -/
theorem newPackingItem_readable (journeyId : Uuid) (command : PackingInput) (now : Timestamp) :
    (newPackingItem journeyId command now).Readable ↔ strip command.label ≠ [] := by
  rw [packing_readable]
  have shorter := strip_length command.label
  have short := command.labelLength
  have quantity := command.quantityBounds
  simp only [newPackingItem, ← List.length_pos_iff]
  omega

/-- The same for an update. -/
theorem revisedPacking_readable (row : PackingItem) (command : PackingUpdate) (now : Timestamp) :
    (row.revised (packingValues command) now).Readable ↔ strip command.label ≠ [] := by
  rw [packing_readable]
  have shorter := strip_length command.label
  have short := command.labelLength
  have quantity := command.quantityBounds
  simp only [PackingItem.revised, packingValues, ← List.length_pos_iff]
  omega

/-- Progress does not matter. -/
theorem progressed_readable (row : PackingItem) (packedQuantity : Nat) (now : Timestamp)
    (readable : row.Readable) : (row.progressed packedQuantity now).Readable := by
  rw [packing_readable] at readable ⊢
  exact readable

end Normalisation

section Lists

/-- A list of rows that all validate is validated. -/
theorem mapM_readable {entry body : Type} (validate : entry → Option body) (entries : List entry)
    (valid : ∀ one ∈ entries, (validate one).isSome = true) :
    (entries.mapM validate).isSome = true := by
  induction entries with
  | nil => rfl
  | cons head rest inductionHypothesis =>
    obtain ⟨first, shown⟩ := Option.isSome_iff_exists.mp (valid head List.mem_cons_self)
    obtain ⟨others, listed⟩ := Option.isSome_iff_exists.mp
      (inductionHypothesis fun one member => valid one (List.mem_cons_of_mem _ member))
    rw [List.mapM_cons, shown, listed]
    rfl

variable (platform : Platform) (db : Database) (context : AuthContext) (journeyId : Uuid)

/-- `_journey_row` as a function of the database. -/
theorem journeyRow_alone {α : Type} (rest : StoredJourney → Action α) :
    alone (plainApi platform) (journeyRow context journeyId false >>= rest) db =
      match visibleJourney db context.scope journeyId with
      | none => .error (.application resourceNotFound)
      | some row => alone (plainApi platform) (rest row) db := by
  cases found : visibleJourney db context.scope journeyId with
  | none =>
    have ran : (plainApi platform).execute (.selectJourney context.scope journeyId false) db =
        .ran (none : Option StoredJourney) [] [] := by
      simp only [plainApi, api, execute, found]
      rfl
    simp only [journeyRow, Program.ask_bind, Program.perform_bind]
    rw [alone_ran _ _ _ _ _ _ _ ran]
    rfl
  | some row =>
    have ran : (plainApi platform).execute (.selectJourney context.scope journeyId false) db =
        .ran (some row) [] [] := by
      simp only [plainApi, api, execute, found]
      rfl
    simp only [journeyRow, Program.ask_bind, Program.perform_bind]
    rw [alone_ran _ _ _ _ _ _ _ ran]
    rfl

/-- `list_segments` of a readable database raises no validation error. -/
theorem listSegments_readable (readable : Readable db) :
    alone (plainApi platform) (listSegments context journeyId) db ≠ .error .validationError := by
  rw [listSegments, journeyRow_alone]
  cases visibleJourney db context.scope journeyId with
  | none => simp
  | some row =>
    have valid : ((visibleTimeline db context.scope journeyId).mapM fun entry =>
        segmentResponse entry.1 entry.2.1).isSome = true := by
      apply mapM_readable
      rintro ⟨id, stored⟩ member
      unfold visibleTimeline at member
      split at member
      · exact readable.segments id stored ((mem_timeline db journeyId id stored).mp member).1 id
      · cases member
    obtain ⟨items, shown⟩ := Option.isSome_iff_exists.mp valid
    have ran : (plainApi platform).execute (.listSegments context.scope journeyId) db =
        .ran (visibleTimeline db context.scope journeyId) [] [] := rfl
    simp only [Program.ask_bind]
    rw [alone_ran _ _ _ _ _ _ _ ran, shown]
    simp

/-- Nor does `list_packing`. -/
theorem listPacking_readable (readable : Readable db) :
    alone (plainApi platform) (listPacking context journeyId) db ≠ .error .validationError := by
  rw [listPacking, journeyRow_alone]
  cases visible : visibleJourney db context.scope journeyId with
  | none => simp
  | some row =>
    have valid : ((sortBy (byCategory platform) (collect (packingItemOf journeyId) db)).mapM
        fun entry => packingResponse entry.1 entry.2.1).isSome = true := by
      apply mapM_readable
      rintro ⟨id, stored⟩ member
      rw [mem_sortBy, mem_collect] at member
      obtain ⟨key, stored, found, picked⟩ := member
      cases key with
      | packingItem other =>
        simp only [packingItemOf] at picked
        split at picked
        · cases picked
          exact readable.packing id _ found id
        · cases picked
      | _ => cases picked
    obtain ⟨items, shown⟩ := Option.isSome_iff_exists.mp valid
    have ran : (plainApi platform).execute (.listPacking context.scope journeyId) db =
        .ran (sortBy (byCategory platform) (collect (packingItemOf journeyId) db)) [] [] := by
      simp only [plainApi, api, execute, visible]
      rfl
    simp only [Program.ask_bind]
    rw [alone_ran _ _ _ _ _ _ _ ran, shown]
    simp

end Lists

section Writing

/-- A write that leaves a readable row, or none. -/
def ReadableWrite : Write Row → Prop
  | .put (.segment _) row => Segment.Readable row.1
  | .put (.packingItem _) row => PackingItem.Readable row.1
  | _ => True

/-- A transaction whose buffer holds readable rows only. -/
def WritesReadable (progress : Progress Name Row Res) : Prop :=
  ∀ write ∈ progress.writes, ReadableWrite write

/-- Statements that write readable rows, whatever readable rows they find. -/
def Op.KeepsReadable : Op → Prop
  | .insertSegment _ _ row => row.Readable
  | .swapSegment _ _ _ _ values now => ∀ row : Segment, (row.revised values now).Readable
  | .insertPackingItem _ _ row => row.Readable
  | .swapPackingItem _ _ _ _ values now => ∀ row : PackingItem, (row.revised values now).Readable
  | .touchJourney _ _ _ => True
  | op => op.changesParts = true

/-- Readable writes on readable rows. -/
theorem applyAll_readable (writes : List (Write Row)) (db : Database)
    (valid : ∀ write ∈ writes, ReadableWrite write) (readable : Readable db) :
    Readable (applyAll writes db) := by
  induction writes generalizing db with
  | nil => exact readable
  | cons write rest inductionHypothesis =>
    rw [applyAll_cons]
    apply inductionHypothesis _ fun later member => valid later (List.mem_cons_of_mem _ member)
    have here := valid write List.mem_cons_self
    constructor
    · intro id row found
      by_cases same : write.key = Key.segment id
      · cases write with
        | put key stored =>
          cases same
          rw [Write.apply, AList.lookup_insert, Option.some.injEq] at found
          exact found ▸ here
        | drop key =>
          cases same
          simp [Write.apply] at found
      · rw [write.lookup_apply_ne db _ same] at found
        exact readable.segments id row found
    · intro id row found
      by_cases same : write.key = Key.packingItem id
      · cases write with
        | put key stored =>
          cases same
          rw [Write.apply, AList.lookup_insert, Option.some.injEq] at found
          exact found ▸ here
        | drop key =>
          cases same
          simp [Write.apply] at found
      · rw [write.lookup_apply_ne db _ same] at found
        exact readable.packing id row found

variable (platform : Platform) (db : Database)

/-- `insertPackingItem` stores the given row. -/
theorem ran_insertPackingItem (scope : Scope) (id : Uuid) (row : PackingItem)
    (answer : StoredPackingItem) (writes : List (Write Row)) (locks : Locks Key Name)
    (ran : execute platform (.insertPackingItem scope id row) db = .ran answer writes locks) :
    answer.1 = row ∧ writes = [.put (Key.packingItem id) answer] := by
  simp only [execute] at ran
  split at ran
  · obtain ⟨admissible, ran⟩ := (storing_ran _ _ _ _ _).mp ran
    split at ran
    · simp at ran
    · cases ran
      exact ⟨rfl, rfl⟩
  · simp at ran

/-- A compare-and-swap on packing items stores the changed row that it found. -/
theorem comparing_packing (texts : List Text) (scope : Scope) (journeyId id : Uuid) (expected : Nat)
    (change : PackingItem → PackingItem) (answer : Option StoredPackingItem)
    (writes : List (Write Row)) (locks : Locks Key Name)
    (ran : (comparing texts expected (packingItemIn db scope journeyId id)
      (fun row => row.1.recordVersion) fun row =>
        storing (change row.1) fun (stored : StoredPackingItem) =>
          .ran (some stored) [.put (.packingItem id) stored] []) = .ran answer writes locks) :
    (answer = none ∧ writes = []) ∨
      ∃ row stored : StoredPackingItem, db.lookup (Key.packingItem id) = some row ∧
        stored.1 = change row.1 ∧ answer = some stored ∧
          writes = [.put (Key.packingItem id) stored] := by
  rcases comparing_ran _ _ _ _ _ _ _ _ ran with ⟨rfl, rfl, _⟩ | ⟨row, found, _, swapped⟩
  · exact Or.inl ⟨rfl, rfl⟩
  · obtain ⟨admissible, swapped⟩ := (storing_ran _ _ _ _ _).mp swapped
    cases swapped
    refine Or.inr ⟨row, ⟨change row.1, admissible⟩, ?_, rfl, rfl, rfl⟩
    obtain ⟨shown, _⟩ := (Option.filter_eq_some_iff).mp found
    unfold visiblePackingItem at shown
    split at shown
    · cases shown
    · next stored present =>
      split at shown
      · cases shown
        exact present
      · cases shown

/-- A statement of the right kind writes readable rows. -/
theorem executed_readable (op : Op) (kind : op.KeepsReadable) (readable : Readable db)
    (answer : Res op) (writes : List (Write Row)) (locks : Locks Key Name)
    (ran : execute platform op db = .ran answer writes locks) :
    ∀ write ∈ writes, ReadableWrite write := by
  by_cases reads : op.reads = true
  · rw [reads_only platform db op reads answer writes locks ran]
    simp
  cases op with
  | insertSegment scope id row =>
    obtain ⟨same, _, _, rfl⟩ := ran_insertSegment platform db _ _ _ answer writes locks ran
    simp only [List.mem_singleton, forall_eq, ReadableWrite, same]
    exact kind
  | swapSegment scope journeyId id expected values now =>
    rcases ran_swapSegment platform db _ _ _ _ _ _ answer writes locks ran with ⟨_, rfl⟩ |
      ⟨row, stored, _, _, same, _, rfl⟩
    · simp
    · simp only [List.mem_singleton, forall_eq, ReadableWrite, same]
      exact kind row.1
  | shiftSegment scope journeyId id =>
    rcases ran_shiftSegment platform db _ _ _ _ writes locks ran with ⟨_, rfl⟩ |
      ⟨row, stored, shown, same, rfl⟩
    · simp
    · simp only [List.mem_singleton, forall_eq, ReadableWrite, same]
      have old := readable.segments id row ((segmentIn_some _ _ _ _ _).mp shown).1
      exact shifted_readable row.1 (row.1.position + shiftOffset) old
  | placeSegment scope id position stamp bump =>
    rcases ran_placeSegment platform db _ _ _ _ _ _ writes locks ran with ⟨_, rfl⟩ |
      ⟨row, stored, shown, same, rfl⟩
    · simp
    · simp only [List.mem_singleton, forall_eq, ReadableWrite, same]
      have old := readable.segments id row ((visibleSegment_some _ _ _ _).mp shown).1
      exact placed_readable row.1 position stamp bump old
  | deleteSegment scope id =>
    rcases ran_deleteSegment platform db _ _ _ _ _ ran with ⟨_, rfl⟩ | ⟨_, _, rfl⟩
    · simp
    · simp [ReadableWrite]
  | touchJourney scope id now =>
    rcases ran_touchJourney platform db _ _ _ _ _ _ ran with ⟨_, rfl⟩ | ⟨_, _, _, _, rfl⟩
    · simp
    · simp [ReadableWrite]
  | insertPackingItem scope id row =>
    obtain ⟨same, rfl⟩ := ran_insertPackingItem platform db _ _ _ answer writes locks ran
    simp only [List.mem_singleton, forall_eq, ReadableWrite, same]
    exact kind
  | swapPackingItem scope journeyId id expected values now =>
    rcases comparing_packing db _ scope journeyId id expected (fun row => row.revised values now)
      answer writes locks ran with ⟨_, rfl⟩ |
      ⟨row, stored, _, same, _, rfl⟩
    · simp
    · simp only [List.mem_singleton, forall_eq, ReadableWrite, same]
      exact kind row.1
  | swapPackingProgress scope journeyId id expected packedQuantity now =>
    rcases comparing_packing db _ scope journeyId id expected
      (fun row => row.progressed packedQuantity now) answer writes locks ran with ⟨_, rfl⟩ |
      ⟨row, stored, found, same, _, rfl⟩
    · simp
    · simp only [List.mem_singleton, forall_eq, ReadableWrite, same]
      have old := readable.packing id row found
      exact progressed_readable row.1 packedQuantity now old
  | deletePackingItem scope id =>
    simp only [execute] at ran
    split at ran
    · obtain ⟨_, rfl, _⟩ := (answered_ran _ _ _ _).mp ran
      simp
    · cases ran
      simp [ReadableWrite]
  | _ => first | exact absurd rfl reads | cases kind

end Writing

/-- A packing item is created or changed under a label with a visible character. -/
def Call.Labelled : Call → Prop
  | .createPacking _ command => strip command.label ≠ []
  | .updatePacking _ _ command => strip command.label ≠ []
  | _ => True

/-- The same for a request. -/
def Request.Labelled (request : Request) : Prop :=
  ∀ call runtime, request.call = some (call, runtime) → call.Labelled

/-- The contract of runs that change segments and packing items under such labels. -/
def readableContract : Contract Row Request Reply where
  Allowed request := request.partsOf.isSome = true ∧ request.Labelled
  Inv := Readable
  Commits _ reply _ after := Readable after ∧ reply ≠ .error internalError

section Contract

variable {platform : Platform} {request : Request} (context : AuthContext) (runtime : Runtime)

/-- Where a piece of server code leads under that contract. -/
abbrev Fulfils (platform : Platform) (request : Request) {α : Type} (action : Action α)
    (progress : Progress Name Row Res) (store : Database)
    (post : α → Progress Name Row Res → Database → Prop) : Prop :=
  Leads (plainApi platform) readableContract request action progress store post

/-- The view of a transaction with readable writes is readable. -/
theorem view_readable (progress : Progress Name Row Res) (store : Database)
    (valid : WritesReadable progress) (readable : Readable store) :
    Readable (progress.view store) :=
  applyAll_readable progress.writes store valid readable

/-- One statement keeps the buffer readable. -/
theorem extend_readable (progress : Progress Name Row Res) (later : Database)
    (valid : WritesReadable progress) (readable : Readable later) (op : Op) (answer : Res op)
    (writes : List (Write Row)) (locks : Locks Key Name)
    (ran : (plainApi platform).execute op (progress.view later) = .ran answer writes locks)
    (kind : op.KeepsReadable) :
    WritesReadable (progress.extend op answer writes locks) := by
  intro write member
  simp only [Progress.extend, List.mem_append] at member
  rcases member with earlier | new
  · exact valid write earlier
  · exact executed_readable platform _ op kind (view_readable progress later valid readable) answer
      writes locks ran write new

/-- So does every program of such statements. -/
theorem fulfils_keeping {α : Type} (action : Action α)
    (only : action.Only fun op => op.KeepsReadable) (progress : Progress Name Row Res)
    (store : Database) (valid : WritesReadable progress) :
    Fulfils platform request action progress store fun _ grown _ => WritesReadable grown := by
  apply leads_invariant (plainApi platform) readableContract Op.KeepsReadable
    (fun grown _ => WritesReadable grown) _ action only progress store valid
  intro grown _ later op answer writes locks kind kept readable _ ran
  exact extend_readable grown later kept readable op answer writes locks ran kind

/-- A reply that is built from the last row is not an internal error. -/
def Answers (platform : Platform) (request : Request) {body : Type} (action : Action (Option body))
    (progress : Progress Name Row Res) (store : Database) : Prop :=
  Fulfils platform request action progress store fun reply grown _ =>
    reply.isSome = true ∧ WritesReadable grown

/-- Touching the journey afterwards changes nothing about it. -/
theorem answers_touch {body : Type} (journeyId : Uuid) (reply : Option body)
    (built : reply.isSome = true) (progress : Progress Name Row Res) (store : Database)
    (valid : WritesReadable progress) :
    Answers platform request (touchJourney context runtime journeyId >>= fun _ => pure reply)
      progress store := by
  apply leads_bind
  apply leads_mono _ _ _ _ _ _ _ _ (fulfils_keeping (touchJourney context runtime journeyId)
    ⟨trivial, fun _ => trivial⟩ progress store valid)
  intro _ grown later kept
  exact ⟨built, kept⟩

/-- `create_segment` answers. -/
theorem createSegment_answers (journeyId : Uuid) (command : SegmentCreate)
    (progress : Progress Name Row Res) (store : Database) (valid : WritesReadable progress) :
    Answers platform request (createSegment context runtime journeyId command) progress store := by
  apply leads_bind
  apply leads_mono _ _ _ _ _ _ _ _ (fulfils_keeping (journeyRow context journeyId false)
    ⟨rfl, fun row => by cases row <;> trivial⟩ progress store valid)
  intro _ grown middle kept first readable _ position writes locks ran
  have kept := extend_readable grown first kept readable _ position writes locks ran rfl
  intro later readable _ answer writes locks ran
  have fresh := newSegment_readable journeyId position command.toSegmentInput (runtime.clock 1)
  have kept := extend_readable _ later kept readable _ answer writes locks ran fresh
  obtain ⟨same, _⟩ := ran_insertSegment platform _ _ _ _ answer writes locks ran
  apply answers_touch context runtime journeyId _ _ _ later kept
  rw [same]
  exact fresh _

/-- `update_segment` answers. -/
theorem updateSegment_answers (journeyId segmentId : Uuid) (command : SegmentUpdate)
    (progress : Progress Name Row Res) (store : Database) (valid : WritesReadable progress) :
    Answers platform request (updateSegment context runtime journeyId segmentId command) progress
      store := by
  apply leads_bind
  have only : (ownedSegment context journeyId segmentId).Only fun op => op.KeepsReadable := by
    refine ⟨rfl, fun journey => ?_⟩
    cases journey with
    | none => trivial
    | some found =>
      refine ⟨rfl, fun segment => ?_⟩
      cases segment <;> trivial
  apply leads_mono _ _ _ _ _ _ _ _ (fulfils_keeping _ only progress store valid)
  intro _ grown middle kept later readable _ answer writes locks ran
  have fresh := fun row : Segment => revised_readable row command.toSegmentInput (runtime.clock 1)
  have kept := extend_readable grown later kept readable _ answer writes locks ran fresh
  rcases ran_swapSegment platform _ _ _ _ _ _ _ answer writes locks ran with ⟨rfl, _⟩ |
    ⟨row, stored, _, _, same, rfl, _⟩
  · trivial
  · apply answers_touch context runtime journeyId _ _ _ later kept
    rw [same]
    exact fresh row.1 _

/-- Finding an owned packing item keeps the buffer readable. -/
theorem ownedPacking_keeps (journeyId itemId : Uuid) :
    (ownedPacking context journeyId itemId).Only fun op => op.KeepsReadable := by
  refine ⟨rfl, fun journey => ?_⟩
  cases journey with
  | none => trivial
  | some found =>
    refine ⟨rfl, fun item => ?_⟩
    cases item <;> trivial

/-- `create_packing` answers under a visible label. -/
theorem createPacking_answers (journeyId : Uuid) (command : PackingCreate)
    (labelled : strip command.label ≠ []) (progress : Progress Name Row Res) (store : Database)
    (valid : WritesReadable progress) :
    Answers platform request (createPacking context runtime journeyId command) progress store := by
  apply leads_bind
  apply leads_mono _ _ _ _ _ _ _ _ (fulfils_keeping (journeyRow context journeyId false)
    ⟨rfl, fun row => by cases row <;> trivial⟩ progress store valid)
  intro _ grown middle kept later readable _ answer writes locks ran
  have fresh := (newPackingItem_readable journeyId command.toPackingInput (runtime.clock 1)).mpr
    labelled
  have kept := extend_readable grown later kept readable _ answer writes locks ran fresh
  obtain ⟨same, _⟩ := ran_insertPackingItem platform _ _ _ _ answer writes locks ran
  apply answers_touch context runtime journeyId _ _ _ later kept
  rw [same]
  exact fresh _

/-- `_finish_packing` answers for a readable row. -/
theorem finishPacking_answers (journeyId itemId : Uuid) (result : Option StoredPackingItem)
    (fresh : ∀ row ∈ result, PackingItem.Readable row.1) (progress : Progress Name Row Res)
    (store : Database) (valid : WritesReadable progress) :
    Answers platform request (finishPacking context runtime journeyId itemId result) progress
      store := by
  cases result with
  | none => trivial
  | some row => exact answers_touch context runtime journeyId _ (fresh row rfl _) progress store valid

/-- `update_packing` answers under a visible label. -/
theorem updatePacking_answers (journeyId itemId : Uuid) (command : PackingUpdate)
    (labelled : strip command.label ≠ []) (progress : Progress Name Row Res) (store : Database)
    (valid : WritesReadable progress) :
    Answers platform request (updatePacking context runtime journeyId itemId command) progress
      store := by
  apply leads_bind
  apply leads_mono _ _ _ _ _ _ _ _ (fulfils_keeping _ (ownedPacking_keeps context journeyId itemId)
    progress store valid)
  intro _ grown middle kept later readable _ answer writes locks ran
  have fresh := fun row : PackingItem =>
    (revisedPacking_readable row command (runtime.clock 1)).mpr labelled
  have kept := extend_readable grown later kept readable _ answer writes locks ran fresh
  apply finishPacking_answers context runtime journeyId itemId answer _ _ later kept
  rcases comparing_packing _ _ context.scope journeyId itemId command.expectedRecordVersion
    (fun row => row.revised (packingValues command) (runtime.clock 1)) answer writes locks ran with
    ⟨rfl, _⟩ | ⟨row, stored, _, same, rfl, _⟩
  · simp
  · rintro _ ⟨⟩
    rw [same]
    exact fresh row.1

/-- `update_packing_progress` answers. -/
theorem updatePackingProgress_answers (journeyId itemId : Uuid) (command : PackingProgressUpdate)
    (progress : Progress Name Row Res) (store : Database) (valid : WritesReadable progress) :
    Answers platform request (updatePackingProgress context runtime journeyId itemId command)
      progress store := by
  apply leads_bind
  apply leads_mono _ _ _ _ _ _ _ _ (fulfils_keeping _ (ownedPacking_keeps context journeyId itemId)
    progress store valid)
  intro owned grown middle kept
  split
  · trivial
  · intro later readable _ answer writes locks ran
    have kept' := extend_readable grown later kept readable _ answer writes locks ran rfl
    apply finishPacking_answers context runtime journeyId itemId answer _ _ later kept'
    rcases comparing_packing _ _ context.scope journeyId itemId command.expectedRecordVersion
      (fun row => row.progressed command.packedQuantity (runtime.clock 1)) answer writes locks ran
      with ⟨rfl, _⟩ | ⟨row, stored, found, same, rfl, _⟩
    · simp
    · rintro _ ⟨⟩
      rw [same]
      exact progressed_readable row.1 _ _
        ((view_readable grown later kept readable).packing itemId row found)

/-- Finding an owned segment keeps the buffer readable. -/
theorem ownedSegment_keeps (journeyId segmentId : Uuid) :
    (ownedSegment context journeyId segmentId).Only fun op => op.KeepsReadable := by
  refine ⟨rfl, fun journey => ?_⟩
  cases journey with
  | none => trivial
  | some found =>
    refine ⟨rfl, fun segment => ?_⟩
    cases segment <;> trivial

/-- `reorder_segment` and `delete_segment` only move rows and drop them. -/
theorem reorderSegment_keeps (journeyId segmentId : Uuid) (expectedVersion newPosition : Nat) :
    (reorderSegment context runtime journeyId segmentId expectedVersion newPosition).Only
      fun op => op.KeepsReadable := by
  apply Program.only_bind _ _ _ (ownedSegment_keeps context journeyId segmentId)
  intro owned
  split
  · trivial
  · refine ⟨rfl, fun rows => ?_⟩
    simp only [Program.bind]
    split
    · trivial
    · split
      · apply Program.only_bind
        · exact ⟨rfl, fun found => Program.only_each _ _ _ fun id => ⟨rfl, fun _ => trivial⟩⟩
        · intro _
          apply Program.only_bind
          · exact Program.only_each _ _ _ fun entry => ⟨rfl, fun _ => trivial⟩
          · intro _
            apply Program.only_bind
            · exact ⟨trivial, fun _ => trivial⟩
            · intro _
              apply Program.only_bind _ _ _ (ownedSegment_keeps context journeyId segmentId)
              intro moved
              split <;> trivial
      · trivial

theorem deleteSegment_keeps (journeyId segmentId : Uuid) :
    (deleteSegment context runtime journeyId segmentId).Only fun op => op.KeepsReadable := by
  apply Program.only_bind _ _ _ (ownedSegment_keeps context journeyId segmentId)
  intro owned
  refine ⟨rfl, fun _ => ?_⟩
  refine Program.only_bind _ (compactSegments context journeyId)
    (fun _ => touchJourney context runtime journeyId) ?_ ?_
  · exact ⟨rfl, fun found => Program.only_each _ _ _ fun id => ⟨rfl, fun _ => trivial⟩⟩
  · intro _
    exact ⟨trivial, fun _ => trivial⟩

theorem deletePacking_keeps (journeyId itemId : Uuid) :
    (deletePacking context runtime journeyId itemId).Only fun op => op.KeepsReadable := by
  apply Program.only_bind _ _ _ (ownedPacking_keeps context journeyId itemId)
  intro owned
  exact ⟨rfl, fun _ => ⟨trivial, fun _ => trivial⟩⟩

/-- A response that could be built is no internal error. -/
theorem responds {body : Type} (reply : body → Reply) (proper : ∀ value, reply value ≠ .error
    internalError) (built : Option body) (shown : built.isSome = true) :
    respond reply built ≠ .error internalError := by
  obtain ⟨value, rfl⟩ := Option.isSome_iff_exists.mp shown
  exact proper value

/-- A handler that answers does not reply with an internal error. -/
theorem answers_reply {body : Type} (action : Action (Option body)) (reply : body → Reply)
    (proper : ∀ value, reply value ≠ .error internalError) (progress : Progress Name Row Res)
    (store : Database) (answers : Answers platform request action progress store) :
    Fulfils platform request (action >>= fun built => pure (respond reply built)) progress store
      fun given grown _ => given ≠ .error internalError ∧ WritesReadable grown := by
  apply leads_bind
  apply leads_mono _ _ _ _ _ _ _ _ answers
  rintro built grown later ⟨shown, valid⟩
  exact ⟨responds reply proper built shown, valid⟩

/-- Nor does one whose reply needs no validation after the commit. -/
theorem keeping_reply {body : Type} (action : Action body) (reply : body → Reply)
    (proper : ∀ value, reply value ≠ .error internalError)
    (only : action.Only fun op => op.KeepsReadable) (progress : Progress Name Row Res)
    (store : Database) (valid : WritesReadable progress) :
    Fulfils platform request (action >>= fun value => pure (reply value)) progress store
      fun given grown _ => given ≠ .error internalError ∧ WritesReadable grown := by
  apply leads_bind
  apply leads_mono _ _ _ _ _ _ _ _ (fulfils_keeping action only progress store valid)
  exact fun value grown later kept => ⟨proper value, kept⟩

/-- Every route that changes parts under visible labels replies properly. -/
theorem handle_fulfils (call : Call) (parts : call.partsOf.isSome = true) (labelled : call.Labelled)
    (progress : Progress Name Row Res) (store : Database) (valid : WritesReadable progress) :
    Fulfils platform request (handle platform context runtime call) progress store
      fun reply grown _ => reply ≠ .error internalError ∧ WritesReadable grown := by
  cases call with
  | createSegment journeyId command =>
    exact answers_reply _ _ (fun _ => by simp) progress store
      (createSegment_answers context runtime journeyId command progress store valid)
  | updateSegment journeyId segmentId command =>
    exact answers_reply _ _ (fun _ => by simp) progress store
      (updateSegment_answers context runtime journeyId segmentId command progress store valid)
  | reorderSegment journeyId segmentId command =>
    exact keeping_reply _ (.segment 200) (fun _ => by simp)
      (reorderSegment_keeps context runtime journeyId segmentId command.expectedRecordVersion
        command.newPosition) progress store valid
  | deleteSegment journeyId segmentId =>
    exact keeping_reply _ (fun _ => .noContent) (fun _ => by simp)
      (deleteSegment_keeps context runtime journeyId segmentId) progress store valid
  | createPacking journeyId command =>
    exact answers_reply _ _ (fun _ => by simp) progress store
      (createPacking_answers context runtime journeyId command labelled progress store valid)
  | updatePacking journeyId itemId command =>
    exact answers_reply _ _ (fun _ => by simp) progress store
      (updatePacking_answers context runtime journeyId itemId command labelled progress store valid)
  | updatePackingProgress journeyId itemId command =>
    exact answers_reply _ _ (fun _ => by simp) progress store
      (updatePackingProgress_answers context runtime journeyId itemId command progress store valid)
  | deletePacking journeyId itemId =>
    exact keeping_reply _ (fun _ => .noContent) (fun _ => by simp)
      (deletePacking_keeps context runtime journeyId itemId) progress store valid
  | _ => cases parts

end Contract

/-- Every such request keeps the contract. -/
theorem readable_safe (platform : Platform) (request : Request) (db : Database)
    (allowed : readableContract.Allowed request) :
    Safe (plainApi platform) readableContract request (program platform request) .empty db := by
  have promised : ∀ (reply : Reply) (grown : Progress Name Row Res) (later : Database),
      reply ≠ .error internalError ∧ WritesReadable grown →
        Promises (plainApi platform) readableContract request reply grown later := by
    rintro reply grown later ⟨proper, valid⟩ final readable _
    exact ⟨view_readable grown final valid readable, proper⟩
  obtain ⟨parts, labelled⟩ := allowed
  cases request with
  | http credentials call runtime =>
    apply leads_bind
    have only : (routeContext platform runtime credentials call.mutates).Only
        fun op => op.KeepsReadable := by
      apply (routeContext_identifies runtime credentials call.mutates).mono
      intro op identifies
      cases op <;> first | rfl | cases identifies
    apply leads_mono _ _ _ _ _ _ _ _ (fulfils_keeping _ only .empty db (by
      simp [WritesReadable, Progress.empty]))
    intro context grown later valid
    exact leads_mono _ _ _ _ _ _ _ promised (handle_fulfils context runtime call parts
      (labelled call runtime rfl) grown later valid)
  | operation context call runtime =>
    exact leads_mono _ _ _ _ _ _ _ promised (handle_fulfils context runtime call parts
      (labelled call runtime rfl) .empty db (by simp [WritesReadable, Progress.empty]))
  | command => cases parts
  | administer => cases parts

/-- Requests that change segments or packing items arrive, under visible labels. -/
def LabelledParts (_ : System Name Row Res Failure Request Reply) : Event Request → Prop
  | .arrive request => request.partsOf.isSome = true ∧ request.Labelled
  | _ => True

/-- What readers and writers get from a readable database. -/
structure Served (platform : Platform) (db : Database) : Prop where
  readable : Readable db
  segments : ∀ context journeyId,
    alone (plainApi platform) (listSegments context journeyId) db ≠ .error .validationError
  packing : ∀ context journeyId,
    alone (plainApi platform) (listPacking context journeyId) db ≠ .error .validationError

/-- The creation or update of a packing item under a label of white space, accepted,
leaves a row that cannot be read and no response. -/
structure Poisoned (platform : Platform) (reply : Reply) (after : Database) : Prop where
  reply : reply = .error internalError
  unreadable : ¬ Readable after

section Poison

variable {platform : Platform} (context : AuthContext) (runtime : Runtime) (journeyId : Uuid)

/-- A committed row that cannot be read poisons the table, and has no response. -/
theorem poisoned_row (id : Uuid) (stored : StoredPackingItem) (db after : Database)
    (reply : Option PackingResponse) (status : Nat)
    (unreadable : ¬ PackingItem.Readable stored.1)
    (touching : Completes platform (fun _ _ _ _ => true)
      (touchJourney context runtime journeyId >>= fun _ => pure (packingResponse id stored.1))
      (db.insert (Key.packingItem id) stored) reply after) :
    Poisoned platform (respond (.packingItem status) reply) after := by
  obtain ⟨_, touched, first, ended⟩ :=
    alone_ok_bind _ (touchJourney context runtime journeyId) _ _ after reply touching
  have kept := completes_touch context runtime journeyId _ touched first (Key.packingItem id) rfl
  cases ended
  rw [AList.lookup_insert] at kept
  constructor
  · rw [packing_readable] at unreadable
    rw [packingResponse, dif_neg unreadable]
    rfl
  · intro readable
    exact unreadable (readable.packing id stored kept)

/-- `create_packing` under a label of white space. -/
theorem createPacking_poisons (command : PackingCreate) (blank : strip command.label = [])
    (before after : Database) (reply : Option PackingResponse)
    (completes : Completes platform (fun _ _ _ _ => true)
      (createPacking context runtime journeyId command) before reply after) :
    Poisoned platform (respond (.packingItem 201) reply) after := by
  obtain ⟨_, first, found, rest⟩ :=
    alone_ok_bind _ (journeyRow context journeyId false) _ before after reply completes
  obtain ⟨rfl, _⟩ := completes_journeyRow context journeyId before first _ found
  obtain ⟨stored, writes, locks, ran, touching⟩ := completes_ask _ _ first after reply rest
  obtain ⟨same, rfl⟩ := ran_insertPackingItem platform _ _ _ _ stored writes locks ran
  apply poisoned_row context runtime journeyId _ stored first after reply 201 _ touching
  rw [same, newPackingItem_readable]
  exact fun visible => visible blank

/-- `update_packing` under a label of white space. -/
theorem updatePacking_poisons (itemId : Uuid) (command : PackingUpdate)
    (blank : strip command.label = []) (before after : Database) (reply : Option PackingResponse)
    (completes : Completes platform (fun _ _ _ _ => true)
      (updatePacking context runtime journeyId itemId command) before reply after) :
    Poisoned platform (respond (.packingItem 200) reply) after := by
  obtain ⟨_, first, found, rest⟩ :=
    alone_ok_bind _ (ownedPacking context journeyId itemId) _ before after reply completes
  obtain ⟨answer, writes, locks, ran, finishing⟩ := completes_ask _ _ first after reply rest
  rcases comparing_packing _ _ context.scope journeyId itemId command.expectedRecordVersion
    (fun row => row.revised (packingValues command) (runtime.clock 1)) answer writes locks ran with
    ⟨rfl, _⟩ | ⟨row, stored, _, same, rfl, rfl⟩
  · cases finishing
  · apply poisoned_row context runtime journeyId itemId stored first after reply 200 _ finishing
    rw [same, revisedPacking_readable]
    exact fun visible => visible blank

/-- Every route that is accepted with such a label. -/
theorem handle_poisons (call : Call) (blank : ¬ call.Labelled) (before after : Database)
    (reply : Reply)
    (completes : Completes platform (fun _ _ _ _ => true) (handle platform context runtime call)
      before reply after) : Poisoned platform reply after := by
  cases call with
  | createPacking journeyId command =>
    obtain ⟨body, middle, created, ended⟩ :=
      alone_ok_bind _ (createPacking context runtime journeyId command) _ before after reply
        completes
    cases ended
    exact createPacking_poisons context runtime journeyId command (Decidable.not_not.mp blank) before
      after body created
  | updatePacking journeyId itemId command =>
    obtain ⟨body, middle, updated, ended⟩ :=
      alone_ok_bind _ (updatePacking context runtime journeyId itemId command) _ before after reply
        completes
    cases ended
    exact updatePacking_poisons context runtime journeyId itemId command (Decidable.not_not.mp blank)
      before after body updated
  | _ => exact absurd trivial blank

end Poison

/-- In every run that changes parts under visible labels, every committed row can be
read back and every accepted request is answered. Each accepted request with another
label leaves a poisoned row. -/
theorem rows_stay_readable (platform : Platform) :
    (∀ db last, Readable db →
      Run (plainApi platform) LabelledParts (System.initial db) last →
        Served platform last.db ∧
          ∀ commit ∈ last.history, Served platform commit.after ∧
            commit.reply ≠ .error internalError) ∧
      ∀ request db reply after, ¬ request.Labelled →
        serve (plainApi platform) request db = (.ok reply, after) →
          Poisoned platform reply after := by
  have serves : ∀ db, Readable db → Served platform db := fun db readable =>
    ⟨readable, fun context journeyId => listSegments_readable platform db context journeyId readable,
      fun context journeyId => listPacking_readable platform db context journeyId readable⟩
  refine ⟨?_, ?_⟩
  · intro db last readable run
    have sound : Sound (plainApi platform) readableContract db last := by
      apply run_sound (plainApi platform) readableContract LabelledParts (System.initial db) last db
        (fun _ _ permitted => permitted)
      · intro system index process reply earlier _ found _
        exact never_stale (plainApi platform) LabelledParts (System.initial db) system
          (fun _ _ _ _ => rfl) earlier (by simp [System.initial]) process
            (List.mem_of_getElem? found)
      · exact fun request store allowed _ => readable_safe platform request store allowed
      · exact fun _ _ _ _ _ _ commits => commits.1
      · exact sound_initial (plainApi platform) readableContract db readable
      · exact run
    refine ⟨serves last.db sound.invariant, ?_⟩
    intro commit member
    obtain ⟨index, here⟩ := List.getElem?_of_mem member
    have admits := (sound.linked.around index commit here).2.2
    exact ⟨serves commit.after admits.2.2.1, admits.2.2.2.2⟩
  · intro request db reply after blank served
    have completes : Completes platform (fun _ _ _ _ => true) (program platform request) db reply
        after := by
      rw [serve] at served
      split at served
      · cases served
      · next executed =>
        cases served
        exact executed
    obtain ⟨call, runtime, called, unlabelled⟩ :
        ∃ call runtime, request.call = some (call, runtime) ∧ ¬ call.Labelled := by
      simp only [Request.Labelled] at blank
      push Not at blank
      exact blank
    cases request with
    | http credentials given surroundings =>
      cases called
      obtain ⟨context, middle, _, handled⟩ :=
        alone_ok_bind _ (routeContext platform runtime credentials call.mutates) _ db after reply
          completes
      exact handle_poisons context runtime call unlabelled middle after reply handled
    | operation context given surroundings =>
      cases called
      exact handle_poisons context runtime call unlabelled db after reply completes
    | command => cases called
    | administer => cases called

namespace Sample

/-- Create a packing item. -/
def packing (label : Text) (fits : 1 ≤ label.length ∧ label.length ≤ 200) : Request :=
  .http credentials
    (.createPacking 7
      { label := label, category := .other, quantity := 1, essential := false
        labelLength := fits, quantityBounds := by decide, id := some 30 }) runtime

/-- Nobody has stored a segment or a packing item yet. -/
theorem database_readable : Readable database := by
  constructor
  · intro id row found
    have member := AList.mem_lookup_iff.mp found
    simp [database] at member
  · intro id row found
    have member := AList.mem_lookup_iff.mp found
    simp [database] at member

/-- A visible label, carried through to its commit. -/
def socks : List (Event Request) :=
  .arrive (packing "Socks".toList (by decide)) :: List.replicate 6 (.advance 0)

end Sample

/-- An accepted request whose row cannot be read: its response is an internal error, and
from then on the list of packing items raises. -/
theorem blank_label_poisons :
    Readable Sample.database ∧
      ∃ reply after,
        serve (plainApi Sample.platform) (Sample.packing [' '] (by decide)) Sample.database =
            (.ok reply, after) ∧ reply = .error internalError ∧
          (serve (plainApi Sample.platform)
            (.http Sample.credentials (.listPacking 7) Sample.runtime) after).1 =
              .error .validationError := by
  refine ⟨Sample.database_readable, _, _, rfl, rfl, ?_⟩
  rfl

/-- A visible label is committed and stays readable. -/
theorem rows_stay_readable_socks :
    ∃ last : System Name Row Res Failure Request Reply,
      last.history.length = 1 ∧ Served Sample.platform last.db := by
  have made : ((System.initial Sample.database).steps (plainApi Sample.platform)
      Sample.socks).map (fun last => last.history.length) = some 1 := by
    decide
  obtain ⟨last, ran, committed⟩ := Option.map_eq_some_iff.mp made
  have permitted : ∀ event ∈ Sample.socks, ∀ system, LabelledParts system event := by
    intro event member system
    simp only [Sample.socks, List.mem_cons, List.mem_replicate] at member
    rcases member with rfl | ⟨_, rfl⟩
    · refine ⟨rfl, ?_⟩
      rintro call runtime ⟨⟩
      exact show strip "Socks".toList ≠ [] by decide
    · trivial
  exact ⟨last, committed, ((rows_stay_readable Sample.platform).1 Sample.database last
    Sample.database_readable (run_of_steps _ _ _ _ _ permitted ran)).1⟩

end TraxOs.Api
