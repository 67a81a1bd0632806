import TraxOs.Api.TimelineOperations

/-!
# Renumbering a timeline without collisions

The positions of a journey are unique, and the database checks this at every single row
write. A move therefore shifts the whole timeline out of the way, row after row in an
order that nobody chooses, before it renumbers it; a deletion closes the gap from the
front.

Seen from the places of the segments each of these loops is a sequence of moves, and a
write violates the constraint exactly when its move is not clear.
-/

namespace TraxOs.Api

open TraxOs.Theory

section Loops

variable (platform : Platform) (current : Request → (op : Op) → Res op → Database → Bool)

/-- Some row write of this code is refused because the position is taken. -/
def Collides {α : Type} (action : Action α) (db : Database) : Prop :=
  alone (api platform current) action db = .error (.database .uniqueViolation)

/-- This code moves one segment of the journey, and collides only with another one that
stands there. -/
structure Relocates (journeyId : Uuid) (action : Action Unit) (db : Database)
    (move : Uuid × Nat) : Prop where
  collides : Collides platform current action db →
    ∃ other, other ≠ move.1 ∧ placeOf db journeyId other = some move.2
  spares : ∀ after, Completes platform current action db () after →
    Spared [move.1] db after ∧ placeOf after journeyId = moved (placeOf db journeyId) move

variable {platform current}

/-- A loop that makes clear moves, one after the other. -/
theorem each_relocates {item : Type} (body : item → Action Unit) (items : List item)
    (move : item → Uuid × Nat) (journeyId : Uuid) (before : Database)
    (clear : Clear (placeOf before journeyId) (items.map move))
    (relocates : ∀ finished entry rest, items = finished ++ entry :: rest → ∀ middle,
      Spared (finished.map fun earlier => (move earlier).1) before middle →
        Relocates platform current journeyId (body entry) middle (move entry)) :
    ¬ Collides platform current (Program.each items body) before ∧
      ∀ after, Completes platform current (Program.each items body) before () after →
        Spared (items.map fun entry => (move entry).1) before after ∧
          placeOf after journeyId = carried (placeOf before journeyId) (items.map move) := by
  have round : ∀ finished entry rest, items = finished ++ entry :: rest → ∀ middle after,
      (Spared (finished.map fun earlier => (move earlier).1) before middle ∧
        placeOf middle journeyId = carried (placeOf before journeyId) (finished.map move)) →
      Completes platform current (body entry) middle () after →
        Spared ((finished ++ [entry]).map fun earlier => (move earlier).1) before after ∧
          placeOf after journeyId =
            carried (placeOf before journeyId) ((finished ++ [entry]).map move) := by
    rintro finished entry rest split middle after ⟨spared, places⟩ completes
    obtain ⟨kept, placed⟩ := (relocates finished entry rest split middle spared).spares after
      completes
    constructor
    · intro key other
      simp only [List.map_append, List.map_cons, List.map_nil, List.mem_append,
        List.mem_singleton] at other
      rw [kept key (fun id member => other id (Or.inr (List.mem_singleton.mp member))),
        spared key (fun id member => other id (Or.inl member))]
    · rw [placed, places, List.map_append, List.map_singleton, carried_concat]
  constructor
  · intro collides
    obtain ⟨finished, entry, rest, middle, split, ⟨spared, places⟩, failed⟩ :=
      alone_error_each (api platform current) body items _ round before _ ⟨fun _ _ => rfl, rfl⟩
        collides
    obtain ⟨other, differ, stands⟩ :=
      (relocates finished entry rest split middle spared).collides failed
    rw [places] at stands
    refine clear (finished.map move) (move entry) (rest.map move) ?_ other differ stands
    rw [split, List.map_append, List.map_cons]
  · intro after completes
    exact alone_ok_each (api platform current) body items _ round before after
      ⟨fun _ _ => rfl, rfl⟩ completes

/-- A row write is refused as a duplicate only where another segment stands. -/
theorem relocate_refused (db : Database) (id : Uuid) (row : StoredSegment) (target : Segment)
    (failed : relocate db id row target = .failed (.database .uniqueViolation)) :
    positionTaken db id target.journeyId target.position = true := by
  unfold relocate storing at failed
  split at failed
  · split at failed
    · next taken => exact taken
    · cases failed
  · simp [refused] at failed

/-- There it is refused, if the columns admit it. -/
theorem relocate_taken (db : Database) (id : Uuid) (row : StoredSegment) (target : Segment)
    (admissible : target.Admissible)
    (taken : positionTaken db id target.journeyId target.position = true) :
    relocate db id row target = .failed (.database .uniqueViolation) := by
  unfold relocate storing
  rw [dif_pos admissible]
  exact if_pos taken

variable (journeyId : Uuid)

/-- One stored row moves one segment. -/
theorem placeOf_insert (db : Database) (id : Uuid) (stored : StoredSegment)
    (inside : stored.1.journeyId = journeyId) :
    placeOf (db.insert (Key.segment id) stored) journeyId =
      moved (placeOf db journeyId) (id, stored.1.position) := by
  funext other
  by_cases same : other = id
  · subst same
    rw [moved, Function.update_self, placeOf_eq_some]
    exact ⟨stored, AList.lookup_insert _, inside, rfl⟩
  · rw [moved, Function.update_of_ne same]
    exact placeOf_congr journeyId _ _ other (AList.lookup_insert_ne (by simpa using same))

variable (context : AuthContext)

/-- One row of the bulk UPDATE. -/
theorem shiftSegment_relocates (db : Database) (id : Uuid) (row : StoredSegment)
    (shown : segmentIn db context.scope journeyId id = some row) :
    Relocates platform current journeyId
      (Program.ask (Op.shiftSegment context.scope journeyId id)) db
      (id, row.1.position + shiftOffset) := by
  obtain ⟨_, inside, _⟩ := (segmentIn_some _ _ _ _ _).mp shown
  constructor
  · intro collides
    rcases alone_error_perform _ _ _ db _ collides with failed | ⟨answer, writes, locks, _, ended⟩
    · have failed : execute platform (.shiftSegment context.scope journeyId id) db =
        .failed (.database .uniqueViolation) := failed
      simp only [execute, shown] at failed
      have taken := relocate_refused db id row _ failed
      simp only [inside] at taken
      exact (positionTaken_iff id _).mp taken
    · cases ended
  · intro after completes
    obtain ⟨answer, writes, locks, ran, ended⟩ := completes_ask _ _ db after () completes
    cases ended
    rcases ran_shiftSegment platform _ _ _ _ _ writes locks ran with
      ⟨hidden, _⟩ | ⟨found, stored, same, revised, rfl⟩
    · rw [shown] at hidden
      cases hidden
    · obtain rfl : row = found := Option.some.inj (shown.symm.trans same)
      refine ⟨spared_insert [id] db db id stored List.mem_cons_self fun _ _ => rfl, ?_⟩
      have placed := placeOf_insert journeyId db id stored (by rw [revised]; exact inside)
      rw [revised] at placed
      exact placed

/-- One row of a renumbering. -/
theorem placeSegment_relocates (db : Database) (id : Uuid) (position : Nat)
    (stamp : Option Timestamp) (bump : Bool) (row : StoredSegment)
    (shown : segmentIn db context.scope journeyId id = some row) :
    Relocates platform current journeyId
      (Program.ask (Op.placeSegment context.scope id position stamp bump)) db (id, position) := by
  obtain ⟨present, inside, visible⟩ := (segmentIn_some _ _ _ _ _).mp shown
  have seen : visibleSegment db context.scope id = some row :=
    (visibleSegment_some _ _ _ _).mpr ⟨present, inside ▸ visible⟩
  constructor
  · intro collides
    rcases alone_error_perform _ _ _ db _ collides with failed | ⟨answer, writes, locks, _, ended⟩
    · have failed : execute platform (.placeSegment context.scope id position stamp bump) db =
        .failed (.database .uniqueViolation) := failed
      simp only [execute, seen] at failed
      have taken := relocate_refused db id row _ failed
      simp only [Segment.placed, inside] at taken
      exact (positionTaken_iff id _).mp taken
    · cases ended
  · intro after completes
    obtain ⟨answer, writes, locks, ran, ended⟩ := completes_ask _ _ db after () completes
    cases ended
    rcases ran_placeSegment platform _ _ _ _ _ _ _ writes locks ran with
      ⟨hidden, _⟩ | ⟨found, stored, same, revised, rfl⟩
    · rw [seen] at hidden
      cases hidden
    · obtain rfl : row = found := Option.some.inj (seen.symm.trans same)
      refine ⟨spared_insert [id] db db id stored List.mem_cons_self fun _ _ => rfl, ?_⟩
      have placed := placeOf_insert journeyId db id stored (by rw [revised]; exact inside)
      rw [revised] at placed
      exact placed

/-- A segment that was not moved yet is shown as before. -/
theorem spared_segment (finished : List Uuid) (before middle : Database) (id : Uuid)
    (row : StoredSegment) (spared : Spared finished before middle) (waits : id ∉ finished)
    (shown : segmentIn before context.scope journeyId id = some row) :
    segmentIn middle context.scope journeyId id = some row := by
  rw [segmentIn_some] at shown ⊢
  refine ⟨?_, shown.2.1, ?_⟩
  · rw [← shown.1]
    apply spared
    intro earlier member same
    exact waits (Key.segment.inj same ▸ member)
  · rw [spared_visible journeyId finished before middle _ spared]
    exact shown.2.2

/-- The bulk UPDATE, as a sequence of moves. -/
theorem shift_relocates (before : Database) (ids : List Uuid) (distinct : ids.Nodup)
    (shown : ∀ id ∈ ids, (segmentIn before context.scope journeyId id).isSome = true)
    (clear : Clear (placeOf before journeyId)
      (shifts (placeOf before journeyId) shiftOffset ids)) :
    ¬ Collides platform current
        (Program.each ids fun id => Program.ask (Op.shiftSegment context.scope journeyId id))
          before ∧
      ∀ after, Completes platform current
        (Program.each ids fun id => Program.ask (Op.shiftSegment context.scope journeyId id)) before
          () after →
        Spared ids before after ∧ placeOf after journeyId =
          carried (placeOf before journeyId) (shifts (placeOf before journeyId) shiftOffset ids) := by
  have relocated := @each_relocates platform current _
    (fun id => Program.ask (Op.shiftSegment context.scope journeyId id)) ids
    (fun id => (id, (placeOf before journeyId id).getD 0 + shiftOffset)) journeyId before clear ?_
  · rw [List.map_id'] at relocated
    exact relocated
  · intro finished id rest split middle spared
    rw [List.map_id'] at spared
    rw [split, List.nodup_append] at distinct
    have waits : id ∉ finished := fun member => distinct.2.2 id member id List.mem_cons_self rfl
    obtain ⟨row, seen⟩ := Option.isSome_iff_exists.mp (shown id (by simp [split]))
    obtain ⟨present, inside, _⟩ := (segmentIn_some _ _ _ _ _).mp seen
    have stands := (placeOf_eq_some before journeyId id _).mpr ⟨row, present, inside, rfl⟩
    rw [stands]
    exact shiftSegment_relocates journeyId context middle id row
      (spared_segment journeyId context finished before middle id row spared waits seen)

/-- A renumbering, as a sequence of moves. -/
theorem renumber_relocates (before : Database) (ids : List Uuid) (distinct : ids.Nodup)
    (stamp : Option Timestamp) (bump : Uuid → Bool)
    (shown : ∀ id ∈ ids, (segmentIn before context.scope journeyId id).isSome = true)
    (clear : Clear (placeOf before journeyId) ids.zipIdx) :
    ¬ Collides platform current
      (Program.each ids.zipIdx fun entry =>
        Program.ask (Op.placeSegment context.scope entry.1 entry.2 stamp (bump entry.1)))
          before := by
  have relocated := @each_relocates platform current _
    (fun entry : Uuid × Nat =>
      Program.ask (Op.placeSegment context.scope entry.1 entry.2 stamp (bump entry.1)))
    ids.zipIdx id journeyId before (by rw [List.map_id]; exact clear) ?_
  · exact relocated.1
  · intro finished entry rest split middle spared
    have waits : entry.1 ∉ finished.map fun earlier => (id earlier).1 := by
      intro member
      obtain ⟨earlier, listed, same⟩ := List.mem_map.mp member
      exact zipIdx_distinct ids distinct finished rest entry split earlier listed same
    have member : entry.1 ∈ ids := by
      rw [← List.zipIdx_map_fst 0 ids, split]
      simp
    obtain ⟨row, seen⟩ := Option.isSome_iff_exists.mp (shown entry.1 member)
    exact placeSegment_relocates journeyId context middle entry.1 entry.2 stamp _ row
      (spared_segment journeyId context _ before middle entry.1 row spared waits seen)

end Loops

/-- The statements of a renumbering that enter nothing in the unique index. -/
def Op.unindexed : Op → Bool
  | .selectJourney _ _ _ => true
  | .touchJourney _ _ _ => true
  | .listSegments _ _ => true
  | .selectSegment _ _ _ => true
  | .deleteSegment _ _ => true
  | _ => false

/-- They cannot violate it. -/
theorem unindexed_unrefused (platform : Platform) (op : Op) (unindexed : op.unindexed = true)
    (db : Database) : execute platform op db ≠ .failed (.database .uniqueViolation) := by
  intro failed
  cases op with
  | selectJourney scope id forUpdate =>
    simp only [execute] at failed
    split at failed <;> cases failed
  | touchJourney scope id now =>
    simp only [execute] at failed
    split at failed
    · cases failed
    · unfold storing at failed
      split at failed
      · cases failed
      · simp [refused] at failed
  | listSegments scope journeyId => cases failed
  | selectSegment scope journeyId id => cases failed
  | deleteSegment scope id =>
    simp only [execute] at failed
    split at failed <;> cases failed
  | _ => cases unindexed

section Operations

variable {platform : Platform} {current : Request → (op : Op) → Res op → Database → Bool}

/-- Code of such statements does not collide. -/
theorem unindexed_clear {α : Type} (action : Action α)
    (avoids : action.Avoids (.database .uniqueViolation))
    (only : action.Only fun op => op.unindexed = true) (db : Database) :
    ¬ Collides platform current action db :=
  alone_avoids (api platform current) action _ avoids
    (only.mono fun op unindexed => unindexed_unrefused platform op unindexed) db

variable (context : AuthContext) (runtime : Runtime) (journeyId : Uuid)

/-- `_owned_segment` does not collide. -/
theorem ownedSegment_clear (segmentId : Uuid) (db : Database) :
    ¬ Collides platform current (ownedSegment context journeyId segmentId) db := by
  apply unindexed_clear
  · simp only [ownedSegment, journeyRow, raise, Program.ask_bind]
    intro found
    cases found with
    | none =>
      intro same
      cases same
    | some journey =>
      intro answer
      cases answer with
      | none =>
        intro same
        cases same
      | some row => trivial
  · simp only [ownedSegment, journeyRow, raise, Program.ask_bind]
    refine ⟨rfl, fun found => ?_⟩
    cases found with
    | none => trivial
    | some journey =>
      refine ⟨rfl, fun answer => ?_⟩
      cases answer <;> trivial

/-- `_touch_journey` does not collide. -/
theorem touchJourney_clear (db : Database) :
    ¬ Collides platform current (touchJourney context runtime journeyId) db := by
  apply unindexed_clear
  · intro answer
    trivial
  · exact ⟨rfl, fun _ => trivial⟩

/-- The shift of a contiguous timeline does not collide when its offset reaches past the
end, and then it moves every segment. -/
theorem shiftSegments_clear (before : Database) (contiguous : Contiguous before journeyId)
    (visible : (visibleJourney before context.scope journeyId).isSome = true)
    (past : (order before journeyId).length ≤ shiftOffset) :
    ¬ Collides platform current (shiftSegments context runtime journeyId) before ∧
      ∀ after, Completes platform current (shiftSegments context runtime journeyId) before ()
          after →
        (visibleJourney after context.scope journeyId).isSome = true ∧
          placeOf after journeyId = carried (placeOf before journeyId)
            (shifts (placeOf before journeyId) shiftOffset
              (runtime.order.arrange (order before journeyId))) := by
  have arranged := runtime.order.arranges (order before journeyId)
  have lists := lists_order contiguous
  have distinct := arranged.nodup_iff.mpr lists.nodup
  have shown : ∀ id ∈ runtime.order.arrange (order before journeyId),
      (segmentIn before context.scope journeyId id).isSome = true := by
    intro id member
    obtain ⟨row, found, inside⟩ :=
      (mem_order before journeyId id).mp (arranged.mem_iff.mp member)
    rw [(segmentIn_some _ _ _ _ row).mpr ⟨found, inside, visible⟩]
    rfl
  obtain ⟨free, moves⟩ := @shift_relocates platform current journeyId
    context before _ distinct shown
    (clear_shifts lists shiftOffset past _ distinct fun id => arranged.mem_iff.mp)
  have shows : (visibleTimeline before context.scope journeyId).map Prod.fst =
      order before journeyId := by
    rw [visibleTimeline, if_pos visible]
    rfl
  constructor
  · intro collides
    rcases alone_error_perform _ _ _ before _ collides with
      failed | ⟨rows, writes, locks, ran, shifting⟩
    · cases failed
    · obtain ⟨rfl, rfl, rfl⟩ := ran_listSegments platform _ _ _ _ _ _ ran
      simp only [Program.bind, shows] at shifting
      exact free shifting
  · intro after completes
    obtain ⟨rows, writes, locks, ran, shifting⟩ := completes_ask _ _ before after () completes
    obtain ⟨rfl, rfl, rfl⟩ := ran_listSegments platform _ _ _ _ _ _ ran
    simp only [Program.bind, shows] at shifting
    obtain ⟨spared, places⟩ := moves after shifting
    exact ⟨spared_visible journeyId _ before after _ spared ▸ visible, places⟩

/-- `delete_segment` does not collide on a contiguous timeline. -/
theorem deleteSegment_clear (segmentId : Uuid) (before : Database)
    (contiguous : Contiguous before journeyId) :
    ¬ Collides platform current (deleteSegment context runtime journeyId segmentId) before := by
  intro collides
  rcases alone_error_bind _ (ownedSegment context journeyId segmentId) _ before _ collides with
    owning | ⟨owned, first, found, deleting⟩
  · exact ownedSegment_clear context journeyId segmentId before owning
  obtain ⟨rfl, shown⟩ := completes_ownedSegment context journeyId segmentId before first owned found
  obtain ⟨present, inside, visible⟩ := (segmentIn_some _ _ _ _ _).mp shown
  rcases alone_error_perform _ _ _ first _ deleting with
    failed | ⟨_, writes, locks, ran, compacting⟩
  · exact unindexed_unrefused platform (.deleteSegment context.scope segmentId) rfl first failed
  rcases ran_deleteSegment platform _ _ _ _ _ _ ran with ⟨hidden, _⟩ | ⟨_, _, rfl⟩
  · rw [(visibleSegment_some _ _ _ _).mpr ⟨present, inside ▸ visible⟩] at hidden
    cases hidden
  obtain ⟨still, left, listed⟩ := erased_timeline context journeyId segmentId first contiguous
    visible
  have lists := lists_order contiguous
  have distinct := lists.nodup
  have apart : segmentId ∉ (order first journeyId).erase segmentId := distinct.not_mem_erase
  rcases alone_error_bind _ (compactSegments context journeyId) _ _ _ compacting with
    renumbering | ⟨_, compacted, _, touching⟩
  · rcases alone_error_perform _ _ _ _ _ renumbering with
      failed | ⟨rows, writes, locks, ran, placing⟩
    · cases failed
    obtain ⟨rfl, rfl, rfl⟩ := ran_listSegments platform _ _ _ _ _ _ ran
    change Collides platform current
      (Program.each ((visibleTimeline (first.erase (Key.segment segmentId)) context.scope
        journeyId).map Prod.fst).zipIdx fun entry =>
          Program.ask (Op.placeSegment context.scope entry.1 entry.2 none false))
      (first.erase (Key.segment segmentId)) at placing
    rw [listed] at placing
    refine renumber_relocates journeyId context (first.erase (Key.segment segmentId)) _
      (distinct.erase segmentId) none (fun _ => false) ?_ ?_ placing
    · intro id member
      rw [← left] at member
      obtain ⟨row, there, inside⟩ := (mem_order _ journeyId id).mp member
      rw [(segmentIn_some _ _ _ _ row).mpr ⟨there, inside, still⟩]
      rfl
    · apply clear_zipIdx _ _ (distinct.erase segmentId)
      · intro id missing
        exact placeOf_unordered _ journeyId id (left ▸ missing)
      · intro earlier later id before here stands
        have other : id ≠ segmentId := by
          rintro rfl
          exact apart (List.mem_of_getElem? here)
        rw [placeOf_congr journeyId _ first id
          (AList.lookup_erase_ne (by simpa using other))] at stands
        have stood := (lists id earlier).mp stands
        -- The segment waits at its old index, which is not before its new one.
        rcases getElem?_of_erase _ segmentId later id here with same | next
        · have := (lists id later).mpr same
          rw [stands, Option.some.injEq] at this
          omega
        · have := (lists id (later + 1)).mpr next
          rw [stands, Option.some.injEq] at this
          omega
  · exact touchJourney_clear context runtime journeyId compacted touching

/-- The checks of `reorder_segment` pass: the segment is shown with the expected version,
and the timeline has the new position. -/
structure Movable (db : Database) (segmentId : Uuid) (expected newPosition : Nat) : Prop where
  shown : ∃ row : StoredSegment, segmentIn db context.scope journeyId segmentId = some row ∧
    row.1.recordVersion = expected
  below : newPosition < (order db journeyId).length

/-- After the shift every segment stands past the offset. -/
theorem shifted_place (before shifted : Database) (contiguous : Contiguous before journeyId)
    (places : placeOf shifted journeyId = carried (placeOf before journeyId)
      (shifts (placeOf before journeyId) shiftOffset
        (runtime.order.arrange (order before journeyId))))
    (id : Uuid) (member : id ∈ order before journeyId) :
    ∃ position, placeOf shifted journeyId id = some (position + shiftOffset) := by
  have arranged := runtime.order.arranges (order before journeyId)
  obtain ⟨position, stands⟩ := ((lists_order contiguous).mem id).mp member
  refine ⟨position, ?_⟩
  rw [places]
  refine carried_moved _ _ ?_ (id, position + shiftOffset) ?_
  · rw [shifts_fst]
    exact arranged.nodup_iff.mpr (lists_order contiguous).nodup
  · refine List.mem_map.mpr ⟨id, arranged.mem_iff.mpr member, ?_⟩
    rw [stands]
    rfl

/-- `reorder_segment` does not collide on a contiguous timeline that ends before the
offset. -/
theorem reorderSegment_clear (segmentId : Uuid) (expected newPosition : Nat) (before : Database)
    (contiguous : Contiguous before journeyId)
    (past : (order before journeyId).length ≤ shiftOffset) :
    ¬ Collides platform current
      (reorderSegment context runtime journeyId segmentId expected newPosition) before := by
  intro collides
  rcases alone_error_bind _ (ownedSegment context journeyId segmentId) _ before _ collides with
    owning | ⟨owned, first, found, rest⟩
  · exact ownedSegment_clear context journeyId segmentId before owning
  obtain ⟨rfl, shown⟩ := completes_ownedSegment context journeyId segmentId before first owned found
  obtain ⟨present, inside, visible⟩ := (segmentIn_some _ _ _ _ _).mp shown
  split at rest
  · cases rest
  rcases alone_error_perform _ _ _ first _ rest with failed | ⟨rows, writes, locks, ran, checking⟩
  · cases failed
  obtain ⟨rfl, rfl, rfl⟩ := ran_listSegments platform _ _ _ _ _ _ ran
  have listed : (visibleTimeline first context.scope journeyId).map Prod.fst =
      order first journeyId := by
    rw [visibleTimeline, if_pos visible]
    rfl
  simp only [Program.bind, listed] at checking
  split at checking
  · cases checking
  next below =>
  split at checking
  next member =>
    have lists := lists_order contiguous
    obtain ⟨free, moves⟩ := @shiftSegments_clear platform current
      context runtime journeyId first contiguous visible past
    rcases alone_error_bind _ (shiftSegments context runtime journeyId) _ _ _ checking with
      shifting | ⟨_, shifted, shifting, renumbering⟩
    · exact free shifting
    obtain ⟨visibleThen, places⟩ := moves shifted shifting
    have room : newPosition ≤ ((order first journeyId).erase segmentId).length := by
      rw [List.length_erase_of_mem member]
      omega
    have arranged : (((order first journeyId).erase segmentId).insertIdx newPosition
        segmentId).Perm (order first journeyId) :=
      (List.perm_insertIdx segmentId _ room).trans (List.perm_cons_erase member).symm
    rcases alone_error_bind _ (renumberSegments context runtime segmentId _) _ shifted _
      renumbering with placing | ⟨_, renumbered, _, touching⟩
    · refine renumber_relocates journeyId context shifted _ (arranged.nodup_iff.mpr lists.nodup)
        (some (runtime.clock 1)) (fun id => id = segmentId) ?_ ?_ placing
      · intro id listed
        obtain ⟨position, stands⟩ := shifted_place runtime journeyId first shifted
          contiguous places id (arranged.mem_iff.mp listed)
        obtain ⟨row, there, inside, _⟩ := (placeOf_eq_some shifted journeyId id _).mp stands
        rw [(segmentIn_some _ _ _ _ row).mpr ⟨there, inside, visibleThen⟩]
        rfl
      · apply clear_zipIdx _ _ (arranged.nodup_iff.mpr lists.nodup)
        · intro id missing
          have unordered : id ∉ order first journeyId := fun member =>
            missing (arranged.mem_iff.mpr member)
          rw [places, carried_other]
          · exact placeOf_unordered first journeyId id unordered
          · rw [shifts_fst, (runtime.order.arranges _).mem_iff]
            exact unordered
        · intro earlier later id before here stands
          have bounded := (List.getElem?_eq_some_iff.mp here).1
          obtain ⟨position, away⟩ := shifted_place runtime journeyId first shifted
            contiguous places id (arranged.mem_iff.mp (List.mem_of_getElem? here))
          rw [stands, Option.some.injEq] at away
          rw [arranged.length_eq] at bounded
          omega
    rcases alone_error_bind _ (touchJourney context runtime journeyId) _ renumbered _ touching with
      failed | ⟨_, touched, _, reading⟩
    · exact touchJourney_clear context runtime journeyId renumbered failed
    rcases alone_error_bind _ (ownedSegment context journeyId segmentId) _ touched _ reading with
      failed | ⟨moved, final, _, responding⟩
    · exact ownedSegment_clear context journeyId segmentId touched failed
    · split at responding <;> cases responding
  · cases checking

/-- `_owned_segment` completes for a shown segment. -/
theorem ownedSegment_completes (segmentId : Uuid) (db : Database) (row : StoredSegment)
    (shown : segmentIn db context.scope journeyId segmentId = some row) :
    Completes platform current (ownedSegment context journeyId segmentId) db row db := by
  obtain ⟨_, _, visible⟩ := (segmentIn_some _ _ _ _ _).mp shown
  obtain ⟨journey, seen⟩ := Option.isSome_iff_exists.mp visible
  have journeyRan : (api platform current).execute
      (Op.selectJourney context.scope journeyId false) db = .ran (some journey) [] [] := by
    simp [api, execute, seen]
  have segmentRan : (api platform current).execute
      (Op.selectSegment context.scope journeyId segmentId) db = .ran (some row) [] [] := by
    simp [api, execute, shown, answered]
  unfold ownedSegment journeyRow
  simp only [Program.ask_bind, Program.perform_bind, Program.pure_eq]
  rw [Completes, alone_ran _ _ _ db (some journey) [] [] journeyRan]
  simp only [applyAll_nil, Program.done_bind]
  rw [alone_ran _ _ _ db (some row) [] [] segmentRan]
  rfl

/-- The first segment of a timeline that reaches past the offset is shifted onto another
one, when the database visits it first. -/
theorem shiftSegment_collides (db : Database) (contiguous : Contiguous db journeyId)
    (visible : (visibleJourney db context.scope journeyId).isSome = true)
    (beyond : shiftOffset < (order db journeyId).length) (first : Uuid)
    (leads : (order db journeyId)[0]? = some first) :
    Collides platform current (Program.ask (Op.shiftSegment context.scope journeyId first)) db := by
  have lists := lists_order contiguous
  obtain ⟨row, found, inside, stands⟩ :=
    (placeOf_eq_some db journeyId first 0).mp ((lists first 0).mpr leads)
  obtain ⟨other, there⟩ : ∃ other, (order db journeyId)[shiftOffset]? = some other :=
    ⟨_, List.getElem?_eq_getElem beyond⟩
  have differ : other ≠ first := by
    rintro rfl
    have both := ((lists other 0).mpr leads).symm.trans ((lists other shiftOffset).mpr there)
    cases both
  have taken : positionTaken db first journeyId shiftOffset = true :=
    (positionTaken_iff first shiftOffset).mpr ⟨other, differ, (lists other _).mpr there⟩
  have small : shiftOffset ≤ maxInteger := by decide
  have refusal : (api platform current).execute (Op.shiftSegment context.scope journeyId first) db =
      .failed (.database .uniqueViolation) := by
    simp only [api, execute, (segmentIn_some _ _ _ _ row).mpr ⟨found, inside, visible⟩, stands,
      Nat.zero_add]
    exact relocate_taken db first row _ ⟨small, row.2.2⟩ (inside ▸ taken)
  exact alone_failed _ _ _ db _ refusal

/-- `reorder_segment` collides on a timeline that reaches past the offset, when the
database visits it in its order. -/
theorem reorderSegment_collides (segmentId : Uuid) (expected newPosition : Nat) (db : Database)
    (contiguous : Contiguous db journeyId)
    (movable : Movable context journeyId db segmentId expected newPosition)
    (inOrder : ∀ ids, runtime.order.arrange ids = ids)
    (beyond : shiftOffset < (order db journeyId).length) :
    Collides platform current
      (reorderSegment context runtime journeyId segmentId expected newPosition) db := by
  obtain ⟨⟨row, shown, version⟩, below⟩ := movable
  obtain ⟨present, inside, visible⟩ := (segmentIn_some _ _ _ _ _).mp shown
  have listed : (visibleTimeline db context.scope journeyId).map Prod.fst = order db journeyId := by
    rw [visibleTimeline, if_pos visible]
    rfl
  have listing : (api platform current).execute (Op.listSegments context.scope journeyId) db =
      .ran (visibleTimeline db context.scope journeyId) [] [] := rfl
  have shifting : Collides platform current (shiftSegments context runtime journeyId) db := by
    unfold shiftSegments Collides
    rw [Program.ask_bind, alone_ran _ _ _ db _ [] [] listing, listed, inOrder, applyAll_nil]
    cases ordered : order db journeyId with
    | nil =>
      rw [ordered] at beyond
      cases beyond
    | cons first rest =>
      rw [Program.each_cons, alone_bind, shiftSegment_collides context journeyId db contiguous
        visible beyond first (by rw [ordered]; rfl)]
  have member : segmentId ∈ order db journeyId :=
    (mem_order db journeyId segmentId).mpr ⟨row, present, inside⟩
  unfold reorderSegment Collides
  rw [alone_bind, ownedSegment_completes context journeyId segmentId db row shown]
  simp only [version, ne_eq, not_true, if_false, Program.ask_bind]
  rw [alone_ran _ _ _ db _ [] [] listing]
  simp only [listed, applyAll_nil, Nat.not_le_of_lt below, member, if_true, if_false]
  rw [alone_bind, shifting]

/-- No row write of an accepted move violates the unique positions, in whatever order the
bulk UPDATE visits the rows, exactly when the offset of the shift reaches past the
timeline. No row write of a deletion ever does. -/
theorem renumbering_never_collides (segmentId : Uuid) (expected newPosition : Nat) (db : Database)
    (contiguous : Contiguous db journeyId)
    (movable : Movable context journeyId db segmentId expected newPosition) :
    ((∀ visits : VisitOrder, ¬ Collides platform current
        (reorderSegment context { runtime with order := visits } journeyId segmentId expected
          newPosition) db) ↔ (order db journeyId).length ≤ shiftOffset) ∧
      ¬ Collides platform current (deleteSegment context runtime journeyId segmentId) db := by
  refine ⟨⟨?_, ?_⟩, deleteSegment_clear context runtime journeyId segmentId db contiguous⟩
  · intro never
    by_contra beyond
    exact never ⟨id, fun ids => .refl ids⟩ (reorderSegment_collides context _ journeyId segmentId
      expected newPosition db contiguous movable (fun _ => rfl) (Nat.lt_of_not_le beyond))
  · intro past visits
    exact reorderSegment_clear context _ journeyId segmentId expected newPosition db contiguous past

end Operations

namespace Sample

/-- A stay at one position of the sample journey. -/
def stop (position : Nat) : Segment where
  journeyId := 7
  kind := .stay
  position := position
  startDate := none
  endDate := none
  placeName := some "Roma".toList
  originName := none
  destinationName := none
  transportMode := []
  notes := []
  recordVersion := 1
  createdAt := 0
  updatedAt := 0

/-- The sample journey with stays at its first positions. -/
def crowd : Nat → Database
  | 0 => database
  | count + 1 =>
    if admissible : (stop count).Admissible then
      (crowd count).insert (Key.segment (BitVec.ofNat 128 count)) ⟨stop count, admissible⟩
    else crowd count

/-- Every position that the column can hold admits a stay. -/
theorem stop_admissible (position : Nat) (small : position ≤ maxInteger) :
    (stop position).Admissible := by
  have first : (stop 0).Admissible := by decide
  exact ⟨small, first.2⟩

/-- The segments of the crowded journey. -/
theorem crowd_segment (count : Nat) (small : count ≤ maxInteger) (id : Uuid) (row : StoredSegment) :
    (crowd count).lookup (Key.segment id) = some row ↔ id.toNat < count ∧ row.1 = stop id.toNat := by
  induction count with
  | zero =>
    have absent : database.lookup (Key.segment id) = none := rfl
    rw [crowd, absent]
    simp
  | succ count inductionHypothesis =>
    have admissible := stop_admissible count (by omega)
    have wide : (BitVec.ofNat 128 count).toNat = count := by
      rw [BitVec.toNat_ofNat, Nat.mod_eq_of_lt]
      unfold maxInteger at small
      omega
    rw [crowd, dif_pos admissible]
    by_cases last : id = BitVec.ofNat 128 count
    · subst last
      rw [AList.lookup_insert, wide]
      constructor
      · intro same
        cases same
        exact ⟨Nat.lt_succ_self count, rfl⟩
      · rintro ⟨_, same⟩
        exact congrArg some (Subtype.ext same.symm)
    · have differ : id.toNat ≠ count := fun same => last (BitVec.eq_of_toNat_eq (same.trans wide.symm))
      rw [AList.lookup_insert_ne (by simpa using last), inductionHypothesis (by omega)]
      constructor
      · rintro ⟨before, same⟩
        exact ⟨by omega, same⟩
      · rintro ⟨before, same⟩
        exact ⟨by omega, same⟩

/-- It is as visible as before. -/
theorem crowd_visible (count : Nat) :
    visibleJourney (crowd count) context.scope 7 = visibleJourney database context.scope 7 := by
  apply visibleJourney_congr
  intro key central
  induction count with
  | zero => rfl
  | succ count inductionHypothesis =>
    rw [crowd]
    split
    · rw [AList.lookup_insert_ne, inductionHypothesis]
      rintro rfl
      cases central
    · exact inductionHypothesis

/-- Its stays are at the positions that they were given. -/
theorem crowd_contiguous (count : Nat) (small : count ≤ maxInteger) :
    order (crowd count) 7 = (List.range count).map (BitVec.ofNat 128) ∧
      Contiguous (crowd count) 7 := by
  apply order_of_lists
  have wide : ∀ position < count, (BitVec.ofNat 128 position).toNat = position := by
    intro position below
    rw [BitVec.toNat_ofNat, Nat.mod_eq_of_lt]
    unfold maxInteger at small
    omega
  intro id position
  rw [placeOf_eq_some, List.getElem?_map, Option.map_eq_some_iff]
  constructor
  · rintro ⟨row, found, _, stands⟩
    obtain ⟨below, same⟩ := (crowd_segment count small id row).mp found
    have here : id.toNat = position := by
      rw [← stands, same]
      rfl
    exact ⟨position, List.getElem?_range (here ▸ below), BitVec.eq_of_toNat_eq
      ((wide position (here ▸ below)).trans here.symm)⟩
  · rintro ⟨index, here, rfl⟩
    obtain ⟨below, same⟩ := List.getElem?_eq_some_iff.mp here
    rw [List.getElem_range] at same
    subst same
    rw [List.length_range] at below
    refine ⟨⟨stop position, stop_admissible position (by omega)⟩, ?_, rfl, rfl⟩
    rw [crowd_segment count small, wide position below]
    exact ⟨below, rfl⟩

/-- Its first stay can be moved to every one of its positions. -/
theorem crowd_movable (count : Nat) (small : count ≤ maxInteger) (newPosition : Nat)
    (below : newPosition < count) : Movable context 7 (crowd count) 0 1 newPosition := by
  obtain ⟨ordered, _⟩ := crowd_contiguous count small
  constructor
  · refine ⟨⟨stop 0, stop_admissible 0 (by decide)⟩, ?_, rfl⟩
    rw [segmentIn_some, crowd_segment count small, crowd_visible]
    exact ⟨⟨Nat.lt_of_le_of_lt (Nat.zero_le _) below, rfl⟩, rfl, rfl⟩
  · rw [ordered, List.length_map, List.length_range]
    exact below

end Sample

/-- A journey with three stays: the first one moves to the end, and no row write
collides although the rows are visited from the last to the first. -/
theorem renumbering_never_collides_few :
    ¬ Collides Sample.platform (fun _ _ _ _ => true)
        (reorderSegment Sample.context
          { Sample.runtime with order := ⟨List.reverse, List.reverse_perm⟩ } 7 0 1 2)
        (Sample.crowd 3) ∧
      ¬ Collides Sample.platform (fun _ _ _ _ => true)
        (deleteSegment Sample.context Sample.runtime 7 0) (Sample.crowd 3) := by
  have small : 3 ≤ maxInteger := by decide
  obtain ⟨moving, deleting⟩ := @renumbering_never_collides
    Sample.platform (fun _ _ _ _ => true) Sample.context Sample.runtime 7 0
    1 2 (Sample.crowd 3) (Sample.crowd_contiguous 3 small).2 (Sample.crowd_movable 3 small 2
      (by decide))
  refine ⟨moving.mpr ?_ _, deleting⟩
  rw [(Sample.crowd_contiguous 3 small).1]
  decide

/-- A journey with one stay more than the offset: the first one that is shifted lands on
the last one. -/
theorem crowded_journey_collides :
    Contiguous (Sample.crowd 100001) 7 ∧
      Movable Sample.context 7 (Sample.crowd 100001) 0 1 0 ∧
        Collides Sample.platform (fun _ _ _ _ => true)
          (reorderSegment Sample.context Sample.runtime 7 0 1 0) (Sample.crowd 100001) := by
  have small : 100001 ≤ maxInteger := by decide
  obtain ⟨ordered, contiguous⟩ := Sample.crowd_contiguous 100001 small
  have movable := Sample.crowd_movable 100001 small 0 (by decide)
  refine ⟨contiguous, movable, ?_⟩
  apply reorderSegment_collides Sample.context Sample.runtime 7 0 1 0 _ contiguous movable
    (fun _ => rfl)
  rw [ordered, List.length_map, List.length_range]
  decide

end TraxOs.Api
