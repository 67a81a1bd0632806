import TraxOs.Theory.Transactions
import TraxOs.Api.Routes
import TraxOs.Api.Timelines

/-!
# Timeline operations, one after another

Creating, updating, moving and deleting a segment as functions on the order of a
timeline. A creation appends, an update leaves the order, a move takes the segment out
and puts it back at its new position, and a deletion takes it out. Each of them leaves
the positions contiguous when they were.

The two loops write one row after the other. Their invariants say which rows were
renumbered so far and that every other row is as it was; the shift in between only has
to keep the segments where they belong.
-/

namespace TraxOs.Api

open TraxOs.Theory

/-- The journey whose timeline a route changes. -/
def Call.timelineOf : Call → Option Uuid
  | .createSegment journeyId _ => some journeyId
  | .updateSegment journeyId _ _ => some journeyId
  | .reorderSegment journeyId _ _ => some journeyId
  | .deleteSegment journeyId _ => some journeyId
  | _ => none

/-- What a timeline operation does to the order of the timeline, and what it requires
of the segment that it names. -/
def Rearranges (call : Call) (runtime : Runtime) (journeyId : Uuid) (before after : Database) :
    Prop :=
  match call with
  | .createSegment _ command =>
    command.id.getD runtime.entityId ∉ order before journeyId ∧
      order after journeyId = order before journeyId ++ [command.id.getD runtime.entityId]
  | .updateSegment _ id command =>
    (∃ row : StoredSegment, before.lookup (Key.segment id) = some row ∧
      row.1.journeyId = journeyId ∧ row.1.recordVersion = command.expectedRecordVersion) ∧
        order after journeyId = order before journeyId
  | .reorderSegment _ id command =>
    (∃ row : StoredSegment, before.lookup (Key.segment id) = some row ∧
      row.1.journeyId = journeyId ∧ row.1.recordVersion = command.expectedRecordVersion) ∧
        command.newPosition < (order before journeyId).length ∧
          order after journeyId =
            ((order before journeyId).erase id).insertIdx command.newPosition id
  | .deleteSegment _ id =>
    id ∈ order before journeyId ∧ order after journeyId = (order before journeyId).erase id
  | _ => False

/-- The same for a request. -/
def Request.timelineOf : Request → Option Uuid
  | .http _ call _ => call.timelineOf
  | .operation _ call _ => call.timelineOf
  | _ => none

/-- The context in which a request works on a database: the given one, or the one of
its session. -/
def Request.worksIn (platform : Platform) (db : Database) (context : AuthContext) :
    Request → Prop
  | .http credentials call runtime =>
    alone (plainApi platform) (routeContext platform runtime credentials call.mutates) db =
      .ok (context, db)
  | .operation given _ _ => given = context
  | _ => False

/-- What the timeline operation of a request does. -/
def Request.rearranges (journeyId : Uuid) (before after : Database) : Request → Prop
  | .http _ call runtime => Rearranges call runtime journeyId before after
  | .operation _ call runtime => Rearranges call runtime journeyId before after
  | _ => False

section Alone

variable (platform : Platform) (current : Request → (op : Op) → Res op → Database → Bool)

/-- A piece of server code that runs alone, to its end. -/
abbrev Completes {α : Type} (action : Action α) (before : Database) (value : α)
    (after : Database) : Prop :=
  alone (api platform current) action before = .ok (value, after)

variable {platform current}

/-- Code that completes has executed its first statement. -/
theorem completes_ask {α : Type} (op : Op) (next : Res op → Action α) (before after : Database)
    (value : α) (completes : Completes platform current (.perform op next) before value after) :
    ∃ answer writes locks, execute platform op before = .ran answer writes locks ∧
      Completes platform current (next answer) (applyAll writes before) value after :=
  alone_ok_perform (api platform current) op next before after value completes

/-- Code that only reads changes nothing. -/
theorem completes_reading {α : Type} (action : Action α)
    (only : action.Only fun op => op.reads = true) (before after : Database) (value : α)
    (completes : Completes platform current action before value after) : after = before := by
  induction action with
  | done result =>
    simp only [Completes, alone, Except.ok.injEq, Prod.mk.injEq] at completes
    exact completes.2.symm
  | fail error => simp [Completes, alone] at completes
  | perform op next inductionHypothesis =>
    obtain ⟨answer, writes, locks, ran, rest⟩ := completes_ask op next before after value completes
    obtain rfl := reads_only platform before op only.1 answer writes locks ran
    exact inductionHypothesis answer (only.2 answer) rest

variable (context : AuthContext) (runtime : Runtime) (journeyId : Uuid)

/-- Visibility of a journey is decided by the journey and the membership. -/
theorem visibleJourney_congr (left right : Database) (scope : Scope)
    (same : ∀ key : Key, key.isPart = false → left.lookup key = right.lookup key) :
    visibleJourney left scope journeyId = visibleJourney right scope journeyId := by
  have member : isMember left scope = isMember right scope := by
    rw [isMember, isMember, same (Key.membership scope.workspaceId scope.userId) rfl]
  simp only [visibleJourney, same (Key.journey journeyId) rfl, member]

/-- The place of a segment is decided by its row. -/
theorem placeOf_congr (left right : Database) (id : Uuid)
    (same : left.lookup (Key.segment id) = right.lookup (Key.segment id)) :
    placeOf left journeyId id = placeOf right journeyId id := by
  simp only [placeOf, same]

/-- `_journey_row` completes for a visible journey. -/
theorem completes_journeyRow (before after : Database) (row : StoredJourney)
    (completes : Completes platform current (journeyRow context journeyId false) before row after) :
    after = before ∧ visibleJourney before context.scope journeyId = some row := by
  obtain ⟨answer, writes, locks, ran, rest⟩ := completes_ask _ _ before after row completes
  obtain ⟨rfl, seen, _⟩ := ran_selectJourney platform _ _ _ _ _ _ _ ran
  cases answer with
  | none => cases rest
  | some found =>
    cases rest
    exact ⟨rfl, seen.symm⟩

/-- `_owned_segment` completes for a segment of a visible journey. -/
theorem completes_ownedSegment (segmentId : Uuid) (before after : Database) (row : StoredSegment)
    (completes : Completes platform current (ownedSegment context journeyId segmentId) before row
      after) : after = before ∧ segmentIn before context.scope journeyId segmentId = some row := by
  obtain ⟨journey, middle, first, second⟩ := alone_ok_bind _ _ _ before after row completes
  obtain ⟨rfl, _⟩ := completes_journeyRow context journeyId before middle journey first
  obtain ⟨answer, writes, locks, ran, rest⟩ := completes_ask _ _ middle after row second
  obtain ⟨rfl, rfl, rfl⟩ := ran_selectSegment platform _ _ _ _ _ _ _ ran
  cases seen : segmentIn middle context.scope journeyId segmentId with
  | none =>
    rw [seen] at rest
    cases rest
  | some found =>
    rw [seen] at rest
    cases rest
    exact ⟨rfl, rfl⟩

/-- `_touch_journey` changes no part of the journey. -/
theorem completes_touch (before after : Database)
    (completes : Completes platform current (touchJourney context runtime journeyId) before ()
      after) (key : Key) (part : key.isPart = true) : after.lookup key = before.lookup key := by
  obtain ⟨answer, writes, locks, ran, rest⟩ := completes_ask _ _ before after () completes
  cases rest
  rcases ran_touchJourney platform _ _ _ _ _ _ _ ran with ⟨_, rfl⟩ | ⟨row, stored, _, _, rfl⟩
  · rfl
  · exact AList.lookup_insert_ne (by rintro rfl; cases part)

/-- `create_segment` appends. -/
theorem createSegment_appends (command : SegmentCreate) (before after : Database)
    (reply : Option SegmentResponse) (contiguous : Contiguous before journeyId)
    (completes : Completes platform current (createSegment context runtime journeyId command) before
      reply after) :
    (visibleJourney before context.scope journeyId).isSome = true ∧
      command.id.getD runtime.entityId ∉ order before journeyId ∧
      Lists (placeOf after journeyId)
        (order before journeyId ++ [command.id.getD runtime.entityId]) := by
  obtain ⟨journey, first, found, rest⟩ :=
    alone_ok_bind _ (journeyRow context journeyId false) _ before after reply completes
  obtain ⟨rfl, visible⟩ := completes_journeyRow context journeyId before first journey found
  obtain ⟨position, writes, locks, ran, inserting⟩ := completes_ask _ _ first after reply rest
  obtain ⟨rfl, rfl, rfl⟩ := ran_nextPosition platform first context.scope journeyId position writes
    locks (by simp [visible]) contiguous ran
  obtain ⟨row, writes, locks, ran, finishing⟩ := completes_ask _ _ _ after reply inserting
  obtain ⟨same, free, untaken, rfl⟩ := ran_insertSegment platform _ _ _ _ row writes locks ran
  obtain ⟨_, touched, touching, ended⟩ :=
    alone_ok_bind _ (touchJourney context runtime journeyId) _ _ after reply finishing
  have kept := completes_touch context runtime journeyId _ touched touching
  cases ended
  have lists := lists_order contiguous
  have unplaced : placeOf first journeyId (command.id.getD runtime.entityId) = none := by
    have free : first.lookup (Key.segment (command.id.getD runtime.entityId)) = none := free
    simp only [placeOf, free]
  have fresh : command.id.getD runtime.entityId ∉ order first journeyId := by
    rw [lists.mem]
    rintro ⟨position, placed⟩
    rw [unplaced] at placed
    cases placed
  have lookups : ∀ id, after.lookup (Key.segment id) =
      (first.insert (Key.segment (command.id.getD runtime.entityId)) row).lookup
        (Key.segment id) := fun id => kept (Key.segment id) rfl
  refine ⟨by simp [visible], fresh, Lists.of_indices ?_ ?_⟩
  · intro position id here
    by_cases earlier : position < (order first journeyId).length
    · rw [List.getElem?_append_left earlier] at here
      have other : id ≠ command.id.getD runtime.entityId :=
        fun clash => fresh (clash ▸ List.mem_of_getElem? here)
      rw [placeOf_congr journeyId after first id]
      · exact (lists id position).mpr here
      · rw [lookups, AList.lookup_insert_ne (by simpa using other)]
    · have bounded := (List.getElem?_eq_some_iff.mp here).1
      rw [List.length_append, List.length_singleton] at bounded
      obtain rfl : position = (order first journeyId).length := by omega
      rw [List.getElem?_concat_length, Option.some.injEq] at here
      subst here
      rw [placeOf_eq_some]
      refine ⟨row, ?_, ?_, ?_⟩
      · rw [lookups, AList.lookup_insert]
      · rw [same]
        rfl
      · rw [same]
        rfl
  · intro id unlisted
    rw [List.mem_append, List.mem_singleton, not_or] at unlisted
    rw [placeOf_congr journeyId after first id]
    · cases placed : placeOf first journeyId id with
      | none => rfl
      | some position => exact absurd ((lists.mem id).mpr ⟨position, placed⟩) unlisted.1
    · rw [lookups, AList.lookup_insert_ne (by simpa using unlisted.2)]

/-- `update_segment` leaves the order. -/
theorem updateSegment_keeps (segmentId : Uuid) (command : SegmentUpdate) (before after : Database)
    (reply : Option SegmentResponse) (contiguous : Contiguous before journeyId)
    (completes : Completes platform current
      (updateSegment context runtime journeyId segmentId command) before reply after) :
    (visibleJourney before context.scope journeyId).isSome = true ∧
      (∃ row : StoredSegment, before.lookup (Key.segment segmentId) = some row ∧
      row.1.journeyId = journeyId ∧ row.1.recordVersion = command.expectedRecordVersion) ∧
        Lists (placeOf after journeyId) (order before journeyId) := by
  obtain ⟨owned, first, found, rest⟩ :=
    alone_ok_bind _ (ownedSegment context journeyId segmentId) _ before after reply completes
  obtain ⟨rfl, _⟩ := completes_ownedSegment context journeyId segmentId before first owned found
  obtain ⟨answer, writes, locks, ran, finishing⟩ := completes_ask _ _ first after reply rest
  rcases ran_swapSegment platform _ _ _ _ _ _ _ answer writes locks ran with
    ⟨rfl, rfl⟩ | ⟨row, stored, shown, expected, revised, rfl, rfl⟩
  · cases finishing
  · obtain ⟨present, inside, visible⟩ := (segmentIn_some _ _ _ _ _).mp shown
    obtain ⟨_, touched, touching, ended⟩ :=
      alone_ok_bind _ (touchJourney context runtime journeyId) _ _ after reply finishing
    have kept := completes_touch context runtime journeyId _ touched touching
    cases ended
    refine ⟨visible, ⟨row, present, inside, expected⟩, ?_⟩
    intro id position
    rw [← lists_order contiguous id position]
    suffices same : placeOf after journeyId id = placeOf first journeyId id by rw [same]
    have lookups : after.lookup (Key.segment id) =
      (first.insert (Key.segment segmentId) stored).lookup (Key.segment id) :=
        kept (Key.segment id) rfl
    by_cases same : id = segmentId
    · subst same
      rw [AList.lookup_insert] at lookups
      simp only [placeOf, lookups, present, revised]
      rfl
    · apply placeOf_congr
      rw [lookups, AList.lookup_insert_ne (by simpa using same)]

/-- Everything but some segments is as it was. -/
def Spared (ids : List Uuid) (before after : Database) : Prop :=
  ∀ key : Key, (∀ id ∈ ids, key ≠ Key.segment id) → after.lookup key = before.lookup key

/-- Some segments belong to the journey. -/
def Inside (ids : List Uuid) (db : Database) : Prop :=
  ∀ id ∈ ids, ∃ row : StoredSegment, db.lookup (Key.segment id) = some row ∧
    row.1.journeyId = journeyId

/-- One segment more was written. -/
theorem spared_insert (ids : List Uuid) (before middle : Database) (id : Uuid)
    (stored : StoredSegment) (member : id ∈ ids) (spared : Spared ids before middle) :
    Spared ids before (middle.insert (Key.segment id) stored) := by
  intro key other
  rw [AList.lookup_insert_ne (other id member)]
  exact spared key other

/-- And it still belongs to the journey. -/
theorem inside_insert (ids : List Uuid) (db : Database) (id : Uuid) (stored : StoredSegment)
    (owned : stored.1.journeyId = journeyId) (inside : Inside journeyId ids db) :
    Inside journeyId ids (db.insert (Key.segment id) stored) := by
  intro other member
  by_cases same : other = id
  · subst same
    exact ⟨stored, AList.lookup_insert _, owned⟩
  · obtain ⟨row, found, there⟩ := inside other member
    exact ⟨row, by rw [AList.lookup_insert_ne (by simpa using same)]; exact found, there⟩

/-- Changes of segments change no visibility. -/
theorem spared_visible (ids : List Uuid) (before after : Database) (scope : Scope)
    (spared : Spared ids before after) :
    visibleJourney after scope journeyId = visibleJourney before scope journeyId := by
  apply visibleJourney_congr
  intro key central
  apply spared
  intro id _ same
  rw [same] at central
  cases central

/-- The shift in the middle of a move keeps the segments in their journey. -/
theorem shift_keeps (ids : List Uuid) (before after : Database)
    (inside : Inside journeyId ids before)
    (completes : Completes platform current
      (Program.each ids fun id => Program.ask (Op.shiftSegment context.scope journeyId id)) before ()
        after) : Spared ids before after ∧ Inside journeyId ids after := by
  apply alone_ok_each (api platform current) _ ids
    (fun _ middle => Spared ids before middle ∧ Inside journeyId ids middle) _ before after
    ⟨fun _ _ => rfl, inside⟩ completes
  rintro finished id rest split middle next ⟨spared, inside⟩ round
  obtain ⟨answer, writes, locks, ran, ended⟩ := completes_ask _ _ middle next () round
  cases ended
  have member : id ∈ ids := by simp [split]
  rcases ran_shiftSegment platform _ _ _ _ _ writes locks ran with
    ⟨_, rfl⟩ | ⟨row, stored, shown, moved, rfl⟩
  · exact ⟨spared, inside⟩
  · refine ⟨spared_insert ids before middle id stored member spared,
      inside_insert journeyId ids middle id stored ?_ inside⟩
    rw [moved]
    exact ((segmentIn_some _ _ _ _ _).mp shown).2.1

/-- Renumbering puts each segment at its index. -/
theorem renumber_places (ids : List Uuid) (distinct : ids.Nodup) (stamp : Option Timestamp)
    (bump : Uuid → Bool) (before after : Database)
    (visible : (visibleJourney before context.scope journeyId).isSome = true)
    (inside : Inside journeyId ids before)
    (completes : Completes platform current
      (Program.each ids.zipIdx fun entry =>
        Program.ask (Op.placeSegment context.scope entry.1 entry.2 stamp (bump entry.1))) before ()
          after) :
    Spared ids before after ∧
      ∀ position id, ids[position]? = some id → placeOf after journeyId id = some position := by
  have placed := alone_ok_each (api platform current) _ ids.zipIdx
    (fun finished middle => Spared ids before middle ∧ Inside journeyId ids middle ∧
      ∀ entry ∈ finished, placeOf middle journeyId entry.1 = some entry.2) ?_ before after
    ⟨fun _ _ => rfl, inside, by simp⟩ completes
  · refine ⟨placed.1, ?_⟩
    intro position id here
    exact placed.2.2 (id, position) (List.mk_mem_zipIdx_iff_getElem?.mpr here)
  · rintro finished ⟨id, position⟩ rest split middle next ⟨spared, inside, done⟩ round
    obtain ⟨answer, writes, locks, ran, ended⟩ := completes_ask _ _ middle next () round
    cases ended
    have here : ids[position]? = some id := by
      apply List.mk_mem_zipIdx_iff_getElem?.mp
      simp [split]
    have member : id ∈ ids := List.mem_of_getElem? here
    obtain ⟨found, present, owned⟩ := inside id member
    rcases ran_placeSegment platform _ _ _ _ _ _ _ writes locks ran with
      ⟨hidden, rfl⟩ | ⟨row, stored, shown, moved, rfl⟩
    · have shown : visibleSegment middle context.scope id = some found := by
        rw [visibleSegment_some, owned, spared_visible journeyId ids before middle _ spared]
        exact ⟨present, visible⟩
      rw [hidden] at shown
      cases shown
    · obtain ⟨same, _⟩ := (visibleSegment_some _ _ _ _).mp shown
      obtain rfl : found = row := Option.some.inj (present.symm.trans same)
      have keeps : stored.1.journeyId = journeyId := by
        rw [moved]
        exact owned
      refine ⟨spared_insert ids before middle id stored member spared,
        inside_insert journeyId ids middle id stored keeps inside, ?_⟩
      intro entry written
      rcases List.mem_append.mp written with earlier | last
      · rw [← done entry earlier]
        apply placeOf_congr
        apply AList.lookup_insert_ne
        intro clash
        exact zipIdx_distinct ids distinct finished rest (id, position) split entry earlier
          (Key.segment.inj clash)
      · rw [List.mem_singleton] at last
        rw [last, placeOf_eq_some]
        refine ⟨stored, AList.lookup_insert _, keeps, ?_⟩
        rw [moved]
        rfl

/-- A timeline whose segments were all renumbered is listed by their new order. -/
theorem renumber_lists (ids : List Uuid) (distinct : ids.Nodup) (stamp : Option Timestamp)
    (bump : Uuid → Bool) (before after : Database)
    (visible : (visibleJourney before context.scope journeyId).isSome = true)
    (same : ∀ id, id ∈ ids ↔ id ∈ order before journeyId)
    (completes : Completes platform current
      (Program.each ids.zipIdx fun entry =>
        Program.ask (Op.placeSegment context.scope entry.1 entry.2 stamp (bump entry.1))) before ()
          after) : Lists (placeOf after journeyId) ids := by
  have inside : Inside journeyId ids before :=
    fun id member => (mem_order before journeyId id).mp ((same id).mp member)
  obtain ⟨spared, placed⟩ :=
    renumber_places context journeyId ids distinct stamp bump before after visible inside completes
  apply Lists.of_indices placed
  intro id unlisted
  rw [placeOf_congr journeyId after before id]
  · exact placeOf_unordered before journeyId id (fun member => unlisted ((same id).mpr member))
  · apply spared
    intro other member clash
    exact unlisted (Key.segment.inj clash ▸ member)

/-- `_touch_journey` moves no segment. -/
theorem completes_touch_lists (listed : List Uuid) (before after : Database)
    (lists : Lists (placeOf before journeyId) listed)
    (completes : Completes platform current (touchJourney context runtime journeyId) before ()
      after) : Lists (placeOf after journeyId) listed := by
  intro id position
  rw [← lists id position, placeOf_congr journeyId after before id
    (completes_touch context runtime journeyId before after completes (Key.segment id) rfl)]

/-- Without one of its segments a contiguous timeline keeps its order, and its journey
stays visible. -/
theorem erased_timeline (segmentId : Uuid) (db : Database) (contiguous : Contiguous db journeyId)
    (visible : (visibleJourney db context.scope journeyId).isSome = true) :
    (visibleJourney (db.erase (Key.segment segmentId)) context.scope journeyId).isSome = true ∧
      order (db.erase (Key.segment segmentId)) journeyId = (order db journeyId).erase segmentId ∧
        (visibleTimeline (db.erase (Key.segment segmentId)) context.scope journeyId).map Prod.fst =
          (order db journeyId).erase segmentId := by
  have still : visibleJourney (db.erase (Key.segment segmentId)) context.scope journeyId =
      visibleJourney db context.scope journeyId := by
    apply visibleJourney_congr
    intro key central
    apply AList.lookup_erase_ne
    intro same
    rw [same] at central
    cases central
  have left : order (db.erase (Key.segment segmentId)) journeyId =
      (order db journeyId).erase segmentId := by
    rw [order_erase, (lists_order contiguous).nodup.erase_eq_filter]
    apply List.filter_congr
    intro other _
    by_cases same : other = segmentId <;> simp [same]
  refine ⟨still ▸ visible, left, ?_⟩
  rw [visibleTimeline, still, if_pos visible]
  exact left

/-- `delete_segment` takes the segment out. -/
theorem deleteSegment_erases (segmentId : Uuid) (before after : Database)
    (contiguous : Contiguous before journeyId)
    (completes : Completes platform current (deleteSegment context runtime journeyId segmentId)
      before () after) :
    (visibleJourney before context.scope journeyId).isSome = true ∧
      segmentId ∈ order before journeyId ∧
      Lists (placeOf after journeyId) ((order before journeyId).erase segmentId) := by
  obtain ⟨owned, first, found, rest⟩ :=
    alone_ok_bind _ (ownedSegment context journeyId segmentId) _ before after () completes
  obtain ⟨rfl, shown⟩ := completes_ownedSegment context journeyId segmentId before first owned found
  obtain ⟨present, inside, visible⟩ := (segmentIn_some _ _ _ _ _).mp shown
  obtain ⟨_, writes, locks, ran, compacting⟩ := completes_ask _ _ first after () rest
  rcases ran_deleteSegment platform _ _ _ _ _ _ ran with ⟨hidden, _⟩ | ⟨_, _, rfl⟩
  · rw [(visibleSegment_some _ _ _ _).mpr ⟨present, inside ▸ visible⟩] at hidden
    cases hidden
  · obtain ⟨_, compacted, renumbering, touching⟩ :=
      alone_ok_bind _ (compactSegments context journeyId) _ _ after () compacting
    obtain ⟨rows, writes, locks, ran, placing⟩ := completes_ask _ _ _ compacted () renumbering
    obtain ⟨rfl, rfl, rfl⟩ := ran_listSegments platform _ _ _ _ _ _ ran
    obtain ⟨still, left, listed⟩ := erased_timeline context journeyId segmentId first contiguous
      visible
    refine ⟨visible, (mem_order first journeyId segmentId).mpr ⟨owned, present, inside⟩, ?_⟩
    have placing : Completes platform current
      (Program.each ((visibleTimeline (first.erase (Key.segment segmentId)) context.scope
        journeyId).map Prod.fst).zipIdx fun entry =>
          Program.ask (Op.placeSegment context.scope entry.1 entry.2 none false))
      (first.erase (Key.segment segmentId)) () compacted := placing
    rw [listed] at placing
    apply completes_touch_lists context runtime journeyId _ compacted after _ touching
    apply renumber_lists context journeyId _ ((lists_order contiguous).nodup.erase segmentId) none
      (fun _ => false) (first.erase (Key.segment segmentId)) compacted still _ placing
    intro id
    rw [left]

/-- The bulk UPDATE of a move changes no membership. -/
theorem shiftSegments_keeps (before after : Database)
    (visible : (visibleJourney before context.scope journeyId).isSome = true)
    (completes : Completes platform current (shiftSegments context runtime journeyId) before ()
      after) :
    (visibleJourney after context.scope journeyId).isSome = true ∧
      ∀ id, id ∈ order after journeyId ↔ id ∈ order before journeyId := by
  obtain ⟨rows, writes, locks, ran, shifting⟩ := completes_ask _ _ before after () completes
  obtain ⟨rfl, rfl, rfl⟩ := ran_listSegments platform _ _ _ _ _ _ ran
  have arranged := runtime.order.arranges (order before journeyId)
  have shifting : Completes platform current
      (Program.each (runtime.order.arrange (order before journeyId)) fun id =>
        Program.ask (Op.shiftSegment context.scope journeyId id)) before () after := by
    rw [visibleTimeline, if_pos visible] at shifting
    exact shifting
  obtain ⟨spared, inside⟩ := shift_keeps context journeyId _ before after
    (fun id member => (mem_order before journeyId id).mp (arranged.mem_iff.mp member)) shifting
  refine ⟨spared_visible journeyId _ before after _ spared ▸ visible, ?_⟩
  intro id
  by_cases member : id ∈ order before journeyId
  · have kept := inside id (arranged.mem_iff.mpr member)
    exact ⟨fun _ => member, fun _ => (mem_order after journeyId id).mpr kept⟩
  · rw [mem_order, mem_order, spared]
    intro other arrangedHere clash
    exact member (Key.segment.inj clash ▸ arranged.mem_iff.mp arrangedHere)

/-- `reorder_segment` takes the segment out and puts it back at the new position. -/
theorem reorderSegment_moves (segmentId : Uuid) (expected newPosition : Nat)
    (before after : Database) (reply : SegmentResponse) (contiguous : Contiguous before journeyId)
    (completes : Completes platform current
      (reorderSegment context runtime journeyId segmentId expected newPosition) before reply
        after) :
    (visibleJourney before context.scope journeyId).isSome = true ∧
      (∃ row : StoredSegment, before.lookup (Key.segment segmentId) = some row ∧
        row.1.journeyId = journeyId ∧ row.1.recordVersion = expected) ∧
      newPosition < (order before journeyId).length ∧
        Lists (placeOf after journeyId)
          (((order before journeyId).erase segmentId).insertIdx newPosition segmentId) := by
  obtain ⟨owned, first, found, rest⟩ :=
    alone_ok_bind _ (ownedSegment context journeyId segmentId) _ before after reply completes
  obtain ⟨rfl, shown⟩ := completes_ownedSegment context journeyId segmentId before first owned found
  obtain ⟨present, inside, visible⟩ := (segmentIn_some _ _ _ _ _).mp shown
  split at rest
  · cases rest
  next current =>
  have current : owned.1.recordVersion = expected := Decidable.not_not.mp current
  obtain ⟨rows, writes, locks, ran, checking⟩ := completes_ask _ _ first after reply rest
  obtain ⟨rfl, rfl, rfl⟩ := ran_listSegments platform _ _ _ _ _ _ ran
  have listed : (visibleTimeline first context.scope journeyId).map Prod.fst =
      order first journeyId := by
    rw [visibleTimeline, if_pos visible]
    rfl
  simp only [Program.bind, listed] at checking
  split at checking
  · cases checking
  next below =>
  have below : newPosition < (order first journeyId).length := Nat.lt_of_not_le below
  split at checking
  next member =>
    obtain ⟨_, shifted, shifting, renumbering⟩ :=
      alone_ok_bind _ (shiftSegments context runtime journeyId) _ _ after reply checking
    obtain ⟨_, renumbered, placing, touching⟩ :=
      alone_ok_bind _ (renumberSegments context runtime segmentId _) _ shifted after reply
        renumbering
    obtain ⟨_, touched, touching, reading⟩ :=
      alone_ok_bind _ (touchJourney context runtime journeyId) _ renumbered after reply touching
    obtain ⟨moved, final, seen, responding⟩ :=
      alone_ok_bind _ (ownedSegment context journeyId segmentId) _ touched after reply reading
    obtain ⟨rfl, _⟩ := completes_ownedSegment context journeyId segmentId touched final moved seen
    have ended : after = final := by
      split at responding
      · cases responding
      · cases responding
        rfl
    subst ended
    obtain ⟨visibleThen, same⟩ :=
      shiftSegments_keeps context runtime journeyId first shifted visible shifting
    have distinct := (lists_order contiguous).nodup
    have room : newPosition ≤ ((order first journeyId).erase segmentId).length := by
      rw [List.length_erase_of_mem member]
      omega
    have arranged : (((order first journeyId).erase segmentId).insertIdx newPosition
        segmentId).Perm (order first journeyId) :=
      (List.perm_insertIdx segmentId _ room).trans (List.perm_cons_erase member).symm
    refine ⟨visible, ⟨owned, present, inside, current⟩, below, ?_⟩
    apply completes_touch_lists context runtime journeyId _ renumbered after _ touching
    apply renumber_lists context journeyId _ (arranged.nodup_iff.mpr distinct)
      (some (runtime.clock 1)) (fun id => id = segmentId) shifted renumbered visibleThen _ placing
    intro id
    rw [same, arranged.mem_iff]
  · cases checking

/-- The handler of a timeline operation rearranges the timeline. -/
theorem handle_rearranges (call : Call) (named : call.timelineOf = some journeyId)
    (before after : Database) (reply : Reply) (contiguous : Contiguous before journeyId)
    (completes : Completes platform current (handle platform context runtime call) before reply
      after) :
    (visibleJourney before context.scope journeyId).isSome = true ∧ Contiguous after journeyId ∧
      Rearranges call runtime journeyId before after := by
  cases call with
  | createSegment _ command =>
    obtain rfl := Option.some.inj named
    obtain ⟨body, middle, created, ended⟩ :=
      alone_ok_bind _ (createSegment context runtime _ command) _ before after reply completes
    cases ended
    obtain ⟨visible, fresh, lists⟩ := createSegment_appends context runtime _ command before after
      body contiguous created
    obtain ⟨ordered, still⟩ := order_of_lists lists
    exact ⟨visible, still, fresh, ordered⟩
  | updateSegment _ segmentId command =>
    obtain rfl := Option.some.inj named
    obtain ⟨body, middle, updated, ended⟩ :=
      alone_ok_bind _ (updateSegment context runtime _ segmentId command) _ before after reply
        completes
    cases ended
    obtain ⟨visible, found, lists⟩ := updateSegment_keeps context runtime _ segmentId command before
      after body contiguous updated
    obtain ⟨ordered, still⟩ := order_of_lists lists
    exact ⟨visible, still, found, ordered⟩
  | reorderSegment _ segmentId command =>
    obtain rfl := Option.some.inj named
    obtain ⟨body, middle, moved, ended⟩ :=
      alone_ok_bind _ (reorderSegment context runtime _ segmentId command.expectedRecordVersion
        command.newPosition) _ before after reply completes
    cases ended
    obtain ⟨visible, found, below, lists⟩ := reorderSegment_moves context runtime _ segmentId
      command.expectedRecordVersion command.newPosition before after body contiguous moved
    obtain ⟨ordered, still⟩ := order_of_lists lists
    exact ⟨visible, still, found, below, ordered⟩
  | deleteSegment _ segmentId =>
    obtain rfl := Option.some.inj named
    obtain ⟨_, middle, deleted, ended⟩ :=
      alone_ok_bind _ (deleteSegment context runtime _ segmentId) _ before after reply completes
    cases ended
    obtain ⟨visible, member, lists⟩ := deleteSegment_erases context runtime _ segmentId before after
      contiguous deleted
    obtain ⟨ordered, still⟩ := order_of_lists lists
    exact ⟨visible, still, member, ordered⟩
  | _ => cases named

/-- A route finds out who asks, and nothing else. -/
theorem routeContext_identifies (credentials : Credentials) (mutates : Bool) :
    (routeContext platform runtime credentials mutates).Only fun op => op.identifies = true := by
  have authenticated :
      (authenticate platform runtime credentials).Only fun op => op.identifies = true := by
    unfold authenticate
    split
    · trivial
    · refine ⟨rfl, fun answer => ?_⟩
      cases answer <;> trivial
  unfold routeContext
  split
  · apply Program.only_bind _ _ _ authenticated
    rintro ⟨context, csrfHash⟩
    apply Program.only_bind
    · unfold requireCsrf
      split <;> trivial
    · intro _
      apply Program.only_bind
      · refine ⟨rfl, fun role => ?_⟩
        cases role with
        | none => trivial
        | some role =>
          simp only [Program.bind]
          split <;> trivial
      · intro _
        trivial
  · apply Program.only_bind _ _ _ authenticated
    intro found
    trivial

/-- That changes nothing. -/
theorem routeContext_reads (credentials : Credentials) (mutates : Bool) :
    (routeContext platform runtime credentials mutates).Only fun op => op.reads = true := by
  apply (routeContext_identifies runtime credentials mutates).mono
  intro op identifies
  cases op <;> simp_all [Op.identifies, Op.reads]

/-- An execution does not depend on ghost bookkeeping. -/
theorem alone_plain {α : Type} (action : Action α) (db : Database) :
    alone (api platform current) action db = alone (plainApi platform) action db := by
  induction action generalizing db with
  | done value => rfl
  | fail error => rfl
  | perform op next inductionHypothesis =>
    have same : (api platform current).execute op db = (plainApi platform).execute op db := rfl
    simp only [alone, same]
    split
    · rfl
    · exact inductionHypothesis _ _

/-- An accepted timeline operation rearranges the timeline. -/
theorem serve_rearranges (request : Request) (named : request.timelineOf = some journeyId)
    (before after : Database) (reply : Reply) (contiguous : Contiguous before journeyId)
    (served : serve (api platform current) request before = (.ok reply, after)) :
    Contiguous after journeyId ∧ request.rearranges journeyId before after ∧
      ∃ context, request.worksIn platform before context ∧
        (visibleJourney before context.scope journeyId).isSome = true := by
  have completes : Completes platform current (program platform request) before reply after := by
    rw [serve] at served
    split at served
    · cases served
    · next executed =>
      cases served
      exact executed
  cases request with
  | http credentials call runtime =>
    obtain ⟨context, middle, found, handled⟩ :=
      alone_ok_bind _ (routeContext platform runtime credentials call.mutates) _ before after reply
        completes
    obtain rfl := completes_reading _ (routeContext_reads runtime credentials call.mutates) before
      middle context found
    obtain ⟨visible, still, rearranged⟩ := handle_rearranges context runtime journeyId call named
      middle after reply contiguous handled
    exact ⟨still, rearranged, context, (alone_plain _ middle).symm.trans found, visible⟩
  | operation context call runtime =>
    obtain ⟨visible, still, rearranged⟩ := handle_rearranges context runtime journeyId call named
      before after reply contiguous completes
    exact ⟨still, rearranged, context, rfl, visible⟩
  | command => cases named
  | administer => cases named

end Alone

/-- What the caller of a timeline operation gets: a refusal that changed nothing, or
the rearranged timeline. -/
def Settles (platform : Platform) (journeyId : Uuid) (before : Database) (request : Request) :
    Prop :=
  (∃ error, serve (plainApi platform) request before = (.error error, before)) ∨
    ∃ reply after, serve (plainApi platform) request before = (.ok reply, after) ∧
      Contiguous after journeyId ∧ request.rearranges journeyId before after ∧
        ∃ context, request.worksIn platform before context ∧
          (visibleJourney before context.scope journeyId).isSome = true

/-- One operation on a contiguous timeline leaves it contiguous. -/
theorem serve_settles (platform : Platform) (journeyId : Uuid) (before : Database)
    (request : Request) (named : request.timelineOf = some journeyId)
    (contiguous : Contiguous before journeyId) :
    Settles platform journeyId before request ∧
      Contiguous (serve (plainApi platform) request before).2 journeyId := by
  cases served : serve (plainApi platform) request before with
  | mk result after =>
    cases result with
    | error error =>
      have unchanged : after = before := by
        rw [serve] at served
        split at served
        · cases served
          rfl
        · cases served
      subst unchanged
      exact ⟨Or.inl ⟨error, served⟩, contiguous⟩
    | ok reply =>
      have rearranged := serve_rearranges journeyId request named before after reply contiguous
        served
      exact ⟨Or.inr ⟨reply, after, served, rearranged⟩, rearranged.1⟩

/-- A journey without segments has a contiguous timeline. -/
theorem contiguous_empty (db : Database) (journeyId : Uuid) (empty : order db journeyId = []) :
    Contiguous db journeyId := by
  have nothing : timeline db journeyId = [] := List.map_eq_nil_iff.mp empty
  rw [Contiguous, empty, positions, nothing]
  rfl

/-- Operations executed one after another keep a timeline contiguous. -/
theorem serveAll_contiguous (platform : Platform) (journeyId : Uuid) (requests : List Request)
    (named : ∀ request ∈ requests, request.timelineOf = some journeyId) (db : Database)
    (contiguous : Contiguous db journeyId) :
    Contiguous (serveAll (plainApi platform) requests db) journeyId := by
  induction requests generalizing db with
  | nil => exact contiguous
  | cons request requests inductionHypothesis =>
    apply inductionHypothesis fun other member => named other (List.mem_cons_of_mem _ member)
    exact (serve_settles platform journeyId db request (named request List.mem_cons_self)
      contiguous).2

/-- On a journey that starts without segments, every sequence of timeline operations
keeps the positions 0 to n - 1. Each accepted operation rearranges the timeline as it
should, and each rejected one leaves everything unchanged. -/
theorem timeline_contiguous (platform : Platform) (db : Database) (journeyId : Uuid)
    (requests : List Request)
    (named : ∀ request ∈ requests, request.timelineOf = some journeyId)
    (empty : order db journeyId = []) :
    Contiguous (serveAll (plainApi platform) requests db) journeyId ∧
      ∀ earlier request later, requests = earlier ++ request :: later →
        Contiguous (serveAll (plainApi platform) earlier db) journeyId ∧
          Settles platform journeyId (serveAll (plainApi platform) earlier db) request := by
  have started := contiguous_empty db journeyId empty
  refine ⟨serveAll_contiguous platform journeyId requests named db started, ?_⟩
  rintro earlier request later rfl
  have here := serveAll_contiguous platform journeyId earlier
    (fun other member => named other (List.mem_append_left _ member)) db started
  exact ⟨here, (serve_settles platform journeyId _ request (named request (by simp)) here).1⟩

namespace Sample

/-- A segment without dates, transport and notes. -/
theorem undated : datesOrdered none none := by decide

theorem unmoved : ([] : Text).length ≤ 100 := by decide

theorem unremarked : ([] : Text).length ≤ 5000 := by decide

/-- A stay under a chosen identifier. -/
def stay (id : Uuid) : Call :=
  .createSegment 7
    { kind := .stay, startDate := none, endDate := none, placeName := some "Roma".toList
      originName := none, destinationName := none, transportMode := [], notes := []
      namesFit := by decide, transportLength := unmoved, notesLength := unremarked
      datesAreOrdered := undated, hasDetails := by decide, id := some id }

/-- Move a segment from its first version. -/
def move (id : Uuid) (newPosition : Nat) : Call :=
  .reorderSegment 7 id
    { expectedRecordVersion := 1, newPosition := newPosition, expectedPositive := Nat.one_pos }

/-- Three stays; the last one is moved to the front, moved again from its old version,
and then the first stay is deleted. -/
def itinerary : List Request :=
  [stay 20, stay 21, stay 22, move 22 0, move 22 1, .deleteSegment 7 20].map fun call =>
    .http credentials call runtime

end Sample

/-- The itinerary ends with two stays in their new order. -/
theorem timeline_contiguous_itinerary :
    order (serveAll (plainApi Sample.platform) Sample.itinerary Sample.database) 7 = [22, 21] ∧
      Contiguous (serveAll (plainApi Sample.platform) Sample.itinerary Sample.database) 7 := by
  refine ⟨by decide, ?_⟩
  refine (timeline_contiguous Sample.platform Sample.database 7 Sample.itinerary ?_ (by decide)).1
  intro request member
  simp only [Sample.itinerary, List.mem_map] at member
  obtain ⟨call, listed, rfl⟩ := member
  simp only [List.mem_cons, List.not_mem_nil, or_false] at listed
  rcases listed with rfl | rfl | rfl | rfl | rfl | rfl <;> rfl

end TraxOs.Api
