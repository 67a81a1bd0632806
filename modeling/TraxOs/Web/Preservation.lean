import Mathlib.Data.List.Nodup
import TraxOs.Theory.Results
import TraxOs.Web.LocalData

/-!
# The journey service keeps the data well formed

Data is well formed when the strict parser reads its document back and the positions of
each journey's segments are exactly `0` to `n - 1`. Every operation of the service that
does not throw keeps it so, and changes the segments and packing items of no journey but
the one it names.

An operation changes one of the three lists and touches the journey. What each list must
keep is stated once: a journey or an item is replaced by a readable one with the same
identifiers, a segment too, and the segments of a journey stay an arrangement of their
positions. Renumbering by the index in an order is such a replacement for any order of
the journey's segments.
-/

namespace TraxOs.Web

open TraxOs.Theory
open TraxOs.Api (Text JourneyStatus mem_trimBy trimBy)

section Lists

variable {Id Day Time : Type} [DecidableEq Id]

/-- The segments of a journey, in the order of the data. -/
def segmentsOf (segments : List (JourneySegment Id Day Time)) (journeyId : Id) :
    List (JourneySegment Id Day Time) :=
  segments.filter fun segment => segment.journeyId == journeyId

/-- The packing items of a journey. -/
def itemsOf (items : List (PackingItem Id Day Time)) (journeyId : Id) :
    List (PackingItem Id Day Time) :=
  items.filter fun item => item.journeyId == journeyId

/-- The positions of each journey are exactly those from zero on. -/
def Contiguous (segments : List (JourneySegment Id Day Time)) : Prop :=
  ∀ journeyId, ((segmentsOf segments journeyId).map JourneySegment.position).Perm
    (List.range (segmentsOf segments journeyId).length)

end Lists

/-- Well-formed data: what the parser accepts, with contiguous positions. -/
structure WellFormed (engine : Engine) (data : LocalData) : Prop where
  parsed : parseJourneyData engine data.document = some data
  contiguous : Contiguous data.segments

/-- The journey that an operation names. -/
def Operation.journey {Id Day : Type} : Operation Id Day → Option Id
  | .createJourney _ => none
  | .updateJourney journeyId _ => some journeyId
  | .setJourneyStatus journeyId _ => some journeyId
  | .deleteJourney journeyId => some journeyId
  | .saveSegment journeyId _ _ => some journeyId
  | .deleteSegment journeyId _ => some journeyId
  | .moveSegment journeyId _ _ => some journeyId
  | .savePackingItem journeyId _ _ => some journeyId
  | .setPackedQuantity journeyId _ _ => some journeyId
  | .deletePackingItem journeyId _ => some journeyId

/-- The runtime draws an identifier that is not blank and that the data does not use, and
reads timestamps off the clock. -/
structure Suitable (engine : Engine) (data : LocalData) (runtime : Runtime Text Text) : Prop where
  notBlank : notBlank runtime.id = true
  newJourney : runtime.id ∉ data.journeys.map Journey.id
  newSegment : runtime.id ∉ data.segments.map JourneySegment.id
  newItem : runtime.id ∉ data.packingItems.map PackingItem.id
  timestamps : ∀ reading, engine.timestamp (runtime.now reading) = true

/-! ## Texts -/

/-- A text is blank when it has white space only. -/
theorem notBlank_iff (text : Text) :
    notBlank text = true ↔ ∃ character ∈ text, isWhiteSpace character = false := by
  constructor
  · intro written
    by_contra blank
    have spaces : ∀ character ∈ text, isWhiteSpace character = true := by
      intro character member
      by_contra other
      exact blank ⟨character, member, Bool.not_eq_true _ ▸ other⟩
    have dropped : trim text = [] := by
      rw [trim, trimBy, List.dropWhile_eq_nil_iff.mpr spaces]
      rfl
    simp [notBlank, dropped] at written
  · rintro ⟨character, member, other⟩
    have kept := mem_trimBy isWhiteSpace text character member other
    simp only [notBlank, trim, Bool.not_eq_true', List.isEmpty_eq_false_iff]
    exact List.ne_nil_of_mem kept

/-- A text that is not blank is not blank after trimming. -/
theorem notBlank_trim (text : Text) (written : notBlank text = true) :
    notBlank (trim text) = true := by
  obtain ⟨character, member, other⟩ := (notBlank_iff text).mp written
  exact (notBlank_iff _).mpr ⟨character, mem_trimBy isWhiteSpace text character member other, other⟩

theorem validateJourney_nil (input : JourneyInput LocalDate) (valid : validateJourney input = []) :
    notBlank input.name = true ∧ datesInOrder input.startDate input.endDate = true := by
  simpa [validateJourney, errorIf, notBlank] using valid

theorem validatePacking_nil (input : PackingInput) (valid : validatePacking input = []) :
    notBlank input.label = true ∧ 1 ≤ input.quantity ∧ input.quantity ≤ 99 := by
  simpa [validatePacking, errorIf, notBlank] using valid

theorem validateSegment_nil (input : SegmentInput LocalDate) (valid : validateSegment input = []) :
    datesInOrder input.startDate input.endDate = true ∧ input.details.trimmed.Readable := by
  unfold validateSegment at valid
  obtain ⟨dates, details⟩ := List.append_eq_nil_iff.mp valid
  refine ⟨by simpa [errorIf] using dates, ?_⟩
  cases shape : input.details with
  | stay placeName =>
    rw [shape] at details
    exact notBlank_trim placeName (by simpa [errorIf, notBlank] using details)
  | move originName destinationName transportMode =>
    rw [shape] at details
    have both : notBlank originName = true ∧ notBlank destinationName = true := by
      simpa [errorIf, notBlank] using details
    exact ⟨notBlank_trim _ both.1, notBlank_trim _ both.2⟩

/-! ## Arrangements of segments -/

section Arrangements

variable {Id Day Time : Type} [DecidableEq Id]

/-- Positions of well-formed segments are unique within a journey. -/
theorem Contiguous.positions {segments : List (JourneySegment Id Day Time)} (contiguous : Contiguous segments) :
    (segments.map fun segment => (segment.journeyId, segment.position)).Nodup := by
  rw [List.Nodup, List.pairwise_map, List.pairwise_iff_forall_sublist]
  intro first second sub same
  obtain ⟨journey, position⟩ := Prod.mk.inj same
  have within : List.Sublist [first, second] (segmentsOf segments first.journeyId) := by
    have filtered := sub.filter fun segment => segment.journeyId == first.journeyId
    simpa [segmentsOf, journey] using filtered
  have distinct := (contiguous first.journeyId).nodup_iff.mpr List.nodup_range
  have apart := List.Pairwise.sublist (within.map JourneySegment.position) distinct
  simp [position] at apart

/-- A replacement of segments one by one that keeps the journeys leaves the segments of a
journey that it does not change. -/
theorem segmentsOf_replaced (segments : List (JourneySegment Id Day Time)) (change : JourneySegment Id Day Time → JourneySegment Id Day Time)
    (keeps : ∀ segment ∈ segments, (change segment).journeyId = segment.journeyId)
    (journeyId : Id) :
    segmentsOf (segments.map change) journeyId = (segmentsOf segments journeyId).map change := by
  unfold segmentsOf
  rw [List.filter_map]
  congr 1
  apply List.filter_congr
  intro segment member
  simp [keeps segment member]

/-- Positions stay contiguous when segments are replaced by ones at the same places. -/
theorem contiguous_replaced (segments : List (JourneySegment Id Day Time)) (change : JourneySegment Id Day Time → JourneySegment Id Day Time)
    (keeps : ∀ segment ∈ segments, (change segment).journeyId = segment.journeyId)
    (places : ∀ segment ∈ segments, (change segment).position = segment.position)
    (contiguous : Contiguous segments) : Contiguous (segments.map change) := by
  intro journeyId
  have same : ((segmentsOf segments journeyId).map change).map JourneySegment.position =
      (segmentsOf segments journeyId).map JourneySegment.position := by
    rw [List.map_map]
    exact List.map_congr_left fun segment member =>
      places segment (List.mem_of_mem_filter member)
  rw [segmentsOf_replaced segments change keeps, same, List.length_map]
  exact contiguous journeyId

/-- With distinct identifiers, each segment of an order has its own index. -/
theorem indexOf_getElem (order : List (JourneySegment Id Day Time))
    (distinct : (order.map JourneySegment.id).Nodup) (index : Nat) (inside : index < order.length) :
    indexOf order order[index].id = some index := by
  unfold indexOf
  have entry : (order[index], index) ∈ order.zipIdx.reverse := by
    rw [List.mem_reverse, List.mem_zipIdx_iff_getElem?]
    exact List.getElem?_eq_getElem inside
  cases found : order.zipIdx.reverse.find? fun entry => entry.1.id == order[index].id with
  | none =>
    have absent := List.find?_eq_none.mp found _ entry
    simp at absent
  | some other =>
    obtain ⟨segment, place⟩ := other
    have member := List.mem_reverse.mp (List.mem_of_find?_eq_some found)
    have same : segment.id = order[index].id := by simpa using List.find?_some found
    have located := List.mem_zipIdx_iff_getElem?.mp member
    obtain ⟨bounded, here⟩ := List.getElem?_eq_some_iff.mp located
    have placed : place < (order.map JourneySegment.id).length := by simpa using bounded
    have indexed : index < (order.map JourneySegment.id).length := by simpa using inside
    have indices : (order.map JourneySegment.id)[place] = (order.map JourneySegment.id)[index] := by
      rw [List.getElem_map, List.getElem_map]
      exact (congrArg JourneySegment.id here).trans same
    rw [Option.map_some]
    exact congrArg some ((List.Nodup.getElem_inj_iff distinct).mp indices)

/-- A segment outside an order has no index in it. -/
theorem indexOf_absent (order : List (JourneySegment Id Day Time)) (id : Id)
    (absent : id ∉ order.map JourneySegment.id) : indexOf order id = none := by
  unfold indexOf
  rw [Option.map_eq_none_iff, List.find?_eq_none]
  rintro ⟨segment, place⟩ member same
  have located := List.mem_zipIdx_iff_getElem?.mp (List.mem_reverse.mp member)
  exact absent (List.mem_map.mpr ⟨segment, List.mem_of_getElem? located, by simpa using same⟩)

/-- Renumbered by its own indices, an order counts from zero. -/
theorem positions_of_order (order : List (JourneySegment Id Day Time))
    (distinct : (order.map JourneySegment.id).Nodup) :
    order.map (fun segment => (repositioned order segment).position) = List.range order.length := by
  apply List.ext_getElem
  · simp
  · intro index left right
    have inside : index < order.length := by simpa using left
    simp [repositioned, indexOf_getElem order distinct index inside]

section Renumbering

variable (segments order : List (JourneySegment Id Day Time)) (journeyId : Id)
variable (distinct : (segments.map JourneySegment.id).Nodup)
variable (arranges : order.Perm (segmentsOf segments journeyId))

include distinct arranges

theorem order_distinct : (order.map JourneySegment.id).Nodup := by
  have within : List.Sublist (segmentsOf segments journeyId) segments := List.filter_sublist
  exact (arranges.map JourneySegment.id).nodup_iff.mpr
    (distinct.sublist (within.map JourneySegment.id))

/-- Renumbering by an order of one journey changes no segment of another. -/
theorem repositioned_other (segment : JourneySegment Id Day Time) (member : segment ∈ segments)
    (other : segment.journeyId ≠ journeyId) : repositioned order segment = segment := by
  have absent : segment.id ∉ order.map JourneySegment.id := by
    intro found
    obtain ⟨twin, among, same⟩ := List.mem_map.mp found
    have held := arranges.subset among
    obtain rfl : twin = segment := List.inj_on_of_nodup_map distinct
      (List.mem_of_mem_filter held) member same
    have owned := (List.mem_filter.mp held).2
    exact other (by simpa using owned)
  simp [repositioned, indexOf_absent order segment.id absent]

/-- Renumbering by an order of a journey's segments makes its positions contiguous and
leaves the others. -/
theorem repositioned_contiguous
    (others : ∀ other, other ≠ journeyId →
      ((segmentsOf segments other).map JourneySegment.position).Perm
        (List.range (segmentsOf segments other).length)) :
    Contiguous (segments.map (repositioned order)) := by
  intro other
  rw [segmentsOf_replaced segments (repositioned order) (fun _ _ => rfl), List.map_map, List.length_map]
  by_cases named : other = journeyId
  · subst named
    have renumbered := positions_of_order order (order_distinct segments order other distinct arranges)
    have positions := (arranges.map fun segment => (repositioned order segment).position).symm
    rw [renumbered, arranges.length_eq] at positions
    exact positions
  · have unchanged : (segmentsOf segments other).map
        (JourneySegment.position ∘ repositioned order) =
        (segmentsOf segments other).map JourneySegment.position := by
      apply List.map_congr_left
      intro segment member
      have owned : segment.journeyId = other := by simpa using (List.mem_filter.mp member).2
      rw [Function.comp_apply, repositioned_other segments order journeyId distinct arranges segment
        (List.mem_of_mem_filter member) (owned ▸ named)]
    rw [unchanged]
    exact others other named

end Renumbering

/-- Without the segments of one journey, those of another stay. -/
theorem segmentsOf_deleted (segments : List (JourneySegment Id Day Time)) (journeyId other : Id)
    (differs : other ≠ journeyId) :
    segmentsOf (segments.filter fun segment => segment.journeyId != journeyId) other =
      segmentsOf segments other := by
  unfold segmentsOf
  rw [List.filter_filter]
  apply List.filter_congr
  intro segment _
  by_cases owned : segment.journeyId = other
  · simp [owned, differs]
  · simp [owned]

/-- Without the segments of a journey, it has none. -/
theorem segmentsOf_self_deleted (segments : List (JourneySegment Id Day Time)) (journeyId : Id) :
    segmentsOf (segments.filter fun segment => segment.journeyId != journeyId) journeyId = [] := by
  unfold segmentsOf
  rw [List.filter_filter, List.filter_eq_nil_iff]
  intro segment _
  simp

/-- Without the packing items of one journey, those of another stay. -/
theorem itemsOf_deleted (items : List (PackingItem Id Day Time)) (journeyId other : Id)
    (differs : other ≠ journeyId) :
    itemsOf (items.filter fun item => item.journeyId != journeyId) other = itemsOf items other := by
  unfold itemsOf
  rw [List.filter_filter]
  apply List.filter_congr
  intro item _
  by_cases owned : item.journeyId = other
  · simp [owned, differs]
  · simp [owned]

/-- Without a journey, the others are still known. -/
theorem owner_kept (journeys : List (Journey Id Day Time)) (journeyId owner : Id)
    (known : owner ∈ journeys.map Journey.id) (differs : owner ≠ journeyId) :
    owner ∈ (journeys.filter fun journey => journey.id != journeyId).map Journey.id := by
  obtain ⟨journey, member, rfl⟩ := List.mem_map.mp known
  exact List.mem_map.mpr ⟨journey, List.mem_filter.mpr ⟨member, by simpa using differs⟩, rfl⟩

theorem segmentsOf_appended (segments : List (JourneySegment Id Day Time))
    (segment : JourneySegment Id Day Time) (journeyId : Id) :
    segmentsOf (segments ++ [segment]) journeyId =
      segmentsOf segments journeyId ++ if segment.journeyId = journeyId then [segment] else [] := by
  unfold segmentsOf
  rw [List.filter_append]
  by_cases owned : segment.journeyId = journeyId <;> simp [owned]

theorem itemsOf_appended (items : List (PackingItem Id Day Time)) (item : PackingItem Id Day Time)
    (journeyId : Id) :
    itemsOf (items ++ [item]) journeyId =
      itemsOf items journeyId ++ if item.journeyId = journeyId then [item] else [] := by
  unfold itemsOf
  rw [List.filter_append]
  by_cases owned : item.journeyId = journeyId <;> simp [owned]

/-- A segment behind the last one of its journey keeps positions contiguous. -/
theorem contiguous_appended (segments : List (JourneySegment Id Day Time))
    (segment : JourneySegment Id Day Time)
    (last : segment.position = (segmentsOf segments segment.journeyId).length)
    (contiguous : Contiguous segments) : Contiguous (segments ++ [segment]) := by
  intro journeyId
  rw [segmentsOf_appended]
  by_cases owned : segment.journeyId = journeyId
  · subst owned
    rw [if_pos rfl, List.map_append, List.map_singleton, List.length_append, List.length_singleton,
      List.range_succ, last]
    exact (contiguous segment.journeyId).append_right _
  · rw [if_neg owned, List.append_nil]
    exact contiguous journeyId

/-- A replacement that changes segments of one journey only leaves those of another. -/
theorem segmentsOf_unchanged (segments : List (JourneySegment Id Day Time))
    (change : JourneySegment Id Day Time → JourneySegment Id Day Time) (journeyId other : Id)
    (keeps : ∀ segment ∈ segments, (change segment).journeyId = segment.journeyId)
    (others : ∀ segment ∈ segments, segment.journeyId ≠ journeyId → change segment = segment)
    (differs : other ≠ journeyId) :
    segmentsOf (segments.map change) other = segmentsOf segments other := by
  rw [segmentsOf_replaced segments change keeps]
  refine (List.map_congr_left ?_).trans (List.map_id _)
  intro segment member
  have owned : segment.journeyId = other := by simpa using (List.mem_filter.mp member).2
  exact others segment (List.mem_of_mem_filter member) (owned ▸ differs)

/-- The same for packing items. -/
theorem itemsOf_unchanged (items : List (PackingItem Id Day Time))
    (change : PackingItem Id Day Time → PackingItem Id Day Time) (journeyId other : Id)
    (keeps : ∀ item ∈ items, (change item).journeyId = item.journeyId)
    (others : ∀ item ∈ items, item.journeyId ≠ journeyId → change item = item)
    (differs : other ≠ journeyId) :
    itemsOf (items.map change) other = itemsOf items other := by
  have replaced : itemsOf (items.map change) other = (itemsOf items other).map change := by
    unfold itemsOf
    rw [List.filter_map]
    congr 1
    apply List.filter_congr
    intro item member
    simp [keeps item member]
  rw [replaced]
  refine (List.map_congr_left ?_).trans (List.map_id _)
  intro item member
  have owned : item.journeyId = other := by simpa using (List.mem_filter.mp member).2
  exact others item (List.mem_of_mem_filter member) (owned ▸ differs)

/-- Without one segment of a journey, those of another stay. -/
theorem segmentsOf_removed (segments : List (JourneySegment Id Day Time)) (removed : Id)
    (journeyId other : Id)
    (owned : ∀ segment ∈ segments, segment.id = removed → segment.journeyId = journeyId)
    (differs : other ≠ journeyId) :
    segmentsOf (segments.filter fun segment => segment.id != removed) other =
      segmentsOf segments other := by
  unfold segmentsOf
  rw [List.filter_filter]
  apply List.filter_congr
  intro segment member
  by_cases named : segment.id = removed
  · have elsewhere : segment.journeyId ≠ other := owned segment member named ▸ differs.symm
    simp [elsewhere]
  · simp [named]

theorem itemsOf_removed (items : List (PackingItem Id Day Time)) (removed : Id)
    (journeyId other : Id)
    (owned : ∀ item ∈ items, item.id = removed → item.journeyId = journeyId)
    (differs : other ≠ journeyId) :
    itemsOf (items.filter fun item => item.id != removed) other = itemsOf items other := by
  unfold itemsOf
  rw [List.filter_filter]
  apply List.filter_congr
  intro item member
  by_cases named : item.id = removed
  · have elsewhere : item.journeyId ≠ other := owned item member named ▸ differs.symm
    simp [elsewhere]
  · simp [named]

/-- A segment that a journey was found to own is the only one of its identifier. -/
theorem owned_segment (segments : List (JourneySegment Id Day Time)) (journeyId segmentId : Id)
    (distinct : (segments.map JourneySegment.id).Nodup)
    (owned : (segments.any fun segment =>
      segment.id == segmentId && segment.journeyId == journeyId) = true) :
    ∀ segment ∈ segments, segment.id = segmentId → segment.journeyId = journeyId := by
  obtain ⟨target, targetMember, accepted⟩ := List.any_eq_true.mp owned
  simp only [Bool.and_eq_true, beq_iff_eq] at accepted
  intro segment member named
  obtain rfl := List.inj_on_of_nodup_map distinct member targetMember
    (named.trans accepted.1.symm)
  exact accepted.2

/-- The same for packing items. -/
theorem owned_item (items : List (PackingItem Id Day Time)) (journeyId itemId : Id)
    (distinct : (items.map PackingItem.id).Nodup)
    (owned : (items.any fun item => item.id == itemId && item.journeyId == journeyId) = true) :
    ∀ item ∈ items, item.id = itemId → item.journeyId = journeyId := by
  obtain ⟨target, targetMember, accepted⟩ := List.any_eq_true.mp owned
  simp only [Bool.and_eq_true, beq_iff_eq] at accepted
  intro item member named
  obtain rfl := List.inj_on_of_nodup_map distinct member targetMember
    (named.trans accepted.1.symm)
  exact accepted.2

omit [DecidableEq Id] in
theorem byPosition_perm (segments : List (JourneySegment Id Day Time)) :
    (byPosition segments).Perm segments := List.mergeSort_perm _ _

end Arrangements

/-! ## Replacing elements -/

/-- Data with readable, distinct and owned elements and contiguous positions is well
formed. -/
theorem wellFormed_of (engine : Engine) (data : LocalData)
    (journeys : ∀ journey ∈ data.journeys, journey.Readable engine)
    (journeyIds : (data.journeys.map Journey.id).Nodup)
    (segments : ∀ segment ∈ data.segments, segment.Readable engine)
    (segmentIds : (data.segments.map JourneySegment.id).Nodup)
    (segmentOwners : ∀ segment ∈ data.segments,
      segment.journeyId ∈ data.journeys.map Journey.id)
    (contiguous : Contiguous data.segments)
    (items : ∀ item ∈ data.packingItems, item.Readable engine)
    (itemIds : (data.packingItems.map PackingItem.id).Nodup)
    (itemOwners : ∀ item ∈ data.packingItems, item.journeyId ∈ data.journeys.map Journey.id) :
    WellFormed engine data :=
  ⟨(parseJourneyData_document engine data).mpr
    { journeys, journeyIds, segments, segmentIds, segmentOwners,
      positions := contiguous.positions, items, itemIds, itemOwners }, contiguous⟩

/-- Well-formed data taken apart. -/
theorem WellFormed.readable {engine : Engine} {data : LocalData}
    (wellFormed : WellFormed engine data) : data.Readable engine :=
  (parseJourneyData_document engine data).mp wellFormed.parsed

section Replacing

variable {engine : Engine} {data : LocalData} (wellFormed : WellFormed engine data)
include wellFormed

/-- Journeys may be replaced one by one by readable ones with the same identifiers. -/
theorem journeys_replaced (change : LocalJourney → LocalJourney)
    (keeps : ∀ journey, (change journey).id = journey.id)
    (readable : ∀ journey, journey.Readable engine → (change journey).Readable engine) :
    WellFormed engine { data with journeys := data.journeys.map change } := by
  have parts := wellFormed.readable
  have same : (data.journeys.map change).map Journey.id = data.journeys.map Journey.id := by
    rw [List.map_map]
    exact List.map_congr_left fun journey _ => keeps journey
  apply wellFormed_of
  · intro journey member
    obtain ⟨old, among, rfl⟩ := List.mem_map.mp member
    exact readable old (parts.journeys old among)
  · rw [same]
    exact parts.journeyIds
  · exact parts.segments
  · exact parts.segmentIds
  · rw [same]
    exact parts.segmentOwners
  · exact wellFormed.contiguous
  · exact parts.items
  · exact parts.itemIds
  · rw [same]
    exact parts.itemOwners

/-- Touching a journey keeps the data well formed. -/
theorem touchJourney_wellFormed (journeyId now : Text) (timestamp : engine.timestamp now = true) :
    WellFormed engine (touchJourney data journeyId now) := by
  refine journeys_replaced wellFormed _ ?_ ?_
  · intro journey
    split <;> rfl
  · intro journey readable
    split
    · exact { readable with updated := timestamp }
    · exact readable

/-- The segments may be replaced by readable and owned ones with distinct identifiers and
contiguous positions. -/
theorem segments_replaced (segments : List LocalSegment)
    (readable : ∀ segment ∈ segments, segment.Readable engine)
    (ids : (segments.map JourneySegment.id).Nodup)
    (owners : ∀ segment ∈ segments, segment.journeyId ∈ data.journeys.map Journey.id)
    (contiguous : Contiguous segments) : WellFormed engine { data with segments := segments } := by
  have parts := wellFormed.readable
  exact wellFormed_of engine _ parts.journeys parts.journeyIds readable ids owners contiguous
    parts.items parts.itemIds parts.itemOwners

/-- The packing items may be replaced by readable and owned ones with distinct
identifiers. -/
theorem items_replaced (items : List LocalItem)
    (readable : ∀ item ∈ items, item.Readable engine) (ids : (items.map PackingItem.id).Nodup)
    (owners : ∀ item ∈ items, item.journeyId ∈ data.journeys.map Journey.id) :
    WellFormed engine { data with packingItems := items } := by
  have parts := wellFormed.readable
  exact wellFormed_of engine _ parts.journeys parts.journeyIds parts.segments parts.segmentIds
    parts.segmentOwners wellFormed.contiguous readable ids owners

/-- Segments may be replaced one by one by readable ones with the same identifiers and
places. -/
theorem segments_changed (change : LocalSegment → LocalSegment)
    (ids : ∀ segment ∈ data.segments, (change segment).id = segment.id)
    (owners : ∀ segment ∈ data.segments, (change segment).journeyId = segment.journeyId)
    (places : ∀ segment ∈ data.segments, (change segment).position = segment.position)
    (readable : ∀ segment ∈ data.segments, (change segment).Readable engine) :
    WellFormed engine { data with segments := data.segments.map change } := by
  have parts := wellFormed.readable
  apply segments_replaced wellFormed
  · intro segment member
    obtain ⟨old, among, rfl⟩ := List.mem_map.mp member
    exact readable old among
  · rw [List.map_map]
    exact (List.map_congr_left ids).symm ▸ parts.segmentIds
  · intro segment member
    obtain ⟨old, among, rfl⟩ := List.mem_map.mp member
    rw [owners old among]
    exact parts.segmentOwners old among
  · exact contiguous_replaced data.segments change owners places wellFormed.contiguous

/-- Packing items may be replaced one by one by readable ones with the same
identifiers. -/
theorem items_changed (change : LocalItem → LocalItem)
    (ids : ∀ item ∈ data.packingItems, (change item).id = item.id)
    (owners : ∀ item ∈ data.packingItems, (change item).journeyId = item.journeyId)
    (readable : ∀ item ∈ data.packingItems, (change item).Readable engine) :
    WellFormed engine { data with packingItems := data.packingItems.map change } := by
  have parts := wellFormed.readable
  apply items_replaced wellFormed
  · intro item member
    obtain ⟨old, among, rfl⟩ := List.mem_map.mp member
    exact readable old among
  · rw [List.map_map]
    exact (List.map_congr_left ids).symm ▸ parts.itemIds
  · intro item member
    obtain ⟨old, among, rfl⟩ := List.mem_map.mp member
    rw [owners old among]
    exact parts.itemOwners old among

/-- The segments of a journey may be renumbered by any order of them, also after some of
them were removed. -/
theorem segments_renumbered (kept order : List LocalSegment) (journeyId : Text)
    (within : List.Sublist kept data.segments)
    (others : ∀ other, other ≠ journeyId →
      segmentsOf kept other = segmentsOf data.segments other)
    (arranges : order.Perm (segmentsOf kept journeyId)) :
    WellFormed engine { data with segments := kept.map (repositioned order) } ∧
      ∀ other, other ≠ journeyId →
        segmentsOf (kept.map (repositioned order)) other = segmentsOf data.segments other := by
  have parts := wellFormed.readable
  have distinct : (kept.map JourneySegment.id).Nodup :=
    parts.segmentIds.sublist (within.map JourneySegment.id)
  constructor
  · apply segments_replaced wellFormed
    · intro segment member
      obtain ⟨old, among, rfl⟩ := List.mem_map.mp member
      exact { parts.segments old (within.subset among) with }
    · rw [List.map_map]
      exact distinct
    · intro segment member
      obtain ⟨old, among, rfl⟩ := List.mem_map.mp member
      exact parts.segmentOwners old (within.subset among)
    · apply repositioned_contiguous kept order journeyId distinct arranges
      intro other differs
      rw [others other differs]
      exact wellFormed.contiguous other
  · intro other differs
    rw [← others other differs]
    exact segmentsOf_unchanged kept (repositioned order) journeyId other (fun _ _ => rfl)
      (repositioned_other kept order journeyId distinct arranges) differs

end Replacing

/-! ## The operations -/

/-- The segments and packing items of a journey are as they were. -/
structure Untouched (data result : LocalData) (journeyId : Text) : Prop where
  segments : segmentsOf result.segments journeyId = segmentsOf data.segments journeyId
  items : itemsOf result.packingItems journeyId = itemsOf data.packingItems journeyId

theorem assertValid_ok (codes : List ValidationErrorCode) (value : Unit) :
    assertValid codes = .ok value ↔ codes = [] := by
  cases codes <;> simp [assertValid]

theorem assertJourneyExists_ok (data : LocalData) (journeyId : Text) (value : Unit) :
    assertJourneyExists data journeyId = .ok value ↔
      journeyId ∈ data.journeys.map Journey.id := by
  unfold assertJourneyExists
  rw [List.mem_map]
  constructor
  · intro exists_
    split at exists_
    · rename_i found
      simpa using found
    · cases exists_
  · rintro ⟨journey, member, same⟩
    rw [if_pos]
    simpa using ⟨journey, member, same⟩

theorem assertOwnedItem_ok (owned : Bool) (value : Unit) :
    assertOwnedItem owned = .ok value ↔ owned = true := by
  cases owned <;> simp [assertOwnedItem]

section Operations

variable {engine : Engine} {data result : LocalData} {runtime : Runtime Text Text}
variable (wellFormed : WellFormed engine data) (suitable : Suitable engine data runtime)
include wellFormed suitable

theorem createJourney_preserves (input : JourneyInput LocalDate)
    (created : createJourney data runtime input = .ok result) :
    WellFormed engine result ∧ ∀ other, Untouched data result other := by
  obtain ⟨_, valid, rest⟩ := (bind_ok _ _ _).mp created
  obtain ⟨name, dates⟩ := validateJourney_nil input ((assertValid_ok _ _).mp valid)
  obtain rfl := Except.ok.inj rest
  have parts := wellFormed.readable
  refine ⟨?_, fun other => ⟨rfl, rfl⟩⟩
  have grown : ∀ id ∈ data.journeys.map Journey.id, id ∈ (data.journeys ++
      [(⟨runtime.id, trim input.name, input.startDate, input.endDate, .planning, 1, runtime.now 0,
        runtime.now 0⟩ : LocalJourney)]).map Journey.id := by
    intro id member
    rw [List.map_append]
    exact List.mem_append_left _ member
  apply wellFormed_of
  · intro journey member
    rcases List.mem_append.mp member with old | new
    · exact parts.journeys journey old
    · obtain rfl := List.mem_singleton.mp new
      exact ⟨suitable.notBlank, notBlank_trim _ name, dates, le_rfl, suitable.timestamps 0,
        suitable.timestamps 0⟩
  · rw [List.map_append, List.map_singleton, List.nodup_append]
    refine ⟨parts.journeyIds, List.nodup_singleton _, ?_⟩
    rintro id old other new rfl
    have drawn : id = runtime.id := List.mem_singleton.mp new
    exact suitable.newJourney (drawn ▸ old)
  · exact parts.segments
  · exact parts.segmentIds
  · exact fun segment member => grown _ (parts.segmentOwners segment member)
  · exact wellFormed.contiguous
  · exact parts.items
  · exact parts.itemIds
  · exact fun item member => grown _ (parts.itemOwners item member)

theorem updateJourney_preserves (journeyId : Text) (input : JourneyInput LocalDate)
    (updated : updateJourney data runtime journeyId input = .ok result) :
    WellFormed engine result ∧ ∀ other, Untouched data result other := by
  obtain ⟨_, _, rest⟩ := (bind_ok _ _ _).mp updated
  obtain ⟨_, valid, rest⟩ := (bind_ok _ _ _).mp rest
  obtain ⟨name, dates⟩ := validateJourney_nil input ((assertValid_ok _ _).mp valid)
  obtain rfl := Except.ok.inj rest
  refine ⟨journeys_replaced wellFormed _ ?_ ?_, fun other => ⟨rfl, rfl⟩⟩
  · intro journey
    split <;> rfl
  · intro journey readable
    split
    · exact { readable with
        name := notBlank_trim _ name, dates := dates, updated := suitable.timestamps 0 }
    · exact readable

theorem setJourneyStatus_preserves (journeyId : Text) (status : JourneyStatus)
    (updated : setJourneyStatus data runtime journeyId status = .ok result) :
    WellFormed engine result ∧ ∀ other, Untouched data result other := by
  obtain ⟨_, _, rest⟩ := (bind_ok _ _ _).mp updated
  obtain rfl := Except.ok.inj rest
  refine ⟨journeys_replaced wellFormed _ ?_ ?_, fun other => ⟨rfl, rfl⟩⟩
  · intro journey
    split <;> rfl
  · intro journey readable
    split
    · exact { readable with updated := suitable.timestamps 0 }
    · exact readable

omit suitable in
theorem deleteJourney_preserves (journeyId : Text)
    (deleted : deleteJourney data journeyId = .ok result) :
    WellFormed engine result ∧ ∀ other, other ≠ journeyId → Untouched data result other := by
  obtain ⟨_, _, rest⟩ := (bind_ok _ _ _).mp deleted
  obtain rfl := Except.ok.inj rest
  have parts := wellFormed.readable
  refine ⟨?_, fun other differs => ⟨segmentsOf_deleted data.segments journeyId other differs,
    itemsOf_deleted data.packingItems journeyId other differs⟩⟩
  apply wellFormed_of
  · exact fun journey member => parts.journeys journey (List.mem_of_mem_filter member)
  · exact parts.journeyIds.sublist (List.filter_sublist.map _)
  · exact fun segment member => parts.segments segment (List.mem_of_mem_filter member)
  · exact parts.segmentIds.sublist (List.filter_sublist.map _)
  · intro segment member
    obtain ⟨old, other⟩ := List.mem_filter.mp member
    exact owner_kept _ _ _ (parts.segmentOwners segment old) (by simpa using other)
  · intro other
    by_cases named : other = journeyId
    · have gone := segmentsOf_self_deleted data.segments journeyId
      subst named
      simp only [gone]
      exact .nil
    · have kept := segmentsOf_deleted data.segments journeyId other named
      simp only [kept]
      exact wellFormed.contiguous other
  · exact fun item member => parts.items item (List.mem_of_mem_filter member)
  · exact parts.itemIds.sublist (List.filter_sublist.map _)
  · intro item member
    obtain ⟨old, other⟩ := List.mem_filter.mp member
    exact owner_kept _ _ _ (parts.itemOwners item old) (by simpa using other)

theorem saveSegment_preserves (journeyId : Text) (input : SegmentInput LocalDate)
    (segmentId : Option Text)
    (saved : saveSegment data runtime journeyId input segmentId = .ok result) :
    WellFormed engine result ∧ ∀ other, other ≠ journeyId → Untouched data result other := by
  obtain ⟨_, known, rest⟩ := (bind_ok _ _ _).mp saved
  have known := (assertJourneyExists_ok data journeyId _).mp known
  obtain ⟨_, valid, rest⟩ := (bind_ok _ _ _).mp rest
  obtain ⟨dates, details⟩ := validateSegment_nil input ((assertValid_ok _ _).mp valid)
  have parts := wellFormed.readable
  obtain ⟨owner, ownerMember, rfl⟩ := List.mem_map.mp known
  have ownerId : notBlank owner.id = true := (parts.journeys owner ownerMember).id
  split at rest
  · obtain rfl := Except.ok.inj rest
    refine ⟨touchJourney_wellFormed (segments_replaced wellFormed _ ?_ ?_ ?_ ?_) _ _
      (suitable.timestamps 1), ?_⟩
    · intro segment member
      rcases List.mem_append.mp member with old | new
      · exact parts.segments segment old
      · obtain rfl := List.mem_singleton.mp new
        exact ⟨suitable.notBlank, ownerId, dates, le_rfl, suitable.timestamps 0,
          suitable.timestamps 0, details⟩
    · rw [List.map_append, List.map_singleton, List.nodup_append]
      refine ⟨parts.segmentIds, List.nodup_singleton _, ?_⟩
      rintro id old other new rfl
      have drawn : id = runtime.id := List.mem_singleton.mp new
      exact suitable.newSegment (drawn ▸ old)
    · intro segment member
      rcases List.mem_append.mp member with old | new
      · exact parts.segmentOwners segment old
      · obtain rfl := List.mem_singleton.mp new
        exact known
    · refine contiguous_appended _ _ ?_ wellFormed.contiguous
      exact (byPosition_perm _).length_eq
    · intro other differs
      refine ⟨?_, rfl⟩
      have appended := segmentsOf_appended data.segments
        (savedSegment data runtime owner.id input none) other
      rw [if_neg (fun same => differs same.symm), List.append_nil] at appended
      exact appended
  · split at rest
    · cases rest
    · rename_i existing found
      obtain rfl := Except.ok.inj rest
      have member := List.mem_of_find?_eq_some found
      have owned : existing.journeyId = owner.id := by
        have accepted := List.find?_some found
        simp only [Bool.and_eq_true, beq_iff_eq] at accepted
        exact accepted.2
      have replaces : ∀ segment ∈ data.segments, segment.id = existing.id → segment = existing :=
        fun segment among same => List.inj_on_of_nodup_map parts.segmentIds among member same
      refine ⟨touchJourney_wellFormed (segments_changed wellFormed _ ?_ ?_ ?_ ?_) _ _
        (suitable.timestamps 1), fun other differs => ⟨segmentsOf_unchanged _ _ owner.id other
          ?_ ?_ differs, rfl⟩⟩
      · intro segment among
        split
        · rename_i same
          rw [replaces segment among (by simpa using same)]
          rfl
        · rfl
      · intro segment among
        split
        · rename_i same
          rw [replaces segment among (by simpa using same)]
          exact owned.symm
        · rfl
      · intro segment among
        split
        · rename_i same
          rw [replaces segment among (by simpa using same)]
          rfl
        · rfl
      · intro segment among
        split
        · have old := parts.segments existing member
          exact ⟨old.id, ownerId, dates, old.version, old.created, suitable.timestamps 0, details⟩
        · exact parts.segments segment among
      · intro segment among
        split
        · rename_i same
          rw [replaces segment among (by simpa using same)]
          exact owned.symm
        · rfl
      · intro segment among elsewhere
        split
        · rename_i same
          rw [replaces segment among (by simpa using same)] at elsewhere
          exact absurd owned elsewhere
        · rfl

theorem deleteSegment_preserves (journeyId segmentId : Text)
    (deleted : deleteSegment data runtime journeyId segmentId = .ok result) :
    WellFormed engine result ∧ ∀ other, other ≠ journeyId → Untouched data result other := by
  obtain ⟨_, _, rest⟩ := (bind_ok _ _ _).mp deleted
  obtain ⟨_, owned, rest⟩ := (bind_ok _ _ _).mp rest
  obtain rfl := Except.ok.inj rest
  have parts := wellFormed.readable
  have belongs := owned_segment data.segments journeyId segmentId parts.segmentIds
    ((assertOwnedItem_ok _ _).mp owned)
  have removed := fun other differs =>
    segmentsOf_removed data.segments segmentId journeyId other belongs differs
  obtain ⟨renumbered, others⟩ := segments_renumbered wellFormed _ _ journeyId List.filter_sublist
    removed (byPosition_perm _)
  exact ⟨touchJourney_wellFormed renumbered journeyId _ (suitable.timestamps 0),
    fun other differs => ⟨others other differs, rfl⟩⟩

theorem moveSegment_preserves (journeyId segmentId : Text) (direction : Direction)
    (moved : moveSegment data runtime journeyId segmentId direction = .ok result) :
    WellFormed engine result ∧ ∀ other, other ≠ journeyId → Untouched data result other := by
  obtain ⟨_, _, rest⟩ := (bind_ok _ _ _).mp moved
  have parts := wellFormed.readable
  have unchanged : WellFormed engine data ∧ ∀ other, other ≠ journeyId →
      Untouched data data other := ⟨wellFormed, fun other _ => ⟨rfl, rfl⟩⟩
  simp only at rest
  split at rest
  · cases rest
  · split at rest
    · obtain rfl := Except.ok.inj rest
      exact unchanged
    · split at rest
      · rename_i index _ _ target _ _ _ current destination atIndex atTarget
        obtain rfl := Except.ok.inj rest
        obtain ⟨indexInside, here⟩ := List.getElem?_eq_some_iff.mp atIndex
        obtain ⟨targetInside, there⟩ := List.getElem?_eq_some_iff.mp atTarget
        have swapped : (((segmentsForJourney data journeyId).set index destination).set target
            current).Perm (segmentsForJourney data journeyId) := by
          rw [← here, ← there]
          exact List.set_set_perm indexInside targetInside
        obtain ⟨renumbered, others⟩ := segments_renumbered wellFormed data.segments _ journeyId
          (List.Sublist.refl _) (fun _ _ => rfl) (swapped.trans (byPosition_perm _))
        exact ⟨touchJourney_wellFormed renumbered journeyId _ (suitable.timestamps 0),
          fun other differs => ⟨others other differs, rfl⟩⟩
      · obtain rfl := Except.ok.inj rest
        exact unchanged

theorem savePackingItem_preserves (journeyId : Text) (input : PackingInput) (itemId : Option Text)
    (saved : savePackingItem data runtime journeyId input itemId = .ok result) :
    WellFormed engine result ∧ ∀ other, other ≠ journeyId → Untouched data result other := by
  obtain ⟨_, known, rest⟩ := (bind_ok _ _ _).mp saved
  have known := (assertJourneyExists_ok data journeyId _).mp known
  obtain ⟨_, valid, rest⟩ := (bind_ok _ _ _).mp rest
  obtain ⟨label, least, most⟩ := validatePacking_nil input ((assertValid_ok _ _).mp valid)
  have parts := wellFormed.readable
  obtain ⟨owner, ownerMember, rfl⟩ := List.mem_map.mp known
  have ownerId : notBlank owner.id = true := (parts.journeys owner ownerMember).id
  have quantity : 1 ≤ input.quantity.toNat ∧ input.quantity.toNat ≤ 99 := by omega
  split at rest
  · obtain rfl := Except.ok.inj rest
    refine ⟨touchJourney_wellFormed (items_replaced wellFormed _ ?_ ?_ ?_) _ _
      (suitable.timestamps 2), ?_⟩
    · intro item member
      rcases List.mem_append.mp member with old | new
      · exact parts.items item old
      · obtain rfl := List.mem_singleton.mp new
        exact ⟨suitable.notBlank, ownerId, notBlank_trim _ label, quantity, Nat.min_le_right _ _,
          le_rfl, suitable.timestamps 0, suitable.timestamps 1⟩
    · rw [List.map_append, List.map_singleton, List.nodup_append]
      refine ⟨parts.itemIds, List.nodup_singleton _, ?_⟩
      rintro id old other new rfl
      have drawn : id = runtime.id := List.mem_singleton.mp new
      exact suitable.newItem (drawn ▸ old)
    · intro item member
      rcases List.mem_append.mp member with old | new
      · exact parts.itemOwners item old
      · obtain rfl := List.mem_singleton.mp new
        exact known
    · intro other differs
      refine ⟨rfl, ?_⟩
      have appended := itemsOf_appended data.packingItems (savedItem runtime owner.id input none)
        other
      rw [if_neg (fun same => differs same.symm), List.append_nil] at appended
      exact appended
  · split at rest
    · cases rest
    · rename_i existing found
      obtain rfl := Except.ok.inj rest
      have member := List.mem_of_find?_eq_some found
      have owned : existing.journeyId = owner.id := by
        have accepted := List.find?_some found
        simp only [Bool.and_eq_true, beq_iff_eq] at accepted
        exact accepted.2
      have replaces : ∀ item ∈ data.packingItems, item.id = existing.id → item = existing :=
        fun item among same => List.inj_on_of_nodup_map parts.itemIds among member same
      refine ⟨touchJourney_wellFormed (items_changed wellFormed _ ?_ ?_ ?_) _ _
        (suitable.timestamps 2), fun other differs => ⟨rfl, itemsOf_unchanged data.packingItems _
          owner.id other ?_ ?_ differs⟩⟩
      · intro item among
        split
        · rename_i same
          rw [replaces item among (by simpa using same)]
          rfl
        · rfl
      · intro item among
        split
        · rename_i same
          rw [replaces item among (by simpa using same)]
          exact owned.symm
        · rfl
      · intro item among
        split
        · have old := parts.items existing member
          exact ⟨old.id, ownerId, notBlank_trim _ label, quantity, Nat.min_le_right _ _,
            old.version, old.created, suitable.timestamps 1⟩
        · exact parts.items item among
      · intro item among
        split
        · rename_i same
          rw [replaces item among (by simpa using same)]
          exact owned.symm
        · rfl
      · intro item among elsewhere
        split
        · rename_i same
          rw [replaces item among (by simpa using same)] at elsewhere
          exact absurd owned elsewhere
        · rfl

theorem setPackedQuantity_preserves (journeyId itemId : Text) (packedQuantity : Int)
    (updated : setPackedQuantity data runtime journeyId itemId packedQuantity = .ok result) :
    WellFormed engine result ∧ ∀ other, other ≠ journeyId → Untouched data result other := by
  obtain ⟨_, _, rest⟩ := (bind_ok _ _ _).mp updated
  obtain ⟨_, owned, rest⟩ := (bind_ok _ _ _).mp rest
  obtain rfl := Except.ok.inj rest
  have parts := wellFormed.readable
  have belongs := owned_item data.packingItems journeyId itemId parts.itemIds
    ((assertOwnedItem_ok _ _).mp owned)
  refine ⟨touchJourney_wellFormed (items_changed wellFormed _ ?_ ?_ ?_) _ _
    (suitable.timestamps 0), fun other differs => ⟨rfl, itemsOf_unchanged data.packingItems _
      journeyId other ?_ ?_ differs⟩⟩
  · intro item _
    split <;> rfl
  · intro item _
    split <;> rfl
  · intro item member
    have old := parts.items item member
    split
    · exact { old with packed := by simp only; omega }
    · exact old
  · intro item _
    split <;> rfl
  · intro item member elsewhere
    split
    · rename_i same
      exact absurd (belongs item member (by simpa using same)) elsewhere
    · rfl

theorem deletePackingItem_preserves (journeyId itemId : Text)
    (deleted : deletePackingItem data runtime journeyId itemId = .ok result) :
    WellFormed engine result ∧ ∀ other, other ≠ journeyId → Untouched data result other := by
  obtain ⟨_, _, rest⟩ := (bind_ok _ _ _).mp deleted
  obtain ⟨_, owned, rest⟩ := (bind_ok _ _ _).mp rest
  obtain rfl := Except.ok.inj rest
  have parts := wellFormed.readable
  have belongs := owned_item data.packingItems journeyId itemId parts.itemIds
    ((assertOwnedItem_ok _ _).mp owned)
  refine ⟨touchJourney_wellFormed (items_replaced wellFormed _ ?_ ?_ ?_) _ _
    (suitable.timestamps 0), fun other differs => ⟨rfl, itemsOf_removed data.packingItems itemId
      journeyId other belongs differs⟩⟩
  · exact fun item member => parts.items item (List.mem_of_mem_filter member)
  · exact parts.itemIds.sublist (List.filter_sublist.map _)
  · exact fun item member => parts.itemOwners item (List.mem_of_mem_filter member)

end Operations

/-- Well-formed journey data is preserved. An operation with a suitable runtime that does
not throw returns well-formed data, and leaves the segments and packing items of every
journey but the one that it names. -/
theorem operation_preserves (engine : Engine) (data result : LocalData)
    (runtime : Runtime Text Text) (operation : Operation Text LocalDate)
    (wellFormed : WellFormed engine data) (suitable : Suitable engine data runtime)
    (returned : performed data runtime operation = .ok result) :
    WellFormed engine result ∧
      ∀ other, operation.journey ≠ some other → Untouched data result other := by
  cases operation with
  | createJourney input =>
    obtain ⟨kept, others⟩ := createJourney_preserves wellFormed suitable input returned
    exact ⟨kept, fun other _ => others other⟩
  | updateJourney journeyId input =>
    obtain ⟨kept, others⟩ := updateJourney_preserves wellFormed suitable journeyId input returned
    exact ⟨kept, fun other _ => others other⟩
  | setJourneyStatus journeyId status =>
    obtain ⟨kept, others⟩ := setJourneyStatus_preserves wellFormed suitable journeyId status returned
    exact ⟨kept, fun other _ => others other⟩
  | deleteJourney journeyId =>
    obtain ⟨kept, others⟩ := deleteJourney_preserves wellFormed journeyId returned
    exact ⟨kept, fun other named => others other fun same => named (same ▸ rfl)⟩
  | saveSegment journeyId input segmentId =>
    obtain ⟨kept, others⟩ :=
      saveSegment_preserves wellFormed suitable journeyId input segmentId returned
    exact ⟨kept, fun other named => others other fun same => named (same ▸ rfl)⟩
  | deleteSegment journeyId segmentId =>
    obtain ⟨kept, others⟩ := deleteSegment_preserves wellFormed suitable journeyId segmentId returned
    exact ⟨kept, fun other named => others other fun same => named (same ▸ rfl)⟩
  | moveSegment journeyId segmentId direction =>
    obtain ⟨kept, others⟩ :=
      moveSegment_preserves wellFormed suitable journeyId segmentId direction returned
    exact ⟨kept, fun other named => others other fun same => named (same ▸ rfl)⟩
  | savePackingItem journeyId input itemId =>
    obtain ⟨kept, others⟩ :=
      savePackingItem_preserves wellFormed suitable journeyId input itemId returned
    exact ⟨kept, fun other named => others other fun same => named (same ▸ rfl)⟩
  | setPackedQuantity journeyId itemId packedQuantity =>
    obtain ⟨kept, others⟩ :=
      setPackedQuantity_preserves wellFormed suitable journeyId itemId packedQuantity returned
    exact ⟨kept, fun other named => others other fun same => named (same ▸ rfl)⟩
  | deletePackingItem journeyId itemId =>
    obtain ⟨kept, others⟩ := deletePackingItem_preserves wellFormed suitable journeyId itemId returned
    exact ⟨kept, fun other named => others other fun same => named (same ▸ rfl)⟩

namespace Sample

/-- An engine that reads every timestamp. -/
def engine : Engine := ⟨fun _ => true⟩

/-- A journey with a stay. -/
def data : LocalData where
  journeys := [⟨['j'], "Spring".toList, none, none, .planning, 1, ['T'], ['T']⟩]
  segments := [⟨['s'], ['j'], 0, none, none, [], 1, ['T'], ['T'], .stay "Rome".toList⟩]
  packingItems := []

/-- A runtime with an identifier that is not in use. -/
def runtime : Runtime Text Text := ⟨['t'], fun _ => ['T']⟩

/-- A second stay, with white space around its place. -/
def addition : Operation Text LocalDate :=
  .saveSegment ['j'] ⟨.stay " Siena ".toList, none, none, []⟩ none

/-- Adding the stay keeps the sample's data well formed. -/
theorem operation_preserves_addition :
    ∃ result, performed data runtime addition = .ok result ∧ WellFormed engine result := by
  have single : Contiguous data.segments :=
    contiguous_appended [] ⟨['s'], ['j'], 0, none, none, [], 1, ['T'], ['T'], .stay "Rome".toList⟩
      rfl fun _ => .nil
  have wellFormed : WellFormed engine data := ⟨by decide +kernel, single⟩
  have suitable : Suitable engine data runtime :=
    ⟨by decide, by decide, by decide, by decide, fun _ => rfl⟩
  exact ⟨_, rfl, (operation_preserves engine data _ runtime addition wellFormed suitable rfl).1⟩

end Sample

end TraxOs.Web
