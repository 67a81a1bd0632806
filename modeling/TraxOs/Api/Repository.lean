import TraxOs.Theory.Program
import TraxOs.Api.Statements

/-!
# The journey repository

`JourneyRepository` and its helpers, statement by statement. A function that
completes is committed; a raised error rolls the transaction back. Some responses
are validated only after the commit, so a function that completes may still have
no response to give.

What Python takes from its surroundings while it handles one request (generated
identifiers, clock readings, and the order in which PostgreSQL visits the rows of
a bulk UPDATE) is a value of the request.
-/

namespace TraxOs.Api

open TraxOs.Theory

/-- A piece of server code: the statements it awaits, in order. -/
abbrev Action (α : Type) := Program Op Res Failure α

/-- The order in which a bulk UPDATE visits its rows. PostgreSQL promises none. -/
structure VisitOrder where
  arrange : List Uuid → List Uuid
  arranges : ∀ ids, (arrange ids).Perm ids

/-- The results of `uuid4()` and of successive `datetime.now(UTC)` calls. -/
structure Runtime where
  entityId : Uuid
  commandId : Uuid
  changeSetId : Uuid
  eventId : Uuid
  clock : Nat → Timestamp
  order : VisitOrder

/-- `raise ApplicationError(...)`. -/
def raise {α : Type} (error : ApplicationError) : Action α := .fail (.application error)

/-- `journey_response`. -/
def journeyResponse (id : Uuid) (row : Journey) : JourneyResponse where
  id := id
  name := row.name
  startDate := row.startDate
  endDate := row.endDate
  status := row.status
  recordVersion := row.recordVersion
  createdAt := row.createdAt
  updatedAt := row.updatedAt

/-- `SegmentResponse.model_validate`. -/
def segmentResponse (id : Uuid) (row : Segment) : Option SegmentResponse :=
  if valid : (nameFits row.placeName = true ∧ nameFits row.originName = true ∧
        nameFits row.destinationName = true) ∧ row.transportMode.length ≤ 100 ∧
      row.notes.length ≤ 5000 ∧ datesOrdered row.startDate row.endDate ∧
        row.kind.detailed row.placeName row.originName row.destinationName = true then
    some
      { id := id
        journeyId := row.journeyId
        kind := row.kind
        position := row.position
        startDate := row.startDate
        endDate := row.endDate
        placeName := row.placeName
        originName := row.originName
        destinationName := row.destinationName
        transportMode := row.transportMode
        notes := row.notes
        recordVersion := row.recordVersion
        createdAt := row.createdAt
        updatedAt := row.updatedAt
        namesFit := valid.1
        transportLength := valid.2.1
        notesLength := valid.2.2.1
        datesAreOrdered := valid.2.2.2.1
        hasDetails := valid.2.2.2.2 }
  else none

/-- `PackingResponse.model_validate`. -/
def packingResponse (id : Uuid) (row : PackingItem) : Option PackingResponse :=
  if valid : (1 ≤ row.label.length ∧ row.label.length ≤ 200) ∧
      (1 ≤ row.quantity ∧ row.quantity ≤ 99) then
    some
      { id := id
        journeyId := row.journeyId
        label := row.label
        category := row.category
        quantity := row.quantity
        packedQuantity := row.packedQuantity
        essential := row.essential
        recordVersion := row.recordVersion
        createdAt := row.createdAt
        updatedAt := row.updatedAt
        labelLength := valid.1
        quantityBounds := valid.2 }
  else none

/-- `value.strip() if value else None`. -/
def stripName (name : Option Text) : Option Text :=
  match name with
  | none => none
  | some text => if text.isEmpty then none else some (strip text)

/-- `segment_values`. -/
def segmentValues (command : SegmentInput) : SegmentValues where
  kind := command.kind
  startDate := command.startDate
  endDate := command.endDate
  placeName := stripName command.placeName
  originName := stripName command.originName
  destinationName := stripName command.destinationName
  transportMode := strip command.transportMode
  notes := strip command.notes

section Repository

variable (context : AuthContext) (runtime : Runtime)

/-- `_journey_row`. -/
def journeyRow (journeyId : Uuid) (forUpdate : Bool) : Action StoredJourney := do
  match ← Program.ask (Op.selectJourney context.scope journeyId forUpdate) with
  | none => raise resourceNotFound
  | some row => pure row

/-- `_owned_segment`. -/
def ownedSegment (journeyId segmentId : Uuid) : Action StoredSegment := do
  let _ ← journeyRow context journeyId false
  match ← Program.ask (Op.selectSegment context.scope journeyId segmentId) with
  | none => raise resourceNotFound
  | some row => pure row

/-- `_owned_packing`. -/
def ownedPacking (journeyId itemId : Uuid) : Action StoredPackingItem := do
  let _ ← journeyRow context journeyId false
  match ← Program.ask (Op.selectPackingItem context.scope journeyId itemId) with
  | none => raise resourceNotFound
  | some row => pure row

/-- `_touch_journey`. -/
def touchJourney (journeyId : Uuid) : Action Unit :=
  Program.ask (Op.touchJourney context.scope journeyId (runtime.clock 2))

/-- `_compact_segments`. -/
def compactSegments (journeyId : Uuid) : Action Unit := do
  let rows ← Program.ask (Op.listSegments context.scope journeyId)
  Program.each (rows.map Prod.fst).zipIdx fun entry =>
    Program.ask (Op.placeSegment context.scope entry.1 entry.2 none false)

/-- `list_journeys`. -/
def listJourneys : Action (List JourneyResponse) := do
  let rows ← Program.ask (Op.listJourneys context.scope)
  pure (rows.map fun entry => journeyResponse entry.1 entry.2.1)

/-- `get_journey`. -/
def getJourney (journeyId : Uuid) : Action JourneyResponse := do
  let row ← journeyRow context journeyId false
  pure (journeyResponse journeyId row.1)

/-- The row that `create_journey` inserts. -/
def newJourney (command : JourneyInput) (now : Timestamp) : Journey where
  workspaceId := context.workspaceId
  name := strip command.name
  startDate := command.startDate
  endDate := command.endDate
  status := .planning
  recordVersion := 1
  createdAt := now
  updatedAt := now

/-- `create_journey`. -/
def createJourney (command : JourneyCreate) : Action JourneyResponse := do
  let journeyId := command.id.getD runtime.entityId
  let row ← Program.ask (Op.insertJourney context.scope journeyId
    (newJourney context command.toJourneyInput (runtime.clock 1)))
  pure (journeyResponse journeyId row.1)

/-- `JourneyUpdateMutation`. -/
structure JourneyUpdateMutation where
  before : JourneyResponse
  after : JourneyResponse
deriving DecidableEq

/-- The columns that `apply_journey_update` sets. -/
def journeyValues (command : JourneyUpdate) : JourneyValues where
  name := strip command.name
  startDate := command.startDate
  endDate := command.endDate
  status := command.status

/-- `apply_journey_update`. -/
def applyJourneyUpdate (journeyId : Uuid) (command : JourneyUpdate) :
    Action JourneyUpdateMutation := do
  let before ← journeyRow context journeyId true
  if before.1.recordVersion ≠ command.expectedRecordVersion then raise journeyConflict
  else
    match ← Program.ask (Op.swapJourney context.scope journeyId command.expectedRecordVersion
        (journeyValues command) (runtime.clock 1)) with
    | none => raise journeyConflict
    | some row => pure ⟨journeyResponse journeyId before.1, journeyResponse journeyId row.1⟩

/-- `delete_journey`. -/
def deleteJourney (journeyId : Uuid) : Action Unit := do
  let deleted ← Program.ask (Op.deleteJourney context.scope journeyId)
  if deleted then pure () else raise resourceNotFound

/-- `list_segments`. -/
def listSegments (journeyId : Uuid) : Action (List SegmentResponse) := do
  let _ ← journeyRow context journeyId false
  let rows ← Program.ask (Op.listSegments context.scope journeyId)
  match rows.mapM fun entry => segmentResponse entry.1 entry.2.1 with
  | none => .fail .validationError
  | some items => pure items

/-- The row that `create_segment` inserts. -/
def newSegment (journeyId : Uuid) (position : Nat) (values : SegmentValues) (now : Timestamp) :
    Segment where
  journeyId := journeyId
  kind := values.kind
  position := position
  startDate := values.startDate
  endDate := values.endDate
  placeName := values.placeName
  originName := values.originName
  destinationName := values.destinationName
  transportMode := values.transportMode
  notes := values.notes
  recordVersion := 1
  createdAt := now
  updatedAt := now

/-- `create_segment`. -/
def createSegment (journeyId : Uuid) (command : SegmentCreate) :
    Action (Option SegmentResponse) := do
  let _ ← journeyRow context journeyId false
  let position ← Program.ask (Op.nextPosition context.scope journeyId)
  let segmentId := command.id.getD runtime.entityId
  let row ← Program.ask (Op.insertSegment context.scope segmentId
    (newSegment journeyId position (segmentValues command.toSegmentInput) (runtime.clock 1)))
  touchJourney context runtime journeyId
  pure (segmentResponse segmentId row.1)

/-- `update_segment`. -/
def updateSegment (journeyId segmentId : Uuid) (command : SegmentUpdate) :
    Action (Option SegmentResponse) := do
  let _ ← ownedSegment context journeyId segmentId
  match ← Program.ask (Op.swapSegment context.scope journeyId segmentId
      command.expectedRecordVersion (segmentValues command.toSegmentInput) (runtime.clock 1)) with
  | none => raise segmentConflict
  | some row =>
    touchJourney context runtime journeyId
    pure (segmentResponse segmentId row.1)

/-- The bulk UPDATE of `reorder_segment`. -/
def shiftSegments (journeyId : Uuid) : Action Unit := do
  let rows ← Program.ask (Op.listSegments context.scope journeyId)
  Program.each (runtime.order.arrange (rows.map Prod.fst)) fun id =>
    Program.ask (Op.shiftSegment context.scope journeyId id)

/-- The renumbering loop of `reorder_segment`. -/
def renumberSegments (segmentId : Uuid) (ids : List Uuid) : Action Unit :=
  Program.each ids.zipIdx fun entry =>
    Program.ask (Op.placeSegment context.scope entry.1 entry.2 (some (runtime.clock 1))
      (entry.1 = segmentId))

/-- `reorder_segment`. -/
def reorderSegment (journeyId segmentId : Uuid) (expectedVersion newPosition : Nat) :
    Action SegmentResponse := do
  let owned ← ownedSegment context journeyId segmentId
  if owned.1.recordVersion ≠ expectedVersion then raise segmentConflict
  else
    let rows ← Program.ask (Op.listSegments context.scope journeyId)
    let ids := rows.map Prod.fst
    if ids.length ≤ newPosition then raise positionInvalid
    else if segmentId ∈ ids then
      shiftSegments context runtime journeyId
      renumberSegments context runtime segmentId
        ((ids.erase segmentId).insertIdx newPosition segmentId)
      touchJourney context runtime journeyId
      let moved ← ownedSegment context journeyId segmentId
      match segmentResponse segmentId moved.1 with
      | none => .fail .validationError
      | some response => pure response
    else .fail .valueError

/-- `delete_segment`. -/
def deleteSegment (journeyId segmentId : Uuid) : Action Unit := do
  let _ ← ownedSegment context journeyId segmentId
  let _ ← Program.ask (Op.deleteSegment context.scope segmentId)
  compactSegments context journeyId
  touchJourney context runtime journeyId

/-- `list_packing`. -/
def listPacking (journeyId : Uuid) : Action (List PackingResponse) := do
  let _ ← journeyRow context journeyId false
  let rows ← Program.ask (Op.listPacking context.scope journeyId)
  match rows.mapM fun entry => packingResponse entry.1 entry.2.1 with
  | none => .fail .validationError
  | some items => pure items

/-- The row that `create_packing` inserts. -/
def newPackingItem (journeyId : Uuid) (command : PackingInput) (now : Timestamp) :
    PackingItem where
  journeyId := journeyId
  label := strip command.label
  category := command.category
  quantity := command.quantity
  packedQuantity := 0
  essential := command.essential
  recordVersion := 1
  createdAt := now
  updatedAt := now

/-- `create_packing`. -/
def createPacking (journeyId : Uuid) (command : PackingCreate) :
    Action (Option PackingResponse) := do
  let _ ← journeyRow context journeyId false
  let itemId := command.id.getD runtime.entityId
  let row ← Program.ask (Op.insertPackingItem context.scope itemId
    (newPackingItem journeyId command.toPackingInput (runtime.clock 1)))
  touchJourney context runtime journeyId
  pure (packingResponse itemId row.1)

/-- `_finish_packing`. -/
def finishPacking (journeyId itemId : Uuid) (result : Option StoredPackingItem) :
    Action (Option PackingResponse) :=
  match result with
  | none => raise packingConflict
  | some row => do
    touchJourney context runtime journeyId
    pure (packingResponse itemId row.1)

/-- The columns that `update_packing` sets. -/
def packingValues (command : PackingUpdate) : PackingValues where
  label := strip command.label
  category := command.category
  quantity := command.quantity
  essential := command.essential

/-- `update_packing`. -/
def updatePacking (journeyId itemId : Uuid) (command : PackingUpdate) :
    Action (Option PackingResponse) := do
  let _ ← ownedPacking context journeyId itemId
  let result ← Program.ask (Op.swapPackingItem context.scope journeyId itemId
    command.expectedRecordVersion (packingValues command) (runtime.clock 1))
  finishPacking context runtime journeyId itemId result

/-- `update_packing_progress`. -/
def updatePackingProgress (journeyId itemId : Uuid) (command : PackingProgressUpdate) :
    Action (Option PackingResponse) := do
  let owned ← ownedPacking context journeyId itemId
  if owned.1.quantity < command.packedQuantity then raise quantityInvalid
  else
    let result ← Program.ask (Op.swapPackingProgress context.scope journeyId itemId
      command.expectedRecordVersion command.packedQuantity (runtime.clock 1))
    finishPacking context runtime journeyId itemId result

/-- `delete_packing`. -/
def deletePacking (journeyId itemId : Uuid) : Action Unit := do
  let _ ← ownedPacking context journeyId itemId
  let _ ← Program.ask (Op.deletePackingItem context.scope itemId)
  touchJourney context runtime journeyId

end Repository

end TraxOs.Api
