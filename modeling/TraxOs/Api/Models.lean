import TraxOs.Api.Values

/-!
# Wire models

The bodies that the authenticated routes accept, as Pydantic leaves them after
validation: every field bound and every model validator is a field of the
structure, so a body that would be answered with `validation_failed` does not
exist here. Texts are not yet stripped; the repository strips them.

Responses are validated too. A journey response has no constraint that a stored
row could miss. Segment and packing responses inherit the constraints of their
inputs, so validating a stored row can fail.
-/

namespace TraxOs.Api

/-- `JourneyInput`. -/
structure JourneyInput where
  name : Text
  startDate : Option Date
  endDate : Option Date
  nameLength : 1 ≤ name.length ∧ name.length ≤ 200
  datesAreOrdered : datesOrdered startDate endDate

/-- `JourneyCreate`. The client may choose the identifier. -/
structure JourneyCreate extends JourneyInput where
  id : Option Uuid

/-- `JourneyUpdate`. -/
structure JourneyUpdate extends JourneyInput where
  expectedRecordVersion : Nat
  status : JourneyStatus
  expectedPositive : 1 ≤ expectedRecordVersion

/-- `JourneyUpdateCommandPayload`. -/
structure JourneyUpdateCommandPayload extends JourneyUpdate where
  journeyId : Uuid

/-- `JourneyUpdateCommand`. Its type is the literal `journey.update`. -/
structure JourneyUpdateCommand where
  commandId : Uuid
  commandVersion : Nat
  payload : JourneyUpdateCommandPayload
  versionPositive : 1 ≤ commandVersion

/-- `JourneyResponse`. -/
structure JourneyResponse where
  id : Uuid
  name : Text
  startDate : Option Date
  endDate : Option Date
  status : JourneyStatus
  recordVersion : Nat
  createdAt : Timestamp
  updatedAt : Timestamp
deriving DecidableEq

/-- `CommandEntityVersion` and the rest of `JourneyUpdateCommandResponse`, whose
outcome is always `applied`. -/
structure JourneyUpdateCommandResponse where
  commandId : Uuid
  commandVersion : Nat
  replayed : Bool
  changeSetId : Uuid
  entityId : Uuid
  recordVersion : Nat
deriving DecidableEq

/-- An optional name that is present and does not consist of white space. -/
def named : Option Text → Bool
  | some text => !(strip text).isEmpty
  | none => false

/-- The details that `valid_segment` requires for each kind of segment. -/
def SegmentKind.detailed (kind : SegmentKind) (placeName originName destinationName : Option Text) :
    Bool :=
  match kind with
  | .stay => named placeName
  | .move => named originName && named destinationName

/-- An optional text of at most 200 characters. -/
def nameFits (text : Option Text) : Bool := text.all fun present => present.length ≤ 200

/-- `SegmentInput`. -/
structure SegmentInput where
  kind : SegmentKind
  startDate : Option Date
  endDate : Option Date
  placeName : Option Text
  originName : Option Text
  destinationName : Option Text
  transportMode : Text
  notes : Text
  namesFit : nameFits placeName = true ∧ nameFits originName = true ∧
    nameFits destinationName = true
  transportLength : transportMode.length ≤ 100
  notesLength : notes.length ≤ 5000
  datesAreOrdered : datesOrdered startDate endDate
  hasDetails : kind.detailed placeName originName destinationName = true

/-- `SegmentCreate`. -/
structure SegmentCreate extends SegmentInput where
  id : Option Uuid

/-- `SegmentUpdate`. -/
structure SegmentUpdate extends SegmentInput where
  expectedRecordVersion : Nat
  expectedPositive : 1 ≤ expectedRecordVersion

/-- `SegmentReorder`. A position is a natural number by validation. -/
structure SegmentReorder where
  expectedRecordVersion : Nat
  newPosition : Nat
  expectedPositive : 1 ≤ expectedRecordVersion

/-- `SegmentResponse`. -/
structure SegmentResponse extends SegmentInput where
  id : Uuid
  journeyId : Uuid
  position : Nat
  recordVersion : Nat
  createdAt : Timestamp
  updatedAt : Timestamp

/-- `PackingInput`. -/
structure PackingInput where
  label : Text
  category : PackingCategory
  quantity : Nat
  essential : Bool
  labelLength : 1 ≤ label.length ∧ label.length ≤ 200
  quantityBounds : 1 ≤ quantity ∧ quantity ≤ 99

/-- `PackingCreate`. -/
structure PackingCreate extends PackingInput where
  id : Option Uuid

/-- `PackingUpdate`. -/
structure PackingUpdate extends PackingInput where
  expectedRecordVersion : Nat
  expectedPositive : 1 ≤ expectedRecordVersion

/-- `PackingProgressUpdate`. -/
structure PackingProgressUpdate where
  expectedRecordVersion : Nat
  packedQuantity : Nat
  expectedPositive : 1 ≤ expectedRecordVersion
  packedBounds : packedQuantity ≤ 99

/-- `PackingResponse`. -/
structure PackingResponse extends PackingInput where
  id : Uuid
  journeyId : Uuid
  packedQuantity : Nat
  recordVersion : Nat
  createdAt : Timestamp
  updatedAt : Timestamp

end TraxOs.Api
