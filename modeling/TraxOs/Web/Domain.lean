import TraxOs.Api.Values

/-!
# Journeys in the web application

The data that the pages show, and the operations by which they change it. An
operation is a pure function of the data, of what the user entered, and of a runtime
that draws one identifier and reads the clock. It returns new data or the codes of
what is wrong; nothing is stored here.

A date field of a form is empty or a date, so that an optional date stands for it.
Lists keep their order, and sorting by position is stable.

The data is the same wherever it is kept. The journeys of a browser have any text for an
identifier and texts of a certain shape for dates; those of the server have the server's
identifiers, dates and timestamps. So these three types are parameters.
-/

namespace TraxOs.Web

open TraxOs.Api (Text JourneyStatus PackingCategory trimBy)

/-- `Journey`. -/
structure Journey (Id Day Time : Type) where
  id : Id
  name : Text
  startDate : Option Day
  endDate : Option Day
  status : JourneyStatus
  recordVersion : Nat
  createdAt : Time
  updatedAt : Time
deriving DecidableEq

/-- What a stay and a move differ in. -/
inductive SegmentDetails where
  | stay (placeName : Text)
  | move (originName destinationName transportMode : Text)
deriving DecidableEq

/-- `JourneySegment`. -/
structure JourneySegment (Id Day Time : Type) where
  id : Id
  journeyId : Id
  position : Nat
  startDate : Option Day
  endDate : Option Day
  notes : Text
  recordVersion : Nat
  createdAt : Time
  updatedAt : Time
  details : SegmentDetails
deriving DecidableEq

/-- `PackingItem`. -/
structure PackingItem (Id Day Time : Type) where
  id : Id
  journeyId : Id
  label : Text
  category : PackingCategory
  quantity : Nat
  packedQuantity : Nat
  essential : Bool
  recordVersion : Nat
  createdAt : Time
  updatedAt : Time
deriving DecidableEq

/-- `JourneyData`. -/
structure JourneyData (Id Day Time : Type) where
  journeys : List (Journey Id Day Time)
  segments : List (JourneySegment Id Day Time)
  packingItems : List (PackingItem Id Day Time)
deriving DecidableEq

/-- `EMPTY_JOURNEY_DATA`. -/
def emptyJourneyData {Id Day Time : Type} : JourneyData Id Day Time := ⟨[], [], []⟩

/-- `JourneyInput`. -/
structure JourneyInput (Day : Type) where
  name : Text
  startDate : Option Day
  endDate : Option Day

/-- `SegmentInput`. -/
structure SegmentInput (Day : Type) where
  details : SegmentDetails
  startDate : Option Day
  endDate : Option Day
  notes : Text

/-- `PackingInput`, with an integer for the quantity: others are refused by its check. -/
structure PackingInput where
  label : Text
  category : PackingCategory
  quantity : Int
  essential : Bool

/-- `Runtime`, for one operation: the identifier that it draws, and its readings of the
clock. -/
structure Runtime (Id Time : Type) where
  id : Id
  now : Nat → Time

/-- The white space and the line terminators of ECMAScript. -/
def isWhiteSpace (character : Char) : Bool :=
  let code := character.toNat
  (9 ≤ code && code ≤ 13) || code == 32 || code == 0xA0 || code == 0x1680 ||
    (0x2000 ≤ code && code ≤ 0x200A) || code == 0x2028 || code == 0x2029 || code == 0x202F ||
    code == 0x205F || code == 0x3000 || code == 0xFEFF

/-- `String.prototype.trim`. -/
def trim (text : Text) : Text := trimBy isWhiteSpace text

/-- `ValidationErrorCode`. -/
inductive ValidationErrorCode where
  | nameRequired
  | dateOrder
  | placeRequired
  | routeRequired
  | packingLabelRequired
  | quantityInvalid
deriving DecidableEq

/-- `JourneyValidationError` and `JourneyOperationError`. -/
inductive ServiceError where
  | invalid (codes : List ValidationErrorCode)
  | journeyNotFound
  | itemNotFound
deriving DecidableEq

/-- A code when something is wrong. -/
def errorIf (wrong : Bool) (code : ValidationErrorCode) : List ValidationErrorCode :=
  if wrong then [code] else []

/-- An identifier that is a string can be empty, and an empty one that is optional counts
as none. -/
class Identifier (Id : Type) where
  empty : Id → Bool

variable {Id Day Time : Type} [DecidableEq Id] [Identifier Id] [LT Day] [DecidableLT Day]

/-- The end is not before the start, when both are given. -/
def datesInOrder : Option Day → Option Day → Bool
  | some startDate, some endDate => !decide (endDate < startDate)
  | _, _ => true

/-- An optional identifier as a condition reads it. -/
def given (id : Option Id) : Option Id := id.filter fun id => !Identifier.empty id

/-- `validateJourney`. -/
def validateJourney (input : JourneyInput Day) : List ValidationErrorCode :=
  errorIf (trim input.name).isEmpty .nameRequired ++
    errorIf (!datesInOrder input.startDate input.endDate) .dateOrder

/-- `validateSegment`. -/
def validateSegment (input : SegmentInput Day) : List ValidationErrorCode :=
  errorIf (!datesInOrder input.startDate input.endDate) .dateOrder ++
    match input.details with
    | .stay placeName => errorIf (trim placeName).isEmpty .placeRequired
    | .move originName destinationName _ =>
      errorIf ((trim originName).isEmpty || (trim destinationName).isEmpty) .routeRequired

/-- `validatePacking`. -/
def validatePacking (input : PackingInput) : List ValidationErrorCode :=
  errorIf (trim input.label).isEmpty .packingLabelRequired ++
    errorIf (input.quantity < 1 || 99 < input.quantity) .quantityInvalid

/-- Sort by position, keeping the order of equal positions. -/
def byPosition (segments : List (JourneySegment Id Day Time)) : List (JourneySegment Id Day Time) :=
  segments.mergeSort fun left right => left.position ≤ right.position

/-- `segmentsForJourney`. -/
def segmentsForJourney (data : JourneyData Id Day Time) (journeyId : Id) :
    List (JourneySegment Id Day Time) :=
  byPosition (data.segments.filter fun segment => segment.journeyId == journeyId)

/-- The index under which a map from identifiers to indices holds an identifier: the last
one that was put there. -/
def indexOf (segments : List (JourneySegment Id Day Time)) (id : Id) : Option Nat :=
  (segments.zipIdx.reverse.find? fun entry => entry.1.id == id).map Prod.snd

/-- `positions.get(segment.id) ?? segment.position`, for the indices of a list. -/
def repositioned (order : List (JourneySegment Id Day Time))
    (segment : JourneySegment Id Day Time) : JourneySegment Id Day Time :=
  { segment with position := (indexOf order segment.id).getD segment.position }

section Service

variable (data : JourneyData Id Day Time) (runtime : Runtime Id Time)

/-- `assertValid`. -/
def assertValid (codes : List ValidationErrorCode) : Except ServiceError Unit :=
  if codes.isEmpty then .ok () else .error (.invalid codes)

/-- `assertJourneyExists`. -/
def assertJourneyExists (journeyId : Id) : Except ServiceError Unit :=
  if data.journeys.any fun journey => journey.id == journeyId then .ok ()
  else .error .journeyNotFound

/-- `assertOwnedItem`. -/
def assertOwnedItem (owned : Bool) : Except ServiceError Unit :=
  if owned then .ok () else .error .itemNotFound

/-- `touchJourney`. -/
def touchJourney (journeyId : Id) (now : Time) : JourneyData Id Day Time :=
  { data with
    journeys := data.journeys.map fun journey =>
      if journey.id == journeyId then { journey with updatedAt := now } else journey }

/-- `createJourney`. -/
def createJourney (input : JourneyInput Day) : Except ServiceError (JourneyData Id Day Time) := do
  assertValid (validateJourney input)
  let journey : Journey Id Day Time :=
    { id := runtime.id
      name := trim input.name
      startDate := input.startDate
      endDate := input.endDate
      status := .planning
      recordVersion := 1
      createdAt := runtime.now 0
      updatedAt := runtime.now 0 }
  pure { data with journeys := data.journeys ++ [journey] }

/-- `updateJourney`. -/
def updateJourney (journeyId : Id) (input : JourneyInput Day) :
    Except ServiceError (JourneyData Id Day Time) := do
  assertJourneyExists data journeyId
  assertValid (validateJourney input)
  pure
    { data with
      journeys := data.journeys.map fun journey =>
        if journey.id == journeyId then
          { journey with
            name := trim input.name
            startDate := input.startDate
            endDate := input.endDate
            updatedAt := runtime.now 0 }
        else journey }

/-- `setJourneyStatus`. -/
def setJourneyStatus (journeyId : Id) (status : JourneyStatus) :
    Except ServiceError (JourneyData Id Day Time) := do
  assertJourneyExists data journeyId
  pure
    { data with
      journeys := data.journeys.map fun journey =>
        if journey.id == journeyId then
          { journey with status := status, updatedAt := runtime.now 0 }
        else journey }

/-- `deleteJourney`. -/
def deleteJourney (journeyId : Id) : Except ServiceError (JourneyData Id Day Time) := do
  assertJourneyExists data journeyId
  pure
    { journeys := data.journeys.filter fun journey => journey.id != journeyId
      segments := data.segments.filter fun segment => segment.journeyId != journeyId
      packingItems := data.packingItems.filter fun item => item.journeyId != journeyId }

/-- The details with their texts trimmed. -/
def SegmentDetails.trimmed : SegmentDetails → SegmentDetails
  | .stay placeName => .stay (trim placeName)
  | .move originName destinationName transportMode =>
    .move (trim originName) (trim destinationName) (trim transportMode)

/-- The segment that `saveSegment` puts in the place of an existing one, or adds. -/
def savedSegment (journeyId : Id) (input : SegmentInput Day)
    (existing : Option (JourneySegment Id Day Time)) : JourneySegment Id Day Time where
  id := (existing.map JourneySegment.id).getD runtime.id
  journeyId := journeyId
  position := (existing.map JourneySegment.position).getD (segmentsForJourney data journeyId).length
  startDate := input.startDate
  endDate := input.endDate
  notes := trim input.notes
  recordVersion := (existing.map JourneySegment.recordVersion).getD 1
  createdAt := (existing.map JourneySegment.createdAt).getD (runtime.now 0)
  updatedAt := runtime.now 0
  details := input.details.trimmed

/-- `saveSegment`. -/
def saveSegment (journeyId : Id) (input : SegmentInput Day) (segmentId : Option Id) :
    Except ServiceError (JourneyData Id Day Time) := do
  assertJourneyExists data journeyId
  assertValid (validateSegment input)
  match given segmentId with
  | none =>
    let segment := savedSegment data runtime journeyId input none
    pure (touchJourney { data with segments := data.segments ++ [segment] } journeyId
      (runtime.now 1))
  | some id =>
    match data.segments.find? fun segment => segment.id == id && segment.journeyId == journeyId with
    | none => .error .itemNotFound
    | some existing =>
      let segment := savedSegment data runtime journeyId input (some existing)
      let segments := data.segments.map fun item => if item.id == existing.id then segment else item
      pure (touchJourney { data with segments := segments } journeyId (runtime.now 1))

/-- `deleteSegment`. -/
def deleteSegment (journeyId segmentId : Id) : Except ServiceError (JourneyData Id Day Time) := do
  assertJourneyExists data journeyId
  assertOwnedItem (data.segments.any fun segment =>
    segment.id == segmentId && segment.journeyId == journeyId)
  let remaining := data.segments.filter fun segment => segment.id != segmentId
  let ordered := byPosition (remaining.filter fun segment => segment.journeyId == journeyId)
  pure (touchJourney { data with segments := remaining.map (repositioned ordered) } journeyId
    (runtime.now 0))

/-- The direction of a move, `-1` or `1`. -/
inductive Direction where
  | earlier
  | later
deriving DecidableEq

/-- `index + direction`, where it is no negative number. -/
def Direction.target : Direction → Nat → Option Nat
  | .earlier, 0 => none
  | .earlier, index + 1 => some index
  | .later, index => some (index + 1)

/-- `moveSegment`. -/
def moveSegment (journeyId segmentId : Id) (direction : Direction) :
    Except ServiceError (JourneyData Id Day Time) := do
  assertJourneyExists data journeyId
  let ordered := segmentsForJourney data journeyId
  match ordered.findIdx? fun segment => segment.id == segmentId with
  | none => .error .itemNotFound
  | some index =>
    match direction.target index with
    | none => pure data
    | some target =>
      match ordered[index]?, ordered[target]? with
      | some current, some destination =>
        let reordered := (ordered.set index destination).set target current
        pure (touchJourney { data with segments := data.segments.map (repositioned reordered) }
          journeyId (runtime.now 0))
      | _, _ => pure data

/-- The item that `savePackingItem` puts in the place of an existing one, or adds. -/
def savedItem (journeyId : Id) (input : PackingInput)
    (existing : Option (PackingItem Id Day Time)) : PackingItem Id Day Time where
  id := (existing.map PackingItem.id).getD runtime.id
  journeyId := journeyId
  label := trim input.label
  category := input.category
  quantity := input.quantity.toNat
  packedQuantity := min ((existing.map PackingItem.packedQuantity).getD 0) input.quantity.toNat
  essential := input.essential
  recordVersion := (existing.map PackingItem.recordVersion).getD 1
  createdAt := (existing.map PackingItem.createdAt).getD (runtime.now 0)
  updatedAt := runtime.now 1

/-- `savePackingItem`. -/
def savePackingItem (journeyId : Id) (input : PackingInput) (itemId : Option Id) :
    Except ServiceError (JourneyData Id Day Time) := do
  assertJourneyExists data journeyId
  assertValid (validatePacking input)
  match given itemId with
  | none =>
    let item := savedItem runtime journeyId input none
    pure (touchJourney { data with packingItems := data.packingItems ++ [item] } journeyId
      (runtime.now 2))
  | some id =>
    match data.packingItems.find? fun item => item.id == id && item.journeyId == journeyId with
    | none => .error .itemNotFound
    | some existing =>
      let item := savedItem runtime journeyId input (some existing)
      let items := data.packingItems.map fun current =>
        if current.id == existing.id then item else current
      pure (touchJourney { data with packingItems := items } journeyId (runtime.now 2))

/-- `setPackedQuantity`. -/
def setPackedQuantity (journeyId itemId : Id) (packedQuantity : Int) :
    Except ServiceError (JourneyData Id Day Time) := do
  assertJourneyExists data journeyId
  assertOwnedItem (data.packingItems.any fun item =>
    item.id == itemId && item.journeyId == journeyId)
  let items := data.packingItems.map fun item =>
    if item.id == itemId then
      { item with packedQuantity := (min (item.quantity : Int) packedQuantity).toNat }
    else item
  pure (touchJourney { data with packingItems := items } journeyId (runtime.now 0))

/-- `deletePackingItem`. -/
def deletePackingItem (journeyId itemId : Id) : Except ServiceError (JourneyData Id Day Time) := do
  assertJourneyExists data journeyId
  assertOwnedItem (data.packingItems.any fun item =>
    item.id == itemId && item.journeyId == journeyId)
  pure (touchJourney
    { data with packingItems := data.packingItems.filter fun item => item.id != itemId } journeyId
    (runtime.now 0))

end Service

/-- An operation of the service with what the user entered. -/
inductive Operation (Id Day : Type) where
  | createJourney (input : JourneyInput Day)
  | updateJourney (journeyId : Id) (input : JourneyInput Day)
  | setJourneyStatus (journeyId : Id) (status : JourneyStatus)
  | deleteJourney (journeyId : Id)
  | saveSegment (journeyId : Id) (input : SegmentInput Day) (segmentId : Option Id)
  | deleteSegment (journeyId segmentId : Id)
  | moveSegment (journeyId segmentId : Id) (direction : Direction)
  | savePackingItem (journeyId : Id) (input : PackingInput) (itemId : Option Id)
  | setPackedQuantity (journeyId itemId : Id) (packedQuantity : Int)
  | deletePackingItem (journeyId itemId : Id)

/-- The data that an operation leads to. -/
def performed (data : JourneyData Id Day Time) (runtime : Runtime Id Time) :
    Operation Id Day → Except ServiceError (JourneyData Id Day Time)
  | .createJourney input => createJourney data runtime input
  | .updateJourney journeyId input => updateJourney data runtime journeyId input
  | .setJourneyStatus journeyId status => setJourneyStatus data runtime journeyId status
  | .deleteJourney journeyId => deleteJourney data journeyId
  | .saveSegment journeyId input segmentId => saveSegment data runtime journeyId input segmentId
  | .deleteSegment journeyId segmentId => deleteSegment data runtime journeyId segmentId
  | .moveSegment journeyId segmentId direction =>
    moveSegment data runtime journeyId segmentId direction
  | .savePackingItem journeyId input itemId => savePackingItem data runtime journeyId input itemId
  | .setPackedQuantity journeyId itemId packedQuantity =>
    setPackedQuantity data runtime journeyId itemId packedQuantity
  | .deletePackingItem journeyId itemId => deletePackingItem data runtime journeyId itemId

end TraxOs.Web
