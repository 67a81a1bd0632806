import TraxOs.Api.Routes
import TraxOs.Web.Domain

/-!
# What a save sends

`HttpJourneyRepository.save` compares the data that it is given with the data that the
repository last loaded, and sends one request for each difference, one after another.
No request depends on the answer to an earlier one. So the comparison is a list of
planned requests here, and sending them is left to the runs of the repository.

A body that breaks a limit of the contract has no request: the client refuses it
before it is sent. The JSON texts that the source compares are written with the same
members in the same order, and are equal when the bodies are.
-/

namespace TraxOs.Web

open TraxOs.Api (Uuid Text Timestamp Date JourneyStatus SegmentKind PackingCategory Call
  datesOrdered)

/-- The data as the server keeps it. -/
abbrev ServerJourney := Journey Uuid Date Timestamp

abbrev ServerSegment := JourneySegment Uuid Date Timestamp

abbrev ServerItem := PackingItem Uuid Date Timestamp

abbrev ServerData := JourneyData Uuid Date Timestamp

/-- A generated identifier is not empty. -/
instance : Identifier Uuid := ⟨fun _ => false⟩

instance : LT Date := ⟨Date.before⟩

instance : DecidableLT Date := fun left right => inferInstanceAs (Decidable (left.before right))

/-- `segmentBody`, without the identifier. -/
structure SegmentBody where
  kind : SegmentKind
  startDate : Option Date
  endDate : Option Date
  notes : Text
  placeName : Option Text
  originName : Option Text
  destinationName : Option Text
  transportMode : Text
deriving DecidableEq

/-- `segmentBody`. -/
def segmentBody (segment : ServerSegment) : SegmentBody :=
  match segment.details with
  | .stay placeName =>
    ⟨.stay, segment.startDate, segment.endDate, segment.notes, some placeName, none, none, []⟩
  | .move originName destinationName transportMode =>
    ⟨.move, segment.startDate, segment.endDate, segment.notes, none, some originName,
      some destinationName, transportMode⟩

/-- `packingBody`, without the identifier. -/
structure PackingBody where
  label : Text
  category : PackingCategory
  quantity : Nat
  essential : Bool
deriving DecidableEq

/-- `packingBody`. -/
def packingBody (item : ServerItem) : PackingBody :=
  ⟨item.label, item.category, item.quantity, item.essential⟩

/-- `journeyChanged`. -/
def journeyChanged (old journey : ServerJourney) : Bool :=
  old.name != journey.name || old.startDate != journey.startDate ||
    old.endDate != journey.endDate || old.status != journey.status

/-- `segmentChanged`. -/
def segmentChanged (old segment : ServerSegment) : Bool := segmentBody old != segmentBody segment

/-- `packingDefinitionChanged`. -/
def packingDefinitionChanged (old item : ServerItem) : Bool := packingBody old != packingBody item

/-- A request of a save, with the entities that it is made from. -/
inductive Planned where
  | deleteJourney (journey : ServerJourney)
  | createJourney (journey : ServerJourney)
  | updateJourney (old journey : ServerJourney)
  | deleteSegment (segment : ServerSegment)
  | createSegment (segment : ServerSegment)
  | updateSegment (old segment : ServerSegment)
  | reorderSegment (journeyId : Uuid) (old : ServerSegment) (newPosition : Nat)
  | deletePacking (item : ServerItem)
  | createPacking (item : ServerItem)
  | updatePacking (old item : ServerItem)
  | updateProgress (old item : ServerItem)
deriving DecidableEq

section Comparison

variable (previous next : ServerData)

/-- The journeys that are gone. -/
def deletedJourneys : List Planned :=
  (previous.journeys.filter fun journey =>
    !next.journeys.any fun candidate => candidate.id == journey.id).map .deleteJourney

/-- A journey that is new or changed. -/
def journeyRequests (journey : ServerJourney) : List Planned :=
  match previous.journeys.find? fun old => old.id == journey.id with
  | none => [.createJourney journey]
  | some old => if journeyChanged old journey then [.updateJourney old journey] else []

/-- The identifiers of the journeys that stay. -/
def living (journeyId : Uuid) : Bool := next.journeys.any fun journey => journey.id == journeyId

/-- The segments that are gone from living journeys. -/
def deletedSegments : List Planned :=
  (previous.segments.filter fun segment => living next segment.journeyId &&
    !next.segments.any fun candidate => candidate.id == segment.id).map .deleteSegment

/-- A segment that is new or changed. -/
def segmentRequests (segment : ServerSegment) : List Planned :=
  match previous.segments.find? fun old => old.id == segment.id with
  | none => [.createSegment segment]
  | some old => if segmentChanged old segment then [.updateSegment old segment] else []

/-- The first segment of the new order that stands where another one stood, with its old
version and its new index. -/
def moved (journeyId : Uuid) : Option (ServerSegment × Nat) :=
  let before := segmentsForJourney previous journeyId
  let after := segmentsForJourney next journeyId
  (after.zipIdx.find? fun entry =>
    (before[entry.2]?.map JourneySegment.id) != some entry.1.id &&
      previous.segments.any fun old => old.id == entry.1.id).bind fun entry =>
        (previous.segments.find? fun old => old.id == entry.1.id).map fun old =>
          (old, after.findIdx fun item => item.id == entry.1.id)

/-- The move of one segment of a journey. -/
def reorderRequests (journey : ServerJourney) : List Planned :=
  ((moved previous next journey.id).map fun entry => .reorderSegment journey.id entry.1 entry.2).toList

/-- The packing items that are gone from living journeys. -/
def deletedItems : List Planned :=
  (previous.packingItems.filter fun item => living next item.journeyId &&
    !next.packingItems.any fun candidate => candidate.id == item.id).map .deletePacking

/-- A packing item that is new or changed. -/
def packingRequests (item : ServerItem) : List Planned :=
  match previous.packingItems.find? fun old => old.id == item.id with
  | none => [.createPacking item]
  | some old =>
    if packingDefinitionChanged old item then [.updatePacking old item]
    else if old.packedQuantity != item.packedQuantity then [.updateProgress old item]
    else []

/-- The requests of `save`, in their order. -/
def savePlan : List Planned :=
  deletedJourneys previous next ++ next.journeys.flatMap (journeyRequests previous) ++
    deletedSegments previous next ++ next.segments.flatMap (segmentRequests previous) ++
      next.journeys.flatMap (reorderRequests previous next) ++ deletedItems previous next ++
        next.packingItems.flatMap (packingRequests previous)

end Comparison

section Bodies

/-- `journeyBody`, within the limits of the contract. -/
def journeyInput (journey : ServerJourney) : Option Api.JourneyInput :=
  if valid : (1 ≤ journey.name.length ∧ journey.name.length ≤ 200) ∧
      datesOrdered journey.startDate journey.endDate then
    some ⟨journey.name, journey.startDate, journey.endDate, valid.1, valid.2⟩
  else none

/-- A segment body within the limits of the contract. -/
def segmentInput (body : SegmentBody) : Option Api.SegmentInput :=
  if valid : (Api.nameFits body.placeName = true ∧ Api.nameFits body.originName = true ∧
      Api.nameFits body.destinationName = true) ∧ body.transportMode.length ≤ 100 ∧
        body.notes.length ≤ 5000 ∧ datesOrdered body.startDate body.endDate ∧
          body.kind.detailed body.placeName body.originName body.destinationName = true then
    some
      { kind := body.kind
        startDate := body.startDate
        endDate := body.endDate
        placeName := body.placeName
        originName := body.originName
        destinationName := body.destinationName
        transportMode := body.transportMode
        notes := body.notes
        namesFit := valid.1
        transportLength := valid.2.1
        notesLength := valid.2.2.1
        datesAreOrdered := valid.2.2.2.1
        hasDetails := valid.2.2.2.2 }
  else none

/-- A packing body within the limits of the contract. -/
def packingInput (body : PackingBody) : Option Api.PackingInput :=
  if valid : (1 ≤ body.label.length ∧ body.label.length ≤ 200) ∧
      (1 ≤ body.quantity ∧ body.quantity ≤ 99) then
    some ⟨body.label, body.category, body.quantity, body.essential, valid.1, valid.2⟩
  else none

/-- The payload of a journey update within the limits of the contract. -/
def updatePayload (old journey : ServerJourney) : Option Api.JourneyUpdateCommandPayload :=
  (journeyInput journey).bind fun input =>
    if positive : 1 ≤ old.recordVersion then
      some ⟨⟨input, old.recordVersion, journey.status, positive⟩, journey.id⟩
    else none

/-- What the retry of an update must repeat: `signature`. -/
structure UpdateSignature where
  commandVersion : Nat
  journeyId : Uuid
  name : Text
  startDate : Option Date
  endDate : Option Date
  status : JourneyStatus
  expectedRecordVersion : Nat
deriving DecidableEq

/-- The signature of an update. -/
def updateSignature (commandVersion : Nat) (old journey : ServerJourney) : UpdateSignature where
  commandVersion := commandVersion
  journeyId := journey.id
  name := journey.name
  startDate := journey.startDate
  endDate := journey.endDate
  status := journey.status
  expectedRecordVersion := old.recordVersion

/-- An update as a canonical command. -/
def updateCommand (commandId : Uuid) (commandVersion : Nat) (old journey : ServerJourney) : Option Call :=
  (updatePayload old journey).bind fun payload =>
    if positive : 1 ≤ commandVersion then
      some (.journeyUpdateCommand ⟨commandId, commandVersion, payload, positive⟩)
    else none

/-- The call of a planned request. An update of a journey is sent as a command instead. -/
def Planned.call : Planned → Option Call
  | .deleteJourney journey => some (.deleteJourney journey.id)
  | .createJourney journey =>
    (journeyInput journey).map fun input => .createJourney ⟨input, some journey.id⟩
  | .updateJourney _ _ => none
  | .deleteSegment segment => some (.deleteSegment segment.journeyId segment.id)
  | .createSegment segment =>
    (segmentInput (segmentBody segment)).map fun input =>
      .createSegment segment.journeyId ⟨input, some segment.id⟩
  | .updateSegment old segment =>
    (segmentInput (segmentBody segment)).bind fun input =>
      if positive : 1 ≤ old.recordVersion then
        some (.updateSegment segment.journeyId segment.id ⟨input, old.recordVersion, positive⟩)
      else none
  | .reorderSegment journeyId old newPosition =>
    if positive : 1 ≤ old.recordVersion then
      some (.reorderSegment journeyId old.id ⟨old.recordVersion, newPosition, positive⟩)
    else none
  | .deletePacking item => some (.deletePacking item.journeyId item.id)
  | .createPacking item =>
    (packingInput (packingBody item)).map fun input =>
      .createPacking item.journeyId ⟨input, some item.id⟩
  | .updatePacking old item =>
    (packingInput (packingBody item)).bind fun input =>
      if positive : 1 ≤ old.recordVersion then
        some (.updatePacking item.journeyId item.id ⟨input, old.recordVersion, positive⟩)
      else none
  | .updateProgress old item =>
    if valid : 1 ≤ old.recordVersion ∧ item.packedQuantity ≤ 99 then
      some (.updatePackingProgress item.journeyId item.id
        ⟨old.recordVersion, item.packedQuantity, valid.1, valid.2⟩)
    else none

end Bodies

section Loading

/-- `journeyFrom`. -/
def journeyFrom (row : Api.JourneyResponse) : ServerJourney where
  id := row.id
  name := row.name
  startDate := row.startDate
  endDate := row.endDate
  status := row.status
  recordVersion := row.recordVersion
  createdAt := row.createdAt
  updatedAt := row.updatedAt

/-- The names that `segmentFrom` reads as strings. -/
def detailsFrom (row : Api.SegmentResponse) : Option SegmentDetails :=
  match row.kind, row.placeName, row.originName, row.destinationName with
  | .stay, some placeName, _, _ => some (.stay placeName)
  | .move, _, some originName, some destinationName =>
    some (.move originName destinationName row.transportMode)
  | _, _, _, _ => none

/-- `segmentFrom`, unless the response is invalid. -/
def segmentFrom (row : Api.SegmentResponse) : Option ServerSegment :=
  (detailsFrom row).map fun details =>
    { id := row.id
      journeyId := row.journeyId
      position := row.position
      startDate := row.startDate
      endDate := row.endDate
      notes := row.notes
      recordVersion := row.recordVersion
      createdAt := row.createdAt
      updatedAt := row.updatedAt
      details := details }

/-- `packingFrom`. -/
def packingFrom (row : Api.PackingResponse) : ServerItem where
  id := row.id
  journeyId := row.journeyId
  label := row.label
  category := row.category
  quantity := row.quantity
  packedQuantity := row.packedQuantity
  essential := row.essential
  recordVersion := row.recordVersion
  createdAt := row.createdAt
  updatedAt := row.updatedAt

/-- The data of `load`, from the answers to its requests: the journeys, and for each of
them its segments and its packing items. -/
def loadedData (journeys : List Api.JourneyResponse)
    (details : List (List Api.SegmentResponse × List Api.PackingResponse)) : Option ServerData :=
  ((details.map Prod.fst).mapM (List.mapM segmentFrom)).map fun segments =>
    { journeys := journeys.map journeyFrom
      segments := segments.flatten
      packingItems := details.flatMap fun detail => detail.2.map packingFrom }

end Loading

end TraxOs.Web
