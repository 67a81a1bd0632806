import TraxOs.Theory.Json
import TraxOs.Web.Domain

/-!
# Journey data in the browser

The browser keeps its data as a JSON document, and `parseJourneyData` reads it strictly
on the next load: identifiers that are not blank and occur once, known journeys, ordered
dates, positions that no two segments of a journey share, quantities within bounds. A
document that fails one check is refused as a whole, always with the same error.

Identifiers and timestamps are texts here, and dates are texts of the shape of a date,
calendar or not. Which texts `Date.parse` reads is a matter of the engine. Numbers are
integers: a fraction fails every check that a number meets here. What the document holds
of data in memory is read back exactly when the data is readable.
-/

namespace TraxOs.Web

open TraxOs.Theory (Json)
open TraxOs.Api (Text JourneyStatus PackingCategory)

/-- The shape that `LOCAL_DATE` tests. -/
def localDate (text : Text) : Bool :=
  match text with
  | [y1, y2, y3, y4, '-', m1, m2, '-', d1, d2] =>
    [y1, y2, y3, y4, m1, m2, d1, d2].all fun character =>
      decide ('0' ≤ character) && decide (character ≤ '9')
  | _ => false

/-- A date of the browser: four, two and two digits. -/
structure LocalDate where
  text : Text
  shaped : localDate text = true
deriving DecidableEq

/-- Dates are compared as strings. -/
instance : LT LocalDate := ⟨fun left right => left.text < right.text⟩

instance : DecidableLT LocalDate :=
  fun left right => inferInstanceAs (Decidable (left.text < right.text))

instance : Identifier Text := ⟨List.isEmpty⟩

/-- What the application takes from the engine that runs it. -/
structure Engine where
  dateParses : Text → Bool

/-- The journeys of a browser. -/
abbrev LocalJourney := Journey Text LocalDate Text

abbrev LocalSegment := JourneySegment Text LocalDate Text

abbrev LocalItem := PackingItem Text LocalDate Text

abbrev LocalData := JourneyData Text LocalDate Text

/-! ## Reading -/

/-- A text that is not blank. -/
def notBlank (text : Text) : Bool := !(trim text).isEmpty

/-- `nonEmptyString`. -/
def nonEmptyString : Option Json → Option Text
  | some (.text text) => if notBlank text then some text else none
  | _ => none

/-- A member that is a string. -/
def anyString : Option Json → Option Text
  | some (.text text) => some text
  | _ => none

/-- `nullableDate`. -/
def nullableDate : Option Json → Option (Option LocalDate)
  | some .null => some none
  | some (.text text) => if shaped : localDate text = true then some (some ⟨text, shaped⟩) else none
  | _ => none

/-- `positiveVersion`. -/
def positiveVersion : Option Json → Option Nat
  | some (.number value) => if 1 ≤ value then some value.toNat else none
  | _ => none

/-- An integer that is not negative. -/
def natural : Option Json → Option Nat
  | some (.number value) => if 0 ≤ value then some value.toNat else none
  | _ => none

/-- The texts that `isoTimestamp` accepts. -/
def Engine.timestamp (engine : Engine) (text : Text) : Bool :=
  engine.dateParses text && text.contains 'T'

/-- `isoTimestamp`. -/
def isoTimestamp (engine : Engine) : Option Json → Option Text
  | some (.text text) => if engine.timestamp text then some text else none
  | _ => none

/-- `JOURNEY_STATUSES`. -/
def journeyStatuses : List JourneyStatus := [.planning, .active, .completed, .archived]

/-- `PACKING_CATEGORIES`. -/
def packingCategories : List PackingCategory :=
  [.documents, .clothing, .toiletries, .electronics, .other]

/-- A status of `JOURNEY_STATUSES`. -/
def statusOf : Option Json → Option JourneyStatus
  | some (.text text) => journeyStatuses.find? fun status => status.literal.toList == text
  | _ => none

/-- A category of `PACKING_CATEGORIES`. -/
def categoryOf : Option Json → Option PackingCategory
  | some (.text text) => packingCategories.find? fun category => category.literal.toList == text
  | _ => none

/-- A boolean member. -/
def boolean : Option Json → Option Bool
  | some (.bool value) => some value
  | _ => none

/-- A member of a record. -/
def member (members : List (Text × Json)) (name : String) : Option Json :=
  members.lookup name.toList

/-- A condition of the parser. -/
def demand (condition : Bool) : Option Unit := if condition then some () else none

/-- One turn of the first loop of `parseJourneyData`. -/
def parseJourney (engine : Engine) (seen : List Text) : Json → Option LocalJourney
  | .object members => do
    let id ← nonEmptyString (member members "id")
    demand (!seen.contains id)
    let name ← nonEmptyString (member members "name")
    let status ← statusOf (member members "status")
    let startDate ← nullableDate (member members "startDate")
    let endDate ← nullableDate (member members "endDate")
    demand (datesInOrder startDate endDate)
    let recordVersion ← positiveVersion (member members "recordVersion")
    let createdAt ← isoTimestamp engine (member members "createdAt")
    let updatedAt ← isoTimestamp engine (member members "updatedAt")
    pure ⟨id, name, startDate, endDate, status, recordVersion, createdAt, updatedAt⟩
  | _ => none

/-- What depends on the kind of a segment. -/
def parseDetails (members : List (Text × Json)) : Option SegmentDetails := do
  let kind ← anyString (member members "kind")
  if kind = "stay".toList then
    (nonEmptyString (member members "placeName")).map .stay
  else if kind = "move".toList then do
    let originName ← nonEmptyString (member members "originName")
    let destinationName ← nonEmptyString (member members "destinationName")
    let transportMode ← anyString (member members "transportMode")
    pure (.move originName destinationName transportMode)
  else none

/-- One turn of the second loop of `parseJourneyData`. -/
def parseSegment (engine : Engine) (journeyIds seen : List Text) (positions : List (Text × Nat)) :
    Json → Option LocalSegment
  | .object members => do
    let id ← nonEmptyString (member members "id")
    demand (!seen.contains id)
    let journeyId ← nonEmptyString (member members "journeyId")
    demand (journeyIds.contains journeyId)
    let position ← natural (member members "position")
    let startDate ← nullableDate (member members "startDate")
    let endDate ← nullableDate (member members "endDate")
    demand (datesInOrder startDate endDate)
    let notes ← anyString (member members "notes")
    let recordVersion ← positiveVersion (member members "recordVersion")
    let createdAt ← isoTimestamp engine (member members "createdAt")
    let updatedAt ← isoTimestamp engine (member members "updatedAt")
    let details ← parseDetails members
    demand (!positions.contains (journeyId, position))
    pure ⟨id, journeyId, position, startDate, endDate, notes, recordVersion, createdAt, updatedAt,
      details⟩
  | _ => none

/-- One turn of the third loop of `parseJourneyData`. -/
def parseItem (engine : Engine) (journeyIds seen : List Text) : Json → Option LocalItem
  | .object members => do
    let id ← nonEmptyString (member members "id")
    demand (!seen.contains id)
    let journeyId ← nonEmptyString (member members "journeyId")
    demand (journeyIds.contains journeyId)
    let label ← nonEmptyString (member members "label")
    let category ← categoryOf (member members "category")
    let quantity ← natural (member members "quantity")
    let packedQuantity ← natural (member members "packedQuantity")
    demand (1 ≤ quantity && quantity ≤ 99)
    demand (packedQuantity ≤ quantity)
    let essential ← boolean (member members "essential")
    let recordVersion ← positiveVersion (member members "recordVersion")
    let createdAt ← isoTimestamp engine (member members "createdAt")
    let updatedAt ← isoTimestamp engine (member members "updatedAt")
    pure ⟨id, journeyId, label, category, quantity, packedQuantity, essential, recordVersion,
      createdAt, updatedAt⟩
  | _ => none

/-- A loop that reads each value with the ones read before it. -/
def parseEach {α : Type} (parse : List α → Json → Option α) (read : List α) :
    List Json → Option (List α)
  | [] => some read
  | value :: rest => (parse read value).bind fun next => parseEach parse (read ++ [next]) rest

/-- `parseJourneyData`; none stands for its error. -/
def parseJourneyData (engine : Engine) : Json → Option LocalData
  | .object members =>
    match member members "schemaVersion", member members "journeys", member members "segments",
      member members "packingItems" with
    | some (.number 1), some (.array journeyValues), some (.array segmentValues),
      some (.array itemValues) => do
      let journeys ← parseEach (fun read => parseJourney engine (read.map Journey.id)) []
        journeyValues
      let journeyIds := journeys.map Journey.id
      let segments ← parseEach (fun read => parseSegment engine journeyIds
        (read.map JourneySegment.id) (read.map fun segment => (segment.journeyId, segment.position)))
        [] segmentValues
      let packingItems ← parseEach (fun read => parseItem engine journeyIds
        (read.map PackingItem.id)) [] itemValues
      pure ⟨journeys, segments, packingItems⟩
    | _, _, _, _ => none
  | _ => none

/-! ## The document -/

/-- A date or null. -/
def dateDocument (date : Option LocalDate) : Json :=
  date.elim .null fun date => .text date.text

/-- A journey as JSON. -/
def Journey.document (journey : LocalJourney) : Json :=
  .object
    [("id".toList, .text journey.id), ("name".toList, .text journey.name),
     ("startDate".toList, dateDocument journey.startDate),
     ("endDate".toList, dateDocument journey.endDate),
     ("status".toList, .text journey.status.literal.toList),
     ("recordVersion".toList, .number journey.recordVersion),
     ("createdAt".toList, .text journey.createdAt), ("updatedAt".toList, .text journey.updatedAt)]

/-- The members that depend on the kind of a segment. -/
def SegmentDetails.members : SegmentDetails → List (Text × Json)
  | .stay placeName =>
    [("kind".toList, .text "stay".toList), ("placeName".toList, .text placeName)]
  | .move originName destinationName transportMode =>
    [("kind".toList, .text "move".toList), ("originName".toList, .text originName),
     ("destinationName".toList, .text destinationName),
     ("transportMode".toList, .text transportMode)]

/-- A segment as JSON. -/
def JourneySegment.document (segment : LocalSegment) : Json :=
  .object
    ([("id".toList, .text segment.id), ("journeyId".toList, .text segment.journeyId),
      ("position".toList, .number segment.position),
      ("startDate".toList, dateDocument segment.startDate),
      ("endDate".toList, dateDocument segment.endDate), ("notes".toList, .text segment.notes),
      ("recordVersion".toList, .number segment.recordVersion),
      ("createdAt".toList, .text segment.createdAt),
      ("updatedAt".toList, .text segment.updatedAt)] ++ segment.details.members)

/-- A packing item as JSON. -/
def PackingItem.document (item : LocalItem) : Json :=
  .object
    [("id".toList, .text item.id), ("journeyId".toList, .text item.journeyId),
     ("label".toList, .text item.label), ("category".toList, .text item.category.literal.toList),
     ("quantity".toList, .number item.quantity),
     ("packedQuantity".toList, .number item.packedQuantity),
     ("essential".toList, .bool item.essential),
     ("recordVersion".toList, .number item.recordVersion),
     ("createdAt".toList, .text item.createdAt), ("updatedAt".toList, .text item.updatedAt)]

/-- The data as the JSON document that the browser keeps. -/
def JourneyData.document (data : LocalData) : Json :=
  .object
    [("schemaVersion".toList, .number 1),
     ("journeys".toList, .array (data.journeys.map Journey.document)),
     ("segments".toList, .array (data.segments.map JourneySegment.document)),
     ("packingItems".toList, .array (data.packingItems.map PackingItem.document))]

/-! ## What is read back -/

/-- What the parser asks of one journey. -/
structure Journey.Readable (engine : Engine) (journey : LocalJourney) : Prop where
  id : notBlank journey.id = true
  name : notBlank journey.name = true
  dates : datesInOrder journey.startDate journey.endDate = true
  version : 1 ≤ journey.recordVersion
  created : engine.timestamp journey.createdAt = true
  updated : engine.timestamp journey.updatedAt = true

/-- What the parser asks of the details of a segment. -/
def SegmentDetails.Readable : SegmentDetails → Prop
  | .stay placeName => notBlank placeName = true
  | .move originName destinationName _ =>
    notBlank originName = true ∧ notBlank destinationName = true

/-- What the parser asks of one segment, apart from the others. -/
structure JourneySegment.Readable (engine : Engine) (segment : LocalSegment) : Prop where
  id : notBlank segment.id = true
  journeyId : notBlank segment.journeyId = true
  dates : datesInOrder segment.startDate segment.endDate = true
  version : 1 ≤ segment.recordVersion
  created : engine.timestamp segment.createdAt = true
  updated : engine.timestamp segment.updatedAt = true
  details : segment.details.Readable

/-- What the parser asks of one packing item, apart from the others. -/
structure PackingItem.Readable (engine : Engine) (item : LocalItem) : Prop where
  id : notBlank item.id = true
  journeyId : notBlank item.journeyId = true
  label : notBlank item.label = true
  quantity : 1 ≤ item.quantity ∧ item.quantity ≤ 99
  packed : item.packedQuantity ≤ item.quantity
  version : 1 ≤ item.recordVersion
  created : engine.timestamp item.createdAt = true
  updated : engine.timestamp item.updatedAt = true

@[simp] theorem nonEmptyString_text (text : Text) :
    nonEmptyString (some (.text text)) = if notBlank text then some text else none := rfl

@[simp] theorem isoTimestamp_text (engine : Engine) (text : Text) :
    isoTimestamp engine (some (.text text)) = if engine.timestamp text then some text else none :=
  rfl

@[simp] theorem anyString_text (text : Text) : anyString (some (.text text)) = some text := rfl

@[simp] theorem boolean_bool (value : Bool) : boolean (some (.bool value)) = some value := rfl

@[simp] theorem nullableDate_document (date : Option LocalDate) :
    nullableDate (some (dateDocument date)) = some date := by
  cases date with
  | none => rfl
  | some date => simp [dateDocument, nullableDate, date.shaped]

@[simp] theorem positiveVersion_number (version : Nat) :
    positiveVersion (some (.number version)) = if 1 ≤ version then some version else none := by
  simp only [positiveVersion, Int.toNat_natCast]
  by_cases positive : 1 ≤ version
  · rw [if_pos positive, if_pos (by omega)]
  · rw [if_neg positive, if_neg (by omega)]

@[simp] theorem natural_number (value : Nat) :
    natural (some (.number value)) = some value := by
  simp [natural]

@[simp] theorem statusOf_literal (status : JourneyStatus) :
    statusOf (some (.text status.literal.toList)) = some status := by
  cases status <;> decide

@[simp] theorem categoryOf_literal (category : PackingCategory) :
    categoryOf (some (.text category.literal.toList)) = some category := by
  cases category <;> decide

/-- A check that passes leaves its value. -/
theorem kept_bind {α β : Type} (condition : Prop) [Decidable condition] (value : α)
    (next : α → Option β) (result : β) :
    (if condition then some value else none).bind next = some result ↔
      condition ∧ next value = some result := by
  by_cases holds : condition <;> simp [holds]

theorem demand_bind {β : Type} (condition : Bool) (next : Unit → Option β) (result : β) :
    (demand condition).bind next = some result ↔ condition = true ∧ next () = some result :=
  kept_bind (condition = true) () next result

/-- A journey is read back exactly when it is readable and new. -/
theorem parseJourney_document (engine : Engine) (seen : List Text) (journey : LocalJourney) :
    parseJourney engine seen journey.document = some journey ↔
      journey.id ∉ seen ∧ journey.Readable engine := by
  simp [parseJourney, Journey.document, member, List.lookup_cons, kept_bind, demand_bind]
  constructor
  · rintro ⟨id, fresh, name, dates, version, created, updated⟩
    exact ⟨fresh, id, name, dates, version, created, updated⟩
  · rintro ⟨fresh, id, name, dates, version, created, updated⟩
    exact ⟨id, fresh, name, dates, version, created, updated⟩

/-- A segment is read back exactly when it is readable, new, of a known journey, and at a
position of its own. -/
theorem parseSegment_document (engine : Engine) (journeyIds seen : List Text)
    (positions : List (Text × Nat)) (segment : LocalSegment) :
    parseSegment engine journeyIds seen positions segment.document = some segment ↔
      segment.id ∉ seen ∧ segment.journeyId ∈ journeyIds ∧
        (segment.journeyId, segment.position) ∉ positions ∧ segment.Readable engine := by
  obtain ⟨id, journeyId, position, startDate, endDate, notes, version, created, updated,
    details⟩ := segment
  cases details with
  | stay placeName =>
    simp [parseSegment, parseDetails, JourneySegment.document, SegmentDetails.members, member,
      List.lookup_cons, List.lookup_nil, kept_bind, demand_bind]
    constructor
    · rintro ⟨id, fresh, owned, known, dates, version, created, updated, place, free⟩
      exact ⟨fresh, known, free, id, owned, dates, version, created, updated, place⟩
    · rintro ⟨fresh, known, free, id, owned, dates, version, created, updated, place⟩
      exact ⟨id, fresh, owned, known, dates, version, created, updated, place, free⟩
  | move originName destinationName transportMode =>
    simp [parseSegment, parseDetails, JourneySegment.document, SegmentDetails.members, member,
      List.lookup_cons, List.lookup_nil, kept_bind, demand_bind, Option.bind_assoc]
    constructor
    · rintro ⟨id, fresh, owned, known, dates, version, created, updated, origin, destination,
        free⟩
      exact ⟨fresh, known, free, id, owned, dates, version, created, updated, origin, destination⟩
    · rintro ⟨fresh, known, free, id, owned, dates, version, created, updated, origin,
        destination⟩
      exact ⟨id, fresh, owned, known, dates, version, created, updated, origin, destination, free⟩

/-- A packing item is read back exactly when it is readable, new and of a known
journey. -/
theorem parseItem_document (engine : Engine) (journeyIds seen : List Text) (item : LocalItem) :
    parseItem engine journeyIds seen item.document = some item ↔
      item.id ∉ seen ∧ item.journeyId ∈ journeyIds ∧ item.Readable engine := by
  simp [parseItem, PackingItem.document, member, List.lookup_cons, kept_bind, demand_bind]
  constructor
  · rintro ⟨id, fresh, owned, known, label, quantity, packed, version, created, updated⟩
    exact ⟨fresh, known, id, owned, label, quantity, packed, version, created, updated⟩
  · rintro ⟨fresh, known, id, owned, label, quantity, packed, version, created, updated⟩
    exact ⟨id, fresh, owned, known, label, quantity, packed, version, created, updated⟩

section Loop

variable {α : Type} (parse : List α → Json → Option α)

/-- A loop only adds to what it has read. -/
theorem parseEach_keeps (read result : List α) (values : List Json)
    (parsed : parseEach parse read values = some result) : read <+: result := by
  induction values generalizing read with
  | nil =>
    cases parsed
    exact List.prefix_rfl
  | cons value rest inductionHypothesis =>
    obtain ⟨next, _, later⟩ := Option.bind_eq_some_iff.mp parsed
    exact (List.prefix_append read [next]).trans (inductionHypothesis _ later)

/-- A loop reads a list of documents back exactly when each element is good by itself and
agrees with those before it. -/
theorem parseEach_document (document : α → Json) (agrees : α → α → Prop) (good : α → Prop)
    (each : ∀ read value, parse read (document value) = some value ↔
      (∀ earlier ∈ read, agrees earlier value) ∧ good value)
    (read values : List α) :
    parseEach parse read (values.map document) = some (read ++ values) ↔
      values.Pairwise agrees ∧ (∀ earlier ∈ read, ∀ value ∈ values, agrees earlier value) ∧
        ∀ value ∈ values, good value := by
  induction values generalizing read with
  | nil => simp [parseEach]
  | cons value rest inductionHypothesis =>
    have together : read ++ value :: rest = (read ++ [value]) ++ rest := by simp
    constructor
    · intro parsed
      obtain ⟨next, first, later⟩ := Option.bind_eq_some_iff.mp parsed
      obtain ⟨suffix, whole⟩ := parseEach_keeps parse _ _ _ later
      rw [List.append_assoc] at whole
      obtain rfl : next = value := (List.cons.inj (List.append_cancel_left whole)).1
      rw [together] at later
      obtain ⟨pairwise, across, goods⟩ := (inductionHypothesis _).mp later
      obtain ⟨before, goodFirst⟩ := (each read next).mp first
      refine ⟨List.pairwise_cons.mpr ⟨?_, pairwise⟩, ?_,
        List.forall_mem_cons.mpr ⟨goodFirst, goods⟩⟩
      · exact fun other among => across next (by simp) other among
      · intro earlier among
        exact List.forall_mem_cons.mpr ⟨before earlier among,
          fun other later => across earlier (List.mem_append_left _ among) other later⟩
    · rintro ⟨pairwise, across, goods⟩
      obtain ⟨after, pairwise⟩ := List.pairwise_cons.mp pairwise
      obtain ⟨goodFirst, goods⟩ := List.forall_mem_cons.mp goods
      have first := (each read value).mpr
        ⟨fun earlier among => across earlier among value List.mem_cons_self, goodFirst⟩
      refine Option.bind_eq_some_iff.mpr ⟨value, first, ?_⟩
      rw [together]
      refine (inductionHypothesis _).mpr ⟨pairwise, ?_, goods⟩
      intro earlier among other later
      rcases List.mem_append.mp among with among | last
      · exact across earlier among other (List.mem_cons_of_mem _ later)
      · exact List.mem_singleton.mp last ▸ after other later

end Loop

/-- What the parser asks of the data. -/
structure JourneyData.Readable (engine : Engine) (data : LocalData) : Prop where
  journeys : ∀ journey ∈ data.journeys, journey.Readable engine
  journeyIds : (data.journeys.map Journey.id).Nodup
  segments : ∀ segment ∈ data.segments, segment.Readable engine
  segmentIds : (data.segments.map JourneySegment.id).Nodup
  segmentOwners : ∀ segment ∈ data.segments, segment.journeyId ∈ data.journeys.map Journey.id
  positions : (data.segments.map fun segment => (segment.journeyId, segment.position)).Nodup
  items : ∀ item ∈ data.packingItems, item.Readable engine
  itemIds : (data.packingItems.map PackingItem.id).Nodup
  itemOwners : ∀ item ∈ data.packingItems, item.journeyId ∈ data.journeys.map Journey.id

/-- Elements are distinct under a key when no later one has the key of an earlier one. -/
theorem nodup_map_iff {α β : Type} (key : α → β) (values : List α) :
    (values.map key).Nodup ↔ values.Pairwise fun earlier value => key value ≠ key earlier := by
  rw [List.Nodup, List.pairwise_map]
  simp only [ne_comm]

/-- An identifier is new when it differs from those before it. -/
theorem unseen_iff {α : Type} (key : α → Text) (read : List α) (value : α) :
    key value ∉ read.map key ↔ ∀ earlier ∈ read, key value ≠ key earlier := by
  simp only [List.mem_map, not_exists, not_and, ne_comm, ne_eq]

theorem parseJourneys_document (engine : Engine) (journeys : List LocalJourney) :
    parseEach (fun read => parseJourney engine (read.map Journey.id)) []
        (journeys.map Journey.document) = some journeys ↔
      (journeys.map Journey.id).Nodup ∧ ∀ journey ∈ journeys, journey.Readable engine := by
  have loop := parseEach_document (fun read => parseJourney engine (read.map Journey.id))
    Journey.document (fun earlier journey => journey.id ≠ earlier.id) (Journey.Readable engine)
    (fun read journey => by rw [parseJourney_document, unseen_iff]) [] journeys
  rw [List.nil_append] at loop
  rw [loop, nodup_map_iff]
  simp

theorem parseSegments_document (engine : Engine) (journeyIds : List Text)
    (segments : List LocalSegment) :
    parseEach (fun read => parseSegment engine journeyIds (read.map JourneySegment.id)
        (read.map fun segment => (segment.journeyId, segment.position))) []
        (segments.map JourneySegment.document) = some segments ↔
      ((segments.map JourneySegment.id).Nodup ∧
        (segments.map fun segment => (segment.journeyId, segment.position)).Nodup) ∧
      ∀ segment ∈ segments, segment.journeyId ∈ journeyIds ∧ segment.Readable engine := by
  have loop := parseEach_document
    (fun read => parseSegment engine journeyIds (read.map JourneySegment.id)
      (read.map fun segment => (segment.journeyId, segment.position)))
    JourneySegment.document
    (fun earlier segment => segment.id ≠ earlier.id ∧
      (segment.journeyId, segment.position) ≠ (earlier.journeyId, earlier.position))
    (fun segment => segment.journeyId ∈ journeyIds ∧ segment.Readable engine)
    (fun read segment => by
      rw [parseSegment_document, unseen_iff]
      simp only [List.mem_map, not_exists, not_and, forall_and]
      constructor
      · rintro ⟨fresh, known, free, readable⟩
        exact ⟨⟨fresh, fun earlier among same => free earlier among same.symm⟩, known, readable⟩
      · rintro ⟨⟨fresh, free⟩, known, readable⟩
        exact ⟨fresh, known, fun earlier among same => free earlier among same.symm, readable⟩)
    [] segments
  rw [List.nil_append] at loop
  rw [loop, nodup_map_iff, nodup_map_iff, List.pairwise_and_iff]
  simp

theorem parseItems_document (engine : Engine) (journeyIds : List Text) (items : List LocalItem) :
    parseEach (fun read => parseItem engine journeyIds (read.map PackingItem.id)) []
        (items.map PackingItem.document) = some items ↔
      (items.map PackingItem.id).Nodup ∧
        ∀ item ∈ items, item.journeyId ∈ journeyIds ∧ item.Readable engine := by
  have loop := parseEach_document (fun read => parseItem engine journeyIds (read.map PackingItem.id))
    PackingItem.document (fun earlier item => item.id ≠ earlier.id)
    (fun item => item.journeyId ∈ journeyIds ∧ item.Readable engine)
    (fun read item => by rw [parseItem_document, unseen_iff]) [] items
  rw [List.nil_append] at loop
  rw [loop, nodup_map_iff]
  simp

/-- The document of data in memory is read back exactly when the data is readable. -/
theorem parseJourneyData_document (engine : Engine) (data : LocalData) :
    parseJourneyData engine data.document = some data ↔ data.Readable engine := by
  have steps : parseJourneyData engine data.document =
      (parseEach (fun read => parseJourney engine (read.map Journey.id)) []
        (data.journeys.map Journey.document)).bind fun journeys =>
        (parseEach (fun read => parseSegment engine (journeys.map Journey.id)
          (read.map JourneySegment.id)
          (read.map fun segment => (segment.journeyId, segment.position))) []
          (data.segments.map JourneySegment.document)).bind fun segments =>
          (parseEach (fun read => parseItem engine (journeys.map Journey.id)
            (read.map PackingItem.id)) [] (data.packingItems.map PackingItem.document)).bind
            fun items => some ⟨journeys, segments, items⟩ := rfl
  rw [steps]
  constructor
  · intro parsed
    obtain ⟨journeys, first, parsed⟩ := Option.bind_eq_some_iff.mp parsed
    obtain ⟨segments, second, parsed⟩ := Option.bind_eq_some_iff.mp parsed
    obtain ⟨items, third, parsed⟩ := Option.bind_eq_some_iff.mp parsed
    obtain rfl := Option.some.inj parsed
    obtain ⟨journeyIds, journeysGood⟩ := (parseJourneys_document engine journeys).mp first
    obtain ⟨⟨segmentIds, positions⟩, segmentsGood⟩ :=
      (parseSegments_document engine _ segments).mp second
    obtain ⟨itemIds, itemsGood⟩ := (parseItems_document engine _ items).mp third
    exact
      { journeys := journeysGood
        journeyIds := journeyIds
        segments := fun segment among => (segmentsGood segment among).2
        segmentIds := segmentIds
        segmentOwners := fun segment among => (segmentsGood segment among).1
        positions := positions
        items := fun item among => (itemsGood item among).2
        itemIds := itemIds
        itemOwners := fun item among => (itemsGood item among).1 }
  · intro readable
    have first := (parseJourneys_document engine data.journeys).mpr
      ⟨readable.journeyIds, readable.journeys⟩
    have second := (parseSegments_document engine (data.journeys.map Journey.id)
      data.segments).mpr ⟨⟨readable.segmentIds, readable.positions⟩, fun segment among =>
        ⟨readable.segmentOwners segment among, readable.segments segment among⟩⟩
    have third := (parseItems_document engine (data.journeys.map Journey.id)
      data.packingItems).mpr ⟨readable.itemIds, fun item among =>
        ⟨readable.itemOwners item among, readable.items item among⟩⟩
    simp only [first, second, third, Option.bind_some]

end TraxOs.Web
