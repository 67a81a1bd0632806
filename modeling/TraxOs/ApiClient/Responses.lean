import TraxOs.ApiClient.Exactness
import TraxOs.ApiClient.Texts
import TraxOs.Api.Repository

/-!
# Responses that the client reads

The JSON documents of journeys, segments and packing items as the server serialises its
response models, and the component schemas with which the generated client validates
them. The schemas were generated from the same models, so names, types and lengths
agree; what remains is the formats, which two calendars decide.

The client takes years of two digits for the twentieth century and finds that they do
not read back. A document is accepted exactly when no year in it is one of those.
-/

namespace TraxOs.ApiClient

open TraxOs.Theory TraxOs.Api Filter

section Schemas

/-- `{ format: "uuid", type: "string" }`. -/
def uuidSchema : Schema := { type := some .string, format := some (literal "uuid") }

/-- `{ format: "date-time", type: "string" }`. -/
def dateTimeSchema : Schema := { type := some .string, format := some (literal "date-time") }

/-- `{ anyOf: [{ format: "date", type: "string" }, { type: "null" }] }`. -/
def dateSchema : Schema :=
  { anyOf := some [{ type := some .string, format := some (literal "date") }, { type := some .null }] }

/-- `{ type: "string" }`, with an optional bound of the length. -/
def textSchema (maxLength : Option Nat) : Schema := { type := some .string, maxLength := maxLength }

/-- `{ anyOf: [{ maxLength: 200, type: "string" }, { type: "null" }] }`. -/
def nameSchema : Schema := { anyOf := some [textSchema (some 200), { type := some .null }] }

/-- `{ type: "integer" }`. -/
def integerSchema : Schema := { type := some .integer }

/-- `{ enum: [...], type: "string" }`. -/
def enumSchema (literals : List String) : Schema :=
  { type := some .string, enum := some (literals.map fun text => .text (literal text)) }

/-- A closed object of named properties. -/
def recordSchema (properties : List (String × Schema)) (required : List String) : Schema :=
  { type := some .object
    properties := some (properties.map fun property => (literal property.1, property.2))
    required := some (required.map literal)
    additionalProperties := some (.inl false) }

/-- `componentSchemas.JourneyResponse`. -/
def journeyResponseSchema : Schema :=
  recordSchema
    [("created_at", dateTimeSchema), ("end_date", dateSchema), ("id", uuidSchema),
      ("name", textSchema none), ("record_version", integerSchema), ("start_date", dateSchema),
      ("status", enumSchema ["planning", "active", "completed", "archived"]),
      ("updated_at", dateTimeSchema)]
    ["id", "name", "start_date", "end_date", "status", "record_version", "created_at",
      "updated_at"]

/-- `componentSchemas.SegmentResponse`. -/
def segmentResponseSchema : Schema :=
  recordSchema
    [("created_at", dateTimeSchema), ("destination_name", nameSchema), ("end_date", dateSchema),
      ("id", uuidSchema), ("journey_id", uuidSchema), ("kind", enumSchema ["stay", "move"]),
      ("notes", textSchema (some 5000)), ("origin_name", nameSchema), ("place_name", nameSchema),
      ("position", integerSchema), ("record_version", integerSchema), ("start_date", dateSchema),
      ("transport_mode", textSchema (some 100)), ("updated_at", dateTimeSchema)]
    ["kind", "id", "journey_id", "position", "record_version", "created_at", "updated_at"]

/-- `componentSchemas.PackingResponse`. -/
def packingResponseSchema : Schema :=
  recordSchema
    [("category", enumSchema ["documents", "clothing", "toiletries", "electronics", "other"]),
      ("created_at", dateTimeSchema), ("essential", { type := some .boolean }), ("id", uuidSchema),
      ("journey_id", uuidSchema),
      ("label", { type := some .string, minLength := some 1, maxLength := some 200 }),
      ("packed_quantity", integerSchema),
      ("quantity", { type := some .integer, minimum := some 1, maximum := some 99 }),
      ("record_version", integerSchema), ("updated_at", dateTimeSchema)]
    ["label", "category", "quantity", "id", "journey_id", "packed_quantity", "record_version",
      "created_at", "updated_at"]

/-- The part of `componentSchemas` that these responses use. -/
def componentSchemas : Components :=
  [(literal "JourneyResponse", journeyResponseSchema),
    (literal "PackingResponse", packingResponseSchema),
    (literal "SegmentResponse", segmentResponseSchema)]

/-- The schema of an operation's response: `{ $ref: "#/components/schemas/..." }`. -/
def responseSchema (name : String) : Schema :=
  { reference := some (referenceStem ++ literal name) }

end Schemas

section Documents

/-- A string of the server. -/
def textValue (text : List Char) : Value := .text (utf16 text)

/-- A number of the server. -/
def integerValue (number : Nat) : Value := .number (.finite number)

/-- An optional value, `null` when it is missing. -/
def optionalValue {α : Type} (serialise : α → Value) : Option α → Value
  | some present => serialise present
  | none => .null

/-- An object with the given members. -/
def document (members : List (String × Value)) : Value :=
  .object (members.map fun entry => (literal entry.1, entry.2))

/-- The kind as the wire spells it. -/
def segmentKindLiteral : SegmentKind → String
  | .stay => "stay"
  | .move => "move"

/-- The JSON document of a `JourneyResponse`. -/
def journeyDocument (response : JourneyResponse) : Value :=
  document
    [("id", textValue (uuidText response.id)),
      ("name", textValue response.name),
      ("start_date", optionalValue (fun date => textValue date.iso) response.startDate),
      ("end_date", optionalValue (fun date => textValue date.iso) response.endDate),
      ("status", .text (literal response.status.literal)),
      ("record_version", integerValue response.recordVersion),
      ("created_at", textValue (momentIso response.createdAt)),
      ("updated_at", textValue (momentIso response.updatedAt))]

/-- The JSON document of a `SegmentResponse`. -/
def segmentDocument (response : SegmentResponse) : Value :=
  document
    [("kind", .text (literal (segmentKindLiteral response.kind))),
      ("start_date", optionalValue (fun date => textValue date.iso) response.startDate),
      ("end_date", optionalValue (fun date => textValue date.iso) response.endDate),
      ("place_name", optionalValue textValue response.placeName),
      ("origin_name", optionalValue textValue response.originName),
      ("destination_name", optionalValue textValue response.destinationName),
      ("transport_mode", textValue response.transportMode),
      ("notes", textValue response.notes),
      ("id", textValue (uuidText response.id)),
      ("journey_id", textValue (uuidText response.journeyId)),
      ("position", integerValue response.position),
      ("record_version", integerValue response.recordVersion),
      ("created_at", textValue (momentIso response.createdAt)),
      ("updated_at", textValue (momentIso response.updatedAt))]

/-- The JSON document of a `PackingResponse`. -/
def packingDocument (response : PackingResponse) : Value :=
  document
    [("label", textValue response.label),
      ("category", .text (literal response.category.literal)),
      ("quantity", integerValue response.quantity),
      ("essential", .boolean response.essential),
      ("id", textValue (uuidText response.id)),
      ("journey_id", textValue (uuidText response.journeyId)),
      ("packed_quantity", integerValue response.packedQuantity),
      ("record_version", integerValue response.recordVersion),
      ("created_at", textValue (momentIso response.createdAt)),
      ("updated_at", textValue (momentIso response.updatedAt))]

end Documents

section Contract

/-- No node refers anywhere. -/
def Schema.Plain (schema : Schema) : Prop := ∀ node, schema.Node node → node.reference = none

theorem plain_of_parts (schema : Schema) (unreferenced : schema.reference = none)
    (parts : ∀ part ∈ schema.parts, part.Plain) : schema.Plain := by
  intro node inside
  rcases Relation.ReflTransGen.cases_head inside with rfl | ⟨part, contained, deeper⟩
  · exact unreferenced
  · exact parts part contained node deeper

theorem plain_leaf (schema : Schema) (unreferenced : schema.reference = none)
    (single : schema.parts = []) : schema.Plain :=
  plain_of_parts schema unreferenced (by simp [single])

theorem plain_date : dateSchema.Plain := by
  apply plain_of_parts _ rfl
  change ∀ part ∈ [_, _], _
  simp only [List.forall_mem_cons]
  exact ⟨plain_leaf _ rfl rfl, plain_leaf _ rfl rfl, by simp⟩

theorem plain_name : nameSchema.Plain := by
  apply plain_of_parts _ rfl
  change ∀ part ∈ [_, _], _
  simp only [List.forall_mem_cons]
  exact ⟨plain_leaf _ rfl rfl, plain_leaf _ rfl rfl, by simp⟩

/-- A record is plain when its properties are. -/
theorem plain_record (properties : List (String × Schema)) (required : List String)
    (plain : ∀ property ∈ properties, property.2.Plain) :
    (recordSchema properties required).Plain := by
  apply plain_of_parts _ rfl
  intro part contained
  simp only [recordSchema, Schema.parts, Option.getD_some, List.map_map, List.mem_append,
    List.mem_map, Function.comp_apply, Option.toList_none, Option.getD_none, List.not_mem_nil,
    or_false] at contained
  obtain ⟨property, member, rfl⟩ := contained
  exact plain property member

/-- The components do not refer to one another. -/
theorem componentSchemas_acyclic : Acyclic componentSchemas := by
  have plain : ∀ entry ∈ componentSchemas, entry.2.Plain := by
    simp only [componentSchemas, List.forall_mem_cons]
    refine ⟨?_, ?_, ?_, by simp⟩ <;> refine plain_record _ _ ?_ <;>
      simp only [List.forall_mem_cons, plain_date, plain_name, true_and]
    · refine ⟨?_, ?_, ?_, ?_, ?_, ?_, by simp⟩ <;> exact plain_leaf _ rfl rfl
    · refine ⟨?_, ?_, ?_, ?_, ?_, ?_, ?_, ?_, ?_, ?_, by simp⟩ <;> exact plain_leaf _ rfl rfl
    · refine ⟨?_, ?_, ?_, ?_, ?_, ?_, ?_, ?_, ?_, by simp⟩ <;> exact plain_leaf _ rfl rfl
  refine ⟨fun _ => 0, fun entry member node inside name named => ?_⟩
  rw [plain entry member node inside] at named
  cases named

end Contract

section Acceptance

variable (regExps : RegExps)

/-- The verdict of the generated client on a response. -/
abbrev Accepted (schema : Schema) (value : Value) : Prop :=
  Accepts componentSchemas regExps .response schema value

theorem accepted_iff (schema : Schema) (value : Value) :
    Accepted regExps schema value ↔
      NodeMet .prototypes componentSchemas regExps .response (Accepted regExps) schema value :=
  accepts_iff componentSchemas regExps .response componentSchemas_acyclic schema value

theorem accepted_text (maxLength : Option Nat) (text : List Char) :
    Accepted regExps (textSchema maxLength) (textValue text) ↔
      ∀ most ∈ maxLength, text.length ≤ most := by
  rw [accepted_iff]
  simp [NodeMet, LiteralsMet, TypeMet, ScalarSatisfies, textSchema, textValue, codePoints_utf16]

theorem accepted_format (format : Text) (text : List Char) :
    Accepted regExps { type := some .string, format := some format } (textValue text) ↔
      validFormat format (utf16 text) = true := by
  rw [accepted_iff]
  simp [NodeMet, LiteralsMet, TypeMet, ScalarSatisfies, textValue]

/-- Every identifier is accepted. -/
theorem accepted_uuid (id : Uuid) : Accepted regExps uuidSchema (textValue (uuidText id)) := by
  rw [uuidSchema, accepted_format, validFormat, if_pos rfl]
  exact validUuid_text id

/-- A timestamp is accepted from the year 100 on. -/
theorem accepted_moment (moment : Timestamp) (representable : Representable moment) :
    Accepted regExps dateTimeSchema (textValue (momentIso moment)) ↔ 100 ≤ momentYear moment := by
  have other : literal "date-time" ≠ literal "uuid" := by decide
  have other' : literal "date-time" ≠ literal "date" := by decide
  rw [dateTimeSchema, accepted_format, validFormat, if_neg other, if_neg other', if_pos rfl]
  exact validDateTime_iso moment representable

/-- An optional value is accepted when it is missing or accepted. -/
theorem accepted_optional {α : Type} (inner : Schema) (serialise : α → Value) (value : Option α)
    (present : ∀ element, serialise element ≠ .null) :
    Accepted regExps { anyOf := some [inner, { type := some .null }] }
        (optionalValue serialise value) ↔
      ∀ element ∈ value, Accepted regExps inner (serialise element) := by
  have null : ∀ document, Accepted regExps { type := some .null } document ↔ document = .null := by
    intro document
    rw [accepted_iff]
    cases document <;> simp [NodeMet, LiteralsMet, TypeMet, ScalarSatisfies]
  rw [accepted_iff]
  simp only [NodeMet, List.mem_cons, List.not_mem_nil, or_false, exists_eq_or_imp, exists_eq_left,
    null]
  cases value with
  | none => simp [optionalValue]
  | some element => simp [optionalValue, present element]

/-- A date that is present is accepted from the year 100 on. -/
theorem accepted_date (date : Option Date) :
    Accepted regExps dateSchema (optionalValue (fun date => textValue date.iso) date) ↔
      ∀ present ∈ date, 100 ≤ present.year := by
  have other : literal "date" ≠ literal "uuid" := by decide
  rw [dateSchema, accepted_optional regExps _ _ date (by simp [textValue])]
  refine forall₂_congr fun present _ => ?_
  rw [accepted_format, validFormat, if_neg other, if_pos rfl]
  exact validDate_iso present

/-- A name of at most 200 characters is accepted. -/
theorem accepted_name (name : Option (List Char)) (fits : nameFits name = true) :
    Accepted regExps nameSchema (optionalValue textValue name) := by
  rw [nameSchema, accepted_optional regExps _ _ name (by simp [textValue])]
  intro text present
  rw [accepted_text]
  rintro most ⟨⟩
  have short := (Option.all_eq_true _ _).mp fits text present
  simpa using short

/-- Every safe integer is accepted. -/
theorem accepted_integer (number : Nat) (safe : number ≤ maxSafeInteger) :
    Accepted regExps integerSchema (integerValue number) := by
  rw [accepted_iff]
  refine ⟨by simp [LiteralsMet, integerSchema], ?_⟩
  exact ⟨number, by simp [Number.rational], by simpa using safe, by simp [InRange, integerSchema]⟩

/-- A closed object is accepted when its members are, each by the schema declared for it. -/
theorem accepted_record (properties : List (String × Schema)) (required : List String)
    (described : List (String × Schema × Value))
    (present : ∀ name ∈ required, name ∈ described.map Prod.fst)
    (declared : ∀ entry ∈ described,
      (recordSchema properties required).declared (literal entry.1) = some entry.2.1) :
    Accepted regExps (recordSchema properties required)
        (document (described.map fun entry => (entry.1, entry.2.2))) ↔
      ∀ entry ∈ described, Accepted regExps entry.2.1 entry.2.2 := by
  have members : ∀ member ∈ (described.map fun entry => (entry.1, entry.2.2)).map
      (fun entry : String × Value => (literal entry.1, entry.2)),
      ∃ entry ∈ described, member = (literal entry.1, entry.2.2) := by
    intro member inside
    simp only [List.map_map, List.mem_map, Function.comp_apply] at inside
    obtain ⟨entry, among, rfl⟩ := inside
    exact ⟨entry, among, rfl⟩
  rw [accepted_iff]
  constructor
  · rintro ⟨-, -, entries⟩ entry among
    refine (entries (literal entry.1, entry.2.2) ?_).1 entry.2.1 (declared entry among)
    simp only [List.map_map, List.mem_map, Function.comp_apply]
    exact ⟨entry, among, rfl⟩
  · intro entries
    refine ⟨⟨by simp [recordSchema], by simp [recordSchema]⟩, ?_, ?_⟩
    · intro name member
      simp only [recordSchema, Option.getD_some, List.mem_map] at member
      obtain ⟨required, among, rfl⟩ := member
      obtain ⟨entry, inside, rfl⟩ := List.mem_map.mp (present required among)
      refine .inl ?_
      simp only [names, List.map_map, List.mem_map, Function.comp_apply]
      exact ⟨entry, inside, rfl⟩
    · intro member inside
      obtain ⟨entry, among, rfl⟩ := members member inside
      refine ⟨fun property found => ?_, fun undeclared => ?_⟩
      · have same := Option.some.inj ((declared entry among).symm.trans found)
        exact same ▸ entries entry among
      · rw [declared entry among] at undeclared
        cases undeclared

/-- A reference is accepted with its component. -/
theorem accepted_reference (name : String) (target : Schema) (value : Value)
    (found : (responseSchema name).target componentSchemas = some target) :
    Accepted regExps (responseSchema name) value ↔ Accepted regExps target value := by
  rw [accepted_iff]
  change (∃ other, _ = some other ∧ _) ↔ _
  rw [found]
  simp

/-- Every literal of an enumeration is accepted. -/
theorem accepted_enum (literals : List String) (chosen : String) (member : chosen ∈ literals) :
    Accepted regExps (enumSchema literals) (.text (literal chosen)) := by
  rw [accepted_iff]
  refine ⟨⟨by simp [enumSchema], ?_⟩, by simp [TypeMet, ScalarSatisfies, enumSchema]⟩
  rintro candidates ⟨⟩
  exact ⟨.text (literal chosen), List.mem_map.mpr ⟨chosen, member, rfl⟩, by
    simp [Reading.prototypes, sameValue]⟩

theorem accepted_boolean (value : Bool) : Accepted regExps { type := some .boolean } (.boolean value) := by
  rw [accepted_iff]
  simp [NodeMet, LiteralsMet, TypeMet, ScalarSatisfies]

/-- A label within the bounds of its model. -/
theorem accepted_label (label : List Char) (bounds : 1 ≤ label.length ∧ label.length ≤ 200) :
    Accepted regExps { type := some .string, minLength := some 1, maxLength := some 200 }
      (textValue label) := by
  rw [accepted_iff]
  simp [NodeMet, LiteralsMet, TypeMet, ScalarSatisfies, textValue, codePoints_utf16]
  omega

/-- A quantity within the bounds of its model. -/
theorem accepted_quantity (quantity : Nat) (bounds : 1 ≤ quantity ∧ quantity ≤ 99) :
    Accepted regExps { type := some .integer, minimum := some 1, maximum := some 99 }
      (integerValue quantity) := by
  rw [accepted_iff]
  refine ⟨by simp [LiteralsMet], quantity, by simp [Number.rational], ?_, ?_⟩
  · simp only [Int.natAbs_natCast, maxSafeInteger]
    omega
  · simp only [InRange, Option.mem_def, Option.some.injEq, forall_eq', Int.cast_natCast]
    exact ⟨by exact_mod_cast bounds.1, by exact_mod_cast bounds.2⟩

end Acceptance

/-- No date of two digits' year. -/
def LateDate (date : Option Date) : Prop := ∀ present ∈ date, 100 ≤ present.year

section Rows

variable (regExps : RegExps)

/-- The members of a journey document, each with the schema that is declared for it. -/
def journeyMembers (response : JourneyResponse) : List (String × Schema × Value) :=
  [("id", uuidSchema, textValue (uuidText response.id)),
    ("name", textSchema none, textValue response.name),
    ("start_date", dateSchema, optionalValue (fun date => textValue date.iso) response.startDate),
    ("end_date", dateSchema, optionalValue (fun date => textValue date.iso) response.endDate),
    ("status", enumSchema ["planning", "active", "completed", "archived"],
      .text (literal response.status.literal)),
    ("record_version", integerSchema, integerValue response.recordVersion),
    ("created_at", dateTimeSchema, textValue (momentIso response.createdAt)),
    ("updated_at", dateTimeSchema, textValue (momentIso response.updatedAt))]

/-- The document of a journey response. -/
theorem accepted_journey (response : JourneyResponse)
    (safe : response.recordVersion ≤ maxSafeInteger)
    (created : Representable response.createdAt) (updated : Representable response.updatedAt) :
    Accepted regExps (responseSchema "JourneyResponse") (journeyDocument response) ↔
      LateDate response.startDate ∧ LateDate response.endDate ∧
        100 ≤ momentYear response.createdAt ∧ 100 ≤ momentYear response.updatedAt := by
  have status : response.status.literal ∈ ["planning", "active", "completed", "archived"] := by
    cases response.status <;> decide
  have shape : journeyDocument response =
    document ((journeyMembers response).map fun entry => (entry.1, entry.2.2)) := rfl
  rw [accepted_reference regExps "JourneyResponse" journeyResponseSchema _ rfl, shape,
    journeyResponseSchema, accepted_record regExps]
  · simp only [journeyMembers, List.forall_mem_cons, accepted_uuid, accepted_text, accepted_date,
      accepted_enum regExps _ _ status, accepted_integer regExps _ safe,
      accepted_moment regExps _ created, accepted_moment regExps _ updated, true_and, LateDate]
    simp
  · simp [journeyMembers]
  · simp only [journeyMembers, List.forall_mem_cons]
    exact ⟨rfl, rfl, rfl, rfl, rfl, rfl, rfl, rfl, by simp⟩

/-- The members of a segment document, each with the schema that is declared for it. -/
def segmentMembers (response : SegmentResponse) : List (String × Schema × Value) :=
  [("kind", enumSchema ["stay", "move"], .text (literal (segmentKindLiteral response.kind))),
    ("start_date", dateSchema, optionalValue (fun date => textValue date.iso) response.startDate),
    ("end_date", dateSchema, optionalValue (fun date => textValue date.iso) response.endDate),
    ("place_name", nameSchema, optionalValue textValue response.placeName),
    ("origin_name", nameSchema, optionalValue textValue response.originName),
    ("destination_name", nameSchema, optionalValue textValue response.destinationName),
    ("transport_mode", textSchema (some 100), textValue response.transportMode),
    ("notes", textSchema (some 5000), textValue response.notes),
    ("id", uuidSchema, textValue (uuidText response.id)),
    ("journey_id", uuidSchema, textValue (uuidText response.journeyId)),
    ("position", integerSchema, integerValue response.position),
    ("record_version", integerSchema, integerValue response.recordVersion),
    ("created_at", dateTimeSchema, textValue (momentIso response.createdAt)),
    ("updated_at", dateTimeSchema, textValue (momentIso response.updatedAt))]

/-- The document of a segment response. -/
theorem accepted_segment (response : SegmentResponse) (placed : response.position ≤ maxSafeInteger)
    (safe : response.recordVersion ≤ maxSafeInteger)
    (created : Representable response.createdAt) (updated : Representable response.updatedAt) :
    Accepted regExps (responseSchema "SegmentResponse") (segmentDocument response) ↔
      LateDate response.startDate ∧ LateDate response.endDate ∧
        100 ≤ momentYear response.createdAt ∧ 100 ≤ momentYear response.updatedAt := by
  have kind : segmentKindLiteral response.kind ∈ ["stay", "move"] := by
    cases response.kind <;> decide
  have shape : segmentDocument response =
    document ((segmentMembers response).map fun entry => (entry.1, entry.2.2)) := rfl
  rw [accepted_reference regExps "SegmentResponse" segmentResponseSchema _ rfl, shape,
    segmentResponseSchema, accepted_record regExps]
  · simp only [segmentMembers, List.forall_mem_cons, accepted_uuid, accepted_text, accepted_date,
      accepted_enum regExps _ _ kind, accepted_name regExps _ response.namesFit.1,
      accepted_name regExps _ response.namesFit.2.1, accepted_name regExps _ response.namesFit.2.2,
      accepted_integer regExps _ placed, accepted_integer regExps _ safe,
      accepted_moment regExps _ created, accepted_moment regExps _ updated, true_and, LateDate]
    simp [response.transportLength, response.notesLength]
  · simp [segmentMembers]
  · simp only [segmentMembers, List.forall_mem_cons]
    exact ⟨rfl, rfl, rfl, rfl, rfl, rfl, rfl, rfl, rfl, rfl, rfl, rfl, rfl, rfl, by simp⟩

/-- The members of a packing document, each with the schema that is declared for it. -/
def packingMembers (response : PackingResponse) : List (String × Schema × Value) :=
  [("label", { type := some .string, minLength := some 1, maxLength := some 200 },
      textValue response.label),
    ("category", enumSchema ["documents", "clothing", "toiletries", "electronics", "other"],
      .text (literal response.category.literal)),
    ("quantity", { type := some .integer, minimum := some 1, maximum := some 99 },
      integerValue response.quantity),
    ("essential", { type := some .boolean }, .boolean response.essential),
    ("id", uuidSchema, textValue (uuidText response.id)),
    ("journey_id", uuidSchema, textValue (uuidText response.journeyId)),
    ("packed_quantity", integerSchema, integerValue response.packedQuantity),
    ("record_version", integerSchema, integerValue response.recordVersion),
    ("created_at", dateTimeSchema, textValue (momentIso response.createdAt)),
    ("updated_at", dateTimeSchema, textValue (momentIso response.updatedAt))]

/-- The document of a packing response. -/
theorem accepted_packing (response : PackingResponse)
    (packed : response.packedQuantity ≤ maxSafeInteger)
    (safe : response.recordVersion ≤ maxSafeInteger)
    (created : Representable response.createdAt) (updated : Representable response.updatedAt) :
    Accepted regExps (responseSchema "PackingResponse") (packingDocument response) ↔
      100 ≤ momentYear response.createdAt ∧ 100 ≤ momentYear response.updatedAt := by
  have category : response.category.literal ∈
      ["documents", "clothing", "toiletries", "electronics", "other"] := by
    cases response.category <;> decide
  have shape : packingDocument response =
    document ((packingMembers response).map fun entry => (entry.1, entry.2.2)) := rfl
  rw [accepted_reference regExps "PackingResponse" packingResponseSchema _ rfl, shape,
    packingResponseSchema, accepted_record regExps]
  · simp only [packingMembers, List.forall_mem_cons, accepted_uuid,
      accepted_label regExps _ response.labelLength, accepted_enum regExps _ _ category,
      accepted_quantity regExps _ response.quantityBounds, accepted_boolean,
      accepted_integer regExps _ packed, accepted_integer regExps _ safe,
      accepted_moment regExps _ created, accepted_moment regExps _ updated, true_and]
    simp
  · simp [packingMembers]
  · simp only [packingMembers, List.forall_mem_cons]
    exact ⟨rfl, rfl, rfl, rfl, rfl, rfl, rfl, rfl, rfl, rfl, by simp⟩

end Rows

/-- The client accepts the document of every stored row, and every real date, exactly when
no year in it is below 100. -/
theorem responses_accepted (regExps : RegExps) :
    (∀ (id : Uuid) (row : StoredJourney), row.1.recordVersion ≤ maxSafeInteger →
      Representable row.1.createdAt → Representable row.1.updatedAt →
      (Accepts componentSchemas regExps .response (responseSchema "JourneyResponse")
          (journeyDocument (journeyResponse id row.1)) ↔
        LateDate row.1.startDate ∧ LateDate row.1.endDate ∧ 100 ≤ momentYear row.1.createdAt ∧
          100 ≤ momentYear row.1.updatedAt)) ∧
    (∀ (id : Uuid) (row : StoredSegment) (response : SegmentResponse),
      segmentResponse id row.1 = some response → row.1.recordVersion ≤ maxSafeInteger →
      Representable row.1.createdAt → Representable row.1.updatedAt →
      (Accepts componentSchemas regExps .response (responseSchema "SegmentResponse")
          (segmentDocument response) ↔
        LateDate row.1.startDate ∧ LateDate row.1.endDate ∧ 100 ≤ momentYear row.1.createdAt ∧
          100 ≤ momentYear row.1.updatedAt)) ∧
    (∀ (id : Uuid) (row : StoredPackingItem) (response : PackingResponse),
      packingResponse id row.1 = some response → row.1.recordVersion ≤ maxSafeInteger →
      Representable row.1.createdAt → Representable row.1.updatedAt →
      (Accepts componentSchemas regExps .response (responseSchema "PackingResponse")
          (packingDocument response) ↔
        100 ≤ momentYear row.1.createdAt ∧ 100 ≤ momentYear row.1.updatedAt)) ∧
    ∀ text : Text, (validDate text = true ↔
        ∃ year month day, Denotes text year month day ∧ 1 ≤ year) ↔
      ¬ ∃ year month day, Denotes text year month day ∧ 1 ≤ year ∧ year ≤ 99 := by
  refine ⟨?_, ?_, ?_, ?_⟩
  · intro id row safe created updated
    exact accepted_journey regExps (journeyResponse id row.1) safe created updated
  · intro id row response shown safe created updated
    unfold segmentResponse at shown
    split at shown
    · obtain rfl := Option.some.inj shown
      have placed : row.1.position ≤ maxSafeInteger := row.2.1.trans (by decide)
      exact accepted_segment regExps _ placed safe created updated
    · cases shown
  · intro id row response shown safe created updated
    unfold packingResponse at shown
    split at shown
    · obtain rfl := Option.some.inj shown
      have packed : row.1.packedQuantity ≤ maxSafeInteger :=
        (row.2.2.2.1.trans row.2.2.1.2).trans (by decide)
      exact accepted_packing regExps _ packed safe created updated
    · cases shown
  · intro text
    rw [validDate_iff]
    constructor
    · rintro same ⟨year, month, day, denotes, first, early⟩
      obtain ⟨other, month', day', found, late⟩ := same.mpr ⟨year, month, day, denotes, first⟩
      have equal := denotes.unique _ _ _ _ _ _ _ found
      omega
    · intro modern
      constructor
      · rintro ⟨year, month, day, denotes, late⟩
        exact ⟨year, month, day, denotes, by omega⟩
      · rintro ⟨year, month, day, denotes, first⟩
        refine ⟨year, month, day, denotes, ?_⟩
        by_contra early
        exact modern ⟨year, month, day, denotes, first, by omega⟩

namespace Sample

/-- A moment of the year 2024. -/
def moment : Timestamp := 739000 * 86400000000 + 1

/-- A journey that starts on a given date. -/
def journey (startDate : Date) : StoredJourney :=
  ⟨{ workspaceId := 0
     name := "A".toList
     startDate := some startDate
     endDate := none
     status := .planning
     recordVersion := 1
     createdAt := moment
     updatedAt := moment }, by
    have name : storable 200 "A".toList := by decide
    have version : versionValid 1 := by decide
    exact ⟨name, trivial, version⟩⟩

/-- The first day of the year 50. -/
def ancient : Date := ⟨50, 1, 1, by decide⟩

/-- A leap day. -/
def recent : Date := ⟨2024, 2, 29, by decide⟩

end Sample

/-- A stored journey whose start in the year 50 the client refuses, because it refuses the
real date itself. -/
theorem early_year_refused :
    ¬ Accepts componentSchemas Sample.regExps .response (responseSchema "JourneyResponse")
        (journeyDocument (journeyResponse 0 (Sample.journey Sample.ancient).1)) ∧
      Denotes (utf16 Sample.ancient.iso) 50 1 1 ∧ validDate (utf16 Sample.ancient.iso) = false := by
  have verdict := accepted_journey Sample.regExps
    (journeyResponse 0 (Sample.journey Sample.ancient).1) (by decide) (by decide) (by decide)
  refine ⟨fun accepted => ?_, date_denotes Sample.ancient, ?_⟩
  · have late := (verdict.mp accepted).1 Sample.ancient rfl
    exact absurd late (by decide)
  · rw [Bool.eq_false_iff, Ne, validDate_iso]
    decide

/-- A stored journey that starts on a leap day. -/
theorem responses_accepted_leap_day :
    Accepts componentSchemas Sample.regExps .response (responseSchema "JourneyResponse")
      (journeyDocument (journeyResponse 0 (Sample.journey Sample.recent).1)) := by
  refine ((responses_accepted Sample.regExps).1 0 (Sample.journey Sample.recent) (by decide)
    (by decide) (by decide)).mpr ⟨?_, ?_, by decide, by decide⟩
  · rintro present ⟨⟩
    decide
  · rintro present ⟨⟩

end TraxOs.ApiClient
