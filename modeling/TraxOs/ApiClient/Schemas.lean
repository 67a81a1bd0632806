import TraxOs.ApiClient.Formats

/-!
# Contract schemas

A schema node as the generator leaves it in the client: one field for each keyword
that the generator admits and the validator reads, absent when the keyword is. The
generator's own type checks are the types of the fields; its other checks are
`validateSchema`. Annotations, which only describe, are left out.

`Satisfies` is the meaning of a schema: JSON Schema over the own members that a JSON
text contains. It says nothing about how a validator proceeds.
-/

namespace TraxOs.ApiClient

/-- `SCHEMA_TYPES`. -/
inductive SchemaType where
  | array
  | boolean
  | integer
  | null
  | number
  | object
  | string
deriving DecidableEq

/-- A schema node. -/
structure Schema where
  /-- `$ref` -/
  reference : Option Text := none
  anyOf : Option (List Schema) := none
  const : Option Value := none
  enum : Option (List Value) := none
  type : Option SchemaType := none
  minimum : Option ℚ := none
  maximum : Option ℚ := none
  minLength : Option Nat := none
  maxLength : Option Nat := none
  pattern : Option Text := none
  format : Option Text := none
  items : Option Schema := none
  properties : Option (List (Text × Schema)) := none
  required : Option (List Text) := none
  additionalProperties : Option (Bool ⊕ Schema) := none

/-- `componentSchemas`. -/
abbrev Components := List (Text × Schema)

/-- What the host's regular expressions decide. -/
structure RegExps where
  /-- `new RegExp(pattern)` does not throw. -/
  compiles : Text → Bool
  /-- `new RegExp(pattern).test(value)`. -/
  test : Text → Text → Bool

/-- `"#/components/schemas/"`. -/
def referenceStem : Text := literal "#/components/schemas/"

/-- The component that a `$ref` names. -/
def componentName (reference : Text) : Option Text :=
  if referenceStem.isPrefixOf reference then some (reference.drop referenceStem.length) else none

/-- The schema that a node refers to. -/
def Schema.target (components : Components) (schema : Schema) : Option Schema :=
  (schema.reference.bind componentName).bind fun name => components.lookup name

/-- The schemas that a node contains. -/
def Schema.parts (schema : Schema) : List Schema :=
  (schema.properties.getD []).map Prod.snd ++ schema.items.toList ++ schema.anyOf.getD [] ++
    (match schema.additionalProperties with
      | some (.inr additional) => [additional]
      | _ => [])

/-- The declared schema of a property. -/
def Schema.declared (schema : Schema) (name : Text) : Option Schema :=
  (schema.properties.getD []).lookup name

/-- The schema of undeclared properties, when it is one. -/
def Schema.additional (schema : Schema) : Option Schema :=
  match schema.additionalProperties with
  | some (.inr additional) => some additional
  | _ => none

/-- `additionalProperties: false`. -/
def Schema.closed (schema : Schema) : Bool :=
  match schema.additionalProperties with
  | some (.inl false) => true
  | _ => false

theorem sizeOf_of_mem_parts (schema part : Schema) (member : part ∈ schema.parts) :
    sizeOf part < sizeOf schema := by
  obtain ⟨_, anyOf, _, _, _, _, _, _, _, _, _, items, properties, _, additionalProperties⟩ := schema
  simp only [Schema.parts, List.mem_append, List.mem_map] at member
  rcases member with ((⟨entry, declared, rfl⟩ | item) | candidate) | additional
  · cases properties with
    | none => cases declared
    | some properties =>
      have smaller : sizeOf entry < sizeOf properties := List.sizeOf_lt_of_mem declared
      obtain ⟨name, part⟩ := entry
      simp only [Prod.mk.sizeOf_spec] at smaller
      simp only [Schema.mk.sizeOf_spec, Option.some.sizeOf_spec]
      omega
  · cases items with
    | none => cases item
    | some items =>
      obtain rfl : part = items := by simpa using item
      simp only [Schema.mk.sizeOf_spec, Option.some.sizeOf_spec]
      omega
  · cases anyOf with
    | none => cases candidate
    | some candidates =>
      have smaller : sizeOf part < sizeOf candidates := List.sizeOf_lt_of_mem candidate
      simp only [Schema.mk.sizeOf_spec, Option.some.sizeOf_spec]
      omega
  · split at additional
    · obtain rfl := List.mem_singleton.mp additional
      simp only [Schema.mk.sizeOf_spec, Option.some.sizeOf_spec, Sum.inr.sizeOf_spec]
      omega
    · cases additional

/-- Induction over the nodes of a schema. -/
theorem Schema.parts_induction (property : Schema → Prop)
    (step : ∀ schema, (∀ part ∈ schema.parts, property part) → property schema)
    (schema : Schema) : property schema :=
  step schema fun part member => parts_induction property step part
termination_by sizeOf schema
decreasing_by exact sizeOf_of_mem_parts schema part member

/-- `SCHEMA_FORMATS`. -/
def schemaFormats : List Text := ["date", "date-time", "email", "uuid"].map literal

/-- Beside `$ref` only annotations may stand. -/
def Schema.referenceOnly (schema : Schema) : Bool :=
  schema.anyOf.isNone && schema.const.isNone && schema.enum.isNone && schema.type.isNone &&
    schema.minimum.isNone && schema.maximum.isNone && schema.minLength.isNone &&
    schema.maxLength.isNone && schema.pattern.isNone && schema.format.isNone &&
    schema.items.isNone && schema.properties.isNone && schema.required.isNone &&
    schema.additionalProperties.isNone

/-- Two optional bounds are not inverted. -/
def boundsOrdered {α : Type} [LE α] [DecidableLE α] : Option α → Option α → Bool
  | some low, some high => low ≤ high
  | _, _ => true

/-- The checks of `validateSchema` on one node. -/
def validNode (componentNames : List Text) (regExps : RegExps) (schema : Schema) : Bool :=
  (schema.reference.all fun reference =>
      (componentName reference).any componentNames.contains && schema.referenceOnly) &&
    schema.format.all schemaFormats.contains &&
    schema.pattern.all regExps.compiles &&
    schema.minLength.all (· ≤ maxSafeInteger) && schema.maxLength.all (· ≤ maxSafeInteger) &&
    boundsOrdered schema.minLength schema.maxLength &&
    boundsOrdered schema.minimum schema.maximum &&
    schema.required.all (fun required => decide required.Nodup) &&
    schema.enum.all (fun candidates => !candidates.isEmpty) &&
    schema.anyOf.all fun candidates => !candidates.isEmpty

/-- `validateSchema`: it returns without failing. -/
def validateSchema (componentNames : List Text) (regExps : RegExps) (schema : Schema) : Bool :=
  validNode componentNames regExps schema &&
    schema.parts.attach.all fun part => validateSchema componentNames regExps part.1
termination_by sizeOf schema
decreasing_by exact sizeOf_of_mem_parts schema part.1 part.2

theorem validateSchema_iff (componentNames : List Text) (regExps : RegExps) (schema : Schema) :
    validateSchema componentNames regExps schema = true ↔
      validNode componentNames regExps schema = true ∧
        ∀ part ∈ schema.parts, validateSchema componentNames regExps part = true := by
  rw [validateSchema, Bool.and_eq_true, List.all_eq_true]
  constructor
  · rintro ⟨node, parts⟩
    exact ⟨node, fun part member => parts ⟨part, member⟩ (List.mem_attach _ _)⟩
  · rintro ⟨node, parts⟩
    exact ⟨node, fun part _ => parts part.1 part.2⟩

/-- The validation modes. -/
inductive ValidationMode where
  | request
  | response
deriving DecidableEq

/-- A number lies within the bounds of a node. -/
def InRange (schema : Schema) (value : ℚ) : Prop :=
  (∀ minimum ∈ schema.minimum, minimum ≤ value) ∧ ∀ maximum ∈ schema.maximum, value ≤ maximum

/-- The meaning of the types that have no parts. -/
def ScalarSatisfies (regExps : RegExps) (schema : Schema) : SchemaType → Value → Prop
  | .null, .null => True
  | .boolean, .boolean _ => True
  | .integer, .number number =>
    ∃ value : Int, number.rational = some (value : ℚ) ∧ value.natAbs ≤ maxSafeInteger ∧
      InRange schema value
  | .number, .number number => ∃ value, number.rational = some value ∧ InRange schema value
  | .string, .text value =>
    (∀ least ∈ schema.minLength, least ≤ codePoints value) ∧
      (∀ most ∈ schema.maxLength, codePoints value ≤ most) ∧
      (∀ pattern ∈ schema.pattern, regExps.test pattern value = true) ∧
      ∀ format ∈ schema.format, validFormat format value = true
  | _, _ => False

/-- The meaning of `const` and `enum`. -/
def LiteralsSatisfied (schema : Schema) (value : Value) : Prop :=
  (∀ expected ∈ schema.const, value.equal expected = true) ∧
    ∀ candidates ∈ schema.enum, ∃ candidate ∈ candidates, value.equal candidate = true

/-- A value satisfies a schema, in one of the two modes. Undeclared members are
excluded in requests only, and by `additionalProperties: false` only. -/
inductive Satisfies (components : Components) (regExps : RegExps) (mode : ValidationMode) :
    Schema → Value → Prop where
  | reference (schema target : Schema) (value : Value)
      (refers : schema.target components = some target)
      (satisfied : Satisfies components regExps mode target value) :
      Satisfies components regExps mode schema value
  | anyOf (schema : Schema) (candidates : List Schema) (candidate : Schema) (value : Value)
      (alternatives : schema.anyOf = some candidates) (member : candidate ∈ candidates)
      (satisfied : Satisfies components regExps mode candidate value) :
      Satisfies components regExps mode schema value
  | scalar (schema : Schema) (type : SchemaType) (value : Value)
      (typed : schema.type = some type) (literals : LiteralsSatisfied schema value)
      (satisfied : ScalarSatisfies regExps schema type value) :
      Satisfies components regExps mode schema value
  | array (schema item : Schema) (items : List Value)
      (typed : schema.type = some .array) (literals : LiteralsSatisfied schema (.array items))
      (described : schema.items = some item)
      (satisfied : ∀ value ∈ items, Satisfies components regExps mode item value) :
      Satisfies components regExps mode schema (.array items)
  | object (schema : Schema) (members : List (Text × Value))
      (typed : schema.type = some .object) (literals : LiteralsSatisfied schema (.object members))
      (present : ∀ name ∈ schema.required.getD [], name ∈ names members)
      (declared : ∀ entry ∈ members, ∀ property, schema.declared entry.1 = some property →
        Satisfies components regExps mode property entry.2)
      (additional : ∀ entry ∈ members, schema.declared entry.1 = none →
        ∀ additional, schema.additional = some additional →
          Satisfies components regExps mode additional entry.2)
      (closed : schema.closed = true → mode = .request →
        ∀ entry ∈ members, schema.declared entry.1 ≠ none) :
      Satisfies components regExps mode schema (.object members)

end TraxOs.ApiClient
