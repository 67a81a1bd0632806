import TraxOs.ApiClient.Schemas
import TraxOs.Theory.Json

/-!
# The runtime validator

`assertValid` as the client runs it. A check passes, fails at a pointer, or does not
return because the calls it makes are not yet exhausted by the depth that it is given.
The lookups of the source go through the prototype chain: `key in value` finds inherited
names, and so does `properties[key]`. What the latter finds there is a function or
`Object.prototype` itself, which validates nothing.
-/

namespace TraxOs.ApiClient

open TraxOs.Theory

/-- The course of a validation: `none` when the depth is exceeded, an error with the
pointer of a `SchemaValidationError`, or a return. -/
abbrev Check := Option (Except Text Unit)

namespace Check

/-- The check returns. -/
def pass : Check := some (.ok ())

/-- `throw new SchemaValidationError(pointer)`. -/
def fail (pointer : Text) : Check := some (.error pointer)

/-- Fail unless a condition holds. -/
def demand (condition : Bool) (pointer : Text) : Check :=
  if condition then pass else fail pointer

/-- One check and, when it returns, the next. -/
def also (first second : Check) : Check :=
  match first with
  | some (.ok ()) => second
  | stopped => stopped

/-- A check of each element in turn. -/
def each {α : Type} (check : α → Check) : List α → Check
  | [] => pass
  | element :: rest => (check element).also (each check rest)

/-- The first check that returns, after those that fail. -/
def firstPassing {α : Type} (check : α → Check) (pointer : Text) : List α → Check
  | [] => fail pointer
  | element :: rest =>
    match check element with
    | some (.error _) => firstPassing check pointer rest
    | settled => settled

end Check

open Check

/-- `key in value` for an own or an inherited name. -/
def present (name : Text) (members : List (Text × Value)) : Bool :=
  (names members).contains name || inheritedNames.contains name

/-- `${pointer}/${segment}`. -/
def below (pointer segment : Text) : Text := pointer ++ 47 :: segment

/-- `validateNumber`. -/
def validateNumber (schema : Schema) (value : ℚ) (pointer : Text) : Check :=
  (demand (!schema.minimum.any (value < ·)) pointer).also
    (demand (!schema.maximum.any (· < value)) pointer)

/-- `validateString`. -/
def validateString (regExps : RegExps) (schema : Schema) (value : Value) (pointer : Text) : Check :=
  match value with
  | .text value =>
    (demand (!schema.minLength.any (codePoints value < ·)) pointer).also
      ((demand (!schema.maxLength.any (· < codePoints value)) pointer).also
        ((demand (schema.pattern.all fun pattern => regExps.test pattern value) pointer).also
          (demand (schema.format.all fun format => validFormat format value) pointer)))
  | _ => fail pointer

/-- One entry of an object: declared, inherited, or undeclared. -/
def validateEntry (mode : ValidationMode) (validate : Schema → Value → Text → Check)
    (schema : Schema) (pointer : Text) (entry : Text × Value) : Check :=
  match schema.declared entry.1 with
  | some propertySchema => validate propertySchema entry.2 (below pointer entry.1)
  | none =>
    -- `properties[key]` is truthy and no usable schema
    if inheritedNames.contains entry.1 then fail (below pointer entry.1)
    else match schema.additionalProperties with
      | some (.inr additional) => validate additional entry.2 (below pointer entry.1)
      | some (.inl false) =>
        if mode = .request then fail (below pointer entry.1) else pass
      | _ => pass

/-- `validateObject`. -/
def validateObject (mode : ValidationMode) (validate : Schema → Value → Text → Check)
    (schema : Schema) (value : Value) (pointer : Text) : Check :=
  match value with
  | .object members =>
    (each (fun name => demand (present name members) (below pointer name))
        (schema.required.getD [])).also
      (each (validateEntry mode validate schema pointer) members)
  | _ => fail pointer

/-- The `switch` on the type. -/
def validateType (regExps : RegExps) (mode : ValidationMode)
    (validate : Schema → Value → Text → Check) (schema : Schema) (value : Value)
    (pointer : Text) : Check :=
  match schema.type with
  | some .null => match value with
    | .null => pass
    | _ => fail pointer
  | some .boolean => match value with
    | .boolean _ => pass
    | _ => fail pointer
  | some .integer => match value with
    | .number number =>
      (demand number.isSafeInteger pointer).also
        (validateNumber schema (number.rational.getD 0) pointer)
    | _ => fail pointer
  | some .number => match value with
    | .number number =>
      (demand number.isFinite pointer).also
        (validateNumber schema (number.rational.getD 0) pointer)
    | _ => fail pointer
  | some .string => validateString regExps schema value pointer
  | some .array => match value, schema.items with
    | .array items, some item =>
      each (fun entry => validate item entry.1
        (below pointer (utf16 (Json.decimal entry.2)))) items.zipIdx
    | _, _ => fail pointer
  | some .object => validateObject mode validate schema value pointer
  | none => fail pointer

/-- `validate`, to a depth of nested calls. -/
def validate (components : Components) (regExps : RegExps) (mode : ValidationMode) :
    Nat → Schema → Value → Text → Check
  | 0, _, _, _ => none
  | depth + 1, schema, value, pointer =>
    match schema.reference with
    | some _ =>
      match schema.target components with
      | some target => validate components regExps mode depth target value pointer
      | none => fail pointer
    | none =>
      match schema.anyOf with
      | some candidates =>
        firstPassing (fun candidate => validate components regExps mode depth candidate value pointer)
          pointer candidates
      | none =>
        (demand (schema.const.all fun expected => sameValue value expected) pointer).also
          ((demand (schema.enum.all fun candidates => candidates.any fun candidate =>
              sameValue candidate value) pointer).also
            (validateType regExps mode (validate components regExps mode depth) schema value
              pointer))


namespace Check

@[simp] theorem demand_pass (condition : Bool) (pointer : Text) :
    demand condition pointer = pass ↔ condition = true := by
  cases condition <;> simp [demand, pass, fail]

@[simp] theorem demand_settled (condition : Bool) (pointer : Text) :
    demand condition pointer ≠ none := by
  cases condition <;> simp [demand, pass, fail]

@[simp] theorem also_pass (first second : Check) :
    first.also second = pass ↔ first = pass ∧ second = pass := by
  match first with
  | none => simp [also, pass]
  | some (.error _) => simp [also, pass]
  | some (.ok ()) => simp [also, pass]

theorem also_settled (first second : Check) (begins : first ≠ none) (ends : second ≠ none) :
    first.also second ≠ none := by
  match first with
  | none => exact absurd rfl begins
  | some (.error _) => simp [also]
  | some (.ok ()) => exact ends

theorem each_pass {α : Type} (check : α → Check) (elements : List α) :
    each check elements = pass ↔ ∀ element ∈ elements, check element = pass := by
  induction elements with
  | nil => simp [each]
  | cons element rest inductionHypothesis =>
    rw [each, also_pass, inductionHypothesis, List.forall_mem_cons]

theorem each_settled {α : Type} (check : α → Check) (elements : List α)
    (settled : ∀ element ∈ elements, check element ≠ none) : each check elements ≠ none := by
  induction elements with
  | nil => simp [each, pass]
  | cons element rest inductionHypothesis =>
    rw [List.forall_mem_cons] at settled
    exact also_settled _ _ settled.1 (inductionHypothesis settled.2)

theorem firstPassing_pass {α : Type} (check : α → Check) (pointer : Text) (elements : List α)
    (settled : ∀ element ∈ elements, check element ≠ none) :
    firstPassing check pointer elements = pass ↔ ∃ element ∈ elements, check element = pass := by
  induction elements with
  | nil => simp [firstPassing, fail, pass]
  | cons element rest inductionHypothesis =>
    rw [List.forall_mem_cons] at settled
    simp only [List.mem_cons, exists_eq_or_imp]
    match verdict : check element with
    | none => exact absurd verdict settled.1
    | some (.error _) =>
      simp only [firstPassing, verdict]
      rw [inductionHypothesis settled.2]
      simp [pass]
    | some (.ok ()) => simp [firstPassing, verdict, pass]

theorem firstPassing_settled {α : Type} (check : α → Check) (pointer : Text) (elements : List α)
    (settled : ∀ element ∈ elements, check element ≠ none) :
    firstPassing check pointer elements ≠ none := by
  induction elements with
  | nil => simp [firstPassing, fail]
  | cons element rest inductionHypothesis =>
    rw [List.forall_mem_cons] at settled
    match verdict : check element with
    | none => exact absurd verdict settled.1
    | some (.error _) =>
      simp only [firstPassing, verdict]
      exact inductionHypothesis settled.2
    | some (.ok ()) => simp [firstPassing, verdict]

end Check

end TraxOs.ApiClient
