import TraxOs.ApiClient.Validator
import Mathlib.Order.Filter.AtTopBot.Basic
import Mathlib.Order.Filter.Finite

/-!
# What the validator decides

References that do not lead back to themselves make every validation return, so a
schema and a value have a verdict. The verdict and the meaning of a schema are the same
judgement about one node, made under two readings: JSON compares literals as values and
knows the own names of an object, the validator compares them by `Object.is` and also
sees the names that every object inherits.

The readings differ on few inputs: a required name that is missing and inherited, an
undeclared member with an inherited name, and a literal that is an array, an object or a
zero of the other sign. Wherever no such difference decides, at the value or at any part
of it that the schema describes, the verdict is exact.
-/

namespace TraxOs.ApiClient

open TraxOs.Theory Check Filter

/-- The nodes of a schema. -/
def Schema.Node : Schema → Schema → Prop := Relation.ReflTransGen fun schema part => part ∈ schema.parts

/-- References between components lead to components of a lower rank. -/
def Acyclic (components : Components) : Prop :=
  ∃ rank : Text → Nat, ∀ entry ∈ components, ∀ node, Schema.Node entry.2 node →
    ∀ name, node.reference.bind componentName = some name → rank name < rank entry.1

/-- A node is a reference, an `anyOf` without siblings, or it has a type; an array has
items. -/
def Schema.Shaped (schema : Schema) : Prop :=
  schema.reference.isSome ∨ (∃ candidates, schema = { anyOf := some candidates }) ∨
    (schema.anyOf = none ∧ ∃ type, schema.type = some type ∧
      (type = .array → schema.items.isSome))

/-- The schemas that the generator accepts and whose nodes have one of these forms. -/
structure Contract (components : Components) (regExps : RegExps) (schema : Schema) : Prop where
  valid : validateSchema (components.map Prod.fst) regExps schema = true
  componentsValid : ∀ entry ∈ components,
    validateSchema (components.map Prod.fst) regExps entry.2 = true
  shaped : ∀ node, schema.Node node → node.Shaped
  componentsShaped : ∀ entry ∈ components, ∀ node, entry.2.Node node → node.Shaped
  acyclic : Acyclic components

/-- The parts of a schema, each with a part of the value that it describes. -/
def applications (components : Components) (schema : Schema) (value : Value) :
    List (Schema × Value) :=
  (schema.target components).toList.map (·, value) ++ (schema.anyOf.getD []).map (·, value) ++
    match value with
    | .array items => schema.items.toList.flatMap fun item => items.map (item, ·)
    | .object members => members.flatMap fun entry =>
      ((schema.declared entry.1).or schema.additional).toList.map (·, entry.2)
    | _ => []

/-- A schema describes a value as part of a larger one. -/
def Describes (components : Components) : Schema × Value → Schema × Value → Prop :=
  Relation.ReflTransGen fun whole part => part ∈ applications components whole.1 whole.2

/-- How literals are compared and which names are found in every object. -/
structure Reading where
  same : Value → Value → Bool
  inherited : List Text

/-- JSON texts have values and own names. -/
def Reading.json : Reading := ⟨Value.equal, []⟩

/-- The validator has `Object.is` and the prototype chain. -/
def Reading.prototypes : Reading := ⟨sameValue, inheritedNames⟩

/-- `const` and `enum` under a reading. -/
def LiteralsMet (reading : Reading) (schema : Schema) (value : Value) : Prop :=
  (∀ expected ∈ schema.const, reading.same value expected = true) ∧
    ∀ candidates ∈ schema.enum, ∃ candidate ∈ candidates, reading.same value candidate = true

/-- What a node demands of one member, given the verdicts about its parts. -/
def EntryMet (reading : Reading) (mode : ValidationMode) (holds : Schema → Value → Prop)
    (schema : Schema) (entry : Text × Value) : Prop :=
  (∀ property, schema.declared entry.1 = some property → holds property entry.2) ∧
    (schema.declared entry.1 = none → entry.1 ∉ reading.inherited ∧
      (∀ additional, schema.additional = some additional → holds additional entry.2) ∧
        ¬ (schema.closed = true ∧ mode = .request))

/-- What the type of a node demands. -/
def TypeMet (reading : Reading) (regExps : RegExps) (mode : ValidationMode)
    (holds : Schema → Value → Prop) (schema : Schema) (value : Value) : Prop :=
  match schema.type, value with
  | none, _ => False
  | some .array, .array items =>
    ∃ item, schema.items = some item ∧ ∀ value ∈ items, holds item value
  | some .object, .object members =>
    (∀ name ∈ schema.required.getD [], name ∈ names members ∨ name ∈ reading.inherited) ∧
      ∀ entry ∈ members, EntryMet reading mode holds schema entry
  | some type, value => ScalarSatisfies regExps schema type value

/-- What one node demands. -/
def NodeMet (reading : Reading) (components : Components) (regExps : RegExps)
    (mode : ValidationMode) (holds : Schema → Value → Prop) (schema : Schema) (value : Value) :
    Prop :=
  match schema.reference, schema.anyOf with
  | some _, _ => ∃ target, schema.target components = some target ∧ holds target value
  | none, some candidates => ∃ candidate ∈ candidates, holds candidate value
  | none, none => LiteralsMet reading schema value ∧
      TypeMet reading regExps mode holds schema value

/-- `assertValid` returns, from some depth of calls on. -/
def Accepts (components : Components) (regExps : RegExps) (mode : ValidationMode)
    (schema : Schema) (value : Value) : Prop :=
  ∀ᶠ depth in atTop, ∀ pointer, validate components regExps mode depth schema value pointer = Check.pass

/-- `assertValid` throws a `SchemaValidationError`, from some depth of calls on. -/
def Rejects (components : Components) (regExps : RegExps) (mode : ValidationMode)
    (schema : Schema) (value : Value) : Prop :=
  ∀ᶠ depth in atTop, ∀ pointer, ∃ failing,
    validate components regExps mode depth schema value pointer = fail failing

section Induction

/-- A component that a lookup finds. -/
theorem mem_of_lookup (components : Components) (name : Text) (target : Schema)
    (found : components.lookup name = some target) : (name, target) ∈ components := by
  obtain ⟨before, after, rfl, -⟩ := List.lookup_eq_some_iff.mp found
  simp

/-- Induction over the nodes of a schema and the schemas that they refer to. -/
theorem Acyclic.resolution (components : Components) (acyclic : Acyclic components)
    (property : Schema → Prop)
    (step : ∀ schema, (∀ part ∈ schema.parts, property part) →
      (∀ target, schema.target components = some target → property target) → property schema)
    (schema : Schema) : property schema := by
  obtain ⟨rank, lower⟩ := acyclic
  have ranked : ∀ bound, ∀ entry ∈ components, rank entry.1 < bound → property entry.2 := by
    intro bound
    induction bound with
    | zero =>
      intro entry _ impossible
      omega
    | succ bound inductionHypothesis =>
      intro entry member below
      have nodes : ∀ node, Schema.Node entry.2 node → property node := by
        apply Schema.parts_induction (fun node => Schema.Node entry.2 node → property node)
        intro node parts inside
        apply step node
        · exact fun part contained => parts part contained (inside.tail contained)
        · intro target refers
          obtain ⟨name, named, found⟩ := Option.bind_eq_some_iff.mp refers
          have smaller := lower entry member node inside name named
          exact inductionHypothesis (name, target) (mem_of_lookup components name target found)
            (by simp only; omega)
      exact nodes entry.2 .refl
  apply Schema.parts_induction property
  intro node parts
  apply step node parts
  intro target refers
  obtain ⟨name, -, found⟩ := Option.bind_eq_some_iff.mp refers
  exact ranked (rank name + 1) (name, target) (mem_of_lookup components name target found)
    (Nat.lt_succ_self _)

end Induction

section Applications

variable (components : Components) (schema : Schema) (value : Value)

theorem target_applied (target : Schema) (refers : schema.target components = some target) :
    (target, value) ∈ applications components schema value := by
  simp [applications, refers]

theorem candidate_applied (candidates : List Schema) (candidate : Schema)
    (alternatives : schema.anyOf = some candidates) (member : candidate ∈ candidates) :
    (candidate, value) ∈ applications components schema value := by
  simp [applications, alternatives, member]

theorem item_applied (item : Schema) (items : List Value) (described : schema.items = some item)
    (member : value ∈ items) : (item, value) ∈ applications components schema (.array items) := by
  simp [applications, described, member]

theorem property_applied (members : List (Text × Value)) (entry : Text × Value)
    (property : Schema) (member : entry ∈ members)
    (declared : schema.declared entry.1 = some property) :
    (property, entry.2) ∈ applications components schema (.object members) := by
  simp only [applications, List.mem_append, List.mem_flatMap]
  exact .inr ⟨entry, member, by simp [declared]⟩

theorem additional_applied (members : List (Text × Value)) (entry : Text × Value)
    (additional : Schema) (member : entry ∈ members) (undeclared : schema.declared entry.1 = none)
    (extra : schema.additional = some additional) :
    (additional, entry.2) ∈ applications components schema (.object members) := by
  simp only [applications, List.mem_append, List.mem_flatMap]
  exact .inr ⟨entry, member, by simp [undeclared, extra]⟩

/-- The schemas that are applied are parts of the node or the one it refers to. -/
theorem applied_cases (part : Schema × Value)
    (applied : part ∈ applications components schema value) :
    part.1 ∈ schema.parts ∨ schema.target components = some part.1 := by
  simp only [applications, List.mem_append, List.mem_map, Option.mem_toList] at applied
  rcases applied with (⟨target, refers, rfl⟩ | ⟨candidate, member, rfl⟩) | inside
  · exact .inr refers
  · refine .inl ?_
    simp only [Schema.parts, List.mem_append]
    exact .inl (.inr member)
  · refine .inl ?_
    simp only [Schema.parts, List.mem_append, List.mem_map, Option.mem_toList]
    split at inside
    · simp only [List.mem_flatMap, Option.mem_toList, List.mem_map] at inside
      obtain ⟨item, described, _, _, rfl⟩ := inside
      exact .inl (.inl (.inr described))
    · simp only [List.mem_flatMap, List.mem_map, Option.mem_toList] at inside
      obtain ⟨entry, _, found, described, rfl⟩ := inside
      cases declared : schema.declared entry.1 with
      | some property =>
        rw [declared] at described
        obtain rfl : property = found := by simpa using described
        obtain ⟨before, after, split, -⟩ := List.lookup_eq_some_iff.mp declared
        exact .inl (.inl (.inl ⟨(entry.1, property), by rw [split]; simp, rfl⟩))
      | none =>
        rw [declared] at described
        have additional : schema.additional = some found := by simpa using described
        unfold Schema.additional at additional
        refine .inr ?_
        split at additional
        · simpa using additional.symm
        · cases additional
    · cases inside

end Applications

section Step

variable (components : Components) (regExps : RegExps) (mode : ValidationMode)
variable (judge : Schema → Value → Text → Check) (holds : Schema → Value → Prop)

/-- A judge settles a part, and passes it when it holds. -/
def Settles (schema : Schema) (value : Value) : Prop :=
  ∀ pointer, judge schema value pointer ≠ none ∧
    (judge schema value pointer = Check.pass ↔ holds schema value)

theorem entry_settled (schema : Schema) (members : List (Text × Value)) (entry : Text × Value)
    (member : entry ∈ members)
    (settled : ∀ part ∈ applications components schema (.object members),
      Settles judge holds part.1 part.2) (pointer : Text) :
    validateEntry mode judge schema pointer entry ≠ none ∧
      (validateEntry mode judge schema pointer entry = Check.pass ↔
        EntryMet .prototypes mode holds schema entry) := by
  unfold validateEntry EntryMet
  cases declared : schema.declared entry.1 with
  | some property =>
    have verdict := settled _ (property_applied components schema members entry property member
      declared) (below pointer entry.1)
    simpa using verdict
  | none =>
    by_cases inherited : entry.1 ∈ inheritedNames
    · simp [inherited, fail, Check.pass, Reading.prototypes]
    · cases rule : schema.additionalProperties with
      | none =>
        simp [inherited, Check.pass, Reading.prototypes, Schema.additional, Schema.closed, rule]
      | some rule' =>
        cases rule' with
        | inl allowed =>
          cases allowed <;> cases mode <;>
            simp [inherited, Check.pass, fail, Reading.prototypes, Schema.additional, Schema.closed, rule]
        | inr additional =>
          have extra : schema.additional = some additional := by simp [Schema.additional, rule]
          have verdict := settled _ (additional_applied components schema members entry additional
            member declared extra) (below pointer entry.1)
          simpa [inherited, Reading.prototypes, Schema.closed, rule, extra] using verdict

/-- The bounds of a number. -/
theorem number_settled (schema : Schema) (value : ℚ) (pointer : Text) :
    validateNumber schema value pointer ≠ none ∧
      (validateNumber schema value pointer = Check.pass ↔ InRange schema value) := by
  constructor
  · exact also_settled _ _ (demand_settled _ _) (demand_settled _ _)
  · rw [validateNumber, also_pass, demand_pass, demand_pass, InRange]
    simp [Option.any_eq_false]

/-- A string with its lengths, pattern and format. -/
theorem string_settled (schema : Schema) (value : Value) (pointer : Text) :
    validateString regExps schema value pointer ≠ none ∧
      (validateString regExps schema value pointer = Check.pass ↔
        ScalarSatisfies regExps schema .string value) := by
  cases value with
  | text text =>
    constructor
    · exact also_settled _ _ (demand_settled _ _) (also_settled _ _ (demand_settled _ _)
        (also_settled _ _ (demand_settled _ _) (demand_settled _ _)))
    · simp only [validateString, also_pass, demand_pass, ScalarSatisfies]
      simp [Option.any_eq_false, Option.all_eq_true]
  | _ => simp [validateString, ScalarSatisfies, fail, Check.pass]

/-- A number that denotes a safe integer. -/
theorem safeInteger_iff (number : Number) :
    number.isSafeInteger = true ↔ ∃ value : Int, number.rational = some (value : ℚ) ∧
      value.natAbs ≤ maxSafeInteger := by
  unfold Number.isSafeInteger
  cases number.rational with
  | none => simp
  | some value =>
    simp only [Option.any_some, Bool.and_eq_true, beq_iff_eq, decide_eq_true_eq, Option.some.injEq]
    constructor
    · rintro ⟨whole, small⟩
      exact ⟨value.num, (Rat.den_eq_one_iff value).mp whole |>.symm, small⟩
    · rintro ⟨integer, rfl, small⟩
      exact ⟨Rat.den_intCast integer, by simpa using small⟩

/-- The switch on the type. -/
theorem type_settled (schema : Schema) (value : Value)
    (settled : ∀ part ∈ applications components schema value, Settles judge holds part.1 part.2)
    (pointer : Text) :
    validateType regExps mode judge schema value pointer ≠ none ∧
      (validateType regExps mode judge schema value pointer = Check.pass ↔
        TypeMet .prototypes regExps mode holds schema value) := by
  unfold validateType TypeMet
  cases typed : schema.type with
  | none => simp [fail, Check.pass]
  | some kind =>
    cases kind with
    | null => cases value <;> simp [ScalarSatisfies, fail, Check.pass]
    | boolean => cases value <;> simp [ScalarSatisfies, fail, Check.pass]
    | string => exact string_settled regExps schema value pointer
    | integer =>
      cases value with
      | number number =>
        have range := number_settled schema (number.rational.getD 0) pointer
        constructor
        · exact also_settled _ _ (demand_settled _ _) range.1
        · simp only [also_pass, demand_pass, safeInteger_iff, range.2, ScalarSatisfies]
          constructor
          · rintro ⟨⟨integer, same, small⟩, inRange⟩
            exact ⟨integer, same, small, by simpa [same] using inRange⟩
          · rintro ⟨integer, same, small, inRange⟩
            exact ⟨⟨integer, same, small⟩, by simpa [same] using inRange⟩
      | _ => simp [ScalarSatisfies, fail, Check.pass]
    | number =>
      cases value with
      | number number =>
        have range := number_settled schema (number.rational.getD 0) pointer
        constructor
        · exact also_settled _ _ (demand_settled _ _) range.1
        · simp only [also_pass, demand_pass, Number.isFinite, range.2, ScalarSatisfies,
            Option.isSome_iff_exists]
          constructor
          · rintro ⟨⟨rational, same⟩, inRange⟩
            exact ⟨rational, same, by simpa [same] using inRange⟩
          · rintro ⟨rational, same, inRange⟩
            exact ⟨⟨rational, same⟩, by simpa [same] using inRange⟩
      | _ => simp [ScalarSatisfies, fail, Check.pass]
    | array =>
      cases value with
      | array items =>
        cases described : schema.items with
        | none => simp [fail, Check.pass]
        | some item =>
          have parts : ∀ entry ∈ items.zipIdx,
              judge item entry.1 (below pointer (utf16 (Json.decimal entry.2))) ≠ none ∧
                (judge item entry.1 (below pointer (utf16 (Json.decimal entry.2))) = Check.pass ↔
                  holds item entry.1) := by
            intro entry member
            have inside : entry.1 ∈ items := List.fst_mem_of_mem_zipIdx member
            exact settled _ (item_applied components schema entry.1 item items described inside) _
          constructor
          · exact each_settled _ _ fun entry member => (parts entry member).1
          · rw [each_pass]
            constructor
            · intro passed
              refine ⟨item, rfl, fun value inside => ?_⟩
              obtain ⟨place, within, rfl⟩ := List.getElem_of_mem inside
              have member : (items[place], place) ∈ items.zipIdx := by
                simp [List.mem_zipIdx_iff_getElem?, within]
              exact (parts _ member).2.mp (passed _ member)
            · rintro ⟨_, same, met⟩ entry member
              obtain rfl := Option.some.inj same
              exact (parts entry member).2.mpr (met entry.1 (List.fst_mem_of_mem_zipIdx member))
      | _ => simp [ScalarSatisfies, fail, Check.pass]
    | object =>
      cases value with
      | object members =>
        have entries := fun entry member => entry_settled components mode judge holds schema members
          entry member settled pointer
        constructor
        · exact also_settled _ _ (each_settled _ _ fun _ _ => demand_settled _ _)
            (each_settled _ _ fun entry member => (entries entry member).1)
        · simp only [validateObject, also_pass, each_pass, demand_pass]
          constructor
          · rintro ⟨required, passed⟩
            refine ⟨fun name member => ?_, fun entry member =>
              (entries entry member).2.mp (passed entry member)⟩
            simpa [present, Reading.prototypes] using required name member
          · rintro ⟨required, met⟩
            refine ⟨fun name member => ?_, fun entry member =>
              (entries entry member).2.mpr (met entry member)⟩
            simpa [present, Reading.prototypes] using required name member
      | _ => simp [validateObject, ScalarSatisfies, fail, Check.pass]

/-- Equality of literals under a reading, both ways round. -/
theorem literals_settled (schema : Schema) (value : Value) :
    (schema.const.all (fun expected => sameValue value expected) = true ∧
      schema.enum.all (fun candidates => candidates.any fun candidate =>
        sameValue candidate value) = true) ↔ LiteralsMet .prototypes schema value := by
  simp only [Option.all_eq_true, List.any_eq_true, LiteralsMet, Reading.prototypes,
    sameValue_comm _ value, Option.mem_def]

/-- One call of `validate` decides a node once its parts are decided. -/
theorem validate_settled (depth : Nat) (schema : Schema) (value : Value)
    (settled : ∀ part ∈ applications components schema value,
      Settles (validate components regExps mode depth) holds part.1 part.2) :
    Settles (validate components regExps mode (depth + 1))
      (NodeMet .prototypes components regExps mode holds) schema value := by
  intro pointer
  unfold validate NodeMet
  cases reference : schema.reference with
  | some name =>
    cases refers : schema.target components with
    | none => simp [fail, Check.pass]
    | some target => simpa using settled _ (target_applied components schema value target refers) pointer
  | none =>
    cases alternatives : schema.anyOf with
    | some candidates =>
      have verdicts := fun candidate member => settled _ (candidate_applied components schema value
        candidates candidate alternatives member) pointer
      constructor
      · exact firstPassing_settled _ _ _ fun candidate member => (verdicts candidate member).1
      · rw [firstPassing_pass _ _ _ fun candidate member => (verdicts candidate member).1]
        constructor
        · rintro ⟨candidate, member, passed⟩
          exact ⟨candidate, member, (verdicts candidate member).2.mp passed⟩
        · rintro ⟨candidate, member, met⟩
          exact ⟨candidate, member, (verdicts candidate member).2.mpr met⟩
    | none =>
      have verdict := type_settled components regExps mode _ holds schema value settled pointer
      constructor
      · exact also_settled _ _ (demand_settled _ _) (also_settled _ _ (demand_settled _ _) verdict.1)
      · simp only [also_pass, demand_pass, verdict.2]
        rw [← and_assoc, literals_settled]

end Step

section Verdicts

variable (components : Components) (regExps : RegExps) (mode : ValidationMode)

/-- What holds of one more call from some depth on, holds from some depth on. -/
theorem eventually_next (property : Nat → Prop) (next : ∀ᶠ depth in atTop, property (depth + 1)) :
    ∀ᶠ depth in atTop, property depth := by
  obtain ⟨bound, above⟩ := eventually_atTop.mp next
  refine eventually_atTop.mpr ⟨bound + 1, fun depth enough => ?_⟩
  obtain ⟨before, rfl⟩ : ∃ before, depth = before + 1 := ⟨depth - 1, by omega⟩
  exact above before (by omega)

/-- A validation returns or throws, and never both. -/
theorem not_both (schema : Schema) (value : Value)
    (accepted : Accepts components regExps mode schema value)
    (rejected : Rejects components regExps mode schema value) : False := by
  obtain ⟨depth, passed, failed⟩ := (accepted.and rejected).exists
  obtain ⟨failing, same⟩ := failed []
  rw [passed []] at same
  cases same

/-- A decided value is settled at every sufficient depth. -/
theorem settled_of_decided (schema : Schema) (value : Value)
    (decided : Accepts components regExps mode schema value ∨
      Rejects components regExps mode schema value) :
    ∀ᶠ depth in atTop, Settles (validate components regExps mode depth)
      (Accepts components regExps mode) schema value := by
  rcases decided with accepted | rejected
  · filter_upwards [accepted] with depth passed pointer
    exact ⟨by rw [passed pointer]; simp [Check.pass], fun _ => accepted, fun _ => passed pointer⟩
  · filter_upwards [rejected] with depth failed pointer
    obtain ⟨failing, same⟩ := failed pointer
    refine ⟨by rw [same]; simp [fail], fun passed => ?_, fun accepted => ?_⟩
    · rw [passed] at same
      cases same
    · exact (not_both components regExps mode schema value accepted rejected).elim

/-- The parts of a node that are decided decide the node. -/
theorem node_decided (schema : Schema) (value : Value)
    (decided : ∀ part ∈ applications components schema value,
      Accepts components regExps mode part.1 part.2 ∨
        Rejects components regExps mode part.1 part.2) :
    (NodeMet .prototypes components regExps mode (Accepts components regExps mode) schema value →
        Accepts components regExps mode schema value) ∧
      (¬ NodeMet .prototypes components regExps mode (Accepts components regExps mode) schema value →
        Rejects components regExps mode schema value) := by
  have parts : ∀ᶠ depth in atTop, ∀ part ∈ {part | part ∈ applications components schema value},
      Settles (validate components regExps mode depth) (Accepts components regExps mode)
        part.1 part.2 := by
    rw [eventually_all_finite (List.finite_toSet _)]
    exact fun part member => settled_of_decided components regExps mode part.1 part.2
      (decided part member)
  have node : ∀ᶠ depth in atTop, Settles (validate components regExps mode depth)
      (NodeMet .prototypes components regExps mode (Accepts components regExps mode))
        schema value := by
    apply eventually_next
    filter_upwards [parts] with depth settled
    exact validate_settled components regExps mode _ depth schema value settled
  constructor
  · intro met
    filter_upwards [node] with depth settled pointer
    exact (settled pointer).2.mpr met
  · intro unmet
    filter_upwards [node] with depth settled pointer
    match verdict : validate components regExps mode depth schema value pointer with
    | none => exact absurd verdict (settled pointer).1
    | some (.error failing) => exact ⟨failing, rfl⟩
    | some (.ok ()) => exact absurd ((settled pointer).2.mp verdict) unmet

/-- Every validation returns or throws. -/
theorem decided (acyclic : Acyclic components) (schema : Schema) (value : Value) :
    Accepts components regExps mode schema value ∨ Rejects components regExps mode schema value := by
  revert value
  apply acyclic.resolution components (fun schema => ∀ value,
    Accepts components regExps mode schema value ∨ Rejects components regExps mode schema value)
  intro schema parts target value
  have node := node_decided components regExps mode schema value (by
    intro part applied
    rcases applied_cases components schema value part applied with contained | refers
    · exact parts part.1 contained part.2
    · exact target part.1 refers part.2)
  by_cases met : NodeMet .prototypes components regExps mode (Accepts components regExps mode)
      schema value
  · exact .inl (node.1 met)
  · exact .inr (node.2 met)

/-- The validator judges a node by the prototype reading. -/
theorem accepts_iff (acyclic : Acyclic components) (schema : Schema) (value : Value) :
    Accepts components regExps mode schema value ↔
      NodeMet .prototypes components regExps mode (Accepts components regExps mode) schema value := by
  have node := node_decided components regExps mode schema value fun part _ =>
    decided components regExps mode acyclic part.1 part.2
  constructor
  · intro accepted
    by_contra unmet
    exact not_both components regExps mode schema value accepted (node.2 unmet)
  · exact node.1

/-- JSON Schema judges a node by the JSON reading. -/
theorem satisfies_iff (schema : Schema) (value : Value) (shaped : schema.Shaped)
    (alone : schema.reference.isSome → schema.referenceOnly = true) :
    Satisfies components regExps mode schema value ↔
      NodeMet .json components regExps mode (Satisfies components regExps mode) schema value := by
  have untyped : schema.reference.isSome → schema.anyOf = none ∧ schema.type = none := by
    intro refers
    have only := alone refers
    simp only [Schema.referenceOnly, Bool.and_eq_true, Option.isNone_iff_eq_none] at only
    tauto
  have typed : ∀ kind, schema.type = some kind → schema.reference = none ∧ schema.anyOf = none := by
    intro kind type
    rcases shaped with refers | ⟨candidates, same⟩ | ⟨single, -⟩
    · rw [(untyped refers).2] at type
      cases type
    · rw [same] at type
      cases type
    · refine ⟨?_, single⟩
      by_contra refers
      rw [(untyped (Option.isSome_iff_ne_none.mpr refers)).2] at type
      cases type
  constructor
  · intro satisfied
    cases satisfied with
    | reference schema target value refers inner =>
      obtain ⟨name, named, -⟩ := Option.bind_eq_some_iff.mp refers
      obtain ⟨reference, present, -⟩ := Option.bind_eq_some_iff.mp named
      simp only [NodeMet, present]
      exact ⟨target, refers, inner⟩
    | anyOf schema candidates candidate value alternatives member inner =>
      have plain : schema.reference = none := by
        by_contra refers
        rw [(untyped (Option.isSome_iff_ne_none.mpr refers)).1] at alternatives
        cases alternatives
      simp only [NodeMet, plain, alternatives]
      exact ⟨candidate, member, inner⟩
    | scalar schema kind value type literals inner =>
      simp only [NodeMet, typed kind type]
      refine ⟨literals, ?_⟩
      cases kind <;> cases value <;> simp only [TypeMet, type, ScalarSatisfies] at inner ⊢ <;>
        exact inner
    | array schema item items type literals described inner =>
      simp only [NodeMet, typed .array type]
      refine ⟨literals, ?_⟩
      simp only [TypeMet, type]
      exact ⟨item, described, inner⟩
    | object schema members type literals present declared additional closed =>
      simp only [NodeMet, typed .object type]
      refine ⟨literals, ?_⟩
      simp only [TypeMet, type]
      refine ⟨fun name member => .inl (present name member), fun entry member =>
        ⟨declared entry member, fun undeclared => ⟨List.not_mem_nil, additional entry member
          undeclared, ?_⟩⟩⟩
      rintro ⟨shut, request⟩
      exact closed shut request entry member undeclared
  · unfold NodeMet
    split
    · rintro ⟨target, refers, inner⟩
      exact .reference schema target value refers inner
    · next candidates plain alternatives =>
      rintro ⟨candidate, member, inner⟩
      exact .anyOf schema candidates candidate value alternatives member inner
    · rintro ⟨literals, inner⟩
      unfold TypeMet at inner
      split at inner
      · exact inner.elim
      · next items type =>
        obtain ⟨item, described, inner⟩ := inner
        exact .array schema item items type literals described inner
      · next members type =>
        obtain ⟨present, entries⟩ := inner
        refine .object schema members type literals
          (fun name member => (present name member).resolve_right List.not_mem_nil)
          (fun entry member => (entries entry member).1)
          (fun entry member undeclared => ((entries entry member).2 undeclared).2.1) ?_
        intro shut request entry member undeclared
        exact ((entries entry member).2 undeclared).2.2 ⟨shut, request⟩
      · exact .scalar schema _ _ (by assumption) literals inner

end Verdicts

/-- Nothing about a node is read in two ways: its literals are identified by `Object.is`
when they are met at all, and no undeclared member has an inherited name. -/
def Legible (schema : Schema) (value : Value) : Prop :=
  LiteralsMet .prototypes schema value ∧ ∀ members, value = .object members →
    schema.type = some .object → ∀ entry ∈ members, schema.declared entry.1 = none →
      entry.1 ∉ inheritedNames

/-- The schema without the required names that every object inherits. -/
def Schema.lenient (schema : Schema) : Schema :=
  { schema with required := schema.required.map (·.filter (· ∉ inheritedNames)) }

/-- The value satisfies the schema, but not legibly. -/
def Refused (components : Components) (regExps : RegExps) (mode : ValidationMode)
    (schema : Schema) (value : Value) : Prop :=
  Satisfies components regExps mode schema value ∧ ¬ Legible schema value

/-- The value fails the schema by nothing but required names that it inherits. -/
def Overlooked (components : Components) (regExps : RegExps) (mode : ValidationMode)
    (schema : Schema) (value : Value) : Prop :=
  Legible schema value ∧ ¬ Satisfies components regExps mode schema value ∧
    Satisfies components regExps mode schema.lenient value

section Exactness

variable (components : Components) (regExps : RegExps) (mode : ValidationMode)

/-- A node in one of the three forms, alone when it is a reference. -/
def Schema.Formed (schema : Schema) : Prop :=
  schema.Shaped ∧ (schema.reference.isSome → schema.referenceOnly = true)

theorem lenient_formed (schema : Schema) (formed : schema.Formed) : schema.lenient.Formed := by
  obtain ⟨shaped, alone⟩ := formed
  constructor
  · rcases shaped with refers | ⟨candidates, rfl⟩ | typed
    · exact .inl refers
    · exact .inr (.inl ⟨candidates, rfl⟩)
    · exact .inr (.inr typed)
  · intro refers
    have only := alone refers
    simp only [Schema.referenceOnly, Schema.lenient, Option.isNone_map] at only ⊢
    exact only

/-- Membership in the required names of the lenient form. -/
theorem mem_required_lenient (schema : Schema) (name : Text) :
    name ∈ schema.lenient.required.getD [] ↔
      name ∈ schema.required.getD [] ∧ name ∉ inheritedNames := by
  cases required : schema.required with
  | none => simp [Schema.lenient, required]
  | some found => simp [Schema.lenient, required]

/-- The prototype reading of a type implies the JSON reading of its lenient form. -/
theorem typeMet_lenient (holds : Schema → Value → Prop) (schema : Schema) (value : Value)
    (met : TypeMet .prototypes regExps mode holds schema value) :
    TypeMet .json regExps mode holds schema.lenient value := by
  have sameType : schema.lenient.type = schema.type := rfl
  unfold TypeMet at met ⊢
  rw [sameType]
  split at met
  · exact met
  · exact met
  · refine ⟨fun name member => ?_, fun entry member => ?_⟩
    · obtain ⟨required, own⟩ := (mem_required_lenient schema name).mp member
      exact .inl ((met.1 name required).resolve_right own)
    · obtain ⟨declared, undeclared⟩ := met.2 entry member
      exact ⟨declared, fun missing => ⟨List.not_mem_nil, (undeclared missing).2⟩⟩
  · exact met

/-- A legible value that meets the lenient form meets the prototype reading. -/
theorem typeMet_of_lenient (holds : Schema → Value → Prop) (schema : Schema) (value : Value)
    (legible : Legible schema value) (met : TypeMet .json regExps mode holds schema.lenient value) :
    TypeMet .prototypes regExps mode holds schema value := by
  have sameType : schema.lenient.type = schema.type := rfl
  unfold TypeMet at met ⊢
  rw [sameType] at met
  split at met
  · exact met
  · exact met
  · next members object =>
    refine ⟨fun name member => ?_, fun entry member => ?_⟩
    · by_cases inherited : name ∈ inheritedNames
      · exact .inr inherited
      · exact .inl ((met.1 name ((mem_required_lenient schema name).mpr
          ⟨member, inherited⟩)).resolve_right List.not_mem_nil)
    · obtain ⟨declared, undeclared⟩ := met.2 entry member
      exact ⟨declared, fun missing => ⟨legible.2 members rfl object entry member missing,
        (undeclared missing).2⟩⟩
  · exact met

/-- The prototype reading of a node is the JSON reading of its lenient form, where that
is legible. -/
theorem prototypes_iff (holds : Schema → Value → Prop) (schema : Schema) (value : Value)
    (formed : schema.Formed) :
    NodeMet .prototypes components regExps mode holds schema value ↔
      Legible schema value ∧ NodeMet .json components regExps mode holds schema.lenient value := by
  have untyped : schema.type = none → schema.const = none → schema.enum = none →
      Legible schema value := by
    intro noType noConst noEnum
    refine ⟨⟨by simp [noConst], by simp [noEnum]⟩, ?_⟩
    intro members _ type
    rw [noType] at type
    cases type
  have sameReference : schema.lenient.reference = schema.reference := rfl
  have sameAnyOf : schema.lenient.anyOf = schema.anyOf := rfl
  cases refers : schema.reference with
  | some name =>
    have only := formed.2 (by rw [refers]; rfl)
    simp only [Schema.referenceOnly, Bool.and_eq_true, Option.isNone_iff_eq_none] at only
    have legible : Legible schema value := untyped (by tauto) (by tauto) (by tauto)
    simp only [NodeMet, sameReference, refers, legible, true_and]
    rfl
  | none =>
    cases alternatives : schema.anyOf with
    | some candidates =>
      have legible : Legible schema value := by
        rcases formed.1 with reference | ⟨found, same⟩ | ⟨single, -⟩
        · rw [refers] at reference
          cases reference
        · apply untyped <;> rw [same]
        · rw [alternatives] at single
          cases single
      simp only [NodeMet, sameReference, sameAnyOf, refers, alternatives, legible, true_and]
    | none =>
      simp only [NodeMet, sameReference, sameAnyOf, refers, alternatives]
      constructor
      · rintro ⟨literals, met⟩
        refine ⟨⟨literals, ?_⟩, ⟨fun expected member => ?_, fun candidates member => ?_⟩, ?_⟩
        · rintro members rfl object entry member undeclared
          simp only [TypeMet, object] at met
          exact ((met.2 entry member).2 undeclared).1
        · exact equal_of_same _ _ (literals.1 expected member)
        · obtain ⟨candidate, inside, same⟩ := literals.2 candidates member
          exact ⟨candidate, inside, equal_of_same _ _ same⟩
        · exact typeMet_lenient regExps mode holds schema value met
      · rintro ⟨legible, -, met⟩
        exact ⟨legible.1, typeMet_of_lenient regExps mode holds schema value legible met⟩

/-- A node depends on the verdicts about its parts only. -/
theorem nodeMet_congr (reading : Reading) (left right : Schema → Value → Prop) (schema : Schema)
    (value : Value) (parts : ∀ part ∈ applications components schema value,
      (left part.1 part.2 ↔ right part.1 part.2)) :
    NodeMet reading components regExps mode left schema value ↔
      NodeMet reading components regExps mode right schema value := by
  unfold NodeMet
  split
  · refine exists_congr fun target => and_congr_right fun refers => ?_
    exact parts _ (target_applied components schema value target refers)
  · next candidates _ alternatives =>
    refine exists_congr fun candidate => and_congr_right fun member => ?_
    exact parts _ (candidate_applied components schema value candidates candidate alternatives member)
  · refine and_congr_right fun _ => ?_
    unfold TypeMet
    split
    · rfl
    · next items _ _ =>
      refine exists_congr fun item => and_congr_right fun described => ?_
      refine forall₂_congr fun value member => ?_
      exact parts _ (item_applied components schema value item items described member)
    · next members _ _ =>
      refine and_congr_right fun _ => forall₂_congr fun entry member => ?_
      refine and_congr (forall₂_congr fun property declared => ?_)
        (forall_congr' fun undeclared => and_congr_right fun _ => and_congr_left fun _ =>
          forall₂_congr fun additional extra => ?_)
      · exact parts _ (property_applied components schema members entry property member declared)
      · exact parts _ (additional_applied components schema members entry additional member
          undeclared extra)
    · rfl

/-- Demanding fewer names keeps what is satisfied. -/
theorem satisfies_lenient (schema : Schema) (value : Value) (formed : schema.Formed)
    (satisfied : Satisfies components regExps mode schema value) :
    Satisfies components regExps mode schema.lenient value := by
  have lenient := lenient_formed schema formed
  rw [satisfies_iff components regExps mode schema value formed.1 formed.2] at satisfied
  rw [satisfies_iff components regExps mode schema.lenient value lenient.1 lenient.2]
  unfold NodeMet at satisfied ⊢
  have sameReference : schema.lenient.reference = schema.reference := rfl
  have sameAnyOf : schema.lenient.anyOf = schema.anyOf := rfl
  have sameType : schema.lenient.type = schema.type := rfl
  rw [sameReference, sameAnyOf]
  split at satisfied
  · exact satisfied
  · exact satisfied
  · refine ⟨satisfied.1, ?_⟩
    have met := satisfied.2
    unfold TypeMet at met ⊢
    rw [sameType]
    split at met
    · exact met
    · exact met
    · refine ⟨fun name member => met.1 name ?_, met.2⟩
      exact ((mem_required_lenient schema name).mp member).1
    · exact met

/-- A node whose parts have exact verdicts has one, unless its own reading decides. -/
theorem node_exact (acyclic : Acyclic components) (schema : Schema) (value : Value)
    (formed : schema.Formed)
    (parts : ∀ part ∈ applications components schema value,
      (Accepts components regExps mode part.1 part.2 ↔
        Satisfies components regExps mode part.1 part.2)) :
    (Accepts components regExps mode schema value ↔ Satisfies components regExps mode schema value) ↔
      ¬ Refused components regExps mode schema value ∧
        ¬ Overlooked components regExps mode schema value := by
  have accepted : Accepts components regExps mode schema value ↔
      Legible schema value ∧ Satisfies components regExps mode schema.lenient value := by
    have lenient := lenient_formed schema formed
    rw [accepts_iff components regExps mode acyclic,
      prototypes_iff components regExps mode _ schema value formed,
      satisfies_iff components regExps mode schema.lenient value lenient.1 lenient.2,
      nodeMet_congr components regExps mode .json _ _ schema.lenient value parts]
  have weaker : Satisfies components regExps mode schema value →
      Satisfies components regExps mode schema.lenient value :=
    satisfies_lenient components regExps mode schema value formed
  rw [accepted]
  constructor
  · intro same
    refine ⟨fun ⟨satisfied, illegible⟩ => illegible (same.mpr satisfied).1, ?_⟩
    rintro ⟨legible, unsatisfied, lenient⟩
    exact unsatisfied (same.mp ⟨legible, lenient⟩)
  · rintro ⟨notRefused, notOverlooked⟩
    constructor
    · rintro ⟨legible, lenient⟩
      by_contra unsatisfied
      exact notOverlooked ⟨legible, unsatisfied, lenient⟩
    · intro satisfied
      refine ⟨?_, weaker satisfied⟩
      by_contra illegible
      exact notRefused ⟨satisfied, illegible⟩

/-- The nodes of a contract schema, and of the schemas that it describes parts with, are
formed. -/
theorem Contract.formed (schema : Schema) (contract : Contract components regExps schema) :
    (∀ node, schema.Node node → node.Formed) ∧
      ∀ entry ∈ components, ∀ node, entry.2.Node node → node.Formed := by
  have alone : ∀ root : Schema, validateSchema (components.map Prod.fst) regExps root = true →
      ∀ node, root.Node node → node.reference.isSome → node.referenceOnly = true := by
    intro root valid node inside
    have nodeValid : validateSchema (components.map Prod.fst) regExps node = true := by
      induction inside with
      | refl => exact valid
      | tail _ contained inductionHypothesis =>
        exact ((validateSchema_iff _ _ _).mp inductionHypothesis).2 _ contained
    intro refers
    have checked := ((validateSchema_iff _ _ _).mp nodeValid).1
    obtain ⟨reference, present⟩ := Option.isSome_iff_exists.mp refers
    simp only [validNode, present, Option.all_some, Bool.and_eq_true] at checked
    tauto
  exact ⟨fun node inside => ⟨contract.shaped node inside, alone schema contract.valid node inside⟩,
    fun entry member node inside => ⟨contract.componentsShaped entry member node inside,
      alone entry.2 (contract.componentsValid entry member) node inside⟩⟩

/-- Every schema with which a part is described has formed nodes. -/
theorem formed_of_describes (componentsFormed : ∀ entry ∈ components, ∀ node,
      entry.2.Node node → node.Formed) (whole part : Schema × Value)
    (formed : ∀ node, whole.1.Node node → node.Formed)
    (described : Describes components whole part) : ∀ node, part.1.Node node → node.Formed := by
  induction described with
  | refl => exact formed
  | tail _ applied inductionHypothesis =>
    intro node inside
    rcases applied_cases components _ _ _ applied with contained | refers
    · exact inductionHypothesis node (.head contained inside)
    · obtain ⟨name, -, found⟩ := Option.bind_eq_some_iff.mp refers
      exact componentsFormed _ (mem_of_lookup components name _ found) node inside

/-- A value without a deciding difference of readings, at any depth, has an exact
verdict. -/
theorem exact_of_clear (acyclic : Acyclic components)
    (componentsFormed : ∀ entry ∈ components, ∀ node, entry.2.Node node → node.Formed)
    (schema : Schema) (value : Value) (formed : ∀ node, schema.Node node → node.Formed)
    (clear : ∀ part, Describes components (schema, value) part →
      ¬ Refused components regExps mode part.1 part.2 ∧
        ¬ Overlooked components regExps mode part.1 part.2) :
    Accepts components regExps mode schema value ↔
      Satisfies components regExps mode schema value := by
  revert value
  apply acyclic.resolution components (fun schema => (∀ node, schema.Node node → node.Formed) →
    ∀ value, (∀ part, Describes components (schema, value) part →
      ¬ Refused components regExps mode part.1 part.2 ∧
        ¬ Overlooked components regExps mode part.1 part.2) →
      (Accepts components regExps mode schema value ↔
        Satisfies components regExps mode schema value)) _ schema formed
  intro schema parts target formed value clear
  refine (node_exact components regExps mode acyclic schema value (formed schema .refl) ?_).mpr
    (clear _ .refl)
  intro part applied
  have below : ∀ deeper, Describes components part deeper →
      ¬ Refused components regExps mode deeper.1 deeper.2 ∧
        ¬ Overlooked components regExps mode deeper.1 deeper.2 :=
    fun deeper described => clear deeper (.head applied described)
  have partFormed := formed_of_describes components componentsFormed (schema, value) part formed
    (.single applied)
  rcases applied_cases components schema value part applied with contained | refers
  · exact parts part.1 contained partFormed part.2 below
  · exact target part.1 refers partFormed part.2 below

end Exactness

namespace Sample

/-- A host on which no pattern is ever needed. -/
def regExps : RegExps := ⟨fun _ => true, fun _ _ => true⟩

/-- An object that must have a member `constructor`. -/
def constructed : Schema := { type := some .object, required := some [literal "constructor"] }

/-- An object that declares nothing. -/
def anything : Schema := { type := some .object }

/-- A member named like one that every object inherits. -/
def toStringMember : Value := .object [(literal "toString", .null)]

end Sample

/-- A schema without parts contains only itself. -/
theorem node_of_no_parts (schema node : Schema) (single : schema.parts = [])
    (inside : schema.Node node) : node = schema := by
  induction inside with
  | refl => rfl
  | tail _ contained inductionHypothesis =>
    rw [inductionHypothesis, single] at contained
    cases contained

/-- Such a schema is a contract schema when its one node is. -/
theorem contract_of_no_parts (regExps : RegExps) (schema : Schema) (single : schema.parts = [])
    (valid : validNode [] regExps schema = true) (shaped : schema.Shaped) :
    Contract [] regExps schema where
  valid := (validateSchema_iff _ _ _).mpr ⟨valid, by simp [single]⟩
  componentsValid := by simp
  shaped := fun node inside => node_of_no_parts schema node single inside ▸ shaped
  componentsShaped := by simp
  acyclic := ⟨fun _ => 0, by simp⟩

end TraxOs.ApiClient
