import TraxOs.Api.Registry
import TraxOs.Contract.Negotiation
import TraxOs.Theory.Sequences

/-!
# The registry of command definitions

The server keeps its command definitions in an immutable registry that refuses to
hold one type and version twice, and compresses them to one range of versions for
each type, which it advertises. A type whose versions leave a gap is refused.

Of a definition, its type, its version and the key of its handler are kept. Python
integers are unbounded, and so are the versions here.
-/

namespace TraxOs.Contract

open TraxOs.Theory
open TraxOs.Api (ApplicationError unsupportedCommand unsupportedCommandVersion)

/-- `CommandDefinition`. -/
structure CommandDefinition where
  commandType : String
  version : Int
  handlerKey : String
deriving DecidableEq, Repr

/-- `CommandVersionRange`. -/
structure CommandVersionRange where
  commandType : String
  current : Int
  minimumSupported : Int
  maximumSupported : Int
deriving DecidableEq, Repr

/-- The `ValueError`s of the registry. -/
inductive DefinitionError where
  | duplicate (commandType : String) (version : Int)
  | notPositive
  | notContiguous (commandType : String)
deriving DecidableEq, Repr

/-- The key of a definition in the registry. -/
def CommandDefinition.key (definition : CommandDefinition) : String × Int :=
  (definition.commandType, definition.version)

/-- The loop of `_immutable_registry`, with the definitions that it has taken. -/
def register (values : List CommandDefinition) :
    List CommandDefinition → Except DefinitionError (List CommandDefinition)
  | [] => .ok values
  | definition :: rest =>
    if definition.key ∈ values.map CommandDefinition.key then
      .error (.duplicate definition.commandType definition.version)
    else register (values ++ [definition]) rest

/-- `_immutable_registry`. -/
def immutableRegistry (definitions : List CommandDefinition) :
    Except DefinitionError (List CommandDefinition) :=
  register [] definitions

/-- `grouped.setdefault(command_type, set()).add(version)`. -/
def addVersion (commandType : String) (version : Int) :
    List (String × List Int) → List (String × List Int)
  | [] => [(commandType, [version])]
  | (name, versions) :: rest =>
    if name = commandType then (name, versions.insert version) :: rest
    else (name, versions) :: addVersion commandType version rest

/-- The first loop of `command_version_ranges`. -/
def groupVersions (grouped : List (String × List Int)) :
    List CommandDefinition → Except DefinitionError (List (String × List Int))
  | [] => .ok grouped
  | definition :: rest =>
    if definition.version < 1 then .error .notPositive
    else groupVersions (addVersion definition.commandType definition.version grouped) rest

/-- `list(range(first, last + 1))`. -/
def integersBetween (first last : Int) : List Int :=
  (List.range (last + 1 - first).toNat).map fun step : Nat => first + step

/-- One turn of the second loop: the range of a type. No group is empty. -/
def versionRange (commandType : String) (candidates : List Int) :
    Except DefinitionError CommandVersionRange :=
  let versions := sortBy (fun left right => decide (left ≤ right)) candidates
  let first := versions.headD 0
  let last := versions.getLastD 0
  if versions ≠ integersBetween first last then .error (.notContiguous commandType)
  else
    .ok
      { commandType := commandType
        current := last
        minimumSupported := first
        maximumSupported := last }

/-- The second loop of `command_version_ranges`. -/
def versionRanges : List (String × List Int) → Except DefinitionError (List CommandVersionRange)
  | [] => .ok []
  | (commandType, candidates) :: rest =>
    match versionRange commandType candidates with
    | .error refused => .error refused
    | .ok range =>
      match versionRanges rest with
      | .error refused => .error refused
      | .ok ranges => .ok (range :: ranges)

/-- `command_version_ranges`. Types are sorted; each has one group. -/
def commandVersionRanges (definitions : List CommandDefinition) :
    Except DefinitionError (List CommandVersionRange) :=
  match groupVersions [] definitions with
  | .error refused => .error refused
  | .ok grouped => versionRanges (sortBy (fun left right => decide (left.1 ≤ right.1)) grouped)

/-- `resolve_command`, over a registry. -/
def resolveCommand (registry : List CommandDefinition) (commandType : String) (version : Int) :
    Except ApplicationError CommandDefinition :=
  let versions := registry.filter fun candidate => candidate.commandType = commandType
  if versions.isEmpty then .error unsupportedCommand
  else
    match registry.find? fun candidate => candidate.key = (commandType, version) with
    | none => .error unsupportedCommandVersion
    | some definition => .ok definition

/-- `contract_discovery`: the metadata that a server with these ranges advertises. -/
def contractDiscovery (api : SupportedVersionRange) (ranges : List CommandVersionRange) :
    ContractDiscovery String where
  schemaVersion := "1"
  api := api
  commands := ranges.map fun support =>
    { commandType := support.commandType
      current := support.current
      minimumSupported := support.minimumSupported
      maximumSupported := support.maximumSupported }

/-! ## The registry -/

/-- A registry that was accepted holds the definitions, no key twice. -/
theorem register_ok (values definitions registry : List CommandDefinition)
    (distinct : (values.map CommandDefinition.key).Nodup)
    (registered : register values definitions = .ok registry) :
    registry = values ++ definitions ∧ (registry.map CommandDefinition.key).Nodup := by
  induction definitions generalizing values with
  | nil =>
    cases registered
    exact ⟨(List.append_nil _).symm, distinct⟩
  | cons definition rest inductionHypothesis =>
    unfold register at registered
    split at registered
    · cases registered
    · rename_i fresh
      have longer : ((values ++ [definition]).map CommandDefinition.key).Nodup := by
        rw [List.map_append, List.map_singleton, List.nodup_append]
        refine ⟨distinct, List.nodup_singleton _, ?_⟩
        rintro key member other single rfl
        exact fresh (List.mem_singleton.mp single ▸ member)
      obtain ⟨held, unique⟩ := inductionHypothesis _ longer registered
      exact ⟨held.trans (List.append_assoc _ _ _), unique⟩

theorem immutableRegistry_ok (definitions registry : List CommandDefinition)
    (accepted : immutableRegistry definitions = .ok registry) : registry = definitions := by
  have held := (register_ok [] definitions registry List.nodup_nil accepted).1
  simpa using held

/-- What a type and version resolve to is among the definitions, and everything defined
resolves. -/
theorem resolveCommand_defined (registry : List CommandDefinition) (definition : CommandDefinition)
    (member : definition ∈ registry) :
    ∃ resolved ∈ registry, resolved.key = definition.key ∧
      resolveCommand registry definition.commandType definition.version = .ok resolved := by
  have known : (registry.filter fun candidate =>
      candidate.commandType = definition.commandType).isEmpty = false := by
    rw [List.isEmpty_eq_false_iff]
    exact List.ne_nil_of_mem (List.mem_filter.mpr ⟨member, by simp⟩)
  cases found : registry.find? fun candidate =>
      candidate.key = (definition.commandType, definition.version) with
  | none =>
    have absent := List.find?_eq_none.mp found definition member
    simp [CommandDefinition.key] at absent
  | some resolved =>
    refine ⟨resolved, List.mem_of_find?_eq_some found, ?_, ?_⟩
    · simpa [CommandDefinition.key] using List.find?_some found
    · simp only [resolveCommand, known, found]
      rfl

end TraxOs.Contract
