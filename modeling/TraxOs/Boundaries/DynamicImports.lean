import TraxOs.Theory.Aliases
import TraxOs.Boundaries.PythonImports

/-!
# Dynamic imports through other names

Which calls of the two dynamic loaders the scan recognises. The scan reads the bindings of
a file without their order in time: for each name the last import, and over it the
assignments in rounds. A name that is bound to something else as well may hide a loader.

Python may carry out the bindings of a file in many orders. A call may load when some
sequence of them makes what is called denote a loader.
-/

namespace TraxOs.Boundaries

open TraxOs.Api (Text)
open TraxOs.Theory

/-! ## What names may denote -/

/-- What each name denotes: the dotted path of an object, or nothing that is known. -/
abbrev Environment := Text → Option Text

/-- The object of a path. -/
def object (path : Text) : Option Text := if path = [] then none else some path

/-- What a name or an attribute chain denotes. -/
def denote (environment : Environment) : Expression → Option Text
  | .name id => environment id
  | .attribute value attr =>
    match denote environment value with
    | none => none
    | some base => if base = [] then none else some (base ++ '.' :: attr)
  | _ => none

/-- The names that `from importlib import *` binds. -/
def importlibNames : List Text :=
  ["__import__".toList, "import_module".toList, "invalidate_caches".toList, "reload".toList]

/-- The name and the path that an entry of `import` binds. -/
def importPair (entry : Alias) : Text × Text :=
  match entry.given with
  | some asname => (asname, entry.name)
  | none => (topName entry.name, topName entry.name)

/-- The name and the path that an entry of `from module import` binds. -/
def fromPair (module : Text) (entry : Alias) : Text × Text :=
  (entry.given.getD entry.name, module ++ '.' :: entry.name)

/-- An entry of an absolute `from` import. A star binds the names that the module exports,
which are known of `importlib`. -/
def enterFrom (module : Text) (environment : Environment) (entry : Alias) : Environment :=
  if entry.name = "*".toList then
    if module = "importlib".toList then
      importlibNames.foldl (fun environment name =>
        Function.update environment name (object (module ++ '.' :: name))) environment
    else environment
  else Function.update environment (fromPair module entry).1 (object (fromPair module entry).2)

/-- A statement that binds is carried out. A relative import binds other objects than the
loaders. -/
def enter (environment : Environment) : Statement → Environment
  | .importNames names =>
    names.foldl (fun environment entry =>
      Function.update environment (importPair entry).1 (object (importPair entry).2)) environment
  | .importFrom level module names =>
    if level = 0 ∧ module.getD [] ≠ [] then
      names.foldl (enterFrom (module.getD [])) environment
    else
      names.foldl (fun environment entry =>
        Function.update environment (fromPair [] entry).1 none) environment
  | .assign targets value =>
    targets.foldl (fun bound target =>
      match target with
      | .name id => Function.update bound id (denote environment value)
      | _ => bound) environment
  | .annAssign (.name id) (some value) =>
    Function.update environment id (denote environment value)
  | _ => environment

/-- Before any statement `__import__` is there. -/
def initialEnvironment : Environment :=
  Function.update (fun _ => none) "__import__".toList (some builtinsImport)

/-- What sequences of the bindings of a file lead to. -/
inductive Reaches (nodes : List Node) : Environment → Prop where
  | start : Reaches nodes initialEnvironment
  | enter (environment : Environment) (node : Node) (member : node ∈ nodes)
      (reached : Reaches nodes environment) : Reaches nodes (enter environment node.statement)

/-- Some sequence makes what is called denote a loader. -/
def MayLoad (nodes : List Node) (call : Call) : Prop :=
  ∃ environment, Reaches nodes environment ∧
    ∃ loader ∈ dynamicLoaders, denote environment call.func = some loader

/-! ## What the scan makes of a call -/

section Handling

variable (file : PythonFile) (package : Text) (knownModules : List Text)

/-- The scan handles a call as a dynamic import: it reports a diagnostic or an edge into the
package, or knows a target outside. -/
def Handled (bindings : Bindings) (line : Nat) (call : Call) : Prop :=
  let facts := scanNode file package knownModules bindings ⟨line, .call call⟩
  facts.diagnostics ≠ [] ∨ facts.edges ≠ [] ∨
    ∃ loader literal target, calledLoader bindings call = some loader ∧
      call.args.head? = some (.string literal) ∧
      dynamicTarget file loader call literal = .ok target ∧ isInternal package target = false

/-- Exactly the recognised calls are handled. -/
theorem handled_iff (bindings : Bindings) (line : Nat) (call : Call) :
    Handled file package knownModules bindings line call ↔
      (calledLoader bindings call).isSome := by
  unfold Handled scanNode scanCall
  dsimp only
  cases calledLoader bindings call with
  | none => simp [Facts.none]
  | some loader =>
    refine iff_of_true ?_ rfl
    dsimp only
    split
    · next literal given =>
      cases resolved : dynamicTarget file loader call literal with
      | error error => exact Or.inl (by simp [diagnose])
      | ok target =>
        dsimp only
        by_cases inside : isInternal package target = true
        · rw [if_pos inside]
          exact Or.inr (Or.inl (by simp))
        · refine Or.inr (Or.inr ⟨loader, literal, target, rfl, given, resolved, ?_⟩)
          exact Bool.not_eq_true _ ▸ inside
    · exact Or.inl (by simp [diagnose])

/-- No call of a loader escapes the scan. -/
def Covered (nodes : List Node) : Prop :=
  ∀ node ∈ nodes, ∀ call, node.statement = .call call → MayLoad nodes call →
    Handled file package knownModules (collectDynamicBindings nodes) node.line call

end Handling

/-! ## What the scan reads -/

/-- The name at the front of a chain. -/
def root : Expression → Option Text
  | .name id => some id
  | .attribute value _ => root value
  | _ => none

/-- What a chain stands for when its root stands for something. -/
def through : Expression → Text → Option Text
  | .name _, meant => some meant
  | .attribute value attr, meant =>
    match through value meant with
    | none => none
    | some base => if base = [] then none else some (base ++ '.' :: attr)
  | _, _ => none

/-- The names and paths that a statement imports, for the scan. -/
def importPairs : Statement → List (Text × Text)
  | .importNames names => names.map importPair
  | .importFrom _ (some module) names => if module = [] then [] else names.map (fromPair module)
  | _ => []

/-- The path of the last import of a name. What is not imported stands for itself, or for
the builtin loader. -/
def lastImport (nodes : List Node) (name : Text) : Text :=
  match (nodes.flatMap fun node => importPairs node.statement).reverse.find?
      fun pair => pair.1 = name with
  | some pair => pair.2
  | none => if name = "__import__".toList then builtinsImport else name

/-- An assignment of a chain as a definition of its name. -/
def definitionOf (entry : Text × Expression) : Option (Definition Text Text) :=
  (root entry.2).map fun id =>
    { target := entry.1
      source := id
      apply := fun meant => (through entry.2 meant).filter fun path => path ≠ [] }

/-- The assignments of chains to one name. -/
def definitions (nodes : List Node) : List (Definition Text Text) :=
  (assignmentsOf nodes).filterMap definitionOf

/-- What a name stands for in the bindings of the scan. -/
def reading (bindings : Bindings) (id : Text) : Text := (bindings id).getD id

/-- A chain is read through its root. -/
theorem dottedBinding_eq (bindings : Bindings) : ∀ expression : Expression,
    dottedBinding bindings expression =
      (root expression).bind fun id => through expression (reading bindings id)
  | .name _ => rfl
  | .attribute value attr => by
    have inner := dottedBinding_eq bindings value
    rw [dottedBinding, inner, root]
    cases root value with
    | none => rfl
    | some id => cases stands : through value (reading bindings id) <;> simp [through, stands]
  | .string _ => rfl
  | .int _ => rfl
  | .other _ => rfl

/-! ## The imports -/

/-- Bindings that are set one after the other: the last one of a name counts. -/
theorem foldl_set (pairs : List (Text × Text)) (bindings : Bindings) (name : Text) :
    pairs.foldl (fun bound pair => bound.set pair.1 pair.2) bindings name =
      match pairs.reverse.find? fun pair => pair.1 = name with
      | some pair => some pair.2
      | none => bindings name := by
  induction pairs generalizing bindings with
  | nil => rfl
  | cons first rest inductionHypothesis =>
    rw [List.foldl_cons, inductionHypothesis, List.reverse_cons, List.find?_append]
    cases rest.reverse.find? fun pair => pair.1 = name with
    | some pair => rfl
    | none =>
      by_cases here : name = first.1
      · simp [Bindings.set, here]
      · simp [Bindings.set, here, Ne.symm here]

theorem bindImport_pair (bindings : Bindings) (entry : Alias) :
    bindImport bindings entry = bindings.set (importPair entry).1 (importPair entry).2 := by
  unfold bindImport importPair
  cases entry.given <;> rfl

/-- The imports of a statement are set in their order. -/
theorem bindStatement_pairs (bindings : Bindings) (statement : Statement) :
    bindStatement bindings statement =
      (importPairs statement).foldl (fun bound pair => bound.set pair.1 pair.2) bindings := by
  cases statement with
  | importNames names =>
    unfold bindStatement importPairs
    rw [List.foldl_map]
    exact congrArg (fun step => names.foldl step bindings)
      (funext fun bound => funext fun entry => bindImport_pair bound entry)
  | importFrom level module names =>
    unfold bindStatement importPairs
    cases module with
    | none => rfl
    | some module =>
      dsimp only
      by_cases empty : module = []
      · rw [if_pos empty, if_pos empty]
        rfl
      · rw [if_neg empty, if_neg empty, List.foldl_map]
        rfl
  | assign targets value => rfl
  | annAssign target value => rfl
  | call call => rfl

/-- The scan reads the last import of a name. -/
theorem importBindings_reading (nodes : List Node) (name : Text) :
    reading (importBindings nodes) name = lastImport nodes name := by
  have flat : ∀ bindings, nodes.foldl (fun bound node => bindStatement bound node.statement)
      bindings = (nodes.flatMap fun node => importPairs node.statement).foldl
        (fun bound pair => bound.set pair.1 pair.2) bindings := by
    intro bindings
    rw [List.foldl_flatMap]
    exact congrArg (fun step => nodes.foldl step bindings)
      (funext fun bound => funext fun node => bindStatement_pairs bound node.statement)
  unfold reading importBindings lastImport
  rw [flat, foldl_set]
  cases (nodes.flatMap fun node => importPairs node.statement).reverse.find?
    fun pair => pair.1 = name with
  | some pair => rfl
  | none =>
    dsimp only
    unfold defaultBindings Bindings.set
    by_cases module : name = "importlib".toList
    · subst module
      rfl
    · rw [if_neg module]
      by_cases builtin : name = "__import__".toList
      · rw [if_pos builtin, if_pos builtin]
        rfl
      · rw [if_neg builtin, if_neg builtin]
        rfl

/-! ## The assignments -/

theorem reading_set (bindings : Bindings) (name path : Text) :
    reading (bindings.set name path) = Function.update (reading bindings) name path := by
  funext other
  unfold reading Bindings.set
  by_cases here : other = name
  · subst here
    rw [if_pos rfl, Function.update_self]
    rfl
  · rw [if_neg here, Function.update_of_ne here]

/-- An assignment of something else than a chain is left out. -/
theorem assign_plain (state : Bindings × Bool) (entry : Text × Expression)
    (plain : root entry.2 = none) : assign state entry = state := by
  unfold assign
  rw [dottedBinding_eq, plain]
  rfl

/-- An assignment of a chain is a definition. -/
theorem assign_chain (state : Bindings × Bool) (entry : Text × Expression)
    (definition : Definition Text Text) (chain : definitionOf entry = some definition) :
    reading (assign state entry).1 = definition.execute (reading state.1) := by
  unfold definitionOf at chain
  obtain ⟨id, start, rfl⟩ := Option.map_eq_some_iff.mp chain
  unfold assign
  rw [dottedBinding_eq, start, Option.bind_some]
  cases stands : through entry.2 (reading state.1 id) with
  | none =>
    rw [Definition.execute_none]
    dsimp only
    rw [stands]
    rfl
  | some path =>
    dsimp only
    by_cases empty : path = []
    · rw [if_neg (fun both => both.1 empty), Definition.execute_none]
      dsimp only
      rw [stands, empty]
      rfl
    · have applies : (through entry.2 (reading state.1 id)).filter (fun path => path ≠ []) =
          some path := by
        rw [stands]
        simp [empty]
      rw [Definition.execute_some _ _ path applies]
      by_cases same : state.1 entry.1 = some path
      · rw [if_neg (fun both => both.2 same)]
        have already : reading state.1 entry.1 = path := by
          rw [reading, same]
          rfl
        exact (Function.update_eq_self_iff.mpr already.symm).symm
      · rw [if_pos ⟨empty, same⟩]
        exact reading_set _ _ _

/-- A round of the inner loop is one of the definitions. -/
theorem foldl_assign (assignments : List (Text × Expression)) (state : Bindings × Bool) :
    reading (assignments.foldl assign state).1 =
      Definition.round (assignments.filterMap definitionOf) (reading state.1) := by
  unfold Definition.round
  induction assignments generalizing state with
  | nil => rfl
  | cons entry rest inductionHypothesis =>
    rw [List.foldl_cons, inductionHypothesis]
    cases chain : definitionOf entry with
    | some definition =>
      rw [List.filterMap_cons_some chain, List.foldl_cons, assign_chain state entry definition chain]
    | none =>
      have plain : root entry.2 = none := by
        unfold definitionOf at chain
        exact Option.map_eq_none_iff.mp chain
      rw [List.filterMap_cons_none chain, assign_plain state entry plain]

/-- While nothing is marked as changed, nothing has changed. -/
theorem foldl_unchanged (assignments : List (Text × Expression)) (state : Bindings × Bool)
    (unchanged : (assignments.foldl assign state).2 = false) :
    assignments.foldl assign state = state := by
  induction assignments generalizing state with
  | nil => rfl
  | cons entry rest inductionHypothesis =>
    rw [List.foldl_cons] at unchanged ⊢
    have rested := inductionHypothesis _ unchanged
    rw [rested] at unchanged ⊢
    unfold assign at unchanged ⊢
    split
    · rfl
    · next resolved found =>
      rw [found] at unchanged
      dsimp only at unchanged
      split
      · next both =>
        rw [if_pos both] at unchanged
        cases unchanged
      · rfl

/-- The outer loop carries out the definitions in rounds; it ends early only when further
rounds change nothing. -/
theorem assignRounds_reading (assignments : List (Text × Expression)) (count : Nat)
    (bindings : Bindings) :
    reading (assignRounds assignments count bindings) =
      Definition.rounds (assignments.filterMap definitionOf) count (reading bindings) := by
  induction count generalizing bindings with
  | zero => rfl
  | succ count inductionHypothesis =>
    have once := foldl_assign assignments (bindings, false)
    rw [Definition.rounds_first, ← once]
    unfold assignRounds
    dsimp only
    cases changed : (assignAll assignments bindings).2 with
    | true =>
      rw [if_pos rfl]
      exact inductionHypothesis _
    | false =>
      rw [if_neg Bool.false_ne_true]
      have same := foldl_unchanged assignments (bindings, false) changed
      have stable : Definition.round (assignments.filterMap definitionOf) (reading bindings) =
          reading bindings := by
        rw [← once, same]
      unfold assignAll
      rw [same]
      exact (Definition.rounds_stable _ count _ stable).symm

/-- What the scan reads for a name: the definitions in rounds, over the last imports. -/
theorem collected_reading (nodes : List Node) :
    reading (collectDynamicBindings nodes) =
      Definition.rounds (definitions nodes) ((assignmentsOf nodes).length + 1)
        (lastImport nodes) := by
  unfold collectDynamicBindings
  rw [assignRounds_reading, funext (importBindings_reading nodes)]
  rfl

/-! ## Which calls are recognised -/

/-- Going back from the end of a file, what a call calls is a loader: through the last
assignments of chains, around the file at most as often as it has assignments, and to the
last imports. -/
def LastLoads (nodes : List Node) (call : Call) : Prop :=
  ∃ id meant loader, root call.func = some id ∧
    Definition.Traces (lastImport nodes) (definitions nodes) (assignmentsOf nodes).length
      (definitions nodes).reverse id meant ∧
    through call.func meant = some loader ∧ loader ∈ dynamicLoaders

/-- A call is recognised when a loader is found by going back. -/
theorem recognised_iff (nodes : List Node) (call : Call) :
    (calledLoader (collectDynamicBindings nodes) call).isSome ↔ LastLoads nodes call := by
  unfold calledLoader LastLoads
  rw [dottedBinding_eq, collected_reading]
  constructor
  · intro recognised
    obtain ⟨loader, found⟩ := Option.isSome_iff_exists.mp recognised
    obtain ⟨found, among⟩ := Option.filter_eq_some_iff.mp found
    obtain ⟨id, start, stands⟩ := Option.bind_eq_some_iff.mp found
    exact ⟨id, _, loader, start, (Definition.traces_iff _ _ _).mpr rfl, stands, by simpa using among⟩
  · rintro ⟨id, meant, loader, start, traces, stands, among⟩
    rw [start, Option.bind_some, (Definition.traces_iff _ _ _).mp traces, stands]
    simp [among]

/-! ## Names that are bound once -/

/-- No two bindings of a name differ: the imports of a name agree, a name that is assigned a
chain is neither imported nor assigned another one, each assignment to a name has no other
target, and nothing is imported from `importlib` by a star. -/
structure BoundOnce (nodes : List Node) : Prop where
  imports : ∀ first ∈ nodes.flatMap (fun node => importPairs node.statement),
    ∀ second ∈ nodes.flatMap (fun node => importPairs node.statement),
      first.1 = second.1 → first.2 = second.2
  builtin : ∀ pair ∈ nodes.flatMap (fun node => importPairs node.statement),
    pair.1 = "__import__".toList → pair.2 = builtinsImport
  assigned : ((definitions nodes).map Definition.target).Nodup
  apart : ∀ definition ∈ definitions nodes, definition.target ≠ "__import__".toList ∧
    ∀ pair ∈ nodes.flatMap (fun node => importPairs node.statement), definition.target ≠ pair.1
  single : ∀ node ∈ nodes, ∀ targets value, node.statement = .assign targets value →
    ∀ id, Target.name id ∈ targets → targets = [.name id]
  named : ∀ node ∈ nodes, ∀ level module names, node.statement = .importFrom level module names →
    ∀ entry ∈ names, entry.name = "*".toList → module ≠ some "importlib".toList

/-- What a name denotes is derived for it. -/
def Derived (nodes : List Node) (environment : Environment) : Prop :=
  ∀ name path, environment name = some path → path ≠ [] ∧
    ∃ height, Definition.Derives (lastImport nodes) (definitions nodes) height name path

variable {nodes : List Node}

/-- Imports of a name that agree say what its last import is. -/
theorem lastImport_eq (name path : Text)
    (agree : ∀ pair ∈ nodes.flatMap (fun node => importPairs node.statement), pair.1 = name →
      pair.2 = path)
    (otherwise : (∀ pair ∈ nodes.flatMap (fun node => importPairs node.statement),
      pair.1 ≠ name) → (if name = "__import__".toList then builtinsImport else name) = path) :
    lastImport nodes name = path := by
  unfold lastImport
  split
  · next pair found =>
    have member := List.mem_reverse.mp (List.mem_of_find?_eq_some found)
    have same := List.find?_some found
    simp only [decide_eq_true_eq] at same
    exact agree pair member same
  · next absent =>
    refine otherwise fun pair member same => ?_
    exact List.find?_eq_none.mp absent pair (List.mem_reverse.mpr member) (decide_eq_true same)

/-- An imported name stands for what it is imported as. -/
theorem BoundOnce.imported (once : BoundOnce nodes) (pair : Text × Text)
    (member : pair ∈ nodes.flatMap fun node => importPairs node.statement) :
    Definition.Derives (lastImport nodes) (definitions nodes) 0 pair.1 pair.2 := by
  have last : lastImport nodes pair.1 = pair.2 := by
    refine lastImport_eq pair.1 pair.2 ?_ fun absent => absurd rfl (absent pair member)
    exact fun other there same => once.imports other there pair member same
  rw [← last]
  exact .base pair.1 fun definition there => (once.apart definition there).2 pair member

/-- The builtin loader is there from the start. -/
theorem BoundOnce.initial (once : BoundOnce nodes) : Derived nodes initialEnvironment := by
  intro name path there
  unfold initialEnvironment at there
  by_cases builtin : name = "__import__".toList
  · subst builtin
    rw [Function.update_self, Option.some.injEq] at there
    subst there
    refine ⟨by decide, 0, ?_⟩
    have last : lastImport nodes "__import__".toList = builtinsImport :=
      lastImport_eq _ _ once.builtin fun _ => if_pos rfl
    rw [← last]
    exact .base _ fun definition member => (once.apart definition member).1
  · rw [Function.update_of_ne builtin] at there
    cases there

/-- A further binding of something derived. -/
theorem Derived.update {environment : Environment} (derived : Derived nodes environment)
    (name : Text) (meaning : Option Text)
    (means : ∀ path, meaning = some path → path ≠ [] ∧
      ∃ height, Definition.Derives (lastImport nodes) (definitions nodes) height name path) :
    Derived nodes (Function.update environment name meaning) := by
  intro other path there
  by_cases here : other = name
  · subst here
    rw [Function.update_self] at there
    exact means path there
  · rw [Function.update_of_ne here] at there
    exact derived other path there

/-- An imported object is derived. -/
theorem BoundOnce.object (once : BoundOnce nodes) (pair : Text × Text)
    (member : pair ∈ nodes.flatMap fun node => importPairs node.statement) (path : Text)
    (there : object pair.2 = some path) : path ≠ [] ∧
      ∃ height, Definition.Derives (lastImport nodes) (definitions nodes) height pair.1 path := by
  unfold TraxOs.Boundaries.object at there
  split at there
  · cases there
  · next some =>
    cases there
    exact ⟨some, 0, once.imported pair member⟩

/-- What a chain denotes is what it stands for when its root denotes something. -/
theorem denote_eq (environment : Environment) : ∀ expression : Expression,
    denote environment expression =
      (root expression).bind fun id => (environment id).bind (through expression)
  | .name id => by
    unfold denote root
    rw [Option.bind_some]
    cases environment id <;> rfl
  | .attribute value attr => by
    have inner := denote_eq environment value
    rw [denote, inner, root]
    cases root value with
    | none => rfl
    | some id =>
      rw [Option.bind_some, Option.bind_some]
      cases environment id with
      | none => rfl
      | some meant =>
        rw [Option.bind_some, Option.bind_some, through]
  | .string _ => rfl
  | .int _ => rfl
  | .other _ => rfl

/-- What a chain stands for is named by some text. -/
theorem through_ne_nil (meant path : Text) (some : meant ≠ []) : ∀ expression : Expression,
    through expression meant = .some path → path ≠ []
  | .name _, stands => by
    rw [through, Option.some.injEq] at stands
    rwa [← stands]
  | .attribute value attr, stands => by
    rw [through] at stands
    cases inner : through value meant with
    | none =>
      rw [inner] at stands
      cases stands
    | some base =>
      rw [inner] at stands
      dsimp only at stands
      split at stands
      · cases stands
      · cases stands
        simp

/-- Bindings that are carried out one after the other. -/
theorem foldl_derived {α : Type} (step : Environment → α → Environment) (items : List α)
    (each : ∀ item ∈ items, ∀ environment, Derived nodes environment →
      Derived nodes (step environment item))
    (environment : Environment) (derived : Derived nodes environment) :
    Derived nodes (items.foldl step environment) := by
  induction items generalizing environment with
  | nil => exact derived
  | cons first rest inductionHypothesis =>
    rw [List.foldl_cons]
    exact inductionHypothesis (fun item member => each item (.tail _ member)) _
      (each first List.mem_cons_self environment derived)

/-- A name that is assigned a chain denotes what its definition makes of the root. -/
theorem Derived.assigned {environment : Environment} (derived : Derived nodes environment)
    (node : Node) (member : node ∈ nodes) (id : Text) (value : Expression)
    (assigns : assignment node.statement = some (id, value)) :
    Derived nodes (Function.update environment id (denote environment value)) := by
  refine derived.update id _ fun path denotes => ?_
  rw [denote_eq] at denotes
  obtain ⟨source, start, denotes⟩ := Option.bind_eq_some_iff.mp denotes
  obtain ⟨meant, known, stands⟩ := Option.bind_eq_some_iff.mp denotes
  obtain ⟨some, height, derives⟩ := derived source meant known
  have nonempty := through_ne_nil meant path some value stands
  have defined : (⟨id, source, fun meant => (through value meant).filter fun path => path ≠ []⟩ :
      Definition Text Text) ∈ definitions nodes := by
    unfold definitions
    refine List.mem_filterMap.mpr ⟨(id, value), ?_, by rw [definitionOf, start]; rfl⟩
    exact List.mem_filterMap.mpr ⟨node, member, assigns⟩
  refine ⟨nonempty, height + 1, .defined height _ meant path defined derives ?_⟩
  dsimp only
  rw [stands]
  simp [nonempty]

/-- A statement that is carried out keeps everything derived. -/
theorem BoundOnce.enter (once : BoundOnce nodes) (environment : Environment) (node : Node)
    (member : node ∈ nodes) (derived : Derived nodes environment) :
    Derived nodes (enter environment node.statement) := by
  have pairs : ∀ pair ∈ importPairs node.statement,
      pair ∈ nodes.flatMap fun node => importPairs node.statement :=
    fun pair there => List.mem_flatMap.mpr ⟨node, member, there⟩
  cases statement : node.statement with
  | importNames names =>
    unfold TraxOs.Boundaries.enter
    rw [statement] at pairs
    refine foldl_derived _ names (fun entry there bound derived => ?_) environment derived
    exact derived.update _ _ fun path means =>
      once.object (importPair entry) (pairs _ (List.mem_map.mpr ⟨entry, there, rfl⟩)) path means
  | importFrom level module names =>
    unfold TraxOs.Boundaries.enter
    dsimp only
    split
    · next absolute =>
      cases module with
      | none => exact absurd rfl absolute.2
      | some module =>
        have nonempty : module ≠ [] := absolute.2
        rw [statement, importPairs, if_neg nonempty] at pairs
        refine foldl_derived _ names (fun entry there bound derived => ?_) environment derived
        unfold enterFrom
        split
        · next star =>
          rw [if_neg]
          · exact derived
          · intro same
            exact once.named node member level _ names statement entry there star
              (congrArg some same)
        · exact derived.update _ _ fun path means =>
            once.object (fromPair module entry)
              (pairs _ (List.mem_map.mpr ⟨entry, there, rfl⟩)) path means
    · refine foldl_derived _ names (fun entry there bound derived => ?_) environment derived
      exact derived.update _ _ fun path means => by cases means
  | assign targets value =>
    unfold TraxOs.Boundaries.enter
    by_cases named : ∃ id, Target.name id ∈ targets
    · obtain ⟨id, there⟩ := named
      obtain rfl := once.single node member targets value statement id there
      exact derived.assigned node member id value (by rw [statement]; rfl)
    · refine foldl_derived _ targets (fun target there bound derived => ?_) environment derived
      cases target with
      | name id => exact absurd ⟨id, there⟩ named
      | sequence => exact derived
      | other => exact derived
  | annAssign target value =>
    cases target with
    | name id =>
      cases value with
      | some value => exact derived.assigned node member id value (by rw [statement]; rfl)
      | none => exact derived
    | sequence => exact derived
    | other => exact derived
  | call call => exact derived

/-- In a file that binds each name once, every sequence of bindings makes a name denote what
is derived for it. -/
theorem BoundOnce.reaches (once : BoundOnce nodes) (environment : Environment)
    (reached : Reaches nodes environment) : Derived nodes environment := by
  induction reached with
  | start => exact once.initial
  | enter environment node member _ inductionHypothesis =>
    exact once.enter environment node member inductionHypothesis

/-- In such a file every call that may load is recognised, however long its chain is and in
whatever order the assignments stand. -/
theorem BoundOnce.recognised (once : BoundOnce nodes) (call : Call) (loads : MayLoad nodes call) :
    (calledLoader (collectDynamicBindings nodes) call).isSome := by
  obtain ⟨environment, reached, loader, among, denotes⟩ := loads
  rw [denote_eq] at denotes
  obtain ⟨id, start, denotes⟩ := Option.bind_eq_some_iff.mp denotes
  obtain ⟨meant, known, stands⟩ := Option.bind_eq_some_iff.mp denotes
  obtain ⟨_, height, derives⟩ := once.reaches environment reached id meant known
  have enough : (definitions nodes).length ≤ (assignmentsOf nodes).length + 1 :=
    Nat.le_succ_of_le (List.length_filterMap_le _ _)
  have reads := Definition.rounds_derives once.assigned _ enough height id meant derives
  unfold calledLoader
  rw [dottedBinding_eq, start, Option.bind_some, collected_reading, reads, stands]
  simp [among]

/-- `load("fixture.app")`. -/
def loadCall : Call := ⟨.name "load".toList, [.string "fixture.app".toList], []⟩

/-- `from importlib import import_module as load`, the call, and `load = print`. -/
def reboundNodes : List Node :=
  [⟨1, .importFrom 0 (some "importlib".toList) [⟨"import_module".toList, some "load".toList⟩]⟩,
    ⟨2, .call loadCall⟩,
    ⟨3, .assign [.name "load".toList] (.name "print".toList)⟩]

/-- `fixture/foundation.py`. -/
def foundationFile : PythonFile where
  directories := ["fixture".toList]
  stem := "foundation".toList
  named := by decide

end TraxOs.Boundaries
