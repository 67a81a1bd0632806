import Mathlib.Data.List.Basic
import TraxOs.Api.Values

/-!
# The imports of Python files

The scan of Python source files for the checker of module boundaries. It reads which
modules a file imports, statically and through the two dynamic loaders, and reports what
it cannot follow.

A file is given by its path below the module root and by what a walk of its syntax tree
meets, in the order of the walk. A dictionary of bindings is a function.
-/

namespace TraxOs.Boundaries

open TraxOs.Api (Text)

/-- `text.split(".")`. -/
def parts (text : Text) : List Text := text.splitOn '.'

/-- `".".join(names)`. -/
def joined (names : List Text) : Text := ['.'].intercalate names

/-- `text.rsplit(".", count)`: at most so many cuts, from the right. -/
def rsplit (text : Text) (count : Nat) : List Text :=
  if (parts text).length ≤ count + 1 then parts text
  else
    joined ((parts text).take ((parts text).length - count)) ::
      (parts text).drop ((parts text).length - count)

/-- `text.startswith(start)`. -/
def startsWith (start text : Text) : Bool := start.isPrefixOf text

/-! ## Syntax -/

/-- An expression: a name, an attribute, a constant, or another one with its children. A
constant that is a truth value is an integer. -/
inductive Expression where
  | name (id : Text)
  | attribute (value : Expression) (attr : Text)
  | string (value : Text)
  | int (value : Nat)
  | other (children : List Expression)

mutual

/-- `ast.walk` of an expression. -/
def Expression.walk : Expression → List Expression
  | .name id => [.name id]
  | .attribute value attr => .attribute value attr :: value.walk
  | .string value => [.string value]
  | .int value => [.int value]
  | .other children => .other children :: walkAll children

def walkAll : List Expression → List Expression
  | [] => []
  | child :: rest => child.walk ++ walkAll rest

end

/-- `ast.alias`. -/
structure Alias where
  name : Text
  asname : Option Text

/-- What is assigned to: a name, a tuple, list or starred target, or anything else. -/
inductive Target where
  | name (id : Text)
  | sequence
  | other

/-- `ast.Call`. The name of a keyword is missing before two stars. -/
structure Call where
  func : Expression
  args : List Expression
  keywords : List (Option Text × Expression)

/-- The nodes that the scan looks at. -/
inductive Statement where
  | importNames (names : List Alias)
  | importFrom (level : Nat) (module : Option Text) (names : List Alias)
  | assign (targets : List Target) (value : Expression)
  | annAssign (target : Target) (value : Option Expression)
  | call (call : Call)

structure Node where
  line : Nat
  statement : Statement

/-- A file below the module root that Python can import: neither its directories nor its
stem have a dot. -/
structure PythonFile where
  directories : List Text
  stem : Text
  named : ∀ part ∈ directories ++ [stem], part ≠ [] ∧ '.' ∉ part

namespace PythonFile

variable (file : PythonFile)

/-- `filename.name == "__init__.py"`. -/
def isPackage : Bool := file.stem = "__init__".toList

/-- `module_name`. -/
def moduleName : Text :=
  joined (if file.isPackage then file.directories else file.directories ++ [file.stem])

/-- `source if source_is_package else source.rsplit(".", 1)[0]`. -/
def packageContext : Text :=
  if file.isPackage then file.moduleName else (rsplit file.moduleName 1).headD []

end PythonFile

/-! ## Bindings -/

/-- What each bound name stands for. -/
abbrev Bindings := Text → Option Text

/-- `dotted_binding`. -/
def dottedBinding (bindings : Bindings) : Expression → Option Text
  | .name id => some ((bindings id).getD id)
  | .attribute value attr =>
    match dottedBinding bindings value with
    | none => none
    | some base => if base = [] then none else some (base ++ '.' :: attr)
  | _ => none

def importModule : Text := "importlib.import_module".toList

def builtinsImport : Text := "builtins.__import__".toList

/-- `DYNAMIC_LOADERS`. -/
def dynamicLoaders : List Text := [importModule, builtinsImport]

/-- `destructuring_contains_loader`. -/
def destructuringContainsLoader (bindings : Bindings) (value : Expression) : Bool :=
  value.walk.any fun child =>
    match dottedBinding bindings child with
    | some path => path ∈ dynamicLoaders
    | none => false

/-- `bindings[name] = path`. -/
def Bindings.set (bindings : Bindings) (name path : Text) : Bindings :=
  fun other => if other = name then some path else bindings other

/-- The alternative name of an alias, if it has one. -/
def Alias.given (entry : Alias) : Option Text := entry.asname.filter fun asname => asname ≠ []

/-- `name.split(".")[0]`. -/
def topName (name : Text) : Text := (parts name).headD []

/-- What an entry of `import` binds. -/
def bindImport (bindings : Bindings) (entry : Alias) : Bindings :=
  match entry.given with
  | some asname => bindings.set asname entry.name
  | none => bindings.set (topName entry.name) (topName entry.name)

/-- What an entry of `from module import` binds. -/
def bindFrom (module : Text) (bindings : Bindings) (entry : Alias) : Bindings :=
  bindings.set (entry.given.getD entry.name) (module ++ '.' :: entry.name)

/-- The bindings of a statement that imports. -/
def bindStatement (bindings : Bindings) : Statement → Bindings
  | .importNames names => names.foldl bindImport bindings
  | .importFrom _ (some module) names =>
    if module = [] then bindings else names.foldl (bindFrom module) bindings
  | _ => bindings

/-- An assignment to one name. -/
def assignment : Statement → Option (Text × Expression)
  | .assign [.name id] value => some (id, value)
  | .annAssign (.name id) (some value) => some (id, value)
  | _ => none

/-- One round of the inner loop, with `changed`. -/
def assign (state : Bindings × Bool) (entry : Text × Expression) : Bindings × Bool :=
  match dottedBinding state.1 entry.2 with
  | none => state
  | some resolved =>
    if resolved ≠ [] ∧ state.1 entry.1 ≠ some resolved then
      (state.1.set entry.1 resolved, true)
    else state

/-- One round of the outer loop. -/
def assignAll (assignments : List (Text × Expression)) (bindings : Bindings) : Bindings × Bool :=
  assignments.foldl assign (bindings, false)

/-- The outer loop, which ends when nothing has changed. -/
def assignRounds (assignments : List (Text × Expression)) : Nat → Bindings → Bindings
  | 0, bindings => bindings
  | rounds + 1, bindings =>
    let after := assignAll assignments bindings
    if after.2 then assignRounds assignments rounds after.1 else after.1

/-- The bindings before any statement. -/
def defaultBindings : Bindings :=
  Bindings.set (Bindings.set (fun _ => none) "__import__".toList builtinsImport)
    "importlib".toList "importlib".toList

/-- The bindings of all imports. -/
def importBindings (nodes : List Node) : Bindings :=
  nodes.foldl (fun bindings node => bindStatement bindings node.statement) defaultBindings

/-- The assignments to one name. -/
def assignmentsOf (nodes : List Node) : List (Text × Expression) :=
  nodes.filterMap fun node => assignment node.statement

/-- `collect_dynamic_bindings`. -/
def collectDynamicBindings (nodes : List Node) : Bindings :=
  assignRounds (assignmentsOf nodes) ((assignmentsOf nodes).length + 1) (importBindings nodes)

/-! ## Resolution -/

/-- `resolve_from`. -/
def resolveFrom (file : PythonFile) (level : Nat) (module : Option Text) : Option Text :=
  if level = 0 then module
  else
    let package :=
      if file.isPackage then parts file.moduleName else (parts file.moduleName).dropLast
    let ascend := level - 1
    if ascend > package.length then none
    else
      let base := package.take (package.length - ascend)
      match module with
      | none => some (joined base)
      | some name => if name = [] then some (joined base) else some (joined (base ++ parts name))

/-- `len(target) - len(target.lstrip("."))`. -/
def leadingDots (target : Text) : Nat := (target.takeWhile fun character => character = '.').length

/-- `resolve_dynamic_relative`. Without a leading dot, for which `ascend` would be negative,
the whole package stays as well. -/
def resolveDynamicRelative (packageContext target : Text) : Option Text :=
  let level := leadingDots target
  let remainder := target.drop level
  let package := parts packageContext
  let ascend := level - 1
  if ascend > package.length then none
  else
    let base := package.take (package.length - ascend)
    if remainder = [] then some (joined base) else some (joined (base ++ parts remainder))

/-! ## The scan -/

/-- The kinds of diagnostics of a file that could be parsed. -/
inductive DiagnosticKind where
  | dynamicLoaderDestructuring
  | relativeImportEscape
  | dynamicImportNonliteral
deriving DecidableEq

structure Diagnostic where
  source : Text
  line : Nat
  kind : DiagnosticKind
  detail : String
deriving DecidableEq

structure ImportEdge where
  source : Text
  target : Text
  names : List Text
  line : Nat
  dynamic : Bool
deriving DecidableEq

/-- What the scan reports. -/
structure Facts where
  edges : List ImportEdge
  diagnostics : List Diagnostic
deriving DecidableEq

def Facts.none : Facts := ⟨[], []⟩

/-- `name == package or name.startswith(f"{package}.")`. -/
def isInternal (package name : Text) : Bool :=
  name = package || startsWith (package ++ ['.']) name

/-- The order of texts by their code points. -/
def textLe : Text → Text → Bool
  | [], _ => true
  | _ :: _, [] => false
  | left :: lefts, right :: rights =>
    left.toNat < right.toNat || (left = right && textLe lefts rights)

/-- `imported_names`. -/
def importedNames (names : List Alias) : List Text :=
  (names.map Alias.name).mergeSort textLe

/-- The argument for `package` of a call of `importlib.import_module`. -/
def Call.packageNode (call : Call) : Option Expression :=
  match call.args[1]? with
  | some argument => some argument
  | none => (call.keywords.find? fun keyword => keyword.1 = some "package".toList).map Prod.snd

/-- The argument for `level` of a call of `builtins.__import__`. -/
def Call.levelNode (call : Call) : Option Expression :=
  match call.keywords.find? fun keyword => keyword.1 = some "level".toList with
  | some keyword => some keyword.2
  | none => call.args[4]?

section Scan

variable (file : PythonFile) (package : Text) (knownModules : List Text) (bindings : Bindings)

/-- A report of one diagnostic. -/
def diagnose (line : Nat) (kind : DiagnosticKind) (detail : String) : Facts :=
  ⟨[], [⟨file.moduleName, line, kind, detail⟩]⟩

/-- `import`. -/
def scanImport (line : Nat) (names : List Alias) : Facts :=
  { edges := (names.filter fun entry => isInternal package entry.name).map fun entry =>
      ⟨file.moduleName, entry.name, [entry.name], line, false⟩
    diagnostics := [] }

/-- The edges of `from target import`: to the modules among the names, and to the target. -/
def fromEdges (line : Nat) (target : Text) (names : List Text) : List ImportEdge :=
  let candidate := fun name => target ++ '.' :: name
  let ordinaryNames := names.filter fun name => candidate name ∉ knownModules
  (names.filter fun name => candidate name ∈ knownModules).map
      (fun name => ⟨file.moduleName, candidate name, [name], line, false⟩) ++
    if ordinaryNames = [] then []
    else [⟨file.moduleName, target, ordinaryNames, line, false⟩]

/-- `from … import`. -/
def scanImportFrom (line level : Nat) (module : Option Text) (names : List Alias) : Facts :=
  match resolveFrom file level module with
  | some target =>
    if target ≠ [] ∧ isInternal package target then
      ⟨fromEdges file knownModules line target (importedNames names), []⟩
    else Facts.none
  | none =>
    if level > 0 then
      diagnose file line .relativeImportEscape "relative import escapes the configured package"
    else Facts.none

/-- The package that a relative `importlib.import_module` starts from. -/
def importContext : Option Expression → Option Text
  | some (.string value) => some value
  | some (.name id) => if id = "__package__".toList then some file.packageContext else none
  | _ => none

/-- The absolute target of a call of a loader, or what is wrong with it. -/
def dynamicTarget (loader : Text) (call : Call) (target : Text) :
    Except (DiagnosticKind × String) Text :=
  let escape : DiagnosticKind × String :=
    (.relativeImportEscape, "dynamic relative import escapes the configured package")
  if loader = importModule ∧ startsWith ['.'] target then
    match importContext file call.packageNode with
    | none =>
      .error (.dynamicImportNonliteral,
        "relative import package is not a literal string or __package__")
    | some context =>
      match resolveDynamicRelative context target with
      | none => .error escape
      | some resolved => .ok resolved
  else if loader = builtinsImport then
    match call.levelNode with
    | none => .ok target
    | some (.int level) =>
      if level > 0 then
        match resolveDynamicRelative file.packageContext (List.replicate level '.' ++ target) with
        | none => .error escape
        | some resolved => .ok resolved
      else .ok target
    | some _ =>
      .error (.dynamicImportNonliteral, "dynamic import level is not a literal integer")
  else .ok target

/-- The loader that a call calls. -/
def calledLoader (call : Call) : Option Text :=
  (dottedBinding bindings call.func).filter fun path => path ∈ dynamicLoaders

/-- A call. -/
def scanCall (line : Nat) (call : Call) : Facts :=
  match calledLoader bindings call with
  | none => Facts.none
  | some loader =>
    match call.args.head? with
    | some (.string literal) =>
      match dynamicTarget file loader call literal with
      | .error (kind, detail) => diagnose file line kind detail
      | .ok target =>
        if isInternal package target then
          ⟨[⟨file.moduleName, target, [target], line, true⟩], []⟩
        else Facts.none
    | _ =>
      diagnose file line .dynamicImportNonliteral "dynamic import target is not a string literal"

/-- The diagnostic of a loader that is assigned by destructuring. -/
def diagnoseDestructuring (line : Nat) : Facts :=
  diagnose file line .dynamicLoaderDestructuring
    "dynamic import loader assigned through tuple/list/starred destructuring"

/-- The target is destructured. -/
def Target.destructures : Target → Bool
  | .sequence => true
  | _ => false

/-- One node of the walk. -/
def scanNode (node : Node) : Facts :=
  match node.statement with
  | .assign targets value =>
    if targets.any Target.destructures && destructuringContainsLoader bindings value then
      diagnoseDestructuring file node.line
    else Facts.none
  | .annAssign target value =>
    match value with
    | some value =>
      if target.destructures && destructuringContainsLoader bindings value then
        diagnoseDestructuring file node.line
      else Facts.none
    | none => Facts.none
  | .importNames names => scanImport file package node.line names
  | .importFrom level module names =>
    scanImportFrom file package knownModules node.line level module names
  | .call call => scanCall file package bindings node.line call

/-- What the scan reports of one file, in the order of the walk. -/
def scanTree (nodes : List Node) : Facts :=
  let facts := nodes.map (scanNode file package knownModules (collectDynamicBindings nodes))
  ⟨facts.flatMap Facts.edges, facts.flatMap Facts.diagnostics⟩

end Scan

end TraxOs.Boundaries
