import Mathlib.Data.List.TakeDrop
import TraxOs.Boundaries.PythonImports

/-!
# Relative imports

What the scan makes of a relative import, against what Python makes of it. Python takes as
many parts off the end of the package as there are dots behind the first one, and refuses
to take the last one. The scan refuses one dot later.
-/

namespace TraxOs.Boundaries

open TraxOs.Api (Text)

/-! ## Parts of names -/

theorem joined_parts (text : Text) : joined (parts text) = text := List.intercalate_splitOn '.'

theorem parts_joined (names : List Text) (some : names ≠ []) (dotless : ∀ name ∈ names, '.' ∉ name) :
    parts (joined names) = names := List.splitOn_intercalate '.' dotless some

theorem parts_ne_nil (text : Text) : parts text ≠ [] := List.splitOn_ne_nil '.' text

theorem joined_cons (first : Text) (rest : List Text) (more : rest ≠ []) :
    joined (first :: rest) = first ++ '.' :: joined rest := by
  unfold joined
  rw [List.intercalate_cons_of_ne_nil more]
  simp

/-- Names are joined with one dot between them. -/
theorem joined_append (front back : List Text) (some : front ≠ []) (more : back ≠ []) :
    joined (front ++ back) = joined front ++ '.' :: joined back := by
  induction front with
  | nil => exact absurd rfl some
  | cons first rest inductionHypothesis =>
    by_cases last : rest = []
    · subst last
      rw [List.singleton_append, joined_cons first back more]
      simp [joined, List.intercalate_singleton]
    · rw [List.cons_append, joined_cons first _ (by simp [last]), inductionHypothesis last,
        joined_cons first rest last]
      simp

/-- There is one dot less than there are parts. -/
theorem parts_length (text : Text) : (parts text).length = text.count '.' + 1 := by
  unfold parts
  induction text with
  | nil => simp
  | cons character rest inductionHypothesis =>
    rw [List.splitOn_cons_eq_if_modifyHead]
    by_cases dot : character = '.'
    · subst dot
      simp [inductionHypothesis]
    · have other : (character == '.') = false := by simp [dot]
      simp only [other, Bool.false_eq_true, if_false, List.length_modifyHead, inductionHypothesis]
      rw [List.count_cons_of_ne dot]

/-- Among joined names there are at least the dots between them. -/
theorem count_joined (front : List Text) (back : Text) (some : front ≠ []) :
    (joined (front ++ parts back)).count '.' = (joined front).count '.' + 1 + back.count '.' := by
  rw [joined_append front _ some (parts_ne_nil back), joined_parts, List.count_append,
    List.count_cons_self]
  omega

theorem count_joined_dotless (names : List Text) (dotless : ∀ name ∈ names, '.' ∉ name) :
    (joined names).count '.' = names.length - 1 := by
  by_cases none : names = []
  · subst none
    rfl
  · have length := parts_length (joined names)
    rw [parts_joined names none dotless] at length
    omega

/-- No part has a dot. -/
theorem dotless_parts (text : Text) : ∀ part ∈ parts text, '.' ∉ part := by
  unfold parts
  induction text with
  | nil => simp
  | cons character rest inductionHypothesis =>
    rw [List.splitOn_cons_eq_if_modifyHead]
    by_cases dot : character = '.'
    · subst dot
      simpa using inductionHypothesis
    · have other : (character == '.') = false := by simp [dot]
      simp only [other, Bool.false_eq_true, if_false]
      cases split : rest.splitOn '.' with
      | nil => exact absurd split (List.splitOn_ne_nil '.' rest)
      | cons first others =>
        rw [split] at inductionHypothesis
        simp only [List.modifyHead_cons, List.mem_cons]
        rintro part (rfl | member)
        · rw [List.mem_cons, not_or]
          exact ⟨fun same => dot same.symm, inductionHypothesis first List.mem_cons_self⟩
        · exact inductionHypothesis part (List.mem_cons_of_mem _ member)

/-! ## How Python resolves names -/

/-- `_resolve_name` of the import system, with the check before it: an empty package is no
package. Nothing stands for an error. -/
def resolveName (name package : Text) (level : Nat) : Option Text :=
  if package = [] then none
  else
    let bits := rsplit package (level - 1)
    if bits.length < level then none
    else
      let base := bits.headD []
      if name = [] then some base else some (base ++ '.' :: name)

/-- A split from the right has as many pieces as it may, and no more than there are parts. -/
theorem rsplit_length (text : Text) (count : Nat) :
    (rsplit text count).length = min (parts text).length (count + 1) := by
  unfold rsplit
  split
  · next few => rw [Nat.min_eq_left few]
  · next many =>
    rw [List.length_cons, List.length_drop]
    omega

/-- The first piece of a split from the right is what is left of the parts. -/
theorem rsplit_head (text : Text) (count : Nat) (enough : count + 1 ≤ (parts text).length) :
    (rsplit text count).headD [] =
      joined ((parts text).take ((parts text).length - count)) := by
  unfold rsplit
  split
  · next few =>
    have same : (parts text).length - count = 1 := by omega
    rw [same]
    cases parts text with
    | nil => rfl
    | cons first rest => exact (List.intercalate_singleton).symm
  · rfl

/-- The scan's way: the parts that stay, and those of the name. -/
def resolveIn (package : List Text) (level : Nat) (name : Text) : Option Text :=
  if level - 1 > package.length then none
  else
    some (joined (package.take (package.length - (level - 1)) ++
      if name = [] then [] else parts name))

/-- Where enough parts are left, Python resolves a name like the scan. -/
theorem resolveName_within (name package : Text) (level : Nat) (positive : 0 < level)
    (nonempty : package ≠ []) (enough : level ≤ (parts package).length) :
    resolveName name package level = resolveIn (parts package) level name := by
  have bits : ¬ (rsplit package (level - 1)).length < level := by
    rw [rsplit_length]
    omega
  have stays : (parts package).take ((parts package).length - (level - 1)) ≠ [] := by
    rw [Ne, List.take_eq_nil_iff]
    rintro (none | none)
    · omega
    · exact parts_ne_nil package none
  have within : ¬ level - 1 > (parts package).length := by omega
  unfold resolveName resolveIn
  rw [if_neg nonempty, if_neg within]
  dsimp only
  rw [if_neg bits, rsplit_head package _ (by omega)]
  by_cases plain : name = []
  · rw [if_pos plain, if_pos plain, List.append_nil]
  · rw [if_neg plain, if_neg plain, joined_append _ _ stays (parts_ne_nil name), joined_parts]

/-- Where Python would have to take the last part, it refuses. -/
theorem resolveName_beyond (name package : Text) (level : Nat)
    (beyond : package = [] ∨ (parts package).length < level) :
    resolveName name package level = none := by
  unfold resolveName
  by_cases empty : package = []
  · rw [if_pos empty]
  · have few := beyond.resolve_left empty
    rw [if_neg empty, if_pos (by rw [rsplit_length]; omega)]

/-- The scan refuses one dot after the last part is taken. -/
theorem resolveIn_none (package : List Text) (level : Nat) (name : Text) :
    resolveIn package level name = none ↔ package.length + 1 < level := by
  unfold resolveIn
  by_cases beyond : level - 1 > package.length
  · rw [if_pos beyond]
    exact iff_of_true rfl (by omega)
  · rw [if_neg beyond]
    exact iff_of_false (by simp) (by omega)

/-- Both ways agree unless exactly all parts are taken, or there is no package for Python
and the scan still has parts. -/
theorem resolveIn_iff (context : List Text) (package name : Text) (level : Nat)
    (positive : 0 < level) (same : package ≠ [] → context = parts package) :
    resolveIn context level name = resolveName name package level ↔
      if package = [] then context.length + 1 < level else level ≠ context.length + 1 := by
  by_cases empty : package = []
  · rw [if_pos empty, resolveName_beyond name package level (Or.inl empty), resolveIn_none]
  · rw [if_neg empty]
    obtain rfl := same empty
    by_cases enough : level ≤ (parts package).length
    · rw [resolveName_within name package level positive empty enough]
      exact iff_of_true rfl (by omega)
    · rw [resolveName_beyond name package level (Or.inr (by omega)), resolveIn_none]
      omega

/-! ## Names with leading dots -/

theorem leadingDots_replicate (level : Nat) (name : Text) :
    leadingDots (List.replicate level '.' ++ name) = level + leadingDots name := by
  unfold leadingDots
  rw [List.takeWhile_append_of_pos (by simp)]
  simp

theorem drop_replicate (level dots : Nat) (name : Text) :
    (List.replicate level '.' ++ name).drop (level + dots) = name.drop dots := by
  rw [List.drop_append]
  simp

/-- A name is its leading dots and the rest. -/
theorem leadingDots_append (name : Text) :
    List.replicate (leadingDots name) '.' ++ name.drop (leadingDots name) = name := by
  induction name with
  | nil => rfl
  | cons character rest inductionHypothesis =>
    by_cases dot : character = '.'
    · subst dot
      have one : leadingDots ('.' :: rest) = leadingDots rest + 1 := by
        simp [leadingDots]
      rw [one, List.replicate_succ, List.drop_succ_cons, List.cons_append, inductionHypothesis]
    · simp [leadingDots, dot]

/-- The scan resolves a dynamic target by its leading dots. -/
theorem resolveDynamicRelative_eq (context target : Text) :
    resolveDynamicRelative context target =
      resolveIn (parts context) (leadingDots target) (target.drop (leadingDots target)) := by
  unfold resolveDynamicRelative resolveIn
  dsimp only
  split
  · rfl
  · split
    · simp
    · rfl

/-- The scan resolves a `from` import by its level. -/
theorem resolveFrom_eq (file : PythonFile) (level : Nat) (positive : 0 < level)
    (module : Option Text) :
    resolveFrom file level module = resolveIn
      (if file.isPackage then parts file.moduleName else (parts file.moduleName).dropLast)
      level (module.getD []) := by
  unfold resolveFrom resolveIn
  rw [if_neg (Nat.ne_of_gt positive)]
  dsimp only
  generalize (if file.isPackage then parts file.moduleName
    else (parts file.moduleName).dropLast) = package
  by_cases beyond : level - 1 > package.length
  · rw [if_pos beyond, if_pos beyond]
  · rw [if_neg beyond, if_neg beyond]
    cases module with
    | none => simp
    | some name => by_cases plain : name = [] <;> simp [plain]

/-- A name that the scan resolves has no more dots than parts that stay and dots before. -/
theorem count_resolved (front : List Text) (name : Text) (dotless : ∀ part ∈ front, '.' ∉ part) :
    (joined (front ++ if name = [] then [] else parts name)).count '.' ≤
      front.length + name.count '.' := by
  have before := count_joined_dotless front dotless
  by_cases plain : name = []
  · rw [if_pos plain, List.append_nil, before]
    omega
  · rw [if_neg plain]
    by_cases none : front = []
    · subst none
      rw [List.nil_append, joined_parts]
      omega
    · rw [count_joined front name none, before]
      have some := List.length_pos_of_ne_nil none
      omega

/-- Dots in front of the name are more levels for the scan, and belong to the name for
Python. So they agree on refusals only. -/
theorem resolveIn_dotted (context : List Text) (package name : Text) (level : Nat)
    (positive : 0 < level) (same : package ≠ [] → context = parts package)
    (dotted : 0 < leadingDots name) :
    resolveIn context (level + leadingDots name) (name.drop (leadingDots name)) =
        resolveName name package level ↔
      if package = [] then context.length + 1 < level + leadingDots name
      else context.length < level := by
  by_cases empty : package = []
  · rw [if_pos empty, resolveName_beyond name package level (Or.inl empty), resolveIn_none]
  rw [if_neg empty]
  obtain rfl := same empty
  by_cases beyond : (parts package).length < level
  · rw [resolveName_beyond name package level (Or.inr beyond), resolveIn_none]
    exact iff_of_true (by omega) beyond
  refine iff_of_false ?_ beyond
  rw [resolveName_within name package level positive empty (by omega)]
  intro equal
  have within : ¬ level - 1 > (parts package).length := by omega
  unfold resolveIn at equal
  rw [if_neg within] at equal
  split at equal
  · cases equal
  · have nonempty : name ≠ [] := by
      rintro rfl
      exact Nat.lt_irrefl _ dotted
    have dots := congrArg (List.count '.') (Option.some.inj equal)
    have few := count_resolved
      ((parts package).take ((parts package).length - (level + leadingDots name - 1)))
      (name.drop (leadingDots name))
      (fun part member => dotless_parts package part (List.mem_of_mem_take member))
    have whole := congrArg (List.count '.') (leadingDots_append name)
    rw [List.count_append, List.count_replicate_self] at whole
    have stays : (parts package).take ((parts package).length - (level - 1)) ≠ [] := by
      rw [Ne, List.take_eq_nil_iff]
      rintro (none | none)
      · omega
      · exact parts_ne_nil package none
    have before := count_joined_dotless
      ((parts package).take ((parts package).length - (level - 1)))
      (fun part member => dotless_parts package part (List.mem_of_mem_take member))
    rw [if_neg nonempty, count_joined _ name stays, before] at dots
    rw [List.length_take] at few dots
    omega

/-! ## The package of a file -/

namespace PythonFile

variable (file : PythonFile)

/-- `__package__`: the directories of a file, whether it is a package or a module in one. It
is empty for a file that lies in no package. -/
def package : Text := joined file.directories

theorem dotless_directories : ∀ part ∈ file.directories, '.' ∉ part :=
  fun part member => (file.named part (List.mem_append_left _ member)).2

theorem dotless_stem : '.' ∉ file.stem :=
  (file.named file.stem (List.mem_append_right _ (List.mem_singleton_self _))).2

/-- Only a file in no package has an empty one. -/
theorem package_eq_nil : file.package = [] ↔ file.directories = [] := by
  unfold package
  constructor
  · intro empty
    by_contra some
    cases directories : file.directories with
    | nil => exact some directories
    | cons first rest =>
      have nonempty := (file.named first
        (List.mem_append_left _ (directories ▸ List.mem_cons_self))).1
      rw [directories] at empty
      by_cases last : rest = []
      · subst last
        exact nonempty ((List.intercalate_singleton).symm.trans empty)
      · rw [joined_cons first rest last] at empty
        exact nonempty (List.append_eq_nil_iff.mp empty).1
  · intro none
    rw [none]
    rfl

theorem parts_package (some : file.directories ≠ []) : parts file.package = file.directories :=
  parts_joined file.directories some file.dotless_directories

/-- The parts of a module's name. -/
theorem parts_module (plain : file.isPackage = false) :
    parts file.moduleName = file.directories ++ [file.stem] := by
  unfold moduleName
  rw [plain, if_neg Bool.false_ne_true]
  exact parts_joined _ (by simp) fun part member => (file.named part member).2

/-- A package is named like its directories. -/
theorem moduleName_package (init : file.isPackage = true) : file.moduleName = file.package := by
  unfold moduleName package
  rw [if_pos init]

/-- The parts that `resolve_from` starts with. -/
def fromContext : List Text :=
  if file.isPackage then parts file.moduleName else (parts file.moduleName).dropLast

theorem fromContext_some (some : file.directories ≠ []) :
    file.fromContext = parts file.package := by
  unfold fromContext
  cases init : file.isPackage with
  | true => rw [if_pos rfl, file.moduleName_package init]
  | false =>
    rw [if_neg Bool.false_ne_true, file.parts_module init, List.dropLast_concat,
      file.parts_package some]

theorem fromContext_none (none : file.directories = []) :
    file.fromContext.length = if file.isPackage then 1 else 0 := by
  unfold fromContext
  cases init : file.isPackage with
  | true =>
    rw [if_pos rfl, file.moduleName_package init, (file.package_eq_nil).mpr none]
    rfl
  | false =>
    rw [if_neg Bool.false_ne_true, file.parts_module init, List.dropLast_concat, none]
    rfl

/-- The dynamic forms start with the package of the file. -/
theorem packageContext_some (some : file.directories ≠ []) :
    file.packageContext = file.package := by
  unfold packageContext
  cases init : file.isPackage with
  | true => rw [if_pos rfl, file.moduleName_package init]
  | false =>
    have positive := List.length_pos_of_ne_nil some
    have length : (parts file.moduleName).length = file.directories.length + 1 := by
      rw [file.parts_module init, List.length_append, List.length_singleton]
    rw [if_neg Bool.false_ne_true, rsplit_head file.moduleName 1 (by omega), length,
      Nat.add_sub_cancel, file.parts_module init, List.take_left]
    rfl

/-- Without a package they start with one part. -/
theorem packageContext_none (none : file.directories = []) :
    (parts file.packageContext).length = 1 := by
  unfold packageContext
  cases init : file.isPackage with
  | true =>
    rw [if_pos rfl, file.moduleName_package init, (file.package_eq_nil).mpr none]
    rfl
  | false =>
    have only := file.parts_module init
    rw [none, List.nil_append] at only
    rw [if_neg Bool.false_ne_true]
    unfold rsplit
    rw [only, if_pos (by simp)]
    exact congrArg List.length (List.splitOn_eq_singleton file.dotless_stem)

end PythonFile

/-! ## Relative imports -/

/-- The relative imports: a `from` import with a level, a call of `import_module` with
leading dots and a literal package or `__package__`, and a call of `__import__` with a
literal positive level and the globals of its module. -/
inductive RelativeImport (bindings : Bindings) where
  | fromImport (level : Nat) (positive : 0 < level) (module : Option Text) (names : List Alias)
  | importModule (call : Call) (target : Text) (package : Option Text)
      (loads : calledLoader bindings call = some importModule)
      (literal : call.args.head? = some (.string target))
      (relative : startsWith ['.'] target = true)
      (given : call.packageNode = some (match package with
        | some value => .string value
        | none => .name "__package__".toList))
  | builtinsImport (call : Call) (target : Text) (level : Nat) (positive : 0 < level)
      (loads : calledLoader bindings call = some builtinsImport)
      (literal : call.args.head? = some (.string target))
      (given : call.levelNode = some (.int level))

namespace RelativeImport

variable {bindings : Bindings} (file : PythonFile)

/-- The node in the walk. -/
def statement : RelativeImport bindings → Statement
  | .fromImport level _ module names => .importFrom level module names
  | .importModule call .. => .call call
  | .builtinsImport call .. => .call call

/-- The name that the scan goes on with. -/
def scanned : RelativeImport bindings → Option Text
  | .fromImport level _ module _ => resolveFrom file level module
  | .importModule call target .. =>
    (dynamicTarget file TraxOs.Boundaries.importModule call target).toOption
  | .builtinsImport call target .. =>
    (dynamicTarget file TraxOs.Boundaries.builtinsImport call target).toOption

/-- The name that Python imports. -/
def imported : RelativeImport bindings → Option Text
  | .fromImport level _ module _ => resolveName (module.getD []) file.package level
  | .importModule _ target package .. =>
    resolveName (target.drop (leadingDots target)) (package.getD file.package)
      (leadingDots target)
  | .builtinsImport _ target level .. => resolveName target file.package level

/-- Where the scan does what Python does. The number of dots is not one more than that of
the parts of the package; outside of a package there are more dots than the scan has parts;
and a target of `__import__` has no dots of its own, or is refused because of its level. -/
def Faithful : RelativeImport bindings → Prop
  | .fromImport level .. =>
    if file.directories = [] then (if file.isPackage then 2 else 1) < level
    else level ≠ file.directories.length + 1
  | .importModule _ target (some literal) .. =>
    if literal = [] then 2 < leadingDots target
    else leadingDots target ≠ (parts literal).length + 1
  | .importModule _ target none .. =>
    if file.directories = [] then 2 < leadingDots target
    else leadingDots target ≠ file.directories.length + 1
  | .builtinsImport _ target level .. =>
    if file.directories = [] then 2 < level + leadingDots target
    else if leadingDots target = 0 then level ≠ file.directories.length + 1
    else file.directories.length < level

/-- A diagnostic says that a relative import escapes. -/
def Escapes (facts : Facts) : Prop :=
  ∃ diagnostic ∈ facts.diagnostics, diagnostic.kind = .relativeImportEscape

theorem diagnose_escapes (line : Nat) (kind : DiagnosticKind) (detail : String) :
    Escapes (diagnose file line kind detail) ↔ kind = .relativeImportEscape := by
  simp [Escapes, diagnose]

theorem none_escapes : ¬ Escapes Facts.none := by
  simp [Escapes, Facts.none]

theorem edges_escapes (edges : List ImportEdge) : ¬ Escapes ⟨edges, []⟩ := by
  simp [Escapes]

/-- A call of a loader escapes when its target does. -/
theorem scanCall_escapes (package : Text) (line : Nat) (call : Call) (loader target : Text)
    (loads : calledLoader bindings call = some loader)
    (literal : call.args.head? = some (.string target))
    (escapes : ∀ error, dynamicTarget file loader call target = .error error →
      error.1 = .relativeImportEscape) :
    Escapes (scanCall file package bindings line call) ↔
      (dynamicTarget file loader call target).toOption = none := by
  unfold scanCall
  rw [loads]
  dsimp only
  rw [literal]
  dsimp only
  cases resolved : dynamicTarget file loader call target with
  | error error =>
    dsimp only
    rw [diagnose_escapes]
    exact iff_of_true (escapes error resolved) rfl
  | ok name =>
    refine iff_of_false ?_ (by simp [Except.toOption])
    dsimp only
    split
    · exact edges_escapes _
    · exact none_escapes

/-- An outcome of resolution that is gone on with or reported. -/
def orEscape : Option Text → Except (DiagnosticKind × String) Text
  | some resolved => .ok resolved
  | none =>
    .error (.relativeImportEscape, "dynamic relative import escapes the configured package")

theorem orEscape_toOption (resolved : Option Text) : (orEscape resolved).toOption = resolved := by
  cases resolved <;> rfl

theorem orEscape_error (resolved : Option Text) (error : DiagnosticKind × String)
    (failed : orEscape resolved = .error error) : error.1 = .relativeImportEscape := by
  cases resolved with
  | none =>
    cases failed
    rfl
  | some name => cases failed

/-- A relative `import_module` is resolved in its package. -/
theorem dynamicTarget_importModule (call : Call) (target context : Text)
    (relative : startsWith ['.'] target = true)
    (given : importContext file call.packageNode = some context) :
    dynamicTarget file TraxOs.Boundaries.importModule call target =
      orEscape (resolveDynamicRelative context target) := by
  unfold dynamicTarget
  dsimp only
  rw [if_pos ⟨rfl, relative⟩, given]
  dsimp only
  cases resolveDynamicRelative context target <;> rfl

/-- An `__import__` with a level is resolved in the package of its file. -/
theorem dynamicTarget_builtinsImport (call : Call) (target : Text) (level : Nat)
    (positive : 0 < level) (given : call.levelNode = some (.int level)) :
    dynamicTarget file TraxOs.Boundaries.builtinsImport call target =
      orEscape (resolveDynamicRelative file.packageContext
        (List.replicate level '.' ++ target)) := by
  have other : ¬ (TraxOs.Boundaries.builtinsImport = TraxOs.Boundaries.importModule ∧
      startsWith ['.'] target = true) := by
    rintro ⟨same, _⟩
    exact absurd same (by decide)
  unfold dynamicTarget
  dsimp only
  rw [if_neg other, if_pos rfl, given]
  dsimp only
  rw [if_pos positive]
  cases resolveDynamicRelative file.packageContext (List.replicate level '.' ++ target) <;> rfl

/-- The package that a relative `import_module` names. -/
theorem importContext_given (call : Call) (package : Option Text)
    (given : call.packageNode = some (match package with
      | some value => .string value
      | none => .name "__package__".toList)) :
    importContext file call.packageNode = some (package.getD file.packageContext) := by
  rw [given]
  cases package with
  | some value => rfl
  | none =>
    unfold importContext
    dsimp only
    exact if_pos rfl

/-- A target with leading dots has one at least. -/
theorem leadingDots_pos (target : Text) (relative : startsWith ['.'] target = true) :
    0 < leadingDots target := by
  cases target with
  | nil => cases relative
  | cons first rest =>
    have dot : '.' = first := by simpa [startsWith] using relative
    subst dot
    simp [leadingDots]

/-- An escape is reported for exactly the imports that the scan cannot resolve. -/
theorem scanNode_escapes (package : Text) (knownModules : List Text) (line : Nat)
    (relative : RelativeImport bindings) :
    Escapes (scanNode file package knownModules bindings ⟨line, relative.statement⟩) ↔
      relative.scanned file = none := by
  cases relative with
  | fromImport level positive module names =>
    unfold scanNode statement scanned scanImportFrom
    dsimp only
    cases resolved : resolveFrom file level module with
    | none =>
      dsimp only
      rw [if_pos positive, diagnose_escapes]
      exact iff_of_true rfl rfl
    | some target =>
      refine iff_of_false ?_ (by simp)
      dsimp only
      split
      · exact edges_escapes _
      · exact none_escapes
  | importModule call target inside loads literal relative given =>
    refine scanCall_escapes file package line call _ target loads literal ?_
    intro error failed
    rw [dynamicTarget_importModule file call target _ relative
      (importContext_given file call inside given)] at failed
    exact orEscape_error _ error failed
  | builtinsImport call target level positive loads literal given =>
    refine scanCall_escapes file package line call _ target loads literal ?_
    intro error failed
    rw [dynamicTarget_builtinsImport file call target level positive given] at failed
    exact orEscape_error _ error failed

/-- The parts of a package are those that the scan starts from. -/
theorem scanned_iff (relative : RelativeImport bindings) :
    relative.scanned file = relative.imported file ↔ relative.Faithful file := by
  cases relative with
  | fromImport level positive module names =>
    unfold scanned imported Faithful
    dsimp only
    rw [resolveFrom_eq file level positive module]
    have agree := resolveIn_iff file.fromContext file.package (module.getD []) level positive
      fun some => file.fromContext_some fun none => some ((file.package_eq_nil).mpr none)
    refine agree.trans ?_
    by_cases none : file.directories = []
    · rw [if_pos ((file.package_eq_nil).mpr none), if_pos none, file.fromContext_none none]
      cases file.isPackage <;> simp
    · rw [if_neg (fun empty => none ((file.package_eq_nil).mp empty)), if_neg none,
        file.fromContext_some none, file.parts_package none]
  | importModule call target inside loads literal relative given =>
    have positive := leadingDots_pos target relative
    unfold scanned imported
    dsimp only
    rw [dynamicTarget_importModule file call target _ relative
      (importContext_given file call inside given), orEscape_toOption, resolveDynamicRelative_eq]
    cases inside with
    | some package =>
      have agree := resolveIn_iff (parts package) package (target.drop (leadingDots target))
        (leadingDots target) positive fun _ => rfl
      refine agree.trans ?_
      unfold Faithful
      dsimp only
      by_cases empty : package = []
      · subst empty
        rw [if_pos rfl, if_pos rfl]
        exact Iff.rfl
      · rw [if_neg empty, if_neg empty]
    | none =>
      have agree := resolveIn_iff (parts file.packageContext) file.package
        (target.drop (leadingDots target)) (leadingDots target) positive fun some => by
          rw [file.packageContext_some fun none => some ((file.package_eq_nil).mpr none)]
      refine agree.trans ?_
      unfold Faithful
      dsimp only
      by_cases none : file.directories = []
      · rw [if_pos ((file.package_eq_nil).mpr none), if_pos none, file.packageContext_none none]
      · rw [if_neg (fun empty => none ((file.package_eq_nil).mp empty)), if_neg none,
          file.packageContext_some none, file.parts_package none]
  | builtinsImport call target level positive loads literal given =>
    unfold scanned imported Faithful
    dsimp only
    rw [dynamicTarget_builtinsImport file call target level positive given, orEscape_toOption,
      resolveDynamicRelative_eq, leadingDots_replicate, drop_replicate]
    have same : file.package ≠ [] → parts file.packageContext = parts file.package := fun some => by
      rw [file.packageContext_some fun none => some ((file.package_eq_nil).mpr none)]
    by_cases plain : leadingDots target = 0
    · rw [plain, Nat.add_zero, List.drop_zero]
      refine (resolveIn_iff _ file.package target level positive same).trans ?_
      by_cases none : file.directories = []
      · rw [if_pos ((file.package_eq_nil).mpr none), if_pos none, file.packageContext_none none]
      · rw [if_neg (fun empty => none ((file.package_eq_nil).mp empty)), if_neg none, if_pos rfl,
          file.packageContext_some none, file.parts_package none]
    · refine (resolveIn_dotted _ file.package target level positive same
        (Nat.pos_of_ne_zero plain)).trans ?_
      by_cases none : file.directories = []
      · rw [if_pos ((file.package_eq_nil).mpr none), if_pos none, file.packageContext_none none]
      · rw [if_neg (fun empty => none ((file.package_eq_nil).mp empty)), if_neg none,
          if_neg plain, file.packageContext_some none, file.parts_package none]

/-- The scan resolves a relative import to the name that Python imports and reports an escape
exactly when Python refuses, if and only if the import is one of those where the two limits
do not differ. -/
theorem scan_resolves_iff (file : PythonFile) (package : Text) (knownModules : List Text)
    (line : Nat) (relative : RelativeImport bindings) :
    (relative.scanned file = relative.imported file ∧
      (Escapes (scanNode file package knownModules bindings ⟨line, relative.statement⟩) ↔
        relative.imported file = none)) ↔ relative.Faithful file := by
  rw [scanNode_escapes]
  constructor
  · rintro ⟨same, _⟩
    exact (relative.scanned_iff file).mp same
  · intro faithful
    have same := (relative.scanned_iff file).mpr faithful
    exact ⟨same, by rw [same]⟩

/-- `fixture/app.py`. -/
def appFile : PythonFile where
  directories := ["fixture".toList]
  stem := "app".toList
  named := by decide

/-- `from ..other import name` in a module of a package that lies in no other. -/
def outside : RelativeImport defaultBindings :=
  .fromImport 2 (by decide) (some "other".toList) [⟨"name".toList, none⟩]

/-- Python refuses to go above `fixture`; the scan goes on with `other`. -/
theorem scan_resolves_outside :
    outside.imported appFile = none ∧ outside.scanned appFile = some "other".toList ∧
    ¬ ∀ (file : PythonFile) (package : Text) (knownModules : List Text) (line : Nat)
      (bindings : Bindings) (relative : RelativeImport bindings),
      relative.scanned file = relative.imported file ∧
        (Escapes (scanNode file package knownModules bindings ⟨line, relative.statement⟩) ↔
          relative.imported file = none) := by
  have refused : outside.imported appFile = none := by decide +kernel
  have resolved : outside.scanned appFile = some "other".toList := by decide +kernel
  refine ⟨refused, resolved, fun always => ?_⟩
  have same := (always appFile [] [] 1 defaultBindings outside).1
  rw [refused, resolved] at same
  cases same

end RelativeImport

end TraxOs.Boundaries
