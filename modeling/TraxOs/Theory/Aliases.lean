import Mathlib.Data.List.Nodup
import Mathlib.Logic.Function.Basic

/-!
# Definitions by other names

Names that are defined by what other names stand for, in rounds: each round carries out all
definitions in their order, and a later definition of a name replaces an earlier one.

What a name stands for after some rounds is found by going back: to the last definition of
the name in front of the place, around to the end of the list when there is none, and at
last to what the name stood for at first. Where no name has two definitions, as many rounds
as there are definitions are enough, in whatever order they stand.
-/

namespace TraxOs.Theory

/-- A name is defined by what another one stands for, where this can be carried out. -/
structure Definition (Name Value : Type) where
  target : Name
  source : Name
  apply : Value → Option Value

namespace Definition

variable {Name Value : Type} [DecidableEq Name]

/-- A definition is carried out. -/
def execute (state : Name → Value) (definition : Definition Name Value) : Name → Value :=
  match definition.apply (state definition.source) with
  | some value => Function.update state definition.target value
  | none => state

/-- All definitions in their order. -/
def round (definitions : List (Definition Name Value)) (state : Name → Value) : Name → Value :=
  definitions.foldl execute state

/-- Some rounds. -/
def rounds (definitions : List (Definition Name Value)) : Nat → (Name → Value) → Name → Value
  | 0, state => state
  | count + 1, state => round definitions (rounds definitions count state)

/-- The first round may be taken apart as well as the last. -/
theorem rounds_first (definitions : List (Definition Name Value)) (count : Nat)
    (state : Name → Value) :
    rounds definitions (count + 1) state = rounds definitions count (round definitions state) := by
  induction count with
  | zero => rfl
  | succ count inductionHypothesis =>
    exact congrArg (round definitions) inductionHypothesis

/-- Rounds that change nothing may be left out. -/
theorem rounds_stable (definitions : List (Definition Name Value)) (count : Nat)
    (state : Name → Value) (stable : round definitions state = state) :
    rounds definitions count state = state := by
  induction count with
  | zero => rfl
  | succ count inductionHypothesis =>
    exact (congrArg (round definitions) inductionHypothesis).trans stable

theorem execute_some (state : Name → Value) (definition : Definition Name Value) (value : Value)
    (applies : definition.apply (state definition.source) = some value) :
    execute state definition = Function.update state definition.target value := by
  unfold execute
  rw [applies]

theorem execute_none (state : Name → Value) (definition : Definition Name Value)
    (applies : definition.apply (state definition.source) = none) :
    execute state definition = state := by
  unfold execute
  rw [applies]

/-- A definition changes its target only. -/
theorem execute_other (state : Name → Value) (definition : Definition Name Value) (name : Name)
    (other : definition.target ≠ name) : execute state definition name = state name := by
  cases applies : definition.apply (state definition.source) with
  | some value =>
    rw [execute_some state definition value applies]
    exact Function.update_of_ne (Ne.symm other) _ _
  | none => rw [execute_none state definition applies]

/-- Definitions of other names leave a name alone. -/
theorem round_other (definitions : List (Definition Name Value)) (state : Name → Value)
    (name : Name) (other : ∀ definition ∈ definitions, definition.target ≠ name) :
    round definitions state name = state name := by
  unfold round
  induction definitions generalizing state with
  | nil => rfl
  | cons first rest inductionHypothesis =>
    rw [List.foldl_cons]
    rw [inductionHypothesis _ fun definition member => other definition (.tail _ member)]
    exact execute_other state first name (other first List.mem_cons_self)

/-! ## Going back -/

section Traces

variable (base : Name → Value) (definitions : List (Definition Name Value))

/-- What a name stands for after a number of whole rounds and the definitions of the next
one that stand in front of a place, the nearest one first. -/
inductive Traces : Nat → List (Definition Name Value) → Name → Value → Prop where
  | start (name : Name) : Traces 0 [] name (base name)
  | around (count : Nat) (name : Name) (value : Value)
      (later : Traces count definitions.reverse name value) : Traces (count + 1) [] name value
  | other (count : Nat) (definition : Definition Name Value)
      (before : List (Definition Name Value)) (name : Name) (value : Value)
      (different : definition.target ≠ name) (earlier : Traces count before name value) :
      Traces count (definition :: before) name value
  | defined (count : Nat) (definition : Definition Name Value)
      (before : List (Definition Name Value)) (meant value : Value)
      (source : Traces count before definition.source meant)
      (applies : definition.apply meant = some value) :
      Traces count (definition :: before) definition.target value
  | failed (count : Nat) (definition : Definition Name Value)
      (before : List (Definition Name Value)) (meant value : Value)
      (source : Traces count before definition.source meant)
      (applies : definition.apply meant = none)
      (earlier : Traces count before definition.target value) :
      Traces count (definition :: before) definition.target value

variable {base definitions}

/-- Going back finds what the rounds make of a name. -/
theorem Traces.sound (count : Nat) (before : List (Definition Name Value)) (name : Name)
    (value : Value) (traces : Traces base definitions count before name value) :
    round before.reverse (rounds definitions count base) name = value := by
  induction traces with
  | start name => rfl
  | around count name value later inductionHypothesis =>
    rw [List.reverse_reverse] at inductionHypothesis
    exact inductionHypothesis
  | other count definition before name value different earlier inductionHypothesis =>
    rw [List.reverse_cons, round, List.foldl_append]
    exact (execute_other _ definition name different).trans inductionHypothesis
  | defined count definition before meant value source applies inductionHypothesis =>
    rw [List.reverse_cons, round, List.foldl_append]
    have applied := execute_some (round before.reverse (rounds definitions count base)) definition
      value (by rw [inductionHypothesis]; exact applies)
    exact (congrFun applied definition.target).trans (Function.update_self _ _ _)
  | failed count definition before meant value source applies earlier meaning
      inductionHypothesis =>
    rw [List.reverse_cons, round, List.foldl_append]
    have kept := execute_none (round before.reverse (rounds definitions count base)) definition
      (by rw [meaning]; exact applies)
    exact (congrFun kept definition.target).trans inductionHypothesis

/-- Every name can be gone back to. -/
theorem Traces.total (count : Nat) (before : List (Definition Name Value)) :
    ∀ name, ∃ value, Traces base definitions count before name value := by
  have along : ∀ count, (∀ name, ∃ value, Traces base definitions count [] name value) →
      ∀ before name, ∃ value, Traces base definitions count before name value := by
    intro count first before
    induction before with
    | nil => exact first
    | cons definition before inductionHypothesis =>
      intro name
      by_cases here : definition.target = name
      · subst here
        obtain ⟨meant, source⟩ := inductionHypothesis definition.source
        cases applies : definition.apply meant with
        | some value => exact ⟨value, .defined count definition before meant value source applies⟩
        | none =>
          obtain ⟨value, earlier⟩ := inductionHypothesis definition.target
          exact ⟨value, .failed count definition before meant value source applies earlier⟩
      · obtain ⟨value, earlier⟩ := inductionHypothesis name
        exact ⟨value, .other count definition before name value here earlier⟩
  induction count generalizing before with
  | zero => exact along 0 (fun name => ⟨base name, .start name⟩) before
  | succ count inductionHypothesis =>
    refine along (count + 1) (fun name => ?_) before
    obtain ⟨value, later⟩ := inductionHypothesis definitions.reverse name
    exact ⟨value, .around count name value later⟩

/-- The rounds make of a name what going back finds. -/
theorem traces_iff (count : Nat) (name : Name) (value : Value) :
    Traces base definitions count definitions.reverse name value ↔
      rounds definitions (count + 1) base name = value := by
  constructor
  · intro traces
    have found := traces.sound
    rw [List.reverse_reverse] at found
    exact found
  · intro found
    have total : ∀ name, ∃ value, Traces base definitions count definitions.reverse name value :=
      Traces.total count definitions.reverse
    obtain ⟨meant, traces⟩ := total name
    have same := traces.sound
    rw [List.reverse_reverse] at same
    have equal : meant = value := same.symm.trans found
    rw [← equal]
    exact traces

end Traces

/-! ## Names with one definition -/

section Derivations

variable (base : Name → Value) (definitions : List (Definition Name Value))

/-- What a name stands for in any order: what it stood for at first, if nothing defines it,
or what a definition makes of what another name stands for. The number counts the
definitions on the way. -/
inductive Derives : Nat → Name → Value → Prop where
  | base (name : Name) (plain : ∀ definition ∈ definitions, definition.target ≠ name) :
      Derives 0 name (base name)
  | defined (height : Nat) (definition : Definition Name Value) (meant value : Value)
      (member : definition ∈ definitions) (source : Derives height definition.source meant)
      (applies : definition.apply meant = some value) :
      Derives (height + 1) definition.target value

variable {base definitions}

omit [DecidableEq Name] in
/-- A name with one definition stands for what that one makes of its source. -/
theorem Derives.inversion (once : (definitions.map Definition.target).Nodup)
    (definition : Definition Name Value) (member : definition ∈ definitions) (height : Nat)
    (value : Value) (derives : Derives base definitions height definition.target value) :
    ∃ before meant, height = before + 1 ∧ Derives base definitions before definition.source meant ∧
      definition.apply meant = some value := by
  generalize target : definition.target = name at derives
  cases derives with
  | base name plain => exact absurd target (plain definition member)
  | defined before other meant value there source applies =>
    obtain rfl : definition = other := List.inj_on_of_nodup_map once member there target
    exact ⟨before, meant, rfl, source, applies⟩

omit [DecidableEq Name] in
/-- There is one way only. -/
theorem Derives.unique (once : (definitions.map Definition.target).Nodup) (height : Nat)
    (name : Name) (value : Value) (derives : Derives base definitions height name value)
    (other : Nat) (result : Value) (again : Derives base definitions other name result) :
    height = other ∧ value = result := by
  induction derives generalizing other result with
  | base name plain =>
    cases again with
    | base _ _ => exact ⟨rfl, rfl⟩
    | defined before definition meant value there source applies =>
      exact absurd rfl (plain definition there)
  | defined before definition meant value member source applies inductionHypothesis =>
    obtain ⟨middle, second, rfl, there, made⟩ :=
      Derives.inversion once definition member other result again
    obtain ⟨rfl, rfl⟩ := inductionHypothesis middle second there
    rw [applies, Option.some.injEq] at made
    exact ⟨rfl, made⟩

omit [DecidableEq Name] in
/-- The names on the way are different, so that it is no longer than the list. -/
theorem Derives.height_le (once : (definitions.map Definition.target).Nodup) (height : Nat)
    (name : Name) (value : Value) (derives : Derives base definitions height name value) :
    height ≤ definitions.length := by
  have way : ∃ names : List Name, names.length = height ∧ names.Nodup ∧
      (∀ passed ∈ names, passed ∈ definitions.map Definition.target) ∧
      ∀ passed ∈ names, ∃ below result, below ≤ height ∧
        Derives base definitions below passed result := by
    induction derives with
    | base name plain => exact ⟨[], rfl, List.nodup_nil, by simp, by simp⟩
    | defined before definition meant value member source applies inductionHypothesis =>
      obtain ⟨names, length, distinct, targets, lower⟩ := inductionHypothesis
      refine ⟨definition.target :: names, by simp [length], List.nodup_cons.mpr ⟨?_, distinct⟩,
        ?_, ?_⟩
      · intro among
        obtain ⟨below, result, bound, again⟩ := lower _ among
        have whole := Derives.defined before definition meant value member source applies
        have same := (whole.unique once _ _ _ below result again).1
        omega
      · intro passed among
        rcases List.mem_cons.mp among with rfl | among
        · exact List.mem_map.mpr ⟨definition, member, rfl⟩
        · exact targets passed among
      · intro passed among
        rcases List.mem_cons.mp among with rfl | among
        · exact ⟨before + 1, value, Nat.le_refl _, .defined before definition meant value member
            source applies⟩
        · obtain ⟨below, result, bound, derived⟩ := lower passed among
          exact ⟨below, result, Nat.le_succ_of_le bound, derived⟩
  obtain ⟨names, length, distinct, targets, _⟩ := way
  have bound := distinct.length_le_of_subset targets
  rw [List.length_map, length] at bound
  exact bound

/-- What is a name of some height stands for what it derives. -/
def SettledTo (base : Name → Value) (definitions : List (Definition Name Value)) (height : Nat)
    (state : Name → Value) : Prop :=
  ∀ below ≤ height, ∀ name value, Derives base definitions below name value → state name = value

/-- Another definition that is carried out keeps what is settled. -/
theorem SettledTo.execute (once : (definitions.map Definition.target).Nodup) (height : Nat)
    (state : Name → Value) (settled : SettledTo base definitions height state)
    (definition : Definition Name Value) (member : definition ∈ definitions) :
    SettledTo base definitions height (execute state definition) := by
  intro below bound name value derives
  by_cases here : definition.target = name
  · subst here
    obtain ⟨before, meant, rfl, source, applies⟩ :=
      Derives.inversion once definition member below value derives
    have known := settled before (Nat.le_of_succ_le bound) _ meant source
    rw [execute_some state definition value (by rw [known]; exact applies)]
    exact Function.update_self _ _ _
  · rw [execute_other state definition name here]
    exact settled below bound name value derives

theorem SettledTo.round (once : (definitions.map Definition.target).Nodup) (height : Nat)
    (part : List (Definition Name Value)) (sub : ∀ definition ∈ part, definition ∈ definitions)
    (state : Name → Value) (settled : SettledTo base definitions height state) :
    SettledTo base definitions height (round part state) := by
  unfold Definition.round
  induction part generalizing state with
  | nil => exact settled
  | cons first rest inductionHypothesis =>
    rw [List.foldl_cons]
    exact inductionHypothesis (fun definition member => sub definition (.tail _ member)) _
      (settled.execute once height state first (sub first List.mem_cons_self))

/-- A round settles the names of the next height: after its one definition a name is not
changed again. -/
theorem SettledTo.next (once : (definitions.map Definition.target).Nodup) (height : Nat)
    (state : Name → Value) (settled : SettledTo base definitions height state) :
    SettledTo base definitions (height + 1) (Definition.round definitions state) := by
  intro below bound name value derives
  rcases Nat.lt_or_eq_of_le bound with lower | top
  · exact SettledTo.round once height definitions (fun _ member => member) state settled below
      (Nat.le_of_lt_succ lower) name value derives
  subst top
  cases derives with
  | defined _ definition meant value member source applies =>
    obtain ⟨front, back, split⟩ := List.append_of_mem member
    have middle := SettledTo.round once height front
      (fun other among => split ▸ List.mem_append_left _ among) state settled
    have known := middle height (Nat.le_refl _) _ meant source
    have afterwards : ∀ other ∈ back, other.target ≠ definition.target := by
      rw [split, List.map_append, List.map_cons] at once
      have tail := (List.nodup_append.mp once).2.1
      intro other among same
      exact (List.nodup_cons.mp tail).1 (List.mem_map.mpr ⟨other, among, same⟩)
    rw [split, Definition.round, List.foldl_append, List.foldl_cons]
    refine (round_other back _ definition.target afterwards).trans ?_
    have applied := execute_some (Definition.round front state) definition value
      (by rw [known]; exact applies)
    exact (congrFun applied definition.target).trans (Function.update_self _ _ _)

/-- As many rounds as there are definitions settle every name. -/
theorem rounds_derives (once : (definitions.map Definition.target).Nodup) (count : Nat)
    (enough : definitions.length ≤ count) (height : Nat) (name : Name) (value : Value)
    (derives : Derives base definitions height name value) :
    rounds definitions count base name = value := by
  have settled : ∀ count, SettledTo base definitions count (rounds definitions count base) := by
    intro count
    induction count with
    | zero =>
      intro below bound name value derives
      cases derives with
      | base name plain => rfl
      | defined _ _ _ _ _ _ _ => exact absurd bound (Nat.not_succ_le_zero _)
    | succ count inductionHypothesis =>
      exact SettledTo.next once count _ inductionHypothesis
  have low := derives.height_le once
  exact settled count height (Nat.le_trans low enough) name value derives

end Derivations

end Definition

end TraxOs.Theory
