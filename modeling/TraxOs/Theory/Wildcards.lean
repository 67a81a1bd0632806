import Mathlib.Data.Set.Lattice

/-!
# Lists with a wildcard

A list of values stands for a set of permitted values. One value is the wildcard:
a list that contains it permits everything, whatever else it contains. The lists
form a lattice of permissions under the sets they permit, so that the union of
several lists and a filter by several lists are a union and an intersection of
sets.
-/

namespace TraxOs.Theory.Wildcards

variable {α : Type}

/-- The set of values that a list permits. -/
def permitted (wildcard : α) (values : List α) : Set α :=
  { value | wildcard ∈ values ∨ value ∈ values }

/-- A list with the wildcard permits everything. -/
theorem permitted_wildcard (wildcard : α) (values : List α) (member : wildcard ∈ values) :
    permitted wildcard values = Set.univ := by
  ext value
  simp [permitted, member]

/-- A list without the wildcard permits its members. -/
theorem permitted_plain (wildcard : α) (values : List α) (absent : wildcard ∉ values) :
    permitted wildcard values = { value | value ∈ values } := by
  ext value
  simp [permitted, absent]

variable [DecidableEq α]

/-- Whether a list permits a value. -/
def permits (wildcard : α) (values : List α) (value : α) : Bool :=
  values.contains wildcard || values.contains value

theorem permits_iff (wildcard : α) (values : List α) (value : α) :
    permits wildcard values value = true ↔ value ∈ permitted wildcard values := by
  simp [permits, permitted]

/-- The values of several lists without repetition; the wildcard alone when one of
them contains it. -/
def union (wildcard : α) (sets : List (List α)) : List α :=
  if sets.any fun values => values.contains wildcard then [wildcard] else sets.flatten.eraseDups

/-- A union permits what one of its lists permits. -/
theorem permitted_union (wildcard : α) (sets : List (List α)) :
    permitted wildcard (union wildcard sets) = ⋃ values ∈ sets, permitted wildcard values := by
  by_cases starred : ∃ values ∈ sets, wildcard ∈ values
  · have collapsed : union wildcard sets = [wildcard] := by
      unfold union
      rw [if_pos]
      simpa using starred
    obtain ⟨values, member, star⟩ := starred
    rw [collapsed, permitted_wildcard wildcard [wildcard] (by simp)]
    symm
    apply Set.eq_univ_of_univ_subset
    rw [← permitted_wildcard wildcard values star]
    exact Set.subset_biUnion_of_mem (u := permitted wildcard) member
  · have flattened : union wildcard sets = sets.flatten.eraseDups := by
      unfold union
      rw [if_neg]
      simpa using starred
    have absent : wildcard ∉ sets.flatten := by
      simpa [List.mem_flatten] using starred
    ext value
    constructor
    · intro found
      rw [flattened, permitted_plain wildcard _ (by simpa using absent)] at found
      obtain ⟨values, member, inside⟩ := List.mem_flatten.mp (List.mem_eraseDups.mp found)
      exact Set.mem_biUnion member (Or.inr inside)
    · intro found
      obtain ⟨values, member, inside⟩ := Set.mem_iUnion₂.mp found
      have plain : value ∈ values := by
        cases inside with
        | inl star => exact absurd ⟨values, member, star⟩ starred
        | inr plain => exact plain
      rw [flattened]
      exact Or.inr (List.mem_eraseDups.mpr (List.mem_flatten.mpr ⟨values, member, plain⟩))

/-- The requested values that every list permits, in the order requested. -/
def restrict (wildcard : α) (requested : List α) (sets : List (List α)) : List α :=
  requested.filter fun value => sets.all fun values => permits wildcard values value

theorem mem_restrict (wildcard : α) (requested : List α) (sets : List (List α)) (value : α) :
    value ∈ restrict wildcard requested sets ↔
      value ∈ requested ∧ ∀ values ∈ sets, value ∈ permitted wildcard values := by
  simp [restrict, permits_iff]

/-- A restriction keeps the length of the request exactly when it refuses nothing. -/
theorem restrict_length (wildcard : α) (requested : List α) (sets : List (List α)) :
    (restrict wildcard requested sets).length = requested.length ↔
      ∀ value ∈ requested, ∀ values ∈ sets, value ∈ permitted wildcard values := by
  simp [restrict, List.length_filter_eq_length_iff, permits_iff]

/-- A restriction of the whole length is the request itself. -/
theorem restrict_whole (wildcard : α) (requested : List α) (sets : List (List α))
    (whole : (restrict wildcard requested sets).length = requested.length) :
    restrict wildcard requested sets = requested :=
  List.filter_sublist.eq_of_length whole

end TraxOs.Theory.Wildcards
