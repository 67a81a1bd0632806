import Mathlib.Algebra.Order.BigOperators.Group.List
import Mathlib.Algebra.Order.Group.Nat
import Mathlib.Algebra.GroupWithZero.Nat
import Mathlib.Data.List.Nodup

/-!
# Tallies of keyed rows

A list of rows with distinct keys, as a table with a primary key is. The row of a key is
unique, and a total over the rows splits into that row and the others.
-/

namespace TraxOs.Theory

variable {Row Key : Type} [DecidableEq Key]

/-- A search by key finds a row exactly when the row is there under the key. -/
theorem find_keyed (key : Row → Key) (rows : List Row) (distinct : (rows.map key).Nodup)
    (wanted : Key) (row : Row) :
    (rows.find? fun tested => key tested = wanted) = some row ↔ row ∈ rows ∧ key row = wanted := by
  constructor
  · intro found
    exact ⟨List.mem_of_find?_eq_some found, by simpa using List.find?_some found⟩
  · rintro ⟨member, rfl⟩
    cases found : rows.find? fun tested => decide (key tested = key row) with
    | none => simpa using List.find?_eq_none.mp found row member
    | some other =>
      have there := List.mem_of_find?_eq_some found
      have same : key other = key row := by simpa using List.find?_some found
      rw [List.inj_on_of_nodup_map distinct there member same]

/-- A search by key finds nothing exactly when no row has the key. -/
theorem find_keyed_none (key : Row → Key) (rows : List Row) (wanted : Key) :
    (rows.find? fun tested => key tested = wanted) = none ↔ ∀ row ∈ rows, key row ≠ wanted := by
  simp [List.find?_eq_none]

/-- A total is the share of one row and that of the rows with other keys. -/
theorem sum_without (key : Row → Key) (weight : Row → Nat) (rows : List Row)
    (distinct : (rows.map key).Nodup) (row : Row) (member : row ∈ rows) :
    (rows.map weight).sum =
      weight row + ((rows.filter fun other => key other ≠ key row).map weight).sum := by
  induction rows with
  | nil => cases member
  | cons first rows inductionHypothesis =>
    rw [List.map_cons, List.nodup_cons] at distinct
    obtain ⟨fresh, distinct⟩ := distinct
    rcases List.mem_cons.mp member with rfl | member
    · have others : (rows.filter fun other => key other ≠ key row) = rows := by
        refine List.filter_eq_self.mpr fun other there => ?_
        have apart : key other ≠ key row := by
          intro same
          exact fresh (same ▸ List.mem_map_of_mem there)
        simpa using apart
      simp only [List.map_cons, List.sum_cons, List.filter_cons, ne_eq, not_true_eq_false,
        decide_false, Bool.false_eq_true, if_false]
      rw [others]
    · have apart : key first ≠ key row := by
        intro same
        exact fresh (same ▸ List.mem_map_of_mem member)
      rw [List.map_cons, List.sum_cons, inductionHypothesis distinct member,
        List.filter_cons_of_pos (by simpa using apart), List.map_cons, List.sum_cons]
      omega

/-- Without one of the rows there is one row less. -/
theorem length_without (key : Row → Key) (rows : List Row) (distinct : (rows.map key).Nodup)
    (row : Row) (member : row ∈ rows) :
    rows.length = 1 + (rows.filter fun other => key other ≠ key row).length := by
  simpa using sum_without key (fun _ => 1) rows distinct row member

/-- Fewer rows have a smaller total. -/
theorem sum_sublist (weight : Row → Nat) (fewer rows : List Row) (sublist : fewer.Sublist rows) :
    (fewer.map weight).sum ≤ (rows.map weight).sum :=
  (sublist.map weight).sum_le_sum fun _ _ => Nat.zero_le _

end TraxOs.Theory
