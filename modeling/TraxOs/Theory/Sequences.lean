import Mathlib.Data.List.Sort

/-!
# Ordered sequences

Sorting by a Boolean comparison, as a query with an ORDER BY clause does. When
the comparison is a total order on the rows found, the result does not depend on
the order in which a scan finds them.
-/

namespace TraxOs.Theory

variable {α : Type}

/-- The rows in ascending order of a comparison. -/
def sortBy (before : α → α → Bool) (rows : List α) : List α :=
  rows.insertionSort fun left right => before left right = true

/-- Sorting neither loses nor invents rows. -/
theorem sortBy_perm (before : α → α → Bool) (rows : List α) : (sortBy before rows).Perm rows :=
  List.perm_insertionSort _ rows

@[simp] theorem mem_sortBy (before : α → α → Bool) (rows : List α) (row : α) :
    row ∈ sortBy before rows ↔ row ∈ rows :=
  List.mem_insertionSort _

@[simp] theorem length_sortBy (before : α → α → Bool) (rows : List α) :
    (sortBy before rows).length = rows.length :=
  List.length_insertionSort _ rows

/-- A comparison that decides any two values, consistently. -/
structure TotalComparison (before : α → α → Bool) : Prop where
  total : ∀ left right, before left right = true ∨ before right left = true
  trans : ∀ first second third, before first second = true → before second third = true →
    before first third = true

/-- The greatest first; a second number decides between equal ones. -/
def descending (major minor : α → Nat) (left right : α) : Bool :=
  major right < major left || (major left == major right && minor left ≤ minor right)

theorem descending_total (major minor : α → Nat) : TotalComparison (descending major minor) := by
  constructor
  · intro left right
    simp only [descending, Bool.or_eq_true, Bool.and_eq_true, decide_eq_true_eq, beq_iff_eq]
    omega
  · intro first second third
    simp only [descending, Bool.or_eq_true, Bool.and_eq_true, decide_eq_true_eq, beq_iff_eq]
    omega

/-- Only the second number can tell them apart then. -/
theorem descending_minor (major minor : α → Nat) (left right : α)
    (forth : descending major minor left right = true)
    (back : descending major minor right left = true) : minor left = minor right := by
  simp only [descending, Bool.or_eq_true, Bool.and_eq_true, decide_eq_true_eq, beq_iff_eq]
    at forth back
  omega

/-- One key first; another comparison decides between rows with equal keys. -/
def lexical {key : Type} [DecidableEq key] (before : key → key → Bool) (of : α → key)
    (tie : α → α → Bool) (left right : α) : Bool :=
  if of left ≠ of right then before (of left) (of right) else tie left right

section Lexical

variable {key : Type} [DecidableEq key] {before : key → key → Bool} {of : α → key}
  {tie : α → α → Bool}

theorem lexical_iff (left right : α) : lexical before of tie left right = true ↔
    (of left ≠ of right ∧ before (of left) (of right) = true) ∨
      (of left = of right ∧ tie left right = true) := by
  unfold lexical
  by_cases same : of left = of right <;> simp [same]

/-- A comparison of keys that tells them apart, with a tie break, decides any two rows. -/
theorem lexical_total (ordering : TotalComparison before)
    (distinct : ∀ left right, before left right = true → before right left = true → left = right)
    (ties : TotalComparison tie) : TotalComparison (lexical before of tie) := by
  constructor
  · intro left right
    rw [lexical_iff, lexical_iff]
    by_cases same : of left = of right
    · rcases ties.total left right with forth | back
      · exact Or.inl (Or.inr ⟨same, forth⟩)
      · exact Or.inr (Or.inr ⟨same.symm, back⟩)
    · rcases ordering.total (of left) (of right) with forth | back
      · exact Or.inl (Or.inl ⟨same, forth⟩)
      · exact Or.inr (Or.inl ⟨Ne.symm same, back⟩)
  · intro first second third forth further
    rw [lexical_iff] at forth further ⊢
    rcases forth with ⟨differ, forth⟩ | ⟨same, forth⟩
    · rcases further with ⟨_, further⟩ | ⟨again, _⟩
      · have beyond := ordering.trans _ _ _ forth further
        by_cases closed : of first = of third
        · rw [← closed] at further
          exact absurd (distinct _ _ forth further) differ
        · exact Or.inl ⟨closed, beyond⟩
      · rw [← again]
        exact Or.inl ⟨differ, forth⟩
    · rcases further with ⟨differ, further⟩ | ⟨again, further⟩
      · rw [same]
        exact Or.inl ⟨differ, further⟩
      · exact Or.inr ⟨same.trans again, ties.trans _ _ _ forth further⟩

/-- Rows that it cannot tell apart have equal keys, and the tie break cannot either. -/
theorem lexical_tie
    (distinct : ∀ left right, before left right = true → before right left = true → left = right)
    (left right : α) (forth : lexical before of tie left right = true)
    (back : lexical before of tie right left = true) :
    tie left right = true ∧ tie right left = true := by
  rw [lexical_iff] at forth back
  rcases forth with ⟨differ, forth⟩ | ⟨same, forth⟩
  · rcases back with ⟨_, back⟩ | ⟨same, _⟩
    · exact absurd (distinct _ _ forth back) differ
    · exact absurd same.symm differ
  · rcases back with ⟨differ, _⟩ | ⟨_, back⟩
    · exact absurd same.symm differ
    · exact ⟨forth, back⟩

end Lexical

/-- The result of sorting is in ascending order. -/
theorem sortBy_sorted (before : α → α → Bool) (ordering : TotalComparison before) (rows : List α) :
    (sortBy before rows).Pairwise fun left right => before left right = true := by
  have total : Std.Total fun left right => before left right = true := ⟨ordering.total⟩
  have trans : IsTrans α fun left right => before left right = true := ⟨ordering.trans⟩
  exact List.pairwise_insertionSort _ rows

/-- An ascending arrangement of the same rows is the sorted one, when no two
different rows are equivalent. -/
theorem sortBy_eq (before : α → α → Bool) (ordering : TotalComparison before) (rows sorted : List α)
    (same : sorted.Perm rows)
    (ascending : sorted.Pairwise fun left right => before left right = true)
    (distinct : ∀ left ∈ rows, ∀ right ∈ rows, before left right = true →
      before right left = true → left = right) : sortBy before rows = sorted := by
  apply List.Perm.eq_of_pairwise _ (sortBy_sorted before ordering rows) ascending
    ((sortBy_perm before rows).trans same.symm)
  intro left right leftMember rightMember forth back
  exact distinct left ((mem_sortBy before rows left).mp leftMember) right
    (same.mem_iff.mp rightMember) forth back

/-- The order in which rows are found does not matter. -/
theorem sortBy_congr (before : α → α → Bool) (ordering : TotalComparison before) (left right : List α)
    (same : left.Perm right)
    (distinct : ∀ first ∈ left, ∀ second ∈ left, before first second = true →
      before second first = true → first = second) : sortBy before left = sortBy before right :=
  sortBy_eq before ordering left (sortBy before right)
    ((sortBy_perm before right).trans same.symm) (sortBy_sorted before ordering right) distinct

/-- Sorting depends on the members only. -/
theorem sortBy_members (before : α → α → Bool) (ordering : TotalComparison before)
    (left right : List α) (single : left.Nodup) (other : right.Nodup)
    (same : ∀ row, row ∈ left ↔ row ∈ right)
    (distinct : ∀ first ∈ left, ∀ second ∈ left, before first second = true →
      before second first = true → first = second) : sortBy before left = sortBy before right :=
  sortBy_congr before ordering left right ((List.perm_ext_iff_of_nodup single other).mpr same)
    distinct

end TraxOs.Theory
