import Mathlib.Data.List.Basic

/-!
# Fixed windows and sliding intervals

A limiter that counts admissions in fixed windows. A window opens at the first
admission after the last one has run out, and admits a limited number. The log
records for each admission its time and the start of the window that counted it.

No interval of one span meets three windows. Hence at most twice the limit is
admitted in it.
-/

namespace TraxOs.Theory

/-- One admission, and the start of the window in which it was counted. -/
structure Admission where
  time : Nat
  start : Nat
deriving DecidableEq

/-- The first window had run out when the second one opened, and the admission came
after that. -/
def Admission.Precedes (span : Nat) (earlier later : Admission) : Prop :=
  earlier.start + span ≤ later.start ∧ later.start ≤ later.time

/-- The log of a limiter. -/
structure Windowed (limit span : Nat) (log : List Admission) : Prop where
  inside : ∀ entry ∈ log, entry.time < entry.start + span
  apart : ∀ one ∈ log, ∀ other ∈ log,
    one.start = other.start ∨ one.Precedes span other ∨ other.Precedes span one
  counted : ∀ start, log.countP (fun entry => entry.start = start) ≤ limit

/-- What satisfies one of two conditions is counted under one of them. -/
theorem countP_either {α : Type} (whole one other : α → Bool) (items : List α)
    (covered : ∀ item ∈ items, whole item = true → one item = true ∨ other item = true) :
    items.countP whole ≤ items.countP one + items.countP other := by
  induction items with
  | nil => simp
  | cons item items inductionHypothesis =>
    have rest := inductionHypothesis fun tested member =>
      covered tested (List.mem_cons_of_mem item member)
    have here := covered item List.mem_cons_self
    simp only [List.countP_cons]
    by_cases counted : whole item = true
    · rcases here counted with left | right
      · simp only [counted, left, if_true]
        omega
      · simp only [counted, right, if_true]
        omega
    · simp only [counted, Bool.false_eq_true, if_false]
      omega

namespace Windowed

variable {limit span : Nat} {log : List Admission}

/-- Nothing has been admitted. -/
theorem empty (limit span : Nat) : Windowed limit span [] where
  inside := by simp
  apart := by simp
  counted := by simp

/-- One more admission, in a window with room. -/
theorem further (windowed : Windowed limit span log) (entry : Admission)
    (inside : entry.time < entry.start + span)
    (apart : ∀ other ∈ log, other.start = entry.start ∨ other.Precedes span entry)
    (room : log.countP (fun other => other.start = entry.start) < limit) :
    Windowed limit span (log ++ [entry]) where
  inside := by
    intro other member
    rcases List.mem_append.mp member with member | member
    · exact windowed.inside other member
    · rw [List.mem_singleton.mp member]
      exact inside
  apart := by
    intro one first other second
    rcases List.mem_append.mp first with first | first <;>
      rcases List.mem_append.mp second with second | second
    · exact windowed.apart one first other second
    · rw [List.mem_singleton.mp second]
      exact (apart one first).imp_right Or.inl
    · rw [List.mem_singleton.mp first]
      exact (apart other second).imp Eq.symm Or.inr
    · rw [List.mem_singleton.mp first, List.mem_singleton.mp second]
      exact Or.inl rfl
  counted := by
    intro start
    have before := windowed.counted start
    rw [List.countP_append, List.countP_singleton]
    by_cases same : entry.start = start
    · subst same
      simp only [decide_true, if_true]
      omega
    · simp only [same, decide_false, Bool.false_eq_true, if_false]
      omega

/-- Of three admissions in one interval of one span, two were counted in one window. -/
theorem two_windows (windowed : Windowed limit span log) (opening : Nat)
    (first second third : Admission) (one : first ∈ log) (two : second ∈ log) (three : third ∈ log)
    (near : ∀ entry ∈ [first, second, third],
      opening ≤ entry.time ∧ entry.time < opening + span)
    (different : first.start ≠ second.start) :
    third.start = first.start ∨ third.start = second.start := by
  have left := windowed.apart first one second two
  have middle := windowed.apart first one third three
  have right := windowed.apart second two third three
  have inOne := windowed.inside first one
  have inTwo := windowed.inside second two
  have inThree := windowed.inside third three
  have nearOne := near first (by simp)
  have nearTwo := near second (by simp)
  have nearThree := near third (by simp)
  simp only [Admission.Precedes] at left middle right
  omega

/-- At most twice the limit is admitted in any half-open interval of one span. -/
theorem sliding (windowed : Windowed limit span log) (opening : Nat) :
    log.countP (fun entry => opening ≤ entry.time ∧ entry.time < opening + span) ≤ 2 * limit := by
  by_cases met : ∃ first ∈ log, opening ≤ first.time ∧ first.time < opening + span
  · obtain ⟨first, one, nearOne⟩ := met
    have firstCount := windowed.counted first.start
    by_cases more : ∃ second ∈ log, (opening ≤ second.time ∧ second.time < opening + span) ∧
        first.start ≠ second.start
    · obtain ⟨second, two, nearTwo, different⟩ := more
      have secondCount := windowed.counted second.start
      have covered := countP_either
        (fun entry : Admission => decide (opening ≤ entry.time ∧ entry.time < opening + span))
        (fun entry => decide (entry.start = first.start))
        (fun entry => decide (entry.start = second.start)) log (by
          intro third three near
          simp only [decide_eq_true_eq] at near ⊢
          exact windowed.two_windows opening first second third one two three
            (by simp [nearOne, nearTwo, near]) different)
      omega
    · have covered := List.countP_mono_left (l := log)
        (p := fun entry => decide (opening ≤ entry.time ∧ entry.time < opening + span))
        (q := fun entry => decide (entry.start = first.start)) (by
          intro third three near
          simp only [decide_eq_true_eq] at near ⊢
          by_contra differ
          exact more ⟨third, three, near, fun same => differ same.symm⟩)
      omega
  · have none : log.countP
        (fun entry => decide (opening ≤ entry.time ∧ entry.time < opening + span)) = 0 := by
      rw [List.countP_eq_zero]
      intro entry member near
      exact met ⟨entry, member, by simpa using near⟩
    omega

end Windowed

end TraxOs.Theory
