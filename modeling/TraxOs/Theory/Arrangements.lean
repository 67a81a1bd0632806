import Mathlib.Data.List.Nodup
import Mathlib.Data.List.Range
import Mathlib.Data.List.Perm.Basic

/-!
# Arrangements

A partial placement gives some things a position. A list lists it when the things at
positions 0, 1, 2 and so on are the members of the list in their order: no position
below its length is empty or used twice, and none beyond it is used at all. The list
is then determined by the placement.

Things can also be moved one by one. A sequence of moves is clear when no move goes to
a position where something else stands at that moment. Two sequences are: the one that
shifts everything past the end of the list, in any order, and the one that puts the
members of a list at their indices while the rest still stands further on.
-/

namespace TraxOs.Theory

variable {ι : Type}

/-- The things that have a place are the members of the list, each at its index. -/
def Lists (place : ι → Option Nat) (order : List ι) : Prop :=
  ∀ id position, place id = some position ↔ order[position]? = some id

namespace Lists

variable {place : ι → Option Nat} {order : List ι}

/-- Whoever has a place is listed. -/
theorem mem (lists : Lists place order) (id : ι) :
    id ∈ order ↔ ∃ position, place id = some position := by
  constructor
  · intro member
    obtain ⟨position, here⟩ := List.getElem?_of_mem member
    exact ⟨position, (lists id position).mpr here⟩
  · rintro ⟨position, placed⟩
    exact List.mem_of_getElem? ((lists id position).mp placed)

/-- Nobody is listed twice. -/
theorem nodup (lists : Lists place order) : order.Nodup := by
  rw [List.nodup_iff_getElem?_ne_getElem?]
  intro earlier later before bounded same
  obtain ⟨id, there⟩ : ∃ id, order[later]? = some id := ⟨_, List.getElem?_eq_getElem bounded⟩
  have first := (lists id earlier).mpr (same.trans there)
  have second := (lists id later).mpr there
  rw [first, Option.some.injEq] at second
  omega

/-- Places lie below the length. -/
theorem bounded (lists : Lists place order) (id : ι) (position : Nat)
    (placed : place id = some position) : position < order.length :=
  (List.getElem?_eq_some_iff.mp ((lists id position).mp placed)).1

/-- A placement is listed in one way only. -/
theorem unique (lists : Lists place order) {other : List ι} (others : Lists place other) :
    order = other := by
  apply List.ext_getElem?
  intro position
  apply Option.ext
  intro id
  exact ((lists id position).symm.trans (others id position))

/-- One list has one placement. -/
theorem placement (lists : Lists place order) {other : ι → Option Nat}
    (others : Lists other order) (id : ι) : place id = other id := by
  apply Option.ext
  intro position
  exact (lists id position).trans (others id position).symm

/-- To list a placement it is enough that the members stand at their indices and
that nobody else has a place. -/
theorem of_indices
    (listed : ∀ position id, order[position]? = some id → place id = some position)
    (unlisted : ∀ id, id ∉ order → place id = none) : Lists place order := by
  intro id position
  refine ⟨?_, listed position id⟩
  intro placed
  by_cases member : id ∈ order
  · obtain ⟨index, here⟩ := List.getElem?_of_mem member
    have same := listed index id here
    rw [placed, Option.some.injEq] at same
    rw [same]
    exact here
  · rw [unlisted id member] at placed
    cases placed

end Lists

/-- A list is its own removal of a member with the member put back where it stood. -/
theorem erase_insertIdx [DecidableEq ι] (order : List ι) (id : ι) (position : Nat)
    (here : order[position]? = some id) (distinct : order.Nodup) :
    (order.erase id).insertIdx position id = order := by
  induction order generalizing position with
  | nil => simp at here
  | cons head rest inductionHypothesis =>
    rw [List.nodup_cons] at distinct
    cases position with
    | zero =>
      obtain rfl : head = id := by simpa using here
      simp
    | succ position =>
      rw [List.getElem?_cons_succ] at here
      have other : head ≠ id := fun same => distinct.1 (same ▸ List.mem_of_getElem? here)
      rw [List.erase_cons_tail (by simpa using other), List.insertIdx_succ_cons,
        inductionHypothesis position here distinct.2]

/-- Without one of its members a list closes up by at most one index. -/
theorem getElem?_of_erase [DecidableEq ι] (order : List ι) (gone : ι) (index : Nat) (id : ι)
    (here : (order.erase gone)[index]? = some id) :
    order[index]? = some id ∨ order[index + 1]? = some id := by
  induction order generalizing index with
  | nil => simp at here
  | cons head rest inductionHypothesis =>
    by_cases same : head = gone
    · subst same
      rw [List.erase_cons_head] at here
      exact Or.inr here
    · rw [List.erase_cons_tail (by simpa using same)] at here
      cases index with
      | zero => exact Or.inl here
      | succ index => exact inductionHypothesis index here

section Moves

/-- The moves that shift things by an offset. -/
def shifts (place : ι → Option Nat) (offset : Nat) (visited : List ι) : List (ι × Nat) :=
  visited.map fun id => (id, (place id).getD 0 + offset)

/-- A shift moves each visited thing. -/
theorem shifts_fst (place : ι → Option Nat) (offset : Nat) (visited : List ι) :
    (shifts place offset visited).map Prod.fst = visited := by
  rw [shifts, List.map_map]
  exact List.map_id visited

variable [DecidableEq ι]

/-- A placement after one thing has moved. -/
def moved (place : ι → Option Nat) (move : ι × Nat) : ι → Option Nat :=
  Function.update place move.1 (some move.2)

/-- A placement after a sequence of moves. -/
def carried (place : ι → Option Nat) (moves : List (ι × Nat)) : ι → Option Nat :=
  moves.foldl moved place

/-- No move goes to a position where something else stands at that moment. -/
def Clear (place : ι → Option Nat) (moves : List (ι × Nat)) : Prop :=
  ∀ finished move rest, moves = finished ++ move :: rest →
    ∀ other, other ≠ move.1 → carried place finished other ≠ some move.2

@[simp] theorem carried_nil (place : ι → Option Nat) : carried place [] = place := rfl

/-- The last move comes last. -/
theorem carried_concat (place : ι → Option Nat) (finished : List (ι × Nat)) (move : ι × Nat) :
    carried place (finished ++ [move]) = moved (carried place finished) move := by
  rw [carried, List.foldl_append]
  rfl

/-- What was not moved stands where it stood. -/
theorem carried_other (place : ι → Option Nat) (moves : List (ι × Nat)) (id : ι)
    (other : id ∉ moves.map Prod.fst) : carried place moves id = place id := by
  induction moves using List.reverseRecOn with
  | nil => rfl
  | append_singleton finished move inductionHypothesis =>
    simp only [List.map_append, List.map_cons, List.map_nil, List.mem_append, List.mem_singleton,
      not_or] at other
    rw [carried_concat, moved, Function.update_of_ne other.2, inductionHypothesis other.1]

/-- What was moved once stands where it was moved to. -/
theorem carried_moved (place : ι → Option Nat) (moves : List (ι × Nat))
    (once : (moves.map Prod.fst).Nodup) (move : ι × Nat) (member : move ∈ moves) :
    carried place moves move.1 = some move.2 := by
  induction moves using List.reverseRecOn with
  | nil => cases member
  | append_singleton finished last inductionHypothesis =>
    rw [List.map_append, List.nodup_append] at once
    rw [carried_concat, moved]
    rcases List.mem_append.mp member with earlier | same
    · have differ : move.1 ≠ last.1 :=
        once.2.2 move.1 (List.mem_map_of_mem earlier) last.1 (by simp)
      rw [Function.update_of_ne differ]
      exact inductionHypothesis once.1 earlier
    · rw [List.mem_singleton.mp same, Function.update_self]

/-- A shift past the end of the list is clear, in whatever order it visits. -/
theorem clear_shifts {place : ι → Option Nat} {order : List ι} (lists : Lists place order)
    (offset : Nat) (past : order.length ≤ offset) (visited : List ι) (distinct : visited.Nodup)
    (placed : ∀ id ∈ visited, id ∈ order) : Clear place (shifts place offset visited) := by
  rintro finished ⟨id, target⟩ rest split other differ stands
  have once : (finished.map Prod.fst).Nodup := by
    rw [← shifts_fst place offset visited, split, List.map_append, List.nodup_append] at distinct
    exact distinct.1
  have aimed : ∀ move ∈ finished ++ (id, target) :: rest,
      ∃ position, place move.1 = some position ∧ move.2 = position + offset := by
    rw [← split]
    intro move member
    obtain ⟨visit, listed, rfl⟩ := List.mem_map.mp member
    obtain ⟨position, here⟩ := (lists.mem visit).mp (placed visit listed)
    exact ⟨position, here, by simp [here]⟩
  obtain ⟨position, here, rfl⟩ := aimed (id, target) (by simp)
  by_cases earlier : other ∈ finished.map Prod.fst
  · obtain ⟨move, member, rfl⟩ := List.mem_map.mp earlier
    obtain ⟨before, there, aim⟩ := aimed move (by simp [member])
    rw [carried_moved place finished once move member, Option.some.injEq] at stands
    have same : before = position := by
      simp only at stands
      omega
    rw [same] at there
    have both := ((lists _ _).mp there).symm.trans ((lists _ _).mp here)
    exact differ (Option.some.inj both)
  · rw [carried_other place finished other earlier] at stands
    have bounded := lists.bounded other _ stands
    simp only at bounded
    omega

/-- Renumbering is clear when whoever still waits stands further on. -/
theorem clear_zipIdx (place : ι → Option Nat) (order : List ι) (distinct : order.Nodup)
    (nobody : ∀ id, id ∉ order → place id = none)
    (ahead : ∀ earlier later id, earlier < later → order[later]? = some id →
      place id ≠ some earlier) : Clear place order.zipIdx := by
  rintro finished ⟨id, index⟩ rest split other differ stands
  have once : (finished.map Prod.fst).Nodup := by
    rw [← List.zipIdx_map_fst 0 order, split, List.map_append, List.nodup_append] at distinct
    exact distinct.1
  have indexed : ∀ (position : Nat) (move : ι × Nat),
      (finished ++ (id, index) :: rest)[position]? = some move ↔
        order[position]? = some move.1 ∧ move.2 = position := by
    rintro position ⟨member, number⟩
    rw [← split, List.getElem?_zipIdx, Option.map_eq_some_iff]
    simp only [Nat.zero_add, Prod.mk.injEq]
    constructor
    · rintro ⟨_, there, rfl, rfl⟩
      exact ⟨there, rfl⟩
    · rintro ⟨there, rfl⟩
      exact ⟨member, there, rfl, rfl⟩
  obtain ⟨here, rfl⟩ := (indexed finished.length (id, index)).mp (by simp)
  by_cases earlier : other ∈ finished.map Prod.fst
  · obtain ⟨move, member, rfl⟩ := List.mem_map.mp earlier
    obtain ⟨position, there⟩ := List.getElem?_of_mem member
    have bounded := (List.getElem?_eq_some_iff.mp there).1
    obtain ⟨_, same⟩ :=
      (indexed position move).mp (by rw [List.getElem?_append_left bounded, there])
    rw [carried_moved place finished once move member, Option.some.injEq] at stands
    simp only at stands
    omega
  · rw [carried_other place finished other earlier] at stands
    by_cases listed : other ∈ order
    · obtain ⟨position, there⟩ := List.getElem?_of_mem listed
      rcases Nat.lt_trichotomy position finished.length with before | same | after
      · have found := (indexed position (other, position)).mpr ⟨there, rfl⟩
        rw [List.getElem?_append_left before] at found
        exact earlier (List.mem_map.mpr ⟨_, List.mem_of_getElem? found, rfl⟩)
      · rw [same, here] at there
        exact differ (Option.some.inj there).symm
      · exact ahead finished.length position other after there stands
    · rw [nobody other listed] at stands
      cases stands

end Moves

/-- While a list without repetitions is numbered, no member comes up again. -/
theorem zipIdx_distinct (order : List ι) (distinct : order.Nodup) (finished rest : List (ι × Nat))
    (entry : ι × Nat) (split : order.zipIdx = finished ++ entry :: rest) :
    ∀ earlier ∈ finished, earlier.1 ≠ entry.1 := by
  have members : order = finished.map Prod.fst ++ entry.1 :: rest.map Prod.fst := by
    have named := congrArg (List.map Prod.fst) split
    rw [List.zipIdx_map_fst, List.map_append, List.map_cons] at named
    exact named
  rw [members, List.nodup_append] at distinct
  intro earlier before
  exact distinct.2.2 earlier.1 (List.mem_map_of_mem before) entry.1 List.mem_cons_self

end TraxOs.Theory
