import Mathlib.Data.List.Chain
import Mathlib.Data.List.Basic
import Mathlib.Logic.Relation

/-!
# Finishing orders

A depth-first search finishes an element after all of its successors. An order in which
everything was finished like that has no cycle, and read backwards it is a topological
order. A search that comes back to its own trail has found a cycle.
-/

namespace TraxOs.Theory

open Relation

variable {α : Type} (successor : α → α → Prop)

/-- A list in which every element stands after all of its successors. -/
structure Finished (order : List α) : Prop where
  distinct : order.Nodup
  closed : ∀ node ∈ order, ∀ target, successor node target → target ∈ order
  backward : order.Pairwise fun earlier later => ¬ successor earlier later
  loopless : ∀ node ∈ order, ¬ successor node node

variable {successor}

theorem finished_nil : Finished successor [] where
  distinct := List.nodup_nil
  closed := by simp
  backward := .nil
  loopless := by simp

/-- The next element to be finished is one whose successors are finished. -/
theorem Finished.snoc {order : List α} (finished : Finished successor order) (node : α)
    (fresh : node ∉ order) (ready : ∀ target, successor node target → target ∈ order) :
    Finished successor (order ++ [node]) := by
  constructor
  · rw [List.nodup_append]
    refine ⟨finished.distinct, List.pairwise_singleton _ node, ?_⟩
    intro earlier member last same
    rw [List.mem_singleton.mp same]
    rintro rfl
    exact fresh member
  · intro earlier member target points
    rcases List.mem_append.mp member with member | member
    · exact List.mem_append_left _ (finished.closed earlier member target points)
    · rw [List.mem_singleton.mp member] at points
      exact List.mem_append_left _ (ready target points)
  · rw [List.pairwise_append]
    refine ⟨finished.backward, List.pairwise_singleton _ node, ?_⟩
    intro earlier member last same
    rw [List.mem_singleton.mp same]
    exact fun points => fresh (finished.closed earlier member node points)
  · intro earlier member points
    rcases List.mem_append.mp member with member | member
    · exact finished.loopless earlier member points
    · rw [List.mem_singleton.mp member] at points
      exact fresh (ready node points)

section Ranks

variable [DecidableEq α]

/-- Where no edge leads forward and none is a loop, every edge leads to a lower index. -/
theorem idxOf_lt_of_backward (order : List α)
    (backward : order.Pairwise fun earlier later => ¬ successor earlier later)
    (loopless : ∀ node ∈ order, ¬ successor node node) (node target : α) (member : node ∈ order)
    (there : target ∈ order) (points : successor node target) :
    order.idxOf target < order.idxOf node := by
  have nodeBound := List.idxOf_lt_length_of_mem member
  have targetBound := List.idxOf_lt_length_of_mem there
  rcases Nat.lt_trichotomy (order.idxOf target) (order.idxOf node) with lower | same | higher
  · exact lower
  · obtain rfl : target = node := (List.idxOf_inj there).mp same
    exact absurd points (loopless target member)
  · have forward := (List.pairwise_iff_getElem.mp backward) _ _ nodeBound targetBound higher
    rw [List.getElem_idxOf nodeBound, List.getElem_idxOf targetBound] at forward
    exact absurd points forward

/-- Whatever a finished element leads to is finished before it. -/
theorem Finished.leads {order : List α} (finished : Finished successor order) (node last : α)
    (leads : TransGen successor node last) (member : node ∈ order) :
    last ∈ order ∧ order.idxOf last < order.idxOf node := by
  induction leads with
  | single points =>
    have there := finished.closed node member _ points
    exact ⟨there, idxOf_lt_of_backward order finished.backward finished.loopless node _ member
      there points⟩
  | tail _ points inductionHypothesis =>
    obtain ⟨middle, below⟩ := inductionHypothesis
    have there := finished.closed _ middle _ points
    have lower := idxOf_lt_of_backward order finished.backward finished.loopless _ _ middle
      there points
    exact ⟨there, Nat.lt_trans lower below⟩

/-- Nothing that is finished lies on a cycle. -/
theorem Finished.acyclic {order : List α} (finished : Finished successor order) (node : α)
    (member : node ∈ order) : ¬ TransGen successor node node := by
  intro circle
  exact Nat.lt_irrefl _ (finished.leads node node circle member).2

end Ranks

/-- A trail leads from each of its elements to the one that it continues with. -/
theorem trail_leads (trail : List α) (node : α) (chain : (trail ++ [node]).IsChain successor)
    (member : α) (among : member ∈ trail) : TransGen successor member node := by
  have leads : (trail ++ [node]).Pairwise (TransGen successor) :=
    List.isChain_iff_pairwise.mp (chain.imp fun _ _ points => .single points)
  exact (List.pairwise_append.mp leads).2.2 member among node (List.mem_singleton_self node)

/-- A trail that continues with a successor of its last element. -/
theorem trail_extends (trail : List α) (node target : α)
    (chain : (trail ++ [node]).IsChain successor) (points : successor node target) :
    ((trail ++ [node]) ++ [target]).IsChain successor := by
  rw [List.isChain_append]
  refine ⟨chain, List.isChain_singleton target, ?_⟩
  intro last ends first begins
  rw [List.getLast?_append_of_ne_nil _ (List.cons_ne_nil node [])] at ends
  simp only [List.getLast?_singleton, Option.mem_def, Option.some.injEq] at ends
  simp only [List.head?_cons, Option.mem_def, Option.some.injEq] at begins
  subst ends
  subst begins
  exact points

end TraxOs.Theory
