import Mathlib.Data.List.Nodup
import Mathlib.Data.String.Basic
import TraxOs.Theory.Finishing
import TraxOs.Web.Domain

/-!
# The module map has no cycle

The checker of module boundaries reads which roots may depend on which. `assertAcyclic`
searches the graph depth first: a node that is being visited when it is reached again
closes a cycle, and a node that was visited is not entered again.

The recursion of `visit` is bounded here by its depth. The trail of a search has no node
twice, so that one more than the number of nodes is always deep enough.
-/

namespace TraxOs.Boundaries

open TraxOs.Theory
open TraxOs.Web (trim)
open Relation (TransGen)

/-- An edge of the map from one root to another. -/
structure Edge where
  source : String
  target : String
deriving DecidableEq

section Search

variable (label : String) (nodes : List String) (edges : List Edge)

/-- `outgoing.get(node) ?? []`. -/
def outgoing (node : String) : List String :=
  if node ∈ nodes then (edges.filter fun edge => edge.source = node).map Edge.target else []

/-- The two sets of a search, in the order of insertion. -/
structure Search where
  visiting : List String
  visited : List String

/-- The search after a step, the message that it throws, or nothing when the recursion was
not deep enough. -/
abbrev Step := Option (Except String Search)

/-- The loop over the targets of a node, and over all nodes. -/
def each (visit : String → Search → Step) : List String → Search → Step
  | [], search => some (.ok search)
  | node :: rest, search =>
    match visit node search with
    | some (.ok after) => each visit rest after
    | other => other

/-- `visit`, with a bound on the depth of its recursion. -/
def visit : Nat → String → List String → Search → Step
  | 0, _, _, _ => none
  | depth + 1, node, trail, search =>
    if node ∈ search.visiting then
      some (.error (label ++ " contains cycle: " ++ " -> ".intercalate (trail ++ [node])))
    else if node ∈ search.visited then some (.ok search)
    else
      match each (fun target inner => visit depth target (trail ++ [node]) inner)
          (outgoing nodes edges node) { search with visiting := search.visiting ++ [node] } with
      | some (.ok inner) => some (.ok ⟨inner.visiting.erase node, inner.visited ++ [node]⟩)
      | other => other

/-- `assertAcyclic`. -/
def assertAcyclic : Option (Except String Unit) :=
  (each (fun node search => visit label nodes edges (nodes.length + 1) node [] search) nodes
    ⟨[], []⟩).map fun result => result.map fun _ => ()

end Search

section RootEdges

/-- `nonEmptyString`, of a value that is a string. -/
def nonEmptyString (value label : String) : Except String Unit :=
  if trim value.toList ≠ value.toList ∨ value.length = 0 then
    .error (label ++ " must be a non-empty trimmed string")
  else .ok ()

/-- `unique`, of the identities of the values. -/
def unique (label : String) : List String → List String → Except String Unit
  | _, [] => .ok ()
  | seen, identity :: rest =>
    if identity ∈ seen then .error (label ++ " contains duplicate " ++ identity)
    else unique label (identity :: seen) rest

/-- The checks of one entry of `rootEdges`. -/
def checkRootEdge (activePaths : List String) (index : Nat) (edge : Edge) :
    Except String Unit :=
  (nonEmptyString edge.source (s!"rootEdges[{index}].from")).bind fun _ =>
  (nonEmptyString edge.target (s!"rootEdges[{index}].to")).bind fun _ =>
  if edge.source ∉ activePaths ∨ edge.target ∉ activePaths then
    .error (s!"root edge {edge.source}->{edge.target} references an inactive or unknown root")
  else if edge.source = edge.target then
    .error (s!"root edge {edge.source}->{edge.target} is self-referential")
  else .ok ()

/-- The loop over the entries of `rootEdges`. -/
def checkRootEdges (activePaths : List String) : Nat → List Edge → Except String Unit
  | _, [] => .ok ()
  | index, edge :: rest =>
    (checkRootEdge activePaths index edge).bind fun _ =>
      checkRootEdges activePaths (index + 1) rest

/-- What `validateRegistry` does with `rootEdges`. -/
def validateRootEdges (activePaths : List String) (edges : List Edge) :
    Option (Except String Unit) :=
  match unique "rootEdges" [] (edges.map fun edge => edge.source ++ "->" ++ edge.target) with
  | .error message => some (.error message)
  | .ok () =>
    match checkRootEdges activePaths 0 edges with
    | .error message => some (.error message)
    | .ok () => assertAcyclic "root dependency graph" activePaths edges

end RootEdges

section Graphs

variable (nodes : List String) (edges : List Edge)

/-- The graph, restricted to the listed nodes. -/
def Joins (source target : String) : Prop :=
  source ∈ nodes ∧ target ∈ nodes ∧ ⟨source, target⟩ ∈ edges

/-- Some listed node leads back to itself. -/
def Cyclic : Prop := ∃ node, TransGen (Joins nodes edges) node node

/-- An order of the listed nodes in which every edge leads forward. -/
structure Topological (order : List String) : Prop where
  distinct : order.Nodup
  covers : ∀ node, node ∈ order ↔ node ∈ nodes
  forward : ∀ source target, Joins nodes edges source target →
    order.idxOf source < order.idxOf target

/-- The search goes where the map points, also to nodes that are not listed. -/
def Points (source target : String) : Prop := target ∈ outgoing nodes edges source

variable {nodes edges}

theorem points_iff (source target : String) :
    Points nodes edges source target ↔ source ∈ nodes ∧ ⟨source, target⟩ ∈ edges := by
  unfold Points outgoing
  by_cases listed : source ∈ nodes
  · rw [if_pos listed]
    simp only [List.mem_map, List.mem_filter, decide_eq_true_eq, listed, true_and]
    constructor
    · rintro ⟨⟨first, last⟩, ⟨member, rfl⟩, rfl⟩
      exact member
    · intro member
      exact ⟨⟨source, target⟩, ⟨member, rfl⟩, rfl⟩
  · rw [if_neg listed]
    simp [listed]

/-- What points somewhere is listed. -/
theorem listed_of_points (source last : String)
    (leads : TransGen (Points nodes edges) source last) : source ∈ nodes := by
  induction leads with
  | single points => exact ((points_iff _ _).mp points).1
  | tail _ _ inductionHypothesis => exact inductionHypothesis

/-- On the way to a listed node there are listed nodes only. -/
theorem joins_of_points (source last : String)
    (leads : TransGen (Points nodes edges) source last) (listed : last ∈ nodes) :
    TransGen (Joins nodes edges) source last := by
  induction leads with
  | single points =>
    obtain ⟨here, member⟩ := (points_iff _ _).mp points
    exact .single ⟨here, listed, member⟩
  | tail _ points inductionHypothesis =>
    obtain ⟨here, member⟩ := (points_iff _ _).mp points
    exact (inductionHypothesis here).tail ⟨here, listed, member⟩

/-- A cycle of the search is one of the listed nodes. -/
theorem cyclic_of_points (node : String) (leads : TransGen (Points nodes edges) node node) :
    Cyclic nodes edges :=
  ⟨node, joins_of_points node node leads (listed_of_points node node leads)⟩

/-- A graph with a topological order has no cycle. -/
theorem Topological.acyclic {order : List String} (topological : Topological nodes edges order) :
    ¬ Cyclic nodes edges := by
  rintro ⟨node, circle⟩
  have rises : ∀ last, TransGen (Joins nodes edges) node last →
      order.idxOf node < order.idxOf last := by
    intro last leads
    induction leads with
    | single joins => exact topological.forward _ _ joins
    | tail _ joins inductionHypothesis =>
      exact Nat.lt_trans inductionHypothesis (topological.forward _ _ joins)
  exact Nat.lt_irrefl _ (rises node circle)

/-- What a search has finished, read backwards, is a topological order. -/
theorem Finished.topological {visited : List String}
    (finished : Finished (Points nodes edges) visited) (covers : ∀ node ∈ nodes, node ∈ visited) :
    Topological nodes edges (visited.filter fun node => node ∈ nodes).reverse := by
  have member : ∀ node, node ∈ (visited.filter fun node => node ∈ nodes).reverse ↔
      node ∈ nodes := by
    intro node
    rw [List.mem_reverse, List.mem_filter, decide_eq_true_eq]
    exact ⟨fun both => both.2, fun listed => ⟨covers node listed, listed⟩⟩
  refine ⟨?_, member, ?_⟩
  · exact List.nodup_reverse.mpr (finished.distinct.filter _)
  · intro source target joins
    have points : Points nodes edges source target := (points_iff _ _).mpr ⟨joins.1, joins.2.2⟩
    have backward : (visited.filter fun node => node ∈ nodes).reverse.Pairwise
        fun earlier later => ¬ Points nodes edges later earlier := by
      rw [List.pairwise_reverse]
      exact finished.backward.filter _
    have loopless : ∀ node ∈ (visited.filter fun node => node ∈ nodes).reverse,
        ¬ Points nodes edges node node := by
      intro node among
      exact finished.loopless node (List.mem_of_mem_filter (List.mem_reverse.mp among))
    exact idxOf_lt_of_backward _ backward loopless target source ((member target).mpr joins.2.1)
      ((member source).mpr joins.1) points

end Graphs

section Visits

variable (label : String) {nodes : List String} {edges : List Edge}

/-- A search on a trail: the trail is what is being visited, and everything else that was
entered is finished. -/
structure Searching (nodes : List String) (edges : List Edge) (trail : List String)
    (search : Search) : Prop where
  visiting : search.visiting = trail
  distinct : trail.Nodup
  listed : ∀ node ∈ trail, node ∈ nodes
  finished : Finished (Points nodes edges) search.visited
  apart : ∀ node ∈ search.visited, node ∉ trail

/-- A step ends: with more finished nodes, the given ones among them, or at a cycle. -/
def Ends (nodes : List String) (edges : List Edge) (trail : List String) (search : Search)
    (given : List String) (step : Step) : Prop :=
  (∃ after, step = some (.ok after) ∧ Searching nodes edges trail after ∧
      (∀ node ∈ search.visited, node ∈ after.visited) ∧ ∀ node ∈ given, node ∈ after.visited) ∨
    ((∃ message, step = some (.error message)) ∧ Cyclic nodes edges)

/-- A loop ends when its rounds do. -/
theorem each_ends (trail : List String) (body : String → Search → Step) (given : List String)
    (round : ∀ node ∈ given, ∀ search, Searching nodes edges trail search →
      Ends nodes edges trail search [node] (body node search))
    (search : Search) (searching : Searching nodes edges trail search) :
    Ends nodes edges trail search given (each body given search) := by
  induction given generalizing search with
  | nil => exact Or.inl ⟨search, rfl, searching, fun _ member => member, by simp⟩
  | cons node rest inductionHypothesis =>
    unfold each
    rcases round node List.mem_cons_self search searching with
      ⟨middle, ended, still, kept, found⟩ | ⟨⟨message, ended⟩, cyclic⟩
    · rw [ended]
      rcases inductionHypothesis (fun other member => round other (List.mem_cons_of_mem _ member))
        middle still with ⟨after, last, settled, onwards, all⟩ | ⟨failed, cyclic⟩
      · refine Or.inl ⟨after, last, settled, fun other member => onwards other (kept other member),
          ?_⟩
        intro other member
        rcases List.mem_cons.mp member with rfl | member
        · exact onwards other (found other (List.mem_singleton_self other))
        · exact all other member
      · exact Or.inr ⟨failed, cyclic⟩
    · rw [ended]
      exact Or.inr ⟨⟨message, rfl⟩, cyclic⟩

/-- A visit ends when the recursion may go as deep as there are nodes left. The induction is
on the depth; the trail leads to the visited node. -/
theorem visit_ends (depth : Nat) (node : String) (trail : List String)
    (chain : (trail ++ [node]).IsChain (Points nodes edges))
    (deep : nodes.length + 1 ≤ depth + trail.length) (search : Search)
    (searching : Searching nodes edges trail search) :
    Ends nodes edges trail search [node] (visit label nodes edges depth node trail search) := by
  have short : trail.length ≤ nodes.length :=
    searching.distinct.length_le_of_subset searching.listed
  induction depth generalizing node trail search with
  | zero => omega
  | succ depth inductionHypothesis =>
    unfold visit
    by_cases entering : node ∈ search.visiting
    · rw [if_pos entering]
      rw [searching.visiting] at entering
      exact Or.inr ⟨⟨_, rfl⟩, cyclic_of_points node (trail_leads trail node chain node entering)⟩
    rw [if_neg entering]
    by_cases closed : node ∈ search.visited
    · rw [if_pos closed]
      refine Or.inl ⟨search, rfl, searching, fun _ member => member, ?_⟩
      intro other same
      rw [List.mem_singleton.mp same]
      exact closed
    rw [if_neg closed]
    rw [searching.visiting] at entering
    have entered : ∀ target ∈ outgoing nodes edges node,
        Searching nodes edges (trail ++ [node])
          { search with visiting := search.visiting ++ [node] } := by
      intro target points
      have listed : node ∈ nodes := ((points_iff node target).mp points).1
      refine ⟨by rw [searching.visiting], ?_, ?_, searching.finished, ?_⟩
      · rw [List.nodup_append]
        refine ⟨searching.distinct, List.pairwise_singleton _ node, ?_⟩
        intro earlier member last same
        rw [List.mem_singleton.mp same]
        rintro rfl
        exact entering member
      · intro other member
        rcases List.mem_append.mp member with member | member
        · exact searching.listed other member
        · rw [List.mem_singleton.mp member]
          exact listed
      · intro other member among
        rcases List.mem_append.mp among with among | among
        · exact searching.apart other member among
        · rw [List.mem_singleton.mp among] at member
          exact closed member
    -- the loop over the targets runs on the longer trail
    have loop : Ends nodes edges (trail ++ [node])
        { search with visiting := search.visiting ++ [node] } (outgoing nodes edges node)
        (each (fun target inner => visit label nodes edges depth target (trail ++ [node]) inner)
          (outgoing nodes edges node) { search with visiting := search.visiting ++ [node] }) ∨
        outgoing nodes edges node = [] := by
      by_cases leaf : outgoing nodes edges node = []
      · exact Or.inr leaf
      obtain ⟨first, points⟩ := List.exists_mem_of_ne_nil _ leaf
      refine Or.inl (each_ends (trail ++ [node]) _ _ ?_ _ (entered first points))
      intro target member inner still
      refine inductionHypothesis target (trail ++ [node]) (trail_extends trail node target chain
        member) ?_ inner still ?_
      · simp only [List.length_append, List.length_singleton]
        omega
      · exact still.distinct.length_le_of_subset still.listed
    have fresh : (trail ++ [node]).erase node = trail := by
      rw [List.erase_append_right _ entering, List.erase_cons_head, List.append_nil]
    rcases loop with (⟨inner, ended, still, kept, found⟩ | ⟨⟨message, ended⟩, cyclic⟩) | leaf
    · rw [ended]
      refine Or.inl ⟨_, rfl, ⟨?_, searching.distinct, searching.listed, ?_, ?_⟩, ?_, ?_⟩
      · rw [still.visiting, fresh]
      · refine still.finished.snoc node ?_ fun target points => found target points
        intro member
        exact still.apart node member (List.mem_append_right _ (List.mem_singleton_self node))
      · intro other member among
        rcases List.mem_append.mp member with member | member
        · exact still.apart other member (List.mem_append_left _ among)
        · rw [List.mem_singleton.mp member] at among
          exact entering among
      · exact fun other member => List.mem_append_left _ (kept other member)
      · exact fun other member => List.mem_append_right _ member
    · rw [ended]
      exact Or.inr ⟨⟨message, rfl⟩, cyclic⟩
    · rw [leaf]
      refine Or.inl ⟨_, rfl, ⟨?_, searching.distinct, searching.listed, ?_, ?_⟩, ?_, ?_⟩
      · rw [searching.visiting, fresh]
      · refine searching.finished.snoc node closed ?_
        intro target points
        unfold Points at points
        rw [leaf] at points
        cases points
      · intro other member among
        rcases List.mem_append.mp member with member | member
        · exact searching.apart other member among
        · rw [List.mem_singleton.mp member] at among
          exact entering among
      · exact fun other member => List.mem_append_left _ member
      · exact fun other member => List.mem_append_right _ member

/-- The search ends: with all nodes finished, or at a cycle. -/
theorem assertAcyclic_ends (label : String) (nodes : List String) (edges : List Edge) :
    (assertAcyclic label nodes edges = some (.ok ()) ∧
      ∃ order, Topological nodes edges order) ∨
    ((∃ message, assertAcyclic label nodes edges = some (.error message)) ∧
      Cyclic nodes edges) := by
  have ends : Ends nodes edges [] ⟨[], []⟩ nodes (each (fun node search =>
      visit label nodes edges (nodes.length + 1) node [] search) nodes ⟨[], []⟩) := each_ends [] _ nodes
    (fun node _ search searching => visit_ends label (nodes.length + 1) node []
      (List.isChain_singleton node) (Nat.le_refl _) search searching)
    ⟨[], []⟩ ⟨rfl, List.nodup_nil, by simp, finished_nil, by simp⟩
  unfold assertAcyclic
  rcases ends with ⟨after, ended, searching, _, found⟩ | ⟨⟨message, ended⟩, cyclic⟩
  · rw [ended]
    exact Or.inl ⟨rfl, _, Finished.topological searching.finished found⟩
  · rw [ended]
    exact Or.inr ⟨⟨message, rfl⟩, cyclic⟩

/-- A module map is accepted by its last check, if at all. -/
theorem validateRootEdges_ok (activePaths : List String) (edges : List Edge)
    (accepted : validateRootEdges activePaths edges = some (.ok ())) :
    assertAcyclic "root dependency graph" activePaths edges = some (.ok ()) := by
  unfold validateRootEdges at accepted
  split at accepted
  · cases accepted
  · split at accepted
    · cases accepted
    · exact accepted

/-- `assertAcyclic` terminates. It throws exactly at the maps with a cycle among the listed
nodes, and accepts exactly those that have a topological order; so has every map that
`validateRegistry` accepts. -/
theorem assertAcyclic_decides (label : String) (nodes : List String) (edges : List Edge) :
    assertAcyclic label nodes edges ≠ none ∧
      ((∃ message, assertAcyclic label nodes edges = some (.error message)) ↔
        Cyclic nodes edges) ∧
      (assertAcyclic label nodes edges = some (.ok ()) ↔
        ∃ order, Topological nodes edges order) ∧
      (validateRootEdges nodes edges = some (.ok ()) →
        ∃ order, Topological nodes edges order) := by
  refine ⟨?_, ?_, ?_, ?_⟩
  · rcases assertAcyclic_ends label nodes edges with
      ⟨accepted, _⟩ | ⟨⟨message, thrown⟩, _⟩
    · simp [accepted]
    · simp [thrown]
  · rcases assertAcyclic_ends label nodes edges with
      ⟨accepted, order, topological⟩ | ⟨thrown, cyclic⟩
    · refine iff_of_false ?_ topological.acyclic
      rintro ⟨message, failed⟩
      rw [accepted] at failed
      cases failed
    · exact iff_of_true thrown cyclic
  · rcases assertAcyclic_ends label nodes edges with
      ⟨accepted, ordered⟩ | ⟨⟨message, thrown⟩, cyclic⟩
    · exact iff_of_true accepted ordered
    · refine iff_of_false (by simp [thrown]) ?_
      rintro ⟨order, topological⟩
      exact topological.acyclic cyclic
  · intro valid
    rcases assertAcyclic_ends "root dependency graph" nodes edges with
      ⟨_, ordered⟩ | ⟨⟨message, thrown⟩, _⟩
    · exact ordered
    · have accepted := validateRootEdges_ok nodes edges valid
      rw [thrown] at accepted
      cases accepted

example : assertAcyclic "map" ["a", "b"] [⟨"a", "b"⟩, ⟨"b", "c"⟩, ⟨"b", "a"⟩] =
    some (.error "map contains cycle: a -> b -> a") := by decide +kernel

end Visits

end TraxOs.Boundaries
