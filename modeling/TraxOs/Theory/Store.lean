import Mathlib.Data.List.AList

/-!
# Keyed stores and buffered writes

A store maps each key to at most one row, and the type of a row is fixed by its
key. Mathlib's `AList` supplies the store: its keys cannot repeat. A transaction
buffers its writes in order and reads the store through them.

The laws below speak only about lookups. They say which keys a buffer decides
and that a buffer decides them independently of the store beneath it.
-/

namespace TraxOs.Theory

variable {Key : Type} [DecidableEq Key] {Row : Key → Type}

/-- One buffered row change: a row put at its key, or a key dropped. -/
inductive Write (Row : Key → Type) where
  | put (key : Key) (row : Row key)
  | drop (key : Key)

namespace Write

/-- The only key a write can change. -/
def key : Write Row → Key
  | .put key _ => key
  | .drop key => key

/-- The effect of one write on a store. -/
def apply : Write Row → AList Row → AList Row
  | .put key row, store => store.insert key row
  | .drop key, store => store.erase key

/-- A write leaves every other key alone. -/
theorem lookup_apply_ne (write : Write Row) (store : AList Row) (tested : Key)
    (other : write.key ≠ tested) : (write.apply store).lookup tested = store.lookup tested := by
  cases write with
  | put key row => exact AList.lookup_insert_ne (fun same => other same.symm)
  | drop key => exact AList.lookup_erase_ne (fun same => other same.symm)

/-- A write decides its own key without reading the store. -/
theorem lookup_apply_self (write : Write Row) (left right : AList Row) :
    (write.apply left).lookup write.key = (write.apply right).lookup write.key := by
  cases write with
  | put key row => simp [apply, Write.key]
  | drop key => simp [apply, Write.key]

end Write

/-- Apply a buffer of writes, the oldest first. -/
def applyAll (writes : List (Write Row)) (store : AList Row) : AList Row :=
  writes.foldl (fun current write => write.apply current) store

@[simp] theorem applyAll_nil (store : AList Row) : applyAll [] store = store := rfl

@[simp] theorem applyAll_cons (write : Write Row) (writes : List (Write Row)) (store : AList Row) :
    applyAll (write :: writes) store = applyAll writes (write.apply store) := rfl

@[simp] theorem applyAll_append (first second : List (Write Row)) (store : AList Row) :
    applyAll (first ++ second) store = applyAll second (applyAll first store) :=
  List.foldl_append

/-- A buffer that does not mention a key leaves it as the store has it. -/
theorem lookup_applyAll_untouched (writes : List (Write Row)) (store : AList Row) (tested : Key)
    (untouched : ∀ write ∈ writes, write.key ≠ tested) :
    (applyAll writes store).lookup tested = store.lookup tested := by
  induction writes generalizing store with
  | nil => rfl
  | cons write rest inductionHypothesis =>
    rw [applyAll_cons, inductionHypothesis (write.apply store)
      (fun later member => untouched later (List.mem_cons_of_mem write member))]
    exact write.lookup_apply_ne store tested (untouched write List.mem_cons_self)

/-- A buffer that mentions a key decides it, whatever the store held before. -/
theorem lookup_applyAll_written (writes : List (Write Row)) (left right : AList Row) (tested : Key)
    (written : ∃ write ∈ writes, write.key = tested) :
    (applyAll writes left).lookup tested = (applyAll writes right).lookup tested := by
  induction writes generalizing left right with
  | nil => simp at written
  | cons write rest inductionHypothesis =>
    rw [applyAll_cons, applyAll_cons]
    by_cases later : ∃ write ∈ rest, write.key = tested
    · exact inductionHypothesis (write.apply left) (write.apply right) later
    · have untouched : ∀ write ∈ rest, write.key ≠ tested := by
        intro candidate member same
        exact later ⟨candidate, member, same⟩
      have here : write.key = tested := by
        obtain ⟨candidate, member, same⟩ := written
        rcases List.mem_cons.mp member with rfl | member
        · exact same
        · exact absurd same (untouched candidate member)
      rw [lookup_applyAll_untouched rest _ tested untouched,
        lookup_applyAll_untouched rest _ tested untouched, ← here]
      exact write.lookup_apply_self left right

/-- A buffer that only drops keys shows the store without them. -/
theorem lookup_applyAll_drops (dropped : List Key) (store : AList Row) (tested : Key) :
    (applyAll (dropped.map Write.drop) store).lookup tested =
      if tested ∈ dropped then none else store.lookup tested := by
  induction dropped generalizing store with
  | nil => simp
  | cons key rest inductionHypothesis =>
    rw [List.map_cons, applyAll_cons, inductionHypothesis]
    by_cases later : tested ∈ rest
    · simp [later]
    · by_cases same : tested = key
      · subst same
        simp [later, Write.apply]
      · simp [later, same, Write.apply, AList.lookup_erase_ne]

/-- A buffer of puts leaves a key as any store has it, or shows one of its rows there. -/
theorem lookup_applyAll_puts (writes : List (Write Row)) (tested : Key)
    (puts : ∀ write ∈ writes, ∃ key row, write = .put key row) :
    (∀ store, (applyAll writes store).lookup tested = store.lookup tested) ∨
      ∃ row, .put tested row ∈ writes ∧
        ∀ store, (applyAll writes store).lookup tested = some row := by
  induction writes with
  | nil => exact Or.inl fun _ => rfl
  | cons write rest inductionHypothesis =>
    obtain ⟨key, row, rfl⟩ := puts write List.mem_cons_self
    rcases inductionHypothesis fun later member => puts later (List.mem_cons_of_mem _ member) with
      untouched | ⟨last, member, shown⟩
    · by_cases same : key = tested
      · subst same
        refine Or.inr ⟨row, List.mem_cons_self, fun store => ?_⟩
        rw [applyAll_cons, untouched, Write.apply, AList.lookup_insert]
      · refine Or.inl fun store => ?_
        rw [applyAll_cons, untouched]
        exact Write.lookup_apply_ne _ store tested same
    · exact Or.inr ⟨last, List.mem_cons_of_mem _ member, fun store => shown _⟩

/-- The writes that put the given rows. -/
def putAll (rows : List (Sigma Row)) : List (Write Row) :=
  rows.map fun entry => .put entry.1 entry.2

/-- Rows with keys of their own come on top of those that are there. -/
theorem lookup_putAll (rows : List (Sigma Row)) (store : AList Row) (distinct : rows.NodupKeys)
    (fresh : ∀ entry ∈ rows, store.lookup entry.1 = none) (key : Key) (row : Row key) :
    (applyAll (putAll rows) store).lookup key = some row ↔
      store.lookup key = some row ∨ ⟨key, row⟩ ∈ rows := by
  induction rows generalizing store with
  | nil => simp [putAll]
  | cons entry rest inductionHypothesis =>
    obtain ⟨added, content⟩ := entry
    obtain ⟨apart, later⟩ := List.nodupKeys_cons.mp distinct
    have other : ∀ next ∈ rest, added ≠ next.1 := by
      intro next member same
      exact apart (List.mem_map.mpr ⟨next, member, same.symm⟩)
    have unused : store.lookup added = none := fresh ⟨added, content⟩ List.mem_cons_self
    have step := inductionHypothesis ((Write.put added content).apply store) later (by
      intro next member
      rw [Write.lookup_apply_ne (.put added content) store next.1 (other next member)]
      exact fresh next (List.mem_cons_of_mem _ member))
    rw [putAll, List.map_cons, applyAll_cons, ← putAll, step, List.mem_cons, ← or_assoc]
    apply or_congr_left
    by_cases same : added = key
    · subst same
      rw [Write.apply, AList.lookup_insert, unused, Option.some.injEq, Sigma.mk.injEq]
      simp [eq_comm]
    · rw [Write.lookup_apply_ne (.put added content) store key same, Sigma.mk.injEq]
      simp [Ne.symm same]
/-- What a scan of the whole store picks out, row by row. -/
def collect {α : Type} (pick : (key : Key) → Row key → Option α) (store : AList Row) : List α :=
  store.entries.filterMap fun entry => pick entry.1 entry.2

/-- A scan finds exactly what some row of the store supplies. -/
theorem mem_collect {α : Type} (pick : (key : Key) → Row key → Option α) (store : AList Row)
    (found : α) :
    found ∈ collect pick store ↔
      ∃ key row, store.lookup key = some row ∧ pick key row = some found := by
  simp only [collect, List.mem_filterMap, Sigma.exists]
  constructor
  · rintro ⟨key, row, member, picked⟩
    exact ⟨key, row, AList.mem_lookup_iff.mpr member, picked⟩
  · rintro ⟨key, row, present, picked⟩
    exact ⟨key, row, AList.mem_lookup_iff.mp present, picked⟩

/-- Two stores that agree wherever a scan could find something give it the same
findings, up to their order. -/
theorem collect_perm {α : Type} (pick : (key : Key) → Row key → Option α) (left right : AList Row)
    (agree : ∀ key row, (pick key row).isSome = true → left.lookup key = right.lookup key) :
    (collect pick left).Perm (collect pick right) := by
  have relevant : ∀ store : AList Row, collect pick store =
      (store.entries.filter fun entry => (pick entry.1 entry.2).isSome).filterMap
        fun entry => pick entry.1 entry.2 := by
    intro store
    rw [List.filterMap_filter]
    apply List.filterMap_congr
    intro entry _
    cases pick entry.1 entry.2 <;> rfl
  have distinct : ∀ store : AList Row, store.entries.Nodup :=
    fun store => List.NodupKeys.nodup store.nodupKeys
  rw [relevant left, relevant right]
  apply List.Perm.filterMap
  rw [List.perm_ext_iff_of_nodup ((distinct left).filter _) ((distinct right).filter _)]
  rintro ⟨key, row⟩
  simp only [List.mem_filter, and_congr_left_iff]
  intro picked
  rw [← AList.mem_lookup_iff, ← AList.mem_lookup_iff, agree key row picked]

omit [DecidableEq Key] in
/-- A scan that never picks the same from two rows finds nothing twice. -/
theorem collect_nodup {α : Type} (pick : (key : Key) → Row key → Option α) (store : AList Row)
    (apart : ∀ (one two : Sigma Row) (found : α), pick one.1 one.2 = some found →
      pick two.1 two.2 = some found → one = two) : (collect pick store).Nodup := by
  apply (List.NodupKeys.nodup store.nodupKeys).filterMap
  intro one two found first second
  exact apart one two found first second

/-- A scan that can only pick from the row of one key finds what that row supplies. -/
theorem collect_single {α : Type} (pick : (key : Key) → Row key → Option α) (store : AList Row)
    (target : Key) (only : ∀ key row, store.lookup key = some row →
      (pick key row).isSome = true → key = target) :
    collect pick store = ((store.lookup target).bind (pick target)).toList := by
  have found : ∀ entries : List (Sigma Row), entries.NodupKeys →
      (∀ entry ∈ entries, (pick entry.1 entry.2).isSome = true → entry.1 = target) →
        (entries.filterMap fun entry => pick entry.1 entry.2) =
          ((entries.dlookup target).bind (pick target)).toList := by
    intro entries
    induction entries with
    | nil => exact fun _ _ => rfl
    | cons entry rest inductionHypothesis =>
      intro distinct within
      obtain ⟨key, row⟩ := entry
      rw [List.nodupKeys_cons] at distinct
      have remaining := inductionHypothesis distinct.2
        fun other member => within other (List.mem_cons_of_mem _ member)
      by_cases same : key = target
      · subst same
        rw [List.dlookup_eq_none.mpr distinct.1] at remaining
        rw [List.filterMap_cons, List.dlookup_cons_eq, remaining]
        cases picked : pick key row <;> simp [picked]
      · have nothing : pick key row = none := by
          rw [← Option.not_isSome_iff_eq_none]
          exact fun picked => same (within ⟨key, row⟩ List.mem_cons_self picked)
        rw [List.filterMap_cons, List.dlookup_cons_ne _ _ (Ne.symm same)]
        simp only [nothing]
        exact remaining
  exact found store.entries store.nodupKeys fun entry member picked =>
    only entry.1 entry.2 (AList.mem_lookup_iff.mpr member) picked

/-- Replacing the store beneath a buffer by one that agrees at a key does not
change what the buffer shows at that key. -/
theorem lookup_applyAll_congr (writes : List (Write Row)) (left right : AList Row) (tested : Key)
    (agree : left.lookup tested = right.lookup tested) :
    (applyAll writes left).lookup tested = (applyAll writes right).lookup tested := by
  by_cases written : ∃ write ∈ writes, write.key = tested
  · exact lookup_applyAll_written writes left right tested written
  · have untouched : ∀ write ∈ writes, write.key ≠ tested :=
      fun write member same => written ⟨write, member, same⟩
    rw [lookup_applyAll_untouched writes left tested untouched,
      lookup_applyAll_untouched writes right tested untouched, agree]

end TraxOs.Theory
