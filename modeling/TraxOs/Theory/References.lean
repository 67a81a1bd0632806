import TraxOs.Theory.Peers

/-!
# Foreign keys under locks

A row may refer to other rows. A store resolves its references if every target is there.
A statement keeps that up by itself when it looks at a store in which it holds. Beside
others it also has to lock the target of a reference that it introduces, in any mode: the
target cannot be dropped then. A statement that drops a target drops what refers to it, as
ON DELETE CASCADE does.

Whatever the transactions are composed of, and however they are interleaved, every
committed store then resolves its references.
-/

namespace TraxOs.Theory

section References

variable {Key Name Op : Type} [DecidableEq Key] [DecidableEq Name]
  {Row : Key → Type} {Res : Op → Type} {Err Req Reply : Type}
  (refs : (key : Key) → Row key → List Key)

/-- Every target of a stored row is stored. -/
def Resolved (store : AList Row) : Prop :=
  ∀ key row, store.lookup key = some row → ∀ target ∈ refs key row,
    (store.lookup target).isSome = true

/-- Each reference of a written row was there before, or its target is locked. -/
def Anchored (writes : List (Write Row)) (locks : Locks Key Name) (before after : AList Row) :
    Prop :=
  ∀ key row, (∃ write ∈ writes, write.key = key) → after.lookup key = some row →
    ∀ target ∈ refs key row,
      (∃ old, before.lookup key = some old ∧ target ∈ refs key old) ∨
        ∃ mode, (Resource.row target, mode) ∈ locks

/-- What one statement owes. -/
def Minds (store : AList Row) (writes : List (Write Row)) (locks : Locks Key Name) : Prop :=
  Resolved refs (applyAll writes store) ∧ Anchored refs writes locks store (applyAll writes store)

/-- The statements of a service mind the references. -/
def MindsReferences (service : Service Name Row Res Err Req Reply) : Prop :=
  ∀ op store answer writes locks, Resolved refs store →
    service.execute op store = .ran answer writes locks → Minds refs store writes locks

/-- The discipline of such transactions, whatever their programs are. -/
def referenceDiscipline : Discipline Name Row Res Err Req Reply where
  Inv := Resolved refs
  Fine _ _ progress store := Resolved refs (progress.view store) ∧
    Anchored refs progress.writes progress.locks store (progress.view store)
  Commits _ _ _ _ := True

variable {refs} {mine theirs : Progress Name Row Res} {store : AList Row}

omit [DecidableEq Name] in
/-- A finite check of that. -/
theorem resolved_of_entries (checked : (store.entries.all fun entry =>
    (refs entry.1 entry.2).all fun target => (store.lookup target).isSome) = true) :
    Resolved refs store := by
  intro key row found target refers
  have entry := List.all_eq_true.mp checked ⟨key, row⟩ (AList.mem_lookup_iff.mp found)
  exact List.all_eq_true.mp entry target refers

section Statements

omit [DecidableEq Name]

/-- A statement that writes nothing. -/
theorem minds_nothing (resolved : Resolved refs store) (locks : Locks Key Name) :
    Minds refs store [] locks := by
  refine ⟨resolved, ?_⟩
  rintro key row ⟨write, member, _⟩
  cases member

/-- A statement that stores one row. -/
theorem minds_put (resolved : Resolved refs store) (key : Key) (row : Row key)
    (locks : Locks Key Name)
    (targets : ∀ target ∈ refs key row, (store.lookup target).isSome = true ∧
      ((∃ old, store.lookup key = some old ∧ target ∈ refs key old) ∨
        ∃ mode, (Resource.row target, mode) ∈ locks)) :
    Minds refs store [.put key row] locks := by
  have stays : ∀ target, (store.lookup target).isSome = true →
      ((applyAll [.put key row] store).lookup target).isSome = true := by
    intro target present
    simp only [applyAll_cons, applyAll_nil, Write.apply]
    by_cases same : target = key
    · subst same
      simp
    · rw [AList.lookup_insert_ne same]
      exact present
  have own : ∀ stored, (applyAll [.put key row] store).lookup key = some stored → stored = row := by
    intro stored found
    simpa [Write.apply] using found.symm
  constructor
  · intro other stored found target refers
    apply stays
    by_cases same : other = key
    · subst same
      rw [own stored found] at refers
      exact (targets target refers).1
    · simp only [applyAll_cons, applyAll_nil, Write.apply, AList.lookup_insert_ne same] at found
      exact resolved other stored found target refers
  · rintro other stored ⟨write, member, same⟩ found target refers
    rw [List.mem_singleton.mp member] at same
    subst same
    rw [own stored found] at refers
    exact (targets target refers).2

/-- A statement that drops rows with everything that refers to them. -/
theorem minds_drops (resolved : Resolved refs store) (dropped : List Key) (locks : Locks Key Name)
    (cascades : ∀ key row, store.lookup key = some row → ∀ target ∈ refs key row,
      target ∈ dropped → key ∈ dropped) :
    Minds refs store (dropped.map Write.drop) locks := by
  constructor
  · intro key row found target refers
    rw [lookup_applyAll_drops] at found ⊢
    split at found
    · cases found
    · next kept =>
      rw [if_neg fun gone => kept (cascades key row found target refers gone)]
      exact resolved key row found target refers
  · rintro key row ⟨write, member, rfl⟩ found
    obtain ⟨gone, among, rfl⟩ := List.mem_map.mp member
    rw [lookup_applyAll_drops, if_pos (by exact among)] at found
    cases found

end Statements

omit [DecidableEq Name] in
/-- One statement more. -/
theorem Anchored.extend (anchored : Anchored refs mine.writes mine.locks store (mine.view store))
    (op : Op) (answer : Res op) (writes : List (Write Row)) (locks : Locks Key Name)
    (own : Anchored refs writes locks (mine.view store) (applyAll writes (mine.view store))) :
    Anchored refs (mine.extend op answer writes locks).writes
      (mine.extend op answer writes locks).locks store
        ((mine.extend op answer writes locks).view store) := by
  -- A reference of the old row was there before the transaction, or is locked since.
  have earlier : ∀ key row, (mine.view store).lookup key = some row → ∀ target ∈ refs key row,
      (∃ old, store.lookup key = some old ∧ target ∈ refs key old) ∨
        ∃ mode, (Resource.row target, mode) ∈ (mine.extend op answer writes locks).locks := by
    intro key row found target refers
    by_cases written : ∃ write ∈ mine.writes, write.key = key
    · rcases anchored key row written found target refers with before | ⟨mode, held⟩
      · exact Or.inl before
      · exact Or.inr ⟨mode, List.mem_append_left _ held⟩
    · have untouched : ∀ write ∈ mine.writes, write.key ≠ key :=
        fun write member same => written ⟨write, member, same⟩
      rw [Progress.view, lookup_applyAll_untouched _ store key untouched] at found
      exact Or.inl ⟨row, found, refers⟩
  intro key row _ found target refers
  rw [Progress.view_extend] at found
  by_cases now : ∃ write ∈ writes, write.key = key
  · rcases own key row now found target refers with ⟨old, before, referred⟩ | ⟨mode, held⟩
    · exact earlier key old before target referred
    · exact Or.inr ⟨mode, List.mem_append_right _ (List.mem_append_left _ held)⟩
  · have untouched : ∀ write ∈ writes, write.key ≠ key :=
      fun write member same => now ⟨write, member, same⟩
    rw [lookup_applyAll_untouched _ _ key untouched] at found
    exact earlier key row found target refers

/-- Two transactions with compatible locks do not write the same row. -/
theorem written_apart (owned : Owned mine) (other : Owned theirs)
    (free : compatible mine.locks theirs.locks = true) (key : Key)
    (here : ∃ write ∈ mine.writes, write.key = key) : ∀ write ∈ theirs.writes, write.key ≠ key := by
  rintro theirs_write member rfl
  obtain ⟨write, among, same⟩ := here
  have held := owned write among
  have wanted := other theirs_write member
  have clash := (compatible_iff mine.locks theirs.locks).mp free (.row theirs_write.key)
  cases write with
  | put key row =>
    cases theirs_write with
    | put _ _ =>
      have conflict := clash .noKeyUpdate .noKeyUpdate (same ▸ held) wanted
      simp [LockMode.conflicts] at conflict
    | drop _ =>
      have conflict := clash .noKeyUpdate .update (same ▸ held) wanted
      simp [LockMode.conflicts] at conflict
  | drop key =>
    cases theirs_write with
    | put _ _ =>
      have conflict := clash .update .noKeyUpdate (same ▸ held) wanted
      simp [LockMode.conflicts] at conflict
    | drop _ =>
      have conflict := clash .update .update (same ▸ held) wanted
      simp [LockMode.conflicts] at conflict

omit [DecidableEq Name] in
/-- A row that is gone from the view was dropped, under the strongest lock. -/
theorem dropped_locked (owned : Owned theirs) (key : Key)
    (present : (store.lookup key).isSome = true) (gone : (theirs.view store).lookup key = none) :
    (Resource.row key, LockMode.update) ∈ theirs.locks := by
  have dropped : ∀ (writes : List (Write Row)) (base : AList Row),
      (base.lookup key).isSome = true → (applyAll writes base).lookup key = none →
        .drop key ∈ writes := by
    intro writes
    induction writes with
    | nil =>
      intro base there missing
      rw [applyAll_nil] at missing
      rw [missing] at there
      cases there
    | cons write rest inductionHypothesis =>
      intro base there missing
      rw [applyAll_cons] at missing
      by_cases still : ((write.apply base).lookup key).isSome = true
      · exact List.mem_cons_of_mem _ (inductionHypothesis _ still missing)
      · by_cases same : write.key = key
        · cases write with
          | put written row =>
            cases same
            simp [Write.apply, Write.key] at still
          | drop written =>
            cases same
            exact List.mem_cons_self
        · rw [write.lookup_apply_ne base key same] at still
          exact absurd there still
  exact owned (.drop key) (dropped theirs.writes store present gone)

/-- A target that a transaction has locked in any mode is not dropped beside it. -/
theorem locked_kept (owned : Owned theirs) (free : compatible mine.locks theirs.locks = true)
    (target : Key) (mode : LockMode) (held : (Resource.row target, mode) ∈ mine.locks)
    (present : (store.lookup target).isSome = true) :
    ((theirs.view store).lookup target).isSome = true := by
  by_contra absent
  have gone := dropped_locked owned target present (Option.not_isSome_iff_eq_none.mp absent)
  have conflict := (compatible_iff mine.locks theirs.locks).mp free (.row target) mode .update held
    gone
  cases mode <;> simp [LockMode.conflicts] at conflict

/-- The references of one transaction resolve in the store that its peer leaves. -/
theorem resolved_beside (mine_resolved : Resolved refs (mine.view store))
    (mine_anchored : Anchored refs mine.writes mine.locks store (mine.view store))
    (theirs_resolved : Resolved refs (theirs.view store))
    (theirs_anchored : Anchored refs theirs.writes theirs.locks store (theirs.view store))
    (owned : Owned mine) (other : Owned theirs)
    (free : compatible mine.locks theirs.locks = true) :
    Resolved refs (mine.view (theirs.view store)) := by
  have free' : compatible theirs.locks mine.locks = true := by
    rw [compatible_comm]
    exact free
  intro key row found target refers
  by_cases written : ∃ write ∈ mine.writes, write.key = key
  · -- The row is one's own.
    have own : (mine.view store).lookup key = some row := by
      rw [← found, Progress.view, Progress.view]
      exact lookup_applyAll_written mine.writes store (theirs.view store) key written
    have here := mine_resolved key row own target refers
    by_cases put : ∃ write ∈ mine.writes, write.key = target
    · rw [Progress.view, lookup_applyAll_written mine.writes (theirs.view store) store target put]
      exact here
    · have spared : ∀ write ∈ mine.writes, write.key ≠ target :=
        fun write member same => put ⟨write, member, same⟩
      rw [Progress.view, lookup_applyAll_untouched mine.writes store target spared] at here
      rw [Progress.view, lookup_applyAll_untouched mine.writes _ target spared]
      rcases mine_anchored key row written own target refers with ⟨old, before, referred⟩ |
        ⟨mode, held⟩
      · -- They have not written the row, so it still refers to the target.
        apply theirs_resolved key old _ target referred
        rw [Progress.view, lookup_applyAll_untouched theirs.writes store key
          (written_apart owned other free key written)]
        exact before
      · exact locked_kept other free target mode held here
  · -- The row is as they leave it.
    have untouched : ∀ write ∈ mine.writes, write.key ≠ key :=
      fun write member same => written ⟨write, member, same⟩
    rw [Progress.view, lookup_applyAll_untouched mine.writes _ key untouched] at found
    have there := theirs_resolved key row found target refers
    by_cases put : ∃ write ∈ mine.writes, write.key = target
    · have stored : (store.lookup target).isSome = true := by
        rw [Progress.view, lookup_applyAll_untouched theirs.writes store target
          (written_apart owned other free target put)] at there
        exact there
      rw [Progress.view, lookup_applyAll_written mine.writes (theirs.view store) store target put]
      have kept : ∀ old, store.lookup key = some old → target ∈ refs key old →
          ((mine.view store).lookup target).isSome = true := by
        intro old before referred
        apply mine_resolved key old _ target referred
        rw [Progress.view, lookup_applyAll_untouched mine.writes store key untouched]
        exact before
      by_cases theirs_put : ∃ write ∈ theirs.writes, write.key = key
      · rcases theirs_anchored key row theirs_put found target refers with
          ⟨old, before, referred⟩ | ⟨mode, held⟩
        · exact kept old before referred
        · exact locked_kept owned free' target mode held stored
      · apply kept row _ refers
        rw [← found, Progress.view, lookup_applyAll_untouched theirs.writes store key
          fun write member same => theirs_put ⟨write, member, same⟩]
    · rw [Progress.view, lookup_applyAll_untouched mine.writes _ target
        fun write member same => put ⟨write, member, same⟩]
      exact there

/-- What a transaction has anchored stays anchored when a peer commits. -/
theorem anchored_beside (anchored : Anchored refs mine.writes mine.locks store (mine.view store))
    (owned : Owned mine) (other : Owned theirs)
    (free : compatible mine.locks theirs.locks = true) :
    Anchored refs mine.writes mine.locks (theirs.view store) (mine.view (theirs.view store)) := by
  intro key row written found target refers
  have own : (mine.view store).lookup key = some row := by
    rw [← found, Progress.view, Progress.view]
    exact lookup_applyAll_written mine.writes store (theirs.view store) key written
  rcases anchored key row written own target refers with ⟨old, before, referred⟩ | held
  · refine Or.inl ⟨old, ?_, referred⟩
    rw [Progress.view, lookup_applyAll_untouched theirs.writes store key
      (written_apart owned other free key written)]
    exact before
  · exact Or.inr held

variable {service : Service Name Row Res Err Req Reply}

/-- Transactions of such statements keep the references. -/
theorem references_disciplined (minds : MindsReferences refs service) :
    (referenceDiscipline refs : Discipline Name Row Res Err Req Reply).Kept service where
  starts request store resolved := by
    refine ⟨resolved, ?_⟩
    rintro key row ⟨write, member, _⟩
    cases member
  proceeds request op next progress store answer writes locks _ fine ran := by
    obtain ⟨resolved, anchored⟩ := minds op _ answer writes locks fine.1 ran
    refine ⟨?_, fine.2.extend op answer writes locks anchored⟩
    rw [Progress.view_extend]
    exact resolved
  commits request reply progress store _ fine := ⟨fine.1, trivial⟩
  peers request program mine other reply theirs store _ fine theirs_fine owned theirs_owned
      free :=
    ⟨resolved_beside fine.1 fine.2 theirs_fine.1 theirs_fine.2 owned theirs_owned free,
      anchored_beside fine.2 owned theirs_owned free⟩

/-- Every committed store of every run resolves its references. -/
theorem run_resolved (permits : System Name Row Res Err Req Reply → Event Req → Prop)
    (always : ∀ request op answer db, service.current request op answer db = true)
    (minds : MindsReferences refs service) (db : AList Row)
    (last : System Name Row Res Err Req Reply) (resolved : Resolved refs db)
    (run : Run service permits (System.initial db) last) : Resolved refs last.db :=
  (run_disciplined permits always (references_disciplined minds) db last resolved run).invariant

end References

end TraxOs.Theory
