import TraxOs.Theory.RelyGuarantee

/-!
# Effects, row by row

What a commit does to a store can be described row by row, by a relation between the
content of each row before and afterwards. A row that a transaction has written is locked,
and shows in the view what it will be; any other row is left as the others leave it. If the
description allows for that, then no interference takes it away.
-/

namespace TraxOs.Theory

/-- What becomes of each row. -/
abbrev RowEffect {Key : Type} (Row : Key → Type) :=
  (key : Key) → Option (Row key) → Option (Row key) → Prop

section Effects

variable {Key Name Op : Type} [DecidableEq Key]
  {Row : Key → Type} {Res : Op → Type} {Err Req Reply : Type}

/-- The rows of two stores are related by an effect. -/
def RowEffect.Holds (effect : RowEffect Row) (before after : AList Row) : Prop :=
  ∀ key, effect key (before.lookup key) (after.lookup key)

/-- A transaction whose statements so far have an effect, and keep it. -/
structure Effected (effect : RowEffect Row) (progress : Progress Name Row Res)
    (store : AList Row) : Prop where
  owned : ∀ write ∈ progress.writes, ∃ mode, (Resource.row write.key, mode) ∈ progress.locks ∧
    mode ≠ .keyShare
  spared : ∀ key, (∀ write ∈ progress.writes, write.key ≠ key) →
    ∀ content, effect key content content
  changed : effect.Holds store (progress.view store)

variable {effect : RowEffect Row} {progress : Progress Name Row Res} {store later : AList Row}

/-- Without a write there is no effect. -/
theorem effected_clean (reflexive : ∀ key content, effect key content content)
    (clean : progress.writes = []) : Effected effect progress store := by
  constructor
  · simp [clean]
  · exact fun key _ content => reflexive key content
  · intro key
    rw [Progress.view, clean, applyAll_nil]
    exact reflexive key _

/-- One statement more, whose own effect composes with the one before. -/
theorem Effected.extend (effected : Effected effect progress store) (own whole : RowEffect Row)
    (op : Op) (answer : Res op) (writes : List (Write Row)) (locks : Locks Key Name)
    (composed : ∀ key before middle after, effect key before middle → own key middle after →
      whole key before after)
    (spared : ∀ key, (∀ write ∈ progress.writes, write.key ≠ key) →
      (∀ write ∈ writes, write.key ≠ key) → ∀ content, whole key content content)
    (made : own.Holds (progress.view store) (applyAll writes (progress.view store))) :
    Effected whole (progress.extend op answer writes locks) store := by
  constructor
  · intro write member
    rcases List.mem_append.mp member with earlier | now
    · obtain ⟨mode, held, strong⟩ := effected.owned write earlier
      exact ⟨mode, List.mem_append_left _ held, strong⟩
    · exact (pinned_written progress store op answer writes locks write now).2
  · intro key untouched
    exact spared key (fun write member => untouched write (List.mem_append_left _ member))
      fun write member => untouched write (List.mem_append_right _ member)
  · intro key
    rw [Progress.view_extend]
    exact composed key _ _ _ (effected.changed key) (made key)

/-- A statement that only writes rows of which the effect says nothing. -/
theorem Effected.aside (effected : Effected effect progress store) (op : Op) (answer : Res op)
    (writes : List (Write Row)) (locks : Locks Key Name)
    (silent : ∀ write ∈ writes, ∀ before after, effect write.key before after) :
    Effected effect (progress.extend op answer writes locks) store := by
  apply effected.extend (fun key before after =>
    (∃ write ∈ writes, write.key = key) ∨ before = after) effect op answer writes locks
  · intro key before middle after earlier own
    rcases own with ⟨write, member, rfl⟩ | rfl
    · exact silent write member before after
    · exact earlier
  · exact fun key untouched _ content => effected.spared key untouched content
  · intro key
    by_cases written : ∃ write ∈ writes, write.key = key
    · exact Or.inl written
    · refine Or.inr (lookup_applyAll_untouched writes _ key ?_).symm
      exact fun write member same => written ⟨write, member, same⟩

section Interference

variable [DecidableEq Name] {service : Service Name Row Res Err Req Reply} {contract : Contract Row Req Reply}
  {request : Req}

/-- The others' commits change nothing of it. -/
theorem Effected.reaches (effected : Effected effect progress store)
    (reached : Reaches service contract request progress store later) :
    Effected effect progress later := by
  refine ⟨effected.owned, effected.spared, fun key => ?_⟩
  by_cases written : ∃ write ∈ progress.writes, write.key = key
  · obtain ⟨write, member, same⟩ := written
    obtain ⟨mode, held, strong⟩ := effected.owned write member
    rw [same] at held
    have kept : later.lookup key = store.lookup key :=
      lookup_locked service contract request progress store later key mode reached held strong
    have seen : (progress.view later).lookup key = (progress.view store).lookup key :=
      lookup_applyAll_congr _ later store key kept
    rw [kept, seen]
    exact effected.changed key
  · have untouched : ∀ write ∈ progress.writes, write.key ≠ key :=
      fun write member same => written ⟨write, member, same⟩
    have seen : (progress.view later).lookup key = later.lookup key :=
      lookup_applyAll_untouched _ later key untouched
    rw [seen]
    exact effected.spared key untouched _

/-- A commit has the effect that its statements had. -/
theorem Effected.promises {reply : Reply} (effected : Effected effect progress store)
    (suffices_for : ∀ before after, effect.Holds before after →
      contract.Commits request reply before after) :
    Promises service contract request reply progress store := by
  intro later _ reached
  exact suffices_for later _ (effected.reaches reached).changed

/-- Statements of which the effect says nothing keep it. -/
theorem leads_effected {α : Type} (kind : Op → Prop)
    (silent : ∀ op store answer writes locks, kind op →
      service.execute op store = .ran answer writes locks →
        ∀ write ∈ writes, ∀ before after, effect write.key before after)
    (program : Program Op Res Err α) (only : program.Only kind)
    (effected : Effected effect progress store) :
    Leads service contract request program progress store fun _ => Effected effect := by
  apply leads_invariant service contract kind (Effected effect) _ program only progress store
    effected
  intro progress store later op answer writes locks among effected _ reached ran
  exact (effected.reaches reached).aside op answer writes locks
    (silent op _ answer writes locks among ran)

/-- Reading alone leaves no write behind. -/
theorem leads_unwritten {α : Type} (kind : Op → Prop)
    (reads : ∀ op store answer writes locks, kind op →
      service.execute op store = .ran answer writes locks → writes = [])
    (program : Program Op Res Err α) (only : program.Only kind) (clean : progress.writes = []) :
    Leads service contract request program progress store
      fun _ grown _ => grown.writes = [] := by
  apply leads_invariant service contract kind (fun grown _ => grown.writes = []) _ program only
    progress store clean
  intro progress store later op answer writes locks among clean _ _ ran
  have nothing := reads op _ answer writes locks among ran
  simp [Progress.extend, clean, nothing]

end Interference

end Effects

end TraxOs.Theory
