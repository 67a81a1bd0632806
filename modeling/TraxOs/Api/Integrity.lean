import TraxOs.Theory.References
import TraxOs.Api.Timelines
import TraxOs.Api.TimelineRuns
import TraxOs.Api.PackingEdits

/-!
# Foreign keys of the tables

A segment and a packing item refer to their journey, a change event and the receipt of an
applied command to their change set. The statements keep these references: an insertion
locks its target, an update changes no reference, and the deletion of a journey drops its
parts. So no committed state has an orphan, whatever runs beside whatever.
-/

namespace TraxOs.Api

open TraxOs.Theory

/-- The rows that a row refers to. -/
def Key.refs : (key : Key) → Row key → List Key
  | .segment _, row => [.journey row.1.journeyId]
  | .packingItem _, row => [.journey row.1.journeyId]
  | .changeEvent _, row => [.changeSet row.changeSetId]
  | .receipt _ _ _, row =>
    match row.outcome with
    | .applied _ changeSetId => [.changeSet changeSetId]
    | _ => []
  | _, _ => []

/-- No row of the database refers to a row that is not there. -/
abbrev Integral (db : Database) : Prop := Resolved Key.refs db

section Statements

variable (platform : Platform) {db : Database}

/-- An update of a segment in its journey. -/
theorem minds_segment (integral : Integral db) (id : Uuid) (row stored : StoredSegment)
    (present : db.lookup (Key.segment id) = some row)
    (inside : stored.1.journeyId = row.1.journeyId) (locks : Locks Key Name) :
    Minds Key.refs db [.put (Key.segment id) stored] locks := by
  apply minds_put integral
  intro target refers
  simp only [Key.refs, inside] at refers
  exact ⟨integral (Key.segment id) row present target refers, Or.inl ⟨row, present, refers⟩⟩

/-- An update of a packing item in its journey. -/
theorem minds_packingItem (integral : Integral db) (id : Uuid) (row stored : StoredPackingItem)
    (present : db.lookup (Key.packingItem id) = some row)
    (inside : stored.1.journeyId = row.1.journeyId) (locks : Locks Key Name) :
    Minds Key.refs db [.put (Key.packingItem id) stored] locks := by
  apply minds_put integral
  intro target refers
  simp only [Key.refs, inside] at refers
  exact ⟨integral (Key.packingItem id) row present target refers, Or.inl ⟨row, present, refers⟩⟩

/-- Dropping a row to which nothing can refer. -/
theorem minds_drop (integral : Integral db) (part : Key) (isPart : part.isPart = true)
    (locks : Locks Key Name) : Minds Key.refs db [.drop part] locks := by
  apply minds_drops integral [part]
  intro key row _ target refers dropped
  rw [List.mem_singleton.mp dropped] at refers
  cases key with
  | segment id =>
    rw [List.mem_singleton.mp refers] at isPart
    cases isPart
  | packingItem id =>
    rw [List.mem_singleton.mp refers] at isPart
    cases isPart
  | changeEvent id =>
    rw [List.mem_singleton.mp refers] at isPart
    cases isPart
  | receipt workspaceId userId commandId =>
    simp only [Key.refs] at refers
    split at refers
    · rw [List.mem_singleton.mp refers] at isPart
      cases isPart
    · cases refers
  | _ => cases refers

/-- A visible journey is there. -/
theorem visible_present (scope : Scope) (id : Uuid)
    (visible : (visibleJourney db scope id).isSome = true) :
    (db.lookup (Key.journey id)).isSome = true := by
  obtain ⟨row, shown⟩ := Option.isSome_iff_exists.mp visible
  rw [((visibleJourney_some db scope id row).mp shown).1]
  rfl

/-- ON DELETE CASCADE leaves no part of a journey behind. -/
theorem minds_deleteJourney (integral : Integral db) (journeyId : Uuid) (locks : Locks Key Name) :
    Minds Key.refs db (.drop (.journey journeyId) :: cascade db journeyId) locks := by
  rw [cascade_drops]
  apply minds_drops integral
  intro key row present target refers gone
  cases key with
  | segment id =>
    obtain rfl := List.mem_singleton.mp refers
    have inside : row.1.journeyId = journeyId := by simpa using gone
    apply List.mem_cons_of_mem _ (List.mem_append_left _ _)
    exact List.mem_map.mpr ⟨(id, row), (mem_timeline db journeyId id row).mpr ⟨present, inside⟩, rfl⟩
  | packingItem id =>
    obtain rfl := List.mem_singleton.mp refers
    have inside : row.1.journeyId = journeyId := by simpa using gone
    apply List.mem_cons_of_mem _ (List.mem_append_right _ _)
    refine List.mem_map.mpr ⟨(id, row), (mem_collect _ _ _).mpr ⟨_, row, present, ?_⟩, rfl⟩
    simp [packingItemOf, inside]
  | changeEvent id =>
    obtain rfl := List.mem_singleton.mp refers
    simp at gone
  | receipt workspaceId userId commandId =>
    simp only [Key.refs] at refers
    split at refers
    · obtain rfl := List.mem_singleton.mp refers
      simp at gone
    · cases refers
  | _ => cases refers

/-- Every statement of the API minds the references. -/
theorem execute_minds (current : Request → (op : Op) → Res op → Database → Bool) :
    MindsReferences Key.refs (api platform current) := by
  intro op db answer writes locks integral ran
  have ran : execute platform op db = .ran answer writes locks := ran
  by_cases reads : op.reads = true
  · rw [reads_only platform db op reads answer writes locks ran]
    exact minds_nothing integral locks
  · cases op with
    | insertChangeSet scope id row =>
      obtain ⟨_, rfl⟩ := ran_insertChangeSet platform _ _ _ _ _ _ _ ran
      exact minds_put integral _ _ _ (by simp [Key.refs])
    | insertChangeEvent scope id row =>
      have stored := ran_insertChangeEvent platform _ _ _ _ _ _ _ ran
      obtain ⟨_, rfl⟩ := stored
      simp only [execute] at ran
      split at ran
      · simp at ran
      · split at ran
        · simp at ran
        · split at ran
          · simp at ran
          · split at ran
            · next inside =>
              cases ran
              apply minds_put integral
              intro target refers
              obtain rfl := List.mem_singleton.mp refers
              refine ⟨?_, Or.inr ⟨.keyShare, List.mem_singleton_self _⟩⟩
              obtain ⟨changeSet, found, _⟩ := (Option.any_eq_true _ _).mp inside
              rw [found]
              rfl
            · simp at ran
    | insertReceipt scope commandId row =>
      simp only [execute] at ran
      split at ran
      · split at ran
        · simp at ran
        · split at ran
          · next inside =>
            cases ran
            apply minds_put integral
            intro target refers
            simp only [Key.refs] at refers
            split at refers
            · next version changeSetId applied =>
              obtain rfl := List.mem_singleton.mp refers
              simp only [receiptInScope, applied] at inside
              obtain ⟨changeSet, found, _⟩ := (Option.any_eq_true _ _).mp inside
              refine ⟨by rw [found]; rfl, Or.inr ⟨.keyShare, ?_⟩⟩
              simp [applied]
            · cases refers
          · simp at ran
      · simp at ran
    | insertJourney scope id row =>
      obtain ⟨_, _, _, rfl⟩ := ran_insertJourney platform _ _ _ _ _ _ _ ran
      exact minds_put integral _ _ _ (by simp [Key.refs])
    | swapJourney scope id expected values now =>
      rcases ran_swapJourney platform _ _ _ _ _ _ _ _ _ ran with ⟨_, rfl⟩ |
        ⟨_, _, _, _, _, _, rfl⟩
      · exact minds_nothing integral locks
      · exact minds_put integral _ _ _ (by simp [Key.refs])
    | touchJourney scope id now =>
      rcases ran_touchJourney platform _ _ _ _ _ _ _ ran with ⟨_, rfl⟩ | ⟨_, _, _, _, rfl⟩
      · exact minds_nothing integral locks
      · exact minds_put integral _ _ _ (by simp [Key.refs])
    | deleteJourney scope id =>
      rcases ran_deleteJourney platform _ _ _ _ _ _ ran with ⟨_, _, rfl⟩ | ⟨_, _, _, rfl⟩
      · exact minds_nothing integral locks
      · exact minds_deleteJourney integral id locks
    | insertSegment scope id row =>
      simp only [execute] at ran
      split at ran
      · next visible =>
        obtain ⟨admissible, ran⟩ := (storing_ran _ _ _ _ _).mp ran
        split at ran
        · simp at ran
        · cases ran
          apply minds_put integral
          intro target refers
          obtain rfl := List.mem_singleton.mp refers
          exact ⟨visible_present scope _ visible, Or.inr ⟨.keyShare, List.mem_cons_self⟩⟩
      · simp at ran
    | swapSegment scope journeyId id expected values now =>
      rcases ran_swapSegment platform _ _ _ _ _ _ _ _ _ _ ran with ⟨_, rfl⟩ |
        ⟨row, stored, shown, _, revised, _, rfl⟩
      · exact minds_nothing integral locks
      · obtain ⟨present, _, _⟩ := (segmentIn_some _ _ _ _ _).mp shown
        exact minds_segment integral id row stored present (by rw [revised]; rfl) locks
    | shiftSegment scope journeyId id =>
      rcases ran_shiftSegment platform _ _ _ _ _ _ _ ran with ⟨_, rfl⟩ |
        ⟨row, stored, shown, moved, rfl⟩
      · exact minds_nothing integral locks
      · obtain ⟨present, _, _⟩ := (segmentIn_some _ _ _ _ _).mp shown
        exact minds_segment integral id row stored present (by rw [moved]) locks
    | placeSegment scope id position stamp bump =>
      rcases ran_placeSegment platform _ _ _ _ _ _ _ _ _ ran with ⟨_, rfl⟩ |
        ⟨row, stored, shown, placed, rfl⟩
      · exact minds_nothing integral locks
      · obtain ⟨present, _⟩ := (visibleSegment_some _ _ _ _).mp shown
        exact minds_segment integral id row stored present (by rw [placed]; rfl) locks
    | deleteSegment scope id =>
      rcases ran_deleteSegment platform _ _ _ _ _ _ ran with ⟨_, rfl⟩ | ⟨_, _, rfl⟩
      · exact minds_nothing integral locks
      · exact minds_drop integral _ rfl locks
    | insertPackingItem scope id row =>
      simp only [execute] at ran
      split at ran
      · next visible =>
        obtain ⟨admissible, ran⟩ := (storing_ran _ _ _ _ _).mp ran
        split at ran
        · simp at ran
        · cases ran
          apply minds_put integral
          intro target refers
          obtain rfl := List.mem_singleton.mp refers
          exact ⟨visible_present scope _ visible, Or.inr ⟨.keyShare, List.mem_singleton_self _⟩⟩
      · simp at ran
    | swapPackingItem scope journeyId id expected values now =>
      rcases ran_swapPackingItem platform _ _ _ _ _ _ _ _ _ _ ran with ⟨_, rfl⟩ |
        ⟨row, stored, present, _, _, revised, _, rfl⟩
      · exact minds_nothing integral locks
      · exact minds_packingItem integral id row stored present (by rw [revised]; rfl) locks
    | swapPackingProgress scope journeyId id expected packedQuantity now =>
      rcases ran_swapPackingProgress platform _ _ _ _ _ _ _ _ _ _ ran with ⟨_, rfl⟩ |
        ⟨row, stored, present, _, _, revised, _, rfl⟩
      · exact minds_nothing integral locks
      · exact minds_packingItem integral id row stored present (by rw [revised]; rfl) locks
    | deletePackingItem scope id =>
      rcases ran_deletePackingItem platform _ _ _ _ _ _ ran with rfl | rfl
      · exact minds_nothing integral locks
      · exact minds_drop integral _ rfl locks
    | writeMembership workspaceId userId role =>
      cases ran
      cases role with
      | none =>
        apply minds_drops integral [Key.membership workspaceId userId]
        intro key row _ target refers dropped
        rw [List.mem_singleton.mp dropped] at refers
        cases key with
        | receipt workspaceId userId commandId =>
          simp only [Key.refs] at refers
          split at refers <;> simp at refers
        | _ => simp [Key.refs] at refers
      | some role => exact minds_put integral _ _ _ (by simp [Key.refs])
    | _ => simp [Op.reads] at reads

end Statements

/-- No committed state of any run has an orphan, if the first state has none. -/
theorem references_resolve (platform : Platform) (db : Database)
    (last : System Name Row Res Failure Request Reply) (integral : Integral db)
    (run : Run (plainApi platform) (fun _ _ => True) (System.initial db) last) :
    Integral last.db :=
  run_resolved (fun _ _ => True) (fun _ _ _ _ => rfl) (execute_minds platform fun _ _ _ _ => true)
    db last integral run

namespace Sample

/-- A stay is added while the journey is about to be deleted. The deletion waits for the
insertion and takes the new stay with it. -/
def farewell : List (Event Request) :=
  [.arrive deletion, .arrive (.http credentials (stay 23) runtime)] ++
    List.replicate 2 (.advance 0) ++ List.replicate 7 (.advance 1) ++ List.replicate 2 (.advance 0)

end Sample

/-- Both are committed, and nothing is left of the journey. -/
theorem references_resolve_farewell :
    ∃ last : System Name Row Res Failure Request Reply, Integral last.db ∧
      last.history.length = 2 ∧ last.db.lookup (Key.journey 7) = none ∧
        last.db.lookup (Key.segment 23) = none := by
  have made : ((System.initial Sample.occupied).steps (plainApi Sample.platform)
      Sample.farewell).map (fun last => (last.history.length,
        (last.db.lookup (Key.journey 7)).isNone, (last.db.lookup (Key.segment 23)).isNone)) =
          some (2, true, true) := by
    decide +kernel
  obtain ⟨last, ran, observed⟩ := Option.map_eq_some_iff.mp made
  obtain ⟨committed, rest⟩ := Prod.mk.inj observed
  obtain ⟨journeyless, segmentless⟩ := Prod.mk.inj rest
  refine ⟨last, ?_, committed, Option.isNone_iff_eq_none.mp journeyless,
    Option.isNone_iff_eq_none.mp segmentless⟩
  have integral : Integral Sample.occupied := resolved_of_entries (by decide +kernel)
  exact references_resolve Sample.platform Sample.occupied last integral
    (run_of_steps _ _ _ _ _ (fun _ _ _ => trivial) ran)

end TraxOs.Api
