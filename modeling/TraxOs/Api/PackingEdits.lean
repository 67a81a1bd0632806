import TraxOs.Theory.Effects
import TraxOs.Api.Footprints
import TraxOs.Api.TimelineRuns
import TraxOs.Api.Staleness

/-!
# Packing items under interleaved requests

A packing item is changed by one UPDATE that compares its version under the lock of the row.
So every accepted edit is applied to exactly the row that the commits before it have left,
and nothing else in the table of packing items changes. Other requests, of any kind and in
any workspace, may run between the statements of an edit.

Creations, deletions and the deletion of a journey change the items that they name, and no
others. Everything else leaves the table alone.
-/

namespace TraxOs.Api

open TraxOs.Theory

/-- What an accepted request does to the packing items. -/
inductive PackingChange where
  | nothing
  | adds (itemId : Uuid) (row : PackingItem)
  | edits (journeyId itemId : Uuid) (expected : Nat) (revise : PackingItem → PackingItem)
  | removes (itemId : Uuid)
  | clears (journeyId : Uuid)

/-- The change that a route makes. -/
def Call.packs (runtime : Runtime) : Call → PackingChange
  | .createPacking journeyId command =>
    .adds (command.id.getD runtime.entityId)
      (newPackingItem journeyId command.toPackingInput (runtime.clock 1))
  | .updatePacking journeyId itemId command =>
    .edits journeyId itemId command.expectedRecordVersion
      fun row => row.revised (packingValues command) (runtime.clock 1)
  | .updatePackingProgress journeyId itemId command =>
    .edits journeyId itemId command.expectedRecordVersion
      fun row => row.progressed command.packedQuantity (runtime.clock 1)
  | .deletePacking _ itemId => .removes itemId
  | .deleteJourney journeyId => .clears journeyId
  | _ => .nothing

/-- The same for a request. -/
def Request.packs (request : Request) : PackingChange :=
  match request.call with
  | some (call, runtime) => call.packs runtime
  | none => .nothing

/-- The change, item by item. The answer to a creation or an edit shows the new row. -/
def PackingChange.effect (change : PackingChange) (reply : Reply) : RowEffect Row
  | .packingItem id, before, after =>
    match change with
    | .nothing => after = before
    | .adds itemId row =>
      if id = itemId then
        before = none ∧ ∃ stored : StoredPackingItem, after = some stored ∧ stored.1 = row ∧
          reply = respond (.packingItem 201) (packingResponse id stored.1)
      else after = before
    | .edits journeyId itemId expected revise =>
      if id = itemId then
        ∃ row stored : StoredPackingItem, before = some row ∧ row.1.journeyId = journeyId ∧
          row.1.recordVersion = expected ∧ after = some stored ∧ stored.1 = revise row.1 ∧
            reply = respond (.packingItem 200) (packingResponse id stored.1)
      else after = before
    | .removes itemId => after = before ∨ (id = itemId ∧ after = none)
    | .clears journeyId =>
      after = before ∨ (after = none ∧ ∃ row : StoredPackingItem, before = some row ∧
        row.1.journeyId = journeyId)
  | _, _, _ => True

/-- A commit that changes the packing items as its request says. -/
def PacksFor (request : Request) (reply : Reply) (before after : Database) : Prop :=
  (request.packs.effect reply).Holds before after

/-- What everybody promises. -/
def packingContract : Contract Row Request Reply where
  Allowed _ := True
  Inv _ := True
  Commits := PacksFor

section Statements

variable (platform : Platform) (db : Database)

/-- A statement that is not about packing items writes none. -/
theorem packless_writes (op : Op) (packless : op.writesPacking = false) (answer : Res op)
    (writes : List (Write Row)) (locks : Locks Key Name)
    (ran : execute platform op db = .ran answer writes locks) :
    ∀ write ∈ writes, ∀ id, write.key ≠ .packingItem id := by
  by_cases reads : op.reads = true
  · rw [reads_only platform db op reads answer writes locks ran]
    simp
  · cases op with
    | insertChangeSet scope id row =>
      obtain ⟨_, rfl⟩ := ran_insertChangeSet platform _ _ _ _ _ _ _ ran
      simp [Write.key]
    | insertChangeEvent scope id row =>
      obtain ⟨_, rfl⟩ := ran_insertChangeEvent platform _ _ _ _ _ _ _ ran
      simp [Write.key]
    | insertReceipt scope commandId row =>
      obtain ⟨_, rfl⟩ := ran_insertReceipt platform _ _ _ _ _ _ _ ran
      simp [Write.key]
    | insertJourney scope id row =>
      obtain ⟨_, _, _, rfl⟩ := ran_insertJourney platform _ _ _ _ _ _ _ ran
      simp [Write.key]
    | swapJourney scope id expected values now =>
      rcases ran_swapJourney platform _ _ _ _ _ _ _ _ _ ran with ⟨_, rfl⟩ |
        ⟨_, _, _, _, _, _, rfl⟩ <;> simp [Write.key]
    | touchJourney scope id now =>
      rcases ran_touchJourney platform _ _ _ _ _ _ _ ran with ⟨_, rfl⟩ | ⟨_, _, _, _, rfl⟩ <;>
        simp [Write.key]
    | insertSegment scope id row =>
      obtain ⟨_, _, _, rfl⟩ := ran_insertSegment platform _ _ _ _ _ _ _ ran
      simp [Write.key]
    | swapSegment scope journeyId id expected values now =>
      rcases ran_swapSegment platform _ _ _ _ _ _ _ _ _ _ ran with ⟨_, rfl⟩ |
        ⟨_, _, _, _, _, _, rfl⟩ <;> simp [Write.key]
    | shiftSegment scope journeyId id =>
      rcases ran_shiftSegment platform _ _ _ _ _ _ _ ran with ⟨_, rfl⟩ | ⟨_, _, _, _, rfl⟩ <;>
        simp [Write.key]
    | placeSegment scope id position stamp bump =>
      rcases ran_placeSegment platform _ _ _ _ _ _ _ _ _ ran with ⟨_, rfl⟩ |
        ⟨_, _, _, _, rfl⟩ <;> simp [Write.key]
    | deleteSegment scope id =>
      rcases ran_deleteSegment platform _ _ _ _ _ _ ran with ⟨_, rfl⟩ | ⟨_, _, rfl⟩ <;>
        simp [Write.key]
    | writeMembership workspaceId userId role =>
      cases ran
      cases role <;> simp [Write.key]
    | _ => simp [Op.reads, Op.writesPacking] at reads packless

/-- `insertPackingItem` stores the given row under a free identifier. -/
theorem ran_addPackingItem (scope : Scope) (id : Uuid) (row : PackingItem)
    (answer : StoredPackingItem) (writes : List (Write Row)) (locks : Locks Key Name)
    (ran : execute platform (.insertPackingItem scope id row) db = .ran answer writes locks) :
    db.lookup (Key.packingItem id) = none ∧ answer.1 = row ∧
      writes = [.put (Key.packingItem id) answer] := by
  simp only [execute] at ran
  split at ran
  · obtain ⟨admissible, ran⟩ := (storing_ran _ _ _ _ _).mp ran
    split at ran
    · simp at ran
    · next free =>
      cases ran
      exact ⟨Option.not_isSome_iff_eq_none.mp free, rfl, rfl⟩
  · simp at ran

/-- A packing item that a journey shows is stored, and belongs to it. -/
theorem packingItemIn_some (scope : Scope) (journeyId id : Uuid) (row : StoredPackingItem)
    (shown : packingItemIn db scope journeyId id = some row) :
    db.lookup (Key.packingItem id) = some row ∧ row.1.journeyId = journeyId := by
  obtain ⟨visible, inside⟩ := (Option.filter_eq_some_iff).mp shown
  refine ⟨?_, of_decide_eq_true inside⟩
  unfold visiblePackingItem at visible
  split at visible
  · cases visible
  · next stored present =>
    split at visible
    · cases visible
      exact present
    · cases visible

/-- A compare-and-swap of a packing item changes the row that it found at its version. -/
theorem ran_swapPacking (texts : List Text) (scope : Scope) (journeyId id : Uuid) (expected : Nat)
    (revise : PackingItem → PackingItem) (answer : Option StoredPackingItem)
    (writes : List (Write Row)) (locks : Locks Key Name)
    (ran : (comparing texts expected (packingItemIn db scope journeyId id)
      (fun row => row.1.recordVersion) fun row =>
        storing (revise row.1) fun (stored : StoredPackingItem) =>
          .ran (some stored) [.put (.packingItem id) stored] []) = .ran answer writes locks) :
    (answer = none ∧ writes = []) ∨
      ∃ row stored : StoredPackingItem, db.lookup (Key.packingItem id) = some row ∧
        row.1.journeyId = journeyId ∧ row.1.recordVersion = expected ∧
          stored.1 = revise row.1 ∧ answer = some stored ∧
            writes = [.put (Key.packingItem id) stored] := by
  rcases comparing_ran _ _ _ _ _ _ _ _ ran with ⟨rfl, rfl, _⟩ | ⟨row, found, same, swapped⟩
  · exact Or.inl ⟨rfl, rfl⟩
  · obtain ⟨admissible, swapped⟩ := (storing_ran _ _ _ _ _).mp swapped
    cases swapped
    obtain ⟨present, inside⟩ := packingItemIn_some db scope journeyId id row found
    exact Or.inr ⟨row, ⟨revise row.1, admissible⟩, present, inside, same, rfl, rfl, rfl⟩

/-- `swapPackingItem` is such a statement. -/
theorem ran_swapPackingItem (scope : Scope) (journeyId id : Uuid) (expected : Nat)
    (values : PackingValues) (now : Timestamp) (answer : Option StoredPackingItem)
    (writes : List (Write Row)) (locks : Locks Key Name)
    (ran : execute platform (.swapPackingItem scope journeyId id expected values now) db =
      .ran answer writes locks) :
    (answer = none ∧ writes = []) ∨
      ∃ row stored : StoredPackingItem, db.lookup (Key.packingItem id) = some row ∧
        row.1.journeyId = journeyId ∧ row.1.recordVersion = expected ∧
          stored.1 = row.1.revised values now ∧ answer = some stored ∧
            writes = [.put (Key.packingItem id) stored] :=
  ran_swapPacking db values.texts scope journeyId id expected (fun row => row.revised values now)
    answer writes locks ran

/-- So is `swapPackingProgress`. -/
theorem ran_swapPackingProgress (scope : Scope) (journeyId id : Uuid)
    (expected packedQuantity : Nat) (now : Timestamp) (answer : Option StoredPackingItem)
    (writes : List (Write Row)) (locks : Locks Key Name)
    (ran : execute platform (.swapPackingProgress scope journeyId id expected packedQuantity now)
      db = .ran answer writes locks) :
    (answer = none ∧ writes = []) ∨
      ∃ row stored : StoredPackingItem, db.lookup (Key.packingItem id) = some row ∧
        row.1.journeyId = journeyId ∧ row.1.recordVersion = expected ∧
          stored.1 = row.1.progressed packedQuantity now ∧ answer = some stored ∧
            writes = [.put (Key.packingItem id) stored] :=
  ran_swapPacking db [] scope journeyId id expected (fun row => row.progressed packedQuantity now)
    answer writes locks ran

/-- `deletePackingItem` drops the item that it names, if it is visible. -/
theorem ran_deletePackingItem (scope : Scope) (id : Uuid) (answer : Unit)
    (writes : List (Write Row)) (locks : Locks Key Name)
    (ran : execute platform (.deletePackingItem scope id) db = .ran answer writes locks) :
    writes = [] ∨ writes = [.drop (Key.packingItem id)] := by
  simp only [execute] at ran
  split at ran
  · exact Or.inl ((answered_ran _ _ _ _).mp ran).2.1
  · cases ran
    exact Or.inr rfl

/-- ON DELETE CASCADE drops the rows of a journey and of its parts. -/
theorem cascade_drops (db : Database) (journeyId : Uuid) :
    .drop (.journey journeyId) :: cascade db journeyId =
      (Key.journey journeyId :: ((timeline db journeyId).map (fun entry => Key.segment entry.1) ++
        (collect (packingItemOf journeyId) db).map fun entry => Key.packingItem entry.1)).map
          fun key => (Write.drop key : Write Row) := by
  simp [cascade, Function.comp_def]

/-- The deletion of a journey drops packing items of that journey only. -/
theorem cascade_clears (journeyId : Uuid) (reply : Reply) :
    ((PackingChange.clears journeyId).effect reply).Holds db
      (applyAll (.drop (.journey journeyId) :: cascade db journeyId) db) := by
  intro key
  cases key with
  | packingItem id =>
    simp only [PackingChange.effect]
    rw [cascade_drops, lookup_applyAll_drops]
    by_cases here : ∃ row : StoredPackingItem, (id, row) ∈ collect (packingItemOf journeyId) db
    · obtain ⟨row, found⟩ := here
      have member : Key.packingItem id ∈ Key.journey journeyId ::
          ((timeline db journeyId).map (fun entry => Key.segment entry.1) ++
            (collect (packingItemOf journeyId) db).map fun entry => Key.packingItem entry.1) :=
        List.mem_cons_of_mem _ (List.mem_append_right _ (List.mem_map.mpr ⟨_, found, rfl⟩))
      refine Or.inr ⟨if_pos member, ?_⟩
      obtain ⟨key, stored, present, picked⟩ := (mem_collect _ _ _).mp found
      cases key with
      | packingItem other =>
        simp only [packingItemOf] at picked
        split at picked
        · next inside =>
          simp only [Option.some.injEq, Prod.mk.injEq] at picked
          obtain ⟨rfl, rfl⟩ := picked
          exact ⟨stored, present, inside⟩
        · cases picked
      | _ => cases picked
    · refine Or.inl (if_neg ?_)
      intro member
      simp only [List.mem_cons, List.mem_append, List.mem_map, reduceCtorEq, false_or,
        and_false, exists_false, Key.packingItem.injEq] at member
      obtain ⟨⟨other, row⟩, found, rfl⟩ := member
      exact here ⟨row, found⟩
  | _ => trivial

end Statements

section Safety

variable {platform : Platform} {request : Request} {change : PackingChange} {reply : Reply}
  {progress : Progress Name Row Res} {store : Database}

/-- A program that has changed the packing items as it should. -/
abbrev Packed (change : PackingChange) (reply : Reply) (progress : Progress Name Row Res)
    (store : Database) : Prop := Effected (change.effect reply) progress store

/-- Where a program leads in the company of all requests. -/
abbrev PackingLeads (platform : Platform) (request : Request) {α : Type} (action : Action α)
    (progress : Progress Name Row Res) (store : Database)
    (post : α → Progress Name Row Res → Database → Prop) : Prop :=
  Leads (plainApi platform) packingContract request action progress store post

/-- An effect on packing items says nothing of other rows. -/
theorem effect_elsewhere (key : Key) (elsewhere : ∀ id, key ≠ .packingItem id)
    (before after : Option (Row key)) : change.effect reply key before after := by
  cases key with
  | packingItem id => exact absurd rfl (elsewhere id)
  | _ => trivial

/-- Statements that are not about packing items change nothing of that. -/
theorem leads_packless {α : Type} (action : Action α)
    (only : action.Only fun op => op.writesPacking = false)
    (packed : Packed change reply progress store) :
    PackingLeads platform request action progress store fun _ => Packed change reply := by
  apply leads_effected (fun op => op.writesPacking = false) _ action only packed
  intro op db answer writes locks packless ran write member before after
  exact effect_elsewhere write.key
    (packless_writes platform db op packless answer writes locks ran write member) before after

/-- A program that only asks such statements changes no packing item, whatever it answers. -/
theorem leads_nothing {α : Type} (action : Action α)
    (only : action.Only fun op => op.writesPacking = false) (clean : progress.writes = []) :
    PackingLeads platform request action progress store
      fun _ grown later => ∀ reply, Packed .nothing reply grown later := by
  have untouched : Packed .nothing .noContent progress store := by
    apply effected_clean _ clean
    intro key content
    cases key <;> trivial
  apply leads_mono _ _ _ _ _ _ _ _ (leads_packless action only untouched)
  intro _ grown later packed reply
  exact ⟨packed.owned, packed.spared, packed.changed⟩

/-- Reading leaves nothing behind. -/
theorem leads_reading {α : Type} (action : Action α)
    (only : action.Only fun op => op.reads = true) (clean : progress.writes = []) :
    PackingLeads platform request action progress store fun _ grown _ => grown.writes = [] := by
  apply leads_unwritten (fun op => op.reads = true) _ action only clean
  exact fun op db answer writes locks reads ran =>
    reads_only platform db op reads answer writes locks ran

/-- The statement of a change, after nothing but reading. -/
theorem packed_first (clean : progress.writes = []) (op : Op) (answer : Res op)
    (writes : List (Write Row)) (locks : Locks Key Name)
    (spared : ∀ key, (∀ write ∈ writes, write.key ≠ key) →
      ∀ content, change.effect reply key content content)
    (made : (change.effect reply).Holds store (applyAll writes store)) :
    Packed change reply (progress.extend op answer writes locks) store := by
  have nothing : Effected ((fun _ before after => after = before) : RowEffect Row) progress
      store := effected_clean (fun _ _ => rfl) clean
  apply nothing.extend (change.effect reply) (change.effect reply)
  · intro key before middle after same own
    exact same ▸ own
  · exact fun key _ elsewhere content => spared key elsewhere content
  · rw [Progress.view, clean, applyAll_nil]
    exact made

/-- One row is replaced, and the effect leaves the others alone. -/
theorem packed_put (clean : progress.writes = []) (op : Op) (answer : Res op)
    (locks : Locks Key Name) (id : Uuid) (stored : StoredPackingItem)
    (others : ∀ other content, other ≠ id →
      change.effect reply (.packingItem other) content content)
    (own : change.effect reply (.packingItem id) (store.lookup (Key.packingItem id))
      (some stored)) :
    Packed change reply (progress.extend op answer [.put (Key.packingItem id) stored] locks)
      store := by
  apply packed_first clean
  · intro key elsewhere content
    cases key with
    | packingItem other =>
      exact others other content fun same => elsewhere _ List.mem_cons_self (by rw [same]; rfl)
    | _ => trivial
  · intro key
    cases key with
    | packingItem other =>
      by_cases same : other = id
      · subst same
        simp only [applyAll_cons, applyAll_nil, Write.apply, AList.lookup_insert]
        exact own
      · simp only [applyAll_cons, applyAll_nil, Write.apply]
        rw [AList.lookup_insert_ne (by simpa using same)]
        exact others other _ same
    | _ => trivial

variable (context : AuthContext) (runtime : Runtime) (journeyId itemId : Uuid)

theorem journeyRow_plain (forUpdate : Bool) :
    (journeyRow context journeyId forUpdate).Only fun op => op.reads = true := by
  refine ⟨rfl, fun found => ?_⟩
  cases found <;> trivial

theorem ownedPacking_plain :
    (ownedPacking context journeyId itemId).Only fun op => op.reads = true := by
  apply Program.only_bind _ _ _ (journeyRow_plain context journeyId false)
  intro _
  refine ⟨rfl, fun found => ?_⟩
  cases found <;> trivial

/-- Counting the change of the journey and answering change no packing item. -/
theorem leads_touched {α : Type} (value : α) (packed : Packed change reply progress store) :
    PackingLeads platform request (touchJourney context runtime journeyId >>= fun _ => pure value)
      progress store fun body grown later => body = value ∧ Packed change reply grown later := by
  apply leads_bind
  have touched : PackingLeads platform request (touchJourney context runtime journeyId) progress
      store fun _ => Packed change reply := leads_packless _ ⟨rfl, fun _ => trivial⟩ packed
  apply leads_mono _ _ _ _ _ _ _ _ touched
  exact fun _ grown later kept => ⟨rfl, kept⟩

/-- `create_packing`. -/
theorem leads_createPacking (command : PackingCreate) (clean : progress.writes = []) :
    PackingLeads platform request (createPacking context runtime journeyId command) progress store
      fun body => Packed ((Call.createPacking journeyId command).packs runtime)
        (respond (.packingItem 201) body) := by
  unfold createPacking
  apply leads_bind
  apply leads_mono _ _ _ _ _ _ _ _
    (leads_reading _ (journeyRow_plain context journeyId false) clean)
  intro _ grown first empty later _ _ row writes locks ran
  rw [view_clean grown empty] at ran
  obtain ⟨free, same, rfl⟩ := ran_addPackingItem platform _ _ _ _ _ _ _ ran
  have packed : Packed ((Call.createPacking journeyId command).packs runtime)
      (respond (.packingItem 201) (packingResponse (command.id.getD runtime.entityId) row.1))
      (grown.extend (Op.insertPackingItem context.scope (command.id.getD runtime.entityId)
        (newPackingItem journeyId command.toPackingInput (runtime.clock 1))) row
          [.put (Key.packingItem (command.id.getD runtime.entityId)) row] locks) later := by
    apply packed_put empty
    · intro other content different
      simp [PackingChange.effect, Call.packs, different]
    · simp [PackingChange.effect, Call.packs, free, same]
  apply leads_mono _ _ _ _ _ _ _ _ (leads_touched context runtime journeyId _ packed)
  rintro body last final ⟨rfl, kept⟩
  exact kept

/-- A compare-and-swap that has found its row. -/
theorem packed_swap (clean : progress.writes = []) (op : Op) (answer : Res op)
    (result : Option StoredPackingItem) (writes : List (Write Row)) (locks : Locks Key Name)
    (expected : Nat) (revise : PackingItem → PackingItem)
    (swapped : (result = none ∧ writes = []) ∨
      ∃ row stored : StoredPackingItem, store.lookup (Key.packingItem itemId) = some row ∧
        row.1.journeyId = journeyId ∧ row.1.recordVersion = expected ∧
          stored.1 = revise row.1 ∧ result = some stored ∧
            writes = [.put (Key.packingItem itemId) stored])
    (shown : StoredPackingItem) (found : result = some shown) :
    Packed (.edits journeyId itemId expected revise)
      (respond (.packingItem 200) (packingResponse itemId shown.1))
      (progress.extend op answer writes locks) store := by
  rcases swapped with ⟨missing, _⟩ | ⟨row, stored, present, inside, version, revised, same, rfl⟩
  · rw [missing] at found
    cases found
  · obtain rfl : stored = shown := Option.some.inj (same.symm.trans found)
    apply packed_put clean
    · intro other content different
      simp [PackingChange.effect, different]
    · simp only [PackingChange.effect, if_true]
      exact ⟨row, stored, present, inside, version, rfl, revised, rfl⟩

/-- `_finish_packing` reports a miss and answers with the new row. -/
theorem leads_finishPacking (result : Option StoredPackingItem)
    (packed : ∀ shown, result = some shown → Packed change
      (respond (.packingItem 200) (packingResponse itemId shown.1)) progress store) :
    PackingLeads platform request (finishPacking context runtime journeyId itemId result) progress
      store fun body => Packed change (respond (.packingItem 200) body) := by
  cases result with
  | none => trivial
  | some shown =>
    apply leads_mono _ _ _ _ _ _ _ _
      (leads_touched context runtime journeyId _ (packed shown rfl))
    rintro body last final ⟨rfl, kept⟩
    exact kept

/-- `update_packing`. -/
theorem leads_updatePacking (command : PackingUpdate) (clean : progress.writes = []) :
    PackingLeads platform request (updatePacking context runtime journeyId itemId command) progress
      store fun body => Packed ((Call.updatePacking journeyId itemId command).packs runtime)
        (respond (.packingItem 200) body) := by
  unfold updatePacking
  apply leads_bind
  apply leads_mono _ _ _ _ _ _ _ _
    (leads_reading _ (ownedPacking_plain context journeyId itemId) clean)
  intro _ grown first empty later _ _ result writes locks ran
  rw [view_clean grown empty] at ran
  apply leads_finishPacking
  exact packed_swap journeyId itemId empty _ _ result writes locks _ _
    (ran_swapPackingItem platform later _ _ _ _ _ _ result writes locks ran)

/-- `update_packing_progress`. -/
theorem leads_updatePackingProgress (command : PackingProgressUpdate)
    (clean : progress.writes = []) :
    PackingLeads platform request (updatePackingProgress context runtime journeyId itemId command)
      progress store
        fun body => Packed ((Call.updatePackingProgress journeyId itemId command).packs runtime)
          (respond (.packingItem 200) body) := by
  unfold updatePackingProgress
  apply leads_bind
  apply leads_mono _ _ _ _ _ _ _ _
    (leads_reading _ (ownedPacking_plain context journeyId itemId) clean)
  intro owned grown first empty
  split
  · trivial
  · intro later _ _ result writes locks ran
    rw [view_clean grown empty] at ran
    apply leads_finishPacking
    exact packed_swap journeyId itemId empty _ _ result writes locks _ _
      (ran_swapPackingProgress platform later _ _ _ _ _ _ result writes locks ran)

/-- `delete_packing`. -/
theorem leads_deletePacking (clean : progress.writes = []) :
    PackingLeads platform request (deletePacking context runtime journeyId itemId) progress store
      fun _ => Packed (.removes itemId) reply := by
  unfold deletePacking
  apply leads_bind
  apply leads_mono _ _ _ _ _ _ _ _
    (leads_reading _ (ownedPacking_plain context journeyId itemId) clean)
  intro _ grown first empty later _ _ answer writes locks ran
  have writes_known := ran_deletePackingItem platform _ _ _ _ _ _ ran
  refine leads_packless (touchJourney context runtime journeyId) ⟨rfl, fun _ => trivial⟩ ?_
  apply packed_first empty
  · intro key _ content
    cases key with
    | packingItem other => exact Or.inl rfl
    | _ => trivial
  · rcases writes_known with rfl | rfl
    · intro key
      cases key with
      | packingItem other => exact Or.inl rfl
      | _ => trivial
    · intro key
      cases key with
      | packingItem other =>
        by_cases same : other = itemId
        · subst same
          refine Or.inr ⟨rfl, ?_⟩
          simp [Write.apply]
        · refine Or.inl ?_
          simp only [applyAll_cons, applyAll_nil, Write.apply]
          exact AList.lookup_erase_ne (by simpa using same)
      | _ => trivial

/-- `delete_journey`. -/
theorem leads_deleteJourney (clean : progress.writes = []) :
    PackingLeads platform request (deleteJourney context journeyId) progress store
      fun _ => Packed (.clears journeyId) reply := by
  intro later _ _ answer writes locks ran
  rw [view_clean progress clean] at ran
  have packed : Packed (.clears journeyId) reply
      (progress.extend (Op.deleteJourney context.scope journeyId) answer writes locks) later := by
    apply packed_first clean
    · intro key _ content
      cases key with
      | packingItem other => exact Or.inl rfl
      | _ => trivial
    · rcases ran_deleteJourney platform _ _ _ _ _ _ ran with ⟨_, _, rfl⟩ | ⟨_, _, _, rfl⟩
      · intro key
        cases key with
        | packingItem other => exact Or.inl rfl
        | _ => trivial
      · exact cascade_clears later journeyId reply
  cases answer with
  | false => trivial
  | true => exact packed

/-- Every route changes the packing items as it says. -/
theorem leads_packs (call : Call) (clean : progress.writes = []) :
    PackingLeads platform request (handle platform context runtime call) progress store
      fun answer => Packed (call.packs runtime) answer := by
  by_cases packless : call.writesPacking = false
  · have nothing : call.packs runtime = .nothing := by
      cases call with
      | createPacking => cases packless
      | updatePacking => cases packless
      | updatePackingProgress => cases packless
      | deletePacking => cases packless
      | deleteJourney => cases packless
      | _ => rfl
    rw [nothing]
    have only : (handle platform context runtime call).Only fun op => op.writesPacking = false := by
      apply (handle_asks platform context runtime call).mono
      intro op asked
      by_contra packing
      have packs := asked.packing (Bool.not_eq_false _ ▸ packing)
      rw [packless] at packs
      cases packs
    apply leads_mono _ _ _ _ _ _ _ _ (leads_nothing _ only clean)
    exact fun answer grown later packed => packed answer
  · cases call with
    | createPacking journeyId command =>
      apply leads_bind
      exact leads_createPacking context runtime journeyId command clean
    | updatePacking journeyId itemId command =>
      apply leads_bind
      exact leads_updatePacking context runtime journeyId itemId command clean
    | updatePackingProgress journeyId itemId command =>
      apply leads_bind
      exact leads_updatePackingProgress context runtime journeyId itemId command clean
    | deletePacking journeyId itemId =>
      apply leads_bind
      exact leads_deletePacking context runtime journeyId itemId clean
    | deleteJourney journeyId =>
      apply leads_bind
      exact leads_deleteJourney context journeyId clean
    | _ => exact absurd rfl packless

end Safety

/-- A route's statements are not about packing items unless the route is. -/
theorem packless_of_asked {scope : Scope} {inserted : List Key} {op : Op}
    (asked : Asked scope inserted false op) : op.writesPacking = false := by
  by_contra packing
  exact Bool.false_ne_true (asked.packing (Bool.not_eq_false _ ▸ packing))

/-- The executor asks no statement about packing items. -/
theorem command_packless (platform : Platform) (context : AuthContext) (commandId : Uuid)
    (commandType : String) (commandVersion : Nat) (payload : JourneyUpdateCommandPayload)
    (origin : Origin) (runtime : Runtime) :
    (program platform (.command context commandId commandType commandVersion payload origin
      runtime)).Only fun op => op.writesPacking = false := by
  have asks : (executeJourneyUpdate platform context runtime commandId commandType commandVersion
      payload origin).Only (Asked context.scope
        [.changeSet runtime.changeSetId, .changeEvent runtime.eventId] false) :=
    executeJourneyUpdate_asks platform context runtime commandId commandType commandVersion payload
      origin (by simp) (by simp)
  apply Program.only_bind _ _ _ (asks.mono fun op asked => packless_of_asked asked)
  intro result
  split <;> trivial

/-- Every request is safe in the company of all others. -/
theorem safe_packing (platform : Platform) (request : Request) (db : Database) :
    Safe (plainApi platform) packingContract request (program platform request) .empty db := by
  apply leads_mono _ _ _ _ _ (fun reply => Packed request.packs reply)
  · exact fun reply progress store packed => packed.promises fun _ _ holds => holds
  · cases request with
    | http credentials call runtime =>
      apply leads_bind
      apply leads_mono _ _ _ _ _ _ _ _ (leads_reading _
        (routeContext_reads runtime credentials call.mutates) rfl)
      intro context grown later clean
      exact leads_packs context runtime call clean
    | operation context call runtime => exact leads_packs context runtime call rfl
    | command context commandId commandType commandVersion payload origin runtime =>
      apply leads_mono _ _ _ _ _ _ _ _ (leads_nothing _ (command_packless platform context
        commandId commandType commandVersion payload origin runtime) rfl)
      exact fun answer grown later packed => packed answer
    | administer workspaceId userId role =>
      have only : (program platform (.administer workspaceId userId role)).Only
          fun op => op.writesPacking = false := ⟨rfl, fun _ => trivial⟩
      apply leads_mono _ _ _ _ _ _ _ _ (leads_nothing _ only rfl)
      exact fun answer grown later packed => packed answer

/-- Whatever the interleaving of whatever requests, each commit changes the packing items as
its request says, and its answer shows the row that it leaves. -/
theorem packing_changes (platform : Platform) (db : Database)
    (last : System Name Row Res Failure Request Reply)
    (run : Run (plainApi platform) (fun _ _ => True) (System.initial db) last) :
    Linked PacksFor db last.history last.db := by
  have sound : Sound (plainApi platform) packingContract db last := by
    apply run_sound (plainApi platform) packingContract (fun _ _ => True) (System.initial db) last db
      _ _ _ _ _ run
    · exact fun _ _ _ => trivial
    · intro system index process reply earlier _ found _
      exact never_stale (plainApi platform) _ (System.initial db) system (fun _ _ _ _ => rfl)
        earlier (by simp [System.initial]) process (List.mem_of_getElem? found)
    · exact fun request store _ _ => safe_packing platform request store
    · exact fun _ _ _ _ _ _ _ => trivial
    · exact sound_initial _ _ db trivial
  exact sound.linked.mono fun request reply before after admitted => admitted.2.2.2

/-- The revision that a request makes of an item. -/
def Request.revises (request : Request) (itemId : Uuid) : Option (PackingItem → PackingItem) :=
  match request.packs with
  | .edits _ edited _ revise => if itemId = edited then some revise else none
  | _ => none

/-- The version of an item that a request expects. -/
def Request.expects (request : Request) (itemId : Uuid) : Option Nat :=
  match request.packs with
  | .edits _ edited expected _ => if itemId = edited then some expected else none
  | _ => none

/-- An item that is not deleted, neither by itself nor with its journey. -/
def Retained (itemId : Uuid) (history : History) : Prop :=
  ∀ commit ∈ history, (commit.before.lookup (Key.packingItem itemId)).isSome = true →
    (commit.after.lookup (Key.packingItem itemId)).isSome = true

/-- Every revision counts the version up, and keeps the item in its journey. -/
theorem revises_counts (request : Request) (itemId : Uuid) (revise : PackingItem → PackingItem)
    (revises : request.revises itemId = some revise) (row : PackingItem) :
    (revise row).recordVersion = row.recordVersion + 1 ∧ (revise row).journeyId = row.journeyId := by
  unfold Request.revises Request.packs at revises
  cases called : request.call with
  | none => simp [called] at revises
  | some entry =>
    obtain ⟨call, runtime⟩ := entry
    simp only [called] at revises
    cases call with
    | updatePacking journeyId edited command =>
      simp only [Call.packs, Option.ite_none_right_eq_some, Option.some.injEq] at revises
      obtain ⟨_, rfl⟩ := revises
      exact ⟨rfl, rfl⟩
    | updatePackingProgress journeyId edited command =>
      simp only [Call.packs, Option.ite_none_right_eq_some, Option.some.injEq] at revises
      obtain ⟨_, rfl⟩ := revises
      exact ⟨rfl, rfl⟩
    | _ => simp [Call.packs] at revises

/-- A commit that edits an item replaces the version that it expects by its revision. -/
theorem packs_edited {request : Request} {reply : Reply} {before after : Database} {itemId : Uuid}
    (packs : PacksFor request reply before after) (revise : PackingItem → PackingItem)
    (revises : request.revises itemId = some revise) :
    ∃ row stored : StoredPackingItem, before.lookup (Key.packingItem itemId) = some row ∧
      request.expects itemId = some row.1.recordVersion ∧
        after.lookup (Key.packingItem itemId) = some stored ∧ stored.1 = revise row.1 := by
  have own := packs (Key.packingItem itemId)
  unfold Request.revises at revises
  unfold Request.expects
  cases changes : request.packs with
  | edits journeyId edited expected change =>
    simp only [changes, Option.ite_none_right_eq_some, Option.some.injEq] at revises
    obtain ⟨rfl, rfl⟩ := revises
    simp only [changes, PackingChange.effect, if_true] at own
    obtain ⟨row, stored, present, _, version, shown, revised, _⟩ := own
    exact ⟨row, stored, present, by simp [version], shown, revised⟩
  | _ => simp [changes] at revises

/-- Only an edit expects a version. -/
theorem expects_revises (request : Request) (itemId : Uuid) (expected : Nat)
    (expects : request.expects itemId = some expected) :
    ∃ revise, request.revises itemId = some revise := by
  unfold Request.expects at expects
  unfold Request.revises
  cases changes : request.packs with
  | edits journeyId edited version revise =>
    simp only [changes, Option.ite_none_right_eq_some] at expects
    exact ⟨revise, by simp [expects.1]⟩
  | _ => simp [changes] at expects

/-- Any other commit leaves an item that is there and stays there as it is. -/
theorem packs_kept {request : Request} {reply : Reply} {before after : Database} {itemId : Uuid}
    (packs : PacksFor request reply before after) (spares : request.revises itemId = none)
    (row : StoredPackingItem) (present : before.lookup (Key.packingItem itemId) = some row)
    (stays : (after.lookup (Key.packingItem itemId)).isSome = true) :
    after.lookup (Key.packingItem itemId) = some row := by
  have own := packs (Key.packingItem itemId)
  unfold Request.revises at spares
  rw [present] at own
  cases changes : request.packs with
  | nothing =>
    rw [changes] at own
    exact own
  | adds created stored =>
    simp only [changes, PackingChange.effect] at own
    by_cases same : itemId = created
    · rw [if_pos same] at own
      cases own.1
    · rw [if_neg same] at own
      exact own
  | edits journeyId edited expected revise =>
    simp only [changes, PackingChange.effect] at own
    by_cases same : itemId = edited
    · simp [changes, same] at spares
    · rw [if_neg same] at own
      exact own
  | removes removed =>
    simp only [changes, PackingChange.effect] at own
    rcases own with kept | ⟨_, gone⟩
    · exact kept
    · rw [gone] at stays
      cases stays
  | clears journeyId =>
    simp only [changes, PackingChange.effect] at own
    rcases own with kept | ⟨gone, _⟩
    · exact kept
    · rw [gone] at stays
      cases stays

/-- The revisions that the commits of a history make of an item. -/
def revisions (history : History) (itemId : Uuid) : List (PackingItem → PackingItem) :=
  history.filterMap fun commit => commit.request.revises itemId

/-- A retained item is what its revisions make of it, one after the other. -/
theorem linked_revisions (first last : Database) (history : History)
    (linked : Linked PacksFor first history last) (itemId : Uuid)
    (retained : Retained itemId history) (row : StoredPackingItem)
    (present : first.lookup (Key.packingItem itemId) = some row) :
    ∃ stored : StoredPackingItem, last.lookup (Key.packingItem itemId) = some stored ∧
      stored.1 = (revisions history itemId).foldl (fun row revise => revise row) row.1 ∧
        stored.1.recordVersion = row.1.recordVersion + (revisions history itemId).length := by
  induction linked with
  | nil => exact ⟨row, present, rfl, rfl⟩
  | snoc history commit _ related inductionHypothesis =>
    obtain ⟨middle, found, folded, counted⟩ := inductionHypothesis
      fun other member => retained other (List.mem_append_left _ member)
    have stays := retained commit (by simp) (by rw [found]; rfl)
    cases revises : commit.request.revises itemId with
    | none =>
      refine ⟨middle, packs_kept related revises middle found stays, ?_, ?_⟩
      · simp only [revisions, List.filterMap_append, List.filterMap_cons, revises,
          List.filterMap_nil, List.append_nil]
        exact folded
      · simp only [revisions, List.filterMap_append, List.filterMap_cons, revises,
          List.filterMap_nil, List.append_nil]
        exact counted
    | some revise =>
      obtain ⟨edited, stored, here, _, shown, revised⟩ := packs_edited related revise revises
      obtain rfl : middle = edited := Option.some.inj (found.symm.trans here)
      have version := (revises_counts commit.request itemId revise revises middle.1).1
      refine ⟨stored, shown, ?_, ?_⟩
      · simp only [revisions, List.filterMap_append, List.filterMap_cons, revises,
          List.filterMap_nil, List.foldl_append, List.foldl_cons, List.foldl_nil]
        rw [revised, folded]
        rfl
      · simp only [revisions, List.filterMap_append, List.filterMap_cons, revises,
          List.filterMap_nil, List.length_append, List.length_cons, List.length_nil]
        rw [revised, version, counted]
        simp only [revisions]
        omega

/-- A version of a retained item is replaced once at most, and afterwards the item has a
later one. -/
theorem linked_expects (first last : Database) (history : History)
    (linked : Linked PacksFor first history last) (itemId : Uuid)
    (retained : Retained itemId history) (expected : Nat) :
    history.countP (fun commit => commit.request.expects itemId = some expected) ≤ 1 ∧
      (0 < history.countP (fun commit => commit.request.expects itemId = some expected) →
        ∃ stored : StoredPackingItem, last.lookup (Key.packingItem itemId) = some stored ∧
          expected < stored.1.recordVersion) := by
  induction linked with
  | nil => simp
  | snoc history commit _ related inductionHypothesis =>
    obtain ⟨once, replaced⟩ := inductionHypothesis
      fun other member => retained other (List.mem_append_left _ member)
    rw [List.countP_append, List.countP_singleton]
    by_cases same : commit.request.expects itemId = some expected
    · obtain ⟨revise, revises⟩ := expects_revises commit.request itemId expected same
      obtain ⟨row, stored, found, version, shown, revised⟩ := packs_edited related revise revises
      have found_version : row.1.recordVersion = expected :=
        Option.some.inj (version.symm.trans same)
      have counted := (revises_counts commit.request itemId revise revises row.1).1
      have unreplaced :
          history.countP (fun commit => commit.request.expects itemId = some expected) = 0 := by
        by_contra some_earlier
        obtain ⟨later, here, past⟩ := replaced (Nat.pos_of_ne_zero some_earlier)
        obtain rfl : later = row := Option.some.inj (here.symm.trans found)
        omega
      rw [unreplaced]
      refine ⟨by split <;> omega, fun _ => ⟨stored, shown, ?_⟩⟩
      rw [revised, counted]
      omega
    · rw [if_neg (by simpa using same), Nat.add_zero]
      refine ⟨once, fun earlier => ?_⟩
      obtain ⟨later, here, past⟩ := replaced earlier
      have stays := retained commit (by simp) (by rw [here]; rfl)
      cases revises : commit.request.revises itemId with
      | none => exact ⟨later, packs_kept related revises later here stays, past⟩
      | some revise =>
        obtain ⟨row, stored, found, _, shown, revised⟩ := packs_edited related revise revises
        obtain rfl : later = row := Option.some.inj (here.symm.trans found)
        have counted := (revises_counts commit.request itemId revise revises later.1).1
        refine ⟨stored, shown, ?_⟩
        rw [revised, counted]
        omega

/-- The packing items of a run, as far as they are not deleted. -/
structure EditedInOrder (db : Database)
    (last : System Name Row Res Failure Request Reply) : Prop where
  folded : ∀ itemId (row : StoredPackingItem), db.lookup (Key.packingItem itemId) = some row →
    Retained itemId last.history →
      ∃ stored : StoredPackingItem, last.db.lookup (Key.packingItem itemId) = some stored ∧
        stored.1 = (revisions last.history itemId).foldl (fun row revise => revise row) row.1 ∧
          stored.1.recordVersion = row.1.recordVersion + (revisions last.history itemId).length
  accepts : ∀ itemId expected, Retained itemId last.history →
    last.processes.countP (fun process =>
      process.request.expects itemId = some expected && process.accepted) ≤ 1

/-- Whatever the interleaving, a packing item is in the end what the accepted edits make of
it in the order of their commits, and one edit at most is accepted for each version. -/
theorem packing_edited_in_order (platform : Platform) (db : Database)
    (last : System Name Row Res Failure Request Reply)
    (run : Run (plainApi platform) (fun _ _ => True) (System.initial db) last) :
    EditedInOrder db last := by
  have linked := packing_changes platform db last run
  constructor
  · intro itemId row present retained
    exact linked_revisions db last.db last.history linked itemId retained row present
  · intro itemId expected retained
    have answered := run_answered (plainApi platform)
      (fun request => request.expects itemId = some expected) (fun _ _ => True)
      (System.initial db) last ⟨rfl, by simp [System.initial]⟩ run
    rw [answered.tally]
    exact (linked_expects db last.db last.history linked itemId retained expected).1

namespace Sample

theorem one_packed : 1 ≤ 99 := by decide

theorem two_packed : 2 ≤ 99 := by decide

theorem first_positive : 1 ≤ 1 := Nat.le_refl 1

/-- Two travellers pack the first and the second map, both from the first version. -/
def packers : List (Event Request) :=
  [.arrive (.http credentials (pack 1 one_packed 1 first_positive) runtime),
    .arrive (.http credentials (pack 2 two_packed 1 first_positive) runtime)]

/-- The first has found the maps when the second packs, and comes too late. -/
def packingRace : List (Event Request) :=
  packers ++ List.replicate 4 (.advance 0) ++ List.replicate 7 (.advance 1) ++
    List.replicate 2 (.advance 0)

/-- How many of them are accepted, and how the maps end. -/
def packed (last : System Name Row Res Failure Request Reply) : Nat × Option (Nat × Nat) :=
  (last.processes.countP fun process =>
    process.request.expects 30 = some 1 && process.accepted,
   (last.db.lookup (Key.packingItem 30)).map fun row : StoredPackingItem =>
    (row.1.packedQuantity, row.1.recordVersion))

end Sample

/-- A run of the two. -/
theorem packers_run :
    ∃ last, Run (plainApi Sample.platform) (fun _ _ => True) (System.initial Sample.furnished) last ∧
      last.history.length = 1 ∧ Sample.packed last = (1, some (2, 2)) := by
  have made : ((System.initial Sample.furnished).steps (plainApi Sample.platform)
      Sample.packingRace).map (fun last => (last.history.length, Sample.packed last)) =
        some (1, (1, some (2, 2))) := by
    decide +kernel
  obtain ⟨last, ran, observed⟩ := Option.map_eq_some_iff.mp made
  obtain ⟨counted, outcome⟩ := Prod.mk.inj observed
  exact ⟨last, run_of_steps _ _ _ _ _ (fun _ _ _ => trivial) ran, counted, outcome⟩

/-- One of the two commits, as it says. -/
theorem packing_changes_packers :
    ∃ last : System Name Row Res Failure Request Reply, last.history.length = 1 ∧
      Linked PacksFor Sample.furnished last.history last.db := by
  obtain ⟨last, run, committed, _⟩ := packers_run
  exact ⟨last, committed, packing_changes Sample.platform Sample.furnished last run⟩

/-- One of the two is accepted. -/
theorem packing_edited_in_order_packers :
    ∃ last : System Name Row Res Failure Request Reply, EditedInOrder Sample.furnished last ∧
      Sample.packed last = (1, some (2, 2)) := by
  obtain ⟨last, run, _, outcome⟩ := packers_run
  exact ⟨last, packing_edited_in_order Sample.platform Sample.furnished last run, outcome⟩

end TraxOs.Api
