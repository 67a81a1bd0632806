import TraxOs.Api.TimelineRuns

/-!
# Compare and swap of segment versions

An edit of a segment carries the version that it was made for. The update of a segment
compares it in the UPDATE itself, under the lock of the row. A move compares it with what a
SELECT has shown, locks nothing, and counts the version up whatever it is by then.

A move that finds the version, and commits after another edit has replaced it, is accepted
all the same. As long as no move does that, every accepted edit replaces the version that it
expects by the next one, so that one version is replaced at most once.
-/

namespace TraxOs.Api

open TraxOs.Theory

/-- The segment that a call edits, and the version that it expects. -/
def Call.edit : Call → Option (Uuid × Nat)
  | .updateSegment _ segmentId command => some (segmentId, command.expectedRecordVersion)
  | .reorderSegment _ segmentId command => some (segmentId, command.expectedRecordVersion)
  | _ => none

/-- The same for a request. -/
def Request.edit (request : Request) : Option (Uuid × Nat) :=
  request.call.bind fun entry => entry.1.edit

/-- A move has found the expected version, and the stored segment still has it. -/
def Call.finds (call : Call) : (op : Op) → Res op → Database → Bool
  | .selectSegment scope journeyId id, found, db =>
    match call with
    | .reorderSegment _ _ command =>
      !(found.any fun row => row.1.recordVersion = command.expectedRecordVersion) ||
        (segmentIn db scope journeyId id).any fun row =>
          row.1.recordVersion = command.expectedRecordVersion
    | _ => true
  | _, _, _ => true

/-- The same for a request. -/
def Request.finds (request : Request) (op : Op) (answer : Res op) (db : Database) : Bool :=
  request.call.all fun entry => entry.1.finds op answer db

/-- The API with that bookkeeping. -/
abbrev editApi (platform : Platform) : Service Name Row Res Failure Request Reply :=
  api platform Request.finds

/-- The version of a stored segment, and its journey. -/
def markOf (db : Database) (id : Uuid) : Option (Nat × Uuid) :=
  (db.lookup (Key.segment id)).map fun row : StoredSegment =>
    (row.1.recordVersion, row.1.journeyId)

/-- A mark, some versions later. -/
def raised (count : Nat) (mark : Option (Nat × Uuid)) : Option (Nat × Uuid) :=
  mark.map fun entry => (entry.1 + count, entry.2)

/-- An edit of a segment counts the expected version up, and no other version. -/
structure Swaps (id : Uuid) (expected : Nat) (before after : Database) : Prop where
  found : ∃ journeyId, markOf before id = some (expected, journeyId)
  counted : markOf after id = raised 1 (markOf before id)
  others : ∀ other, other ≠ id → markOf after other = markOf before other

/-- What the participants promise: everybody edits, and every commit swaps. -/
def editContract : Contract Row Request Reply where
  Allowed request := request.edit.isSome = true
  Inv _ := True
  Commits request _ before after :=
    ∃ id expected, request.edit = some (id, expected) ∧ Swaps id expected before after

section Marks

theorem raised_zero (mark : Option (Nat × Uuid)) : raised 0 mark = mark := by
  cases mark <;> rfl

theorem raised_add (first second : Nat) (mark : Option (Nat × Uuid)) :
    raised second (raised first mark) = raised (first + second) mark := by
  cases mark with
  | none => rfl
  | some entry => simp [raised, Nat.add_assoc]

/-- A mark is decided by the row. -/
theorem markOf_congr (left right : Database) (id : Uuid)
    (same : left.lookup (Key.segment id) = right.lookup (Key.segment id)) :
    markOf left id = markOf right id := by
  rw [markOf, markOf, same]

theorem markOf_insert_self (db : Database) (id : Uuid) (stored : StoredSegment) :
    markOf (db.insert (Key.segment id) stored) id =
      some (stored.1.recordVersion, stored.1.journeyId) := by
  rw [markOf, AList.lookup_insert]
  rfl

theorem markOf_insert_ne (db : Database) (key : Key) (row : Row key) (id : Uuid)
    (other : Key.segment id ≠ key) : markOf (db.insert key row) id = markOf db id :=
  markOf_congr _ _ id (AList.lookup_insert_ne other)

theorem markOf_some (db : Database) (id : Uuid) (row : StoredSegment)
    (found : db.lookup (Key.segment id) = some row) :
    markOf db id = some (row.1.recordVersion, row.1.journeyId) := by
  rw [markOf, found]
  rfl

/-- A segment that the journey shows has its mark. -/
theorem markOf_shown (db : Database) (scope : Scope) (journeyId id : Uuid) (row : StoredSegment)
    (shown : segmentIn db scope journeyId id = some row) :
    markOf db id = some (row.1.recordVersion, journeyId) := by
  obtain ⟨present, inside, _⟩ := (segmentIn_some _ _ _ _ _).mp shown
  rw [markOf_some db id row present, inside]

end Marks

section Editing

variable {platform : Platform} {request : Request}

/-- Everything that was changed is locked, and the view of an edit differs from the store in
the version of one segment, at most. -/
structure Holding (id : Uuid) (count : Nat) (progress : Progress Name Row Res)
    (store : Database) : Prop where
  owned : ∀ write ∈ progress.writes, ∃ mode, (Resource.row write.key, mode) ∈ progress.locks ∧
    mode ≠ .keyShare
  written : 0 < count → ∃ write ∈ progress.writes, write.key = Key.segment id
  counted : markOf (progress.view store) id = raised count (markOf store id)
  others : ∀ other, other ≠ id → markOf (progress.view store) other = markOf store other

/-- Before the first write there is nothing to hold. -/
theorem holding_clean (id : Uuid) (progress : Progress Name Row Res) (store : Database)
    (clean : progress.writes = []) : Holding id 0 progress store := by
  refine ⟨by simp [clean], by simp, ?_, ?_⟩
  · rw [view_clean progress clean, raised_zero]
  · intro other _
    rw [view_clean progress clean]

/-- The mark of a changed segment keeps its distance: its row is locked. That of another one
is the same in both stores. -/
theorem holding_mark {id : Uuid} {count : Nat} {progress : Progress Name Row Res}
    {store later : Database} (holding : Holding id count progress store)
    (reached : Reaches (editApi platform) editContract request progress store later)
    (other : Uuid) (distance : Nat)
    (apart : markOf (progress.view store) other = raised distance (markOf store other))
    (untouched : (∀ write ∈ progress.writes, write.key ≠ Key.segment other) → distance = 0) :
    markOf (progress.view later) other = raised distance (markOf later other) := by
  by_cases written : ∃ write ∈ progress.writes, write.key = Key.segment other
  · obtain ⟨write, member, same⟩ := written
    obtain ⟨mode, held, strong⟩ := holding.owned write member
    rw [same] at held
    have kept : later.lookup (Key.segment other) = store.lookup (Key.segment other) :=
      lookup_locked _ _ request progress store later _ mode reached held strong
    have seen : (progress.view later).lookup (Key.segment other) =
        (progress.view store).lookup (Key.segment other) :=
      lookup_applyAll_congr _ later store _ kept
    rw [markOf_congr _ _ other seen, markOf_congr _ _ other kept, apart]
  · have spared : ∀ write ∈ progress.writes, write.key ≠ Key.segment other :=
      fun write member same => written ⟨write, member, same⟩
    rw [untouched spared, raised_zero]
    exact markOf_congr _ _ other (lookup_applyAll_untouched _ _ _ spared)

/-- The others' commits change nothing of this. -/
theorem Holding.reaches {id : Uuid} {count : Nat} {progress : Progress Name Row Res}
    {store later : Database} (holding : Holding id count progress store)
    (reached : Reaches (editApi platform) editContract request progress store later) :
    Holding id count progress later := by
  refine ⟨holding.owned, holding.written, ?_, ?_⟩
  · apply holding_mark holding reached id count holding.counted
    intro spared
    by_contra positive
    obtain ⟨write, member, same⟩ := holding.written (Nat.pos_of_ne_zero positive)
    exact spared write member same
  · intro other different
    have apart := holding.others other different
    rw [← raised_zero (markOf store other)] at apart
    rw [holding_mark holding reached other 0 apart fun _ => rfl, raised_zero]

/-- A statement that counts one version up, or none. -/
theorem Holding.extend {id : Uuid} {count : Nat} {progress : Progress Name Row Res}
    {store : Database} (holding : Holding id count progress store) (op : Op) (answer : Res op)
    (writes : List (Write Row)) (locks : Locks Key Name) (step : Nat)
    (written : 0 < step → ∃ write ∈ writes, write.key = Key.segment id)
    (counted : markOf (applyAll writes (progress.view store)) id =
      raised step (markOf (progress.view store) id))
    (others : ∀ other, other ≠ id →
      markOf (applyAll writes (progress.view store)) other = markOf (progress.view store) other) :
    Holding id (count + step) (progress.extend op answer writes locks) store := by
  constructor
  · intro write member
    rcases List.mem_append.mp member with earlier | now
    · obtain ⟨mode, held, strong⟩ := holding.owned write earlier
      exact ⟨mode, List.mem_append_left _ held, strong⟩
    · exact (pinned_written progress store op answer writes locks write now).2
  · intro positive
    by_cases before : 0 < count
    · obtain ⟨write, member, same⟩ := holding.written before
      exact ⟨write, List.mem_append_left _ member, same⟩
    · obtain ⟨write, member, same⟩ := written (by omega)
      exact ⟨write, List.mem_append_right _ member, same⟩
  · rw [Progress.view_extend, counted, holding.counted, raised_add]
  · intro other different
    rw [Progress.view_extend, others other different, holding.others other different]

/-- A statement that changes no segment. -/
theorem Holding.aside {id : Uuid} {count : Nat} {progress : Progress Name Row Res}
    {store : Database} (holding : Holding id count progress store) (op : Op) (answer : Res op)
    (writes : List (Write Row)) (locks : Locks Key Name)
    (aside : ∀ write ∈ writes, ∀ other, write.key ≠ Key.segment other) :
    Holding id count (progress.extend op answer writes locks) store := by
  have same : ∀ other, markOf (applyAll writes (progress.view store)) other =
      markOf (progress.view store) other := by
    intro other
    apply markOf_congr
    exact lookup_applyAll_untouched _ _ _ fun write member => aside write member other
  apply holding.extend op answer writes locks 0
  · simp
  · rw [same, raised_zero]
  · exact fun other _ => same other

/-- A statement that rewrites a shown segment in its journey, and counts only the edited one. -/
theorem Holding.rewritten {id : Uuid} {count : Nat} {progress : Progress Name Row Res}
    {store : Database} (holding : Holding id count progress store) (op : Op) (answer : Res op)
    (locks : Locks Key Name) (target : Uuid) (row stored : StoredSegment) (step : Nat)
    (present : (progress.view store).lookup (Key.segment target) = some row)
    (inside : stored.1.journeyId = row.1.journeyId)
    (version : stored.1.recordVersion = row.1.recordVersion + step)
    (own : target ≠ id → step = 0) :
    Holding id (count + step)
      (progress.extend op answer [.put (Key.segment target) stored] locks) store := by
  have marked : markOf (applyAll [.put (Key.segment target) stored] (progress.view store)) target =
      raised step (markOf (progress.view store) target) := by
    rw [markOf_some _ _ _ present]
    simp only [applyAll_cons, applyAll_nil, Write.apply, markOf_insert_self, inside, version]
    rfl
  have kept : ∀ other, other ≠ target →
      markOf (applyAll [.put (Key.segment target) stored] (progress.view store)) other =
        markOf (progress.view store) other := by
    intro other different
    exact markOf_insert_ne _ _ _ other (by simpa using different)
  by_cases same : target = id
  · subst same
    exact holding.extend op answer _ locks step (fun _ => ⟨_, List.mem_cons_self, rfl⟩) marked kept
  · rw [own same] at marked ⊢
    apply holding.extend op answer _ locks 0 (by simp)
    · rw [kept id (Ne.symm same), raised_zero]
    · intro other _
      by_cases here : other = target
      · rw [here, marked, raised_zero]
      · exact kept other here

/-- An edit that has counted its version up: the row that it replaces is known and locked. -/
structure Swapped (id : Uuid) (expected : Nat) (progress : Progress Name Row Res)
    (store : Database) : Prop where
  holding : Holding id 1 progress store
  found : ∃ journeyId, markOf store id = some (expected, journeyId)

variable {id : Uuid} {expected : Nat} {progress : Progress Name Row Res} {store later : Database}

/-- The others' commits change nothing of this. -/
theorem Swapped.reaches (swapped : Swapped id expected progress store)
    (reached : Reaches (editApi platform) editContract request progress store later) :
    Swapped id expected progress later := by
  refine ⟨swapped.holding.reaches reached, ?_⟩
  obtain ⟨journeyId, found⟩ := swapped.found
  obtain ⟨write, member, same⟩ := swapped.holding.written Nat.one_pos
  obtain ⟨mode, held, strong⟩ := swapped.holding.owned write member
  rw [same] at held
  refine ⟨journeyId, ?_⟩
  rw [← found]
  exact markOf_congr _ _ id (lookup_locked _ _ request progress store later _ mode reached held
    strong)

/-- Such an edit commits as it should. -/
theorem Swapped.promises (swapped : Swapped id expected progress store)
    (edits : request.edit = some (id, expected)) (reply : Reply) :
    Promises (editApi platform) editContract request reply progress store := by
  intro later _ reached
  have still := swapped.reaches reached
  exact ⟨id, expected, edits, still.found, still.holding.counted, still.holding.others⟩

/-- Statements that change no segment. -/
def Op.skirts : Op → Bool
  | .touchJourney _ _ _ => true
  | op => op.reads

/-- What they write is elsewhere. -/
theorem skirts_aside (op : Op) (skirts : op.skirts = true) (db : Database) (answer : Res op)
    (writes : List (Write Row)) (locks : Locks Key Name)
    (ran : execute platform op db = .ran answer writes locks) :
    ∀ write ∈ writes, ∀ other, write.key ≠ Key.segment other := by
  by_cases reads : op.reads = true
  · rw [reads_only platform db op reads answer writes locks ran]
    simp
  · cases op with
    | touchJourney scope journeyId now =>
      rcases ran_touchJourney platform _ _ _ _ _ _ _ ran with ⟨_, rfl⟩ | ⟨row, stored, _, _, rfl⟩
      · simp
      · simp [Write.key]
    | _ => exact absurd skirts reads

/-- Nothing that follows such an edit takes it back. -/
theorem leads_skirting {α : Type} (action : Action α)
    (only : action.Only fun op => op.skirts = true) (swapped : Swapped id expected progress store) :
    Leads (editApi platform) editContract request action progress store
      fun _ => Swapped id expected := by
  refine leads_invariant _ _ (fun op => op.skirts = true) (Swapped id expected) ?_ action only
    progress store swapped
  intro progress store later op answer writes locks skirts swapped _ reached ran
  have still := swapped.reaches reached
  exact ⟨still.holding.aside op answer writes locks (skirts_aside op skirts _ answer writes locks
    ran), still.found⟩

/-- Reading writes nothing. -/
theorem leads_clean {α : Type} (action : Action α) (only : action.Only fun op => op.reads = true)
    (clean : progress.writes = []) :
    Leads (editApi platform) editContract request action progress store
      fun _ grown _ => grown.writes = [] := by
  refine leads_invariant _ _ (fun op => op.reads = true) (fun grown _ => grown.writes = []) ?_
    action only progress store clean
  intro progress store later op answer writes locks reads clean _ _ ran
  have nothing := reads_only platform _ op reads answer writes locks ran
  simp [Progress.extend, clean, nothing]

variable (context : AuthContext) (runtime : Runtime) (journeyId segmentId : Uuid)

/-- `update_segment` swaps in its UPDATE. -/
theorem leads_updateSegment (command : SegmentUpdate) (clean : progress.writes = []) :
    Leads (editApi platform) editContract request
      (updateSegment context runtime journeyId segmentId command) progress store
        fun _ => Swapped segmentId command.expectedRecordVersion := by
  unfold updateSegment
  apply leads_bind
  apply leads_mono _ _ _ _ _ _ _ _
    (leads_clean (ownedSegment context journeyId segmentId)
      (ownedSegment_reads context journeyId segmentId) clean)
  intro _ grown first empty later _ reached answer writes locks ran
  rcases ran_swapSegment platform _ _ _ _ _ _ _ answer writes locks ran with ⟨rfl, rfl⟩ |
    ⟨row, stored, shown, expected, revised, rfl, rfl⟩
  · trivial
  · rw [view_clean grown empty] at shown
    obtain ⟨present, _, _⟩ := (segmentIn_some _ _ _ _ _).mp shown
    have swapped : Swapped segmentId command.expectedRecordVersion
        (grown.extend (Op.swapSegment context.scope journeyId segmentId
          command.expectedRecordVersion (segmentValues command.toSegmentInput) (runtime.clock 1))
            (some stored) [.put (Key.segment segmentId) stored] locks) later := by
      constructor
      · apply (holding_clean segmentId grown later empty).rewritten _ _ locks segmentId row stored 1
        · rw [view_clean grown empty]
          exact present
        · rw [revised]
          rfl
        · rw [revised]
          rfl
        · exact fun other => absurd rfl other
      · exact ⟨journeyId, by rw [markOf_shown _ _ _ _ row shown, expected]⟩
    refine leads_skirting (touchJourney context runtime journeyId >>= fun _ =>
      pure (segmentResponse segmentId stored.1)) ?_ swapped
    exact Program.only_bind _ _ _ ⟨rfl, fun _ => trivial⟩ fun _ => trivial

/-- A move on its way: it has read the expected version, nothing has replaced it, and only
parts of journeys are changed so far. -/
structure Moving (scope : Scope) (journeyId segmentId : Uuid) (expected : Nat)
    (progress : Progress Name Row Res) (store : Database) : Prop where
  holding : Holding segmentId 0 progress store
  parts : ∀ write ∈ progress.writes, write.key.isPart = true
  seen : ∃ row : StoredSegment, row.1.recordVersion = expected ∧
    (⟨Op.selectSegment scope journeyId segmentId, some row⟩ : Sigma Res) ∈ progress.observed
  found : ∃ row, segmentIn store scope journeyId segmentId = some row ∧
    row.1.recordVersion = expected

variable {scope : Scope} {command : SegmentReorder} {surroundings : Runtime}
  {journeyId segmentId : Uuid}

/-- What a move relies on is its own bookkeeping. -/
theorem Moving.reaches
    (called : request.call = some (.reorderSegment journeyId segmentId command, surroundings))
    (moving : Moving scope journeyId segmentId command.expectedRecordVersion progress store)
    (reached : Reaches (editApi platform) editContract request progress store later) :
    Moving scope journeyId segmentId command.expectedRecordVersion progress later := by
  refine ⟨moving.holding.reaches reached, moving.parts, moving.seen, ?_⟩
  cases reached with
  | refl => exact moving.found
  | tail _ interferes =>
    obtain ⟨row, version, member⟩ := moving.seen
    have now : request.finds (Op.selectSegment scope journeyId segmentId) (some row) later = true :=
      interferes.2.1 _ member
    rw [Request.finds, called] at now
    have shown : (segmentIn later scope journeyId segmentId).any
        (fun row => row.1.recordVersion = command.expectedRecordVersion) = true := by
      simpa [Call.finds, version] using now
    obtain ⟨found, here, same⟩ := (Option.any_eq_true _ _).mp shown
    exact ⟨found, here, of_decide_eq_true same⟩

/-- One statement more. -/
theorem Moving.extend
    (moving : Moving scope journeyId segmentId expected progress store) (op : Op)
    (answer : Res op) (writes : List (Write Row)) (locks : Locks Key Name)
    (holding : Holding segmentId 0 (progress.extend op answer writes locks) store)
    (parts : ∀ write ∈ writes, write.key.isPart = true) :
    Moving scope journeyId segmentId expected (progress.extend op answer writes locks) store := by
  obtain ⟨row, version, member⟩ := moving.seen
  refine ⟨holding, ?_, ⟨row, version, List.mem_append_left _ member⟩, moving.found⟩
  intro write among
  rcases List.mem_append.mp among with earlier | now
  · exact moving.parts write earlier
  · exact parts write now

/-- A statement that reads. -/
theorem Moving.reading
    (moving : Moving scope journeyId segmentId expected progress store) (op : Op)
    (answer : Res op) (locks : Locks Key Name) :
    Moving scope journeyId segmentId expected (progress.extend op answer [] locks) store :=
  moving.extend op answer [] locks (moving.holding.aside op answer [] locks (by simp)) (by simp)

/-- A statement that rewrites a segment without counting. -/
theorem Moving.rewritten
    (moving : Moving scope journeyId segmentId expected progress store) (op : Op)
    (answer : Res op) (locks : Locks Key Name) (target : Uuid) (row stored : StoredSegment)
    (present : (progress.view store).lookup (Key.segment target) = some row)
    (inside : stored.1.journeyId = row.1.journeyId)
    (version : stored.1.recordVersion = row.1.recordVersion) :
    Moving scope journeyId segmentId expected
      (progress.extend op answer [.put (Key.segment target) stored] locks) store := by
  apply moving.extend op answer _ locks
  · exact moving.holding.rewritten op answer locks target row stored 0 present inside version
      fun _ => rfl
  · simp [Write.key, Key.isPart]

/-- The moved segment is visible to the move. -/
theorem Moving.visible
    (moving : Moving scope journeyId segmentId expected progress store) :
    ∃ row, visibleSegment (progress.view store) scope segmentId = some row := by
  obtain ⟨row, shown, _⟩ := moving.found
  obtain ⟨_, _, visible⟩ := (segmentIn_some _ _ _ _ _).mp shown
  have marked := moving.holding.counted
  rw [raised_zero, markOf_shown _ _ _ _ row shown, markOf, Option.map_eq_some_iff] at marked
  obtain ⟨stored, present, same⟩ := marked
  have inside : stored.1.journeyId = journeyId := congrArg Prod.snd same
  refine ⟨stored, (visibleSegment_some _ _ _ _).mpr ⟨present, ?_⟩⟩
  have central : ∀ key : Key, key.isPart = false →
      (progress.view store).lookup key = store.lookup key := by
    intro key outside
    apply lookup_applyAll_untouched
    intro write member same
    rw [← same, moving.parts write member] at outside
    cases outside
  rw [inside, visibleJourney_congr journeyId _ store scope central]
  exact visible

/-- `_owned_segment` of a move shows a segment and remembers it. -/
theorem leads_ownedSegment (clean : progress.writes = []) :
    Leads (editApi platform) editContract request (ownedSegment context journeyId segmentId)
      progress store fun row grown later => grown.writes = [] ∧
        segmentIn later context.scope journeyId segmentId = some row ∧
          (⟨Op.selectSegment context.scope journeyId segmentId, some row⟩ : Sigma Res) ∈
            grown.observed := by
  have reads : (journeyRow context journeyId false).Only fun op => op.reads = true := by
    refine ⟨rfl, fun answer => ?_⟩
    cases answer <;> trivial
  unfold ownedSegment
  apply leads_bind
  apply leads_mono _ _ _ _ _ _ _ _ (leads_clean (journeyRow context journeyId false) reads clean)
  intro _ grown first empty later _ _ answer writes locks ran
  obtain ⟨shown, rfl, rfl⟩ := ran_selectSegment platform _ _ _ _ _ _ _ ran
  rw [view_clean grown empty] at shown
  cases answer with
  | none => trivial
  | some row => exact ⟨by simp [Progress.extend, empty], shown.symm, by simp [Progress.extend]⟩

/-- A list of segments names none twice. -/
theorem order_nodup (db : Database) (journeyId : Uuid) : (order db journeyId).Nodup := by
  apply (timeline_nodup db journeyId).map_on
  rintro ⟨id, row⟩ first ⟨other, stored⟩ second same
  obtain rfl : id = other := same
  have here := ((mem_timeline db journeyId id row).mp first).1
  have there := ((mem_timeline db journeyId id stored).mp second).1
  rw [here, Option.some.injEq] at there
  rw [there]

/-- The bulk UPDATE of a move counts nothing. -/
theorem leads_shiftSegments
    (called : request.call = some (.reorderSegment journeyId segmentId command, surroundings))
    (moving : Moving context.scope journeyId segmentId command.expectedRecordVersion progress
      store) :
    Leads (editApi platform) editContract request (shiftSegments context runtime journeyId)
      progress store fun _ =>
        Moving context.scope journeyId segmentId command.expectedRecordVersion := by
  intro first _ reached rows writes locks ran
  obtain ⟨_, rfl, rfl⟩ := ran_listSegments platform _ _ _ _ _ _ ran
  refine leads_each _ _ _ _ (fun _ =>
    Moving context.scope journeyId segmentId command.expectedRecordVersion) ?_ _ first
      ((moving.reaches called reached).reading _ _ _)
  intro _ id _ _ progress store moving later _ reached answer writes locks ran
  have still := moving.reaches called reached
  rcases ran_shiftSegment platform _ _ _ _ _ writes locks ran with ⟨_, rfl⟩ |
    ⟨row, stored, shown, moved, rfl⟩
  · exact still.reading _ _ _
  · obtain ⟨present, _, _⟩ := (segmentIn_some _ _ _ _ _).mp shown
    exact still.rewritten _ _ locks id row stored present (by rw [moved]) (by rw [moved])

/-- One round of the renumbering. The moved segment is counted up when its turn comes, and
no other one is. -/
theorem leads_placeSegment
    (called : request.call = some (.reorderSegment journeyId segmentId command, surroundings))
    (target : Uuid) (position : Nat) (stamp : Option Timestamp) (counted : Prop)
    [Decidable counted] (fresh : target = segmentId → ¬ counted)
    (state : if counted then Swapped segmentId command.expectedRecordVersion progress store
      else Moving context.scope journeyId segmentId command.expectedRecordVersion progress store) :
    Leads (editApi platform) editContract request
      (Program.ask (Op.placeSegment context.scope target position stamp (target = segmentId)))
        progress store fun _ grown later =>
          if counted ∨ target = segmentId then
            Swapped segmentId command.expectedRecordVersion grown later
          else Moving context.scope journeyId segmentId command.expectedRecordVersion grown
            later := by
  intro later _ reached answer writes locks ran
  have result := ran_placeSegment platform _ _ _ _ _ _ _ writes locks ran
  by_cases before : counted
  · have other : target ≠ segmentId := fun same => fresh same before
    rw [if_pos before] at state
    rw [leads_done, if_pos (Or.inl before)]
    have still := state.reaches reached
    refine ⟨?_, still.found⟩
    rcases result with ⟨_, rfl⟩ | ⟨row, stored, shown, placed, rfl⟩
    · exact still.holding.aside _ _ _ locks (by simp)
    · obtain ⟨present, _⟩ := (visibleSegment_some _ _ _ _).mp shown
      exact still.holding.rewritten _ _ locks target row stored 0 present (by rw [placed]; rfl)
        (by rw [placed]; simp [Segment.placed, other]) fun _ => rfl
  · rw [if_neg before] at state
    have still := state.reaches called reached
    by_cases own : target = segmentId
    · subst own
      rw [leads_done, if_pos (Or.inr rfl)]
      obtain ⟨visible, here⟩ := still.visible
      rcases result with ⟨hidden, _⟩ | ⟨row, stored, shown, placed, rfl⟩
      · rw [here] at hidden
        cases hidden
      · obtain ⟨present, _⟩ := (visibleSegment_some _ _ _ _).mp shown
        obtain ⟨found, stands, version⟩ := still.found
        constructor
        · exact still.holding.rewritten _ _ locks target row stored 1 present
            (by rw [placed]; rfl) (by rw [placed]; simp [Segment.placed])
            fun other => absurd rfl other
        · exact ⟨journeyId, by rw [markOf_shown _ _ _ _ found stands, version]⟩
    · rw [leads_done, if_neg (by simp [before, own])]
      rcases result with ⟨_, rfl⟩ | ⟨row, stored, shown, placed, rfl⟩
      · exact still.reading _ _ _
      · obtain ⟨present, _⟩ := (visibleSegment_some _ _ _ _).mp shown
        exact still.rewritten _ _ locks target row stored present (by rw [placed]; rfl)
          (by rw [placed]; simp [Segment.placed, own])

/-- The renumbering counts the moved segment up once. -/
theorem leads_renumberSegments
    (called : request.call = some (.reorderSegment journeyId segmentId command, surroundings))
    (ids : List Uuid) (distinct : ids.Nodup) (member : segmentId ∈ ids)
    (moving : Moving context.scope journeyId segmentId command.expectedRecordVersion progress
      store) :
    Leads (editApi platform) editContract request (renumberSegments context runtime segmentId ids)
      progress store fun _ => Swapped segmentId command.expectedRecordVersion := by
  unfold renumberSegments
  refine leads_mono _ _ _ _ _ (fun _ grown later =>
      if segmentId ∈ ids.zipIdx.map Prod.fst then
        Swapped segmentId command.expectedRecordVersion grown later
      else Moving context.scope journeyId segmentId command.expectedRecordVersion grown later)
    _ ?_ (leads_each _ _ _ _ (fun finished grown later =>
      if segmentId ∈ finished.map Prod.fst then
        Swapped segmentId command.expectedRecordVersion grown later
      else Moving context.scope journeyId segmentId command.expectedRecordVersion grown later)
      ?_ progress store moving)
  · intro _ grown later result
    rw [List.zipIdx_map_fst, if_pos member] at result
    exact result
  · rintro finished ⟨id, position⟩ rest split progress store state
    have fresh : id = segmentId → segmentId ∉ finished.map Prod.fst := by
      rintro rfl
      have parts := congrArg (List.map Prod.fst) split
      rw [List.zipIdx_map_fst, List.map_append, List.map_cons] at parts
      rw [parts] at distinct
      exact fun earlier => (List.nodup_append.mp distinct).2.2 id earlier id List.mem_cons_self rfl
    apply leads_mono _ _ _ _ _ _ _ _ (leads_placeSegment context called id position
      (some (runtime.clock 1)) (segmentId ∈ finished.map Prod.fst) fresh state)
    intro _ grown later result
    have joined : segmentId ∈ (finished ++ [(id, position)]).map Prod.fst ↔
        segmentId ∈ finished.map Prod.fst ∨ id = segmentId := by
      simp [eq_comm]
    by_cases here : segmentId ∈ finished.map Prod.fst ∨ id = segmentId
    · rw [if_pos here] at result
      rw [if_pos (joined.mpr here)]
      exact result
    · rw [if_neg here] at result
      rw [if_neg (here ∘ joined.mp)]
      exact result

/-- `reorder_segment` swaps, if nobody replaces the version that it has found. -/
theorem leads_reorderSegment
    (called : request.call = some (.reorderSegment journeyId segmentId command, surroundings))
    (clean : progress.writes = []) :
    Leads (editApi platform) editContract request
      (reorderSegment context runtime journeyId segmentId command.expectedRecordVersion
        command.newPosition) progress store
          fun _ => Swapped segmentId command.expectedRecordVersion := by
  unfold reorderSegment
  apply leads_bind
  apply leads_mono _ _ _ _ _ _ _ _ (leads_ownedSegment context clean)
  rintro row grown first ⟨empty, shown, member⟩
  by_cases stale : row.1.recordVersion ≠ command.expectedRecordVersion
  · rw [if_pos stale]
    trivial
  rw [if_neg stale]
  have version : row.1.recordVersion = command.expectedRecordVersion := Decidable.not_not.mp stale
  have moving : Moving context.scope journeyId segmentId command.expectedRecordVersion grown
      first := by
    refine ⟨holding_clean segmentId grown first empty, ?_, ⟨row, version, member⟩,
      ⟨row, shown, version⟩⟩
    simp [empty]
  intro second _ reached rows writes locks ran
  obtain ⟨listed, rfl, rfl⟩ := ran_listSegments platform _ _ _ _ _ _ ran
  have still := (moving.reaches called reached).reading
    (Op.listSegments context.scope journeyId) rows []
  simp only [Program.bind]
  by_cases beyond : (rows.map Prod.fst).length ≤ command.newPosition
  · rw [if_pos beyond]
    trivial
  rw [if_neg beyond]
  by_cases among : segmentId ∈ rows.map Prod.fst
  case neg =>
    rw [if_neg among]
    trivial
  rw [if_pos among]
  have names : (rows.map Prod.fst).Nodup := by
    rw [listed, visibleTimeline]
    split
    · exact order_nodup _ journeyId
    · exact List.nodup_nil
  have room : command.newPosition ≤ ((rows.map Prod.fst).erase segmentId).length := by
    rw [List.length_erase_of_mem among]
    omega
  have arranged := (List.perm_insertIdx segmentId _ room).trans (List.perm_cons_erase among).symm
  refine leads_bind _ _ (shiftSegments context runtime journeyId) _ _ _ _ ?_
  apply leads_mono _ _ _ _ _ _ _ _ (leads_shiftSegments context runtime called still)
  intro _ shifted third moved
  refine leads_bind _ _ (renumberSegments context runtime segmentId _) _ _ _ _ ?_
  apply leads_mono _ _ _ _ _ _ _ _ (leads_renumberSegments context runtime called _
    (arranged.nodup_iff.mpr names) (arranged.mem_iff.mpr among) moved)
  intro _ renumbered fourth swapped
  apply leads_skirting _ _ swapped
  refine Program.only_bind _ (touchJourney context runtime journeyId) _ ⟨rfl, fun _ => trivial⟩
    fun _ => ?_
  refine Program.only_bind _ (ownedSegment context journeyId segmentId) _
    ((ownedSegment_reads context journeyId segmentId).mono ?_) fun found => ?_
  · intro op reads
    cases op <;> simp_all [Op.reads, Op.skirts]
  · split <;> trivial

/-- So do the handlers of both edits. -/
theorem leads_handle (call : Call) (called : request.call = some (call, surroundings))
    (edits : call.edit = some (id, expected)) (clean : progress.writes = []) :
    Leads (editApi platform) editContract request (handle platform context runtime call) progress
      store fun _ => Swapped id expected := by
  cases call with
  | updateSegment journeyId segmentId command =>
    cases edits
    apply leads_bind
    exact leads_updateSegment context runtime journeyId _ command clean
  | reorderSegment journeyId segmentId command =>
    cases edits
    apply leads_bind
    exact leads_reorderSegment context runtime called clean
  | _ => cases edits

end Editing

/-- Every edit is safe in the company of edits. -/
theorem safe_edit (platform : Platform) (request : Request) (db : Database)
    (edits : request.edit.isSome = true) :
    Safe (editApi platform) editContract request (program platform request) .empty db := by
  obtain ⟨⟨id, expected⟩, edits⟩ := Option.isSome_iff_exists.mp edits
  apply leads_mono _ _ _ _ _ (fun _ => Swapped id expected)
  · intro reply progress store swapped
    exact swapped.promises edits reply
  · cases request with
    | http credentials call runtime =>
      apply leads_bind
      apply leads_mono _ _ _ _ _ _ _ _ (leads_clean
        (routeContext platform runtime credentials call.mutates)
        (routeContext_reads runtime credentials call.mutates) rfl)
      intro context grown later clean
      exact leads_handle context runtime call rfl edits clean
    | operation context call runtime => exact leads_handle context runtime call rfl edits rfl
    | command => cases edits
    | administer => cases edits

/-- A commit of an edit, for the segment and the version that its request names. -/
def SwapsFor (request : Request) (_ : Reply) (before after : Database) : Prop :=
  ∃ id expected, request.edit = some (id, expected) ∧ Swaps id expected before after

/-- A chain of such commits replaces a version once at most, and afterwards the segment has
a later one. -/
theorem linked_swaps (first last : Database) (history : History)
    (linked : Linked SwapsFor first history last) (id : Uuid) (expected : Nat) :
    history.countP (fun commit => commit.request.edit = some (id, expected)) ≤ 1 ∧
      (0 < history.countP (fun commit => commit.request.edit = some (id, expected)) →
        ∃ version journeyId, markOf last id = some (version, journeyId) ∧ expected < version) := by
  induction linked with
  | nil => simp
  | snoc history commit _ related inductionHypothesis =>
    obtain ⟨once, replaced⟩ := inductionHypothesis
    obtain ⟨target, version, edits, swaps⟩ := related
    rw [List.countP_append, List.countP_singleton]
    by_cases same : commit.request.edit = some (id, expected)
    · rw [edits, Option.some.injEq, Prod.mk.injEq] at same
      obtain ⟨rfl, rfl⟩ := same
      obtain ⟨journeyId, found⟩ := swaps.found
      have unreplaced : history.countP
          (fun commit => commit.request.edit = some (target, version)) = 0 := by
        by_contra some_earlier
        obtain ⟨later, journey, mark, raised⟩ := replaced (Nat.pos_of_ne_zero some_earlier)
        rw [found, Option.some.injEq, Prod.mk.injEq] at mark
        omega
      rw [unreplaced]
      refine ⟨by split <;> omega, fun _ => ⟨version + 1, journeyId, ?_, Nat.lt_succ_self _⟩⟩
      rw [swaps.counted, found]
      rfl
    · rw [if_neg (by simpa using same), Nat.add_zero]
      refine ⟨once, fun earlier => ?_⟩
      obtain ⟨later, journey, mark, past⟩ := replaced earlier
      by_cases target_same : id = target
      · subst target_same
        refine ⟨later + 1, journey, ?_, Nat.lt_succ_of_lt past⟩
        rw [swaps.counted, mark]
        rfl
      · exact ⟨later, journey, (swaps.others id target_same).trans mark, past⟩

/-- Only edits arrive. -/
def OnlyEdits (_ : System Name Row Res Failure Request Reply) : Event Request → Prop
  | .arrive request => request.edit.isSome = true
  | _ => True

/-- Moreover, no move commits after another edit has replaced the version that it found. -/
def FreshEdits (system : System Name Row Res Failure Request Reply) (event : Event Request) :
    Prop :=
  OnlyEdits system event ∧
    ∀ index process reply, event = .advance index → system.processes[index]? = some process →
      process.rest = some (.done reply) → process.stale = false

/-- Of the edits that expect one version of a segment, one at most is accepted and commits.
The store is changed by those commits only, each of which replaces the expected version. -/
structure ReplacedOnce (db : Database)
    (last : System Name Row Res Failure Request Reply) : Prop where
  changes : Linked SwapsFor db last.history last.db
  commits : ∀ id expected,
    last.history.countP (fun commit => commit.request.edit = some (id, expected)) ≤ 1
  accepts : ∀ id expected, last.processes.countP (fun process =>
    process.request.edit = some (id, expected) && process.accepted) ≤ 1

/-- Whatever the interleaving of updates and moves, every version of every segment is
replaced by one of them at most, if no move commits after its version was replaced. -/
theorem versions_replaced_once (platform : Platform) (db : Database)
    (last : System Name Row Res Failure Request Reply)
    (run : Run (editApi platform) FreshEdits (System.initial db) last) : ReplacedOnce db last := by
  have sound : Sound (editApi platform) editContract db last := by
    apply run_sound (editApi platform) editContract FreshEdits _ last db _ _ _ _ _ run
    · exact fun system request permitted => permitted.1
    · intro system index process reply _ permitted found ended
      exact permitted.2 index process reply rfl found ended
    · exact fun request store edits _ => safe_edit platform request store edits
    · exact fun _ _ _ _ _ _ _ => trivial
    · exact sound_initial _ _ db trivial
  have linked : Linked SwapsFor db last.history last.db :=
    sound.linked.mono fun request reply before after admitted => admitted.2.2.2
  refine ⟨linked, fun id expected => (linked_swaps db _ _ linked id expected).1, ?_⟩
  intro id expected
  have answered := run_answered (editApi platform)
    (fun request => request.edit = some (id, expected)) FreshEdits (System.initial db) last
    ⟨rfl, by simp [System.initial]⟩ run
  rw [answered.tally]
  exact (linked_swaps db _ _ linked id expected).1

namespace Sample

/-- A move and an update of the second stay, both for its first version. -/
def rivals : List (Event Request) :=
  [.arrive (.http credentials (move 21 0) runtime), .arrive (.http credentials revision runtime)]

/-- The move finds the version, the update replaces it, and the move continues. -/
def unguarded : List (Event Request) :=
  rivals ++ List.replicate 4 (.advance 0) ++ List.replicate 7 (.advance 1) ++
    List.replicate 10 (.advance 0)

/-- The update finds its segment, the move commits, and the update comes too late. -/
def guarded : List (Event Request) :=
  rivals ++ List.replicate 4 (.advance 1) ++ List.replicate 14 (.advance 0) ++
    List.replicate 2 (.advance 1)

/-- The check that goes with `FreshEdits`. -/
def freshEdit (system : System Name Row Res Failure Request Reply) : Event Request → Bool
  | .arrive request => request.edit.isSome
  | .advance index => system.processes[index]?.all fun process => !process.stale
  | .crash _ => true

/-- How many of the two are accepted, and the version of the second stay. -/
def outcome (last : System Name Row Res Failure Request Reply) : Nat × Option (Nat × Uuid) :=
  (last.processes.countP fun process =>
    process.request.edit = some (21, 1) && process.accepted, markOf last.db 21)

end Sample

/-- Both are accepted, and the version is counted up twice. -/
theorem version_replaced_twice :
    ∃ last, Run (editApi Sample.platform) OnlyEdits (System.initial Sample.occupied) last ∧
      (∀ process ∈ last.processes, process.request.edit = some (21, 1)) ∧
        Sample.outcome last = (2, some (3, 7)) ∧ ¬ ReplacedOnce Sample.occupied last := by
  have made : ((System.initial Sample.occupied).steps (editApi Sample.platform)
      Sample.unguarded).map (fun last => (Sample.outcome last,
        last.processes.all fun process => process.request.edit = some (21, 1))) =
        some ((2, some (3, 7)), true) := by
    decide +kernel
  obtain ⟨last, ran, observed⟩ := Option.map_eq_some_iff.mp made
  obtain ⟨counted, alike⟩ := Prod.mk.inj observed
  have permitted : ∀ event ∈ Sample.unguarded, ∀ system, OnlyEdits system event := by
    intro event member system
    simp only [Sample.unguarded, Sample.rivals, List.mem_append, List.mem_cons,
      List.mem_replicate, List.not_mem_nil, or_false] at member
    rcases member with (((rfl | rfl) | ⟨_, rfl⟩) | ⟨_, rfl⟩) | ⟨_, rfl⟩
    · exact Eq.refl true
    · exact Eq.refl true
    · trivial
    · trivial
    · trivial
  refine ⟨last, run_of_steps _ _ _ _ _ permitted ran, ?_, counted, ?_⟩
  · intro process member
    exact of_decide_eq_true (List.all_eq_true.mp alike process member)
  · intro once
    have both : last.processes.countP (fun process =>
        process.request.edit = some (21, 1) && process.accepted) = 2 := congrArg Prod.fst counted
    have bounded := once.accepts 21 1
    omega

/-- The update that comes too late changes nothing. -/
theorem versions_replaced_once_late :
    ∃ last : System Name Row Res Failure Request Reply, ReplacedOnce Sample.occupied last ∧
      Sample.outcome last = (1, some (2, 7)) := by
  have made : ((System.initial Sample.occupied).checkedSteps (editApi Sample.platform)
      Sample.freshEdit Sample.guarded).map Sample.outcome = some (1, some (2, 7)) := by
    decide +kernel
  obtain ⟨last, ran, observed⟩ := Option.map_eq_some_iff.mp made
  have implies : ∀ system event, Sample.freshEdit system event = true →
      FreshEdits system event := by
    intro system event passed
    cases event with
    | arrive request => exact ⟨passed, fun _ _ _ other => by cases other⟩
    | advance index =>
      refine ⟨trivial, ?_⟩
      rintro _ process reply same found _
      cases same
      simpa [Sample.freshEdit, found] using passed
    | crash index => exact ⟨trivial, fun _ _ _ other => by cases other⟩
  have run := run_of_checked _ _ _ implies _ _ _ ran
  exact ⟨last, versions_replaced_once Sample.platform Sample.occupied last run, observed⟩

end TraxOs.Api
