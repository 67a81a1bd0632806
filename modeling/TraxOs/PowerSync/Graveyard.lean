import TraxOs.PowerSync.Rotation

/-!
# Retention of deletion markers

A soft delete evaluates its date before its trigger allocates the deletion sequence,
so a later sequence can carry an earlier date. The retention job decides by date what
it purges and derives the floor from the sequences that remain. It is sound in every
run in which markers are committed in the order of their dates: then what is purged
is below everything that is retained, and a replica that acknowledged less than a
purged sequence is told to reset.

When the orders differ, a purged marker can be beyond the floor, and a replica that
never saw it may continue. The run at the end does this.
-/

namespace TraxOs.PowerSync

open TraxOs.Theory

/-- The markers of a commit are in the order of the dates that were there before. -/
def DeletedInOrder (before after : Database) : Prop :=
  ∀ id marker, after.lookup (Key.marker id) = some marker →
    before.lookup (Key.marker id) = none → ∀ other found,
      before.lookup (Key.marker other) = some found → found.deletedAt ≤ marker.deletedAt

/-- Any request may arrive and any transaction may take its next step, but a soft delete
may only commit when no retained marker carries a later date than its own. -/
def DeletesInOrder (system : System Name Row Res Failure Request Reply) : Event Request → Prop
  | .advance index => ∀ process reply, system.processes[index]? = some process →
      process.rest = some (.done reply) →
        DeletedInOrder system.db (process.progress.view system.db)
  | _ => True

/-- The dates of retained markers are in the order of their sequences. -/
def Dated (db : Database) : Prop :=
  ∀ id other marker found, db.lookup (Key.marker id) = some marker →
    db.lookup (Key.marker other) = some found →
      marker.deletionSequence < found.deletionSequence → marker.deletedAt ≤ found.deletedAt

/-- A marker was purged by a commit of the history. -/
def Purged (history : List (Commit Row Request Reply)) (id : Uuid) (marker : Marker) : Prop :=
  ∃ commit ∈ history, commit.before.lookup (Key.marker id) = some marker ∧
    commit.after.lookup (Key.marker id) = none

/-- The floor, the sequences and the acknowledgements after a history. -/
structure RetainsSoundly (first : Database) (history : List (Commit Row Request Reply))
    (last : Database) : Prop where
  grows : ∀ (earlier later : Nat) (before after : Database) (old : RetentionState),
    earlier ≤ later → (states first history)[earlier]? = some before →
      (states first history)[later]? = some after → stateOf before = some old →
        ∃ new, stateOf after = some new ∧ old.retainedGraveyardFloor ≤ new.retainedGraveyardFloor
  floor : ∃ state, stateOf last = some state ∧
    state.retainedGraveyardFloor ≤ state.nextDeletionSequence ∧
      (∀ id marker, last.lookup (Key.marker id) = some marker →
        state.retainedGraveyardFloor ≤ marker.deletionSequence) ∧
      (∀ id marker, Purged history id marker →
        marker.deletionSequence < state.retainedGraveyardFloor) ∧
      ∀ replicaId row, last.lookup (Key.replica replicaId) = some row →
        state.resetRequired row.lastClientObservedAckAt row.acknowledgedSequence = false →
          ∃ sequence, row.acknowledgedSequence = some sequence ∧
            ∀ id marker, Purged history id marker → marker.deletionSequence < sequence

/-- What a commit does to the retention state and the markers. -/
inductive Marks (before after : Database) : Prop where
  | kept (old new : RetentionState) (found : stateOf before = some old)
      (written : stateOf after = some new)
      (same : new.retainedGraveyardFloor = old.retainedGraveyardFloor)
      (markers : ∀ id, after.lookup (Key.marker id) = before.lookup (Key.marker id))
  | added (id : Uuid) (marker : Marker) (old : RetentionState) (found : stateOf before = some old)
      (written : stateOf after = some old.allocated)
      (unmarked : before.lookup (Key.marker id) = none)
      (marked : after.lookup (Key.marker id) = some marker)
      (allocated : marker.deletionSequence = old.nextDeletionSequence)
      (others : ∀ other, other ≠ id →
        after.lookup (Key.marker other) = before.lookup (Key.marker other))
  | purged (looked : RetentionState) (expired : List (Uuid × Marker)) (next : Nat)
      (retains : Retains before after looked expired next)

section Commits

variable {platform : Platform} {before after : Database}

/-- A commit that spares the retention state and the markers. -/
theorem marks_spared (keys : List Key) (holds : Sequenced before) (spared : Spares keys before after)
    (state : Key.retentionState ∉ keys) (markers : ∀ id, Key.marker id ∉ keys) :
    Marks before after := by
  obtain ⟨old, found, _⟩ := holds.counted
  exact .kept old old found ((spared _ state).trans found) rfl fun id => spared _ (markers id)

/-- A commit that changes nothing. -/
theorem marks_same (holds : Sequenced before) : Marks before before :=
  marks_spared [] holds (fun _ _ => rfl) (by simp) (by simp)

/-- Every commit marks the graveyard. -/
theorem commit_marks (request : Request) (reply : Reply) (holds : Sequenced before)
    (committed : Committed platform request reply before after) : Marks before after := by
  cases committed with
  | quiet => exact marks_same holds
  | counted _ _ _ _ _ _ _ spares => exact marks_spared _ holds spares (by simp) (by simp)
  | registered _ _ _ _ _ _ _ _ spares => exact marks_spared _ holds spares (by simp) (by simp)
  | challenged _ _ _ _ _ _ _ _ _ _ spares =>
    obtain ⟨old, found, _⟩ := holds.counted
    exact .kept old old found ((spares _ (by simp)).trans found) rfl fun id => spares _ (by simp)
  | acknowledged _ _ _ _ _ _ _ _ _ _ _ spares =>
    exact marks_spared _ holds spares (by simp) (by simp)
  | rotated _ _ _ _ _ _ _ _ _ _ _ _ spares => exact marks_spared _ holds spares (by simp) (by simp)
  | repeated => exact marks_same holds
  | settled _ _ _ _ _ _ _ _ _ _ spares => exact marks_spared _ holds spares (by simp) (by simp)
  | settledBefore => exact marks_same holds
  | classified => exact marks_same holds
  | disabled _ _ _ _ _ _ _ spares => exact marks_spared _ holds spares (by simp) (by simp)
  | replayed => exact marks_same holds
  | deniedAgain => exact marks_same holds
  | denied _ _ _ _ _ _ records => exact marks_spared _ holds records.spared (by simp) (by simp)
  | refused _ _ _ _ _ _ _ _ _ _ records =>
    exact marks_spared _ holds records.spared (by simp) (by simp)
  | applied call _ _ _ _ _ applies =>
    rcases applies.buries with ⟨_, spares⟩ | ⟨_, state, _, _, buried, spares⟩
    · exact marks_spared _ holds spares (by simp) (by simp)
    · exact .added call.command.resourceId _ state buried.counted buried.allocated buried.unmarked
        buried.marked rfl fun other differ => spares _ (by simp [differ])
  | created _ _ _ _ _ _ _ _ _ spares => exact marks_spared _ holds spares (by simp) (by simp)
  | refreshed _ _ _ _ spares => exact marks_spared _ holds spares (by simp) (by simp)
  | buried id _ state _ _ _ _ buried spares =>
    exact .added id _ state buried.counted buried.allocated buried.unmarked buried.marked rfl
      fun other differ => spares _ (by simp [differ])
  | reburied _ _ _ _ _ _ _ _ _ spares => exact marks_spared _ holds spares (by simp) (by simp)
  | timed next state _ _ found _ written spares =>
    exact .kept state (state.advanced next) found written rfl fun id => spares _ (by simp)
  | prolonged next state enough _ _ found written spares =>
    exact .kept state (state.retaining next enough) found written rfl fun id => spares _ (by simp)
  | retained _ _ _ looked expired next _ _ retains => exact .purged looked expired next retains

/-- A marker that remains after a sweep was there before. -/
theorem retains_earlier (looked : RetentionState) (expired : List (Uuid × Marker)) (next : Nat)
    (retains : Retains before after looked expired next) (id : Uuid) (marker : Marker)
    (remains : after.lookup (Key.marker id) = some marker) :
    before.lookup (Key.marker id) = some marker := by
  have outside : ∀ entry ∈ expired, entry.1 ≠ id := by
    rintro ⟨other, gone⟩ member rfl
    rw [retains.dropped other gone member] at remains
    cases remains
  rw [← retains.kept id outside]
  exact remains

/-- The floor never decreases. -/
theorem marks_floor (marks : Marks before after) (old : RetentionState)
    (found : stateOf before = some old) :
    ∃ new, stateOf after = some new ∧ old.retainedGraveyardFloor ≤ new.retainedGraveyardFloor := by
  cases marks with
  | kept state new there written same =>
    obtain rfl : old = state := Option.some.inj (found.symm.trans there)
    exact ⟨new, written, same.ge⟩
  | added id marker state there written =>
    obtain rfl : old = state := Option.some.inj (found.symm.trans there)
    exact ⟨old.allocated, written, le_rfl⟩
  | purged looked expired next retains =>
    obtain ⟨state, there, _, written⟩ := retains.state
    obtain rfl : old = state := Option.some.inj (found.symm.trans there)
    refine ⟨_, written, ?_⟩
    split
    · exact le_rfl
    · exact Nat.le_max_left _ _

/-- Markers that are committed in order are dated in order. -/
theorem marks_dated (holds : Sequenced before) (dated : Dated before)
    (ordered : DeletedInOrder before after) (marks : Marks before after) : Dated after := by
  cases marks with
  | kept _ _ _ _ _ markers =>
    intro id other marker found here there below
    rw [markers] at here there
    exact dated id other marker found here there below
  | added fresh latest old present _ unmarked marked allocated others =>
    obtain ⟨state, counted, _, bounds⟩ := holds.counted
    obtain rfl : old = state := Option.some.inj (present.symm.trans counted)
    intro id other marker found here there below
    by_cases later : other = fresh
    · subst later
      obtain rfl : latest = found := Option.some.inj (marked.symm.trans there)
      by_cases same : id = other
      · subst same
        obtain rfl : latest = marker := Option.some.inj (marked.symm.trans here)
        omega
      · rw [others id same] at here
        exact ordered other latest marked unmarked id marker here
    · rw [others other later] at there
      by_cases same : id = fresh
      · subst same
        obtain rfl : latest = marker := Option.some.inj (marked.symm.trans here)
        have inside := (bounds other found there).2
        omega
      · rw [others id same] at here
        exact dated id other marker found here there below
  | purged looked expired next retains =>
    intro id other marker found here there below
    exact dated id other marker found (retains_earlier looked expired next retains id marker here)
      (retains_earlier looked expired next retains other found there) below

/-- A marker that a commit removes is below the floor that the commit leaves. -/
theorem marks_purged (holds : Sequenced before) (dated : Dated before)
    (marks : Marks before after) (id : Uuid) (marker : Marker)
    (found : before.lookup (Key.marker id) = some marker)
    (gone : after.lookup (Key.marker id) = none) :
    ∃ state, stateOf after = some state ∧ marker.deletionSequence < state.retainedGraveyardFloor := by
  cases marks with
  | kept _ _ _ _ _ markers =>
    rw [markers, found] at gone
    cases gone
  | added fresh latest _ _ _ unmarked marked _ others =>
    by_cases same : id = fresh
    · rw [same, marked] at gone
      cases gone
    · rw [others id same, found] at gone
      cases gone
  | purged looked expired next retains =>
    have member : ∃ entry ∈ expired, entry.1 = id := by
      by_contra outside
      rw [retains.kept id fun entry member same => outside ⟨entry, member, same⟩, found] at gone
      cases gone
    obtain ⟨⟨_, swept⟩, member, rfl⟩ := member
    obtain ⟨due, there⟩ := retains.due _ member
    obtain rfl : marker = swept := Option.some.inj (found.symm.trans there)
    have some_ : expired ≠ [] := List.ne_nil_of_mem member
    obtain ⟨old, _, _, written⟩ := retains.state
    rw [if_neg some_] at written
    refine ⟨_, written, ?_⟩
    have below : marker.deletionSequence < next := by
      rcases retains.reached some_ with ⟨other, least, remains, attained⟩ | beyond
      · rcases retains.later other least remains with fresh | beyond
        · -- The least retained marker is not due, so its date is later than the purged one's.
          have earlier := retains_earlier looked expired next retains other least remains
          have differ : marker.deletionSequence ≠ least.deletionSequence := by
            intro equal
            rw [← holds.distinct _ _ _ _ there earlier equal, gone] at remains
            cases remains
          have later : ¬ least.deletionSequence < marker.deletionSequence := by
            intro reversed
            have dates := dated _ _ _ _ earlier there reversed
            simp only [Marker.expired, decide_eq_true_eq, decide_eq_false_iff_not] at due fresh
            exact fresh (Nat.lt_of_le_of_lt (Nat.add_le_add_right dates _) due)
          omega
        · exact attained ▸ beyond _ member
      · exact beyond _ member
    exact below.trans_le (Nat.le_max_right _ _)

end Commits

section Runs

variable {platform : Platform}

/-- The commits of a history that deletes in order. -/
abbrev Ordered (platform : Platform) (request : Request) (reply : Reply) (before after : Database) :
    Prop :=
  DeletedInOrder before after ∧ Sequenced before ∧ Committed platform request reply before after

/-- Over a history the floor never decreases. -/
theorem linked_floor (first last : Database) (history : List (Commit Row Request Reply))
    (linked : Linked (Ordered platform) first history last) (old : RetentionState)
    (found : stateOf first = some old) :
    ∃ new, stateOf last = some new ∧ old.retainedGraveyardFloor ≤ new.retainedGraveyardFloor := by
  induction linked with
  | nil => exact ⟨old, found, le_rfl⟩
  | snoc history commit _ related inductionHypothesis =>
    obtain ⟨middle, there, grown⟩ := inductionHypothesis
    obtain ⟨new, written, more⟩ :=
      marks_floor (commit_marks _ _ related.2.1 related.2.2) middle there
    exact ⟨new, written, grown.trans more⟩

/-- Over a history that deletes in order, dates stay in order and everything purged is
below the floor. -/
theorem linked_purged (first last : Database) (history : List (Commit Row Request Reply))
    (linked : Linked (Ordered platform) first history last) (dated : Dated first)
    (holds : Sequenced first) :
    Dated last ∧ ∃ state, stateOf last = some state ∧ ∀ id marker, Purged history id marker →
      marker.deletionSequence < state.retainedGraveyardFloor := by
  induction linked with
  | nil =>
    obtain ⟨state, found, _⟩ := holds.counted
    refine ⟨dated, state, found, ?_⟩
    rintro id marker ⟨commit, member, _⟩
    cases member
  | snoc history commit _ related inductionHypothesis =>
    obtain ⟨ordered, inside, committed⟩ := related
    obtain ⟨before, state, found, below⟩ := inductionHypothesis
    have marks := commit_marks _ _ inside committed
    obtain ⟨new, written, grown⟩ := marks_floor marks state found
    refine ⟨marks_dated inside before ordered marks, new, written, ?_⟩
    rintro id marker ⟨purging, member, there, gone⟩
    rcases List.mem_append.mp member with member | member
    · exact (below id marker ⟨purging, member, there, gone⟩).trans_le grown
    · obtain rfl := List.mem_singleton.mp member
      obtain ⟨final, reached, beyond⟩ := marks_purged inside before marks id marker there gone
      obtain rfl : new = final := Option.some.inj (written.symm.trans reached)
      exact beyond

/-- In every run that deletes in order, retention is sound. -/
theorem retention_sound (platform : Platform) (db : Database) (holds : Sequenced db)
    (dated : Dated db) (last : System Name Row Res Failure Request Reply)
    (run : Run (commandServer platform) DeletesInOrder (System.initial db) last) :
    RetainsSoundly db last.history last.db := by
  have admitted := history_admitted platform _ db holds last run
  have committed := history_committed platform _ db holds last run
  have ordered : ∀ commit ∈ last.history, DeletedInOrder commit.before commit.after := by
    intro commit member
    obtain ⟨earlier, rest, split⟩ := List.append_of_mem member
    exact commits_permitted (commandServer platform) DeletesInOrder
      (fun _ _ _ before after => DeletedInOrder before after) _ last
      (fun _ _ process reply permitted found ended => permitted process reply found ended) rfl run
      earlier rest commit split
  have linked : Linked (Ordered platform) db last.history last.db :=
    (admitted.restrict (fun _ _ before after => DeletedInOrder before after) ordered).mono
      fun _ _ _ _ related => ⟨related.1, related.2.2.1, related.2.2.2.2⟩
  have final : Sequenced last.db :=
    committed.preserves (fun request reply before after commits inside =>
      commit_keeps_sequences platform request reply before after inside commits) holds
  constructor
  · intro earlier later before after old order here there found
    exact linked_floor before after _ (linked.between earlier later before after order here there).1
      old found
  · obtain ⟨state, found, below, bounds⟩ := final.counted
    obtain ⟨_, other, present, purged⟩ := linked_purged db last.db last.history linked dated holds
    obtain rfl : state = other := Option.some.inj (found.symm.trans present)
    refine ⟨state, found, below, fun id marker retained => (bounds id marker retained).1, purged, ?_⟩
    intro replicaId row _ continues
    simp only [RetentionState.resetRequired] at continues
    split at continues
    · next observed sequence _ acknowledged =>
      simp only [Bool.or_eq_false_iff, decide_eq_false_iff_not, Nat.not_lt] at continues
      exact ⟨sequence, acknowledged,
        fun id marker gone => (purged id marker gone).trans_le continues.2⟩
    · cases continues

end Runs

namespace Sample

/-- Two resources that will be deleted. -/
def first : Uuid := ascii "11111111-1111-4111-8111-111111111111"

def second : Uuid := ascii "22222222-2222-4222-8222-222222222222"

/-- The challenge of the registered replica. -/
def challengeId : Uuid := ascii "33333333-3333-4333-8333-333333333333"

/-- A resource at its first version. -/
def resource (incarnationId : Uuid) : Resource := ⟨incarnationId, some [], 1, none, Nat.one_pos⟩

/-- A database with both resources and the replica. -/
def workspace : Database :=
  ((database.insert (Key.resource first) (resource first)).insert (Key.resource second)
    (resource second)).insert (Key.replica replicaId) (registeredReplica userId credential 0)

/-- It has no marker. -/
theorem workspace_unmarked (id : Uuid) : workspace.lookup (Key.marker id) = none := by
  rw [workspace, AList.lookup_insert_ne (by simp), AList.lookup_insert_ne (by simp),
    AList.lookup_insert_ne (by simp), database, AList.lookup_insert_ne (by simp)]
  rfl

/-- It satisfies the invariant of committed databases. -/
theorem workspace_sequenced : Sequenced workspace where
  counted := by
    refine ⟨retention, by decide, by decide, ?_⟩
    intro id marker found
    rw [workspace_unmarked] at found
    cases found
  distinct id other marker _ here := by
    rw [workspace_unmarked] at here
    cases here
  grounded := by
    have none : grantsOf workspace = [] := by decide
    simp [none]

/-- Its markers are dated in order: there are none. -/
theorem workspace_dated : Dated workspace := by
  intro id other marker found here
  rw [workspace_unmarked] at here
  cases here

/-- The time at which only what was deleted at the start is due. -/
def due : Timestamp := days 90 + 500000

/-- The first soft delete evaluates its date and is overtaken by the second one, which is
dated a second later. A replica acknowledges in between. Then the first one commits, and
the retention job runs when only that one is due. -/
def overtaken : List (Event Request) :=
  List.flatten [[.arrive (.softDelete first), .advance 0], executed 1 2 (.setTime 1000000),
    executed 2 3 (.softDelete second), executed 3 4 (.challenge userId binding credential challengeId),
    executed 4 4 (.acknowledge userId binding credential challengeId), List.replicate 2 (.advance 0),
    executed 5 2 (.setTime due), executed 6 9 .runRetention]

/-- The same requests, one after another. -/
def deletions : List (Event Request) :=
  List.flatten [executed 0 3 (.softDelete first), executed 1 2 (.setTime 1000000),
    executed 2 3 (.softDelete second), executed 3 2 (.setTime due), executed 4 9 .runRetention]

/-- The sequence of the marker of the first resource around each commit. -/
def marked (commit : Commit Row Request Reply) : Option Nat × Option Nat :=
  ((commit.before.lookup (Key.marker first)).map Marker.deletionSequence,
    (commit.after.lookup (Key.marker first)).map Marker.deletionSequence)

/-- The floor, what the replica acknowledged, and whether it has to reset. -/
def floorAndReplica (db : Database) : Option (Nat × Option Nat × Bool) :=
  match stateOf db, db.lookup (Key.replica replicaId) with
  | some state, some row => some (state.retainedGraveyardFloor, row.acknowledgedSequence,
      state.resetRequired row.lastClientObservedAckAt row.acknowledgedSequence)
  | _, _ => none

/-- Whether the next step of a system keeps the markers in order. -/
def inOrder (system : System Name Row Res Failure Request Reply) : Event Request → Bool
  | .advance index =>
    match system.processes[index]? with
    | some process =>
      match process.rest with
      | some (.done _) => (markers (process.progress.view system.db)).all fun entry =>
          (system.db.lookup (Key.marker entry.1)).isSome ||
            (markers system.db).all fun other => decide (other.2.deletedAt ≤ entry.2.deletedAt)
      | _ => true
    | none => true
  | _ => true

/-- Then it is permitted. -/
theorem inOrder_permits (system : System Name Row Res Failure Request Reply)
    (event : Event Request) (checked : inOrder system event = true) : DeletesInOrder system event := by
  cases event with
  | advance index =>
    intro process reply found ended id marker there fresh other earlier here
    simp only [inOrder, found, ended, List.all_eq_true] at checked
    have passed := checked _ ((mem_markers _ id marker).mpr there)
    simp only [fresh, Option.isSome_none, Bool.false_or, List.all_eq_true,
      decide_eq_true_eq] at passed
    exact passed _ ((mem_markers _ other earlier).mpr here)
  | arrive => trivial
  | crash => trivial

end Sample

/-- The sequence `2` is purged while the floor stays at `1`, and the replica that has
acknowledged only what is below `2` may continue without it. -/
theorem retention_misses_overtaken :
    ∃ last, (System.initial Sample.workspace).steps (commandServer Sample.platform)
        Sample.overtaken = some last ∧
      last.history.getLast?.map Sample.marked = some (some 2, none) ∧
        Sample.floorAndReplica last.db = some (1, some 2, false) ∧
          Run (commandServer Sample.platform) (fun _ _ => True) (System.initial Sample.workspace)
            last ∧ ¬ RetainsSoundly Sample.workspace last.history last.db := by
  have made : ((System.initial Sample.workspace).steps (commandServer Sample.platform)
      Sample.overtaken).map (fun last =>
        (last.history.getLast?.map Sample.marked, Sample.floorAndReplica last.db)) =
          some (some (some 2, none), some (1, some 2, false)) := by
    decide +kernel
  obtain ⟨last, ran, observed⟩ := Option.map_eq_some_iff.mp made
  simp only [Prod.mk.injEq] at observed
  obtain ⟨purging, kept⟩ := observed
  refine ⟨last, ran, purging, kept, run_of_steps _ _ _ _ _ (fun _ _ _ => trivial) ran, ?_⟩
  intro sound
  obtain ⟨commit, latest, seen⟩ := Option.map_eq_some_iff.mp purging
  simp only [Sample.marked, Prod.mk.injEq, Option.map_eq_some_iff, Option.map_eq_none_iff] at seen
  obtain ⟨⟨marker, found, sequence⟩, gone⟩ := seen
  obtain ⟨state, counted, _, _, purged, _⟩ := sound.floor
  have below := purged Sample.first marker ⟨commit, List.mem_of_getLast? latest, found, gone⟩
  simp only [Sample.floorAndReplica, counted] at kept
  split at kept
  · next same _ =>
    cases same
    simp only [Option.some.injEq, Prod.mk.injEq] at kept
    omega
  · cases kept

/-- When the two soft deletes come one after the other, retention is sound: the floor
rises to the sequence of the second one. -/
theorem retention_sound_deletions :
    ∃ last, (System.initial Sample.workspace).checkedSteps (commandServer Sample.platform)
        Sample.inOrder Sample.deletions = some last ∧
      last.history.getLast?.map Sample.marked = some (some 1, none) ∧
        (stateOf last.db).map RetentionState.retainedGraveyardFloor = some 2 ∧
          RetainsSoundly Sample.workspace last.history last.db := by
  have made : ((System.initial Sample.workspace).checkedSteps (commandServer Sample.platform)
      Sample.inOrder Sample.deletions).map (fun last =>
        (last.history.getLast?.map Sample.marked,
          (stateOf last.db).map RetentionState.retainedGraveyardFloor)) =
            some (some (some 1, none), some 2) := by
    decide +kernel
  obtain ⟨last, ran, observed⟩ := Option.map_eq_some_iff.mp made
  simp only [Prod.mk.injEq] at observed
  exact ⟨last, ran, observed.1, observed.2, retention_sound Sample.platform Sample.workspace
    Sample.workspace_sequenced Sample.workspace_dated last
    (run_of_checked _ _ _ Sample.inOrder_permits _ _ _ ran)⟩

end TraxOs.PowerSync
