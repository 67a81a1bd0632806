import TraxOs.PowerSync.Commits
import TraxOs.PowerSync.StatementFacts

/-!
# Every transaction commits what its class allows

The obligation of each program, read off its statements under arbitrary
interference. A replica request locks its replica row first, a command also locks
the grants and its resource, so what they read of these is still committed when
they commit.

A retention run holds the lock of the grants from its first statement on. Every
other retention run rebuilds the grants and needs that lock, so that while one runs
markers are only added, each with a sequence beyond all allocated ones.
-/

namespace TraxOs.PowerSync

open TraxOs.Theory

/-- The invariant of committed databases: sequences are allocated in order, the
floor is below every retained marker, and grants are for existing resources. -/
structure Sequenced (db : Database) : Prop where
  counted : ∃ state, stateOf db = some state ∧
    state.retainedGraveyardFloor ≤ state.nextDeletionSequence ∧
      ∀ id marker, db.lookup (Key.marker id) = some marker →
        state.retainedGraveyardFloor ≤ marker.deletionSequence ∧
          marker.deletionSequence < state.nextDeletionSequence
  distinct : ∀ id other marker found, db.lookup (Key.marker id) = some marker →
    db.lookup (Key.marker other) = some found →
      marker.deletionSequence = found.deletionSequence → id = other
  grounded : ∀ grant ∈ grantsOf db, (db.lookup (Key.resource grant.resourceId)).isSome = true

section Preservation

variable {before after : Database}

/-- A commit that leaves the retention state, the markers and the grants alone, and
removes no resource, keeps the invariant. -/
theorem sequenced_spared (holds : Sequenced before) (state : stateOf after = stateOf before)
    (markers : ∀ id, after.lookup (Key.marker id) = before.lookup (Key.marker id))
    (grants : after.lookup Key.syncGrants = before.lookup Key.syncGrants)
    (resources : ∀ id, (before.lookup (Key.resource id)).isSome = true →
      (after.lookup (Key.resource id)).isSome = true) : Sequenced after where
  counted := by
    simp only [state, markers]
    exact holds.counted
  distinct := by
    simp only [markers]
    exact holds.distinct
  grounded := by
    simp only [grantsOf, grants]
    exact fun grant member => resources _ (holds.grounded grant member)

/-- A commit that spares all but some keys of other tables keeps the invariant. -/
theorem sequenced_elsewhere (keys : List Key) (holds : Sequenced before)
    (spared : Spares keys before after)
    (elsewhere : ∀ key ∈ keys, key ≠ .retentionState ∧ key ≠ .syncGrants ∧
      (∀ id, key ≠ .marker id) ∧ ∀ id, key ≠ .resource id) : Sequenced after := by
  have same : ∀ key, (key = .retentionState ∨ key = .syncGrants ∨ (∃ id, key = .marker id) ∨
      ∃ id, key = .resource id) → after.lookup key = before.lookup key := by
    intro key kind
    apply spared
    intro member
    obtain ⟨state, grants, markers, resources⟩ := elsewhere key member
    rcases kind with rfl | rfl | ⟨id, rfl⟩ | ⟨id, rfl⟩
    · exact state rfl
    · exact grants rfl
    · exact markers id rfl
    · exact resources id rfl
  apply sequenced_spared holds
  · exact same _ (Or.inl rfl)
  · exact fun id => same _ (Or.inr (Or.inr (Or.inl ⟨id, rfl⟩)))
  · exact same _ (Or.inr (Or.inl rfl))
  · intro id
    rw [same _ (Or.inr (Or.inr (Or.inr ⟨id, rfl⟩)))]
    exact fun present => present

/-- A change of the clock or of the retention keeps the invariant. -/
theorem sequenced_restated (holds : Sequenced before) (state next : RetentionState)
    (found : stateOf before = some state) (written : stateOf after = some next)
    (sameFloor : next.retainedGraveyardFloor = state.retainedGraveyardFloor)
    (sameNext : next.nextDeletionSequence = state.nextDeletionSequence)
    (spared : Spares [.retentionState] before after) : Sequenced after := by
  obtain ⟨old, present, bounds⟩ := holds.counted
  obtain rfl : old = state := Option.some.inj (present.symm.trans found)
  have markers : ∀ other, after.lookup (Key.marker other) = before.lookup (Key.marker other) :=
    fun other => spared _ (by simp)
  constructor
  · refine ⟨next, written, ?_⟩
    simp only [markers, sameFloor, sameNext]
    exact bounds
  · simp only [markers]
    exact holds.distinct
  · intro grant member
    simp only [grantsOf, spared Key.syncGrants (by simp)] at member
    rw [spared _ (by simp)]
    exact holds.grounded grant member

/-- A soft delete allocates the next sequence for a new marker. -/
theorem sequenced_buried (holds : Sequenced before) (id : Uuid) (row : Resource)
    (state : RetentionState) (version : Nat) (deletedAt : Timestamp) (final : 1 < version)
    (buried : Buried id row state version deletedAt final before after)
    (others : ∀ other, other ≠ id →
      after.lookup (Key.marker other) = before.lookup (Key.marker other))
    (grants : after.lookup Key.syncGrants = before.lookup Key.syncGrants)
    (resources : ∀ other, other ≠ id →
      after.lookup (Key.resource other) = before.lookup (Key.resource other)) :
    Sequenced after := by
  obtain ⟨old, present, below, bounds⟩ := holds.counted
  obtain rfl : old = state := Option.some.inj (present.symm.trans buried.counted)
  have origin : ∀ other marker, after.lookup (Key.marker other) = some marker →
      (other = id ∧ marker.deletionSequence = old.nextDeletionSequence) ∨
        (other ≠ id ∧ before.lookup (Key.marker other) = some marker) := by
    intro other marker found
    by_cases same : other = id
    · subst same
      rw [buried.marked, Option.some.injEq] at found
      exact Or.inl ⟨rfl, by rw [← found]; rfl⟩
    · exact Or.inr ⟨same, (others other same).symm.trans found⟩
  constructor
  · refine ⟨old.allocated, buried.allocated, ?_, ?_⟩
    · simp only [RetentionState.allocated]
      omega
    · intro other marker found
      simp only [RetentionState.allocated]
      rcases origin other marker found with ⟨_, allocated⟩ | ⟨_, earlier⟩
      · omega
      · have bounded := bounds other marker earlier
        omega
  · intro one two marker found here there same
    rcases origin one marker here with ⟨rfl, allocated⟩ | ⟨_, earlier⟩
    · rcases origin two found there with ⟨rfl, _⟩ | ⟨_, earlier⟩
      · rfl
      · have bounded := bounds two found earlier
        omega
    · rcases origin two found there with ⟨rfl, allocated⟩ | ⟨_, also⟩
      · have bounded := bounds one marker earlier
        omega
      · exact holds.distinct one two marker found earlier also same
  · intro grant member
    simp only [grantsOf, grants] at member
    have present := holds.grounded grant member
    by_cases same : grant.resourceId = id
    · rw [same, buried.deleted]
      rfl
    · rw [resources _ same]
      exact present

/-- A retention run removes markers and raises the floor to what remains. -/
theorem sequenced_retained (holds : Sequenced before) (looked : RetentionState)
    (expired : List (Uuid × Marker)) (next : Nat) (retains : Retains before after looked expired next) :
    Sequenced after := by
  obtain ⟨old, present, below, bounds⟩ := holds.counted
  obtain ⟨found, counted, bounded, written⟩ := retains.state
  obtain rfl : old = found := Option.some.inj (present.symm.trans counted)
  have earlier : ∀ id marker, after.lookup (Key.marker id) = some marker →
      before.lookup (Key.marker id) = some marker := by
    intro id marker remains
    by_cases dropped : ∃ entry ∈ expired, entry.1 = id
    · obtain ⟨⟨other, gone⟩, member, rfl⟩ := dropped
      rw [retains.dropped other gone member] at remains
      cases remains
    · rw [← retains.kept id fun entry member same => dropped ⟨entry, member, same⟩]
      exact remains
  constructor
  · refine ⟨_, written, ?_⟩
    by_cases none : expired = []
    · simp only [none, if_true]
      exact ⟨below, fun id marker remains => bounds id marker (earlier id marker remains)⟩
    · simp only [none, if_false, RetentionState.withFloor]
      refine ⟨by omega, ?_⟩
      intro id marker remains
      have inside := bounds id marker (earlier id marker remains)
      have above := retains.floor none id marker remains
      omega
  · intro one two marker found here there same
    exact holds.distinct one two marker found (earlier one marker here) (earlier two found there) same
  · exact retains.grants

end Preservation

/-- Every classified commit keeps the invariant. -/
theorem commit_keeps_sequences (platform : Platform) (request : Request) (reply : Reply)
    (before after : Database) (holds : Sequenced before)
    (committed : Committed platform request reply before after) : Sequenced after := by
  cases committed with
  | quiet => exact holds
  | counted _ _ _ _ _ _ _ spared => exact sequenced_elsewhere _ holds spared (by simp)
  | registered _ _ _ _ _ _ _ _ spared => exact sequenced_elsewhere _ holds spared (by simp)
  | challenged _ _ _ _ _ _ _ _ _ _ spared =>
    apply sequenced_spared holds (spared _ (by simp)) (fun id => spared _ (by simp))
      (spared _ (by simp))
    intro id
    rw [spared _ (by simp)]
    exact fun present => present
  | acknowledged _ _ _ _ _ _ _ _ _ _ _ spared =>
    exact sequenced_elsewhere _ holds spared (by simp)
  | rotated _ _ _ _ _ _ _ _ _ _ _ _ spared => exact sequenced_elsewhere _ holds spared (by simp)
  | repeated => exact holds
  | settled _ _ _ _ _ _ _ _ _ _ spared => exact sequenced_elsewhere _ holds spared (by simp)
  | settledBefore => exact holds
  | classified => exact holds
  | disabled _ _ _ _ _ _ _ spared => exact sequenced_elsewhere _ holds spared (by simp)
  | replayed => exact holds
  | deniedAgain => exact holds
  | denied _ _ _ _ _ _ records => exact sequenced_elsewhere _ holds records.spared (by simp)
  | refused _ _ _ _ _ _ _ _ _ _ records =>
    exact sequenced_elsewhere _ holds records.spared (by simp)
  | applied call row reply before after presents applies =>
    rcases applies.buries with ⟨_, spared⟩ | ⟨resource, state, deletedAt, final, buried, spared⟩
    · apply sequenced_spared holds (spared _ (by simp)) (fun id => spared _ (by simp))
        (spared _ (by simp))
      intro id present
      obtain ⟨_, stored, _, _, _, _, written, _⟩ := applies.changes
      by_cases same : id = call.command.resourceId
      · rw [same, written]
        rfl
      · rw [spared _ (by simp [same])]
        exact present
    · exact sequenced_buried holds _ resource state _ deletedAt final buried
        (fun other differ => spared _ (by simp [differ])) (spared _ (by simp))
        (fun other differ => spared _ (by simp [differ]))
  | created id _ _ _ _ _ free written rebuilt spared =>
    constructor
    · simp only [stateOf, spared Key.retentionState (by simp)]
      have markers : ∀ other, after.lookup (Key.marker other) = before.lookup (Key.marker other) :=
        fun other => spared _ (by simp)
      simp only [markers]
      exact holds.counted
    · have markers : ∀ other, after.lookup (Key.marker other) = before.lookup (Key.marker other) :=
        fun other => spared _ (by simp)
      simp only [markers]
      exact holds.distinct
    · exact rebuilt
  | refreshed _ _ _ rebuilt spared =>
    have markers : ∀ other, after.lookup (Key.marker other) = before.lookup (Key.marker other) :=
      fun other => spared _ (by simp)
    constructor
    · simp only [stateOf, spared Key.retentionState (by simp), markers]
      exact holds.counted
    · simp only [markers]
      exact holds.distinct
    · exact rebuilt
  | buried id row state deletedAt final _ _ buried spared =>
    exact sequenced_buried holds id row state _ deletedAt final buried
      (fun other differ => spared _ (by simp [differ])) (spared _ (by simp))
      (fun other differ => spared _ (by simp [differ]))
  | reburied id row _ _ _ _ _ _ written spared =>
    apply sequenced_spared holds (spared _ (by simp)) (fun id => spared _ (by simp))
      (spared _ (by simp))
    intro other present
    by_cases same : other = id
    · rw [same, written]
      rfl
    · rw [spared _ (by simp [same])]
      exact present
  | timed next state _ _ found _ written spared =>
    exact sequenced_restated holds state (state.advanced next) found written rfl rfl spared
  | prolonged next state enough _ _ found written spared =>
    exact sequenced_restated holds state (state.retaining next enough) found written rfl rfl spared
  | retained _ _ _ looked expired next _ _ retains =>
    exact sequenced_retained holds looked expired next retains

/-- The contract of every run. -/
def commitContract (platform : Platform) : Contract Row Request Reply where
  Allowed _ := True
  Inv := Sequenced
  Commits := Committed platform

section Safety

variable (platform : Platform) (request : Request)

/-- Where a program leads under the commit contract. -/
abbrev Proceeds {α : Type} (action : Action α) (progress : Progress Name Row Res) (store : Database)
    (post : α → Progress Name Row Res → Database → Prop) : Prop :=
  Leads (commandServer platform) (commitContract platform) request action progress store post

/-- The obligation of a reply under the commit contract. -/
abbrev Promised (reply : Reply) (progress : Progress Name Row Res) (store : Database) : Prop :=
  Promises (commandServer platform) (commitContract platform) request reply progress store

variable {platform request}

/-- A replica row that accepts the credential is known and locked. -/
def Holding (platform : Platform) (userId : Uuid) (binding : ReplicaBinding) (credential : Text)
    (row : Replica) (progress : Progress Name Row Res) (store : Database) : Prop :=
  Pinned progress store (Key.replica binding.replicaId) (some row) ∧
    row.accepts platform userId binding credential

/-- A held replica stays held. -/
theorem Holding.keep {userId : Uuid} {binding : ReplicaBinding} {credential : Text} {row : Replica}
    {progress grown : Progress Name Row Res} {store later : Database}
    (holding : Holding platform userId binding credential row progress store)
    (keeps : Keeps progress store grown later) :
    Holding platform userId binding credential row grown later :=
  ⟨keeps _ _ holding.1, holding.2⟩

/-- A held replica accepts the credential in every database that comes. -/
theorem Holding.presents {userId : Uuid} {binding : ReplicaBinding} {credential : Text}
    {row : Replica} {progress : Progress Name Row Res} {store later : Database}
    (holding : Holding platform userId binding credential row progress store)
    (reached : Reaches (commandServer platform) (commitContract platform) request progress store
      later) : Presents platform later userId binding credential row :=
  ⟨(keeps_reaches _ _ request progress store later reached _ _ holding.1).1, holding.2⟩

/-- A buffer spares every key that it does not mention. -/
theorem spares_written (keys : List Key) (progress : Progress Name Row Res) (store : Database)
    (within : ∀ write ∈ progress.writes, write.key ∈ keys) :
    Spares keys store (progress.view store) := by
  intro key other
  apply lookup_applyAll_untouched
  intro write member same
  exact other (same ▸ within write member)

/-- A transaction that wrote nothing and acknowledges nothing may always commit. -/
theorem promise_quiet (reply : Reply) (negative : reply.negative = true)
    (progress : Progress Name Row Res) (store : Database) (clean : progress.writes = []) :
    Promised platform request reply progress store := by
  intro later _ _
  rw [Progress.view, clean, applyAll_nil]
  exact .quiet request reply later negative

/-- One executed statement: what its transaction has accumulated since, and what it
knows about the store that was committed at that moment. -/
structure Step (progress : Progress Name Row Res) (store : Database)
    (grown : Progress Name Row Res) (later : Database) (writes : List (Write Row))
    (locks : Locks Key Name) : Prop where
  holds : Sequenced later
  buffer : grown.writes = progress.writes ++ writes
  keeps : Keeps progress store grown later
  written : ∀ write ∈ writes, Pinned grown later write.key (later.lookup write.key)
  locked : ∀ key mode, (Resource.row key, mode) ∈ locks → mode ≠ .keyShare →
    Pinned grown later key (later.lookup key)

/-- One statement: whatever precedes it, it runs on the store that the buffer shows. -/
theorem proceeds_step {α : Type} (op : Op) (next : Res op → Action α)
    (progress : Progress Name Row Res) (store : Database)
    (post : α → Progress Name Row Res → Database → Prop)
    (rest : ∀ grown later answer writes locks, Step progress store grown later writes locks →
      Reaches (commandServer platform) (commitContract platform) request progress store later →
        execute op (progress.view later) = .ran answer writes locks →
          Proceeds platform request (next answer) grown later post) :
    Proceeds platform request (.perform op next) progress store post := by
  intro later holds reached answer writes locks ran
  refine rest _ later answer writes locks ⟨holds, rfl, ?_, ?_, ?_⟩ reached ran
  · exact keeps_perform _ _ request progress store later op answer writes locks reached
  · exact fun write member => pinned_written progress later op answer writes locks write member
  · exact fun key mode member strong =>
      pinned_locked progress later op answer writes locks key mode member strong

/-- One reading statement on an empty buffer, which stays empty. -/
theorem proceeds_read {α : Type} (op : Op) (next : Res op → Action α)
    (progress : Progress Name Row Res) (store : Database)
    (post : α → Progress Name Row Res → Database → Prop) (clean : progress.writes = [])
    (reads : ∀ db answer writes locks, execute op db = .ran answer writes locks → writes = [])
    (rest : ∀ grown later answer locks, grown.writes = [] → Step progress store grown later [] locks →
      execute op later = .ran answer [] locks →
        Proceeds platform request (next answer) grown later post) :
    Proceeds platform request (.perform op next) progress store post := by
  apply proceeds_step
  intro grown later answer writes locks step _ ran
  obtain rfl := reads _ answer writes locks ran
  rw [Progress.view, clean, applyAll_nil] at ran
  exact rest grown later answer locks (by simp [step.buffer, clean]) step ran

/-- `lockReplica` holds the replica that it returns. -/
theorem proceeds_lockReplica (userId : Uuid) (binding : ReplicaBinding) (credential : Text)
    (store : Database) :
    Proceeds platform request (lockReplica platform userId binding credential) .empty store
      fun found grown later => grown.writes = [] ∧ ∀ locked, found = some locked →
        Holding platform userId binding credential locked.row grown later := by
  simp only [lockReplica, Program.ask_bind]
  apply proceeds_read _ _ _ _ _ rfl fun db answer writes locks ran =>
    (ran_lockReplica db binding.replicaId answer writes locks ran).1
  intro grown later answer locks clean step ran
  obtain ⟨_, found⟩ := ran_lockReplica later binding.replicaId answer [] locks ran
  cases answer with
  | none => exact ⟨clean, by simp⟩
  | some locked =>
    obtain ⟨present, held⟩ := found locked rfl
    dsimp only
    split
    · exact ⟨clean, by simp⟩
    · next accepted =>
      simp only [not_or, not_not, ne_eq] at accepted
      refine ⟨clean, ?_⟩
      rintro other same
      cases same
      have pinned := step.locked _ _ held (by decide)
      rw [present] at pinned
      exact ⟨pinned, accepted⟩

/-- The rate window of a replica is counted under its credential. -/
theorem safe_rateWindow (userId : Uuid) (binding : ReplicaBinding) (credential : Text)
    (db : Database) :
    Safe (commandServer platform) (commitContract platform) (.rateWindow userId binding credential)
      (consumeCommandRateWindow platform userId binding credential) .empty db := by
  apply leads_bind
  apply leads_mono _ _ _ _ _ _ _ _ (proceeds_lockReplica userId binding credential db)
  rintro found grown store ⟨clean, held⟩
  cases found with
  | none => exact trivial
  | some locked =>
    dsimp only
    split
    · exact trivial
    · apply proceeds_step
      intro last later answer writes locks step _ ran
      cases answer with
      | none => exact trivial
      | some count =>
        rcases ran_countRequest _ _ _ (some count) writes locks ran with ⟨none, _⟩ | ⟨window, rfl⟩
        · cases none
        · intro final _ further
          refine .counted userId binding credential locked.row _ _
            (((held locked rfl).keep step.keeps).presents further) (spares_written _ last final ?_)
          simp [step.buffer, clean, Write.key]

/-- A registration inserts one replica. -/
theorem safe_register (userId replicaId : Uuid) (credential : Text) (db : Database) :
    Safe (commandServer platform) (commitContract platform) (.register userId replicaId credential)
      (registerReplica platform userId replicaId credential) .empty db := by
  simp only [registerReplica, Safe, Program.ask_bind]
  apply proceeds_read _ _ _ _ _ rfl fun _ _ _ _ ran => by cases ran; rfl
  intro first one _ _ cleanOne _ _
  apply proceeds_read _ _ _ _ _ cleanOne fun _ _ _ _ ran => by cases ran; rfl
  intro second two count _ cleanTwo _ _
  split
  · exact promise_quiet _ rfl _ _ cleanTwo
  · apply proceeds_step
    intro third three answer writes locks step _ ran
    obtain ⟨free, now, rfl⟩ := ran_insertReplica _ _ _ _ answer writes locks ran
    rw [Progress.view, cleanTwo, applyAll_nil] at free
    intro last _ further
    have pinned := keeps_reaches _ _ _ _ three last further _ _
      (step.written _ List.mem_cons_self)
    refine .registered userId replicaId credential now _ _ (pinned.1.trans free) ?_
      (spares_written _ third last ?_)
    · simp [Progress.view, step.buffer, cleanTwo, Write.apply]
    · simp [step.buffer, cleanTwo, Write.key]

/-- A challenge replaces the challenges of a held replica. -/
theorem safe_challenge (userId : Uuid) (binding : ReplicaBinding) (credential : Text)
    (challengeId : Uuid) (db : Database) :
    Safe (commandServer platform) (commitContract platform)
      (.challenge userId binding credential challengeId)
      (issueChallenge platform userId binding credential challengeId) .empty db := by
  apply leads_bind
  apply leads_mono _ _ _ _ _ _ _ _ (proceeds_lockReplica userId binding credential db)
  rintro found grown store ⟨clean, held⟩
  cases found with
  | none => exact promise_quiet _ rfl grown store clean
  | some locked =>
    apply proceeds_step
    intro first one answer dropped locks stepOne _ ran
    have drops := ran_deleteChallenges _ binding.replicaId answer dropped locks ran
    apply proceeds_step
    intro second two answer writes more stepTwo _ ran
    obtain rfl := ran_insertChallenge _ challengeId _ answer writes more ran
    intro last _ further
    refine .challenged userId binding credential challengeId _ _ locked.row _ _
      (((held locked rfl).keep (stepOne.keeps.trans stepTwo.keeps)).presents further) ?_
    intro key other
    apply lookup_applyAll_untouched
    intro write member same
    simp only [stepTwo.buffer, stepOne.buffer, clean, List.nil_append, List.mem_append,
      List.mem_singleton] at member
    rcases member with member | rfl
    · obtain ⟨id, here⟩ := drops write member
      exact other id (same ▸ here)
    · exact other challengeId same.symm

/-- An acknowledgement is recorded on a held replica. -/
theorem safe_acknowledge (userId : Uuid) (binding : ReplicaBinding) (credential challengeId : Text)
    (db : Database) :
    Safe (commandServer platform) (commitContract platform)
      (.acknowledge userId binding credential challengeId)
      (acknowledgeChallenge platform userId binding credential challengeId) .empty db := by
  apply leads_bind
  apply leads_mono _ _ _ _ _ _ _ _ (proceeds_lockReplica userId binding credential db)
  rintro found grown store ⟨clean, held⟩
  cases found with
  | none => exact promise_quiet _ rfl grown store clean
  | some locked =>
    dsimp only
    split
    · apply proceeds_step
      intro first one answer writes locks stepOne _ ran
      rcases ran_acknowledgeChallenge _ challengeId _ _ answer writes locks ran with
        ⟨rfl, rfl⟩ | ⟨sequence, challenge, rfl, rfl⟩
      · exact promise_quiet _ rfl _ _ (by simp [stepOne.buffer, clean])
      · apply proceeds_step
        intro second two answer writes more stepTwo reached ran
        have kept := (held locked rfl).keep stepOne.keeps
        have seen : (first.view two).lookup (Key.replica binding.replicaId) = some locked.row := by
          simp only [Progress.view, stepOne.buffer, clean, List.nil_append, applyAll_cons,
            applyAll_nil, Write.apply]
          rw [AList.lookup_insert_ne (by simp)]
          exact (kept.presents reached).1
        rcases ran_recordAcknowledgement _ _ _ answer writes more ran with
          ⟨absent, _⟩ | ⟨row, now, present, rfl⟩
        · rw [seen] at absent
          cases absent
        · obtain rfl : locked.row = row := Option.some.inj (seen.symm.trans present)
          intro last _ further
          refine .acknowledged userId binding credential challengeId sequence now locked.row _ _
            ((kept.keep stepTwo.keeps).presents further) ?_ (spares_written _ second last ?_)
          · simp [Progress.view, stepTwo.buffer, stepOne.buffer, clean, Write.apply]
          · simp [stepTwo.buffer, stepOne.buffer, clean, Write.key]
    · exact promise_quiet _ rfl grown store clean

/-- A reset rotates a held replica, repeats the staged rotation, or changes nothing. -/
theorem safe_reset (userId : Uuid) (binding : ReplicaBinding) (credential resetRequestId : Text)
    (db : Database) :
    Safe (commandServer platform) (commitContract platform)
      (.reset userId binding credential resetRequestId)
      (resetReplica platform userId binding credential resetRequestId) .empty db := by
  unfold resetReplica
  split
  · next valid =>
    simp only [Safe, Program.ask_bind]
    apply proceeds_read _ _ _ _ _ rfl fun db answer writes locks ran =>
      (ran_lockReplica db binding.replicaId answer writes locks ran).1
    intro first one answer locks clean step ran
    obtain ⟨_, found⟩ := ran_lockReplica one binding.replicaId answer [] locks ran
    cases answer with
    | none => exact promise_quiet _ rfl _ _ clean
    | some locked =>
      obtain ⟨present, held⟩ := found locked rfl
      have pinned := step.locked _ _ held (by decide)
      rw [present] at pinned
      dsimp only
      split
      · exact promise_quiet _ rfl _ _ clean
      · next owned =>
        simp only [not_or, not_not, ne_eq] at owned
        split
        · next repeats =>
          intro last _ further
          rw [Progress.view, clean, applyAll_nil]
          exact .repeated userId binding credential resetRequestId locked.row last valid
            (keeps_reaches _ _ _ _ one last further _ _ pinned).1 owned.1 owned.2 repeats
        · split
          · exact promise_quiet _ rfl _ _ clean
          · next accepted =>
            simp only [not_or, not_not, ne_eq] at accepted
            have holding : Holding platform userId binding credential locked.row _ one :=
              ⟨pinned, owned.1, owned.2, accepted.1, accepted.2⟩
            split
            · apply proceeds_step
              intro second two answer writes more stepTwo _ ran
              have seen : (first.view two).lookup (Key.replica binding.replicaId) =
                  some locked.row := by
                rw [Progress.view, clean, applyAll_nil]
                exact (stepTwo.keeps _ _ pinned).1
              rcases ran_rotateReplica _ _ _ _ _ answer writes more ran with
                ⟨absent, _⟩ | ⟨row, now, positive, there, rfl⟩
              · rw [seen] at absent
                cases absent
              · obtain rfl : locked.row = row := Option.some.inj (seen.symm.trans there)
                apply proceeds_step
                intro third three answer writes others stepThree _ ran
                obtain rfl := ran_deleteRateWindow _ _ answer writes others ran
                intro last _ further
                refine .rotated userId binding credential resetRequestId now locked.row positive _ _
                  valid ((holding.keep (stepTwo.keeps.trans stepThree.keeps)).presents further) ?_
                  (spares_written _ third last ?_)
                · simp [Progress.view, stepThree.buffer, stepTwo.buffer, clean, Write.apply,
                    AList.lookup_erase_ne, nextSession]
                · simp [stepThree.buffer, stepTwo.buffer, clean, Write.key]
            · exact promise_quiet _ rfl _ _ clean
  · exact promise_quiet _ rfl _ _ rfl

/-- The acknowledgement of a reset settles the staged rotation of a held replica. -/
theorem safe_acknowledgeReset (userId : Uuid) (binding : ReplicaBinding)
    (credential resetRequestId : Text) (db : Database) :
    Safe (commandServer platform) (commitContract platform)
      (.acknowledgeReset userId binding credential resetRequestId)
      (acknowledgeReset platform userId binding credential resetRequestId) .empty db := by
  unfold acknowledgeReset
  split
  · apply leads_bind
    apply leads_mono _ _ _ _ _ _ _ _ (proceeds_lockReplica userId binding credential db)
    rintro found grown store ⟨clean, held⟩
    cases found with
    | none => exact promise_quiet _ rfl grown store clean
    | some locked =>
      dsimp only
      split
      · next before =>
        intro last _ further
        rw [Progress.view, clean, applyAll_nil]
        exact .settledBefore userId binding credential resetRequestId locked.row last
          ((held locked rfl).presents further) before.1 before.2
      · split
        · exact promise_quiet _ rfl grown store clean
        · next staged =>
          simp only [not_or, not_not, ne_eq] at staged
          apply proceeds_step
          intro first one answer writes locks step _ ran
          have holding := (held locked rfl).keep step.keeps
          have seen : (grown.view one).lookup (Key.replica binding.replicaId) = some locked.row := by
            rw [Progress.view, clean, applyAll_nil]
            exact holding.1.1
          rcases ran_settleReset _ _ _ answer writes locks ran with ⟨absent, _⟩ | ⟨row, there, rfl⟩
          · rw [seen] at absent
            cases absent
          · obtain rfl : locked.row = row := Option.some.inj (seen.symm.trans there)
            intro last _ further
            refine .settled userId binding credential resetRequestId locked.row _ _
              (holding.presents further) staged.1 ?_ (spares_written _ first last ?_)
            · simp [Progress.view, step.buffer, clean, Write.apply]
            · simp [step.buffer, clean, Write.key]
  · exact promise_quiet _ rfl _ _ rfl

/-- A classification reads under a held replica. -/
theorem safe_classify (userId : Uuid) (binding : ReplicaBinding) (credential : Text)
    (resourceId incarnationId : Uuid) (db : Database) :
    Safe (commandServer platform) (commitContract platform)
      (.classify userId binding credential resourceId incarnationId)
      (classifyResource platform userId binding credential resourceId incarnationId) .empty db := by
  apply leads_bind
  apply leads_mono _ _ _ _ _ _ _ _ (proceeds_lockReplica userId binding credential db)
  rintro found grown store ⟨clean, held⟩
  cases found with
  | none => exact promise_quiet _ rfl grown store clean
  | some locked =>
    apply proceeds_read _ _ _ _ _ clean fun db answer writes locks ran =>
      (ran_acquireGrantReadLock db answer writes locks ran).1
    intro first one _ _ cleanOne stepOne _
    apply proceeds_read _ _ _ _ _ cleanOne fun db answer writes locks ran =>
      ran_selectPreserved db _ _ _ answer writes locks ran
    intro second two preserve _ cleanTwo stepTwo _ last _ further
    rw [Progress.view, cleanTwo, applyAll_nil]
    exact .classified userId binding credential resourceId incarnationId preserve locked.row last
      (((held locked rfl).keep (stepOne.keeps.trans stepTwo.keeps)).presents further)

/-- Disabling a replica changes its row. -/
theorem safe_disable (replicaId : Uuid) (db : Database) :
    Safe (commandServer platform) (commitContract platform) (.disable replicaId)
      (program platform (.disable replicaId)) .empty db := by
  apply proceeds_step
  intro grown one answer writes locks step _ ran
  rcases ran_disableReplica _ replicaId answer writes locks ran with
    ⟨_, rfl⟩ | ⟨row, now, present, rfl⟩
  · exact promise_quiet _ rfl _ _ step.buffer
  · intro last _ further
    have pinned := keeps_reaches _ _ _ _ one last further _ _ (step.written _ List.mem_cons_self)
    refine .disabled replicaId row now _ _ (pinned.1.trans present) ?_ (spares_written _ grown last ?_)
    · simp [Progress.view, step.buffer, Progress.empty, Write.apply]
    · simp [step.buffer, Progress.empty, Write.key]

end Safety

end TraxOs.PowerSync
