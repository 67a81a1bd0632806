import TraxOs.Api.Ledger

/-!
# Journey versions

What `record_version` says about a journey over whole runs. While the journey
exists, its version never falls, and it stays only where the row stays. A deletion
forgets the version: a client that chooses the identifier again starts at one.

For a journey that nobody deletes the version counts commits: every change of a
segment or packing item and every newly applied update adds one, and nothing else
does. A replay commits, but what it reports was counted before.
-/

namespace TraxOs.Api

open TraxOs.Theory

/-- One commit leaves an existing journey as it is, raises its version, or deletes it. -/
theorem commit_raises (platform : Platform) (anchor : Anchor) (request : Request) (reply : Reply)
    (before after : Database) (committed : Committed platform anchor request reply before after)
    (journeyId : Uuid) (row : StoredJourney)
    (found : before.lookup (Key.journey journeyId) = some row) :
    after.lookup (Key.journey journeyId) = none ∨
      ∃ stored : StoredJourney, after.lookup (Key.journey journeyId) = some stored ∧
        (stored = row ∨ row.1.recordVersion < stored.1.recordVersion) := by
  have kept : after.lookup (Key.journey journeyId) = before.lookup (Key.journey journeyId) →
      after.lookup (Key.journey journeyId) = none ∨
        ∃ stored : StoredJourney, after.lookup (Key.journey journeyId) = some stored ∧
          (stored = row ∨ row.1.recordVersion < stored.1.recordVersion) :=
    fun same => Or.inr ⟨row, same.trans found, Or.inl rfl⟩
  cases committed with
  | quiet unchanged => exact kept (by rw [unchanged])
  | changedParts context changed target acts signed authorized spared touched =>
    by_cases same : changed = journeyId
    · subst same
      rcases touched with ⟨old, stored, now, oldFound, _, newFound, counted⟩ | ⟨_, unchanged⟩
      · obtain rfl : row = old := Option.some.inj (found.symm.trans oldFound)
        refine Or.inr ⟨stored, newFound, Or.inr ?_⟩
        rw [counted]
        exact Nat.lt_succ_self _
      · exact kept unchanged
    · exact kept (spared _ rfl fun clash => same (Key.journey.inj clash).symm)
  | created context changed stored creates acts signed authorized free written fresh inWorkspace
      spared =>
    apply kept
    apply spared
    intro clash
    obtain rfl := Key.journey.inj clash
    rw [free] at found
    cases found
  | deleted context changed old deletes acts signed authorized oldFound inWorkspace gone spared =>
    by_cases same : changed = journeyId
    · subst same
      exact Or.inl gone
    · exact kept (spared _ rfl fun clash => same (Key.journey.inj clash).symm)
  | applied command explained signed told =>
    by_cases same : command.journeyId = journeyId
    · subst same
      obtain rfl : row = command.before := Option.some.inj (found.symm.trans explained.journeyBefore)
      refine Or.inr ⟨command.after, explained.journeyAfter, Or.inr ?_⟩
      rw [explained.revised]
      exact Nat.lt_succ_self _
    · apply kept
      apply explained.spared
      · exact fun clash => same (Key.journey.inj clash).symm
      all_goals simp
  | rejected command explained signed notApplied => exact kept (explained.spared _ (by simp))
  | administered workspaceId userId role administers written spared =>
    exact kept (spared _ (by simp))

/-- While a journey exists, its version rises with every change of its row. -/
theorem linked_raises (platform : Platform) (anchor : Anchor) (first last : Database) (history : History)
    (linked : Linked (Committed platform anchor) first history last) (journeyId : Uuid)
    (row : StoredJourney) (found : first.lookup (Key.journey journeyId) = some row)
    (alive : ∀ commit ∈ history, commit.after.lookup (Key.journey journeyId) ≠ none) :
    ∃ stored : StoredJourney, last.lookup (Key.journey journeyId) = some stored ∧
      (stored = row ∨ row.1.recordVersion < stored.1.recordVersion) := by
  induction linked with
  | nil => exact ⟨row, found, Or.inl rfl⟩
  | snoc history commit earlier committed inductionHypothesis =>
    obtain ⟨middle, here, raised⟩ := inductionHypothesis fun other member =>
      alive other (List.mem_append_left _ member)
    have present := alive commit (by simp)
    rcases commit_raises platform anchor commit.request commit.reply commit.before commit.after committed
      journeyId middle here with gone | ⟨stored, there, raisedAgain⟩
    · exact absurd gone present
    · refine ⟨stored, there, ?_⟩
      rcases raisedAgain with rfl | raisedAgain
      · exact raised
      · rcases raised with rfl | raised
        · exact Or.inr raisedAgain
        · exact Or.inr (raised.trans raisedAgain)

/-- A version names one content among some committed states of a journey, and an
update for that version meets that content. `Comparable` says which states. -/
structure VersionNamesContent (platform : Platform) (db : Database) (history : History)
    (Comparable : Uuid → Nat → Nat → Prop) : Prop where
  contents : ∀ journeyId earlier later before after (one two : StoredJourney),
    Comparable journeyId earlier later → (states db history)[earlier]? = some before →
      (states db history)[later]? = some after →
        before.lookup (Key.journey journeyId) = some one →
          after.lookup (Key.journey journeyId) = some two →
            one.1.recordVersion = two.1.recordVersion → one = two
  updates : ∀ earlier later command before (one : StoredJourney),
    AppliesAt platform history later command → Comparable command.journeyId earlier later →
      (states db history)[earlier]? = some before →
        before.lookup (Key.journey command.journeyId) = some one →
          one.1.recordVersion = command.call.payload.expectedRecordVersion → command.before = one

/-- The journey exists in all committed states from one index to another. -/
def ExistsThroughout (db : Database) (history : History) (journeyId : Uuid)
    (earlier later : Nat) : Prop :=
  earlier ≤ later ∧ ∀ index state, earlier ≤ index → index ≤ later →
    (states db history)[index]? = some state → state.lookup (Key.journey journeyId) ≠ none

/-- Between two states of a journey that exists throughout, the row stays or its
version rises. -/
theorem existing_raises (platform : Platform) (anchor : Anchor) (db last : Database) (history : History)
    (linked : Linked (Committed platform anchor) db history last) (journeyId : Uuid)
    (earlier later : Nat) (before after : Database) (one two : StoredJourney)
    (exist : ExistsThroughout db history journeyId earlier later)
    (here : (states db history)[earlier]? = some before)
    (there : (states db history)[later]? = some after)
    (oneFound : before.lookup (Key.journey journeyId) = some one)
    (twoFound : after.lookup (Key.journey journeyId) = some two) :
    two = one ∨ one.1.recordVersion < two.1.recordVersion := by
  obtain ⟨ordered, alive⟩ := exist
  obtain ⟨between, inside⟩ := linked.between earlier later before after ordered here there
  obtain ⟨stored, found, raised⟩ := linked_raises platform anchor before after _ between journeyId
    one oneFound (by
      intro commit member
      obtain ⟨index, lower, upper, place⟩ := inside commit member
      have around := (linked.around index commit place).2.1
      exact alive (index + 1) commit.after (by omega) (by omega) around)
  obtain rfl : stored = two := Option.some.inj (found.symm.trans twoFound)
  exact raised

/-- While a journey exists, a version names one content of it; an update applies to
the content that its expected version was read from. -/
theorem version_names_content (platform : Platform) (db : Database)
    (last : System Name Row Res Failure Request Reply)
    (run : Run (plainApi platform) (fun _ _ => True) (System.initial db) last) :
    VersionNamesContent platform db last.history (ExistsThroughout db last.history) := by
  have linked := history_committed platform db last run
  constructor
  · intro journeyId earlier later before after one two exist here there oneFound twoFound same
    rcases existing_raises platform ⟨sessionsOf db, none⟩ db last.db last.history linked journeyId earlier later before
      after one two exist here there oneFound twoFound with rfl | raised
    · rfl
    · omega
  · rintro earlier later command before one ⟨commit, there, explained⟩ exist here oneFound same
    have around := (linked.around later commit there).1
    rcases existing_raises platform ⟨sessionsOf db, none⟩ db last.db last.history linked command.journeyId earlier later
      before commit.before one command.before exist here around oneFound
      explained.journeyBefore with rfl | raised
    · rfl
    · have expected := explained.expected
      omega

/-- Both names are long enough and short enough. -/
theorem Sample.bern_fits : 1 ≤ "Bern".toList.length ∧ "Bern".toList.length ≤ 200 := by decide

theorem Sample.oslo_fits : 1 ≤ "Oslo".toList.length ∧ "Oslo".toList.length ≤ 200 := by decide

/-- The owner deletes the journey, creates `Bern` under its identifier, deletes that,
creates `Oslo`, and then sends the update. -/
def Sample.recreation : List (Event Request) :=
  [.arrive deletion, .arrive (creation "Bern".toList Sample.bern_fits), .arrive deletion,
    .arrive (creation "Oslo".toList Sample.oslo_fits), .arrive command] ++
    (List.replicate 4 (.advance 0) ++ List.replicate 4 (.advance 1) ++
      List.replicate 4 (.advance 2) ++ List.replicate 4 (.advance 3) ++
        List.replicate 9 (.advance 4))

/-- The name and the version of the sample journey. -/
def Sample.shown (db : Database) : Option (Text × Nat) :=
  match db.lookup (Key.journey 7) with
  | none => none
  | some row => some (row.1.name, row.1.recordVersion)

/-- What is shown was stored. -/
theorem Sample.shown_some (db : Database) (name : Text) (version : Nat)
    (seen : Sample.shown db = some (name, version)) :
    ∃ row : StoredJourney, db.lookup (Key.journey 7) = some row ∧ row.1.name = name ∧
      row.1.recordVersion = version := by
  cases found : db.lookup (Key.journey 7) with
  | none =>
    rw [Sample.shown, found] at seen
    cases seen
  | some row =>
    rw [Sample.shown, found] at seen
    simp only [Option.some.injEq, Prod.mk.injEq] at seen
    exact ⟨row, rfl, seen⟩

/-- Across deletions a version names two contents: `Bern` and `Oslo` are both version
one, and an update for version one of `Bern` is applied to `Oslo`. -/
theorem version_names_two_contents :
    ∃ last, (System.initial Sample.database).steps (plainApi Sample.platform) Sample.recreation =
        some last ∧
      Sample.shown last.db = some ("Rome".toList, 2) ∧
        ¬ VersionNamesContent Sample.platform Sample.database last.history
          (fun _ earlier later => earlier ≤ later) := by
  have made : ((System.initial Sample.database).steps (plainApi Sample.platform)
      Sample.recreation).map (fun last =>
        ((states Sample.database last.history)[2]?.bind Sample.shown,
          (states Sample.database last.history)[4]?.bind Sample.shown, Sample.shown last.db)) =
        some (some ("Bern".toList, 1), some ("Oslo".toList, 1), some ("Rome".toList, 2)) := by
    decide
  obtain ⟨last, ran, observed⟩ := Option.map_eq_some_iff.mp made
  simp only [Prod.mk.injEq, Option.bind_eq_some_iff] at observed
  obtain ⟨⟨before, here, bern⟩, ⟨after, there, oslo⟩, updated⟩ := observed
  obtain ⟨one, oneFound, oneName, oneVersion⟩ := Sample.shown_some before _ _ bern
  obtain ⟨two, twoFound, twoName, twoVersion⟩ := Sample.shown_some after _ _ oslo
  refine ⟨last, ran, updated, ?_⟩
  intro claimed
  have same : one = two := claimed.contents 7 2 4 before after one two (by decide) here there
    oneFound twoFound (oneVersion.trans twoVersion.symm)
  rw [same, twoName] at oneName
  revert oneName
  decide

/-- In that run, too, a version names one content while the journey exists. -/
theorem version_names_content_recreated :
    ∃ last, (System.initial Sample.database).steps (plainApi Sample.platform) Sample.recreation =
        some last ∧ last.history.length = 5 ∧
      VersionNamesContent Sample.platform Sample.database last.history
        (ExistsThroughout Sample.database last.history) := by
  have made : ((System.initial Sample.database).steps (plainApi Sample.platform)
      Sample.recreation).map (fun last => last.history.length) = some 5 := by
    decide
  obtain ⟨last, ran, finished⟩ := Option.map_eq_some_iff.mp made
  exact ⟨last, ran, finished, version_names_content Sample.platform Sample.database last
    (run_of_steps _ _ _ _ _ (fun _ _ _ => trivial) ran)⟩

section Counting

/-- The request wants to change the journey or one of its parts. -/
def Request.mutatesOn (request : Request) (journeyId : Uuid) : Bool :=
  request.partsOf = some journeyId ||
    (request.commandCall.map fun call => call.payload.journeyId) = some journeyId

/-- A commit that the version of a journey counts: a change of a part, or an update
that the reply reports as newly applied. -/
def counts (journeyId : Uuid) (commit : Commit Row Request Reply) : Bool :=
  commit.request.partsOf = some journeyId ||
    (commit.request.applies commit.reply &&
      (commit.request.commandCall.map fun call => call.payload.journeyId) = some journeyId)

/-- A commit of a mutating request that was reported as a success. -/
def succeeds (journeyId : Uuid) (commit : Commit Row Request Reply) : Bool :=
  commit.request.mutatesOn journeyId && (statusAndCode (.ok commit.reply)).1 < 400

/-- Requests come through a route or the executor, and nobody deletes the journey. -/
def MutationsOnly (journeyId : Uuid) (_ : System Name Row Res Failure Request Reply) :
    Event Request → Prop
  | .arrive request => request.isOperation = false ∧ request.deletes ≠ some journeyId
  | _ => True

/-- In every committed state the version of a journey is one more than the number of
commits of a kind; an update whose expected version was read before one of them is
not applied. -/
structure VersionCounts (platform : Platform) (kind : Commit Row Request Reply → Bool)
    (journeyId : Uuid) (db : Database) (history : History) : Prop where
  counted : ∀ index state, (states db history)[index]? = some state →
    ∃ row : StoredJourney, state.lookup (Key.journey journeyId) = some row ∧
      row.1.recordVersion = 1 + (history.take index).countP kind
  stale : ∀ earlier later command state (row : StoredJourney), earlier ≤ later →
    (states db history)[earlier]? = some state →
      state.lookup (Key.journey journeyId) = some row →
        row.1.recordVersion = command.call.payload.expectedRecordVersion →
          command.journeyId = journeyId → AppliesAt platform history later command →
            ∀ index commit, earlier ≤ index → index < later → history[index]? = some commit →
              kind commit = false

variable (platform : Platform) (sessions : Text → Option Session) (journeyId workspaceId : Uuid)

/-- One commit adds one to the version if it counts, and nothing otherwise. -/
theorem commit_counts (commit : Commit Row Request Reply)
    (allowed : (commitContract platform ⟨sessions, some (journeyId, workspaceId)⟩).Allowed commit.request)
    (committed : Committed platform ⟨sessions, some (journeyId, workspaceId)⟩ commit.request commit.reply
      commit.before commit.after)
    (row : StoredJourney) (found : commit.before.lookup (Key.journey journeyId) = some row) :
    ∃ stored : StoredJourney, commit.after.lookup (Key.journey journeyId) = some stored ∧
      stored.1.recordVersion =
        row.1.recordVersion + if counts journeyId commit = true then 1 else 0 := by
  have kept : commit.after.lookup (Key.journey journeyId) =
        commit.before.lookup (Key.journey journeyId) → counts journeyId commit = false →
      ∃ stored : StoredJourney, commit.after.lookup (Key.journey journeyId) = some stored ∧
        stored.1.recordVersion =
          row.1.recordVersion + if counts journeyId commit = true then 1 else 0 := by
    intro same uncounted
    exact ⟨row, same.trans found, by simp [uncounted]⟩
  have uncommanded : commit.request.partsOf ≠ none ∨ (∃ id, commit.request.creates = some id) ∨
      (∃ id, commit.request.deletes = some id) → commit.request.commandCall = none := by
    intro other
    rw [← Option.not_isSome_iff_eq_none]
    intro executes
    obtain ⟨noParts, noCreation, noDeletion⟩ := commit.request.command_apart executes
    rcases other with parts | ⟨id, creates⟩ | ⟨id, deletes⟩
    · exact parts noParts
    · rw [noCreation] at creates
      cases creates
    · rw [noDeletion] at deletes
      cases deletes
  cases committed with
  | quiet unchanged noParts notApplied =>
    exact kept (by rw [unchanged]) (by simp [counts, noParts, notApplied])
  | changedParts context changed target acts signed authorized spared touched =>
    by_cases same : changed = journeyId
    · subst same
      rcases touched with ⟨old, stored, now, oldFound, _, newFound, counted⟩ | ⟨unanchored, _⟩
      · obtain rfl : row = old := Option.some.inj (found.symm.trans oldFound)
        refine ⟨stored, newFound, ?_⟩
        rw [counted]
        simp [counts, target, Journey.touched]
      · exact absurd rfl (unanchored workspaceId)
    · apply kept
      · exact spared _ rfl fun clash => same (Key.journey.inj clash).symm
      · have noCommand := uncommanded (Or.inl (by simp [target]))
        simp [counts, target, same, noCommand]
  | created context changed stored creates acts signed authorized free written fresh inWorkspace
      spared =>
    apply kept
    · apply spared
      intro clash
      obtain rfl := Key.journey.inj clash
      rw [free] at found
      cases found
    · have noCommand := uncommanded (Or.inr (Or.inl ⟨changed, creates⟩))
      have noParts := commit.request.journey_apart changed (Or.inl creates)
      simp [counts, noParts, noCommand]
  | deleted context changed old deletes acts signed authorized oldFound inWorkspace gone spared =>
    apply kept
    · apply spared _ rfl
      intro clash
      obtain rfl := Key.journey.inj clash
      exact (allowed journeyId workspaceId rfl).2 deletes
    · have noCommand := uncommanded (Or.inr (Or.inr ⟨changed, deletes⟩))
      have noParts := commit.request.journey_apart changed (Or.inr deletes)
      simp [counts, noParts, noCommand]
  | applied command explained signed told =>
    have noParts := (commit.request.command_apart (by simp [explained.executes])).1
    by_cases same : command.journeyId = journeyId
    · subst same
      obtain rfl : row = command.before := Option.some.inj (found.symm.trans explained.journeyBefore)
      refine ⟨command.after, explained.journeyAfter, ?_⟩
      rw [explained.revised]
      simp [counts, told, explained.executes, Journey.revised, AppliedCommand.journeyId]
    · apply kept
      · apply explained.spared
        · exact fun clash => same (Key.journey.inj clash).symm
        all_goals simp
      · have other : ¬ command.call.payload.journeyId = journeyId := same
        simp [counts, noParts, explained.executes, other]
  | rejected command explained signed notApplied =>
    have noParts := (commit.request.command_apart (by simp [explained.executes])).1
    exact kept (explained.spared _ (by simp)) (by simp [counts, noParts, notApplied])
  | administered workspace userId role administers written spared =>
    exact kept (spared _ (by simp)) (by simp [counts, administers, Request.partsOf, Request.call,
      Request.applies, Request.commandCall])

/-- A chain of commits adds the number of those that count. -/
theorem linked_counts (first last : Database) (history : History)
    (linked : Linked (commitContract platform ⟨sessions, some (journeyId, workspaceId)⟩).Admits first history
      last)
    (row : StoredJourney) (found : first.lookup (Key.journey journeyId) = some row) :
    ∃ stored : StoredJourney, last.lookup (Key.journey journeyId) = some stored ∧
      stored.1.recordVersion = row.1.recordVersion + history.countP (counts journeyId) := by
  induction linked with
  | nil => exact ⟨row, found, rfl⟩
  | snoc history commit earlier admitted inductionHypothesis =>
    obtain ⟨middle, here, counted⟩ := inductionHypothesis
    obtain ⟨allowed, _, _, committed⟩ := admitted
    obtain ⟨stored, there, once⟩ :=
      commit_counts platform sessions journeyId workspaceId commit allowed committed middle here
    refine ⟨stored, there, ?_⟩
    rw [once, counted, List.countP_append, List.countP_cons, List.countP_nil]
    omega

end Counting

/-- The version of a journey that nobody deletes counts the changes of its parts and
the newly applied updates, in every committed state of every interleaving. -/
theorem version_counts_changes (platform : Platform) (journeyId workspaceId : Uuid)
    (db : Database) (journey : StoredJourney)
    (created : db.lookup (Key.journey journeyId) = some journey)
    (inWorkspace : journey.1.workspaceId = workspaceId) (fresh : journey.1.recordVersion = 1)
    (last : System Name Row Res Failure Request Reply)
    (run : Run (plainApi platform) (MutationsOnly journeyId) (System.initial db) last) :
    VersionCounts platform (counts journeyId) journeyId db last.history := by
  have sound : Sound (plainApi platform)
      (commitContract platform ⟨sessionsOf db, some (journeyId, workspaceId)⟩) db last := by
    apply history_classified (MutationsOnly journeyId) _ db _ last run
    · intro _ request permitted target workspace anchored
      cases anchored
      exact permitted
    · refine ⟨rfl, ?_⟩
      intro target workspace anchored
      cases anchored
      exact ⟨journey, created, inWorkspace⟩
  have counted : ∀ index state, (states db last.history)[index]? = some state →
      ∃ row : StoredJourney, state.lookup (Key.journey journeyId) = some row ∧
        row.1.recordVersion = 1 + (last.history.take index).countP (counts journeyId) := by
    intro index state here
    obtain ⟨row, found, version⟩ := linked_counts platform (sessionsOf db) journeyId workspaceId db state _
      (sound.linked.split index state here).1 journey created
    exact ⟨row, found, by rw [version, fresh]⟩
  refine ⟨counted, ?_⟩
  rintro earlier later command state row ordered here found expected rfl
    ⟨commit, there, explained⟩ index between lower upper place
  by_contra counting
  have around := (sound.linked.around later commit there).1
  obtain ⟨old, oldFound, oldVersion⟩ := counted earlier state here
  obtain ⟨new, newFound, newVersion⟩ := counted later commit.before around
  obtain rfl : row = old := Option.some.inj (found.symm.trans oldFound)
  obtain rfl : new = command.before := Option.some.inj (newFound.symm.trans explained.journeyBefore)
  have swapped := explained.expected
  -- the commits before `later` are those before `earlier` and those in between
  have pieces : last.history.take later =
      last.history.take earlier ++ (last.history.drop earlier).take (later - earlier) := by
    rw [← List.take_add, Nat.add_sub_cancel' ordered]
  have positive : 0 < ((last.history.drop earlier).take (later - earlier)).countP
      (counts command.journeyId) := by
    rw [List.countP_pos_iff]
    refine ⟨between, List.mem_of_getElem? (i := index - earlier) ?_, by simpa using counting⟩
    rw [List.getElem?_take, if_pos (by omega), List.getElem?_drop, Nat.add_sub_cancel' lower]
    exact place
  rw [pieces, List.countP_append] at newVersion
  omega

/-- The update, and then the same command again. -/
def Sample.repetition : List (Event Request) :=
  [.arrive command, .arrive command] ++
    (List.replicate 9 (.advance 0) ++ List.replicate 4 (.advance 1))

/-- The version does not count every success: a replay is one. -/
theorem version_misses_replays :
    ∃ last, (System.initial Sample.database).steps (plainApi Sample.platform) Sample.repetition =
        some last ∧
      last.history.countP (succeeds 7) = 2 ∧
        ¬ VersionCounts Sample.platform (succeeds 7) 7 Sample.database last.history := by
  have made : ((System.initial Sample.database).steps (plainApi Sample.platform)
      Sample.repetition).map (fun last =>
        ((states Sample.database last.history)[2]?.bind Sample.shown,
          last.history.length, last.history.countP (succeeds 7))) =
        some (some ("Rome".toList, 2), 2, 2) := by
    decide
  obtain ⟨last, ran, observed⟩ := Option.map_eq_some_iff.mp made
  simp only [Prod.mk.injEq, Option.bind_eq_some_iff] at observed
  obtain ⟨⟨state, here, rome⟩, finished, successes⟩ := observed
  obtain ⟨row, found, _, version⟩ := Sample.shown_some state _ _ rome
  refine ⟨last, ran, successes, ?_⟩
  intro claimed
  obtain ⟨same, sameFound, counted⟩ := claimed.counted 2 state here
  obtain rfl : row = same := Option.some.inj (found.symm.trans sameFound)
  rw [List.take_of_length_le (by omega), successes, version] at counted
  omega

/-- In that run the version counts the update once. -/
theorem version_counts_changes_repeated :
    ∃ last, (System.initial Sample.database).steps (plainApi Sample.platform) Sample.repetition =
        some last ∧
      last.history.countP (counts 7) = 1 ∧
        VersionCounts Sample.platform (counts 7) 7 Sample.database last.history := by
  have made : ((System.initial Sample.database).steps (plainApi Sample.platform)
      Sample.repetition).map (fun last => last.history.countP (counts 7)) = some 1 := by
    decide
  obtain ⟨last, ran, counted⟩ := Option.map_eq_some_iff.mp made
  have permitted : ∀ event ∈ Sample.repetition, ∀ system, MutationsOnly 7 system event := by
    intro event member system
    simp only [Sample.repetition, List.mem_append, List.mem_cons, List.mem_replicate,
      List.not_mem_nil, or_false] at member
    rcases member with (rfl | rfl) | ⟨_, rfl⟩ | ⟨_, rfl⟩
    · exact ⟨rfl, by decide⟩
    · exact ⟨rfl, by decide⟩
    · trivial
    · trivial
  exact ⟨last, ran, counted, version_counts_changes Sample.platform 7 2 Sample.database
    Sample.journey (by decide) rfl rfl last (run_of_steps _ _ _ _ _ permitted ran)⟩

end TraxOs.Api
