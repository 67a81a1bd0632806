import TraxOs.PowerSync.CommandSafety

/-!
# Every run is a history of classified commits

The transactions of the writers outside the server, and then the whole service:
whatever the interleaving of its requests, the commits of a run follow each other
and each of them is one that its class allows. This is the only place where runs are
looked at. Every property of runs is an induction over the resulting history.
-/

namespace TraxOs.PowerSync

open TraxOs.Theory

section Writers

variable {platform : Platform}

/-- The grants of a rebuild are for resources that its transaction shows, also when it
commits. -/
theorem rebuilt_present {request : Request} (grants : List Grant)
    (progress grown : Progress Name Row Res) (store last : Database) (own : List (Write Row))
    (holds : Sequenced store) (before : progress.writes = own)
    (puts : ∀ write ∈ own, ∃ key row, write = .put key row)
    (buffer : grown.writes = own ++ [.put .syncGrants (SyncGrants.rebuilt (progress.view store)
      (grants.filter fun grant =>
        ((progress.view store).lookup (Key.resource grant.resourceId)).isSome))])
    (table : Option SyncGrants) (pinned : Pinned grown store Key.syncGrants table)
    (reached : Reaches (commandServer platform) (commitContract platform) request grown store last) :
    ∀ grant ∈ grantsOf (grown.view last),
      ((grown.view last).lookup (Key.resource grant.resourceId)).isSome = true := by
  have growth := (extends_reaches grown store last holds table pinned reached).1
  intro grant member
  have shown : ∀ key, key ≠ Key.syncGrants →
      (grown.view last).lookup key = (applyAll own last).lookup key := by
    intro key other
    rw [Progress.view, buffer, applyAll_append, applyAll_cons, applyAll_nil, Write.apply,
      AList.lookup_insert_ne other]
  have rows : grantsOf (grown.view last) = grants.filter fun grant =>
      ((progress.view store).lookup (Key.resource grant.resourceId)).isSome := by
    rw [grantsOf, Progress.view, buffer, applyAll_append, applyAll_cons, applyAll_nil, Write.apply,
      AList.lookup_insert]
    rfl
  rw [rows, List.mem_filter] at member
  have present := member.2
  rw [Progress.view, before] at present
  rw [shown _ (by simp)]
  rcases lookup_applyAll_puts own (Key.resource grant.resourceId) puts with same | ⟨row, _, written⟩
  · rw [same] at present ⊢
    exact growth.present _ present
  · rw [written]
    rfl

/-- A refresh of the grants replaces the grants. -/
theorem safe_refresh (grants : List Grant) (db : Database) :
    Safe (commandServer platform) (commitContract platform) (.refreshGrants grants)
      (refreshSyncGrants grants) .empty db := by
  simp only [refreshSyncGrants, Safe, Program.ask_bind]
  apply proceeds_read _ _ _ _ _ rfl fun db answer writes locks ran =>
    (ran_acquireGrantWriteLock db answer writes locks ran).1
  intro first one _ locks cleanOne stepOne ran
  have pinned := stepOne.locked _ _ (ran_acquireGrantWriteLock one _ [] locks ran).2 (by decide)
  apply proceeds_step
  intro second two answer writes more stepTwo _ ran
  obtain rfl := ran_rebuildGrants _ grants answer writes more ran
  intro last _ further
  refine .refreshed grants _ _ ?_ (spares_written _ second last ?_)
  · apply rebuilt_present grants first second two last [] stepTwo.holds cleanOne (by simp)
      (by simp [stepTwo.buffer, cleanOne]) _ (stepTwo.keeps _ _ pinned) further
  · simp [stepTwo.buffer, cleanOne, Write.key]

/-- The insertion of a resource adds it and replaces the grants. -/
theorem safe_create (id incarnationId : Uuid) (payload : Text) (grants : List Grant)
    (db : Database) :
    Safe (commandServer platform) (commitContract platform)
      (.createResource id incarnationId payload grants)
      (createResource id incarnationId payload grants) .empty db := by
  simp only [createResource, Safe, Program.ask_bind]
  apply proceeds_step
  intro first one answer writes locks stepOne _ ran
  obtain ⟨free, rfl⟩ := ran_insertResource _ id incarnationId payload answer writes locks ran
  rw [Progress.view, Progress.empty, applyAll_nil] at free
  have pinnedOne := stepOne.written _ List.mem_cons_self
  rw [Write.key, free] at pinnedOne
  apply proceeds_step
  intro second two answer writes more stepTwo _ ran
  obtain ⟨rfl, held⟩ := ran_acquireGrantWriteLock _ answer writes more ran
  have pinned := stepTwo.locked _ _ held (by decide)
  apply proceeds_step
  intro third three answer writes others stepThree _ ran
  obtain rfl := ran_rebuildGrants _ grants answer writes others ran
  have bufferTwo : second.writes =
      [.put (.resource id) ⟨incarnationId, some payload, 1, none, by decide⟩] := by
    simp [stepTwo.buffer, stepOne.buffer, Progress.empty]
  intro last _ further
  refine .created id incarnationId payload grants _ _ ?_ ?_ ?_ (spares_written _ third last ?_)
  · exact (keeps_reaches _ _ _ third three last further _ _
      (stepThree.keeps _ _ (stepTwo.keeps _ _ pinnedOne))).1
  · simp [Progress.view, stepThree.buffer, bufferTwo, Write.apply, AList.lookup_insert_ne]
  · apply rebuilt_present grants second third three last _ stepThree.holds bufferTwo (by simp)
      (by rw [stepThree.buffer, bufferTwo]) _ (stepThree.keeps _ _ pinned)
      further
  · simp [stepThree.buffer, bufferTwo, Write.key]

/-- A soft delete from outside buries a live resource. -/
theorem safe_softDelete (id : Uuid) (db : Database) :
    Safe (commandServer platform) (commitContract platform) (.softDelete id) (softDelete id) .empty
      db := by
  simp only [softDelete, Safe, Program.ask_bind]
  apply proceeds_read _ _ _ _ _ rfl fun db answer writes locks ran =>
    (ran_evaluateSoftDelete db _ answer writes locks ran).1
  intro first one answer locks cleanOne stepOne ran
  rcases (ran_evaluateSoftDelete one _ answer [] locks ran).2 with
    ⟨rfl, _⟩ | ⟨now, row, rfl, found, held⟩
  · exact promise_quiet _ rfl _ _ cleanOne
  · have pinned := stepOne.locked _ _ held (by decide)
    rw [found] at pinned
    apply proceeds_step
    intro second two answer writes more stepTwo _ ran
    have pinnedTwo := stepTwo.keeps _ _ pinned
    rcases ran_writeSoftDelete _ _ _ _ answer writes more ran with
      ⟨absent, _⟩ | ⟨again, final, there, ⟨dead, rfl⟩ | ⟨live, state, counted, unmarked, rfl⟩⟩
    · rw [Progress.view, cleanOne, applyAll_nil, pinnedTwo.1] at absent
      cases absent
    · rw [Progress.view, cleanOne, applyAll_nil, pinnedTwo.1, Option.some.injEq] at there
      subst there
      intro last _ further
      have buffer : second.writes = [.put (.resource id) (row.deleted (row.version + 1) now final)] := by
        simp [stepTwo.buffer, cleanOne]
      refine .reburied id row now final _ _
        (keeps_reaches _ _ _ second two last further _ _ pinnedTwo).1 dead ?_
        (spares_written _ second last ?_)
      · simp [Progress.view, buffer, Write.apply]
      · simp [buffer, Write.key]
    · rw [Progress.view, cleanOne, applyAll_nil] at there counted unmarked
      rw [pinnedTwo.1, Option.some.injEq] at there
      subst there
      have buffer : second.writes =
          [.put (.resource id) (row.deleted (row.version + 1) now final),
           .put .retentionState state.allocated,
           .put (.marker id) (state.marker row (row.version + 1) now final)] := by
        simp [stepTwo.buffer, cleanOne]
      have statePinned := stepTwo.written (.put .retentionState state.allocated) (by simp)
      have markerPinned := stepTwo.written
        (.put (.marker id) (state.marker row (row.version + 1) now final)) (by simp)
      rw [Write.key, counted] at statePinned
      rw [Write.key, unmarked] at markerPinned
      intro last _ further
      have kept := keeps_reaches _ _ _ second two last further
      refine .buried id row state now final _ _ ⟨(kept _ _ pinnedTwo).1, live,
        (kept _ _ markerPinned).1, (kept _ _ statePinned).1, ?_, ?_, ?_⟩ (spares_written _ second last ?_)
      · simp [Progress.view, buffer, Write.apply, AList.lookup_insert_ne]
      · simp [Progress.view, buffer, Write.apply]
      · simp [stateOf, Progress.view, buffer, Write.apply, AList.lookup_insert_ne]
      · simp [buffer, Write.key]

/-- The clock is moved forward. -/
theorem safe_setTime (next : Timestamp) (db : Database) :
    Safe (commandServer platform) (commitContract platform) (.setTime next)
      (program platform (.setTime next)) .empty db := by
  apply proceeds_step
  intro grown one answer writes locks step _ ran
  obtain ⟨state, found, forward, rfl⟩ := ran_setTime _ next answer writes locks ran
  intro last _ further
  have pinned := keeps_reaches _ _ _ _ one last further _ _ (step.written _ List.mem_cons_self)
  refine .timed next state _ _ (pinned.1.trans found) forward ?_ (spares_written _ grown last ?_)
  · simp [stateOf, Progress.view, step.buffer, Progress.empty, Write.apply]
  · simp [step.buffer, Progress.empty, Write.key]

/-- The retention of markers is changed. -/
theorem safe_setGraveyardRetention (next : Interval) (db : Database) :
    Safe (commandServer platform) (commitContract platform) (.setGraveyardRetention next)
      (program platform (.setGraveyardRetention next)) .empty db := by
  apply proceeds_step
  intro grown one answer writes locks step _ ran
  rcases ran_setGraveyardRetention _ next answer writes locks ran with
    ⟨_, rfl⟩ | ⟨state, enough, found, rfl⟩
  · exact promise_quiet _ rfl _ _ step.buffer
  · intro last _ further
    have pinned := keeps_reaches _ _ _ _ one last further _ _ (step.written _ List.mem_cons_self)
    refine .prolonged next state enough _ _ (pinned.1.trans found) ?_ (spares_written _ grown last ?_)
    · simp [stateOf, Progress.view, step.buffer, Progress.empty, Write.apply]
    · simp [step.buffer, Progress.empty, Write.key]

end Writers

section Runs

variable (platform : Platform)

/-- The program of every request is safe. -/
theorem commits_safe (request : Request) (db : Database) :
    Safe (commandServer platform) (commitContract platform) request (program platform request)
      .empty db := by
  cases request with
  | rateWindow userId binding credential => exact safe_rateWindow userId binding credential db
  | command userId binding credential command attemptNumber eventId =>
    exact safe_command ⟨userId, binding, credential, command, attemptNumber, eventId⟩ db
  | register userId replicaId credential => exact safe_register userId replicaId credential db
  | challenge userId binding credential challengeId =>
    exact safe_challenge userId binding credential challengeId db
  | acknowledge userId binding credential challengeId =>
    exact safe_acknowledge userId binding credential challengeId db
  | reset userId binding credential resetRequestId =>
    exact safe_reset userId binding credential resetRequestId db
  | acknowledgeReset userId binding credential resetRequestId =>
    exact safe_acknowledgeReset userId binding credential resetRequestId db
  | classify userId binding credential resourceId incarnationId =>
    exact safe_classify userId binding credential resourceId incarnationId db
  | disable replicaId => exact safe_disable replicaId db
  | createResource id incarnationId payload grants =>
    exact safe_create id incarnationId payload grants db
  | refreshGrants grants => exact safe_refresh grants db
  | softDelete id => exact safe_softDelete id db
  | setTime next => exact safe_setTime next db
  | setGraveyardRetention next => exact safe_setGraveyardRetention next db
  | runRetention => exact safe_retention db

/-- The history of a run is a chain of commits that the contract admits. -/
theorem history_admitted (permits : System Name Row Res Failure Request Reply → Event Request → Prop)
    (db : Database) (holds : Sequenced db) (last : System Name Row Res Failure Request Reply)
    (run : Run (commandServer platform) permits (System.initial db) last) :
    Linked (commitContract platform).Admits db last.history last.db := by
  have sound : Sound (commandServer platform) (commitContract platform) db last := by
    apply run_sound (commandServer platform) (commitContract platform) permits
      (System.initial db) last db
    · exact fun _ _ _ => trivial
    · intro system index process reply earlier _ found _
      exact never_stale (commandServer platform) permits (System.initial db) system
        (fun _ _ _ _ => rfl) earlier (by simp [System.initial]) process (List.mem_of_getElem? found)
    · exact fun request store _ _ => commits_safe platform request store
    · exact fun request reply before after _ inside committed =>
        commit_keeps_sequences platform request reply before after inside committed
    · exact sound_initial (commandServer platform) (commitContract platform) db holds
    · exact run
  exact sound.linked

/-- The history of a run is a chain of classified commits between databases that keep
the invariant. -/
theorem history_committed
    (permits : System Name Row Res Failure Request Reply → Event Request → Prop)
    (db : Database) (holds : Sequenced db) (last : System Name Row Res Failure Request Reply)
    (run : Run (commandServer platform) permits (System.initial db) last) :
    Linked (Committed platform) db last.history last.db :=
  (history_admitted platform permits db holds last run).mono fun _ _ _ _ admits => admits.2.2.2

/-- One request alone is one classified commit, when it is accepted. -/
theorem serve_committed (request : Request) (db after : Database) (holds : Sequenced db)
    (reply : Reply) (served : serve (commandServer platform) request db = (.ok reply, after)) :
    Committed platform request reply db after := by
  apply safe_alone (commandServer platform) (commitContract platform) request
    (program platform request) .empty db after reply holds (commits_safe platform request db)
  rw [serve] at served
  split at served
  · cases served
  · next executed =>
    cases served
    exact executed

end Runs

end TraxOs.PowerSync
