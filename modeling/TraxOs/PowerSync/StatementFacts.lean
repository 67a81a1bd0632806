import TraxOs.PowerSync.Statements

/-!
# What each statement did

One inversion lemma for each statement that a proof about the command service
executes: from the fact that it ran to what it saw, wrote and locked. Everything
later cites these and never unfolds `execute`.
-/

namespace TraxOs.PowerSync

open TraxOs.Theory

section Effects

variable {α : Type}

@[simp] theorem answered_ran (given answer : α) (writes : List (Write Row))
    (locks : Locks Key Name) :
    (answered given : Effect α) = .ran answer writes locks ↔
      given = answer ∧ writes = [] ∧ locks = [] := by
  simp [answered, eq_comm]

@[simp] theorem putting_ran (given answer : α) (key : Key) (row : Row key)
    (writes : List (Write Row)) (locks : Locks Key Name) :
    (putting given key row : Effect α) = .ran answer writes locks ↔
      given = answer ∧ writes = [.put key row] ∧ locks = [] := by
  simp [putting, eq_comm]

@[simp] theorem raised_ran (answer : α) (writes : List (Write Row)) (locks : Locks Key Name) :
    (raised : Effect α) = .ran answer writes locks ↔ False := by
  simp [raised]

/-- A statement over the retention state that ran has found it. -/
theorem withState_ran (db : Database) (effect : RetentionState → Effect α) (answer : α)
    (writes : List (Write Row)) (locks : Locks Key Name)
    (ran : withState db effect = .ran answer writes locks) :
    ∃ state, db.lookup Key.retentionState = some state ∧ effect state = .ran answer writes locks := by
  rw [withState] at ran
  split at ran
  · next state found => exact ⟨state, found, ran⟩
  · simp at ran

/-- An UPDATE that ran has found a row or written nothing. -/
theorem updating_ran {T : Type} (found : Option T) (effect : T → Effect Unit) (answer : Unit)
    (writes : List (Write Row)) (locks : Locks Key Name)
    (ran : updating found effect = .ran answer writes locks) :
    (found = none ∧ writes = []) ∨
      ∃ row, found = some row ∧ effect row = .ran answer writes locks := by
  cases found with
  | none =>
    simp only [updating, answered_ran] at ran
    exact Or.inl ⟨rfl, ran.2.1⟩
  | some row => exact Or.inr ⟨row, rfl, ran⟩

end Effects

section Equations

-- The equations of `execute` are made here, once for all lemmas below.
attribute [local simp] execute

end Equations

section Inversions

variable (db : Database)

theorem ran_lockReplica (replicaId : Uuid) (answer : Option LockedReplica)
    (writes : List (Write Row)) (locks : Locks Key Name)
    (ran : execute (Op.lockReplica replicaId) db = .ran answer writes locks) :
    writes = [] ∧ ∀ locked, answer = some locked →
      db.lookup (Key.replica replicaId) = some locked.row ∧
        (Resource.row (Key.replica replicaId), LockMode.update) ∈ locks := by
  simp only [execute] at ran
  split at ran
  · next row state found _ =>
    cases ran
    refine ⟨rfl, ?_⟩
    rintro locked same
    cases same
    exact ⟨found, List.mem_cons_self⟩
  · simp only [answered_ran] at ran
    obtain ⟨rfl, rfl, _⟩ := ran
    exact ⟨rfl, by simp⟩

theorem ran_countRequest (replicaId : Uuid) (replicaEpoch : Nat) (answer : Option Nat)
    (writes : List (Write Row)) (locks : Locks Key Name)
    (ran : execute (Op.countRequest replicaId replicaEpoch) db = .ran answer writes locks) :
    (answer = none ∧ writes = []) ∨ ∃ window, writes = [.put (.rateWindow replicaId) window] := by
  simp only [execute] at ran
  obtain ⟨state, _, ran⟩ := withState_ran db _ answer writes locks ran
  split at ran
  · simp only [putting_ran] at ran
    exact Or.inr ⟨_, ran.2.1⟩
  · split at ran
    · simp only [putting_ran] at ran
      exact Or.inr ⟨_, ran.2.1⟩
    · split at ran
      · simp only [putting_ran] at ran
        exact Or.inr ⟨_, ran.2.1⟩
      · simp only [answered_ran] at ran
        exact Or.inl ⟨ran.1.symm, ran.2.1⟩

theorem ran_acquireGrantReadLock (answer : Unit) (writes : List (Write Row))
    (locks : Locks Key Name)
    (ran : execute Op.acquireGrantReadLock db = .ran answer writes locks) :
    writes = [] ∧ (Resource.row Key.syncGrants, LockMode.share) ∈ locks := by
  cases ran
  exact ⟨rfl, List.mem_cons_self⟩

theorem ran_refreshReplica (replicaId : Uuid) (answer : Bool) (writes : List (Write Row))
    (locks : Locks Key Name)
    (ran : execute (Op.refreshReplica replicaId) db = .ran answer writes locks) : writes = [] := by
  simp only [execute] at ran
  split at ran
  · simp only [answered_ran] at ran
    exact ran.2.1
  · simp at ran

theorem ran_selectActiveGrant (userId resourceId : Uuid) (answer : Bool) (writes : List (Write Row))
    (locks : Locks Key Name)
    (ran : execute (Op.selectActiveGrant userId resourceId) db = .ran answer writes locks) :
    writes = [] ∧
      answer = (db.lookup Key.syncGrants).any fun table => table.allow userId resourceId := by
  simp only [execute, answered_ran] at ran
  exact ⟨ran.2.1, ran.1.symm⟩

theorem ran_selectReceipt (userId commandId : Uuid) (answer : Option Receipt)
    (writes : List (Write Row)) (locks : Locks Key Name)
    (ran : execute (Op.selectReceipt userId commandId) db = .ran answer writes locks) :
    writes = [] ∧ answer = db.lookup (Key.receipt userId commandId) := by
  simp only [execute, answered_ran] at ran
  exact ⟨ran.2.1, ran.1.symm⟩

theorem ran_insertReceiptOrNothing (userId commandId : Uuid) (row : Receipt) (answer : Unit)
    (writes : List (Write Row)) (locks : Locks Key Name)
    (ran : execute (Op.insertReceiptOrNothing userId commandId row) db = .ran answer writes locks) :
    ((∃ found, db.lookup (Key.receipt userId commandId) = some found) ∧ writes = []) ∨
      (db.lookup (Key.receipt userId commandId) = none ∧
        writes = [.put (.receipt userId commandId) row]) := by
  simp only [execute] at ran
  split at ran
  · next found there =>
    simp only [answered_ran] at ran
    exact Or.inl ⟨⟨found, there⟩, ran.2.1⟩
  · next absent =>
    simp only [putting_ran] at ran
    exact Or.inr ⟨absent, ran.2.1⟩

theorem ran_lockResource (id : Uuid) (answer : Option Resource) (writes : List (Write Row))
    (locks : Locks Key Name)
    (ran : execute (Op.lockResource id) db = .ran answer writes locks) :
    writes = [] ∧ answer = db.lookup (Key.resource id) ∧ (answer.isSome = true →
      (Resource.row (Key.resource id), LockMode.update) ∈ locks) := by
  simp only [execute] at ran
  split at ran
  · next row found =>
    cases ran
    exact ⟨rfl, found.symm, fun _ => List.mem_cons_self⟩
  · next absent =>
    simp only [answered_ran] at ran
    obtain ⟨rfl, rfl, _⟩ := ran
    exact ⟨rfl, absent.symm, by simp⟩

theorem ran_insertReceipt (userId commandId : Uuid) (row : Receipt) (answer : Unit)
    (writes : List (Write Row)) (locks : Locks Key Name)
    (ran : execute (Op.insertReceipt userId commandId row) db = .ran answer writes locks) :
    db.lookup (Key.receipt userId commandId) = none ∧
      writes = [.put (.receipt userId commandId) row] := by
  simp only [execute] at ran
  split at ran
  · simp at ran
  · next absent =>
    simp only [putting_ran] at ran
    exact ⟨absent, ran.2.1⟩

theorem ran_updateResource (id : Uuid) (payload : Text) (version : Nat) (answer : Unit)
    (writes : List (Write Row)) (locks : Locks Key Name)
    (ran : execute (Op.updateResource id payload version) db = .ran answer writes locks) :
    (db.lookup (Key.resource id) = none ∧ writes = []) ∨
      ∃ row, ∃ positive : 0 < version, db.lookup (Key.resource id) = some row ∧
        writes = [.put (.resource id) (row.updated payload version positive)] := by
  simp only [execute] at ran
  rcases updating_ran _ _ answer writes locks ran with ⟨absent, none⟩ | ⟨row, found, ran⟩
  · exact Or.inl ⟨absent, none⟩
  · split at ran
    · simp at ran
    · split at ran
      · next positive =>
        simp only [putting_ran] at ran
        exact Or.inr ⟨row, positive, found, ran.2.1⟩
      · simp at ran

theorem ran_evaluateSoftDelete (id : Uuid) (answer : Option (Timestamp × Nat))
    (writes : List (Write Row)) (locks : Locks Key Name)
    (ran : execute (Op.evaluateSoftDelete id) db = .ran answer writes locks) :
    writes = [] ∧ ((answer = none ∧ db.lookup (Key.resource id) = none) ∨
      ∃ (now : Timestamp) (row : Resource), answer = some (now, row.version) ∧
        db.lookup (Key.resource id) = some row ∧
          (Resource.row (Key.resource id), LockMode.noKeyUpdate) ∈ locks) := by
  simp only [execute] at ran
  obtain ⟨state, _, ran⟩ := withState_ran db _ answer writes locks ran
  split at ran
  · next row found =>
    cases ran
    exact ⟨rfl, Or.inr ⟨state.effectiveNow, row, rfl, found, List.mem_cons_self⟩⟩
  · next absent =>
    simp only [answered_ran] at ran
    exact ⟨ran.2.1, Or.inl ⟨ran.1.symm, absent⟩⟩

/-- A soft delete of a live resource allocates a marker, one of a deleted resource
only rewrites the row. -/
theorem ran_writeSoftDelete (id : Uuid) (version : Nat) (deletedAt : Timestamp) (answer : Unit)
    (writes : List (Write Row)) (locks : Locks Key Name)
    (ran : execute (Op.writeSoftDelete id version deletedAt) db = .ran answer writes locks) :
    (db.lookup (Key.resource id) = none ∧ writes = []) ∨
      ∃ row, ∃ final : 1 < version, db.lookup (Key.resource id) = some row ∧
        ((row.deletedAt ≠ none ∧
            writes = [.put (.resource id) (row.deleted version deletedAt final)]) ∨
          (row.deletedAt = none ∧ ∃ state, db.lookup Key.retentionState = some state ∧
            db.lookup (Key.marker id) = none ∧
              writes = [.put (.resource id) (row.deleted version deletedAt final),
                .put .retentionState state.allocated,
                .put (.marker id) (state.marker row version deletedAt final)])) := by
  simp only [execute] at ran
  rcases updating_ran _ _ answer writes locks ran with ⟨absent, none⟩ | ⟨row, found, ran⟩
  · exact Or.inl ⟨absent, none⟩
  · refine Or.inr ?_
    split at ran
    · next final =>
      refine ⟨row, final, found, ?_⟩
      split at ran
      · next earlier dead =>
        split at ran
        · simp only [putting_ran] at ran
          exact Or.inl ⟨by simp [dead], ran.2.1⟩
        · simp at ran
      · next live =>
        obtain ⟨state, present, ran⟩ := withState_ran db _ answer writes locks ran
        split at ran
        · simp at ran
        · next unmarked =>
          cases ran
          exact Or.inr ⟨live, state, present, by simpa using unmarked, rfl⟩
    · simp at ran

theorem ran_insertChangeEvent (id userId commandId resourceId : Uuid) (ordinal : Nat) (type : Text)
    (resultingVersion : Nat) (answer : Unit) (writes : List (Write Row)) (locks : Locks Key Name)
    (ran : execute (Op.insertChangeEvent id userId commandId resourceId ordinal type
      resultingVersion) db = .ran answer writes locks) :
    db.lookup (Key.changeEvent id) = none ∧ ∃ row : ChangeEvent, row.userId = userId ∧
      row.commandId = commandId ∧ row.resourceId = resourceId ∧
        row.resultingVersion = resultingVersion ∧ writes = [.put (.changeEvent id) row] := by
  simp only [execute] at ran
  split at ran
  · simp at ran
  · next free =>
    split at ran
    · simp only [putting_ran] at ran
      rw [not_or] at free
      exact ⟨by simpa using free.1, _, rfl, rfl, rfl, rfl, ran.2.1⟩
    · simp at ran

theorem ran_insertReplica (replicaId userId : Uuid) (credentialDigest : Text) (answer : Unit)
    (writes : List (Write Row)) (locks : Locks Key Name)
    (ran : execute (Op.insertReplica replicaId userId credentialDigest) db =
      .ran answer writes locks) :
    db.lookup (Key.replica replicaId) = none ∧ ∃ now,
      writes = [.put (.replica replicaId) (registeredReplica userId credentialDigest now)] := by
  simp only [execute] at ran
  obtain ⟨state, _, ran⟩ := withState_ran db _ answer writes locks ran
  split at ran
  · simp at ran
  · next absent =>
    simp only [putting_ran] at ran
    exact ⟨absent, state.effectiveNow, ran.2.1⟩

theorem ran_deleteChallenges (replicaId : Uuid) (answer : Unit) (writes : List (Write Row))
    (locks : Locks Key Name)
    (ran : execute (Op.deleteChallenges replicaId) db = .ran answer writes locks) :
    ∀ write ∈ writes, ∃ id, write.key = .challenge id := by
  cases ran
  intro write member
  obtain ⟨id, _, rfl⟩ := List.mem_map.mp member
  exact ⟨id, rfl⟩

theorem ran_insertChallenge (id : Uuid) (row : Challenge) (answer : Unit) (writes : List (Write Row))
    (locks : Locks Key Name)
    (ran : execute (Op.insertChallenge id row) db = .ran answer writes locks) :
    writes = [.put (.challenge id) row] := by
  simp only [execute] at ran
  split at ran
  · simp at ran
  · cases ran
    rfl

theorem ran_acknowledgeChallenge (id replicaId : Uuid) (replicaEpoch : Nat) (answer : Option Nat)
    (writes : List (Write Row)) (locks : Locks Key Name)
    (ran : execute (Op.acknowledgeChallenge id replicaId replicaEpoch) db =
      .ran answer writes locks) :
    (answer = none ∧ writes = []) ∨
      ∃ sequence row, answer = some sequence ∧ writes = [.put (.challenge id) row] := by
  simp only [execute] at ran
  split at ran
  · split at ran
    · simp only [putting_ran] at ran
      exact Or.inr ⟨_, _, ran.1.symm, ran.2.1⟩
    · simp only [answered_ran] at ran
      exact Or.inl ⟨ran.1.symm, ran.2.1⟩
  · simp only [answered_ran] at ran
    exact Or.inl ⟨ran.1.symm, ran.2.1⟩

theorem ran_recordAcknowledgement (replicaId : Uuid) (sequence : Nat) (answer : Unit)
    (writes : List (Write Row)) (locks : Locks Key Name)
    (ran : execute (Op.recordAcknowledgement replicaId sequence) db = .ran answer writes locks) :
    (db.lookup (Key.replica replicaId) = none ∧ writes = []) ∨
      ∃ row now, db.lookup (Key.replica replicaId) = some row ∧
        writes = [.put (.replica replicaId) (row.acknowledged now sequence)] := by
  simp only [execute] at ran
  obtain ⟨state, _, ran⟩ := withState_ran db _ answer writes locks ran
  rcases updating_ran _ _ answer writes locks ran with ⟨absent, none⟩ | ⟨row, found, ran⟩
  · exact Or.inl ⟨absent, none⟩
  · simp only [putting_ran] at ran
    exact Or.inr ⟨row, state.effectiveNow, found, ran.2.1⟩

theorem ran_rotateReplica (replicaId : Uuid) (targetEpoch : Nat) (credentialDigest : Text)
    (resetRequestId : Uuid) (answer : Unit) (writes : List (Write Row)) (locks : Locks Key Name)
    (ran : execute (Op.rotateReplica replicaId targetEpoch credentialDigest resetRequestId) db =
      .ran answer writes locks) :
    (db.lookup (Key.replica replicaId) = none ∧ writes = []) ∨
      ∃ row now, ∃ positive : 0 < targetEpoch, db.lookup (Key.replica replicaId) = some row ∧
        writes = [.put (.replica replicaId)
          (row.rotated now targetEpoch credentialDigest resetRequestId positive)] := by
  simp only [execute] at ran
  obtain ⟨state, _, ran⟩ := withState_ran db _ answer writes locks ran
  rcases updating_ran _ _ answer writes locks ran with ⟨absent, none⟩ | ⟨row, found, ran⟩
  · exact Or.inl ⟨absent, none⟩
  · split at ran
    · next positive =>
      simp only [putting_ran] at ran
      exact Or.inr ⟨row, state.effectiveNow, positive, found, ran.2.1⟩
    · simp at ran

theorem ran_deleteRateWindow (replicaId : Uuid) (answer : Unit) (writes : List (Write Row))
    (locks : Locks Key Name)
    (ran : execute (Op.deleteRateWindow replicaId) db = .ran answer writes locks) :
    writes = [.drop (.rateWindow replicaId)] := by
  cases ran
  rfl

theorem ran_settleReset (replicaId resetRequestId : Uuid) (answer : Unit)
    (writes : List (Write Row)) (locks : Locks Key Name)
    (ran : execute (Op.settleReset replicaId resetRequestId) db = .ran answer writes locks) :
    (db.lookup (Key.replica replicaId) = none ∧ writes = []) ∨
      ∃ row, db.lookup (Key.replica replicaId) = some row ∧
        writes = [.put (.replica replicaId) (row.settled resetRequestId)] := by
  simp only [execute] at ran
  rcases updating_ran _ _ answer writes locks ran with ⟨absent, none⟩ | ⟨row, found, ran⟩
  · exact Or.inl ⟨absent, none⟩
  · simp only [putting_ran] at ran
    exact Or.inr ⟨row, found, ran.2.1⟩

theorem ran_disableReplica (replicaId : Uuid) (answer : Unit) (writes : List (Write Row))
    (locks : Locks Key Name)
    (ran : execute (Op.disableReplica replicaId) db = .ran answer writes locks) :
    (db.lookup (Key.replica replicaId) = none ∧ writes = []) ∨
      ∃ (row : Replica) (now : Timestamp), db.lookup (Key.replica replicaId) = some row ∧
        writes = [.put (.replica replicaId) (row.disabled now)] := by
  simp only [execute] at ran
  obtain ⟨state, _, ran⟩ := withState_ran db _ answer writes locks ran
  rcases updating_ran _ _ answer writes locks ran with ⟨absent, none⟩ | ⟨row, found, ran⟩
  · exact Or.inl ⟨absent, none⟩
  · simp only [putting_ran] at ran
    exact Or.inr ⟨row, state.effectiveNow, found, ran.2.1⟩

theorem ran_selectPreserved (userId resourceId incarnationId : Uuid) (answer : Bool)
    (writes : List (Write Row)) (locks : Locks Key Name)
    (ran : execute (Op.selectPreserved userId resourceId incarnationId) db =
      .ran answer writes locks) : writes = [] := by
  simp only [execute, answered_ran] at ran
  exact ran.2.1

theorem ran_insertResource (id incarnationId : Uuid) (payload : Text) (answer : Unit)
    (writes : List (Write Row)) (locks : Locks Key Name)
    (ran : execute (Op.insertResource id incarnationId payload) db = .ran answer writes locks) :
    db.lookup (Key.resource id) = none ∧
      writes = [.put (.resource id) ⟨incarnationId, some payload, 1, none, by decide⟩] := by
  simp only [execute] at ran
  split at ran
  · simp at ran
  · next free =>
    simp only [putting_ran] at ran
    rw [not_or, not_or] at free
    exact ⟨by simpa using free.2.1, ran.2.1⟩

theorem ran_acquireGrantWriteLock (answer : Unit) (writes : List (Write Row))
    (locks : Locks Key Name)
    (ran : execute Op.acquireGrantWriteLock db = .ran answer writes locks) :
    writes = [] ∧ (Resource.row Key.syncGrants, LockMode.update) ∈ locks := by
  cases ran
  exact ⟨rfl, List.mem_cons_self⟩

theorem ran_rebuildGrants (grants : List Grant) (answer : Unit) (writes : List (Write Row))
    (locks : Locks Key Name)
    (ran : execute (Op.rebuildGrants grants) db = .ran answer writes locks) :
    writes = [.put .syncGrants (SyncGrants.rebuilt db
      (grants.filter fun grant => (db.lookup (Key.resource grant.resourceId)).isSome))] := by
  simp only [execute, putting_ran] at ran
  exact ran.2.1

theorem ran_setTime (next : Timestamp) (answer : Unit) (writes : List (Write Row))
    (locks : Locks Key Name)
    (ran : execute (Op.setTime next) db = .ran answer writes locks) :
    ∃ state : RetentionState, db.lookup Key.retentionState = some state ∧
      state.effectiveNow ≤ next ∧ writes = [.put .retentionState (state.advanced next)] := by
  simp only [execute] at ran
  obtain ⟨state, found, ran⟩ := withState_ran db _ answer writes locks ran
  split at ran
  · simp at ran
  · next forward =>
    cases ran
    exact ⟨state, found, Nat.le_of_not_lt forward, rfl⟩

theorem ran_setGraveyardRetention (next : Interval) (answer : Unit) (writes : List (Write Row))
    (locks : Locks Key Name)
    (ran : execute (Op.setGraveyardRetention next) db = .ran answer writes locks) :
    (db.lookup Key.retentionState = none ∧ writes = []) ∨
      ∃ (state : RetentionState) (enough : days 90 ≤ next),
        db.lookup Key.retentionState = some state ∧
          writes = [.put .retentionState (state.retaining next enough)] := by
  simp only [execute] at ran
  split at ran
  · next enough =>
    rcases updating_ran _ _ answer writes locks ran with ⟨absent, none⟩ | ⟨state, found, ran⟩
    · exact Or.inl ⟨absent, none⟩
    · simp only [putting_ran] at ran
      exact Or.inr ⟨state, enough, found, ran.2.1⟩
  · simp at ran

theorem ran_acquireRetentionLock (answer : Unit) (writes : List (Write Row))
    (locks : Locks Key Name)
    (ran : execute Op.acquireRetentionLock db = .ran answer writes locks) : writes = [] := by
  cases ran
  rfl

/-- What the clearing of payloads writes are rows of deleted resources with nothing
but their payload changed. -/
theorem ran_clearPayloads (answer : Nat) (writes : List (Write Row)) (locks : Locks Key Name)
    (ran : execute Op.clearPayloads db = .ran answer writes locks) :
    ∀ write ∈ writes, ∃ (id : Uuid) (row : Resource), db.lookup (Key.resource id) = some row ∧
      write = .put (.resource id) { row with payload := none } := by
  simp only [execute] at ran
  obtain ⟨state, _, ran⟩ := withState_ran db _ answer writes locks ran
  cases ran
  intro write member
  obtain ⟨⟨id, row⟩, found, rfl⟩ := List.mem_map.mp member
  refine ⟨id, row, ?_, rfl⟩
  obtain ⟨key, stored, here, picked⟩ := (mem_collect _ _ _).mp found
  cases key with
  | resource other =>
    simp only [clearable] at picked
    split at picked
    · split at picked
      · simp only [Option.some.injEq, Prod.mk.injEq] at picked
        obtain ⟨rfl, rfl⟩ := picked
        exact here
      · cases picked
    · cases picked
  | _ => simp [clearable] at picked

theorem ran_selectExpired (answer : List (Uuid × Marker)) (writes : List (Write Row))
    (locks : Locks Key Name)
    (ran : execute Op.selectExpired db = .ran answer writes locks) :
    writes = [] ∧ ∃ state, db.lookup Key.retentionState = some state ∧
      (∀ id marker, (id, marker) ∈ answer ↔
        db.lookup (Key.marker id) = some marker ∧ marker.expired state = true) ∧
      ∀ entry ∈ answer, (Resource.row (Key.marker entry.1), LockMode.update) ∈ locks := by
  simp only [execute] at ran
  obtain ⟨state, found, ran⟩ := withState_ran db _ answer writes locks ran
  cases ran
  refine ⟨rfl, state, found, ?_, ?_⟩
  · intro id marker
    rw [List.mem_filter, mem_markers]
  · intro entry member
    exact List.mem_map.mpr ⟨entry, member, rfl⟩

theorem ran_deleteExpired (expired : List (Uuid × Marker)) (answer : Nat)
    (writes : List (Write Row)) (locks : Locks Key Name)
    (ran : execute (Op.deleteExpired expired) db = .ran answer writes locks) :
    answer = (expired.filter fun entry => (db.lookup (Key.marker entry.1)).any
        fun row => row.incarnationId = entry.2.incarnationId).length ∧
      writes = (expiredKeys db expired).map .drop ++ [.put .syncGrants (SyncGrants.rebuilt db
        ((grantsOf db).filter fun grant =>
          (db.lookup (Key.resource grant.resourceId)).isSome &&
            decide (Key.resource grant.resourceId ∉ expiredKeys db expired)))] := by
  cases ran
  exact ⟨rfl, rfl⟩

theorem ran_selectNextFloor (answer : Nat) (writes : List (Write Row)) (locks : Locks Key Name)
    (ran : execute Op.selectNextFloor db = .ran answer writes locks) :
    writes = [] ∧ ∃ state, db.lookup Key.retentionState = some state ∧
      (∀ id marker, db.lookup (Key.marker id) = some marker → answer ≤ marker.deletionSequence) ∧
      ((∃ id marker, db.lookup (Key.marker id) = some marker ∧ marker.deletionSequence = answer) ∨
        answer = state.nextDeletionSequence) := by
  simp only [execute] at ran
  obtain ⟨state, found, ran⟩ := withState_ran db _ answer writes locks ran
  simp only [answered_ran] at ran
  obtain ⟨rfl, rfl, _⟩ := ran
  refine ⟨rfl, state, found, ?_⟩
  cases least : ((markers db).map fun entry => entry.2.deletionSequence).min? with
  | none =>
    rw [List.min?_eq_none_iff, List.map_eq_nil_iff] at least
    refine ⟨?_, Or.inr rfl⟩
    intro id marker there
    have member := (mem_markers db id marker).mpr there
    rw [least] at member
    cases member
  | some smallest =>
    obtain ⟨member, below⟩ := List.min?_eq_some_iff.mp least
    refine ⟨?_, Or.inl ?_⟩
    · intro id marker there
      exact below _ (List.mem_map.mpr ⟨(id, marker), (mem_markers db id marker).mpr there, rfl⟩)
    · obtain ⟨⟨id, marker⟩, present, same⟩ := List.mem_map.mp member
      exact ⟨id, marker, (mem_markers db id marker).mp present, same⟩

theorem ran_raiseFloor (next : Nat) (answer : Unit) (writes : List (Write Row))
    (locks : Locks Key Name)
    (ran : execute (Op.raiseFloor next) db = .ran answer writes locks) :
    ∃ state, db.lookup Key.retentionState = some state ∧
      writes = [.put .retentionState (state.withFloor next)] := by
  simp only [execute] at ran
  obtain ⟨state, found, ran⟩ := withState_ran db _ answer writes locks ran
  simp only [putting_ran] at ran
  exact ⟨state, found, ran.2.1⟩

theorem ran_selectFloor (answer : Nat) (writes : List (Write Row)) (locks : Locks Key Name)
    (ran : execute Op.selectFloor db = .ran answer writes locks) : writes = [] := by
  simp only [execute] at ran
  obtain ⟨state, _, ran⟩ := withState_ran db _ answer writes locks ran
  simp only [answered_ran] at ran
  exact ran.2.1

end Inversions

end TraxOs.PowerSync
