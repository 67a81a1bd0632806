import TraxOs.Theory.Windows
import TraxOs.PowerSync.Rotation

/-!
# The rate limit of command requests

A command request is counted in the rate window of its replica before its command is
executed. The requests of one replica and epoch are followed over every sequence of
requests to the server, with the clock moved forward in between by any amount.

The log holds the accepted requests, each with the clock reading of its transaction and
the start of the stored window that counted it. While the replica is in the epoch, the
stored count bounds what the log holds of the stored window; every earlier window had run
out when the stored one opened.
-/

namespace TraxOs.PowerSync

open TraxOs.Theory

/-- `maxCommandRequestsPerMinute`. -/
def maxCommandRequestsPerMinute : Nat := 64

/-- The window that is stored for a replica. -/
def storedWindow (replicaId : Uuid) (db : Database) : Option RateWindow :=
  db.lookup (Key.rateWindow replicaId)

/-- The clock of a database, `ps8_now()`. -/
def clockOf (db : Database) : Timestamp := ((stateOf db).map RetentionState.effectiveNow).getD 0

/-- What the INSERT of `consumeCommandRateWindow` does: open a window, count in the stored
one, or write nothing. -/
inductive Counts (replicaId : Uuid) (replicaEpoch : Nat) (db : Database) :
    Option Nat → List (Write Row) → Prop where
  | opened (state : RetentionState) (found : stateOf db = some state)
      (expired : ∀ window, storedWindow replicaId db = some window →
        window.replicaEpoch ≠ replicaEpoch ∨
          window.windowStartedAt + minutes 1 ≤ state.effectiveNow) :
      Counts replicaId replicaEpoch db (some 1)
        [.put (.rateWindow replicaId) ⟨replicaEpoch, state.effectiveNow, 1, by decide⟩]
  | counted (state : RetentionState) (window : RateWindow)
      (counts : 0 < window.requestCount + 1 ∧ window.requestCount + 1 ≤ 64)
      (found : stateOf db = some state) (stored : storedWindow replicaId db = some window)
      (same : window.replicaEpoch = replicaEpoch)
      (running : state.effectiveNow < window.windowStartedAt + minutes 1) :
      Counts replicaId replicaEpoch db (some (window.requestCount + 1))
        [.put (.rateWindow replicaId)
          ⟨replicaEpoch, window.windowStartedAt, window.requestCount + 1, counts⟩]
  | limited (state : RetentionState) (window : RateWindow) (found : stateOf db = some state)
      (stored : storedWindow replicaId db = some window) (same : window.replicaEpoch = replicaEpoch)
      (running : state.effectiveNow < window.windowStartedAt + minutes 1)
      (full : window.requestCount = maxCommandRequestsPerMinute) :
      Counts replicaId replicaEpoch db none []

/-- The statement does one of these. -/
theorem countRequest_counts (replicaId : Uuid) (replicaEpoch : Nat) (db : Database)
    (answer : Option Nat) (writes : List (Write Row)) (locks : Locks Key Name)
    (ran : execute (Op.countRequest replicaId replicaEpoch) db = .ran answer writes locks) :
    Counts replicaId replicaEpoch db answer writes := by
  simp only [execute] at ran
  obtain ⟨state, found, ran⟩ := withState_ran db _ answer writes locks ran
  split at ran
  · next absent =>
    simp only [putting_ran] at ran
    obtain ⟨rfl, rfl, _⟩ := ran
    refine .opened state found fun window stored => ?_
    rw [storedWindow, absent] at stored
    cases stored
  · next window stored =>
    split at ran
    · next expired =>
      simp only [putting_ran] at ran
      obtain ⟨rfl, rfl, _⟩ := ran
      refine .opened state found fun other there => ?_
      rw [storedWindow, stored, Option.some.injEq] at there
      exact there ▸ expired
    · next running =>
      simp only [not_or, not_not, Nat.not_le, ne_eq] at running
      split at ran
      · next within =>
        simp only [putting_ran] at ran
        obtain ⟨rfl, rfl, _⟩ := ran
        exact .counted state window _ found stored running.1 running.2
      · next beyond =>
        simp only [answered_ran] at ran
        obtain ⟨rfl, rfl, _⟩ := ran
        have bound := window.counted.2
        refine .limited state window found stored running.1 running.2 ?_
        rw [maxCommandRequestsPerMinute]
        omega

/-- The statement raises no error where the clock is. -/
theorem countRequest_runs (replicaId : Uuid) (replicaEpoch : Nat) (db : Database)
    (state : RetentionState) (found : stateOf db = some state) :
    ∃ answer writes locks,
      execute (Op.countRequest replicaId replicaEpoch) db = .ran answer writes locks := by
  rw [stateOf] at found
  simp only [execute, withState, found]
  split
  · exact ⟨_, _, _, rfl⟩
  · split
    · exact ⟨_, _, _, rfl⟩
    · split
      · exact ⟨_, _, _, rfl⟩
      · exact ⟨_, _, _, rfl⟩

section Transactions

variable {platform : Platform}

/-- `lockReplica` alone: it writes nothing, and what it returns accepts the credential. -/
theorem alone_lockReplica (userId : Uuid) (binding : ReplicaBinding) (credential : Text)
    (db : Database) :
    ∃ found, alone (commandServer platform) (lockReplica platform userId binding credential) db =
        .ok (found, db) ∧
      ∀ locked, found = some locked →
        Presents platform db userId binding credential locked.row ∧
          ∃ state, stateOf db = some state := by
  simp only [lockReplica, Program.ask_bind, alone, commandServer, execute]
  cases present : db.lookup (Key.replica binding.replicaId) with
  | none => exact ⟨none, rfl, by simp⟩
  | some row =>
    cases counted : db.lookup Key.retentionState with
    | none => exact ⟨none, rfl, by simp⟩
    | some state =>
      simp only [applyAll_nil]
      split
      · exact ⟨none, rfl, by simp⟩
      · next accepted =>
        refine ⟨some _, rfl, ?_⟩
        rintro locked same
        cases same
        simp only [not_or, not_not, ne_eq] at accepted
        exact ⟨⟨present, accepted⟩, state, counted⟩

/-- The transaction of the rate window counts the request, or it is rolled back with an
answer. -/
inductive Rated (platform : Platform) (userId : Uuid) (binding : ReplicaBinding)
    (credential : Text) (db : Database) : Except Failure Reply × Database → Prop where
  | accepted (row : Replica) (count : Nat) (writes : List (Write Row))
      (presents : Presents platform db userId binding credential row)
      (counts : Counts binding.replicaId binding.replicaEpoch db (some count) writes) :
      Rated platform userId binding credential db (.ok .accepted, applyAll writes db)
  | refused (refusal : Refusal) :
      Rated platform userId binding credential db (.error (.rolledBack refusal), db)

/-- It does nothing else. -/
theorem serve_rated (userId : Uuid) (binding : ReplicaBinding) (credential : Text)
    (db : Database) :
    Rated platform userId binding credential db
      (serve (commandServer platform) (.rateWindow userId binding credential) db) := by
  obtain ⟨found, locking, accepted⟩ := @alone_lockReplica platform userId binding
    credential db
  have executed : alone (commandServer platform)
      ((commandServer platform).program (.rateWindow userId binding credential)) db =
        alone (commandServer platform) (consumeCommandRateWindow platform userId binding credential)
          db := rfl
  rw [consumeCommandRateWindow, alone_bind, locking] at executed
  rw [serve, executed]
  cases found with
  | none => exact .refused .invalidReplica
  | some locked =>
    obtain ⟨presents, state, counted⟩ := accepted locked rfl
    dsimp only
    split
    · next failed =>
      split at failed
      · cases failed
        exact .refused .replicaResetRequired
      · obtain ⟨answer, writes, locks, ran⟩ := countRequest_runs binding.replicaId
          binding.replicaEpoch db state counted
        rw [Program.ask_bind, alone_ran _ _ _ _ answer writes locks ran] at failed
        cases answer with
        | none =>
          cases failed
          exact .refused .commandRateLimited
        | some count => cases failed
    · next done =>
      split at done
      · cases done
      · obtain ⟨answer, writes, locks, ran⟩ := countRequest_runs binding.replicaId
          binding.replicaEpoch db state counted
        rw [Program.ask_bind, alone_ran _ _ _ _ answer writes locks ran] at done
        cases answer with
        | none => cases done
        | some count =>
          cases done
          exact .accepted locked.row count writes presents
            (countRequest_counts _ _ db (some count) writes locks ran)

/-- The clock of a commit is not behind that of the one before. -/
theorem commit_clock (request : Request) (reply : Reply) (before after : Database)
    (committed : Committed platform request reply before after) (state : RetentionState)
    (found : stateOf before = some state) :
    ∃ later, stateOf after = some later ∧ state.effectiveNow ≤ later.effectiveNow := by
  have spared : ∀ keys, Key.retentionState ∉ keys → Spares keys before after →
      ∃ later, stateOf after = some later ∧ state.effectiveNow ≤ later.effectiveNow := by
    intro keys apart spares
    exact ⟨state, (spares _ apart).trans found, le_rfl⟩
  have allocated : ∀ id row counted version deletedAt final,
      Buried id row counted version deletedAt final before after →
        ∃ later, stateOf after = some later ∧ state.effectiveNow ≤ later.effectiveNow := by
    intro id row counted version deletedAt final buried
    refine ⟨_, buried.allocated, ?_⟩
    rw [buried.counted, Option.some.injEq] at found
    rw [← found]
    rfl
  cases committed with
  | quiet => exact ⟨state, found, le_rfl⟩
  | counted _ _ _ _ _ _ _ spares => exact spared _ (by simp) spares
  | registered _ _ _ _ _ _ _ _ spares => exact spared _ (by simp) spares
  | challenged _ _ _ _ _ _ _ _ _ _ spares => exact ⟨state, (spares _ (by simp)).trans found, le_rfl⟩
  | acknowledged _ _ _ _ _ _ _ _ _ _ _ spares => exact spared _ (by simp) spares
  | rotated _ _ _ _ _ _ _ _ _ _ _ _ spares => exact spared _ (by simp) spares
  | repeated => exact ⟨state, found, le_rfl⟩
  | settled _ _ _ _ _ _ _ _ _ _ spares => exact spared _ (by simp) spares
  | settledBefore => exact ⟨state, found, le_rfl⟩
  | classified => exact ⟨state, found, le_rfl⟩
  | disabled _ _ _ _ _ _ _ spares => exact spared _ (by simp) spares
  | replayed => exact ⟨state, found, le_rfl⟩
  | deniedAgain => exact ⟨state, found, le_rfl⟩
  | denied call _ _ _ _ _ records => exact spared _ (by simp) records.spared
  | refused call _ _ _ _ _ _ _ _ _ records => exact spared _ (by simp) records.spared
  | applied call row reply _ _ presents applies =>
    rcases applies.buries with ⟨_, spares⟩ | ⟨_, _, _, _, buried, _⟩
    · exact spared _ (by simp) spares
    · exact allocated _ _ _ _ _ _ buried
  | created _ _ _ _ _ _ _ _ _ spares => exact spared _ (by simp) spares
  | refreshed _ _ _ _ spares => exact spared _ (by simp) spares
  | buried _ _ _ _ _ _ _ buried => exact allocated _ _ _ _ _ _ buried
  | reburied _ _ _ _ _ _ _ _ _ spares => exact spared _ (by simp) spares
  | timed next old _ _ there forward written =>
    rw [there, Option.some.injEq] at found
    exact ⟨_, written, found ▸ forward⟩
  | prolonged next old enough _ _ there written =>
    rw [there, Option.some.injEq] at found
    exact ⟨_, written, found ▸ le_rfl⟩
  | retained payloads purged floor looked expired next _ _ retains =>
    obtain ⟨old, there, _, written⟩ := retains.state
    rw [there, Option.some.injEq] at found
    refine ⟨_, written, ?_⟩
    rw [← found]
    split
    · exact le_rfl
    · exact le_rfl

/-- A commit that does not count leaves the window of a replica as it was, or raises the
epoch of the replica. -/
theorem commit_window (id : Uuid) (request : Request) (reply : Reply) (before after : Database)
    (committed : Committed platform request reply before after)
    (other : ∀ userId binding credential, request = .rateWindow userId binding credential →
      binding.replicaId ≠ id) (row : Replica)
    (found : before.lookup (Key.replica id) = some row) :
    storedWindow id after = storedWindow id before ∨
      ∃ next, after.lookup (Key.replica id) = some next ∧ row.replicaEpoch < next.replicaEpoch := by
  cases committed with
  | quiet => exact Or.inl rfl
  | counted userId binding credential _ _ _ _ spares =>
    have apart := other userId binding credential rfl
    exact Or.inl (spares _ (by simp [Ne.symm apart]))
  | registered _ _ _ _ _ _ _ _ spares => exact Or.inl (spares _ (by simp))
  | challenged _ _ _ _ _ _ _ _ _ _ spares => exact Or.inl (spares _ (by simp))
  | acknowledged _ _ _ _ _ _ _ _ _ _ _ spares => exact Or.inl (spares _ (by simp))
  | rotated userId binding credential resetRequestId now turned positive _ _ valid presents written
      spares =>
    by_cases same : binding.replicaId = id
    · have here := presents.1
      have epoch := presents.2.2.2.1
      rw [same, found, Option.some.injEq] at here
      rw [same] at written
      refine Or.inr ⟨_, written, ?_⟩
      rw [here, epoch]
      exact Nat.lt_succ_self _
    · exact Or.inl (spares _ (by simp [Ne.symm same]))
  | repeated => exact Or.inl rfl
  | settled _ _ _ _ _ _ _ _ _ _ spares => exact Or.inl (spares _ (by simp))
  | settledBefore => exact Or.inl rfl
  | classified => exact Or.inl rfl
  | disabled _ _ _ _ _ _ _ spares => exact Or.inl (spares _ (by simp))
  | replayed => exact Or.inl rfl
  | deniedAgain => exact Or.inl rfl
  | denied _ _ _ _ _ _ records => exact Or.inl (records.spared _ (by simp))
  | refused _ _ _ _ _ _ _ _ _ _ records => exact Or.inl (records.spared _ (by simp))
  | applied call row reply _ _ presents applies =>
    rcases applies.buries with ⟨_, spares⟩ | ⟨_, _, _, _, _, spares⟩
    · exact Or.inl (spares _ (by simp))
    · exact Or.inl (spares _ (by simp))
  | created _ _ _ _ _ _ _ _ _ spares => exact Or.inl (spares _ (by simp))
  | refreshed _ _ _ _ spares => exact Or.inl (spares _ (by simp))
  | buried _ _ _ _ _ _ _ _ spares => exact Or.inl (spares _ (by simp))
  | reburied _ _ _ _ _ _ _ _ _ spares => exact Or.inl (spares _ (by simp))
  | timed _ _ _ _ _ _ _ spares => exact Or.inl (spares _ (by simp))
  | prolonged _ _ _ _ _ _ _ spares => exact Or.inl (spares _ (by simp))
  | retained _ _ _ _ _ _ _ _ retains =>
    exact Or.inl (retains.spared _ (by simp) (by simp) (by simp) (by simp))

end Transactions

section Logs

/-- The request counts a command request of the replica in the epoch. -/
def Request.countsFor (replicaId : Uuid) (epoch : Nat) : Request → Bool
  | .rateWindow _ binding _ =>
    decide (binding.replicaId = replicaId) && decide (binding.replicaEpoch = epoch)
  | _ => false

/-- What one request adds to the log: its clock reading, and the start of the window that is
stored when it was accepted. -/
def admission (platform : Platform) (replicaId : Uuid) (epoch : Nat) (request : Request)
    (db : Database) : List Admission :=
  if request.countsFor replicaId epoch then
    match serve (commandServer platform) request db with
    | (.ok _, after) =>
      (storedWindow replicaId after).toList.map fun window =>
        ⟨clockOf db, window.windowStartedAt⟩
    | (.error _, _) => []
  else []

/-- The log of a sequence of requests. -/
def admissions (platform : Platform) (replicaId : Uuid) (epoch : Nat) :
    List Request → Database → List Admission
  | [], _ => []
  | request :: requests, db =>
    admission platform replicaId epoch request db ++
      admissions platform replicaId epoch requests
        (serve (commandServer platform) request db).2

/-- The log against the stored window. -/
structure Tracked (replicaId : Uuid) (epoch : Nat) (log : List Admission) (db : Database) :
    Prop where
  windowed : Windowed maxCommandRequestsPerMinute (minutes 1) log
  current : log ≠ [] → ∃ row state, db.lookup (Key.replica replicaId) = some row ∧
    stateOf db = some state ∧ epoch ≤ row.replicaEpoch ∧
      (row.replicaEpoch = epoch → ∃ window, storedWindow replicaId db = some window ∧
        window.replicaEpoch = epoch ∧
          (∀ entry ∈ log, entry.start = window.windowStartedAt ∨
            entry.start + minutes 1 ≤ window.windowStartedAt) ∧
          ((∀ entry ∈ log, entry.start = window.windowStartedAt) ∨
            window.windowStartedAt ≤ state.effectiveNow) ∧
          log.countP (fun entry => entry.start = window.windowStartedAt) ≤ window.requestCount)

variable {platform : Platform} {replicaId : Uuid} {epoch : Nat} {log : List Admission}
  {db : Database}

/-- A commit that does not count for the epoch keeps the log true. -/
theorem Tracked.spared (tracked : Tracked replicaId epoch log db) (request : Request)
    (reply : Reply) (after : Database) (committed : Committed platform request reply db after)
    (other : ∀ userId binding credential, request = .rateWindow userId binding credential →
      binding.replicaId ≠ replicaId) : Tracked replicaId epoch log after where
  windowed := tracked.windowed
  current := by
    intro filled
    obtain ⟨row, state, found, counted, above, holding⟩ := tracked.current filled
    have turns := commit_turns replicaId request reply db after committed
    rw [found] at turns
    obtain ⟨next, present, grown⟩ := turns_grows row _ turns
    obtain ⟨later, clocked, forward⟩ := commit_clock request reply db after committed state counted
    refine ⟨next, later, present, clocked, above.trans grown, fun same => ?_⟩
    rcases commit_window replicaId request reply db after committed other row found with
      kept | ⟨raised, there, higher⟩
    · obtain ⟨window, stored, ours, spaced, opened, bounded⟩ := holding (by omega)
      exact ⟨window, kept.trans stored, ours, spaced, opened.imp_right (le_trans · forward), bounded⟩
    · rw [there, Option.some.injEq] at present
      rw [present] at higher
      omega

/-- What the log holds of the stored window, when the replica is in the epoch. -/
theorem Tracked.stored (tracked : Tracked replicaId epoch log db) (row : Replica)
    (state : RetentionState) (found : db.lookup (Key.replica replicaId) = some row)
    (counted : stateOf db = some state) (same : row.replicaEpoch = epoch) (entry : Admission)
    (member : entry ∈ log) :
    ∃ window, storedWindow replicaId db = some window ∧ window.replicaEpoch = epoch ∧
      (entry.start = window.windowStartedAt ∨ entry.start + minutes 1 ≤ window.windowStartedAt) ∧
        (entry.start = window.windowStartedAt ∨ window.windowStartedAt ≤ state.effectiveNow) ∧
          log.countP (fun entry => entry.start = window.windowStartedAt) ≤ window.requestCount := by
  obtain ⟨_, _, there, clocked, _, holding⟩ := tracked.current (List.ne_nil_of_mem member)
  rw [found, Option.some.injEq] at there
  rw [counted, Option.some.injEq] at clocked
  subst there clocked
  obtain ⟨window, present, ours, spaced, opened, bounded⟩ := holding same
  exact ⟨window, present, ours, spaced entry member, opened.imp_left (· entry member), bounded⟩

/-- A request that opens a window is logged in it: every window of the log has run out. -/
theorem Tracked.opened (tracked : Tracked replicaId epoch log db) (row : Replica)
    (state : RetentionState) (found : db.lookup (Key.replica replicaId) = some row)
    (counted : stateOf db = some state) (same : row.replicaEpoch = epoch)
    (expired : ∀ window, storedWindow replicaId db = some window →
      window.replicaEpoch ≠ epoch ∨ window.windowStartedAt + minutes 1 ≤ state.effectiveNow)
    (fresh : RateWindow) (ours : fresh.replicaEpoch = epoch)
    (started : fresh.windowStartedAt = state.effectiveNow) :
    Tracked replicaId epoch (log ++ [⟨state.effectiveNow, state.effectiveNow⟩])
      (db.insert (Key.rateWindow replicaId) fresh) := by
  have positive : 0 < minutes 1 := by decide
  have before : ∀ entry ∈ log, entry.start + minutes 1 ≤ state.effectiveNow := by
    intro entry member
    obtain ⟨window, present, epochs, spaced, _⟩ :=
      tracked.stored row state found counted same entry member
    have past := (expired window present).resolve_left (fun differ => differ epochs)
    rcases spaced with here | earlier
    · exact here ▸ past
    · exact earlier.trans (Nat.le_of_add_right_le past)
  have none : log.countP (fun entry => entry.start = state.effectiveNow) = 0 := by
    rw [List.countP_eq_zero]
    intro entry member here
    have earlier := before entry member
    rw [decide_eq_true_eq] at here
    rw [here] at earlier
    exact absurd earlier (Nat.not_le_of_lt (Nat.lt_add_of_pos_right positive))
  constructor
  · apply tracked.windowed.further
    · exact Nat.lt_add_of_pos_right positive
    · exact fun entry member => Or.inr ⟨before entry member, le_rfl⟩
    · rw [none]
      decide
  · intro _
    refine ⟨row, state, ?_, ?_, same.ge, fun _ => ⟨fresh, ?_, ours, ?_, ?_, ?_⟩⟩
    · rw [AList.lookup_insert_ne (by simp)]
      exact found
    · rw [stateOf, AList.lookup_insert_ne (by simp)]
      exact counted
    · rw [storedWindow, AList.lookup_insert]
    · intro entry member
      rw [started]
      rcases List.mem_append.mp member with member | member
      · exact Or.inr (before entry member)
      · rw [List.mem_singleton.mp member]
        exact Or.inl rfl
    · exact Or.inr started.le
    · rw [started, List.countP_append, none, List.countP_singleton]
      simpa using Nat.succ_le_of_lt fresh.counted.1

/-- A request that is counted in the stored window is logged in it. -/
theorem Tracked.counted (tracked : Tracked replicaId epoch log db) (row : Replica)
    (state : RetentionState) (found : db.lookup (Key.replica replicaId) = some row)
    (clocked : stateOf db = some state) (same : row.replicaEpoch = epoch)
    (window next : RateWindow) (present : storedWindow replicaId db = some window)
    (running : state.effectiveNow < window.windowStartedAt + minutes 1)
    (ours : next.replicaEpoch = epoch) (started : next.windowStartedAt = window.windowStartedAt)
    (more : next.requestCount = window.requestCount + 1) :
    Tracked replicaId epoch (log ++ [⟨state.effectiveNow, window.windowStartedAt⟩])
      (db.insert (Key.rateWindow replicaId) next) := by
  have room := next.counted.2
  have within : ∀ entry ∈ log, (entry.start = window.windowStartedAt ∨
      entry.start + minutes 1 ≤ window.windowStartedAt) ∧
        (entry.start = window.windowStartedAt ∨ window.windowStartedAt ≤ state.effectiveNow) := by
    intro entry member
    obtain ⟨other, there, _, spaced, opened, _⟩ :=
      tracked.stored row state found clocked same entry member
    rw [present, Option.some.injEq] at there
    subst there
    exact ⟨spaced, opened⟩
  have bounded :
      log.countP (fun entry => entry.start = window.windowStartedAt) ≤ window.requestCount := by
    by_cases filled : log = []
    · simp [filled]
    · obtain ⟨entry, member⟩ := List.exists_mem_of_ne_nil log filled
      obtain ⟨other, there, _, _, _, bounded⟩ :=
        tracked.stored row state found clocked same entry member
      rw [present, Option.some.injEq] at there
      subst there
      exact bounded
  constructor
  · apply tracked.windowed.further
    · exact running
    · intro entry member
      rcases within entry member with ⟨here | earlier, opened⟩
      · exact Or.inl here
      · rcases opened with here | opened
        · exact Or.inl here
        · exact Or.inr ⟨earlier, opened⟩
    · have below : window.requestCount < maxCommandRequestsPerMinute := by
        rw [maxCommandRequestsPerMinute]
        omega
      exact lt_of_le_of_lt bounded below
  · intro _
    refine ⟨row, state, ?_, ?_, same.ge, fun _ => ⟨next, ?_, ours, ?_, ?_, ?_⟩⟩
    · rw [AList.lookup_insert_ne (by simp)]
      exact found
    · rw [stateOf, AList.lookup_insert_ne (by simp)]
      exact clocked
    · rw [storedWindow, AList.lookup_insert]
    · intro entry member
      rw [started]
      rcases List.mem_append.mp member with member | member
      · exact (within entry member).1
      · rw [List.mem_singleton.mp member]
        exact Or.inl rfl
    · rw [started]
      by_cases opened : window.windowStartedAt ≤ state.effectiveNow
      · exact Or.inr opened
      · refine Or.inl fun entry member => ?_
        rcases List.mem_append.mp member with member | member
        · exact (within entry member).2.resolve_right opened
        · rw [List.mem_singleton.mp member]
    · rw [started, List.countP_append, List.countP_singleton, more]
      simpa using bounded

/-- One accepted request extends the log and keeps it true. -/
theorem Tracked.accepted (tracked : Tracked replicaId epoch log db) (row : Replica) (count : Nat)
    (writes : List (Write Row)) (found : db.lookup (Key.replica replicaId) = some row)
    (same : row.replicaEpoch = epoch) (counts : Counts replicaId epoch db (some count) writes) :
    ∃ window, storedWindow replicaId (applyAll writes db) = some window ∧
      Tracked replicaId epoch (log ++ [⟨clockOf db, window.windowStartedAt⟩])
        (applyAll writes db) := by
  cases counts with
  | opened state clocked expired =>
    refine ⟨_, AList.lookup_insert _, ?_⟩
    simp only [clockOf, clocked, Option.map_some, Option.getD_some]
    exact tracked.opened row state found clocked same expired _ rfl rfl
  | counted state window counts clocked present ours running =>
    refine ⟨_, AList.lookup_insert _, ?_⟩
    simp only [clockOf, clocked, Option.map_some, Option.getD_some]
    exact tracked.counted row state found clocked same window _ present running rfl rfl rfl

/-- A request that is accepted in another epoch leaves nothing to bound. -/
theorem Tracked.elsewhere (tracked : Tracked replicaId epoch log db) (row : Replica) (count : Nat)
    (writes : List (Write Row)) (found : db.lookup (Key.replica replicaId) = some row)
    (differ : row.replicaEpoch ≠ epoch)
    (counts : Counts replicaId row.replicaEpoch db (some count) writes) :
    Tracked replicaId epoch log (applyAll writes db) := by
  have spared : ∀ key, key ≠ Key.rateWindow replicaId →
      (applyAll writes db).lookup key = db.lookup key := by
    intro key other
    cases counts with
    | opened => exact AList.lookup_insert_ne other
    | counted => exact AList.lookup_insert_ne other
  refine ⟨tracked.windowed, fun filled => ?_⟩
  obtain ⟨there, state, present, clocked, above, _⟩ := tracked.current filled
  rw [found, Option.some.injEq] at present
  subst present
  exact ⟨row, state, (spared _ (by simp)).trans found, (spared _ (by simp)).trans clocked, above,
    fun same => absurd same differ⟩

/-- One request of any kind extends the log and keeps it true. -/
theorem Tracked.step (tracked : Tracked replicaId epoch log db) (holds : Sequenced db)
    (request : Request) :
    Tracked replicaId epoch (log ++ admission platform replicaId epoch request db)
      (serve (commandServer platform) request db).2 := by
  cases served : serve (commandServer platform) request db with
  | mk answer after =>
    cases answer with
    | error failure =>
      have kept : after = db := by
        rw [serve] at served
        split at served <;> cases served
        rfl
      subst kept
      have quiet : admission platform replicaId epoch request after = [] := by
        rw [admission, served]
        split <;> rfl
      rw [quiet, List.append_nil]
      exact tracked
    | ok reply =>
      have committed := serve_committed platform request db after holds reply served
      cases request with
      | rateWindow userId binding credential =>
        have rated := @serve_rated platform userId binding credential db
        have counting : Request.countsFor replicaId epoch (.rateWindow userId binding credential) =
          (decide (binding.replicaId = replicaId) && decide (binding.replicaEpoch = epoch)) := rfl
        rw [admission, counting, served]
        rw [served] at rated
        cases rated with
        | accepted row count writes presents counts =>
          by_cases here : binding.replicaId = replicaId
          · subst here
            by_cases epochs : binding.replicaEpoch = epoch
            · subst epochs
              obtain ⟨window, stored, later⟩ :=
                tracked.accepted row count writes presents.1 presents.2.2.2.1 counts
              simp only [decide_true, Bool.and_self, if_true, stored, Option.toList_some,
                List.map_cons, List.map_nil]
              exact later
            · simp only [decide_true, Bool.true_and, epochs, decide_false, Bool.false_eq_true,
                if_false, List.append_nil]
              have theirs := presents.2.2.2.1
              rw [← theirs] at epochs counts
              exact tracked.elsewhere row count writes presents.1 epochs counts
          · simp only [here, decide_false, Bool.false_and, Bool.false_eq_true, if_false,
              List.append_nil]
            refine tracked.spared _ _ _ committed ?_
            intro otherUser otherBinding otherCredential same
            cases same
            exact here
      | _ =>
        simp only [admission, Request.countsFor, Bool.false_eq_true, if_false, List.append_nil]
        refine tracked.spared _ _ _ committed ?_
        intro userId binding credential same
        cases same

/-- A request alone keeps the invariant of databases. -/
theorem sequenced_serve (holds : Sequenced db) (request : Request) :
    Sequenced (serve (commandServer platform) request db).2 := by
  cases served : serve (commandServer platform) request db with
  | mk answer after =>
    cases answer with
    | error failure =>
      rw [serve] at served
      split at served <;> cases served
      exact holds
    | ok reply =>
      exact commit_keeps_sequences platform request reply db after holds
        (serve_committed platform request db after holds reply served)

/-- Every sequence of requests extends the log and keeps it true. -/
theorem Tracked.run (requests : List Request) (tracked : Tracked replicaId epoch log db)
    (holds : Sequenced db) :
    Tracked replicaId epoch (log ++ admissions platform replicaId epoch requests db)
      (serveAll (commandServer platform) requests db) := by
  induction requests generalizing log db with
  | nil =>
    rw [admissions, List.append_nil]
    exact tracked
  | cons request requests inductionHypothesis =>
    rw [admissions, ← List.append_assoc]
    exact inductionHypothesis (tracked.step holds request) (sequenced_serve holds request)

/-- Nothing has been logged. -/
theorem Tracked.start (replicaId : Uuid) (epoch : Nat) (db : Database) :
    Tracked replicaId epoch [] db where
  windowed := .empty _ _
  current filled := absurd rfl filled

end Logs

section Arrivals

/-- What reaches the database: a command request, or any other transaction. -/
inductive Arrival where
  | command (call : CommandCall)
  | transaction (request : Request)

/-- The transaction that counts a command request. -/
def CommandCall.rating (call : CommandCall) : Request :=
  .rateWindow call.userId call.binding call.credential

/-- The transactions of an arrival. A command is executed only when its request was counted,
`POST /spike/commands`. -/
def Arrival.transactions (platform : Platform) : Arrival → Database → List Request
  | .command call, db =>
    match (serve (commandServer platform) call.rating db).1 with
    | .ok _ => [call.rating, call.request]
    | .error _ => [call.rating]
  | .transaction request, _ => [request]

/-- The transactions of a sequence of arrivals. -/
def transactions (platform : Platform) : List Arrival → Database → List Request
  | [], _ => []
  | arrival :: arrivals, db =>
    let requests := arrival.transactions platform db
    requests ++ transactions platform arrivals (serveAll (commandServer platform) requests db)

/-- Whatever arrives in whatever order, and however the clock moves in between: the stored
count is one to sixty-four, and no count raises an error; one stored window accepts at most
sixty-four requests and a half-open minute at most one hundred and twenty-eight; and a limited
request executes no command and changes nothing. -/
theorem requests_limited (platform : Platform) (replicaId : Uuid) (epoch : Nat) (db : Database)
    (holds : Sequenced db) (arrivals : List Arrival) :
    let requests := transactions platform arrivals db
    let log := admissions platform replicaId epoch requests db
    let last := serveAll (commandServer platform) requests db
    (∀ window, storedWindow replicaId last = some window →
      1 ≤ window.requestCount ∧ window.requestCount ≤ maxCommandRequestsPerMinute) ∧
    (∀ start, log.countP (fun entry => entry.start = start) ≤ maxCommandRequestsPerMinute) ∧
    (∀ opening, log.countP (fun entry =>
      opening ≤ entry.time ∧ entry.time < opening + minutes 1) ≤ 128) ∧
    ∀ call : CommandCall,
      (serve (commandServer platform) call.rating last).1 ≠ .error .raised ∧
      ((serve (commandServer platform) call.rating last).1 =
          .error (.rolledBack .commandRateLimited) →
        Arrival.transactions platform (.command call) last = [call.rating] ∧
          serveAll (commandServer platform) [call.rating] last = last) := by
  intro requests log last
  have tracked : Tracked replicaId epoch log last := by
    have run : Tracked replicaId epoch ([] ++ admissions platform replicaId epoch requests db)
        (serveAll (commandServer platform) requests db) :=
      (Tracked.start replicaId epoch db).run requests holds
    rwa [List.nil_append] at run
  refine ⟨?_, tracked.windowed.counted, tracked.windowed.sliding, ?_⟩
  · intro window _
    exact ⟨window.counted.1, window.counted.2⟩
  · intro call
    have rated := @serve_rated platform call.userId call.binding call.credential last
    constructor
    · intro raised
      rw [← CommandCall.rating, ← Prod.mk.eta (p := serve _ _ _), raised] at rated
      cases rated
    · intro limited
      rw [← CommandCall.rating, ← Prod.mk.eta (p := serve _ _ _), limited] at rated
      refine ⟨by rw [Arrival.transactions, limited], ?_⟩
      rw [serveAll, serveAll]
      generalize (serve (commandServer platform) call.rating last).2 = after at rated ⊢
      cases rated
      rfl

namespace Sample

/-- A command request of the registered replica. -/
def counted : CommandCall where
  userId := userId
  binding := binding
  credential := credential
  command := ⟨ascii "d1", .update (ascii "x"), ascii "e1", ascii "f1", 1⟩
  attemptNumber := 1
  eventId := ascii "a1"

/-- The replica registers and acknowledges a checkpoint; then it sends a command twice, and
again after the window has run out. -/
def minute : List Arrival :=
  [.transaction (.register userId replicaId credential),
    .transaction (.challenge userId binding credential resetRequestId),
    .transaction (.acknowledge userId binding credential resetRequestId),
    .command counted, .command counted, .transaction (.setTime (minutes 1)), .command counted]

end Sample

/-- Three accepted requests, in two windows: both bounds apply to them. -/
theorem requests_limited_minute :
    admissions Sample.platform Sample.replicaId 1
        (transactions Sample.platform Sample.minute Sample.database) Sample.database =
      [⟨0, 0⟩, ⟨0, 0⟩, ⟨minutes 1, minutes 1⟩] ∧
    ∀ opening, (admissions Sample.platform Sample.replicaId 1
      (transactions Sample.platform Sample.minute Sample.database) Sample.database).countP
        (fun entry => opening ≤ entry.time ∧ entry.time < opening + minutes 1) ≤ 128 := by
  have bounded := requests_limited Sample.platform Sample.replicaId 1 Sample.database
    Sample.database_sequenced Sample.minute
  exact ⟨by decide +kernel, bounded.2.2.1⟩

end Arrivals

end TraxOs.PowerSync
