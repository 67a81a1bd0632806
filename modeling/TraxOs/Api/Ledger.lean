import TraxOs.Api.CommandSafety

/-!
# The command ledger

Receipts, change sets and change events over whole runs. The invariant relates
the three tables to the history of commits: every row was written by the commit
that it describes, every such commit left its rows, and rows are never changed or
removed. One commit extends it; the chain of commits carries it to every
reachable state.

A compare-and-swap is a commit that `AppliedCommand.Explains`: the journey row of
that moment before and after it, and the three rows that record it.
-/

namespace TraxOs.Api

open TraxOs.Theory

/-- The history of committed requests. -/
abbrev History := List (Commit Row Request Reply)

/-- The command of an actor in a workspace. -/
def AppliedCommand.names (command : AppliedCommand) (workspaceId actorUserId commandId : Uuid) :
    Prop :=
  command.context.workspaceId = workspaceId ∧ command.context.userId = actorUserId ∧
    command.call.commandId = commandId

/-- The command of an actor in a workspace. -/
def RejectedCommand.names (command : RejectedCommand) (workspaceId actorUserId commandId : Uuid) :
    Prop :=
  command.context.workspaceId = workspaceId ∧ command.context.userId = actorUserId ∧
    command.call.commandId = commandId

/-- The commit at an index is the compare-and-swap of a command. -/
def AppliesAt (platform : Platform) (history : History) (index : Nat) (command : AppliedCommand) :
    Prop :=
  ∃ commit, history[index]? = some commit ∧
    command.Explains platform commit.request commit.before commit.after

/-- The commit at an index is the refusal of a command. -/
def RejectsAt (platform : Platform) (history : History) (index : Nat) (command : RejectedCommand) :
    Prop :=
  ∃ commit, history[index]? = some commit ∧
    command.Explains platform commit.request commit.before commit.after

/-- No command has been recorded yet. -/
structure LedgerEmpty (db : Database) : Prop where
  receipts : ∀ workspaceId actorUserId commandId,
    db.lookup (Key.receipt workspaceId actorUserId commandId) = none
  changeSets : ∀ id, db.lookup (Key.changeSet id) = none
  changeEvents : ∀ id, db.lookup (Key.changeEvent id) = none

/-- The ledger says exactly what the history did. -/
structure LedgerExact (platform : Platform) (history : History) (db : Database) : Prop where
  receipts : ∀ workspaceId actorUserId commandId receipt,
    db.lookup (Key.receipt workspaceId actorUserId commandId) = some receipt →
      (∃ index command, AppliesAt platform history index command ∧
        command.names workspaceId actorUserId commandId ∧ receipt = command.receipt platform) ∨
      ∃ index command, RejectsAt platform history index command ∧
        command.names workspaceId actorUserId commandId ∧ receipt = command.receipt platform
  changeSets : ∀ id row, db.lookup (Key.changeSet id) = some row →
    ∃ index command, AppliesAt platform history index command ∧
      command.call.runtime.changeSetId = id ∧ row = command.changeSet
  changeEvents : ∀ id row, db.lookup (Key.changeEvent id) = some row →
    ∃ index command, AppliesAt platform history index command ∧
      command.call.runtime.eventId = id ∧ row = command.changeEvent
  appliedKept : ∀ index command, AppliesAt platform history index command →
    db.lookup (Key.receipt command.context.workspaceId command.context.userId
        command.call.commandId) = some (command.receipt platform) ∧
      db.lookup (Key.changeSet command.call.runtime.changeSetId) = some command.changeSet ∧
        db.lookup (Key.changeEvent command.call.runtime.eventId) = some command.changeEvent
  rejectedKept : ∀ index command, RejectsAt platform history index command →
    db.lookup (Key.receipt command.context.workspaceId command.context.userId
      command.call.commandId) = some (command.receipt platform)
  once : ∀ first second earlier later, AppliesAt platform history first earlier →
    AppliesAt platform history second later → later.names earlier.context.workspaceId
      earlier.context.userId earlier.call.commandId → first = second
  swaps : ∀ index commit, history[index]? = some commit → commit.request.commandCall.isSome = true →
    (∃ journeyId, commit.after.lookup (Key.journey journeyId) ≠
      commit.before.lookup (Key.journey journeyId)) →
        ∃ command, AppliesAt platform history index command

section Extension

variable {platform : Platform} {history : History} {commit : Commit Row Request Reply}

/-- An index of an extended history is an old one or the new one. -/
theorem index_extended (index : Nat) (found : Commit Row Request Reply)
    (here : (history ++ [commit])[index]? = some found) :
    history[index]? = some found ∨ (index = history.length ∧ found = commit) := by
  rcases Nat.lt_trichotomy index history.length with before | same | after
  · rw [List.getElem?_append_left before] at here
    exact Or.inl here
  · subst same
    rw [List.getElem?_concat_length, Option.some.injEq] at here
    exact Or.inr ⟨rfl, here.symm⟩
  · rw [List.getElem?_eq_none (by simp; omega)] at here
    cases here

/-- An old index keeps its commit. -/
theorem index_kept (index : Nat) (found : Commit Row Request Reply)
    (here : history[index]? = some found) : (history ++ [commit])[index]? = some found := by
  rw [List.getElem?_append_left (List.getElem?_eq_some_iff.mp here).1]
  exact here

/-- An applied command stays where it is in an extended history. -/
theorem appliesAt_kept (index : Nat) (command : AppliedCommand)
    (applies : AppliesAt platform history index command) :
    AppliesAt platform (history ++ [commit]) index command := by
  obtain ⟨found, here, explained⟩ := applies
  exact ⟨found, index_kept index found here, explained⟩

/-- A refused command stays where it is in an extended history. -/
theorem rejectsAt_kept (index : Nat) (command : RejectedCommand)
    (rejects : RejectsAt platform history index command) :
    RejectsAt platform (history ++ [commit]) index command := by
  obtain ⟨found, here, explained⟩ := rejects
  exact ⟨found, index_kept index found here, explained⟩

end Extension

/-- Keys of the three ledger tables. -/
def Key.inLedger : Key → Bool
  | .receipt _ _ _ => true
  | .changeSet _ => true
  | .changeEvent _ => true
  | _ => false

/-- A commit that leaves the ledger alone and is not a command's keeps the ledger
exact. -/
theorem exact_unrelated (platform : Platform) (history : History)
    (commit : Commit Row Request Reply) (exact : LedgerExact platform history commit.before)
    (spared : ∀ key, key.inLedger = true → commit.after.lookup key = commit.before.lookup key)
    (noJourney : commit.request.commandCall.isSome = true →
      ∀ journeyId, commit.after.lookup (Key.journey journeyId) =
        commit.before.lookup (Key.journey journeyId)) :
    LedgerExact platform (history ++ [commit]) commit.after := by
  have unexplained : ∀ command : AppliedCommand,
      ¬ command.Explains platform commit.request commit.before commit.after := by
    intro command explained
    have written := explained.receiptWritten
    rw [spared _ rfl, explained.receiptFree] at written
    cases written
  have unrefused : ∀ command : RejectedCommand,
      ¬ command.Explains platform commit.request commit.before commit.after := by
    intro command explained
    have written := explained.receiptWritten
    rw [spared _ rfl, explained.receiptFree] at written
    cases written
  have old : ∀ index command, AppliesAt platform (history ++ [commit]) index command →
      AppliesAt platform history index command := by
    rintro index command ⟨found, here, explained⟩
    rcases index_extended index found here with here | ⟨_, rfl⟩
    · exact ⟨found, here, explained⟩
    · exact absurd explained (unexplained command)
  have oldRefusal : ∀ index command, RejectsAt platform (history ++ [commit]) index command →
      RejectsAt platform history index command := by
    rintro index command ⟨found, here, explained⟩
    rcases index_extended index found here with here | ⟨_, rfl⟩
    · exact ⟨found, here, explained⟩
    · exact absurd explained (unrefused command)
  refine ⟨?_, ?_, ?_, ?_, ?_, ?_, ?_⟩
  · intro workspaceId actorUserId commandId receipt found
    rw [spared _ rfl] at found
    rcases exact.receipts _ _ _ _ found with ⟨index, command, applies, rest⟩ |
      ⟨index, command, rejects, rest⟩
    · exact Or.inl ⟨index, command, appliesAt_kept index command applies, rest⟩
    · exact Or.inr ⟨index, command, rejectsAt_kept index command rejects, rest⟩
  · intro id row found
    rw [spared _ rfl] at found
    obtain ⟨index, command, applies, rest⟩ := exact.changeSets id row found
    exact ⟨index, command, appliesAt_kept index command applies, rest⟩
  · intro id row found
    rw [spared _ rfl] at found
    obtain ⟨index, command, applies, rest⟩ := exact.changeEvents id row found
    exact ⟨index, command, appliesAt_kept index command applies, rest⟩
  · intro index command applies
    rw [spared _ rfl, spared _ rfl, spared _ rfl]
    exact exact.appliedKept index command (old index command applies)
  · intro index command rejects
    rw [spared _ rfl]
    exact exact.rejectedKept index command (oldRefusal index command rejects)
  · intro first second earlier later one two same
    exact exact.once first second earlier later (old _ _ one) (old _ _ two) same
  · intro index found here executes changed
    rcases index_extended index found here with here | ⟨_, rfl⟩
    · obtain ⟨command, applies⟩ := exact.swaps index found here executes changed
      exact ⟨command, appliesAt_kept index command applies⟩
    · obtain ⟨journeyId, differs⟩ := changed
      exact absurd (noJourney executes journeyId) differs

/-- The commit of a refused command adds its receipt. -/
theorem exact_rejected (platform : Platform) (history : History)
    (commit : Commit Row Request Reply) (exact : LedgerExact platform history commit.before)
    (refused : RejectedCommand)
    (explained : refused.Explains platform commit.request commit.before commit.after) :
    LedgerExact platform (history ++ [commit]) commit.after := by
  have here : RejectsAt platform (history ++ [commit]) history.length refused :=
    ⟨commit, List.getElem?_concat_length, explained⟩
  have unexplained : ∀ command : AppliedCommand,
      ¬ command.Explains platform commit.request commit.before commit.after := by
    intro command applied
    have written := applied.changeSetWritten
    rw [explained.spared _ (by simp), applied.changeSetFree] at written
    cases written
  have old : ∀ index command, AppliesAt platform (history ++ [commit]) index command →
      AppliesAt platform history index command := by
    rintro index command ⟨found, there, applied⟩
    rcases index_extended index found there with there | ⟨_, rfl⟩
    · exact ⟨found, there, applied⟩
    · exact absurd applied (unexplained command)
  have keptReceipt : ∀ workspaceId actorUserId commandId receipt,
      commit.before.lookup (Key.receipt workspaceId actorUserId commandId) = some receipt →
        commit.after.lookup (Key.receipt workspaceId actorUserId commandId) = some receipt := by
    intro workspaceId actorUserId commandId receipt found
    rw [explained.spared, found]
    intro same
    obtain ⟨rfl, rfl, rfl⟩ := Key.receipt.inj same
    rw [explained.receiptFree] at found
    cases found
  refine ⟨?_, ?_, ?_, ?_, ?_, ?_, ?_⟩
  · intro workspaceId actorUserId commandId receipt found
    by_cases same : Key.receipt workspaceId actorUserId commandId = refused.receiptKey
    · obtain ⟨rfl, rfl, rfl⟩ := Key.receipt.inj same
      have written := explained.receiptWritten
      rw [found, Option.some.injEq] at written
      exact Or.inr ⟨history.length, refused, here, ⟨rfl, rfl, rfl⟩, written⟩
    · rw [explained.spared _ same] at found
      rcases exact.receipts _ _ _ _ found with ⟨index, command, applies, rest⟩ |
        ⟨index, command, rejects, rest⟩
      · exact Or.inl ⟨index, command, appliesAt_kept index command applies, rest⟩
      · exact Or.inr ⟨index, command, rejectsAt_kept index command rejects, rest⟩
  · intro id row found
    rw [explained.spared _ (by simp)] at found
    obtain ⟨index, command, applies, rest⟩ := exact.changeSets id row found
    exact ⟨index, command, appliesAt_kept index command applies, rest⟩
  · intro id row found
    rw [explained.spared _ (by simp)] at found
    obtain ⟨index, command, applies, rest⟩ := exact.changeEvents id row found
    exact ⟨index, command, appliesAt_kept index command applies, rest⟩
  · intro index command applies
    obtain ⟨receipt, changeSet, changeEvent⟩ :=
      exact.appliedKept index command (old index command applies)
    refine ⟨keptReceipt _ _ _ _ receipt, ?_, ?_⟩
    · rw [explained.spared _ (by simp), changeSet]
    · rw [explained.spared _ (by simp), changeEvent]
  · rintro index command ⟨found, there, rejected⟩
    rcases index_extended index found there with there | ⟨_, rfl⟩
    · exact keptReceipt _ _ _ _ (exact.rejectedKept index command ⟨found, there, rejected⟩)
    · exact rejected.receiptWritten
  · intro first second earlier later one two same
    exact exact.once first second earlier later (old _ _ one) (old _ _ two) same
  · intro index found there executes changed
    rcases index_extended index found there with there | ⟨_, rfl⟩
    · obtain ⟨command, applies⟩ := exact.swaps index found there executes changed
      exact ⟨command, appliesAt_kept index command applies⟩
    · obtain ⟨journeyId, differs⟩ := changed
      exact absurd (explained.spared _ (by simp)) differs

/-- The commit of an applied command adds its three rows. -/
theorem exact_applied (platform : Platform) (history : History)
    (commit : Commit Row Request Reply) (exact : LedgerExact platform history commit.before)
    (applied : AppliedCommand)
    (explained : applied.Explains platform commit.request commit.before commit.after) :
    LedgerExact platform (history ++ [commit]) commit.after := by
  have here : AppliesAt platform (history ++ [commit]) history.length applied :=
    ⟨commit, List.getElem?_concat_length, explained⟩
  have unrefused : ∀ command : RejectedCommand,
      ¬ command.Explains platform commit.request commit.before commit.after := by
    intro command rejected
    have written := explained.changeSetWritten
    rw [rejected.spared _ (by simp), explained.changeSetFree] at written
    cases written
  have keptReceipt : ∀ workspaceId actorUserId commandId receipt,
      commit.before.lookup (Key.receipt workspaceId actorUserId commandId) = some receipt →
        commit.after.lookup (Key.receipt workspaceId actorUserId commandId) = some receipt := by
    intro workspaceId actorUserId commandId receipt found
    rw [explained.spared _ (by simp) _ (by simp) (by simp), found]
    intro same
    obtain ⟨rfl, rfl, rfl⟩ := Key.receipt.inj same
    rw [explained.receiptFree] at found
    cases found
  have keptChangeSet : ∀ id row, commit.before.lookup (Key.changeSet id) = some row →
      commit.after.lookup (Key.changeSet id) = some row := by
    intro id row found
    rw [explained.spared _ (by simp) (by simp) _ (by simp), found]
    intro same
    obtain rfl := Key.changeSet.inj same
    rw [explained.changeSetFree] at found
    cases found
  have keptChangeEvent : ∀ id row, commit.before.lookup (Key.changeEvent id) = some row →
      commit.after.lookup (Key.changeEvent id) = some row := by
    intro id row found
    rw [explained.spared _ (by simp) (by simp) (by simp), found]
    intro same
    obtain rfl := Key.changeEvent.inj same
    rw [explained.changeEventFree] at found
    cases found
  -- two applied commands cannot share a key: the first one's receipt is still there
  have distinct : ∀ index command, AppliesAt platform history index command →
      ∀ other : AppliedCommand, other.Explains platform commit.request commit.before commit.after →
        ¬ (other.context.workspaceId = command.context.workspaceId ∧
          other.context.userId = command.context.userId ∧
            other.call.commandId = command.call.commandId) := by
    rintro index command applies other others ⟨workspace, user, id⟩
    have present := (exact.appliedKept index command applies).1
    have free : commit.before.lookup (Key.receipt command.context.workspaceId
        command.context.userId command.call.commandId) = none := by
      rw [← workspace, ← user, ← id]
      exact others.receiptFree
    rw [free] at present
    cases present
  refine ⟨?_, ?_, ?_, ?_, ?_, ?_, ?_⟩
  · intro workspaceId actorUserId commandId receipt found
    by_cases same : Key.receipt workspaceId actorUserId commandId = applied.receiptKey
    · obtain ⟨rfl, rfl, rfl⟩ := Key.receipt.inj same
      have written := explained.receiptWritten
      rw [found, Option.some.injEq] at written
      exact Or.inl ⟨history.length, applied, here, ⟨rfl, rfl, rfl⟩, written⟩
    · rw [explained.spared _ (by simp) same (by simp) (by simp)] at found
      rcases exact.receipts _ _ _ _ found with ⟨index, command, applies, rest⟩ |
        ⟨index, command, rejects, rest⟩
      · exact Or.inl ⟨index, command, appliesAt_kept index command applies, rest⟩
      · exact Or.inr ⟨index, command, rejectsAt_kept index command rejects, rest⟩
  · intro id row found
    by_cases same : Key.changeSet id = Key.changeSet applied.call.runtime.changeSetId
    · obtain rfl := Key.changeSet.inj same
      have written := explained.changeSetWritten
      rw [found, Option.some.injEq] at written
      exact ⟨history.length, applied, here, rfl, written⟩
    · rw [explained.spared _ (by simp) (by simp) same (by simp)] at found
      obtain ⟨index, command, applies, rest⟩ := exact.changeSets id row found
      exact ⟨index, command, appliesAt_kept index command applies, rest⟩
  · intro id row found
    by_cases same : Key.changeEvent id = Key.changeEvent applied.call.runtime.eventId
    · obtain rfl := Key.changeEvent.inj same
      have written := explained.changeEventWritten
      rw [found, Option.some.injEq] at written
      exact ⟨history.length, applied, here, rfl, written⟩
    · rw [explained.spared _ (by simp) (by simp) (by simp) same] at found
      obtain ⟨index, command, applies, rest⟩ := exact.changeEvents id row found
      exact ⟨index, command, appliesAt_kept index command applies, rest⟩
  · rintro index command ⟨found, there, explains⟩
    rcases index_extended index found there with there | ⟨_, rfl⟩
    · obtain ⟨receipt, changeSet, changeEvent⟩ :=
        exact.appliedKept index command ⟨found, there, explains⟩
      exact ⟨keptReceipt _ _ _ _ receipt, keptChangeSet _ _ changeSet,
        keptChangeEvent _ _ changeEvent⟩
    · exact ⟨explains.receiptWritten, explains.changeSetWritten, explains.changeEventWritten⟩
  · rintro index command ⟨found, there, rejected⟩
    rcases index_extended index found there with there | ⟨_, rfl⟩
    · exact keptReceipt _ _ _ _ (exact.rejectedKept index command ⟨found, there, rejected⟩)
    · exact absurd rejected (unrefused command)
  · rintro first second earlier later ⟨one, oneHere, oneExplains⟩ ⟨two, twoHere, twoExplains⟩ same
    rcases index_extended first one oneHere with oneOld | ⟨oneLast, rfl⟩
    · rcases index_extended second two twoHere with twoOld | ⟨_, rfl⟩
      · exact exact.once first second earlier later ⟨one, oneOld, oneExplains⟩
          ⟨two, twoOld, twoExplains⟩ same
      · exact absurd same (distinct first earlier ⟨one, oneOld, oneExplains⟩ later twoExplains)
    · rcases index_extended second two twoHere with twoOld | ⟨twoLast, _⟩
      · obtain ⟨workspace, user, id⟩ := same
        exact absurd ⟨workspace.symm, user.symm, id.symm⟩
          (distinct second later ⟨two, twoOld, twoExplains⟩ earlier oneExplains)
      · rw [oneLast, twoLast]
  · intro index found there executes changed
    rcases index_extended index found there with there | ⟨rfl, rfl⟩
    · obtain ⟨command, applies⟩ := exact.swaps index found there executes changed
      exact ⟨command, appliesAt_kept index command applies⟩
    · exact ⟨applied, here⟩

/-- One commit of any request keeps the ledger exact. -/
theorem commit_keeps_exact (platform : Platform) (anchor : Anchor) (history : History)
    (commit : Commit Row Request Reply) (exact : LedgerExact platform history commit.before)
    (committed : Committed platform anchor commit.request commit.reply commit.before commit.after) :
    LedgerExact platform (history ++ [commit]) commit.after := by
  have apart : ∀ key : Key, key.inLedger = true → key.isPart = false ∧
      (∀ journeyId, key ≠ Key.journey journeyId) ∧
        ∀ workspaceId userId, key ≠ Key.membership workspaceId userId := by
    intro key ledger
    cases key <;> simp_all [Key.inLedger, Key.isPart]
  cases committed with
  | quiet unchanged noParts notApplied =>
    exact exact_unrelated platform history commit exact (fun _ _ => by rw [unchanged])
      (fun _ _ => by rw [unchanged])
  | changedParts context journeyId target acts signed authorized spared touched =>
    apply exact_unrelated platform history commit exact
    · exact fun key ledger => spared key (apart key ledger).1 ((apart key ledger).2.1 journeyId)
    · intro executes
      rw [(commit.request.command_apart executes).1] at target
      cases target
  | created context journeyId stored creates acts signed authorized free written fresh inWorkspace
      spared =>
    apply exact_unrelated platform history commit exact
    · exact fun key ledger => spared key ((apart key ledger).2.1 journeyId)
    · intro executes
      rw [(commit.request.command_apart executes).2.1] at creates
      cases creates
  | deleted context journeyId row deletes acts signed authorized found inWorkspace gone spared =>
    apply exact_unrelated platform history commit exact
    · exact fun key ledger => spared key (apart key ledger).1 ((apart key ledger).2.1 journeyId)
    · intro executes
      rw [(commit.request.command_apart executes).2.2] at deletes
      cases deletes
  | applied command explained signed told =>
    exact exact_applied platform history commit exact command explained
  | rejected command explained signed notApplied =>
    exact exact_rejected platform history commit exact command explained
  | administered workspaceId userId role administers written spared =>
    apply exact_unrelated platform history commit exact
    · exact fun key ledger => spared key ((apart key ledger).2.2 workspaceId userId)
    · intro executes
      rw [administers] at executes
      cases executes

/-- A ledger that starts empty is exact after every chain of commits. -/
theorem linked_exact (platform : Platform) (anchor : Anchor) (db last : Database) (history : History)
    (empty : LedgerEmpty db) (linked : Linked (Committed platform anchor) db history last) :
    LedgerExact platform history last := by
  induction linked with
  | nil =>
    refine ⟨?_, ?_, ?_, ?_, ?_, ?_, ?_⟩
    · intro workspaceId actorUserId commandId receipt found
      rw [empty.receipts] at found
      cases found
    · intro id row found
      rw [empty.changeSets] at found
      cases found
    · intro id row found
      rw [empty.changeEvents] at found
      cases found
    · rintro index command ⟨commit, here, _⟩
      simp at here
    · rintro index command ⟨commit, here, _⟩
      simp at here
    · rintro first second earlier later ⟨commit, here, _⟩
      simp at here
    · intro index commit here
      simp at here
  | snoc history commit earlier committed inductionHypothesis =>
    exact commit_keeps_exact platform anchor history commit inductionHypothesis committed

section Tables

variable (db : Database)

/-- The receipts of a command. -/
def receiptsOf (workspaceId actorUserId commandId : Uuid) : List CommandReceipt :=
  collect (fun
    | .receipt workspace actor command, row =>
      if workspace = workspaceId ∧ actor = actorUserId ∧ command = commandId then some row else none
    | _, _ => none) db

/-- The change sets of a command, with their identifiers. -/
def changeSetsOf (workspaceId actorUserId commandId : Uuid) : List (Uuid × CommandChangeSet) :=
  collect (fun
    | .changeSet id, row =>
      if row.workspaceId = workspaceId ∧ row.actorUserId = actorUserId ∧
        row.commandId = commandId then some (id, row) else none
    | _, _ => none) db

/-- The events of a change set, with their identifiers. -/
def changeEventsOf (changeSetId : Uuid) : List (Uuid × CommandChangeEvent) :=
  collect (fun
    | .changeEvent id, row => if row.changeSetId = changeSetId then some (id, row) else none
    | _, _ => none) db

end Tables

/-- The key decides the receipt. -/
theorem receiptsOf_eq (db : Database) (workspaceId actorUserId commandId : Uuid) :
    receiptsOf db workspaceId actorUserId commandId =
      (db.lookup (Key.receipt workspaceId actorUserId commandId)).toList := by
  rw [receiptsOf, collect_single _ _ (Key.receipt workspaceId actorUserId commandId)]
  · cases db.lookup (Key.receipt workspaceId actorUserId commandId) <;> simp
  · intro key row _ picked
    cases key <;> simp_all

namespace LedgerExact

variable {platform : Platform} {history : History} {db : Database}

/-- Two accounts of one compare-and-swap tell the same use of the executor. -/
theorem same_call (index : Nat) (command other : AppliedCommand)
    (one : AppliesAt platform history index command)
    (two : AppliesAt platform history index other) : command.call = other.call := by
  obtain ⟨commit, here, explained⟩ := one
  obtain ⟨_, there, explains⟩ := two
  obtain rfl := Option.some.inj (here.symm.trans there)
  exact Option.some.inj (explained.executes.symm.trans explains.executes)

/-- A command has one change set. -/
theorem changeSetsOf_applied (exact : LedgerExact platform history db) (index : Nat)
    (command : AppliedCommand) (applies : AppliesAt platform history index command) :
    changeSetsOf db command.context.workspaceId command.context.userId command.call.commandId =
      [(command.call.runtime.changeSetId, command.changeSet)] := by
  rw [changeSetsOf, collect_single _ _ (Key.changeSet command.call.runtime.changeSetId)]
  · rw [(exact.appliedKept index command applies).2.1]
    simp [AppliedCommand.changeSet, changeSetRow, AppliedCommand.execution]
  · intro key row found picked
    cases key with
    | changeSet id =>
      obtain ⟨later, other, applied, rfl, rfl⟩ := exact.changeSets id row found
      have named : other.names command.context.workspaceId command.context.userId
          command.call.commandId := by
        simp only at picked
        split at picked
        · assumption
        · simp at picked
      obtain rfl := exact.once index later command other applies applied named
      rw [same_call index command other applies applied]
    | _ => simp at picked

/-- A change set has one event. -/
theorem changeEventsOf_applied (exact : LedgerExact platform history db) (index : Nat)
    (command : AppliedCommand) (applies : AppliesAt platform history index command) :
    changeEventsOf db command.call.runtime.changeSetId =
      [(command.call.runtime.eventId, command.changeEvent)] := by
  rw [changeEventsOf, collect_single _ _ (Key.changeEvent command.call.runtime.eventId)]
  · rw [(exact.appliedKept index command applies).2.2]
    simp [AppliedCommand.changeEvent, changeEventRow]
  · intro key row found picked
    cases key with
    | changeEvent id =>
      obtain ⟨later, other, applied, rfl, rfl⟩ := exact.changeEvents id row found
      have shared : other.call.runtime.changeSetId = command.call.runtime.changeSetId := by
        simp only at picked
        split at picked
        · assumption
        · simp at picked
      have mine := (exact.appliedKept index command applies).2.1
      have theirs := (exact.appliedKept later other applied).2.1
      rw [shared, mine, Option.some.injEq] at theirs
      have named : other.names command.context.workspaceId command.context.userId
          command.call.commandId := by
        have workspace := congrArg CommandChangeSet.workspaceId theirs
        have actor := congrArg CommandChangeSet.actorUserId theirs
        have named := congrArg CommandChangeSet.commandId theirs
        exact ⟨workspace.symm, actor.symm, named.symm⟩
      obtain rfl := exact.once index later command other applies applied named
      rw [same_call index command other applies applied]
    | _ => simp at picked

end LedgerExact

/-- The receipt reports an applied command. -/
def CommandReceipt.isApplied (receipt : CommandReceipt) : Bool :=
  match receipt.outcome with
  | .applied _ _ => true
  | _ => false

/-- One compare-and-swap of a journey, and no other, was made for a command. It is
the commit at an index. The command has one change set, which has one event, and
they record the rows committed just before and just after. -/
structure SwappedOnce (platform : Platform) (history : History) (db : Database)
    (workspaceId actorUserId commandId : Uuid) (index : Nat) (command : AppliedCommand) :
    Prop where
  named : command.names workspaceId actorUserId commandId
  swap : AppliesAt platform history index command
  onlySwap : ∀ later other, AppliesAt platform history later other →
    other.names workspaceId actorUserId commandId → later = index
  changeSet : changeSetsOf db workspaceId actorUserId commandId =
    [(command.call.runtime.changeSetId, command.changeSet)]
  changeEvent : changeEventsOf db command.call.runtime.changeSetId =
    [(command.call.runtime.eventId, command.changeEvent)]
  sequence : command.changeEvent.sequence = 1
  rows : ∃ commit, history[index]? = some commit ∧
    commit.before.lookup (Key.journey command.journeyId) = some command.before ∧
      commit.after.lookup (Key.journey command.journeyId) = some command.after
  states : command.changeEvent.beforeState = journeyResponse command.journeyId command.before.1 ∧
    command.changeEvent.afterState = journeyResponse command.journeyId command.after.1
  expected : command.before.1.recordVersion = command.call.payload.expectedRecordVersion
  counted : command.after.1.recordVersion = command.before.1.recordVersion + 1

/-- Commands take effect exactly once. -/
structure ExactlyOnce (platform : Platform) (history : History) (db : Database) : Prop where
  oneReceipt : ∀ workspaceId actorUserId commandId,
    (receiptsOf db workspaceId actorUserId commandId).length ≤ 1
  applied : ∀ workspaceId actorUserId commandId,
    (∃ receipt ∈ receiptsOf db workspaceId actorUserId commandId, receipt.isApplied = true) ↔
      ∃ index command,
        SwappedOnce platform history db workspaceId actorUserId commandId index command
  reported : ∀ workspaceId actorUserId commandId,
    ∀ receipt ∈ receiptsOf db workspaceId actorUserId commandId, ∀ index command,
      AppliesAt platform history index command →
        command.names workspaceId actorUserId commandId →
          receipt.outcome =
            .applied command.after.1.recordVersion command.call.runtime.changeSetId
  terminal : ∀ workspaceId actorUserId commandId,
    ∀ receipt ∈ receiptsOf db workspaceId actorUserId commandId, receipt.isApplied = false →
      ∃ index command, RejectsAt platform history index command ∧
        command.names workspaceId actorUserId commandId ∧ receipt.outcome = command.outcome
  unapplied : ∀ workspaceId actorUserId commandId,
    (∀ receipt ∈ receiptsOf db workspaceId actorUserId commandId, receipt.isApplied = false) →
      changeSetsOf db workspaceId actorUserId commandId = [] ∧
        ∀ index command, AppliesAt platform history index command →
          ¬ command.names workspaceId actorUserId commandId
  grounded : ∀ id event, db.lookup (Key.changeEvent id) = some event →
    ∃ changeSet, db.lookup (Key.changeSet event.changeSetId) = some changeSet
  recorded : ∀ index commit, history[index]? = some commit →
    commit.request.commandCall.isSome = true →
      (∃ journeyId, commit.after.lookup (Key.journey journeyId) ≠
        commit.before.lookup (Key.journey journeyId)) →
          ∃ command, AppliesAt platform history index command

namespace LedgerExact

variable {platform : Platform} {history : History} {db : Database}

/-- The account of an applied command that the ledger keeps. -/
theorem swappedOnce (exact : LedgerExact platform history db) (index : Nat)
    (command : AppliedCommand) (workspaceId actorUserId commandId : Uuid)
    (applies : AppliesAt platform history index command)
    (named : command.names workspaceId actorUserId commandId) :
    SwappedOnce platform history db workspaceId actorUserId commandId index command := by
  obtain ⟨rfl, rfl, rfl⟩ := named
  obtain ⟨commit, here, explained⟩ := applies
  have applies : AppliesAt platform history index command := ⟨commit, here, explained⟩
  refine ⟨⟨rfl, rfl, rfl⟩, applies, ?_, exact.changeSetsOf_applied index command applies,
    exact.changeEventsOf_applied index command applies, rfl,
    ⟨commit, here, explained.journeyBefore, explained.journeyAfter⟩, ⟨rfl, rfl⟩,
    explained.expected, ?_⟩
  · intro later other applied named
    exact (exact.once index later command other applies applied named).symm
  · rw [explained.revised]
    rfl

/-- A refusal is not an application. -/
theorem refused_unapplied (index : Nat) (command : RejectedCommand)
    (rejects : RejectsAt platform history index command) :
    (command.receipt platform).isApplied = false := by
  obtain ⟨commit, _, explained⟩ := rejects
  rcases explained.terminal with outcome | outcome <;>
    simp [CommandReceipt.isApplied, RejectedCommand.receipt, outcome]

/-- An exact ledger shows every command taking effect exactly once. -/
theorem exactlyOnce (exact : LedgerExact platform history db) :
    ExactlyOnce platform history db := by
  have receiptFound : ∀ workspaceId actorUserId commandId receipt,
      receipt ∈ receiptsOf db workspaceId actorUserId commandId ↔
        db.lookup (Key.receipt workspaceId actorUserId commandId) = some receipt := by
    intro workspaceId actorUserId commandId receipt
    rw [receiptsOf_eq, Option.mem_toList]
  have kept : ∀ workspaceId actorUserId commandId index command,
      AppliesAt platform history index command →
        command.names workspaceId actorUserId commandId →
          db.lookup (Key.receipt workspaceId actorUserId commandId) =
            some (command.receipt platform) := by
    rintro _ _ _ index command applies ⟨rfl, rfl, rfl⟩
    exact (exact.appliedKept index command applies).1
  refine ⟨?_, ?_, ?_, ?_, ?_, ?_, exact.swaps⟩
  · intro workspaceId actorUserId commandId
    rw [receiptsOf_eq]
    cases db.lookup (Key.receipt workspaceId actorUserId commandId) <;> simp
  · intro workspaceId actorUserId commandId
    constructor
    · rintro ⟨receipt, member, applied⟩
      rw [receiptFound] at member
      rcases exact.receipts _ _ _ _ member with ⟨index, command, applies, named, _⟩ |
        ⟨index, command, rejects, _, rfl⟩
      · exact ⟨index, command, exact.swappedOnce index command _ _ _ applies named⟩
      · rw [refused_unapplied index command rejects] at applied
        cases applied
    · rintro ⟨index, command, swapped⟩
      refine ⟨command.receipt platform, ?_, rfl⟩
      rw [receiptFound]
      exact kept _ _ _ index command swapped.swap swapped.named
  · intro workspaceId actorUserId commandId receipt member index command applies named
    rw [receiptFound, kept _ _ _ index command applies named, Option.some.injEq] at member
    subst member
    rfl
  · intro workspaceId actorUserId commandId receipt member unapplied
    rw [receiptFound] at member
    rcases exact.receipts _ _ _ _ member with ⟨index, command, _, _, rfl⟩ |
      ⟨index, command, rejects, named, rfl⟩
    · cases unapplied
    · exact ⟨index, command, rejects, named, rfl⟩
  · intro workspaceId actorUserId commandId unapplied
    have never : ∀ index command, AppliesAt platform history index command →
        ¬ command.names workspaceId actorUserId commandId := by
      intro index command applies named
      have claimed := unapplied (command.receipt platform)
        ((receiptFound _ _ _ _).mpr (kept _ _ _ index command applies named))
      cases claimed
    refine ⟨?_, never⟩
    rw [List.eq_nil_iff_forall_not_mem]
    intro entry member
    rw [changeSetsOf, mem_collect] at member
    obtain ⟨key, row, found, picked⟩ := member
    cases key with
    | changeSet id =>
      obtain ⟨index, command, applies, rfl, rfl⟩ := exact.changeSets id row found
      simp only at picked
      split at picked
      · next named => exact never index command applies named
      · cases picked
    | _ => cases picked
  · intro id event found
    obtain ⟨index, command, applies, _, rfl⟩ := exact.changeEvents id event found
    exact ⟨command.changeSet, (exact.appliedKept index command applies).2.1⟩

end LedgerExact

/-- In every state that any interleaving of requests and failures reaches, every
command has taken effect exactly once or not at all, and the ledger says which. -/
theorem ledger_exactly_once (platform : Platform) (db : Database)
    (last : System Name Row Res Failure Request Reply) (empty : LedgerEmpty db)
    (run : Run (plainApi platform) (fun _ _ => True) (System.initial db) last) :
    ExactlyOnce platform last.history last.db := by
  exact (linked_exact platform ⟨sessionsOf db, none⟩ db last.db last.history empty
    (history_committed platform db last run)).exactlyOnce

/-- The owner sends one update three times; the second request to finish is a replay,
and the third is lost before it commits. -/
theorem ledger_exactly_once_replayed :
    ∃ last, (System.initial Sample.database).steps (plainApi Sample.platform)
        (List.replicate 3 (.arrive Sample.command) ++ [.advance 2, .crash 2] ++
          List.replicate 9 (.advance 0) ++ List.replicate 4 (.advance 1)) = some last ∧
      (last.history.length = 2 ∧
        (receiptsOf last.db 2 1 5).map CommandReceipt.outcome = [.applied 2 102]) ∧
        ExactlyOnce Sample.platform last.history last.db := by
  have made : ((System.initial Sample.database).steps (plainApi Sample.platform)
        (List.replicate 3 (.arrive Sample.command) ++ [.advance 2, .crash 2] ++
          List.replicate 9 (.advance 0) ++ List.replicate 4 (.advance 1))).map
      (fun last => (last.history.length,
        (receiptsOf last.db 2 1 5).map CommandReceipt.outcome)) =
        some (2, [.applied 2 102]) := by
    decide
  obtain ⟨last, ran, observed⟩ := Option.map_eq_some_iff.mp made
  obtain ⟨finished, recorded⟩ := Prod.mk.inj observed
  have empty : LedgerEmpty Sample.database := by
    constructor <;> intros <;> rfl
  exact ⟨last, ran, ⟨finished, recorded⟩,
    ledger_exactly_once Sample.platform Sample.database last empty (run_of_steps _ _ _ _ _ (fun _ _ _ => trivial) ran)⟩

end TraxOs.Api
