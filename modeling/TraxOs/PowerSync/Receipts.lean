import TraxOs.PowerSync.Rotation

/-!
# The command ledger

Receipts, change events and versions agree. A command that is applied raises the
version of the live incarnation that it names by one, and leaves one event and one
receipt; a conflict or a denial leaves a receipt only. Nothing else writes events,
receipts or versions, except that a resource which was created again starts with a
new incarnation at version one.

The history of a run names the applied commands, because the reply that reports a
command as applied is given once. Over the history the ledger is an invariant: it
is extended by the commit of an applied command and left alone by every other one.
-/

namespace TraxOs.PowerSync

open TraxOs.Theory

/-- The command of a commit that reports it as newly applied. -/
def appliedCall (commit : Commit Row Request Reply) : Option CommandCall :=
  match commit.request, commit.reply with
  | .command userId binding credential command attemptNumber eventId, .results _ result =>
    if result.code = .applied then
      some ⟨userId, binding, credential, command, attemptNumber, eventId⟩
    else none
  | _, _ => none

/-- Only results report a command. -/
theorem appliedCall_none (commit : Commit Row Request Reply)
    (other : ∀ status result, commit.reply ≠ .results status result) : appliedCall commit = none := by
  unfold appliedCall
  split
  · next told => exact absurd told (other _ _)
  · rfl

/-- The applied commands of a history, the oldest first. -/
def appliedCalls (history : List (Commit Row Request Reply)) : List CommandCall :=
  history.filterMap appliedCall

/-- Those that were applied to one incarnation of a resource. -/
def callsOn (history : List (Commit Row Request Reply)) (resourceId incarnationId : Uuid) :
    List CommandCall :=
  (appliedCalls history).filter fun call =>
    decide (call.command.resourceId = resourceId) &&
      decide (call.command.resourceIncarnationId = incarnationId)

/-- The event of an applied command. -/
structure Recorded (call : CommandCall) (event : ChangeEvent) : Prop where
  user : event.userId = call.userId
  command : event.commandId = call.command.commandId
  resource : event.resourceId = call.command.resourceId
  version : event.resultingVersion = call.command.expectedRecordVersion + 1

/-- A resource that is created again gets an incarnation that it never had. -/
def Renews (history : List (Commit Row Request Reply)) (request : Request) : Prop :=
  ∀ id incarnationId payload grants, request = .createResource id incarnationId payload grants →
    ∀ commit ∈ history, ∀ row : Resource,
      commit.before.lookup (Key.resource id) = some row → row.incarnationId ≠ incarnationId

/-- Any request may arrive, except for a soft delete without a command; a creation may
commit under a new incarnation. -/
def CommandsAlone (system : System Name Row Res Failure Request Reply) : Event Request → Prop
  | .arrive request => ∀ id, request ≠ .softDelete id
  | .advance index => ∀ process, system.processes[index]? = some process →
      Renews system.history process.request
  | .crash _ => True

/-- The commit of a transaction that does not apply a command. -/
structure Unapplied (request : Request) (before after : Database) : Prop where
  events : ∀ id, after.lookup (Key.changeEvent id) = before.lookup (Key.changeEvent id)
  receipts : ∀ userId commandId (receipt : Receipt),
    after.lookup (Key.receipt userId commandId) = some receipt →
      before.lookup (Key.receipt userId commandId) = some receipt ∨ receipt.resultState ≠ .applied
  resources : ∀ id (row : Resource), after.lookup (Key.resource id) = some row →
    (∃ old : Resource, before.lookup (Key.resource id) = some old ∧
        row.incarnationId = old.incarnationId ∧ row.version = old.version) ∨
      row.version = 1 ∧ ∃ payload grants,
        request = .createResource id row.incarnationId payload grants

section Commits

variable {platform : Platform} {request : Request} {before after : Database}

/-- A commit that spares the resources, the receipts and the events. -/
theorem unapplied_spared (keys : List Key) (spared : Spares keys before after)
    (resources : ∀ id, Key.resource id ∉ keys) (receipts : ∀ user command, Key.receipt user command ∉ keys)
    (events : ∀ id, Key.changeEvent id ∉ keys) : Unapplied request before after where
  events id := spared _ (events id)
  receipts user command _ found := Or.inl ((spared _ (receipts user command)).symm.trans found)
  resources id row found := Or.inl ⟨row, (spared _ (resources id)).symm.trans found, rfl, rfl⟩

/-- A commit that changes nothing. -/
theorem unapplied_same : Unapplied request before before :=
  unapplied_spared [] (fun _ _ => rfl) (by simp) (by simp) (by simp)

/-- A commit that records a command without applying it. -/
theorem unapplied_records (call : CommandCall) (row : Receipt) (records : Records call row before after)
    (unapplied : row.resultState ≠ .applied) : Unapplied request before after where
  events id := records.spared _ (by simp)
  receipts user command receipt found := by
    by_cases own : Key.receipt user command = call.receiptKey
    · obtain ⟨rfl, rfl⟩ := Key.receipt.inj own
      obtain rfl : row = receipt := Option.some.inj (records.receipt.symm.trans found)
      exact Or.inr unapplied
    · exact Or.inl ((records.spared _ (by simp [own])).symm.trans found)
  resources id stored found :=
    Or.inl ⟨stored, (records.spared _ (by simp)).symm.trans found, rfl, rfl⟩

/-- Every commit applies a command and says so, or applies none. -/
theorem commit_enters (request : Request) (reply : Reply) (before after : Database)
    (committed : Committed platform request reply before after)
    (commands : ∀ id, request ≠ .softDelete id) :
    (∃ call, appliedCall ⟨request, reply, before, after⟩ = some call ∧ request = call.request ∧
        Applies platform call reply before after) ∨
      (appliedCall ⟨request, reply, before, after⟩ = none ∧ Unapplied request before after) := by
  cases committed with
  | quiet _ _ _ negative =>
    refine Or.inr ⟨appliedCall_none _ ?_, unapplied_same⟩
    rintro status result rfl
    cases negative
  | counted _ _ _ _ _ _ _ spares =>
    exact Or.inr ⟨rfl, unapplied_spared _ spares (by simp) (by simp) (by simp)⟩
  | registered _ _ _ _ _ _ _ _ spares =>
    exact Or.inr ⟨rfl, unapplied_spared _ spares (by simp) (by simp) (by simp)⟩
  | challenged _ _ _ _ _ _ _ _ _ _ spares =>
    refine Or.inr ⟨rfl, ?_, ?_, ?_⟩
    · exact fun id => spares _ (by simp)
    · exact fun user command receipt found => Or.inl ((spares _ (by simp)).symm.trans found)
    · exact fun id row found => Or.inl ⟨row, (spares _ (by simp)).symm.trans found, rfl, rfl⟩
  | acknowledged _ _ _ _ _ _ _ _ _ _ _ spares =>
    exact Or.inr ⟨rfl, unapplied_spared _ spares (by simp) (by simp) (by simp)⟩
  | rotated _ _ _ _ _ _ _ _ _ _ _ _ spares =>
    exact Or.inr ⟨rfl, unapplied_spared _ spares (by simp) (by simp) (by simp)⟩
  | repeated => exact Or.inr ⟨rfl, unapplied_same⟩
  | settled _ _ _ _ _ _ _ _ _ _ spares =>
    exact Or.inr ⟨rfl, unapplied_spared _ spares (by simp) (by simp) (by simp)⟩
  | settledBefore => exact Or.inr ⟨rfl, unapplied_same⟩
  | classified => exact Or.inr ⟨rfl, unapplied_same⟩
  | disabled _ _ _ _ _ _ _ spares =>
    exact Or.inr ⟨rfl, unapplied_spared _ spares (by simp) (by simp) (by simp)⟩
  | replayed call row receipt =>
    refine Or.inr ⟨?_, unapplied_same⟩
    simp only [appliedCall, CommandCall.request, resultFromReceipt, true_and]
    split <;> simp_all
  | deniedAgain call =>
    exact Or.inr ⟨by simp [appliedCall, CommandCall.request, deniedResultFromDurableReceipt],
      unapplied_same⟩
  | denied call _ _ _ _ _ records =>
    exact Or.inr ⟨by simp [appliedCall, CommandCall.request, deniedResultFromDurableReceipt],
      unapplied_records call _ records (by simp [CommandCall.receipt, receiptOf])⟩
  | refused call _ _ code _ _ _ _ _ cause records =>
    refine Or.inr ⟨?_, unapplied_records call _ records (by simp [CommandCall.receipt, receiptOf])⟩
    rcases cause with ⟨rfl, _⟩ | ⟨rfl, _⟩
    · simp [appliedCall, CommandCall.request, resultFromReceipt, CommandCall.receipt, receiptOf]
    · simp [appliedCall, CommandCall.request, resultFromReceipt, CommandCall.receipt, receiptOf]
  | applied call _ _ _ _ _ applies =>
    refine Or.inl ⟨call, ?_, rfl, applies⟩
    rw [applies.told]
    simp [appliedCall, CommandCall.request, resultFromReceipt, CommandCall.appliedReceipt,
      CommandCall.receipt, receiptOf]
  | created id incarnationId payload grants _ _ _ written _ spares =>
    refine Or.inr ⟨rfl, fun id => spares _ (by simp), ?_, ?_⟩
    · exact fun user command receipt found => Or.inl ((spares _ (by simp)).symm.trans found)
    · intro other row found
      by_cases same : other = id
      · subst same
        obtain rfl := Option.some.inj (written.symm.trans found)
        exact Or.inr ⟨rfl, payload, grants, rfl⟩
      · exact Or.inl ⟨row, (spares _ (by simp [same])).symm.trans found, rfl, rfl⟩
  | refreshed _ _ _ _ spares =>
    exact Or.inr ⟨rfl, unapplied_spared _ spares (by simp) (by simp) (by simp)⟩
  | buried id => exact absurd rfl (commands id)
  | reburied id => exact absurd rfl (commands id)
  | timed _ _ _ _ _ _ _ spares =>
    exact Or.inr ⟨rfl, unapplied_spared _ spares (by simp) (by simp) (by simp)⟩
  | prolonged _ _ _ _ _ _ _ spares =>
    exact Or.inr ⟨rfl, unapplied_spared _ spares (by simp) (by simp) (by simp)⟩
  | retained _ _ _ _ _ _ _ _ retains =>
    have same : ∀ key, (∀ id, key ≠ .resource id) → (∀ id, key ≠ .marker id) →
        key ≠ .retentionState → key ≠ .syncGrants → after.lookup key = before.lookup key :=
      retains.spared
    refine Or.inr ⟨rfl, ?_, ?_, ?_⟩
    · exact fun id => same _ (by simp) (by simp) (by simp) (by simp)
    · exact fun user command receipt found =>
        Or.inl ((same _ (by simp) (by simp) (by simp) (by simp)).symm.trans found)
    · intro id row found
      obtain ⟨old, there, incarnation, version, _⟩ := retains.resources id row found
      exact Or.inl ⟨old, there, incarnation, version⟩

end Commits

/-- The ledger over a history: versions count the applied commands of an incarnation, and
each of these has its own event and its own receipt. -/
structure Accounted (platform : Platform) (history : List (Commit Row Request Reply))
    (db : Database) : Prop where
  versions : ∀ id (row : Resource), db.lookup (Key.resource id) = some row →
    row.version = 1 + (callsOn history id row.incarnationId).length
  seen : ∀ call ∈ appliedCalls history, ∃ commit ∈ history, ∃ row : Resource,
    commit.before.lookup (Key.resource call.command.resourceId) = some row ∧
      row.incarnationId = call.command.resourceIncarnationId
  events : ∀ id event, db.lookup (Key.changeEvent id) = some event →
    ∃ call ∈ appliedCalls history, call.eventId = id ∧ Recorded call event
  entered : ∀ call ∈ appliedCalls history,
    (∃ event, db.lookup (Key.changeEvent call.eventId) = some event ∧ Recorded call event) ∧
      db.lookup call.receiptKey = some (call.appliedReceipt platform)
  receipts : ∀ userId commandId (receipt : Receipt),
    db.lookup (Key.receipt userId commandId) = some receipt → receipt.resultState = .applied →
      ∃ call ∈ appliedCalls history, call.receiptKey = .receipt userId commandId
  distinct : ((appliedCalls history).map CommandCall.receiptKey).Nodup

/-- Before the first command. -/
structure LedgerEmpty (db : Database) : Prop where
  versions : ∀ id (row : Resource), db.lookup (Key.resource id) = some row → row.version = 1
  receipts : ∀ userId commandId, db.lookup (Key.receipt userId commandId) = none
  events : ∀ id, db.lookup (Key.changeEvent id) = none

section Accounts

variable {platform : Platform}

/-- The empty ledger accounts for no command. -/
theorem accounted_empty (db : Database) (empty : LedgerEmpty db) : Accounted platform [] db where
  versions id row found := by simp [callsOn, appliedCalls, empty.versions id row found]
  seen := by simp [appliedCalls]
  events id event found := by
    rw [empty.events] at found
    cases found
  entered := by simp [appliedCalls]
  receipts userId commandId receipt found := by
    rw [empty.receipts] at found
    cases found
  distinct := by simp [appliedCalls]

/-- A commit that applies no command leaves the ledger as it is. -/
theorem accounted_unapplied (history : List (Commit Row Request Reply))
    (commit : Commit Row Request Reply) (none : appliedCall commit = none)
    (unapplied : Unapplied commit.request commit.before commit.after)
    (records : ∀ userId commandId (receipt : Receipt),
      commit.before.lookup (Key.receipt userId commandId) = some receipt →
        commit.after.lookup (Key.receipt userId commandId) = some receipt)
    (renews : Renews history commit.request) (holds : Accounted platform history commit.before) :
    Accounted platform (history ++ [commit]) commit.after := by
  have same : appliedCalls (history ++ [commit]) = appliedCalls history := by
    simp [appliedCalls, none]
  have counted : ∀ id incarnation,
      callsOn (history ++ [commit]) id incarnation = callsOn history id incarnation := by
    intro id incarnation
    rw [callsOn, same, callsOn]
  refine ⟨?_, ?_, ?_, ?_, ?_, ?_⟩
  · intro id row found
    rw [counted]
    rcases unapplied.resources id row found with
      ⟨old, there, incarnation, version⟩ | ⟨fresh, payload, grants, request⟩
    · rw [version, incarnation]
      exact holds.versions id old there
    · have unused : callsOn history id row.incarnationId = [] := by
        rw [callsOn, List.filter_eq_nil_iff]
        intro call member match_
        rw [Bool.and_eq_true, decide_eq_true_eq, decide_eq_true_eq] at match_
        obtain ⟨earlier, present, old, there, incarnation⟩ := holds.seen call member
        rw [match_.1] at there
        exact renews id _ payload grants request earlier present old there
          (incarnation.trans match_.2)
      rw [fresh, unused, List.length_nil]
  · rw [same]
    intro call member
    obtain ⟨earlier, present, row, there⟩ := holds.seen call member
    exact ⟨earlier, List.mem_append_left _ present, row, there⟩
  · intro id event found
    rw [same]
    exact holds.events id event ((unapplied.events id).symm.trans found)
  · rw [same]
    intro call member
    obtain ⟨⟨event, found, recorded⟩, receipt⟩ := holds.entered call member
    exact ⟨⟨event, (unapplied.events _).trans found, recorded⟩, records _ _ _ receipt⟩
  · intro userId commandId receipt found applied
    rw [same]
    rcases unapplied.receipts userId commandId receipt found with there | other
    · exact holds.receipts userId commandId receipt there applied
    · exact absurd applied other
  · rw [same]
    exact holds.distinct

/-- The commit of an applied command enters it. -/
theorem accounted_applied (history : List (Commit Row Request Reply))
    (commit : Commit Row Request Reply) (call : CommandCall) (entered : appliedCall commit = some call)
    (applies : Applies platform call commit.reply commit.before commit.after)
    (records : ∀ userId commandId (receipt : Receipt),
      commit.before.lookup (Key.receipt userId commandId) = some receipt →
        commit.after.lookup (Key.receipt userId commandId) = some receipt)
    (holds : Accounted platform history commit.before) :
    Accounted platform (history ++ [commit]) commit.after := by
  have calls : appliedCalls (history ++ [commit]) = appliedCalls history ++ [call] := by
    simp [appliedCalls, entered]
  obtain ⟨old, stored, found, incarnation, _, version, written, kept, raised⟩ := applies.changes
  have spared : ∀ key, (∀ id, key ≠ .marker id) → key ≠ .retentionState →
      key ≠ .resource call.command.resourceId → key ≠ .changeEvent call.eventId →
        key ≠ call.receiptKey → commit.after.lookup key = commit.before.lookup key := by
    intro key marker state resource event receipt
    rcases applies.buries with ⟨_, spares⟩ | ⟨_, _, _, _, _, spares⟩
    · exact spares key (by simp [resource, event, receipt])
    · exact spares key (by simp [resource, event, receipt, state, marker])
  refine ⟨?_, ?_, ?_, ?_, ?_, ?_⟩
  · intro id row there
    by_cases same : id = call.command.resourceId
    · subst same
      obtain rfl : stored = row := Option.some.inj (written.symm.trans there)
      have earlier := holds.versions _ old found
      have one : callsOn (history ++ [commit]) call.command.resourceId stored.incarnationId =
          callsOn history call.command.resourceId stored.incarnationId ++ [call] := by
        simp [callsOn, calls, kept, incarnation]
      rw [one, List.length_append, List.length_singleton, raised, ← version, earlier, kept]
      omega
    · have before := (spared (Key.resource id) (by simp) (by simp) (by simpa using same) (by simp)
        (by simp)).symm.trans there
      have other : callsOn (history ++ [commit]) id row.incarnationId =
          callsOn history id row.incarnationId := by
        simp [callsOn, calls, Ne.symm same]
      rw [other]
      exact holds.versions id row before
  · intro tested member
    rw [calls, List.mem_append, List.mem_singleton] at member
    rcases member with member | rfl
    · obtain ⟨earlier, present, row, there⟩ := holds.seen tested member
      exact ⟨earlier, List.mem_append_left _ present, row, there⟩
    · exact ⟨commit, by simp, old, found, incarnation⟩
  · intro id event there
    rw [calls]
    by_cases same : id = call.eventId
    · subst same
      obtain ⟨own, recorded, user, command, resource, resulting⟩ := applies.event
      obtain rfl : own = event := Option.some.inj (recorded.symm.trans there)
      exact ⟨call, by simp, rfl, user, command, resource, resulting⟩
    · have before := (spared (Key.changeEvent id) (by simp) (by simp) (by simp) (by simpa using same)
        (by simp)).symm.trans there
      obtain ⟨earlier, member, here, recorded⟩ := holds.events id event before
      exact ⟨earlier, List.mem_append_left _ member, here, recorded⟩
  · intro tested member
    rw [calls, List.mem_append, List.mem_singleton] at member
    rcases member with member | rfl
    · obtain ⟨⟨event, there, recorded⟩, receipt⟩ := holds.entered tested member
      have other : tested.eventId ≠ call.eventId := by
        intro same
        rw [same, applies.eventFree] at there
        cases there
      refine ⟨⟨event, ?_, recorded⟩, records _ _ _ receipt⟩
      rw [spared _ (by simp) (by simp) (by simp) (by simpa using other) (by simp)]
      exact there
    · obtain ⟨own, recorded, user, command, resource, resulting⟩ := applies.event
      exact ⟨⟨own, recorded, user, command, resource, resulting⟩, applies.receipt⟩
  · intro userId commandId receipt there applied
    rw [calls]
    by_cases same : Key.receipt userId commandId = call.receiptKey
    · exact ⟨call, by simp, same.symm⟩
    · have before := (spared (Key.receipt userId commandId) (by simp) (by simp) (by simp) (by simp)
        same).symm.trans there
      obtain ⟨earlier, member, here⟩ := holds.receipts userId commandId receipt before applied
      exact ⟨earlier, List.mem_append_left _ member, here⟩
  · rw [calls, List.map_append, List.nodup_append]
    refine ⟨holds.distinct, by simp, ?_⟩
    rintro key earlier own single
    obtain ⟨tested, member, rfl⟩ := List.mem_map.mp earlier
    obtain rfl := List.mem_singleton.mp single
    intro same
    obtain ⟨user, command⟩ := Key.receipt.inj same
    have free := applies.free
    rw [CommandCall.receiptKey, ← user, ← command] at free
    exact absurd ((holds.entered tested member).2.symm.trans free) (by simp)

end Accounts

section Replays

variable {platform : Platform}

/-- A resource that is granted exists. -/
theorem granted_present (db : Database) (holds : Sequenced db) (userId resourceId : Uuid)
    (allowed : granted db userId resourceId = true) :
    ∃ row, db.lookup (Key.resource resourceId) = some row := by
  rw [granted, Option.any_eq_true] at allowed
  obtain ⟨table, found, allows⟩ := allowed
  simp only [SyncGrants.allow, List.any_eq_true, Bool.and_eq_true, decide_eq_true_eq] at allows
  obtain ⟨grant, member, ⟨rfl, _⟩, _⟩ := allows
  apply Option.isSome_iff_exists.mp
  apply holds.grounded grant
  rw [grantsOf, found]
  exact member

/-- What a replica that is valid and not stale is answered about a recorded command: the
stored outcome or a denial when the receipt is of this very command, else a refusal. -/
def answerTo (platform : Platform) (db : Database) (call : CommandCall) (receipt : Receipt) :
    Except Failure Reply :=
  if receipt.binds platform call.binding call.command then
    if granted db call.userId call.command.resourceId then
      .ok (.results 200 (resultFromReceipt call.command.commandId receipt call.attemptNumber true))
    else
      .ok (.results 403 (deniedResultFromDurableReceipt call.command.commandId receipt
        call.attemptNumber))
  else .error (.rolledBack .idempotencyConflict)

/-- `lockReplica` finds a replica that presents its credential. -/
theorem lockReplica_alone (userId : Uuid) (binding : ReplicaBinding) (credential : Text)
    (db : Database) (row : Replica) (state : RetentionState)
    (presents : Presents platform db userId binding credential row)
    (counted : stateOf db = some state) :
    alone (commandServer platform) (lockReplica platform userId binding credential) db =
      .ok (some ⟨row, state.effectiveNow, state.nextDeletionSequence,
        state.resetRequired row.lastClientObservedAckAt row.acknowledgedSequence⟩, db) := by
  obtain ⟨found, owner, enabled, epoch, digest⟩ := presents
  rw [stateOf] at counted
  simp only [lockReplica, Program.ask_bind, alone, commandServer, execute, found, counted, owner,
    enabled, epoch, digest, ne_eq, not_true, or_self, if_false, applyAll_nil, Program.pure_eq]

/-- A command that was recorded before is answered from its receipt and changes nothing. -/
theorem serve_recorded (call : CommandCall) (db : Database) (holds : Sequenced db) (row : Replica)
    (state : RetentionState) (receipt : Receipt)
    (presents : Presents platform db call.userId call.binding call.credential row)
    (counted : stateOf db = some state)
    (fresh : state.resetRequired row.lastClientObservedAckAt row.acknowledgedSequence = false)
    (recorded : db.lookup call.receiptKey = some receipt) :
    serve (commandServer platform) call.request db = (answerTo platform db call receipt, db) := by
  have replica := presents.1
  have present := counted
  rw [stateOf] at present
  have executed : alone (commandServer platform) ((commandServer platform).program call.request) db =
      (answerTo platform db call receipt).map fun reply => (reply, db) := by
    change alone (commandServer platform) (executeCommands platform call.userId call.binding
      call.credential call.command call.attemptNumber call.eventId) db = _
    rw [executeCommands, alone_bind, lockReplica_alone _ _ _ db row state presents counted]
    simp only [Program.ask_bind, alone, commandServer, execute, answered, replica, present, fresh,
      applyAll_nil, Bool.false_eq_true, if_false]
    split
    · next allowed =>
      obtain ⟨resource, there⟩ := granted_present db holds _ _ allowed
      simp only [settleCommand, Program.ask_bind, alone, execute, answered, there, recorded,
        applyAll_nil]
      rw [answerTo, granted, if_pos allowed]
      split
      · simp [Except.map]
      · simp [Except.map, rollBack]
    · next revoked =>
      simp only [denyCommand, Program.ask_bind, alone, execute, answered, recorded, applyAll_nil]
      rw [answerTo, granted, if_neg revoked]
      split
      · simp [Except.map]
      · simp [Except.map, rollBack]
  rw [serve, executed]
  cases answerTo platform db call receipt with
  | error error => rfl
  | ok reply => rfl

/-- A request determines the command that it carries. -/
theorem request_injective (call other : CommandCall) (same : call.request = other.request) :
    call = other := by
  obtain ⟨_, _, _, _, _, _⟩ := call
  obtain ⟨_, _, _, _, _, _⟩ := other
  simpa [CommandCall.request] using same

/-- A result is reported from a receipt that the commit leaves, of this very command. -/
theorem commit_results (call : CommandCall) (request : Request) (reply : Reply)
    (before after : Database) (committed : Committed platform request reply before after)
    (asked : request = call.request) (status : Nat) (result : SpikeCommandResult)
    (told : reply = .results status result) :
    ∃ receipt, after.lookup call.receiptKey = some receipt ∧
      receipt.binds platform call.binding call.command = true ∧
        ((status = 200 ∧ ∃ replay, result = resultFromReceipt call.command.commandId receipt
            call.attemptNumber replay) ∨
          (status = 403 ∧ result = deniedResultFromDurableReceipt call.command.commandId receipt
            call.attemptNumber)) := by
  have own : ∀ (state : ResultState) (code : ResultCode) (version : Nat),
      (call.receipt platform state code version).binds platform call.binding call.command = true := by
    intro state code version
    simp [Receipt.binds, CommandCall.receipt, receiptOf]
  cases committed with
  | quiet _ _ _ negative =>
    rw [told] at negative
    cases negative
  | replayed other row receipt _ _ _ found binds =>
    obtain rfl := request_injective other call asked
    cases told
    exact ⟨receipt, found, binds, Or.inl ⟨rfl, true, rfl⟩⟩
  | deniedAgain other row receipt _ _ _ found binds =>
    obtain rfl := request_injective other call asked
    cases told
    exact ⟨receipt, found, binds, Or.inr ⟨rfl, rfl⟩⟩
  | denied other _ _ _ _ _ records =>
    obtain rfl := request_injective other call asked
    cases told
    exact ⟨_, records.receipt, own _ _ _, Or.inr ⟨rfl, rfl⟩⟩
  | refused other _ _ _ _ _ _ _ _ _ records =>
    obtain rfl := request_injective other call asked
    cases told
    exact ⟨_, records.receipt, own _ _ _, Or.inl ⟨rfl, false, rfl⟩⟩
  | applied other _ _ _ _ _ applies =>
    obtain rfl := request_injective other call asked
    have same := applies.told.symm.trans told
    cases same
    exact ⟨_, applies.receipt, own _ _ _, Or.inl ⟨rfl, false, rfl⟩⟩
  | _ => cases told

/-- A command changes at most the live resource that it names, and only when it finds the
incarnation and the version that it expects. -/
theorem commit_touches (call : CommandCall) (request : Request) (reply : Reply)
    (before after : Database) (committed : Committed platform request reply before after)
    (asked : request = call.request) (id : Uuid) (row : Resource)
    (found : before.lookup (Key.resource id) = some row)
    (changed : after.lookup (Key.resource id) ≠ some row) :
    id = call.command.resourceId ∧ row.deletedAt = none ∧
      row.incarnationId = call.command.resourceIncarnationId ∧
        row.version = call.command.expectedRecordVersion := by
  have kept : after.lookup (Key.resource id) = before.lookup (Key.resource id) → False :=
    fun same => changed (same.trans found)
  cases committed with
  | quiet => exact absurd rfl kept
  | replayed => exact absurd rfl kept
  | deniedAgain => exact absurd rfl kept
  | denied _ _ _ _ _ _ records => exact absurd (records.spared _ (by simp)) kept
  | refused _ _ _ _ _ _ _ _ _ _ records => exact absurd (records.spared _ (by simp)) kept
  | applied other _ _ _ _ _ applies =>
    obtain rfl := request_injective other call asked
    obtain ⟨old, _, there, incarnation, live, version, _⟩ := applies.changes
    by_cases same : id = other.command.resourceId
    · subst same
      obtain rfl : old = row := Option.some.inj (there.symm.trans found)
      exact ⟨rfl, live, incarnation, version⟩
    · rcases applies.buries with ⟨_, spares⟩ | ⟨_, _, _, _, _, spares⟩
      · exact absurd (spares _ (by simp [same])) kept
      · exact absurd (spares _ (by simp [same])) kept
  | _ => cases asked

end Replays

/-- The command ledger of a history, and what its requests are answered at its end. -/
structure KeepsLedger (platform : Platform) (first : Database)
    (history : List (Commit Row Request Reply)) (last : Database) : Prop where
  receipts : ∀ (earlier later : Nat) (before after : Database) (userId commandId : Uuid)
    (receipt : Receipt), earlier ≤ later → (states first history)[earlier]? = some before →
      (states first history)[later]? = some after →
        before.lookup (Key.receipt userId commandId) = some receipt →
          after.lookup (Key.receipt userId commandId) = some receipt
  versions : ∀ id (row : Resource), last.lookup (Key.resource id) = some row →
    row.version = 1 + (callsOn history id row.incarnationId).length
  events : ((appliedCalls history).map CommandCall.eventId).Nodup ∧
    (∀ call ∈ appliedCalls history, ∃ event,
      last.lookup (Key.changeEvent call.eventId) = some event ∧ Recorded call event) ∧
      ∀ id event, last.lookup (Key.changeEvent id) = some event →
        ∃ call ∈ appliedCalls history, call.eventId = id ∧ Recorded call event
  applied : ∀ userId commandId (receipt : Receipt),
    last.lookup (Key.receipt userId commandId) = some receipt → receipt.resultState = .applied →
      ∃ (id : Uuid) (event : ChangeEvent), last.lookup (Key.changeEvent id) = some event ∧
        event.userId = userId ∧ event.commandId = commandId ∧
          ∀ other (another : ChangeEvent), last.lookup (Key.changeEvent other) = some another →
            another.userId = userId → another.commandId = commandId → other = id
  explained : ∀ id (event : ChangeEvent), last.lookup (Key.changeEvent id) = some event →
    ∃ receipt : Receipt, last.lookup (Key.receipt event.userId event.commandId) = some receipt ∧
      receipt.resultState = .applied ∧ event.resultingVersion = receipt.previousVersion + 1
  untouched : ∀ commit ∈ history, ∀ (call : CommandCall) (id : Uuid) (row : Resource),
    commit.request = call.request → commit.before.lookup (Key.resource id) = some row →
      commit.after.lookup (Key.resource id) ≠ some row → id = call.command.resourceId ∧
        row.deletedAt = none ∧ row.incarnationId = call.command.resourceIncarnationId ∧
          row.version = call.command.expectedRecordVersion
  replays : ∀ commit ∈ history, ∀ (call : CommandCall) (status : Nat) (result : SpikeCommandResult),
    commit.request = call.request → commit.reply = .results status result →
      ∃ receipt : Receipt, last.lookup call.receiptKey = some receipt ∧
        ((status = 200 ∧ ∃ replay, result = resultFromReceipt call.command.commandId receipt
            call.attemptNumber replay) ∨
          (status = 403 ∧ result = deniedResultFromDurableReceipt call.command.commandId receipt
            call.attemptNumber)) ∧
        ∀ (again : CommandCall) (row : Replica) (state : RetentionState),
          again.userId = call.userId → again.command.commandId = call.command.commandId →
            Presents platform last again.userId again.binding again.credential row →
              stateOf last = some state →
                state.resetRequired row.lastClientObservedAckAt row.acknowledgedSequence = false →
                  serve (commandServer platform) again.request last =
                    (if again.binding = call.binding ∧ again.command = call.command then
                      if granted last again.userId again.command.resourceId then
                        .ok (.results 200 (resultFromReceipt again.command.commandId receipt
                          again.attemptNumber true))
                      else
                        .ok (.results 403 (deniedResultFromDurableReceipt again.command.commandId
                          receipt again.attemptNumber))
                    else .error (.rolledBack .idempotencyConflict), last)

section Runs

variable {platform : Platform}

/-- The commits of a history of commands. -/
abbrev Commands (platform : Platform) (request : Request) (reply : Reply)
    (before after : Database) : Prop :=
  (∀ id, request ≠ .softDelete id) ∧ Committed platform request reply before after

/-- The ledger accounts for every history of commands. -/
theorem linked_accounted (first last : Database) (history : List (Commit Row Request Reply))
    (linked : Linked (Commands platform) first history last) (empty : LedgerEmpty first)
    (renewed : ∀ (earlier rest : List (Commit Row Request Reply)) (commit : Commit Row Request Reply),
      history = earlier ++ commit :: rest → Renews earlier commit.request) :
    Accounted platform history last := by
  induction linked with
  | nil => exact accounted_empty first empty
  | snoc history commit _ related inductionHypothesis =>
    obtain ⟨commands, committed⟩ := related
    have holds := inductionHypothesis fun earlier rest other split =>
      renewed earlier (rest ++ [commit]) other (by simp [split])
    have records := fun userId commandId receipt found =>
      commit_keeps_receipt commit.request commit.reply _ _ committed userId commandId receipt found
    rcases commit_enters _ _ _ _ committed commands with ⟨call, entered, _, applies⟩ | ⟨none, unapplied⟩
    · exact accounted_applied history commit call entered applies records holds
    · exact accounted_unapplied history commit none unapplied records (renewed history [] commit rfl)
        holds

/-- A receipt is there for the rest of a history. -/
theorem linked_receipt (first last : Database) (history : List (Commit Row Request Reply))
    (linked : Linked (Committed platform) first history last) (userId commandId : Uuid)
    (receipt : Receipt) (found : first.lookup (Key.receipt userId commandId) = some receipt) :
    last.lookup (Key.receipt userId commandId) = some receipt := by
  induction linked with
  | nil => exact found
  | snoc history commit _ committed inductionHypothesis =>
    exact commit_keeps_receipt commit.request commit.reply _ _ committed userId commandId receipt
      inductionHypothesis

/-- A receipt binds the command it was inserted for, and no other. -/
theorem binds_iff (digests : ∀ one two, platform.sha256Json one = platform.sha256Json two → one = two)
    (receipt : Receipt) (call again : CommandCall)
    (binds : receipt.binds platform call.binding call.command = true) :
    receipt.binds platform again.binding again.command = true ↔
      again.binding = call.binding ∧ again.command = call.command := by
  constructor
  · intro other
    simp only [Receipt.binds, Bool.and_eq_true, decide_eq_true_eq] at binds other
    have same := digests _ _ (other.2.symm.trans binds.2)
    obtain ⟨command, binding⟩ := normalized_injective _ _ _ _ same
    exact ⟨binding, command⟩
  · rintro ⟨binding, command⟩
    rw [binding, command]
    exact binds

/-- In every run in which only commands change versions, the command ledger is kept. -/
theorem command_ledger (platform : Platform)
    (digests : ∀ one two, platform.sha256Json one = platform.sha256Json two → one = two)
    (db : Database) (holds : Sequenced db) (empty : LedgerEmpty db)
    (last : System Name Row Res Failure Request Reply)
    (run : Run (commandServer platform) CommandsAlone (System.initial db) last) :
    KeepsLedger platform db last.history last.db := by
  have committed := history_committed platform _ db holds last run
  have requests : ∀ commit ∈ last.history, ∀ id, commit.request ≠ .softDelete id :=
    (requests_arrived (commandServer platform) CommandsAlone
      (fun request => ∀ id, request ≠ .softDelete id) _ last (fun _ _ permitted => permitted)
      (by simp [System.initial]) (by simp [System.initial]) run).2
  have renewed := commits_permitted (commandServer platform) CommandsAlone
    (fun history request _ _ _ => Renews history request) _ last
    (fun _ _ process _ permitted found _ => permitted process found) rfl run
  have accounted : Accounted platform last.history last.db :=
    linked_accounted db last.db last.history
      (committed.restrict (fun request _ _ _ => ∀ id, request ≠ .softDelete id) requests) empty renewed
  have final : Sequenced last.db :=
    committed.preserves (fun request reply before after commits inside =>
      commit_keeps_sequences platform request reply before after inside commits) holds
  have single : ∀ one ∈ appliedCalls last.history, ∀ two ∈ appliedCalls last.history,
      one.receiptKey = two.receiptKey → one = two :=
    fun one first two second same => List.inj_on_of_nodup_map accounted.distinct first second same
  constructor
  · intro earlier later before after userId commandId receipt ordered here there found
    exact linked_receipt before after _
      (committed.between earlier later before after ordered here there).1 userId commandId receipt found
  · exact accounted.versions
  · refine ⟨?_, fun call member => (accounted.entered call member).1, accounted.events⟩
    apply List.Nodup.map_on _ (List.Nodup.of_map _ accounted.distinct)
    intro one first two second same
    obtain ⟨⟨event, found, recorded⟩, _⟩ := accounted.entered one first
    obtain ⟨⟨other, there, also⟩, _⟩ := accounted.entered two second
    rw [same] at found
    obtain rfl : event = other := Option.some.inj (found.symm.trans there)
    apply single one first two second
    rw [CommandCall.receiptKey, CommandCall.receiptKey, ← recorded.user, ← recorded.command,
      ← also.user, ← also.command]
  · intro userId commandId receipt found applied
    obtain ⟨call, member, same⟩ := accounted.receipts userId commandId receipt found applied
    obtain ⟨rfl, rfl⟩ := Key.receipt.inj same
    obtain ⟨⟨event, there, recorded⟩, _⟩ := accounted.entered call member
    refine ⟨call.eventId, event, there, recorded.user, recorded.command, ?_⟩
    intro other another present user command
    obtain ⟨entered, also, rfl, matches_⟩ := accounted.events other another present
    have equal : entered = call := by
      apply single entered also call member
      rw [CommandCall.receiptKey, CommandCall.receiptKey, ← matches_.user, ← matches_.command, user,
        command]
    rw [equal]
  · intro id event found
    obtain ⟨call, member, _, recorded⟩ := accounted.events id event found
    refine ⟨call.appliedReceipt platform, ?_, rfl, recorded.version⟩
    rw [recorded.user, recorded.command]
    exact (accounted.entered call member).2
  · intro commit member call id row asked found changed
    obtain ⟨index, place⟩ := List.getElem?_of_mem member
    exact commit_touches call _ _ _ _ (committed.around index commit place).2.2 asked id row found
      changed
  · intro commit member call status result asked told
    obtain ⟨earlier, rest, split⟩ := List.append_of_mem member
    rw [split] at committed
    obtain ⟨_, related, back⟩ := committed.parts
    obtain ⟨receipt, written, binds, reported⟩ :=
      commit_results call _ _ _ _ related asked status result told
    have recorded := linked_receipt _ _ rest back _ _ receipt written
    refine ⟨receipt, recorded, reported, ?_⟩
    intro again row state user command presents counted fresh
    have found : last.db.lookup again.receiptKey = some receipt := by
      change last.db.lookup (Key.receipt again.userId again.command.commandId) = some receipt
      rw [user, command]
      exact recorded
    rw [serve_recorded again last.db final row state receipt presents counted fresh found, answerTo]
    simp only [binds_iff digests receipt call again binds]

end Runs

namespace Sample

/-- The digests of the sample platform do not collide. -/
theorem digests_apart (one two : Normalized) (same : platform.sha256Json one = platform.sha256Json two) :
    one = two := by
  obtain ⟨replica, epoch, command, type, resource, incarnation, expected, payload⟩ := one
  obtain ⟨replica', epoch', command', type', resource', incarnation', expected', payload'⟩ := two
  obtain ⟨rfl, rest⟩ := framed_injective _ _ _ _ same
  obtain ⟨epochs, rest⟩ := framed_injective _ _ _ _ rest
  obtain ⟨rfl, rest⟩ := framed_injective _ _ _ _ rest
  obtain ⟨rfl, rest⟩ := framed_injective _ _ _ _ rest
  obtain ⟨rfl, rest⟩ := framed_injective _ _ _ _ rest
  obtain ⟨rfl, rest⟩ := framed_injective _ _ _ _ rest
  obtain ⟨versions, rest⟩ := framed_injective _ _ _ _ rest
  obtain rfl := decimal_injective _ _ epochs
  obtain rfl := decimal_injective _ _ versions
  have payloads : payload = payload' := by
    cases payload with
    | none =>
      cases payload' with
      | none => rfl
      | some text => cases text <;> simp [framed] at rest
    | some text =>
      cases payload' with
      | none => cases text <;> simp [framed] at rest
      | some other => rw [(framed_injective _ _ _ _ rest).1]
  rw [payloads]

/-- A resource that the user of the sample replica may write. -/
def document : Uuid := ascii "44444444-4444-4444-8444-444444444444"

def incarnationId : Uuid := ascii "55555555-5555-4555-8555-555555555555"

/-- A database with the resource, the grant for it and a replica that is not stale. -/
def shared : Database :=
  ((database.insert (Key.resource document) ⟨incarnationId, some [], 1, none, Nat.one_pos⟩).insert
    Key.syncGrants ⟨[⟨document, userId, [], true, true, true, true⟩], 0⟩).insert
      (Key.replica replicaId) ((registeredReplica userId credential 0).acknowledged 0 1)

/-- What it holds in the other tables. -/
theorem shared_lookup (key : Key) (replica : key ≠ .replica replicaId) (grants : key ≠ .syncGrants)
    (resource : key ≠ .resource document) (state : key ≠ .retentionState) :
    shared.lookup key = none := by
  rw [shared, AList.lookup_insert_ne replica, AList.lookup_insert_ne grants,
    AList.lookup_insert_ne resource, database, AList.lookup_insert_ne state]
  rfl

/-- It satisfies the invariant of committed databases. -/
theorem shared_sequenced : Sequenced shared where
  counted := by
    refine ⟨retention, by decide, by decide, ?_⟩
    intro id marker found
    rw [shared_lookup _ (by simp) (by simp) (by simp) (by simp)] at found
    cases found
  distinct id other marker _ here := by
    rw [shared_lookup _ (by simp) (by simp) (by simp) (by simp)] at here
    cases here
  grounded := by decide

/-- No command was executed in it. -/
theorem shared_empty : LedgerEmpty shared where
  versions id row found := by
    by_cases same : id = document
    · subst same
      have stored : shared.lookup (Key.resource document) =
          some ⟨incarnationId, some [], 1, none, Nat.one_pos⟩ := by decide
      rw [stored, Option.some.injEq] at found
      rw [← found]
    · rw [shared_lookup _ (by simp) (by simp) (by simpa using same) (by simp)] at found
      cases found
  receipts userId commandId := shared_lookup _ (by simp) (by simp) (by simp) (by simp)
  events id := shared_lookup _ (by simp) (by simp) (by simp) (by simp)

/-- An update of the resource at its first version. -/
def update : CommandCall where
  userId := userId
  binding := binding
  credential := credential
  command :=
    { commandId := ascii "66666666-6666-4666-8666-666666666666"
      kind := .update (ascii "text")
      resourceId := document
      resourceIncarnationId := incarnationId
      expectedRecordVersion := 1 }
  attemptNumber := 1
  eventId := ascii "77777777-7777-4777-8777-777777777777"

/-- It is sent twice. -/
def updates : List (Event Request) :=
  executed 0 10 update.request ++ executed 1 7 update.request

/-- Whether a request carries a command. -/
def carries : Request → Bool
  | .command _ _ _ _ _ _ => true
  | _ => false

/-- Whether an event is of commands only. -/
def ofCommands (system : System Name Row Res Failure Request Reply) : Event Request → Bool
  | .arrive request => carries request
  | .advance index => system.processes[index]?.all fun process => carries process.request
  | .crash _ => true

/-- Then it is permitted. -/
theorem ofCommands_permits (system : System Name Row Res Failure Request Reply)
    (event : Event Request) (checked : ofCommands system event = true) : CommandsAlone system event := by
  cases event with
  | arrive request =>
    rintro id rfl
    cases checked
  | advance index =>
    intro process found id incarnationId payload grants request
    simp only [ofCommands, found, Option.all_some, request] at checked
    cases checked
  | crash => trivial

/-- The code that a reply reports. -/
def reported : Reply → Option ResultCode
  | .results _ result => some result.code
  | _ => none

end Sample

/-- An update that is sent twice is applied once and reported as already applied. -/
theorem command_ledger_updates :
    ∃ last, (System.initial Sample.shared).checkedSteps (commandServer Sample.platform)
        Sample.ofCommands Sample.updates = some last ∧
      last.history.map (fun commit => Sample.reported commit.reply) =
        [some .applied, some .alreadyApplied] ∧
      KeepsLedger Sample.platform Sample.shared last.history last.db := by
  have made : ((System.initial Sample.shared).checkedSteps (commandServer Sample.platform)
      Sample.ofCommands Sample.updates).map (fun last =>
        last.history.map fun commit => Sample.reported commit.reply) =
          some [some .applied, some .alreadyApplied] := by
    decide +kernel
  obtain ⟨last, ran, replies⟩ := Option.map_eq_some_iff.mp made
  exact ⟨last, ran, replies, command_ledger Sample.platform Sample.digests_apart Sample.shared
    Sample.shared_sequenced Sample.shared_empty last
    (run_of_checked _ _ _ Sample.ofCommands_permits _ _ _ ran)⟩

end TraxOs.PowerSync
