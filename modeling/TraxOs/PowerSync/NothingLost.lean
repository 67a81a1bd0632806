import TraxOs.PowerSync.ResetSafety

/-!
# No command is lost

A run of the client is a course of calls behind its gate, with uploads in the background at
every `await`. A command is outstanding from the call that queued it until the user acknowledges
it. Two calls disturb a reset that is unfinished: a command that is queued before the replica is
cleared gets an overlay without an intent, and the acknowledgement of an older entry writes a
quarantine without the intents. Without them no outstanding command is lost, wherever the
attempts of a reset stop.
-/

namespace TraxOs.PowerSync

open TraxOs.Theory
open TraxOs.ApiClient (Value)

section Outstanding

/-- The command that an operation acknowledges or discards. -/
def ClientOperation.acknowledged : ClientOperation → Option Text
  | .acknowledgeCommandResult commandId => some commandId
  | .acknowledgeOrDiscardQuarantinedCommand commandId => some commandId
  | _ => none

/-- The commands but the one that an operation names. -/
def ClientOperation.others (operation : ClientOperation) (ids : List Text) : List Text :=
  match operation.acknowledged with
  | some commandId => but ids commandId
  | none => ids

/-- What is outstanding after a call. An acknowledgement that finds nothing changes nothing;
one that throws was asked for all the same. -/
def ClientOperation.accounts (ids : List Text) : EndedCall → List Text
  | (.queueCommands commands _, .ok _) => ids ++ commands.map QueuedCommandInput.commandId
  | (.acknowledgeCommandResult _, .ok (some false)) => ids
  | (.acknowledgeOrDiscardQuarantinedCommand _, .ok (some false)) => ids
  | (operation, _) => operation.others ids

/-- The commands that were queued and that the user has not acknowledged or discarded. -/
def outstanding (history : List EndedCall) : List Text :=
  history.foldl ClientOperation.accounts []

theorem outstanding_snoc (history : List EndedCall) (call : EndedCall) :
    outstanding (history ++ [call]) = ClientOperation.accounts (outstanding history) call := by
  simp [outstanding]

/-- The commands that a course must not have lost: those that are outstanding, but the one that
a waiting call names. -/
def ClientCourse.owed {Outside : Type} (course : ClientCourse Outside) : List Text :=
  match course.waiting with
  | some operation => operation.others (outstanding course.history)
  | none => outstanding course.history

end Outstanding

section Runs

variable {Outside : Type} (surroundings : ClientSurroundings Outside)

/-- A client that was opened without an unfinished reset. -/
structure Opened (world : ClientWorld Outside) : Prop where
  tables : Balanced world.tables
  quarantine : QuarantineFile world.quarantineFile
  settled : world.resetFile = none
  known : ∀ id ∈ finalizedIds world.quarantineFile,
    id ∈ world.finalizedQuarantine.map QuarantinedCommand.id

/-- The calls that do not disturb an unfinished reset: no command is queued while the reset is
yet to clear the replica, and no entry of the quarantine is acknowledged while the file has its
intents, or entries that the memory does not know. -/
def undisturbed : CourseRule (ClientWorld Outside) (Background Outside) ClientRequest ClientOperation where
  step _ _ _ := True
  effect _ _ := True
  idle _ _ := True
  call
    | .queueCommands _ _, world => uncleared world.resetFile = false
    | .acknowledgeOrDiscardQuarantinedCommand commandId, world => Discardable world ∨
      ∀ command ∈ world.finalizedQuarantine, command.id ≠ commandId
    | _, _ => True

/-- Nothing is lost: each command that is owed is represented, and while the overlays may still
be cleared each of them is in the pending quarantine. -/
structure NothingLost (course : ClientCourse Outside) : Prop where
  represented : ∀ id ∈ course.owed, Represented course.world id
  covered : uncleared course.world.resetFile = true →
    ∀ id ∈ course.world.tables.overlayIds, id ∈ pendingIds course.world.quarantineFile

variable {surroundings}

/-- A client that was opened so keeps nothing yet. -/
theorem Opened.kept {world : ClientWorld Outside} (opened : Opened world) : Kept [] world where
  tables := opened.tables
  quarantine := opened.quarantine
  reset := .inl opened.settled
  held id member := by cases member
  covered unfinished := by
    rw [opened.settled] at unfinished
    cases unfinished
  known _ := opened.known

/-- Each call keeps what is outstanding. -/
theorem body_keeps (ids : List Text) (operation : ClientOperation) (world : ClientWorld Outside)
    (kept : Kept ids world) (called : undisturbed.call operation world) :
    (clientHost surroundings).Safe undisturbed.toRule (Kept (operation.others ids))
      (fun outcome reached => Kept (ClientOperation.accounts ids (operation, outcome)) reached)
      (operation.body surroundings) world := by
  cases operation with
  | queueCommands commands correlationId =>
    apply Host.safe_bind
    refine Host.safe_mono _ world (fun _ still => still) ?_
      (ReplicaClient.queueCommands_loses_nothing kept called commands correlationId)
    intro outcome reached ended
    cases outcome with
    | ok _ => exact ended.2
    | error _ => exact ended
  | acknowledgeCommandResult commandId =>
    apply Host.safe_bind
    refine Host.safe_mono _ world (fun _ still => still) ?_
      (ReplicaClient.acknowledgeCommandResult_loses_nothing kept commandId)
    intro outcome reached ended
    cases outcome with
    | ok found =>
      cases found with
      | false => exact ended.2 rfl
      | true => exact ended.1
    | error _ => exact ended
  | acknowledgeOrDiscardQuarantinedCommand commandId =>
    apply Host.safe_bind
    refine Host.safe_mono _ world (fun _ still => still) ?_
      (ReplicaClient.acknowledgeQuarantined_loses_nothing kept commandId called)
    intro outcome reached ended
    cases outcome with
    | ok found =>
      cases found with
      | false => exact ended.2 rfl
      | true => exact ended.1
    | error _ => exact ended
  | performReplicaReset fault =>
    apply Host.safe_bind
    refine Host.safe_mono _ world (fun _ still => still) ?_
      (ReplicaClient.performReplicaReset_keeps kept_upholds (kept_changes world) kept fault)
    intro outcome reached ended
    cases outcome with
    | ok _ => exact ended.1
    | error _ => exact ended

/-- A course in which nothing disturbs an unfinished reset loses nothing. -/
theorem nothing_lost (surroundings : ClientSurroundings Outside) (world : ClientWorld Outside)
    (opened : Opened world) (happenings : List (ClientHappening Outside))
    (lawful : Course.Lawful (clientHost surroundings) (ClientOperation.body surroundings) undisturbed
      (.initial world) happenings) :
    NothingLost ((Course.initial world).after (clientHost surroundings)
      (ClientOperation.body surroundings) happenings) := by
  have idle : ∀ history reached step, Kept (outstanding history) reached →
      undisturbed.idle reached step →
        Kept (outstanding history) ((clientHost surroundings).step step reached) :=
    fun _ reached step kept _ => kept.since (Since.step surroundings reached step)
  have calls : ∀ history operation reached, Kept (outstanding history) reached →
      undisturbed.call operation reached → (clientHost surroundings).Safe undisturbed.toRule
        (Kept (operation.others (outstanding history)))
        (fun outcome last => Kept (outstanding (history ++ [(operation, outcome)])) last)
        (operation.body surroundings) reached := by
    intro history operation reached kept called
    refine Host.safe_mono _ reached (fun _ still => still) ?_
      (body_keeps (outstanding history) operation reached kept called)
    intro outcome last still
    rw [outstanding_snoc]
    exact still
  have holds := Course.holds_after idle calls (.initial world) happenings opened.kept lawful
  set course := (Course.initial world).after (clientHost surroundings)
    (ClientOperation.body surroundings) happenings
  have kept : Kept (ClientCourse.owed course) course.world := by
    unfold Course.Holds at holds
    unfold ClientCourse.owed
    cases waiting : course.waiting with
    | none =>
      rw [waiting] at holds
      exact holds
    | some operation =>
      rw [waiting] at holds
      exact holds
  exact ⟨kept.represented, kept.covered⟩

end Runs

namespace Sample

/-- The epoch after a reset is a safe integer. -/
theorem nextEpoch_safe : 1 ≤ 2 ∧ 2 ≤ maxSafeInteger := by decide

/-- The session of a client, and what a reset makes of it. -/
def staleSession : ReplicaSessionSecret := ⟨binding, ascii "r2_" ++ List.replicate 43 0x41⟩

def freshSession : ReplicaSessionSecret where
  binding := { binding with
    replicaEpoch := 2, positive := nextEpoch_safe.1, safe := nextEpoch_safe.2 }
  credential := ascii "r2_" ++ List.replicate 42 0x42 ++ [0x41]

/-- A server that resets the replica, and a replica with each resource of which a command is
queued. -/
def answering : ClientSurroundings Unit where
  post
    | .classify _ _ _, _ => (.ok ⟨200, .object [(ascii "preserve", .boolean true)]⟩, ())
    | .reset _ _ _, _ => (.ok ⟨200, freshSession.value⟩, ())
    | .challenge _, _ => (.ok ⟨201, .object [(ascii "challengeId", .text noteId)]⟩, ())
    | _, _ => (.ok ⟨200, .object []⟩, ())
  incarnations _ _ := []
  resources _ resourceId _ := [resourceId]
  randomUUID _ := resetRequestId
  transactionId _ := none
  convert _ := none
  collation _ _ := true
  localeCompare _ _ := true
  stringify _ := []

/-- An entry for review of an earlier reset. -/
def reviewed : QuarantinedCommand where
  id := uuid 0x37 0x37 0x37
  resourceId := noteId
  resourceIncarnationId := noteIncarnation
  commandType := ascii "ps8.resource.soft_delete.v1"
  expectedRecordVersion := some 1
  state := .pendingReview
  payload := none
  exportable := 1
  reservedBytes := 512

/-- A client that the server has asked for a reset, with the entry. -/
def staleClient : ClientWorld Unit where
  tables := .empty
  sessionRow := some ⟨staleSession, 0⟩
  quarantineFile := some (QuarantineStore.mk [reviewed] []).value
  resetFile := none
  queue := []
  session := some staleSession
  resetCount := 0
  finalizedQuarantine := [reviewed]
  resetRequired := true
  databaseClosed := false
  outside := ()

/-- Awaits of which each resolves. -/
def resolving (count : Nat) : List (Pause (Background Unit) ClientFailure) :=
  List.replicate count (.resolves [] [])

/-- An attempt whose post of the reset rejects, and one that goes through. -/
def interrupted (awaits : Nat) : ClientHappening Unit :=
  .call (.performReplicaReset false) (resolving awaits ++ [.rejects [] (.platform (ascii "EIO"))])

def repeated : ClientHappening Unit := .call (.performReplicaReset false) (resolving 40)

/-- A command is queued. -/
def queueing : ClientHappening Unit :=
  .call (.queueCommands [largeUpdate 0] (ascii "correlation")) (resolving 1)

/-- The older entry is acknowledged. -/
def reviewing : ClientHappening Unit :=
  .call (.acknowledgeOrDiscardQuarantinedCommand reviewed.id) (resolving 1)

/-- What they make of the client. -/
def clientAfter (happenings : List (ClientHappening Unit)) : ClientCourse Unit :=
  (Course.initial staleClient).after (clientHost answering) (ClientOperation.body answering) happenings

/-- The client was opened without an unfinished reset. -/
theorem staleClient_opened : Opened staleClient where
  tables := balanced_empty
  quarantine := .inr ⟨⟨[reviewed], []⟩, rfl⟩
  settled := rfl
  known := by decide

end Sample

/-- Nothing is lost when the retry comes before the older entry is acknowledged. -/
theorem nothing_lost_repeated : NothingLost
    (Sample.clientAfter [Sample.queueing, Sample.interrupted 7, Sample.repeated, Sample.reviewing]) := by
  have settled : Discardable
      (Sample.clientAfter [Sample.queueing, Sample.interrupted 7, Sample.repeated]).world :=
    ⟨by decide +kernel, by decide +kernel⟩
  have lawful : Course.Lawful (clientHost Sample.answering) (ClientOperation.body Sample.answering)
      undisturbed (.initial Sample.staleClient) [] := trivial
  have queued := Course.lawful_snoc _ _ Sample.queueing lawful (Course.admits_alone (fun _ _ => trivial) _ _ _ rfl rfl)
  have begun := Course.lawful_snoc _ _ (Sample.interrupted 7) queued (Course.admits_alone (fun _ _ => trivial) _ _ _ trivial rfl)
  have ended := Course.lawful_snoc _ _ Sample.repeated begun (Course.admits_alone (fun _ _ => trivial) _ _ _ trivial rfl)
  have acknowledged := Course.lawful_snoc _ _ Sample.reviewing ended
    (Course.admits_alone (fun _ _ => trivial) _ _ _ (.inl settled) rfl)
  exact nothing_lost Sample.answering Sample.staleClient Sample.staleClient_opened _ acknowledged

/-- A command that is queued between two attempts is lost by the retry. So is a command whose
intent the acknowledgement of an older entry wrote over. -/
theorem nothing_lost_interrupted : Opened Sample.staleClient ∧
    ¬ NothingLost (Sample.clientAfter [Sample.interrupted 6, Sample.queueing, Sample.repeated]) ∧
    ¬ NothingLost (Sample.clientAfter
      [Sample.queueing, Sample.interrupted 7, Sample.reviewing, Sample.repeated]) := by
  have lost (course : ClientCourse Unit)
      (missing : ∃ id ∈ course.owed, ¬ Represented course.world id) : ¬ NothingLost course := by
    intro nothing
    obtain ⟨id, owed, absent⟩ := missing
    exact absent (nothing.represented id owed)
  refine ⟨Sample.staleClient_opened, lost _ ?_, lost _ ?_⟩
  · decide +kernel
  · decide +kernel

end TraxOs.PowerSync
