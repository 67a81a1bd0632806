import TraxOs.Theory.Awaiting
import TraxOs.PowerSync.Quarantine

/-!
# Resetting a replica

A client whose replica the server no longer serves resets it in phases. It writes the
commands without an outcome to the quarantine file, has the server rotate its session,
clears the replica and its overlays, connects anew, and finalizes the quarantine. A file of
its own says how far the reset has come, so that a later attempt goes on from there. Every
`await` on the way may reject, and uploads go on in the background.

The operations below run behind the gate of the client, one at a time. What they read and
write is the world of the client: its tables, its two files, the queue of the SDK and the
variables of the closure. The SDK, the server and the resources of the replica are
surroundings.
-/

namespace TraxOs.PowerSync

open TraxOs.Theory
open TraxOs.ApiClient (Value Number)

section Files

/-- `ResetState["phase"]`, with the session that the later phases have. -/
inductive ResetPhase where
  | quarantined
  | sessionStaged (newSession : ReplicaSessionSecret)
  | cleared (newSession : ReplicaSessionSecret)
deriving DecidableEq

/-- `ResetState`, of version 2. -/
structure ResetState where
  phase : ResetPhase
  resetRequestId : Text
  oldSession : ReplicaSessionSecret
deriving DecidableEq

/-- The text of a phase. -/
def ResetPhase.text : ResetPhase → Text
  | .quarantined => ascii "quarantined"
  | .sessionStaged _ => ascii "session_staged"
  | .cleared _ => ascii "cleared"

/-- `newSession` of a phase. -/
def ResetPhase.newSession : ResetPhase → Option ReplicaSessionSecret
  | .quarantined => none
  | .sessionStaged newSession => some newSession
  | .cleared newSession => some newSession

/-- A session as it is written. -/
def ReplicaSessionSecret.value (session : ReplicaSessionSecret) : Value :=
  .object [(ascii "replicaId", .text session.binding.replicaId),
    (ascii "replicaEpoch", numberValue session.binding.replicaEpoch),
    (ascii "credential", .text session.credential)]

/-- The state as `writePrivateJsonAtomically` writes it. -/
def ResetState.value (state : ResetState) : Value :=
  .object ([(ascii "version", numberValue 2), (ascii "phase", .text state.phase.text),
    (ascii "resetRequestId", .text state.resetRequestId),
    (ascii "oldSession", state.oldSession.value)] ++
      (state.phase.newSession.map fun session => (ascii "newSession", session.value)).toList)

/-- `parseReplicaSessionSecret` of a member that may be missing. -/
def parseStoredSession (value : Option Value) : Except StateError ReplicaSessionSecret :=
  match value with
  | none => throwing "Replica session must be an object."
  | some value => (parseReplicaSessionSecret value).mapError .thrown

/-- A phase and a session that belong together. -/
def resetPhase (phase : Text) (newSession : Option ReplicaSessionSecret) : Option ResetPhase :=
  match newSession with
  | none => if phase = ascii "quarantined" then some .quarantined else none
  | some session =>
    if phase = ascii "session_staged" then some (.sessionStaged session)
    else if phase = ascii "cleared" then some (.cleared session)
    else none

/-- The names that a reset state may have. -/
def resetStateNames : List Text :=
  ["version", "phase", "resetRequestId", "oldSession", "newSession"].map ascii

/-- `parseResetState`. A phase that is not a text is refused at once here. -/
def parseResetState (value : Value) : Except StateError ResetState := do
  let record ← objectMembers value "invalid_reset_state"
  match Members.get record "phase", Members.get record "resetRequestId" with
  | some (.text phase), some (.text resetRequestId) => do
    require ((record.map Prod.fst).all resetStateNames.contains &&
      isExactly 2 (Members.get record "version") &&
      (["quarantined", "session_staged", "cleared"].map ascii).contains phase &&
      isVersion4Uuid resetRequestId) "invalid_reset_state"
    let oldSession ← parseStoredSession (Members.get record "oldSession")
    let newSession ←
      ((Members.get record "newSession").mapM fun stored => parseStoredSession (some stored))
    match resetPhase phase newSession with
    | none => throwing "invalid_reset_state_phase"
    | some phase => return ⟨phase, resetRequestId, oldSession⟩
  | _, _ => throwing "invalid_reset_state"

/-- `persistQuarantineAcknowledgement`, up to the writer: the entries that remain, unless no
entry has the identifier. -/
def persistQuarantineAcknowledgement (current : List QuarantinedCommand) (commandId : Text) :
    Option (List QuarantinedCommand) :=
  if current.any fun command => command.id = commandId then
    some (current.eraseP fun command => command.id = commandId)
  else none

end Files

section World

/-- The row of `trax_app_replica_session`. -/
structure SessionRow where
  session : ReplicaSessionSecret
  resetCount : Nat
deriving DecidableEq

/-- What the operations of the client read and write. The last fields are the variables of
its closure, and what surrounds it. -/
structure ClientWorld (Outside : Type) where
  tables : ApplicationTables
  sessionRow : Option SessionRow
  quarantineFile : Option Value
  resetFile : Option Value
  queue : List CrudTransaction
  session : Option ReplicaSessionSecret
  resetCount : Nat
  finalizedQuarantine : List QuarantinedCommand
  resetRequired : Bool
  databaseClosed : Bool
  outside : Outside

/-- A response of the server. -/
structure Response where
  status : Nat
  body : Value

/-- The posts of the client about its replica. -/
inductive ReplicaPost where
  | classify (session : ReplicaSessionSecret) (resourceId resourceIncarnationId : Text)
  | reset (session : ReplicaSessionSecret) (resetRequestId : Text) (fault : Bool)
  | acknowledgeReset (session : ReplicaSessionSecret) (resetRequestId : Text)
  | challenge (session : ReplicaSessionSecret)
  | acknowledge (session : ReplicaSessionSecret) (challengeId : Value)

/-- What the client throws or a promise of the platform rejects with. -/
inductive ClientFailure where
  | state (error : StateError)
  | platform (code : Text)
deriving DecidableEq

/-- What surrounds the client: the server, the resources of the replica, and what the platform
draws or converts. -/
structure ClientSurroundings (Outside : Type) where
  post : ReplicaPost → Outside → Except ClientFailure Response × Outside
  incarnations : Outside → Text → List Text
  resources : Outside → Text → Text → List Text
  randomUUID : Outside → Text
  transactionId : Outside → Option (Fin (maxSafeInteger + 1))
  convert : Conversion
  collation : Text → Text → Bool
  localeCompare : Text → Text → Bool
  stringify : Value → Text

/-- What the client awaits. -/
inductive ClientRequest where
  | readReset
  | writeReset (value : Value)
  | unlinkReset
  | readQuarantine
  | writeQuarantine (value : Value)
  | getCrudBatch (limit : Nat)
  | getIncarnations (resourceId : Text)
  | getResources (resourceId resourceIncarnationId : Text)
  | writeTransaction (crud : List CrudEntry)
  | disconnect
  | disconnectAndClear
  | close
  | connect
  | waitForInitialSync
  | chmod
  | hook
  | post (message : ReplicaPost)

/-- What each of them resolves with. -/
def ClientReply : ClientRequest → Type
  | .readReset => Option Value
  | .readQuarantine => Option Value
  | .getCrudBatch _ => List CrudEntry
  | .getIncarnations _ => List Text
  | .getResources _ _ => List Text
  | .post _ => Response
  | _ => Unit

/-- What goes on in the background: the synchronous stretches of an upload, the completion of
the first transaction, an answer that asks for a reset, and everything outside. -/
inductive Background (Outside : Type) where
  | persistResults (results : List TerminalResultRecord)
  | complete
  | markResultsSdkCompleted (commandIds : List Text)
  | recordTransientFailure (commandId : Text)
  | requireReset
  | outside (next : Outside)

/-- An asynchronous function of the client. -/
abbrev ClientAsync (Outside α : Type) := Async (ClientWorld Outside) ClientReply ClientFailure α

/-- The world around the functions of the client. -/
def clientHost {Outside : Type} (surroundings : ClientSurroundings Outside) :
    Host (ClientWorld Outside) (Background Outside) ClientFailure ClientReply where
  effect
    | .readReset, world => (.ok world.resetFile, world)
    | .writeReset value, world => (.ok (), { world with resetFile := some value })
    | .unlinkReset, world =>
      if world.resetFile.isSome then (.ok (), { world with resetFile := none })
      else (.error (.platform (ascii "ENOENT")), world)
    | .readQuarantine, world => (.ok world.quarantineFile, world)
    | .writeQuarantine value, world => (.ok (), { world with quarantineFile := some value })
    | .getCrudBatch limit, world =>
      (.ok ((world.queue.flatMap CrudTransaction.crud).take limit), world)
    | .getIncarnations resourceId, world =>
      (.ok (surroundings.incarnations world.outside resourceId), world)
    | .getResources resourceId resourceIncarnationId, world =>
      (.ok (surroundings.resources world.outside resourceId resourceIncarnationId), world)
    | .writeTransaction crud, world =>
      (.ok (), { world with
        queue := world.queue ++ [⟨crud, surroundings.transactionId world.outside⟩] })
    | .disconnectAndClear, world => (.ok (), { world with queue := [] })
    | .post message, world =>
      ((surroundings.post message world.outside).1,
        { world with outside := (surroundings.post message world.outside).2 })
    | .disconnect, world | .close, world | .connect, world | .waitForInitialSync, world
    | .chmod, world | .hook, world => (.ok (), world)
  step
    | .persistResults results, world =>
      { world with tables := (persistResults results world.tables).2 }
    | .complete, world => { world with queue := world.queue.tail }
    | .markResultsSdkCompleted commandIds, world =>
      { world with tables := (markResultsSdkCompleted commandIds world.tables).2 }
    | .recordTransientFailure commandId, world =>
      { world with tables := (recordTransientFailure commandId world.tables).2 }
    | .requireReset, world => { world with resetRequired := true }
    | .outside next, world => { world with outside := next }

end World

namespace ReplicaClient

variable {Outside : Type} (surroundings : ClientSurroundings Outside)

section Helpers

/-- `throw new Error(message)`. -/
def raise {α : Type} (message : String) : ClientAsync Outside α :=
  .fail (.state (.thrown (ascii message)))

/-- Go on with what the state returns, or throw what it throws. -/
def lift {α : Type} (result : Except StateError α) : ClientAsync Outside α :=
  Async.ofExcept (result.mapError .state)

/-- Throw an error unless a condition holds. -/
def check (condition : Bool) (message : String) : ClientAsync Outside Unit :=
  lift (require condition message)

/-- `readResetState`. -/
def readResetState : ClientAsync Outside (Option ResetState) := do
  let file ← Async.await ClientRequest.readReset
  lift (file.mapM parseResetState)

/-- `(await readQuarantineStore(quarantinePath)).store`. -/
def readQuarantine : ClientAsync Outside QuarantineStore := do
  let file ← Async.await ClientRequest.readQuarantine
  lift ((readQuarantineStore surroundings.convert file).map QuarantineRead.store)

/-- `assertResetCapacity`, over the results of this moment. -/
def assertCapacity (store : QuarantineStore) : ClientAsync Outside Unit := do
  let world ← Async.look
  lift (assertResetCapacity world.tables store)

/-- `writePrivateJsonAtomically(resetStatePath, state)`. -/
def writeResetState (state : ResetState) : ClientAsync Outside Unit :=
  Async.await (ClientRequest.writeReset state.value)

/-- `applicationState.setReplicaSession`. -/
def setReplicaSession (session : ReplicaSessionSecret) (resetCount : Nat) : ClientAsync Outside Unit :=
  Async.modify fun world => { world with sessionRow := some ⟨session, resetCount⟩ }

/-- `result.status === 200 && "preserve" in result.body && result.body.preserve === true`. -/
def Response.preserves (response : Response) : Except ClientFailure Bool :=
  if response.status = 200 then
    match response.body with
    | .object members =>
      .ok (match Members.get members "preserve" with
        | some (.boolean preserve) => preserve
        | _ => false)
    | .array _ => .ok false
    | _ => .error (.platform (ascii "TypeError"))
  else .ok false

/-- `POST /spike/replicas/classify`, and whether the command may be preserved. -/
def classify (session : ReplicaSessionSecret) (resourceId resourceIncarnationId : Text) :
    ClientAsync Outside Bool := do
  let result ← Async.await (ClientRequest.post (.classify session resourceId resourceIncarnationId))
  Async.ofExcept (Response.preserves result)

end Helpers

section Beginning

/-- The candidate of a queued command. -/
def queuedCandidate (command : SpikeCommand) : Candidate where
  id := command.commandId
  commandType := match command.kind with
    | .update _ => ascii "ps8.resource.update.v1"
    | .softDelete => ascii "ps8.resource.soft_delete.v1"
  resourceId := command.resourceId
  resourceIncarnationId := command.resourceIncarnationId
  payload := match command.kind with
    | .update payload => some payload
    | .softDelete => none
  expectedRecordVersion := command.expectedRecordVersion

/-- The candidates of the queue: each entry is validated alone. -/
def queuedCandidates (batch : List CrudEntry) : Except StateError (List Candidate) :=
  batch.mapM fun entry => do
    let commands ← (validateQueuedCrud [entry]).mapError .thrown
    match commands with
    | command :: _ => pure (queuedCandidate command)
    | [] => throwing "The M3a queue transaction must contain exactly one command."

/-- The intents of the candidates, each after the server was asked. -/
def classifyPending (session : ReplicaSessionSecret) (overlays : List OverlayRow) :
    List Candidate → ClientAsync Outside (List QuarantineIntent)
  | [] => pure []
  | item :: rest => do
    let initiallyAuthorized ← classify session item.resourceId item.resourceIncarnationId
    let pending ← classifyPending session overlays rest
    pure (item.intent overlays initiallyAuthorized :: pending)

/-- What a reset takes into the quarantine. -/
structure Snapshot where
  candidates : List Candidate
  overlays : List OverlayRow

/-- The candidates of a batch and of the overlays of this moment. -/
def takeSnapshot (batch : List CrudEntry) : ClientAsync Outside Snapshot := do
  let queued ← lift (queuedCandidates batch)
  let world ← Async.look
  let overlays := readOverlayRecords surroundings.collation world.tables
  check (queued.all fun command => overlays.all fun overlay =>
      overlay.id != command.id || overlay.candidate == command)
    "SDK queue and application overlay intent diverged."
  pure ⟨resetCandidates queued overlays, overlays⟩

/-- The first phase: the quarantine and the state of the reset are written. -/
def beginReset (session : ReplicaSessionSecret) : ClientAsync Outside ResetState := do
  let world ← Async.look
  check world.resetRequired "Replica reset was not requested by the server."
  let batch ← Async.await (ClientRequest.getCrudBatch 1000)
  let snapshot ← takeSnapshot surroundings batch
  let prior ← readQuarantine surroundings
  check prior.pending.isEmpty "Unexpected pending quarantine without reset state."
  check (snapshot.candidates.all fun candidate =>
    prior.finalized.all fun command => command.id != candidate.id) "quarantine_duplicate_id_conflict"
  Async.await ClientRequest.disconnect
  let pending ← classifyPending session snapshot.overlays snapshot.candidates
  assertCapacity ⟨prior.finalized, pending⟩
  Async.await (ClientRequest.writeQuarantine (QuarantineStore.mk prior.finalized pending).value)
  let world ← Async.look
  let state : ResetState := ⟨.quarantined, surroundings.randomUUID world.outside, session⟩
  writeResetState state
  Async.await ClientRequest.hook
  pure state

end Beginning

section Staging

/-- The session of a reset response. -/
def rotatedSession (reset : Response) : Except StateError ReplicaSessionSecret := do
  require (reset.status = 200) "Stale-only replica reset failed."
  (parseReplicaSessionSecret reset.body).mapError .thrown

/-- With the fault of the hooks, a reset that rejected is posted again. -/
def repostReset (state : ResetState) (fault : Bool) :
    Except ClientFailure Response → ClientAsync Outside Response
  | .ok reset => pure reset
  | .error error =>
    if fault then Async.await (ClientRequest.post (.reset state.oldSession state.resetRequestId false))
    else .fail error

/-- `POST /spike/replicas/reset`. -/
def postReset (state : ResetState) (fault : Bool) : ClientAsync Outside Response := do
  let reset ← Async.settled (ClientRequest.post (.reset state.oldSession state.resetRequestId fault))
  repostReset state fault reset

/-- `quarantined`: the server rotates the session, which is staged. -/
def stageSession (fault : Bool) (state : ResetState) : ClientAsync Outside ResetState := do
  let reset ← postReset state fault
  let newSession ← lift (rotatedSession reset)
  let stagedQuarantine ← readQuarantine surroundings
  assertCapacity stagedQuarantine
  let staged : ResetState := { state with phase := .sessionStaged newSession }
  writeResetState staged
  Async.await ClientRequest.hook
  let world ← Async.look
  setReplicaSession newSession (world.resetCount + 1)
  Async.await ClientRequest.hook
  pure staged

/-- The session becomes the one of the client, and the reset is counted once. -/
def adoptSession (newSession : ReplicaSessionSecret) (world : ClientWorld Outside) :
    ClientWorld Outside :=
  { world with
    session := some newSession
    resetRequired := false
    resetCount := match world.sessionRow with
      | some stagedSession =>
        if stagedSession.session.binding.replicaId = newSession.binding.replicaId ∧
            stagedSession.session.binding.replicaEpoch = newSession.binding.replicaEpoch then
          stagedSession.resetCount
        else world.resetCount + 1
      | none => world.resetCount + 1 }

/-- `session_staged`: the session is acknowledged and adopted, and the replica is cleared. -/
def clearReplica (state : ResetState) (newSession : ReplicaSessionSecret) :
    ClientAsync Outside ResetState := do
  let acknowledgement ←
    Async.await (ClientRequest.post (.acknowledgeReset newSession state.resetRequestId))
  check (acknowledgement.status = 200) "Replica reset acknowledgement failed."
  Async.modify (adoptSession newSession)
  let clearingQuarantine ← readQuarantine surroundings
  assertCapacity clearingQuarantine
  Async.await ClientRequest.disconnectAndClear
  Async.modify fun world => { world with tables := clearOverlays world.tables }
  Async.await ClientRequest.close
  Async.modify fun world => { world with databaseClosed := true }
  assertCapacity clearingQuarantine
  let cleared : ResetState := { state with phase := .cleared newSession }
  writeResetState cleared
  Async.await ClientRequest.hook
  pure cleared

end Staging

section Finishing

/-- `result.status !== 201 || !("challengeId" in result.body)` throws. -/
def challengeOf (result : Response) : Except ClientFailure Value :=
  let refused : ClientFailure := .state (.thrown (ascii "Replica challenge issuance failed with HTTP " ++
    numeral result.status ++ ascii ": " ++ surroundings.stringify result.body ++ ascii "."))
  if result.status = 201 then
    match result.body with
    | .object members =>
      match Members.get members "challengeId" with
      | some challengeId => .ok challengeId
      | none => .error refused
    | .array _ => .error refused
    | _ => .error (.platform (ascii "TypeError"))
  else .error refused

/-- `connectAndObserve`, of a client with a session. -/
def connectAndObserve (session : ReplicaSessionSecret) (challengeId : Value) :
    ClientAsync Outside Unit := do
  Async.modify fun world => { world with databaseClosed := false }
  Async.await ClientRequest.connect
  Async.await ClientRequest.waitForInitialSync
  let acknowledgement ← Async.await (ClientRequest.post (.acknowledge session challengeId))
  check (acknowledgement.status = 200) "Client-observed checkpoint acknowledgement failed."
  let world ← Async.look
  setReplicaSession session world.resetCount
  Async.await ClientRequest.chmod

/-- `if (!databaseClosed) { await database.close(); databaseClosed = true; }`. -/
def closeDatabase (databaseClosed : Bool) : ClientAsync Outside Unit :=
  if databaseClosed then pure ()
  else do
    Async.await ClientRequest.close
    Async.modify fun world => { world with databaseClosed := true }

/-- The new database and its connector, after the old database was closed. -/
def reopen (session : ReplicaSessionSecret) : ClientAsync Outside Unit := do
  let world ← Async.look
  closeDatabase world.databaseClosed
  let issued ← Async.await (ClientRequest.post (.challenge session))
  let challengeId ← Async.ofExcept (challengeOf surroundings issued)
  Async.modify fun world => { world with resetRequired := false }
  connectAndObserve session challengeId

/-- The finalized entries of the intents, each after the server was asked again. -/
def classifyRetained (session : ReplicaSessionSecret) :
    List QuarantineIntent → ClientAsync Outside (List QuarantinedCommand)
  | [] => pure []
  | item :: rest => do
    let currentlyAuthorized ← classify session item.resourceId item.resourceIncarnationId
    let present ← Async.await (ClientRequest.getResources item.resourceId item.resourceIncarnationId)
    let finalized := item.finalized
      (item.initiallyAuthorized && currentlyAuthorized && present.length == 1)
    check (finalized.bytes ≤ item.reservedBytes) "quarantine_representation_reservation_exceeded"
    let additions ← classifyRetained session rest
    pure (finalized :: additions)

/-- A missing file is no failure. -/
def unlinked : Except ClientFailure Unit → ClientAsync Outside Unit
  | .ok _ => pure ()
  | .error error => if error = .platform (ascii "ENOENT") then pure () else .fail error

/-- `unlink(resetStatePath)`. -/
def unlinkResetState : ClientAsync Outside Unit := do
  let answer ← Async.settled ClientRequest.unlinkReset
  unlinked answer

/-- The quarantine is finalized, and the reset is over. -/
def finalizeQuarantine (session : ReplicaSessionSecret) : ClientAsync Outside Unit := do
  let retained ← readQuarantine surroundings
  assertCapacity retained
  let additions ← classifyRetained session retained.pending
  let merged ← lift (mergeFinalizedQuarantine surroundings.localeCompare retained.finalized additions)
  assertCapacity ⟨merged, []⟩
  Async.await (ClientRequest.writeQuarantine (QuarantineStore.mk merged []).value)
  Async.modify fun world => { world with finalizedQuarantine := merged }
  unlinkResetState

/-- `cleared`: the client goes on with a new replica. -/
def finishReset (newSession : ReplicaSessionSecret) : ClientAsync Outside Unit := do
  Async.modify fun world => { world with session := some newSession }
  let world ← Async.look
  setReplicaSession newSession world.resetCount
  reopen surroundings newSession
  finalizeQuarantine surroundings newSession

/-- The state of an unfinished reset, or of one that begins. -/
def resetStateOf (session : ReplicaSessionSecret) : Option ResetState → ClientAsync Outside ResetState
  | some state => pure state
  | none => beginReset surroundings session

/-- From `quarantined` to `session_staged`. -/
def throughStaging (fault : Bool) (state : ResetState) : ClientAsync Outside ResetState :=
  match state.phase with
  | .quarantined => stageSession surroundings fault state
  | _ => pure state

/-- From `session_staged` to `cleared`. -/
def throughClearing (state : ResetState) : ClientAsync Outside ResetState :=
  match state.phase with
  | .sessionStaged newSession => clearReplica surroundings state newSession
  | _ => pure state

/-- From `cleared` to the end. -/
def throughFinishing (state : ResetState) : ClientAsync Outside Unit :=
  match state.phase with
  | .cleared newSession => finishReset surroundings newSession
  | _ => raise "Replica reset state did not reach cleared."

/-- `performReplicaReset`. `fault` says whether the hooks ask for a dropped response. -/
def performReplicaReset (fault : Bool) : ClientAsync Outside Unit := do
  let world ← Async.look
  match world.session with
  | none => raise "A registered replica session is required."
  | some session => do
    let stored ← readResetState
    let begun ← resetStateOf surroundings session stored
    let staged ← throughStaging surroundings fault begun
    let cleared ← throughClearing surroundings staged
    throughFinishing surroundings cleared

end Finishing

section Commands

/-- The incarnation of the replicated resource, which is looked up for a command without one. -/
def replicatedIncarnation (commands : List QueuedCommandInput) : ClientAsync Outside (Option Text) :=
  match commands with
  | [command] =>
    if command.resourceIncarnationId.isSome then pure none
    else do
      check (1 ≤ command.expectedRecordVersion && command.expectedRecordVersion ≤ maxSafeInteger)
        "expectedRecordVersion must be a positive safe integer."
      let incarnations ← Async.await (ClientRequest.getIncarnations command.resourceId)
      pure incarnations.head?
  | _ => pure none

/-- The entry of a command in the queue of the SDK, which leaves out what is `NULL`. -/
def queueEntry (correlationId : Text) (replicated : Option Text) (command : QueuedCommandInput) :
    CrudEntry where
  table := ascii "command_queue"
  op := ascii "PUT"
  id := .text command.commandId
  opData := some ([(ascii "command_type", .text command.type),
    (ascii "command_version", numberValue 1), (ascii "resource_id", .text command.resourceId),
    (ascii "resource_incarnation_id",
      .text ((command.resourceIncarnationId.or replicated).getD [])),
    (ascii "expected_record_version", numberValue command.expectedRecordVersion)] ++
      (if command.type = ascii "ps8.resource.update.v1" then
        (command.payload.map fun payload => (ascii "payload", .text payload)).toList
      else []) ++
      [(ascii "upload_correlation_id", .text correlationId)])

/-- `queueCommands`: the overlay first, then the transaction of the queue. When that fails, the
overlay is removed again. -/
def queueCommands (commands : List QueuedCommandInput) (correlationId : Text) :
    ClientAsync Outside Unit := do
  let replicated ← replicatedIncarnation commands
  let world ← Async.look
  let admitted := PowerSync.queueCommands world.finalizedQuarantine replicated commands world.tables
  let insertedOverlayIds ← lift admitted.1
  Async.become { world with tables := admitted.2 }
  let written ← Async.settled
    (ClientRequest.writeTransaction (commands.map (queueEntry correlationId replicated)))
  match written with
  | .ok _ => pure ()
  | .error error => do
    Async.modify fun world => { world with tables := removeOverlays insertedOverlayIds world.tables }
    .fail error

/-- `acknowledgeCommandResult`. -/
def acknowledgeCommandResult (commandId : Text) : ClientAsync Outside Bool := do
  let world ← Async.look
  let acknowledged := acknowledgeResult commandId world.tables
  Async.become { world with tables := acknowledged.2 }
  pure acknowledged.1

/-- `acknowledgeOrDiscardQuarantinedCommand`. -/
def acknowledgeOrDiscardQuarantinedCommand (commandId : Text) : ClientAsync Outside Bool := do
  let world ← Async.look
  match persistQuarantineAcknowledgement world.finalizedQuarantine commandId with
  | none => pure false
  | some next => do
    Async.await (ClientRequest.writeQuarantine (QuarantineStore.mk next []).value)
    Async.modify fun world => { world with finalizedQuarantine := next }
    pure true

end Commands

end ReplicaClient

/-- The operations behind the gate. -/
inductive ClientOperation where
  | queueCommands (commands : List QueuedCommandInput) (correlationId : Text)
  | acknowledgeCommandResult (commandId : Text)
  | acknowledgeOrDiscardQuarantinedCommand (commandId : Text)
  | performReplicaReset (fault : Bool)

/-- The function of an operation. It resolves with a value only for an acknowledgement. -/
def ClientOperation.body {Outside : Type} (surroundings : ClientSurroundings Outside) :
    ClientOperation → ClientAsync Outside (Option Bool)
  | .queueCommands commands correlationId =>
    ReplicaClient.queueCommands commands correlationId >>= fun _ => pure none
  | .acknowledgeCommandResult commandId =>
    ReplicaClient.acknowledgeCommandResult commandId >>= fun found => pure (some found)
  | .acknowledgeOrDiscardQuarantinedCommand commandId =>
    ReplicaClient.acknowledgeOrDiscardQuarantinedCommand commandId >>= fun found =>
      pure (some found)
  | .performReplicaReset fault =>
    ReplicaClient.performReplicaReset surroundings fault >>= fun _ => pure none

/-- A call behind the gate and how it ended. -/
abbrev EndedCall := ClientOperation × Except ClientFailure (Option Bool)

/-- A course of the client. -/
abbrev ClientCourse (Outside : Type) :=
  Course (ClientWorld Outside) ClientOperation ClientFailure (Option Bool)

/-- What happens to it. -/
abbrev ClientHappening (Outside : Type) :=
  Happening ClientOperation (Background Outside) ClientFailure

end TraxOs.PowerSync
