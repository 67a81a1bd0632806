import TraxOs.PowerSync.ResetFiles

/-!
# What the client changes

An operation of the client changes its world in a few ways, at an `await` or between two of them.
Each change below says what the operation knows when it makes it: what it has read, what the
server has answered, and what it has written itself. What every change keeps, and every step in
the background, holds at each `await` of the operation and when it ends, wherever it stops.

What the background may do is a preorder. It leaves the files, the session and the counters of
the client, which only the operations behind the gate write. While a reset takes its snapshot, it
may be a narrower one.
-/

namespace TraxOs.PowerSync

open TraxOs.Theory
open TraxOs.ApiClient (Value)

variable {Outside : Type}

/-- A file of the client with a reset state, if it is there. -/
def ResetFile (file : Option Value) : Prop :=
  file = none ∨ ∃ state : ResetState, file = some state.value

/-- What only the operations behind the gate write is as it was. -/
structure Untouched (before after : ClientWorld Outside) : Prop where
  reset : after.resetFile = before.resetFile
  quarantine : after.quarantineFile = before.quarantineFile
  memory : after.finalizedQuarantine = before.finalizedQuarantine
  row : after.sessionRow = before.sessionRow
  session : after.session = before.session
  count : after.resetCount = before.resetCount

theorem Untouched.refl (world : ClientWorld Outside) : Untouched world world :=
  ⟨rfl, rfl, rfl, rfl, rfl, rfl⟩

theorem Untouched.trans {first second third : ClientWorld Outside} (one : Untouched first second)
    (two : Untouched second third) : Untouched first third :=
  ⟨two.reset.trans one.reset, two.quarantine.trans one.quarantine, two.memory.trans one.memory,
    two.row.trans one.row, two.session.trans one.session, two.count.trans one.count⟩

/-- Nothing of it changes in the background. -/
theorem Untouched.step (surroundings : ClientSurroundings Outside) (world : ClientWorld Outside)
    (step : Background Outside) : Untouched world ((clientHost surroundings).step step world) := by
  cases step <;> exact ⟨rfl, rfl, rfl, rfl, rfl, rfl⟩

/-- The stages from the snapshot of a reset to its first state. -/
def beginning : Stage ClientRequest → Prop
  | .served (.getCrudBatch _) => True
  | .sent .readQuarantine | .served .readQuarantine => True
  | .sent .disconnect | .served .disconnect => True
  | .sent (.post (.classify _ _ _)) | .served (.post (.classify _ _ _)) => True
  | .sent (.writeQuarantine _) | .served (.writeQuarantine _) => True
  | .sent (.writeReset _) => True
  | _ => False

section Changes

variable (surroundings : ClientSurroundings Outside)
variable (rule : Rule (ClientWorld Outside) (Background Outside) ClientRequest)

/-- A reset is posted only while its state is `quarantined`. -/
def Posts (world : ClientWorld Outside) : ReplicaPost → Prop
  | .reset session resetRequestId _ => ∃ state : ResetState, world.resetFile = some state.value ∧
      state.phase = .quarantined ∧ state.oldSession = session ∧ state.resetRequestId = resetRequestId
  | _ => True

/-- At some stages the background stays within a preorder, which the small changes of an attempt
stay within too. -/
structure Calm (stages : Stage ClientRequest → Prop)
    (related : ClientWorld Outside → ClientWorld Outside → Prop) (inv : ClientWorld Outside → Prop) :
    Prop extends Host.Steady (clientHost surroundings) rule stages related inv where
  untouched : ∀ world next, related world next → Untouched world next
  posted : ∀ message world, inv world → rule.effect (.post message) world → Posts world message →
    related world ((clientHost surroundings).effect (.post message) world).2
  closing : ∀ world closed, related world { world with databaseClosed := closed }
  granting : ∀ world, related world { world with resetRequired := false }
  emptying : ∀ world, related world { world with queue := [] }

variable (related still : ClientWorld Outside → ClientWorld Outside → Prop)
variable (inv : ClientWorld Outside → Prop)

/-- What a reset takes: the queue of one moment and the overlays of a later one. -/
structure Taken (first second : ClientWorld Outside) (snapshot : ReplicaClient.Snapshot) : Prop where
  required : ∃ world, inv world ∧ world.resetRequired = true ∧ related world first
  idle : first.resetFile = none
  effect : rule.effect (.getCrudBatch 1000) first
  kept : inv first
  later : still first second
  keptLater : inv second
  candidates : ∃ queued,
    ReplicaClient.queuedCandidates ((first.queue.flatMap CrudTransaction.crud).take 1000) = .ok queued ∧
      snapshot.candidates =
        resetCandidates queued (readOverlayRecords surroundings.collation second.tables)

/-- The quarantine of a snapshot: the finalized entries of the file, and an intent for each of the
candidates, none of which is among them. -/
structure Quarantines (snapshot : ReplicaClient.Snapshot) (store : QuarantineStore)
    (world : ClientWorld Outside) : Prop where
  finalized : store.finalized.map QuarantinedCommand.id = finalizedIds world.quarantineFile
  pending : store.pending.map QuarantineIntent.id = snapshot.candidates.map Candidate.id
  fresh : ∀ candidate ∈ snapshot.candidates, candidate.id ∉ finalizedIds world.quarantineFile

/-- The server has replied to the reset of a state. -/
structure Replied (state : ResetState) (reset : Response) (before world : ClientWorld Outside) :
    Prop where
  since : related before world
  posted : ∃ fault reached, related before reached ∧ inv reached ∧
    rule.effect (.post (.reset state.oldSession state.resetRequestId fault)) reached ∧
    ((clientHost surroundings).effect
      (.post (.reset state.oldSession state.resetRequestId fault)) reached).1 = .ok reset ∧
    related ((clientHost surroundings).effect
      (.post (.reset state.oldSession state.resetRequestId fault)) reached).2 world

/-- It has replied with a session. -/
structure Answered (state : ResetState) (newSession : ReplicaSessionSecret)
    (before world : ClientWorld Outside) : Prop where
  kept : inv before
  stored : before.resetFile = some state.value
  phase : state.phase = .quarantined
  replied : ∃ reset, Replied surroundings rule related inv state reset before world ∧
    ReplicaClient.rotatedSession reset = .ok newSession

theorem Answered.since {surroundings : ClientSurroundings Outside}
    {rule : Rule (ClientWorld Outside) (Background Outside) ClientRequest}
    {related : ClientWorld Outside → ClientWorld Outside → Prop} {inv : ClientWorld Outside → Prop}
    {state : ResetState} {newSession : ReplicaSessionSecret} {before world : ClientWorld Outside}
    (answered : Answered surroundings rule related inv state newSession before world) :
    related before world := by
  obtain ⟨_, replied, _⟩ := answered.replied
  exact replied.since

/-- The session that is adopted is the one of the row, or the attempt began with the row and the
counter of this moment. -/
def Adopts (start : ClientWorld Outside) (newSession : ReplicaSessionSecret)
    (world : ClientWorld Outside) : Prop :=
  (∃ count, world.sessionRow = some ⟨newSession, count⟩) ∨ Untouched start world

/-- The client goes on with the session of a cleared replica. -/
structure Entered (state : ResetState) (newSession : ReplicaSessionSecret)
    (world : ClientWorld Outside) : Prop where
  stored : world.resetFile = some state.value
  phase : state.phase = .cleared newSession
  session : world.session = some newSession
  row : world.sessionRow = some ⟨newSession, world.resetCount⟩

theorem Entered.since {state : ResetState} {newSession : ReplicaSessionSecret}
    {world next : ClientWorld Outside} (entered : Entered state newSession world)
    (untouched : Untouched world next) : Entered state newSession next where
  stored := untouched.reset.trans entered.stored
  phase := entered.phase
  session := untouched.session.trans entered.session
  row := by rw [untouched.row, entered.row, untouched.count]

/-- The changes of an attempt, but for the small ones. -/
inductive Change (start : ClientWorld Outside) : ClientWorld Outside → ClientWorld Outside → Prop where
  | quarantined (first second world : ClientWorld Outside) (snapshot : ReplicaClient.Snapshot)
      (store : QuarantineStore) (taken : Taken surroundings rule related still inv first second snapshot)
      (later : still second world) (quarantines : Quarantines snapshot store world) :
      Change start world { world with quarantineFile := some store.value }
  | begun (first second written world : ClientWorld Outside) (snapshot : ReplicaClient.Snapshot)
      (store : QuarantineStore) (state : ResetState)
      (taken : Taken surroundings rule related still inv first second snapshot)
      (later : still second written) (quarantines : Quarantines snapshot store written)
      (after : still { written with quarantineFile := some store.value } world)
      (phase : state.phase = .quarantined) (session : world.session = some state.oldSession) :
      Change start world { world with resetFile := some state.value }
  | staged (before world : ClientWorld Outside) (state : ResetState)
      (newSession : ReplicaSessionSecret)
      (answered : Answered surroundings rule related inv state newSession before world) :
      Change start world
        { world with resetFile := some { state with phase := .sessionStaged newSession }.value }
  | counted (before written world : ClientWorld Outside) (state : ResetState)
      (newSession : ReplicaSessionSecret)
      (answered : Answered surroundings rule related inv state newSession before written)
      (after : related
        { written with resetFile := some { state with phase := .sessionStaged newSession }.value }
        world) :
      Change start world { world with sessionRow := some ⟨newSession, world.resetCount + 1⟩ }
  | adopted (world : ClientWorld Outside) (state : ResetState) (newSession : ReplicaSessionSecret)
      (stored : world.resetFile = some state.value) (phase : state.phase = .sessionStaged newSession)
      (adopts : Adopts start newSession world) :
      Change start world (ReplicaClient.adoptSession newSession world)
  | cleared (world : ClientWorld Outside) (state : ResetState) (newSession : ReplicaSessionSecret)
      (stored : world.resetFile = some state.value)
      (phase : state.phase = .sessionStaged newSession) :
      Change start world { world with tables := clearOverlays world.tables }
  | clearedState (adopting emptied clearing world : ClientWorld Outside) (state : ResetState)
      (newSession : ReplicaSessionSecret) (kept : inv adopting)
      (stored : adopting.resetFile = some state.value) (phase : state.phase = .sessionStaged newSession)
      (adopts : Adopts start newSession adopting)
      (adopted : related (ReplicaClient.adoptSession newSession adopting) emptied)
      (clears : related { emptied with queue := [] } clearing)
      (after : related { clearing with tables := clearOverlays clearing.tables } world) :
      Change start world
        { world with resetFile := some { state with phase := .cleared newSession }.value }
  | entered (world : ClientWorld Outside) (state : ResetState) (newSession : ReplicaSessionSecret)
      (stored : world.resetFile = some state.value) (phase : state.phase = .cleared newSession) :
      Change start world { world with session := some newSession }
  | recorded (world : ClientWorld Outside) (state : ResetState) (newSession : ReplicaSessionSecret)
      (stored : world.resetFile = some state.value) (phase : state.phase = .cleared newSession) :
      Change start world { world with sessionRow := some ⟨newSession, world.resetCount⟩ }
  | finalized (world : ClientWorld Outside) (state : ResetState) (newSession : ReplicaSessionSecret)
      (stored : world.resetFile = some state.value) (phase : state.phase = .cleared newSession)
      (merged : List QuarantinedCommand)
      (same : (merged.map QuarantinedCommand.id).Perm
        (finalizedIds world.quarantineFile ++ pendingIds world.quarantineFile)) :
      Change start world { world with quarantineFile := some (QuarantineStore.mk merged []).value }
  | remembered (world : ClientWorld Outside) (state : ResetState) (merged : List QuarantinedCommand)
      (stored : world.resetFile = some state.value)
      (file : world.quarantineFile = some (QuarantineStore.mk merged []).value) :
      Change start world { world with finalizedQuarantine := merged }
  | unlinked (world : ClientWorld Outside) (state : ResetState) (newSession : ReplicaSessionSecret)
      (merged : List QuarantinedCommand) (entered : Entered state newSession world)
      (file : world.quarantineFile = some (QuarantineStore.mk merged []).value)
      (memory : world.finalizedQuarantine = merged) :
      Change start world { world with resetFile := none }

/-- What is in the tables when a command is admitted. -/
abbrev queueAdmission (commands : List QueuedCommandInput) (replicated : Option Text)
    (world : ClientWorld Outside) : Except StateError (List Text) × ApplicationTables :=
  queueCommands world.finalizedQuarantine replicated commands world.tables

/-- A command has been admitted, with the identifiers of its overlays. -/
structure Queued (start one last : ClientWorld Outside) (commands : List QueuedCommandInput)
    (replicated : Option Text) (inserted : List Text) : Prop where
  since : related start one
  accepted : (queueAdmission commands replicated one).1 = .ok inserted
  after : related { one with tables := (queueAdmission commands replicated one).2 } last

/-- The changes of queueing a command. When its transaction rejects, with or without an effect, the
overlays are removed. -/
inductive QueueChange (start : ClientWorld Outside) (commands : List QueuedCommandInput)
    (correlationId : Text) : ClientWorld Outside → ClientWorld Outside → Prop where
  | admitted (one : ClientWorld Outside) (replicated : Option Text) (inserted : List Text)
      (since : related start one) (accepted : (queueAdmission commands replicated one).1 = .ok inserted) :
      QueueChange start commands correlationId one
        { one with tables := (queueAdmission commands replicated one).2 }
  | written (one world : ClientWorld Outside) (replicated : Option Text) (inserted : List Text)
      (queued : Queued related start one world commands replicated inserted) :
      QueueChange start commands correlationId world
        ((clientHost surroundings).effect (.writeTransaction
          (commands.map (ReplicaClient.queueEntry correlationId replicated))) world).2
  | withdrawn (one world last : ClientWorld Outside) (replicated : Option Text)
      (inserted : List Text) (queued : Queued related start one world commands replicated inserted)
      (after : related world last ∨ related ((clientHost surroundings).effect (.writeTransaction
        (commands.map (ReplicaClient.queueEntry correlationId replicated))) world).2 last) :
      QueueChange start commands correlationId last
        { last with tables := removeOverlays inserted last.tables }

/-- The changes of acknowledging an entry of the quarantine, which leave the entries `next`. -/
inductive DiscardChange (start : ClientWorld Outside) (next : List QuarantinedCommand) :
    ClientWorld Outside → ClientWorld Outside → Prop where
  | discarded (world : ClientWorld Outside) (since : related start world) :
      DiscardChange start next world
        { world with quarantineFile := some (QuarantineStore.mk next []).value }
  | forgotten (world last : ClientWorld Outside) (since : related start world)
      (after : related { world with quarantineFile := some (QuarantineStore.mk next []).value } last) :
      DiscardChange start next last { last with finalizedQuarantine := next }

/-- An invariant of the client: it holds through the background, and the files are the client's
own. While a reset takes its snapshot the background is narrower. -/
structure Upholds : Prop where
  calm : Calm surroundings rule (fun _ => True) related inv
  quiet : Calm surroundings rule beginning still inv
  reset : ∀ world, inv world → ResetFile world.resetFile
  quarantine : ∀ world, inv world → QuarantineFile world.quarantineFile

end Changes

namespace ReplicaClient

variable {surroundings : ClientSurroundings Outside}
variable {rule : Rule (ClientWorld Outside) (Background Outside) ClientRequest}
variable {inv : ClientWorld Outside → Prop} {world : ClientWorld Outside}

/-- A function of the client that keeps an invariant. -/
abbrev Keeps (surroundings : ClientSurroundings Outside)
    (rule : Rule (ClientWorld Outside) (Background Outside) ClientRequest)
    (inv : ClientWorld Outside → Prop) {α : Type} (program : ClientAsync Outside α)
    (world : ClientWorld Outside) (returns : α → ClientWorld Outside → Prop) : Prop :=
  (clientHost surroundings).Safe rule inv (Host.Ends inv returns) program world

section Parts

/-- A computed value is returned or thrown. -/
theorem lift_keeps {α : Type} (holds : inv world) (result : Except StateError α) :
    Keeps surroundings rule inv (lift result) world fun value reached =>
      reached = world ∧ result = .ok value := by
  refine Host.safe_ofExcept _ world holds ?_
  intro value computed
  refine ⟨rfl, ?_⟩
  cases result with
  | error error => cases computed
  | ok other => exact congrArg Except.ok (Except.ok.inj computed)

/-- A check that succeeds has found its condition. -/
theorem check_keeps (holds : inv world) (condition : Bool) (message : String) :
    Keeps surroundings rule inv (check condition message) world fun _ reached =>
      reached = world ∧ condition = true := by
  refine Host.safe_returns _ world (lift_keeps holds _) ?_
  rintro ⟨⟩ reached _ ⟨same, passed⟩
  exact ⟨same, (require_ok _ _).mp passed⟩

/-- The capacity is asserted of the tables at once. -/
theorem assertCapacity_keeps (holds : inv world) (store : QuarantineStore) :
    Keeps surroundings rule inv (assertCapacity store) world fun _ reached => reached = world :=
  Host.safe_returns _ world (lift_keeps holds _) fun _ _ _ returned => returned.1

variable {stages : Stage ClientRequest → Prop}
variable {related : ClientWorld Outside → ClientWorld Outside → Prop}

/-- Await a request whose effect is small, whatever the answer. -/
theorem quiet_keeps {α : Type} (calm : Calm surroundings rule stages related inv) (holds : inv world)
    (request : ClientRequest) (covered : stages (.sent request) ∧ stages (.served request))
    (quiet : ∀ reached, inv reached → rule.effect request reached →
      related reached ((clientHost surroundings).effect request reached).2)
    (rest : ClientReply request → ClientAsync Outside α) (returns : α → ClientWorld Outside → Prop)
    (goes : ∀ last value, related world last → inv last →
      Keeps surroundings rule inv (rest value) last returns) :
    Keeps surroundings rule inv (Async.await request >>= rest) world returns :=
  calm.quiet request covered quiet rest world holds fun _ last value here there kept _ =>
    goes last value (calm.trans _ _ _ here there) kept

/-- Await a request last. -/
theorem last_keeps (calm : Calm surroundings rule stages related inv) (holds : inv world)
    (request : ClientRequest) (covered : stages (.sent request) ∧ stages (.served request))
    (quiet : ∀ reached, inv reached → rule.effect request reached →
      related reached ((clientHost surroundings).effect request reached).2) :
    Keeps surroundings rule inv (Async.await request) world fun _ reached => related world reached := by
  rw [← Async.await_done]
  exact quiet_keeps calm holds request covered quiet .done _ fun _ _ here kept => ⟨kept, here⟩

/-- The identifiers of the quarantine are read back. -/
theorem readQuarantine_keeps (calm : Calm surroundings rule stages related inv)
    (own : ∀ world, inv world → QuarantineFile world.quarantineFile) (holds : inv world)
    (covered : stages (.sent .readQuarantine) ∧ stages (.served .readQuarantine)) :
    Keeps surroundings rule inv (readQuarantine surroundings) world fun store reached =>
      related world reached ∧
        store.finalized.map QuarantinedCommand.id = finalizedIds world.quarantineFile ∧
          store.pending.map QuarantineIntent.id = pendingIds world.quarantineFile := by
  refine calm.quiet .readQuarantine covered (fun _ _ _ => calm.refl _) _ world holds ?_
  rintro reached last file here there kept ⟨⟩
  refine Host.safe_returns _ last (lift_keeps kept _) ?_
  rintro store _ _ ⟨rfl, parsed⟩
  rw [(calm.untouched _ _ here).quarantine] at parsed
  obtain ⟨read, accepted, rfl⟩ := (map_ok _ _ _).mp parsed
  exact ⟨calm.trans _ _ _ here there,
    readQuarantineStore_ids world.quarantineFile (own world holds) read accepted⟩

/-- The server is asked about a command. -/
theorem classify_keeps (calm : Calm surroundings rule stages related inv) (holds : inv world)
    (session : ReplicaSessionSecret) (resourceId incarnationId : Text)
    (covered : stages (.sent (.post (.classify session resourceId incarnationId))) ∧
      stages (.served (.post (.classify session resourceId incarnationId)))) :
    Keeps surroundings rule inv (classify session resourceId incarnationId) world fun _ reached =>
      related world reached := by
  refine calm.quiet (.post _) covered (fun reached kept effect => calm.posted _ reached kept effect trivial)
    _ world holds ?_
  intro reached last response here there kept answered
  exact Host.safe_ofExcept _ last kept fun _ _ => calm.trans _ _ _ here there

/-- The intents are those of the candidates. -/
theorem classifyPending_keeps (calm : Calm surroundings rule stages related inv) (holds : inv world)
    (session : ReplicaSessionSecret) (overlays : List OverlayRow) (candidates : List Candidate)
    (covered : ∀ resourceId incarnationId,
      stages (.sent (.post (.classify session resourceId incarnationId))) ∧
        stages (.served (.post (.classify session resourceId incarnationId)))) :
    Keeps surroundings rule inv (classifyPending session overlays candidates) world
      fun pending reached => related world reached ∧
        pending.map QuarantineIntent.id = candidates.map Candidate.id := by
  induction candidates generalizing world with
  | nil => exact ⟨holds, calm.refl world, rfl⟩
  | cons item rest inductionHypothesis =>
    refine Host.safe_sequence _ _ world (classify_keeps calm holds session _ _ (covered _ _)) ?_
    intro initiallyAuthorized reached kept here
    refine Host.safe_sequence _ _ reached (inductionHypothesis kept) ?_
    rintro pending last done ⟨there, same⟩
    refine ⟨done, calm.trans _ _ _ here there, ?_⟩
    rw [List.map_cons, List.map_cons, same]
    rfl

/-- A snapshot has the candidates of the queue and of the overlays of the moment. -/
theorem takeSnapshot_keeps (holds : inv world) (batch : List CrudEntry) :
    Keeps surroundings rule inv (takeSnapshot surroundings batch) world fun snapshot reached =>
      reached = world ∧ ∃ queued, queuedCandidates batch = .ok queued ∧
        snapshot.candidates =
          resetCandidates queued (readOverlayRecords surroundings.collation world.tables) := by
  refine Host.safe_sequence _ _ world (lift_keeps holds _) ?_
  rintro queued _ _ ⟨rfl, accepted⟩
  apply Host.safe_look
  refine Host.safe_sequence _ _ _ (check_keeps holds _ _) ?_
  rintro ⟨⟩ _ _ ⟨rfl, -⟩
  exact ⟨holds, rfl, queued, accepted, rfl⟩

/-- The incarnation of a resource is looked up. -/
theorem replicatedIncarnation_keeps (calm : Calm surroundings rule stages related inv)
    (holds : inv world) (commands : List QueuedCommandInput)
    (covered : ∀ resourceId, stages (.sent (.getIncarnations resourceId)) ∧
      stages (.served (.getIncarnations resourceId))) :
    Keeps surroundings rule inv (replicatedIncarnation commands) world fun _ reached =>
      related world reached := by
  unfold replicatedIncarnation
  split
  · next command =>
    split
    · exact ⟨holds, calm.refl world⟩
    · refine Host.safe_sequence _ _ world (check_keeps holds _ _) ?_
      rintro ⟨⟩ checked _ ⟨rfl, -⟩
      exact quiet_keeps calm holds (.getIncarnations _) (covered _) (fun _ _ _ => calm.refl _) _ _
        fun _ _ here kept => ⟨kept, here⟩
  · exact ⟨holds, calm.refl world⟩

end Parts

section Attempt

variable {related still : ClientWorld Outside → ClientWorld Outside → Prop}
variable {start : ClientWorld Outside}

variable (upholds : Upholds surroundings rule related still inv)
variable (closed : ∀ world next, inv world →
  Change surroundings rule related still inv start world next → inv next)

include upholds

/-- The stored state of a reset is read back. -/
theorem readResetState_keeps (holds : inv world) :
    Keeps surroundings rule inv readResetState world fun stored reached =>
      related world reached ∧ reached.resetFile = stored.map ResetState.value := by
  have calm := upholds.calm
  refine calm.quiet .readReset ⟨trivial, trivial⟩ (fun _ _ _ => calm.refl _) _ world holds ?_
  rintro reached last file here there kept ⟨⟩
  refine Host.safe_returns _ last (lift_keeps kept _) ?_
  rintro stored _ _ ⟨rfl, parsed⟩
  refine ⟨calm.trans _ _ _ here there, ?_⟩
  rw [(calm.untouched _ _ here).reset] at parsed
  rw [(calm.untouched _ _ (calm.trans _ _ _ here there)).reset]
  rcases upholds.reset world holds with absent | ⟨state, present⟩
  · rw [absent] at parsed ⊢
    obtain rfl := Except.ok.inj parsed
    rfl
  · rw [present] at parsed ⊢
    obtain ⟨other, found, rfl⟩ := (map_ok _ _ _).mp parsed
    rw [parseResetState_written state other found]
    rfl

include closed

/-- The first phase leaves its state in the file. -/
theorem beginReset_keeps (holds : inv world) (begins : world.resetFile = none)
    (session : ReplicaSessionSecret) (known : world.session = some session) :
    Keeps surroundings rule inv (beginReset surroundings session) world fun state reached =>
      reached.resetFile = some state.value ∧ state.phase = .quarantined := by
  obtain ⟨calm, quiet, -, own⟩ := upholds
  apply Host.safe_look
  refine Host.safe_sequence _ _ world (check_keeps holds _ _) ?_
  rintro ⟨⟩ asking _ ⟨rfl, required⟩
  refine calm.toSteady.await quiet.toSteady (.getCrudBatch 1000) trivial trivial _ asking holds
    (fun reached here _ => calm.closed _ _ holds here) ?_
  rintro first second batch here effect later keptSecond ⟨⟩
  have keptFirst := calm.closed _ _ holds here
  refine Host.safe_sequence _ _ second (takeSnapshot_keeps keptSecond _) ?_
  rintro snapshot taking _ ⟨rfl, candidates⟩
  have taken : Taken surroundings rule related still inv first taking snapshot :=
    ⟨⟨asking, holds, required, here⟩, (calm.untouched _ _ here).reset.trans begins, effect, keptFirst,
      later, keptSecond, candidates⟩
  refine Host.safe_sequence _ _ taking (readQuarantine_keeps quiet own keptSecond ⟨trivial, trivial⟩) ?_
  rintro prior reading keptReading ⟨read, finalized, -⟩
  refine Host.safe_sequence _ _ reading (check_keeps keptReading _ _) ?_
  rintro ⟨⟩ checked _ ⟨rfl, -⟩
  refine Host.safe_sequence _ _ checked (check_keeps keptReading _ _) ?_
  rintro ⟨⟩ free _ ⟨rfl, distinct⟩
  refine quiet_keeps quiet keptReading .disconnect ⟨trivial, trivial⟩ (fun _ _ _ => quiet.refl _) _ _ ?_
  intro left _ toLeft keptLeft
  refine Host.safe_sequence _ _ left
    (classifyPending_keeps quiet keptLeft session _ _ fun _ _ => ⟨trivial, trivial⟩) ?_
  rintro pending asked keptAsked ⟨toAsked, identified⟩
  refine Host.safe_sequence _ _ asked (assertCapacity_keeps keptAsked _) ?_
  rintro ⟨⟩ asserted _ rfl
  have since : still taking asserted :=
    quiet.trans _ _ _ read (quiet.trans _ _ _ toLeft toAsked)
  have quarantines : ∀ reached, still asserted reached →
      Quarantines snapshot ⟨prior.finalized, pending⟩ reached := by
    intro reached on
    have same := (quiet.untouched _ _ (quiet.trans _ _ _ since on)).quarantine
    refine ⟨by rw [same]; exact finalized, identified, ?_⟩
    intro candidate listed present
    rw [same, ← finalized, List.mem_map] at present
    obtain ⟨command, member, equal⟩ := present
    have apart := List.all_eq_true.mp (List.all_eq_true.mp distinct candidate listed) command member
    simp [equal] at apart
  refine quiet.toSteady.await quiet.toSteady (.writeQuarantine _) trivial trivial _ asserted keptAsked
    ?_ ?_
  · intro reached on _
    exact closed _ _ (quiet.closed _ _ keptAsked on) (.quarantined first taking reached snapshot
      ⟨prior.finalized, pending⟩ taken (quiet.trans _ _ _ since on) (quarantines reached on))
  · intro written hooked _ on _ after keptHooked _
    apply Host.safe_look
    refine quiet.toSteady.await calm.toSteady (.writeReset _) trivial trivial _ hooked keptHooked ?_ ?_
    · intro reached goes _
      have same : reached.session = some session :=
        (quiet.untouched _ _ goes).session.trans ((quiet.untouched _ _ after).session.trans
          ((quiet.untouched _ _ (quiet.trans _ _ _ since on)).session.trans
            ((quiet.untouched _ _ later).session.trans
              ((calm.untouched _ _ here).session.trans known))))
      exact closed _ _ (quiet.closed _ _ keptHooked goes) (.begun first taking written reached snapshot
        ⟨prior.finalized, pending⟩ _ taken (quiet.trans _ _ _ since on) (quarantines written on)
        (quiet.trans _ _ _ after goes) rfl same)
    · intro reached last _ _ _ done keptLast _
      refine quiet_keeps calm keptLast .hook ⟨trivial, trivial⟩ (fun _ _ _ => calm.refl _) _ _ ?_
      intro ended _ there keptEnded
      refine ⟨keptEnded, ?_, rfl⟩
      rw [(calm.untouched _ _ there).reset, (calm.untouched _ _ done).reset]
      rfl

omit closed in
/-- A reset is asked for while its state is stored. -/
theorem post_keeps (state : ResetState) (fault : Bool) (stored : world.resetFile = some state.value)
    (phase : state.phase = .quarantined) (holds : inv world)
    (effect : rule.effect (.post (.reset state.oldSession state.resetRequestId fault)) world) :
    related world ((clientHost surroundings).effect
      (.post (.reset state.oldSession state.resetRequestId fault)) world).2 :=
  upholds.calm.posted _ world holds effect ⟨state, stored, phase, rfl, rfl⟩

omit closed in
/-- A reset is asked for again, or its rejection is thrown. -/
theorem repostReset_keeps (holds : inv world) (state : ResetState) (fault : Bool)
    (stored : world.resetFile = some state.value) (phase : state.phase = .quarantined)
    (error : ClientFailure) :
    Keeps surroundings rule inv (repostReset state fault (.error error)) world fun reset reached =>
      Replied surroundings rule related inv state reset world reached := by
  have calm := upholds.calm
  cases fault with
  | false => exact holds
  | true =>
    change Keeps surroundings rule inv (Async.await (.post (.reset _ _ false))) world _
    rw [← Async.await_done]
    refine calm.toSteady.await calm.toSteady _ trivial trivial .done world holds ?_ ?_
    · intro reached here effect
      have kept := calm.closed _ _ holds here
      have same := (calm.untouched _ _ here).reset.trans stored
      exact calm.closed _ _ kept (post_keeps upholds state false same phase kept effect)
    · intro reached last reset here effect there kept answer
      have before := calm.closed _ _ holds here
      have same := (calm.untouched _ _ here).reset.trans stored
      have posted := post_keeps upholds state false same phase before effect
      exact ⟨kept, calm.trans _ _ _ here (calm.trans _ _ _ posted there),
        false, reached, here, before, effect, answer, there⟩

omit closed in
/-- The server is asked for a reset. -/
theorem postReset_keeps (holds : inv world) (state : ResetState) (fault : Bool)
    (stored : world.resetFile = some state.value) (phase : state.phase = .quarantined) :
    Keeps surroundings rule inv (postReset state fault) world fun reset reached =>
      Replied surroundings rule related inv state reset world reached := by
  have calm := upholds.calm
  have again : ∀ reached error, related world reached → inv reached →
      Keeps surroundings rule inv (repostReset state fault (.error error)) reached fun reset last =>
        Replied surroundings rule related inv state reset world last := by
    intro reached error here kept
    have same := (calm.untouched _ _ here).reset.trans stored
    refine Host.safe_returns _ reached (repostReset_keeps upholds kept state fault same phase error) ?_
    rintro reset last _ ⟨there, fault, posted, on, replied⟩
    exact ⟨calm.trans _ _ _ here there, fault, posted, calm.trans _ _ _ here on, replied⟩
  have posting : ∀ reached, related world reached →
      rule.effect (.post (.reset state.oldSession state.resetRequestId fault)) reached →
        related world ((clientHost surroundings).effect
          (.post (.reset state.oldSession state.resetRequestId fault)) reached).2 := by
    intro reached here effect
    have same := (calm.untouched _ _ here).reset.trans stored
    exact calm.trans _ _ _ here
      (post_keeps upholds state fault same phase (calm.closed _ _ holds here) effect)
  refine calm.toSteady.settled calm.toSteady _ trivial trivial _ world holds
    (fun reached here effect => calm.closed _ _ holds (posting reached here effect))
    (fun reached error here kept => again reached error here kept) ?_ ?_
  · intro reached last error here effect there kept
    exact again last error (calm.trans _ _ _ (posting reached here effect) there) kept
  · intro reached last here effect there kept
    have since := calm.trans _ _ _ (posting reached here effect) there
    cases answer : ((clientHost surroundings).effect
        (.post (.reset state.oldSession state.resetRequestId fault)) reached).1 with
    | error error => exact again last error since kept
    | ok reset =>
      exact ⟨kept, since, fault, reached, here, calm.closed _ _ holds here, effect, answer, there⟩

/-- The staged session is in the file and in the row when this phase returns. -/
theorem stageSession_keeps (holds : inv world) (state : ResetState) (fault : Bool)
    (stored : world.resetFile = some state.value) (phase : state.phase = .quarantined) :
    Keeps surroundings rule inv (stageSession surroundings fault state) world fun staged reached =>
      reached.resetFile = some staged.value ∧ ∃ newSession count,
        staged.phase = .sessionStaged newSession ∧ reached.sessionRow = some ⟨newSession, count⟩ := by
  have calm := upholds.calm
  refine Host.safe_sequence _ _ world (postReset_keeps upholds holds state fault stored phase) ?_
  intro reset posted keptPosted replied
  refine Host.safe_sequence _ _ posted (lift_keeps keptPosted _) ?_
  rintro newSession rotated _ ⟨rfl, parsed⟩
  refine Host.safe_sequence _ _ rotated
    (readQuarantine_keeps calm upholds.quarantine keptPosted ⟨trivial, trivial⟩) ?_
  rintro store reading keptReading ⟨read, -, -⟩
  refine Host.safe_sequence _ _ reading (assertCapacity_keeps keptReading _) ?_
  rintro ⟨⟩ asserted _ rfl
  have answered : ∀ reached, related asserted reached →
      Answered surroundings rule related inv state newSession world reached := by
    intro reached on
    obtain ⟨since, fault, posting, before, kept, effect, answer, after⟩ := replied
    have far := calm.trans _ _ _ read on
    exact ⟨holds, stored, phase, reset,
      ⟨calm.trans _ _ _ since far, fault, posting, before, kept, effect, answer,
        calm.trans _ _ _ after far⟩, parsed⟩
  refine calm.toSteady.await calm.toSteady (.writeReset _) trivial trivial _ asserted keptReading ?_ ?_
  · intro reached on _
    exact closed _ _ (calm.closed _ _ keptReading on) (.staged world reached state newSession
      (answered reached on))
  · intro written hooked _ on _ after keptHooked _
    refine quiet_keeps calm keptHooked .hook ⟨trivial, trivial⟩ (fun _ _ _ => calm.refl _) _ _ ?_
    intro counting _ there keptCounting
    apply Host.safe_look
    apply Host.safe_modify
    have counted := closed _ _ keptCounting (.counted world written counting state newSession
      (answered written on) (calm.trans _ _ _ after there))
    refine quiet_keeps calm counted .hook ⟨trivial, trivial⟩ (fun _ _ _ => calm.refl _) _ _ ?_
    intro ended _ last keptEnded
    refine ⟨keptEnded, ?_, newSession, counting.resetCount + 1, rfl, ?_⟩
    · rw [(calm.untouched _ _ last).reset]
      exact (calm.untouched _ _ there).reset.trans (calm.untouched _ _ after).reset
    · exact (calm.untouched _ _ last).row

/-- The replica is cleared when this phase returns. -/
theorem clearReplica_keeps (holds : inv world) (state : ResetState)
    (newSession : ReplicaSessionSecret) (stored : world.resetFile = some state.value)
    (phase : state.phase = .sessionStaged newSession) (adopts : Adopts start newSession world) :
    Keeps surroundings rule inv (clearReplica surroundings state newSession) world
      fun cleared reached =>
        reached.resetFile = some cleared.value ∧ cleared.phase = .cleared newSession := by
  have calm := upholds.calm
  refine quiet_keeps calm holds (.post (.acknowledgeReset newSession state.resetRequestId))
    ⟨trivial, trivial⟩ (fun reached kept effect => calm.posted _ reached kept effect trivial) _ _ ?_
  intro adopting _ here keptAdopting
  refine Host.safe_sequence _ _ adopting (check_keeps keptAdopting _ _) ?_
  rintro ⟨⟩ checked _ ⟨rfl, -⟩
  apply Host.safe_modify
  have same : checked.resetFile = some state.value := (calm.untouched _ _ here).reset.trans stored
  have still : Adopts start newSession checked := by
    rcases adopts with ⟨count, row⟩ | since
    · exact .inl ⟨count, (calm.untouched _ _ here).row.trans row⟩
    · exact .inr (since.trans (calm.untouched _ _ here))
  have adopted := closed _ _ keptAdopting (.adopted checked state newSession same phase still)
  refine Host.safe_sequence _ _ _
    (readQuarantine_keeps calm upholds.quarantine adopted ⟨trivial, trivial⟩) ?_
  rintro clearing reading keptReading ⟨read, -, -⟩
  refine Host.safe_sequence _ _ reading (assertCapacity_keeps keptReading _) ?_
  rintro ⟨⟩ asserted _ rfl
  refine calm.toSteady.await calm.toSteady .disconnectAndClear trivial trivial _ asserted keptReading
    (fun reached on _ => calm.closed _ _ (calm.closed _ _ keptReading on) (calm.emptying reached)) ?_
  intro emptied overlaid _ on _ clears keptOverlaid _
  apply Host.safe_modify
  have file : overlaid.resetFile = some state.value :=
    (calm.untouched _ _ clears).reset.trans ((calm.untouched _ _ on).reset.trans
      ((calm.untouched _ _ read).reset.trans same))
  have cleared := closed _ _ keptOverlaid (.cleared overlaid state newSession file phase)
  refine quiet_keeps calm cleared .close ⟨trivial, trivial⟩ (fun _ _ _ => calm.refl _) _ _ ?_
  intro closing _ after keptClosing
  apply Host.safe_modify
  have shut := calm.trans _ _ _ after (calm.closing closing true)
  refine Host.safe_sequence _ _ _
    (assertCapacity_keeps (calm.closed _ _ keptClosing (calm.closing closing true)) _) ?_
  rintro ⟨⟩ again keptAgain rfl
  refine calm.toSteady.await calm.toSteady (.writeReset _) trivial trivial _ _ keptAgain ?_ ?_
  · intro reached goes _
    exact closed _ _ (calm.closed _ _ keptAgain goes) (.clearedState checked emptied overlaid reached
      state newSession keptAdopting same phase still (calm.trans _ _ _ read on) clears
      (calm.trans _ _ _ shut goes))
  · intro reached last _ _ _ done keptLast _
    refine quiet_keeps calm keptLast .hook ⟨trivial, trivial⟩ (fun _ _ _ => calm.refl _) _ _ ?_
    intro ended _ there keptEnded
    refine ⟨keptEnded, ?_, rfl⟩
    rw [(calm.untouched _ _ there).reset, (calm.untouched _ _ done).reset]
    rfl

/-- The client connects with its session. -/
theorem connectAndObserve_keeps (holds : inv world) (state : ResetState)
    (newSession : ReplicaSessionSecret) (entered : Entered state newSession world)
    (challengeId : Value) :
    Keeps surroundings rule inv (connectAndObserve newSession challengeId) world fun _ reached =>
      Entered state newSession reached := by
  have calm := upholds.calm
  apply Host.safe_modify
  have opened := calm.closing world false
  refine quiet_keeps calm (calm.closed _ _ holds opened) .connect ⟨trivial, trivial⟩
    (fun _ _ _ => calm.refl _) _ _ ?_
  intro connected _ one keptOne
  refine quiet_keeps calm keptOne .waitForInitialSync ⟨trivial, trivial⟩ (fun _ _ _ => calm.refl _) _ _ ?_
  intro synced _ two keptTwo
  refine quiet_keeps calm keptTwo (.post (.acknowledge newSession challengeId)) ⟨trivial, trivial⟩
    (fun reached kept effect => calm.posted _ reached kept effect trivial) _ _ ?_
  intro acknowledged _ three keptThree
  refine Host.safe_sequence _ _ acknowledged (check_keeps keptThree _ _) ?_
  rintro ⟨⟩ checked _ ⟨rfl, -⟩
  apply Host.safe_look
  apply Host.safe_modify
  have still : Entered state newSession checked := entered.since
    (calm.untouched _ _ (calm.trans _ _ _ opened (calm.trans _ _ _ one (calm.trans _ _ _ two three))))
  have recorded := closed _ _ keptThree (.recorded checked state newSession still.stored still.phase)
  refine Host.safe_returns _ _ (last_keeps calm recorded .chmod ⟨trivial, trivial⟩
    fun _ _ _ => calm.refl _) ?_
  intro _ last _ there
  have again : Entered state newSession
      { checked with sessionRow := some ⟨newSession, checked.resetCount⟩ } :=
    ⟨still.stored, still.phase, still.session, rfl⟩
  exact again.since (calm.untouched _ _ there)

omit closed in
/-- A database is closed once. -/
theorem closeDatabase_keeps (holds : inv world) (databaseClosed : Bool) :
    Keeps surroundings rule inv (closeDatabase databaseClosed) world fun _ reached =>
      related world reached := by
  have calm := upholds.calm
  cases databaseClosed with
  | true => exact ⟨holds, calm.refl world⟩
  | false =>
    refine quiet_keeps calm holds .close ⟨trivial, trivial⟩ (fun _ _ _ => calm.refl _) _ _ ?_
    intro last _ here kept
    exact ⟨calm.closed _ _ kept (calm.closing last true), calm.trans _ _ _ here (calm.closing last true)⟩

/-- The client goes on with a new replica. -/
theorem reopen_keeps (holds : inv world) (state : ResetState) (newSession : ReplicaSessionSecret)
    (entered : Entered state newSession world) :
    Keeps surroundings rule inv (reopen surroundings newSession) world fun _ reached =>
      Entered state newSession reached := by
  have calm := upholds.calm
  apply Host.safe_look
  refine Host.safe_sequence _ _ world (closeDatabase_keeps upholds holds _) ?_
  intro _ shut keptShut one
  refine quiet_keeps calm keptShut (.post (.challenge newSession)) ⟨trivial, trivial⟩
    (fun reached kept effect => calm.posted _ reached kept effect trivial) _ _ ?_
  intro challenged issued two keptTwo
  have asked : Keeps surroundings rule inv (Async.ofExcept (challengeOf surroundings issued)) challenged
      fun _ reached => reached = challenged := Host.safe_ofExcept _ challenged keptTwo fun _ _ => rfl
  refine Host.safe_sequence _ _ challenged asked ?_
  rintro challengeId issuedTo _ rfl
  apply Host.safe_modify
  have granted := calm.granting issuedTo
  exact connectAndObserve_keeps upholds closed (calm.closed _ _ keptTwo granted) state newSession
    (entered.since (calm.untouched _ _ (calm.trans _ _ _ one (calm.trans _ _ _ two granted)))) challengeId

omit closed in
/-- The finalized entries are those of the intents. -/
theorem classifyRetained_keeps (holds : inv world) (session : ReplicaSessionSecret)
    (pending : List QuarantineIntent) :
    Keeps surroundings rule inv (classifyRetained session pending) world fun additions reached =>
      related world reached ∧
        additions.map QuarantinedCommand.id = pending.map QuarantineIntent.id := by
  have calm := upholds.calm
  induction pending generalizing world with
  | nil => exact ⟨holds, calm.refl world, rfl⟩
  | cons item rest inductionHypothesis =>
    refine Host.safe_sequence _ _ world (classify_keeps calm holds session _ _ ⟨trivial, trivial⟩) ?_
    intro currentlyAuthorized one keptOne sinceOne
    refine quiet_keeps calm keptOne (.getResources _ _) ⟨trivial, trivial⟩ (fun _ _ _ => calm.refl _)
      _ _ ?_
    intro two present sinceTwo keptTwo
    refine Host.safe_sequence _ _ two (check_keeps keptTwo _ _) ?_
    rintro ⟨⟩ checked _ ⟨rfl, -⟩
    refine Host.safe_sequence _ _ checked (inductionHypothesis keptTwo) ?_
    rintro additions last done ⟨there, same⟩
    refine ⟨done, calm.trans _ _ _ sinceOne (calm.trans _ _ _ sinceTwo there), ?_⟩
    rw [List.map_cons, List.map_cons, same]
    rfl

/-- The state of a finished reset is unlinked. -/
theorem unlinkResetState_keeps (holds : inv world) (state : ResetState)
    (newSession : ReplicaSessionSecret) (merged : List QuarantinedCommand)
    (entered : Entered state newSession world)
    (file : world.quarantineFile = some (QuarantineStore.mk merged []).value)
    (memory : world.finalizedQuarantine = merged) :
    Keeps surroundings rule inv unlinkResetState world fun _ reached =>
      reached.session = some newSession ∧ reached.sessionRow = some ⟨newSession, reached.resetCount⟩ := by
  have calm := upholds.calm
  have goes : ∀ (answer : Except ClientFailure Unit) reached, inv reached →
      reached.session = some newSession ∧
        reached.sessionRow = some ⟨newSession, reached.resetCount⟩ →
      Keeps surroundings rule inv (unlinked answer) reached fun _ last =>
        last.session = some newSession ∧ last.sessionRow = some ⟨newSession, last.resetCount⟩ := by
    intro answer reached kept ended
    cases answer with
    | ok value => exact ⟨kept, ended⟩
    | error error =>
      rw [unlinked]
      split
      · exact ⟨kept, ended⟩
      · exact kept
  have effect : ∀ reached, related world reached →
      inv ((clientHost surroundings).effect .unlinkReset reached).2 ∧
        ∀ last, related ((clientHost surroundings).effect .unlinkReset reached).2 last →
          last.session = some newSession ∧ last.sessionRow = some ⟨newSession, last.resetCount⟩ := by
    intro reached here
    have kept := calm.closed _ _ holds here
    have untouched := calm.untouched _ _ here
    have still := entered.since untouched
    have present : reached.resetFile.isSome = true := by rw [still.stored]; rfl
    simp only [clientHost, present, if_true]
    refine ⟨closed _ _ kept (.unlinked reached state newSession merged still
      (untouched.quarantine.trans file) (untouched.memory.trans memory)), ?_⟩
    intro last there
    have after := calm.untouched _ _ there
    exact ⟨after.session.trans still.session, by rw [after.row, after.count]; exact still.row⟩
  refine calm.toSteady.settled calm.toSteady .unlinkReset trivial trivial _ world holds
    (fun reached here _ => (effect reached here).1) ?_ ?_ ?_
  · intro reached error here kept
    have still := entered.since (calm.untouched _ _ here)
    exact goes (.error error) reached kept ⟨still.session, still.row⟩
  · intro reached last error here _ there kept
    exact goes (.error error) last kept ((effect reached here).2 last there)
  · intro reached last here _ there kept
    exact goes _ last kept ((effect reached here).2 last there)

/-- The quarantine is finalized, and the state unlinked. -/
theorem finalizeQuarantine_keeps (holds : inv world) (state : ResetState)
    (newSession : ReplicaSessionSecret) (entered : Entered state newSession world) :
    Keeps surroundings rule inv (finalizeQuarantine surroundings newSession) world fun _ reached =>
      reached.session = some newSession ∧ reached.sessionRow = some ⟨newSession, reached.resetCount⟩ := by
  have calm := upholds.calm
  refine Host.safe_sequence _ _ world
    (readQuarantine_keeps calm upholds.quarantine holds ⟨trivial, trivial⟩) ?_
  rintro retained one keptOne ⟨sinceOne, finalized, pending⟩
  refine Host.safe_sequence _ _ one (assertCapacity_keeps keptOne _) ?_
  rintro ⟨⟩ asserted _ rfl
  refine Host.safe_sequence _ _ asserted (classifyRetained_keeps upholds keptOne newSession _) ?_
  rintro additions two keptTwo ⟨sinceTwo, added⟩
  refine Host.safe_sequence _ _ two (lift_keeps keptTwo _) ?_
  rintro merged lifted _ ⟨rfl, merge⟩
  refine Host.safe_sequence _ _ lifted (assertCapacity_keeps keptTwo _) ?_
  rintro ⟨⟩ again _ rfl
  have since : related world again := calm.trans _ _ _ sinceOne sinceTwo
  have complete : (merged.map QuarantinedCommand.id).Perm
      (finalizedIds world.quarantineFile ++ pendingIds world.quarantineFile) := by
    obtain ⟨_, _, sorted⟩ := (bind_ok _ _ _).mp merge
    obtain rfl := Except.ok.inj sorted
    rw [← finalized, ← pending, ← added, ← List.map_append]
    exact (sortBy_perm _ _).map _
  refine calm.toSteady.await calm.toSteady (.writeQuarantine _) trivial trivial _ again keptTwo ?_ ?_
  · intro reached here _
    have untouched := calm.untouched _ _ (calm.trans _ _ _ since here)
    exact closed _ _ (calm.closed _ _ keptTwo here) (.finalized reached state newSession
      (untouched.reset.trans entered.stored) entered.phase merged
      (by rw [untouched.quarantine]; exact complete))
  · intro reached last _ here _ there kept _
    apply Host.safe_modify
    have before := entered.since (calm.untouched _ _ (calm.trans _ _ _ since here))
    have after := calm.untouched _ _ there
    have wrote : Entered state newSession
        { reached with quarantineFile := some (QuarantineStore.mk merged []).value } :=
      ⟨before.stored, before.phase, before.session, before.row⟩
    have still := wrote.since after
    have remembered := closed _ _ kept (.remembered last state merged still.stored after.quarantine)
    exact unlinkResetState_keeps upholds closed remembered state newSession merged
      ⟨still.stored, still.phase, still.session, still.row⟩ after.quarantine rfl

/-- A reset goes on with the stored state, or begins. -/
theorem resetStateOf_keeps (holds : inv world) (session : ReplicaSessionSecret)
    (known : world.session = some session) (since : Untouched start world) (stored : Option ResetState)
    (file : world.resetFile = stored.map ResetState.value) :
    Keeps surroundings rule inv (resetStateOf surroundings session stored) world
      fun state reached => reached.resetFile = some state.value ∧
        (state.phase = .quarantined ∨ Untouched start reached) := by
  cases stored with
  | some state => exact ⟨holds, file, .inr since⟩
  | none =>
    exact Host.safe_returns _ world (beginReset_keeps upholds closed holds file session known)
      fun _ _ _ returned => ⟨returned.1, .inl returned.2⟩

/-- The session is staged, or was. -/
theorem throughStaging_keeps (holds : inv world) (fault : Bool) (state : ResetState)
    (file : world.resetFile = some state.value)
    (since : state.phase = .quarantined ∨ Untouched start world) :
    Keeps surroundings rule inv (throughStaging surroundings fault state) world
      fun staged reached => reached.resetFile = some staged.value ∧
        ∀ newSession, staged.phase = .sessionStaged newSession → Adopts start newSession reached := by
  unfold throughStaging
  split
  · next first =>
    refine Host.safe_returns _ world (stageSession_keeps upholds closed holds state fault file first) ?_
    rintro staged reached _ ⟨stored, newSession, count, phase, row⟩
    refine ⟨stored, ?_⟩
    intro other same
    obtain rfl := ResetPhase.sessionStaged.inj (phase.symm.trans same)
    exact .inl ⟨count, row⟩
  · next later => exact ⟨holds, file, fun _ _ => .inr (since.resolve_left later)⟩

/-- The replica is cleared, or was. -/
theorem throughClearing_keeps (holds : inv world) (state : ResetState)
    (file : world.resetFile = some state.value)
    (adopts : ∀ newSession, state.phase = .sessionStaged newSession → Adopts start newSession world) :
    Keeps surroundings rule inv (throughClearing surroundings state) world
      fun cleared reached => reached.resetFile = some cleared.value := by
  unfold throughClearing
  split
  · next newSession staged =>
    exact Host.safe_returns _ world (clearReplica_keeps upholds closed holds state newSession file staged
      (adopts newSession staged)) fun _ _ _ returned => returned.1
  · exact ⟨holds, file⟩

/-- The client has gone on with the session of a cleared replica. -/
def Finished (inv : ClientWorld Outside → Prop) (world : ClientWorld Outside) : Prop :=
  ∃ newSession, world.session = some newSession ∧
    world.sessionRow = some ⟨newSession, world.resetCount⟩ ∧
      ∃ earlier, ∃ state : ResetState, inv earlier ∧ earlier.resetFile = some state.value ∧
        state.phase = .cleared newSession

/-- The reset is finished. -/
theorem throughFinishing_keeps (holds : inv world) (state : ResetState)
    (file : world.resetFile = some state.value) :
    Keeps surroundings rule inv (throughFinishing surroundings state) world fun _ reached =>
      Finished inv reached := by
  unfold throughFinishing
  split
  · next newSession phase =>
    apply Host.safe_modify
    apply Host.safe_look
    apply Host.safe_modify
    have entering := closed _ _ holds (.entered world state newSession file phase)
    have recorded := closed _ _ entering (.recorded _ state newSession file phase)
    refine Host.safe_sequence _ _ _
      (reopen_keeps upholds closed recorded state newSession ⟨file, phase, rfl, rfl⟩) ?_
    intro _ reached kept entered
    refine Host.safe_returns _ reached
      (finalizeQuarantine_keeps upholds closed kept state newSession entered) ?_
    rintro _ last _ ⟨session, row⟩
    exact ⟨newSession, session, row, world, state, holds, file, phase⟩
  · exact holds

/-- What each change keeps, holds at each `await` of a reset and when it ends. -/
theorem performReplicaReset_keeps (holds : inv start) (fault : Bool) :
    Keeps surroundings rule inv (performReplicaReset surroundings fault) start fun _ reached =>
      Finished inv reached := by
  have calm := upholds.calm
  apply Host.safe_look
  cases known : start.session with
  | none => exact holds
  | some session =>
    refine Host.safe_sequence _ _ start (readResetState_keeps upholds holds) ?_
    rintro stored one keptOne ⟨here, file⟩
    have untouched := calm.untouched _ _ here
    refine Host.safe_sequence _ _ one (resetStateOf_keeps upholds closed keptOne session
      (untouched.session.trans known) untouched stored file) ?_
    rintro begun two keptTwo ⟨fileTwo, since⟩
    refine Host.safe_sequence _ _ two (throughStaging_keeps upholds closed keptTwo fault begun fileTwo
      since) ?_
    rintro staged three keptThree ⟨fileThree, adopts⟩
    refine Host.safe_sequence _ _ three (throughClearing_keeps upholds closed keptThree staged fileThree
      adopts) ?_
    intro cleared four keptFour fileFour
    exact throughFinishing_keeps upholds closed keptFour cleared fileFour

end Attempt

section Others

variable {related : ClientWorld Outside → ClientWorld Outside → Prop}

/-- What each change keeps, holds at each `await` of queueing a command and when it ends. -/
theorem queueCommands_keeps (calm : Calm surroundings rule (fun _ => True) related inv)
    (holds : inv world) (commands : List QueuedCommandInput) (correlationId : Text)
    (closed : ∀ before next, inv before →
      QueueChange surroundings related world commands correlationId before next → inv next) :
    Keeps surroundings rule inv (queueCommands commands correlationId) world fun _ reached =>
      ∃ one before replicated inserted, Queued related world one before commands replicated inserted ∧
        related ((clientHost surroundings).effect (.writeTransaction
          (commands.map (queueEntry correlationId replicated))) before).2 reached := by
  refine Host.safe_sequence _ _ world
    (replicatedIncarnation_keeps calm holds commands fun _ => ⟨trivial, trivial⟩) ?_
  intro replicated one keptOne since
  apply Host.safe_look
  refine Host.safe_sequence _ _ one (lift_keeps keptOne _) ?_
  rintro inserted lifted _ ⟨rfl, accepted⟩
  apply Host.safe_become
  have admitted := closed _ _ keptOne (.admitted lifted replicated inserted since accepted)
  have queued : ∀ reached, related _ reached →
      Queued related world lifted reached commands replicated inserted :=
    fun reached after => ⟨since, accepted, after⟩
  refine calm.toSteady.settled calm.toSteady (.writeTransaction _) trivial trivial _ _ admitted
    ?_ ?_ ?_ ?_
  · intro reached after _
    exact closed _ _ (calm.closed _ _ admitted after)
      (.written lifted reached replicated inserted (queued reached after))
  · intro reached error after kept
    exact closed _ _ kept (.withdrawn lifted reached reached replicated inserted (queued reached after)
      (.inl (calm.refl reached)))
  · intro reached last error after _ there kept
    exact closed _ _ kept (.withdrawn lifted reached last replicated inserted (queued reached after)
      (.inr there))
  · intro reached last after _ there kept
    exact ⟨kept, lifted, reached, replicated, inserted, queued reached after, there⟩

/-- What each change keeps, holds at each `await` of acknowledging an entry of the quarantine. -/
theorem acknowledgeQuarantined_keeps (calm : Calm surroundings rule (fun _ => True) related inv)
    (holds : inv world) (commandId : Text)
    (closed : ∀ next, persistQuarantineAcknowledgement world.finalizedQuarantine commandId = some next →
      ∀ before after, inv before → DiscardChange related world next before after → inv after) :
    Keeps surroundings rule inv (acknowledgeOrDiscardQuarantinedCommand commandId) world
      fun found reached => found = false → reached = world := by
  apply Host.safe_look
  cases found : persistQuarantineAcknowledgement world.finalizedQuarantine commandId with
  | none => exact ⟨holds, fun _ => rfl⟩
  | some next =>
    refine calm.toSteady.await calm.toSteady (.writeQuarantine _) trivial trivial _ world holds ?_ ?_
    · intro reached since _
      exact closed next found _ _ (calm.closed _ _ holds since) (.discarded reached since)
    · intro reached last _ since _ after kept _
      apply Host.safe_modify
      exact ⟨closed next found _ _ kept (.forgotten reached last since after), fun same => by cases same⟩

end Others

end ReplicaClient

end TraxOs.PowerSync
