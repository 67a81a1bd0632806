import TraxOs.PowerSync.NothingLost
import TraxOs.PowerSync.ReplicaServer

/-!
# A reset counts once

However often a reset is retried in one process, and wherever its attempts stop, the server raises
the epoch of the replica once. The client counts the reset in memory and in the row of its session.
An attempt that finds the session staged, but the row still with the old one, counts in memory. When
it stops before the replica is cleared, the next attempt finds the same and counts again. Where no
attempt begins like that the reset is counted once.
-/

namespace TraxOs.PowerSync

open TraxOs.Theory

section Counting

variable {Rest : Type}

/-- A client whose posts a server answers. -/
abbrev ServedWorld (Rest : Type) := ClientWorld (Database × Rest)

/-- The epoch at which the server holds the replica of a session. -/
def heldEpoch (old : ReplicaSessionSecret) (world : ServedWorld Rest) : Option Nat :=
  epochOf world.outside.1 old.binding.replicaId

variable (old : ReplicaSessionSecret) (count : Nat)

/-- How far a reset has come that began with an old session and a count. -/
inductive Counting (world : ServedWorld Rest) : Prop where
  | before (absent : world.resetFile = none) (session : world.session = some old)
      (row : world.sessionRow = some ⟨old, count⟩) (counter : world.resetCount = count)
      (epoch : heldEpoch old world = some old.binding.replicaEpoch)
  | quarantined (state : ResetState) (stored : world.resetFile = some state.value)
      (phase : state.phase = .quarantined) (mine : state.oldSession = old)
      (session : world.session = some old) (row : world.sessionRow = some ⟨old, count⟩)
      (counter : world.resetCount = count)
      (epoch : heldEpoch old world = some old.binding.replicaEpoch ∨
        heldEpoch old world = some (old.binding.replicaEpoch + 1))
  | staged (state : ResetState) (newSession : ReplicaSessionSecret)
      (stored : world.resetFile = some state.value)
      (phase : state.phase = .sessionStaged newSession) (mine : state.oldSession = old)
      (raised : newSession.binding.replicaEpoch = old.binding.replicaEpoch + 1)
      (epoch : heldEpoch old world = some (old.binding.replicaEpoch + 1))
      (session : world.session = some old ∨
        (world.session = some newSession ∧ world.resetRequired = false))
      (row : world.sessionRow = some ⟨old, count⟩ ∨ world.sessionRow = some ⟨newSession, count + 1⟩)
  | cleared (state : ResetState) (newSession : ReplicaSessionSecret)
      (stored : world.resetFile = some state.value) (phase : state.phase = .cleared newSession)
      (raised : newSession.binding.replicaEpoch = old.binding.replicaEpoch + 1)
      (epoch : heldEpoch old world = some (old.binding.replicaEpoch + 1))
      (session : world.session = some newSession) (granted : world.resetRequired = false)
      (counter : world.resetCount = count + 1)
      (row : world.sessionRow = some ⟨old, count⟩ ∨ world.sessionRow = some ⟨newSession, count + 1⟩)
  | finished (newSession : ReplicaSessionSecret) (absent : world.resetFile = none)
      (raised : newSession.binding.replicaEpoch = old.binding.replicaEpoch + 1)
      (epoch : heldEpoch old world = some (old.binding.replicaEpoch + 1))
      (session : world.session = some newSession) (granted : world.resetRequired = false)
      (row : world.sessionRow = some ⟨newSession, count + 1⟩)

/-- What holds at every `await` while a reset is retried. -/
structure Retrying (world : ServedWorld Rest) : Prop where
  counting : Counting old count world
  sequenced : Sequenced world.outside.1
  quarantine : QuarantineFile world.quarantineFile

/-- A reset has been counted once. -/
structure CountedOnce (world : ServedWorld Rest) : Prop where
  epoch : heldEpoch old world = some (old.binding.replicaEpoch + 1)
  row : ∃ newSession, world.sessionRow = some ⟨newSession, count + 1⟩

variable {old count} {world next : ServedWorld Rest}

/-- A new session is not the old one. -/
theorem raised_ne {newSession : ReplicaSessionSecret}
    (raised : newSession.binding.replicaEpoch = old.binding.replicaEpoch + 1) : newSession ≠ old := by
  rintro rfl
  omega

/-- The reset state in the file is the client's own. -/
theorem Counting.resetFile (counting : Counting old count world) : ResetFile world.resetFile := by
  cases counting with
  | before absent => exact .inl absent
  | quarantined state stored => exact .inr ⟨state, stored⟩
  | staged state newSession stored => exact .inr ⟨state, stored⟩
  | cleared state newSession stored => exact .inr ⟨state, stored⟩
  | finished newSession absent => exact .inl absent

/-- A stored state is the one that was written. -/
theorem stored_unique {file : Option ApiClient.Value} {one two : ResetState}
    (first : file = some one.value) (second : file = some two.value) : one = two :=
  ResetState.value_injective _ _ (Option.some.inj (first.symm.trans second))

/-- What is known while the stored state is `quarantined`. -/
theorem Counting.inQuarantined (counting : Counting old count world) (state : ResetState)
    (stored : world.resetFile = some state.value) (phase : state.phase = .quarantined) :
    state.oldSession = old ∧ world.session = some old ∧ world.sessionRow = some ⟨old, count⟩ ∧
      world.resetCount = count := by
  cases counting with
  | before absent => rw [absent] at stored; cases stored
  | quarantined other storedOther _ mine session row counter _ =>
    obtain rfl := stored_unique stored storedOther
    exact ⟨mine, session, row, counter⟩
  | staged other _ storedOther phaseOther =>
    obtain rfl := stored_unique stored storedOther
    cases phase.symm.trans phaseOther
  | cleared other _ storedOther phaseOther =>
    obtain rfl := stored_unique stored storedOther
    cases phase.symm.trans phaseOther
  | finished _ absent => rw [absent] at stored; cases stored

/-- What is known while the stored state is `session_staged`. -/
theorem Counting.inStaged (counting : Counting old count world) (state : ResetState)
    (newSession : ReplicaSessionSecret) (stored : world.resetFile = some state.value)
    (phase : state.phase = .sessionStaged newSession) :
    state.oldSession = old ∧ newSession.binding.replicaEpoch = old.binding.replicaEpoch + 1 ∧
      heldEpoch old world = some (old.binding.replicaEpoch + 1) ∧
      (world.session = some old ∨ (world.session = some newSession ∧ world.resetRequired = false)) ∧
      (world.sessionRow = some ⟨old, count⟩ ∨ world.sessionRow = some ⟨newSession, count + 1⟩) := by
  cases counting with
  | before absent => rw [absent] at stored; cases stored
  | quarantined other storedOther phaseOther =>
    obtain rfl := stored_unique stored storedOther
    cases phase.symm.trans phaseOther
  | staged other otherSession storedOther phaseOther mine raised epoch session row =>
    obtain rfl := stored_unique stored storedOther
    obtain rfl := ResetPhase.sessionStaged.inj (phase.symm.trans phaseOther)
    exact ⟨mine, raised, epoch, session, row⟩
  | cleared other _ storedOther phaseOther =>
    obtain rfl := stored_unique stored storedOther
    cases phase.symm.trans phaseOther
  | finished _ absent => rw [absent] at stored; cases stored

/-- What is known while the stored state is `cleared`. -/
theorem Counting.inCleared (counting : Counting old count world) (state : ResetState)
    (newSession : ReplicaSessionSecret) (stored : world.resetFile = some state.value)
    (phase : state.phase = .cleared newSession) :
    newSession.binding.replicaEpoch = old.binding.replicaEpoch + 1 ∧
      heldEpoch old world = some (old.binding.replicaEpoch + 1) ∧
      world.session = some newSession ∧ world.resetRequired = false ∧ world.resetCount = count + 1 ∧
      (world.sessionRow = some ⟨old, count⟩ ∨ world.sessionRow = some ⟨newSession, count + 1⟩) := by
  cases counting with
  | before absent => rw [absent] at stored; cases stored
  | quarantined other storedOther phaseOther =>
    obtain rfl := stored_unique stored storedOther
    cases phase.symm.trans phaseOther
  | staged other _ storedOther phaseOther =>
    obtain rfl := stored_unique stored storedOther
    cases phase.symm.trans phaseOther
  | cleared other otherSession storedOther phaseOther raised epoch session granted counter row =>
    obtain rfl := stored_unique stored storedOther
    obtain rfl := ResetPhase.cleared.inj (phase.symm.trans phaseOther)
    exact ⟨raised, epoch, session, granted, counter, row⟩
  | finished _ absent => rw [absent] at stored; cases stored

/-- What is known without a stored state, while the server still asks for the reset. -/
theorem Counting.unstored (counting : Counting old count world) (absent : world.resetFile = none) :
    (world.session = some old ∧ world.sessionRow = some ⟨old, count⟩ ∧ world.resetCount = count ∧
      heldEpoch old world = some old.binding.replicaEpoch) ∨
      (world.session ≠ some old ∧ world.resetRequired = false) := by
  cases counting with
  | before _ session row counter epoch => exact .inl ⟨session, row, counter, epoch⟩
  | quarantined _ stored => rw [absent] at stored; cases stored
  | staged _ _ stored => rw [absent] at stored; cases stored
  | cleared _ _ stored => rw [absent] at stored; cases stored
  | finished newSession _ raised _ session granted =>
    refine .inr ⟨?_, granted⟩
    rw [session]
    exact fun same => raised_ne raised (Option.some.inj same)

/-- The quarantine and what the memory has of it do not count. -/
theorem Counting.quarantine (counting : Counting old count world) (file : Option ApiClient.Value)
    (memory : List QuarantinedCommand) :
    Counting old count { world with quarantineFile := file, finalizedQuarantine := memory } := by
  cases counting with
  | before absent session row counter epoch => exact .before absent session row counter epoch
  | quarantined state stored phase mine session row counter epoch =>
    exact .quarantined state stored phase mine session row counter epoch
  | staged state newSession stored phase mine raised epoch session row =>
    exact .staged state newSession stored phase mine raised epoch session row
  | cleared state newSession stored phase raised epoch session granted counter row =>
    exact .cleared state newSession stored phase raised epoch session granted counter row
  | finished newSession absent raised epoch session granted row =>
    exact .finished newSession absent raised epoch session granted row

/-- What goes on meanwhile: the epoch is raised at most once, while a reset state is stored, and the
client that has its new session is not asked for another reset. -/
structure Onward (old : ReplicaSessionSecret) (before after : ServedWorld Rest) : Prop
    extends Untouched before after where
  sequenced : Sequenced before.outside.1 → Sequenced after.outside.1
  waiting : heldEpoch old before = some old.binding.replicaEpoch →
    heldEpoch old after = some old.binding.replicaEpoch ∨
      (heldEpoch old after = some (old.binding.replicaEpoch + 1) ∧ before.resetFile.isSome = true)
  raised : heldEpoch old before = some (old.binding.replicaEpoch + 1) →
    heldEpoch old after = some (old.binding.replicaEpoch + 1)
  granted : before.session ≠ some old → before.resetRequired = false → after.resetRequired = false

theorem Onward.of_same (untouched : Untouched world next) (outside : next.outside = world.outside)
    (granted : world.resetRequired = false → next.resetRequired = false) : Onward old world next where
  toUntouched := untouched
  sequenced holds := outside ▸ holds
  waiting held := .inl (by unfold heldEpoch; rw [outside]; exact held)
  raised held := by unfold heldEpoch; rw [outside]; exact held
  granted _ := granted

theorem Onward.refl (world : ServedWorld Rest) : Onward old world world := .of_same (.refl world) rfl id

theorem Onward.trans {first second third : ServedWorld Rest} (one : Onward old first second)
    (two : Onward old second third) : Onward old first third where
  toUntouched := one.toUntouched.trans two.toUntouched
  sequenced holds := two.sequenced (one.sequenced holds)
  waiting held := by
    rcases one.waiting held with same | ⟨moved, stored⟩
    · exact (two.waiting same).imp_right fun moved => ⟨moved.1, one.reset ▸ moved.2⟩
    · exact .inr ⟨two.raised moved, stored⟩
  raised held := two.raised (one.raised held)
  granted session required :=
    two.granted (by rw [one.session]; exact session) (one.granted session required)

/-- What goes on meanwhile leaves how far the reset has come. -/
theorem Counting.onward (counting : Counting old count world) (on : Onward old world next) :
    Counting old count next := by
  cases counting with
  | before absent session row counter epoch =>
    refine .before (on.reset.trans absent) (on.session.trans session) (on.row.trans row)
      (on.count.trans counter) ((on.waiting epoch).resolve_right ?_)
    rintro ⟨-, stored⟩
    rw [absent] at stored
    cases stored
  | quarantined state stored phase mine session row counter epoch =>
    refine .quarantined state (on.reset.trans stored) phase mine (on.session.trans session)
      (on.row.trans row) (on.count.trans counter) ?_
    rcases epoch with waiting | raised
    · exact (on.waiting waiting).imp_right And.left
    · exact .inr (on.raised raised)
  | staged state newSession stored phase mine raised epoch session row =>
    refine .staged state newSession (on.reset.trans stored) phase mine raised (on.raised epoch) ?_ ?_
    · rw [on.session]
      refine session.imp_right fun ⟨adopted, required⟩ => ⟨adopted, on.granted ?_ required⟩
      rw [adopted]
      exact fun same => raised_ne raised (Option.some.inj same)
    · rw [on.row]
      exact row
  | cleared state newSession stored phase raised epoch session granted counter row =>
    refine .cleared state newSession (on.reset.trans stored) phase raised (on.raised epoch)
      (on.session.trans session) (on.granted ?_ granted) (on.count.trans counter) ?_
    · rw [session]
      exact fun same => raised_ne raised (Option.some.inj same)
    · rw [on.row]
      exact row
  | finished newSession absent raised epoch session granted row =>
    refine .finished newSession (on.reset.trans absent) raised (on.raised epoch)
      (on.session.trans session) (on.granted ?_ granted) (on.row.trans row)
    rw [session]
    exact fun same => raised_ne raised (Option.some.inj same)

theorem Retrying.onward (retrying : Retrying old count world) (on : Onward old world next) :
    Retrying old count next :=
  ⟨retrying.counting.onward on, on.sequenced retrying.sequenced, on.quarantine ▸ retrying.quarantine⟩

/-- What the background may do: the server asks for a reset while the client has its old session,
and a commit resets the replica at its epoch only as a late copy of the client's own reset. -/
def Fair (platform : Platform) (old : ReplicaSessionSecret) (world : ServedWorld Rest) :
    Background (Database × Rest) → Prop
  | .requireReset => world.session = some old
  | .outside next => ∃ request reply, Committed platform request reply world.outside.1 next.1 ∧
      ∀ call : ResetCall, request = call.request →
        call.binding.replicaId = old.binding.replicaId →
        heldEpoch old world = some call.binding.replicaEpoch →
        world.resetFile.isSome = true ∧ call.binding = old.binding
  | _ => True

/-- A commit that is fair is onward. -/
theorem onward_commit {platform : Platform} (request : Request) (reply : Reply) (outside : Database × Rest)
    (committed : Committed platform request reply world.outside.1 outside.1)
    (fair : ∀ call : ResetCall, request = call.request →
      call.binding.replicaId = old.binding.replicaId →
      heldEpoch old world = some call.binding.replicaEpoch →
      world.resetFile.isSome = true ∧ call.binding = old.binding) :
    Onward old world { world with outside := outside } where
  toUntouched := ⟨rfl, rfl, rfl, rfl, rfl, rfl⟩
  sequenced holds := commit_keeps_sequences platform request reply _ _ holds committed
  waiting held := by
    refine (commit_epoch _ _ request reply _ _ committed held).imp_right ?_
    rintro ⟨moved, call, asked, here, presented⟩
    exact ⟨moved, (fair call asked here (presented ▸ held)).1⟩
  raised held := by
    refine (commit_epoch _ _ request reply _ _ committed held).resolve_right ?_
    rintro ⟨_, call, asked, here, presented⟩
    have same := (fair call asked here (presented ▸ held)).2
    rw [same] at presented
    omega
  granted _ required := required

/-- A fair step is onward. -/
theorem Onward.step (platform : Platform) (surroundings : ClientSurroundings (Database × Rest))
    (step : Background (Database × Rest)) (fair : Fair platform old world step) :
    Onward old world ((clientHost surroundings).step step world) := by
  have untouched := Untouched.step surroundings world step
  cases step with
  | persistResults results => exact .of_same untouched rfl id
  | complete => exact .of_same untouched rfl id
  | markResultsSdkCompleted commandIds => exact .of_same untouched rfl id
  | recordTransientFailure commandId => exact .of_same untouched rfl id
  | requireReset =>
    refine ⟨untouched, id, Or.inl, id, fun session _ => absurd fair session⟩
  | outside outside =>
    obtain ⟨request, reply, committed, apart⟩ := fair
    exact onward_commit request reply outside committed apart

/-- An attempt does not begin here with a staged session that is not in the row yet and a counter that
has gone on from the row already. -/
def BeginsOnce (world : ServedWorld Rest) : Prop :=
  ∀ (state : ResetState) (newSession : ReplicaSessionSecret) (row : SessionRow),
    world.resetFile = some state.value → state.phase = .sessionStaged newSession →
      world.sessionRow = some row → row.session = state.oldSession → world.resetCount = row.resetCount

theorem BeginsOnce.of_absent (absent : world.resetFile = none) : BeginsOnce world := by
  intro state newSession row stored
  rw [absent] at stored
  cases stored

theorem BeginsOnce.of_row (state : ResetState)
    (read : (world.resetFile.bind fun stored => (parseResetState stored).toOption) = some state)
    (renewed : ∀ row, world.sessionRow = some row → row.session ≠ state.oldSession) :
    BeginsOnce world := by
  intro other newSession row stored _ held stale
  rw [stored, Option.bind_some] at read
  cases parsed : parseResetState other.value with
  | error failure =>
    rw [parsed] at read
    cases read
  | ok written =>
    rw [parsed] at read
    obtain rfl := Option.some.inj read
    obtain rfl := parseResetState_written _ _ parsed
    exact absurd stale (renewed row held)

/-- The calls that count a reset once. -/
def countedCalls (platform : Platform) (old : ReplicaSessionSecret) :
    CourseRule (ServedWorld Rest) (Background (Database × Rest)) ClientRequest ClientOperation where
  step _ world step := Fair platform old world step
  effect _ _ := True
  idle := Fair platform old
  call
    | .performReplicaReset _, world => BeginsOnce world
    | _, _ => True

section Changes

variable {endpoint : Endpoint Rest} {surroundings : ClientSurroundings (Database × Rest)}

/-- A post of the client is onward. -/
theorem onward_post (message : ReplicaPost) (retrying : Retrying old count world)
    (posts : Posts world message) :
    Onward old world ((clientHost (endpoint.surrounding surroundings)).effect (.post message) world).2 := by
  change Onward old world { world with outside := (endpoint.post message world.outside).2 }
  rcases endpoint.post_commits message world.outside retrying.sequenced with
    ⟨failure, posted⟩ | ⟨reply, after, posted, committed⟩
  · rw [posted]
    exact .refl world
  · rw [posted]
    refine onward_commit _ reply (after, world.outside.2) committed ?_
    intro call asked here presented
    obtain ⟨session, resetRequestId, fault, rfl, same⟩ := endpoint.request_reset _ message call asked
    obtain ⟨state, stored, phase, rfl, -⟩ := posts
    obtain ⟨mine, -⟩ := retrying.counting.inQuarantined state stored phase
    exact ⟨by rw [stored]; rfl, same.trans (congrArg _ mine)⟩

/-- The background is calm for a reset that is retried. -/
theorem retrying_calm (stages : Stage ClientRequest → Prop) :
    Calm (endpoint.surrounding surroundings) (countedCalls endpoint.platform old).toRule stages
      (Onward old) (Retrying old count) where
  refl := Onward.refl
  trans _ _ _ := Onward.trans
  steps _ _ _ step fair := Onward.step endpoint.platform _ step fair
  closed _ _ := Retrying.onward
  untouched _ _ on := on.toUntouched
  posted message _ retrying _ posts := onward_post message retrying posts
  closing _ _ := .of_same ⟨rfl, rfl, rfl, rfl, rfl, rfl⟩ rfl id
  granting _ := .of_same ⟨rfl, rfl, rfl, rfl, rfl, rfl⟩ rfl fun _ => rfl
  emptying _ := .of_same ⟨rfl, rfl, rfl, rfl, rfl, rfl⟩ rfl id

theorem retrying_upholds : Upholds (endpoint.surrounding surroundings)
    (countedCalls endpoint.platform old).toRule (Onward old) (Onward old) (Retrying old count) where
  calm := retrying_calm _
  quiet := retrying_calm _
  reset _ retrying := retrying.counting.resetFile
  quarantine _ retrying := retrying.quarantine

/-- The server answers a reset with the epoch that it holds from then on. -/
theorem answered_raised {state : ResetState} {newSession : ReplicaSessionSecret}
    {before : ServedWorld Rest}
    (answered : Answered (endpoint.surrounding surroundings)
      (countedCalls endpoint.platform old).toRule (Onward old) (Retrying old count) state newSession
        before world) :
    newSession.binding.replicaEpoch = old.binding.replicaEpoch + 1 ∧
      heldEpoch old world = some (old.binding.replicaEpoch + 1) := by
  obtain ⟨mine, -⟩ := answered.kept.counting.inQuarantined state answered.stored answered.phase
  obtain ⟨reset, ⟨-, fault, reached, here, kept, -, answer, there⟩, rotated⟩ := answered.replied
  obtain ⟨raised, held⟩ := reset_answered endpoint state.oldSession newSession state.resetRequestId
    fault reached.outside kept.sequenced reset answer rotated
  rw [mine] at raised held
  refine ⟨raised, there.raised ?_⟩
  rw [← mine] at held ⊢
  exact held

/-- An adopted session has been counted once. -/
theorem Retrying.adopt {start : ServedWorld Rest} (retrying : Retrying old count world)
    (once : BeginsOnce start)
    (state : ResetState) (newSession : ReplicaSessionSecret)
    (stored : world.resetFile = some state.value) (phase : state.phase = .sessionStaged newSession)
    (adopts : Adopts start newSession world) :
    Retrying old count (ReplicaClient.adoptSession newSession world) ∧
      (ReplicaClient.adoptSession newSession world).resetCount = count + 1 := by
  obtain ⟨mine, raised, epoch, session, row⟩ := retrying.counting.inStaged state newSession stored phase
  have kept : Retrying old count (ReplicaClient.adoptSession newSession world) :=
    ⟨.staged state newSession stored phase mine raised epoch (.inr ⟨rfl, rfl⟩) row, retrying.sequenced,
      retrying.quarantine⟩
  refine ⟨kept, ?_⟩
  rcases row with stale | fresh
  · have differ : ¬ (old.binding.replicaId = newSession.binding.replicaId ∧
        old.binding.replicaEpoch = newSession.binding.replicaEpoch) := by
      rintro ⟨-, same⟩
      omega
    have counter : world.resetCount = count := by
      rcases adopts with ⟨other, adopted⟩ | since
      · rw [stale] at adopted
        exact absurd (SessionRow.mk.inj (Option.some.inj adopted)).1.symm (raised_ne raised)
      · rw [since.count]
        exact once state newSession ⟨old, count⟩ (since.reset.symm.trans stored) phase
          (since.row.symm.trans stale) mine.symm
    simp only [ReplicaClient.adoptSession, stale, if_neg differ, counter]
  · simp only [ReplicaClient.adoptSession, fresh, and_self, if_true]

/-- Each change of an attempt counts the reset once. -/
theorem retrying_changes (start world next : ServedWorld Rest) (once : BeginsOnce start)
    (retrying : Retrying old count world)
    (change : Change (endpoint.surrounding surroundings) (countedCalls endpoint.platform old).toRule
      (Onward old) (Onward old) (Retrying old count) start world next) : Retrying old count next := by
  have ⟨counting, sequenced, quarantine⟩ := retrying
  cases change with
  | quarantined first second _ snapshot store taken later quarantines =>
    exact ⟨counting.quarantine _ world.finalizedQuarantine, sequenced, .inr ⟨store, rfl⟩⟩
  | begun first second written _ snapshot store state taken later quarantines after phase session =>
    refine ⟨?_, sequenced, quarantine⟩
    obtain ⟨asking, kept, required, on⟩ := taken.required
    have asked : asking.session = some old := by
      rcases kept.counting.unstored (on.reset.symm.trans taken.idle) with ⟨mine, -⟩ | ⟨-, granted⟩
      · exact mine
      · rw [required] at granted
        cases granted
    have mine : world.session = some old := after.session.trans (later.session.trans
      (taken.later.session.trans (on.session.trans asked)))
    have absent : world.resetFile = none :=
      after.reset.trans (later.reset.trans (taken.later.reset.trans taken.idle))
    rcases counting.unstored absent with ⟨_, row, counter, epoch⟩ | ⟨other, _⟩
    · exact .quarantined state rfl phase (Option.some.inj (session.symm.trans mine)) mine row counter
        (.inl epoch)
    · exact absurd mine other
  | staged before _ state newSession answered =>
    refine ⟨?_, sequenced, quarantine⟩
    obtain ⟨mine, session, row, counter⟩ :=
      answered.kept.counting.inQuarantined state answered.stored answered.phase
    obtain ⟨raised, epoch⟩ := answered_raised answered
    exact .staged _ newSession rfl rfl mine raised epoch (.inl (answered.since.session.trans session))
      (.inl (answered.since.row.trans row))
  | counted before written _ state newSession answered after =>
    refine ⟨?_, sequenced, quarantine⟩
    obtain ⟨mine, session, row, counter⟩ :=
      answered.kept.counting.inQuarantined state answered.stored answered.phase
    obtain ⟨raised, epoch⟩ := answered_raised answered
    have same : world.resetCount = count := after.count.trans (answered.since.count.trans counter)
    exact .staged _ newSession after.reset rfl mine raised (after.raised epoch)
      (.inl (after.session.trans (answered.since.session.trans session)))
      (.inr (by rw [same]))
  | adopted _ state newSession stored phase adopts =>
    exact (retrying.adopt once state newSession stored phase adopts).1
  | cleared _ state newSession stored phase =>
    exact retrying.onward (.of_same ⟨rfl, rfl, rfl, rfl, rfl, rfl⟩ rfl id)
  | clearedState adopting emptied clearing _ state newSession kept stored phase adopts adopted clears
      after =>
    refine ⟨?_, sequenced, quarantine⟩
    obtain ⟨still, counter⟩ := kept.adopt once state newSession stored phase adopts
    obtain ⟨-, raised, epoch, -, row⟩ := still.counting.inStaged state newSession stored phase
    have queue : Onward old emptied { emptied with queue := [] } :=
      .of_same ⟨rfl, rfl, rfl, rfl, rfl, rfl⟩ rfl id
    have tables : Onward old clearing { clearing with tables := clearOverlays clearing.tables } :=
      .of_same ⟨rfl, rfl, rfl, rfl, rfl, rfl⟩ rfl id
    have on := adopted.trans (queue.trans (clears.trans (tables.trans after)))
    have fresh : (ReplicaClient.adoptSession newSession adopting).session ≠ some old :=
      fun same => raised_ne raised (Option.some.inj same)
    exact .cleared _ newSession rfl rfl raised (on.raised epoch) on.session (on.granted fresh rfl)
      (on.count.trans counter) (by rw [on.row]; exact row)
  | entered _ state newSession stored phase =>
    refine ⟨?_, sequenced, quarantine⟩
    obtain ⟨raised, epoch, session, granted, counter, row⟩ :=
      counting.inCleared state newSession stored phase
    exact .cleared state newSession stored phase raised epoch rfl granted counter row
  | recorded _ state newSession stored phase =>
    refine ⟨?_, sequenced, quarantine⟩
    obtain ⟨raised, epoch, session, granted, counter, row⟩ :=
      counting.inCleared state newSession stored phase
    exact .cleared state newSession stored phase raised epoch session granted counter
      (.inr (by rw [counter]))
  | finalized _ state newSession stored phase merged same =>
    exact ⟨counting.quarantine _ world.finalizedQuarantine, sequenced, .inr ⟨⟨merged, []⟩, rfl⟩⟩
  | remembered _ state merged stored file =>
    exact ⟨counting.quarantine world.quarantineFile merged, sequenced, quarantine⟩
  | unlinked _ state newSession merged entered file memory =>
    refine ⟨?_, sequenced, quarantine⟩
    obtain ⟨raised, epoch, session, granted, counter, row⟩ :=
      counting.inCleared state newSession entered.stored entered.phase
    exact .finished newSession rfl raised epoch session granted (entered.row.trans (by rw [counter]))

/-- An attempt that succeeds leaves a reset that is counted once. -/
theorem Retrying.finished (retrying : Retrying old count world)
    (finished : ReplicaClient.Finished (Retrying old count) world) : CountedOnce old count world := by
  obtain ⟨newSession, session, row, earlier, state, kept, stored, phase⟩ := finished
  obtain ⟨raised, -⟩ := kept.counting.inCleared state newSession stored phase
  have fresh : ∀ other, world.sessionRow = some ⟨old, other⟩ → False := by
    intro other stale
    rw [row] at stale
    exact raised_ne raised (SessionRow.mk.inj (Option.some.inj stale)).1
  cases retrying.counting with
  | before _ _ stale => exact (fresh _ stale).elim
  | quarantined _ _ _ _ _ stale => exact (fresh _ stale).elim
  | staged _ other _ _ _ _ epoch _ rows => exact ⟨epoch, other, rows.resolve_left fun stale => fresh _ stale⟩
  | cleared _ other _ _ _ epoch _ _ _ rows =>
    exact ⟨epoch, other, rows.resolve_left fun stale => fresh _ stale⟩
  | finished other _ _ epoch _ _ fresh => exact ⟨epoch, other, fresh⟩

/-- What goes on afterwards leaves it counted once. -/
theorem CountedOnce.onward (counted : CountedOnce old count world) (on : Onward old world next) :
    CountedOnce old count next := by
  obtain ⟨epoch, newSession, row⟩ := counted
  exact ⟨on.raised epoch, newSession, on.row.trans row⟩

/-- Each call keeps what holds while a reset is retried, and one that succeeds has counted it. -/
theorem body_counts (operation : ClientOperation) (retrying : Retrying old count world)
    (called : (countedCalls endpoint.platform old).call operation world) :
    (clientHost (endpoint.surrounding surroundings)).Safe (countedCalls endpoint.platform old).toRule
      (Retrying old count)
      (fun outcome reached => Retrying old count reached ∧ ∀ fault value,
        operation = .performReplicaReset fault → outcome = .ok value → CountedOnce old count reached)
      (operation.body (endpoint.surrounding surroundings)) world := by
  have calm : Calm (endpoint.surrounding surroundings) (countedCalls endpoint.platform old).toRule
      (fun _ => True) (Onward old) (Retrying old count) := retrying_calm _
  have tables : ∀ (before : ServedWorld Rest) (changed : ApplicationTables),
      Onward old before { before with tables := changed } :=
    fun before changed => .of_same ⟨rfl, rfl, rfl, rfl, rfl, rfl⟩ rfl id
  cases operation with
  | queueCommands commands correlationId =>
    apply Host.safe_bind
    refine Host.safe_mono _ world (fun _ still => still) ?_
      (ReplicaClient.queueCommands_keeps calm retrying commands correlationId ?_)
    · intro outcome reached ended
      cases outcome with
      | ok _ => exact ⟨ended.1, fun _ _ other => by cases other⟩
      | error _ => exact ⟨ended, fun _ _ other => by cases other⟩
    · intro before next still change
      cases change with
      | admitted => exact still.onward (tables _ _)
      | written => exact still.onward (.of_same ⟨rfl, rfl, rfl, rfl, rfl, rfl⟩ rfl id)
      | withdrawn => exact still.onward (tables _ _)
  | acknowledgeCommandResult commandId =>
    exact ⟨retrying.onward (tables _ _), fun _ _ other => by cases other⟩
  | acknowledgeOrDiscardQuarantinedCommand commandId =>
    apply Host.safe_bind
    refine Host.safe_mono _ world (fun _ still => still) ?_
      (ReplicaClient.acknowledgeQuarantined_keeps calm retrying commandId ?_)
    · intro outcome reached ended
      cases outcome with
      | ok _ => exact ⟨ended.1, fun _ _ other => by cases other⟩
      | error _ => exact ⟨ended, fun _ _ other => by cases other⟩
    · intro remaining _ before next still change
      cases change with
      | discarded =>
        exact ⟨still.counting.quarantine _ before.finalizedQuarantine, still.sequenced,
          .inr ⟨⟨remaining, []⟩, rfl⟩⟩
      | forgotten =>
        exact ⟨still.counting.quarantine before.quarantineFile remaining, still.sequenced,
          still.quarantine⟩
  | performReplicaReset fault =>
    apply Host.safe_bind
    refine Host.safe_mono _ world (fun _ still => still) ?_
      (ReplicaClient.performReplicaReset_keeps retrying_upholds
        (fun before next still change => retrying_changes world before next called still change) retrying
        fault)
    intro outcome reached ended
    cases outcome with
    | ok _ => exact ⟨ended.1, fun _ _ _ _ => ended.1.finished ended.2⟩
    | error _ => exact ⟨ended, fun _ _ _ other => by cases other⟩

end Changes

/-- A client that the server asks for a reset, or will ask, with the count of its resets. -/
structure BeforeReset (old : ReplicaSessionSecret) (count : Nat) (world : ServedWorld Rest) : Prop where
  unfinished : world.resetFile = none
  session : world.session = some old
  row : world.sessionRow = some ⟨old, count⟩
  counter : world.resetCount = count
  epoch : heldEpoch old world = some old.binding.replicaEpoch
  sequenced : Sequenced world.outside.1
  quarantine : QuarantineFile world.quarantineFile

/-- When the last call was an attempt that succeeded, the server has raised the epoch by one and the
row of the session has one more reset. -/
def CountsOnce (old : ReplicaSessionSecret) (count : Nat) (course : ClientCourse (Database × Rest)) :
    Prop :=
  course.waiting = none → ∀ fault value,
    course.history.getLast? = some (.performReplicaReset fault, .ok value) →
      CountedOnce old count course.world

/-- However often a reset is retried, and wherever its attempts stop, it is counted once, unless an
attempt begins after another one has counted it in memory only. -/
theorem reset_counted_once (endpoint : Endpoint Rest)
    (surroundings : ClientSurroundings (Database × Rest)) (old : ReplicaSessionSecret) (count : Nat)
    (world : ServedWorld Rest) (before : BeforeReset old count world)
    (happenings : List (ClientHappening (Database × Rest)))
    (lawful : Course.Lawful (clientHost (endpoint.surrounding surroundings))
      (ClientOperation.body (endpoint.surrounding surroundings)) (countedCalls endpoint.platform old)
      (.initial world) happenings) :
    CountsOnce old count ((Course.initial world).after
      (clientHost (endpoint.surrounding surroundings))
      (ClientOperation.body (endpoint.surrounding surroundings)) happenings) := by
  have retrying : Retrying old count world :=
    ⟨.before before.unfinished before.session before.row before.counter before.epoch, before.sequenced,
      before.quarantine⟩
  let between (history : List EndedCall) (reached : ServedWorld Rest) : Prop :=
    Retrying old count reached ∧ ∀ fault value,
      history.getLast? = some (.performReplicaReset fault, .ok value) → CountedOnce old count reached
  have idle : ∀ history reached step, between history reached →
      (countedCalls endpoint.platform old).idle reached step →
        between history ((clientHost (endpoint.surrounding surroundings)).step step reached) := by
    intro history reached step holds fair
    have on := Onward.step endpoint.platform (endpoint.surrounding surroundings) step fair
    exact ⟨holds.1.onward on, fun fault value last => (holds.2 fault value last).onward on⟩
  have calls : ∀ history operation reached, between history reached →
      (countedCalls endpoint.platform old).call operation reached →
        (clientHost (endpoint.surrounding surroundings)).Safe (countedCalls endpoint.platform old).toRule
          (Retrying old count) (fun outcome last => between (history ++ [(operation, outcome)]) last)
          (operation.body (endpoint.surrounding surroundings)) reached := by
    intro history operation reached holds called
    refine Host.safe_mono _ reached (fun _ still => still) ?_ (body_counts operation holds.1 called)
    rintro outcome last ⟨still, counted⟩
    refine ⟨still, ?_⟩
    intro fault value same
    rw [List.getLast?_concat, Option.some.injEq, Prod.mk.injEq] at same
    exact counted fault value same.1 same.2
  have first : Course.Holds between (fun _ _ => Retrying old count) (Course.initial world) :=
    ⟨retrying, fun _ _ last => by cases last⟩
  have holds := Course.holds_after idle calls (.initial world) happenings first lawful
  intro waiting
  rw [Course.Holds, waiting] at holds
  exact holds.2

end Counting

deriving instance DecidableEq for ClientOperation

namespace Sample

/-- A server that rotates to one credential. -/
def replicaServer : Endpoint Unit where
  platform := { platform with hmac := fun _ => freshSession.credential.drop 3 }
  userId := userId
  challengeId _ := noteId
  isoDate _ := []

/-- Its database with the replica of the stale session. -/
def registered : Database :=
  (serve (commandServer replicaServer.platform)
    (.register userId replicaId staleSession.credential) database).2

/-- What is around its client, but for the server. -/
def elsewhere : ClientSurroundings (Database × Unit) where
  post _ outside := (.error (.platform (ascii "ENOTFOUND")), outside)
  incarnations _ _ := []
  resources _ resourceId _ := [resourceId]
  randomUUID _ := resetRequestId
  transactionId _ := none
  convert _ := none
  collation _ _ := true
  localeCompare _ _ := true
  stringify _ := []

/-- The client that the server asks for a reset. -/
def askedClient : ServedWorld Unit where
  tables := .empty
  sessionRow := some ⟨staleSession, 0⟩
  quarantineFile := none
  resetFile := none
  queue := []
  session := some staleSession
  resetCount := 0
  finalizedQuarantine := []
  resetRequired := true
  databaseClosed := false
  outside := (registered, ())

/-- An attempt that rejects after some awaits, and one that goes through. -/
def attempt (awaits : Nat) : ClientHappening (Database × Unit) :=
  .call (.performReplicaReset false)
    (List.replicate awaits (.resolves [] []) ++ [.rejects [] (.platform (ascii "EIO"))])

def lastAttempt : ClientHappening (Database × Unit) :=
  .call (.performReplicaReset false) (List.replicate 40 (.resolves [] []))

/-- What the attempts make of the client. -/
def clientRetrying (attempts : List (ClientHappening (Database × Unit))) :
    ClientCourse (Database × Unit) :=
  (Course.initial askedClient).after (clientHost (replicaServer.surrounding elsewhere))
    (ClientOperation.body (replicaServer.surrounding elsewhere)) attempts

/-- What the file holds once the new session is staged. -/
def stagedState : ResetState where
  resetRequestId := resetRequestId
  oldSession := staleSession
  phase := .sessionStaged freshSession

theorem askedClient_before : BeforeReset staleSession 0 askedClient where
  unfinished := rfl
  session := rfl
  row := rfl
  counter := rfl
  epoch := by decide +kernel
  sequenced := sequenced_serve database_sequenced _
  quarantine := .inl rfl

end Sample

/-- A retry counts the reset once when the first attempt stops after the row has the new session. -/
theorem reset_counted_once_retried : CountsOnce Sample.staleSession 0
    (Sample.clientRetrying [Sample.attempt 11, Sample.attempt 3, Sample.lastAttempt]) := by
  have once (course : ClientCourse (Database × Unit))
      (stored : (course.world.resetFile.bind fun stored => (parseResetState stored).toOption) =
        some Sample.stagedState)
      (row : course.world.sessionRow = some ⟨Sample.freshSession, 1⟩) : BeginsOnce course.world :=
    .of_row _ stored fun other same => by
      obtain rfl := Option.some.inj (row.symm.trans same)
      decide +kernel
  have lawful : Course.Lawful (clientHost (Sample.replicaServer.surrounding Sample.elsewhere))
      (ClientOperation.body (Sample.replicaServer.surrounding Sample.elsewhere))
      (countedCalls Sample.replicaServer.platform Sample.staleSession) (.initial Sample.askedClient) [] :=
    trivial
  have first := Course.lawful_snoc _ _ (Sample.attempt 11) lawful
    (Course.admits_alone (fun _ _ => trivial) _ _ _ (.of_absent rfl) rfl)
  have second := Course.lawful_snoc _ _ (Sample.attempt 3) first
    (Course.admits_alone (fun _ _ => trivial) _ _ _
      (once (Sample.clientRetrying [Sample.attempt 11]) (by decide +kernel) (by decide +kernel)) rfl)
  have third := Course.lawful_snoc _ _ Sample.lastAttempt second
    (Course.admits_alone (fun _ _ => trivial) _ _ _
      (once (Sample.clientRetrying [Sample.attempt 11, Sample.attempt 3]) (by decide +kernel)
        (by decide +kernel)) rfl)
  exact reset_counted_once Sample.replicaServer Sample.elsewhere Sample.staleSession 0
    Sample.askedClient Sample.askedClient_before _ third

/-- An attempt that stops between the reset state and the row counts in memory only, and so does the
next one when it stops before the replica is cleared. The last one then counts a second time. -/
theorem reset_counted_twice : BeforeReset Sample.staleSession 0 Sample.askedClient ∧
    ¬ CountsOnce Sample.staleSession 0
      (Sample.clientRetrying [Sample.attempt 10, Sample.attempt 3, Sample.lastAttempt]) := by
  refine ⟨Sample.askedClient_before, fun counts => ?_⟩
  obtain ⟨-, newSession, row⟩ := counts (by decide +kernel) false none (by decide +kernel)
  have twice : (Sample.clientRetrying [Sample.attempt 10, Sample.attempt 3, Sample.lastAttempt]).world.sessionRow.map
      SessionRow.resetCount = some 2 := by decide +kernel
  rw [row] at twice
  cases twice

end TraxOs.PowerSync
