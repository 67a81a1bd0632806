import Mathlib.Data.List.Range
import TraxOs.Theory.Promises

/-!
# The gate of the local mutations

`AsyncSerialGate` of the client harness. Each call waits for the promise that the call
before it made, and replaces it by its own, which it resolves when its work has ended. So
the works of all calls run one after the other.

Above the gate stands what it is for: a queue, of which one work at a time is done. The
gate goes through the same steps, whatever calls come and however the works end.
-/

namespace TraxOs.PowerSync

open TraxOs.Theory

/-- The promises of a gate: the tails, of which the first is there from the start, and for
each call the one that its caller has and the one that its work returns. -/
inductive GatePromise where
  | tail (index : Nat)
  | caller (run : Nat)
  | work (run : Nat)
deriving DecidableEq

/-- Where `run` goes on: after `await previous`, and after `await work()`. -/
inductive GateReaction where
  | resume (run : Nat)
  | complete (run : Nat)
deriving DecidableEq

/-- The promises, the field `tail`, the number of calls, and the call whose work is being
called just now. The last two fields record which works were started and how they ended. -/
structure Gate (Failure Value : Type) where
  engine : Engine GatePromise GateReaction (Except Failure Value)
  tail : GatePromise
  calls : Nat
  calling : Option Nat
  started : List Nat
  ended : List (Nat × Except Failure Value)

/-- What can happen: a call, the next job, the return of a promise or an error by the work
that is being called, and the settlement of a promise that a work returned. -/
inductive GateEvent (Failure Value : Type) where
  | call
  | tick
  | returns
  | throws (error : Failure)
  | settle (run : Nat) (result : Except Failure Value)

namespace Gate

variable {Failure Value : Type}

section Steps

-- what a promise without a value is resolved with
variable (undefined : Value)

/-- A new gate: `Promise.resolve()`. -/
def initial : Gate Failure Value where
  engine :=
    { promises := Function.update (fun _ => ⟨none, []⟩) (.tail 0) ⟨some (.ok undefined), []⟩
      jobs := [] }
  tail := .tail 0
  calls := 0
  calling := none
  started := []
  ended := []

variable (gate : Gate Failure Value)

/-- A call up to `await previous`. -/
def call : Gate Failure Value :=
  { gate with
    engine := gate.engine.await gate.tail (.resume gate.calls)
    tail := .tail (gate.calls + 1)
    calls := gate.calls + 1 }

/-- `finally { release(); }`, and the caller gets its outcome. -/
def finish (run : Nat) (result : Except Failure Value) : Gate Failure Value :=
  { gate with
    engine := (gate.engine.settle (.tail (run + 1)) (.ok undefined)).settle (.caller run) result }

/-- The next job. No job runs while a work is being called. -/
def tick : Option (Gate Failure Value) :=
  match gate.calling, gate.engine.jobs with
  | none, (.resume run, .ok _) :: jobs =>
    some { gate with
      engine := { gate.engine with jobs := jobs }
      calling := some run
      started := gate.started ++ [run] }
  | none, (.resume run, .error error) :: jobs =>
    -- `await previous` throws, outside the `try`
    let engine := { gate.engine with jobs := jobs }
    some { gate with engine := engine.settle (.caller run) (.error error) }
  | none, (.complete run, result) :: jobs =>
    let resumed := { gate with engine := { gate.engine with jobs := jobs } }
    some (resumed.finish undefined run result)
  | _, _ => none

/-- One event; an event that cannot happen yields nothing. -/
def step : GateEvent Failure Value → Option (Gate Failure Value)
  | .call => some gate.call
  | .tick => gate.tick undefined
  | .returns =>
    gate.calling.map fun run =>
      { gate with
        engine := gate.engine.await (.work run) (.complete run)
        calling := none }
  | .throws error =>
    gate.calling.map fun run =>
      let left : Gate Failure Value := { gate with
        calling := none
        ended := gate.ended ++ [(run, .error error)] }
      left.finish undefined run (.error error)
  | .settle run result =>
    if .complete run ∈ (gate.engine.promises (.work run)).reactions then
      some { gate with
        engine := gate.engine.settle (.work run) result
        ended := gate.ended ++ [(run, result)] }
    else none

/-- Events in a row. -/
def steps : Gate Failure Value → List (GateEvent Failure Value) → Option (Gate Failure Value)
  | gate, [] => some gate
  | gate, event :: rest => (gate.step undefined event).bind fun next => next.steps rest

end Steps

/-- The work of a call was called and has not ended. -/
def Executing (gate : Gate Failure Value) (run : Nat) : Prop :=
  run ∈ gate.started ∧ ∀ result, (run, result) ∉ gate.ended

end Gate

/-! ## The queue that the gate is -/

/-- The work at the front: it waits to be called, is being called, its promise is pending,
or it has ended. -/
inductive Turn (Failure Value : Type) where
  | waiting
  | called
  | pending
  | ended (result : Except Failure Value)

/-- A queue: the number of calls, the outcomes of those that are answered, and how far the
first one of the others is. -/
structure SerialQueue (Failure Value : Type) where
  calls : Nat
  answers : List (Except Failure Value)
  turn : Turn Failure Value

namespace SerialQueue

variable {Failure Value : Type}

def initial : SerialQueue Failure Value := ⟨0, [], .waiting⟩

variable (queue : SerialQueue Failure Value)

/-- The call whose turn it is. -/
def front : Nat := queue.answers.length

def step : GateEvent Failure Value → Option (SerialQueue Failure Value)
  | .call => some { queue with calls := queue.calls + 1 }
  | .tick =>
    match queue.turn with
    | .waiting => if queue.front < queue.calls then some { queue with turn := .called } else none
    | .ended result =>
      some { queue with answers := queue.answers ++ [result], turn := .waiting }
    | _ => none
  | .returns =>
    match queue.turn with
    | .called => some { queue with turn := .pending }
    | _ => none
  | .throws error =>
    match queue.turn with
    | .called => some { queue with answers := queue.answers ++ [.error error], turn := .waiting }
    | _ => none
  | .settle run result =>
    match queue.turn with
    | .pending => if run = queue.front then some { queue with turn := .ended result } else none
    | _ => none

/-- Events in a row. -/
def steps : SerialQueue Failure Value → List (GateEvent Failure Value) →
    Option (SerialQueue Failure Value)
  | queue, [] => some queue
  | queue, event :: rest => (queue.step event).bind fun next => next.steps rest

/-- The calls whose works were started. -/
def started : List Nat :=
  match queue.turn with
  | .waiting => List.range queue.front
  | _ => List.range (queue.front + 1)

/-- The works that ended, each with its own outcome. -/
def ended : List (Nat × Except Failure Value) :=
  let answered := queue.answers.zipIdx.map fun entry => (entry.2, entry.1)
  match queue.turn with
  | .ended result => answered ++ [(queue.front, result)]
  | _ => answered

/-- What is queued: at most the step of the front. -/
def jobs (undefined : Value) : List (GateReaction × Except Failure Value) :=
  match queue.turn with
  | .waiting => if queue.front < queue.calls then [(.resume queue.front, .ok undefined)] else []
  | .ended result => [(.complete queue.front, result)]
  | _ => []

/-- The tail of a given index. It is released up to the front; the call behind it waits. -/
def link (undefined : Value) (index : Nat) : Promise GateReaction (Except Failure Value) :=
  if index ≤ queue.front then ⟨some (.ok undefined), []⟩
  else if index < queue.calls then ⟨none, [.resume index]⟩
  else ⟨none, []⟩

/-- The promise that the work of a call returns, of the front and of later ones. -/
def work (run : Nat) : Promise GateReaction (Except Failure Value) :=
  match queue.turn with
  | .pending => if run = queue.front then ⟨none, [.complete run]⟩ else ⟨none, []⟩
  | .ended result => if run = queue.front then ⟨some result, []⟩ else ⟨none, []⟩
  | _ => ⟨none, []⟩

/-- How many more events there can be without a call. -/
def remaining : Nat :=
  4 * (queue.calls - queue.front) -
    match queue.turn with
    | .waiting => 0
    | .called => 1
    | .pending => 2
    | .ended _ => 3

/-- The front was called, if its work was. -/
def Called : Prop :=
  match queue.turn with
  | .waiting => queue.front ≤ queue.calls
  | _ => queue.front < queue.calls

end SerialQueue

/-! ## The gate goes through the steps of the queue -/

/-- A gate stands where a queue stands. -/
structure Gate.Represents {Failure Value : Type} (undefined : Value)
    (queue : SerialQueue Failure Value) (gate : Gate Failure Value) : Prop where
  calls : gate.calls = queue.calls
  tail : gate.tail = .tail queue.calls
  links : ∀ index, gate.engine.promises (.tail index) = queue.link undefined index
  callers : ∀ run, gate.engine.promises (.caller run) = ⟨queue.answers[run]?, []⟩
  works : ∀ run, queue.front ≤ run → gate.engine.promises (.work run) = queue.work run
  past : ∀ run < queue.front, (gate.engine.promises (.work run)).reactions = []
  jobs : gate.engine.jobs = queue.jobs undefined
  calling : gate.calling = match queue.turn with | .called => some queue.front | _ => none
  started : gate.started = queue.started
  ended : gate.ended = queue.ended
  called : queue.Called

namespace SerialQueue

variable {Failure Value : Type} (queue : SerialQueue Failure Value)

/-- The works of the answered calls, with their outcomes. -/
def answered : List (Nat × Except Failure Value) :=
  queue.answers.zipIdx.map fun entry => (entry.2, entry.1)

/-- A further answer is one of the front. -/
theorem answered_snoc (result : Except Failure Value) (turn : Turn Failure Value) :
    answered ⟨queue.calls, queue.answers ++ [result], turn⟩ =
      queue.answered ++ [(queue.front, result)] := by
  simp [answered, front, List.zipIdx_append]

/-- A tail that is not released waits for the front. -/
theorem link_pending (undefined : Value) (index : Nat) (behind : queue.front < index) :
    queue.link undefined index =
      ⟨none, if index < queue.calls then [.resume index] else []⟩ := by
  unfold link
  rw [if_neg (Nat.not_le_of_lt behind)]
  split <;> rfl

theorem link_released (undefined : Value) (index : Nat) (passed : index ≤ queue.front) :
    queue.link undefined index = ⟨some (.ok undefined), []⟩ := by
  unfold link
  rw [if_pos passed]

end SerialQueue

namespace Gate

variable {Failure Value : Type} {undefined : Value} {queue : SerialQueue Failure Value}
variable {gate next : Gate Failure Value}

theorem initial_represents :
    (initial undefined : Gate Failure Value).Represents undefined .initial := by
  constructor
  · rfl
  · rfl
  · intro index
    by_cases first : index = 0
    · subst first
      rfl
    · have behind : ¬ index ≤ 0 := by omega
      simp [initial, SerialQueue.link, SerialQueue.initial, SerialQueue.front,
        Function.update_of_ne, first]
  · intro run
    rfl
  · intro run _
    rfl
  · intro run before
    exact absurd before (Nat.not_lt_zero run)
  · rfl
  · rfl
  · rfl
  · rfl
  · exact Nat.le_refl 0

/-- At an empty queue the tail is released, so that a call is queued at once. -/
theorem Represents.call_empty (represents : gate.Represents undefined queue)
    (empty : queue.calls ≤ queue.front) :
    gate.call.Represents undefined { queue with calls := queue.calls + 1 } := by
  obtain ⟨calls, answers, turn⟩ := queue
  have called := represents.called
  have jobs := represents.jobs
  have calling := represents.calling
  have started := represents.started
  have ended := represents.ended
  cases turn with
  | waiting =>
    have last : calls = answers.length := Nat.le_antisymm empty called
    have settled : gate.engine.outcome gate.tail = some (.ok undefined) := by
      rw [Engine.outcome, represents.tail, represents.links]
      rw [SerialQueue.link_released _ _ _ empty]
    unfold Gate.call
    rw [Engine.await_settled _ _ settled, jobs, represents.calls]
    constructor
    · rfl
    · rfl
    · intro index
      rw [represents.links]
      by_cases passed : index ≤ answers.length
      · rw [SerialQueue.link_released _ _ _ passed, SerialQueue.link_released _ _ _ passed]
      · have behind : answers.length < index := by omega
        rw [SerialQueue.link_pending _ _ _ behind, SerialQueue.link_pending _ _ _ behind]
        rw [if_neg (by simp only; omega), if_neg (by simp only; omega)]
    · exact represents.callers
    · exact represents.works
    · exact represents.past
    · simp [SerialQueue.jobs, SerialQueue.front, last]
    · exact calling
    · exact started
    · exact ended
    · exact Nat.le_succ_of_le called
  | called => exact absurd called (Nat.not_lt_of_le empty)
  | pending => exact absurd called (Nat.not_lt_of_le empty)
  | ended result => exact absurd called (Nat.not_lt_of_le empty)

/-- Behind other calls a call waits for the last tail. -/
theorem Represents.call_behind (represents : gate.Represents undefined queue)
    (busy : queue.front < queue.calls) :
    gate.call.Represents undefined { queue with calls := queue.calls + 1 } := by
  have pending : gate.engine.promises gate.tail = ⟨none, []⟩ := by
    rw [represents.tail, represents.links, SerialQueue.link_pending _ _ _ busy]
    rw [if_neg (Nat.lt_irrefl _)]
  unfold Gate.call
  rw [Engine.await_pending _ _ pending, represents.tail, represents.calls]
  constructor
  · rfl
  · rfl
  · intro index
    dsimp only
    by_cases last : index = queue.calls
    · subst last
      rw [Function.update_self]
      have waits := SerialQueue.link_pending
        { queue with calls := queue.calls + 1 } undefined queue.calls busy
      rw [waits, if_pos (Nat.lt_succ_self _)]
      rfl
    · rw [Function.update_of_ne (by simpa using last), represents.links]
      unfold SerialQueue.link SerialQueue.front
      have same : index < queue.calls ↔ index < queue.calls + 1 := by omega
      simp only [same]
  · intro run
    dsimp only
    rw [Function.update_of_ne (by simp), represents.callers]
  · intro run later
    dsimp only
    rw [Function.update_of_ne (by simp), represents.works run later]
    rfl
  · intro run before
    dsimp only
    rw [Function.update_of_ne (by simp)]
    exact represents.past run before
  · rw [represents.jobs]
    obtain ⟨calls, answers, turn⟩ := queue
    have further : answers.length < calls + 1 := Nat.lt_succ_of_lt busy
    cases turn <;> simp_all [SerialQueue.jobs, SerialQueue.front]
  · exact represents.calling
  · exact represents.started
  · exact represents.ended
  · have called := represents.called
    obtain ⟨calls, answers, turn⟩ := queue
    cases turn with
    | waiting => exact Nat.le_succ_of_le called
    | called => exact Nat.lt_succ_of_lt called
    | pending => exact Nat.lt_succ_of_lt called
    | ended result => exact Nat.lt_succ_of_lt called

/-- A work that has ended is answered, and the next call is released. -/
theorem finish_represents (queue : SerialQueue Failure Value) (result : Except Failure Value)
    (calls : gate.calls = queue.calls)
    (tail : gate.tail = .tail queue.calls)
    (links : ∀ index, gate.engine.promises (.tail index) = queue.link undefined index)
    (callers : ∀ run, gate.engine.promises (.caller run) = ⟨queue.answers[run]?, []⟩)
    (works : ∀ run, queue.front < run → gate.engine.promises (.work run) = ⟨none, []⟩)
    (past : ∀ run ≤ queue.front, (gate.engine.promises (.work run)).reactions = [])
    (jobs : gate.engine.jobs = []) (calling : gate.calling = none)
    (started : gate.started = List.range (queue.front + 1))
    (ended : gate.ended = queue.answered ++ [(queue.front, result)])
    (called : queue.front < queue.calls) :
    (gate.finish undefined queue.front result).Represents undefined
      ⟨queue.calls, queue.answers ++ [result], .waiting⟩ := by
  have released : gate.engine.promises (.tail (queue.front + 1)) =
      ⟨none, if queue.front + 1 < queue.calls then [.resume (queue.front + 1)] else []⟩ := by
    rw [links, SerialQueue.link_pending _ _ _ (Nat.lt_succ_self _)]
  have unanswered : queue.answers[queue.front]? = none :=
    List.getElem?_eq_none (Nat.le_refl _)
  have front : SerialQueue.front ⟨queue.calls, queue.answers ++ [result], .waiting⟩ =
      queue.front + 1 := by
    simp [SerialQueue.front]
  unfold Gate.finish
  rw [Engine.settle_pending _ _ released]
  rw [Engine.settle_pending [] result
    (by dsimp only; rw [Function.update_of_ne (by simp), callers, unanswered])]
  constructor
  · exact calls
  · exact tail
  · intro index
    dsimp only
    rw [Function.update_of_ne (by simp)]
    by_cases here : index = queue.front + 1
    · subst here
      rw [Function.update_self, SerialQueue.link_released _ _ _ (Nat.le_of_eq front.symm)]
    · rw [Function.update_of_ne (by simpa using here), links]
      unfold SerialQueue.link
      rw [front]
      have same : index ≤ queue.front ↔ index ≤ queue.front + 1 := by omega
      simp only [same]
  · intro run
    dsimp only
    by_cases here : run = queue.front
    · subst here
      rw [Function.update_self]
      simp [SerialQueue.front]
    · rw [Function.update_of_ne (by simpa using here), Function.update_of_ne (by simp), callers]
      congr 1
      have other : run ≠ queue.answers.length := here
      rcases Nat.lt_or_gt_of_ne other with earlier | later
      · rw [List.getElem?_append_left earlier]
      · rw [List.getElem?_eq_none (Nat.le_of_lt later), List.getElem?_eq_none (by simp; omega)]
  · intro run later
    rw [front] at later
    dsimp only
    rw [Function.update_of_ne (by simp), Function.update_of_ne (by simp)]
    exact works run later
  · intro run before
    rw [front] at before
    dsimp only
    rw [Function.update_of_ne (by simp), Function.update_of_ne (by simp)]
    exact past run (Nat.le_of_lt_succ before)
  · simp only [jobs, SerialQueue.jobs, front]
    split <;> rfl
  · exact calling
  · rw [started, SerialQueue.started, front]
  · rw [ended, SerialQueue.ended]
    exact (queue.answered_snoc result .waiting).symm
  · rw [SerialQueue.Called, front]
    exact called

/-- Every step of the gate is one of the queue. -/
theorem Represents.step (represents : gate.Represents undefined queue)
    (event : GateEvent Failure Value) (stepped : gate.step undefined event = some next) :
    ∃ after, queue.step event = some after ∧ next.Represents undefined after := by
  obtain ⟨calls, answers, turn⟩ := queue
  have jobs := represents.jobs
  have calling := represents.calling
  have started := represents.started
  have ended := represents.ended
  have called := represents.called
  have works := represents.works
  have past := represents.past
  cases event with
  | call =>
    cases stepped
    refine ⟨_, rfl, ?_⟩
    rcases Nat.lt_or_ge (SerialQueue.front ⟨calls, answers, turn⟩) calls with busy | empty
    · exact represents.call_behind busy
    · exact represents.call_empty empty
  | tick =>
    simp only [Gate.step, Gate.tick, calling, jobs, SerialQueue.jobs] at stepped
    cases turn with
    | waiting =>
      by_cases more : SerialQueue.front ⟨calls, answers, .waiting⟩ < calls
      · rw [if_pos more] at stepped
        cases stepped
        refine ⟨⟨calls, answers, .called⟩, if_pos more, ?_⟩
        constructor
        · exact represents.calls
        · exact represents.tail
        · exact represents.links
        · exact represents.callers
        · exact works
        · exact past
        · rfl
        · rfl
        · rw [started]
          exact (List.range_succ).symm
        · exact ended
        · exact more
      · rw [if_neg more] at stepped
        cases stepped
    | called => cases stepped
    | pending => cases stepped
    | ended result =>
      cases stepped
      refine ⟨_, rfl, ?_⟩
      refine finish_represents ⟨calls, answers, .ended result⟩ result represents.calls
        represents.tail represents.links represents.callers ?_ ?_ rfl rfl started ended called
      · intro run later
        dsimp only
        rw [works run (Nat.le_of_lt later), SerialQueue.work]
        exact if_neg (Nat.ne_of_gt later)
      · intro run before
        rcases Nat.lt_or_eq_of_le before with earlier | rfl
        · exact past run earlier
        · have settled := (works _ (Nat.le_refl _)).trans (if_pos rfl)
          dsimp only
          rw [settled]
  | returns =>
    simp only [Gate.step, calling] at stepped
    cases turn with
    | called =>
      have unmade : gate.engine.promises (.work answers.length) = ⟨none, []⟩ :=
        works _ (Nat.le_refl _)
      cases stepped
      refine ⟨⟨calls, answers, .pending⟩, rfl, ?_⟩
      dsimp only [SerialQueue.front]
      rw [Engine.await_pending _ _ unmade]
      constructor
      · exact represents.calls
      · exact represents.tail
      · intro index
        dsimp only
        rw [Function.update_of_ne (by simp)]
        exact represents.links index
      · intro run
        dsimp only
        rw [Function.update_of_ne (by simp)]
        exact represents.callers run
      · intro run later
        dsimp only
        rw [SerialQueue.work]
        by_cases here : run = answers.length
        · subst here
          rw [Function.update_self]
          exact (if_pos rfl).symm
        · rw [Function.update_of_ne (by simpa using here)]
          exact (works run later).trans (if_neg here).symm
      · intro run before
        dsimp only
        have other : run ≠ answers.length := Nat.ne_of_lt before
        rw [Function.update_of_ne (by simpa using other)]
        exact past run before
      · exact jobs
      · rfl
      · exact started
      · exact ended
      · exact called
    | waiting => cases stepped
    | pending => cases stepped
    | ended result => cases stepped
  | throws error =>
    simp only [Gate.step, calling] at stepped
    cases turn with
    | called =>
      cases stepped
      refine ⟨_, rfl, ?_⟩
      refine finish_represents ⟨calls, answers, .called⟩ (.error error) represents.calls
        represents.tail represents.links represents.callers ?_ ?_ jobs rfl started ?_ called
      · exact fun run later => works run (Nat.le_of_lt later)
      · intro run before
        rcases Nat.lt_or_eq_of_le before with earlier | rfl
        · exact past run earlier
        · dsimp only
          rw [works _ (Nat.le_refl _)]
          rfl
      · exact congrArg (fun record => record ++ [(answers.length, .error error)]) ended
    | waiting => cases stepped
    | pending => cases stepped
    | ended result => cases stepped
  | settle run result =>
    simp only [Gate.step] at stepped
    split at stepped
    · next awaited =>
      -- only the promise of the front has a reaction, and only while it is pending
      have later : answers.length ≤ run := by
        by_contra before
        rw [past run (Nat.lt_of_not_le before)] at awaited
        cases awaited
      rw [works run later] at awaited
      cases turn with
      | pending =>
        rw [SerialQueue.work] at awaited
        dsimp only at awaited
        split at awaited
        · next here =>
          have pending := (works run later).trans (if_pos here)
          cases stepped
          refine ⟨⟨calls, answers, .ended result⟩, if_pos here, ?_⟩
          obtain rfl : run = answers.length := here
          rw [Engine.settle_pending _ _ pending]
          constructor
          · exact represents.calls
          · exact represents.tail
          · intro index
            dsimp only
            rw [Function.update_of_ne (by simp)]
            exact represents.links index
          · intro other
            dsimp only
            rw [Function.update_of_ne (by simp)]
            exact represents.callers other
          · intro other beyond
            dsimp only
            rw [SerialQueue.work]
            by_cases here : other = answers.length
            · subst here
              rw [Function.update_self]
              exact (if_pos rfl).symm
            · rw [Function.update_of_ne (by simpa using here)]
              exact ((works other beyond).trans (if_neg here)).trans (if_neg here).symm
          · intro other before
            dsimp only
            have apart : other ≠ answers.length := Nat.ne_of_lt before
            rw [Function.update_of_ne (by simpa using apart)]
            exact past other before
          · dsimp only
            rw [jobs]
            rfl
          · exact calling
          · exact started
          · dsimp only
            rw [ended]
            rfl
          · exact called
        · cases awaited
      | waiting => cases awaited
      | called => cases awaited
      | ended other =>
        rw [SerialQueue.work] at awaited
        dsimp only at awaited
        split at awaited
        · cases awaited
        · cases awaited
    · cases stepped

/-- Every run of the gate is one of the queue. -/
theorem steps_represents (events : List (GateEvent Failure Value)) (queue : SerialQueue Failure Value)
    (gate : Gate Failure Value) (represents : gate.Represents undefined queue)
    (ran : gate.steps undefined events = some next) :
    ∃ after, queue.steps events = some after ∧ next.Represents undefined after := by
  induction events generalizing queue gate with
  | nil =>
    cases ran
    exact ⟨queue, rfl, represents⟩
  | cons event rest inductionHypothesis =>
    unfold steps at ran
    obtain ⟨middle, stepped, ran⟩ := Option.bind_eq_some_iff.mp ran
    obtain ⟨between, taken, there⟩ := represents.step event stepped
    obtain ⟨after, went, ends⟩ := inductionHypothesis between middle there ran
    refine ⟨after, ?_, ends⟩
    unfold SerialQueue.steps
    rw [taken]
    exact went

end Gate

/-! ## What holds of the queue -/

namespace SerialQueue

variable {Failure Value : Type} {queue next : SerialQueue Failure Value}

/-- Calls do not take answers back, and every other event brings the queue nearer to its
end. -/
theorem step_remaining (event : GateEvent Failure Value) (other : event ≠ .call)
    (called : queue.Called) (stepped : queue.step event = some next) :
    next.remaining < queue.remaining ∧ next.Called ∧ next.calls = queue.calls := by
  obtain ⟨calls, answers, turn⟩ := queue
  have bound : answers.length ≤ calls := by
    cases turn with
    | waiting => exact called
    | called => exact Nat.le_of_lt called
    | pending => exact Nat.le_of_lt called
    | ended result => exact Nat.le_of_lt called
  cases event with
  | call => exact absurd rfl other
  | tick =>
    cases turn with
    | waiting =>
      simp only [step] at stepped
      split at stepped
      · next more =>
        cases stepped
        simp only [front] at more
        refine ⟨?_, more, rfl⟩
        simp only [remaining, front]
        omega
      · cases stepped
    | called => cases stepped
    | pending => cases stepped
    | ended result =>
      cases stepped
      have there : answers.length < calls := called
      refine ⟨?_, ?_, rfl⟩
      · simp only [remaining, front, List.length_append, List.length_singleton]
        omega
      · simp only [Called, front, List.length_append, List.length_singleton]
        exact there
  | returns =>
    cases turn with
    | called =>
      cases stepped
      have there : answers.length < calls := called
      refine ⟨?_, there, rfl⟩
      simp only [remaining, front]
      omega
    | waiting => cases stepped
    | pending => cases stepped
    | ended result => cases stepped
  | throws error =>
    cases turn with
    | called =>
      cases stepped
      have there : answers.length < calls := called
      refine ⟨?_, ?_, rfl⟩
      · simp only [remaining, front, List.length_append, List.length_singleton]
        omega
      · simp only [Called, front, List.length_append, List.length_singleton]
        exact there
    | waiting => cases stepped
    | pending => cases stepped
    | ended result => cases stepped
  | settle run result =>
    cases turn with
    | pending =>
      simp only [step] at stepped
      split at stepped
      · cases stepped
        have there : answers.length < calls := called
        refine ⟨?_, there, rfl⟩
        simp only [remaining, front]
        omega
      · cases stepped
    | waiting => cases stepped
    | called => cases stepped
    | ended other => cases stepped

/-- Without calls there is an end. -/
theorem steps_bounded (events : List (GateEvent Failure Value)) (queue : SerialQueue Failure Value)
    (called : queue.Called) (others : .call ∉ events) (ran : queue.steps events = some next) :
    events.length ≤ queue.remaining := by
  induction events generalizing queue with
  | nil => exact Nat.zero_le _
  | cons event rest inductionHypothesis =>
    unfold steps at ran
    obtain ⟨middle, stepped, ran⟩ := Option.bind_eq_some_iff.mp ran
    rw [List.mem_cons, not_or] at others
    obtain ⟨nearer, still, _⟩ := step_remaining event (Ne.symm others.1) called stepped
    have shorter := inductionHypothesis middle still others.2 ran
    rw [List.length_cons]
    omega

/-- Each work was started in its turn. -/
theorem started_range (queue : SerialQueue Failure Value) :
    queue.started = List.range queue.started.length := by
  unfold started
  split <;> simp

theorem answered_range (queue : SerialQueue Failure Value) :
    queue.answered.map Prod.fst = List.range queue.front := by
  unfold answered
  rw [List.map_map]
  have indices := List.zipIdx_map_snd 0 queue.answers
  rw [← List.range_eq_range'] at indices
  exact indices

theorem mem_answered (queue : SerialQueue Failure Value) (run : Nat)
    (result : Except Failure Value) :
    (run, result) ∈ queue.answered ↔ queue.answers[run]? = some result := by
  unfold answered
  rw [List.mem_map]
  constructor
  · rintro ⟨⟨value, index⟩, member, same⟩
    cases same
    exact List.mem_zipIdx_iff_getElem?.mp member
  · intro there
    exact ⟨(result, run), List.mem_zipIdx_iff_getElem?.mpr there, rfl⟩

/-- Each work ended in its turn. -/
theorem ended_range (queue : SerialQueue Failure Value) :
    queue.ended.map Prod.fst = List.range queue.ended.length := by
  have length : queue.answered.length = queue.front := by
    simp [answered, front]
  have answered := queue.answered_range
  unfold ended
  cases queue.turn with
  | ended result =>
    dsimp only
    rw [List.map_append, List.length_append, List.length_singleton]
    exact ((congrArg (· ++ [queue.front]) answered).trans (List.range_succ).symm).trans
      (congrArg (fun count => List.range (count + 1)) length.symm)
  | waiting => exact answered.trans (congrArg List.range length.symm)
  | called => exact answered.trans (congrArg List.range length.symm)
  | pending => exact answered.trans (congrArg List.range length.symm)

/-- What is answered has ended. -/
theorem ended_of_answered (queue : SerialQueue Failure Value) (run : Nat)
    (result : Except Failure Value) (answered : queue.answers[run]? = some result) :
    (run, result) ∈ queue.ended := by
  have member := (queue.mem_answered run result).mpr answered
  unfold ended
  cases queue.turn with
  | ended other => exact List.mem_append_left _ member
  | waiting => exact member
  | called => exact member
  | pending => exact member

/-- A work that was started and has not ended is that of the front. -/
theorem executing_front (queue : SerialQueue Failure Value) (run : Nat)
    (started : run ∈ queue.started) (going : ∀ result, (run, result) ∉ queue.ended) :
    run = queue.front := by
  have unanswered : ¬ run < queue.front := by
    intro before
    obtain ⟨result, answered⟩ : ∃ result, queue.answers[run]? = some result :=
      ⟨_, List.getElem?_eq_getElem before⟩
    exact going result (queue.ended_of_answered run result answered)
  unfold SerialQueue.started at started
  cases turn : queue.turn with
  | waiting =>
    rw [turn] at started
    exact absurd (List.mem_range.mp started) unanswered
  | called =>
    rw [turn] at started
    have bound := List.mem_range.mp started
    omega
  | pending =>
    rw [turn] at started
    have bound := List.mem_range.mp started
    omega
  | ended result =>
    rw [turn] at started
    have bound := List.mem_range.mp started
    omega

end SerialQueue

namespace Gate

variable {Failure Value : Type} {undefined : Value} {queue : SerialQueue Failure Value}
variable {gate : Gate Failure Value}

/-- A gate with unanswered calls is busy: its front has a job, or its work is going on. -/
theorem Represents.busy (represents : gate.Represents undefined queue)
    (waits : queue.front < queue.calls) :
    (gate.tick undefined).isSome ∨ gate.Executing queue.front := by
  have started := represents.started
  have ended := represents.ended
  have calling := represents.calling
  have jobs := represents.jobs
  have missing : ∀ result, (queue.front, result) ∉ queue.answered := by
    intro result member
    have answered := (queue.mem_answered queue.front result).mp member
    rw [SerialQueue.front, List.getElem?_eq_none (Nat.le_refl _)] at answered
    cases answered
  unfold SerialQueue.started at started
  unfold SerialQueue.ended at ended
  unfold SerialQueue.jobs at jobs
  cases turn : queue.turn with
  | waiting =>
    simp only [turn] at calling jobs
    rw [if_pos waits] at jobs
    left
    unfold tick
    rw [calling, jobs]
    rfl
  | called =>
    simp only [turn] at started ended
    right
    refine ⟨started ▸ List.mem_range.mpr (Nat.lt_succ_self _), fun result => ?_⟩
    rw [ended]
    exact missing result
  | pending =>
    simp only [turn] at started ended
    right
    refine ⟨started ▸ List.mem_range.mpr (Nat.lt_succ_self _), fun result => ?_⟩
    rw [ended]
    exact missing result
  | ended result =>
    simp only [turn] at calling jobs
    left
    unfold tick
    rw [calling, jobs]
    rfl

/-- In every run of the gate, whatever calls come and however the works end:
one work at a time is executed; the works are started in the order of the calls and end in
that order, each once; what a caller gets is the outcome of its own work; while a caller
waits, a work of a call that is not later is executed or a job is queued; and without
further calls at most four events a call can follow. -/
theorem runs_serially (undefined : Value) (events : List (GateEvent Failure Value))
    (gate : Gate Failure Value)
    (ran : (initial undefined).steps undefined events = some gate) :
    (∀ first second, gate.Executing first → gate.Executing second → first = second) ∧
    (gate.started = List.range gate.started.length ∧
      gate.ended.map Prod.fst = List.range gate.ended.length) ∧
    (∀ run result, gate.engine.outcome (.caller run) = some result →
      (run, result) ∈ gate.ended) ∧
    (∀ run < gate.calls, gate.engine.outcome (.caller run) = none →
      (gate.tick undefined).isSome ∨ ∃ earlier ≤ run, gate.Executing earlier) ∧
    (∀ more last, .call ∉ more → gate.steps undefined more = some last →
      more.length ≤ 4 * gate.calls) := by
  obtain ⟨queue, _, represents⟩ :=
    steps_represents events .initial (initial undefined) initial_represents ran
  have front : ∀ run, gate.Executing run → run = queue.front := by
    rintro run ⟨started, going⟩
    rw [represents.started] at started
    rw [represents.ended] at going
    exact queue.executing_front run started going
  refine ⟨?_, ⟨?_, ?_⟩, ?_, ?_, ?_⟩
  · intro first second one other
    exact (front first one).trans (front second other).symm
  · rw [represents.started]
    exact queue.started_range
  · rw [represents.ended]
    exact queue.ended_range
  · intro run result answered
    rw [Engine.outcome, represents.callers] at answered
    rw [represents.ended]
    exact queue.ended_of_answered run result answered
  · intro run there unanswered
    rw [Engine.outcome, represents.callers] at unanswered
    have behind : queue.front ≤ run := List.getElem?_eq_none_iff.mp unanswered
    rw [represents.calls] at there
    rcases represents.busy (Nat.lt_of_le_of_lt behind there) with job | executing
    · exact Or.inl job
    · exact Or.inr ⟨queue.front, behind, executing⟩
  · intro more last others went
    obtain ⟨after, taken, _⟩ := steps_represents more queue gate represents went
    have bounded := SerialQueue.steps_bounded more queue represents.called others taken
    unfold SerialQueue.remaining at bounded
    rw [represents.calls]
    omega

/-- Two calls, of which the first is rejected. -/
def rejectedRun : List (GateEvent Nat Nat) :=
  [.call, .tick, .call, .returns, .settle 0 (.error 7), .tick, .tick, .returns,
    .settle 1 (.ok 8), .tick]

/-- The second caller gets the outcome of its own work. -/
theorem runs_serially_rejected :
    ∃ gate : Gate Nat Nat, (initial 0).steps 0 rejectedRun = some gate ∧
      gate.engine.outcome (.caller 1) = some (.ok 8) ∧ (1, .ok 8) ∈ gate.ended := by
  refine ⟨_, rfl, rfl, ?_⟩
  exact (runs_serially 0 rejectedRun _ rfl).2.2.1 1 (.ok 8) rfl

end Gate

end TraxOs.PowerSync
