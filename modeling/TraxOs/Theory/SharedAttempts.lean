import Mathlib.Data.List.Basic

/-!
# Calls that share one attempt

A cached promise as JavaScript runs it. The first call starts an attempt and caches it;
later calls wait for the cached one. When an attempt settles, its reactions are queued in
the order in which they were registered, and queued jobs run one by one in that order.

The first reaction of an attempt forgets it, if it failed and is still the cached one. The
others resume the calls that wait for it. A call may come between any two jobs.
-/

namespace TraxOs.Theory

/-- A reaction to a settled attempt. -/
inductive Job where
  | forget (attempt : Nat)
  | resume (caller : Nat)
deriving DecidableEq

/-- An attempt in flight has no outcome, and its reactions wait for one. -/
structure Attempt (Failure Value : Type) where
  outcome : Option (Except Failure Value)
  reactions : List Job

/-- A call, the attempt that it waits for, and with what it was resumed. -/
structure Caller (Call Failure Value : Type) where
  call : Call
  attempt : Nat
  answer : Option (Except Failure Value)

/-- The cache, every attempt and every call so far, and the queued jobs. -/
structure Shared (Call Failure Value : Type) where
  cached : Option Nat
  attempts : List (Attempt Failure Value)
  jobs : List Job
  callers : List (Caller Call Failure Value)

namespace Shared

variable {Call Failure Value : Type}

/-- Before the first call. -/
def initial : Shared Call Failure Value where
  cached := none
  attempts := []
  jobs := []
  callers := []

variable (state : Shared Call Failure Value)

/-- How an attempt ended. -/
def outcome (id : Nat) : Option (Except Failure Value) :=
  state.attempts[id]?.bind Attempt.outcome

/-- The attempt is in flight. -/
def InFlight (id : Nat) : Prop := id < state.attempts.length ∧ state.outcome id = none

/-- The cached attempt, or a new one whose first reaction forgets it. -/
def ensure : Nat × Shared Call Failure Value :=
  match state.cached with
  | some id => (id, state)
  | none =>
    (state.attempts.length,
      { state with
        cached := some state.attempts.length
        attempts := state.attempts ++ [⟨none, [.forget state.attempts.length]⟩] })

/-- A call waits for an attempt. For a settled one its reaction is queued at once. -/
def await (call : Call) (id : Nat) : Shared Call Failure Value :=
  let reaction := Job.resume state.callers.length
  let callers := state.callers ++ [⟨call, id, none⟩]
  match state.outcome id with
  | none =>
    { state with
      attempts := state.attempts.modify id fun attempt =>
        { attempt with reactions := attempt.reactions ++ [reaction] }
      callers := callers }
  | some _ => { state with jobs := state.jobs ++ [reaction], callers := callers }

/-- A call waits for the cached attempt or for a new one. -/
def join (call : Call) : Shared Call Failure Value := state.ensure.2.await call state.ensure.1

/-- An attempt in flight settles. -/
def settle (id : Nat) (outcome : Except Failure Value) : Option (Shared Call Failure Value) :=
  match state.attempts[id]? with
  | some ⟨none, reactions⟩ =>
    some { state with
      attempts := state.attempts.set id ⟨some outcome, []⟩
      jobs := state.jobs ++ reactions }
  | _ => none

/-- The attempt failed. -/
def failed (id : Nat) : Bool :=
  match state.outcome id with
  | some (.error _) => true
  | _ => false

/-- The first queued job runs. -/
def runJob : Option (Shared Call Failure Value) :=
  match state.jobs with
  | [] => none
  | .forget id :: rest =>
    if state.failed id ∧ state.cached = some id then
      some { state with cached := none, jobs := rest }
    else some { state with jobs := rest }
  | .resume index :: rest =>
    some { state with
      jobs := rest
      callers := state.callers.modify index fun caller =>
        { caller with answer := state.outcome caller.attempt } }

/-- What can happen next. -/
inductive Event (Call Failure Value : Type) where
  | join (call : Call)
  | settle (id : Nat) (outcome : Except Failure Value)
  | run

/-- One event; an event that cannot happen yields nothing. -/
def step : Event Call Failure Value → Option (Shared Call Failure Value)
  | .join call => some (state.join call)
  | .settle id outcome => state.settle id outcome
  | .run => state.runJob

/-! ## What an event does to the attempts and the calls -/

@[simp] theorem ensure_callers : state.ensure.2.callers = state.callers := by
  rw [ensure]
  split <;> rfl

@[simp] theorem ensure_jobs : state.ensure.2.jobs = state.jobs := by
  rw [ensure]
  split <;> rfl

@[simp] theorem ensure_cached : state.ensure.2.cached = some state.ensure.1 := by
  rw [ensure]
  split
  · next id cached => exact cached
  · rfl

/-- A new attempt has no outcome yet. -/
@[simp] theorem ensure_outcome (id : Nat) : state.ensure.2.outcome id = state.outcome id := by
  rw [ensure]
  split
  · rfl
  · simp only [outcome]
    by_cases old : id < state.attempts.length
    · rw [List.getElem?_append_left old]
    · rw [List.getElem?_eq_none (l := state.attempts) (Nat.le_of_not_lt old)]
      by_cases new : id = state.attempts.length
      · simp [new]
      · rw [List.getElem?_eq_none (by simp; omega)]

@[simp] theorem await_cached (call : Call) (id : Nat) :
    (state.await call id).cached = state.cached := by
  rw [await]
  split <;> rfl

@[simp] theorem await_length (call : Call) (id : Nat) :
    (state.await call id).attempts.length = state.attempts.length := by
  rw [await]
  split
  · simp
  · rfl

@[simp] theorem await_callers (call : Call) (id : Nat) :
    (state.await call id).callers = state.callers ++ [⟨call, id, none⟩] := by
  rw [await]
  split <;> rfl

@[simp] theorem await_outcome (call : Call) (id other : Nat) :
    (state.await call id).outcome other = state.outcome other := by
  rw [await]
  split
  · simp only [outcome, List.getElem?_modify]
    split
    · cases state.attempts[other]? <;> rfl
    · simp
  · rfl

/-- What settling an attempt does. -/
theorem settle_cases (id : Nat) (result : Except Failure Value) (next : Shared Call Failure Value)
    (settled : state.settle id result = some next) :
    ∃ reactions, state.attempts[id]? = some ⟨none, reactions⟩ ∧
      next = { state with
        attempts := state.attempts.set id ⟨some result, []⟩
        jobs := state.jobs ++ reactions } := by
  rw [settle] at settled
  split at settled
  · next reactions found =>
    cases settled
    exact ⟨reactions, found, rfl⟩
  · cases settled

/-- Only the outcome of the settled attempt changes. -/
theorem settle_outcome (id : Nat) (result : Except Failure Value)
    (next : Shared Call Failure Value) (settled : state.settle id result = some next)
    (other : Nat) :
    next.outcome other = if other = id then some result else state.outcome other := by
  obtain ⟨reactions, found, rfl⟩ := state.settle_cases id result next settled
  have inside := (List.getElem?_eq_some_iff.mp found).1
  simp only [outcome, List.getElem?_set]
  by_cases same : id = other
  · subst same
    simp [inside]
  · simp [same, Ne.symm same]

/-- What running a job does: it forgets the cached failure, drops a reaction without
effect, or resumes a call. -/
inductive Ran : Shared Call Failure Value → Prop where
  | forgot (id : Nat) (rest : List Job) (queued : state.jobs = .forget id :: rest)
      (failed : state.failed id = true) (cached : state.cached = some id) :
      Ran { state with cached := none, jobs := rest }
  | kept (id : Nat) (rest : List Job) (queued : state.jobs = .forget id :: rest)
      (needless : ¬ (state.failed id = true ∧ state.cached = some id)) :
      Ran { state with jobs := rest }
  | resumed (index : Nat) (rest : List Job) (queued : state.jobs = .resume index :: rest) :
      Ran { state with
        jobs := rest
        callers := state.callers.modify index fun caller =>
          { caller with answer := state.outcome caller.attempt } }

theorem runJob_ran (next : Shared Call Failure Value) (ran : state.runJob = some next) :
    state.Ran next := by
  rw [runJob] at ran
  split at ran
  · cases ran
  · next id rest queued =>
    split at ran
    · next both =>
      cases ran
      exact .forgot id rest queued both.1 both.2
    · next needless =>
      cases ran
      exact .kept id rest queued needless
  · next index rest queued =>
    cases ran
    exact .resumed index rest queued

/-- No outcome changes. -/
theorem runJob_outcome (next : Shared Call Failure Value) (ran : state.runJob = some next)
    (id : Nat) : next.outcome id = state.outcome id := by
  cases state.runJob_ran next ran <;> rfl

/-- The attempt failed with some error. -/
theorem failed_iff (id : Nat) :
    state.failed id = true ↔ ∃ error, state.outcome id = some (.error error) := by
  rw [failed]
  split
  · next error found => simp [found]
  · next other =>
    simp only [Bool.false_eq_true, false_iff, not_exists]
    exact fun error found => other error found

/-! ## The invariant -/

/-- The job is about the attempt. -/
def Concerns (id : Nat) : Job → Prop
  | .forget attempt => attempt = id
  | .resume index => ∃ caller, state.callers[index]? = some caller ∧ caller.attempt = id

/-- The job is about an attempt or a call that there is. -/
def Known : Job → Prop
  | .forget attempt => attempt < state.attempts.length
  | .resume index => index < state.callers.length

/-- Where the reactions of every attempt are. While it is in flight they wait; afterwards
they are queued. A failed attempt that is still cached has its first reaction queued, and no
call that waits for it is resumed before. -/
structure Sound : Prop where
  bounded : ∀ id, state.cached = some id → id < state.attempts.length
  answered : ∀ caller ∈ state.callers, caller.attempt < state.attempts.length ∧
    ∀ answer, caller.answer = some answer → state.outcome caller.attempt = some answer
  waiting : ∀ (index : Nat) (caller : Caller Call Failure Value),
    state.callers[index]? = some caller → caller.answer = none →
      (state.outcome caller.attempt = none → ∃ attempt,
        state.attempts[caller.attempt]? = some attempt ∧ .resume index ∈ attempt.reactions) ∧
      (state.outcome caller.attempt ≠ none → .resume index ∈ state.jobs)
  queued : ∀ job ∈ state.jobs, state.Known job
  registered : ∀ id reactions, state.attempts[id]? = some ⟨none, reactions⟩ →
    state.cached = some id ∧ (∀ job ∈ state.jobs, ¬ state.Concerns id job) ∧
      ∃ rest, reactions = .forget id :: rest ∧ ∀ job ∈ rest, ∃ index,
        job = .resume index ∧ state.Concerns id job
  fulfilled : ∀ id value, state.outcome id = some (.ok value) → state.cached = some id
  rejected : ∀ id error, state.outcome id = some (.error error) → state.cached = some id →
    (∃ front back, state.jobs = front ++ .forget id :: back ∧
      ∀ job ∈ front, ¬ state.Concerns id job) ∧
    ∀ caller ∈ state.callers, caller.attempt = id → caller.answer = none

/-- An attempt without outcome is in the list, or there is none of that number. -/
theorem outcome_some (id : Nat) (result : Except Failure Value)
    (found : state.outcome id = some result) :
    ∃ reactions, state.attempts[id]? = some ⟨some result, reactions⟩ := by
  rw [outcome, Option.bind_eq_some_iff] at found
  obtain ⟨⟨_, reactions⟩, there, rfl⟩ := found
  exact ⟨reactions, there⟩

/-- Initially there is nothing. -/
theorem initial_sound : (initial : Shared Call Failure Value).Sound where
  bounded := by simp [initial]
  answered := by simp [initial]
  waiting := by simp [initial]
  queued := by simp [initial]
  registered := by simp [initial]
  fulfilled := by simp [initial, outcome]
  rejected := by simp [initial, outcome]

variable {state}

/-- The cached attempt exists after `ensure`. -/
theorem ensure_bounded (sound : state.Sound) :
    state.ensure.1 < state.ensure.2.attempts.length := by
  rw [ensure]
  split
  · next id cached => exact sound.bounded id cached
  · simp

/-- A new attempt is cached, in flight and without calls. -/
theorem Sound.ensure (sound : state.Sound) : state.ensure.2.Sound := by
  cases cached : state.cached with
  | some id =>
    have same : state.ensure.2 = state := by rw [Shared.ensure, cached]
    rw [same]
    exact sound
  | none =>
    have outcomes := state.ensure_outcome
    have new : state.ensure.2 =
        { state with
          cached := some state.attempts.length
          attempts := state.attempts ++ [⟨none, [.forget state.attempts.length]⟩] } := by
      rw [Shared.ensure, cached]
    rw [new] at outcomes ⊢
    constructor
    · rintro id ⟨⟩
      simp
    · intro caller member
      obtain ⟨inside, same⟩ := sound.answered caller member
      refine ⟨by simp only [List.length_append]; omega, fun answer given => ?_⟩
      rw [outcomes]
      exact same answer given
    · intro index caller found unanswered
      rw [outcomes]
      obtain ⟨inFlight, settled⟩ := sound.waiting index caller found unanswered
      refine ⟨fun none => ?_, settled⟩
      obtain ⟨attempt, there, registered⟩ := inFlight none
      refine ⟨attempt, ?_, registered⟩
      rw [List.getElem?_append_left (List.getElem?_eq_some_iff.mp there).1]
      exact there
    · intro job member
      have known := sound.queued job member
      cases job with
      | forget attempt => exact Nat.lt_of_lt_of_le known (by simp)
      | resume index => exact known
    · intro id reactions found
      by_cases old : id < state.attempts.length
      · rw [List.getElem?_append_left old] at found
        have theirs := (sound.registered id reactions found).1
        rw [cached] at theirs
        cases theirs
      · have last : id = state.attempts.length := by
          have inside := (List.getElem?_eq_some_iff.mp found).1
          simp only [List.length_append, List.length_singleton] at inside
          omega
        subst last
        simp only [List.getElem?_concat_length, Option.some.injEq, Attempt.mk.injEq, true_and] at found
        refine ⟨rfl, ?_, [], found.symm, by simp⟩
        intro job member concerned
        have known := sound.queued job member
        cases job with
        | forget attempt => exact absurd known (Nat.not_lt_of_le (Nat.le_of_eq concerned.symm))
        | resume index =>
          obtain ⟨caller, there, theirs⟩ := concerned
          have inside := (sound.answered caller (List.mem_of_getElem? there)).1
          omega
    · intro id value won
      rw [outcomes] at won
      have theirs := sound.fulfilled id value won
      rw [cached] at theirs
      cases theirs
    · rintro id error lost ⟨⟩
      rw [outcomes] at lost
      obtain ⟨reactions, there⟩ := state.outcome_some _ _ lost
      simp at there

/-- The entry behind a list is the appended one. -/
theorem getElem?_new {α : Type} (items : List α) (added : α) (index : Nat) (found : α)
    (beyond : ¬ index < items.length) (there : (items ++ [added])[index]? = some found) :
    index = items.length ∧ found = added := by
  have inside := (List.getElem?_eq_some_iff.mp there).1
  simp only [List.length_append, List.length_singleton] at inside
  have last : index = items.length := by omega
  subst last
  rw [List.getElem?_concat_length, Option.some.injEq] at there
  exact ⟨rfl, there.symm⟩

/-- A job that is known before a call comes concerns the same attempt afterwards. -/
theorem concerns_append (added : List (Caller Call Failure Value)) (jobs : List Job)
    (cached : Option Nat) (attempts : List (Attempt Failure Value)) (id : Nat) (job : Job)
    (known : state.Known job) :
    Concerns ⟨cached, attempts, jobs, state.callers ++ added⟩ id job ↔ state.Concerns id job := by
  cases job with
  | forget attempt => exact Iff.rfl
  | resume index =>
    simp only [Concerns]
    rw [List.getElem?_append_left known]

/-- What a job concerns it still concerns after a call has come. -/
theorem concerned_append (added : List (Caller Call Failure Value)) (jobs : List Job)
    (cached : Option Nat) (attempts : List (Attempt Failure Value)) (id : Nat) (job : Job)
    (concerned : state.Concerns id job) :
    Concerns ⟨cached, attempts, jobs, state.callers ++ added⟩ id job := by
  cases job with
  | forget attempt => exact concerned
  | resume index =>
    obtain ⟨caller, there, theirs⟩ := concerned
    refine ⟨caller, ?_, theirs⟩
    rw [List.getElem?_append_left (List.getElem?_eq_some_iff.mp there).1]
    exact there

/-- The reaction of a new call concerns the attempt that it waits for. -/
theorem concerns_new (caller : Caller Call Failure Value) (jobs : List Job) (cached : Option Nat)
    (attempts : List (Attempt Failure Value)) (id : Nat) :
    Concerns ⟨cached, attempts, jobs, state.callers ++ [caller]⟩ id (.resume state.callers.length) ↔
      caller.attempt = id := by
  simp [Concerns]

/-- A call that waits for an attempt in flight is registered behind its first reaction. -/
theorem Sound.await_inFlight (sound : state.Sound) (call : Call) (id : Nat)
    (inside : id < state.attempts.length) (none : state.outcome id = none) :
    (state.await call id).Sound := by
  have outcomes := state.await_outcome call id
  have made : state.await call id =
      { state with
        attempts := state.attempts.modify id fun attempt =>
          { attempt with reactions := attempt.reactions ++ [.resume state.callers.length] }
        callers := state.callers ++ [⟨call, id, .none⟩] } := by
    rw [await, none]
  rw [made] at outcomes ⊢
  constructor
  · intro other cached
    simpa using sound.bounded other cached
  · intro caller member
    rw [List.length_modify, outcomes]
    rcases List.mem_append.mp member with member | member
    · exact sound.answered caller member
    · rw [List.mem_singleton.mp member]
      exact ⟨inside, by simp⟩
  · intro index caller found unanswered
    rw [outcomes]
    simp only [List.getElem?_modify]
    by_cases old : index < state.callers.length
    · rw [List.getElem?_append_left old] at found
      obtain ⟨inFlight, settled⟩ := sound.waiting index caller found unanswered
      refine ⟨fun flying => ?_, settled⟩
      obtain ⟨attempt, there, registered⟩ := inFlight flying
      rw [there]
      refine ⟨_, rfl, ?_⟩
      split
      · exact List.mem_append_left _ registered
      · exact registered
    · obtain ⟨rfl, rfl⟩ := getElem?_new state.callers _ index caller old found
      refine ⟨fun _ => ?_, fun settled => absurd none settled⟩
      rw [List.getElem?_eq_getElem inside]
      refine ⟨_, rfl, ?_⟩
      simp
  · intro job member
    have known := sound.queued job member
    cases job with
    | forget attempt => simpa [Known] using known
    | resume index => exact Nat.lt_of_lt_of_le known (by simp)
  · intro other reactions found
    rw [List.getElem?_modify, Option.map_eq_map, Option.map_eq_some_iff] at found
    obtain ⟨attempt, there, same⟩ := found
    by_cases here : id = other
    · subst here
      rw [if_pos rfl, Attempt.mk.injEq] at same
      obtain ⟨flying, rfl⟩ := same
      have before : state.attempts[id]? = some ⟨.none, attempt.reactions⟩ := by
        rw [there, ← flying]
      obtain ⟨cached, apart, rest, first, others⟩ := sound.registered id _ before
      refine ⟨cached, fun job member => ?_, rest ++ [.resume state.callers.length], ?_, ?_⟩
      · rw [concerns_append _ _ _ _ _ _ (sound.queued job member)]
        exact apart job member
      · rw [first, List.cons_append]
      · intro job member
        rcases List.mem_append.mp member with member | member
        · obtain ⟨index, rfl, concerned⟩ := others job member
          exact ⟨index, rfl, concerned_append _ _ _ _ _ _ concerned⟩
        · rw [List.mem_singleton.mp member]
          exact ⟨_, rfl, (concerns_new _ _ _ _ _).mpr rfl⟩
    · rw [if_neg here] at same
      subst same
      obtain ⟨cached, apart, rest, first, others⟩ := sound.registered other reactions there
      refine ⟨cached, fun job member => ?_, rest, first, fun job member => ?_⟩
      · rw [concerns_append _ _ _ _ _ _ (sound.queued job member)]
        exact apart job member
      · obtain ⟨index, rfl, concerned⟩ := others job member
        exact ⟨index, rfl, concerned_append _ _ _ _ _ _ concerned⟩
  · intro other value won
    rw [outcomes] at won
    exact sound.fulfilled other value won
  · intro other error lost cached
    rw [outcomes] at lost
    obtain ⟨⟨front, back, split, apart⟩, unanswered⟩ := sound.rejected other error lost cached
    refine ⟨⟨front, back, split, fun job member => ?_⟩, fun caller member theirs => ?_⟩
    · rw [concerns_append _ _ _ _ _ _ (sound.queued job (by rw [split]; exact List.mem_append_left _ member))]
      exact apart job member
    · rcases List.mem_append.mp member with member | member
      · exact unanswered caller member theirs
      · rw [List.mem_singleton.mp member]

/-- The reaction of a call that waits for a settled attempt is queued at the end. -/
theorem Sound.await_settled (sound : state.Sound) (call : Call) (id : Nat)
    (inside : id < state.attempts.length) (result : Except Failure Value)
    (settled : state.outcome id = some result) : (state.await call id).Sound := by
  have outcomes := state.await_outcome call id
  have made : state.await call id =
      { state with
        jobs := state.jobs ++ [.resume state.callers.length]
        callers := state.callers ++ [⟨call, id, none⟩] } := by
    rw [await, settled]
  rw [made] at outcomes ⊢
  constructor
  · exact sound.bounded
  · intro caller member
    rw [outcomes]
    rcases List.mem_append.mp member with member | member
    · exact sound.answered caller member
    · rw [List.mem_singleton.mp member]
      exact ⟨inside, by simp⟩
  · intro index caller found unanswered
    rw [outcomes]
    by_cases old : index < state.callers.length
    · rw [List.getElem?_append_left old] at found
      obtain ⟨inFlight, done⟩ := sound.waiting index caller found unanswered
      exact ⟨inFlight, fun some => List.mem_append_left _ (done some)⟩
    · obtain ⟨rfl, rfl⟩ := getElem?_new state.callers _ index caller old found
      refine ⟨fun flying => ?_, fun _ => by simp⟩
      rw [settled] at flying
      cases flying
  · intro job member
    rcases List.mem_append.mp member with member | member
    · have known := sound.queued job member
      cases job with
      | forget attempt => exact known
      | resume index => exact Nat.lt_of_lt_of_le known (by simp)
    · rw [List.mem_singleton.mp member]
      simp [Known]
  · intro other reactions found
    obtain ⟨cached, apart, rest, first, others⟩ := sound.registered other reactions found
    refine ⟨cached, fun job member => ?_, rest, first, fun job member => ?_⟩
    · rcases List.mem_append.mp member with member | member
      · rw [concerns_append _ _ _ _ _ _ (sound.queued job member)]
        exact apart job member
      · rw [List.mem_singleton.mp member, concerns_new]
        rintro rfl
        rw [outcome, found] at settled
        cases settled
    · obtain ⟨index, rfl, concerned⟩ := others job member
      exact ⟨index, rfl, concerned_append _ _ _ _ _ _ concerned⟩
  · intro other value won
    rw [outcomes] at won
    exact sound.fulfilled other value won
  · intro other error lost cached
    rw [outcomes] at lost
    obtain ⟨⟨front, back, split, apart⟩, unanswered⟩ := sound.rejected other error lost cached
    refine ⟨⟨front, back ++ [.resume state.callers.length], by simp [split], fun job member => ?_⟩,
      fun caller member theirs => ?_⟩
    · have earlier : job ∈ state.jobs := by
        rw [split]
        exact List.mem_append_left _ member
      rw [concerns_append _ _ _ _ _ _ (sound.queued job earlier)]
      exact apart job member
    · rcases List.mem_append.mp member with member | member
      · exact unanswered caller member theirs
      · rw [List.mem_singleton.mp member]

/-- A call keeps the invariant. -/
theorem Sound.join (sound : state.Sound) (call : Call) : (state.join call).Sound := by
  have inside := ensure_bounded sound
  cases found : state.ensure.2.outcome state.ensure.1 with
  | none => exact sound.ensure.await_inFlight call _ inside found
  | some result => exact sound.ensure.await_settled call _ inside result found

/-- Settling an attempt queues its reactions, the first of them in front. -/
theorem Sound.settle (sound : state.Sound) (id : Nat) (result : Except Failure Value)
    (next : Shared Call Failure Value) (settled : state.settle id result = some next) :
    next.Sound := by
  have outcomes := state.settle_outcome id result next settled
  obtain ⟨reactions, found, rfl⟩ := state.settle_cases id result next settled
  have inside := (List.getElem?_eq_some_iff.mp found).1
  obtain ⟨cached, apart, rest, first, others⟩ := sound.registered id reactions found
  have flying : state.outcome id = none := by
    rw [outcome, found]
    rfl
  constructor
  · intro other same
    simpa using sound.bounded other same
  · intro caller member
    obtain ⟨there, same⟩ := sound.answered caller member
    refine ⟨by simpa using there, fun answer given => ?_⟩
    have before := same answer given
    rw [outcomes]
    split
    · next here =>
      rw [here, flying] at before
      cases before
    · exact before
  · intro index caller there unanswered
    rw [outcomes]
    obtain ⟨inFlight, done⟩ := sound.waiting index caller there unanswered
    split
    · next here =>
      refine ⟨by simp, fun _ => List.mem_append_right _ ?_⟩
      obtain ⟨attempt, present, registered⟩ := inFlight (by rw [here]; exact flying)
      rw [here, found, Option.some.injEq] at present
      rw [← present] at registered
      exact registered
    · next elsewhere =>
      refine ⟨fun none => ?_, fun some => List.mem_append_left _ (done some)⟩
      obtain ⟨attempt, present, registered⟩ := inFlight none
      refine ⟨attempt, ?_, registered⟩
      rw [List.getElem?_set_ne (Ne.symm elsewhere)]
      exact present
  · intro job member
    rcases List.mem_append.mp member with member | member
    · have known := sound.queued job member
      cases job with
      | forget attempt => simpa [Known] using known
      | resume index => exact known
    · rw [first] at member
      rcases List.mem_cons.mp member with rfl | member
      · simpa [Known] using inside
      · obtain ⟨index, rfl, caller, there, _⟩ := others job member
        exact (List.getElem?_eq_some_iff.mp there).1
  · intro other waiting there
    have elsewhere : id ≠ other := by
      rintro rfl
      rw [List.getElem?_set_self inside] at there
      cases there
    rw [List.getElem?_set_ne elsewhere] at there
    have theirs := (sound.registered other waiting there).1
    rw [cached, Option.some.injEq] at theirs
    exact absurd theirs elsewhere
  · intro other value won
    rw [outcomes] at won
    split at won
    · next here =>
      rw [here]
      exact cached
    · exact sound.fulfilled other value won
  · intro other error lost same
    have here : other = id := by
      have both := same.symm.trans cached
      rwa [Option.some.injEq] at both
    subst here
    refine ⟨⟨state.jobs, rest, by rw [first], apart⟩, fun caller member theirs => ?_⟩
    cases given : caller.answer with
    | none => rfl
    | some answer =>
      have before := (sound.answered caller member).2 answer given
      rw [theirs, flying] at before
      cases before

/-- The first job of a list that is split around another one is that one, or it lies in
front of it. -/
theorem split_head (job first : Job) (rest front back : List Job)
    (split : first :: rest = front ++ job :: back) :
    (first = job ∧ front = [] ∧ rest = back) ∨
      ∃ more, front = first :: more ∧ rest = more ++ job :: back := by
  cases front with
  | nil =>
    rw [List.nil_append, List.cons.injEq] at split
    exact Or.inl ⟨split.1, rfl, split.2⟩
  | cons head more =>
    rw [List.cons_append, List.cons.injEq] at split
    exact Or.inr ⟨more, by rw [split.1], split.2⟩

/-- A failure that is forgotten leaves nothing cached. -/
theorem Sound.forgot (sound : state.Sound) (id : Nat) (rest : List Job)
    (queued : state.jobs = .forget id :: rest) (failed : state.failed id = true)
    (cached : state.cached = some id) :
    Sound { state with cached := none, jobs := rest } := by
  obtain ⟨error, lost⟩ := (state.failed_iff id).mp failed
  constructor
  · rintro other ⟨⟩
  · exact sound.answered
  · intro index caller there unanswered
    obtain ⟨inFlight, settled⟩ := sound.waiting index caller there unanswered
    refine ⟨inFlight, fun some => ?_⟩
    have member := settled some
    rw [queued] at member
    simpa using member
  · intro job member
    exact sound.queued job (by rw [queued]; exact List.mem_cons_of_mem _ member)
  · intro other reactions there
    obtain ⟨same, _⟩ := sound.registered other reactions there
    rw [cached, Option.some.injEq] at same
    subst same
    rw [outcome, there] at lost
    cases lost
  · intro other value won
    have same := sound.fulfilled other value won
    rw [cached, Option.some.injEq] at same
    subst same
    have both := won.symm.trans lost
    cases both
  · rintro other otherError _ ⟨⟩

/-- A reaction without effect is dropped. -/
theorem Sound.kept (sound : state.Sound) (id : Nat) (rest : List Job)
    (queued : state.jobs = .forget id :: rest)
    (needless : ¬ (state.failed id = true ∧ state.cached = some id)) :
    Sound { state with jobs := rest } := by
  constructor
  · exact sound.bounded
  · exact sound.answered
  · intro index caller there unanswered
    obtain ⟨inFlight, settled⟩ := sound.waiting index caller there unanswered
    refine ⟨inFlight, fun some => ?_⟩
    have member := settled some
    rw [queued] at member
    simpa using member
  · intro job member
    exact sound.queued job (by rw [queued]; exact List.mem_cons_of_mem _ member)
  · intro other reactions there
    obtain ⟨cached, apart, registered⟩ := sound.registered other reactions there
    exact ⟨cached, fun job member => apart job (by rw [queued]; exact List.mem_cons_of_mem _ member),
      registered⟩
  · exact sound.fulfilled
  · intro other error lost cached
    obtain ⟨⟨front, back, split, apart⟩, unanswered⟩ := sound.rejected other error lost cached
    rw [queued] at split
    rcases split_head _ _ _ _ _ split with ⟨same, _, _⟩ | ⟨more, rfl, there⟩
    · cases same
      exact absurd ⟨(state.failed_iff _).mpr ⟨error, lost⟩, cached⟩ needless
    · exact ⟨⟨more, back, there, fun job member => apart job (List.mem_cons_of_mem _ member)⟩,
        unanswered⟩

/-- Resuming a call changes its answer only. -/
theorem getElem?_resumed (index other : Nat) (caller : Caller Call Failure Value)
    (there : (state.callers.modify index fun caller =>
      { caller with answer := state.outcome caller.attempt })[other]? = some caller) :
    ∃ before, state.callers[other]? = some before ∧ caller.call = before.call ∧
      caller.attempt = before.attempt ∧
        caller.answer = if other = index then state.outcome before.attempt else before.answer := by
  rw [List.getElem?_modify, Option.map_eq_map, Option.map_eq_some_iff] at there
  obtain ⟨before, present, same⟩ := there
  refine ⟨before, present, ?_⟩
  by_cases here : index = other
  · rw [if_pos here] at same
    subst same
    simp [here]
  · rw [if_neg here] at same
    subst same
    simp [Ne.symm here]

/-- So it changes nothing about what the jobs concern. -/
theorem concerns_resumed (index : Nat) (jobs : List Job) (id : Nat) (job : Job)
    (concerned : Concerns { state with
      jobs := jobs
      callers := state.callers.modify index fun caller =>
        { caller with answer := state.outcome caller.attempt } } id job) :
    state.Concerns id job := by
  cases job with
  | forget attempt => exact concerned
  | resume other =>
    obtain ⟨caller, there, theirs⟩ := concerned
    obtain ⟨before, present, _, same, _⟩ := getElem?_resumed index other caller there
    exact ⟨before, present, same ▸ theirs⟩

/-- A resumed call gets the outcome of its attempt. -/
theorem Sound.resumed (sound : state.Sound) (index : Nat) (rest : List Job)
    (queued : state.jobs = .resume index :: rest) :
    Sound { state with
      jobs := rest
      callers := state.callers.modify index fun caller =>
        { caller with answer := state.outcome caller.attempt } } := by
  have later : ∀ job ∈ rest, job ∈ state.jobs := by
    intro job member
    rw [queued]
    exact List.mem_cons_of_mem _ member
  have here : Job.resume index ∈ state.jobs := by simp [queued]
  constructor
  · exact sound.bounded
  · intro caller member
    obtain ⟨other, there⟩ := List.mem_iff_getElem?.mp member
    obtain ⟨before, present, _, same, answers⟩ := getElem?_resumed index other caller there
    obtain ⟨inside, given⟩ := sound.answered before (List.mem_of_getElem? present)
    rw [same]
    refine ⟨inside, fun answer replied => ?_⟩
    rw [answers] at replied
    split at replied
    · exact replied
    · exact given answer replied
  · intro other caller there unanswered
    obtain ⟨before, present, _, same, answers⟩ := getElem?_resumed index other caller there
    rw [unanswered] at answers
    by_cases resumed : other = index
    · subst resumed
      rw [if_pos rfl] at answers
      have inside := (sound.answered before (List.mem_of_getElem? present)).1
      obtain ⟨⟨result, reactions⟩, entry⟩ :=
        Option.isSome_iff_exists.mp (by simpa using inside :
          (state.attempts[before.attempt]?).isSome = true)
      have flying : result = none := by
        rw [outcome, entry] at answers
        exact answers.symm
      subst flying
      exact absurd ⟨before, present, rfl⟩
        ((sound.registered before.attempt reactions entry).2.1 _ here)
    · rw [if_neg resumed] at answers
      rw [same]
      obtain ⟨inFlight, settled⟩ := sound.waiting other before present answers.symm
      refine ⟨inFlight, fun some => ?_⟩
      have member := settled some
      rw [queued] at member
      simpa [resumed] using member
  · intro job member
    have known := sound.queued job (later job member)
    cases job with
    | forget attempt => exact known
    | resume other => simpa [Known] using known
  · intro id reactions there
    obtain ⟨cached, apart, others, first, registered⟩ := sound.registered id reactions there
    refine ⟨cached, fun job member concerned => ?_, others, first, fun job member => ?_⟩
    · exact apart job (later job member) (concerns_resumed index rest id job concerned)
    · obtain ⟨other, rfl, before, present, theirs⟩ := registered job member
      refine ⟨other, rfl, ?_⟩
      simp only [Concerns, List.getElem?_modify, present]
      refine ⟨_, rfl, ?_⟩
      split
      · exact theirs
      · exact theirs
  · exact sound.fulfilled
  · intro id error lost cached
    obtain ⟨⟨front, back, split, apart⟩, unanswered⟩ := sound.rejected id error lost cached
    rw [queued] at split
    rcases split_head _ _ _ _ _ split with ⟨same, _, _⟩ | ⟨more, rfl, there⟩
    · cases same
    · refine ⟨⟨more, back, there, fun job member concerned => ?_⟩, fun caller member theirs => ?_⟩
      · exact apart job (List.mem_cons_of_mem _ member) (concerns_resumed index rest id job concerned)
      · obtain ⟨other, there⟩ := List.mem_iff_getElem?.mp member
        obtain ⟨before, present, _, same, answers⟩ := getElem?_resumed index other caller there
        have elsewhere : other ≠ index := by
          rintro rfl
          exact apart _ List.mem_cons_self ⟨before, present, same ▸ theirs⟩
        rw [answers, if_neg elsewhere]
        exact unanswered before (List.mem_of_getElem? present) (same ▸ theirs)

/-- A job keeps the invariant. -/
theorem Sound.ran (sound : state.Sound) (next : Shared Call Failure Value)
    (ran : state.runJob = some next) : next.Sound := by
  cases state.runJob_ran next ran with
  | forgot id rest queued failed cached => exact sound.forgot id rest queued failed cached
  | kept id rest queued needless => exact sound.kept id rest queued needless
  | resumed index rest queued => exact sound.resumed index rest queued

/-- Every event keeps the invariant. -/
theorem Sound.step (sound : state.Sound) (event : Event Call Failure Value)
    (next : Shared Call Failure Value) (stepped : state.step event = some next) : next.Sound := by
  cases event with
  | join call =>
    cases stepped
    exact sound.join call
  | settle id result => exact sound.settle id result next stepped
  | run => exact sound.ran next stepped

/-! ## What holds of every run -/

/-- One attempt at most is in flight. -/
theorem Sound.inFlight_unique (sound : state.Sound) (one other : Nat) (first : state.InFlight one)
    (second : state.InFlight other) : one = other := by
  have cached : ∀ id, state.InFlight id → state.cached = some id := by
    rintro id ⟨inside, flying⟩
    obtain ⟨⟨result, reactions⟩, entry⟩ :=
      Option.isSome_iff_exists.mp (by simpa using inside : (state.attempts[id]?).isSome = true)
    rw [outcome, entry, Option.bind_some] at flying
    dsimp only at flying
    subst flying
    exact (sound.registered id reactions entry).1
  have both := (cached one first).symm.trans (cached other second)
  rwa [Option.some.injEq] at both

/-- Once its failure has reached a call, an attempt is forgotten. -/
def Forgotten (state : Shared Call Failure Value) (id : Nat) : Prop :=
  id < state.attempts.length ∧ state.cached ≠ some id

theorem Sound.forgotten (sound : state.Sound) (caller : Caller Call Failure Value)
    (member : caller ∈ state.callers) (error : Failure) (lost : caller.answer = some (.error error)) :
    state.Forgotten caller.attempt := by
  obtain ⟨inside, same⟩ := sound.answered caller member
  refine ⟨inside, fun cached => ?_⟩
  have none := (sound.rejected _ error (same _ lost) cached).2 caller member rfl
  rw [none] at lost
  cases lost

/-- When no job is queued, every call whose attempt has settled has its outcome. -/
theorem Sound.settled (sound : state.Sound) (idle : state.jobs = [])
    (caller : Caller Call Failure Value) (member : caller ∈ state.callers) :
    caller.answer = state.outcome caller.attempt := by
  obtain ⟨index, there⟩ := List.mem_iff_getElem?.mp member
  cases given : caller.answer with
  | some answer => exact ((sound.answered caller member).2 answer given).symm
  | none =>
    by_contra settled
    have queued := (sound.waiting index caller there given).2 (Ne.symm settled)
    rw [idle] at queued
    cases queued

/-- How a later state extends an earlier one. -/
structure Extends (state next : Shared Call Failure Value) : Prop where
  attempts : state.attempts.length ≤ next.attempts.length
  outcomes : ∀ id result, state.outcome id = some result → next.outcome id = some result
  forgotten : ∀ id, state.Forgotten id → next.Forgotten id
  callers : ∀ (index : Nat) (caller : Caller Call Failure Value),
    state.callers[index]? = some caller → ∃ later, next.callers[index]? = some later ∧
      later.call = caller.call ∧ later.attempt = caller.attempt ∧
        ∀ answer, caller.answer = some answer → later.answer = some answer
  fresh : ∀ (index : Nat) (caller : Caller Call Failure Value),
    next.callers[index]? = some caller → state.callers.length ≤ index →
      ¬ state.Forgotten caller.attempt
  final : ∀ id value, state.outcome id = some (.ok value) →
    next.attempts.length = state.attempts.length

namespace Extends

theorem refl (state : Shared Call Failure Value) : Extends state state where
  attempts := Nat.le_refl _
  outcomes _ _ found := found
  forgotten _ gone := gone
  callers _ caller there := ⟨caller, there, rfl, rfl, fun _ given => given⟩
  fresh _ _ there beyond := absurd (List.getElem?_eq_some_iff.mp there).1 (Nat.not_lt_of_le beyond)
  final _ _ _ := rfl

theorem trans {first middle last : Shared Call Failure Value} (earlier : Extends first middle)
    (later : Extends middle last) : Extends first last where
  attempts := Nat.le_trans earlier.attempts later.attempts
  outcomes id result found := later.outcomes id result (earlier.outcomes id result found)
  forgotten id gone := later.forgotten id (earlier.forgotten id gone)
  callers := by
    intro index caller there
    obtain ⟨one, present, call, attempt, answers⟩ := earlier.callers index caller there
    obtain ⟨two, stays, again, same, kept⟩ := later.callers index one present
    exact ⟨two, stays, again.trans call, same.trans attempt,
      fun answer given => kept answer (answers answer given)⟩
  fresh := by
    intro index caller there beyond gone
    by_cases inside : index < middle.callers.length
    · obtain ⟨two, stays, _, same, _⟩ := later.callers index _ (List.getElem?_eq_getElem inside)
      rw [there, Option.some.injEq] at stays
      rw [stays, same] at gone
      exact earlier.fresh index _ (List.getElem?_eq_getElem inside) beyond gone
    · exact later.fresh index caller there (Nat.le_of_not_lt inside)
        (earlier.forgotten caller.attempt gone)
  final := by
    intro id value won
    exact (later.final id value (earlier.outcomes id _ won)).trans (earlier.final id value won)

/-- A call comes. -/
theorem join (sound : state.Sound) (call : Call) : Extends state (state.join call) where
  attempts := by
    rw [Shared.join, await_length, ensure]
    split
    · exact Nat.le_refl _
    · simp
  outcomes id result found := by
    rw [Shared.join, await_outcome, ensure_outcome]
    exact found
  forgotten := by
    rintro id ⟨inside, apart⟩
    constructor
    · rw [Shared.join, await_length, ensure]
      split
      · exact inside
      · exact Nat.lt_of_lt_of_le inside (by simp)
    · rw [Shared.join, await_cached, ensure]
      split
      · next other cached => exact apart
      · simp only [ne_eq, Option.some.injEq]
        omega
  callers := by
    intro index caller there
    refine ⟨caller, ?_, rfl, rfl, fun _ given => given⟩
    rw [Shared.join, await_callers, ensure_callers,
      List.getElem?_append_left (List.getElem?_eq_some_iff.mp there).1]
    exact there
  fresh := by
    intro index caller there beyond
    rw [Shared.join, await_callers, ensure_callers] at there
    obtain ⟨_, rfl⟩ := getElem?_new state.callers _ index caller (Nat.not_lt_of_le beyond) there
    rintro ⟨inside, apart⟩
    dsimp only at inside apart
    rw [ensure] at inside apart
    split at inside
    · next id cached =>
      rw [cached] at apart
      exact apart rfl
    · exact absurd inside (Nat.lt_irrefl _)
  final := by
    intro id value won
    have cached := sound.fulfilled id value won
    rw [Shared.join, await_length, ensure, cached]

/-- An attempt settles. -/
theorem settle (id : Nat) (result : Except Failure Value)
    (next : Shared Call Failure Value) (settled : state.settle id result = some next) :
    Extends state next := by
  have outcomes := state.settle_outcome id result next settled
  obtain ⟨reactions, found, rfl⟩ := state.settle_cases id result next settled
  constructor
  · simp
  · intro other answer there
    rw [outcomes]
    split
    · next here =>
      rw [here, outcome, found] at there
      cases there
    · exact there
  · rintro other ⟨inside, apart⟩
    exact ⟨by simpa using inside, apart⟩
  · exact fun index caller there => ⟨caller, there, rfl, rfl, fun _ given => given⟩
  · exact fun index caller there beyond =>
      absurd (List.getElem?_eq_some_iff.mp there).1 (Nat.not_lt_of_le beyond)
  · simp

/-- A job runs. -/
theorem ran (sound : state.Sound) (next : Shared Call Failure Value)
    (ran : state.runJob = some next) : Extends state next := by
  cases state.runJob_ran next ran with
  | forgot id rest queued failed cached =>
    refine ⟨Nat.le_refl _, fun _ _ found => found, fun other gone => ⟨gone.1, by simp⟩,
      fun index caller there => ⟨caller, there, rfl, rfl, fun _ given => given⟩, ?_, fun _ _ _ => rfl⟩
    exact fun index caller there beyond =>
      absurd (List.getElem?_eq_some_iff.mp there).1 (Nat.not_lt_of_le beyond)
  | kept id rest queued needless =>
    refine ⟨Nat.le_refl _, fun _ _ found => found, fun other gone => gone,
      fun index caller there => ⟨caller, there, rfl, rfl, fun _ given => given⟩, ?_, fun _ _ _ => rfl⟩
    exact fun index caller there beyond =>
      absurd (List.getElem?_eq_some_iff.mp there).1 (Nat.not_lt_of_le beyond)
  | resumed index rest queued =>
    refine ⟨Nat.le_refl _, fun _ _ found => found, fun other gone => gone, ?_, ?_, fun _ _ _ => rfl⟩
    · intro other caller there
      have present : other < state.callers.length := (List.getElem?_eq_some_iff.mp there).1
      obtain ⟨later, stays⟩ := Option.isSome_iff_exists.mp (by simpa using present :
        ((state.callers.modify index fun caller =>
          { caller with answer := state.outcome caller.attempt })[other]?).isSome = true)
      obtain ⟨before, same, call, attempt, answers⟩ := getElem?_resumed index other later stays
      rw [there, Option.some.injEq] at same
      subst same
      refine ⟨later, stays, call, attempt, fun answer given => ?_⟩
      rw [answers]
      split
      · exact (sound.answered caller (List.mem_of_getElem? there)).2 answer given
      · exact given
    · intro other caller there beyond
      exact absurd (by simpa using (List.getElem?_eq_some_iff.mp there).1) (Nat.not_lt_of_le beyond)

/-- Every event extends the state. -/
theorem step (sound : state.Sound) (event : Event Call Failure Value)
    (next : Shared Call Failure Value) (stepped : state.step event = some next) :
    Extends state next := by
  cases event with
  | join call =>
    cases stepped
    exact join sound call
  | settle id result => exact settle id result next stepped
  | run => exact Extends.ran sound next stepped

end Extends

/-- The queue gets shorter with each job that runs. -/
theorem runJob_length (next : Shared Call Failure Value) (ran : state.runJob = some next) :
    state.jobs.length = next.jobs.length + 1 := by
  cases state.runJob_ran next ran with
  | forgot id rest queued => simp [queued]
  | kept id rest queued => simp [queued]
  | resumed index rest queued => simp [queued]

/-- A queued job can run. -/
theorem runJob_some (queued : state.jobs ≠ []) : ∃ next, state.runJob = some next := by
  rw [runJob]
  split
  · next idle => exact absurd idle queued
  · split <;> exact ⟨_, rfl⟩
  · exact ⟨_, rfl⟩

end Shared

end TraxOs.Theory
