import Mathlib.Logic.Relation
import TraxOs.Theory.Program

/-!
# Programs that await

An asynchronous function runs in synchronous stretches. Between two of them it awaits a
request, and while it does others may change the world. A request takes effect at one
moment, where it is answered or refused. It may also reject before that moment, without an
effect, or after it, although it has taken effect.

Calls of such functions go through a gate that lets one of them run at a time. A course is
what the calls, and the steps of the others between them, have made of a world. Everything
is a function of the schedule, so that a course can be computed, and the rules below say
what holds in each course whose steps follow a rule.
-/

namespace TraxOs.Theory

/-- What an asynchronous function does next: look at the world, change it in the same
stretch, or await a request. -/
inductive Move (World Request : Type) where
  | look
  | become (world : World)
  | await (request : Request)

/-- What the function goes on with. An awaited request may have rejected. -/
def Move.Answer {World Request : Type} (Reply : Request → Type) (Failure : Type) :
    Move World Request → Type
  | .look => World
  | .become _ => Unit
  | .await request => Except Failure (Reply request)

/-- An asynchronous function on a world. -/
abbrev Async (World : Type) {Request : Type} (Reply : Request → Type) (Failure α : Type) :=
  Program (Move World Request) (Move.Answer Reply Failure) Failure α

namespace Async

variable {World Request Failure α : Type} {Reply : Request → Type}

/-- The world at this moment. -/
def look : Async World Reply Failure World := .perform .look .done

/-- Change the world. -/
def become (world : World) : Async World Reply Failure Unit := .perform (.become world) .done

/-- Change the world by a function of itself. -/
def modify (change : World → World) : Async World Reply Failure Unit :=
  .perform .look fun world => .perform (.become (change world)) .done

/-- Go on with a value, or throw. -/
def ofExcept : Except Failure α → Async World Reply Failure α
  | .ok value => .done value
  | .error error => .fail error

/-- Await a request and throw what it rejects with. -/
def await (request : Request) : Async World Reply Failure (Reply request) :=
  .perform (.await request) ofExcept

/-- Await a request and go on with its rejection too, as a handler does. -/
def settled (request : Request) : Async World Reply Failure (Except Failure (Reply request)) :=
  .perform (.await request) .done

@[simp] theorem ofExcept_ok (value : α) :
    (ofExcept (.ok value) : Async World Reply Failure α) = .done value := rfl

@[simp] theorem ofExcept_error (error : Failure) :
    (ofExcept (.error error) : Async World Reply Failure α) = .fail error := rfl

/-- An awaited request is a sequence that returns its answer. -/
theorem await_done (request : Request) :
    (await request >>= .done : Async World Reply Failure (Reply request)) = await request := by
  refine congrArg (Program.perform (Move.await request)) (funext fun answer => ?_)
  cases answer with
  | ok value => rfl
  | error error => rfl

end Async

/-- The others: what a request does when it takes effect, and what a step of somebody else
does. -/
structure Host (World Step Failure : Type) {Request : Type} (Reply : Request → Type) where
  effect : (request : Request) → World → Except Failure (Reply request) × World
  step : Step → World → World

/-- How one request fares, with the steps of the others before and after its effect. -/
inductive Pause (Step Failure : Type) where
  | waits (before : List Step)
  | rejects (before : List Step) (error : Failure)
  | lingers (before after : List Step)
  | rejectsAfter (before after : List Step) (error : Failure)
  | resolves (before after : List Step)

/-- The steps that the others take meanwhile. -/
def Pause.steps {Step Failure : Type} : Pause Step Failure → List Step
  | .waits before => before
  | .rejects before _ => before
  | .lingers before after => before ++ after
  | .rejectsAfter before after _ => before ++ after
  | .resolves before after => before ++ after

/-- Nobody else takes a step meanwhile. -/
def Pause.alone {Step Failure : Type} (pause : Pause Step Failure) : Bool := pause.steps.isEmpty

/-- Where a request stands while somebody else takes a step. -/
inductive Stage (Request : Type) where
  | sent (request : Request)
  | served (request : Request)

/-- What the steps and the effects of a course are taken to be. -/
structure Rule (World Step Request : Type) where
  step : Stage Request → World → Step → Prop
  effect : Request → World → Prop

namespace Host

variable {World Step Failure Request α β : Type} {Reply : Request → Type}

section Execution

variable (host : Host World Step Failure Reply)

/-- Take some steps. -/
def steps (world : World) (list : List Step) : World :=
  list.foldl (fun reached step => host.step step reached) world

/-- What one pause brings: the answer, unless the function still waits, and the world. -/
def pass (request : Request) (world : World) :
    Pause Step Failure → Option (Except Failure (Reply request)) × World
  | .waits before => (none, host.steps world before)
  | .rejects before error => (some (.error error), host.steps world before)
  | .lingers before after =>
    (none, host.steps (host.effect request (host.steps world before)).2 after)
  | .rejectsAfter before after error =>
    (some (.error error), host.steps (host.effect request (host.steps world before)).2 after)
  | .resolves before after =>
    (some (host.effect request (host.steps world before)).1,
      host.steps (host.effect request (host.steps world before)).2 after)

/-- Execute a function under a schedule. There is no outcome while it waits. -/
def execute : Async World Reply Failure α → List (Pause Step Failure) → World →
    Option (Except Failure α) × World
  | .done value, _, world => (some (.ok value), world)
  | .fail error, _, world => (some (.error error), world)
  | .perform .look next, pauses, world => execute (next world) pauses world
  | .perform (.become changed) next, pauses, _ => execute (next ()) pauses changed
  | .perform (.await _) _, [], world => (none, world)
  | .perform (.await request) next, pause :: pauses, world =>
    match host.pass request world pause with
    | (none, reached) => (none, reached)
    | (some answer, reached) => execute (next answer) pauses reached

end Execution

section Rules

variable (host : Host World Step Failure Reply) (rule : Rule World Step Request)

/-- Steps that follow the rule. -/
def Follow (stage : Stage Request) : World → List Step → Prop
  | _, [] => True
  | world, step :: rest => rule.step stage world step ∧ Follow stage (host.step step world) rest

/-- A pause that follows the rule. -/
def Passes (request : Request) (world : World) : Pause Step Failure → Prop
  | .waits before => host.Follow rule (.sent request) world before
  | .rejects before _ => host.Follow rule (.sent request) world before
  | .lingers before after => host.Follow rule (.sent request) world before ∧
      rule.effect request (host.steps world before) ∧
        host.Follow rule (.served request) (host.effect request (host.steps world before)).2 after
  | .rejectsAfter before after _ => host.Follow rule (.sent request) world before ∧
      rule.effect request (host.steps world before) ∧
        host.Follow rule (.served request) (host.effect request (host.steps world before)).2 after
  | .resolves before after => host.Follow rule (.sent request) world before ∧
      rule.effect request (host.steps world before) ∧
        host.Follow rule (.served request) (host.effect request (host.steps world before)).2 after

/-- An execution whose pauses follow the rule. -/
def Obeys : Async World Reply Failure α → List (Pause Step Failure) → World → Prop
  | .done _, _, _ => True
  | .fail _, _, _ => True
  | .perform .look next, pauses, world => Obeys (next world) pauses world
  | .perform (.become changed) next, pauses, _ => Obeys (next ()) pauses changed
  | .perform (.await _) _, [], _ => True
  | .perform (.await request) next, pause :: pauses, world =>
    host.Passes rule request world pause ∧
      ∀ answer, (host.pass request world pause).1 = some answer →
        Obeys (next answer) pauses (host.pass request world pause).2

/-- The worlds that the others can bring about while a request stands at a stage. -/
abbrev Reaches (stage : Stage Request) : World → World → Prop :=
  Relation.ReflTransGen fun world next =>
    ∃ step, rule.step stage world step ∧ next = host.step step world

/-- Whatever the others do by the rule, `always` holds while the function waits and `ends`
holds of its outcome. -/
def Safe (always : World → Prop) (ends : Except Failure α → World → Prop) :
    Async World Reply Failure α → World → Prop
  | .done value, world => ends (.ok value) world
  | .fail error, world => ends (.error error) world
  | .perform .look next, world => Safe always ends (next world) world
  | .perform (.become changed) next, _ => Safe always ends (next ()) changed
  | .perform (.await request) next, world =>
    ∀ before, host.Reaches rule (.sent request) world before →
      always before ∧ (∀ error, Safe always ends (next (.error error)) before) ∧
        (rule.effect request before →
          ∀ after, host.Reaches rule (.served request) (host.effect request before).2 after →
            always after ∧ (∀ error, Safe always ends (next (.error error)) after) ∧
              Safe always ends (next (host.effect request before).1) after)

end Rules

section Soundness

variable {host : Host World Step Failure Reply} {rule : Rule World Step Request}

/-- Steps by the rule reach a world. -/
theorem reaches_steps (stage : Stage Request) (world : World) (list : List Step)
    (follow : host.Follow rule stage world list) :
    host.Reaches rule stage world (host.steps world list) := by
  induction list generalizing world with
  | nil => exact .refl
  | cons step rest inductionHypothesis =>
    exact .head ⟨step, follow.1, rfl⟩ (inductionHypothesis _ follow.2)

/-- An assertion that each step keeps holds in each world that the others bring about. -/
theorem reaches_keeps (stage : Stage Request) (held : World → Prop)
    (stable : ∀ world step, held world → rule.step stage world step →
      held (host.step step world))
    (world reached : World) (reaches : host.Reaches rule stage world reached) (start : held world) :
    held reached := by
  induction reaches with
  | refl => exact start
  | tail _ last inductionHypothesis =>
    obtain ⟨step, follows, rfl⟩ := last
    exact stable _ step inductionHypothesis follows

variable {always : World → Prop} {ends : Except Failure α → World → Prop}

/-- A schedule in which nobody else takes a step follows a rule that admits every effect. -/
theorem obeys_alone (effects : ∀ request world, rule.effect request world)
    (program : Async World Reply Failure α) (pauses : List (Pause Step Failure)) (world : World)
    (alone : pauses.all Pause.alone = true) : host.Obeys rule program pauses world := by
  induction program generalizing pauses world with
  | done value => trivial
  | fail error => trivial
  | perform move next inductionHypothesis =>
    cases move with
    | look => exact inductionHypothesis _ pauses world alone
    | become changed => exact inductionHypothesis _ pauses changed alone
    | await request =>
      cases pauses with
      | nil => trivial
      | cons pause pauses =>
        rw [List.all_cons, Bool.and_eq_true] at alone
        refine ⟨?_, fun answer _ => inductionHypothesis answer pauses _ alone.2⟩
        have steps := List.isEmpty_iff.mp alone.1
        cases pause with
        | waits before =>
          obtain rfl : before = [] := steps
          trivial
        | rejects before error =>
          obtain rfl : before = [] := steps
          trivial
        | lingers before after =>
          obtain ⟨rfl, rfl⟩ := List.append_eq_nil_iff.mp steps
          exact ⟨trivial, effects _ _, trivial⟩
        | rejectsAfter before after error =>
          obtain ⟨rfl, rfl⟩ := List.append_eq_nil_iff.mp steps
          exact ⟨trivial, effects _ _, trivial⟩
        | resolves before after =>
          obtain ⟨rfl, rfl⟩ := List.append_eq_nil_iff.mp steps
          exact ⟨trivial, effects _ _, trivial⟩

/-- What a safe function has brought about, at each point of an execution by the rule. -/
theorem safe_execute (program : Async World Reply Failure α) (pauses : List (Pause Step Failure))
    (world : World) (safe : host.Safe rule always ends program world)
    (obeys : host.Obeys rule program pauses world) :
    (∀ outcome, (host.execute program pauses world).1 = some outcome →
      ends outcome (host.execute program pauses world).2) ∧
      ((host.execute program pauses world).1 = none →
        always (host.execute program pauses world).2) := by
  induction program generalizing pauses world with
  | done value =>
    refine ⟨?_, fun waiting => by cases waiting⟩
    rintro outcome ⟨⟩
    exact safe
  | fail error =>
    refine ⟨?_, fun waiting => by cases waiting⟩
    rintro outcome ⟨⟩
    exact safe
  | perform move next inductionHypothesis =>
    cases move with
    | look => exact inductionHypothesis world pauses world safe obeys
    | become changed => exact inductionHypothesis () pauses changed safe obeys
    | await request =>
      cases pauses with
      | nil =>
        refine ⟨(fun outcome ended => by cases ended), fun _ => ?_⟩
        exact (safe world .refl).1
      | cons pause pauses =>
        obtain ⟨passes, later⟩ := obeys
        cases pause with
        | waits before =>
          refine ⟨(fun outcome ended => by cases ended), fun _ => ?_⟩
          exact (safe _ (reaches_steps _ world before passes)).1
        | rejects before error =>
          have sent := safe _ (reaches_steps _ world before passes)
          exact inductionHypothesis _ pauses _ (sent.2.1 error) (later _ rfl)
        | lingers before after =>
          obtain ⟨first, effect, last⟩ := passes
          have sent := safe _ (reaches_steps _ world before first)
          refine ⟨(fun outcome ended => by cases ended), fun _ => ?_⟩
          exact (sent.2.2 effect _ (reaches_steps _ _ after last)).1
        | rejectsAfter before after error =>
          obtain ⟨first, effect, last⟩ := passes
          have sent := safe _ (reaches_steps _ world before first)
          have served := sent.2.2 effect _ (reaches_steps _ _ after last)
          exact inductionHypothesis _ pauses _ (served.2.1 error) (later _ rfl)
        | resolves before after =>
          obtain ⟨first, effect, last⟩ := passes
          have sent := safe _ (reaches_steps _ world before first)
          have served := sent.2.2 effect _ (reaches_steps _ _ after last)
          exact inductionHypothesis _ pauses _ served.2.2 (later _ rfl)

/-- A function is safe for whatever its guarantee implies. -/
theorem safe_mono (program : Async World Reply Failure α) (world : World)
    {weaker : World → Prop} {weakerEnds : Except Failure α → World → Prop}
    (implies : ∀ reached, always reached → weaker reached)
    (impliesEnds : ∀ outcome reached, ends outcome reached → weakerEnds outcome reached)
    (safe : host.Safe rule always ends program world) :
    host.Safe rule weaker weakerEnds program world := by
  induction program generalizing world with
  | done value => exact impliesEnds _ _ safe
  | fail error => exact impliesEnds _ _ safe
  | perform move next inductionHypothesis =>
    cases move with
    | look => exact inductionHypothesis _ _ safe
    | become changed => exact inductionHypothesis _ _ safe
    | await request =>
      intro before sent
      obtain ⟨visible, rejected, served⟩ := safe before sent
      refine ⟨implies _ visible, fun error => inductionHypothesis _ _ (rejected error), ?_⟩
      intro effect after reached
      obtain ⟨visible, rejected, resolved⟩ := served effect after reached
      exact ⟨implies _ visible, fun error => inductionHypothesis _ _ (rejected error),
        inductionHypothesis _ _ resolved⟩

/-- What a function has to establish for the rest of a sequence. -/
def Then (host : Host World Step Failure Reply) (rule : Rule World Step Request)
    (always : World → Prop) (ends : Except Failure β → World → Prop)
    (rest : α → Async World Reply Failure β) : Except Failure α → World → Prop
  | .ok value, reached => host.Safe rule always ends (rest value) reached
  | .error error, reached => ends (.error error) reached

/-- A sequence is safe when its first part leads to a safe rest. -/
theorem safe_bind (program : Async World Reply Failure α) (rest : α → Async World Reply Failure β)
    {ends : Except Failure β → World → Prop} (world : World)
    (safe : host.Safe rule always (host.Then rule always ends rest) program world) :
    host.Safe rule always ends (program >>= rest) world := by
  induction program generalizing world with
  | done value => exact safe
  | fail error => exact safe
  | perform move next inductionHypothesis =>
    cases move with
    | look => exact inductionHypothesis _ _ safe
    | become changed => exact inductionHypothesis _ _ safe
    | await request =>
      intro before sent
      obtain ⟨visible, rejected, served⟩ := safe before sent
      refine ⟨visible, fun error => inductionHypothesis _ _ (rejected error), ?_⟩
      intro effect after reached
      obtain ⟨visible, rejected, resolved⟩ := served effect after reached
      exact ⟨visible, fun error => inductionHypothesis _ _ (rejected error),
        inductionHypothesis _ _ resolved⟩

/-- A function that may throw at any point only ever leaves `always`; when it returns, it leaves
more. -/
def Ends (always : World → Prop) (returns : α → World → Prop) : Except Failure α → World → Prop
  | .ok value, reached => always reached ∧ returns value reached
  | .error _, reached => always reached

/-- At some stages the others stay within a preorder that `always` is closed under. -/
structure Steady (host : Host World Step Failure Reply) (rule : Rule World Step Request)
    (stages : Stage Request → Prop) (related : World → World → Prop) (always : World → Prop) :
    Prop where
  refl : ∀ world, related world world
  trans : ∀ first second third, related first second → related second third → related first third
  steps : ∀ stage, stages stage → ∀ world step, rule.step stage world step →
    related world (host.step step world)
  closed : ∀ world reached, always world → related world reached → always reached

namespace Steady

variable {stages earlier : Stage Request → Prop} {related waiting : World → World → Prop}
variable {later : β → World → Prop}

/-- What the others bring about is related. -/
theorem reaches (steady : Steady host rule stages related always) (stage : Stage Request)
    (covered : stages stage) (world reached : World) (goes : host.Reaches rule stage world reached) :
    related world reached :=
  reaches_keeps stage (related world)
    (fun _ step here follows => steady.trans _ _ _ here (steady.steps stage covered _ step follows))
    world reached goes (steady.refl world)

/-- Await a request, and handle its rejection. The others may stay within one preorder while the
request is on its way, and within another afterwards. -/
theorem settled {finish : Except Failure β → World → Prop}
    (before : Steady host rule earlier waiting always)
    (after : Steady host rule stages related always) (request : Request)
    (sent : earlier (.sent request)) (served : stages (.served request))
    (next : Except Failure (Reply request) → Async World Reply Failure β) (world : World)
    (holds : always world)
    (effect : ∀ reached, waiting world reached → rule.effect request reached →
      always (host.effect request reached).2)
    (rejected : ∀ reached error, waiting world reached → always reached →
      host.Safe rule always finish (next (.error error)) reached)
    (rejectedAfter : ∀ reached last error, waiting world reached → rule.effect request reached →
      related (host.effect request reached).2 last → always last →
        host.Safe rule always finish (next (.error error)) last)
    (answered : ∀ reached last, waiting world reached → rule.effect request reached →
      related (host.effect request reached).2 last → always last →
        host.Safe rule always finish (next (host.effect request reached).1) last) :
    host.Safe rule always finish (.perform (.await request) next) world := by
  intro reached goes
  have here := before.reaches _ sent world reached goes
  have still := before.closed world reached holds here
  refine ⟨still, fun error => rejected reached error here still, ?_⟩
  intro effected last goes
  have there := after.reaches _ served _ last goes
  have kept := after.closed _ last (effect reached here effected) there
  exact ⟨kept, fun error => rejectedAfter reached last error here effected there kept,
    answered reached last here effected there kept⟩

/-- Await a request and throw its rejection. -/
theorem await (before : Steady host rule earlier waiting always)
    (after : Steady host rule stages related always) (request : Request)
    (sent : earlier (.sent request)) (served : stages (.served request))
    (rest : Reply request → Async World Reply Failure β) (world : World) (holds : always world)
    (effect : ∀ reached, waiting world reached → rule.effect request reached →
      always (host.effect request reached).2)
    (resolved : ∀ reached last value, waiting world reached → rule.effect request reached →
      related (host.effect request reached).2 last → always last →
        (host.effect request reached).1 = .ok value →
          host.Safe rule always (Ends always later) (rest value) last) :
    host.Safe rule always (Ends always later) (Async.await request >>= rest) world := by
  refine settled before after request sent served _ world holds effect (fun _ _ _ still => still)
    (fun _ _ _ _ _ _ still => still) ?_
  intro reached last here effected there still
  cases answer : (host.effect request reached).1 with
  | error error => exact still
  | ok value => exact resolved reached last value here effected there still answer

/-- Await a request whose effect stays within the preorder too. -/
theorem quiet (steady : Steady host rule stages related always) (request : Request)
    (covered : stages (.sent request) ∧ stages (.served request))
    (quiet : ∀ reached, always reached → rule.effect request reached →
      related reached (host.effect request reached).2)
    (rest : Reply request → Async World Reply Failure β) (world : World) (holds : always world)
    (resolved : ∀ reached last value, related world reached → related reached last → always last →
      (host.effect request reached).1 = .ok value →
        host.Safe rule always (Ends always later) (rest value) last) :
    host.Safe rule always (Ends always later) (Async.await request >>= rest) world := by
  refine await steady steady request covered.1 covered.2 rest world holds ?_ ?_
  · intro reached here effected
    have still := steady.closed world reached holds here
    exact steady.closed reached _ still (quiet reached still effected)
  · intro reached last value here effected there still answer
    have before := steady.closed world reached holds here
    exact resolved reached last value here
      (steady.trans _ _ _ (quiet reached before effected) there) still answer

end Steady

/-- A look goes on with the world of the moment. -/
theorem safe_look {ends : Except Failure β → World → Prop}
    (rest : World → Async World Reply Failure β) (world : World)
    (safe : host.Safe rule always ends (rest world) world) :
    host.Safe rule always ends (Async.look >>= rest) world := safe

/-- A change goes on in the changed world. -/
theorem safe_become {ends : Except Failure β → World → Prop}
    (rest : Unit → Async World Reply Failure β) (world changed : World)
    (safe : host.Safe rule always ends (rest ()) changed) :
    host.Safe rule always ends (Async.become changed >>= rest) world := safe

theorem safe_modify {ends : Except Failure β → World → Prop} (change : World → World)
    (rest : Unit → Async World Reply Failure β) (world : World)
    (safe : host.Safe rule always ends (rest ()) (change world)) :
    host.Safe rule always ends (Async.modify change >>= rest) world := safe

/-- A sequence, when its first part returns into a safe rest. -/
theorem safe_sequence {returns : α → World → Prop} {later : β → World → Prop}
    (program : Async World Reply Failure α) (rest : α → Async World Reply Failure β) (world : World)
    (first : host.Safe rule always (Ends always returns) program world)
    (next : ∀ value reached, always reached → returns value reached →
      host.Safe rule always (Ends always later) (rest value) reached) :
    host.Safe rule always (Ends always later) (program >>= rest) world := by
  apply safe_bind
  refine safe_mono program world (fun _ still => still) ?_ first
  intro outcome reached ended
  cases outcome with
  | ok value => exact next value reached ended.1 ended.2
  | error error => exact ended

/-- What a function leaves when it returns may be weakened. -/
theorem safe_returns {returns weaker : α → World → Prop} (program : Async World Reply Failure α)
    (world : World) (first : host.Safe rule always (Ends always returns) program world)
    (implies : ∀ value reached, always reached → returns value reached → weaker value reached) :
    host.Safe rule always (Ends always weaker) program world := by
  refine safe_mono program world (fun _ still => still) ?_ first
  intro outcome reached ended
  cases outcome with
  | ok value => exact ⟨ended.1, implies value reached ended.1 ended.2⟩
  | error error => exact ended

/-- A computed value is returned or thrown. -/
theorem safe_ofExcept {returns : α → World → Prop} (result : Except Failure α) (world : World)
    (holds : always world) (value : ∀ value, result = .ok value → returns value world) :
    host.Safe rule always (Ends always returns) (Async.ofExcept result) world := by
  cases result with
  | ok computed => exact ⟨holds, value computed rfl⟩
  | error error => exact holds

end Soundness

end Host

/-- What calls behind a gate, and the steps between them, have made of a world. One call may
still be waiting. -/
structure Course (World Operation Failure Value : Type) where
  history : List (Operation × Except Failure Value)
  waiting : Option Operation
  world : World

/-- What happens to a course: somebody else takes a step between two calls, or a call is
executed under a schedule. -/
inductive Happening (Operation Step Failure : Type) where
  | meanwhile (step : Step)
  | call (operation : Operation) (pauses : List (Pause Step Failure))

/-- A rule for courses: also for the steps between the calls, and for the calls. -/
structure CourseRule (World Step Request Operation : Type) extends Rule World Step Request where
  idle : World → Step → Prop
  call : Operation → World → Prop

namespace Course

variable {World Step Failure Request Operation Value : Type} {Reply : Request → Type}

/-- A course that has not begun. -/
def initial (world : World) : Course World Operation Failure Value := ⟨[], none, world⟩

section Execution

variable (host : Host World Step Failure Reply)
variable (body : Operation → Async World Reply Failure Value)

/-- What a call makes of a course. -/
def close (course : Course World Operation Failure Value) (operation : Operation) :
    Option (Except Failure Value) × World → Course World Operation Failure Value
  | (some outcome, reached) => ⟨course.history ++ [(operation, outcome)], none, reached⟩
  | (none, reached) => ⟨course.history, some operation, reached⟩

/-- One happening. While a call waits, the gate holds the others back, and what the others
outside the gate do is part of the call's schedule. -/
def advance (course : Course World Operation Failure Value)
    (happening : Happening Operation Step Failure) : Course World Operation Failure Value :=
  match course.waiting, happening with
  | some _, _ => course
  | none, .meanwhile step => { course with world := host.step step course.world }
  | none, .call operation pauses =>
    course.close operation (host.execute (body operation) pauses course.world)

/-- Several happenings. -/
def after (course : Course World Operation Failure Value)
    (happenings : List (Happening Operation Step Failure)) : Course World Operation Failure Value :=
  happenings.foldl (advance host body) course

variable (rule : CourseRule World Step Request Operation)

/-- A happening that the rule admits. -/
def Admits (course : Course World Operation Failure Value) :
    Happening Operation Step Failure → Prop
  | .meanwhile step => rule.idle course.world step
  | .call operation pauses =>
    rule.call operation course.world ∧ host.Obeys rule.toRule (body operation) pauses course.world

/-- Happenings that the rule admits, one after another. Nothing is asked of what comes after
a call that still waits. -/
def Lawful : Course World Operation Failure Value → List (Happening Operation Step Failure) → Prop
  | _, [] => True
  | course, happening :: rest =>
    (course.waiting = none → Admits host body rule course happening) ∧
      Lawful (advance host body course happening) rest

end Execution

/-- What holds of a course between its calls, and during one. -/
def Holds (between : List (Operation × Except Failure Value) → World → Prop)
    (during : List (Operation × Except Failure Value) → Operation → World → Prop)
    (course : Course World Operation Failure Value) : Prop :=
  match course.waiting with
  | none => between course.history course.world
  | some operation => during course.history operation course.world

section Soundness

variable {host : Host World Step Failure Reply}
variable {body : Operation → Async World Reply Failure Value}
variable {rule : CourseRule World Step Request Operation}
variable {between : List (Operation × Except Failure Value) → World → Prop}
variable {during : List (Operation × Except Failure Value) → Operation → World → Prop}

/-- What the steps between the calls keep, and each call leads back to, one happening keeps. -/
theorem holds_advance
    (idle : ∀ history world step, between history world → rule.idle world step →
      between history (host.step step world))
    (calls : ∀ history operation world, between history world → rule.call operation world →
      host.Safe rule.toRule (during history operation)
        (fun outcome reached => between (history ++ [(operation, outcome)]) reached)
        (body operation) world)
    (course : Course World Operation Failure Value) (happening : Happening Operation Step Failure)
    (holds : course.Holds between during)
    (admits : course.waiting = none → Admits host body rule course happening) :
    (advance host body course happening).Holds between during := by
  obtain ⟨history, waiting, world⟩ := course
  cases waiting with
  | some operation => exact holds
  | none =>
    cases happening with
    | meanwhile step => exact idle history world step holds (admits rfl)
    | call operation pauses =>
      obtain ⟨called, obeys⟩ := admits rfl
      have safe := calls history operation world holds called
      obtain ⟨ended, stopped⟩ := Host.safe_execute (body operation) pauses world safe obeys
      simp only [advance]
      generalize host.execute (body operation) pauses world = executed at ended stopped ⊢
      obtain ⟨outcome, reached⟩ := executed
      cases outcome with
      | none => exact stopped rfl
      | some outcome => exact ended outcome rfl

/-- The same of a whole course. -/
theorem holds_after
    (idle : ∀ history world step, between history world → rule.idle world step →
      between history (host.step step world))
    (calls : ∀ history operation world, between history world → rule.call operation world →
      host.Safe rule.toRule (during history operation)
        (fun outcome reached => between (history ++ [(operation, outcome)]) reached)
        (body operation) world)
    (course : Course World Operation Failure Value)
    (happenings : List (Happening Operation Step Failure)) (holds : course.Holds between during)
    (lawful : Lawful host body rule course happenings) :
    (course.after host body happenings).Holds between during := by
  induction happenings generalizing course with
  | nil => exact holds
  | cons happening rest inductionHypothesis =>
    exact inductionHypothesis _ (holds_advance idle calls course happening holds lawful.1) lawful.2

/-- A call during which nobody else takes a step is admitted where it may be made. -/
theorem admits_alone (effects : ∀ request world, rule.effect request world) (operation : Operation)
    (pauses : List (Pause Step Failure)) (course : Course World Operation Failure Value)
    (called : rule.call operation course.world) (alone : pauses.all Pause.alone = true) :
    Admits host body rule course (.call operation pauses) :=
  ⟨called, Host.obeys_alone effects (body operation) pauses course.world alone⟩

/-- One more happening that the rule admits. -/
theorem lawful_snoc (course : Course World Operation Failure Value)
    (happenings : List (Happening Operation Step Failure)) (last : Happening Operation Step Failure)
    (lawful : Lawful host body rule course happenings)
    (admits : Admits host body rule (course.after host body happenings) last) :
    Lawful host body rule course (happenings ++ [last]) := by
  induction happenings generalizing course with
  | nil => exact ⟨fun _ => admits, trivial⟩
  | cons happening rest inductionHypothesis =>
    exact ⟨lawful.1, inductionHypothesis _ lawful.2 admits⟩

end Soundness

end Course

end TraxOs.Theory
