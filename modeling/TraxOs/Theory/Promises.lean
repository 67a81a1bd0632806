import Mathlib.Logic.Function.Basic

/-!
# Promises and jobs

What JavaScript does with promises. A promise is pending, with the reactions that wait for
it, or settled. When it settles its reactions are queued in the order in which they were
registered; a reaction to a settled promise is queued at once. Queued jobs run one by one.

Promises have names. One that nobody has made yet is pending and nothing waits for it.
-/

namespace TraxOs.Theory

/-- A promise: how it settled, if it did, and what waits for it. -/
structure Promise (Reaction Outcome : Type) where
  outcome : Option Outcome
  reactions : List Reaction

/-- All promises and the queued jobs. A job is a reaction with what it is resumed with. -/
structure Engine (Name Reaction Outcome : Type) where
  promises : Name → Promise Reaction Outcome
  jobs : List (Reaction × Outcome)

namespace Engine

variable {Name Reaction Outcome : Type} [DecidableEq Name]
variable (engine : Engine Name Reaction Outcome)

/-- How a promise settled. -/
def outcome (name : Name) : Option Outcome := (engine.promises name).outcome

/-- A promise is resolved or rejected. For a settled one this does nothing. -/
def settle (name : Name) (result : Outcome) : Engine Name Reaction Outcome :=
  match (engine.promises name).outcome with
  | some _ => engine
  | none =>
    { promises := Function.update engine.promises name ⟨some result, []⟩
      jobs := engine.jobs ++ (engine.promises name).reactions.map fun reaction =>
        (reaction, result) }

/-- `await`: the rest of the function is a reaction to the promise. -/
def await (name : Name) (reaction : Reaction) : Engine Name Reaction Outcome :=
  match (engine.promises name).outcome with
  | some result => { engine with jobs := engine.jobs ++ [(reaction, result)] }
  | none =>
    { engine with
      promises := Function.update engine.promises name
        ⟨none, (engine.promises name).reactions ++ [reaction]⟩ }

variable {engine} {name : Name}

/-- A pending promise settles. -/
theorem settle_pending (reactions : List Reaction) (result : Outcome)
    (pending : engine.promises name = ⟨none, reactions⟩) :
    engine.settle name result =
      ⟨Function.update engine.promises name ⟨some result, []⟩,
        engine.jobs ++ reactions.map fun reaction => (reaction, result)⟩ := by
  unfold settle
  rw [pending]

/-- What waits for a settled promise is queued. -/
theorem await_settled (reaction : Reaction) (result : Outcome)
    (settled : engine.outcome name = some result) :
    engine.await name reaction = ⟨engine.promises, engine.jobs ++ [(reaction, result)]⟩ := by
  unfold outcome at settled
  unfold await
  rw [settled]

/-- What waits for a pending promise is registered with it. -/
theorem await_pending (reaction : Reaction) (reactions : List Reaction)
    (pending : engine.promises name = ⟨none, reactions⟩) :
    engine.await name reaction =
      ⟨Function.update engine.promises name ⟨none, reactions ++ [reaction]⟩, engine.jobs⟩ := by
  unfold await
  rw [pending]

end Engine

end TraxOs.Theory
