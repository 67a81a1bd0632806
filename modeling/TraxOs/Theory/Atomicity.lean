/-!
# Loops in a transaction

A loop executes one step for each item and stops at the first step that fails. What the
earlier steps did is then in the state, and it is the transaction around the loop that
takes it back.

Two rules carry a property of single steps to the whole: a reflexive and transitive
relation that each step keeps is kept by the loop, and by the transaction.
-/

namespace TraxOs.Theory

section Atomicity

variable {State Failure Item Value : Type}

/-- Execute one step for each item, until one fails. The state is left as the last step
that succeeded left it. -/
def stepThrough (step : Item → State → Except Failure State) :
    List Item → State → Except Failure Unit × State
  | [], state => (.ok (), state)
  | item :: items, state =>
    match step item state with
    | .error failure => (.error failure, state)
    | .ok next => stepThrough step items next

/-- Execute a body in a transaction: a failure takes back what the body did. -/
def atomically (body : State → Except Failure Value × State) (state : State) :
    Except Failure Value × State :=
  match body state with
  | (.error failure, _) => (.error failure, state)
  | (.ok value, after) => (.ok value, after)

/-- A transaction that fails leaves the state as it was. -/
theorem atomically_failed (body : State → Except Failure Value × State) (state : State)
    (failure : Failure) (failed : (atomically body state).1 = .error failure) :
    (atomically body state).2 = state := by
  unfold atomically at failed ⊢
  split at failed
  · rfl
  · cases failed

/-- A transaction that succeeds does what its body does. -/
theorem atomically_done (body : State → Except Failure Value × State) (state : State)
    (value : Value) (done : (atomically body state).1 = .ok value) :
    atomically body state = body state := by
  unfold atomically at done ⊢
  split at done
  · cases done
  · next after same => rw [same]

/-- What relates the states around each step relates those around the loop. -/
theorem stepThrough_related (step : Item → State → Except Failure State)
    (related : State → State → Prop) (refl : ∀ state, related state state)
    (trans : ∀ first second third, related first second → related second third →
      related first third) (items : List Item)
    (stepped : ∀ item ∈ items, ∀ state next, step item state = .ok next → related state next)
    (state : State) : related state (stepThrough step items state).2 := by
  induction items generalizing state with
  | nil => exact refl state
  | cons item items inductionHypothesis =>
    simp only [stepThrough]
    cases ran : step item state with
    | error failure => exact refl state
    | ok next =>
      have here : related state next := stepped item List.mem_cons_self state next ran
      have later := inductionHypothesis
        (fun other member => stepped other (List.mem_cons_of_mem item member)) next
      exact trans state next _ here later

/-- And then those around a transaction of the loop. -/
theorem transaction_related (step : Item → State → Except Failure State)
    (related : State → State → Prop) (refl : ∀ state, related state state)
    (trans : ∀ first second third, related first second → related second third →
      related first third) (items : List Item)
    (stepped : ∀ item ∈ items, ∀ state next, step item state = .ok next → related state next)
    (state : State) : related state (atomically (stepThrough step items) state).2 := by
  have looped := stepThrough_related step related refl trans items stepped state
  unfold atomically
  split
  · exact refl state
  · next after same =>
    rw [same] at looped
    exact looped

/-- A loop that succeeds has executed the step of each item, after the steps before it. -/
theorem stepThrough_done (step : Item → State → Except Failure State) (items : List Item)
    (state : State) (done : (stepThrough step items state).1 = .ok ()) :
    ∀ item ∈ items, ∃ earlier later, items = earlier ++ item :: later ∧
      (stepThrough step earlier state).1 = .ok () ∧
      ∃ next, step item (stepThrough step earlier state).2 = .ok next := by
  induction items generalizing state with
  | nil => simp
  | cons first items inductionHypothesis =>
    simp only [stepThrough] at done
    cases ran : step first state with
    | error failure =>
      rw [ran] at done
      cases done
    | ok next =>
      rw [ran] at done
      intro item member
      rcases List.mem_cons.mp member with rfl | member
      · exact ⟨[], items, rfl, rfl, next, ran⟩
      · obtain ⟨earlier, later, rfl, before, after⟩ := inductionHypothesis next done item member
        refine ⟨first :: earlier, later, rfl, ?_⟩
        simp only [stepThrough, ran]
        exact ⟨before, after⟩

end Atomicity

end TraxOs.Theory
