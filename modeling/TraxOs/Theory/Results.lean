/-!
# Results of steps that may fail

A computation in `Except` succeeds exactly when each of its steps does. These rules take
it apart step by step.
-/

namespace TraxOs.Theory

variable {ε α β : Type}

/-- A sequence of two steps succeeds when both do. -/
theorem bind_ok (first : Except ε α) (next : α → Except ε β) (result : β) :
    (first >>= next) = .ok result ↔ ∃ value, first = .ok value ∧ next value = .ok result := by
  cases first with
  | error refusal => simp [bind, Except.bind]
  | ok value => simp [bind, Except.bind]

/-- A sequence avoids a refusal that none of its steps gives. -/
theorem bind_avoids (first : Except ε α) (next : α → Except ε β) (refusal : ε)
    (here : first ≠ .error refusal)
    (later : ∀ value, first = .ok value → next value ≠ .error refusal) :
    (first >>= next) ≠ .error refusal := by
  cases first with
  | error other => simpa [bind, Except.bind] using here
  | ok value => exact later value rfl

/-- A mapped step succeeds when the step does. -/
theorem map_ok (first : Except ε α) (next : α → β) (result : β) :
    (next <$> first) = .ok result ↔ ∃ value, first = .ok value ∧ next value = result := by
  cases first with
  | error refusal => simp [Functor.map, Except.map]
  | ok value => simp [Functor.map, Except.map]

/-- A mapped step refuses as the step does. -/
theorem map_avoids (first : Except ε α) (next : α → β) (refusal : ε)
    (here : first ≠ .error refusal) : (next <$> first) ≠ .error refusal := by
  cases first with
  | error other => simpa [Functor.map, Except.map] using here
  | ok value => simp [Functor.map, Except.map]

end TraxOs.Theory
