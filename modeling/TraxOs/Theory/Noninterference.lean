import TraxOs.Theory.Transactions

/-!
# Noninterference

A caller who knows a part of a store must not learn the rest. Two stores that show the
caller the same are related by `alike`. A statement is blind when it does the same on
both of two such stores, and its writes leave two such stores behind. A program is blind
when every statement on its way is: which statement comes next depends only on answers
that both stores gave.

The relation is a parameter and the stores of different statements are unrelated, so that
other transactions may change the stores in between, as long as they keep them alike.
-/

namespace TraxOs.Theory

section Noninterference

variable {Key Name Op : Type} [DecidableEq Key] {Row : Key → Type} {Res : Op → Type}
  {Err Req Reply : Type} (service : Service Name Row Res Err Req Reply)
  (alike : AList Row → AList Row → Prop)

/-- A statement answers, locks and writes the same on stores that are alike, and what it
writes keeps them alike. -/
def BlindStatement (op : Op) : Prop :=
  ∀ left right, alike left right →
    service.execute op left = service.execute op right ∧
      ∀ answer writes locks, service.execute op left = .ran answer writes locks →
        alike (applyAll writes left) (applyAll writes right)

/-- Every statement that a program can reach from stores that are alike is blind. -/
def Blind {α : Type} : Program Op Res Err α → Prop
  | .done _ => True
  | .fail _ => True
  | .perform op next =>
    BlindStatement service alike op ∧
      ∀ left right answer writes locks, alike left right →
        service.execute op left = .ran answer writes locks → Blind (next answer)

/-- A program that asks blind statements only is blind. -/
theorem blind_only {α : Type} (kind : Op → Prop)
    (statements : ∀ op, kind op → BlindStatement service alike op)
    (program : Program Op Res Err α) (only : program.Only kind) : Blind service alike program := by
  induction program with
  | done value => trivial
  | fail error => trivial
  | perform op next inductionHypothesis =>
    exact ⟨statements op only.1,
      fun _ _ answer _ _ _ _ => inductionHypothesis answer (only.2 answer)⟩

/-- A sequence is blind when its parts are. -/
theorem blind_bind {α β : Type} (program : Program Op Res Err α) (rest : α → Program Op Res Err β)
    (first : Blind service alike program) (second : ∀ value, Blind service alike (rest value)) :
    Blind service alike (program >>= rest) := by
  induction program with
  | done value => exact second value
  | fail error => trivial
  | perform op next inductionHypothesis =>
    exact ⟨first.1, fun left right answer writes locks same ran =>
      inductionHypothesis answer (first.2 left right answer writes locks same ran)⟩

/-- A blind program, executed alone on two stores that are alike, ends the same way and
leaves stores that are alike. -/
theorem blind_alone {α : Type} (program : Program Op Res Err α)
    (blind : Blind service alike program) (left right : AList Row) (same : alike left right) :
    (∃ error, alone service program left = .error error ∧
        alone service program right = .error error) ∨
      ∃ value after other, alone service program left = .ok (value, after) ∧
        alone service program right = .ok (value, other) ∧ alike after other := by
  induction program generalizing left right with
  | done value => exact Or.inr ⟨value, left, right, rfl, rfl, same⟩
  | fail error => exact Or.inl ⟨error, rfl, rfl⟩
  | perform op next inductionHypothesis =>
    obtain ⟨statement, remaining⟩ := blind
    obtain ⟨equal, kept⟩ := statement left right same
    cases ran : service.execute op left with
    | failed error =>
      left
      exact ⟨error, alone_failed service op next left error ran,
        alone_failed service op next right error (equal ▸ ran)⟩
    | ran answer writes locks =>
      rw [alone_ran service op next left answer writes locks ran,
        alone_ran service op next right answer writes locks (equal ▸ ran)]
      exact inductionHypothesis answer (remaining left right answer writes locks same ran) _ _
        (kept answer writes locks ran)

/-- A request with a blind program is answered the same on stores that are alike. -/
theorem blind_serve (request : Req) (blind : Blind service alike (service.program request))
    (left right : AList Row) (same : alike left right) :
    (serve service request left).1 = (serve service request right).1 ∧
      alike (serve service request left).2 (serve service request right).2 := by
  rcases blind_alone service alike _ blind left right same with
    ⟨error, failed, also⟩ | ⟨reply, after, other, done, also, kept⟩
  · simp only [serve, failed, also, true_and]
    exact same
  · simp only [serve, done, also, true_and]
    exact kept

end Noninterference

end TraxOs.Theory
