import Mathlib.Control.Basic

/-!
# Programs over primitive operations

A program is a finite tree of primitive operations whose continuations branch on
each operation's answer. It stops with a value or with a declared failure. The
tree fixes which operation is asked next, never what its answer is: a sequential
execution, an interleaved execution and a relational argument over two states
are different readings of the same tree.

Nothing here fixes the operations, the state they act on, or the failures.
-/

namespace TraxOs.Theory

/-- A tree of operations. `perform` waits for the answer of one operation and
continues with the subtree selected by it. -/
inductive Program (Op : Type) (Res : Op → Type) (Err : Type) (α : Type) : Type where
  | done (value : α)
  | fail (error : Err)
  | perform (op : Op) (next : Res op → Program Op Res Err α)

namespace Program

variable {Op : Type} {Res : Op → Type} {Err : Type} {α β γ : Type}

/-- Continue every completed leaf with a further program. A failed leaf stays
failed, as an exception propagates. -/
def bind (program : Program Op Res Err α) (rest : α → Program Op Res Err β) :
    Program Op Res Err β :=
  match program with
  | .done value => rest value
  | .fail error => .fail error
  | .perform op next => .perform op (fun answer => (next answer).bind rest)

instance : Monad (Program Op Res Err) where
  pure := .done
  bind := bind

/-- Ask one operation and return its answer. -/
def ask (op : Op) : Program Op Res Err (Res op) := .perform op .done

/-- Run one program for each member of a list, in the list's order. -/
def each (values : List α) (body : α → Program Op Res Err Unit) : Program Op Res Err Unit :=
  match values with
  | [] => .done ()
  | value :: rest => (body value).bind (fun _ => each rest body)

/-- Run a program and hand its declared failure over as a value, as a handler
catches an exception. Operations asked before the failure stay asked. -/
def attempt : Program Op Res Err α → Program Op Res Err (Except Err α)
  | .done value => .done (.ok value)
  | .fail error => .done (.error error)
  | .perform op next => .perform op (fun answer => (next answer).attempt)

/-- Every operation that a program can ask, on any path, is of a given kind. -/
def Only (kind : Op → Prop) : Program Op Res Err α → Prop
  | .done _ => True
  | .fail _ => True
  | .perform op next => kind op ∧ ∀ answer, (next answer).Only kind

/-- No path of a program ends in the failure. -/
def Avoids (error : Err) : Program Op Res Err α → Prop
  | .done _ => True
  | .fail other => other ≠ error
  | .perform _ next => ∀ answer, (next answer).Avoids error

@[simp] theorem pure_eq (value : α) : (pure value : Program Op Res Err α) = .done value := rfl

@[simp] theorem done_bind (value : α) (rest : α → Program Op Res Err β) :
    (Program.done value : Program Op Res Err α) >>= rest = rest value := rfl

@[simp] theorem fail_bind (error : Err) (rest : α → Program Op Res Err β) :
    (Program.fail error : Program Op Res Err α) >>= rest = .fail error := rfl

@[simp] theorem perform_bind (op : Op) (next : Res op → Program Op Res Err α)
    (rest : α → Program Op Res Err β) :
    Program.perform op next >>= rest = .perform op (fun answer => next answer >>= rest) := rfl

@[simp] theorem ask_bind (op : Op) (rest : Res op → Program Op Res Err β) :
    (ask op : Program Op Res Err (Res op)) >>= rest = .perform op rest := rfl

@[simp] theorem each_nil (body : α → Program Op Res Err Unit) :
    each [] body = (.done () : Program Op Res Err Unit) := rfl

@[simp] theorem each_cons (value : α) (values : List α) (body : α → Program Op Res Err Unit) :
    each (value :: values) body = body value >>= fun _ => each values body := rfl

@[simp] theorem attempt_done (value : α) :
    (Program.done value : Program Op Res Err α).attempt = .done (.ok value) := rfl

@[simp] theorem attempt_fail (error : Err) :
    (Program.fail error : Program Op Res Err α).attempt = .done (.error error) := rfl

@[simp] theorem attempt_perform (op : Op) (next : Res op → Program Op Res Err α) :
    (Program.perform op next).attempt = .perform op (fun answer => (next answer).attempt) := rfl

@[simp] theorem only_done (kind : Op → Prop) (value : α) :
    (Program.done value : Program Op Res Err α).Only kind := trivial

@[simp] theorem only_fail (kind : Op → Prop) (error : Err) :
    (Program.fail error : Program Op Res Err α).Only kind := trivial

@[simp] theorem only_ask (kind : Op → Prop) (op : Op) :
    (ask op : Program Op Res Err (Res op)).Only kind ↔ kind op := by
  simp [ask, Only]

@[simp] theorem only_perform (kind : Op → Prop) (op : Op) (next : Res op → Program Op Res Err α) :
    (Program.perform op next).Only kind ↔ kind op ∧ ∀ answer, (next answer).Only kind := Iff.rfl

/-- A sequence asks only what its parts ask. -/
theorem only_bind (kind : Op → Prop) (program : Program Op Res Err α)
    (rest : α → Program Op Res Err β) (first : program.Only kind)
    (second : ∀ value, (rest value).Only kind) : (program >>= rest).Only kind := by
  induction program with
  | done value => exact second value
  | fail error => trivial
  | perform op next inductionHypothesis =>
    exact ⟨first.1, fun answer => inductionHypothesis answer (first.2 answer)⟩

/-- A loop asks only what its body asks. -/
theorem only_each (kind : Op → Prop) (values : List α) (body : α → Program Op Res Err Unit)
    (inside : ∀ value, (body value).Only kind) : (each values body).Only kind := by
  induction values with
  | nil => trivial
  | cons value rest inductionHypothesis =>
    exact only_bind kind (body value) _ (inside value) (fun _ => inductionHypothesis)

/-- Catching an error asks for nothing. -/
theorem only_attempt (kind : Op → Prop) (program : Program Op Res Err α)
    (only : program.Only kind) : program.attempt.Only kind := by
  induction program with
  | done value => trivial
  | fail error => trivial
  | perform op next inductionHypothesis =>
    exact ⟨only.1, fun answer => inductionHypothesis answer (only.2 answer)⟩

/-- A sequence avoids what its parts avoid. -/
theorem avoids_bind (error : Err) (program : Program Op Res Err α)
    (rest : α → Program Op Res Err β) (first : program.Avoids error)
    (second : ∀ value, (rest value).Avoids error) : (program >>= rest).Avoids error := by
  induction program with
  | done value => exact second value
  | fail other => exact first
  | perform op next inductionHypothesis => exact fun answer => inductionHypothesis answer (first answer)

/-- A loop avoids what its body avoids. -/
theorem avoids_each (error : Err) (values : List α) (body : α → Program Op Res Err Unit)
    (inside : ∀ value, (body value).Avoids error) : (each values body).Avoids error := by
  induction values with
  | nil => trivial
  | cons value rest inductionHypothesis =>
    exact avoids_bind error (body value) _ (inside value) (fun _ => inductionHypothesis)

/-- A wider kind admits the same program. -/
theorem Only.mono {narrow wide : Op → Prop} (implies : ∀ op, narrow op → wide op)
    {program : Program Op Res Err α} (only : program.Only narrow) : program.Only wide := by
  induction program with
  | done value => trivial
  | fail error => trivial
  | perform op next inductionHypothesis =>
    exact ⟨implies op only.1, fun answer => inductionHypothesis answer (only.2 answer)⟩

/-- Sequencing is associative, so a function's body can be unfolded in place in
its caller. The induction follows the first program's tree. -/
theorem bind_assoc (program : Program Op Res Err α) (first : α → Program Op Res Err β)
    (second : β → Program Op Res Err γ) :
    program >>= first >>= second = program >>= fun value => first value >>= second := by
  induction program with
  | done value => rfl
  | fail error => rfl
  | perform op next inductionHypothesis =>
    simp only [perform_bind]
    congr 1
    funext answer
    exact inductionHypothesis answer

end Program

end TraxOs.Theory
