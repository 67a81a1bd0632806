import TraxOs.Theory.Program
import TraxOs.Theory.Store

/-!
# Interleaved transactions over a keyed store

Requests run as transactions against one committed store. Each transaction
executes its program one statement at a time. A statement reads the latest
committed store through the transaction's own buffered writes (READ COMMITTED),
waits while another transaction holds a conflicting lock, and keeps every lock
it takes until the transaction ends. A commit publishes the whole buffer; a
failure, or a crash at any point, publishes nothing.

Lock strengths and their conflicts are PostgreSQL's four row-lock modes. A
statement is executed only when all the locks it needs are free: waiting and
then re-reading the committed rows is the same as executing later.

The history of commits and the staleness flag are ghost state. They influence no
step; they let properties speak about what was committed and about what a
transaction had read before another one committed.
-/

namespace TraxOs.Theory

/-- PostgreSQL's row-lock strengths, the weakest first. -/
inductive LockMode where
  | keyShare
  | share
  | noKeyUpdate
  | update
deriving DecidableEq, Repr

/-- PostgreSQL's conflict table for row locks. -/
def LockMode.conflicts : LockMode → LockMode → Bool
  | .keyShare, .update => true
  | .update, .keyShare => true
  | .keyShare, _ => false
  | _, .keyShare => false
  | .share, .share => false
  | _, _ => true

/-- Conflict is symmetric: neither holder can be overtaken by the other. -/
theorem LockMode.conflicts_comm (left right : LockMode) :
    left.conflicts right = right.conflicts left := by
  cases left <;> cases right <;> rfl

/-- What a lock protects: a row, or an application-chosen name such as an
advisory lock or an entry of a unique index. -/
inductive Resource (Key Name : Type) where
  | row (key : Key)
  | named (name : Name)
deriving DecidableEq

/-- Locks with their strengths. -/
abbrev Locks (Key Name : Type) := List (Resource Key Name × LockMode)

/-- No lock of the first list conflicts with a lock of the second. -/
def compatible {Key Name : Type} [DecidableEq Key] [DecidableEq Name]
    (held wanted : Locks Key Name) : Bool :=
  held.all fun mine => wanted.all fun theirs =>
    !(decide (mine.1 = theirs.1) && mine.2.conflicts theirs.2)

section Compatibility

variable {Key Name : Type} [DecidableEq Key] [DecidableEq Name]

/-- Compatibility, as it is used: equal resources have non-conflicting strengths. -/
theorem compatible_iff (held wanted : Locks Key Name) :
    compatible held wanted = true ↔
      ∀ resource mine theirs, (resource, mine) ∈ held → (resource, theirs) ∈ wanted →
        mine.conflicts theirs = false := by
  simp only [compatible, List.all_eq_true, Bool.not_eq_true', Bool.and_eq_false_iff,
    decide_eq_false_iff_not, Prod.forall]
  constructor
  · intro free resource mine theirs holding wanting
    exact (free resource mine holding resource theirs wanting).resolve_left (fun differ => differ rfl)
  · intro free resource mine holding other theirs wanting
    by_cases same : resource = other
    · subst same
      exact Or.inr (free resource mine theirs holding wanting)
    · exact Or.inl same

/-- Compatibility is symmetric. -/
theorem compatible_comm (held wanted : Locks Key Name) :
    compatible held wanted = compatible wanted held := by
  rw [Bool.eq_iff_iff, compatible_iff, compatible_iff]
  constructor <;> intro free resource mine theirs holding wanting <;>
    rw [LockMode.conflicts_comm] <;> exact free resource theirs mine wanting holding

@[simp] theorem compatible_nil (wanted : Locks Key Name) : compatible [] wanted = true := rfl

/-- Taking two groups of locks is compatible exactly when each group is. -/
theorem compatible_append (held first second : Locks Key Name) :
    compatible held (first ++ second) = true ↔
      compatible held first = true ∧ compatible held second = true := by
  simp only [compatible_iff, List.mem_append]
  constructor
  · intro free
    exact ⟨fun resource mine theirs holding wanting =>
        free resource mine theirs holding (Or.inl wanting),
      fun resource mine theirs holding wanting =>
        free resource mine theirs holding (Or.inr wanting)⟩
  · rintro ⟨left, right⟩ resource mine theirs holding (wanting | wanting)
    · exact left resource mine theirs holding wanting
    · exact right resource mine theirs holding wanting

end Compatibility

section Services

variable {Key Name Op : Type} {Row : Key → Type} {Res : Op → Type} {Err Req Reply : Type}

/-- The lock every write takes on its row: dropping a row excludes every other
holder, changing it still admits key-share holders. -/
def Write.lock : Write Row → Resource Key Name × LockMode
  | .put key _ => (.row key, .noKeyUpdate)
  | .drop key => (.row key, .update)

/-- What one statement does on the store it sees: fail, or answer while buffering
writes and needing further locks. -/
inductive Outcome (Name : Type) (Row : Key → Type) (Err α : Type) where
  | failed (error : Err)
  | ran (answer : α) (writes : List (Write Row)) (locks : Locks Key Name)

/-- A service: the meaning of its statements, the program of each request, and,
for ghost bookkeeping, whether an answer that a request relies on still holds of
a committed store. -/
structure Service (Name : Type) (Row : Key → Type) (Res : Op → Type) (Err Req Reply : Type) where
  execute : (op : Op) → AList Row → Outcome Name Row Err (Res op)
  program : Req → Program Op Res Err Reply
  current : Req → (op : Op) → Res op → AList Row → Bool

end Services

section Buffers

variable {Key Name Op : Type} [DecidableEq Key] {Row : Key → Type} {Res : Op → Type}

/-- What a running transaction has accumulated: its buffered writes, the locks it
holds, and the answers it was given, the oldest first. -/
structure Progress (Name : Type) (Row : Key → Type) (Res : Op → Type) where
  writes : List (Write Row)
  locks : Locks Key Name
  observed : List (Sigma Res)

namespace Progress

/-- A transaction that has executed nothing. -/
def empty : Progress Name Row Res where
  writes := []
  locks := []
  observed := []

/-- What one answered statement adds. Every write brings the lock of its row. -/
def extend (progress : Progress Name Row Res) (op : Op) (answer : Res op)
    (writes : List (Write Row)) (locks : Locks Key Name) : Progress Name Row Res where
  writes := progress.writes ++ writes
  locks := progress.locks ++ (locks ++ writes.map Write.lock)
  observed := progress.observed ++ [⟨op, answer⟩]

/-- The store as the transaction reads it: the committed one through its buffer. -/
def view (progress : Progress Name Row Res) (store : AList Row) : AList Row :=
  applyAll progress.writes store

@[simp] theorem view_empty (store : AList Row) :
    (empty : Progress Name Row Res).view store = store := rfl

@[simp] theorem view_extend (progress : Progress Name Row Res) (op : Op) (answer : Res op)
    (writes : List (Write Row)) (locks : Locks Key Name) (store : AList Row) :
    (progress.extend op answer writes locks).view store =
      applyAll writes (progress.view store) := by
  simp [extend, view]

end Progress

end Buffers

section Sequential

variable {Key Name Op : Type} [DecidableEq Key]
  {Row : Key → Type} {Res : Op → Type} {Err Req Reply : Type}
  (service : Service Name Row Res Err Req Reply)

/-- Execute one program alone: each statement reads what the earlier ones wrote,
and a failure discards them. -/
def alone {α : Type} : Program Op Res Err α → AList Row → Except Err (α × AList Row)
  | .done value, store => .ok (value, store)
  | .fail error, _ => .error error
  | .perform op next, store =>
    match service.execute op store with
    | .failed error => .error error
    | .ran answer writes _ => alone (next answer) (applyAll writes store)

@[simp] theorem alone_done {α : Type} (value : α) (store : AList Row) :
    alone service (.done value : Program Op Res Err α) store = .ok (value, store) := rfl

@[simp] theorem alone_fail {α : Type} (error : Err) (store : AList Row) :
    alone service (.fail error : Program Op Res Err α) store = .error error := rfl

/-- A statement that succeeds hands its answer and its writes to what follows. -/
theorem alone_ran {α : Type} (op : Op) (next : Res op → Program Op Res Err α) (store : AList Row)
    (answer : Res op) (writes : List (Write Row)) (locks : Locks Key Name)
    (ran : service.execute op store = .ran answer writes locks) :
    alone service (.perform op next) store =
      alone service (next answer) (applyAll writes store) := by
  simp only [alone, ran]

/-- A statement that fails ends the execution. -/
theorem alone_failed {α : Type} (op : Op) (next : Res op → Program Op Res Err α)
    (store : AList Row) (error : Err) (failed : service.execute op store = .failed error) :
    alone service (.perform op next) store = .error error := by
  simp only [alone, failed]

/-- Execution of a sequence runs its parts in order. -/
theorem alone_bind {α β : Type} (program : Program Op Res Err α)
    (rest : α → Program Op Res Err β) (store : AList Row) :
    alone service (program >>= rest) store =
      match alone service program store with
      | .error error => .error error
      | .ok (value, after) => alone service (rest value) after := by
  induction program generalizing store with
  | done value => rfl
  | fail error => rfl
  | perform op next inductionHypothesis =>
    simp only [Program.perform_bind, alone]
    cases service.execute op store with
    | failed error => rfl
    | ran answer writes locks => exact inductionHypothesis answer (applyAll writes store)

/-- A program that completes has executed its first statement. -/
theorem alone_ok_perform {α : Type} (op : Op) (next : Res op → Program Op Res Err α)
    (store after : AList Row) (value : α)
    (executed : alone service (.perform op next) store = .ok (value, after)) :
    ∃ answer writes locks, service.execute op store = .ran answer writes locks ∧
      alone service (next answer) (applyAll writes store) = .ok (value, after) := by
  cases ran : service.execute op store with
  | failed error =>
    rw [alone_failed service op next store error ran] at executed
    cases executed
  | ran answer writes locks =>
    rw [alone_ran service op next store answer writes locks ran] at executed
    exact ⟨answer, writes, locks, rfl, executed⟩

/-- A sequence that completes has completed its first part. -/
theorem alone_ok_bind {α β : Type} (program : Program Op Res Err α)
    (rest : α → Program Op Res Err β) (store after : AList Row) (value : β)
    (executed : alone service (program >>= rest) store = .ok (value, after)) :
    ∃ first middle, alone service program store = .ok (first, middle) ∧
      alone service (rest first) middle = .ok (value, after) := by
  rw [alone_bind] at executed
  cases done : alone service program store with
  | error error =>
    rw [done] at executed
    cases executed
  | ok pair =>
    rw [done] at executed
    exact ⟨pair.1, pair.2, rfl, executed⟩

/-- A loop that completes: what each round adds to, the whole loop completes. -/
theorem alone_ok_each {item : Type} (body : item → Program Op Res Err Unit) (items : List item)
    (property : List item → AList Row → Prop)
    (round : ∀ finished entry rest, items = finished ++ entry :: rest →
      ∀ store after, property finished store → alone service (body entry) store = .ok ((), after) →
        property (finished ++ [entry]) after)
    (store after : AList Row) (holds : property [] store)
    (executed : alone service (Program.each items body) store = .ok ((), after)) :
    property items after := by
  have looped : ∀ (rest finished : List item), items = finished ++ rest →
      ∀ store, property finished store →
        alone service (Program.each rest body) store = .ok ((), after) → property items after := by
    intro rest
    induction rest with
    | nil =>
      intro finished all store kept executed
      rw [List.append_nil] at all
      simp only [Program.each_nil, alone, Except.ok.injEq, Prod.mk.injEq, true_and] at executed
      rw [all, ← executed]
      exact kept
    | cons entry rest inductionHypothesis =>
      intro finished all store kept executed
      rw [Program.each_cons] at executed
      obtain ⟨_, middle, first, remaining⟩ := alone_ok_bind service _ _ store after () executed
      exact inductionHypothesis (finished ++ [entry]) (by simpa using all) middle
        (round finished entry rest all store middle kept first) remaining
  exact looped items [] rfl store holds executed

/-- A program that fails has failed at its first statement or after it. -/
theorem alone_error_perform {α : Type} (op : Op) (next : Res op → Program Op Res Err α)
    (store : AList Row) (error : Err)
    (failed : alone service (.perform op next) store = .error error) :
    service.execute op store = .failed error ∨
      ∃ answer writes locks, service.execute op store = .ran answer writes locks ∧
        alone service (next answer) (applyAll writes store) = .error error := by
  cases ran : service.execute op store with
  | failed cause =>
    rw [alone_failed service op next store cause ran] at failed
    cases failed
    exact Or.inl rfl
  | ran answer writes locks =>
    rw [alone_ran service op next store answer writes locks ran] at failed
    exact Or.inr ⟨answer, writes, locks, rfl, failed⟩

/-- A sequence that fails has failed in its first part or after it. -/
theorem alone_error_bind {α β : Type} (program : Program Op Res Err α)
    (rest : α → Program Op Res Err β) (store : AList Row) (error : Err)
    (failed : alone service (program >>= rest) store = .error error) :
    alone service program store = .error error ∨
      ∃ first middle, alone service program store = .ok (first, middle) ∧
        alone service (rest first) middle = .error error := by
  rw [alone_bind] at failed
  cases done : alone service program store with
  | error cause =>
    rw [done] at failed
    cases failed
    exact Or.inl rfl
  | ok pair =>
    rw [done] at failed
    exact Or.inr ⟨pair.1, pair.2, rfl, failed⟩

/-- A loop that fails: some round has failed, and the rounds before it were completed. -/
theorem alone_error_each {item : Type} (body : item → Program Op Res Err Unit) (items : List item)
    (property : List item → AList Row → Prop)
    (round : ∀ finished entry rest, items = finished ++ entry :: rest →
      ∀ store after, property finished store → alone service (body entry) store = .ok ((), after) →
        property (finished ++ [entry]) after)
    (store : AList Row) (error : Err) (holds : property [] store)
    (failed : alone service (Program.each items body) store = .error error) :
    ∃ finished entry rest middle, items = finished ++ entry :: rest ∧ property finished middle ∧
      alone service (body entry) middle = .error error := by
  have looped : ∀ (rest finished : List item), items = finished ++ rest →
      ∀ store, property finished store →
        alone service (Program.each rest body) store = .error error →
          ∃ finished entry rest middle, items = finished ++ entry :: rest ∧
            property finished middle ∧ alone service (body entry) middle = .error error := by
    intro rest
    induction rest with
    | nil =>
      intro finished all store kept failed
      cases failed
    | cons entry rest inductionHypothesis =>
      intro finished all store kept failed
      rw [Program.each_cons] at failed
      rcases alone_error_bind service _ _ store error failed with
        first | ⟨_, middle, first, remaining⟩
      · exact ⟨finished, entry, rest, store, all, kept, first⟩
      · exact inductionHypothesis (finished ++ [entry]) (by simpa using all) middle
          (round finished entry rest all store middle kept first) remaining
  exact looped items [] rfl store holds failed

/-- A failure that neither the program declares nor any of its statements can have does
not occur. -/
theorem alone_avoids {α : Type} (program : Program Op Res Err α) (error : Err)
    (avoids : program.Avoids error)
    (only : program.Only fun op => ∀ store, service.execute op store ≠ .failed error)
    (store : AList Row) : alone service program store ≠ .error error := by
  induction program generalizing store with
  | done value => simp
  | fail other =>
    rw [alone_fail]
    exact fun same => avoids (Except.error.inj same)
  | perform op next inductionHypothesis =>
    intro failed
    rcases alone_error_perform service op next store error failed with
      first | ⟨answer, writes, locks, _, later⟩
    · exact only.1 store first
    · exact inductionHypothesis answer (avoids answer) (only.2 answer) _ later

/-- What one request, executed alone, replies, and the store it leaves. A failed
request leaves the store as it was. -/
def serve (request : Req) (store : AList Row) : Except Err Reply × AList Row :=
  match alone service (service.program request) store with
  | .error error => (.error error, store)
  | .ok (reply, after) => (.ok reply, after)

/-- Requests executed one after another. -/
def serveAll : List Req → AList Row → AList Row
  | [], store => store
  | request :: requests, store => serveAll requests (serve service request store).2

/-- Two lists of requests, one after the other. -/
theorem serveAll_append (earlier later : List Req) (store : AList Row) :
    serveAll service (earlier ++ later) store =
      serveAll service later (serveAll service earlier store) := by
  induction earlier generalizing store with
  | nil => rfl
  | cons request requests inductionHypothesis => exact inductionHypothesis _

end Sequential

section Systems

variable {Key Name Op : Type} [DecidableEq Key] [DecidableEq Name]
  {Row : Key → Type} {Res : Op → Type} {Err Req Reply : Type}

/-- One transaction. `rest` is what remains to be executed and is absent once the
transaction has ended; `answer` is what its caller was told, if it was told. -/
structure Process (Name : Type) (Row : Key → Type) (Res : Op → Type) (Err Req Reply : Type) where
  request : Req
  rest : Option (Program Op Res Err Reply)
  progress : Progress Name Row Res
  stale : Bool
  answer : Option (Except Err Reply)

/-- One commit: the request, its reply, and the committed stores around it. -/
structure Commit (Row : Key → Type) (Req Reply : Type) where
  request : Req
  reply : Reply
  before : AList Row
  after : AList Row

/-- The committed store, every transaction ever started, and the commits so far
with the oldest first. -/
structure System (Name : Type) (Row : Key → Type) (Res : Op → Type) (Err Req Reply : Type) where
  db : AList Row
  processes : List (Process Name Row Res Err Req Reply)
  history : List (Commit Row Req Reply)

/-- What can happen next: a request arrives, a transaction takes its next step,
or a transaction is lost to a failure before it commits. -/
inductive Event (Req : Type) where
  | arrive (request : Req)
  | advance (index : Nat)
  | crash (index : Nat)

variable (service : Service Name Row Res Err Req Reply)

namespace Process

/-- A transaction before its first statement. -/
def start (request : Req) : Process Name Row Res Err Req Reply where
  request := request
  rest := some (service.program request)
  progress := .empty
  stale := false
  answer := none

/-- The transaction has ended: its buffer is gone and its locks are free. -/
def close (process : Process Name Row Res Err Req Reply) (answer : Option (Except Err Reply)) :
    Process Name Row Res Err Req Reply :=
  { process with rest := none, progress := .empty, answer := answer }

/-- The transaction after one answered statement. -/
def proceed (process : Process Name Row Res Err Req Reply) (op : Op) (answer : Res op)
    (writes : List (Write Row)) (locks : Locks Key Name)
    (rest : Program Op Res Err Reply) : Process Name Row Res Err Req Reply :=
  { process with
    rest := some rest
    progress := process.progress.extend op answer writes locks }

/-- Mark a transaction stale when a newly committed store no longer supports an
answer it relies on. -/
def notice (db : AList Row) (process : Process Name Row Res Err Req Reply) :
    Process Name Row Res Err Req Reply :=
  { process with
    stale := process.stale ||
      !(process.progress.observed.all fun seen => service.current process.request seen.1 seen.2 db) }

end Process

namespace System

/-- No other transaction holds a lock that conflicts with the wanted ones. -/
def grants (system : System Name Row Res Err Req Reply) (index : Nat) (wanted : Locks Key Name) :
    Bool :=
  system.processes.zipIdx.all fun entry =>
    decide (entry.2 = index) || compatible entry.1.progress.locks wanted

/-- Replace one transaction; the committed store is unchanged. -/
def settle (system : System Name Row Res Err Req Reply) (index : Nat)
    (process : Process Name Row Res Err Req Reply) : System Name Row Res Err Req Reply :=
  { system with processes := system.processes.set index process }

/-- Publish a transaction's buffer, end it, and let every other one notice. -/
def commit (system : System Name Row Res Err Req Reply) (index : Nat)
    (process : Process Name Row Res Err Req Reply) (reply : Reply) :
    System Name Row Res Err Req Reply :=
  let after := process.progress.view system.db
  { db := after
    processes := (system.processes.set index (process.close (some (.ok reply)))).map
      (Process.notice service after)
    history := system.history ++
      [{ request := process.request, reply := reply, before := system.db, after := after }] }

/-- The next step of one transaction, if it can take one. A statement that would
wait has no step yet. -/
def advance (system : System Name Row Res Err Req Reply) (index : Nat)
    (process : Process Name Row Res Err Req Reply) :
    Option (System Name Row Res Err Req Reply) :=
  match process.rest with
  | none => none
  | some (.done reply) => some (system.commit service index process reply)
  | some (.fail error) => some (system.settle index (process.close (some (.error error))))
  | some (.perform op next) =>
    match service.execute op (process.progress.view system.db) with
    | .failed error => some (system.settle index (process.close (some (.error error))))
    | .ran answer writes locks =>
      if system.grants index (locks ++ writes.map Write.lock) then
        some (system.settle index (process.proceed op answer writes locks (next answer)))
      else none

/-- One event of the system; an event that cannot happen yields nothing. -/
def step (system : System Name Row Res Err Req Reply) :
    Event Req → Option (System Name Row Res Err Req Reply)
  | .arrive request =>
    some { system with processes := system.processes ++ [Process.start service request] }
  | .advance index =>
    match system.processes[index]? with
    | none => none
    | some process => system.advance service index process
  | .crash index =>
    match system.processes[index]? with
    | none => none
    | some process =>
      if process.rest.isSome then some (system.settle index (process.close none)) else none

/-- Execute a list of events; it fails if one of them cannot happen. -/
def steps (system : System Name Row Res Err Req Reply) :
    List (Event Req) → Option (System Name Row Res Err Req Reply)
  | [] => some system
  | event :: events =>
    match system.step service event with
    | none => none
    | some next => next.steps events

/-- A store at rest: nothing has been started and nothing committed yet. -/
def initial (db : AList Row) : System Name Row Res Err Req Reply where
  db := db
  processes := []
  history := []

end System

/-- Any interleaving of events, each permitted in the state in which it happens. -/
inductive Run (permits : System Name Row Res Err Req Reply → Event Req → Prop) :
    System Name Row Res Err Req Reply → System Name Row Res Err Req Reply → Prop where
  | refl (system : System Name Row Res Err Req Reply) : Run permits system system
  | step {first middle last : System Name Row Res Err Req Reply} (event : Event Req)
      (run : Run permits first middle) (permitted : permits middle event)
      (stepped : middle.step service event = some last) : Run permits first last

/-- Everything one event can do, with the guards under which it does it. -/
inductive Stepped (system : System Name Row Res Err Req Reply) :
    Event Req → System Name Row Res Err Req Reply → Prop where
  | arrived (request : Req) :
      Stepped system (.arrive request)
        { system with processes := system.processes ++ [Process.start service request] }
  | closed (event : Event Req) (index : Nat) (process : Process Name Row Res Err Req Reply)
      (answer : Option (Except Err Reply)) (found : system.processes[index]? = some process) :
      Stepped system event (system.settle index (process.close answer))
  | proceeded (index : Nat) (process : Process Name Row Res Err Req Reply) (op : Op)
      (next : Res op → Program Op Res Err Reply) (answer : Res op) (writes : List (Write Row))
      (locks : Locks Key Name) (found : system.processes[index]? = some process)
      (waiting : process.rest = some (.perform op next))
      (ran : service.execute op (process.progress.view system.db) = .ran answer writes locks)
      (granted : system.grants index (locks ++ writes.map Write.lock) = true) :
      Stepped system (.advance index)
        (system.settle index (process.proceed op answer writes locks (next answer)))
  | committed (index : Nat) (process : Process Name Row Res Err Req Reply) (reply : Reply)
      (found : system.processes[index]? = some process)
      (ended : process.rest = some (.done reply)) :
      Stepped system (.advance index) (system.commit service index process reply)

/-- A step is one of those, whatever the programs of the service are. -/
theorem step_cases (system next : System Name Row Res Err Req Reply) (event : Event Req)
    (stepped : system.step service event = some next) : Stepped service system event next := by
  cases event with
  | arrive request =>
    simp only [System.step, Option.some.injEq] at stepped
    subst stepped
    exact .arrived request
  | crash index =>
    simp only [System.step] at stepped
    cases found : system.processes[index]? with
    | none => simp [found] at stepped
    | some process =>
      simp only [found] at stepped
      split at stepped
      · cases stepped
        exact .closed _ index process none found
      · cases stepped
  | advance index =>
    simp only [System.step] at stepped
    cases found : system.processes[index]? with
    | none => simp [found] at stepped
    | some process =>
      simp only [found, System.advance] at stepped
      cases remaining : process.rest with
      | none => simp [remaining] at stepped
      | some program =>
        cases program with
        | done reply =>
          simp only [remaining, Option.some.injEq] at stepped
          subst stepped
          exact .committed index process reply found remaining
        | fail error =>
          simp only [remaining, Option.some.injEq] at stepped
          subst stepped
          exact .closed _ index process _ found
        | perform op next =>
          simp only [remaining] at stepped
          cases ran : service.execute op (process.progress.view system.db) with
          | failed error =>
            simp only [ran, Option.some.injEq] at stepped
            subst stepped
            exact .closed _ index process _ found
          | ran answer writes locks =>
            simp only [ran] at stepped
            split at stepped
            · next granted =>
              cases stepped
              exact .proceeded index process op next answer writes locks found remaining ran granted
            · cases stepped

/-- Every transaction and every commit of a run comes from a request that was
permitted to arrive. -/
theorem requests_arrived (permits : System Name Row Res Err Req Reply → Event Req → Prop)
    (allowed : Req → Prop) (first last : System Name Row Res Err Req Reply)
    (admitted : ∀ system request, permits system (.arrive request) → allowed request)
    (processes : ∀ process ∈ first.processes, allowed process.request)
    (history : ∀ commit ∈ first.history, allowed commit.request)
    (run : Run service permits first last) :
    (∀ process ∈ last.processes, allowed process.request) ∧
      ∀ commit ∈ last.history, allowed commit.request := by
  induction run with
  | refl => exact ⟨processes, history⟩
  | step event earlier permitted stepped inductionHypothesis =>
    obtain ⟨running, committed⟩ := inductionHypothesis
    cases step_cases service _ _ event stepped with
    | arrived request =>
      refine ⟨?_, committed⟩
      intro process member
      rcases List.mem_append.mp member with member | member
      · exact running process member
      · rw [List.mem_singleton.mp member]
        exact admitted _ request permitted
    | closed _ index process answer found =>
      refine ⟨?_, committed⟩
      intro tested member
      rcases List.mem_or_eq_of_mem_set member with member | rfl
      · exact running tested member
      · exact running process (List.mem_of_getElem? found)
    | proceeded index process op next answer writes locks found waiting ran granted =>
      refine ⟨?_, committed⟩
      intro tested member
      rcases List.mem_or_eq_of_mem_set member with member | rfl
      · exact running tested member
      · exact running process (List.mem_of_getElem? found)
    | committed index process reply found ended =>
      have here := running process (List.mem_of_getElem? found)
      constructor
      · intro tested member
        obtain ⟨noticed, present, rfl⟩ := List.mem_map.mp member
        rcases List.mem_or_eq_of_mem_set present with present | rfl
        · exact running noticed present
        · exact here
      · intro commit member
        rcases List.mem_append.mp member with member | member
        · exact committed commit member
        · rw [List.mem_singleton.mp member]
          exact here

/-- Every commit of a run, together with the history before it, has the property for
which its last step was permitted. -/
theorem commits_permitted (permits : System Name Row Res Err Req Reply → Event Req → Prop)
    (property : List (Commit Row Req Reply) → Req → Reply → AList Row → AList Row → Prop)
    (first last : System Name Row Res Err Req Reply)
    (admitted : ∀ (system : System Name Row Res Err Req Reply) (index : Nat)
      (process : Process Name Row Res Err Req Reply) (reply : Reply),
      permits system (.advance index) → system.processes[index]? = some process →
        process.rest = some (.done reply) → property system.history process.request reply system.db
          (process.progress.view system.db))
    (started : first.history = []) (run : Run service permits first last) :
    ∀ (earlier rest : List (Commit Row Req Reply)) (commit : Commit Row Req Reply),
      last.history = earlier ++ commit :: rest →
        property earlier commit.request commit.reply commit.before commit.after := by
  induction run with
  | refl =>
    intro earlier rest commit split
    rw [started] at split
    simp at split
  | step event earlier permitted stepped inductionHypothesis =>
    cases step_cases service _ _ event stepped with
    | arrived => exact inductionHypothesis
    | closed => exact inductionHypothesis
    | proceeded => exact inductionHypothesis
    | committed index process reply found ended =>
      intro front rest commit split
      simp only [System.commit] at split
      rcases List.eq_nil_or_concat rest with rfl | ⟨middle, latest, rfl⟩
      · obtain ⟨rfl, here⟩ := List.append_inj' split rfl
        obtain rfl := List.singleton_injective here
        exact admitted _ index process reply permitted found ended
      · rw [List.concat_eq_append, ← List.cons_append, ← List.append_assoc] at split
        obtain ⟨history, _⟩ := List.append_inj' split rfl
        exact inductionHypothesis front middle commit history

/-- The caller was told that its request is done. -/
def Process.accepted (process : Process Name Row Res Err Req Reply) : Bool :=
  match process.answer with
  | some (.ok _) => true
  | _ => false

/-- The requests of one kind that were accepted, and the commits of that kind, are equally
many; and only transactions that have ended are answered. -/
structure Answered (pick : Req → Bool) (system : System Name Row Res Err Req Reply) : Prop where
  tally : system.processes.countP (fun process => pick process.request && process.accepted) =
    system.history.countP fun commit => pick commit.request
  silent : ∀ process ∈ system.processes, process.rest.isSome = true → process.accepted = false

omit [DecidableEq Key] [DecidableEq Name] in
/-- A transaction that was not accepted, and still is not, leaves that so. -/
theorem answered_settle (pick : Req → Bool) (system : System Name Row Res Err Req Reply)
    (index : Nat) (old new : Process Name Row Res Err Req Reply) (answered : Answered pick system)
    (found : system.processes[index]? = some old) (before : old.accepted = false)
    (after : new.accepted = false) : Answered pick (system.settle index new) := by
  obtain ⟨bound, here⟩ := List.getElem?_eq_some_iff.mp found
  constructor
  · rw [System.settle, ← answered.tally, List.countP_set bound, here, before, after]
    simp
  · intro process member running
    rcases List.mem_or_eq_of_mem_set member with member | rfl
    · exact answered.silent process member running
    · exact after

/-- One step, too: a request is accepted by its commit. -/
theorem answered_step (pick : Req → Bool) (system next : System Name Row Res Err Req Reply)
    (event : Event Req) (answered : Answered pick system)
    (stepped : system.step service event = some next) : Answered pick next := by
  cases event with
  | arrive request =>
    simp only [System.step, Option.some.injEq] at stepped
    subst stepped
    constructor
    · rw [List.countP_append, answered.tally]
      simp [Process.start, Process.accepted]
    · intro process member running
      rcases List.mem_append.mp member with member | member
      · exact answered.silent process member running
      · rw [List.mem_singleton.mp member]
        rfl
  | crash index =>
    simp only [System.step] at stepped
    split at stepped
    · cases stepped
    · next process found =>
      split at stepped
      · next running =>
        cases stepped
        exact answered_settle pick system index process _ answered found
          (answered.silent process (List.mem_of_getElem? found) running) rfl
      · cases stepped
  | advance index =>
    simp only [System.step] at stepped
    split at stepped
    · cases stepped
    · next process found =>
      have silent : process.rest.isSome = true → process.accepted = false :=
        answered.silent process (List.mem_of_getElem? found)
      unfold System.advance at stepped
      split at stepped
      · cases stepped
      · next reply ended =>
        cases stepped
        obtain ⟨bound, here⟩ := List.getElem?_eq_some_iff.mp found
        have quiet := silent (by rw [ended]; rfl)
        constructor
        · simp only [System.commit, List.countP_map, List.countP_append, List.countP_singleton]
          rw [← answered.tally]
          have same : ((fun process : Process Name Row Res Err Req Reply =>
              pick process.request && process.accepted) ∘
                Process.notice service (process.progress.view system.db)) =
              fun process => pick process.request && process.accepted := rfl
          rw [same, List.countP_set bound, here, quiet]
          simp [Process.close, Process.accepted]
        · intro noticed member running
          simp only [System.commit, List.mem_map] at member
          obtain ⟨earlier, present, rfl⟩ := member
          rcases List.mem_or_eq_of_mem_set present with present | rfl
          · exact answered.silent earlier present running
          · cases running
      · next error ended =>
        cases stepped
        exact answered_settle pick system index process _ answered found
          (silent (by rw [ended]; rfl)) rfl
      · next op rest waiting =>
        have quiet := silent (by rw [waiting]; rfl)
        split at stepped
        · cases stepped
          exact answered_settle pick system index process _ answered found quiet rfl
        · split at stepped
          · cases stepped
            exact answered_settle pick system index process _ answered found quiet quiet
          · cases stepped

/-- In every run, each accepted request has one commit. -/
theorem run_answered (pick : Req → Bool)
    (permits : System Name Row Res Err Req Reply → Event Req → Prop)
    (first last : System Name Row Res Err Req Reply) (answered : Answered pick first)
    (run : Run service permits first last) : Answered pick last := by
  induction run with
  | refl => exact answered
  | step event _ _ stepped inductionHypothesis =>
    exact answered_step service pick _ _ event inductionHypothesis stepped

/-- A finite list of executed events is a run, if each of them is always permitted. -/
theorem run_of_steps (permits : System Name Row Res Err Req Reply → Event Req → Prop)
    (events : List (Event Req)) (first last : System Name Row Res Err Req Reply)
    (permitted : ∀ event ∈ events, ∀ system, permits system event)
    (executed : first.steps service events = some last) : Run service permits first last := by
  have extended : ∀ (events : List (Event Req)) (middle : System Name Row Res Err Req Reply),
      (∀ event ∈ events, ∀ system, permits system event) → Run service permits first middle →
        middle.steps service events = some last → Run service permits first last := by
    intro events
    induction events with
    | nil =>
      intro middle _ run executed
      simp only [System.steps, Option.some.injEq] at executed
      exact executed ▸ run
    | cons event events inductionHypothesis =>
      intro middle permitted run executed
      cases stepped : middle.step service event with
      | none => simp [System.steps, stepped] at executed
      | some next =>
        simp only [System.steps, stepped] at executed
        have here : permits middle event := permitted event List.mem_cons_self middle
        exact inductionHypothesis next
          (fun later member => permitted later (List.mem_cons_of_mem event member))
          (.step event run here stepped) executed
  exact extended events first permitted (.refl first) executed

/-- Execute a list of events, each of them only if it passes a check. -/
def System.checkedSteps (check : System Name Row Res Err Req Reply → Event Req → Bool)
    (system : System Name Row Res Err Req Reply) :
    List (Event Req) → Option (System Name Row Res Err Req Reply)
  | [] => some system
  | event :: events =>
    if check system event then
      match system.step service event with
      | none => none
      | some next => next.checkedSteps check events
    else none

/-- Then it is a run, if the check implies the permission. -/
theorem run_of_checked (permits : System Name Row Res Err Req Reply → Event Req → Prop)
    (check : System Name Row Res Err Req Reply → Event Req → Bool)
    (implies : ∀ system event, check system event = true → permits system event)
    (events : List (Event Req)) (first last : System Name Row Res Err Req Reply)
    (executed : first.checkedSteps service check events = some last) :
    Run service permits first last := by
  have extended : ∀ (events : List (Event Req)) (middle : System Name Row Res Err Req Reply),
      Run service permits first middle → middle.checkedSteps service check events = some last →
        Run service permits first last := by
    intro events
    induction events with
    | nil =>
      intro middle run executed
      simp only [System.checkedSteps, Option.some.injEq] at executed
      exact executed ▸ run
    | cons event events inductionHypothesis =>
      intro middle run executed
      simp only [System.checkedSteps] at executed
      split at executed
      · next passed =>
        cases stepped : middle.step service event with
        | none => simp [stepped] at executed
        | some next =>
          simp only [stepped] at executed
          exact inductionHypothesis next
            (.step event run (implies middle event passed) stepped) executed
      · cases executed
  exact extended events first (.refl first) executed

end Systems

end TraxOs.Theory
