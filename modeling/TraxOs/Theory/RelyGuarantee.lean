import TraxOs.Theory.Transactions
import Mathlib.Logic.Relation

/-!
# Rely-guarantee reasoning about interleaved transactions

A contract says which requests may run, which property every committed store
has, and what one commit of a request may do to the store. `Safe` reads a
program tree as a proof obligation: after every interference that the held locks
admit, each statement leads to a safe continuation, and the final commit is one
that the contract allows.

Interference is another transaction's commit. It cannot write a row that is
locked against it, it respects the contract, and it keeps every answer that the
request declared to rely on. Soundness turns safe programs into a property of
every run: the history of commits is a chain of allowed commits. From there a
claim about interleavings is an ordinary induction over that chain.
-/

namespace TraxOs.Theory

section Pins

variable {Key Name Op : Type} [DecidableEq Key] {Row : Key → Type} {Res : Op → Type}

/-- A row whose committed content is known and locked, so that it stays known. -/
def Pinned (progress : Progress Name Row Res) (store : AList Row) (key : Key)
    (value : Option (Row key)) : Prop :=
  store.lookup key = value ∧ ∃ mode, (Resource.row key, mode) ∈ progress.locks ∧ mode ≠ .keyShare

/-- A later situation in which everything that was pinned still is. -/
def Keeps (progress : Progress Name Row Res) (store : AList Row)
    (grown : Progress Name Row Res) (later : AList Row) : Prop :=
  ∀ key value, Pinned progress store key value → Pinned grown later key value

theorem Keeps.refl (progress : Progress Name Row Res) (store : AList Row) :
    Keeps progress store progress store := fun _ _ pinned => pinned

theorem Keeps.trans {first second third : Progress Name Row Res} {store middle last : AList Row}
    (left : Keeps first store second middle) (right : Keeps second middle third last) :
    Keeps first store third last := fun key value pinned => right key value (left key value pinned)

/-- One's own statements keep every pin: locks are only added. -/
theorem keeps_extend (progress : Progress Name Row Res) (store : AList Row) (op : Op)
    (answer : Res op) (writes : List (Write Row)) (locks : Locks Key Name) :
    Keeps progress store (progress.extend op answer writes locks) store := by
  rintro key value ⟨known, mode, held, strong⟩
  exact ⟨known, mode, List.mem_append_left _ held, strong⟩

/-- A statement pins every row that it writes. -/
theorem pinned_written (progress : Progress Name Row Res) (store : AList Row) (op : Op)
    (answer : Res op) (writes : List (Write Row)) (locks : Locks Key Name)
    (write : Write Row) (member : write ∈ writes) :
    Pinned (progress.extend op answer writes locks) store write.key (store.lookup write.key) := by
  have held : write.lock ∈ (progress.extend op answer writes locks).locks := by
    simp only [Progress.extend, List.mem_append, List.mem_map]
    exact Or.inr (Or.inr ⟨write, member, rfl⟩)
  cases write with
  | put key row => exact ⟨rfl, .noKeyUpdate, held, by decide⟩
  | drop key => exact ⟨rfl, .update, held, by decide⟩

/-- A statement pins every row that it locks strongly enough. -/
theorem pinned_locked (progress : Progress Name Row Res) (store : AList Row) (op : Op)
    (answer : Res op) (writes : List (Write Row)) (locks : Locks Key Name) (key : Key)
    (mode : LockMode) (locked : (Resource.row key, mode) ∈ locks) (strong : mode ≠ .keyShare) :
    Pinned (progress.extend op answer writes locks) store key (store.lookup key) := by
  refine ⟨rfl, mode, ?_, strong⟩
  simp only [Progress.extend, List.mem_append]
  exact Or.inr (Or.inl locked)

end Pins

section Contracts

variable {Key Name Op : Type} [DecidableEq Key] [DecidableEq Name]
  {Row : Key → Type} {Res : Op → Type} {Err Req Reply : Type}

/-- What every participant promises: the requests considered, the invariant of
committed stores, and the effect of one commit. -/
structure Contract (Row : Key → Type) (Req Reply : Type) where
  Allowed : Req → Prop
  Inv : AList Row → Prop
  Commits : Req → Reply → AList Row → AList Row → Prop

variable (service : Service Name Row Res Err Req Reply) (contract : Contract Row Req Reply)

/-- One commit of another transaction, as a transaction with the given progress
can experience it. -/
def Interferes (request : Req) (progress : Progress Name Row Res) (before after : AList Row) :
    Prop :=
  contract.Inv after ∧
    (∀ seen ∈ progress.observed, service.current request seen.1 seen.2 after = true) ∧
    ∃ (other : Req) (reply : Reply) (writes : List (Write Row)) (held : Locks Key Name),
      contract.Allowed other ∧ contract.Commits other reply before after ∧
        (∀ write ∈ writes, write.lock ∈ held) ∧ compatible held progress.locks = true ∧
        after = applyAll writes before

/-- Any number of such commits. -/
abbrev Reaches (request : Req) (progress : Progress Name Row Res) : AList Row → AList Row → Prop :=
  Relation.ReflTransGen (Interferes service contract request progress)

/-- Whatever interference comes between its statements, a program that completes
does so in a situation described by `post`. -/
def Leads (request : Req) {α : Type} : Program Op Res Err α → Progress Name Row Res → AList Row →
    (α → Progress Name Row Res → AList Row → Prop) → Prop
  | .done value, progress, store, post => post value progress store
  | .fail _, _, _, _ => True
  | .perform op next, progress, store, post =>
    ∀ later, contract.Inv later → Reaches service contract request progress store later →
      ∀ answer writes locks,
        service.execute op (progress.view later) = .ran answer writes locks →
          Leads request (next answer) (progress.extend op answer writes locks) later post

/-- The obligation of a reply: whenever its commit comes, the contract allows it. -/
def Promises (request : Req) (reply : Reply) (progress : Progress Name Row Res)
    (store : AList Row) : Prop :=
  ∀ later, contract.Inv later → Reaches service contract request progress store later →
    contract.Commits request reply later (progress.view later)

/-- The obligation of a program in the middle of its execution, over the store
that is committed at that moment. -/
def Safe (request : Req) (program : Program Op Res Err Reply) (progress : Progress Name Row Res)
    (store : AList Row) : Prop :=
  Leads service contract request program progress store (Promises service contract request)

section Leading

variable {request : Req} {α β : Type}

@[simp] theorem leads_done (value : α) (progress : Progress Name Row Res) (store : AList Row)
    (post : α → Progress Name Row Res → AList Row → Prop) :
    Leads service contract request (.done value : Program Op Res Err α) progress store post ↔
      post value progress store := Iff.rfl

@[simp] theorem leads_fail (error : Err) (progress : Progress Name Row Res) (store : AList Row)
    (post : α → Progress Name Row Res → AList Row → Prop) :
    Leads service contract request (.fail error : Program Op Res Err α) progress store post ↔
      True := Iff.rfl

theorem leads_perform (op : Op) (next : Res op → Program Op Res Err α)
    (progress : Progress Name Row Res) (store : AList Row)
    (post : α → Progress Name Row Res → AList Row → Prop) :
    Leads service contract request (.perform op next) progress store post ↔
      ∀ later, contract.Inv later → Reaches service contract request progress store later →
        ∀ answer writes locks,
          service.execute op (progress.view later) = .ran answer writes locks →
            Leads service contract request (next answer)
              (progress.extend op answer writes locks) later post := Iff.rfl

/-- A weaker description follows from a stronger one. -/
theorem leads_mono (program : Program Op Res Err α) (progress : Progress Name Row Res)
    (store : AList Row) (strong weak : α → Progress Name Row Res → AList Row → Prop)
    (implies : ∀ value progress store, strong value progress store → weak value progress store)
    (leads : Leads service contract request program progress store strong) :
    Leads service contract request program progress store weak := by
  induction program generalizing progress store with
  | done value => exact implies value progress store leads
  | fail error => trivial
  | perform op next inductionHypothesis =>
    intro later holds reached answer writes locks ran
    exact inductionHypothesis answer _ later (leads later holds reached answer writes locks ran)

/-- Every program leads somewhere. -/
theorem leads_trivial (program : Program Op Res Err α) (progress : Progress Name Row Res)
    (store : AList Row) :
    Leads service contract request program progress store fun _ _ _ => True := by
  induction program generalizing progress store with
  | done value => trivial
  | fail error => trivial
  | perform op next inductionHypothesis =>
    intro later _ _ answer writes locks _
    exact inductionHypothesis answer _ later

/-- Sequencing: the second program starts where the first one leads. -/
theorem leads_bind (program : Program Op Res Err α) (rest : α → Program Op Res Err β)
    (progress : Progress Name Row Res) (store : AList Row)
    (post : β → Progress Name Row Res → AList Row → Prop)
    (leads : Leads service contract request program progress store fun value middle reached =>
      Leads service contract request (rest value) middle reached post) :
    Leads service contract request (program >>= rest) progress store post := by
  induction program generalizing progress store with
  | done value => exact leads
  | fail error => trivial
  | perform op next inductionHypothesis =>
    intro later holds reached answer writes locks ran
    exact inductionHypothesis answer _ later (leads later holds reached answer writes locks ran)

/-- The induction over a program whose statements are all of one kind: a property
that each such statement keeps, whatever interference precedes it, holds at the
end. -/
theorem leads_invariant (kind : Op → Prop) (property : Progress Name Row Res → AList Row → Prop)
    (keeps : ∀ progress store later op answer writes locks, kind op → property progress store →
      contract.Inv later → Reaches service contract request progress store later →
        service.execute op (progress.view later) = .ran answer writes locks →
          property (progress.extend op answer writes locks) later)
    (program : Program Op Res Err α) (only : program.Only kind)
    (progress : Progress Name Row Res) (store : AList Row) (holds : property progress store) :
    Leads service contract request program progress store fun _ => property := by
  induction program generalizing progress store with
  | done value => exact holds
  | fail error => trivial
  | perform op next inductionHypothesis =>
    intro later invariant reached answer writes locks ran
    exact inductionHypothesis answer (only.2 answer) _ later
      (keeps progress store later op answer writes locks only.1 holds invariant reached ran)

/-- Two descriptions of where a program leads hold together. -/
theorem leads_and (program : Program Op Res Err α) (progress : Progress Name Row Res)
    (store : AList Row) (first second : α → Progress Name Row Res → AList Row → Prop)
    (left : Leads service contract request program progress store first)
    (right : Leads service contract request program progress store second) :
    Leads service contract request program progress store fun value middle reached =>
      first value middle reached ∧ second value middle reached := by
  induction program generalizing progress store with
  | done value => exact ⟨left, right⟩
  | fail error => trivial
  | perform op next inductionHypothesis =>
    intro later holds reached answer writes locks ran
    exact inductionHypothesis answer _ later (left later holds reached answer writes locks ran)
      (right later holds reached answer writes locks ran)

/-- A loop: what each round adds to, the whole loop completes. -/
theorem leads_each {item : Type} (body : item → Program Op Res Err Unit) (items : List item)
    (property : List item → Progress Name Row Res → AList Row → Prop)
    (round : ∀ finished entry rest, items = finished ++ entry :: rest →
      ∀ progress store, property finished progress store →
        Leads service contract request (body entry) progress store
          fun _ => property (finished ++ [entry]))
    (progress : Progress Name Row Res) (store : AList Row) (holds : property [] progress store) :
    Leads service contract request (Program.each items body) progress store
      fun _ => property items := by
  have looped : ∀ (rest finished : List item), items = finished ++ rest →
      ∀ progress store, property finished progress store →
        Leads service contract request (Program.each rest body) progress store
          fun _ => property items := by
    intro rest
    induction rest with
    | nil =>
      intro finished all progress store kept
      rw [List.append_nil] at all
      rw [all]
      exact kept
    | cons entry rest inductionHypothesis =>
      intro finished all progress store kept
      rw [Program.each_cons]
      apply leads_bind
      apply leads_mono _ _ _ _ _ _ _ _ (round finished entry rest all progress store kept)
      intro _ grown later extended
      exact inductionHypothesis (finished ++ [entry]) (by simpa using all) grown later extended
  exact looped items [] rfl progress store holds

end Leading

section Strengthening

variable {request : Req} {α : Type} (strong weak : Contract Row Req Reply)

/-- One contract asks for everything that another asks for. -/
structure Contract.Implies (strong weak : Contract Row Req Reply) : Prop where
  allowed : ∀ request, strong.Allowed request → weak.Allowed request
  invariant : ∀ store, strong.Inv store → weak.Inv store
  commits : ∀ request reply before after, strong.Commits request reply before after →
    weak.Commits request reply before after

/-- Participants that promise more reach less. -/
theorem reaches_weaken (implies : strong.Implies weak) (progress : Progress Name Row Res)
    (store later : AList Row) (reached : Reaches service strong request progress store later) :
    Reaches service weak request progress store later := by
  induction reached with
  | refl => exact .refl
  | tail _ interferes inductionHypothesis =>
    obtain ⟨holds, current, other, reply, writes, held, allowed, commits, rest⟩ := interferes
    exact inductionHypothesis.tail ⟨implies.invariant _ holds, current, other, reply, writes, held,
      implies.allowed _ allowed, implies.commits _ _ _ _ commits, rest⟩

/-- Where a program leads among participants that promise less, it leads among
participants that promise more. -/
theorem leads_weaken (implies : strong.Implies weak) (program : Program Op Res Err α)
    (progress : Progress Name Row Res) (store : AList Row)
    (post : α → Progress Name Row Res → AList Row → Prop)
    (leads : Leads service weak request program progress store post) :
    Leads service strong request program progress store post := by
  induction program generalizing progress store with
  | done value => exact leads
  | fail error => trivial
  | perform op next inductionHypothesis =>
    intro later holds reached answer writes locks ran
    exact inductionHypothesis answer _ later (leads later (implies.invariant later holds)
      (reaches_weaken service strong weak implies progress store later reached) answer writes locks
      ran)

end Strengthening

/-- Safety is kept by interference: what must hold after every further commit
holds after the commits that follow this one. -/
theorem safe_stable (request : Req) (program : Program Op Res Err Reply)
    (progress : Progress Name Row Res) (store later : AList Row)
    (safe : Safe service contract request program progress store)
    (reached : Reaches service contract request progress store later) :
    Safe service contract request program progress later := by
  cases program with
  | done reply => exact fun last kept further => safe last kept (reached.trans further)
  | fail error => trivial
  | perform op next => exact fun last kept further => safe last kept (reached.trans further)

/-- A row locked at least in share mode keeps its content through interference. -/
theorem lookup_locked (request : Req) (progress : Progress Name Row Res) (store later : AList Row)
    (key : Key) (mode : LockMode) (reached : Reaches service contract request progress store later)
    (held : (Resource.row key, mode) ∈ progress.locks) (strong : mode ≠ .keyShare) :
    later.lookup key = store.lookup key := by
  induction reached with
  | refl => rfl
  | tail _ interferes inductionHypothesis =>
    obtain ⟨_, _, _, _, writes, theirs, _, _, locked, free, rfl⟩ := interferes
    rw [← inductionHypothesis]
    apply lookup_applyAll_untouched
    intro write member same
    have taken := locked write member
    have clash := (compatible_iff theirs progress.locks).mp free
    cases write with
    | put written row =>
      have conflict := clash (.row key) .noKeyUpdate mode (same ▸ taken) held
      cases mode <;> simp_all [LockMode.conflicts]
    | drop written =>
      have conflict := clash (.row key) .update mode (same ▸ taken) held
      cases mode <;> simp_all [LockMode.conflicts]

/-- A row locked in any mode is not dropped by interference. -/
theorem lookup_retained (request : Req) (progress : Progress Name Row Res) (store later : AList Row)
    (key : Key) (mode : LockMode) (reached : Reaches service contract request progress store later)
    (held : (Resource.row key, mode) ∈ progress.locks) (present : (store.lookup key).isSome = true) :
    (later.lookup key).isSome = true := by
  induction reached with
  | refl => exact present
  | tail _ interferes inductionHypothesis =>
    obtain ⟨_, _, _, _, writes, theirs, _, _, locked, free, rfl⟩ := interferes
    have kept : ∀ (changes : List (Write Row)) (base : AList Row),
        (∀ write ∈ changes, write.lock ∈ theirs) → (base.lookup key).isSome = true →
          ((applyAll changes base).lookup key).isSome = true := by
      intro changes
      induction changes with
      | nil => exact fun base _ there => there
      | cons write rest kept =>
        intro base owned there
        refine kept (write.apply base)
          (fun later member => owned later (List.mem_cons_of_mem write member)) ?_
        have taken := owned write List.mem_cons_self
        by_cases same : write.key = key
        · cases write with
          | put written row =>
            cases same
            simp [Write.apply, Write.key]
          | drop written =>
            cases same
            have conflict := (compatible_iff theirs progress.locks).mp free (.row written) .update mode taken held
            cases mode <;> simp [LockMode.conflicts] at conflict
        · rw [write.lookup_apply_ne base key same]
          exact there
    exact kept writes _ locked inductionHypothesis

/-- Interference keeps every pin. -/
theorem keeps_reaches (request : Req) (progress : Progress Name Row Res) (store later : AList Row)
    (reached : Reaches service contract request progress store later) :
    Keeps progress store progress later := by
  rintro key value ⟨known, mode, held, strong⟩
  exact ⟨(lookup_locked service contract request progress store later key mode reached held
    strong).trans known, mode, held, strong⟩

/-- One statement after any interference keeps every pin. -/
theorem keeps_perform (request : Req) (progress : Progress Name Row Res) (store later : AList Row)
    (op : Op) (answer : Res op) (writes : List (Write Row)) (locks : Locks Key Name)
    (reached : Reaches service contract request progress store later) :
    Keeps progress store (progress.extend op answer writes locks) later :=
  (keeps_reaches service contract request progress store later reached).trans
    (keeps_extend progress later op answer writes locks)

end Contracts

section Histories

variable {Key : Type} {Row : Key → Type} {Req Reply : Type}

/-- A history whose commits follow each other from the first store to the last,
each of them related by `relation`. -/
inductive Linked (relation : Req → Reply → AList Row → AList Row → Prop) :
    AList Row → List (Commit Row Req Reply) → AList Row → Prop where
  | nil (store : AList Row) : Linked relation store [] store
  | snoc (first : AList Row) (history : List (Commit Row Req Reply))
      (commit : Commit Row Req Reply) (earlier : Linked relation first history commit.before)
      (related : relation commit.request commit.reply commit.before commit.after) :
      Linked relation first (history ++ [commit]) commit.after

/-- A weaker relation links the same history. -/
theorem Linked.mono {weak strong : Req → Reply → AList Row → AList Row → Prop}
    (implies : ∀ request reply before after,
      strong request reply before after → weak request reply before after)
    {first last : AList Row} {history : List (Commit Row Req Reply)}
    (linked : Linked strong first history last) : Linked weak first history last := by
  induction linked with
  | nil => exact .nil first
  | snoc history commit _ related inductionHypothesis =>
    exact .snoc first history commit inductionHypothesis (implies _ _ _ _ related)

/-- A property of stores that every commit keeps holds at the end of a history. -/
theorem Linked.preserves {relation : Req → Reply → AList Row → AList Row → Prop}
    {property : AList Row → Prop}
    (keeps : ∀ request reply before after,
      relation request reply before after → property before → property after)
    {first last : AList Row} {history : List (Commit Row Req Reply)}
    (linked : Linked relation first history last) (holds : property first) : property last := by
  induction linked with
  | nil => exact holds
  | snoc history commit _ related inductionHypothesis =>
    exact keeps _ _ _ _ related inductionHypothesis

/-- The committed stores of a history, from the first one on. -/
def states (first : AList Row) (history : List (Commit Row Req Reply)) : List (AList Row) :=
  first :: history.map Commit.after

/-- One more commit adds the store it leaves. -/
theorem states_snoc (first : AList Row) (history : List (Commit Row Req Reply))
    (commit : Commit Row Req Reply) :
    states first (history ++ [commit]) = states first history ++ [commit.after] := by
  simp [states]

/-- The last committed store is the last of them. -/
theorem Linked.ends {relation : Req → Reply → AList Row → AList Row → Prop}
    {first last : AList Row} {history : List (Commit Row Req Reply)}
    (linked : Linked relation first history last) :
    (states first history)[history.length]? = some last := by
  cases linked <;> simp [states]

/-- Every committed store splits the history around it. -/
theorem Linked.split {relation : Req → Reply → AList Row → AList Row → Prop}
    {first last : AList Row} {history : List (Commit Row Req Reply)}
    (linked : Linked relation first history last) (index : Nat) (middle : AList Row)
    (here : (states first history)[index]? = some middle) :
    Linked relation first (history.take index) middle ∧
      Linked relation middle (history.drop index) last := by
  induction linked with
  | nil =>
    cases index with
    | zero =>
      obtain rfl : first = middle := by simpa [states] using here
      exact ⟨.nil first, .nil first⟩
    | succ index => simp [states] at here
  | snoc history commit earlier related inductionHypothesis =>
    rw [states_snoc] at here
    have extent : (states first history).length = history.length + 1 := by simp [states]
    by_cases before : index ≤ history.length
    · rw [List.getElem?_append_left (by omega)] at here
      obtain ⟨front, back⟩ := inductionHypothesis here
      rw [List.take_append_of_le_length before, List.drop_append_of_le_length before]
      exact ⟨front, .snoc middle _ commit back related⟩
    · have bounded := (List.getElem?_eq_some_iff.mp here).1
      rw [List.length_append, extent, List.length_singleton] at bounded
      obtain rfl : index = history.length + 1 := by omega
      rw [List.getElem?_append_right (by omega), extent, Nat.sub_self,
        List.getElem?_cons_zero, Option.some.injEq] at here
      subst here
      rw [List.take_of_length_le (by simp), List.drop_of_length_le (by simp)]
      exact ⟨.snoc first history commit earlier related, .nil commit.after⟩

/-- A commit takes place between the stores around its index. -/
theorem Linked.around {relation : Req → Reply → AList Row → AList Row → Prop}
    {first last : AList Row} {history : List (Commit Row Req Reply)}
    (linked : Linked relation first history last) (index : Nat) (commit : Commit Row Req Reply)
    (here : history[index]? = some commit) :
    (states first history)[index]? = some commit.before ∧
      (states first history)[index + 1]? = some commit.after ∧
        relation commit.request commit.reply commit.before commit.after := by
  induction linked with
  | nil => simp at here
  | snoc history latest earlier related inductionHypothesis =>
    rw [states_snoc]
    have extent : (states first history).length = history.length + 1 := by simp [states]
    have bounded := (List.getElem?_eq_some_iff.mp here).1
    rw [List.length_append, List.length_singleton] at bounded
    by_cases before : index < history.length
    · rw [List.getElem?_append_left before] at here
      rw [List.getElem?_append_left (by omega), List.getElem?_append_left (by omega)]
      exact inductionHypothesis here
    · obtain rfl : index = history.length := by omega
      rw [List.getElem?_concat_length, Option.some.injEq] at here
      subst here
      refine ⟨?_, ?_, related⟩
      · rw [List.getElem?_append_left (by omega)]
        exact earlier.ends
      · rw [← extent, List.getElem?_concat_length]

/-- The commits between two committed stores link them, and each of them has its
place between them in the history. -/
theorem Linked.between {relation : Req → Reply → AList Row → AList Row → Prop}
    {first last : AList Row} {history : List (Commit Row Req Reply)}
    (linked : Linked relation first history last) (earlier later : Nat) (before after : AList Row)
    (ordered : earlier ≤ later) (here : (states first history)[earlier]? = some before)
    (there : (states first history)[later]? = some after) :
    Linked relation before ((history.take later).drop earlier) after ∧
      ∀ commit ∈ (history.take later).drop earlier, ∃ index, earlier ≤ index ∧ index < later ∧
        history[index]? = some commit := by
  obtain ⟨front, _⟩ := linked.split later after there
  have shown : (states first (history.take later))[earlier]? = some before := by
    rw [← here]
    cases earlier with
    | zero => rfl
    | succ earlier => simp [states, List.getElem?_take]; omega
  refine ⟨(front.split earlier before shown).2, ?_⟩
  intro commit member
  obtain ⟨index, place⟩ := List.getElem?_of_mem member
  rw [List.getElem?_drop, List.getElem?_take] at place
  split at place
  · next bounded => exact ⟨earlier + index, by omega, bounded, place⟩
  · cases place

/-- A history splits at any of its commits. -/
theorem Linked.parts {relation : Req → Reply → AList Row → AList Row → Prop}
    {first last : AList Row} {earlier rest : List (Commit Row Req Reply)}
    {commit : Commit Row Req Reply}
    (linked : Linked relation first (earlier ++ commit :: rest) last) :
    Linked relation first earlier commit.before ∧
      relation commit.request commit.reply commit.before commit.after ∧
        Linked relation commit.after rest last := by
  obtain ⟨before, after, related⟩ := linked.around earlier.length commit (by simp)
  have front := (linked.split _ _ before).1
  have back := (linked.split _ _ after).2
  rw [List.take_left] at front
  rw [List.append_cons, List.drop_left' (by simp)] at back
  exact ⟨front, related, back⟩

/-- The commits of a history may be said to have any property that they all have. -/
theorem Linked.restrict {relation : Req → Reply → AList Row → AList Row → Prop}
    (property : Req → Reply → AList Row → AList Row → Prop) {first last : AList Row}
    {history : List (Commit Row Req Reply)} (linked : Linked relation first history last)
    (all : ∀ commit ∈ history, property commit.request commit.reply commit.before commit.after) :
    Linked (fun request reply before after =>
      property request reply before after ∧ relation request reply before after)
      first history last := by
  induction linked with
  | nil => exact .nil first
  | snoc history commit _ related inductionHypothesis =>
    have earlier := inductionHypothesis fun other member =>
      all other (List.mem_append_left _ member)
    have here : property commit.request commit.reply commit.before commit.after := all commit (by simp)
    exact .snoc first history commit earlier ⟨here, related⟩

end Histories

section Soundness

variable {Key Name Op : Type} [DecidableEq Key] [DecidableEq Name]
  {Row : Key → Type} {Res : Op → Type} {Err Req Reply : Type}
  (service : Service Name Row Res Err Req Reply) (contract : Contract Row Req Reply)

/-- The commits a contract admits, with the circumstances under which they are
made. -/
def Contract.Admits (request : Req) (reply : Reply) (before after : AList Row) : Prop :=
  contract.Allowed request ∧ contract.Inv before ∧ contract.Inv after ∧
    contract.Commits request reply before after

/-- The invariant of every run of safe programs. -/
structure Sound (first : AList Row) (system : System Name Row Res Err Req Reply) : Prop where
  invariant : contract.Inv system.db
  linked : Linked contract.Admits first system.history system.db
  allowed : ∀ (index : Nat) (process : Process Name Row Res Err Req Reply),
    system.processes[index]? = some process → contract.Allowed process.request
  safe : ∀ (index : Nat) (process : Process Name Row Res Err Req Reply)
    (program : Program Op Res Err Reply), system.processes[index]? = some process →
      process.rest = some program → process.stale = false →
        Safe service contract process.request program process.progress system.db
  owned : ∀ (index : Nat) (process : Process Name Row Res Err Req Reply),
    system.processes[index]? = some process → 
      ∀ write ∈ process.progress.writes, write.lock ∈ process.progress.locks
  disjoint : ∀ (left right : Nat) (mine theirs : Process Name Row Res Err Req Reply),
    left ≠ right → system.processes[left]? = some mine → system.processes[right]? = some theirs →
      compatible mine.progress.locks theirs.progress.locks = true

/-- A store at rest satisfies the invariant. -/
theorem sound_initial (db : AList Row) (holds : contract.Inv db) :
    Sound service contract db (System.initial db : System Name Row Res Err Req Reply) where
  invariant := holds
  linked := .nil db
  allowed := by simp [System.initial]
  safe := by simp [System.initial]
  owned := by simp [System.initial]
  disjoint := by simp [System.initial]

/-- Replacing one transaction keeps the invariant when the replacement is safe,
owns the locks of its writes and is compatible with every other transaction. -/
theorem sound_settle (first : AList Row) (system : System Name Row Res Err Req Reply)
    (index : Nat) (old new : Process Name Row Res Err Req Reply)
    (sound : Sound service contract first system) (found : system.processes[index]? = some old)
    (same : new.request = old.request)
    (safe : ∀ program, new.rest = some program → new.stale = false →
      Safe service contract new.request program new.progress system.db)
    (owned : ∀ write ∈ new.progress.writes, write.lock ∈ new.progress.locks)
    (apart : ∀ (other : Nat) (theirs : Process Name Row Res Err Req Reply), other ≠ index →
      system.processes[other]? = some theirs →
        compatible theirs.progress.locks new.progress.locks = true) :
    Sound service contract first (system.settle index new) := by
  have bound : index < system.processes.length := (List.getElem?_eq_some_iff.mp found).1
  have lookup : ∀ (position : Nat) (process : Process Name Row Res Err Req Reply),
      (system.settle index new).processes[position]? = some process →
        (position = index ∧ process = new) ∨
          (position ≠ index ∧ system.processes[position]? = some process) := by
    intro position process here
    by_cases at_index : position = index
    · subst at_index
      simp only [System.settle, List.getElem?_set_self bound, Option.some.injEq] at here
      exact Or.inl ⟨rfl, here.symm⟩
    · rw [System.settle, List.getElem?_set_ne (Ne.symm at_index)] at here
      exact Or.inr ⟨at_index, here⟩
  refine ⟨sound.invariant, sound.linked, ?_, ?_, ?_, ?_⟩
  · intro position process here
    rcases lookup position process here with ⟨_, rfl⟩ | ⟨_, old_here⟩
    · exact same ▸ sound.allowed index old found
    · exact sound.allowed position process old_here
  · intro position process program here running fresh
    rcases lookup position process here with ⟨_, rfl⟩ | ⟨_, old_here⟩
    · exact safe program running fresh
    · exact sound.safe position process program old_here running fresh
  · intro position process here
    rcases lookup position process here with ⟨_, rfl⟩ | ⟨_, old_here⟩
    · exact owned
    · exact sound.owned position process old_here
  · intro left right mine theirs differ here there
    rcases lookup left mine here with ⟨left_index, rfl⟩ | ⟨left_other, left_here⟩
    · rcases lookup right theirs there with ⟨right_index, rfl⟩ | ⟨right_other, right_here⟩
      · exact absurd (left_index.trans right_index.symm) differ
      · rw [compatible_comm]
        exact apart right theirs right_other right_here
    · rcases lookup right theirs there with ⟨right_index, rfl⟩ | ⟨right_other, right_here⟩
      · exact apart left mine left_other left_here
      · exact sound.disjoint left right mine theirs differ left_here right_here

/-- Granted locks are compatible with every other transaction's locks. -/
theorem granted_apart (system : System Name Row Res Err Req Reply) (index : Nat)
    (wanted : Locks Key Name) (granted : system.grants index wanted = true) (other : Nat)
    (theirs : Process Name Row Res Err Req Reply) (apart : other ≠ index)
    (found : system.processes[other]? = some theirs) :
    compatible theirs.progress.locks wanted = true := by
  have member : (theirs, other) ∈ system.processes.zipIdx := List.mk_mem_zipIdx_iff_getElem?.mpr found
  have free := (List.all_eq_true.mp granted) (theirs, other) member
  simpa [apart] using free

/-- Closing a transaction keeps the invariant: it no longer holds anything. -/
theorem sound_close (first : AList Row) (system : System Name Row Res Err Req Reply) (index : Nat)
    (process : Process Name Row Res Err Req Reply) (answer : Option (Except Err Reply))
    (sound : Sound service contract first system)
    (found : system.processes[index]? = some process) :
    Sound service contract first (system.settle index (process.close answer)) := by
  apply sound_settle service contract first system index process (process.close answer) sound found
  · rfl
  · intro program running
    simp [Process.close] at running
  · simp [Process.close, Progress.empty]
  · intro other theirs _ _
    rw [compatible_comm]
    rfl

/-- An arriving request is safe from its first statement on. -/
theorem sound_arrive (first : AList Row) (system : System Name Row Res Err Req Reply)
    (request : Req) (sound : Sound service contract first system)
    (allowed : contract.Allowed request)
    (safe : Safe service contract request (service.program request) .empty system.db) :
    Sound service contract first
      { system with processes := system.processes ++ [Process.start service request] } := by
  have lookup : ∀ (position : Nat) (process : Process Name Row Res Err Req Reply),
      (system.processes ++ [Process.start service request])[position]? = some process →
        process = Process.start service request ∨ system.processes[position]? = some process := by
    intro position process here
    by_cases inside : position < system.processes.length
    · rw [List.getElem?_append_left inside] at here
      exact Or.inr here
    · have member : process ∈ [Process.start service request] := by
        rw [List.getElem?_append_right (by omega)] at here
        exact List.mem_of_getElem? here
      exact Or.inl (List.mem_singleton.mp member)
  refine ⟨sound.invariant, sound.linked, ?_, ?_, ?_, ?_⟩
  · intro position process here
    rcases lookup position process here with rfl | old_here
    · exact allowed
    · exact sound.allowed position process old_here
  · intro position process program here running fresh
    rcases lookup position process here with rfl | old_here
    · cases running
      exact safe
    · exact sound.safe position process program old_here running fresh
  · intro position process here
    rcases lookup position process here with rfl | old_here
    · simp [Process.start, Progress.empty]
    · exact sound.owned position process old_here
  · intro left right mine theirs differ here there
    rcases lookup left mine here with rfl | left_here
    · rfl
    · rcases lookup right theirs there with rfl | right_here
      · rw [compatible_comm]
        rfl
      · exact sound.disjoint left right mine theirs differ left_here right_here

/-- A fresh commit keeps the invariant. Its own obligation makes it an allowed
commit; for every other transaction it is one admissible interference. -/
theorem sound_commit (first : AList Row) (system : System Name Row Res Err Req Reply)
    (index : Nat) (process : Process Name Row Res Err Req Reply) (reply : Reply)
    (sound : Sound service contract first system)
    (found : system.processes[index]? = some process) (ended : process.rest = some (.done reply))
    (fresh : process.stale = false)
    (keeps : ∀ request reply before after, contract.Allowed request → contract.Inv before →
      contract.Commits request reply before after → contract.Inv after) :
    Sound service contract first (system.commit service index process reply) := by
  have commits : contract.Commits process.request reply system.db
      (process.progress.view system.db) :=
    sound.safe index process _ found ended fresh system.db sound.invariant .refl
  have allowed : contract.Allowed process.request := sound.allowed index process found
  have invariant : contract.Inv (process.progress.view system.db) :=
    keeps _ _ _ _ allowed sound.invariant commits
  have bound : index < system.processes.length := (List.getElem?_eq_some_iff.mp found).1
  have lookup : ∀ (position : Nat) (noticed : Process Name Row Res Err Req Reply),
      (system.commit service index process reply).processes[position]? = some noticed →
        ∃ earlier, noticed = Process.notice service (process.progress.view system.db) earlier ∧
          ((position = index ∧ earlier = process.close (some (.ok reply))) ∨
            (position ≠ index ∧ system.processes[position]? = some earlier)) := by
    intro position noticed here
    simp only [System.commit, List.getElem?_map, Option.map_eq_some_iff] at here
    obtain ⟨earlier, located, rfl⟩ := here
    refine ⟨earlier, rfl, ?_⟩
    by_cases at_index : position = index
    · subst at_index
      rw [List.getElem?_set_self bound, Option.some.injEq] at located
      exact Or.inl ⟨rfl, located.symm⟩
    · rw [List.getElem?_set_ne (Ne.symm at_index)] at located
      exact Or.inr ⟨at_index, located⟩
  refine ⟨invariant, ?_, ?_, ?_, ?_, ?_⟩
  · exact .snoc first system.history
      { request := process.request, reply := reply, before := system.db,
        after := process.progress.view system.db }
      sound.linked ⟨allowed, sound.invariant, invariant, commits⟩
  · intro position noticed here
    obtain ⟨earlier, rfl, ⟨_, rfl⟩ | ⟨_, old_here⟩⟩ := lookup position noticed here
    · exact allowed
    · exact sound.allowed position earlier old_here
  · intro position noticed program here running unnoticed
    obtain ⟨earlier, rfl, ⟨_, rfl⟩ | ⟨other, old_here⟩⟩ := lookup position noticed here
    · simp [Process.notice, Process.close] at running
    · simp only [Process.notice, Bool.or_eq_false_iff, Bool.not_eq_false'] at unnoticed
      have interferes : Interferes service contract earlier.request earlier.progress
          system.db (process.progress.view system.db) := by
        refine ⟨invariant, List.all_eq_true.mp unnoticed.2, process.request, reply,
          process.progress.writes, process.progress.locks, allowed, commits, sound.owned index process found, ?_, rfl⟩
        exact sound.disjoint index position process earlier (Ne.symm other) found old_here
      exact safe_stable service contract _ _ _ system.db _
        (sound.safe position earlier program old_here running unnoticed.1) (.single interferes)
  · intro position noticed here
    obtain ⟨earlier, rfl, ⟨_, rfl⟩ | ⟨_, old_here⟩⟩ := lookup position noticed here
    · simp [Process.notice, Process.close, Progress.empty]
    · exact sound.owned position earlier old_here
  · intro left right mine theirs differ here there
    obtain ⟨earlier, rfl, ⟨left_index, rfl⟩ | ⟨_, left_here⟩⟩ := lookup left mine here
    · rfl
    · obtain ⟨other, rfl, ⟨right_index, rfl⟩ | ⟨_, right_here⟩⟩ := lookup right theirs there
      · rw [compatible_comm]
        rfl
      · exact sound.disjoint left right earlier other differ left_here right_here

/-- Every run of safe programs satisfies the contract, provided only allowed
requests arrive and no transaction commits after it became stale. -/
theorem run_sound (permits : System Name Row Res Err Req Reply → Event Req → Prop)
    (first last : System Name Row Res Err Req Reply) (db : AList Row)
    (admitted : ∀ system request, permits system (.arrive request) → contract.Allowed request)
    (fresh : ∀ (system : System Name Row Res Err Req Reply) (index : Nat)
      (process : Process Name Row Res Err Req Reply) (reply : Reply),
      Run service permits first system → permits system (.advance index) →
        system.processes[index]? = some process → process.rest = some (.done reply) →
          process.stale = false)
    (safe : ∀ request db, contract.Allowed request → contract.Inv db →
      Safe service contract request (service.program request) .empty db)
    (keeps : ∀ request reply before after, contract.Allowed request → contract.Inv before →
      contract.Commits request reply before after → contract.Inv after)
    (sound : Sound service contract db first) (run : Run service permits first last) :
    Sound service contract db last := by
  induction run with
  | refl => exact sound
  | step event earlier permitted stepped inductionHypothesis =>
    cases step_cases service _ _ event stepped with
    | arrived request =>
      have allowed := admitted _ request permitted
      exact sound_arrive service contract db _ request inductionHypothesis allowed
        (safe request _ allowed inductionHypothesis.invariant)
    | closed _ index process answer found =>
      exact sound_close service contract db _ index process answer inductionHypothesis found
    | proceeded index process op next answer writes locks found waiting ran granted =>
      apply sound_settle service contract db _ index process _ inductionHypothesis found
      · rfl
      · intro program running unnoticed
        simp only [Process.proceed, Option.some.injEq] at running
        subst running
        exact inductionHypothesis.safe index process _ found waiting unnoticed _
          inductionHypothesis.invariant .refl answer writes locks ran
      · intro write member
        simp only [Process.proceed, Progress.extend, List.mem_append, List.mem_map] at member ⊢
        rcases member with member | member
        · exact Or.inl (inductionHypothesis.owned index process found write member)
        · exact Or.inr (Or.inr ⟨write, member, rfl⟩)
      · intro other theirs apart there
        simp only [Process.proceed, Progress.extend]
        exact (compatible_append _ _ _).mpr
          ⟨inductionHypothesis.disjoint other index theirs process apart there found,
            granted_apart _ index _ granted other theirs apart there⟩
    | committed index process reply found ended =>
      exact sound_commit service contract db _ index process reply inductionHypothesis found ended
        (fresh _ index process reply earlier permitted found ended) keeps

/-- A service whose requests rely on nothing beyond their locks is never stale. -/
theorem never_stale (permits : System Name Row Res Err Req Reply → Event Req → Prop)
    (first last : System Name Row Res Err Req Reply)
    (always : ∀ request op answer db, service.current request op answer db = true)
    (run : Run service permits first last)
    (fresh : ∀ process ∈ first.processes, process.stale = false) :
    ∀ process ∈ last.processes, process.stale = false := by
  induction run with
  | refl => exact fresh
  | step event _ _ stepped inductionHypothesis =>
    cases step_cases service _ _ event stepped with
    | arrived request =>
      intro process member
      rcases List.mem_append.mp member with member | member
      · exact inductionHypothesis process member
      · exact List.mem_singleton.mp member ▸ rfl
    | closed _ index process answer found =>
      intro tested member
      rcases List.mem_or_eq_of_mem_set member with member | rfl
      · exact inductionHypothesis tested member
      · exact inductionHypothesis process (List.mem_of_getElem? found)
    | proceeded index process op next answer writes locks found waiting ran granted =>
      intro tested member
      rcases List.mem_or_eq_of_mem_set member with member | rfl
      · exact inductionHypothesis tested member
      · exact inductionHypothesis process (List.mem_of_getElem? found)
    | committed index process reply found ended =>
      intro tested member
      simp only [System.commit, List.mem_map] at member
      obtain ⟨earlier, present, rfl⟩ := member
      have all_current : ∀ db : AList Row, (earlier.progress.observed.all fun seen =>
          service.current earlier.request seen.1 seen.2 db) = true := by
        simp [always]
      simp only [Process.notice, all_current, Bool.not_true, Bool.or_false]
      rcases List.mem_or_eq_of_mem_set present with present | rfl
      · exact inductionHypothesis earlier present
      · exact inductionHypothesis process (List.mem_of_getElem? found)

/-- A safe program executed alone commits only what its contract allows. -/
theorem safe_alone (request : Req) (program : Program Op Res Err Reply)
    (progress : Progress Name Row Res) (store after : AList Row) (reply : Reply)
    (holds : contract.Inv store) (safe : Safe service contract request program progress store)
    (executed : alone service program (progress.view store) = .ok (reply, after)) :
    contract.Commits request reply store after := by
  induction program generalizing progress with
  | done value =>
    simp only [alone, Except.ok.injEq, Prod.mk.injEq] at executed
    obtain ⟨rfl, rfl⟩ := executed
    exact safe store holds .refl
  | fail error => simp [alone] at executed
  | perform op next inductionHypothesis =>
    cases ran : service.execute op (progress.view store) with
    | failed error => simp [alone, ran] at executed
    | ran answer writes locks =>
      rw [alone_ran service op next _ answer writes locks ran,
        ← Progress.view_extend progress op answer writes locks] at executed
      exact inductionHypothesis answer (progress.extend op answer writes locks)
        (safe store holds .refl answer writes locks ran) executed

end Soundness

end TraxOs.Theory
