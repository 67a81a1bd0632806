import TraxOs.Theory.RelyGuarantee

/-!
# Serializability by repetition

When is a commit under interference the same as an execution of the whole request
alone, at the moment of its commit? It is when every statement, repeated over the
store of that moment, would lead to the same continuation with the same writes.
`Repeats` reads a program as that obligation. It considers every store that still
supports what the program has seen: the invariant holds, the declared answers are
current, and locked rows are as they were.

A run of repeatable requests, in which no stale transaction commits, leaves the store
that the committed requests leave when they are executed one after another.
-/

namespace TraxOs.Theory

variable {Key Name Op : Type} [DecidableEq Key]
  {Row : Key → Type} {Res : Op → Type} {Err Req Reply : Type}

/-- The contract of serial commits: each is what its request does alone. -/
def serialContract (service : Service Name Row Res Err Req Reply) (allowed : Req → Prop)
    (invariant : AList Row → Prop) : Contract Row Req Reply where
  Allowed := allowed
  Inv := invariant
  Commits request reply before after := serve service request before = (.ok reply, after)

variable (service : Service Name Row Res Err Req Reply) (allowed : Req → Prop)
  (invariant : AList Row → Prop) (request : Req)

/-- A store over which everything seen so far would be seen again. -/
structure Supports (progress : Progress Name Row Res) (store later : AList Row) : Prop where
  holds : invariant later
  current : ∀ seen ∈ progress.observed, service.current request seen.1 seen.2 later = true
  locked : ∀ key mode, (Resource.row key, mode) ∈ progress.locks → mode ≠ .keyShare →
    later.lookup key = store.lookup key

/-- Each statement ends the request with a failure, or it leads, over every store that
supports it, to the same continuation with the same writes. -/
def Repeats {α : Type} : Program Op Res Err α → Progress Name Row Res → AList Row →
    (α → Progress Name Row Res → AList Row → Prop) → Prop
  | .done value, progress, store, post => post value progress store
  | .fail _, _, _, _ => True
  | .perform op next, progress, store, post =>
    ∀ later, Supports service invariant request progress store later →
      ∀ answer writes locks,
        service.execute op (progress.view later) = .ran answer writes locks →
          (∃ error, next answer = .fail error) ∨
            service.current request op answer later = true ∧
            (∀ other, Supports service invariant request
                (progress.extend op answer writes locks) later other →
              ∃ again held, service.execute op (progress.view other) = .ran again writes held ∧
                next again = next answer) ∧
            Repeats (next answer) (progress.extend op answer writes locks) later post

section Rules

variable {service allowed invariant request} {α β : Type}

/-- A supporting store supports itself. -/
theorem Supports.self {progress : Progress Name Row Res} {store later : AList Row}
    (supports : Supports service invariant request progress store later) :
    Supports service invariant request progress later later :=
  ⟨supports.holds, supports.current, fun _ _ _ _ => rfl⟩

/-- What supports more, supports less. -/
theorem Supports.shrink {progress : Progress Name Row Res} {op : Op} {answer : Res op}
    {writes : List (Write Row)} {locks : Locks Key Name} {store later other : AList Row}
    (earlier : Supports service invariant request progress store later)
    (supports : Supports service invariant request (progress.extend op answer writes locks) later
      other) : Supports service invariant request progress store other where
  holds := supports.holds
  current := fun seen member => supports.current seen (List.mem_append_left _ member)
  locked := fun key mode held strong =>
    (supports.locked key mode (List.mem_append_left _ held) strong).trans
      (earlier.locked key mode held strong)

/-- A row that a statement locks or writes is the same in every supporting store, also
as the transaction sees it. -/
theorem Supports.view_locked {progress : Progress Name Row Res} {op : Op} {answer : Res op}
    {writes : List (Write Row)} {locks : Locks Key Name} {later other : AList Row}
    (supports : Supports service invariant request (progress.extend op answer writes locks) later
      other) (key : Key) (mode : LockMode)
    (held : (Resource.row key, mode) ∈ (progress.extend op answer writes locks).locks)
    (strong : mode ≠ .keyShare) :
    (progress.view other).lookup key = (progress.view later).lookup key :=
  lookup_applyAll_congr progress.writes other later key (supports.locked key mode held strong)

/-- In particular a row that the statement writes. -/
theorem Supports.view_written {progress : Progress Name Row Res} {op : Op} {answer : Res op}
    {writes : List (Write Row)} {locks : Locks Key Name} {later other : AList Row}
    (supports : Supports service invariant request (progress.extend op answer writes locks) later
      other) (write : Write Row) (member : write ∈ writes) :
    (progress.view other).lookup write.key = (progress.view later).lookup write.key := by
  have held : write.lock ∈ (progress.extend op answer writes locks).locks := by
    simp only [Progress.extend, List.mem_append, List.mem_map]
    exact Or.inr (Or.inr ⟨write, member, rfl⟩)
  cases write with
  | put key row => exact supports.view_locked key .noKeyUpdate held (by decide)
  | drop key => exact supports.view_locked key .update held (by decide)

/-- A weaker description follows from a stronger one. -/
theorem repeats_mono (program : Program Op Res Err α) (progress : Progress Name Row Res)
    (store : AList Row) (strong weak : α → Progress Name Row Res → AList Row → Prop)
    (implies : ∀ value progress store, strong value progress store → weak value progress store)
    (repeats : Repeats service invariant request program progress store strong) :
    Repeats service invariant request program progress store weak := by
  induction program generalizing progress store with
  | done value => exact implies value progress store repeats
  | fail error => trivial
  | perform op next inductionHypothesis =>
    intro later supports answer writes locks ran
    rcases repeats later supports answer writes locks ran with failed | ⟨current, again, continues⟩
    · exact Or.inl failed
    · exact Or.inr ⟨current, again, inductionHypothesis answer _ later continues⟩

/-- Sequencing. -/
theorem repeats_bind (program : Program Op Res Err α) (rest : α → Program Op Res Err β)
    (progress : Progress Name Row Res) (store : AList Row)
    (post : β → Progress Name Row Res → AList Row → Prop)
    (repeats : Repeats service invariant request program progress store
      fun value middle reached => Repeats service invariant request (rest value) middle reached
        post) :
    Repeats service invariant request (program >>= rest) progress store post := by
  induction program generalizing progress store with
  | done value => exact repeats
  | fail error => trivial
  | perform op next inductionHypothesis =>
    intro later supports answer writes locks ran
    rcases repeats later supports answer writes locks ran with ⟨error, failed⟩ |
      ⟨current, again, continues⟩
    · exact Or.inl ⟨error, congrArg (fun program => program.bind rest) failed⟩
    · refine Or.inr ⟨current, ?_, inductionHypothesis answer _ later continues⟩
      intro other supported
      obtain ⟨same, held, ranAgain, next_same⟩ := again other supported
      exact ⟨same, held, ranAgain, congrArg (fun program => program.bind rest) next_same⟩

/-- A loop: what each round adds to, the whole loop completes. -/
theorem repeats_each {item : Type} (body : item → Program Op Res Err Unit) (items : List item)
    (property : List item → Progress Name Row Res → AList Row → Prop)
    (round : ∀ finished entry rest, items = finished ++ entry :: rest →
      ∀ progress store, property finished progress store →
        Repeats service invariant request (body entry) progress store
          fun _ => property (finished ++ [entry]))
    (progress : Progress Name Row Res) (store : AList Row) (holds : property [] progress store) :
    Repeats service invariant request (Program.each items body) progress store
      fun _ => property items := by
  have looped : ∀ (rest finished : List item), items = finished ++ rest →
      ∀ progress store, property finished progress store →
        Repeats service invariant request (Program.each rest body) progress store
          fun _ => property items := by
    intro rest
    induction rest with
    | nil =>
      intro finished all progress store kept
      rw [List.append_nil] at all
      rw [all]
      exact kept
    | cons entry rest inductionHypothesis =>
      intro finished all progress store kept
      rw [Program.each_cons]
      apply repeats_bind
      apply repeats_mono _ _ _ _ _ _ (round finished entry rest all progress store kept)
      intro _ grown later extended
      exact inductionHypothesis (finished ++ [entry]) (by simpa using all) grown later extended
  exact looped items [] rfl progress store holds

end Rules

/-- A serial history leaves what its requests leave one after another. -/
theorem linked_serial (first last : AList Row) (history : List (Commit Row Req Reply))
    (linked : Linked (serialContract service allowed invariant).Admits first history last) :
    serveAll service (history.map Commit.request) first = last := by
  induction linked with
  | nil => rfl
  | snoc history commit earlier admits inductionHypothesis =>
    obtain ⟨_, _, _, served⟩ := admits
    have served : serve service commit.request commit.before = (.ok commit.reply, commit.after) :=
      served
    rw [List.map_append, serveAll_append, inductionHypothesis]
    simp only [List.map_cons, List.map_nil, serveAll, served]

variable [DecidableEq Name]

/-- Interference leads to supporting stores only. -/
theorem supports_reaches {request : Req} {progress : Progress Name Row Res} {store later : AList Row}
    (here : Supports service invariant request progress store store) (holds : invariant later)
    (reached : Reaches service (serialContract service allowed invariant) request progress store
      later) : Supports service invariant request progress store later where
  holds := holds
  current := by
    cases reached with
    | refl => exact here.current
    | tail _ interferes => exact interferes.2.1
  locked := fun key mode held strong =>
    lookup_locked service (serialContract service allowed invariant) request progress store later
      key mode reached held strong

/-- Repeatable requests commit what they do alone. -/
theorem repeats_leads {request : Req} (whole : Program Op Res Err Reply)
    (program : service.program request = whole) (rest : Program Op Res Err Reply)
    (progress : Progress Name Row Res) (store : AList Row)
    (repeats : Repeats service invariant request rest progress store fun _ _ _ => True)
    (here : Supports service invariant request progress store store)
    (reached : ∀ other, Supports service invariant request progress store other →
      alone service whole other = alone service rest (progress.view other)) :
    Safe service (serialContract service allowed invariant) request rest progress store := by
  induction rest generalizing progress store with
  | done reply =>
    intro later holds reaches
    have supports := supports_reaches service allowed invariant here holds reaches
    have executed := reached later supports
    rw [alone_done] at executed
    simp only [serialContract, serve, program, executed]
  | fail error => trivial
  | perform op next inductionHypothesis =>
    intro later holds reaches answer writes locks ran
    have supports := supports_reaches service allowed invariant here holds reaches
    rcases repeats later supports answer writes locks ran with ⟨error, failed⟩ |
      ⟨current, again, continues⟩
    · rw [failed]
      trivial
    apply inductionHypothesis answer _ later continues
    · refine ⟨holds, ?_, fun _ _ _ _ => rfl⟩
      intro seen member
      rcases List.mem_append.mp member with member | member
      · exact supports.current seen member
      · rw [List.mem_singleton] at member
        rw [member]
        exact current
    · intro other supported
      obtain ⟨same, held, ranAgain, next_same⟩ := again other supported
      rw [reached other (supports.shrink supported), alone_ran _ _ _ _ _ _ _ ranAgain, next_same,
        Progress.view_extend]

/-- In a run of repeatable requests without stale commits, the history is a serial
execution. -/
theorem run_serial (permits : System Name Row Res Err Req Reply → Event Req → Prop)
    (db : AList Row) (last : System Name Row Res Err Req Reply)
    (admitted : ∀ system request, permits system (.arrive request) → allowed request)
    (fresh : ∀ (system : System Name Row Res Err Req Reply) (index : Nat)
      (process : Process Name Row Res Err Req Reply) (reply : Reply),
      permits system (.advance index) → system.processes[index]? = some process →
        process.rest = some (.done reply) → process.stale = false)
    (repeats : ∀ request db, allowed request → invariant db →
      Repeats service invariant request (service.program request) .empty db fun _ _ _ => True)
    (keeps : ∀ request reply before after, allowed request → invariant before →
      serve service request before = (.ok reply, after) → invariant after)
    (holds : invariant db) (run : Run service permits (System.initial db) last) :
    Linked (serialContract service allowed invariant).Admits db last.history last.db := by
  have sound : Sound service (serialContract service allowed invariant) db last := by
    apply run_sound service (serialContract service allowed invariant) permits (System.initial db)
      last db admitted
    · intro system index process reply _ permitted found ended
      exact fresh system index process reply permitted found ended
    · intro request store admitted inside
      apply repeats_leads service allowed invariant _ rfl _ _ _ (repeats request store admitted inside)
      · exact ⟨inside, by simp [Progress.empty], fun _ _ _ _ => rfl⟩
      · exact fun _ _ => rfl
    · exact keeps
    · exact sound_initial service (serialContract service allowed invariant) db holds
    · exact run
  exact sound.linked

end TraxOs.Theory
