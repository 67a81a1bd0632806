import TraxOs.Theory.RelyGuarantee

/-!
# Transactions beside their peers

A rely-guarantee contract speaks of the stores before and after a commit. Some arguments
need more of the other side: which rows it has locked, and what held while it was running.
Here an invariant relates each running transaction to the committed store, and has to
survive the commit of a peer that satisfies the same invariant and whose locks are
compatible with its own.
-/

namespace TraxOs.Theory

section Peers

variable {Key Name Op : Type} [DecidableEq Key] [DecidableEq Name]
  {Row : Key → Type} {Res : Op → Type} {Err Req Reply : Type}

/-- Every write holds its lock. -/
def Owned (progress : Progress Name Row Res) : Prop :=
  ∀ write ∈ progress.writes, write.lock ∈ progress.locks

/-- What holds of committed stores, of running transactions, and of each commit. -/
structure Discipline (Name : Type) (Row : Key → Type) (Res : Op → Type) (Err Req Reply : Type) where
  Inv : AList Row → Prop
  Fine : Req → Program Op Res Err Reply → Progress Name Row Res → AList Row → Prop
  Commits : Req → Reply → AList Row → AList Row → Prop

variable (service : Service Name Row Res Err Req Reply)

/-- A discipline that the transactions of a service keep beside each other. -/
structure Discipline.Kept (discipline : Discipline Name Row Res Err Req Reply) : Prop where
  starts : ∀ request store, discipline.Inv store →
    discipline.Fine request (service.program request) .empty store
  proceeds : ∀ request op next progress store answer writes locks, discipline.Inv store →
    discipline.Fine request (.perform op next) progress store →
      service.execute op (progress.view store) = .ran answer writes locks →
        discipline.Fine request (next answer) (progress.extend op answer writes locks) store
  commits : ∀ request reply progress store, discipline.Inv store →
    discipline.Fine request (.done reply) progress store →
      discipline.Inv (progress.view store) ∧
        discipline.Commits request reply store (progress.view store)
  peers : ∀ request program mine other reply theirs store, discipline.Inv store →
    discipline.Fine request program mine store →
      discipline.Fine other (.done reply) theirs store → Owned mine → Owned theirs →
        compatible mine.locks theirs.locks = true →
          discipline.Fine request program mine (theirs.view store)

/-- The invariant of a run of such transactions. -/
structure Disciplined (discipline : Discipline Name Row Res Err Req Reply) (first : AList Row)
    (system : System Name Row Res Err Req Reply) : Prop where
  invariant : discipline.Inv system.db
  linked : Linked discipline.Commits first system.history system.db
  fine : ∀ (index : Nat) (process : Process Name Row Res Err Req Reply)
    (program : Program Op Res Err Reply), system.processes[index]? = some process →
      process.rest = some program →
        discipline.Fine process.request program process.progress system.db

/-- Every transaction owns what it writes, and its locks are compatible with those of its
peers. -/
theorem run_locked (permits : System Name Row Res Err Req Reply → Event Req → Prop)
    (always : ∀ request op answer db, service.current request op answer db = true)
    (db : AList Row) (last : System Name Row Res Err Req Reply)
    (run : Run service permits (System.initial db) last) :
    Sound service ⟨fun _ => True, fun _ => True, fun _ _ _ _ => True⟩ db last := by
  apply run_sound service _ permits (System.initial db) last db _ _ _ _ _ run
  · exact fun _ _ _ => trivial
  · intro system index process reply earlier _ found _
    exact never_stale service permits (System.initial db) system always earlier
      (by simp [System.initial]) process (List.mem_of_getElem? found)
  · intro request store _ _
    exact leads_mono _ _ _ _ _ _ _ (fun _ _ _ _ _ _ _ => trivial)
      (leads_trivial service _ (service.program request) .empty store)
  · exact fun _ _ _ _ _ _ _ => trivial
  · exact sound_initial _ _ db trivial

variable {service} {discipline : Discipline Name Row Res Err Req Reply} {first : AList Row}
  {system : System Name Row Res Err Req Reply}

omit [DecidableEq Key] [DecidableEq Name] in
/-- Replacing one transaction by one that is fine, or that has ended. -/
theorem Disciplined.settle (disciplined : Disciplined discipline first system) (index : Nat)
    (new : Process Name Row Res Err Req Reply)
    (fine : ∀ program, new.rest = some program →
      discipline.Fine new.request program new.progress system.db) :
    Disciplined discipline first (system.settle index new) := by
  refine ⟨disciplined.invariant, disciplined.linked, ?_⟩
  intro position process program here running
  by_cases same : position = index
  · subst same
    simp only [System.settle, List.getElem?_set] at here
    split at here
    · split at here
      · cases here
        exact fine program running
      · cases here
    · exact disciplined.fine position process program here running
  · rw [System.settle, List.getElem?_set_ne (Ne.symm same)] at here
    exact disciplined.fine position process program here running

/-- A transaction that has just arrived. -/
theorem Disciplined.arrive (disciplined : Disciplined discipline first system)
    (kept : discipline.Kept service) (request : Req) :
    Disciplined discipline first
      { system with processes := system.processes ++ [Process.start service request] } := by
  refine ⟨disciplined.invariant, disciplined.linked, ?_⟩
  intro position process program here running
  by_cases inside : position < system.processes.length
  · rw [List.getElem?_append_left inside] at here
    exact disciplined.fine position process program here running
  · rw [List.getElem?_append_right (by omega)] at here
    obtain rfl : process = Process.start service request :=
      List.mem_singleton.mp (List.mem_of_getElem? here)
    cases running
    exact kept.starts request system.db disciplined.invariant

/-- A commit, as its peers see it. -/
theorem Disciplined.commit (disciplined : Disciplined discipline first system)
    (kept : discipline.Kept service) (index : Nat) (process : Process Name Row Res Err Req Reply)
    (reply : Reply) (found : system.processes[index]? = some process)
    (ended : process.rest = some (.done reply))
    (owned : ∀ (position : Nat) (peer : Process Name Row Res Err Req Reply),
      system.processes[position]? = some peer → Owned peer.progress)
    (disjoint : ∀ (left right : Nat) (mine theirs : Process Name Row Res Err Req Reply),
      left ≠ right → system.processes[left]? = some mine →
        system.processes[right]? = some theirs →
          compatible mine.progress.locks theirs.progress.locks = true) :
    Disciplined discipline first (system.commit service index process reply) := by
  have fine := disciplined.fine index process _ found ended
  obtain ⟨invariant, commits⟩ :=
    kept.commits process.request reply process.progress system.db disciplined.invariant fine
  refine ⟨invariant, .snoc first system.history
    ⟨process.request, reply, system.db, process.progress.view system.db⟩ disciplined.linked
      commits, ?_⟩
  intro position noticed program here running
  simp only [System.commit, List.getElem?_map, Option.map_eq_some_iff] at here
  obtain ⟨earlier, located, rfl⟩ := here
  by_cases same : position = index
  · subst same
    have bound : position < system.processes.length := (List.getElem?_eq_some_iff.mp found).1
    rw [List.getElem?_set_self bound, Option.some.injEq] at located
    subst located
    simp [Process.notice, Process.close] at running
  · rw [List.getElem?_set_ne (Ne.symm same)] at located
    exact kept.peers earlier.request program earlier.progress process.request reply
      process.progress system.db disciplined.invariant
      (disciplined.fine position earlier program located running) fine
      (owned position earlier located) (owned index process found)
      (disjoint position index earlier process same located found)

/-- Whatever the interleaving, the discipline is kept. -/
theorem run_disciplined (permits : System Name Row Res Err Req Reply → Event Req → Prop)
    (always : ∀ request op answer db, service.current request op answer db = true)
    (kept : discipline.Kept service) (db : AList Row)
    (last : System Name Row Res Err Req Reply) (holds : discipline.Inv db)
    (run : Run service permits (System.initial db) last) : Disciplined discipline db last := by
  induction run with
  | refl => exact ⟨holds, .nil db, by simp [System.initial]⟩
  | step event earlier permitted stepped disciplined =>
    cases step_cases service _ _ event stepped with
    | arrived request => exact disciplined.arrive kept request
    | closed _ index process answer found =>
      exact disciplined.settle index _ (by simp [Process.close])
    | proceeded index process op next answer writes locks found waiting ran granted =>
      apply disciplined.settle index
      intro program running
      simp only [Process.proceed, Option.some.injEq] at running
      subst running
      exact kept.proceeds process.request op next process.progress _ answer writes locks
        disciplined.invariant (disciplined.fine index process _ found waiting) ran
    | committed index process reply found ended =>
      have locked := run_locked service permits always db _ earlier
      exact disciplined.commit kept index process reply found ended locked.owned locked.disjoint

end Peers

end TraxOs.Theory
