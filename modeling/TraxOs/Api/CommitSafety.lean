import TraxOs.Api.Commits

/-!
# Every request commits what its class allows

The obligation of each program, read off its statements: a request that only
reads commits nothing; a change of a segment or a packing item touches its journey
once; a command either leaves everything alone, records a refusal, or makes one
compare-and-swap with its three audit rows.

Locks do the work. The membership is locked by the authorization, the journey by
the update or the touch, and every inserted row by its insertion, so what the
request read of them is still committed when it commits.
-/

namespace TraxOs.Api

open TraxOs.Theory

/-- A committed state of an anchored run. -/
structure Anchored (anchor : Anchor) (db : Database) : Prop where
  sessions : sessionsOf db = anchor.sessions
  journey : ∀ journeyId workspaceId, anchor.journey = some (journeyId, workspaceId) →
    ∃ row : StoredJourney, db.lookup (Key.journey journeyId) = some row ∧
      row.1.workspaceId = workspaceId

/-- The contract of an anchored run. -/
def commitContract (platform : Platform) (anchor : Anchor) : Contract Row Request Reply where
  Allowed request := ∀ journeyId workspaceId, anchor.journey = some (journeyId, workspaceId) →
    request.isOperation = false ∧ request.deletes ≠ some journeyId
  Inv := Anchored anchor
  Commits := Committed platform anchor

/-- No request changes a session. -/
theorem commit_keeps_sessions (platform : Platform) (anchor : Anchor) (request : Request)
    (reply : Reply) (before after : Database)
    (committed : Committed platform anchor request reply before after) :
    sessionsOf after = sessionsOf before := by
  funext tokenHash
  cases committed with
  | quiet unchanged => rw [unchanged]
  | changedParts _ _ _ _ _ _ spared => exact spared _ rfl (by simp)
  | created _ _ _ _ _ _ _ _ _ _ _ spared => exact spared _ (by simp)
  | deleted _ _ _ _ _ _ _ _ _ _ spared => exact spared _ rfl (by simp)
  | applied command explained =>
    exact explained.spared _ (by simp) (by simp) (by simp) (by simp)
  | rejected command explained => exact explained.spared _ (by simp)
  | administered _ _ _ _ _ spared => exact spared _ (by simp)

/-- The anchored journey stays where it is. -/
theorem commit_keeps_anchor (platform : Platform) (anchor : Anchor)
    (request : Request) (reply : Reply) (before after : Database)
    (allowed : (commitContract platform anchor).Allowed request)
    (holds : (commitContract platform anchor).Inv before)
    (committed : Committed platform anchor request reply before after) :
    (commitContract platform anchor).Inv after := by
  refine ⟨(commit_keeps_sessions platform anchor request reply before after committed).trans
    holds.sessions, ?_⟩
  intro journeyId workspaceId anchored
  obtain ⟨row, found, inside⟩ := holds.journey journeyId workspaceId anchored
  have spare : after.lookup (Key.journey journeyId) = before.lookup (Key.journey journeyId) →
      ∃ row : StoredJourney, after.lookup (Key.journey journeyId) = some row ∧
        row.1.workspaceId = workspaceId :=
    fun same => ⟨row, same.trans found, inside⟩
  cases committed with
  | quiet unchanged => exact spare (by rw [unchanged])
  | changedParts context changed target acts signed authorized spared touched =>
    by_cases same : changed = journeyId
    · subst same
      rcases touched with ⟨old, stored, now, oldFound, _, newFound, counted⟩ | ⟨_, unchanged⟩
      · obtain rfl : row = old := Option.some.inj (found.symm.trans oldFound)
        exact ⟨stored, newFound, by rw [counted]; exact inside⟩
      · exact spare unchanged
    · exact spare (spared _ rfl fun clash => same (Key.journey.inj clash).symm)
  | created context changed stored creates acts signed authorized free written fresh inWorkspace
      spared =>
    apply spare
    apply spared
    intro clash
    obtain rfl := Key.journey.inj clash
    rw [free] at found
    cases found
  | deleted context changed old deletes acts signed authorized oldFound inWorkspace gone spared =>
    apply spare
    apply spared _ rfl
    intro clash
    obtain rfl := Key.journey.inj clash
    exact (allowed journeyId workspaceId anchored).2 deletes
  | applied command explained signed told =>
    by_cases same : command.journeyId = journeyId
    · subst same
      obtain rfl : row = command.before := Option.some.inj (found.symm.trans explained.journeyBefore)
      exact ⟨command.after, explained.journeyAfter, by rw [explained.revised]; exact inside⟩
    · apply spare
      apply explained.spared
      · exact fun clash => same (Key.journey.inj clash).symm
      all_goals simp [AppliedCommand.receiptKey]
  | rejected command explained signed notApplied =>
    exact spare (explained.spared _ (by simp [RejectedCommand.receiptKey]))
  | administered workspace userId role administers written spared =>
    exact spare (spared _ (by simp))

section Safety

variable (platform : Platform) (anchor : Anchor) (request : Request)

/-- Where a program leads under the commit contract. -/
abbrev Proceeds {α : Type} (action : Action α) (progress : Progress Name Row Res) (store : Database)
    (post : α → Progress Name Row Res → Database → Prop) : Prop :=
  Leads (plainApi platform) (commitContract platform anchor) request action progress store post

/-- The actor's authority is known and locked. -/
def Holds (context : AuthContext) (progress : Progress Name Row Res) (store : Database) : Prop :=
  ∃ row : Membership, Pinned progress store (Key.membership context.workspaceId context.userId)
    (some row) ∧ roleAllows row.role .journeyWrite = true

variable {platform anchor request}

/-- Locked authority stays. -/
theorem Holds.keep {context : AuthContext} {progress grown : Progress Name Row Res}
    {store later : Database} (holds : Holds context progress store)
    (keeps : Keeps progress store grown later) : Holds context grown later := by
  obtain ⟨row, pinned, allows⟩ := holds
  exact ⟨row, keeps _ _ pinned, allows⟩

/-- Locked authority is authority. -/
theorem Holds.authorized {context : AuthContext} {progress : Progress Name Row Res}
    {store : Database} (holds : Holds context progress store) : Authorized store context := by
  obtain ⟨row, pinned, allows⟩ := holds
  exact ⟨row, pinned.1, allows⟩

/-- One statement after any interference keeps every pin. -/
theorem keeps_step (progress : Progress Name Row Res) (store later : Database) (op : Op)
    (answer : Res op) (writes : List (Write Row)) (locks : Locks Key Name)
    (reached : Reaches (plainApi platform) (commitContract platform anchor) request progress store
      later) : Keeps progress store (progress.extend op answer writes locks) later :=
  keeps_perform _ _ request progress store later op answer writes locks reached

/-- A program that only reads leaves the buffer and every pin. -/
theorem proceeds_reading {α : Type} (action : Action α) (only : action.Only fun op => op.reads = true)
    (progress : Progress Name Row Res) (store : Database) :
    Proceeds platform anchor request action progress store fun _ grown later =>
      grown.writes = progress.writes ∧ Keeps progress store grown later := by
  apply leads_invariant _ _ (fun op => op.reads = true) _ _ action only
  · exact ⟨rfl, Keeps.refl progress store⟩
  · rintro grown current later op answer writes locks reads ⟨same, keeps⟩ _ reached ran
    obtain rfl := reads_only platform _ op reads answer writes locks ran
    exact ⟨by simp [Progress.extend, same],
      keeps.trans (keeps_step grown current later op answer [] locks reached)⟩

/-- `authorize_permission` pins the authority that it finds. -/
theorem proceeds_authorize (context : AuthContext) (progress : Progress Name Row Res)
    (store : Database) (clean : progress.writes = []) :
    Proceeds platform anchor request (authorizePermission context .journeyWrite) progress store
      fun _ grown later => grown.writes = [] ∧ Keeps progress store grown later ∧
        Holds context grown later := by
  simp only [authorizePermission, Program.ask_bind]
  intro later _ reached answer writes locks ran
  have view : progress.view later = later := by simp [Progress.view, clean]
  obtain ⟨rfl, ⟨_, rfl⟩ | ⟨row, found, rfl, locked⟩⟩ :=
    ran_lockMembership platform _ context.scope answer writes locks ran
  · exact trivial
  · rw [view] at found
    by_cases allows : roleAllows row.role .journeyWrite = true
    · simp only [allows, if_true, Program.pure_eq, leads_done]
      refine ⟨by simp [Progress.extend, clean], keeps_step progress store later _ _ _ _ reached,
        row, ?_, allows⟩
      have pinned := pinned_locked progress later (Op.lockMembership context.scope) (some row.role)
        [] locks _ .share locked (by decide)
      rwa [found] at pinned
    · simp only [allows]
      exact trivial

/-- `authenticate` finds the owner of the presented session, with nothing written. -/
theorem proceeds_authenticate (runtime : Runtime) (credentials : Credentials) (store : Database) :
    Proceeds platform anchor request (authenticate platform runtime credentials) .empty store
      fun found grown _ => grown.writes = [] ∧
        ∃ session, anchor.sessions (platform.sha256 credentials.token) = some session ∧
          session.userId = found.1.userId := by
  unfold authenticate
  split
  · exact trivial
  · simp only [Program.ask_bind]
    intro later holds _ answer writes locks ran
    obtain ⟨rfl, rfl, rfl⟩ := ran_findSession platform _ _ _ answer writes locks ran
    cases seen : findSession later (platform.sha256 credentials.token) (runtime.clock 0) with
    | none =>
      simp only [Progress.view, Progress.empty, applyAll_nil, seen]
      exact trivial
    | some found =>
      obtain ⟨session, present, owner⟩ := findSession_some later _ _ found.1 found.2 seen
      simp only [Progress.view, Progress.empty, applyAll_nil, seen]
      exact ⟨rfl, session, (congrFun holds.sessions _).symm.trans present, owner⟩

/-- `repository` yields the context of the presented session with nothing written,
and for a mutation with locked authority. -/
theorem proceeds_routeContext (runtime : Runtime) (credentials : Credentials) (mutates : Bool)
    (store : Database) :
    Proceeds platform anchor request (routeContext platform runtime credentials mutates) .empty store
      fun context grown later => grown.writes = [] ∧
        (∃ session, anchor.sessions (platform.sha256 credentials.token) = some session ∧
          session.userId = context.userId) ∧
          (mutates = true → Holds context grown later) := by
  cases mutates with
  | false =>
    simp only [routeContext, Bool.false_eq_true, if_false]
    apply leads_bind
    apply leads_mono _ _ _ _ _ _ _ _ (proceeds_authenticate runtime credentials store)
    rintro ⟨context, csrfHash⟩ grown later ⟨clean, signed⟩
    exact ⟨clean, signed, by simp⟩
  | true =>
    simp only [routeContext, if_true, mutationContext]
    apply leads_bind
    apply leads_mono _ _ _ _ _ _ _ _ (proceeds_authenticate runtime credentials store)
    rintro ⟨context, csrfHash⟩ grown later ⟨clean, signed⟩
    simp only [requireCsrf]
    split
    · exact trivial
    · simp only [Program.pure_eq, Program.done_bind]
      apply leads_bind
      apply leads_mono _ _ _ _ _ _ _ _ (proceeds_authorize context grown later clean)
      rintro _ final last ⟨clean, _, holds⟩
      exact ⟨clean, signed, fun _ => holds⟩

end Safety

section Touching

/-- A program that changes parts of a journey, then touches the journey once, and
afterwards only reads. -/
def TouchesOnce (scope : Scope) (journeyId : Uuid) {α : Type} : Action α → Prop
  | .done _ => False
  | .fail _ => True
  | .perform op next =>
    (op.changesParts = true ∧ ∀ answer, TouchesOnce scope journeyId (next answer)) ∨
      ∃ now, op = .touchJourney scope journeyId now ∧
        ∀ answer, (next answer).Only fun later => later.reads = true

/-- Changes of parts may precede the touch. -/
theorem touches_after {α β : Type} (scope : Scope) (journeyId : Uuid) (action : Action α)
    (rest : α → Action β) (only : action.Only fun op => op.changesParts = true)
    (touches : ∀ value, TouchesOnce scope journeyId (rest value)) :
    TouchesOnce scope journeyId (action >>= rest) := by
  induction action with
  | done value => exact touches value
  | fail error => trivial
  | perform op next inductionHypothesis =>
    exact Or.inl ⟨only.1, fun answer => inductionHypothesis answer (only.2 answer)⟩

/-- A reading continuation after the touch changes nothing about it. -/
theorem touches_before {α β : Type} (scope : Scope) (journeyId : Uuid) (action : Action α)
    (rest : α → Action β) (touches : TouchesOnce scope journeyId action)
    (reading : ∀ value, (rest value).Only fun op => op.reads = true) :
    TouchesOnce scope journeyId (action >>= rest) := by
  induction action with
  | done value => exact absurd touches id
  | fail error => trivial
  | perform op next inductionHypothesis =>
    rcases touches with ⟨parts, inner⟩ | ⟨now, same, after⟩
    · exact Or.inl ⟨parts, fun answer => inductionHypothesis answer (inner answer)⟩
    · exact Or.inr ⟨now, same, fun answer =>
        Program.only_bind _ (next answer) rest (after answer) reading⟩

variable {platform : Platform} {anchor : Anchor} {request : Request}

/-- Before the touch: only parts have been written, and the context is known to be
in the anchored workspace if the journey is anchored. -/
def Untouched (anchor : Anchor) (request : Request) (context : AuthContext)
    (journeyId : Uuid) (progress : Progress Name Row Res) (store : Database) : Prop :=
  (∀ write ∈ progress.writes, write.key.isPart = true) ∧
    (request.isHttp = true → Holds context progress store) ∧
      ∀ workspaceId, anchor.journey = some (journeyId, workspaceId) → context.workspaceId = workspaceId

/-- After the touch: the journey row is pinned and its successor buffered, or there
was no visible row and the journey is not the anchored one. -/
def TouchMade (anchor : Anchor) (request : Request) (context : AuthContext)
    (journeyId : Uuid) (progress : Progress Name Row Res) (store : Database) : Prop :=
  (∀ write ∈ progress.writes, write.key.isPart = true ∨ write.key = Key.journey journeyId) ∧
    (request.isHttp = true → Holds context progress store) ∧
      ((∃ (row stored : StoredJourney) (now : Timestamp),
          Pinned progress store (Key.journey journeyId) (some row) ∧
            row.1.workspaceId = context.workspaceId ∧ stored.1 = row.1.touched now ∧
              ∀ base : Database, (progress.view base).lookup (Key.journey journeyId) = some stored) ∨
        ((∀ workspaceId, anchor.journey ≠ some (journeyId, workspaceId)) ∧
          ∀ write ∈ progress.writes, write.key.isPart = true))

/-- A key that is not a part is not one of the buffered parts. -/
theorem view_of_parts (progress : Progress Name Row Res) (store : Database) (key : Key)
    (central : key.isPart = false) (parts : ∀ write ∈ progress.writes, write.key.isPart = true) :
    (progress.view store).lookup key = store.lookup key := by
  apply lookup_applyAll_untouched
  intro write member same
  rw [← same, parts write member] at central
  cases central

/-- The touch itself. In an anchored run the journey is there to be touched: it
exists in its workspace, and the actor's membership is locked. -/
theorem proceeds_touch (context : AuthContext) (journeyId : Uuid) (now : Timestamp)
    (operations : anchor.journey.isSome = true → request.isHttp = true)
    (progress : Progress Name Row Res) (store later : Database)
    (untouched : Untouched anchor request context journeyId progress store)
    (holds : (commitContract platform anchor).Inv later)
    (reached : Reaches (plainApi platform) (commitContract platform anchor) request progress store
      later)
    (writes : List (Write Row)) (locks : Locks Key Name)
    (ran : execute platform (.touchJourney context.scope journeyId now) (progress.view later) =
      .ran () writes locks) :
    TouchMade anchor request context journeyId
      (progress.extend (.touchJourney context.scope journeyId now) () writes locks) later := by
  obtain ⟨parts, authority, inside⟩ := untouched
  have kept := keeps_step progress store later (Op.touchJourney context.scope journeyId now) ()
    writes locks reached
  have journeySame : (progress.view later).lookup (Key.journey journeyId) =
      later.lookup (Key.journey journeyId) := view_of_parts progress later _ rfl parts
  rcases ran_touchJourney platform _ context.scope journeyId now () writes locks ran with
    ⟨missing, rfl⟩ | ⟨row, stored, found, counted, rfl⟩
  · have unwritten : ∀ write ∈ (progress.extend (Op.touchJourney context.scope journeyId now) () []
        locks).writes, write.key.isPart = true := by simpa [Progress.extend] using parts
    refine ⟨fun write member => Or.inl (unwritten write member),
      fun http => (authority http).keep kept, Or.inr ⟨?_, unwritten⟩⟩
    intro workspaceId anchored
    obtain ⟨row, present, owner⟩ := holds.journey journeyId workspaceId anchored
    have http : request.isHttp = true := operations (by rw [anchored]; rfl)
    obtain ⟨membership, pinned, _⟩ :=
      (authority http).keep (keeps_reaches _ _ request progress store later reached)
    have member : isMember (progress.view later) context.scope = true := by
      have same := view_of_parts progress later
        (Key.membership context.workspaceId context.userId) rfl parts
      simp only [isMember, AuthContext.scope]
      rw [same, pinned.1]
      rfl
    have visible : visibleJourney (progress.view later) context.scope journeyId = some row :=
      (visibleJourney_some _ _ _ _).mpr
        ⟨journeySame.trans present, owner.trans (inside workspaceId anchored).symm, member⟩
    rw [missing] at visible
    cases visible
  · have present : later.lookup (Key.journey journeyId) = some row :=
      journeySame.symm.trans ((visibleJourney_some _ _ _ _).mp found).1
    have owner := ((visibleJourney_some _ _ _ _).mp found).2.1
    refine ⟨?_, fun http => (authority http).keep kept,
      Or.inl ⟨row, stored, now, ?_, owner, counted, ?_⟩⟩
    · intro write member
      simp only [Progress.extend, List.mem_append, List.mem_singleton] at member
      rcases member with member | rfl
      · exact Or.inl (parts write member)
      · exact Or.inr rfl
    · have pinned := pinned_written progress later (Op.touchJourney context.scope journeyId now) ()
        [Write.put (Key.journey journeyId) stored] locks _ List.mem_cons_self
      rw [show (Write.put (Key.journey journeyId) stored : Write Row).key = Key.journey journeyId
        from rfl, present] at pinned
      exact pinned
    · intro base
      simp [Write.apply]

/-- A program of that kind leads from an untouched situation to a touched one. -/
theorem proceeds_touching {α : Type} (context : AuthContext) (journeyId : Uuid)
    (operations : anchor.journey.isSome = true → request.isHttp = true) (action : Action α)
    (touches : TouchesOnce context.scope journeyId action) (progress : Progress Name Row Res)
    (store : Database) (untouched : Untouched anchor request context journeyId progress store) :
    Proceeds platform anchor request action progress store fun _ grown later =>
      TouchMade anchor request context journeyId grown later := by
  induction action generalizing progress store with
  | done value => exact absurd touches id
  | fail error => trivial
  | perform op next inductionHypothesis =>
    intro later holds reached answer writes locks ran
    rcases touches with ⟨parts, inner⟩ | ⟨now, rfl, reading⟩
    · apply inductionHypothesis answer (inner answer)
      refine ⟨?_, fun http => (untouched.2.1 http).keep
        (keeps_step progress store later op answer writes locks reached), untouched.2.2⟩
      intro write member
      rcases List.mem_append.mp member with member | member
      · exact untouched.1 write member
      · exact changes_parts platform _ op parts answer writes locks ran write member
    · have made := proceeds_touch context journeyId now operations progress store later untouched
        holds reached writes locks ran
      apply leads_mono _ _ _ _ _ _ _ _ (proceeds_reading (next answer) (reading answer) _ later)
      rintro _ grown last ⟨same, keeps⟩
      obtain ⟨only, authority, state⟩ := made
      refine ⟨by rw [same]; exact only, fun http => (authority http).keep keeps, ?_⟩
      rcases state with ⟨row, stored, moment, pinned, owner, counted, shown⟩ | ⟨free, parts⟩
      · refine Or.inl ⟨row, stored, moment, keeps _ _ pinned, owner, counted, fun base => ?_⟩
        simp only [Progress.view, same]
        exact shown base
      · exact Or.inr ⟨free, by rw [same]; exact parts⟩

/-- The commit of a touched journey. -/
theorem promise_touched (context : AuthContext) (journeyId : Uuid) (reply : Reply)
    (target : request.partsOf = some journeyId) (acts : request.actsFor context)
    (signed : request.signedBy platform anchor.sessions context)
    (progress : Progress Name Row Res) (store : Database)
    (made : TouchMade anchor request context journeyId progress store) :
    Promises (plainApi platform) (commitContract platform anchor) request reply progress store := by
  intro later _ reached
  have kept := keeps_reaches (plainApi platform) (commitContract platform anchor) request progress
    store later reached
  obtain ⟨only, authority, state⟩ := made
  refine .changedParts context journeyId target acts signed
    (fun http => ((authority http).keep kept).authorized) ?_ ?_
  · intro key central other
    apply lookup_applyAll_untouched
    intro write member same
    rcases only write member with part | journey
    · rw [same, central] at part
      cases part
    · exact other (same.symm.trans journey)
  · rcases state with ⟨row, stored, moment, pinned, owner, counted, shown⟩ | ⟨free, parts⟩
    · exact Or.inl ⟨row, stored, moment, (kept _ _ pinned).1, owner, shown later, counted⟩
    · exact Or.inr ⟨free, view_of_parts progress later _ rfl parts⟩

end Touching

section Parts

variable (context : AuthContext) (runtime : Runtime) (journeyId : Uuid)

/-- A function that reads its journey and then touches it once. -/
def PartsRoute {α : Type} (action : Action α) : Prop :=
  ∃ rest : StoredJourney → Action α, action = journeyRow context journeyId false >>= rest ∧
    ∀ row, TouchesOnce context.scope journeyId (rest row)

/-- Building the response adds nothing. -/
theorem parts_bind {α β : Type} (action : Action α) (rest : α → Action β)
    (route : PartsRoute context journeyId action)
    (reading : ∀ value, (rest value).Only fun op => op.reads = true) :
    PartsRoute context journeyId (action >>= rest) := by
  obtain ⟨inner, rfl, touches⟩ := route
  exact ⟨fun row => inner row >>= rest, Program.bind_assoc _ _ _,
    fun row => touches_before _ _ _ rest (touches row) reading⟩

/-- The touch with only a value after it. -/
theorem touch_touches {α : Type} (value : α) :
    TouchesOnce context.scope journeyId
      (touchJourney context runtime journeyId >>= fun _ => (pure value : Action α)) :=
  Or.inr ⟨runtime.clock 2, rfl, fun _ => trivial⟩

/-- The bare touch. -/
theorem touch_touches_last :
    TouchesOnce context.scope journeyId (touchJourney context runtime journeyId) :=
  Or.inr ⟨runtime.clock 2, rfl, fun _ => trivial⟩

/-- Functions that start from an owned segment start from its journey. -/
theorem parts_of_segment {α : Type} (segmentId : Uuid) (rest : StoredSegment → Action α)
    (touches : ∀ row, TouchesOnce context.scope journeyId (rest row)) :
    PartsRoute context journeyId (ownedSegment context journeyId segmentId >>= rest) := by
  refine ⟨_, Program.bind_assoc _ _ _, fun _ => ?_⟩
  refine Or.inl ⟨rfl, fun answer => ?_⟩
  cases answer with
  | none => trivial
  | some row => exact touches row

/-- Functions that start from an owned packing item start from its journey. -/
theorem parts_of_packing {α : Type} (itemId : Uuid) (rest : StoredPackingItem → Action α)
    (touches : ∀ row, TouchesOnce context.scope journeyId (rest row)) :
    PartsRoute context journeyId (ownedPacking context journeyId itemId >>= rest) := by
  refine ⟨_, Program.bind_assoc _ _ _, fun _ => ?_⟩
  refine Or.inl ⟨rfl, fun answer => ?_⟩
  cases answer with
  | none => trivial
  | some row => exact touches row

/-- Looking up an owned segment only reads. -/
theorem ownedSegment_reads (segmentId : Uuid) :
    (ownedSegment context journeyId segmentId).Only fun op => op.reads = true := by
  refine ⟨rfl, fun journey => ?_⟩
  cases journey with
  | none => trivial
  | some found =>
    refine ⟨rfl, fun segment => ?_⟩
    cases segment <;> trivial

theorem createSegment_parts (command : SegmentCreate) :
    PartsRoute context journeyId (createSegment context runtime journeyId command) := by
  refine ⟨_, rfl, fun _ => ?_⟩
  refine Or.inl ⟨rfl, fun position => Or.inl ⟨rfl, fun row => ?_⟩⟩
  exact touch_touches context runtime journeyId _

theorem updateSegment_parts (segmentId : Uuid) (command : SegmentUpdate) :
    PartsRoute context journeyId (updateSegment context runtime journeyId segmentId command) := by
  apply parts_of_segment
  intro row
  refine Or.inl ⟨rfl, fun answer => ?_⟩
  cases answer with
  | none => trivial
  | some stored => exact touch_touches context runtime journeyId _

theorem reorderSegment_parts (segmentId : Uuid) (expectedVersion newPosition : Nat) :
    PartsRoute context journeyId
      (reorderSegment context runtime journeyId segmentId expectedVersion newPosition) := by
  apply parts_of_segment
  intro owned
  simp only [Program.ask_bind]
  split
  · trivial
  · refine Or.inl ⟨rfl, fun rows => ?_⟩
    dsimp only
    split
    · trivial
    · split
      · apply touches_after
        · exact ⟨rfl, fun found => Program.only_each _ _ _ fun id => ⟨rfl, fun _ => trivial⟩⟩
        · intro _
          apply touches_after
          · exact Program.only_each _ _ _ fun entry => ⟨rfl, fun _ => trivial⟩
          · intro _
            refine Or.inr ⟨runtime.clock 2, rfl, fun _ => ?_⟩
            apply Program.only_bind _ (ownedSegment context journeyId segmentId) _
              (ownedSegment_reads context journeyId segmentId)
            intro moved
            split <;> trivial
      · trivial

theorem deleteSegment_parts (segmentId : Uuid) :
    PartsRoute context journeyId (deleteSegment context runtime journeyId segmentId) := by
  apply parts_of_segment
  intro row
  simp only [Program.ask_bind]
  refine Or.inl ⟨rfl, fun _ => ?_⟩
  apply touches_after
  · exact ⟨rfl, fun found => Program.only_each _ _ _ fun entry => ⟨rfl, fun _ => trivial⟩⟩
  · exact fun _ => touch_touches_last context runtime journeyId

theorem createPacking_parts (command : PackingCreate) :
    PartsRoute context journeyId (createPacking context runtime journeyId command) := by
  refine ⟨_, rfl, fun _ => ?_⟩
  refine Or.inl ⟨rfl, fun row => ?_⟩
  exact touch_touches context runtime journeyId _

theorem finishPacking_touches (itemId : Uuid) (result : Option StoredPackingItem) :
    TouchesOnce context.scope journeyId
      (finishPacking context runtime journeyId itemId result) := by
  cases result with
  | none => trivial
  | some row => exact touch_touches context runtime journeyId _

theorem updatePacking_parts (itemId : Uuid) (command : PackingUpdate) :
    PartsRoute context journeyId (updatePacking context runtime journeyId itemId command) := by
  apply parts_of_packing
  intro row
  exact Or.inl ⟨rfl, fun answer => finishPacking_touches context runtime journeyId itemId answer⟩

theorem updatePackingProgress_parts (itemId : Uuid) (command : PackingProgressUpdate) :
    PartsRoute context journeyId
      (updatePackingProgress context runtime journeyId itemId command) := by
  apply parts_of_packing
  intro owned
  split
  · trivial
  · exact Or.inl ⟨rfl, fun answer => finishPacking_touches context runtime journeyId itemId answer⟩

theorem deletePacking_parts (itemId : Uuid) :
    PartsRoute context journeyId (deletePacking context runtime journeyId itemId) := by
  apply parts_of_packing
  intro row
  exact Or.inl ⟨rfl, fun _ => touch_touches_last context runtime journeyId⟩

/-- Every route that changes parts of a journey has that shape. -/
theorem handle_parts (platform : Platform) (call : Call) (target : call.partsOf = some journeyId) :
    PartsRoute context journeyId (handle platform context runtime call) := by
  cases call <;> simp only [Call.partsOf, Option.some.injEq, reduceCtorEq] at target <;> subst target
  case createSegment =>
    exact parts_bind _ _ _ _ (createSegment_parts context runtime _ _) fun _ => trivial
  case updateSegment =>
    exact parts_bind _ _ _ _ (updateSegment_parts context runtime _ _ _) fun _ => trivial
  case reorderSegment =>
    exact parts_bind _ _ _ _ (reorderSegment_parts context runtime _ _ _ _) fun _ => trivial
  case deleteSegment =>
    exact parts_bind _ _ _ _ (deleteSegment_parts context runtime _ _) fun _ => trivial
  case createPacking =>
    exact parts_bind _ _ _ _ (createPacking_parts context runtime _ _) fun _ => trivial
  case updatePacking =>
    exact parts_bind _ _ _ _ (updatePacking_parts context runtime _ _ _) fun _ => trivial
  case updatePackingProgress =>
    exact parts_bind _ _ _ _ (updatePackingProgress_parts context runtime _ _ _) fun _ => trivial
  case deletePacking =>
    exact parts_bind _ _ _ _ (deletePacking_parts context runtime _ _) fun _ => trivial

variable {platform : Platform} {anchor : Anchor} {request : Request}

/-- Such a function leads to a touched journey. Reading the journey first shows that
the context is in the workspace of an anchored journey. -/
theorem proceeds_parts {α : Type} (operations : anchor.journey.isSome = true → request.isHttp = true)
    (action : Action α) (route : PartsRoute context journeyId action)
    (progress : Progress Name Row Res) (store : Database) (clean : progress.writes = [])
    (authority : request.isHttp = true → Holds context progress store) :
    Proceeds platform anchor request action progress store fun _ grown later =>
      TouchMade anchor request context journeyId grown later := by
  obtain ⟨rest, rfl, touches⟩ := route
  simp only [journeyRow, Program.ask_bind, Program.perform_bind]
  intro later holds reached answer writes locks ran
  obtain ⟨rfl, seen, _⟩ := ran_selectJourney platform _ _ _ _ _ _ _ ran
  cases answer with
  | none => exact trivial
  | some row =>
    simp only [Program.pure_eq, Program.done_bind]
    apply proceeds_touching context journeyId operations (rest row) (touches row)
    refine ⟨by simp [Progress.extend, clean], fun http => (authority http).keep
      (keeps_step progress store later _ _ _ _ reached), ?_⟩
    intro workspaceId anchored
    obtain ⟨present, owner, _⟩ := (visibleJourney_some _ _ _ _).mp seen.symm
    simp only [Progress.view, clean, applyAll_nil] at present
    obtain ⟨stored, found, inside⟩ := holds.journey journeyId workspaceId anchored
    obtain rfl := Option.some.inj (present.symm.trans found)
    exact owner.symm.trans inside

end Parts

end TraxOs.Api
