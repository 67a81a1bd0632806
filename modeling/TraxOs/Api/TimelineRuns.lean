import TraxOs.Theory.Serializability
import TraxOs.Api.Authority
import TraxOs.Api.TimelineOperations

/-!
# Timeline operations, interleaved

A timeline operation reads a position, a list of identifiers or a segment, and writes
rows on that basis, without a lock on the timeline. Nothing stops another operation
from committing in between. What an operation has read is then stale, and when it
commits nevertheless it can leave a gap.

When no operation commits on such a basis, every statement would be repeated with the
same answer at the commit: rows that it wrote are locked, and all segments stand where
they stood. The operations are then serializable in the order of their commits.
-/

namespace TraxOs.Api

open TraxOs.Theory

/-- What an operation has read of the timeline is still so: the next position of a
creation, the listed identifiers of a move or deletion, the segment of an update or
deletion, and the version of a moved one. -/
def Call.current (call : Call) : (op : Op) → Res op → Database → Bool
  | .nextPosition scope journeyId, position, db =>
    match call with
    | .createSegment _ _ => position == (visibleTimeline db scope journeyId).foldr
        (fun entry next => max next (entry.2.1.position + 1)) 0
    | _ => true
  | .selectSegment scope journeyId id, found, db =>
    match call with
    | .updateSegment _ _ _ => !found.isSome || (segmentIn db scope journeyId id).isSome
    | .reorderSegment _ _ command =>
      !(found.any fun row => row.1.recordVersion = command.expectedRecordVersion) ||
        (segmentIn db scope journeyId id).any fun row =>
          row.1.recordVersion = command.expectedRecordVersion
    | .deleteSegment _ _ => !found.isSome || (segmentIn db scope journeyId id).isSome
    | _ => true
  | .listSegments scope journeyId, rows, db =>
    match call with
    | .reorderSegment _ _ _ =>
      decide (rows.map Prod.fst = (visibleTimeline db scope journeyId).map Prod.fst)
    | .deleteSegment _ segmentId =>
      decide (rows.map Prod.fst =
        ((visibleTimeline db scope journeyId).map Prod.fst).filter (· ≠ segmentId))
    | _ => true
  | _, _, _ => true

/-- The same for a request. -/
def Request.current (request : Request) (op : Op) (answer : Res op) (db : Database) : Bool :=
  request.call.all fun entry => entry.1.current op answer db

/-- The API with that bookkeeping. -/
abbrev timelineApi (platform : Platform) : Service Name Row Res Failure Request Reply :=
  api platform Request.current

/-- Everybody is who they were, and the journey is in its workspace. -/
structure Situated (base : Database) (journeyId : Uuid) (db : Database) : Prop where
  identities : SameIdentities db base
  owner : (db.lookup (Key.journey journeyId)).map (fun row : StoredJourney => row.1.workspaceId) =
    (base.lookup (Key.journey journeyId)).map (fun row : StoredJourney => row.1.workspaceId)

/-- The invariant of the runs: a contiguous timeline in its surroundings. -/
structure Timely (base : Database) (journeyId : Uuid) (db : Database) : Prop where
  situated : Situated base journeyId db
  contiguous : Contiguous db journeyId

section Surroundings

variable {base db : Database} {journeyId : Uuid}

/-- The surroundings decide who sees the journey. -/
theorem Situated.visible (situated : Situated base journeyId db) (scope : Scope) :
    (visibleJourney db scope journeyId).isSome = (visibleJourney base scope journeyId).isSome := by
  have member : isMember db scope = isMember base scope := by
    rw [isMember, isMember, situated.identities (Key.membership scope.workspaceId scope.userId) rfl]
  have owner := situated.owner
  rw [visibleJourney, visibleJourney, member]
  cases here : db.lookup (Key.journey journeyId) with
  | none =>
    rw [here, Option.map_none, eq_comm, Option.map_eq_none_iff] at owner
    rw [owner]
  | some row =>
    rw [here, Option.map_some, eq_comm, Option.map_eq_some_iff] at owner
    obtain ⟨stored, there, same⟩ := owner
    simp only [there, same]
    split <;> rfl

/-- Writes of parts leave the surroundings. -/
theorem Situated.parts (situated : Situated base journeyId db) (writes : List (Write Row))
    (parts : ∀ write ∈ writes, write.key.isPart = true) :
    Situated base journeyId (applyAll writes db) := by
  have central : ∀ key : Key, key.isPart = false →
      (applyAll writes db).lookup key = db.lookup key := by
    intro key outside
    apply lookup_applyAll_untouched
    intro write member same
    rw [← same, parts write member] at outside
    cases outside
  constructor
  · intro key identity
    rw [central key (by cases key <;> simp_all [Key.isIdentity, Key.isPart])]
    exact situated.identities key identity
  · rw [central (Key.journey journeyId) rfl]
    exact situated.owner

/-- So does a touch. -/
theorem Situated.touched (situated : Situated base journeyId db) (row stored : StoredJourney)
    (found : db.lookup (Key.journey journeyId) = some row)
    (same : stored.1.workspaceId = row.1.workspaceId) :
    Situated base journeyId (applyAll [.put (Key.journey journeyId) stored] db) := by
  have written : applyAll [Write.put (Key.journey journeyId) stored] db =
      db.insert (Key.journey journeyId) stored := rfl
  rw [written]
  constructor
  · intro key identity
    rw [AList.lookup_insert_ne (by rintro rfl; cases identity)]
    exact situated.identities key identity
  · rw [AList.lookup_insert, ← situated.owner, found, Option.map_some, Option.map_some, same]

/-- An accepted timeline operation leaves the surroundings. -/
theorem Situated.served (platform : Platform) (request : Request)
    (named : request.timelineOf = some journeyId) (after : Database) (reply : Reply)
    (situated : Situated base journeyId db)
    (served : serve (plainApi platform) request db = (.ok reply, after)) :
    Situated base journeyId after := by
  have parts : request.partsOf = some journeyId := by
    cases request with
    | http credentials call runtime =>
      cases call <;> simp_all [Request.timelineOf, Call.timelineOf, Request.partsOf, Request.call,
        Call.partsOf]
    | operation context call runtime =>
      cases call <;> simp_all [Request.timelineOf, Call.timelineOf, Request.partsOf, Request.call,
        Call.partsOf]
    | command => cases named
    | administer => cases named
  have only : ∀ other, request.partsOf = none → other := by
    intro other nothing
    rw [parts] at nothing
    cases nothing
  cases serve_committed platform request db after reply served with
  | quiet _ noParts _ => exact only _ noParts
  | changedParts context target same _ _ _ spared touched =>
    obtain rfl : journeyId = target := Option.some.inj (parts.symm.trans same)
    constructor
    · intro key identity
      rw [spared key (by cases key <;> simp_all [Key.isIdentity, Key.isPart])
        (by rintro rfl; cases identity)]
      exact situated.identities key identity
    · rw [← situated.owner]
      rcases touched with ⟨row, stored, now, here, _, there, same⟩ | ⟨_, same⟩
      · rw [here, there, Option.map_some, Option.map_some, same]
        rfl
      · rw [same]
  | created _ _ _ creates => exact only _ (request.journey_apart _ (Or.inl creates))
  | deleted _ _ _ deletes => exact only _ (request.journey_apart _ (Or.inr deletes))
  | applied command explained =>
    exact only _ (request.command_apart (by rw [explained.executes]; rfl)).1
  | rejected command explained =>
    exact only _ (request.command_apart (by rw [explained.executes]; rfl)).1
  | administered _ _ _ administers =>
    subst administers
    cases parts

end Surroundings

section Repetition

variable {platform : Platform} {base : Database} {journeyId : Uuid} {request : Request}

/-- A store that supports what a timeline request has seen. -/
abbrev Sustains (platform : Platform) (base : Database) (journeyId : Uuid) (request : Request)
    (progress : Progress Name Row Res) (store other : Database) : Prop :=
  Supports (timelineApi platform) (Timely base journeyId) request progress store other

/-- A piece of a timeline request whose statements are repeatable. -/
abbrev Repeatable (platform : Platform) (base : Database) (journeyId : Uuid) (request : Request)
    {α : Type} (action : Action α) (progress : Progress Name Row Res) (store : Database)
    (post : α → Progress Name Row Res → Database → Prop) : Prop :=
  Repeats (timelineApi platform) (Timely base journeyId) request action progress store post

/-- Statements whose answers a timeline operation relies on. -/
def Op.observesTimeline : Op → Bool
  | .nextPosition _ _ => true
  | .selectSegment _ _ _ => true
  | .listSegments _ _ => true
  | _ => false

/-- The other answers need no bookkeeping. -/
theorem current_unobserved (op : Op) (unobserved : op.observesTimeline = false) (answer : Res op)
    (db : Database) : request.current op answer db = true := by
  unfold Request.current
  cases request.call with
  | none => rfl
  | some entry => cases op <;> first | rfl | cases unobserved

/-- Whoever supports the request has the same surroundings, also after its writes. -/
def Grounded (platform : Platform) (base : Database) (journeyId : Uuid) (request : Request)
    (progress : Progress Name Row Res) (store : Database) : Prop :=
  ∀ other, Sustains platform base journeyId request progress store other →
    Situated base journeyId (progress.view other)

/-- Before the first write there is nothing to show. -/
theorem grounded_clean (progress : Progress Name Row Res) (store : Database)
    (clean : progress.writes = []) :
    Grounded platform base journeyId request progress store := by
  intro other supports
  rw [Progress.view, clean]
  exact supports.holds.situated

/-- Reading and changing parts keeps the surroundings. -/
theorem grounded_extend (progress : Progress Name Row Res) (store later : Database)
    (grounded : Grounded platform base journeyId request progress store)
    (supports : Sustains platform base journeyId request progress store later) (op : Op)
    (answer : Res op) (writes : List (Write Row)) (locks : Locks Key Name)
    (parts : ∀ write ∈ writes, write.key.isPart = true) :
    Grounded platform base journeyId request (progress.extend op answer writes locks) later := by
  intro other supported
  rw [Progress.view_extend]
  exact (grounded other (supports.shrink supported)).parts writes parts

/-- Asking who somebody is can be repeated: identities do not change. -/
theorem repeats_identity {α : Type} (action : Action α)
    (only : action.Only fun op => op.identifies = true) (progress : Progress Name Row Res)
    (store : Database) (clean : progress.writes = []) :
    Repeatable platform base journeyId request action progress store
      fun _ grown _ => grown.writes = [] := by
  induction action generalizing progress store with
  | done value => exact clean
  | fail error => trivial
  | perform op next inductionHypothesis =>
    intro later supports answer writes locks ran
    have reads : op.reads = true := by
      cases op <;> simp_all [Program.Only, Op.identifies, Op.reads]
    obtain rfl := reads_only platform _ op reads answer writes locks ran
    refine Or.inr ⟨current_unobserved op ?_ answer later, ?_, ?_⟩
    · cases op <;> simp_all [Program.Only, Op.identifies, Op.observesTimeline]
    · intro other supported
      refine ⟨answer, locks, ?_, rfl⟩
      have identities : SameIdentities (progress.view other) (progress.view later) := by
        intro key identity
        rw [Progress.view, Progress.view, clean]
        exact (supported.holds.situated.identities key identity).trans
          (supports.holds.situated.identities key identity).symm
      rw [← ran]
      cases op with
      | findSession tokenHash now =>
        simp only [timelineApi, api, execute, findSession_same _ _ identities]
      | lockMembership scope =>
        simp only [timelineApi, api, execute,
          identities (Key.membership scope.workspaceId scope.userId) rfl]
      | _ => cases only.1
    · apply inductionHypothesis answer (only.2 answer)
      simp [Progress.extend, clean]

variable (context : AuthContext) (runtime : Runtime)

/-- `_journey_row`, when the caller does not look at the row. -/
theorem repeats_journeyRow {α : Type} (rest : Action α) (progress : Progress Name Row Res)
    (store : Database) (post : α → Progress Name Row Res → Database → Prop)
    (grounded : Grounded platform base journeyId request progress store)
    (continues : ∀ later answer locks,
      Sustains platform base journeyId request progress store later →
        (visibleJourney base context.scope journeyId).isSome = true →
          Repeatable platform base journeyId request rest
            (progress.extend (Op.selectJourney context.scope journeyId false) answer [] locks) later
              post) :
    Repeatable platform base journeyId request (journeyRow context journeyId false >>= fun _ => rest)
      progress store post := by
  intro later supports answer writes locks ran
  obtain ⟨rfl, seen, _⟩ := ran_selectJourney platform _ _ _ _ _ _ _ ran
  have visible := (grounded later supports).visible context.scope
  cases answer with
  | none => exact Or.inl ⟨_, rfl⟩
  | some row =>
    rw [← seen] at visible
    refine Or.inr ⟨current_unobserved _ rfl _ later, ?_, ?_⟩
    · intro other supported
      have again := (grounded other (supports.shrink supported)).visible context.scope
      rw [← visible] at again
      obtain ⟨same, found⟩ := Option.isSome_iff_exists.mp again
      refine ⟨some same, [], ?_, rfl⟩
      simp only [timelineApi, api, execute, found]
      rfl
    · exact continues later (some row) locks supports visible.symm

/-- `_owned_segment`. What follows must not depend on more of the row than the
bookkeeping keeps current. -/
theorem repeats_ownedSegment {α : Type} (segmentId : Uuid) (rest : StoredSegment → Action α)
    (progress : Progress Name Row Res) (store : Database)
    (post : α → Progress Name Row Res → Database → Prop)
    (grounded : Grounded platform base journeyId request progress store)
    (continues : ∀ later first locks row,
      Sustains platform base journeyId request progress store later →
        (visibleJourney base context.scope journeyId).isSome = true →
          segmentIn (progress.view later) context.scope journeyId segmentId = some row →
            (∃ error, rest row = .fail error) ∨
              request.current (Op.selectSegment context.scope journeyId segmentId) (some row) later =
                true ∧
              (∀ other, Sustains platform base journeyId request
                  ((progress.extend (Op.selectJourney context.scope journeyId false) first [] locks).extend
                    (Op.selectSegment context.scope journeyId segmentId) (some row) [] []) later
                      other →
                Sustains platform base journeyId request progress store other →
                ∃ same, segmentIn (progress.view other) context.scope journeyId segmentId = some same ∧
                  rest same = rest row) ∧
              Repeatable platform base journeyId request (rest row)
                ((progress.extend (Op.selectJourney context.scope journeyId false) first [] locks).extend
                  (Op.selectSegment context.scope journeyId segmentId) (some row) [] []) later post) :
    Repeatable platform base journeyId request (ownedSegment context journeyId segmentId >>= rest)
      progress store post := by
  rw [ownedSegment, Program.bind_assoc]
  apply repeats_journeyRow context _ progress store post grounded
  intro earlier first held supports visible later supported answer writes locks ran
  obtain ⟨rfl, rfl, rfl⟩ := ran_selectSegment platform _ _ _ _ _ _ _ ran
  simp only [Progress.view_extend, applyAll_nil] at ran ⊢
  cases found : segmentIn (progress.view later) context.scope journeyId segmentId with
  | none => exact Or.inl ⟨_, rfl⟩
  | some row =>
    rcases continues later first held row (supports.shrink supported) visible found with
      ⟨error, failed⟩ | ⟨current, again, repeats⟩
    · exact Or.inl ⟨error, failed⟩
    · refine Or.inr ⟨current, ?_, repeats⟩
      intro other sustained
      obtain ⟨same, there, alike⟩ := again other sustained
        (supports.shrink (supported.shrink sustained))
      refine ⟨some same, [], ?_, alike⟩
      simp only [timelineApi, api, execute, there]
      rfl

/-- `_touch_journey`. -/
theorem repeats_touch {α : Type} (rest : Unit → Action α) (progress : Progress Name Row Res)
    (store : Database) (post : α → Progress Name Row Res → Database → Prop)
    (grounded : Grounded platform base journeyId request progress store)
    (continues : ∀ later writes locks,
      Sustains platform base journeyId request progress store later →
        Grounded platform base journeyId request
            (progress.extend (Op.touchJourney context.scope journeyId (runtime.clock 2)) () writes
              locks) later →
          Repeatable platform base journeyId request (rest ())
            (progress.extend (Op.touchJourney context.scope journeyId (runtime.clock 2)) () writes
              locks) later post) :
    Repeatable platform base journeyId request (touchJourney context runtime journeyId >>= rest)
      progress store post := by
  intro later supports answer writes locks ran
  have visible := fun other supported => (grounded other supported).visible context.scope
  rcases ran_touchJourney platform _ _ _ _ _ _ _ ran with ⟨hidden, rfl⟩ |
    ⟨row, stored, shown, touched, rfl⟩
  · refine Or.inr ⟨current_unobserved _ rfl _ later, ?_, continues later [] locks supports ?_⟩
    · intro other supported
      have there : visibleJourney (progress.view other) context.scope journeyId = none := by
        rw [← Option.not_isSome_iff_eq_none, visible other (supports.shrink supported),
          ← visible later supports, hidden]
        simp
      refine ⟨(), [], ?_, rfl⟩
      simp only [timelineApi, api, execute, there]
      rfl
    · exact grounded_extend progress store later grounded supports _ _ _ _ (by simp)
  · obtain ⟨present, owner, _⟩ := (visibleJourney_some _ _ _ _).mp shown
    have pinned : ∀ other, Sustains platform base journeyId request
        (progress.extend (Op.touchJourney context.scope journeyId (runtime.clock 2)) ()
          [.put (Key.journey journeyId) stored] locks) later other →
        (progress.view other).lookup (Key.journey journeyId) = some row := by
      intro other supported
      rw [← present]
      exact supported.view_written (.put (Key.journey journeyId) stored) List.mem_cons_self
    have moved : stored.1.workspaceId = row.1.workspaceId := by
      rw [touched]
      rfl
    refine Or.inr ⟨current_unobserved _ rfl _ later, ?_,
      continues later [.put (Key.journey journeyId) stored] locks supports ?_⟩
    · intro other supported
      have seen := visible other (supports.shrink supported)
      rw [← visible later supports, shown, Option.isSome_some] at seen
      obtain ⟨same, there⟩ := Option.isSome_iff_exists.mp seen
      obtain rfl : row = same := Option.some.inj
        ((pinned other supported).symm.trans ((visibleJourney_some _ _ _ _).mp there).1)
      refine ⟨(), locks, ?_, rfl⟩
      rw [← ran]
      simp only [timelineApi, api, execute, there, shown]
    · intro other supported
      rw [Progress.view_extend]
      exact (grounded other (supports.shrink supported)).touched row stored (pinned other supported)
        moved

/-- What a loop over a timeline keeps: the surroundings, the answers so far, and that
every segment stands at one place in all supporting stores. The listed ones do stand. -/
structure Steady (platform : Platform) (base : Database) (journeyId : Uuid) (request : Request)
    (seen : List (Sigma Res)) (ids : List Uuid) (progress : Progress Name Row Res)
    (store : Database) : Prop where
  grounded : Grounded platform base journeyId request progress store
  places : ∀ other, Sustains platform base journeyId request progress store other → ∀ id,
    placeOf (progress.view other) journeyId id = placeOf (progress.view store) journeyId id
  members : ∀ id ∈ ids, ∃ row : StoredSegment,
    (progress.view store).lookup (Key.segment id) = some row ∧ row.1.journeyId = journeyId
  observed : ∀ entry ∈ seen, entry ∈ progress.observed

variable {seen : List (Sigma Res)} {ids : List Uuid}

/-- A segment that stands somewhere has a row in the journey. -/
theorem placed_member (left right : Database) (id : Uuid)
    (same : placeOf left journeyId id = placeOf right journeyId id)
    (member : ∃ row : StoredSegment, right.lookup (Key.segment id) = some row ∧
      row.1.journeyId = journeyId) :
    ∃ row : StoredSegment, left.lookup (Key.segment id) = some row ∧
      row.1.journeyId = journeyId := by
  obtain ⟨row, found, inside⟩ := member
  have placed := (placeOf_eq_some right journeyId id row.1.position).mpr ⟨row, found, inside, rfl⟩
  rw [← same, placeOf_eq_some] at placed
  obtain ⟨stored, there, owned, _⟩ := placed
  exact ⟨stored, there, owned⟩

/-- Writes to parts keep it, as long as the listed segments remain in the journey. -/
theorem Steady.extend {progress : Progress Name Row Res} {store later : Database}
    (steady : Steady platform base journeyId request seen ids progress store)
    (supports : Sustains platform base journeyId request progress store later) (op : Op)
    (answer : Res op) (writes : List (Write Row)) (locks : Locks Key Name)
    (parts : ∀ write ∈ writes, write.key.isPart = true)
    (members : ∀ id ∈ ids, ∃ row : StoredSegment,
      (applyAll writes (progress.view later)).lookup (Key.segment id) = some row ∧
        row.1.journeyId = journeyId) :
    Steady platform base journeyId request seen ids (progress.extend op answer writes locks)
      later where
  grounded := grounded_extend progress store later steady.grounded supports op answer writes locks
    parts
  places := by
    intro other supported id
    rw [Progress.view_extend, Progress.view_extend]
    have before : placeOf (progress.view other) journeyId id =
        placeOf (progress.view later) journeyId id :=
      (steady.places other (supports.shrink supported) id).trans
        (steady.places later supports id).symm
    by_cases written : ∃ write ∈ writes, write.key = Key.segment id
    · exact placeOf_congr journeyId _ _ id
        (lookup_applyAll_written writes _ _ (Key.segment id) written)
    · have untouched : ∀ write ∈ writes, write.key ≠ Key.segment id :=
        fun write member same => written ⟨write, member, same⟩
      rw [placeOf_congr journeyId (applyAll writes (progress.view other)) (progress.view other) id
          (lookup_applyAll_untouched writes _ _ untouched),
        placeOf_congr journeyId (applyAll writes (progress.view later)) (progress.view later) id
          (lookup_applyAll_untouched writes _ _ untouched), before]
  members := by
    rw [Progress.view_extend]
    exact members
  observed := fun entry member => List.mem_append_left _ (steady.observed entry member)

/-- Moving one of the listed segments keeps it. -/
theorem Steady.moved {progress : Progress Name Row Res} {store later : Database}
    (steady : Steady platform base journeyId request seen ids progress store)
    (supports : Sustains platform base journeyId request progress store later) (op : Op)
    (answer : Res op) (id : Uuid) (stored : StoredSegment) (locks : Locks Key Name)
    (owned : stored.1.journeyId = journeyId) :
    Steady platform base journeyId request seen ids
      (progress.extend op answer [.put (Key.segment id) stored] locks) later := by
  apply steady.extend supports op answer _ locks (by simp [Write.key, Key.isPart])
  apply inside_insert journeyId ids (progress.view later) id stored owned
  intro other member
  exact placed_member _ _ other (steady.places later supports other) (steady.members other member)

/-- A position is taken in all supporting stores or in none. -/
theorem relocate_same (left right : Database) (id : Uuid) (row : StoredSegment) (moved : Segment)
    (inside : moved.journeyId = journeyId)
    (same : ∀ other, placeOf left journeyId other = placeOf right journeyId other) :
    relocate left id row moved = relocate right id row moved := by
  have taken : positionTaken left id moved.journeyId moved.position =
      positionTaken right id moved.journeyId moved.position := by
    rw [Bool.eq_iff_iff, positionTaken_iff, positionTaken_iff, inside]
    simp only [same]
  rw [relocate, relocate, taken]

/-- A listed segment is shown in every supporting store. -/
theorem Steady.shown {progress : Progress Name Row Res} {store later : Database}
    (steady : Steady platform base journeyId request seen ids progress store)
    (supports : Sustains platform base journeyId request progress store later)
    (visible : (visibleJourney base context.scope journeyId).isSome = true) (id : Uuid)
    (member : id ∈ ids) :
    ∃ row : StoredSegment, (progress.view later).lookup (Key.segment id) = some row ∧
      row.1.journeyId = journeyId ∧
        segmentIn (progress.view later) context.scope journeyId id = some row ∧
          visibleSegment (progress.view later) context.scope id = some row := by
  obtain ⟨row, found, inside⟩ := placed_member _ _ id (steady.places later supports id)
    (steady.members id member)
  have there := (steady.grounded later supports).visible context.scope
  rw [visible] at there
  exact ⟨row, found, inside, (segmentIn_some _ _ _ _ _).mpr ⟨found, inside, there⟩,
    (visibleSegment_some _ _ _ _).mpr ⟨found, inside ▸ there⟩⟩

/-- Shifting a listed segment can be repeated. -/
theorem repeats_shift (visible : (visibleJourney base context.scope journeyId).isSome = true)
    (id : Uuid) (member : id ∈ ids) (progress : Progress Name Row Res) (store : Database)
    (steady : Steady platform base journeyId request seen ids progress store) :
    Repeatable platform base journeyId request
      (Program.ask (Op.shiftSegment context.scope journeyId id)) progress store
        fun _ => Steady platform base journeyId request seen ids := by
  intro later supports answer writes locks ran
  obtain ⟨found, present, inside, shown, _⟩ := steady.shown context supports visible id member
  rcases ran_shiftSegment platform _ _ _ _ _ writes locks ran with ⟨hidden, _⟩ |
    ⟨row, stored, same, moved, rfl⟩
  · rw [shown] at hidden
    cases hidden
  obtain rfl : found = row := Option.some.inj (shown.symm.trans same)
  have owned : stored.1.journeyId = journeyId := by
    rw [moved]
    exact inside
  refine Or.inr ⟨current_unobserved _ rfl _ later, ?_,
    steady.moved supports _ _ id stored locks owned⟩
  intro other supported
  have earlier := supports.shrink supported
  obtain ⟨again, there, _, seenThere, _⟩ := steady.shown context earlier visible id member
  have pinned : (progress.view other).lookup (Key.segment id) =
      (progress.view later).lookup (Key.segment id) :=
    supported.view_written (.put (Key.segment id) stored) List.mem_cons_self
  rw [there, present, Option.some.injEq] at pinned
  subst pinned
  refine ⟨(), locks, ?_, rfl⟩
  rw [← ran]
  simp only [timelineApi, api, execute, seenThere, shown]
  refine relocate_same (progress.view other) (progress.view later) id again
    { again.1 with position := again.1.position + shiftOffset } inside ?_
  intro other
  exact (steady.places _ earlier other).trans (steady.places later supports other).symm

/-- Placing a listed segment can be repeated, and locks its row. -/
theorem repeats_place (visible : (visibleJourney base context.scope journeyId).isSome = true)
    (id : Uuid) (member : id ∈ ids) (position : Nat) (stamp : Option Timestamp) (bump : Bool)
    (progress : Progress Name Row Res) (store : Database)
    (steady : Steady platform base journeyId request seen ids progress store) :
    Repeatable platform base journeyId request
      (Program.ask (Op.placeSegment context.scope id position stamp bump)) progress store
        fun _ grown later => Steady platform base journeyId request seen ids grown later ∧
          (∀ lock ∈ progress.locks, lock ∈ grown.locks) ∧
            (Resource.row (Key.segment id), LockMode.noKeyUpdate) ∈ grown.locks := by
  intro later supports answer writes locks ran
  obtain ⟨found, present, inside, _, shown⟩ := steady.shown context supports visible id member
  rcases ran_placeSegment platform _ _ _ _ _ _ _ writes locks ran with ⟨hidden, _⟩ |
    ⟨row, stored, same, moved, rfl⟩
  · rw [shown] at hidden
    cases hidden
  obtain rfl : found = row := Option.some.inj (shown.symm.trans same)
  have owned : stored.1.journeyId = journeyId := by
    rw [moved]
    exact inside
  refine Or.inr ⟨current_unobserved _ rfl _ later, ?_,
    steady.moved supports _ _ id stored locks owned,
    fun lock held => List.mem_append_left _ held, ?_⟩
  · intro other supported
    have earlier := supports.shrink supported
    obtain ⟨again, there, _, _, seenThere⟩ := steady.shown context earlier visible id member
    have pinned : (progress.view other).lookup (Key.segment id) =
        (progress.view later).lookup (Key.segment id) :=
      supported.view_written (.put (Key.segment id) stored) List.mem_cons_self
    rw [there, present, Option.some.injEq] at pinned
    subst pinned
    refine ⟨(), locks, ?_, rfl⟩
    rw [← ran]
    simp only [timelineApi, api, execute, seenThere, shown]
    refine relocate_same (progress.view other) (progress.view later) id again
      (again.1.placed position stamp bump) inside ?_
    intro other
    exact (steady.places _ earlier other).trans (steady.places later supports other).symm
  · simp [Progress.extend, Write.lock]

/-- So can renumbering listed segments, which locks them all. -/
theorem repeats_renumber (visible : (visibleJourney base context.scope journeyId).isSome = true)
    (listed : List Uuid) (inside : ∀ id ∈ listed, id ∈ ids) (stamp : Option Timestamp)
    (bump : Uuid → Bool) (progress : Progress Name Row Res) (store : Database)
    (steady : Steady platform base journeyId request seen ids progress store) :
    Repeatable platform base journeyId request
      (Program.each listed.zipIdx fun entry =>
        Program.ask (Op.placeSegment context.scope entry.1 entry.2 stamp (bump entry.1))) progress
          store
        fun _ grown later => Steady platform base journeyId request seen ids grown later ∧
          ∀ id ∈ listed, (Resource.row (Key.segment id), LockMode.noKeyUpdate) ∈ grown.locks := by
  apply repeats_mono _ _ _ _ _ ?_ (repeats_each _ listed.zipIdx
    (fun finished grown later => Steady platform base journeyId request seen ids grown later ∧
      ∀ entry ∈ finished, (Resource.row (Key.segment entry.1), LockMode.noKeyUpdate) ∈ grown.locks)
    ?_ progress store ⟨steady, by simp⟩)
  · rintro _ grown later ⟨steadily, held⟩
    refine ⟨steadily, ?_⟩
    intro id member
    obtain ⟨position, here⟩ := List.getElem?_of_mem member
    exact held (id, position) (List.mk_mem_zipIdx_iff_getElem?.mpr here)
  · rintro finished ⟨id, position⟩ rest split middle now ⟨steadily, held⟩
    have numbered : (id, position) ∈ listed.zipIdx := by
      rw [split]
      simp
    have member : id ∈ listed :=
      List.mem_of_getElem? (List.mk_mem_zipIdx_iff_getElem?.mp numbered)
    apply repeats_mono _ _ _ _ _ ?_ (repeats_place context visible id (inside id member) position
      stamp (bump id) middle now steadily)
    rintro _ grown later ⟨still, kept, locked⟩
    refine ⟨still, ?_⟩
    intro entry among
    rcases List.mem_append.mp among with earlier | last
    · exact kept _ (held entry earlier)
    · rw [List.mem_singleton] at last
      rw [last]
      exact locked

/-- What a timeline request has read is judged by its own operation. -/
theorem current_call (call : Call) (surroundings : Runtime)
    (called : request.call = some (call, surroundings)) (op : Op) (answer : Res op)
    (db : Database) : request.current op answer db = call.current op answer db := by
  rw [Request.current, called]
  rfl

/-- A transaction that has written nothing sees the committed store. -/
theorem view_clean (progress : Progress Name Row Res) (clean : progress.writes = [])
    (db : Database) : progress.view db = db := by
  rw [Progress.view, clean]
  rfl

/-- Whether the journey is visible in a supporting store. -/
theorem sustains_visible (progress : Progress Name Row Res) (store other : Database)
    (supports : Sustains platform base journeyId request progress store other) (scope : Scope) :
    (visibleJourney other scope journeyId).isSome = (visibleJourney base scope journeyId).isSome :=
  supports.holds.situated.visible scope

/-- `create_segment` is repeatable. The position that it has read decides the unique
index entry that it takes. -/
theorem repeats_createSegment (command : SegmentCreate) (surroundings : Runtime)
    (called : request.call = some (.createSegment journeyId command, surroundings))
    (progress : Progress Name Row Res) (store : Database) (clean : progress.writes = []) :
    Repeatable platform base journeyId request (createSegment context runtime journeyId command)
      progress store fun _ _ _ => True := by
  apply repeats_journeyRow context _ progress store _ (grounded_clean progress store clean)
  intro first found held supports visible second supported position writes locks ran
  obtain ⟨same, rfl, rfl⟩ := (answered_ran _ _ _ _).mp ran
  rw [Progress.view_extend, applyAll_nil, view_clean progress clean] at same
  refine Or.inr ⟨?_, ?_, ?_⟩
  · have now : request.current (Op.nextPosition context.scope journeyId) position second = true := by
      rw [current_call _ _ called, ← same]
      simp [Call.current]
    exact now
  · intro other again
    have now := again.current ⟨Op.nextPosition context.scope journeyId, position⟩
      (by simp [Progress.extend])
    have now : request.current (Op.nextPosition context.scope journeyId) position other = true := now
    rw [current_call _ _ called] at now
    simp only [Call.current, beq_iff_eq] at now
    refine ⟨position, [], ?_, rfl⟩
    rw [Progress.view_extend, applyAll_nil, view_clean progress clean, now]
    rfl
  · intro third sustained answer writes locks ran
    obtain ⟨row, free, untaken, rfl⟩ := ran_insertSegment platform _ _ _ _ answer writes locks ran
    simp only [Progress.view_extend, applyAll_nil, view_clean progress clean] at ran free untaken
    refine Or.inr ⟨current_unobserved _ rfl _ third, ?_, ?_⟩
    · intro other again
      have now := again.current ⟨Op.nextPosition context.scope journeyId, position⟩
        (by simp [Progress.extend])
      have now : request.current (Op.nextPosition context.scope journeyId) position other =
        true := now
      have shown := (sustains_visible _ _ other again context.scope).trans visible
      rw [current_call _ _ called] at now
      simp only [Call.current, beq_iff_eq] at now
      rw [visibleTimeline, if_pos shown, next_of_contiguous again.holds.contiguous] at now
      have pinned := again.view_written _ List.mem_cons_self
      simp only [Progress.view_extend, applyAll_nil, view_clean progress clean, Write.key]
        at pinned
      have vacant : positionTaken other (command.id.getD runtime.entityId) journeyId position =
          false := by
        rw [← Bool.not_eq_true, positionTaken_iff]
        rintro ⟨id, _, placed⟩
        have bounded := (lists_order again.holds.contiguous).bounded id position placed
        exact Nat.ne_of_lt bounded now
      have alike := (sustains_visible _ _ other again context.scope).trans
        (sustains_visible _ _ third sustained context.scope).symm
      refine ⟨answer, locks, ?_, rfl⟩
      have untaken : positionTaken third (command.id.getD runtime.entityId) journeyId position =
        false := untaken
      simp only [Progress.view_extend, applyAll_nil, view_clean progress clean]
      rw [← ran]
      simp only [timelineApi, api, execute, newSegment, alike, pinned, vacant, untaken]
    · apply repeats_touch context runtime
      · apply grounded_extend _ second third _ sustained
        · simp [Write.key, Key.isPart]
        · apply grounded_clean
          simp [Progress.extend, clean]
      · intro _ _ _ _ _
        trivial

/-- `_owned_segment`, when the operation relies on the segment being there. -/
theorem repeats_present {α : Type} (segmentId : Uuid) (rest : Action α) (call : Call)
    (surroundings : Runtime) (called : request.call = some (call, surroundings))
    (keeps : ∀ found db, call.current (Op.selectSegment context.scope journeyId segmentId) found db =
      (!found.isSome || (segmentIn db context.scope journeyId segmentId).isSome))
    (progress : Progress Name Row Res) (store : Database) (clean : progress.writes = [])
    (post : α → Progress Name Row Res → Database → Prop)
    (continues : ∀ grown later, grown.writes = [] →
      (visibleJourney base context.scope journeyId).isSome = true →
        (∀ final last, Sustains platform base journeyId request final last last →
          (∀ entry ∈ grown.observed, entry ∈ final.observed) →
            (segmentIn last context.scope journeyId segmentId).isSome = true) →
          Repeatable platform base journeyId request rest grown later post) :
    Repeatable platform base journeyId request
      (ownedSegment context journeyId segmentId >>= fun _ => rest) progress store post := by
  apply repeats_ownedSegment context segmentId _ progress store _
    (grounded_clean progress store clean)
  intro first found held row supports visible shown
  rw [view_clean progress clean] at shown
  have present : ∀ final last, Sustains platform base journeyId request final last last →
      (⟨Op.selectSegment context.scope journeyId segmentId, some row⟩ : Sigma Res) ∈
          final.observed →
        (segmentIn last context.scope journeyId segmentId).isSome = true := by
    intro final last sustains member
    have now : request.current (Op.selectSegment context.scope journeyId segmentId) (some row)
      last = true := sustains.current _ member
    rw [current_call _ _ called, keeps] at now
    simpa using now
  refine Or.inr ⟨?_, ?_, ?_⟩
  · rw [current_call _ _ called, keeps]
    simp [shown]
  · intro other again _
    obtain ⟨same, there⟩ := Option.isSome_iff_exists.mp
      (present _ other again.self (by simp [Progress.extend]))
    exact ⟨same, by rw [view_clean progress clean]; exact there, rfl⟩
  · apply continues _ first (by simp [Progress.extend, clean]) visible
    intro final last sustains carried
    exact present final last sustains (carried _ (by simp [Progress.extend]))

/-- `update_segment` is repeatable. The compare-and-swap locks the row it found. -/
theorem repeats_updateSegment (segmentId : Uuid) (command : SegmentUpdate) (surroundings : Runtime)
    (called : request.call = some (.updateSegment journeyId segmentId command, surroundings))
    (progress : Progress Name Row Res) (store : Database) (clean : progress.writes = []) :
    Repeatable platform base journeyId request
      (updateSegment context runtime journeyId segmentId command) progress store
        fun _ _ _ => True := by
  apply repeats_present context segmentId _ _ _ called (fun _ _ => rfl) progress store clean
  intro grown first empty visible _ second sustained answer writes locks ran
  rcases ran_swapSegment platform _ _ _ _ _ _ _ answer writes locks ran with ⟨rfl, rfl⟩ |
    ⟨target, stored, there, expected, revised, rfl, rfl⟩
  · exact Or.inl ⟨_, rfl⟩
  rw [view_clean grown empty] at ran there
  obtain ⟨present, inside, _⟩ := (segmentIn_some _ _ _ _ _).mp there
  refine Or.inr ⟨current_unobserved _ rfl _ second, ?_, ?_⟩
  · intro other again
    have pinned := again.view_written _ List.mem_cons_self
    simp only [view_clean grown empty, Write.key] at pinned
    have same : segmentIn other context.scope journeyId segmentId = some target :=
      (segmentIn_some _ _ _ _ _).mpr ⟨pinned.trans present, inside,
        (sustains_visible _ _ other again context.scope).trans visible⟩
    refine ⟨some stored, locks, ?_, rfl⟩
    rw [view_clean grown empty, ← ran]
    simp only [timelineApi, api, execute, same, there]
  · apply repeats_touch context runtime
    · apply grounded_extend _ first second _ sustained
      · simp [Write.key, Key.isPart]
      · exact grounded_clean grown first empty
    · intro _ _ _ _ _
      trivial

/-- Contiguous timelines with one order have one placement. -/
theorem places_of_order (left right : Database) (leftContiguous : Contiguous left journeyId)
    (rightContiguous : Contiguous right journeyId)
    (same : order left journeyId = order right journeyId) (id : Uuid) :
    placeOf left journeyId id = placeOf right journeyId id := by
  have listed := lists_order leftContiguous
  rw [same] at listed
  exact listed.placement (lists_order rightContiguous) id

/-- If the rest of the order is the same and one segment stands where it stood, the
whole order is the same. -/
theorem order_of_rest (left right : Database) (leftContiguous : Contiguous left journeyId)
    (rightContiguous : Contiguous right journeyId) (segmentId : Uuid)
    (rest : (order left journeyId).filter (· ≠ segmentId) =
      (order right journeyId).filter (· ≠ segmentId))
    (place : placeOf left journeyId segmentId = placeOf right journeyId segmentId) :
    order left journeyId = order right journeyId := by
  have erased : ∀ db, Contiguous db journeyId →
      (order db journeyId).filter (· ≠ segmentId) = (order db journeyId).erase segmentId := by
    intro db contiguous
    rw [(lists_order contiguous).nodup.erase_eq_filter]
    apply List.filter_congr
    intro other _
    by_cases same : other = segmentId <;> simp [same]
  have leftLists := lists_order leftContiguous
  have rightLists := lists_order rightContiguous
  rw [erased left leftContiguous, erased right rightContiguous] at rest
  cases placed : placeOf right journeyId segmentId with
  | none =>
    have absent : ∀ db, Contiguous db journeyId → placeOf db journeyId segmentId = none →
        (order db journeyId).erase segmentId = order db journeyId := by
      intro db contiguous nowhere
      apply List.erase_of_not_mem
      rw [(lists_order contiguous).mem]
      rintro ⟨position, somewhere⟩
      rw [nowhere] at somewhere
      cases somewhere
    rw [← absent left leftContiguous (place.trans placed), rest, absent right rightContiguous placed]
  | some position =>
    rw [← erase_insertIdx _ segmentId position ((leftLists _ _).mp (place.trans placed))
        leftLists.nodup, rest,
      erase_insertIdx _ segmentId position ((rightLists _ _).mp placed) rightLists.nodup]

/-- `delete_segment` is repeatable. It locks its own row, and the others stand where
the list says. -/
theorem repeats_deleteSegment (segmentId : Uuid) (surroundings : Runtime)
    (called : request.call = some (.deleteSegment journeyId segmentId, surroundings))
    (progress : Progress Name Row Res) (store : Database) (clean : progress.writes = []) :
    Repeatable platform base journeyId request (deleteSegment context runtime journeyId segmentId)
      progress store fun _ _ _ => True := by
  apply repeats_present context segmentId _ _ _ called (fun _ _ => rfl) progress store clean
  intro grown first empty visible present second sustained answer writes locks ran
  rw [view_clean grown empty] at ran
  obtain ⟨found, there⟩ := Option.isSome_iff_exists.mp
    (present grown second sustained.self fun _ member => member)
  obtain ⟨stands, inside, seen⟩ := (segmentIn_some _ _ _ _ _).mp there
  have shown : visibleSegment second context.scope segmentId = some found :=
    (visibleSegment_some _ _ _ _).mpr ⟨stands, inside ▸ seen⟩
  rcases ran_deleteSegment platform _ _ _ _ _ _ ran with ⟨hidden, _⟩ | ⟨row, _, rfl⟩
  · rw [shown] at hidden
    cases hidden
  have dropped : ∀ db, (grown.extend (Op.deleteSegment context.scope segmentId) answer
      [.drop (Key.segment segmentId)] locks).view db = db.erase (Key.segment segmentId) := by
    intro db
    rw [Progress.view_extend, view_clean grown empty]
    rfl
  refine Or.inr ⟨current_unobserved _ rfl _ second, ?_, ?_⟩
  · intro other again
    obtain ⟨same, here⟩ := Option.isSome_iff_exists.mp (present _ other again.self
      fun entry member => List.mem_append_left _ member)
    obtain ⟨standing, owned, visibleHere⟩ := (segmentIn_some _ _ _ _ _).mp here
    have pinned := again.view_written _ List.mem_cons_self
    simp only [view_clean grown empty, Write.key] at pinned
    obtain rfl : found = same := Option.some.inj
      ((pinned.trans stands).symm.trans standing)
    refine ⟨(), locks, ?_, rfl⟩
    rw [view_clean grown empty, ← ran]
    have shownHere : visibleSegment other context.scope segmentId = some found :=
      (visibleSegment_some _ _ _ _).mpr ⟨standing, owned ▸ visibleHere⟩
    simp only [timelineApi, api, execute, shown, shownHere]
  · have surrounded : Grounded platform base journeyId request
        (grown.extend (Op.deleteSegment context.scope segmentId) answer
          [.drop (Key.segment segmentId)] locks) second :=
      grounded_extend _ first second (grounded_clean grown first empty) sustained _ _ _ _
        (by simp [Write.key, Key.isPart])
    have listed : ∀ db, Sustains platform base journeyId request
        (grown.extend (Op.deleteSegment context.scope segmentId) answer
          [.drop (Key.segment segmentId)] locks) second db →
        (visibleTimeline (db.erase (Key.segment segmentId)) context.scope journeyId).map Prod.fst =
          (order db journeyId).filter (· ≠ segmentId) ∧
        (visibleTimeline db context.scope journeyId).map Prod.fst = order db journeyId := by
      intro db supports
      have shows := (surrounded db supports).visible context.scope
      rw [dropped, visible] at shows
      rw [visibleTimeline, if_pos shows, visibleTimeline,
        if_pos ((sustains_visible _ _ db supports context.scope).trans visible)]
      exact ⟨order_erase segmentId, rfl⟩
    refine repeats_bind (compactSegments context journeyId)
      (fun _ => touchJourney context runtime journeyId) _ _ _ ?_
    intro third supports rows writes held ranList
    obtain ⟨shownRows, rfl, rfl⟩ := ran_listSegments platform _ _ _ _ _ _ ranList
    rw [dropped] at shownRows
    have ids := congrArg (List.map Prod.fst) shownRows
    rw [(listed third supports).1] at ids
    have currently : ∀ final last, Sustains platform base journeyId request final last last →
        (⟨Op.listSegments context.scope journeyId, rows⟩ : Sigma Res) ∈ final.observed →
          rows.map Prod.fst =
            ((visibleTimeline last context.scope journeyId).map Prod.fst).filter
              (· ≠ segmentId) := by
      intro final last sustains member
      have now : request.current (Op.listSegments context.scope journeyId) rows last = true :=
        sustains.current _ member
      rw [current_call _ _ called] at now
      exact of_decide_eq_true now
    refine Or.inr ⟨?_, ?_, ?_⟩
    · have now : request.current (Op.listSegments context.scope journeyId) rows third = true := by
        rw [current_call _ _ called]
        simp only [Call.current, decide_eq_true_eq]
        rw [(listed third supports).2, ids]
      exact now
    · intro other again
      have same := currently _ other again.self (by simp [Progress.extend])
      have supportsOther := supports.shrink again
      rw [(listed other supportsOther).2, ← (listed other supportsOther).1] at same
      refine ⟨visibleTimeline (other.erase (Key.segment segmentId)) context.scope journeyId, [], ?_,
        ?_⟩
      · rw [dropped]
        rfl
      · simp only [Program.bind, same]
    · have steady : Steady platform base journeyId request [] (rows.map Prod.fst)
          ((grown.extend (Op.deleteSegment context.scope segmentId) answer
            [.drop (Key.segment segmentId)] locks).extend (Op.listSegments context.scope journeyId)
              rows [] []) third := by
        refine ⟨grounded_extend _ second third surrounded supports _ _ _ _ (by simp), ?_, ?_,
          by simp⟩
        · intro other again id
          rw [Progress.view_extend _ _ _ _ _ other, Progress.view_extend _ _ _ _ _ third, applyAll_nil,
            applyAll_nil, dropped, dropped]
          have same := currently _ other again.self (by simp [Progress.extend])
          rw [(listed other (supports.shrink again)).2, ids] at same
          have locked : other.lookup (Key.segment segmentId) =
              third.lookup (Key.segment segmentId) := by
            apply again.locked (Key.segment segmentId) .update _ (by decide)
            simp [Progress.extend, Write.lock]
          have whole := order_of_rest other third again.holds.contiguous
            supports.holds.contiguous segmentId same.symm (placeOf_congr journeyId _ _ _ locked)
          have places := places_of_order other third again.holds.contiguous
            supports.holds.contiguous whole id
          by_cases own : id = segmentId
          · subst own
            simp [placeOf]
          · rw [← placeOf_congr journeyId (other.erase (Key.segment segmentId)) other id
                (AList.lookup_erase_ne (by simpa using own)),
              ← placeOf_congr journeyId (third.erase (Key.segment segmentId)) third id
                (AList.lookup_erase_ne (by simpa using own))] at places
            exact places
        · intro id member
          rw [Progress.view_extend, applyAll_nil, dropped]
          rw [ids, ← order_erase] at member
          exact (mem_order _ journeyId id).mp member
      apply repeats_mono _ _ _ _ _ ?_ (repeats_renumber context visible (rows.map Prod.fst)
        (fun _ member => member) none (fun _ => false) _ third steady)
      rintro _ final last ⟨still, _⟩
      exact repeats_touch context runtime Program.done final last _ still.grounded
        fun _ _ _ _ _ => trivial

/-- A list that a move has read and that is still current is the order. -/
theorem reordered_list (segmentId : Uuid) (command : SegmentReorder) (surroundings : Runtime)
    (called : request.call = some (.reorderSegment journeyId segmentId command, surroundings))
    (visible : (visibleJourney base context.scope journeyId).isSome = true)
    (rows : List (Uuid × StoredSegment)) (progress : Progress Name Row Res) (store : Database)
    (sustains : Sustains platform base journeyId request progress store store)
    (member : (⟨Op.listSegments context.scope journeyId, rows⟩ : Sigma Res) ∈ progress.observed) :
    rows.map Prod.fst = order store journeyId := by
  have now : request.current (Op.listSegments context.scope journeyId) rows store = true :=
    sustains.current _ member
  rw [current_call _ _ called] at now
  rw [of_decide_eq_true now, visibleTimeline,
    if_pos ((sustains_visible _ _ store sustains context.scope).trans visible)]
  rfl

/-- The bulk UPDATE of a move is repeatable. Its own list fixes where everything stands. -/
theorem repeats_shiftSegments (segmentId : Uuid) (command : SegmentReorder)
    (surroundings : Runtime)
    (called : request.call = some (.reorderSegment journeyId segmentId command, surroundings))
    (visible : (visibleJourney base context.scope journeyId).isSome = true)
    (progress : Progress Name Row Res) (store : Database) (clean : progress.writes = [])
    (listed : List (Uuid × StoredSegment))
    (earlier : (⟨Op.listSegments context.scope journeyId, listed⟩ : Sigma Res) ∈ progress.observed) :
    Repeatable platform base journeyId request (shiftSegments context runtime journeyId) progress
      store fun _ => Steady platform base journeyId request progress.observed
        (listed.map Prod.fst) := by
  intro later supports rows writes locks ran
  obtain ⟨shown, rfl, rfl⟩ := ran_listSegments platform _ _ _ _ _ _ ran
  rw [view_clean progress clean] at shown
  have unwritten : ∀ db, (progress.extend (Op.listSegments context.scope journeyId) rows []
      []).view db = db := by
    intro db
    rw [Progress.view_extend, applyAll_nil, view_clean progress clean]
  have first := reordered_list context segmentId command surroundings called visible listed progress
    later supports.self earlier
  have shows : ∀ other, Sustains platform base journeyId request progress store other →
      (visibleTimeline other context.scope journeyId).map Prod.fst = order other journeyId := by
    intro other supported
    rw [visibleTimeline,
      if_pos ((sustains_visible _ _ other supported context.scope).trans visible)]
    rfl
  have ids : rows.map Prod.fst = listed.map Prod.fst := by
    rw [shown, shows later supports, first]
  have again : ∀ other, Sustains platform base journeyId request
      (progress.extend (Op.listSegments context.scope journeyId) rows [] []) later other →
        rows.map Prod.fst = order other journeyId :=
    fun other supported => reordered_list context segmentId command surroundings called visible rows
      _ other supported.self (by simp [Progress.extend])
  refine Or.inr ⟨?_, ?_, ?_⟩
  · have now : request.current (Op.listSegments context.scope journeyId) rows later = true := by
      rw [current_call _ _ called]
      simp only [Call.current, decide_eq_true_eq]
      rw [shown]
    exact now
  · intro other supported
    refine ⟨visibleTimeline other context.scope journeyId, [], ?_, ?_⟩
    · rw [view_clean progress clean]
      rfl
    · simp only [Program.bind, again other supported, shows other (supports.shrink supported)]
  · have steady : Steady platform base journeyId request progress.observed (listed.map Prod.fst)
        (progress.extend (Op.listSegments context.scope journeyId) rows [] []) later := by
      refine ⟨grounded_extend progress store later (grounded_clean progress store clean) supports _ _
        _ _ (by simp), ?_, ?_, fun entry member => List.mem_append_left _ member⟩
      · intro other supported id
        rw [unwritten, unwritten]
        exact places_of_order other later supported.holds.contiguous supports.holds.contiguous
          ((again other supported).symm.trans (ids.trans first)) id
      · intro id member
        rw [unwritten]
        rw [first] at member
        exact (mem_order later journeyId id).mp member
    have arranged := runtime.order.arranges (rows.map Prod.fst)
    refine repeats_each _ (runtime.order.arrange (rows.map Prod.fst))
      (fun _ => Steady platform base journeyId request progress.observed (listed.map Prod.fst)) ?_ _
      later steady
    intro finished id rest split middle now steadily
    have member : id ∈ listed.map Prod.fst := by
      rw [← ids, ← arranged.mem_iff, split]
      simp
    exact repeats_shift context visible id member middle now steadily

/-- `reorder_segment` is repeatable. -/
theorem repeats_reorderSegment (segmentId : Uuid) (command : SegmentReorder)
    (surroundings : Runtime)
    (called : request.call = some (.reorderSegment journeyId segmentId command, surroundings))
    (progress : Progress Name Row Res) (store : Database) (clean : progress.writes = []) :
    Repeatable platform base journeyId request
      (reorderSegment context runtime journeyId segmentId command.expectedRecordVersion
        command.newPosition) progress store fun _ _ _ => True := by
  apply repeats_ownedSegment context segmentId _ progress store _
    (grounded_clean progress store clean)
  intro first found held row supports visible shown
  rw [view_clean progress clean] at shown
  by_cases stale : row.1.recordVersion ≠ command.expectedRecordVersion
  · rw [if_pos stale]
    exact Or.inl ⟨_, rfl⟩
  have expected : row.1.recordVersion = command.expectedRecordVersion := Decidable.not_not.mp stale
  have versioned : ∀ final last, Sustains platform base journeyId request final last last →
      (⟨Op.selectSegment context.scope journeyId segmentId, some row⟩ : Sigma Res) ∈
          final.observed →
        (segmentIn last context.scope journeyId segmentId).any
          (fun row => row.1.recordVersion = command.expectedRecordVersion) = true := by
    intro final last sustains member
    have now : request.current (Op.selectSegment context.scope journeyId segmentId) (some row)
      last = true := sustains.current _ member
    rw [current_call _ _ called] at now
    simpa [Call.current, expected] using now
  refine Or.inr ⟨?_, ?_, ?_⟩
  · rw [current_call _ _ called]
    simp [Call.current, shown, expected]
  · intro other again _
    have now := versioned _ other again.self (by simp [Progress.extend])
    obtain ⟨same, there, version⟩ := (Option.any_eq_true _ _).mp now
    refine ⟨same, by rw [view_clean progress clean]; exact there, ?_⟩
    rw [if_neg stale, if_neg (by simpa using version)]
  rw [if_neg stale]
  generalize begun : (progress.extend (Op.selectJourney context.scope journeyId false) found []
    held).extend (Op.selectSegment context.scope journeyId segmentId) (some row) [] [] = owning
  have empty : owning.writes = [] := by simp [← begun, Progress.extend, clean]
  have among : (⟨Op.selectSegment context.scope journeyId segmentId, some row⟩ : Sigma Res) ∈
    owning.observed := by simp [← begun, Progress.extend]
  intro second sustained rows writes locks ran
  obtain ⟨shownRows, rfl, rfl⟩ := ran_listSegments platform _ _ _ _ _ _ ran
  rw [view_clean owning empty] at shownRows
  simp only [Program.bind]
  by_cases beyond : (rows.map Prod.fst).length ≤ command.newPosition
  · rw [if_pos beyond]
    exact Or.inl ⟨_, rfl⟩
  by_cases member : segmentId ∈ rows.map Prod.fst
  case neg =>
    rw [if_neg beyond, if_neg member]
    exact Or.inl ⟨_, rfl⟩
  refine Or.inr ⟨?_, ?_, ?_⟩
  · have now : request.current (Op.listSegments context.scope journeyId) rows second = true := by
      rw [current_call _ _ called]
      simp only [Call.current, decide_eq_true_eq]
      rw [shownRows]
    exact now
  · intro other again
    have same := reordered_list context segmentId command surroundings called visible rows _ other
      again.self (by simp [Progress.extend])
    refine ⟨visibleTimeline other context.scope journeyId, [], ?_, ?_⟩
    · rw [view_clean owning empty]
      rfl
    · have shows : (visibleTimeline other context.scope journeyId).map Prod.fst =
          rows.map Prod.fst := by
        rw [same, visibleTimeline,
          if_pos ((sustains_visible _ _ other again context.scope).trans visible)]
        rfl
      simp only [shows]
  rw [if_neg beyond, if_pos member]
  have room : command.newPosition ≤ ((rows.map Prod.fst).erase segmentId).length := by
    rw [List.length_erase_of_mem member]
    omega
  have arranged := (List.perm_insertIdx segmentId _ room).trans (List.perm_cons_erase member).symm
  refine repeats_bind (shiftSegments context runtime journeyId) _ _ _ _ ?_
  apply repeats_mono _ _ _ _ _ ?_ (repeats_shiftSegments context runtime segmentId command
    surroundings called visible _ second (by simp [Progress.extend, empty]) rows
      (by simp [Progress.extend]))
  intro _ shifting third steady
  refine repeats_bind (renumberSegments context runtime segmentId _) _ _ _ _ ?_
  apply repeats_mono _ _ _ _ _ ?_ (repeats_renumber context visible _
    (fun id inside => arranged.mem_iff.mp inside) (some (runtime.clock 1)) (fun id => id = segmentId)
      shifting third steady)
  rintro _ renumbering fourth ⟨steadily, locked⟩
  apply repeats_touch context runtime _ _ _ _ steadily.grounded
  intro fifth written taken supported grounded
  apply repeats_ownedSegment context segmentId _ _ _ _ grounded
  intro sixth seen holding moved sustaining _ present
  refine Or.inr ⟨?_, ?_, ?_⟩
  · rw [current_call _ _ called]
    have now := versioned _ sixth sustaining.self (List.mem_append_left _ (steadily.observed _
      (List.mem_append_left _ among)))
    simp [Call.current, now]
  · intro other again earlier
    have held := locked segmentId (List.mem_insertIdx room |>.mpr (Or.inl rfl))
    have same : other.lookup (Key.segment segmentId) = sixth.lookup (Key.segment segmentId) :=
      again.locked _ .noKeyUpdate (List.mem_append_left _ (List.mem_append_left _
        (List.mem_append_left _ held))) (by decide)
    obtain ⟨stands, inside, _⟩ := (segmentIn_some _ _ _ _ _).mp present
    refine ⟨moved, (segmentIn_some _ _ _ _ _).mpr ⟨?_, inside, ?_⟩, rfl⟩
    · rw [← stands]
      exact lookup_applyAll_congr _ other sixth _ same
    · rw [(grounded other earlier).visible context.scope, visible]
  · split <;> trivial

/-- Every timeline operation is repeatable. -/
theorem repeats_handle (call : Call) (surroundings : Runtime)
    (called : request.call = some (call, surroundings)) (named : call.timelineOf = some journeyId)
    (progress : Progress Name Row Res) (store : Database) (clean : progress.writes = []) :
    Repeatable platform base journeyId request (handle platform context runtime call) progress store
      fun _ _ _ => True := by
  cases call with
  | createSegment _ command =>
    obtain rfl := Option.some.inj named
    refine repeats_bind (createSegment context runtime _ command) _ _ _ _ ?_
    exact repeats_mono _ _ _ _ _ (fun _ _ _ _ => trivial)
      (repeats_createSegment context runtime command surroundings called progress store clean)
  | updateSegment _ segmentId command =>
    obtain rfl := Option.some.inj named
    refine repeats_bind (updateSegment context runtime _ segmentId command) _ _ _ _ ?_
    exact repeats_mono _ _ _ _ _ (fun _ _ _ _ => trivial)
      (repeats_updateSegment context runtime segmentId command surroundings called progress store
        clean)
  | reorderSegment _ segmentId command =>
    obtain rfl := Option.some.inj named
    refine repeats_bind (reorderSegment context runtime _ segmentId command.expectedRecordVersion
      command.newPosition) _ _ _ _ ?_
    exact repeats_mono _ _ _ _ _ (fun _ _ _ _ => trivial)
      (repeats_reorderSegment context runtime segmentId command surroundings called progress store
        clean)
  | deleteSegment _ segmentId =>
    obtain rfl := Option.some.inj named
    refine repeats_bind (deleteSegment context runtime _ segmentId) _ _ _ _ ?_
    exact repeats_mono _ _ _ _ _ (fun _ _ _ _ => trivial)
      (repeats_deleteSegment context runtime segmentId surroundings called progress store clean)
  | _ => cases named

end Repetition

/-- So is every request with a timeline operation. -/
theorem repeats_program (platform : Platform) (base : Database) (journeyId : Uuid)
    (request : Request) (named : request.timelineOf = some journeyId) (db : Database) :
    Repeatable platform base journeyId request (program platform request) .empty db
      fun _ _ _ => True := by
  cases request with
  | http credentials call runtime =>
    refine repeats_bind (routeContext platform runtime credentials call.mutates) _ _ _ _ ?_
    apply repeats_mono _ _ _ _ _ ?_ (repeats_identity _
      (routeContext_identifies runtime credentials call.mutates) .empty db rfl)
    intro context grown later clean
    exact repeats_handle context runtime call runtime rfl named grown later clean
  | operation context call runtime =>
    exact repeats_handle context runtime call runtime rfl named .empty db rfl
  | command => cases named
  | administer => cases named

/-- One request alone does not depend on the bookkeeping either. -/
theorem serve_plain (platform : Platform) (request : Request) (db : Database) :
    serve (timelineApi platform) request db = serve (plainApi platform) request db := by
  have programs : (timelineApi platform).program request = (plainApi platform).program request := rfl
  rw [serve, serve, programs, alone_plain]

theorem serveAll_plain (platform : Platform) (requests : List Request) (db : Database) :
    serveAll (timelineApi platform) requests db = serveAll (plainApi platform) requests db := by
  induction requests generalizing db with
  | nil => rfl
  | cons request requests inductionHypothesis =>
    rw [serveAll, serveAll, serve_plain, inductionHypothesis]

/-- Only operations on one timeline arrive. -/
def OnTimeline (journeyId : Uuid) (_ : System Name Row Res Failure Request Reply) :
    Event Request → Prop
  | .arrive request => request.timelineOf = some journeyId
  | _ => True

/-- Moreover, no transaction commits after another commit has changed what it has read
of the timeline. -/
def FreshOnTimeline (journeyId : Uuid) (system : System Name Row Res Failure Request Reply)
    (event : Event Request) : Prop :=
  OnTimeline journeyId system event ∧
    ∀ index process reply, event = .advance index → system.processes[index]? = some process →
      process.rest = some (.done reply) → process.stale = false

/-- Without stale commits, timeline operations are serializable in the order of their
commits, and the timeline stays contiguous. -/
theorem timeline_serializable (platform : Platform) (journeyId : Uuid) (db : Database)
    (contiguous : Contiguous db journeyId)
    (last : System Name Row Res Failure Request Reply)
    (run : Run (timelineApi platform) (FreshOnTimeline journeyId) (System.initial db) last) :
    Contiguous last.db journeyId ∧
      last.db = serveAll (plainApi platform) (last.history.map Commit.request) db := by
  have keeps : ∀ request reply before after, request.timelineOf = some journeyId →
      Timely db journeyId before →
        serve (timelineApi platform) request before = (.ok reply, after) →
          Timely db journeyId after := by
    intro request reply before after named timely served
    refine ⟨timely.situated.served platform request named after reply ?_, ?_⟩
    · rw [← serve_plain, served]
    · exact (serve_rearranges journeyId request named before after reply timely.contiguous served).1
  have linked : Linked (serialContract (timelineApi platform)
      (fun request => request.timelineOf = some journeyId) (Timely db journeyId)).Admits db
        last.history last.db := by
    apply run_serial (timelineApi platform) (fun request => request.timelineOf = some journeyId)
      (Timely db journeyId) (FreshOnTimeline journeyId) db last
    · exact fun system request permitted => permitted.1
    · intro system index process reply permitted found ended
      exact permitted.2 index process reply rfl found ended
    · exact fun request store named _ => repeats_program platform db journeyId request named store
    · exact keeps
    · exact ⟨⟨fun _ _ => rfl, rfl⟩, contiguous⟩
    · exact run
  constructor
  · have timely : Timely db journeyId last.db :=
      linked.preserves (fun request reply before after admits earlier =>
        keeps request reply before after admits.1 earlier admits.2.2.2)
        ⟨⟨fun _ _ => rfl, rfl⟩, contiguous⟩
    exact timely.contiguous
  · rw [← serveAll_plain]
    exact (linked_serial _ _ _ db last.db last.history linked).symm

namespace Sample

/-- The sample journey with two stays. -/
def occupied : Database :=
  serveAll (plainApi platform) ([stay 20, stay 21].map fun call => .http credentials call runtime)
    database

/-- The first stay is deleted. Between the list that the deletion reads and its
renumbering another stay is appended and committed. -/
def overtaken : List (Event Request) :=
  [.arrive (.http credentials (.deleteSegment 7 20) runtime),
    .arrive (.http credentials (stay 23) runtime)] ++
      List.replicate 6 (.advance 0) ++ List.replicate 7 (.advance 1) ++ List.replicate 3 (.advance 0)

/-- An update of the second stay that begins before the first one is deleted. -/
def revision : Call :=
  .updateSegment 7 21
    { kind := .stay, startDate := none, endDate := none, placeName := some "Ostia".toList
      originName := none, destinationName := none, transportMode := [], notes := []
      namesFit := by decide, transportLength := unmoved, notesLength := unremarked
      datesAreOrdered := undated, hasDetails := by decide, expectedRecordVersion := 1
      expectedPositive := Nat.one_pos }

/-- It has found its segment when the deletion runs, and continues afterwards. -/
def overlapping : List (Event Request) :=
  [.arrive (.http credentials (.deleteSegment 7 20) runtime),
    .arrive (.http credentials revision runtime)] ++
      List.replicate 4 (.advance 1) ++ List.replicate 9 (.advance 0) ++ List.replicate 3 (.advance 1)

/-- The check that goes with `FreshOnTimeline`. -/
def fresh (system : System Name Row Res Failure Request Reply) : Event Request → Bool
  | .arrive request => request.timelineOf = some 7
  | .advance index => system.processes[index]?.all fun process => !process.stale
  | .crash _ => true

end Sample

/-- Overtaken by an append, a deletion leaves a gap: all have finished and the
positions are 0 and 2. -/
theorem timeline_gap :
    Contiguous Sample.occupied 7 ∧
      ∃ last, Run (timelineApi Sample.platform) (OnTimeline 7) (System.initial Sample.occupied)
          last ∧
        (∀ process ∈ last.processes, process.rest.isNone = true) ∧ positions last.db 7 = [0, 2] ∧
          ¬ Contiguous last.db 7 := by
  refine ⟨by decide, ?_⟩
  have made : ((System.initial Sample.occupied).steps (timelineApi Sample.platform)
      Sample.overtaken).map (fun last => (last.processes.all (fun process => process.rest.isNone),
        positions last.db 7, (order last.db 7).length)) = some (true, [0, 2], 2) := by
    decide
  obtain ⟨last, ran, observed⟩ := Option.map_eq_some_iff.mp made
  simp only [Prod.mk.injEq, List.all_eq_true] at observed
  obtain ⟨ended, gap, count⟩ := observed
  have permitted : ∀ event ∈ Sample.overtaken, ∀ system, OnTimeline 7 system event := by
    intro event member system
    simp only [Sample.overtaken, List.mem_append, List.mem_cons, List.mem_replicate,
      List.not_mem_nil, or_false] at member
    rcases member with (((rfl | rfl) | ⟨_, rfl⟩) | ⟨_, rfl⟩) | ⟨_, rfl⟩
    · exact Eq.refl (some (7 : Uuid))
    · exact Eq.refl (some (7 : Uuid))
    · trivial
    · trivial
    · trivial
  refine ⟨last, run_of_steps _ _ _ _ _ permitted ran, ended, gap, ?_⟩
  rw [Contiguous, gap, count]
  decide

/-- An update that overlaps a deletion, without having read anything stale. -/
theorem timeline_serializable_overlap :
    ∃ last : System Name Row Res Failure Request Reply, Contiguous last.db 7 ∧ order last.db 7 = [21] ∧ last.history.length = 2 ∧
      last.db = serveAll (plainApi Sample.platform) (last.history.map Commit.request)
        Sample.occupied := by
  have made : ((System.initial Sample.occupied).checkedSteps (timelineApi Sample.platform)
      Sample.fresh Sample.overlapping).map (fun last => (order last.db 7, last.history.length)) =
        some ([21], 2) := by
    decide
  obtain ⟨last, ran, observed⟩ := Option.map_eq_some_iff.mp made
  simp only [Prod.mk.injEq] at observed
  have implies : ∀ system event, Sample.fresh system event = true →
      FreshOnTimeline 7 system event := by
    intro system event passed
    cases event with
    | arrive request =>
      have named : request.timelineOf = some 7 := of_decide_eq_true passed
      exact ⟨named, fun _ _ _ other => by cases other⟩
    | advance index =>
      refine ⟨trivial, ?_⟩
      rintro _ process reply same found _
      cases same
      simpa [Sample.fresh, found] using passed
    | crash index => exact ⟨trivial, fun _ _ _ other => by cases other⟩
  have run := run_of_checked _ _ _ implies _ _ _ ran
  obtain ⟨contiguous, serial⟩ :=
    timeline_serializable Sample.platform 7 Sample.occupied (by decide) last run
  exact ⟨last, contiguous, observed.1, observed.2, serial⟩

end TraxOs.Api
