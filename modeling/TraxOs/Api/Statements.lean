import TraxOs.Theory.Transactions
import TraxOs.Theory.Sequences
import TraxOs.Api.Registry

/-!
# SQL statements

One operation for each statement that the authenticated routes await, with the
rows it sees, the rows it writes, the constraints it is subject to and the locks
it takes. Row security is part of every statement: journeys are visible to the
selected workspace while the actor is a member of it, segments and packing items
through their journey, and ledger rows to the selected actor.

A uniqueness constraint over a non-key column has a named lock for each value:
whoever takes or leaves the value holds it, so a competing statement waits.
Membership changes are made outside the API, by an operator.
-/

namespace TraxOs.Api

open TraxOs.Theory

/-- The transaction-local settings `trax.workspace_id` and `trax.user_id`. -/
structure Scope where
  workspaceId : Uuid
  userId : Uuid
deriving DecidableEq

/-- `AuthContext`. -/
structure AuthContext where
  userId : Uuid
  workspaceId : Uuid
  sessionId : Uuid
  email : Text
  displayName : Text
  role : Role
deriving DecidableEq

/-- The settings that `authenticate` installs for a context. -/
def AuthContext.scope (context : AuthContext) : Scope := ⟨context.workspaceId, context.userId⟩

/-- Locks that do not protect a row: the advisory lock of a command, and the
entries of unique indexes. -/
inductive Name where
  | command (workspaceId userId commandId : Uuid)
  | position (journeyId : Uuid) (position : Nat)
  | changeSet (workspaceId actorUserId commandId : Uuid)
deriving DecidableEq

/-- A journey as stored. -/
abbrev StoredJourney := { row : Journey // row.Admissible }

/-- A segment as stored. -/
abbrev StoredSegment := { row : Segment // row.Admissible }

/-- A packing item as stored. -/
abbrev StoredPackingItem := { row : PackingItem // row.Admissible }

/-- The columns that a journey update sets from its command. -/
structure JourneyValues where
  name : Text
  startDate : Option Date
  endDate : Option Date
  status : JourneyStatus
deriving DecidableEq

/-- The columns that `segment_values` computes. -/
structure SegmentValues where
  kind : SegmentKind
  startDate : Option Date
  endDate : Option Date
  placeName : Option Text
  originName : Option Text
  destinationName : Option Text
  transportMode : Text
  notes : Text
deriving DecidableEq

/-- The columns that a packing update sets from its command. -/
structure PackingValues where
  label : Text
  category : PackingCategory
  quantity : Nat
  essential : Bool
deriving DecidableEq

/-- The texts among the columns that an update sets. -/
def JourneyValues.texts (values : JourneyValues) : List Text := [values.name]

def SegmentValues.texts (values : SegmentValues) : List Text :=
  values.placeName.toList ++ values.originName.toList ++ values.destinationName.toList ++
    [values.transportMode, values.notes]

def PackingValues.texts (values : PackingValues) : List Text := [values.label]

/-- The statements, in the order of the modules that issue them. A bulk UPDATE is a
scan followed by one `shiftSegment` for each row found: that is how READ COMMITTED
executes it, waiting at each row and reading the row again afterwards. -/
inductive Op where
  | findSession (tokenHash : Text) (now : Timestamp)
  | lockMembership (scope : Scope)
  | lockCommand (scope : Scope) (commandId : Uuid)
  | selectReceipt (scope : Scope) (commandId : Uuid)
  | insertChangeSet (scope : Scope) (id : Uuid) (row : CommandChangeSet)
  | insertChangeEvent (scope : Scope) (id : Uuid) (row : CommandChangeEvent)
  | insertReceipt (scope : Scope) (commandId : Uuid) (row : CommandReceipt)
  | listJourneys (scope : Scope)
  | selectJourney (scope : Scope) (id : Uuid) (forUpdate : Bool)
  | insertJourney (scope : Scope) (id : Uuid) (row : Journey)
  | swapJourney (scope : Scope) (id : Uuid) (expected : Nat) (values : JourneyValues)
      (now : Timestamp)
  | touchJourney (scope : Scope) (id : Uuid) (now : Timestamp)
  | deleteJourney (scope : Scope) (id : Uuid)
  | listSegments (scope : Scope) (journeyId : Uuid)
  | selectSegment (scope : Scope) (journeyId id : Uuid)
  | nextPosition (scope : Scope) (journeyId : Uuid)
  | insertSegment (scope : Scope) (id : Uuid) (row : Segment)
  | swapSegment (scope : Scope) (journeyId id : Uuid) (expected : Nat) (values : SegmentValues)
      (now : Timestamp)
  | shiftSegment (scope : Scope) (journeyId id : Uuid)
  | placeSegment (scope : Scope) (id : Uuid) (position : Nat) (stamp : Option Timestamp)
      (bump : Bool)
  | deleteSegment (scope : Scope) (id : Uuid)
  | listPacking (scope : Scope) (journeyId : Uuid)
  | selectPackingItem (scope : Scope) (journeyId id : Uuid)
  | insertPackingItem (scope : Scope) (id : Uuid) (row : PackingItem)
  | swapPackingItem (scope : Scope) (journeyId id : Uuid) (expected : Nat)
      (values : PackingValues) (now : Timestamp)
  | swapPackingProgress (scope : Scope) (journeyId id : Uuid) (expected packedQuantity : Nat)
      (now : Timestamp)
  | deletePackingItem (scope : Scope) (id : Uuid)
  | writeMembership (workspaceId userId : Uuid) (role : Option Role)

/-- The rows that each statement returns. -/
@[reducible] def Res : Op → Type
  | .findSession _ _ => Option (AuthContext × Text)
  | .lockMembership _ => Option Role
  | .lockCommand _ _ => Unit
  | .selectReceipt _ _ => Option CommandReceipt
  | .insertChangeSet _ _ _ => Unit
  | .insertChangeEvent _ _ _ => Unit
  | .insertReceipt _ _ _ => Unit
  | .listJourneys _ => List (Uuid × StoredJourney)
  | .selectJourney _ _ _ => Option StoredJourney
  | .insertJourney _ _ _ => StoredJourney
  | .swapJourney _ _ _ _ _ => Option StoredJourney
  | .touchJourney _ _ _ => Unit
  | .deleteJourney _ _ => Bool
  | .listSegments _ _ => List (Uuid × StoredSegment)
  | .selectSegment _ _ _ => Option StoredSegment
  | .nextPosition _ _ => Nat
  | .insertSegment _ _ _ => StoredSegment
  | .swapSegment _ _ _ _ _ _ => Option StoredSegment
  | .shiftSegment _ _ _ => Unit
  | .placeSegment _ _ _ _ _ => Unit
  | .deleteSegment _ _ => Unit
  | .listPacking _ _ => List (Uuid × StoredPackingItem)
  | .selectPackingItem _ _ _ => Option StoredPackingItem
  | .insertPackingItem _ _ _ => StoredPackingItem
  | .swapPackingItem _ _ _ _ _ _ => Option StoredPackingItem
  | .swapPackingProgress _ _ _ _ _ _ => Option StoredPackingItem
  | .deletePackingItem _ _ => Unit
  | .writeMembership _ _ _ => Unit

section Visibility

variable (db : Database)

/-- The membership that row security asks for. -/
def isMember (scope : Scope) : Bool :=
  (db.lookup (Key.membership scope.workspaceId scope.userId)).isSome

/-- A journey under `journey_workspace_policy`. -/
def visibleJourney (scope : Scope) (id : Uuid) : Option StoredJourney :=
  match db.lookup (Key.journey id) with
  | none => none
  | some row => if row.1.workspaceId = scope.workspaceId ∧ isMember db scope then some row else none

/-- A segment under `journey_segments_workspace_policy`. -/
def visibleSegment (scope : Scope) (id : Uuid) : Option StoredSegment :=
  match db.lookup (Key.segment id) with
  | none => none
  | some row => if (visibleJourney db scope row.1.journeyId).isSome then some row else none

/-- A packing item under `packing_items_workspace_policy`. -/
def visiblePackingItem (scope : Scope) (id : Uuid) : Option StoredPackingItem :=
  match db.lookup (Key.packingItem id) with
  | none => none
  | some row => if (visibleJourney db scope row.1.journeyId).isSome then some row else none

/-- `WHERE id = ... AND journey_id = ...` on segments. -/
def segmentIn (scope : Scope) (journeyId id : Uuid) : Option StoredSegment :=
  (visibleSegment db scope id).filter fun row => row.1.journeyId = journeyId

/-- `WHERE id = ... AND journey_id = ...` on packing items. -/
def packingItemIn (scope : Scope) (journeyId id : Uuid) : Option StoredPackingItem :=
  (visiblePackingItem db scope id).filter fun row => row.1.journeyId = journeyId

/-- A segment of one journey, found by a scan. -/
def segmentOf (journeyId : Uuid) : (key : Key) → Row key → Option (Uuid × StoredSegment)
  | .segment id, row => if row.1.journeyId = journeyId then some (id, row) else none
  | _, _ => none

/-- A packing item of one journey, found by a scan. -/
def packingItemOf (journeyId : Uuid) : (key : Key) → Row key → Option (Uuid × StoredPackingItem)
  | .packingItem id, row => if row.1.journeyId = journeyId then some (id, row) else none
  | _, _ => none

/-- A journey of one workspace, found by a scan. -/
def journeyOf (workspaceId : Uuid) : (key : Key) → Row key → Option (Uuid × StoredJourney)
  | .journey id, row => if row.1.workspaceId = workspaceId then some (id, row) else none
  | _, _ => none

/-- `ORDER BY position`. The identifier decides between equal positions, which
`segment_position_unique` excludes. -/
def byPosition (left right : Uuid × StoredSegment) : Bool :=
  left.2.1.position < right.2.1.position ||
    (left.2.1.position == right.2.1.position && left.1.toNat ≤ right.1.toNat)

/-- `ORDER BY updated_at DESC, id`. -/
def byRecency (left right : Uuid × StoredJourney) : Bool :=
  right.2.1.updatedAt < left.2.1.updatedAt ||
    (left.2.1.updatedAt == right.2.1.updatedAt && left.1.toNat ≤ right.1.toNat)

/-- `ORDER BY category, label, id` under the collation of the database. -/
def byCategory (platform : Platform) (left right : Uuid × StoredPackingItem) : Bool :=
  let category := left.2.1.category.literal.toList
  let other := right.2.1.category.literal.toList
  if category ≠ other then platform.collate category other
  else if left.2.1.label ≠ right.2.1.label then platform.collate left.2.1.label right.2.1.label
  else left.1.toNat ≤ right.1.toNat

/-- The segments of a journey in the order of their positions. -/
def timeline (journeyId : Uuid) : List (Uuid × StoredSegment) :=
  sortBy byPosition (collect (segmentOf journeyId) db)

/-- The part of a timeline that row security shows. -/
def visibleTimeline (scope : Scope) (journeyId : Uuid) : List (Uuid × StoredSegment) :=
  if (visibleJourney db scope journeyId).isSome then timeline db journeyId else []

/-- The personal workspaces of a user, the oldest first, with the user's role. -/
def personalWorkspaces (userId : Uuid) : List (Timestamp × Uuid × Role) :=
  let pick : (key : Key) → Row key → Option (Timestamp × Uuid × Role)
    | .membership workspaceId memberId, row =>
      if memberId = userId then
        match db.lookup (Key.workspace workspaceId) with
        | some workspace =>
          if workspace.type = .personal then some (workspace.createdAt, workspaceId, row.role)
          else none
        | none => none
      else none
    | _, _ => none
  sortBy (fun left right => left.1 < right.1 ||
    (left.1 == right.1 && left.2.1.toNat ≤ right.2.1.toNat)) (collect pick db)

/-- The join of `authenticate`: a live session, its user, and the user's oldest
personal workspace. -/
def findSession (tokenHash : Text) (now : Timestamp) : Option (AuthContext × Text) :=
  match db.lookup (Key.session tokenHash) with
  | none => none
  | some session =>
    if session.revokedAt.isNone && now < session.expiresAt then
      match db.lookup (Key.user session.userId), (personalWorkspaces db session.userId).head? with
      | some user, some (_, workspaceId, role) =>
        some ({ userId := session.userId, workspaceId := workspaceId, sessionId := session.id,
                email := user.email, displayName := user.displayName, role := role },
          session.csrfHash)
      | _, _ => none
    else none

/-- Another segment of the journey is at this position. -/
def positionTaken (except journeyId : Uuid) (position : Nat) : Bool :=
  (timeline db journeyId).any fun entry => entry.1 ≠ except && entry.2.1.position == position

end Visibility

/-- What a statement does: refuse, or answer with writes and locks. -/
abbrev Effect (α : Type) := Outcome Name Row Failure α

/-- The answer of a statement that writes nothing. -/
def answered {α : Type} (answer : α) : Effect α := .ran answer [] []

/-- The refusal of a statement by the database. -/
def refused {α : Type} (error : DatabaseError) : Effect α := .failed (.database error)

/-- Store a row if its columns and CHECK constraints admit it. -/
def storing {T α : Type} {Admissible : T → Prop} [DecidablePred Admissible] (row : T)
    (effect : { row : T // Admissible row } → Effect α) : Effect α :=
  if admissible : Admissible row then effect ⟨row, admissible⟩ else refused .valueRejected

/-- An UPDATE that names the version it replaces. Its parameters are sent before any row is
looked at, so a version that is no BIGINT or a text with a NUL is refused whatever is
stored. No row is changed when there is none or when its version is another one. -/
def comparing {T α : Type} (texts : List Text) (expected : Nat) (found : Option T)
    (version : T → Nat) (swap : T → Effect (Option α)) : Effect (Option α) :=
  if maxBigint < expected ∨ ∃ text ∈ texts, nul ∈ text then refused .valueRejected
  else
    match found with
    | none => answered none
    | some row => if version row = expected then swap row else answered none

/-- Move one segment to another position of its journey. Its old and its new entry
in the unique index are locked; no other row refers to a segment, so the stronger
lock that a change of `position` takes on the row itself makes no difference. -/
def relocate (db : Database) (id : Uuid) (row : StoredSegment) (moved : Segment) : Effect Unit :=
  storing moved fun (stored : StoredSegment) =>
    if positionTaken db id moved.journeyId moved.position then refused .uniqueViolation
    else .ran () [.put (.segment id) stored]
      [(.named (.position row.1.journeyId row.1.position), .update),
       (.named (.position moved.journeyId moved.position), .update)]

/-- The offset that moves a timeline out of the way while it is renumbered. -/
def shiftOffset : Nat := 100000

/-- A journey after an update of its columns. -/
def Journey.revised (row : Journey) (values : JourneyValues) (now : Timestamp) : Journey :=
  { row with
    name := values.name
    startDate := values.startDate
    endDate := values.endDate
    status := values.status
    recordVersion := row.recordVersion + 1
    updatedAt := now }

/-- A journey after one of its parts changed. -/
def Journey.touched (row : Journey) (now : Timestamp) : Journey :=
  { row with updatedAt := now, recordVersion := row.recordVersion + 1 }

/-- A segment after an update of its columns. Its position stays. -/
def Segment.revised (row : Segment) (values : SegmentValues) (now : Timestamp) : Segment :=
  { row with
    kind := values.kind
    startDate := values.startDate
    endDate := values.endDate
    placeName := values.placeName
    originName := values.originName
    destinationName := values.destinationName
    transportMode := values.transportMode
    notes := values.notes
    recordVersion := row.recordVersion + 1
    updatedAt := now }

/-- A segment after renumbering. A reorder stamps every row and bumps the version
of the moved one; a compaction does neither. -/
def Segment.placed (row : Segment) (position : Nat) (stamp : Option Timestamp) (bump : Bool) :
    Segment :=
  { row with
    position := position
    updatedAt := stamp.getD row.updatedAt
    recordVersion := if bump then row.recordVersion + 1 else row.recordVersion }

/-- A packing item after an update of its columns. -/
def PackingItem.revised (row : PackingItem) (values : PackingValues) (now : Timestamp) :
    PackingItem :=
  { row with
    label := values.label
    category := values.category
    quantity := values.quantity
    packedQuantity := min row.packedQuantity values.quantity
    essential := values.essential
    recordVersion := row.recordVersion + 1
    updatedAt := now }

/-- A packing item after a change of its progress. -/
def PackingItem.progressed (row : PackingItem) (packedQuantity : Nat) (now : Timestamp) :
    PackingItem :=
  { row with
    packedQuantity := packedQuantity
    recordVersion := row.recordVersion + 1
    updatedAt := now }

/-- The writes with which ON DELETE CASCADE follows the deletion of a journey. -/
def cascade (db : Database) (journeyId : Uuid) : List (Write Row) :=
  (timeline db journeyId).map (fun entry => .drop (.segment entry.1)) ++
    (collect (packingItemOf journeyId) db).map (fun entry => .drop (.packingItem entry.1))

/-- `command_change_set_command_unique`. -/
def changeSetFor (workspaceId actorUserId commandId : Uuid) : (key : Key) → Row key → Option Uuid
  | .changeSet id, row =>
    if row.workspaceId = workspaceId ∧ row.actorUserId = actorUserId ∧ row.commandId = commandId then
      some id
    else none
  | _, _ => none

/-- `command_change_event_sequence_unique`. -/
def changeEventAt (changeSetId : Uuid) (sequence : Nat) : (key : Key) → Row key → Option Uuid
  | .changeEvent id, row =>
    if row.changeSetId = changeSetId ∧ row.sequence = sequence then some id else none
  | _, _ => none

/-- `command_change_event_scope_fk`. -/
def eventInScope (db : Database) (row : CommandChangeEvent) : Bool :=
  (db.lookup (Key.changeSet row.changeSetId)).any fun changeSet =>
    changeSet.workspaceId = row.workspaceId ∧ changeSet.actorUserId = row.actorUserId ∧
      changeSet.entityType = row.entityType ∧ changeSet.entityId = row.entityId

/-- `command_receipt_change_set_scope_fk`. -/
def receiptInScope (db : Database) (scope : Scope) (commandId : Uuid) (row : CommandReceipt) :
    Bool :=
  match row.outcome with
  | .applied _ changeSetId =>
    (db.lookup (Key.changeSet changeSetId)).any fun changeSet =>
      changeSet.workspaceId = scope.workspaceId ∧ changeSet.actorUserId = scope.userId ∧
        changeSet.commandId = commandId ∧ changeSet.entityType = row.entityType ∧
          changeSet.entityId = row.entityId
  | _ => true

/-- The meaning of every statement on the store it sees. -/
def execute (platform : Platform) : (op : Op) → Database → Effect (Res op)
  | .findSession tokenHash now, db => answered (findSession db tokenHash now)
  | .lockMembership scope, db =>
    match db.lookup (Key.membership scope.workspaceId scope.userId) with
    | none => answered none
    | some row => .ran (some row.role) []
        [(.row (.membership scope.workspaceId scope.userId), .share)]
  | .lockCommand scope commandId, _ =>
    .ran () [] [(.named (.command scope.workspaceId scope.userId commandId), .update)]
  | .selectReceipt scope commandId, db =>
    answered (if isMember db scope then
      db.lookup (Key.receipt scope.workspaceId scope.userId commandId) else none)
  | .insertChangeSet scope id row, db =>
    if row.workspaceId ≠ scope.workspaceId ∨ row.actorUserId ≠ scope.userId ∨ ¬ isMember db scope then
      refused .rowSecurityViolation
    else if (db.lookup (Key.changeSet id)).isSome ∨
        (collect (changeSetFor row.workspaceId row.actorUserId row.commandId) db) ≠ [] then
      refused .uniqueViolation
    else .ran () [.put (.changeSet id) row]
      [(.named (.changeSet row.workspaceId row.actorUserId row.commandId), .update)]
  | .insertChangeEvent scope id row, db =>
    if row.workspaceId ≠ scope.workspaceId ∨ row.actorUserId ≠ scope.userId ∨ ¬ isMember db scope then
      refused .rowSecurityViolation
    else if nul ∈ row.beforeState.name ∨ nul ∈ row.afterState.name then refused .valueRejected
    else if (db.lookup (Key.changeEvent id)).isSome ∨
        (collect (changeEventAt row.changeSetId row.sequence) db) ≠ [] then
      refused .uniqueViolation
    else if eventInScope db row then
      .ran () [.put (.changeEvent id) row] [(.row (.changeSet row.changeSetId), .keyShare)]
    else refused .foreignKeyViolation
  | .insertReceipt scope commandId row, db =>
    if isMember db scope then
      if (db.lookup (Key.receipt scope.workspaceId scope.userId commandId)).isSome then
        refused .uniqueViolation
      else if receiptInScope db scope commandId row then
        .ran () [.put (.receipt scope.workspaceId scope.userId commandId) row]
          (match row.outcome with
            | .applied _ changeSetId => [(.row (.changeSet changeSetId), .keyShare)]
            | _ => [])
      else refused .foreignKeyViolation
    else refused .rowSecurityViolation
  | .listJourneys scope, db =>
    answered (if isMember db scope then
      sortBy byRecency (collect (journeyOf scope.workspaceId) db) else [])
  | .selectJourney scope id forUpdate, db =>
    match visibleJourney db scope id with
    | none => answered none
    | some row => .ran (some row) [] (if forUpdate then [(.row (.journey id), .update)] else [])
  | .insertJourney scope id row, db =>
    if row.workspaceId ≠ scope.workspaceId ∨ ¬ isMember db scope then
      refused .rowSecurityViolation
    else
      storing row fun (stored : StoredJourney) =>
        if (db.lookup (Key.journey id)).isSome then refused .uniqueViolation
        else .ran stored [.put (.journey id) stored] []
  | .swapJourney scope id expected values now, db =>
    comparing values.texts expected (visibleJourney db scope id) (fun row => row.1.recordVersion)
      fun row =>
      storing (row.1.revised values now) fun (stored : StoredJourney) =>
        .ran (some stored) [.put (.journey id) stored] []
  | .touchJourney scope id now, db =>
    match visibleJourney db scope id with
    | none => answered ()
    | some row =>
      storing (row.1.touched now) fun (stored : StoredJourney) =>
        .ran () [.put (.journey id) stored] []
  | .deleteJourney scope id, db =>
    match visibleJourney db scope id with
    | none => answered false
    | some _ => .ran true (.drop (.journey id) :: cascade db id) []
  | .listSegments scope journeyId, db => answered (visibleTimeline db scope journeyId)
  | .selectSegment scope journeyId id, db =>
    answered (segmentIn db scope journeyId id)
  | .nextPosition scope journeyId, db =>
    answered ((visibleTimeline db scope journeyId).foldr
      (fun entry next => max next (entry.2.1.position + 1)) 0)
  | .insertSegment scope id row, db =>
    if (visibleJourney db scope row.journeyId).isSome then
      storing row fun (stored : StoredSegment) =>
        if (db.lookup (Key.segment id)).isSome ∨ positionTaken db id row.journeyId row.position then
          refused .uniqueViolation
        else .ran stored [.put (.segment id) stored]
          [(.row (.journey row.journeyId), .keyShare),
           (.named (.position row.journeyId row.position), .update)]
    else refused .rowSecurityViolation
  | .swapSegment scope journeyId id expected values now, db =>
    comparing values.texts expected (segmentIn db scope journeyId id)
      (fun row => row.1.recordVersion) fun row =>
      storing (row.1.revised values now) fun (stored : StoredSegment) =>
        .ran (some stored) [.put (.segment id) stored] []
  | .shiftSegment scope journeyId id, db =>
    match segmentIn db scope journeyId id with
    | none => answered ()
    | some row => relocate db id row { row.1 with position := row.1.position + shiftOffset }
  | .placeSegment scope id position stamp bump, db =>
    match visibleSegment db scope id with
    | none => answered ()
    | some row => relocate db id row (row.1.placed position stamp bump)
  | .deleteSegment scope id, db =>
    match visibleSegment db scope id with
    | none => answered ()
    | some row => .ran () [.drop (.segment id)]
        [(.named (.position row.1.journeyId row.1.position), .update)]
  | .listPacking scope journeyId, db =>
    answered (if (visibleJourney db scope journeyId).isSome then
      sortBy (byCategory platform) (collect (packingItemOf journeyId) db) else [])
  | .selectPackingItem scope journeyId id, db =>
    answered (packingItemIn db scope journeyId id)
  | .insertPackingItem scope id row, db =>
    if (visibleJourney db scope row.journeyId).isSome then
      storing row fun (stored : StoredPackingItem) =>
        if (db.lookup (Key.packingItem id)).isSome then refused .uniqueViolation
        else .ran stored [.put (.packingItem id) stored] [(.row (.journey row.journeyId), .keyShare)]
    else refused .rowSecurityViolation
  | .swapPackingItem scope journeyId id expected values now, db =>
    comparing values.texts expected (packingItemIn db scope journeyId id)
      (fun row => row.1.recordVersion)
      fun row =>
        storing (row.1.revised values now) fun (stored : StoredPackingItem) =>
          .ran (some stored) [.put (.packingItem id) stored] []
  | .swapPackingProgress scope journeyId id expected packedQuantity now, db =>
    comparing [] expected (packingItemIn db scope journeyId id) (fun row => row.1.recordVersion)
      fun row =>
        storing (row.1.progressed packedQuantity now) fun (stored : StoredPackingItem) =>
          .ran (some stored) [.put (.packingItem id) stored] []
  | .deletePackingItem scope id, db =>
    match visiblePackingItem db scope id with
    | none => answered ()
    | some _ => .ran () [.drop (.packingItem id)] []
  | .writeMembership workspaceId userId role, _ =>
    .ran ()
      [match role with
        | some granted => .put (.membership workspaceId userId) ⟨granted⟩
        | none => .drop (.membership workspaceId userId)] []

end TraxOs.Api
