import TraxOs.Theory.Store
import TraxOs.Api.Models

/-!
# Tables

Each table is a family of keys: its primary key selects at most one row. Rows of
journeys, segments and packing items carry the proof of their table's column
types and CHECK constraints, so a stored row satisfies them by construction. A
statement that would store anything else has no row to store.

The outcome of a receipt is one value that holds the two nullable columns which
`command_receipt_result_shape_valid` ties to it. Constraints over several rows
(uniqueness of a position in a journey, foreign keys) belong to the statements.
-/

namespace TraxOs.Api

open TraxOs.Theory

/-- The largest value of an INTEGER column. -/
def maxInteger : Nat := 2147483647

/-- The largest value of a BIGINT column or parameter. -/
def maxBigint : Nat := 9223372036854775807

/-- A text that a `VARCHAR(limit)` column can hold. -/
def storable (limit : Nat) (text : Text) : Prop := text.length ≤ limit ∧ nul ∉ text

instance (limit : Nat) (text : Text) : Decidable (storable limit text) :=
  inferInstanceAs (Decidable (_ ∧ _))

/-- The nullable version of such a column. -/
def storableName (text : Option Text) : Prop := ∀ present ∈ text, storable 200 present

instance (text : Option Text) : Decidable (storableName text) :=
  inferInstanceAs (Decidable (∀ present ∈ text, storable 200 present))

/-- A `record_version` that its BIGINT column and its CHECK constraint admit. -/
def versionValid (version : Nat) : Prop := 1 ≤ version ∧ version ≤ maxBigint

instance (version : Nat) : Decidable (versionValid version) :=
  inferInstanceAs (Decidable (_ ∧ _))

/-- A row of `auth_refresh_sessions`; the unique token hash is its key. -/
structure Session where
  id : Uuid
  userId : Uuid
  csrfHash : Text
  expiresAt : Timestamp
  revokedAt : Option Timestamp
deriving DecidableEq

/-- A row of `users`. -/
structure User where
  email : Text
  displayName : Text
deriving DecidableEq

/-- A row of `workspaces`. -/
structure Workspace where
  type : WorkspaceType
  createdAt : Timestamp
deriving DecidableEq

/-- A row of `workspace_memberships`. -/
structure Membership where
  role : Role
deriving DecidableEq

/-- A row of `journeys`. -/
structure Journey where
  workspaceId : Uuid
  name : Text
  startDate : Option Date
  endDate : Option Date
  status : JourneyStatus
  recordVersion : Nat
  createdAt : Timestamp
  updatedAt : Timestamp
deriving DecidableEq

/-- The column types and CHECK constraints of `journeys`. -/
def Journey.Admissible (row : Journey) : Prop :=
  storable 200 row.name ∧ datesOrdered row.startDate row.endDate ∧ versionValid row.recordVersion

instance (row : Journey) : Decidable row.Admissible := inferInstanceAs (Decidable (_ ∧ _))

/-- A row of `journey_segments`. -/
structure Segment where
  journeyId : Uuid
  kind : SegmentKind
  position : Nat
  startDate : Option Date
  endDate : Option Date
  placeName : Option Text
  originName : Option Text
  destinationName : Option Text
  transportMode : Text
  notes : Text
  recordVersion : Nat
  createdAt : Timestamp
  updatedAt : Timestamp
deriving DecidableEq

/-- `segment_details_valid`: the names that each kind of segment needs are not null. -/
def Segment.detailsValid (row : Segment) : Bool :=
  match row.kind with
  | .stay => row.placeName.isSome
  | .move => row.originName.isSome && row.destinationName.isSome

/-- The column types and CHECK constraints of `journey_segments`. -/
def Segment.Admissible (row : Segment) : Prop :=
  row.position ≤ maxInteger ∧ datesOrdered row.startDate row.endDate ∧
    (storableName row.placeName ∧ storableName row.originName ∧ storableName row.destinationName) ∧
    storable 100 row.transportMode ∧ nul ∉ row.notes ∧ versionValid row.recordVersion ∧
    row.detailsValid = true

instance (row : Segment) : Decidable row.Admissible := inferInstanceAs (Decidable (_ ∧ _))

/-- A row of `packing_items`. -/
structure PackingItem where
  journeyId : Uuid
  label : Text
  category : PackingCategory
  quantity : Nat
  packedQuantity : Nat
  essential : Bool
  recordVersion : Nat
  createdAt : Timestamp
  updatedAt : Timestamp
deriving DecidableEq

/-- The column types and CHECK constraints of `packing_items`. -/
def PackingItem.Admissible (row : PackingItem) : Prop :=
  storable 200 row.label ∧ (1 ≤ row.quantity ∧ row.quantity ≤ 99) ∧
    row.packedQuantity ≤ row.quantity ∧ versionValid row.recordVersion

instance (row : PackingItem) : Decidable row.Admissible := inferInstanceAs (Decidable (_ ∧ _))

/-- The three outcomes of an executed command; an applied one names its resulting
version and its change set. -/
inductive CommandOutcome where
  | applied (recordVersion : Nat) (changeSetId : Uuid)
  | versionConflict
  | resourceNotFound
deriving DecidableEq

/-- A row of `command_receipts`. -/
structure CommandReceipt where
  commandType : String
  commandVersion : Nat
  digestVersion : Nat
  requestDigest : Text
  outcome : CommandOutcome
  entityType : String
  entityId : Uuid
  createdAt : Timestamp
deriving DecidableEq

/-- A row of `command_change_sets`. -/
structure CommandChangeSet where
  workspaceId : Uuid
  actorUserId : Uuid
  commandId : Uuid
  commandType : String
  commandVersion : Nat
  origin : Origin
  reversibility : Reversibility
  entityType : String
  entityId : Uuid
  createdAt : Timestamp
deriving DecidableEq

/-- A row of `command_change_events`. The two states are the JSON documents of
journey responses. -/
structure CommandChangeEvent where
  changeSetId : Uuid
  workspaceId : Uuid
  actorUserId : Uuid
  sequence : Nat
  entityType : String
  entityId : Uuid
  action : String
  beforeState : JourneyResponse
  afterState : JourneyResponse
  createdAt : Timestamp
deriving DecidableEq

/-- The primary keys of all tables. -/
inductive Key where
  | session (tokenHash : Text)
  | user (id : Uuid)
  | workspace (id : Uuid)
  | membership (workspaceId userId : Uuid)
  | journey (id : Uuid)
  | segment (id : Uuid)
  | packingItem (id : Uuid)
  | receipt (workspaceId actorUserId commandId : Uuid)
  | changeSet (id : Uuid)
  | changeEvent (id : Uuid)
deriving DecidableEq

/-- The rows that a key can select. -/
@[reducible] def Row : Key → Type
  | .session _ => Session
  | .user _ => User
  | .workspace _ => Workspace
  | .membership _ _ => Membership
  | .journey _ => { row : Journey // row.Admissible }
  | .segment _ => { row : Segment // row.Admissible }
  | .packingItem _ => { row : PackingItem // row.Admissible }
  | .receipt _ _ _ => CommandReceipt
  | .changeSet _ => CommandChangeSet
  | .changeEvent _ => CommandChangeEvent

/-- A committed state of the database. -/
abbrev Database := AList Row

end TraxOs.Api
