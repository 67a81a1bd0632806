import TraxOs.Theory.Transactions
import TraxOs.PowerSync.Protocol

/-!
# Users, memberships and the projection of grants

The tables that decide who is granted what, with their foreign keys, and the triggers that
rebuild `sync_grants` from them. Transactions execute statements at READ COMMITTED.

A statement is given by the rows that it finds and by what it makes of them, in its order.
A row that is gone by then is passed over. After a statement come its triggers: for each
foreign key to the table the rows that referred to a deleted row are deleted, and then the
trigger of the statement is executed. What a cascade deletes has triggers of its own, which
wait behind those that wait already.

A foreign key is checked after the statement for all rows. The grants are one row, and the
advisory lock `trax-ps8-sync-grants` is its lock.
-/

namespace TraxOs.PowerSync.Relations

open TraxOs.Theory

section Tables

/-- The tables. -/
inductive Table where
  | users
  | workspaces
  | workspaceMemberships
  | journeys
  | journeyMemberships
  | parties
  | partyMemberships
  | resources
  | syncGrants
deriving DecidableEq

/-- A row of `users`. -/
structure User where
  active : Bool
deriving DecidableEq

/-- A row of a membership table. -/
structure Membership where
  active : Bool
deriving DecidableEq

/-- A row of `journeys`. -/
structure Journey where
  workspaceId : Uuid
deriving DecidableEq

/-- A row of `parties`. -/
structure Party where
  workspaceId : Uuid
  journeyId : Uuid
deriving DecidableEq

/-- For whom a resource is. -/
inductive Audience where
  | journey
  | party
deriving DecidableEq

/-- Where a resource belongs. Only a resource for a party has one. -/
structure Scope where
  workspaceId : Uuid
  journeyId : Uuid
  audience : Audience
  partyId : Option Uuid
  checked : audience = .party ↔ partyId.isSome = true
deriving DecidableEq

/-- A row of `resources`. -/
structure Resource where
  scope : Scope
  payload : Option Text
  version : Nat
deriving DecidableEq

/-- A row of `sync_grants`. -/
structure Grant where
  resourceId : Uuid
  userId : Uuid
  grantPath : Text
  workspaceId : Uuid
  journeyId : Uuid
  partyId : Option Uuid
  userActive : Bool
  workspaceActive : Bool
  journeyActive : Bool
  partyActive : Bool
deriving DecidableEq

/-- The whole of `sync_grants`. `rebuilds` tells the rows of one rebuild from those of
another. -/
structure SyncGrants where
  grants : List Grant
  rebuilds : Nat
deriving DecidableEq

/-- The primary keys. -/
inductive Key where
  | user (id : Uuid)
  | workspace (id : Uuid)
  | workspaceMembership (workspaceId userId : Uuid)
  | journey (id : Uuid)
  | journeyMembership (workspaceId journeyId userId : Uuid)
  | party (id : Uuid)
  | partyMembership (workspaceId journeyId partyId userId : Uuid)
  | resource (id : Uuid)
  | syncGrants
deriving DecidableEq

/-- The row under each key. -/
@[reducible] def Row : Key → Type
  | .user _ => User
  | .workspace _ => Unit
  | .workspaceMembership _ _ => Membership
  | .journey _ => Journey
  | .journeyMembership _ _ _ => Membership
  | .party _ => Party
  | .partyMembership _ _ _ _ => Membership
  | .resource _ => Resource
  | .syncGrants => SyncGrants

/-- The table of a key. -/
def Key.table : Key → Table
  | .user _ => .users
  | .workspace _ => .workspaces
  | .workspaceMembership _ _ => .workspaceMemberships
  | .journey _ => .journeys
  | .journeyMembership _ _ _ => .journeyMemberships
  | .party _ => .parties
  | .partyMembership _ _ _ _ => .partyMemberships
  | .resource _ => .resources
  | .syncGrants => .syncGrants

/-- A committed database, or one seen through a transaction's own writes. -/
abbrev Database := AList Row

/-- A row with its key. -/
abbrev Entry := Sigma Row

/-- The rows of `sync_grants`. -/
def grantsOf (db : Database) : List Grant :=
  ((db.lookup Key.syncGrants).map SyncGrants.grants).getD []

/-- The rebuilds of `sync_grants` so far. -/
def rebuildsOf (db : Database) : Nat :=
  ((db.lookup Key.syncGrants).map SyncGrants.rebuilds).getD 0

end Tables

section Constraints

/-- The foreign keys with ON DELETE CASCADE, in the order in which they were created,
other than those of `sync_grants`. -/
inductive ForeignKey where
  | workspaceMembershipsWorkspace
  | workspaceMembershipsUser
  | journeysWorkspace
  | journeyMembershipsJourney
  | journeyMembershipsWorkspaceMembership
  | partiesJourney
  | partyMembershipsParty
  | partyMembershipsJourneyMembership
  | resourcesJourney
  | resourcesParty
deriving DecidableEq

/-- The table whose rows refer. -/
def ForeignKey.child : ForeignKey → Table
  | .workspaceMembershipsWorkspace | .workspaceMembershipsUser => .workspaceMemberships
  | .journeysWorkspace => .journeys
  | .journeyMembershipsJourney | .journeyMembershipsWorkspaceMembership => .journeyMemberships
  | .partiesJourney => .parties
  | .partyMembershipsParty | .partyMembershipsJourneyMembership => .partyMemberships
  | .resourcesJourney | .resourcesParty => .resources

/-- The foreign keys to a table. -/
def constraintsOn : Table → List ForeignKey
  | .users => [.workspaceMembershipsUser]
  | .workspaces => [.workspaceMembershipsWorkspace, .journeysWorkspace]
  | .workspaceMemberships => [.journeyMembershipsWorkspaceMembership]
  | .journeys => [.journeyMembershipsJourney, .partiesJourney, .resourcesJourney]
  | .journeyMemberships => [.partyMembershipsJourneyMembership]
  | .parties => [.partyMembershipsParty, .resourcesParty]
  | .partyMemberships | .resources | .syncGrants => []

/-- The row refers to the parent by this foreign key. -/
def ForeignKey.refers (constraint : ForeignKey) (parent : Entry) (child : Entry) : Bool :=
  match constraint, parent, child with
  | .workspaceMembershipsWorkspace, ⟨.workspace id, _⟩, ⟨.workspaceMembership workspaceId _, _⟩ =>
    decide (workspaceId = id)
  | .workspaceMembershipsUser, ⟨.user id, _⟩, ⟨.workspaceMembership _ userId, _⟩ =>
    decide (userId = id)
  | .journeysWorkspace, ⟨.workspace id, _⟩, ⟨.journey _, journey⟩ => decide (journey.workspaceId = id)
  | .journeyMembershipsJourney, ⟨.journey id, journey⟩, ⟨.journeyMembership workspaceId journeyId _, _⟩ =>
    decide (workspaceId = journey.workspaceId ∧ journeyId = id)
  | .journeyMembershipsWorkspaceMembership, ⟨.workspaceMembership workspace user, _⟩,
      ⟨.journeyMembership workspaceId _ userId, _⟩ => decide (workspaceId = workspace ∧ userId = user)
  | .partiesJourney, ⟨.journey id, journey⟩, ⟨.party _, party⟩ =>
    decide (party.workspaceId = journey.workspaceId ∧ party.journeyId = id)
  | .partyMembershipsParty, ⟨.party id, party⟩, ⟨.partyMembership workspaceId journeyId partyId _, _⟩ =>
    decide (workspaceId = party.workspaceId ∧ journeyId = party.journeyId ∧ partyId = id)
  | .partyMembershipsJourneyMembership, ⟨.journeyMembership workspace journey user, _⟩,
      ⟨.partyMembership workspaceId journeyId _ userId, _⟩ =>
    decide (workspaceId = workspace ∧ journeyId = journey ∧ userId = user)
  | .resourcesJourney, ⟨.journey id, journey⟩, ⟨.resource _, resource⟩ =>
    decide (resource.scope.workspaceId = journey.workspaceId ∧ resource.scope.journeyId = id)
  | .resourcesParty, ⟨.party id, party⟩, ⟨.resource _, resource⟩ =>
    decide (resource.scope.workspaceId = party.workspaceId ∧
      resource.scope.journeyId = party.journeyId ∧ resource.scope.partyId = some id)
  | _, _, _ => false

/-- There is such a journey in the workspace. -/
def hasJourney (db : Database) (workspaceId journeyId : Uuid) : Bool :=
  (db.lookup (Key.journey journeyId)).any fun journey => journey.workspaceId = workspaceId

/-- There is such a party in the journey. -/
def hasParty (db : Database) (workspaceId journeyId partyId : Uuid) : Bool :=
  (db.lookup (Key.party partyId)).any fun party =>
    party.workspaceId = workspaceId ∧ party.journeyId = journeyId

/-- The rows to which a row refers exist. -/
def referenced (db : Database) : Entry → Bool
  | ⟨.user _, _⟩ | ⟨.workspace _, _⟩ => true
  | ⟨.workspaceMembership workspaceId userId, _⟩ =>
    (db.lookup (Key.workspace workspaceId)).isSome && (db.lookup (Key.user userId)).isSome
  | ⟨.journey _, journey⟩ => (db.lookup (Key.workspace journey.workspaceId)).isSome
  | ⟨.journeyMembership workspaceId journeyId userId, _⟩ =>
    hasJourney db workspaceId journeyId &&
      (db.lookup (Key.workspaceMembership workspaceId userId)).isSome
  | ⟨.party _, party⟩ => hasJourney db party.workspaceId party.journeyId
  | ⟨.partyMembership workspaceId journeyId partyId userId, _⟩ =>
    hasParty db workspaceId journeyId partyId &&
      (db.lookup (Key.journeyMembership workspaceId journeyId userId)).isSome
  | ⟨.resource _, resource⟩ =>
    hasJourney db resource.scope.workspaceId resource.scope.journeyId &&
      resource.scope.partyId.all fun partyId =>
        hasParty db resource.scope.workspaceId resource.scope.journeyId partyId
  | ⟨.syncGrants, table⟩ =>
    table.grants.all fun grant =>
      (db.lookup (Key.resource grant.resourceId)).isSome && (db.lookup (Key.user grant.userId)).isSome

/-- Every foreign key is satisfied. -/
def referential (db : Database) : Bool := db.entries.all (referenced db)

/-- The rows to which a row refers. -/
def parents : Entry → List Key
  | ⟨.user _, _⟩ | ⟨.workspace _, _⟩ => []
  | ⟨.workspaceMembership workspaceId userId, _⟩ => [.workspace workspaceId, .user userId]
  | ⟨.journey _, journey⟩ => [.workspace journey.workspaceId]
  | ⟨.journeyMembership workspaceId journeyId userId, _⟩ =>
    [.journey journeyId, .workspaceMembership workspaceId userId]
  | ⟨.party _, party⟩ => [.journey party.journeyId]
  | ⟨.partyMembership workspaceId journeyId partyId userId, _⟩ =>
    [.party partyId, .journeyMembership workspaceId journeyId userId]
  | ⟨.resource _, resource⟩ =>
    .journey resource.scope.journeyId :: resource.scope.partyId.toList.map Key.party
  | ⟨.syncGrants, table⟩ =>
    table.grants.flatMap fun grant => [.resource grant.resourceId, .user grant.userId]

end Constraints

section Triggers

/-- The columns of `resources`. -/
inductive ResourceColumn where
  | id
  | workspaceId
  | journeyId
  | audience
  | partyId
  | payload
  | version
deriving DecidableEq

/-- The columns of the trigger `refresh_sync_grants_resources_scope_update`. -/
def ResourceColumn.watched : ResourceColumn → Bool
  | .workspaceId | .journeyId | .audience | .partyId => true
  | .id | .payload | .version => false

/-- What a statement does to its table. An UPDATE of `resources` has the columns that it
sets. -/
inductive Command where
  | insert
  | update (columns : List ResourceColumn)
  | delete
deriving DecidableEq

/-- The triggers that execute `refresh_sync_grants`. -/
def refreshes : Table → Command → Bool
  | .users, _ | .workspaceMemberships, _ | .journeyMemberships, _ | .partyMemberships, _ => true
  | .resources, .insert | .resources, .delete => true
  | .resources, .update columns => columns.any ResourceColumn.watched
  | .workspaces, _ | .journeys, _ | .parties, _ | .syncGrants, _ => false

/-- What waits to be executed after a statement. -/
inductive TriggerEvent where
  | cascade (constraint : ForeignKey) (deleted : List Entry)
  | refresh

/-- The triggers of a statement. -/
def eventsAfter (table : Table) (command : Command) (deleted : List Entry) : List TriggerEvent :=
  (if command = .delete then
    (constraintsOn table).map fun constraint => .cascade constraint deleted else []) ++
  (if refreshes table command then [.refresh] else [])

end Triggers

section Projection

/-- The path of a grant by a journey, and by a party. -/
def journeyPath : Text := ascii "journey"

def partyPath (partyId : Uuid) : Text := ascii "party:" ++ partyId

/-- A resource, found by a scan. -/
def resourceOf : (key : Key) → Row key → Option (Uuid × Scope)
  | .resource id, row => some (id, row.scope)
  | _, _ => none

/-- The row of the join for a membership of the journey. -/
def journeyGrant (db : Database) (id : Uuid) (scope : Scope) : (key : Key) → Row key → Option Grant
  | .journeyMembership workspaceId journeyId userId, membership =>
    if workspaceId = scope.workspaceId ∧ journeyId = scope.journeyId then
      match db.lookup (Key.workspaceMembership workspaceId userId), db.lookup (Key.user userId) with
      | some workspaceMembership, some user =>
        some
          { resourceId := id
            userId := userId
            grantPath := journeyPath
            workspaceId := scope.workspaceId
            journeyId := scope.journeyId
            partyId := none
            userActive := user.active
            workspaceActive := workspaceMembership.active
            journeyActive := membership.active
            partyActive := true }
      | _, _ => none
    else none
  | _, _ => none

/-- The row of the join for a membership of the party. -/
def partyGrant (db : Database) (id : Uuid) (scope : Scope) : (key : Key) → Row key → Option Grant
  | .partyMembership workspaceId journeyId partyId userId, membership =>
    if workspaceId = scope.workspaceId ∧ journeyId = scope.journeyId ∧ some partyId = scope.partyId then
      match db.lookup (Key.journeyMembership workspaceId journeyId userId),
          db.lookup (Key.workspaceMembership workspaceId userId), db.lookup (Key.user userId) with
      | some journeyMembership, some workspaceMembership, some user =>
        some
          { resourceId := id
            userId := userId
            grantPath := partyPath partyId
            workspaceId := scope.workspaceId
            journeyId := scope.journeyId
            partyId := some partyId
            userActive := user.active
            workspaceActive := workspaceMembership.active
            journeyActive := journeyMembership.active
            partyActive := membership.active }
      | _, _, _ => none
    else none
  | _, _ => none

/-- The SELECT of `refresh_sync_grants`. -/
def joinGrants (db : Database) : List Grant :=
  (collect resourceOf db).flatMap fun resource =>
    match resource.2.audience with
    | .journey => collect (journeyGrant db resource.1 resource.2) db
    | .party => collect (partyGrant db resource.1 resource.2) db

end Projection

section Statements

/-- The statements. -/
inductive Op where
  | insert (table : Table) (rows : List Entry)
  | update (table : Table) (columns : List ResourceColumn) (changes : List (Key × Entry))
  | delete (table : Table) (keys : List Key)
  | cascade (constraint : ForeignKey) (deleted : List Entry)
  | acquireGrantWriteLock
  | rebuildGrants
  | acquireGrantReadLock
  | selectActiveGrants (userId : Uuid) (resourceIds : List Uuid)

/-- What each statement answers. -/
@[reducible] def Res : Op → Type
  | .insert _ _ => Unit
  | .update _ _ _ => Unit
  | .delete _ _ => List Entry
  | .cascade _ _ => List Entry
  | .acquireGrantWriteLock => Unit
  | .rebuildGrants => Unit
  | .acquireGrantReadLock => Unit
  | .selectActiveGrants _ _ => Bool

/-- Why a transaction commits nothing. -/
inductive Failure where
  | uniqueViolation
  | foreignKeyViolation
  | undefined
  | triggersRunning
deriving DecidableEq

/-- What a statement does. -/
abbrev Effect (α : Type) := Outcome Empty Row Failure α

/-- Put a row. -/
def putEntry (entry : Entry) : Write Row := .put entry.1 entry.2

/-- Writes that must leave every foreign key satisfied. The rows to which a written row
refers are locked. -/
def writing (db : Database) (writes : List (Write Row)) (written : List Entry) : Effect Unit :=
  if referential (applyAll writes db) then
    .ran () writes ((written.flatMap parents).map fun key => (.row key, .keyShare))
  else .failed .foreignKeyViolation

/-- An UPDATE of `resources` leaves the columns that it does not set. -/
def keeps (columns : List ResourceColumn) : Entry → Entry → Bool
  | ⟨.resource id, row⟩, ⟨.resource newId, newRow⟩ =>
    (columns.contains .id || decide (newId = id)) &&
      (columns.contains .workspaceId || decide (newRow.scope.workspaceId = row.scope.workspaceId)) &&
      (columns.contains .journeyId || decide (newRow.scope.journeyId = row.scope.journeyId)) &&
      (columns.contains .audience || decide (newRow.scope.audience = row.scope.audience)) &&
      (columns.contains .partyId || decide (newRow.scope.partyId = row.scope.partyId)) &&
      (columns.contains .payload || decide (newRow.payload = row.payload)) &&
      (columns.contains .version || decide (newRow.version = row.version))
  | _, _ => true

/-- The change of one row. No other row has its new key. -/
def applyChange (table : Table) (columns : List ResourceColumn) (db : Database) (key : Key)
    (entry : Entry) : Except Failure (List (Write Row)) :=
  match db.lookup key with
  | none => .ok []
  | some row =>
    if key.table = table ∧ entry.1.table = table ∧ keeps columns ⟨key, row⟩ entry = true then
      if entry.1 = key then .ok [putEntry entry]
      else if (db.lookup entry.1).isSome then .error .uniqueViolation
      else .ok [.drop key, putEntry entry]
    else .error .undefined

/-- The changes of an UPDATE, row by row. -/
def applyChanges (table : Table) (columns : List ResourceColumn) :
    Database → List (Key × Entry) → Except Failure (List (Write Row))
  | _, [] => .ok []
  | db, (key, entry) :: changes => do
    let first ← applyChange table columns db key entry
    let rest ← applyChanges table columns (applyAll first db) changes
    return first ++ rest

/-- The rows of an INSERT, one by one. -/
def insertEntries (table : Table) : Database → List Entry → Except Failure (List (Write Row))
  | _, [] => .ok []
  | db, entry :: rows => do
    (if entry.1.table = table then .ok () else .error .undefined)
    (if (db.lookup entry.1).isSome then .error .uniqueViolation else .ok ())
    let rest ← insertEntries table (applyAll [putEntry entry] db) rows
    return putEntry entry :: rest

/-- The grants of the resources and the users that are not deleted. -/
def remainingGrants (deleted : List Entry) (grants : List Grant) : List Grant :=
  grants.filter fun grant => deleted.all fun entry =>
    decide (entry.1 ≠ .resource grant.resourceId) && decide (entry.1 ≠ .user grant.userId)

/-- Delete rows, and the grants that refer to them. -/
def erasing (db : Database) (deleted : List Entry) : Effect (List Entry) :=
  let remaining := remainingGrants deleted (grantsOf db)
  .ran deleted (deleted.map (fun entry => .drop entry.1) ++
    if remaining = grantsOf db then [] else [.put .syncGrants ⟨remaining, rebuildsOf db⟩]) []

/-- The rows under some keys of a table. -/
def entriesAt (db : Database) (table : Table) (keys : List Key) : List Entry :=
  keys.filterMap fun key =>
    if key.table = table then (db.lookup key).map fun row => ⟨key, row⟩ else none

/-- The rows of a table that refer to one of the parents. -/
def referring (db : Database) (constraint : ForeignKey) (deleted : List Entry) : List Entry :=
  collect (fun key row =>
    if key.table = constraint.child ∧
        (deleted.any fun parent => constraint.refers parent ⟨key, row⟩) = true then some ⟨key, row⟩
    else none) db

/-- `sync_grants` after a rebuild. -/
def rebuilt (db : Database) : SyncGrants where
  grants := joinGrants db
  rebuilds := rebuildsOf db + 1

/-- The grant counts. -/
def Grant.active (grant : Grant) : Bool :=
  grant.userActive && grant.workspaceActive && grant.journeyActive && grant.partyActive

/-- `hasActiveGrant`: as many of the resources are granted as there are. -/
def hasActiveGrant (db : Database) (userId : Uuid) (resourceIds : List Uuid) : Bool :=
  let rows := (grantsOf db).filter fun grant =>
    decide (grant.userId = userId) && resourceIds.contains grant.resourceId && grant.active
  decide ((rows.map Grant.resourceId).dedup.length = resourceIds.length)

/-- The meaning of every statement on the store it sees. -/
def execute : (op : Op) → Database → Effect (Res op)
  | .insert table rows, db =>
    if table = .syncGrants then .failed .undefined
    else
      match insertEntries table db rows with
      | .error failure => .failed failure
      | .ok writes => writing db writes rows
  | .update table columns changes, db =>
    if table = .syncGrants then .failed .undefined
    else
      match applyChanges table columns db changes with
      | .error failure => .failed failure
      | .ok writes => writing db writes (changes.map Prod.snd)
  | .delete table keys, db =>
    if table = .syncGrants then .failed .undefined else erasing db (entriesAt db table keys)
  | .cascade constraint deleted, db => erasing db (referring db constraint deleted)
  | .acquireGrantWriteLock, _ => .ran () [] [(.row .syncGrants, .update)]
  | .rebuildGrants, db =>
    .ran () [.put .syncGrants (rebuilt db)]
      ((parents ⟨.syncGrants, rebuilt db⟩).map fun key => (.row key, .keyShare))
  | .acquireGrantReadLock, _ => .ran () [] [(.row .syncGrants, .share)]
  | .selectActiveGrants userId resourceIds, db => .ran (hasActiveGrant db userId resourceIds) [] []

end Statements

section Transactions

/-- A program of statements. -/
abbrev Script (α : Type) := Program Op Res Failure α

/-- `refresh_sync_grants`. -/
def refreshSyncGrants : Script Unit := do
  Program.ask Op.acquireGrantWriteLock
  Program.ask Op.rebuildGrants

/-- How many triggers are executed for one that waits. -/
def TriggerEvent.steps : TriggerEvent → Nat
  | .refresh => 1
  | .cascade constraint _ =>
    match constraint.child with
    | .partyMemberships | .resources => 2
    | .journeyMemberships => 4
    | .parties => 5
    | .workspaceMemberships => 6
    | _ => 12

/-- Execute what waits, and what that adds to it, the oldest first. -/
def afterTriggers : Nat → List TriggerEvent → Script Unit
  | _, [] => pure ()
  | 0, _ :: _ => .fail .triggersRunning
  | steps + 1, .refresh :: waiting => do
    refreshSyncGrants
    afterTriggers steps waiting
  | steps + 1, .cascade constraint deleted :: waiting => do
    let further ← Program.ask (Op.cascade constraint deleted)
    afterTriggers steps (waiting ++ eventsAfter constraint.child .delete further)

/-- Execute the triggers of a statement. -/
def fireTriggers (table : Table) (command : Command) (deleted : List Entry) : Script Unit :=
  let events := eventsAfter table command deleted
  afterTriggers (events.map TriggerEvent.steps).sum events

/-- A statement of a client. -/
inductive Statement where
  | insert (table : Table) (rows : List Entry)
  | update (table : Table) (columns : List ResourceColumn) (changes : List (Key × Entry))
  | delete (table : Table) (keys : List Key)

/-- Execute a statement with its triggers. -/
def Statement.run : Statement → Script Unit
  | .insert table rows => do
    Program.ask (Op.insert table rows)
    fireTriggers table .insert []
  | .update table columns changes => do
    Program.ask (Op.update table columns changes)
    fireTriggers table (.update columns) []
  | .delete table keys => do
    let deleted ← Program.ask (Op.delete table keys)
    fireTriggers table .delete deleted

/-- A transaction that changes the relations, or `executeCommands` up to its decision. -/
inductive Request where
  | change (statements : List Statement)
  | executeCommands (userId : Uuid) (resourceIds : List Uuid)

/-- What a transaction returns. -/
inductive Reply where
  | changed
  | decided (hasActiveGrant : Bool)
deriving DecidableEq

/-- The program of a request. -/
def transaction : Request → Script Reply
  | .change statements => do
    Program.each statements Statement.run
    return .changed
  | .executeCommands userId resourceIds => do
    Program.ask Op.acquireGrantReadLock
    let granted ← Program.ask (Op.selectActiveGrants userId resourceIds)
    return .decided granted

/-- The database. Nothing is relied on beyond the locks. -/
def relations : Service Empty Row Res Failure Request Reply where
  execute := execute
  program := transaction
  current _ _ _ _ := true

end Transactions

end TraxOs.PowerSync.Relations
