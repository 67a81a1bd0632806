import TraxOs.Theory.Retries
import TraxOs.Api.UpdateOutcomes
import TraxOs.Web.Saves

/-!
# Saves through an unreliable network

The calls of `load` and `save` of one repository, one after another, with the server and
with the requests and replies in between. Any request for an update that was ever made may
be served at any later time, or several times, or never, and any reply may be lost.

The saves here have nothing to request but updates of journeys; a save that has more to
request is no step. Listing the journeys and reading their parts are two steps of a load.
-/

namespace TraxOs.Web

open TraxOs.Theory
open TraxOs.Api (Uuid Text Platform Credentials Failure Reply Scope StoredJourney
  JourneyValues JourneyUpdateCommand plainApi receiptIn statusAndCode)

/-- A journey with the one of the last load that it replaces. -/
structure Change where
  old : ServerJourney
  journey : ServerJourney
deriving DecidableEq

/-- The changes of a plan that consists of updates of journeys. -/
def changesOf : List Planned → Option (List Change)
  | [] => some []
  | .updateJourney old journey :: rest =>
    (changesOf rest).map fun changes => ⟨old, journey⟩ :: changes
  | _ => none

/-- A request for an update. -/
structure SentUpdate where
  commandId : Uuid
  commandVersion : Nat
  change : Change

namespace SentUpdate

variable (sent : SentUpdate)

/-- Its signature. -/
def signature : UpdateSignature :=
  updateSignature sent.commandVersion sent.change.old sent.change.journey

/-- Its call, unless the client refuses it. -/
def call : Option Api.Call :=
  updateCommand sent.commandId sent.commandVersion sent.change.old sent.change.journey

end SentUpdate

/-- An entry of `pendingJourneyUpdates`. -/
structure PendingUpdate where
  commandId : Uuid
  signature : UpdateSignature
deriving DecidableEq

/-- What the repository is about. A save knows the changes that it was told of, those that
remain, and for which request it awaits a reply; a load, the journeys that were listed. -/
inductive Activity where
  | idle
  | saving (next : ServerData) (finished rest : List Change) (awaiting : Option Nat)
  | loading (journeys : List Api.JourneyResponse)

namespace Activity

/-- The changes that a save was told of. -/
def told : Activity → List Change
  | .saving _ finished _ _ => finished
  | _ => []

/-- The request that a save awaits a reply for. -/
def awaiting : Activity → Option Nat
  | .saving _ _ _ awaiting => awaiting
  | _ => none

end Activity

/-- `HttpJourneyRepository`, the server's database, and everything that was sent either
way: the requests, with how many of them were made before the last load, and the replies,
with the requests that they belong to. -/
structure World where
  db : Api.Database
  current : ServerData
  pending : Uuid → Option PendingUpdate
  activity : Activity
  sent : List SentUpdate
  before : Nat
  replies : List (Nat × Except Failure Reply)

/-- A new repository. -/
def World.initial (db : Api.Database) : World :=
  ⟨db, emptyJourneyData, fun _ => none, .idle, [], 0, []⟩

/-- What can happen: a call of `save`; its next request, with the identifier that is drawn
and the version that was negotiated; a request that is served; a reply that is heard; a
call that fails; the two steps of a load; a reload of the page. -/
inductive WebEvent where
  | save (next : ServerData)
  | request (drawn : Uuid) (commandVersion : Nat)
  | deliver (index : Nat) (runtime : Api.Runtime)
  | hear (position : Nat)
  | fail
  | list (runtime : Api.Runtime)
  | complete (runtime : Api.Runtime)
  | restart

/-- The client takes the reply for a success. -/
def succeeds (reply : Except Failure Reply) : Bool := (statusAndCode reply).2.isNone

section Steps

variable (platform : Platform) (credentials : Credentials)

/-- A request as the server answers it alone. -/
abbrev served (call : Api.Call) (runtime : Api.Runtime) (db : Api.Database) :
    Except Failure Reply × Api.Database :=
  serve (plainApi platform) (.http credentials call runtime) db

namespace World

variable (world : World)

/-- The identifier under which a change is requested: the pending one, when it stands for
the same request. -/
def commandId (drawn : Uuid) (commandVersion : Nat) (change : Change) : Uuid :=
  match world.pending change.journey.id with
  | some existing =>
    if existing.signature = updateSignature commandVersion change.old change.journey then
      existing.commandId
    else drawn
  | none => drawn

/-- The request for a change. -/
def makeUpdate (drawn : Uuid) (commandVersion : Nat) (change : Change) : SentUpdate :=
  ⟨world.commandId drawn commandVersion change, commandVersion, change⟩

/-- The next request of a save. What the client refuses is pending, but never served. -/
def requested (next : ServerData) (finished : List Change) (change : Change) (rest : List Change)
    (sent : SentUpdate) : World :=
  { world with
    pending := Function.update world.pending change.journey.id
      (some ⟨sent.commandId, sent.signature⟩)
    activity :=
      if sent.call.isSome then .saving next finished (change :: rest) (some world.sent.length)
      else .idle
    sent := world.sent ++ [sent] }

/-- The parts of the listed journeys. -/
def detailsOf (runtime : Api.Runtime) (journeys : List Api.JourneyResponse) :
    Option (List (List Api.SegmentResponse × List Api.PackingResponse)) :=
  journeys.mapM fun journey =>
    match (served platform credentials (.listSegments journey.id) runtime world.db).1,
      (served platform credentials (.listPacking journey.id) runtime world.db).1 with
    | .ok (.segments segments), .ok (.packingItems items) => some (segments, items)
    | _, _ => none

/-- After a load has read everything. -/
def loaded (data : ServerData) : World :=
  { world with
    current := data
    pending := fun _ => none
    activity := .idle
    before := world.sent.length }

/-- A load can begin: nothing is under way, or a save has come to its end. -/
def canLoad : Bool :=
  match world.activity with
  | .idle => true
  | .saving _ _ [] none => true
  | _ => false

/-- One step; a step that cannot be made yields nothing. -/
def step : WebEvent → Option World
  | .save next =>
    match world.activity, changesOf (savePlan world.current next) with
    | .idle, some changes => some { world with activity := .saving next [] changes none }
    | _, _ => none
  | .request drawn commandVersion =>
    match world.activity with
    | .saving next finished (change :: rest) none =>
      some (world.requested next finished change rest (world.makeUpdate drawn commandVersion change))
    | _ => none
  | .deliver index runtime =>
    (world.sent[index]?.bind SentUpdate.call).map fun call =>
      { world with
        db := (served platform credentials call runtime world.db).2
        replies := world.replies ++ [(index, (served platform credentials call runtime world.db).1)] }
  | .hear position =>
    match world.activity, world.replies[position]? with
    | .saving next finished (change :: rest) (some index), some (answered, reply) =>
      if answered = index then
        some { world with
          activity := if succeeds reply then .saving next (finished ++ [change]) rest none else .idle }
      else none
    | _, _ => none
  | .fail => some { world with activity := .idle }
  | .list runtime =>
    if world.canLoad then
      match (served platform credentials .listJourneys runtime world.db).1 with
      | .ok (.journeys journeys) => some { world with activity := .loading journeys }
      | _ => some { world with activity := .idle }
    else none
  | .complete runtime =>
    match world.activity with
    | .loading journeys =>
      match (world.detailsOf platform credentials runtime journeys).bind (loadedData journeys) with
      | some data => some (world.loaded data)
      | none => some { world with activity := .idle }
    | _ => none
  | .restart => some (world.loaded emptyJourneyData)

/-- The receipt of a command, whoever sent it. -/
def receiptOf (commandId : Uuid) : Api.Key → Bool
  | .receipt _ _ other => other == commandId
  | _ => false

/-- An identifier that is drawn was never used. -/
def drawsNew : WebEvent → Bool
  | .request drawn _ => (world.sent.all fun sent => sent.commandId != drawn) &&
      world.db.keys.all fun key => !receiptOf drawn key
  | _ => true

/-- A run: each of its steps can be made, and draws a new identifier if any. -/
def steps (world : World) : List WebEvent → Option World
  | [] => some world
  | event :: events =>
    if world.drawsNew event then
      (world.step platform credentials event).bind fun next => next.steps events
    else none

end World

end Steps

end TraxOs.Web
