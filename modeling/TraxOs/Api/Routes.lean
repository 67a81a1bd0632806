import Mathlib.Data.Char
import Mathlib.Data.List.Lex
import TraxOs.Api.Executor

/-!
# Routes, requests and the service

Every journey route behind its session cookie, and behind the CSRF check and the
current role where it mutates. A request is an HTTP request, one operation of the
server run for a given context, one run of the command executor, or a membership
change made by an operator.

The service puts these programs over the statements. Its last component is ghost
bookkeeping that an analysis of interleavings chooses.
-/

namespace TraxOs.Api

open TraxOs.Theory

/-- What the client presents: the session cookie, the CSRF cookie and the CSRF
header. A missing one is empty. -/
structure Credentials where
  token : Text
  csrfCookie : Text
  csrfHeader : Text

/-- The routes with their validated parameters and bodies. -/
inductive Call where
  | listJourneys
  | getJourney (journeyId : Uuid)
  | listSegments (journeyId : Uuid)
  | listPacking (journeyId : Uuid)
  | createJourney (command : JourneyCreate)
  | updateJourney (journeyId : Uuid) (command : JourneyUpdate)
  | journeyUpdateCommand (command : JourneyUpdateCommand)
  | deleteJourney (journeyId : Uuid)
  | createSegment (journeyId : Uuid) (command : SegmentCreate)
  | updateSegment (journeyId segmentId : Uuid) (command : SegmentUpdate)
  | reorderSegment (journeyId segmentId : Uuid) (command : SegmentReorder)
  | deleteSegment (journeyId segmentId : Uuid)
  | createPacking (journeyId : Uuid) (command : PackingCreate)
  | updatePacking (journeyId itemId : Uuid) (command : PackingUpdate)
  | updatePackingProgress (journeyId itemId : Uuid) (command : PackingProgressUpdate)
  | deletePacking (journeyId itemId : Uuid)

/-- The routes of `mutation_router`. -/
def Call.mutates : Call → Bool
  | .listJourneys => false
  | .getJourney _ => false
  | .listSegments _ => false
  | .listPacking _ => false
  | _ => true

/-- A response. An error here is reported although the transaction is committed. An
execution is what the executor returns to a caller inside the server. -/
inductive Reply where
  | journeys (items : List JourneyResponse)
  | journey (statusCode : Nat) (body : JourneyResponse)
  | command (body : JourneyUpdateCommandResponse)
  | segments (items : List SegmentResponse)
  | segment (statusCode : Nat) (body : SegmentResponse)
  | packingItems (items : List PackingResponse)
  | packingItem (statusCode : Nat) (body : PackingResponse)
  | noContent
  | executed (execution : CommandExecution)
  | error (raised : ApplicationError)

/-- The HTTP status of a response. -/
def Reply.statusCode : Reply → Nat
  | .journeys _ => 200
  | .journey statusCode _ => statusCode
  | .command _ => 200
  | .segments _ => 200
  | .segment statusCode _ => statusCode
  | .packingItems _ => 200
  | .packingItem statusCode _ => statusCode
  | .noContent => 204
  | .executed _ => 200
  | .error raised => raised.statusCode

/-- What the client can tell apart without reading a body: the status, and the
error code if there is one. -/
def statusAndCode : Except Failure Reply → Nat × Option String
  | .error failure => (failure.response.statusCode, some failure.response.code)
  | .ok (.error error) => (error.statusCode, some error.code)
  | .ok reply => (reply.statusCode, none)

/-- `authenticate`, with the CSRF hash that it leaves on the request. -/
def authenticate (platform : Platform) (runtime : Runtime) (credentials : Credentials) :
    Action (AuthContext × Text) := do
  if credentials.token.isEmpty then raise authenticationRequired
  else
    match ← Program.ask (Op.findSession (platform.sha256 credentials.token) (runtime.clock 0)) with
    | none => raise authenticationRequired
    | some session => pure session

/-- `require_csrf`. -/
def requireCsrf (platform : Platform) (credentials : Credentials) (csrfHash : Text) : Action Unit :=
  if credentials.csrfCookie.isEmpty || credentials.csrfHeader.isEmpty ||
      credentials.csrfCookie ≠ credentials.csrfHeader ||
        platform.sha256 credentials.csrfHeader ≠ csrfHash then raise csrfFailed
  else pure ()

/-- `mutation_context`. -/
def mutationContext (platform : Platform) (runtime : Runtime) (credentials : Credentials) :
    Action AuthContext := do
  let (context, csrfHash) ← authenticate platform runtime credentials
  requireCsrf platform credentials csrfHash
  authorizePermission context .journeyWrite
  pure context

/-- A response that is built after the commit. -/
def respond {α : Type} (reply : α → Reply) : Option α → Reply
  | some body => reply body
  | none => .error internalError

section Routes

variable (platform : Platform) (context : AuthContext) (runtime : Runtime)

/-- The route `PUT /journeys/{journey_id}`: an update under a generated command
identifier. A replay has no journey to return. -/
def updateJourneyRoute (journeyId : Uuid) (command : JourneyUpdate) : Action Reply := do
  let result ← executeJourneyUpdate platform context runtime runtime.commandId "journey.update" 1
    { toJourneyUpdate := command, journeyId := journeyId } .web
  match result with
  | .error error => pure (.error error)
  | .ok execution => pure (respond (.journey 200) execution.journey)

/-- The route `POST /commands/journey.update`. -/
def canonicalUpdateJourney (command : JourneyUpdateCommand) : Action Reply := do
  let result ← executeJourneyUpdate platform context runtime command.commandId "journey.update"
    command.commandVersion command.payload .web
  match result with
  | .error error => pure (.error error)
  | .ok execution =>
    match execution.outcome with
    | .applied recordVersion changeSetId =>
      pure (.command
        { commandId := execution.commandId
          commandVersion := execution.commandVersion
          replayed := execution.replayed
          changeSetId := changeSetId
          entityId := execution.entityId
          recordVersion := recordVersion })
    | _ => pure (.error internalError)

/-- What a route does for its context. -/
def handle : Call → Action Reply
  | .listJourneys => do
    let items ← listJourneys context
    pure (.journeys items)
  | .getJourney journeyId => do
    let body ← getJourney context journeyId
    pure (.journey 200 body)
  | .listSegments journeyId => do
    let items ← listSegments context journeyId
    pure (.segments items)
  | .listPacking journeyId => do
    let items ← listPacking context journeyId
    pure (.packingItems items)
  | .createJourney command => do
    let body ← createJourney context runtime command
    pure (.journey 201 body)
  | .updateJourney journeyId command => updateJourneyRoute platform context runtime journeyId command
  | .journeyUpdateCommand command => canonicalUpdateJourney platform context runtime command
  | .deleteJourney journeyId => do
    deleteJourney context journeyId
    pure .noContent
  | .createSegment journeyId command => do
    let body ← createSegment context runtime journeyId command
    pure (respond (.segment 201) body)
  | .updateSegment journeyId segmentId command => do
    let body ← updateSegment context runtime journeyId segmentId command
    pure (respond (.segment 200) body)
  | .reorderSegment journeyId segmentId command => do
    let body ← reorderSegment context runtime journeyId segmentId command.expectedRecordVersion
      command.newPosition
    pure (.segment 200 body)
  | .deleteSegment journeyId segmentId => do
    deleteSegment context runtime journeyId segmentId
    pure .noContent
  | .createPacking journeyId command => do
    let body ← createPacking context runtime journeyId command
    pure (respond (.packingItem 201) body)
  | .updatePacking journeyId itemId command => do
    let body ← updatePacking context runtime journeyId itemId command
    pure (respond (.packingItem 200) body)
  | .updatePackingProgress journeyId itemId command => do
    let body ← updatePackingProgress context runtime journeyId itemId command
    pure (respond (.packingItem 200) body)
  | .deletePacking journeyId itemId => do
    deletePacking context runtime journeyId itemId
    pure .noContent

end Routes

/-- `repository`: authenticate, and for a mutation also verify and authorize. -/
def routeContext (platform : Platform) (runtime : Runtime) (credentials : Credentials)
    (mutates : Bool) : Action AuthContext :=
  if mutates then mutationContext platform runtime credentials
  else do
    let (context, _) ← authenticate platform runtime credentials
    pure context

/-- Everything that can run against the database. -/
inductive Request where
  | http (credentials : Credentials) (call : Call) (runtime : Runtime)
  | operation (context : AuthContext) (call : Call) (runtime : Runtime)
  | command (context : AuthContext) (commandId : Uuid) (commandType : String)
      (commandVersion : Nat) (payload : JourneyUpdateCommandPayload) (origin : Origin)
      (runtime : Runtime)
  | administer (workspaceId userId : Uuid) (role : Option Role)

/-- The program of each request. -/
def program (platform : Platform) : Request → Action Reply
  | .http credentials call runtime => do
    let context ← routeContext platform runtime credentials call.mutates
    handle platform context runtime call
  | .operation context call runtime => handle platform context runtime call
  | .command context commandId commandType commandVersion payload origin runtime => do
    let result ← executeJourneyUpdate platform context runtime commandId commandType commandVersion
      payload origin
    match result with
    | .error error => pure (.error error)
    | .ok execution => pure (.executed execution)
  | .administer workspaceId userId role => do
    Program.ask (Op.writeMembership workspaceId userId role)
    pure .noContent

/-- The API over its database. -/
def api (platform : Platform)
    (current : Request → (op : Op) → Res op → Database → Bool) :
    Service Name Row Res Failure Request Reply where
  execute := execute platform
  program := program platform
  current := current

/-- The API without ghost bookkeeping: nothing is ever stale. -/
def plainApi (platform : Platform) : Service Name Row Res Failure Request Reply :=
  api platform fun _ _ _ _ => true

/-! ## A small workspace

One owner with one session and one journey, and one update of that journey. The
three texts that its requests hash have their real digests. -/

namespace Sample

/-- The session token `t`, the CSRF token `c`, and the update below. -/
def platform : Platform where
  sha256 text :=
    if text = ['t'] then
      "e3b98a4da31a127d4bde6e43033f66ba274cab0eb7eb1c70ec41402bf6273dd8".toList
    else if text = ['c'] then
      "2e7d2c03a9507ae265ecf5b5356885a53393a2029d241394997265a1a25aefc6".toList
    else "c22b3fa6e0d9aafcffae853e883d5859bce1a111f6aa99ef2d50ba91c0a8e344".toList
  collate left right := decide (left ≤ right)

/-- The clock and identifiers of one request. -/
def runtime : Runtime where
  entityId := 100
  commandId := 101
  changeSetId := 102
  eventId := 103
  clock reading := reading
  order := ⟨id, fun ids => .refl ids⟩

/-- The cookies and the header of the owner. -/
def credentials : Credentials := ⟨['t'], ['c'], ['c']⟩

/-- The owner. -/
def context : AuthContext := ⟨1, 2, 3, [], [], .owner⟩

/-- The journey. -/
def journey : StoredJourney := ⟨⟨2, "Roma".toList, none, none, .planning, 1, 0, 0⟩, by decide⟩

/-- The database. -/
def database : Database :=
  (((((∅ : Database).insert (.user 1) (⟨[], []⟩ : User)).insert (.workspace 2)
    (⟨.personal, 0⟩ : Workspace)).insert (.membership 2 1) (⟨.owner⟩ : Membership)).insert
      (.session (platform.sha256 ['t']))
        (⟨3, 1, platform.sha256 ['c'], 1000, none⟩ : Session)).insert (.journey 7) journey

/-- Rename the journey from its first version. -/
def update : JourneyUpdateCommandPayload where
  name := "Rome".toList
  startDate := none
  endDate := none
  nameLength := by decide
  datesAreOrdered := by decide
  expectedRecordVersion := 1
  status := .planning
  expectedPositive := by decide
  journeyId := 7

/-- Create a journey under the identifier of the sample journey. -/
def creation (name : Text) (fits : 1 ≤ name.length ∧ name.length ≤ 200) : Request :=
  .http credentials (.createJourney
    { name := name, startDate := none, endDate := none, nameLength := fits
      datesAreOrdered := by decide, id := some 7 }) runtime

/-- Delete the sample journey. -/
def deletion : Request := .http credentials (.deleteJourney 7) runtime

/-- The update as a command with an identifier of its own. -/
def command : Request := .command context 5 "journey.update" 1 update .web runtime

end Sample

end TraxOs.Api
