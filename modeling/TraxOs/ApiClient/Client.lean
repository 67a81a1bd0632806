import TraxOs.Theory.SharedAttempts
import TraxOs.ApiClient.Validator
import TraxOs.Contract.Negotiation

/-!
# The generated client

`TraxApiClient` with its cached negotiation. A call of an operation waits for the negotiation,
and what follows runs when its promise is resolved. The negotiation is the promise of a
`bootstrap`, which requests the contract and negotiates with what it reads; the calls that
wait for it share it.

An operation is modelled up to the request that it sends. What `requestFunction` does with a
request is outside; it does not call the client back before it returns.
-/

namespace TraxOs.ApiClient

open TraxOs.Theory TraxOs.Contract

/-- `ErrorKind`. -/
inductive ErrorKind where
  | api
  | contract
  | network
  | negotiation
deriving DecidableEq, Repr

/-- `ApiClientError`, as far as the client itself reads it. -/
structure ApiClientError where
  kind : ErrorKind
  code : String
  message : String
  operationId : Option Text
deriving DecidableEq

/-- What a call throws: an error of the client, or whatever else was thrown inside. -/
inductive Thrown where
  | client (error : ApiClientError)
  | other (name : String)
deriving DecidableEq

/-- `RuntimeOperation`, as far as a request depends on it. -/
structure RuntimeOperation where
  bodySchema : Option Schema
  commandType : Option Text
  csrf : Bool
  method : Text
  path : Text
  pathSchemas : List (Text × Schema)

/-- What the client was generated and constructed with. -/
structure Configuration where
  operations : List (Text × RuntimeOperation)
  components : Components
  regExps : RegExps
  depth : Nat
  support : ClientSupport Text
  csrfToken : Text

/-- A request as it is sent, with the values that complete its path. -/
structure Transmission where
  operationId : Text
  method : Text
  path : Text
  pathValues : List (Text × Value)
  body : Option Value
  csrfToken : Option Text

/-- `CONTRACT_OPERATION`. -/
def contractOperation : Text := literal "contract_discovery_api_contract_get"

/-- `invalidRequest`. -/
def invalidRequest {α : Type} (operationId : Text) : Except ApiClientError α :=
  .error ⟨.contract, "invalid_request", "The API request does not match the canonical contract.",
    some operationId⟩

/-- `validateRequest`. -/
def validateRequest (configuration : Configuration) (operationId : Text) (schema : Schema)
    (value : Value) : Except ApiClientError Unit :=
  match validate configuration.components configuration.regExps .request configuration.depth schema
      value [] with
  | some (.ok ()) => .ok ()
  | _ => invalidRequest operationId

/-- The values of the path: one for each schema, and no others. -/
def pathValues (configuration : Configuration) (operationId : Text) (supplied : List (Text × Value)) :
    List (Text × Schema) → Except ApiClientError (List (Text × Value))
  | [] => .ok []
  | (name, schema) :: rest =>
    match supplied.lookup name with
    | none => invalidRequest operationId
    | some value =>
      match validateRequest configuration operationId schema value with
      | .error error => .error error
      | .ok () =>
        match pathValues configuration operationId supplied rest with
        | .error error => .error error
        | .ok values => .ok ((name, value) :: values)

/-- The part of `execute` that reads the path. -/
def preparePath (configuration : Configuration) (operationId : Text) (operation : RuntimeOperation)
    (members : List (Text × Value)) : Except ApiClientError (List (Text × Value)) :=
  if operation.pathSchemas = [] then .ok []
  else
    match members.lookup (literal "path") with
    | some (.object supplied) =>
      if supplied.length ≠ operation.pathSchemas.length ∨
          (names supplied).any fun name =>
            !((operation.pathSchemas.map Prod.fst).contains name || inheritedNames.contains name) then
        invalidRequest operationId
      else pathValues configuration operationId supplied operation.pathSchemas
    | _ => invalidRequest operationId

/-- The part of `execute` that reads the body. -/
def prepareBody (configuration : Configuration) (operationId : Text) (operation : RuntimeOperation)
    (members : List (Text × Value)) : Except ApiClientError (Option Value) :=
  match operation.bodySchema with
  | none => .ok none
  | some schema =>
    match members.lookup (literal "body") with
    | none => invalidRequest operationId
    | some body =>
      match validateRequest configuration operationId schema body with
      | .error error => .error error
      | .ok () => .ok (some body)

/-- The part of `execute` that compares a command with the negotiated version. -/
def checkCommand (operationId : Text) (operation : RuntimeOperation)
    (negotiated : Option (NegotiatedContract Text)) (members : List (Text × Value)) :
    Except ApiClientError Unit :=
  match operation.commandType with
  | none => .ok ()
  | some commandType =>
    match negotiated, members.lookup (literal "body") with
    | some contract, some (.object body) =>
      match contract.commandVersions.lookup commandType with
      | none =>
        .error ⟨.negotiation, "unsupported_command",
          "The command does not use the negotiated version.", some operationId⟩
      | some selected =>
        if (body.lookup (literal "command_type")).any (sameValue (.text commandType)) &&
            (body.lookup (literal "command_version")).any
              (sameValue (.number (.finite selected))) then .ok ()
        else
          .error ⟨.negotiation, "command_version_mismatch",
            "The command does not use the negotiated version.", some operationId⟩
    | _, _ => invalidRequest operationId

/-- `execute`, up to the request that it sends. -/
def execute (configuration : Configuration) (operationId : Text) (input : Value)
    (negotiated : Option (NegotiatedContract Text)) : Except ApiClientError Transmission :=
  match configuration.operations.lookup operationId, input with
  | none, _ => .error ⟨.contract, "unknown_operation", "Unknown API operation.", none⟩
  | some operation, .object members =>
    if (names members).any fun name =>
        !((!operation.pathSchemas.isEmpty && name == literal "path") ||
          (operation.bodySchema.isSome && name == literal "body")) then invalidRequest operationId
    else
      match preparePath configuration operationId operation members with
      | .error error => .error error
      | .ok values =>
        match prepareBody configuration operationId operation members with
        | .error error => .error error
        | .ok body =>
          match checkCommand operationId operation negotiated members with
          | .error error => .error error
          | .ok () =>
            .ok
              { operationId := operationId
                method := operation.method
                path := operation.path
                pathValues := values
                body := body
                csrfToken := if operation.csrf then some configuration.csrfToken else none }
  | some _, _ => invalidRequest operationId

/-! ## The cached negotiation -/

/-- `NegotiationFailureCode`, as the error spells it. -/
def failureCode : NegotiationFailure → String
  | .invalidContractMetadata => "invalid_contract_metadata"
  | .clientTooOld => "client_too_old"
  | .clientTooNew => "client_too_new"
  | .unsupportedCommand => "unsupported_command"
  | .commandVersionNoOverlap => "command_version_no_overlap"

/-- `bootstrap`, after its request was answered with metadata or failed. -/
def bootstrap (support : ClientSupport Text)
    (executed : Except Thrown (ContractDiscovery Text)) :
    Except Thrown (NegotiatedContract Text) :=
  match executed with
  | .ok metadata =>
    match negotiateContract support metadata with
    | .ok negotiated => .ok negotiated
    | .error failure =>
      .error (.client ⟨.negotiation, failureCode failure, failure.message, none⟩)
  | .error (.client error) =>
    if error.kind = .contract then
      .error (.client ⟨.negotiation, "invalid_contract_metadata",
        "The server returned invalid contract metadata.", none⟩)
    else .error (.client error)
  | .error thrown => .error thrown

/-- A call of the client's methods. -/
inductive ClientCall where
  | request (operationId : Text) (input : Value)
  | commandVersion (commandType : Text)
  | negotiatedApiVersion

/-- What a call does once the negotiation is known: send its request, return a version, or
throw. -/
inductive Continuation where
  | sent (transmission : Transmission)
  | version (number : Int)
  | thrown (error : Thrown)

/-- The rest of a call after `await this.ensureNegotiated()`. -/
def ClientCall.proceed (configuration : Configuration) (call : ClientCall)
    (negotiated : Except Thrown (NegotiatedContract Text)) : Continuation :=
  match negotiated with
  | .error error => .thrown error
  | .ok contract =>
    match call with
    | .request operationId input =>
      match execute configuration operationId input (some contract) with
      | .ok transmission => .sent transmission
      | .error error => .thrown (.client error)
    | .commandVersion commandType =>
      match contract.commandVersions.lookup commandType with
      | some version => .version version
      | none =>
        .thrown (.client ⟨.negotiation, "unsupported_command",
          "The command is not supported by this client and server.", none⟩)
    | .negotiatedApiVersion => .version contract.apiVersion

/-- A request that was sent, with the attempt to negotiate that it waited for. -/
structure Sent where
  transmission : Transmission
  negotiation : Option Nat

/-- A client, and the requests of operations that it has sent so far. -/
structure Session where
  shared : Shared ClientCall Thrown (NegotiatedContract Text)
  sent : List Sent

/-- What can happen next: a call, the end of the request of a bootstrap, or a queued job. -/
inductive ClientEvent where
  | call (call : ClientCall)
  | bootstrapped (id : Nat) (executed : Except Thrown (ContractDiscovery Text))
  | job

namespace Session

/-- A new client. -/
def initial : Session := ⟨.initial, []⟩

/-- What the call that the next job resumes sends. -/
def resumption (configuration : Configuration)
    (shared : Shared ClientCall Thrown (NegotiatedContract Text)) : List Sent :=
  match shared.jobs with
  | .resume index :: _ =>
    match shared.callers[index]? with
    | some caller =>
      match (shared.outcome caller.attempt).map (caller.call.proceed configuration) with
      | some (.sent transmission) => [⟨transmission, some caller.attempt⟩]
      | _ => []
    | none => []
  | _ => []

/-- The request of a call that waits for nothing. -/
def direct (configuration : Configuration) (operationId : Text) (input : Value) : List Sent :=
  match execute configuration operationId input none with
  | .ok transmission => [⟨transmission, none⟩]
  | .error _ => []

/-- One event; an event that cannot happen yields nothing. -/
def step (configuration : Configuration) (session : Session) : ClientEvent → Option Session
  | .call (.request operationId input) =>
    if operationId = contractOperation then
      some { session with sent := session.sent ++ direct configuration operationId input }
    else some { session with shared := session.shared.join (.request operationId input) }
  | .call call => some { session with shared := session.shared.join call }
  | .bootstrapped id executed =>
    (session.shared.settle id (bootstrap configuration.support executed)).map fun shared =>
      { session with shared := shared }
  | .job =>
    session.shared.runJob.map fun shared =>
      { shared := shared, sent := session.sent ++ resumption configuration session.shared }

/-- A sequence of events. -/
def steps (configuration : Configuration) (session : Session) : List ClientEvent → Option Session
  | [] => some session
  | event :: events => (session.step configuration event).bind fun next =>
    next.steps configuration events

/-! ## One negotiation at a time -/

variable {configuration : Configuration}

/-- The request was sent under a negotiation that succeeded, or it reads the contract. -/
def Authorised (configuration : Configuration) (session : Session) (sent : Sent) : Prop :=
  (sent.negotiation = none ∧ sent.transmission.operationId = contractOperation) ∨
    ∃ id metadata negotiated, sent.negotiation = some id ∧
      session.shared.outcome id = some (.ok negotiated) ∧
        negotiateContract configuration.support metadata = .ok negotiated

/-- What holds of a client whatever calls were made and however its bootstraps ended: one
bootstrap at most is in flight; a request is sent only under a negotiation that has succeeded;
calls that share a bootstrap get its outcome, all of them once the queue has run empty; a
failure that has reached a call reaches none that is made later; and after a success there is
no other bootstrap. -/
structure SingleFlight (configuration : Configuration) (session : Session) : Prop where
  flight : ∀ one other, session.shared.InFlight one → session.shared.InFlight other → one = other
  sending : ∀ event next, session.step configuration event = some next →
    ∃ new, next.sent = session.sent ++ new ∧ ∀ sent ∈ new, session.Authorised configuration sent
  sharing : ∀ caller ∈ session.shared.callers, ∀ answer, caller.answer = some answer →
    session.shared.outcome caller.attempt = some answer
  resuming : ∃ last, session.steps configuration
      (List.replicate session.shared.jobs.length .job) = some last ∧
    ∀ (index : Nat) (caller : Caller ClientCall Thrown (NegotiatedContract Text)) result,
      session.shared.callers[index]? = some caller →
        session.shared.outcome caller.attempt = some result →
          ∃ later, last.shared.callers[index]? = some later ∧ later.call = caller.call ∧
            later.answer = some result
  renewing : ∀ events last, session.steps configuration events = some last →
    ∀ caller ∈ session.shared.callers, ∀ error, caller.answer = some (.error error) →
      ∀ index later, last.shared.callers[index]? = some later →
        session.shared.callers.length ≤ index → later.attempt ≠ caller.attempt
  final : ∀ events last, session.steps configuration events = some last →
    ∀ id negotiated, session.shared.outcome id = some (.ok negotiated) →
      last.shared.attempts.length = session.shared.attempts.length

/-- The invariant of a client. -/
structure Sound (configuration : Configuration) (session : Session) : Prop where
  shared : session.shared.Sound
  negotiated : ∀ id negotiated, session.shared.outcome id = some (.ok negotiated) →
    ∃ metadata, negotiateContract configuration.support metadata = .ok negotiated

/-- A bootstrap succeeds only by a negotiation. -/
theorem bootstrap_ok (support : ClientSupport Text)
    (executed : Except Thrown (ContractDiscovery Text)) (negotiated : NegotiatedContract Text)
    (succeeded : bootstrap support executed = .ok negotiated) :
    ∃ metadata, negotiateContract support metadata = .ok negotiated := by
  unfold bootstrap at succeeded
  split at succeeded
  · next metadata =>
    split at succeeded
    · next contract agreed =>
      cases succeeded
      exact ⟨metadata, agreed⟩
    · cases succeeded
  · split at succeeded <;> cases succeeded
  · cases succeeded

/-- A request is for the operation that was called. -/
theorem execute_operation (operationId : Text) (input : Value)
    (negotiated : Option (NegotiatedContract Text)) (transmission : Transmission)
    (prepared : execute configuration operationId input negotiated = .ok transmission) :
    transmission.operationId = operationId := by
  unfold execute at prepared
  split at prepared
  · cases prepared
  · split at prepared
    · cases prepared
    · split at prepared
      · cases prepared
      · split at prepared
        · cases prepared
        · split at prepared
          · cases prepared
          · cases prepared
            rfl
  · cases prepared

/-- What an event does to the shared negotiation: nothing, or one of its own events. -/
theorem step_shared (session next : Session) (event : ClientEvent)
    (stepped : session.step configuration event = some next) :
    next.shared = session.shared ∨
      (∃ call, next.shared = session.shared.join call) ∨
      (∃ id executed, session.shared.settle id (bootstrap configuration.support executed) =
        some next.shared) ∨
      session.shared.runJob = some next.shared := by
  cases event with
  | call call =>
    cases call with
    | request operationId input =>
      simp only [step] at stepped
      split at stepped
      · cases stepped
        exact Or.inl rfl
      · cases stepped
        exact Or.inr (Or.inl ⟨_, rfl⟩)
    | commandVersion commandType =>
      cases stepped
      exact Or.inr (Or.inl ⟨_, rfl⟩)
    | negotiatedApiVersion =>
      cases stepped
      exact Or.inr (Or.inl ⟨_, rfl⟩)
  | bootstrapped id executed =>
    simp only [step, Option.map_eq_some_iff] at stepped
    obtain ⟨shared, settled, rfl⟩ := stepped
    exact Or.inr (Or.inr (Or.inl ⟨id, executed, settled⟩))
  | job =>
    simp only [step, Option.map_eq_some_iff] at stepped
    obtain ⟨shared, ran, rfl⟩ := stepped
    exact Or.inr (Or.inr (Or.inr ran))

/-- Every event extends the shared negotiation. -/
theorem step_extends (session next : Session) (sound : session.Sound configuration)
    (event : ClientEvent) (stepped : session.step configuration event = some next) :
    Shared.Extends session.shared next.shared := by
  rcases step_shared session next event stepped with same | ⟨call, joined⟩ | ⟨id, executed, settled⟩ |
    ran
  · rw [same]
    exact .refl _
  · rw [joined]
    exact .join sound.shared call
  · exact .settle id _ _ settled
  · exact .ran sound.shared _ ran

/-- Every event keeps the invariant. -/
theorem Sound.step (session next : Session) (sound : session.Sound configuration)
    (event : ClientEvent) (stepped : session.step configuration event = some next) :
    next.Sound configuration := by
  rcases step_shared session next event stepped with same | ⟨call, joined⟩ | ⟨id, executed, settled⟩ |
    ran
  · exact ⟨same ▸ sound.shared, by rw [same]; exact sound.negotiated⟩
  · refine ⟨joined ▸ sound.shared.join call, fun other negotiated won => ?_⟩
    rw [joined, Shared.join, Shared.await_outcome, Shared.ensure_outcome] at won
    exact sound.negotiated other negotiated won
  · refine ⟨sound.shared.settle id _ _ settled, fun other negotiated won => ?_⟩
    rw [session.shared.settle_outcome id _ _ settled] at won
    split at won
    · rw [Option.some.injEq] at won
      exact bootstrap_ok _ executed negotiated won
    · exact sound.negotiated other negotiated won
  · refine ⟨sound.shared.ran _ ran, fun other negotiated won => ?_⟩
    rw [session.shared.runJob_outcome _ ran] at won
    exact sound.negotiated other negotiated won

/-- What a resumed call sends is authorised. -/
theorem resumption_authorised (session : Session) (sound : session.Sound configuration)
    (sent : Sent) (member : sent ∈ resumption configuration session.shared) :
    session.Authorised configuration sent := by
  unfold resumption at member
  split at member
  · split at member
    · next caller _ =>
      split at member
      · next transmission proceeds =>
        rw [List.mem_singleton.mp member]
        rw [Option.map_eq_some_iff] at proceeds
        obtain ⟨outcome, settled, continued⟩ := proceeds
        cases outcome with
        | error thrown => cases continued
        | ok negotiated =>
          obtain ⟨metadata, agreed⟩ := sound.negotiated _ negotiated settled
          exact Or.inr ⟨caller.attempt, metadata, negotiated, rfl, settled, agreed⟩
      · cases member
    · cases member
  · cases member

/-- Every event sends authorised requests only. -/
theorem step_sent (session next : Session) (sound : session.Sound configuration)
    (event : ClientEvent) (stepped : session.step configuration event = some next) :
    ∃ new, next.sent = session.sent ++ new ∧ ∀ sent ∈ new, session.Authorised configuration sent := by
  cases event with
  | call call =>
    cases call with
    | request operationId input =>
      simp only [step] at stepped
      split at stepped
      · next reads =>
        cases stepped
        refine ⟨direct configuration operationId input, rfl, fun sent member => ?_⟩
        unfold direct at member
        split at member
        · next transmission prepared =>
          rw [List.mem_singleton.mp member]
          exact Or.inl ⟨rfl, (execute_operation _ _ _ _ prepared).trans reads⟩
        · cases member
      · cases stepped
        exact ⟨[], by simp, by simp⟩
    | commandVersion commandType =>
      cases stepped
      exact ⟨[], by simp, by simp⟩
    | negotiatedApiVersion =>
      cases stepped
      exact ⟨[], by simp, by simp⟩
  | bootstrapped id executed =>
    simp only [step, Option.map_eq_some_iff] at stepped
    obtain ⟨shared, settled, rfl⟩ := stepped
    exact ⟨[], by simp, by simp⟩
  | job =>
    simp only [step, Option.map_eq_some_iff] at stepped
    obtain ⟨shared, ran, rfl⟩ := stepped
    exact ⟨_, rfl, resumption_authorised session sound⟩

/-- Every sequence of events keeps the invariant and extends the shared negotiation. -/
theorem steps_extends (events : List ClientEvent) (session last : Session)
    (sound : session.Sound configuration) (ran : session.steps configuration events = some last) :
    last.Sound configuration ∧ Shared.Extends session.shared last.shared := by
  induction events generalizing session with
  | nil =>
    cases ran
    exact ⟨sound, .refl _⟩
  | cons event events inductionHypothesis =>
    rw [steps, Option.bind_eq_some_iff] at ran
    obtain ⟨next, stepped, rest⟩ := ran
    obtain ⟨kept, extended⟩ := inductionHypothesis next (sound.step session next event stepped) rest
    exact ⟨kept, (step_extends session next sound event stepped).trans extended⟩

/-- The queue runs empty. -/
theorem drains (session : Session) :
    ∃ last, session.steps configuration (List.replicate session.shared.jobs.length .job) =
      some last ∧ last.shared.jobs = [] := by
  generalize length : session.shared.jobs.length = count
  induction count generalizing session with
  | zero => exact ⟨session, rfl, List.eq_nil_of_length_eq_zero length⟩
  | succ count inductionHypothesis =>
    have queued : session.shared.jobs ≠ [] := List.ne_nil_of_length_pos (by omega)
    obtain ⟨shared, ran⟩ := Shared.runJob_some queued
    have shorter := Shared.runJob_length shared ran
    obtain ⟨last, rest, idle⟩ := inductionHypothesis
      ⟨shared, session.sent ++ resumption configuration session.shared⟩ (by dsimp only; omega)
    refine ⟨last, ?_, idle⟩
    rw [List.replicate_succ, steps, step, ran]
    exact rest

/-- A new client satisfies the invariant. -/
theorem initial_sound : (initial : Session).Sound configuration where
  shared := Shared.initial_sound
  negotiated := by simp [initial, Shared.initial, Shared.outcome]

/-- Whatever calls are made in whatever order, and however their bootstraps end, a client has a
single negotiation in flight. -/
theorem negotiation_single_flight (configuration : Configuration) (events : List ClientEvent)
    (session : Session) (ran : initial.steps configuration events = some session) :
    session.SingleFlight configuration := by
  have sound := (steps_extends events initial session initial_sound ran).1
  constructor
  · exact sound.shared.inFlight_unique
  · exact fun event next stepped => step_sent session next sound event stepped
  · exact fun caller member => (sound.shared.answered caller member).2
  · have drained : ∃ last, session.steps configuration
        (List.replicate session.shared.jobs.length .job) = some last ∧ last.shared.jobs = [] :=
      drains session
    obtain ⟨last, drained, idle⟩ := drained
    obtain ⟨kept, extended⟩ := steps_extends _ session last sound drained
    refine ⟨last, drained, fun index caller result there settled => ?_⟩
    obtain ⟨later, stays, call, attempt, _⟩ := extended.callers index caller there
    refine ⟨later, stays, call, ?_⟩
    rw [kept.shared.settled idle later (List.mem_of_getElem? stays), attempt]
    exact extended.outcomes _ result settled
  · intro events last continued caller member error lost index later present beyond same
    have extended := (steps_extends events session last sound continued).2
    have gone := sound.shared.forgotten caller member error lost
    exact extended.fresh index later present beyond (same ▸ gone)
  · intro events last continued id negotiated won
    exact (steps_extends events session last sound continued).2.final id negotiated won

namespace Sample

/-- The operation that reads the version of the server. -/
def versionOperation : Text := literal "version_api_v1_version_get"

/-- A client of two operations without input. -/
def generated : Configuration where
  operations :=
    [(contractOperation, ⟨none, none, false, literal "GET", literal "/api/contract", []⟩),
      (versionOperation, ⟨none, none, false, literal "GET", literal "/api/v1/version", []⟩)]
  components := []
  regExps := ⟨fun _ => true, fun _ _ => true⟩
  depth := 0
  support := ⟨⟨1, 1⟩, [], List.nodup_nil⟩
  csrfToken := []

/-- A contract of the only version. -/
def metadata : ContractDiscovery Text := ⟨"1", ⟨⟨1, 1⟩, 1⟩, []⟩

/-- Two calls share a bootstrap that fails; a third one starts another, which succeeds, and a
fourth one shares that. -/
def events : List ClientEvent :=
  [.call (.request versionOperation (.object [])), .call .negotiatedApiVersion,
    .bootstrapped 0 (.error (.client ⟨.network, "network_error",
      "The Trax OS API could not be reached.", some contractOperation⟩)),
    .job, .job, .job, .call (.request versionOperation (.object [])), .bootstrapped 1 (.ok metadata),
    .job, .call (.request versionOperation (.object [])), .job, .job]

end Sample

/-- Two bootstraps, and the two requests that were sent under the second one. -/
theorem negotiation_single_flight_shared :
    ∃ session, initial.steps Sample.generated Sample.events = some session ∧
      session.shared.attempts.length = 2 ∧
        session.sent.map (fun sent => (sent.transmission.operationId, sent.negotiation)) =
          [(Sample.versionOperation, some 1), (Sample.versionOperation, some 1)] ∧
        session.SingleFlight Sample.generated := by
  have made : (initial.steps Sample.generated Sample.events).map
      (fun session => (session.shared.attempts.length,
        session.sent.map fun sent => (sent.transmission.operationId, sent.negotiation))) =
      some (2, [(Sample.versionOperation, some 1), (Sample.versionOperation, some 1)]) := by
    decide +kernel
  obtain ⟨session, ran, observed⟩ := Option.map_eq_some_iff.mp made
  rw [Prod.mk.injEq] at observed
  exact ⟨session, ran, observed.1, observed.2, negotiation_single_flight _ _ session ran⟩

end Session

end TraxOs.ApiClient
