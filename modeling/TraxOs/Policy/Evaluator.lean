import TraxOs.Theory.Wildcards

/-!
# The access policy evaluator

The evaluator that decides the shared policy cases: one input carries the resource's
scope, owner and audience, the access basis of the caller, the role, the grant and
the restrictions of the resource policy, OAuth and the origin, and `evaluate` turns
it into a decision with the fields that the caller may see or write.

A vocabulary that the evaluator compares with known words has a constructor for
each word and one for every other text. The two names that fixtures carry and the
evaluator never reads, those of the case and of the origin, are left out.
-/

namespace TraxOs.Policy

open TraxOs.Theory

/-- The list entry that permits every operation or field. -/
def wildcard : String := "*"

/-- The audience that a resource is classified for. -/
inductive Audience where
  | agencyInternal
  | journeyShared
  | partyShared
  | travelerPrivate
  | other (name : String)
deriving DecidableEq, Repr

/-- The kind of owner of a resource. -/
inductive OwnerType where
  | agency
  | workspace
  | journey
  | party
  | traveler
  | other (name : String)
deriving DecidableEq, Repr

/-- How the caller is related to the resource. -/
inductive Relationship where
  | agencyStaff
  | journeyMember
  | exactPartyMember
  | selfTraveler
  | guardian
  | other (name : String)
deriving DecidableEq, Repr

/-- What the caller's access rests on. -/
inductive BasisKind where
  | userMembership
  | supportSession
  | systemExecution
  | other (name : String)
deriving DecidableEq, Repr

/-- The state of an access basis or of a grant. -/
inductive LifecycleState where
  | active
  | other (name : String)
deriving DecidableEq, Repr

/-- The owner of a resource with its discriminators. -/
structure Owner where
  type : OwnerType
  journeyId : Option String
  partyId : Option String
  travelerId : Option String
deriving DecidableEq, Repr

/-- Which scopes of the request and of the owner match. -/
structure Scope where
  workspaceMatch : Bool
  journeyMatch : Bool
  resourceActive : Bool
  ownerWorkspaceMatch : Bool
  ownerJourneyMatch : Bool
  partyJourneyMatch : Bool
  travelerJourneyMatch : Bool
deriving DecidableEq, Repr

/-- The access basis. The allowlist and its fields are read for support sessions and
system executions only. -/
structure AccessBasis where
  kind : BasisKind
  state : LifecycleState
  active : Bool
  authenticated : Bool
  selectedScope : Bool
  representedUserMatch : Bool
  strongAuth : Bool
  reasonPresent : Bool
  operationAllowlist : List String
  fields : List String
deriving DecidableEq, Repr

/-- Lists of operations and fields: those of a role, a resource policy or an
origin. -/
structure Allowance where
  operations : List String
  fields : List String
deriving DecidableEq, Repr

/-- A grant of one resource to one person. -/
structure Grant where
  state : LifecycleState
  granteeMatch : Bool
  resourceMatch : Bool
  scopeMatch : Bool
  operations : List String
  fields : List String
  purposeRequired : Bool
  purposePresent : Bool
  purposeMatch : Bool
  delegationValid : Bool
deriving DecidableEq, Repr

/-- The OAuth scopes, which restrict a request made through OAuth. -/
structure OAuth where
  applicable : Bool
  operations : List String
  fields : List String
deriving DecidableEq, Repr

/-- The operation asked for and the fields it concerns. -/
structure Request where
  operation : String
  fields : List String
deriving DecidableEq, Repr

/-- What an allowed request entails. -/
structure Effects where
  confirmationRequired : Bool
  sensitiveRead : Bool
deriving DecidableEq, Repr

/-- The input of one evaluation. -/
structure EvaluationInput where
  owner : Owner
  scope : Scope
  audience : Audience
  relationship : Relationship
  accessBasis : AccessBasis
  explicitDeny : Bool
  resourcePolicy : Allowance
  role : Allowance
  grant : Grant
  oauth : OAuth
  origin : Allowance
  request : Request
  effects : Effects
deriving DecidableEq, Repr

/-- Why a request is decided as it is. -/
inductive Reason where
  | invariantFailed
  | accessBasisInactive
  | explicitDeny
  | noAuthorizationPath
  | oauthScopeReduced
  | originNotAllowed
  | fieldForbidden
  | allowed
deriving DecidableEq, Repr

/-- The outcome of one evaluation. -/
structure Decision where
  allowed : Bool
  allowedFields : List String
  reason : Reason
  confirmationRequired : Bool
  sensitiveReadAudit : Bool
deriving DecidableEq, Repr

/-- `permits`. -/
def permits (values : List String) (value : String) : Bool :=
  Wildcards.permits wildcard values value

/-- `allowedFields`. -/
def allowedFields (requested : List String) (fieldSets : List (List String)) : List String :=
  Wildcards.restrict wildcard requested fieldSets

/-- `unionFields`. -/
def unionFields (fieldSets : List (List String)) : List String :=
  Wildcards.union wildcard fieldSets

/-- `validOwnerAudience`. -/
def validOwnerAudience (input : EvaluationInput) : Bool :=
  let noParty := input.owner.partyId.isNone
  let noTraveler := input.owner.travelerId.isNone
  match input.audience with
  | .agencyInternal =>
    let permittedOwner := [OwnerType.agency, .workspace, .journey].contains input.owner.type
    let journeyOwnerIsScoped := input.owner.type != .journey || input.owner.journeyId.isSome
    permittedOwner && journeyOwnerIsScoped && noParty && noTraveler
  | .journeyShared =>
    input.owner.type == .journey && input.owner.journeyId.isSome && noParty && noTraveler
  | .partyShared =>
    input.owner.type == .party && input.owner.journeyId.isSome && input.owner.partyId.isSome &&
      noTraveler
  | .travelerPrivate =>
    input.owner.type == .traveler && input.owner.journeyId.isSome && noParty &&
      input.owner.travelerId.isSome
  | .other _ => false

/-- `validAccessBasis`. -/
def validAccessBasis (input : EvaluationInput) : Bool :=
  let basis := input.accessBasis
  if basis.state != .active || !basis.active || !basis.authenticated || !basis.selectedScope then
    false
  else
    match basis.kind with
    | .userMembership => basis.representedUserMatch
    | .supportSession => basis.strongAuth && basis.reasonPresent
    | .systemExecution => true
    | .other _ => false

/-- `audienceAllows`. An unknown audience has failed the owner check before. -/
def audienceAllows (input : EvaluationInput) : Bool :=
  let relationships : List Relationship :=
    match input.audience with
    | .agencyInternal => [.agencyStaff]
    | .journeyShared => [.journeyMember]
    | .partyShared => [.exactPartyMember]
    | .travelerPrivate => [.selfTraveler, .guardian]
    | .other _ => []
  relationships.contains input.relationship

/-- `validGrant`. -/
def validGrant (input : EvaluationInput) : Bool :=
  let grant := input.grant
  input.accessBasis.kind == .userMembership && grant.state == .active && grant.granteeMatch &&
    grant.resourceMatch && grant.scopeMatch && permits grant.operations input.request.operation &&
    (!grant.purposeRequired || (grant.purposePresent && grant.purposeMatch)) &&
    grant.delegationValid

/-- `decision`. -/
def decision (allowed : Bool) (allowedFieldsResult : List String) (reason : Reason)
    (input : EvaluationInput) : Decision :=
  { allowed := allowed
    allowedFields := allowedFieldsResult
    reason := reason
    confirmationRequired := allowed && input.effects.confirmationRequired
    sensitiveReadAudit :=
      allowed && input.request.operation == "read" && input.effects.sensitiveRead }

/-- `resourceAllowsOperation` of `evaluate`. -/
def resourceAllowsOperation (input : EvaluationInput) : Bool :=
  permits input.resourcePolicy.operations input.request.operation

/-- `basePath` of `evaluate`. -/
def basePath (input : EvaluationInput) : Bool :=
  input.accessBasis.kind == .userMembership && resourceAllowsOperation input &&
    permits input.role.operations input.request.operation && audienceAllows input

/-- `grantPath` of `evaluate`. -/
def grantPath (input : EvaluationInput) : Bool :=
  resourceAllowsOperation input && validGrant input

/-- `privilegedPath` of `evaluate`. -/
def privilegedPath (input : EvaluationInput) : Bool :=
  let privilegedBasis :=
    [BasisKind.supportSession, .systemExecution].contains input.accessBasis.kind
  resourceAllowsOperation input && privilegedBasis &&
    permits input.accessBasis.operationAllowlist input.request.operation

/-- `projected` of `evaluate`. -/
def projected (input : EvaluationInput) : List String :=
  let pathFields := unionFields
    ((if basePath input then [input.role.fields] else []) ++
      (if grantPath input then [input.grant.fields] else []) ++
      (if privilegedPath input then [input.accessBasis.fields] else []))
  let oauthFields := if input.oauth.applicable then input.oauth.fields else [wildcard]
  allowedFields input.request.fields
    [pathFields, input.resourcePolicy.fields, oauthFields, input.origin.fields]

/-- The first condition of `evaluate`: a scope that does not match, or an owner that
does not fit the audience. -/
def invariantFails (input : EvaluationInput) : Bool :=
  !input.scope.workspaceMatch || !input.scope.journeyMatch || !input.scope.resourceActive ||
    !input.scope.ownerWorkspaceMatch || !input.scope.ownerJourneyMatch ||
    !input.scope.partyJourneyMatch || !input.scope.travelerJourneyMatch ||
    !validOwnerAudience input

/-- `evaluate`. -/
def evaluate (input : EvaluationInput) : Decision :=
  let operation := input.request.operation
  if invariantFails input then
    decision false [] .invariantFailed input
  else if !validAccessBasis input then
    decision false [] .accessBasisInactive input
  else if input.explicitDeny then
    decision false [] .explicitDeny input
  else if !basePath input && !grantPath input && !privilegedPath input then
    decision false [] .noAuthorizationPath input
  else if input.oauth.applicable && !permits input.oauth.operations operation then
    decision false [] .oauthScopeReduced input
  else if !permits input.origin.operations operation then
    decision false [] .originNotAllowed input
  else if operation != "read" && (projected input).length != input.request.fields.length then
    decision false [] .fieldForbidden input
  else if 0 < input.request.fields.length && (projected input).length == 0 then
    decision false [] .fieldForbidden input
  else
    decision true (projected input) .allowed input

end TraxOs.Policy
