import TraxOs.Policy.Evaluator

/-!
# The access policy algebra

What the evaluator is for, in the terms of the decision record: invariants, one
access basis, no deny, a resource policy, independent paths whose fields are united,
and the restrictions of OAuth and the origin, each of which intersects. `Admitted`
and `remainder` state it with sets, for any set of paths; the paths that hold are
one such set.

The evaluator decides exactly by this algebra. Each of its predicates is shown to be
the corresponding condition, and the projection to be the intersection with the
remainder.
-/

namespace TraxOs.Policy

open TraxOs.Theory

/-- The operations or fields that a list of the policy permits. -/
abbrev permitted (values : List String) : Set String :=
  Wildcards.permitted wildcard values

theorem permits_iff (values : List String) (value : String) :
    permits values value = true ↔ value ∈ permitted values :=
  Wildcards.permits_iff wildcard values value

/-- The matrix of audiences and owners, with the discriminators that each owner has
and must not have. -/
inductive OwnerFits : Audience → Owner → Prop where
  | agency (journeyId : Option String) :
      OwnerFits .agencyInternal ⟨.agency, journeyId, none, none⟩
  | workspace (journeyId : Option String) :
      OwnerFits .agencyInternal ⟨.workspace, journeyId, none, none⟩
  | agencyJourney (journeyId : String) :
      OwnerFits .agencyInternal ⟨.journey, some journeyId, none, none⟩
  | journey (journeyId : String) :
      OwnerFits .journeyShared ⟨.journey, some journeyId, none, none⟩
  | party (journeyId partyId : String) :
      OwnerFits .partyShared ⟨.party, some journeyId, some partyId, none⟩
  | traveler (journeyId travelerId : String) :
      OwnerFits .travelerPrivate ⟨.traveler, some journeyId, none, some travelerId⟩

/-- The relationships that satisfy an audience. -/
inductive Related : Audience → Relationship → Prop where
  | staff : Related .agencyInternal .agencyStaff
  | member : Related .journeyShared .journeyMember
  | party : Related .partyShared .exactPartyMember
  | self : Related .travelerPrivate .selfTraveler
  | guardian : Related .travelerPrivate .guardian

/-- Every scope of the request belongs to the resource. -/
structure Scope.Matches (scope : Scope) : Prop where
  workspace : scope.workspaceMatch = true
  journey : scope.journeyMatch = true
  active : scope.resourceActive = true
  ownerWorkspace : scope.ownerWorkspaceMatch = true
  ownerJourney : scope.ownerJourneyMatch = true
  partyJourney : scope.partyJourneyMatch = true
  travelerJourney : scope.travelerJourneyMatch = true

/-- The invariants that nothing configures. -/
structure InvariantsHold (input : EvaluationInput) : Prop where
  scope : input.scope.Matches
  owner : OwnerFits input.audience input.owner

/-- What each kind of access basis must establish. -/
def AccessBasis.Established (basis : AccessBasis) : Prop :=
  match basis.kind with
  | .userMembership => basis.representedUserMatch = true
  | .supportSession => basis.strongAuth = true ∧ basis.reasonPresent = true
  | .systemExecution => True
  | .other _ => False

/-- A valid access basis. -/
structure AccessBasis.Valid (basis : AccessBasis) : Prop where
  state : basis.state = .active
  active : basis.active = true
  authenticated : basis.authenticated = true
  selectedScope : basis.selectedScope = true
  established : basis.Established

/-- A valid resource grant for an operation. -/
structure Grant.Valid (grant : Grant) (operation : String) : Prop where
  active : grant.state = .active
  grantee : grant.granteeMatch = true
  resource : grant.resourceMatch = true
  scope : grant.scopeMatch = true
  operation : operation ∈ permitted grant.operations
  purpose : grant.purposeRequired = true → grant.purposePresent = true ∧ grant.purposeMatch = true
  delegation : grant.delegationValid = true

/-- The independent paths by which a request is authorised: a role together with its
audience, a resource grant, and the allowlist of a support session or system
execution. -/
inductive Path where
  | ordinary
  | granted
  | allowlisted
deriving DecidableEq, Repr

/-- When a path holds. The first two are open to members only. -/
def Path.Holds (input : EvaluationInput) : Path → Prop
  | .ordinary =>
    input.accessBasis.kind = .userMembership ∧
      input.request.operation ∈ permitted input.role.operations ∧
      Related input.audience input.relationship
  | .granted =>
    input.accessBasis.kind = .userMembership ∧ input.grant.Valid input.request.operation
  | .allowlisted =>
    (input.accessBasis.kind = .supportSession ∨ input.accessBasis.kind = .systemExecution) ∧
      input.request.operation ∈ permitted input.accessBasis.operationAllowlist

/-- The fields that a path opens. -/
def Path.fields (input : EvaluationInput) : Path → Set String
  | .ordinary => permitted input.role.fields
  | .granted => permitted input.grant.fields
  | .allowlisted => permitted input.accessBasis.fields

/-- The paths that hold. -/
def holding (input : EvaluationInput) : Set Path :=
  { path | path.Holds input }

/-- What OAuth leaves of a set of operations or fields. -/
def oauthRange (oauth : OAuth) (values : List String) : Set String :=
  { value | oauth.applicable = true → value ∈ permitted values }

/-- The fields open to a request on some paths: the union of what the paths open,
within the resource policy, OAuth and the origin. -/
def remainder (input : EvaluationInput) (paths : Set Path) : Set String :=
  (⋃ path ∈ paths, path.fields input) ∩ permitted input.resourcePolicy.fields ∩
    oauthRange input.oauth input.oauth.fields ∩ permitted input.origin.fields

/-- The rule for fields. A mutation needs every field it names; a read needs one of
them, unless it names none. -/
def FieldsSuffice (input : EvaluationInput) (open_fields : Set String) : Prop :=
  if input.request.operation = "read" then
    input.request.fields = [] ∨ ∃ field ∈ input.request.fields, field ∈ open_fields
  else ∀ field ∈ input.request.fields, field ∈ open_fields

/-- The normative allow expression, with some paths. -/
structure Admitted (input : EvaluationInput) (paths : Set Path) : Prop where
  invariants : InvariantsHold input
  basis : input.accessBasis.Valid
  undenied : input.explicitDeny = false
  resource : input.request.operation ∈ permitted input.resourcePolicy.operations
  path : paths.Nonempty
  oauth : input.request.operation ∈ oauthRange input.oauth input.oauth.operations
  origin : input.request.operation ∈ permitted input.origin.operations
  fields : FieldsSuffice input (remainder input paths)

/-- A decision is the one that the algebra gives for some paths. -/
structure Decides (input : EvaluationInput) (paths : Set Path) (decision : Decision) : Prop where
  allows : decision.allowed = true ↔ Admitted input paths
  projects : decision.allowed = true →
    { field | field ∈ decision.allowedFields } =
      { field | field ∈ input.request.fields } ∩ remainder input paths
  refuses : decision.allowed = false → decision.allowedFields = []
  confirms : decision.confirmationRequired =
    (decision.allowed && input.effects.confirmationRequired)
  audits : decision.sensitiveReadAudit =
    (decision.allowed && input.request.operation == "read" && input.effects.sensitiveRead)

/-! ## The predicates of the evaluator -/

/-- The owner check is the matrix of audiences and owners. -/
theorem validOwnerAudience_iff (input : EvaluationInput) :
    validOwnerAudience input = true ↔ OwnerFits input.audience input.owner := by
  obtain ⟨⟨type, journeyId, partyId, travelerId⟩, _, audience, _⟩ := input
  constructor
  · intro valid
    cases audience with
    | agencyInternal =>
      simp only [validOwnerAudience, Bool.and_eq_true, Option.isNone_iff_eq_none,
        List.contains_eq_mem, List.mem_cons, List.not_mem_nil, or_false, decide_eq_true_eq,
        Bool.or_eq_true, bne_iff_ne] at valid
      obtain ⟨⟨⟨owned, placed⟩, rfl⟩, rfl⟩ := valid
      rcases owned with rfl | rfl | rfl
      · exact .agency journeyId
      · exact .workspace journeyId
      · obtain ⟨journey, rfl⟩ := Option.isSome_iff_exists.mp
          (placed.resolve_left fun differs => differs rfl)
        exact .agencyJourney journey
    | journeyShared =>
      simp only [validOwnerAudience, Bool.and_eq_true, Option.isNone_iff_eq_none,
        beq_iff_eq] at valid
      obtain ⟨⟨⟨rfl, placed⟩, rfl⟩, rfl⟩ := valid
      obtain ⟨journey, rfl⟩ := Option.isSome_iff_exists.mp placed
      exact .journey journey
    | partyShared =>
      simp only [validOwnerAudience, Bool.and_eq_true, Option.isNone_iff_eq_none,
        beq_iff_eq] at valid
      obtain ⟨⟨⟨rfl, placed⟩, parted⟩, rfl⟩ := valid
      obtain ⟨journey, rfl⟩ := Option.isSome_iff_exists.mp placed
      obtain ⟨party, rfl⟩ := Option.isSome_iff_exists.mp parted
      exact .party journey party
    | travelerPrivate =>
      simp only [validOwnerAudience, Bool.and_eq_true, Option.isNone_iff_eq_none,
        beq_iff_eq] at valid
      obtain ⟨⟨⟨rfl, placed⟩, rfl⟩, traveling⟩ := valid
      obtain ⟨journey, rfl⟩ := Option.isSome_iff_exists.mp placed
      obtain ⟨traveler, rfl⟩ := Option.isSome_iff_exists.mp traveling
      exact .traveler journey traveler
    | other name => simp [validOwnerAudience] at valid
  · intro fits
    cases fits <;> simp [validOwnerAudience]

/-- The audience check is the table of relationships. -/
theorem audienceAllows_iff (input : EvaluationInput) :
    audienceAllows input = true ↔ Related input.audience input.relationship := by
  obtain ⟨_, _, audience, relationship, _⟩ := input
  constructor
  · intro allows
    cases audience <;> simp [audienceAllows] at allows
    case agencyInternal => exact allows ▸ .staff
    case journeyShared => exact allows ▸ .member
    case partyShared => exact allows ▸ .party
    case travelerPrivate =>
      rcases allows with rfl | rfl
      · exact .self
      · exact .guardian
  · intro related
    cases related <;> simp [audienceAllows]

/-- The first check fails exactly when an invariant does not hold. -/
theorem invariantFails_iff (input : EvaluationInput) :
    invariantFails input = false ↔ InvariantsHold input := by
  constructor
  · intro holds
    simp only [invariantFails, Bool.or_eq_false_iff, Bool.not_eq_false'] at holds
    obtain ⟨⟨⟨⟨⟨⟨⟨workspace, journey⟩, active⟩, ownerWorkspace⟩, ownerJourney⟩, partyJourney⟩,
      travelerJourney⟩, owner⟩ := holds
    exact ⟨⟨workspace, journey, active, ownerWorkspace, ownerJourney, partyJourney,
      travelerJourney⟩, (validOwnerAudience_iff input).mp owner⟩
  · rintro ⟨scope, owner⟩
    simp [invariantFails, scope.workspace, scope.journey, scope.active, scope.ownerWorkspace,
      scope.ownerJourney, scope.partyJourney, scope.travelerJourney,
      (validOwnerAudience_iff input).mpr owner]

/-- The check of the access basis. -/
theorem validAccessBasis_iff (input : EvaluationInput) :
    validAccessBasis input = true ↔ input.accessBasis.Valid := by
  constructor
  · intro valid
    simp only [validAccessBasis] at valid
    split at valid
    · cases valid
    · rename_i usable
      simp only [Bool.or_eq_true, bne_iff_ne, Bool.not_eq_true', not_or, not_not,
        Bool.not_eq_false] at usable
      obtain ⟨⟨⟨state, active⟩, authenticated⟩, selectedScope⟩ := usable
      refine ⟨state, active, authenticated, selectedScope, ?_⟩
      unfold AccessBasis.Established
      cases kind : input.accessBasis.kind <;> simp_all
  · rintro ⟨state, active, authenticated, selectedScope, established⟩
    unfold AccessBasis.Established at established
    simp only [validAccessBasis]
    cases kind : input.accessBasis.kind <;> simp_all

/-- The check of a grant, for a member. -/
theorem validGrant_iff (input : EvaluationInput) :
    validGrant input = true ↔ Path.granted.Holds input := by
  constructor
  · intro valid
    simp only [validGrant, Bool.and_eq_true, beq_iff_eq, permits_iff, Bool.or_eq_true,
      Bool.not_eq_true'] at valid
    obtain ⟨⟨⟨⟨⟨⟨⟨member, active⟩, grantee⟩, resource⟩, scope⟩, operation⟩, purpose⟩,
      delegation⟩ := valid
    refine ⟨member, active, grantee, resource, scope, operation, ?_, delegation⟩
    intro required
    exact purpose.resolve_left fun waived => absurd (required.symm.trans waived) (by decide)
  · rintro ⟨member, active, grantee, resource, scope, operation, purpose, delegation⟩
    have met : (!input.grant.purposeRequired ||
        (input.grant.purposePresent && input.grant.purposeMatch)) = true := by
      cases required : input.grant.purposeRequired with
      | false => rfl
      | true => simp [purpose required]
    simp [validGrant, member, active, grantee, resource, scope, (permits_iff _ _).mpr operation,
      met, delegation]

section Paths

variable (input : EvaluationInput)
variable (admits : input.request.operation ∈ permitted input.resourcePolicy.operations)

include admits

/-- Where the resource policy admits the operation, the evaluator's base path is the
ordinary path. -/
theorem basePath_iff : basePath input = true ↔ Path.ordinary.Holds input := by
  simp [basePath, resourceAllowsOperation, permits_iff, admits, Path.Holds, audienceAllows_iff,
    and_assoc]

theorem grantPath_iff : grantPath input = true ↔ Path.granted.Holds input := by
  simp [grantPath, resourceAllowsOperation, permits_iff, admits, validGrant_iff]

theorem privilegedPath_iff : privilegedPath input = true ↔ Path.allowlisted.Holds input := by
  simp [privilegedPath, resourceAllowsOperation, permits_iff, admits, Path.Holds]

/-- The lists of the paths that the evaluator unites open what the paths open. -/
theorem permitted_pathFields :
    permitted (unionFields
        ((if basePath input then [input.role.fields] else []) ++
          (if grantPath input then [input.grant.fields] else []) ++
          (if privilegedPath input then [input.accessBasis.fields] else []))) =
      ⋃ path ∈ holding input, path.fields input := by
  unfold unionFields permitted
  rw [Wildcards.permitted_union]
  ext field
  simp only [Set.mem_iUnion₂, exists_prop]
  constructor
  · rintro ⟨values, member, inside⟩
    rw [List.mem_append, List.mem_append] at member
    rcases member with (member | member) | member
    · split at member
      · rename_i taken
        cases List.mem_singleton.mp member
        exact ⟨.ordinary, (basePath_iff input admits).mp taken, inside⟩
      · cases member
    · split at member
      · rename_i taken
        cases List.mem_singleton.mp member
        exact ⟨.granted, (grantPath_iff input admits).mp taken, inside⟩
      · cases member
    · split at member
      · rename_i taken
        cases List.mem_singleton.mp member
        exact ⟨.allowlisted, (privilegedPath_iff input admits).mp taken, inside⟩
      · cases member
  · rintro ⟨path, holds, inside⟩
    cases path with
    | ordinary =>
      have taken := (basePath_iff input admits).mpr holds
      exact ⟨input.role.fields, by simp [taken], inside⟩
    | granted =>
      have taken := (grantPath_iff input admits).mpr holds
      exact ⟨input.grant.fields, by simp [taken], inside⟩
    | allowlisted =>
      have taken := (privilegedPath_iff input admits).mpr holds
      exact ⟨input.accessBasis.fields, by simp [taken], inside⟩

/-- The projection is the intersection of the request with the remainder. -/
theorem mem_projected (field : String) :
    field ∈ projected input ↔
      field ∈ input.request.fields ∧ field ∈ remainder input (holding input) := by
  have throughOAuth : (field ∈ permitted
      (if input.oauth.applicable then input.oauth.fields else [wildcard])) ↔
      field ∈ oauthRange input.oauth input.oauth.fields := by
    cases applicable : input.oauth.applicable with
    | false => simp [oauthRange, applicable, Wildcards.permitted]
    | true => simp [oauthRange, applicable]
  simp only [projected, allowedFields, Wildcards.mem_restrict, List.forall_mem_cons,
    List.not_mem_nil, false_imp_iff, implies_true, and_true, throughOAuth,
    permitted_pathFields input admits, remainder, Set.mem_inter_iff, and_assoc]

/-- The two field checks of the evaluator are the rule for fields. -/
theorem fields_suffice_iff :
    ((input.request.operation != "read" &&
          (projected input).length != input.request.fields.length) = false ∧
        (decide (0 < input.request.fields.length) && (projected input).length == 0) = false) ↔
      FieldsSuffice input (remainder input (holding input)) := by
  have member := mem_projected input admits
  have whole : (projected input).length = input.request.fields.length ↔
      ∀ field ∈ input.request.fields, field ∈ remainder input (holding input) := by
    constructor
    · intro same field requested
      have kept : projected input = input.request.fields := Wildcards.restrict_whole _ _ _ same
      exact ((member field).mp (kept ▸ requested)).2
    · intro inside
      refine (Wildcards.restrict_length _ _ _).mpr ?_
      intro field requested values among
      have projects := (member field).mpr ⟨requested, inside field requested⟩
      exact ((Wildcards.mem_restrict _ _ _ _).mp projects).2 values among
  have empty : (projected input).length = 0 ↔
      ∀ field ∈ input.request.fields, field ∉ remainder input (holding input) := by
    rw [List.length_eq_zero_iff, List.eq_nil_iff_forall_not_mem]
    simp only [member, not_and]
  unfold FieldsSuffice
  by_cases read : input.request.operation = "read"
  · rw [if_pos read]
    simp only [read, bne_self_eq_false, Bool.false_and, true_and, Bool.and_eq_false_iff,
      decide_eq_false_iff_not, beq_eq_false_iff_ne, ne_eq, empty, Nat.not_lt, Nat.le_zero,
      List.length_eq_zero_iff, not_forall, not_not, exists_prop]
  · rw [if_neg read, ← whole]
    have mutates : (input.request.operation != "read") = true := by simpa using read
    simp only [mutates, Bool.true_and, bne_eq_false_iff_eq]
    constructor
    · exact And.left
    · intro same
      refine ⟨same, ?_⟩
      rw [same]
      cases input.request.fields with
      | nil => rfl
      | cons field rest => rfl

end Paths

/-! ## The decision -/

/-- A decision either refuses everything or allows the projection. -/
theorem evaluate_shape (input : EvaluationInput) :
    (∃ reason, evaluate input = decision false [] reason input) ∨
      evaluate input = decision true (projected input) .allowed input := by
  simp only [evaluate]
  split_ifs
  all_goals first | exact Or.inr rfl | exact Or.inl ⟨_, rfl⟩

/-- What the evaluator checks, in its order. -/
theorem evaluate_allows (input : EvaluationInput) :
    (evaluate input).allowed = true ↔
      invariantFails input = false ∧ validAccessBasis input = true ∧
        input.explicitDeny = false ∧
        (!basePath input && !grantPath input && !privilegedPath input) = false ∧
        (input.oauth.applicable && !permits input.oauth.operations input.request.operation) = false ∧
        permits input.origin.operations input.request.operation = true ∧
        (input.request.operation != "read" &&
          (projected input).length != input.request.fields.length) = false ∧
        (decide (0 < input.request.fields.length) && (projected input).length == 0) = false := by
  simp only [evaluate]
  split_ifs <;> simp_all [decision]

/-- Some path of the evaluator is taken exactly when the resource policy admits the
operation and some path holds. -/
theorem paths_iff (input : EvaluationInput) :
    (!basePath input && !grantPath input && !privilegedPath input) = false ↔
      input.request.operation ∈ permitted input.resourcePolicy.operations ∧
        (holding input).Nonempty := by
  by_cases admits : input.request.operation ∈ permitted input.resourcePolicy.operations
  · simp only [Bool.and_eq_false_iff, Bool.not_eq_false', basePath_iff input admits,
      grantPath_iff input admits, privilegedPath_iff input admits, admits, true_and]
    constructor
    · rintro ((holds | holds) | holds)
      · exact ⟨.ordinary, holds⟩
      · exact ⟨.granted, holds⟩
      · exact ⟨.allowlisted, holds⟩
    · rintro ⟨path, holds⟩
      cases path with
      | ordinary => exact Or.inl (Or.inl holds)
      | granted => exact Or.inl (Or.inr holds)
      | allowlisted => exact Or.inr holds
  · have refused : resourceAllowsOperation input = false := by
      rw [← Bool.not_eq_true, resourceAllowsOperation, permits_iff]
      exact admits
    simp [basePath, grantPath, privilegedPath, refused, admits]

/-- The OAuth check is the restriction by OAuth. -/
theorem oauth_iff (input : EvaluationInput) :
    (input.oauth.applicable && !permits input.oauth.operations input.request.operation) = false ↔
      input.request.operation ∈ oauthRange input.oauth input.oauth.operations := by
  cases applicable : input.oauth.applicable with
  | false => simp [oauthRange, applicable]
  | true => simp [oauthRange, applicable, permits_iff]

/-- The evaluator allows exactly the admitted requests. -/
theorem evaluate_admits (input : EvaluationInput) :
    (evaluate input).allowed = true ↔ Admitted input (holding input) := by
  rw [evaluate_allows, invariantFails_iff, validAccessBasis_iff, paths_iff, oauth_iff, permits_iff]
  constructor
  · rintro ⟨invariants, basis, undenied, ⟨resource, path⟩, oauth, origin, fields⟩
    exact ⟨invariants, basis, undenied, resource, path, oauth, origin,
      (fields_suffice_iff input resource).mp fields⟩
  · rintro ⟨invariants, basis, undenied, resource, path, oauth, origin, fields⟩
    exact ⟨invariants, basis, undenied, ⟨resource, path⟩, oauth, origin,
      (fields_suffice_iff input resource).mpr fields⟩

/-- The evaluator's decision is the one that the algebra gives for the paths that
hold. -/
theorem evaluate_decides (input : EvaluationInput) :
    Decides input (holding input) (evaluate input) := by
  refine ⟨evaluate_admits input, ?_, ?_, ?_, ?_⟩
  · intro allowed
    have admitted := (evaluate_admits input).mp allowed
    obtain ⟨reason, refused⟩ | accepted := evaluate_shape input
    · rw [refused] at allowed
      cases allowed
    · ext field
      rw [accepted]
      exact mem_projected input admitted.resource field
  · intro denied
    obtain ⟨reason, refused⟩ | accepted := evaluate_shape input
    · rw [refused]
      rfl
    · rw [accepted] at denied
      cases denied
  · obtain ⟨reason, refused⟩ | accepted := evaluate_shape input
    · rw [refused]
      rfl
    · rw [accepted]
      rfl
  · obtain ⟨reason, refused⟩ | accepted := evaluate_shape input
    · rw [refused]
      rfl
    · rw [accepted]
      rfl

/-- An allowed mutation keeps every field it names. -/
theorem mutation_whole (input : EvaluationInput) (mutates : input.request.operation ≠ "read")
    (allowed : (evaluate input).allowed = true) :
    (evaluate input).allowedFields = input.request.fields := by
  have whole : (projected input).length = input.request.fields.length := by
    have checks := (evaluate_allows input).mp allowed
    have kept := checks.2.2.2.2.2.2.1
    simpa [mutates] using kept
  obtain ⟨reason, refused⟩ | accepted := evaluate_shape input
  · rw [refused] at allowed
    cases allowed
  · rw [accepted]
    exact Wildcards.restrict_whole _ _ _ whole

/-- Where the basis is not a membership, the role, the relationship and the grant are
not looked at. -/
theorem evaluate_other_basis (input : EvaluationInput)
    (other : input.accessBasis.kind ≠ .userMembership) (role : Allowance)
    (relationship : Relationship) (grant : Grant) :
    evaluate { input with role := role, relationship := relationship, grant := grant } =
      evaluate input := by
  have notMember : (input.accessBasis.kind == .userMembership) = false := by simpa using other
  simp [evaluate, projected, basePath, grantPath, privilegedPath, validGrant, notMember,
    invariantFails, validOwnerAudience, validAccessBasis, resourceAllowsOperation, decision]

/-- The evaluator equals its normative algebra. It decides as the algebra does on the
paths that hold, never allows a mutation in part, and gives a support session or a
system execution nothing that a role, a relationship or a grant could change. -/
theorem evaluation_is_algebra (input : EvaluationInput) :
    Decides input (holding input) (evaluate input) ∧
      ((evaluate input).allowed = true → input.request.operation ≠ "read" →
        (evaluate input).allowedFields = input.request.fields) ∧
      (input.accessBasis.kind ≠ .userMembership →
        (∀ path ∈ holding input, path = .allowlisted) ∧
        ∀ role relationship grant,
          evaluate { input with role := role, relationship := relationship, grant := grant } =
            evaluate input) := by
  refine ⟨evaluate_decides input, fun allowed mutates => mutation_whole input mutates allowed, ?_⟩
  intro other
  refine ⟨?_, evaluate_other_basis input other⟩
  intro path holds
  cases path with
  | ordinary => exact absurd holds.1 other
  | granted => exact absurd holds.1 other
  | allowlisted => rfl

end TraxOs.Policy
