import TraxOs.Policy.Algebra

/-!
# Narrowing the access policy

Two evaluations compared. An input that narrows another, in the sets that its lists
permit, is never answered more generously; an input with further paths is never
answered less generously; and an input that has lost a path is answered by the
paths that remain.

The comparisons are made in the algebra, where a narrower set of fields and fewer
paths give a smaller remainder, and carried to the evaluator by the theorem that it
decides as the algebra does.
-/

namespace TraxOs.Policy

open TraxOs.Theory

/-- The second input differs from the first by narrowing only: lists that permit
less, OAuth made applicable, an explicit deny, or a grant that is no longer active.
While OAuth does not apply to the first input, its lists restrict nothing there. -/
structure Narrows (first second : EvaluationInput) : Prop where
  owner : second.owner = first.owner
  scope : second.scope = first.scope
  audience : second.audience = first.audience
  relationship : second.relationship = first.relationship
  request : second.request = first.request
  effects : second.effects = first.effects
  basis : second.accessBasis =
    { first.accessBasis with
      operationAllowlist := second.accessBasis.operationAllowlist
      fields := second.accessBasis.fields }
  allowlist : permitted second.accessBasis.operationAllowlist ⊆
    permitted first.accessBasis.operationAllowlist
  allowlistFields : permitted second.accessBasis.fields ⊆ permitted first.accessBasis.fields
  deny : first.explicitDeny = true → second.explicitDeny = true
  resourceOperations : permitted second.resourcePolicy.operations ⊆
    permitted first.resourcePolicy.operations
  resourceFields : permitted second.resourcePolicy.fields ⊆ permitted first.resourcePolicy.fields
  roleOperations : permitted second.role.operations ⊆ permitted first.role.operations
  roleFields : permitted second.role.fields ⊆ permitted first.role.fields
  grant : second.grant =
    { first.grant with
      state := second.grant.state
      operations := second.grant.operations
      fields := second.grant.fields }
  grantState : second.grant.state = first.grant.state ∨ second.grant.state ≠ .active
  grantOperations : permitted second.grant.operations ⊆ permitted first.grant.operations
  grantFields : permitted second.grant.fields ⊆ permitted first.grant.fields
  oauth : first.oauth.applicable = true → second.oauth.applicable = true
  oauthOperations : first.oauth.applicable = true →
    permitted second.oauth.operations ⊆ permitted first.oauth.operations
  oauthFields : first.oauth.applicable = true →
    permitted second.oauth.fields ⊆ permitted first.oauth.fields
  originOperations : permitted second.origin.operations ⊆ permitted first.origin.operations
  originFields : permitted second.origin.fields ⊆ permitted first.origin.fields

/-- The two inputs ask the same question of the same resource on the same basis, under
the same restrictions. Only what the paths rest on may differ: the role, the
relationship, the grant and the allowlist. -/
structure SameQuestion (first second : EvaluationInput) : Prop where
  owner : second.owner = first.owner
  scope : second.scope = first.scope
  audience : second.audience = first.audience
  basis : second.accessBasis =
    { first.accessBasis with
      operationAllowlist := second.accessBasis.operationAllowlist
      fields := second.accessBasis.fields }
  deny : second.explicitDeny = first.explicitDeny
  resourcePolicy : second.resourcePolicy = first.resourcePolicy
  oauth : second.oauth = first.oauth
  origin : second.origin = first.origin
  request : second.request = first.request
  effects : second.effects = first.effects

/-- The second input has every path of the first, opening what it opened, and
possibly others. -/
structure AddsPaths (first second : EvaluationInput) : Prop where
  question : SameQuestion first second
  kept : holding first ⊆ holding second
  opens : ∀ path ∈ holding first, path.fields second = path.fields first

/-- The second input has lost one path of the first and kept the others. -/
structure RemovesPath (first second : EvaluationInput) (path : Path) : Prop where
  question : SameQuestion first second
  remaining : holding second = holding first \ {path}
  opens : ∀ other ∈ holding second, other.fields second = other.fields first

/-! ## Monotonicity of the algebra -/

/-- A larger set of open fields suffices where a smaller one does. -/
theorem FieldsSuffice.mono {input : EvaluationInput} {smaller larger : Set String}
    (inclusion : smaller ⊆ larger) (enough : FieldsSuffice input smaller) :
    FieldsSuffice input larger := by
  unfold FieldsSuffice at *
  split at enough
  · rename_i read
    rw [if_pos read]
    rcases enough with none | ⟨field, requested, inside⟩
    · exact Or.inl none
    · exact Or.inr ⟨field, requested, inclusion inside⟩
  · rename_i mutates
    rw [if_neg mutates]
    exact fun field requested => inclusion (enough field requested)

/-- The rule for fields reads the request only. -/
theorem FieldsSuffice.of_request {first second : EvaluationInput}
    (same : second.request = first.request) {openFields : Set String}
    (enough : FieldsSuffice second openFields) : FieldsSuffice first openFields := by
  unfold FieldsSuffice at *
  rwa [same] at enough

/-- What an access basis establishes does not rest on its allowlist. -/
theorem basis_valid_iff {first second : AccessBasis}
    (same : second =
      { first with operationAllowlist := second.operationAllowlist, fields := second.fields }) :
    second.Valid ↔ first.Valid := by
  rw [same]
  constructor
  · rintro ⟨state, active, authenticated, selectedScope, established⟩
    exact ⟨state, active, authenticated, selectedScope, established⟩
  · rintro ⟨state, active, authenticated, selectedScope, established⟩
    exact ⟨state, active, authenticated, selectedScope, established⟩

namespace Narrows

variable {first second : EvaluationInput} (narrows : Narrows first second)
include narrows

/-- The kind of the basis is the same. -/
theorem kind : second.accessBasis.kind = first.accessBasis.kind := by
  rw [narrows.basis]

/-- A grant that is valid after narrowing was valid before. -/
theorem grant_valid {operation : String} (valid : second.grant.Valid operation) :
    first.grant.Valid operation := by
  have active : first.grant.state = .active := by
    rcases narrows.grantState with same | revoked
    · exact same ▸ valid.active
    · exact absurd valid.active revoked
  have terms := narrows.grant
  have kept : second.grant.granteeMatch = first.grant.granteeMatch ∧
      second.grant.resourceMatch = first.grant.resourceMatch ∧
      second.grant.scopeMatch = first.grant.scopeMatch ∧
      second.grant.purposeRequired = first.grant.purposeRequired ∧
      second.grant.purposePresent = first.grant.purposePresent ∧
      second.grant.purposeMatch = first.grant.purposeMatch ∧
      second.grant.delegationValid = first.grant.delegationValid := by
    rw [terms]
    exact ⟨rfl, rfl, rfl, rfl, rfl, rfl, rfl⟩
  obtain ⟨grantee, resource, scope, required, present, matches_, delegation⟩ := kept
  exact
    { active := active
      grantee := grantee ▸ valid.grantee
      resource := resource ▸ valid.resource
      scope := scope ▸ valid.scope
      operation := narrows.grantOperations valid.operation
      purpose := fun asked => by
        rw [← present, ← matches_]
        exact valid.purpose (required.trans asked)
      delegation := delegation ▸ valid.delegation }

/-- Narrowing opens no path. -/
theorem holding_subset : holding second ⊆ holding first := by
  intro path holds
  have holds : path.Holds second := holds
  cases path with
  | ordinary =>
    obtain ⟨member, role, related⟩ := holds
    rw [narrows.kind] at member
    rw [narrows.request] at role
    rw [narrows.audience, narrows.relationship] at related
    exact ⟨member, narrows.roleOperations role, related⟩
  | granted =>
    obtain ⟨member, valid⟩ := holds
    rw [narrows.kind] at member
    rw [narrows.request] at valid
    exact ⟨member, narrows.grant_valid valid⟩
  | allowlisted =>
    obtain ⟨privileged, listed⟩ := holds
    rw [narrows.kind] at privileged
    rw [narrows.request] at listed
    exact ⟨privileged, narrows.allowlist listed⟩

/-- Narrowing opens no field of a path. -/
theorem fields_subset (path : Path) : path.fields second ⊆ path.fields first := by
  cases path with
  | ordinary => exact narrows.roleFields
  | granted => exact narrows.grantFields
  | allowlisted => exact narrows.allowlistFields

/-- What OAuth leaves after narrowing it left before. -/
theorem oauth_operations :
    oauthRange second.oauth second.oauth.operations ⊆
      oauthRange first.oauth first.oauth.operations := by
  intro operation inside applicable
  exact narrows.oauthOperations applicable (inside (narrows.oauth applicable))

theorem oauth_fields :
    oauthRange second.oauth second.oauth.fields ⊆ oauthRange first.oauth first.oauth.fields := by
  intro field inside applicable
  exact narrows.oauthFields applicable (inside (narrows.oauth applicable))

/-- Narrowing leaves no further field open. -/
theorem remainder_subset :
    remainder second (holding second) ⊆ remainder first (holding first) := by
  rintro field ⟨⟨⟨united, resource⟩, oauth⟩, origin⟩
  refine ⟨⟨⟨?_, narrows.resourceFields resource⟩, narrows.oauth_fields oauth⟩,
    narrows.originFields origin⟩
  obtain ⟨path, holds, inside⟩ := Set.mem_iUnion₂.mp united
  exact Set.mem_iUnion₂.mpr
    ⟨path, narrows.holding_subset holds, narrows.fields_subset path inside⟩

/-- What is admitted after narrowing was admitted before. -/
theorem admitted (later : Admitted second (holding second)) : Admitted first (holding first) where
  invariants := by
    obtain ⟨scope, owner⟩ := later.invariants
    rw [narrows.scope] at scope
    rw [narrows.audience, narrows.owner] at owner
    exact ⟨scope, owner⟩
  basis := (basis_valid_iff narrows.basis).mp later.basis
  undenied := by
    cases denied : first.explicitDeny with
    | false => rfl
    | true => exact absurd (narrows.deny denied) (by simp [later.undenied])
  resource := by
    have admits := later.resource
    rw [narrows.request] at admits
    exact narrows.resourceOperations admits
  path := later.path.mono narrows.holding_subset
  oauth := by
    have admits := later.oauth
    rw [narrows.request] at admits
    exact narrows.oauth_operations admits
  origin := by
    have admits := later.origin
    rw [narrows.request] at admits
    exact narrows.originOperations admits
  fields := (later.fields.mono narrows.remainder_subset).of_request narrows.request

end Narrows

namespace SameQuestion

variable {first second : EvaluationInput} (same : SameQuestion first second)
include same

theorem invariants_iff : InvariantsHold second ↔ InvariantsHold first := by
  constructor
  · rintro ⟨scope, owner⟩
    exact ⟨same.scope ▸ scope, same.owner ▸ same.audience ▸ owner⟩
  · rintro ⟨scope, owner⟩
    exact ⟨same.scope.symm ▸ scope, same.owner.symm ▸ same.audience.symm ▸ owner⟩

/-- The remainder of the same question grows with the paths. -/
theorem remainder_mono {paths more : Set Path} (inclusion : paths ⊆ more)
    (opens : ∀ path ∈ paths, path.fields second = path.fields first) :
    remainder first paths ⊆ remainder second more := by
  rintro field ⟨⟨⟨united, resource⟩, oauth⟩, origin⟩
  refine ⟨⟨⟨?_, same.resourcePolicy.symm ▸ resource⟩, same.oauth.symm ▸ oauth⟩,
    same.origin.symm ▸ origin⟩
  obtain ⟨path, among, inside⟩ := Set.mem_iUnion₂.mp united
  exact Set.mem_iUnion₂.mpr ⟨path, inclusion among, (opens path among).symm ▸ inside⟩

/-- Paths that open the same fields leave the same remainder. -/
theorem remainder_eq {paths : Set Path}
    (opens : ∀ path ∈ paths, path.fields second = path.fields first) :
    remainder second paths = remainder first paths := by
  have united : (⋃ path ∈ paths, path.fields second) = ⋃ path ∈ paths, path.fields first :=
    Set.iUnion₂_congr opens
  unfold remainder
  rw [united, same.resourcePolicy, same.oauth, same.origin]

/-- The same question with further paths is still admitted. -/
theorem admitted_mono {paths more : Set Path} (inclusion : paths ⊆ more)
    (opens : ∀ path ∈ paths, path.fields second = path.fields first)
    (earlier : Admitted first paths) : Admitted second more where
  invariants := same.invariants_iff.mpr earlier.invariants
  basis := (basis_valid_iff same.basis).mpr earlier.basis
  undenied := same.deny.trans earlier.undenied
  resource := by
    rw [same.request, same.resourcePolicy]
    exact earlier.resource
  path := earlier.path.mono inclusion
  oauth := by
    rw [same.request, same.oauth]
    exact earlier.oauth
  origin := by
    rw [same.request, same.origin]
    exact earlier.origin
  fields := (earlier.fields.mono (same.remainder_mono inclusion opens)).of_request
    same.request.symm

/-- The same question on the same paths is admitted alike. -/
theorem admitted_iff {paths : Set Path}
    (opens : ∀ path ∈ paths, path.fields second = path.fields first) :
    Admitted second paths ↔ Admitted first paths := by
  constructor
  · intro later
    exact
      { invariants := same.invariants_iff.mp later.invariants
        basis := (basis_valid_iff same.basis).mp later.basis
        undenied := same.deny ▸ later.undenied
        resource := same.request ▸ same.resourcePolicy ▸ later.resource
        path := later.path
        oauth := same.request ▸ same.oauth ▸ later.oauth
        origin := same.request ▸ same.origin ▸ later.origin
        fields := by
          have enough := later.fields
          rw [same.remainder_eq opens] at enough
          exact enough.of_request same.request }
  · exact same.admitted_mono (Set.Subset.refl paths) opens

/-- A decision for the second input is one for the first, on paths that open the same
fields. -/
theorem decides {paths : Set Path} {decision : Decision}
    (opens : ∀ path ∈ paths, path.fields second = path.fields first)
    (decided : Decides second paths decision) : Decides first paths decision where
  allows := decided.allows.trans (same.admitted_iff opens)
  projects := by
    intro allowed
    have projection := decided.projects allowed
    rwa [same.request, same.remainder_eq opens] at projection
  refuses := decided.refuses
  confirms := same.effects ▸ decided.confirms
  audits := same.request ▸ same.effects ▸ decided.audits

end SameQuestion

/-! ## Revoking a grant -/

/-- The input with another grant. -/
def withGrant (input : EvaluationInput) (grant : Grant) : EvaluationInput :=
  { input with grant := grant }

/-- The input after its grant has been revoked, has expired or has otherwise left the
active state. -/
def revoked (input : EvaluationInput) (state : String) : EvaluationInput :=
  withGrant input { input.grant with state := .other state }

theorem withGrant_question (input : EvaluationInput) (grant : Grant) :
    SameQuestion input (withGrant input grant) :=
  ⟨rfl, rfl, rfl, rfl, rfl, rfl, rfl, rfl, rfl, rfl⟩

/-- Revoking a grant narrows. -/
theorem revoked_narrows (input : EvaluationInput) (state : String) :
    Narrows input (revoked input state) where
  owner := rfl
  scope := rfl
  audience := rfl
  relationship := rfl
  request := rfl
  effects := rfl
  basis := rfl
  allowlist := Set.Subset.refl _
  allowlistFields := Set.Subset.refl _
  deny := id
  resourceOperations := Set.Subset.refl _
  resourceFields := Set.Subset.refl _
  roleOperations := Set.Subset.refl _
  roleFields := Set.Subset.refl _
  grant := rfl
  grantState := Or.inr (by simp [revoked, withGrant])
  grantOperations := Set.Subset.refl _
  grantFields := Set.Subset.refl _
  oauth := id
  oauthOperations := fun _ => Set.Subset.refl _
  oauthFields := fun _ => Set.Subset.refl _
  originOperations := Set.Subset.refl _
  originFields := Set.Subset.refl _

/-- Revoking a grant removes the path through it and no other. -/
theorem revoked_removes (input : EvaluationInput) (state : String) :
    RemovesPath input (revoked input state) .granted where
  question := withGrant_question input _
  remaining := by
    ext path
    cases path with
    | ordinary => exact ⟨fun holds => ⟨holds, by simp⟩, And.left⟩
    | granted =>
      constructor
      · rintro ⟨_, valid⟩
        cases valid.active
      · exact fun kept => absurd rfl kept.2
    | allowlisted => exact ⟨fun holds => ⟨holds, by simp⟩, And.left⟩
  opens := by
    intro path holds
    cases path with
    | ordinary => rfl
    | granted => cases holds.2.active
    | allowlisted => rfl

/-- Granting where no grant was valid adds the path through it. -/
theorem withGrant_adds (input : EvaluationInput) (grant : Grant)
    (absent : ¬Path.granted.Holds input) : AddsPaths input (withGrant input grant) where
  question := withGrant_question input grant
  kept := by
    intro path holds
    cases path with
    | ordinary => exact holds
    | granted => exact absurd holds absent
    | allowlisted => exact holds
  opens := by
    intro path holds
    cases path with
    | ordinary => rfl
    | granted => exact absurd holds absent
    | allowlisted => rfl

/-! ## The evaluator -/

/-- A field of a decision is one that the decision allows. -/
theorem Decides.allowed_of_field {input : EvaluationInput} {paths : Set Path}
    {decision : Decision} (decided : Decides input paths decision) {field : String}
    (member : field ∈ decision.allowedFields) : decision.allowed = true := by
  cases allowed : decision.allowed with
  | true => rfl
  | false =>
    rw [decided.refuses allowed] at member
    cases member

/-- A field that a decision allows is requested and left by the restrictions. -/
theorem Decides.mem_fields {input : EvaluationInput} {paths : Set Path} {decision : Decision}
    (decided : Decides input paths decision) (allowed : decision.allowed = true)
    (field : String) :
    field ∈ decision.allowedFields ↔
      field ∈ input.request.fields ∧ field ∈ remainder input paths :=
  Set.ext_iff.mp (decided.projects allowed) field

/-- Policy evaluation is monotone. Narrowing never turns a refusal into an allowance
and never adds a field; further paths never take a field from an allowed decision;
and the loss of a path leaves the decision that the remaining paths give. -/
theorem evaluation_is_monotone :
    (∀ first second, Narrows first second →
      ((evaluate second).allowed = true → (evaluate first).allowed = true) ∧
        (evaluate second).allowedFields ⊆ (evaluate first).allowedFields) ∧
      (∀ first second, AddsPaths first second → (evaluate first).allowed = true →
        (evaluate second).allowed = true ∧
          (evaluate first).allowedFields ⊆ (evaluate second).allowedFields) ∧
      ∀ first second path, RemovesPath first second path →
        Decides first (holding first \ {path}) (evaluate second) := by
  refine ⟨?_, ?_, ?_⟩
  · intro first second narrows
    have allowance : (evaluate second).allowed = true → (evaluate first).allowed = true := by
      intro allowed
      exact (evaluate_admits first).mpr (narrows.admitted ((evaluate_admits second).mp allowed))
    refine ⟨allowance, ?_⟩
    intro field member
    have later := evaluate_decides second
    have allowed := later.allowed_of_field member
    obtain ⟨requested, inside⟩ := (later.mem_fields allowed field).mp member
    refine ((evaluate_decides first).mem_fields (allowance allowed) field).mpr ⟨?_, ?_⟩
    · exact narrows.request ▸ requested
    · exact narrows.remainder_subset inside
  · intro first second adds allowed
    have admitted := (evaluate_admits first).mp allowed
    have kept : (evaluate second).allowed = true :=
      (evaluate_admits second).mpr (adds.question.admitted_mono adds.kept adds.opens admitted)
    refine ⟨kept, ?_⟩
    intro field member
    obtain ⟨requested, inside⟩ := ((evaluate_decides first).mem_fields allowed field).mp member
    refine ((evaluate_decides second).mem_fields kept field).mpr ⟨?_, ?_⟩
    · exact adds.question.request.symm ▸ requested
    · exact adds.question.remainder_mono adds.kept adds.opens inside
  · intro first second path removes
    have decided := removes.question.decides removes.opens (evaluate_decides second)
    rwa [removes.remaining] at decided

namespace Sample

/-- A member of a journey with a role that opens the title and a grant for the meeting
point. -/
def member : EvaluationInput :=
  { owner := ⟨.journey, some "journey-a", none, none⟩
    scope := ⟨true, true, true, true, true, true, true⟩
    audience := .journeyShared
    relationship := .journeyMember
    accessBasis := ⟨.userMembership, .active, true, true, true, true, false, false, [], []⟩
    explicitDeny := false
    resourcePolicy := ⟨["read", "write"], ["*"]⟩
    role := ⟨["read"], ["title"]⟩
    grant := ⟨.active, true, true, true, ["read"], ["meeting_point"], false, true, true, true⟩
    oauth := ⟨false, ["*"], ["*"]⟩
    origin := ⟨["read", "write"], ["*"]⟩
    request := ⟨"read", ["title", "meeting_point"]⟩
    effects := ⟨false, false⟩ }

example : (evaluate member).allowedFields = ["title", "meeting_point"] := by decide

example : (evaluate (revoked member "revoked")).allowedFields = ["title"] := by decide

/-- Revoking the sample's grant leaves the decision of its role, and granting again
keeps what the role opens. -/
theorem evaluation_is_monotone_revoked :
    (evaluate (revoked member "revoked")).allowedFields ⊆ (evaluate member).allowedFields ∧
      Decides member (holding member \ {.granted}) (evaluate (revoked member "revoked")) ∧
      (evaluate (withGrant (revoked member "revoked") member.grant)).allowed = true := by
  refine ⟨(evaluation_is_monotone.1 _ _ (revoked_narrows member "revoked")).2,
    evaluation_is_monotone.2.2 _ _ _ (revoked_removes member "revoked"), ?_⟩
  have absent : ¬Path.granted.Holds (revoked member "revoked") := by
    rintro ⟨_, valid⟩
    cases valid.active
  exact (evaluation_is_monotone.2.1 _ _
    (withGrant_adds (revoked member "revoked") member.grant absent) (by decide)).1

end Sample

end TraxOs.Policy
