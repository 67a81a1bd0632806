import TraxOs.Api.Routes

/-!
# What a route asks

Every statement of a route is issued in the scope of its context. A route inserts rows
under identifiers that are known before it starts: the one that the client chose or the
server drew. It writes packing items only where its name says so.

These facts are read off the programs once, for all routes, and do not depend on the
answers of the database.
-/

namespace TraxOs.Api

open TraxOs.Theory

/-- The settings under which a statement is issued. -/
def Op.scope : Op → Option Scope
  | .findSession _ _ => none
  | .lockMembership scope => some scope
  | .lockCommand scope _ => some scope
  | .selectReceipt scope _ => some scope
  | .insertChangeSet scope _ _ => some scope
  | .insertChangeEvent scope _ _ => some scope
  | .insertReceipt scope _ _ => some scope
  | .listJourneys scope => some scope
  | .selectJourney scope _ _ => some scope
  | .insertJourney scope _ _ => some scope
  | .swapJourney scope _ _ _ _ => some scope
  | .touchJourney scope _ _ => some scope
  | .deleteJourney scope _ => some scope
  | .listSegments scope _ => some scope
  | .selectSegment scope _ _ => some scope
  | .nextPosition scope _ => some scope
  | .insertSegment scope _ _ => some scope
  | .swapSegment scope _ _ _ _ _ => some scope
  | .shiftSegment scope _ _ => some scope
  | .placeSegment scope _ _ _ _ => some scope
  | .deleteSegment scope _ => some scope
  | .listPacking scope _ => some scope
  | .selectPackingItem scope _ _ => some scope
  | .insertPackingItem scope _ _ => some scope
  | .swapPackingItem scope _ _ _ _ _ => some scope
  | .swapPackingProgress scope _ _ _ _ _ => some scope
  | .deletePackingItem scope _ => some scope
  | .writeMembership _ _ _ => none

/-- The key under which a statement inserts a row of a table that all workspaces share. -/
def Op.inserts : Op → Option Key
  | .insertJourney _ id _ => some (.journey id)
  | .insertSegment _ id _ => some (.segment id)
  | .insertPackingItem _ id _ => some (.packingItem id)
  | .insertChangeSet _ id _ => some (.changeSet id)
  | .insertChangeEvent _ id _ => some (.changeEvent id)
  | _ => none

/-- Statements that can write rows of packing items. -/
def Op.writesPacking : Op → Bool
  | .deleteJourney _ _ => true
  | .insertPackingItem _ _ _ => true
  | .swapPackingItem _ _ _ _ _ _ => true
  | .swapPackingProgress _ _ _ _ _ _ => true
  | .deletePackingItem _ _ => true
  | _ => false

/-- The keys that a route inserts. -/
def Call.inserts (runtime : Runtime) : Call → List Key
  | .createJourney command => [.journey (command.id.getD runtime.entityId)]
  | .createSegment _ command => [.segment (command.id.getD runtime.entityId)]
  | .createPacking _ command => [.packingItem (command.id.getD runtime.entityId)]
  | .updateJourney _ _ => [.changeSet runtime.changeSetId, .changeEvent runtime.eventId]
  | .journeyUpdateCommand _ => [.changeSet runtime.changeSetId, .changeEvent runtime.eventId]
  | _ => []

/-- The routes that can write rows of packing items. -/
def Call.writesPacking : Call → Bool
  | .deleteJourney _ => true
  | .createPacking _ _ => true
  | .updatePacking _ _ _ => true
  | .updatePackingProgress _ _ _ => true
  | .deletePacking _ _ => true
  | _ => false

/-- What is known of each statement of a route. -/
structure Asked (scope : Scope) (inserted : List Key) (packs : Bool) (op : Op) : Prop where
  issued : op.scope = some scope
  inserts : ∀ key, op.inserts = some key → key ∈ inserted
  packing : op.writesPacking = true → packs = true

section Asking

variable (platform : Platform) (context : AuthContext) (runtime : Runtime)
  {inserted : List Key} {packs : Bool}

/-- A statement in the scope that inserts nothing and writes no packing item. -/
theorem asked_plain (op : Op) (issued : op.scope = some context.scope)
    (plain : op.inserts = none) (packless : op.writesPacking = false) :
    Asked context.scope inserted packs op := by
  refine ⟨issued, ?_, ?_⟩
  · intro key inserts
    rw [plain] at inserts
    cases inserts
  · intro writes
    rw [packless] at writes
    cases writes

theorem journeyRow_asks (journeyId : Uuid) (forUpdate : Bool) :
    (journeyRow context journeyId forUpdate).Only (Asked context.scope inserted packs) := by
  refine ⟨asked_plain context _ rfl rfl rfl, fun found => ?_⟩
  cases found <;> trivial

theorem ownedSegment_asks (journeyId segmentId : Uuid) :
    (ownedSegment context journeyId segmentId).Only (Asked context.scope inserted packs) := by
  apply Program.only_bind _ _ _ (journeyRow_asks context journeyId false)
  intro _
  refine ⟨asked_plain context _ rfl rfl rfl, fun found => ?_⟩
  cases found <;> trivial

theorem ownedPacking_asks (journeyId itemId : Uuid) :
    (ownedPacking context journeyId itemId).Only (Asked context.scope inserted packs) := by
  apply Program.only_bind _ _ _ (journeyRow_asks context journeyId false)
  intro _
  refine ⟨asked_plain context _ rfl rfl rfl, fun found => ?_⟩
  cases found <;> trivial

theorem touchJourney_asks (journeyId : Uuid) :
    (touchJourney context runtime journeyId).Only (Asked context.scope inserted packs) :=
  ⟨asked_plain context _ rfl rfl rfl, fun _ => trivial⟩

theorem compactSegments_asks (journeyId : Uuid) :
    (compactSegments context journeyId).Only (Asked context.scope inserted packs) := by
  refine ⟨asked_plain context _ rfl rfl rfl, fun found => ?_⟩
  exact Program.only_each _ _ _ fun _ => ⟨asked_plain context _ rfl rfl rfl, fun _ => trivial⟩

theorem shiftSegments_asks (journeyId : Uuid) :
    (shiftSegments context runtime journeyId).Only (Asked context.scope inserted packs) := by
  refine ⟨asked_plain context _ rfl rfl rfl, fun found => ?_⟩
  exact Program.only_each _ _ _ fun _ => ⟨asked_plain context _ rfl rfl rfl, fun _ => trivial⟩

theorem renumberSegments_asks (segmentId : Uuid) (ids : List Uuid) :
    (renumberSegments context runtime segmentId ids).Only
      (Asked context.scope inserted packs) :=
  Program.only_each _ _ _ fun _ => ⟨asked_plain context _ rfl rfl rfl, fun _ => trivial⟩

/-- `reorder_segment` reads, shifts, renumbers and reads again. -/
theorem reorderSegment_asks (journeyId segmentId : Uuid) (expectedVersion newPosition : Nat) :
    (reorderSegment context runtime journeyId segmentId expectedVersion newPosition).Only
      (Asked context.scope inserted packs) := by
  apply Program.only_bind _ _ _ (ownedSegment_asks context journeyId segmentId)
  intro owned
  split
  · trivial
  · refine ⟨asked_plain context _ rfl rfl rfl, fun rows => ?_⟩
    simp only [Program.bind]
    split
    · trivial
    · split
      · refine Program.only_bind _ (shiftSegments context runtime journeyId) _
          (shiftSegments_asks context runtime journeyId) fun _ => ?_
        refine Program.only_bind _ (renumberSegments context runtime segmentId _) _
          (renumberSegments_asks context runtime segmentId _) fun _ => ?_
        refine Program.only_bind _ (touchJourney context runtime journeyId) _
          (touchJourney_asks context runtime journeyId) fun _ => ?_
        apply Program.only_bind _ _ _ (ownedSegment_asks context journeyId segmentId)
        intro moved
        split <;> trivial
      · trivial

theorem authorizePermission_asks (permission : Permission) :
    (authorizePermission context permission).Only (Asked context.scope inserted packs) := by
  refine ⟨asked_plain context _ rfl rfl rfl, fun role => ?_⟩
  cases role with
  | none => trivial
  | some role =>
    simp only [Program.bind]
    split <;> trivial

/-- `apply_journey_update` inserts nothing. -/
theorem applyJourneyUpdate_asks (journeyId : Uuid) (command : JourneyUpdate) :
    (applyJourneyUpdate context runtime journeyId command).Only
      (Asked context.scope inserted packs) := by
  apply Program.only_bind _ _ _ (journeyRow_asks context journeyId true)
  intro before
  split
  · trivial
  · refine ⟨asked_plain context _ rfl rfl rfl, fun swapped => ?_⟩
    cases swapped <;> trivial

/-- A refused update asks for its terminal receipt only; an applied one inserts its change set
and its event. -/
theorem executeFresh_asks (commandId : Uuid) (definition : CommandDefinition)
    (payload : JourneyUpdateCommandPayload) (requestDigest : Text) (origin : Origin)
    (changeSet : .changeSet runtime.changeSetId ∈ inserted)
    (changeEvent : .changeEvent runtime.eventId ∈ inserted) :
    (executeFresh context runtime commandId definition payload requestDigest origin).Only
      (Asked context.scope inserted packs) := by
  have given : ∀ (op : Op) (key : Key), op.scope = some context.scope →
      op.inserts = some key → key ∈ inserted → op.writesPacking = false →
        Asked context.scope inserted packs op := by
    intro op key issued inserts member packless
    refine ⟨issued, ?_, fun writes => by rw [packless] at writes; cases writes⟩
    intro other same
    rw [inserts, Option.some.injEq] at same
    exact same ▸ member
  apply Program.only_bind _ _ _ (Program.only_attempt _ _
    (applyJourneyUpdate_asks context runtime payload.journeyId payload.toJourneyUpdate))
  intro result
  cases result with
  | error failure =>
    simp only
    split
    · trivial
    · exact ⟨asked_plain context _ rfl rfl rfl, fun _ => trivial⟩
  | ok mutation =>
    exact ⟨given _ _ rfl rfl changeSet rfl, fun _ => ⟨given _ _ rfl rfl changeEvent rfl, fun _ =>
      ⟨asked_plain context _ rfl rfl rfl, fun _ => trivial⟩⟩⟩

/-- The executor asks in the scope of its context, too. -/
theorem executeJourneyUpdate_asks (commandId : Uuid) (commandType : String) (commandVersion : Nat)
    (payload : JourneyUpdateCommandPayload) (origin : Origin)
    (changeSet : .changeSet runtime.changeSetId ∈ inserted)
    (changeEvent : .changeEvent runtime.eventId ∈ inserted) :
    (executeJourneyUpdate platform context runtime commandId commandType commandVersion payload
      origin).Only (Asked context.scope inserted packs) := by
  unfold executeJourneyUpdate
  split
  · trivial
  · apply Program.only_bind
    · unfold operation
      apply Program.only_bind _ _ _ (authorizePermission_asks context _)
      intro _
      refine ⟨asked_plain context _ rfl rfl rfl, fun _ => ?_⟩
      refine ⟨asked_plain context _ rfl rfl rfl, fun prior => ?_⟩
      cases prior with
      | some prior =>
        simp only [Program.bind, replayOrConflict]
        split <;> trivial
      | none => exact executeFresh_asks context runtime _ _ _ _ _ changeSet changeEvent
    · intro result
      split <;> trivial

/-- Every statement of every route. -/
theorem handle_asks (call : Call) :
    (handle platform context runtime call).Only
      (Asked context.scope (call.inserts runtime) call.writesPacking) := by
  cases call with
  | listJourneys => exact ⟨asked_plain context _ rfl rfl rfl, fun _ => trivial⟩
  | getJourney journeyId =>
    apply Program.only_bind
    · exact Program.only_bind _ _ _ (journeyRow_asks context journeyId false) fun _ => trivial
    · exact fun _ => trivial
  | listSegments journeyId =>
    apply Program.only_bind
    · apply Program.only_bind _ _ _ (journeyRow_asks context journeyId false)
      intro _
      refine ⟨asked_plain context _ rfl rfl rfl, fun rows => ?_⟩
      simp only [Program.bind]
      split <;> trivial
    · exact fun _ => trivial
  | listPacking journeyId =>
    apply Program.only_bind
    · apply Program.only_bind _ _ _ (journeyRow_asks context journeyId false)
      intro _
      refine ⟨asked_plain context _ rfl rfl rfl, fun rows => ?_⟩
      simp only [Program.bind]
      split <;> trivial
    · exact fun _ => trivial
  | createJourney command =>
    exact ⟨⟨rfl, fun key inserts => by cases inserts; exact List.mem_cons_self, nofun⟩,
      fun _ => trivial⟩
  | updateJourney journeyId command =>
    apply Program.only_bind _ _ _ (executeJourneyUpdate_asks platform context runtime _ _ _ _ _
      List.mem_cons_self (List.mem_cons_of_mem _ List.mem_cons_self))
    intro result
    cases result <;> trivial
  | journeyUpdateCommand command =>
    apply Program.only_bind _ _ _ (executeJourneyUpdate_asks platform context runtime _ _ _ _ _
      List.mem_cons_self (List.mem_cons_of_mem _ List.mem_cons_self))
    intro result
    cases result with
    | error error => trivial
    | ok execution =>
      simp only
      split <;> trivial
  | deleteJourney journeyId =>
    apply Program.only_bind
    · refine ⟨⟨rfl, nofun, fun _ => rfl⟩, fun deleted => ?_⟩
      simp only [Program.bind]
      split <;> trivial
    · exact fun _ => trivial
  | createSegment journeyId command =>
    apply Program.only_bind
    · apply Program.only_bind _ _ _ (journeyRow_asks context journeyId false)
      intro _
      refine ⟨asked_plain context _ rfl rfl rfl, fun position => ?_⟩
      refine ⟨⟨rfl, fun key inserts => by cases inserts; exact List.mem_cons_self, nofun⟩,
        fun row => ?_⟩
      exact Program.only_bind _ (touchJourney context runtime journeyId) _
        (touchJourney_asks context runtime journeyId) fun _ => trivial
    · exact fun _ => trivial
  | updateSegment journeyId segmentId command =>
    apply Program.only_bind
    · apply Program.only_bind _ _ _ (ownedSegment_asks context journeyId segmentId)
      intro _
      refine ⟨asked_plain context _ rfl rfl rfl, fun swapped => ?_⟩
      cases swapped with
      | none => trivial
      | some row =>
        exact Program.only_bind _ (touchJourney context runtime journeyId) _
          (touchJourney_asks context runtime journeyId) fun _ => trivial
    · exact fun _ => trivial
  | reorderSegment journeyId segmentId command =>
    exact Program.only_bind _ _ _ (reorderSegment_asks context runtime journeyId segmentId _ _)
      fun _ => trivial
  | deleteSegment journeyId segmentId =>
    apply Program.only_bind
    · apply Program.only_bind _ _ _ (ownedSegment_asks context journeyId segmentId)
      intro _
      refine ⟨asked_plain context _ rfl rfl rfl, fun _ => ?_⟩
      exact Program.only_bind _ (compactSegments context journeyId) _
        (compactSegments_asks context journeyId) fun _ => touchJourney_asks context runtime journeyId
    · exact fun _ => trivial
  | createPacking journeyId command =>
    apply Program.only_bind
    · apply Program.only_bind _ _ _ (journeyRow_asks context journeyId false)
      intro _
      refine ⟨⟨rfl, fun key inserts => by cases inserts; exact List.mem_cons_self, fun _ => rfl⟩,
        fun row => ?_⟩
      exact Program.only_bind _ (touchJourney context runtime journeyId) _
        (touchJourney_asks context runtime journeyId) fun _ => trivial
    · exact fun _ => trivial
  | updatePacking journeyId itemId command =>
    apply Program.only_bind
    · apply Program.only_bind _ _ _ (ownedPacking_asks context journeyId itemId)
      intro _
      refine ⟨⟨rfl, nofun, fun _ => rfl⟩, fun swapped => ?_⟩
      cases swapped with
      | none => trivial
      | some row =>
        exact Program.only_bind _ (touchJourney context runtime journeyId) _
          (touchJourney_asks context runtime journeyId) fun _ => trivial
    · exact fun _ => trivial
  | updatePackingProgress journeyId itemId command =>
    apply Program.only_bind
    · apply Program.only_bind _ _ _ (ownedPacking_asks context journeyId itemId)
      intro _
      split
      · trivial
      · refine ⟨⟨rfl, nofun, fun _ => rfl⟩, fun swapped => ?_⟩
        cases swapped with
        | none => trivial
        | some row =>
          exact Program.only_bind _ (touchJourney context runtime journeyId) _
            (touchJourney_asks context runtime journeyId) fun _ => trivial
    · exact fun _ => trivial
  | deletePacking journeyId itemId =>
    apply Program.only_bind
    · apply Program.only_bind _ _ _ (ownedPacking_asks context journeyId itemId)
      intro _
      exact ⟨⟨rfl, nofun, fun _ => rfl⟩, fun _ => touchJourney_asks context runtime journeyId⟩
    · exact fun _ => trivial

end Asking

end TraxOs.Api
