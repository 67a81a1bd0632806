import TraxOs.PowerSync.ReplicaReset
import TraxOs.PowerSync.Sidecar

/-!
# What a reset reads back

The client reads its two files back wherever a reset goes on. What it reads has the phase, the
sessions and the identifiers that it wrote, whether or not an entry of the quarantine is
admitted by the reader. Uploads go on meanwhile, and turn overlays into results.
-/

namespace TraxOs.PowerSync

open TraxOs.Theory
open TraxOs.ApiClient (Value Number)

section Sessions

/-- The members of a session. -/
theorem ReplicaSessionSecret.value_members (session : ReplicaSessionSecret) :
    ∃ members : Members, session.value = .object members ∧
      members.get "replicaId" = some (.text session.binding.replicaId) ∧
      members.get "replicaEpoch" = some (numberValue session.binding.replicaEpoch) ∧
      members.get "credential" = some (.text session.credential) :=
  ⟨_, rfl, rfl, rfl, rfl⟩

/-- A session that is read back is the one that was written. -/
theorem parseReplicaSessionSecret_written (session read : ReplicaSessionSecret)
    (accepted : parseReplicaSessionSecret session.value = .ok read) : read = session := by
  obtain ⟨members, value, id, epoch, credential⟩ := session.value_members
  have lower := toLowerCase_uuid _ session.binding.identified
  have number := positiveSafe_number _ session.binding.positive session.binding.safe
  unfold parseReplicaSessionSecret at accepted
  rw [value] at accepted
  obtain ⟨input, opened, accepted⟩ := (bind_ok _ _ _).mp accepted
  obtain rfl := Except.ok.inj opened
  obtain ⟨_, _, accepted⟩ := (bind_ok _ _ _).mp accepted
  obtain ⟨replicaId, identified, accepted⟩ := (bind_ok _ _ _).mp accepted
  obtain ⟨text, bounded, rfl⟩ := (map_ok _ _ _).mp identified
  rw [id, boundedString_ok, Option.some.injEq, Value.text.injEq] at bounded
  obtain ⟨rfl, _⟩ := bounded
  rw [epoch, number] at accepted
  split at accepted
  · obtain ⟨secret, bounded, accepted⟩ := (bind_ok _ _ _).mp accepted
    rw [credential, boundedString_ok, Option.some.injEq, Value.text.injEq] at bounded
    obtain ⟨rfl, _⟩ := bounded
    obtain ⟨_, _, accepted⟩ := (bind_ok _ _ _).mp accepted
    obtain rfl := Except.ok.inj accepted
    simp only [lower]
  · cases accepted

/-- The members of a reset state. -/
theorem ResetState.value_members (state : ResetState) :
    ∃ members : Members, state.value = .object members ∧
      members.get "phase" = some (.text state.phase.text) ∧
      members.get "resetRequestId" = some (.text state.resetRequestId) ∧
      members.get "oldSession" = some state.oldSession.value ∧
      members.get "newSession" = state.phase.newSession.map ReplicaSessionSecret.value := by
  obtain ⟨phase, resetRequestId, oldSession⟩ := state
  cases phase with
  | quarantined => exact ⟨_, rfl, rfl, rfl, rfl, rfl⟩
  | sessionStaged newSession => exact ⟨_, rfl, rfl, rfl, rfl, rfl⟩
  | cleared newSession => exact ⟨_, rfl, rfl, rfl, rfl, rfl⟩

/-- A stored session that is read back is the one that was written. -/
theorem parseStoredSession_written (session read : ReplicaSessionSecret)
    (accepted : parseStoredSession (some session.value) = .ok read) : read = session := by
  apply parseReplicaSessionSecret_written
  simp only [parseStoredSession] at accepted
  cases parsed : parseReplicaSessionSecret session.value with
  | error message => rw [parsed] at accepted; cases accepted
  | ok other => rw [parsed] at accepted; exact congrArg _ (Except.ok.inj accepted)

/-- The phase of a state is told by its text and its session. -/
theorem resetPhase_text (phase : ResetPhase) : resetPhase phase.text phase.newSession = some phase := by
  cases phase with
  | quarantined => rfl
  | sessionStaged session => rfl
  | cleared session => rfl

/-- A reset state that is read back is the one that was written. -/
theorem parseResetState_written (state read : ResetState)
    (accepted : parseResetState state.value = .ok read) : read = state := by
  obtain ⟨members, value, phase, request, old, new⟩ := state.value_members
  unfold parseResetState at accepted
  rw [value] at accepted
  obtain ⟨record, opened, accepted⟩ := (bind_ok _ _ _).mp accepted
  obtain rfl := Except.ok.inj opened
  rw [phase, request] at accepted
  obtain ⟨_, _, accepted⟩ := (bind_ok _ _ _).mp accepted
  obtain ⟨oldSession, oldRead, accepted⟩ := (bind_ok _ _ _).mp accepted
  rw [old] at oldRead
  obtain rfl := parseStoredSession_written _ _ oldRead
  obtain ⟨newSession, newRead, accepted⟩ := (bind_ok _ _ _).mp accepted
  have kept : newSession = state.phase.newSession := by
    rw [new] at newRead
    cases stored : state.phase.newSession with
    | none =>
      rw [stored] at newRead
      exact (Except.ok.inj newRead).symm
    | some session =>
      rw [stored] at newRead
      obtain ⟨other, found, rfl⟩ := (map_ok _ _ _).mp newRead
      rw [parseStoredSession_written _ _ found]
  rw [kept, resetPhase_text] at accepted
  exact (Except.ok.inj accepted).symm

/-- Sessions that are written alike are the same. -/
theorem ReplicaSessionSecret.value_injective (one two : ReplicaSessionSecret)
    (same : one.value = two.value) : one = two := by
  obtain ⟨⟨replicaId, replicaEpoch, identified, positive, safe⟩, credential⟩ := one
  obtain ⟨⟨otherId, otherEpoch, otherIdentified, otherPositive, otherSafe⟩, otherCredential⟩ := two
  simp only [ReplicaSessionSecret.value, Value.object.injEq, List.cons.injEq, Prod.mk.injEq, true_and,
    and_true, Value.text.injEq] at same
  obtain ⟨rfl, epochs, rfl⟩ := same
  have here := positiveSafe_number _ positive safe
  rw [epochs, positiveSafe_number _ otherPositive otherSafe] at here
  obtain rfl := congrArg Subtype.val (Option.some.inj here)
  rfl

/-- States that are written alike are the same. -/
theorem ResetState.value_injective (one two : ResetState) (same : one.value = two.value) : one = two := by
  obtain ⟨members, value, phase, request, old, new⟩ := one.value_members
  obtain ⟨others, otherValue, otherPhase, otherRequest, otherOld, otherNew⟩ := two.value_members
  rw [value, otherValue, Value.object.injEq] at same
  subst same
  have texts := Value.text.inj (Option.some.inj (phase.symm.trans otherPhase))
  have requests := Value.text.inj (Option.some.inj (request.symm.trans otherRequest))
  have sessions := ReplicaSessionSecret.value_injective _ _ (Option.some.inj (old.symm.trans otherOld))
  have stored : one.phase.newSession = two.phase.newSession :=
    Option.map_injective ReplicaSessionSecret.value_injective (new.symm.trans otherNew)
  have phases : one.phase = two.phase := by
    apply Option.some.inj
    rw [← resetPhase_text, ← resetPhase_text, texts, stored]
  obtain ⟨onePhase, oneRequest, oneSession⟩ := one
  simp only at phases requests sessions
  subst phases requests sessions
  rfl

end Sessions

section Files

variable {convert : Conversion}

/-- The identifier of a finalized entry is read back. -/
theorem normalizeFinalizedQuarantine_id (allow : Bool) (command read : QuarantinedCommand)
    (accepted : normalizeFinalizedQuarantine convert allow command.value = .ok read) :
    read.id = command.id := by
  obtain ⟨members, value, id, _⟩ := command.value_members
  unfold normalizeFinalizedQuarantine at accepted
  rw [value] at accepted
  obtain ⟨fields, opened, accepted⟩ := (bind_ok _ _ _).mp accepted
  obtain rfl := Except.ok.inj opened
  obtain ⟨_, _, accepted⟩ := (bind_ok _ _ _).mp accepted
  obtain ⟨_, _, accepted⟩ := (bind_ok _ _ _).mp accepted
  obtain ⟨_, _, accepted⟩ := (bind_ok _ _ _).mp accepted
  obtain ⟨_, _, accepted⟩ := (bind_ok _ _ _).mp accepted
  obtain ⟨base, baseRead, accepted⟩ := (bind_ok _ _ _).mp accepted
  obtain ⟨_, _, accepted⟩ := (bind_ok _ _ _).mp accepted
  obtain ⟨_, _, accepted⟩ := (bind_ok _ _ _).mp accepted
  obtain rfl := Except.ok.inj accepted
  have found := ((quarantineEntry_ok _ _ _ _).mp baseRead).1.1
  rw [id, Option.some.injEq, Value.text.injEq] at found
  exact found.symm

/-- The identifier of an intent is read back. -/
theorem normalizePendingQuarantine_id (intent read : QuarantineIntent)
    (accepted : normalizePendingQuarantine convert intent.value = .ok read) :
    read.id = intent.id := by
  obtain ⟨members, value, id, _⟩ := intent.value_members
  unfold normalizePendingQuarantine at accepted
  rw [value] at accepted
  obtain ⟨fields, opened, accepted⟩ := (bind_ok _ _ _).mp accepted
  obtain rfl := Except.ok.inj opened
  obtain ⟨_, _, accepted⟩ := (bind_ok _ _ _).mp accepted
  obtain ⟨_, _, accepted⟩ := (bind_ok _ _ _).mp accepted
  obtain ⟨_, _, accepted⟩ := (bind_ok _ _ _).mp accepted
  obtain ⟨_, _, accepted⟩ := (bind_ok _ _ _).mp accepted
  obtain ⟨base, baseRead, accepted⟩ := (bind_ok _ _ _).mp accepted
  obtain ⟨_, _, accepted⟩ := (bind_ok _ _ _).mp accepted
  obtain ⟨_, _, accepted⟩ := (bind_ok _ _ _).mp accepted
  obtain rfl := Except.ok.inj accepted
  have found := ((quarantineEntry_ok _ _ _ _).mp baseRead).1.1
  rw [id, Option.some.injEq, Value.text.injEq] at found
  exact found.symm

/-- The identifier of an entry in a file. -/
def entryId (item : Value) : Option Text :=
  match memberOf item "id" with
  | some (.text id) => some id
  | _ => none

/-- The identifiers of the entries under a name of the quarantine file. -/
def entryIds (file : Option Value) (name : String) : List Text :=
  match file.bind fun value => memberOf value name with
  | some (.array items) => items.filterMap entryId
  | _ => []

/-- The identifiers of the finalized entries in the quarantine file. -/
def finalizedIds (file : Option Value) : List Text := entryIds file "finalized"

/-- The identifiers of the pending intents in the quarantine file. -/
def pendingIds (file : Option Value) : List Text := entryIds file "pending"

@[simp] theorem finalizedIds_written (store : QuarantineStore) :
    finalizedIds (some store.value) = store.finalized.map QuarantinedCommand.id := by
  have listed : finalizedIds (some store.value) =
      (store.finalized.map QuarantinedCommand.value).filterMap entryId := rfl
  have each : entryId ∘ QuarantinedCommand.value = some ∘ QuarantinedCommand.id := rfl
  rw [listed, List.filterMap_map, each, List.filterMap_eq_map]

@[simp] theorem pendingIds_written (store : QuarantineStore) :
    pendingIds (some store.value) = store.pending.map QuarantineIntent.id := by
  have listed : pendingIds (some store.value) =
      (store.pending.map QuarantineIntent.value).filterMap entryId := rfl
  have each : entryId ∘ QuarantineIntent.value = some ∘ QuarantineIntent.id := rfl
  rw [listed, List.filterMap_map, each, List.filterMap_eq_map]

/-- A quarantine file of the client: it is missing, or the client wrote it. -/
def QuarantineFile (file : Option Value) : Prop :=
  file = none ∨ ∃ store : QuarantineStore, file = some store.value

/-- The identifiers of a file of the client are read back. -/
theorem readQuarantineStore_ids (file : Option Value) (own : QuarantineFile file)
    (read : QuarantineRead) (accepted : readQuarantineStore convert file = .ok read) :
    read.store.finalized.map QuarantinedCommand.id = finalizedIds file ∧
      read.store.pending.map QuarantineIntent.id = pendingIds file := by
  rcases own with rfl | ⟨store, rfl⟩
  · obtain rfl := Except.ok.inj accepted
    exact ⟨rfl, rfl⟩
  · obtain ⟨members, value, version, finalized, pending⟩ := store.value_members
    rw [finalizedIds_written, pendingIds_written]
    simp only [readQuarantineStore, value] at accepted
    obtain ⟨record, opened, accepted⟩ := (bind_ok _ _ _).mp accepted
    obtain rfl := Except.ok.inj opened
    rw [version, finalized, pending] at accepted
    obtain ⟨commands, first, accepted⟩ := (bind_ok _ _ _).mp accepted
    obtain ⟨intents, second, accepted⟩ := (bind_ok _ _ _).mp accepted
    obtain ⟨_, _, accepted⟩ := (bind_ok _ _ _).mp accepted
    obtain rfl := Except.ok.inj accepted
    constructor
    · have aligned := (mapM_aligned _ _ _).mp first
      rw [List.forall₂_map_left_iff] at aligned
      exact (aligned_map aligned _ _ fun command read made =>
        (normalizeFinalizedQuarantine_id false command read made).symm).symm
    · have aligned := (mapM_aligned _ _ _).mp second
      rw [List.forall₂_map_left_iff] at aligned
      exact (aligned_map aligned _ _ fun intent read made =>
        (normalizePendingQuarantine_id intent read made).symm).symm

end Files

section Tables

/-- The identifiers of the overlays. -/
def ApplicationTables.overlayIds (tables : ApplicationTables) : List Text :=
  tables.overlays.map OverlayRow.id

/-- The identifiers of the stored results. -/
def ApplicationTables.resultIds (tables : ApplicationTables) : List Text :=
  tables.results.map ResultRow.id

/-- A command with an overlay or a result. -/
def ApplicationTables.Active (tables : ApplicationTables) (id : Text) : Prop :=
  id ∈ tables.overlayIds ∨ id ∈ tables.resultIds

/-- What uploads do to the tables: no command is lost, no overlay is new, and a result is new
only for one of the given commands. -/
structure Uploads (given : List Text) (before after : ApplicationTables) : Prop where
  active : ∀ id, before.Active id → after.Active id
  overlays : ∀ id ∈ after.overlayIds, id ∈ before.overlayIds
  results : ∀ id ∈ after.resultIds, id ∈ before.resultIds ∨ id ∈ given

theorem Uploads.refl (given : List Text) (tables : ApplicationTables) : Uploads given tables tables :=
  ⟨fun _ there => there, fun _ there => there, fun _ there => .inl there⟩

theorem Uploads.trans {given : List Text} {first second third : ApplicationTables}
    (one : Uploads given first second) (two : Uploads given second third) :
    Uploads given first third where
  active id there := two.active id (one.active id there)
  overlays id there := one.overlays id (two.overlays id there)
  results id there := (two.results id there).elim (one.results id) .inr

/-- Tables with the same identifiers. -/
theorem Uploads.of_same (given : List Text) (before after : ApplicationTables)
    (overlays : after.overlayIds = before.overlayIds) (results : after.resultIds = before.resultIds) :
    Uploads given before after := by
  constructor
  · intro id there
    rwa [ApplicationTables.Active, overlays, results]
  · intro id there
    rwa [overlays] at there
  · intro id there
    rw [results] at there
    exact .inl there

/-- Another overlay than the deleted one stays. -/
theorem mem_deleteOverlay (tables : ApplicationTables) (deleted id : Text) :
    id ∈ (tables.deleteOverlay deleted).overlayIds ↔ id ∈ tables.overlayIds ∧ id ≠ deleted := by
  simp only [ApplicationTables.overlayIds, ApplicationTables.deleteOverlay, List.mem_map,
    List.mem_filter]
  constructor
  · rintro ⟨row, ⟨member, other⟩, rfl⟩
    exact ⟨⟨row, member, rfl⟩, by simpa using other⟩
  · rintro ⟨⟨row, member, rfl⟩, other⟩
    exact ⟨row, ⟨member, by simpa using other⟩, rfl⟩

/-- The overlays that are left are the others. -/
theorem mem_removeOverlays (removed : List Text) (tables : ApplicationTables) (id : Text) :
    id ∈ (removeOverlays removed tables).overlayIds ↔ id ∈ tables.overlayIds ∧ id ∉ removed := by
  induction removed generalizing tables with
  | nil => simp [removeOverlays]
  | cons first rest inductionHypothesis =>
    rw [removeOverlays, List.foldl_cons, ← removeOverlays, inductionHypothesis, mem_deleteOverlay,
      List.mem_cons, not_or, and_assoc]

/-- A stored result has the identifier under which it is found. -/
theorem mem_resultIds (tables : ApplicationTables) (id : Text) (row : ResultRow)
    (found : tables.result id = some row) : id ∈ tables.resultIds := by
  have same : row.id = id := by simpa using List.find?_some found
  exact List.mem_map.mpr ⟨row, List.mem_of_find?_eq_some found, same⟩

/-- A stored result takes the place of its overlay. -/
theorem persistResult_uploads (given : List Text) (result : TerminalResultRecord)
    (there : result.commandId ∈ given) (tables next : ApplicationTables)
    (done : persistResult result tables = .ok next) : Uploads given tables next := by
  rcases persistResult_done result tables next done with
    ⟨existing, found, _, rfl⟩ | ⟨_, reserved, _, _, rfl⟩
  · have stored := mem_resultIds tables _ existing found
    refine ⟨?_, fun id kept => ((mem_deleteOverlay tables _ id).mp kept).1, fun id kept => .inl kept⟩
    rintro id (overlaid | resulted)
    · by_cases same : id = result.commandId
      · exact .inr (same ▸ stored)
      · exact .inl ((mem_deleteOverlay tables _ id).mpr ⟨overlaid, same⟩)
    · exact .inr resulted
  · set inserted : ApplicationTables := { tables with
      results := tables.results ++ [result.row reserved (terminalResultSerializedBytes result)] }
    have ids : inserted.resultIds = tables.resultIds ++ [result.commandId] := List.map_append
    refine ⟨?_, fun id kept => ((mem_deleteOverlay inserted _ id).mp kept).1, fun id kept => ?_⟩
    · rintro id (overlaid | resulted)
      · by_cases same : id = result.commandId
        · refine .inr (show id ∈ inserted.resultIds from ?_)
          rw [ids, same]
          exact List.mem_append_right _ List.mem_cons_self
        · exact .inl ((mem_deleteOverlay inserted _ id).mpr ⟨overlaid, same⟩)
      · refine .inr (show id ∈ inserted.resultIds from ?_)
        rw [ids]
        exact List.mem_append_left _ resulted
    · have listed : id ∈ inserted.resultIds := kept
      rw [ids, List.mem_append, List.mem_singleton] at listed
      rcases listed with stored | rfl
      · exact .inl stored
      · exact .inr there

theorem persistResults_uploads (results : List TerminalResultRecord) (tables : ApplicationTables) :
    Uploads (results.map TerminalResultRecord.commandId) tables (persistResults results tables).2 :=
  transaction_related persistResult (Uploads _) (.refl _) (fun _ _ _ one two => one.trans two)
    results (fun result member state next done =>
      persistResult_uploads _ result (List.mem_map_of_mem member) state next done) tables

/-- The completion of a result keeps the identifiers. -/
theorem markResultsSdkCompleted_uploads (commandIds : List Text) (tables : ApplicationTables) :
    Uploads [] tables (markResultsSdkCompleted commandIds tables).2 := by
  refine transaction_related markResultSdkCompleted (Uploads []) (.refl _)
    (fun _ _ _ one two => one.trans two) commandIds ?_ tables
  intro commandId _ state next done
  obtain ⟨_, rfl⟩ := markResultSdkCompleted_done commandId state next done
  refine .of_same [] _ _ rfl ?_
  simp only [ApplicationTables.resultIds, ApplicationTables.completeResult, List.map_map]
  refine List.map_congr_left fun row _ => ?_
  simp only [Function.comp_def]
  split <;> rfl

/-- A failed attempt leaves the identifiers. -/
theorem recordTransientFailure_uploads (commandId : Text) (tables : ApplicationTables) :
    Uploads [] tables (recordTransientFailure commandId tables).2 := by
  obtain ⟨results, overlays⟩ := recordTransientFailure_attempts commandId tables
  refine .of_same [] _ _ ?_ ?_
  · rw [ApplicationTables.overlayIds, overlays, ApplicationTables.overlayIds]
  · rw [ApplicationTables.resultIds, results, ApplicationTables.resultIds]

end Tables

end TraxOs.PowerSync
