import TraxOs.Theory.Alignments
import TraxOs.PowerSync.Agreement

/-!
# Which responses answer a request

A response answers a request when its results correspond to the commands one to one:
each result carries the identifier, the resource and the digest of its command, a state
that belongs to its code, and positive safe integers.

The parser takes each result out of a map of the commands that still await one. Every
result takes out at least one, and there are as many results as commands, so every
result takes out exactly one. The parser compares `String(value)` where it looks up a
command and where it knows a code; a response answers its request when those values are
texts themselves.
-/

namespace TraxOs.PowerSync

open TraxOs.Theory
open TraxOs.ApiClient

section Acceptance

variable (platform : ClientPlatform) (binding : ReplicaBinding)

/-- A result of one command, as the client's types describe it. -/
structure AnswersCommand (command : SpikeCommand) (result : Members) : Prop where
  commandId : result.get "commandId" = some (.text command.commandId)
  resourceId : result.get "resourceId" = some (.text command.resourceId)
  digest : result.get "digest" =
    some (.text (commandDigest platform.toPlatform command binding))
  consistent : ∃ code : ResultCode, result.get "code" = some (.text code.text) ∧
    result.get "state" = some (.text code.state.text)
  previous : (positiveSafe (result.get "previousVersion")).isSome = true
  current : (positiveSafe (result.get "currentVersion")).isSome = true
  attempt : (positiveSafe (result.get "attemptNumber")).isSome = true

/-- The results of a body are in bijection with the commands of a request. -/
def Answers (commands : List SpikeCommand) (value : Value) : Prop :=
  ∃ (members : Members) (results : List Members) (arranged : List SpikeCommand),
    value = .object members ∧ isOne (members.get "spikeProtocol") = true ∧
      members.get "results" = some (.array (results.map Value.object)) ∧
        (commands.map SpikeCommand.commandId).Nodup ∧ arranged.Perm commands ∧
          List.Forall₂ (AnswersCommand platform binding) arranged results

/-- The results of a body name their commands and their codes by texts. -/
def Worded (value : Value) : Prop :=
  ∀ (members : Members) (items : List Value) (result : Members), value = .object members →
    members.get "results" = some (.array items) → .object result ∈ items →
      (∃ text, result.get "commandId" = some (.text text)) ∧
        ∃ text, result.get "code" = some (.text text)

variable {platform binding}

/-- A value is a text when it is compared with one. -/
theorem isText_iff (text : Text) (value : Option Value) :
    isText text value = true ↔ value = some (.text text) := by
  constructor
  · intro same
    unfold isText at same
    split at same
    · next found =>
      rw [beq_iff_eq] at same
      rw [same]
    · cases same
  · rintro rfl
    simp [isText]

/-- A known code is one of the five. -/
theorem known_code (text : Text) (known : resultCodes.contains text = true) :
    ∃ code : ResultCode, text = code.text := by
  rw [List.contains_iff_mem] at known
  simp only [resultCodes, List.map_cons, List.map_nil, List.mem_cons, List.not_mem_nil,
    or_false] at known
  rcases known with rfl | rfl | rfl | rfl | rfl
  · exact ⟨.applied, rfl⟩
  · exact ⟨.alreadyApplied, rfl⟩
  · exact ⟨.optimisticConflict, rfl⟩
  · exact ⟨.staleIncarnation, rfl⟩
  · exact ⟨.commandDenied, rfl⟩

/-- A result that is read takes one awaited command with it, and answers it if it is worded. -/
theorem parseResult_answers (expected awaited : List SpikeCommand) (raw : Value) (result : Members)
    (read : parseResult platform binding expected raw = .ok (result, awaited)) :
    raw = .object result ∧ ∃ command ∈ expected,
      awaited = expected.filter (fun other => other.commandId != command.commandId) ∧
        ((∃ text, result.get "commandId" = some (.text text)) →
          (∃ text, result.get "code" = some (.text text)) →
            AnswersCommand platform binding command result) := by
  unfold parseResult at read
  obtain ⟨members, isRecord, read⟩ := (bind_ok _ _ _).mp read
  obtain ⟨_, _, read⟩ := (bind_ok _ _ _).mp read
  have object : raw = .object members := by
    cases raw with
    | object found => rw [Except.ok.inj isRecord]
    | _ => cases isRecord
  dsimp only at read
  split at read
  · cases read
  next command found =>
  obtain ⟨_, identified, read⟩ := (bind_ok _ _ _).mp read
  obtain ⟨_, stated, read⟩ := (bind_ok _ _ _).mp read
  obtain ⟨_, known, read⟩ := (bind_ok _ _ _).mp read
  obtain ⟨_, consistent, read⟩ := (bind_ok _ _ _).mp read
  obtain ⟨_, previous, read⟩ := (bind_ok _ _ _).mp read
  obtain ⟨_, current, read⟩ := (bind_ok _ _ _).mp read
  obtain ⟨_, attempt, read⟩ := (bind_ok _ _ _).mp read
  obtain ⟨rfl, rfl⟩ := Prod.mk.inj (Except.ok.inj read)
  rw [demand_ok] at identified known consistent previous current attempt
  refine ⟨object, command, List.mem_of_find?_eq_some found, rfl, ?_⟩
  rintro ⟨name, named⟩ ⟨word, worded⟩
  rw [Bool.and_eq_true, isText_iff, isText_iff] at identified
  have same := List.find?_some found
  rw [named] at same
  rw [worded] at known consistent
  obtain ⟨code, rfl⟩ := known_code word known
  rw [expectedState_text, isText_iff] at consistent
  refine ⟨?_, identified.1, identified.2, ⟨code, worded, consistent⟩, previous, current, attempt⟩
  rw [named, eq_of_beq same]
  rfl

/-- The awaited commands without one of them: at least one fewer, and when exactly one fewer,
all the others. -/
theorem awaited_without (expected : List SpikeCommand) (command : SpikeCommand)
    (member : command ∈ expected) :
    (expected.filter fun other => other.commandId != command.commandId).length < expected.length ∧
      ((expected.filter fun other => other.commandId != command.commandId).length + 1 =
          expected.length →
        expected.Perm
          (command :: expected.filter fun other => other.commandId != command.commandId)) := by
  have parts := List.filter_append_perm (fun other => other.commandId != command.commandId) expected
  have taken : command ∈ expected.filter fun other =>
      !(other.commandId != command.commandId) := List.mem_filter.mpr ⟨member, by simp⟩
  have counted := parts.length_eq
  rw [List.length_append] at counted
  have some_taken := List.length_pos_of_mem taken
  refine ⟨by omega, ?_⟩
  intro one
  have alone : (expected.filter fun other => !(other.commandId != command.commandId)) =
      [command] := by
    obtain ⟨only, single⟩ := List.length_eq_one_iff.mp (show (expected.filter fun other =>
      !(other.commandId != command.commandId)).length = 1 by omega)
    rw [single, List.mem_singleton] at taken
    rw [single, taken]
  rw [alone] at parts
  exact parts.symm.trans (List.perm_append_comm.trans (List.Perm.refl _))

/-- As many results as there were awaited commands: each of them takes out exactly one. -/
theorem parseResults_answers (expected left : List SpikeCommand) (items : List Value)
    (results : List Members) (read : parseResults platform binding expected items = .ok (results, left)) :
    items = results.map Value.object ∧ items.length ≤ expected.length ∧
      ((∀ result ∈ results, (∃ text, result.get "commandId" = some (.text text)) ∧
          ∃ text, result.get "code" = some (.text text)) → items.length = expected.length →
        (expected.map SpikeCommand.commandId).Nodup ∧ ∃ arranged, arranged.Perm expected ∧
          List.Forall₂ (AnswersCommand platform binding) arranged results) := by
  induction items generalizing expected results with
  | nil =>
    obtain ⟨rfl, rfl⟩ := Prod.mk.inj (Except.ok.inj read)
    refine ⟨rfl, Nat.zero_le _, ?_⟩
    intro _ full
    rw [List.length_nil, eq_comm, List.length_eq_zero_iff] at full
    rw [full]
    exact ⟨List.nodup_nil, [], List.Perm.refl _, .nil⟩
  | cons raw items inductionHypothesis =>
    unfold parseResults at read
    obtain ⟨⟨result, awaited⟩, first, read⟩ := (bind_ok _ _ _).mp read
    obtain ⟨⟨later, rest⟩, second, read⟩ := (bind_ok _ _ _).mp read
    obtain ⟨rfl, rfl⟩ := Prod.mk.inj (Except.ok.inj read)
    obtain ⟨rfl, command, member, taken, answers⟩ := parseResult_answers expected awaited raw result
      first
    obtain ⟨rfl, fewer, arranges⟩ := inductionHypothesis awaited later second
    obtain ⟨less, others⟩ := awaited_without expected command member
    rw [← taken] at less others
    refine ⟨rfl, Nat.lt_of_le_of_lt fewer less, ?_⟩
    intro worded full
    rw [List.length_cons] at full
    obtain ⟨distinct, arranged, arrangement, answered⟩ := arranges
      (fun other listed => worded other (List.mem_cons_of_mem _ listed)) (by omega)
    have whole := others (by omega)
    obtain ⟨named, coded⟩ := worded result List.mem_cons_self
    refine ⟨?_, command :: arranged, (arrangement.cons command).trans whole.symm,
      .cons (answers named coded) answered⟩
    rw [(whole.map SpikeCommand.commandId).nodup_iff, List.map_cons, List.nodup_cons]
    refine ⟨?_, distinct⟩
    intro again
    obtain ⟨other, listed, same⟩ := List.mem_map.mp again
    rw [taken, List.mem_filter, same] at listed
    simp at listed

/-- An accepted response answers its request exactly when it is worded. -/
theorem accepted_answers (value : Value) (commands : List SpikeCommand) (results : List Members)
    (accepted : parseCommandResponse platform value commands binding = .ok results) :
    Answers platform binding commands value ↔ Worded value := by
  constructor
  · rintro ⟨members, listed, arranged, rfl, _, found, _, _, answered⟩ other items result same shown
      member
    obtain rfl := Value.object.inj same
    rw [found, Option.some.injEq, Value.array.injEq] at shown
    rw [← shown, List.mem_map] at member
    obtain ⟨answer, inside, equal⟩ := member
    obtain rfl := Value.object.inj equal
    obtain ⟨command, _, answers⟩ := aligned_source answered inside
    obtain ⟨code, coded, _⟩ := answers.consistent
    exact ⟨⟨_, answers.commandId⟩, ⟨_, coded⟩⟩
  · intro worded
    unfold parseCommandResponse at accepted
    obtain ⟨members, isRecord, accepted⟩ := (bind_ok _ _ _).mp accepted
    obtain ⟨_, _, accepted⟩ := (bind_ok _ _ _).mp accepted
    have object : value = .object members := by
      cases value with
      | object found => rw [Except.ok.inj isRecord]
      | _ => cases isRecord
    split at accepted
    · next items found =>
      obtain ⟨_, matches_request, accepted⟩ := (bind_ok _ _ _).mp accepted
      obtain ⟨⟨read, left⟩, parsed, accepted⟩ := (bind_ok _ _ _).mp accepted
      rw [demand_ok, Bool.and_eq_true, beq_iff_eq] at matches_request
      obtain ⟨rfl, _, arranges⟩ := parseResults_answers commands.reverse left items read parsed
      obtain ⟨distinct, arranged, arrangement, answered⟩ := arranges
        (fun result member => worded members _ result object found (List.mem_map_of_mem member))
        (by rw [List.length_reverse]; exact matches_request.2)
      refine ⟨members, read, arranged, object, matches_request.1, found, ?_,
        arrangement.trans (List.reverse_perm commands), answered⟩
      rw [← ((List.reverse_perm commands).map SpikeCommand.commandId).nodup_iff]
      exact distinct
    · cases accepted

end Acceptance

/-- An accepted response answers its request exactly when its results are worded. And every
result body that the command server returns for a posted canonical command, in any run
whose versions stay below the largest safe integer, is accepted for that command. -/
theorem responses_answer (platform : ClientPlatform) :
    (∀ (value : Value) (commands : List SpikeCommand) (binding : ReplicaBinding)
        (results : List Members),
      parseCommandResponse platform value commands binding = .ok results →
        (Answers platform binding commands value ↔ Worded value)) ∧
    ∀ (session : ReplicaSessionSecret) (transaction : CrudTransaction) (command : SpikeCommand),
      Canonical command → Versioned command →
      ∀ (permits : System Name Row Res Failure Request Reply → Event Request → Prop) (db : Database)
        (last : System Name Row Res Failure Request Reply), Sequenced db → LedgerEmpty db →
      Run (commandServer platform.toPlatform) permits (System.initial db) last →
      WithinIntegers last.history → ∀ commit ∈ last.history,
      ∀ (call : CommandCall) (envelope : SpikeCommandEnvelope) (status : Nat)
        (result : SpikeCommandResult), commit.request = call.request →
      parseCommandEnvelope (uploadBody session transaction [command]) = .ok envelope →
      call.binding = envelope.binding → [call.command] = envelope.commands →
      commit.reply = .results status result →
        (status = 200 ∨ status = 403) ∧
          parseCommandResponse platform (responseBody result) [command] session.binding =
            .ok [resultMembers result] := by
  refine ⟨fun value commands binding results => accepted_answers value commands results, ?_⟩
  intro session transaction command canonical versioned permits db last holds empty run within commit
    member call envelope status result asked parsed bound carried told
  have read := parseCommand_commandValue 0 command canonical versioned
  obtain ⟨received, again, rfl⟩ := (parseEnvelope_body _ _ _ _).mp parsed
  obtain rfl := Except.ok.inj (again.symm.trans read)
  obtain rfl := List.singleton_inj.mp carried
  obtain ⟨readable, answered⟩ := history_results permits db holds empty last run within commit
    member call status result asked told
  rw [bound] at readable
  refine ⟨?_, parseCommandResponse_ok platform _ _ result readable⟩
  rcases answered with applied | ⟨denied, _⟩
  · exact Or.inl applied
  · exact Or.inr denied

namespace Sample

/-- A client over the sample hashes whose runtime prints an array of one text as the text. -/
def printing : ClientPlatform where
  toPlatform := platform
  described value :=
    match value with
    | some (.array [.text text]) => text
    | _ => ascii "[object Object]"

/-- The versions of all resources are below the largest safe integer. -/
def smallVersions (db : Database) : Bool :=
  db.entries.all fun entry =>
    match entry with
    | ⟨.resource _, row⟩ => decide ((row : Resource).version < maxSafeInteger)
    | _ => true

/-- The numbers of a command are positive safe integers. -/
def measured : Request → Bool
  | .command _ _ _ command attemptNumber _ =>
    decide ((1 ≤ command.expectedRecordVersion ∧ command.expectedRecordVersion ≤ maxSafeInteger) ∧
      1 ≤ attemptNumber ∧ attemptNumber ≤ maxSafeInteger)
  | _ => true

/-- So a history can be checked. -/
theorem within_checked (history : List (Commit Row Request Reply))
    (checked : history.all (fun commit => smallVersions commit.before && measured commit.request) =
      true) : WithinIntegers history := by
  rw [List.all_eq_true] at checked
  intro commit member
  obtain ⟨small, sized⟩ := (Bool.and_eq_true _ _).mp (checked commit member)
  rw [smallVersions, List.all_eq_true] at small
  constructor
  · intro id row found
    exact of_decide_eq_true (small ⟨.resource id, row⟩ (AList.mem_lookup_iff.mp found))
  · rintro call asked
    rw [asked] at sized
    obtain ⟨versioned, attempted⟩ := of_decide_eq_true sized
    exact ⟨versioned, attempted⟩

/-- Whether a request posts the sample update. -/
def posts : Request → Bool
  | .command userId binding credential command attemptNumber eventId =>
    decide (userId = update.userId ∧ binding = update.binding ∧ credential = update.credential ∧
      command = update.command ∧ attemptNumber = update.attemptNumber ∧ eventId = update.eventId)
  | _ => false

/-- Then it is the request of that update. -/
theorem posts_update (request : Request) (posted : posts request = true) :
    request = update.request := by
  cases request with
  | command userId binding credential command attemptNumber eventId =>
    obtain ⟨rfl, rfl, rfl, rfl, rfl, rfl⟩ := of_decide_eq_true posted
    rfl
  | _ => cases posted

/-- A session of the sample replica. -/
def session : ReplicaSessionSecret := ⟨binding, credential⟩

/-- A response that says in an array that the sample update met a conflict, and in a text that
it was applied. -/
def contradiction : Value :=
  .object [(ascii "spikeProtocol", numberValue 1),
    (ascii "results", .array [.object [
      (ascii "commandId", .text update.command.commandId),
      (ascii "resourceId", .text update.command.resourceId),
      (ascii "digest", .text (commandDigest platform update.command binding)),
      (ascii "state", .text (ascii "applied")),
      (ascii "code", .array [.text (ascii "optimistic_conflict")]),
      (ascii "previousVersion", numberValue 1), (ascii "currentVersion", numberValue 1),
      (ascii "attemptNumber", numberValue 1)]])]

end Sample

/-- The queued update is posted; its response is accepted, and it answers the update. -/
theorem responses_answer_update :
    ∃ (last : System Name Row Res Failure Request Reply) (status : Nat)
        (result : SpikeCommandResult),
      (System.initial Sample.shared).steps (commandServer Sample.platform)
          (Sample.executed 0 10 Sample.update.request) = some last ∧
        last.history.map (fun commit => commit.reply) = [.results status result] ∧
          parseCommandResponse Sample.printing (responseBody result) [Sample.update.command]
              Sample.binding = .ok [resultMembers result] ∧
            Answers Sample.printing Sample.binding [Sample.update.command] (responseBody result) := by
  have made : ((System.initial Sample.shared).steps (commandServer Sample.platform)
      (Sample.executed 0 10 Sample.update.request)).map (fun last =>
        (last.history.map fun commit => (Sample.reported commit.reply, Sample.posts commit.request),
          last.history.all fun commit =>
            Sample.smallVersions commit.before && Sample.measured commit.request)) =
              some ([(some .applied, true)], true) := by
    decide +kernel
  obtain ⟨last, ran, observed⟩ := Option.map_eq_some_iff.mp made
  obtain ⟨replies, within⟩ := Prod.mk.inj observed
  obtain ⟨commit, single, replied⟩ := List.map_eq_singleton_iff.mp replies
  obtain ⟨reported, posted⟩ := Prod.mk.inj replied
  obtain ⟨exact, accepts⟩ := responses_answer Sample.printing
  have canonical : Canonical Sample.update.command := by
    constructor
    · decide
    · decide
    · decide
    · rintro payload ⟨⟩
      decide
  have versioned : Versioned Sample.update.command := by
    constructor <;> decide
  have read := parseCommand_commandValue 0 Sample.update.command canonical versioned
  have parsed := (parseEnvelope_body Sample.session (Sample.queued (ascii "text"))
    Sample.update.command _).mpr ⟨Sample.update.command, read, rfl⟩
  cases told : commit.reply with
  | results status result =>
    obtain ⟨_, accepted⟩ := accepts Sample.session (Sample.queued (ascii "text"))
      Sample.update.command canonical versioned (fun _ _ => True) Sample.shared last
      Sample.shared_sequenced Sample.shared_empty
      (run_of_steps _ _ _ _ _ (fun _ _ _ => trivial) ran) (Sample.within_checked _ within) commit
      (by rw [single]; exact List.mem_cons_self) Sample.update _ status result
      (Sample.posts_update _ posted) parsed rfl rfl told
    refine ⟨last, status, result, ran, ?_, accepted, ?_⟩
    · rw [single, List.map_singleton, told]
    · refine (exact _ _ _ _ accepted).mpr ?_
      rintro members items answer same found member
      cases same
      cases found
      rw [List.mem_singleton] at member
      cases member
      exact ⟨⟨_, rfl⟩, ⟨_, rfl⟩⟩
  | _ =>
    rw [told] at reported
    cases reported

/-- The contradictory response is accepted, and answers nothing. -/
theorem contradiction_accepted : ∃ results,
    parseCommandResponse Sample.printing Sample.contradiction [Sample.update.command]
        Sample.binding = .ok results ∧
      ¬ Answers Sample.printing Sample.binding [Sample.update.command] Sample.contradiction := by
  have accepts : (parseCommandResponse Sample.printing Sample.contradiction [Sample.update.command]
      Sample.binding).toBool = true := by
    decide +kernel
  cases accepted : parseCommandResponse Sample.printing Sample.contradiction [Sample.update.command]
      Sample.binding with
  | error message =>
    rw [accepted] at accepts
    cases accepts
  | ok results =>
  refine ⟨results, rfl, ?_⟩
  intro answers
  have worded := (accepted_answers Sample.contradiction [Sample.update.command] results
    accepted).mp answers
  obtain ⟨_, text, coded⟩ := worded _ _ _ rfl rfl List.mem_cons_self
  cases coded

end TraxOs.PowerSync
