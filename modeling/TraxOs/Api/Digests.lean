import TraxOs.Theory.JsonTexts
import TraxOs.Api.Ledger

/-!
# Command digests

A digest binds a command to its content. The text that is hashed is canonical JSON, and
it determines every field: the identifiers and dates by their digits, the status by its
word, the name through all its escapes. The order in which fields were supplied does not
reach the text.

The ledger is exact, so a stored receipt carries the digest of the command that wrote
it. Without a collision of the hash function a later command under the same identifier
is then a replay exactly when it is the same command.
-/

namespace TraxOs.Api

open TraxOs.Theory

/-- What a digest binds. -/
structure CommandContent where
  commandId : Uuid
  commandType : String
  commandVersion : Nat
  payload : JourneyUpdateCommandPayload

namespace CommandContent

/-- The canonical JSON of the content. -/
def document (content : CommandContent) : Json :=
  canonicalCommand content.commandId content.commandType content.commandVersion content.payload

/-- The text that `command_digest_v1` hashes. -/
def preimage (content : CommandContent) : Text :=
  "trax.command.digest.v1".toList ++ nul :: content.document.render

/-- `command_digest_v1` of the content. -/
def digest (platform : Platform) (content : CommandContent) : Text :=
  commandDigestV1 platform content.commandId content.commandType content.commandVersion
    content.payload

/-- The digest is the hash of that text. -/
theorem digest_eq (platform : Platform) (content : CommandContent) :
    content.digest platform = platform.sha256 content.preimage := rfl

/-- The members of `payload.model_dump(mode="json")`, in the order of the model's fields. -/
def dumpedPayload (content : CommandContent) : List (Text × Json) :=
  let date : Option Date → Json := fun value => value.elim .null fun day => .text day.iso
  [("name".toList, .text content.payload.name),
   ("start_date".toList, date content.payload.startDate),
   ("end_date".toList, date content.payload.endDate),
   ("expected_record_version".toList, .number content.payload.expectedRecordVersion),
   ("status".toList, .text content.payload.status.literal.toList),
   ("journey_id".toList, .text (uuidText content.payload.journeyId))]

/-- The members of the digested dictionary around a dumped payload, in the order of the
source. -/
def dumpedCommand (content : CommandContent) (payload : Json) : List (Text × Json) :=
  [("command_id".toList, .text (uuidText content.commandId)),
   ("command_type".toList, .text content.commandType.toList),
   ("command_version".toList, .number content.commandVersion),
   ("digest_version".toList, .number 1),
   ("payload".toList, payload)]

end CommandContent

section Texts

/-- A padded number has digits only. -/
theorem padded_isDigit (width number : Nat) (digit : Char) (member : digit ∈ padded width number) :
    digit.isDigit = true := by
  rw [padded, List.mem_append] at member
  rcases member with zero | shown
  · rw [List.eq_of_mem_replicate zero]
    rfl
  · exact Json.digits_isDigit number digit shown

/-- The zeros in front add nothing. -/
theorem ofDigitChars_padded (width number : Nat) :
    Nat.ofDigitChars 10 (padded width number) 0 = number := by
  have zeros : ∀ count (digits : List Char),
      Nat.ofDigitChars 10 (List.replicate count '0' ++ digits) 0 = Nat.ofDigitChars 10 digits 0 := by
    intro count digits
    induction count with
    | zero => rfl
    | succ count inductionHypothesis =>
      rw [List.replicate_succ, List.cons_append]
      exact inductionHypothesis
  rw [padded, zeros, Nat.ofDigitChars_ten_toDigits]

/-- A padded number ends where its digits end. -/
theorem padded_injective (width left right : Nat) (afterLeft afterRight : Text)
    (leftEnds : Json.Delimited afterLeft) (rightEnds : Json.Delimited afterRight)
    (same : padded width left ++ afterLeft = padded width right ++ afterRight) :
    left = right ∧ afterLeft = afterRight := by
  obtain ⟨digits, after⟩ := Json.digits_injective _ _ afterLeft afterRight
    (padded_isDigit width left) (padded_isDigit width right) leftEnds rightEnds same
  have read := congrArg (fun shown => Nat.ofDigitChars 10 shown 0) digits
  simp only [ofDigitChars_padded] at read
  exact ⟨read, after⟩

/-- Different dates have different texts. -/
theorem iso_injective (left right : Date) (same : left.iso = right.iso) : left = right := by
  have dash : ∀ rest : Text, Json.Delimited ('-' :: rest) := fun rest =>
    Json.delimited_cons '-' rest rfl
  have ends : Json.Delimited [] := fun head member => by cases member
  rw [Date.iso, Date.iso, List.append_assoc, List.append_assoc] at same
  obtain ⟨years, later⟩ := padded_injective 4 _ _ _ _ (dash _) (dash _) same
  obtain ⟨months, last⟩ := padded_injective 2 _ _ _ _ (dash _) (dash _) (List.cons.inj later).2
  have final := (List.cons.inj last).2
  rw [← List.append_nil (padded 2 left.day), ← List.append_nil (padded 2 right.day)] at final
  obtain ⟨days, _⟩ := padded_injective 2 _ _ _ _ ends ends final
  cases left
  cases right
  cases years
  cases months
  cases days
  rfl

/-- The digits of an identifier. -/
def uuidDigits (id : Uuid) : Text :=
  (List.range 32).map fun place => Nat.digitChar (id.toNat / 16 ^ (31 - place) % 16)

/-- None of them is a dash. -/
theorem uuidDigits_plain (id : Uuid) (digit : Char) (member : digit ∈ uuidDigits id) :
    decide (digit ≠ '-') = true := by
  have hex : ∀ value < 16, decide (Nat.digitChar value ≠ '-') = true := by decide
  obtain ⟨place, _, rfl⟩ := List.mem_map.mp member
  exact hex _ (Nat.mod_lt _ (by decide))

/-- An identifier's text without its dashes is its digits. -/
theorem uuidText_digits (id : Uuid) :
    (uuidText id).filter (fun letter => decide (letter ≠ '-')) = uuidDigits id := by
  have kept : ∀ part : Text, part ⊆ uuidDigits id →
      part.filter (fun letter => decide (letter ≠ '-')) = part := fun part inside =>
    List.filter_eq_self.mpr fun digit member => uuidDigits_plain id digit (inside member)
  have grouped : uuidText id = (uuidDigits id).take 8 ++ '-' :: ((uuidDigits id).drop 8).take 4 ++
      '-' :: ((uuidDigits id).drop 12).take 4 ++ '-' :: ((uuidDigits id).drop 16).take 4 ++
        '-' :: (uuidDigits id).drop 20 := rfl
  have dashes : ∀ rest : Text, ('-' :: rest).filter (fun letter => decide (letter ≠ '-')) =
      rest.filter (fun letter => decide (letter ≠ '-')) := fun rest => rfl
  have middle : ∀ start, ((uuidDigits id).drop start).take 4 ⊆ uuidDigits id := fun start =>
    List.Subset.trans (List.take_subset _ _) (List.drop_subset _ _)
  rw [grouped, List.filter_append, List.filter_append, List.filter_append, List.filter_append,
    dashes, dashes, dashes, dashes, kept _ (List.take_subset _ _), kept _ (middle 8),
    kept _ (middle 12), kept _ (middle 16), kept _ (List.drop_subset _ _)]
  have joined : ∀ start, ((uuidDigits id).drop start).take 4 ++ (uuidDigits id).drop (start + 4) =
      (uuidDigits id).drop start := by
    intro start
    rw [← List.drop_drop]
    exact List.take_append_drop 4 _
  rw [List.append_assoc, List.append_assoc, List.append_assoc, joined 16, joined 12, joined 8,
    List.take_append_drop]

/-- Numbers with the same hexadecimal digits are equal. -/
theorem same_hexadecimal (left right count : Nat)
    (same : ∀ place < count, left / 16 ^ place % 16 = right / 16 ^ place % 16) :
    left % 16 ^ count = right % 16 ^ count := by
  induction count with
  | zero => simp [Nat.mod_one]
  | succ count inductionHypothesis =>
    rw [Nat.mod_pow_succ, Nat.mod_pow_succ, same count (Nat.lt_succ_self count),
      inductionHypothesis fun place below => same place (Nat.lt_succ_of_lt below)]

/-- Different identifiers have different texts. -/
theorem uuidText_injective (left right : Uuid) (same : uuidText left = uuidText right) :
    left = right := by
  have digits : uuidDigits left = uuidDigits right := by
    rw [← uuidText_digits, ← uuidText_digits, same]
  have whole := same_hexadecimal left.toNat right.toNat 32 ?_
  · apply BitVec.eq_of_toNat_eq
    have wide : (16 : Nat) ^ 32 = 2 ^ 128 := by decide
    rw [wide, Nat.mod_eq_of_lt left.isLt, Nat.mod_eq_of_lt right.isLt] at whole
    exact whole
  · intro place below
    have here := congrArg (fun shown => shown[31 - place]?) digits
    have position : 31 - (31 - place) = place := by omega
    simp only [uuidDigits, List.getElem?_map,
      List.getElem?_range (show 31 - place < 32 by omega), Option.map_some, Option.some.injEq,
      position] at here
    have read := congrArg Json.hexDigit here
    rw [Json.hexDigit_digitChar _ (Nat.mod_lt _ (by decide)),
      Json.hexDigit_digitChar _ (Nat.mod_lt _ (by decide))] at read
    exact read

/-- Different statuses have different words. -/
theorem literal_injective (left right : JourneyStatus)
    (same : left.literal.toList = right.literal.toList) : left = right := by
  cases left <;> cases right <;> first | rfl | exact absurd same (by decide)

end Texts

section Content

/-- The JSON of an optional date determines it. -/
theorem date_injective (left right : Option Date)
    (same : (left.elim .null fun day => .text day.iso : Json) =
      right.elim .null fun day => .text day.iso) : left = right := by
  cases left with
  | none =>
    cases right with
    | none => rfl
    | some day => cases same
  | some day =>
    cases right with
    | none => cases same
    | some other => rw [iso_injective day other (Json.text.inj same)]

/-- The JSON of a payload determines it. -/
theorem document_injective (left right : JourneyUpdateCommandPayload)
    (same : left.document = right.document) : left = right := by
  simp only [JourneyUpdateCommandPayload.document, Json.object.injEq, List.cons.injEq,
    Prod.mk.injEq, true_and, and_true, Json.number.injEq, Json.text.injEq] at same
  obtain ⟨endDates, versions, journeys, names, startDates, statuses⟩ := same
  obtain ⟨⟨⟨name, startDate, endDate, _, _⟩, version, status, _⟩, journeyId⟩ := left
  obtain ⟨⟨⟨otherName, otherStart, otherEnd, _, _⟩, otherVersion, otherStatus, _⟩, other⟩ := right
  obtain rfl := date_injective _ _ endDates
  obtain rfl := Int.ofNat_inj.mp versions
  obtain rfl := uuidText_injective _ _ journeys
  obtain rfl := date_injective _ _ startDates
  obtain rfl := literal_injective _ _ statuses
  cases names
  rfl

/-- The canonical text determines the content. -/
theorem preimage_injective (left right : CommandContent) (same : left.preimage = right.preimage) :
    left = right := by
  have rendered := (List.cons.inj (List.append_cancel_left same)).2
  have documents := Json.render_injective _ _ rendered
  simp only [CommandContent.document, canonicalCommand, Json.object.injEq, List.cons.injEq,
    Prod.mk.injEq, true_and, and_true, Json.number.injEq, Json.text.injEq] at documents
  obtain ⟨ids, types, versions, payloads⟩ := documents
  obtain ⟨commandId, commandType, commandVersion, payload⟩ := left
  obtain ⟨otherId, otherType, otherVersion, otherPayload⟩ := right
  obtain rfl := uuidText_injective _ _ ids
  obtain rfl := String.toList_inj.mp types
  obtain rfl := Int.ofNat_inj.mp versions
  obtain rfl := document_injective _ _ payloads
  rfl

/-- The names of the members of a payload, in their order. -/
def payloadNames : List Text :=
  ["end_date".toList, "expected_record_version".toList, "journey_id".toList, "name".toList,
    "start_date".toList, "status".toList]

/-- The names of the members of the digested dictionary, in their order. -/
def commandNames : List Text :=
  ["command_id".toList, "command_type".toList, "command_version".toList, "digest_version".toList,
    "payload".toList]

/-- Members in the order of distinct names. -/
theorem sorted_members (names : List Text) (members : List (Text × Json))
    (named : members.map Prod.fst = names)
    (ascending : names.Pairwise fun left right => Json.precedes left right = true)
    (distinct : names.Nodup) :
    members.Pairwise (fun left right => Json.byName left right = true) ∧
      (members.map Prod.fst).Nodup := by
  subst named
  exact ⟨List.pairwise_map.mp ascending, distinct⟩

/-- The fields of a payload in the order of the model and in the order of their names. -/
theorem payload_arranged {α : Type} (name startDate endDate version status journeyId : α) :
    [name, startDate, endDate, version, status, journeyId].Perm
      [endDate, version, journeyId, name, startDate, status] := by
  have last : [endDate, version, status, journeyId].Perm [endDate, version, journeyId, status] :=
    ((List.Perm.swap journeyId status []).cons version).cons endDate
  have second : ([endDate, version, journeyId] ++ startDate :: [status]).Perm
      (startDate :: ([endDate, version, journeyId] ++ [status])) := List.perm_middle
  have first : ([endDate, version, journeyId] ++ name :: [startDate, status]).Perm
      (name :: ([endDate, version, journeyId] ++ [startDate, status])) := List.perm_middle
  exact (((last.cons startDate).trans second.symm).cons name).trans first.symm

/-- Sorting by name gives the canonical JSON, in whatever order the fields of the payload
and the members around it were supplied. -/
theorem sorted_document (content : CommandContent) (fields members : List (Text × Json))
    (payload : fields.Perm content.dumpedPayload)
    (command : members.Perm (content.dumpedCommand (.object fields))) :
    (Json.object members).sortKeys = content.document := by
  have dated : ∀ value : Option Date,
      (value.elim .null fun day => .text day.iso : Json).sortKeys =
        value.elim .null fun day => .text day.iso := by
    intro value
    cases value <;> rfl
  have inside : (Json.object fields).sortKeys = content.payload.document := by
    refine Json.sortKeys_object fields _ ((payload.map _).trans ?_)
      (sorted_members payloadNames _ rfl (by decide) (by decide)).1
      (sorted_members payloadNames _ rfl (by decide) (by decide)).2
    simp only [CommandContent.dumpedPayload, List.map_cons, List.map_nil, dated, Json.sortKeys]
    exact payload_arranged _ _ _ _ _ _
  refine Json.sortKeys_object members _ ((command.map _).trans ?_)
    (sorted_members commandNames _ rfl (by decide) (by decide)).1
    (sorted_members commandNames _ rfl (by decide) (by decide)).2
  simp only [CommandContent.dumpedCommand, List.map_cons, List.map_nil, inside]
  simp only [Json.sortKeys]
  exact List.Perm.refl _

end Content

/-- The canonical JSON text that Python's `json.dumps` makes when it sorts the keys. -/
def dumps (value : Json) : Text := value.sortKeys.render

namespace CommandContent

/-- The dictionary that is digested, with its fields and members in some order. -/
def Supplies (content : CommandContent) (value : Json) : Prop :=
  ∃ fields members, fields.Perm content.dumpedPayload ∧
    members.Perm (content.dumpedCommand (.object fields)) ∧ value = .object members

/-- The canonical text does not depend on that order. -/
theorem dumps_supplied (content : CommandContent) (value : Json)
    (supplied : content.Supplies value) : dumps value = content.document.render := by
  obtain ⟨fields, members, payload, command, rfl⟩ := supplied
  rw [dumps, sorted_document content fields members payload command]

/-- Canonical texts are equal for equal contents only. -/
theorem dumps_exact (left right : CommandContent) (first second : Json)
    (leftSupplied : left.Supplies first) (rightSupplied : right.Supplies second) :
    dumps first = dumps second ↔ left = right := by
  have shown := left.dumps_supplied first leftSupplied
  have displayed := right.dumps_supplied second rightSupplied
  constructor
  · intro same
    have bodies : left.document.render = right.document.render :=
      shown.symm.trans (same.trans displayed)
    apply preimage_injective
    unfold preimage
    rw [bodies]
  · rintro rfl
    exact shown.trans displayed.symm

/-- `_replay_or_conflict` on a stored receipt. -/
def replays (platform : Platform) (prior : CommandReceipt) (content : CommandContent) :
    Action CommandExecution :=
  replayOrConflict prior content.commandId content.commandType content.commandVersion
    (content.digest platform) content.payload.journeyId

/-- The stored outcome, reported once more. -/
def replayed (prior : CommandReceipt) (content : CommandContent) : CommandExecution where
  commandId := content.commandId
  commandType := content.commandType
  commandVersion := content.commandVersion
  outcome := prior.outcome
  entityId := content.payload.journeyId
  replayed := true
  journey := none

/-- A receipt that carries the digest of a command: without a collision the same command
is a replay, and every other one is a conflict. -/
theorem replays_exact (platform : Platform) (prior : CommandReceipt) (first second : CommandContent)
    (definition : CommandDefinition)
    (resolved : resolveCommand second.commandType second.commandVersion = .ok definition)
    (typed : prior.commandType = "journey.update" ∧ prior.commandVersion = 1 ∧
      prior.digestVersion = 1 ∧ prior.entityType = "journey")
    (bound : prior.requestDigest = first.digest platform ∧
      prior.entityId = first.payload.journeyId)
    (collisionFree : platform.sha256 first.preimage = platform.sha256 second.preimage →
      first.preimage = second.preimage) :
    (second = first → second.replays platform prior = .done (second.replayed prior)) ∧
      (second ≠ first → second.replays platform prior =
        .fail (.application idempotencyConflict)) := by
  obtain ⟨known, current, _⟩ := resolveCommand_ok _ _ definition resolved
  obtain ⟨commandType, commandVersion, digestVersion, entityType⟩ := typed
  obtain ⟨requestDigest, entityId⟩ := bound
  constructor
  · rintro rfl
    unfold replays replayOrConflict
    rw [if_pos ⟨commandType.trans known.symm, commandVersion.trans current.symm, digestVersion,
      requestDigest, entityType, entityId⟩]
    rfl
  · intro different
    unfold replays replayOrConflict
    rw [if_neg]
    · rfl
    · rintro ⟨_, _, _, same, _, _⟩
      rw [requestDigest, digest_eq, digest_eq] at same
      exact different (preimage_injective first second (collisionFree same)).symm

end CommandContent

/-- The content of one use of the executor. -/
def CommandCall.content (call : CommandCall) : CommandContent :=
  ⟨call.commandId, call.commandType, call.commandVersion, call.payload⟩

/-- The digest identifies the content of a command exactly. Two canonical texts are equal
exactly when the contents are, field by field, in whatever order the fields were
supplied, and the digest is the hash of that text. So, in every state that any
interleaving of requests and failures reaches, each stored receipt belongs to one
committed command, and unless two texts collide a later request under its identifier is
replayed when it is that command and refused as a conflict when it is not. -/
theorem command_digest_exact (platform : Platform) (db : Database)
    (last : System Name Row Res Failure Request Reply) (empty : LedgerEmpty db)
    (run : Run (plainApi platform) (fun _ _ => True) (System.initial db) last) :
    (∀ (left right : CommandContent) (first second : Json), left.Supplies first →
      right.Supplies second → (dumps first = dumps second ↔ left = right)) ∧
    (∀ (content : CommandContent) (value : Json), content.Supplies value →
      content.digest platform =
        platform.sha256 ("trax.command.digest.v1".toList ++ nul :: dumps value)) ∧
    ∀ workspaceId userId commandId prior,
      last.db.lookup (Key.receipt workspaceId userId commandId) = some prior →
        ∃ commit ∈ last.history, ∃ call, commit.request.commandCall = some call ∧
          call.commandId = commandId ∧
            ∀ (second : CommandContent) (definition : CommandDefinition),
              resolveCommand second.commandType second.commandVersion = .ok definition →
              (platform.sha256 call.content.preimage = platform.sha256 second.preimage →
                call.content.preimage = second.preimage) →
              (second = call.content →
                second.replays platform prior = .done (second.replayed prior)) ∧
              (second ≠ call.content →
                second.replays platform prior = .fail (.application idempotencyConflict)) := by
  refine ⟨CommandContent.dumps_exact, ?_, ?_⟩
  · intro content value supplied
    rw [content.dumps_supplied value supplied]
    rfl
  · intro workspaceId userId commandId prior found
    have exact := linked_exact platform ⟨sessionsOf db, none⟩ db last.db last.history empty
      (history_committed platform db last run)
    rcases exact.receipts workspaceId userId commandId prior found with
      ⟨index, command, ⟨commit, here, explained⟩, ⟨_, _, named⟩, rfl⟩ |
      ⟨index, command, ⟨commit, here, explained⟩, ⟨_, _, named⟩, rfl⟩
    · refine ⟨commit, List.mem_of_getElem? here, command.call, explained.executes, named, ?_⟩
      intro second definition resolved collisionFree
      exact CommandContent.replays_exact platform _ command.call.content second definition resolved
        ⟨rfl, rfl, rfl, rfl⟩ ⟨rfl, rfl⟩ collisionFree
    · refine ⟨commit, List.mem_of_getElem? here, command.call, explained.executes, named, ?_⟩
      intro second definition resolved collisionFree
      exact CommandContent.replays_exact platform _ command.call.content second definition resolved
        ⟨rfl, rfl, rfl, rfl⟩ ⟨rfl, rfl⟩ collisionFree

namespace Sample

/-- The content of the sample command. -/
def content : CommandContent := ⟨5, "journey.update", 1, update⟩

/-- The same command with another name. -/
def altered : CommandContent :=
  ⟨5, "journey.update", 1, { update with name := "Oslo".toList, nameLength := by decide }⟩

/-- The sample platform with the digest of the altered command. -/
def hashing : Platform where
  sha256 text :=
    if text = altered.preimage then
      "271f572a77a2f5cfadf50f1d109071c223c78a95acc7cd1b718123cd12d2d64c".toList
    else platform.sha256 text
  collate := platform.collate

end Sample

/-- After the owner's update the same command is a replay, and the altered one is a
conflict. -/
theorem command_digest_exact_update :
    ∃ last prior, (System.initial Sample.database).steps (plainApi Sample.hashing)
        (.arrive Sample.command :: List.replicate 9 (.advance 0)) = some last ∧
      last.db.lookup (Key.receipt 2 1 5) = some prior ∧
        Sample.content.replays Sample.hashing prior = .done (Sample.content.replayed prior) ∧
          Sample.altered.replays Sample.hashing prior = .fail (.application idempotencyConflict) := by
  have made : ((System.initial Sample.database).steps (plainApi Sample.hashing)
      (.arrive Sample.command :: List.replicate 9 (.advance 0))).map
        (fun last => (last.history.map fun commit =>
          commit.request.commandCall.map fun call => call.content.preimage,
          (last.db.lookup (Key.receipt 2 1 5)).isSome)) =
            some ([some Sample.content.preimage], true) := by
    decide +kernel
  obtain ⟨last, ran, observed⟩ := Option.map_eq_some_iff.mp made
  obtain ⟨calls, stored⟩ := Prod.mk.inj observed
  obtain ⟨prior, found⟩ := Option.isSome_iff_exists.mp stored
  have empty : LedgerEmpty Sample.database := by
    constructor <;> intros <;> rfl
  obtain ⟨_, _, settled⟩ := command_digest_exact Sample.hashing Sample.database last empty
    (run_of_steps _ _ _ _ _ (fun _ _ _ => trivial) ran)
  obtain ⟨commit, member, call, executes, _, replays⟩ := settled 2 1 5 prior found
  have same : call.content = Sample.content := by
    apply preimage_injective
    have listed := List.mem_map_of_mem (f := fun commit =>
      commit.request.commandCall.map fun call => call.content.preimage) member
    rw [calls, List.mem_singleton, executes] at listed
    exact Option.some.inj listed
  have resolved : resolveCommand "journey.update" 1 = .ok journeyUpdateV1 := by decide
  refine ⟨last, prior, ran, found, ?_, ?_⟩
  · exact (replays Sample.content journeyUpdateV1 resolved (fun _ => by rw [same])).1 same.symm
  · refine (replays Sample.altered journeyUpdateV1 resolved ?_).2 ?_
    · rw [same]
      intro collided
      exact absurd collided (by decide +kernel)
    · rw [same]
      intro equal
      exact absurd (congrArg CommandContent.preimage equal) (by decide +kernel)

end TraxOs.Api
