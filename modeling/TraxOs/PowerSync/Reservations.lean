import TraxOs.PowerSync.Answers
import TraxOs.PowerSync.Sidecar

/-!
# Reservations

The client reserves bytes for a command before it knows what will be stored for it: the
command itself, the intent that a reset makes of it, the entry that the user reviews or
that is invalidated, or a terminal result. Each of these is measured again when it is
written or read, and an excess is an error.

The reservation is taken for the largest reservation number, and for a payload that is kept
or lost. A terminal result of a command with UUIDs has a bounded size, because its other
texts are a digest and words of the protocol.
-/

namespace TraxOs.PowerSync

open TraxOs.Theory
open TraxOs.ApiClient (Value leading)

section Texts

/-- A unit that is written as itself, in one byte. -/
def Plain (unit : UInt16) : Prop := leading unit = false ∧ unitBytes unit = 1

/-- The letters, digits and most signs of ASCII are plain. -/
theorem plain_of_printable (unit : UInt16) (after : 0x5D ≤ unit ∨ 0x23 ≤ unit ∧ unit < 0x5C)
    (before : unit < 0x80) : Plain unit := by
  simp only [UInt16.le_iff_toNat_le, UInt16.lt_iff_toNat_lt, UInt16.reduceToNat] at after before
  have apart : ∀ other : UInt16, other.toNat < 0x23 ∨ other.toNat = 0x5C → unit ≠ other := by
    rintro other outside rfl
    omega
  constructor
  · simp only [leading, Bool.and_eq_false_iff, decide_eq_false_iff_not,
      UInt16.le_iff_toNat_le, UInt16.reduceToNat]
    omega
  · have printable : ¬ unit < 0x20 ∧ unit < 0x80 := by
      simp only [UInt16.lt_iff_toNat_lt, UInt16.reduceToNat]
      omega
    simp only [unitBytes, apart 0x22 (by decide), apart 0x5C (by decide), apart 0x08 (by decide),
      apart 0x09 (by decide), apart 0x0A (by decide), apart 0x0C (by decide),
      apart 0x0D (by decide), or_self, if_false, printable.1, printable.2, if_true]

/-- A plain text is quoted in two bytes more than it has units. -/
theorem textBytes_plain (text : Text) (plain : ∀ unit ∈ text, Plain unit) :
    textBytes text = text.length + 2 := by
  have lengths : text.map unitBytes = List.replicate text.length 1 := by
    rw [List.eq_replicate_iff]
    refine ⟨List.length_map _, ?_⟩
    intro size there
    obtain ⟨unit, member, rfl⟩ := List.mem_map.mp there
    exact (plain unit member).2
  rw [textBytes, contentBytes_unpaired _ fun unit there => (plain unit there).1, lengths,
    List.sum_replicate]
  simp

/-- A unit that a class matches in small letters is plain, if the class has digits, dashes and
small letters only. -/
theorem plain_of_lower (unit : UInt16) (unitClass : UnitClass)
    (known : ∀ other, unitClass other = true →
      other = 45 ∨ (48 ≤ other ∧ other ≤ 57) ∨ (97 ≤ other ∧ other ≤ 102))
    (matched : unitClass (if 65 ≤ unit && unit ≤ 90 then unit + 32 else unit) = true) :
    Plain unit := by
  split at matched
  · next capital =>
    simp only [Bool.and_eq_true, decide_eq_true_eq, UInt16.le_iff_toNat_le,
      UInt16.reduceToNat] at capital
    apply plain_of_printable
    · simp only [UInt16.le_iff_toNat_le, UInt16.lt_iff_toNat_lt, UInt16.reduceToNat]
      omega
    · simp only [UInt16.lt_iff_toNat_lt, UInt16.reduceToNat]
      omega
  · rcases known unit matched with rfl | digit | letter
    · exact ⟨by decide, by decide⟩
    · simp only [UInt16.le_iff_toNat_le, UInt16.reduceToNat] at digit
      apply plain_of_printable
      · simp only [UInt16.le_iff_toNat_le, UInt16.lt_iff_toNat_lt, UInt16.reduceToNat]
        omega
      · simp only [UInt16.lt_iff_toNat_lt, UInt16.reduceToNat]
        omega
    · simp only [UInt16.le_iff_toNat_le, UInt16.reduceToNat] at letter
      apply plain_of_printable
      · simp only [UInt16.le_iff_toNat_le, UInt16.lt_iff_toNat_lt, UInt16.reduceToNat]
        omega
      · simp only [UInt16.lt_iff_toNat_lt, UInt16.reduceToNat]
        omega

/-- A text that such classes match in small letters is plain. -/
theorem plain_of_matches (classes : List UnitClass) (text : Text)
    (known : ∀ unitClass ∈ classes, ∀ other, unitClass other = true →
      other = 45 ∨ (48 ≤ other ∧ other ≤ 57) ∨ (97 ≤ other ∧ other ≤ 102))
    (matched : matchesAll classes (toLowerCase text) = true) :
    (∀ unit ∈ text, Plain unit) ∧ text.length = classes.length := by
  refine ⟨?_, by rw [← matchesAll_length _ _ matched, toLowerCase, List.length_map]⟩
  induction classes generalizing text with
  | nil =>
    cases text with
    | nil => exact List.forall_mem_nil _
    | cons unit rest => cases matched
  | cons unitClass classes inductionHypothesis =>
    cases text with
    | nil => cases matched
    | cons unit rest =>
      obtain ⟨here, later⟩ := (Bool.and_eq_true _ _).mp matched
      rw [List.forall_mem_cons]
      constructor
      · exact plain_of_lower unit unitClass (known unitClass List.mem_cons_self) here
      · exact inductionHypothesis rest
          (fun other member => known other (List.mem_cons_of_mem _ member)) later

/-- `[0-9a-f]` has digits and letters only. -/
theorem hexadecimal_known (unit : UInt16) (digit : hexadecimal unit = true) :
    unit = 45 ∨ (48 ≤ unit ∧ unit ≤ 57) ∨ (97 ≤ unit ∧ unit ≤ 102) := by
  simp only [hexadecimal, Bool.or_eq_true, Bool.and_eq_true, decide_eq_true_eq] at digit
  exact Or.inr digit

/-- So have the classes of a UUID, but for the dashes. -/
theorem uuidShape_known (unitClass : UnitClass)
    (member : unitClass ∈ uuidShape fun unit => 49 ≤ unit && unit ≤ 53) (unit : UInt16)
    (matched : unitClass unit = true) :
    unit = 45 ∨ (48 ≤ unit ∧ unit ≤ 57) ∨ (97 ≤ unit ∧ unit ≤ 102) := by
  have dash : (unit == 45) = true →
      unit = 45 ∨ (48 ≤ unit ∧ unit ≤ 57) ∨ (97 ≤ unit ∧ unit ≤ 102) := by
    intro same
    exact Or.inl (beq_iff_eq.mp same)
  have version : (decide (49 ≤ unit) && decide (unit ≤ 53)) = true →
      unit = 45 ∨ (48 ≤ unit ∧ unit ≤ 57) ∨ (97 ≤ unit ∧ unit ≤ 102) := by
    intro between
    simp only [Bool.and_eq_true, decide_eq_true_eq, UInt16.le_iff_toNat_le,
      UInt16.reduceToNat] at between ⊢
    omega
  have variant : (unit == 56 || unit == 57 || unit == 97 || unit == 98) = true →
      unit = 45 ∨ (48 ≤ unit ∧ unit ≤ 57) ∨ (97 ≤ unit ∧ unit ≤ 102) := by
    intro among
    simp only [Bool.or_eq_true, beq_iff_eq] at among
    rcases among with ((rfl | rfl) | rfl) | rfl <;> decide
  simp only [uuidShape, List.mem_append, List.mem_cons, List.mem_replicate] at member
  rcases member with ((((⟨_, rfl⟩ | rfl | ⟨_, rfl⟩) | rfl | rfl | ⟨_, rfl⟩) | rfl | rfl | ⟨_, rfl⟩) |
    rfl | ⟨_, rfl⟩)
  all_goals first
    | exact hexadecimal_known unit matched
    | exact dash matched
    | exact version matched
    | exact variant matched

/-- A UUID is quoted in 38 bytes, in capitals as well. -/
theorem textBytes_identifier (text : Text) (valid : isUuid (toLowerCase text) = true) :
    textBytes text = 38 := by
  obtain ⟨plain, length⟩ := plain_of_matches _ text uuidShape_known valid
  rw [textBytes_plain text plain, length]
  rfl

/-- A digest is quoted in 66 bytes. -/
theorem textBytes_digest (text : Text)
    (valid : matchesAll (List.replicate 64 hexadecimal) (toLowerCase text) = true) :
    textBytes text = 66 := by
  have known : ∀ unitClass ∈ List.replicate 64 hexadecimal, ∀ other, unitClass other = true →
      other = 45 ∨ (48 ≤ other ∧ other ≤ 57) ∨ (97 ≤ other ∧ other ≤ 102) := by
    intro unitClass member other digit
    rw [(List.mem_replicate.mp member).2] at digit
    exact hexadecimal_known other digit
  obtain ⟨plain, length⟩ := plain_of_matches _ text known valid
  rw [textBytes_plain text plain, length]
  rfl

/-- A safe integer has at most 16 digits. -/
theorem numeral_safe (number : Nat) (safe : number ≤ maxSafeInteger) :
    (numeral number).length ≤ 16 := by
  unfold numeral
  split
  · decide
  · have digits : (Nat.digits 10 number).length ≤ 16 := by
      rw [Nat.digits_length_le_iff (by decide)]
      unfold maxSafeInteger at safe
      omega
    simpa [decimal] using digits

end Texts

section Results

/-- A member that is a text. -/
def textMember : Option Value → Option Text
  | some (.text text) => some text
  | _ => none

/-- The members of a result as a `TerminalResultRecord`, if they have its types. -/
def Members.record (members : Members) : Option TerminalResultRecord := do
  let commandId ← textMember (members.get "commandId")
  let resourceId ← textMember (members.get "resourceId")
  let state ← textMember (members.get "state")
  let code ← textMember (members.get "code")
  let previousVersion ← positiveSafe (members.get "previousVersion")
  let currentVersion ← positiveSafe (members.get "currentVersion")
  let digest ← textMember (members.get "digest")
  let attemptNumber ← positiveSafe (members.get "attemptNumber")
  pure ⟨commandId, resourceId, state, code, previousVersion, currentVersion, digest, attemptNumber⟩

/-- The digests of a platform are SHA-256 in hexadecimal. -/
def Hexadecimal (platform : ClientPlatform) : Prop :=
  ∀ object, matchesAll (List.replicate 64 hexadecimal)
    (toLowerCase (platform.sha256Json object)) = true

/-- A result with which an upload completes, for a command with UUIDs. -/
structure Uploaded (platform : ClientPlatform) (record : TerminalResultRecord) : Prop where
  completed : ∃ session commands failures response results members,
    uploadData platform session commands failures response = .completed results ∧
      members ∈ results ∧ Members.record members = some record
  commandId : isUuid (toLowerCase record.commandId) = true
  resourceId : isUuid (toLowerCase record.resourceId) = true

/-- A text is read as it is. -/
theorem textMember_some (value : Option Value) (text : Text) (read : textMember value = some text) :
    value = some (.text text) := by
  unfold textMember at read
  split at read
  · cases read
    rfl
  · cases read

/-- What a record says of the members. -/
theorem record_some (members : Members) (record : TerminalResultRecord)
    (read : Members.record members = some record) :
    (members.get "commandId" = some (.text record.commandId) ∧
      members.get "code" = some (.text record.code) ∧
      members.get "state" = some (.text record.state) ∧
      members.get "digest" = some (.text record.digest)) ∧
      record.previousVersion ≤ maxSafeInteger ∧ record.currentVersion ≤ maxSafeInteger ∧
        record.attemptNumber ≤ maxSafeInteger := by
  unfold Members.record at read
  simp only [Option.bind_eq_bind, Option.bind_eq_some_iff, Option.pure_def,
    Option.some.injEq] at read
  obtain ⟨commandId, named, resourceId, _, state, stated, code, coded, previous, _, current, _,
    digest, digested, attempt, _, rfl⟩ := read
  exact ⟨⟨textMember_some _ _ named, textMember_some _ _ coded, textMember_some _ _ stated,
    textMember_some _ _ digested⟩, previous.2.2, current.2.2, attempt.2.2⟩

variable {platform : ClientPlatform} {binding : ReplicaBinding}

/-- Each worded result that is read answers a command. -/
theorem parseResults_each (expected left : List SpikeCommand) (items : List Value)
    (results : List Members)
    (read : parseResults platform binding expected items = .ok (results, left)) (result : Members)
    (member : result ∈ results) (named : ∃ text, result.get "commandId" = some (.text text))
    (coded : ∃ text, result.get "code" = some (.text text)) :
    ∃ command, AnswersCommand platform binding command result := by
  induction items generalizing expected results with
  | nil =>
    obtain ⟨rfl, _⟩ := Prod.mk.inj (Except.ok.inj read)
    cases member
  | cons raw items inductionHypothesis =>
    unfold parseResults at read
    obtain ⟨⟨first, awaited⟩, here, read⟩ := (bind_ok _ _ _).mp read
    obtain ⟨⟨later, rest⟩, after, read⟩ := (bind_ok _ _ _).mp read
    obtain ⟨rfl, rfl⟩ := Prod.mk.inj (Except.ok.inj read)
    rcases List.mem_cons.mp member with rfl | inside
    · obtain ⟨_, command, _, _, answers⟩ := parseResult_answers expected awaited raw result here
      exact ⟨command, answers named coded⟩
    · exact inductionHypothesis awaited later after inside

/-- So does each worded result of an accepted response. -/
theorem parseCommandResponse_each (value : Value) (commands : List SpikeCommand)
    (results : List Members)
    (accepted : parseCommandResponse platform value commands binding = .ok results)
    (result : Members) (member : result ∈ results)
    (named : ∃ text, result.get "commandId" = some (.text text))
    (coded : ∃ text, result.get "code" = some (.text text)) :
    ∃ command, AnswersCommand platform binding command result := by
  unfold parseCommandResponse at accepted
  obtain ⟨_, _, accepted⟩ := (bind_ok _ _ _).mp accepted
  obtain ⟨_, _, accepted⟩ := (bind_ok _ _ _).mp accepted
  split at accepted
  · obtain ⟨_, _, accepted⟩ := (bind_ok _ _ _).mp accepted
    obtain ⟨⟨read, left⟩, parsed, accepted⟩ := (bind_ok _ _ _).mp accepted
    obtain ⟨_, _, accepted⟩ := (bind_ok _ _ _).mp accepted
    obtain rfl := Except.ok.inj accepted
    exact parseResults_each _ left _ read parsed result member named coded
  · cases accepted

/-- The client records a result by itself, or takes it from an accepted response. -/
theorem uploadData_results (session : ReplicaSessionSecret) (commands : List SpikeCommand)
    (failures : Nat) (response : Option (Nat × Option Value)) (results : List Members)
    (completed : uploadData platform session commands failures response = .completed results) :
    (∃ value, parseCommandResponse platform value commands session.binding = .ok results) ∨
      ∃ code attempt, (code = "retry_exhausted" ∨ code = "idempotency_conflict") ∧
        results = (commands.take 1).map fun command =>
          failedResult platform session.binding command code attempt := by
  have transient : ∀ done, transientFailure platform session.binding commands failures =
      .completed done → ∃ attempt, done = (commands.take 1).map fun command =>
        failedResult platform session.binding command "retry_exhausted" attempt := by
    intro done ended
    unfold transientFailure at ended
    split at ended
    · cases ended
      exact ⟨_, rfl⟩
    · cases ended
  unfold uploadData at completed
  split at completed
  · obtain ⟨attempt, rfl⟩ := transient results completed
    exact Or.inr ⟨_, attempt, Or.inl rfl, rfl⟩
  · split at completed
    · cases completed
    · split at completed
      · obtain ⟨attempt, rfl⟩ := transient results completed
        exact Or.inr ⟨_, attempt, Or.inl rfl, rfl⟩
      · split at completed
        · cases completed
        · split at completed
          · split at completed
            · next accepted =>
              split at completed
              · cases completed
                exact Or.inl ⟨_, accepted⟩
              · cases completed
            · cases completed
          · split at completed
            · cases completed
              exact Or.inr ⟨_, 1, Or.inr rfl, rfl⟩
            · split at completed
              · unfold completeWith at completed
                split at completed
                · next accepted =>
                  cases completed
                  exact Or.inl ⟨_, accepted⟩
                · cases completed
              · cases completed

/-- The words and the digest of a result that an upload stores. -/
theorem uploaded_words (hexadecimal : Hexadecimal platform) (record : TerminalResultRecord)
    (uploaded : Uploaded platform record) :
    textBytes record.state ≤ 10 ∧ textBytes record.code ≤ 22 ∧ textBytes record.digest = 66 := by
  obtain ⟨session, commands, failures, response, results, members, completed, member, read⟩ :=
    uploaded.completed
  obtain ⟨⟨named, coded, stated, digested⟩, _⟩ := record_some members record read
  rcases uploadData_results session commands failures response results completed with
    ⟨value, accepted⟩ | ⟨code, attempt, known, rfl⟩
  · obtain ⟨command, answers⟩ := parseCommandResponse_each value commands results accepted members
      member ⟨_, named⟩ ⟨_, coded⟩
    obtain ⟨code, worded, consistent⟩ := answers.consistent
    rw [coded, Option.some.injEq, Value.text.injEq] at worded
    rw [stated, Option.some.injEq, Value.text.injEq] at consistent
    have digest := answers.digest
    rw [digested, Option.some.injEq, Value.text.injEq] at digest
    rw [worded, consistent, digest]
    have words : textBytes code.state.text ≤ 10 ∧ textBytes code.text ≤ 22 := by
      cases code <;> decide
    exact ⟨words.1, words.2, textBytes_digest _ (hexadecimal _)⟩
  · obtain ⟨command, _, rfl⟩ := List.mem_map.mp member
    have state : Members.get (failedResult platform session.binding command code attempt) "state" =
        some (.text (ascii "failed")) := rfl
    have word : Members.get (failedResult platform session.binding command code attempt) "code" =
        some (.text (ascii code)) := rfl
    have digest : Members.get (failedResult platform session.binding command code attempt)
        "digest" = some (.text (commandDigest platform.toPlatform command session.binding)) := rfl
    rw [state, Option.some.injEq, Value.text.injEq] at stated
    rw [word, Option.some.injEq, Value.text.injEq] at coded
    rw [digest, Option.some.injEq, Value.text.injEq] at digested
    rw [← stated, ← coded, ← digested]
    refine ⟨by decide, ?_, textBytes_digest _ (hexadecimal _)⟩
    rcases known with rfl | rfl <;> decide

/-- A terminal result of a command with UUIDs fits into the smallest reservation. -/
theorem uploaded_bytes (hexadecimal : Hexadecimal platform) (record : TerminalResultRecord)
    (uploaded : Uploaded platform record) :
    terminalResultSerializedBytes record ≤ terminalResultReservationBytes := by
  obtain ⟨state, code, digest⟩ := uploaded_words hexadecimal record uploaded
  obtain ⟨_, _, _, _, _, members, _, _, read⟩ := uploaded.completed
  obtain ⟨_, previous, current, attempt⟩ := record_some members record read
  have versions := numeral_safe record.previousVersion previous
  have currents := numeral_safe record.currentVersion current
  have attempts := numeral_safe record.attemptNumber attempt
  have command := textBytes_identifier record.commandId uploaded.commandId
  have resource := textBytes_identifier record.resourceId uploaded.resourceId
  have names : textBytes (ascii "commandId") = 11 ∧ textBytes (ascii "resourceId") = 12 ∧
      textBytes (ascii "state") = 7 ∧ textBytes (ascii "code") = 6 ∧
      textBytes (ascii "previousVersion") = 17 ∧ textBytes (ascii "currentVersion") = 16 ∧
      textBytes (ascii "digest") = 8 ∧ textBytes (ascii "attemptNumber") = 15 := by decide
  obtain ⟨one, two, three, four, five, six, seven, eight⟩ := names
  simp only [terminalResultSerializedBytes, objectBytes_cons, objectBytes_single, ne_eq,
    reduceCtorEq, not_false_eq_true, one, two, three, four, five, six, seven, eight, Scalar.bytes,
    command, resource, digest, terminalResultReservationBytes]
  omega

end Results

section Sizes

variable (entry : QuarantineEntry) (reserved : Nat)

/-- The reservation of an entry covers its intent, authorised or not. -/
theorem reservation_covers_pending (bounded : reserved ≤ 65536) (initiallyAuthorized : Bool) :
    entry.pendingBytes initiallyAuthorized reserved ≤ quarantineEntryReservationBytes entry := by
  have short := numeral_short reserved bounded
  rw [quarantineEntryReservationBytes_eq, pendingBytes_eq]
  cases initiallyAuthorized <;> simp only [Scalar.bytes] <;> omega

/-- It covers the entry for review. -/
theorem reservation_covers_review (bounded : reserved ≤ 65536) :
    entry.finalizedBytes .pendingReview entry.payload 1 reserved ≤
      quarantineEntryReservationBytes entry := by
  have short := numeral_short reserved bounded
  have words : textBytes QuarantineState.pendingReview.text = 16 ∧ (numeral 1).length = 1 := by
    decide
  rw [quarantineEntryReservationBytes_eq, finalizedBytes_eq, words.1, words.2]
  omega

/-- It covers the entry without its payload. -/
theorem reservation_covers_invalidated (bounded : reserved ≤ 65536) :
    entry.finalizedBytes .invalidated none 0 reserved ≤ quarantineEntryReservationBytes entry := by
  have short := numeral_short reserved bounded
  have payload := two_le_payloadBytes entry.payload
  have words : textBytes QuarantineState.invalidated.text = 13 ∧ (numeral 0).length = 1 ∧
      payloadBytes none = 4 := by decide
  rw [quarantineEntryReservationBytes_eq, finalizedBytes_eq, words.1, words.2.1, words.2.2]
  omega

end Sizes

section Refusals

/-- Different messages are different errors. -/
theorem throwing_ne {α : Type} (one two : String) (differ : ascii one ≠ ascii two) :
    (throwing one : Except StateError α) ≠ throwing two := by
  intro same
  unfold throwing at same
  simp only [Except.error.injEq, StateError.thrown.injEq] at same
  exact differ same

/-- A requirement refuses with its own message. -/
theorem require_avoids (condition : Bool) (message other : String)
    (differ : ascii message ≠ ascii other) : require condition message ≠ throwing other := by
  cases condition with
  | false => exact throwing_ne message other differ
  | true => simp [require, throwing]

/-- A requirement that is met does not refuse. -/
theorem require_met (message other : String) : require true message ≠ throwing other := by
  simp [require, throwing]

/-- `quarantineString` refuses with the name of the field. -/
theorem quarantineString_avoids (value : Option Value) (field other : String)
    (differ : ascii "Invalid quarantine " ++ ascii field ++ ascii "." ≠ ascii other) :
    quarantineString value field ≠ throwing other := by
  unfold quarantineString throwing
  split
  · simp
  · simpa using differ

/-- The errors of the parts of an entry. -/
def entryErrors : List String :=
  ["Invalid quarantine id.", "Invalid quarantine resource_id.",
    "Invalid quarantine resource_incarnation_id.", "Invalid quarantine command_type.",
    "Invalid quarantine payload.", "Invalid quarantine expected version.",
    "Invalid quarantine reservation."]

/-- A message of none of these parts. -/
def Foreign (other : String) : Prop := ∀ message ∈ entryErrors, ascii message ≠ ascii other

instance (other : String) : Decidable (Foreign other) :=
  inferInstanceAs (Decidable (∀ message ∈ entryErrors, ascii message ≠ ascii other))

/-- The payload of an entry. -/
theorem quarantinePayload_avoids (value : Option Value) (other : String) (foreign : Foreign other) :
    quarantinePayload value ≠ throwing other := by
  unfold quarantinePayload
  split
  · simp [throwing]
  · exact map_avoids _ _ _ (quarantineString_avoids _ _ _
      (foreign "Invalid quarantine payload." (by decide)))

/-- The expected version of an entry. -/
theorem quarantineVersion_avoids (convert : Conversion) (value : Option Value) (other : String)
    (foreign : Foreign other) : quarantineVersion convert value ≠ throwing other := by
  unfold quarantineVersion
  split
  · simp [throwing]
  · exact throwing_ne _ _ (foreign "Invalid quarantine expected version." (by decide))

/-- Its texts. -/
theorem quarantineEntry_avoids (value : Members) (payload : Option Text) (version : Option Nat)
    (other : String) (foreign : Foreign other) :
    quarantineEntry value payload version ≠ throwing other := by
  unfold quarantineEntry
  refine bind_avoids _ _ _ (quarantineString_avoids _ _ _
    (foreign "Invalid quarantine id." (by decide))) fun _ _ => ?_
  refine bind_avoids _ _ _ (quarantineString_avoids _ _ _
    (foreign "Invalid quarantine resource_id." (by decide))) fun _ _ => ?_
  refine bind_avoids _ _ _ (quarantineString_avoids _ _ _
    (foreign "Invalid quarantine resource_incarnation_id." (by decide))) fun _ _ => ?_
  refine bind_avoids _ _ _ (quarantineString_avoids _ _ _
    (foreign "Invalid quarantine command_type." (by decide))) fun _ _ => ?_
  simp [pure, Except.pure]

/-- Its reservation. -/
theorem normalizeQuarantineReservation_avoids (convert : Conversion) (raw : Option Value)
    (entry : QuarantineEntry) (other : String) (foreign : Foreign other) :
    normalizeQuarantineReservation convert raw entry ≠ throwing other := by
  unfold normalizeQuarantineReservation
  refine bind_avoids _ _ _ (require_avoids _ _ _
    (foreign "Invalid quarantine reservation." (by decide))) fun _ _ => ?_
  simp [pure, Except.pure]

/-- A finalized entry never exceeds the reservation that it is read with. -/
theorem normalizeFinalizedQuarantine_fits (convert : Conversion) (allow : Bool) (raw : Value) :
    normalizeFinalizedQuarantine convert allow raw ≠
      throwing "Finalized quarantine representation exceeds reservation." := by
  have foreign : Foreign "Finalized quarantine representation exceeds reservation." := by decide
  unfold normalizeFinalizedQuarantine
  refine bind_avoids _ _ _ ?_ fun value _ => bind_avoids _ _ _ ?_ fun state _ =>
    bind_avoids _ _ _ (quarantinePayload_avoids _ _ foreign) fun payload _ =>
      bind_avoids _ _ _ (require_avoids _ _ _ (by decide)) fun _ consistent =>
        bind_avoids _ _ _ ?_ fun version _ =>
          bind_avoids _ _ _ (quarantineEntry_avoids _ _ _ _ foreign) fun base read =>
            bind_avoids _ _ _ (normalizeQuarantineReservation_avoids _ _ _ _ foreign)
              fun reserved covered => bind_avoids _ _ _ ?_ fun _ _ => ?_
  · unfold objectMembers
    split
    · simp
    · exact throwing_ne _ _ (by decide)
  · unfold finalizedState
    split
    · simp
    · split
      · simp
      · exact throwing_ne _ _ (by decide)
  · split
    · simp
    · exact map_avoids _ _ _ (quarantineVersion_avoids _ _ _ foreign)
  · obtain ⟨covers, bounded⟩ := normalizeQuarantineReservation_ok convert _ _ _ covered
    have kept : base.payload = payload := ((quarantineEntry_ok _ _ _ _).mp read).2.2.2.2.1
    rw [require_ok, Bool.and_eq_true, Bool.or_eq_true] at consistent
    have fits : base.finalizedBytes state payload (if state = .pendingReview then 1 else 0)
        reserved ≤ reserved := by
      cases state with
      | pendingReview =>
        rw [← kept, if_pos rfl]
        exact (reservation_covers_review base reserved bounded).trans covers
      | invalidated =>
        obtain rfl := Option.isNone_iff_eq_none.mp (consistent.2.resolve_left (by decide))
        rw [if_neg (by decide)]
        exact (reservation_covers_invalidated base reserved bounded).trans covers
    rw [decide_eq_true fits]
    exact require_met _ _
  · simp [pure, Except.pure]

/-- Nor does an intent. -/
theorem normalizePendingQuarantine_fits (convert : Conversion) (raw : Value) :
    normalizePendingQuarantine convert raw ≠
      throwing "Pending quarantine representation exceeds reservation." := by
  have foreign : Foreign "Pending quarantine representation exceeds reservation." := by decide
  unfold normalizePendingQuarantine
  refine bind_avoids _ _ _ ?_ fun value _ => bind_avoids _ _ _ ?_ fun authorized _ =>
    bind_avoids _ _ _ (quarantinePayload_avoids _ _ foreign) fun payload _ =>
      bind_avoids _ _ _ (require_avoids _ _ _ (by decide)) fun _ _ =>
        bind_avoids _ _ _ (quarantineVersion_avoids _ _ _ foreign) fun version _ =>
          bind_avoids _ _ _ (quarantineEntry_avoids _ _ _ _ foreign) fun base _ =>
            bind_avoids _ _ _ (normalizeQuarantineReservation_avoids _ _ _ _ foreign)
              fun reserved covered => bind_avoids _ _ _ ?_ fun _ _ => ?_
  · unfold objectMembers
    split
    · simp
    · exact throwing_ne _ _ (by decide)
  · unfold authorizationState
    split
    · simp
    · exact throwing_ne _ _ (by decide)
  · obtain ⟨covers, bounded⟩ := normalizeQuarantineReservation_ok convert _ _ _ covered
    rw [decide_eq_true ((reservation_covers_pending base reserved bounded authorized).trans covers)]
    exact require_met _ _
  · simp [pure, Except.pure]

/-- `assertResetCapacity` refuses for other reasons. -/
theorem assertResetCapacity_avoids (tables : ApplicationTables) (store : QuarantineStore)
    (other : String) (differ : ∀ message ∈ ["Invalid combined capacity accounting input.",
      "quarantine_capacity_exceeded", "quarantine_byte_capacity_exceeded"],
        ascii message ≠ ascii other) :
    assertResetCapacity tables store ≠ throwing other := by
  unfold assertResetCapacity assertCombinedOutstandingCapacity
  refine bind_avoids _ _ _ (require_avoids _ _ _ (differ _ (by decide))) fun _ _ => ?_
  refine bind_avoids _ _ _ (require_avoids _ _ _ (differ _ (by decide))) fun _ _ => ?_
  exact require_avoids _ _ _ (differ _ (by decide))

/-- No intent that was read becomes an entry that exceeds its reservation. -/
theorem finalizeReset_fits (localeCompare : Text → Text → Bool) (tables : ApplicationTables)
    (retained : QuarantineStore) (readable : retained.Readable)
    (preserve present : QuarantineIntent → Bool) :
    finalizeReset localeCompare tables retained preserve present ≠
      throwing "quarantine_representation_reservation_exceeded" := by
  have fits : ∀ item ∈ retained.pending, ∀ visible : Bool,
      (item.finalized visible).bytes ≤ (item.finalized visible).reservedBytes := by
    intro item member visible
    obtain ⟨entry, _⟩ := readable.pending item member
    cases visible with
    | true => exact (reservation_covers_review item.entry _ entry.bounded).trans entry.covered
    | false => exact (reservation_covers_invalidated item.entry _ entry.bounded).trans entry.covered
  unfold finalizeReset
  refine bind_avoids _ _ _ (assertResetCapacity_avoids _ _ _ (by decide)) fun _ _ => ?_
  dsimp only
  refine bind_avoids _ _ _ ?_ fun _ _ => bind_avoids _ _ _ ?_ fun merged _ =>
    bind_avoids _ _ _ (assertResetCapacity_avoids _ _ _ (by decide)) fun _ _ => ?_
  · have all : ((retained.pending.map fun item =>
        item.finalized (item.initiallyAuthorized && preserve item && present item)).all
          fun command => command.bytes ≤ command.reservedBytes) = true := by
      rw [List.all_eq_true]
      intro command member
      obtain ⟨item, there, rfl⟩ := List.mem_map.mp member
      exact decide_eq_true (fits item there _)
    rw [all]
    exact require_met _ _
  · unfold mergeFinalizedQuarantine
    refine bind_avoids _ _ _ (require_avoids _ _ _ (by decide)) fun _ _ => ?_
    simp [pure, Except.pure]
  · simp [pure, Except.pure]

/-- A round of `persistResults` does not exceed a reservation: an overlay reserves enough for
every result that fits into the smallest reservation. -/
theorem persistResult_fits (result : TerminalResultRecord) (tables : ApplicationTables)
    (reserves : ∀ row ∈ tables.overlays, terminalResultReservationBytes ≤ row.serializedBytes)
    (small : terminalResultSerializedBytes result ≤ terminalResultReservationBytes) :
    persistResult result tables ≠ throwing "terminal_result_reservation_exceeded" := by
  unfold persistResult
  split
  · split
    · simp [throwing]
    · exact throwing_ne _ _ (by decide)
  · refine bind_avoids _ _ _ ?_ fun reserved taken => bind_avoids _ _ _ ?_ fun _ _ =>
      bind_avoids _ _ _ ?_ fun _ _ => bind_avoids _ _ _ ?_ fun inserted _ => ?_
    · unfold reservationAfter
      split
      · simp
      · unfold reservedOutstandingBytes
        split
        · exact throwing_ne _ _ (by decide)
        · simp
    · have covered : terminalResultSerializedBytes result ≤ reserved := by
        unfold reservationAfter at taken
        split at taken
        · next overlay found =>
          rw [← Except.ok.inj taken]
          exact small.trans (reserves overlay (List.mem_of_find?_eq_some found))
        · rw [reservedOutstandingBytes_ok _ _ taken]
          exact Nat.le_max_left _ _
      rw [decide_eq_true covered]
      exact require_met _ _
    · split
      · unfold assertOutstandingCapacity
        split
        · exact throwing_ne _ _ (by decide)
        · split
          · exact throwing_ne _ _ (by decide)
          · split
            · exact throwing_ne _ _ (by decide)
            · simp
      · simp
    · unfold ApplicationTables.insertResult
      split <;> simp
    · simp [pure, Except.pure]

/-- So no round of a batch does. -/
theorem persistResults_fits (results : List TerminalResultRecord) (tables : ApplicationTables)
    (reserves : ∀ row ∈ tables.overlays, terminalResultReservationBytes ≤ row.serializedBytes)
    (small : ∀ result ∈ results,
      terminalResultSerializedBytes result ≤ terminalResultReservationBytes) :
    (persistResults results tables).1 ≠ throwing "terminal_result_reservation_exceeded" := by
  have looped : (stepThrough persistResult results tables).1 ≠
      throwing "terminal_result_reservation_exceeded" := by
    induction results generalizing tables with
    | nil => simp [stepThrough, throwing]
    | cons result results inductionHypothesis =>
      rw [List.forall_mem_cons] at small
      cases round : persistResult result tables with
      | error failure =>
        have fits := persistResult_fits result tables reserves small.1
        rw [round] at fits
        simp only [stepThrough, round]
        unfold throwing at fits ⊢
        exact fun same => fits (congrArg Except.error (Except.error.inj same))
      | ok next =>
        have kept : ∀ row ∈ next.overlays, terminalResultReservationBytes ≤ row.serializedBytes := by
          intro row there
          rcases persistResult_done result tables next round with
            ⟨_, _, _, rfl⟩ | ⟨_, _, _, _, rfl⟩
          · exact reserves row (List.mem_filter.mp there).1
          · exact reserves row (List.mem_filter.mp there).1
        simpa only [stepThrough, round] using inductionHypothesis next kept small.2
  unfold persistResults atomically
  split
  · next failure _ failed => exact fun same => looped (by rw [failed]; simpa using same)
  · simp [throwing]

end Refusals

namespace Sample

/-- A client whose digest is that of the sample update in the sample session. -/
def hashing : ClientPlatform where
  toPlatform :=
    { platform with
      sha256Json := fun _ => ascii "f32a1b9d454bb7c169ca624b5774366db3ce8dda05386bba7be51dcf9fd55150" }
  described _ := ascii "object"

/-- The digest has its shape. -/
theorem hashing_hexadecimal : Hexadecimal hashing := by
  intro object
  change matchesAll (List.replicate 64 hexadecimal) (toLowerCase (ascii
    "f32a1b9d454bb7c169ca624b5774366db3ce8dda05386bba7be51dcf9fd55150")) = true
  decide +kernel

/-- The result of the sample update after five failures. -/
def exhausted : TerminalResultRecord where
  commandId := update.command.commandId
  resourceId := update.command.resourceId
  state := ascii "failed"
  code := ascii "retry_exhausted"
  previousVersion := 1
  currentVersion := 1
  digest := commandDigest hashing.toPlatform update.command binding
  attemptNumber := 5

/-- The fifth failure stores it. -/
theorem exhausted_uploaded : Uploaded hashing exhausted where
  completed := ⟨session, [update.command], 4, none, _, _, rfl, List.mem_cons_self, by decide +kernel⟩
  commandId := by decide +kernel
  resourceId := by decide +kernel

end Sample

end TraxOs.PowerSync
