import TraxOs.Theory.Alignments
import TraxOs.PowerSync.Agreement
import TraxOs.PowerSync.Resets

/-!
# What the quarantine file gives back

A store is readable when its entries are: their texts are not empty, their versions are
safe, and each reservation covers the size that the reader computes. The reader makes
readable stores only, and it takes a readable store back from what the writer wrote. The
writer does not test its entries, so that a store that it writes comes back unchanged
exactly when it is readable.
-/

namespace TraxOs.PowerSync

open TraxOs.Theory
open TraxOs.ApiClient (Value Number)

section Readable

/-- The reader leaves an entry with this reservation as it is. -/
structure QuarantineEntry.Readable (entry : QuarantineEntry) (reservedBytes : Nat) : Prop where
  id : entry.id ≠ []
  resourceId : entry.resourceId ≠ []
  resourceIncarnationId : entry.resourceIncarnationId ≠ []
  commandType : entry.commandType ≠ []
  payload : entry.payload ≠ some []
  version : ∀ version, entry.expectedRecordVersion = some version →
    1 ≤ version ∧ version ≤ maxSafeInteger
  covered : quarantineEntryReservationBytes entry ≤ reservedBytes
  bounded : reservedBytes ≤ 65536

/-- The reader leaves a finalized entry as it is. -/
structure QuarantinedCommand.Readable (command : QuarantinedCommand) : Prop where
  entry : command.entry.Readable command.reservedBytes
  exportable : command.exportable = if command.state = .pendingReview then 1 else 0
  withheld : command.state = .invalidated → command.payload = none

/-- The reader leaves an intent as it is. -/
structure QuarantineIntent.Readable (intent : QuarantineIntent) : Prop where
  entry : intent.entry.Readable intent.reservedBytes
  denied : intent.initiallyAuthorized = false → intent.payload = none

/-- The reader leaves a store as it is. -/
structure QuarantineStore.Readable (store : QuarantineStore) : Prop where
  finalized : ∀ command ∈ store.finalized, command.Readable
  pending : ∀ intent ∈ store.pending, intent.Readable
  distinct : store.ids.Nodup

/-- The reservation is a number of five digits at most. -/
theorem numeral_short (number : Nat) (bounded : number ≤ 65536) : (numeral number).length ≤ 5 := by
  unfold numeral
  split
  · decide
  · have digits : (Nat.digits 10 number).length ≤ 5 := by
      rw [Nat.digits_length_le_iff (by decide)]
      omega
    simpa [decimal] using digits

/-- The reservation covers the finalized form. -/
theorem QuarantinedCommand.Readable.bytes_le {command : QuarantinedCommand}
    (readable : command.Readable) : command.bytes ≤ command.reservedBytes := by
  have covered := readable.entry.covered
  have short := numeral_short command.reservedBytes readable.entry.bounded
  have texts : textBytes QuarantineState.pendingReview.text = 16 ∧
      textBytes QuarantineState.invalidated.text = 13 ∧ (numeral 0).length = 1 ∧
      (numeral 1).length = 1 := by decide
  obtain ⟨review, invalidated, zero, one⟩ := texts
  rw [quarantineEntryReservationBytes_eq] at covered
  rw [QuarantinedCommand.bytes, finalizedBytes_eq, readable.exportable]
  simp only [QuarantinedCommand.entry] at covered ⊢
  cases command.state with
  | pendingReview =>
    rw [if_pos rfl, review, one]
    omega
  | invalidated =>
    rw [if_neg (by decide), invalidated, zero]
    omega

/-- The reservation covers the form of an intent. -/
theorem QuarantineIntent.Readable.bytes_le {intent : QuarantineIntent}
    (readable : intent.Readable) :
    intent.entry.pendingBytes intent.initiallyAuthorized intent.reservedBytes ≤
      intent.reservedBytes := by
  have covered := readable.entry.covered
  have short := numeral_short intent.reservedBytes readable.entry.bounded
  rw [quarantineEntryReservationBytes_eq] at covered
  rw [pendingBytes_eq]
  cases intent.initiallyAuthorized with
  | true =>
    simp only [Scalar.bytes]
    omega
  | false =>
    simp only [Scalar.bytes]
    omega

end Readable

section Reading

/-- A text of the quarantine is a string that is not empty. -/
theorem quarantineString_ok (value : Option Value) (field : String) (text : Text) :
    quarantineString value field = .ok text ↔ value = some (.text text) ∧ text ≠ [] := by
  unfold quarantineString
  split
  · next unit rest =>
    constructor
    · rintro ⟨⟩
      exact ⟨rfl, List.cons_ne_nil unit rest⟩
    · rintro ⟨⟨⟩, -⟩
      rfl
  · next other =>
    constructor
    · rintro ⟨⟩
    · rintro ⟨rfl, filled⟩
      obtain ⟨unit, rest, rfl⟩ := List.exists_cons_of_ne_nil filled
      exact absurd rfl (other unit rest)

/-- A payload is `null` or such a text. -/
theorem quarantinePayload_ok (value : Option Value) (payload : Option Text)
    (read : quarantinePayload value = .ok payload) : payload ≠ some [] := by
  unfold quarantinePayload at read
  split at read
  · obtain rfl := Except.ok.inj read
    exact Option.some_ne_none _ |>.symm
  · obtain ⟨text, string, rfl⟩ := (map_ok _ _ _).mp read
    have filled := ((quarantineString_ok _ _ _).mp string).2
    exact fun empty => filled (Option.some.inj empty)

/-- A version is a positive safe integer. -/
theorem quarantineVersion_ok (convert : Conversion) (value : Option Value) (version : Nat)
    (read : quarantineVersion convert value = .ok version) :
    1 ≤ version ∧ version ≤ maxSafeInteger := by
  unfold quarantineVersion Conversion.positiveSafe throwing at read
  split at read
  · next number found =>
    obtain rfl := Except.ok.inj read
    obtain ⟨safe, _, rfl⟩ := Option.map_eq_some_iff.mp found
    exact safe.2
  · cases read

/-- The reservation that is read covers the entry. -/
theorem normalizeQuarantineReservation_ok (convert : Conversion) (raw : Option Value)
    (entry : QuarantineEntry) (reserved : Nat)
    (read : normalizeQuarantineReservation convert raw entry = .ok reserved) :
    quarantineEntryReservationBytes entry ≤ reserved ∧ reserved ≤ 65536 := by
  unfold normalizeQuarantineReservation at read
  obtain ⟨_, small, rest⟩ := (bind_ok _ _ _).mp read
  obtain rfl := Except.ok.inj rest
  rw [require_ok, decide_eq_true_iff] at small
  refine ⟨?_, small⟩
  cases found : (convert.positiveSafe raw).filter
      (fun candidate => quarantineEntryReservationBytes entry ≤ candidate) with
  | none => rfl
  | some candidate => simpa using (Option.filter_eq_some_iff.mp found).2

/-- The members of an entry are its texts, and none of them is empty. -/
theorem quarantineEntry_ok (value : Members) (payload : Option Text)
    (expectedRecordVersion : Option Nat) (base : QuarantineEntry) :
    quarantineEntry value payload expectedRecordVersion = .ok base ↔
      (value.get "id" = some (.text base.id) ∧ base.id ≠ []) ∧
      (value.get "resource_id" = some (.text base.resourceId) ∧ base.resourceId ≠ []) ∧
      (value.get "resource_incarnation_id" = some (.text base.resourceIncarnationId) ∧
        base.resourceIncarnationId ≠ []) ∧
      (value.get "command_type" = some (.text base.commandType) ∧ base.commandType ≠ []) ∧
      base.payload = payload ∧ base.expectedRecordVersion = expectedRecordVersion := by
  unfold quarantineEntry
  simp only [bind_ok, quarantineString_ok]
  constructor
  · rintro ⟨_, one, _, two, _, three, _, four, ⟨⟩⟩
    exact ⟨one, two, three, four, rfl, rfl⟩
  · rintro ⟨one, two, three, four, rfl, rfl⟩
    exact ⟨_, one, _, two, _, three, _, four, rfl⟩

/-- An entry that was read with a reservation that covers it is readable. -/
theorem quarantineEntry_readable (value : Members) (payload : Option Text) (version : Option Nat)
    (base : QuarantineEntry) (read : quarantineEntry value payload version = .ok base)
    (reserved : Nat) (filled : payload ≠ some [])
    (safe : ∀ number, version = some number → 1 ≤ number ∧ number ≤ maxSafeInteger)
    (covered : quarantineEntryReservationBytes base ≤ reserved ∧ reserved ≤ 65536) :
    base.Readable reserved := by
  obtain ⟨one, two, three, four, rfl, rfl⟩ := (quarantineEntry_ok _ _ _ _).mp read
  exact ⟨one.2, two.2, three.2, four.2, filled, safe, covered.1, covered.2⟩

/-- The reader makes readable finalized entries. -/
theorem normalizeFinalizedQuarantine_readable (convert : Conversion) (allow : Bool) (raw : Value)
    (command : QuarantinedCommand)
    (read : normalizeFinalizedQuarantine convert allow raw = .ok command) : command.Readable := by
  unfold normalizeFinalizedQuarantine at read
  obtain ⟨value, _, read⟩ := (bind_ok _ _ _).mp read
  obtain ⟨state, _, read⟩ := (bind_ok _ _ _).mp read
  obtain ⟨payload, payloadRead, read⟩ := (bind_ok _ _ _).mp read
  obtain ⟨_, consistent, read⟩ := (bind_ok _ _ _).mp read
  obtain ⟨version, versionRead, read⟩ := (bind_ok _ _ _).mp read
  obtain ⟨base, baseRead, read⟩ := (bind_ok _ _ _).mp read
  obtain ⟨reserved, reservedRead, read⟩ := (bind_ok _ _ _).mp read
  obtain ⟨_, _, read⟩ := (bind_ok _ _ _).mp read
  obtain rfl := Except.ok.inj read
  have versions : ∀ number, version = some number → 1 ≤ number ∧ number ≤ maxSafeInteger := by
    rintro number rfl
    split at versionRead
    · cases versionRead
    · obtain ⟨_, found, same⟩ := (map_ok _ _ _).mp versionRead
      obtain rfl := Option.some.inj same
      exact quarantineVersion_ok convert _ _ found
  have entry := quarantineEntry_readable value payload version base baseRead reserved
    (quarantinePayload_ok _ _ payloadRead) versions
    (normalizeQuarantineReservation_ok convert _ _ _ reservedRead)
  have kept : base.payload = payload := ((quarantineEntry_ok _ _ _ _).mp baseRead).2.2.2.2.1
  refine ⟨entry, rfl, ?_⟩
  rintro rfl
  rw [require_ok, Bool.and_eq_true, Bool.or_eq_true, beq_iff_eq] at consistent
  rcases consistent.2 with review | absent
  · cases review
  · exact kept.trans (Option.isNone_iff_eq_none.mp absent)

/-- The reader makes readable intents. -/
theorem normalizePendingQuarantine_readable (convert : Conversion) (raw : Value)
    (intent : QuarantineIntent) (read : normalizePendingQuarantine convert raw = .ok intent) :
    intent.Readable := by
  unfold normalizePendingQuarantine at read
  obtain ⟨value, _, read⟩ := (bind_ok _ _ _).mp read
  obtain ⟨initiallyAuthorized, _, read⟩ := (bind_ok _ _ _).mp read
  obtain ⟨payload, payloadRead, read⟩ := (bind_ok _ _ _).mp read
  obtain ⟨_, denied, read⟩ := (bind_ok _ _ _).mp read
  obtain ⟨version, versionRead, read⟩ := (bind_ok _ _ _).mp read
  obtain ⟨base, baseRead, read⟩ := (bind_ok _ _ _).mp read
  obtain ⟨reserved, reservedRead, read⟩ := (bind_ok _ _ _).mp read
  obtain ⟨_, _, read⟩ := (bind_ok _ _ _).mp read
  obtain rfl := Except.ok.inj read
  have versions : ∀ number, some version = some number → 1 ≤ number ∧ number ≤ maxSafeInteger := by
    rintro number ⟨⟩
    exact quarantineVersion_ok convert _ _ versionRead
  have entry := quarantineEntry_readable value payload (some version) base baseRead reserved
    (quarantinePayload_ok _ _ payloadRead) versions
    (normalizeQuarantineReservation_ok convert _ _ _ reservedRead)
  obtain ⟨_, _, _, _, kept, versioned⟩ := (quarantineEntry_ok _ _ _ _).mp baseRead
  refine ⟨?_, ?_⟩
  · have same : base = ⟨base.id, base.resourceId, base.resourceIncarnationId, base.commandType,
        base.payload, some version⟩ := by rw [← versioned]
    exact same ▸ entry
  · rintro rfl
    rw [require_ok, Bool.false_or] at denied
    exact kept.trans (Option.isNone_iff_eq_none.mp denied)

/-- The entries of a store of version 1 are read as such. -/
theorem legacyEntries_readable (convert : Conversion) (items : List Value)
    (store : QuarantineStore) (read : legacyEntries convert items = .ok store) :
    (∀ command ∈ store.finalized, command.Readable) ∧ ∀ intent ∈ store.pending, intent.Readable := by
  induction items generalizing store with
  | nil =>
    obtain rfl := Except.ok.inj read
    exact ⟨List.forall_mem_nil _, List.forall_mem_nil _⟩
  | cons item rest inductionHypothesis =>
    rw [legacyEntries] at read
    split at read
    · obtain ⟨command, first, read⟩ := (bind_ok _ _ _).mp read
      obtain ⟨others, later, read⟩ := (bind_ok _ _ _).mp read
      obtain rfl := Except.ok.inj read
      obtain ⟨finalized, pending⟩ := inductionHypothesis others later
      have here := normalizeFinalizedQuarantine_readable convert true item command first
      exact ⟨List.forall_mem_cons.mpr ⟨here, finalized⟩, pending⟩
    · obtain ⟨_, _, read⟩ := (bind_ok _ _ _).mp read
      obtain ⟨intent, first, read⟩ := (bind_ok _ _ _).mp read
      obtain ⟨others, later, read⟩ := (bind_ok _ _ _).mp read
      obtain rfl := Except.ok.inj read
      obtain ⟨finalized, pending⟩ := inductionHypothesis others later
      have here := normalizePendingQuarantine_readable convert item intent first
      exact ⟨finalized, List.forall_mem_cons.mpr ⟨here, pending⟩⟩

/-- The reader makes readable stores. -/
theorem readQuarantineStore_readable (convert : Conversion) (file : Option Value)
    (store : QuarantineStore) (existed migrated : Bool)
    (read : readQuarantineStore convert file = .ok ⟨store, existed, migrated⟩) : store.Readable := by
  unfold readQuarantineStore at read
  split at read
  · obtain rfl := (QuarantineRead.mk.inj (Except.ok.inj read)).1
    exact ⟨List.forall_mem_nil _, List.forall_mem_nil _, List.nodup_nil⟩
  · obtain ⟨record, _, read⟩ := (bind_ok _ _ _).mp read
    split at read
    · obtain ⟨commands, first, read⟩ := (bind_ok _ _ _).mp read
      obtain ⟨intents, second, read⟩ := (bind_ok _ _ _).mp read
      obtain ⟨_, unique, read⟩ := (bind_ok _ _ _).mp read
      obtain rfl := (QuarantineRead.mk.inj (Except.ok.inj read)).1
      rw [assertUniqueQuarantineIds, require_ok, decide_eq_true_iff] at unique
      refine ⟨fun command there => ?_, fun intent there => ?_, unique⟩
      · obtain ⟨raw, _, made⟩ := aligned_source ((mapM_aligned _ _ _).mp first) there
        exact normalizeFinalizedQuarantine_readable convert false raw command made
      · obtain ⟨raw, _, made⟩ := aligned_source ((mapM_aligned _ _ _).mp second) there
        exact normalizePendingQuarantine_readable convert raw intent made
    · obtain ⟨entries, listed, read⟩ := (bind_ok _ _ _).mp read
      obtain ⟨_, unique, read⟩ := (bind_ok _ _ _).mp read
      obtain rfl := (QuarantineRead.mk.inj (Except.ok.inj read)).1
      rw [assertUniqueQuarantineIds, require_ok, decide_eq_true_iff] at unique
      obtain ⟨finalized, pending⟩ := legacyEntries_readable convert _ _ listed
      exact ⟨finalized, pending, unique⟩
    · cases read

end Reading

section Written

variable (convert : Conversion)

/-- A payload that is written is read back, unless it is the empty text. -/
theorem quarantinePayload_written (payload : Option Text) (filled : payload ≠ some []) :
    quarantinePayload (some (textValue payload)) = .ok payload := by
  cases payload with
  | none => rfl
  | some text =>
    have string : quarantineString (some (.text text)) "payload" = .ok text :=
      (quarantineString_ok _ _ _).mpr ⟨rfl, fun empty => filled (congrArg some empty)⟩
    simp only [quarantinePayload, textValue, isNull, Bool.false_eq_true, if_false, string]
    rfl

/-- A number that is written is read back. -/
theorem isNumber_written (number : Nat) :
    convert.isNumber (some (numberValue number)) number = true := by
  simp [Conversion.isNumber, Conversion.number, numberValue, Number.rational]

theorem positiveSafe_written (number : Nat) (safe : 1 ≤ number ∧ number ≤ maxSafeInteger) :
    convert.positiveSafe (some (numberValue number)) = some number :=
  congrArg (Option.map Subtype.val) (positiveSafe_number number safe.1 safe.2)

/-- A reservation that covers the entry is read back. -/
theorem normalizeQuarantineReservation_written (entry : QuarantineEntry) (reserved : Nat)
    (covered : quarantineEntryReservationBytes entry ≤ reserved) (bounded : reserved ≤ 65536) :
    normalizeQuarantineReservation convert (some (numberValue reserved)) entry = .ok reserved := by
  have safe : 65536 ≤ maxSafeInteger := by decide
  have least : 512 ≤ quarantineEntryReservationBytes entry := by
    rw [quarantineEntryReservationBytes_eq]
    exact Nat.le_max_left _ _
  have read := positiveSafe_written convert reserved ⟨by omega, by omega⟩
  have kept : ((some reserved).filter fun candidate =>
      quarantineEntryReservationBytes entry ≤ candidate) = some reserved :=
    Option.filter_eq_some_iff.mpr ⟨rfl, decide_eq_true covered⟩
  simp only [normalizeQuarantineReservation, read, kept, Option.getD_some]
  refine (bind_ok _ _ _).mpr ⟨(), ?_, rfl⟩
  rw [require_ok, decide_eq_true_iff]
  exact bounded

/-- The members of a finalized entry. -/
theorem QuarantinedCommand.value_members (command : QuarantinedCommand) :
    ∃ members : Members, command.value = .object members ∧
      members.get "id" = some (.text command.id) ∧
      members.get "resource_id" = some (.text command.resourceId) ∧
      members.get "resource_incarnation_id" = some (.text command.resourceIncarnationId) ∧
      members.get "command_type" = some (.text command.commandType) ∧
      members.get "expected_record_version" =
        some (command.expectedRecordVersion.elim .null numberValue) ∧
      members.get "state" = some (.text command.state.text) ∧
      members.get "payload" = some (textValue command.payload) ∧
      members.get "exportable" = some (numberValue command.exportable) ∧
      members.get "reserved_bytes" = some (numberValue command.reservedBytes) :=
  ⟨_, rfl, rfl, rfl, rfl, rfl, rfl, rfl, rfl, rfl, rfl⟩

/-- The members of an intent. -/
theorem QuarantineIntent.value_members (intent : QuarantineIntent) :
    ∃ members : Members, intent.value = .object members ∧
      members.get "id" = some (.text intent.id) ∧
      members.get "resource_id" = some (.text intent.resourceId) ∧
      members.get "resource_incarnation_id" = some (.text intent.resourceIncarnationId) ∧
      members.get "command_type" = some (.text intent.commandType) ∧
      members.get "expected_record_version" = some (numberValue intent.expectedRecordVersion) ∧
      members.get "initiallyAuthorized" = some (.boolean intent.initiallyAuthorized) ∧
      members.get "payload" = some (textValue intent.payload) ∧
      members.get "reserved_bytes" = some (numberValue intent.reservedBytes) :=
  ⟨_, rfl, rfl, rfl, rfl, rfl, rfl, rfl, rfl, rfl⟩

/-- The members of a store. -/
theorem QuarantineStore.value_members (store : QuarantineStore) :
    ∃ members : Members, store.value = .object members ∧
      isExactly 2 (members.get "version") = true ∧
      members.get "finalized" = some (.array (store.finalized.map QuarantinedCommand.value)) ∧
      members.get "pending" = some (.array (store.pending.map QuarantineIntent.value)) := by
  have version : isExactly 2 (some (numberValue 2)) = true := by
    simp [isExactly, numberValue, Number.rational]
  exact ⟨_, rfl, version, rfl, rfl⟩

/-- The writer keeps a readable finalized entry. -/
theorem normalizeFinalizedQuarantine_written (allow : Bool) (command : QuarantinedCommand)
    (readable : command.Readable) :
    normalizeFinalizedQuarantine convert allow command.value = .ok command := by
  obtain ⟨members, value, id, resourceId, incarnationId, type, version, state, payload, exportable,
    reserved⟩ := command.value_members
  have stated : finalizedState (members.get "state") = .ok command.state := by
    rw [state]
    cases command.state with
    | pendingReview => decide
    | invalidated => decide
  have consistent : require (convert.isNumber (members.get "exportable")
      (if command.state = .pendingReview then 1 else 0) &&
        (command.state == .pendingReview || command.payload.isNone))
          "Inconsistent finalized quarantine entry." = .ok () := by
    rw [require_ok, exportable, ← readable.exportable, isNumber_written, Bool.true_and]
    cases known : command.state with
    | pendingReview => rfl
    | invalidated => simp [readable.withheld known]
  have versioned : (if isNull (members.get "expected_record_version") ||
      (allow && (members.get "expected_record_version").isNone) then .ok none
      else (quarantineVersion convert (members.get "expected_record_version")).map some) =
        .ok command.expectedRecordVersion := by
    rw [version]
    cases known : command.expectedRecordVersion with
    | none => rfl
    | some number =>
      have read := positiveSafe_written convert number (readable.entry.version number known)
      simp only [Option.elim_some, quarantineVersion, read]
      simp [numberValue, isNull, Except.map]
  have entry : quarantineEntry members command.payload command.expectedRecordVersion =
      .ok command.entry :=
    (quarantineEntry_ok _ _ _ _).mpr ⟨⟨id, readable.entry.id⟩, ⟨resourceId, readable.entry.resourceId⟩,
      ⟨incarnationId, readable.entry.resourceIncarnationId⟩, ⟨type, readable.entry.commandType⟩,
      rfl, rfl⟩
  have reservation := normalizeQuarantineReservation_written convert command.entry
    command.reservedBytes readable.entry.covered readable.entry.bounded
  have paid : quarantinePayload (members.get "payload") = .ok command.payload := by
    rw [payload]
    exact quarantinePayload_written command.payload readable.entry.payload
  have fits := readable.bytes_le
  unfold normalizeFinalizedQuarantine
  refine (bind_ok _ _ _).mpr ⟨members, by rw [value]; rfl, ?_⟩
  refine (bind_ok _ _ _).mpr ⟨command.state, stated, ?_⟩
  refine (bind_ok _ _ _).mpr ⟨command.payload, paid, ?_⟩
  refine (bind_ok _ _ _).mpr ⟨(), consistent, ?_⟩
  refine (bind_ok _ _ _).mpr ⟨command.expectedRecordVersion, versioned, ?_⟩
  refine (bind_ok _ _ _).mpr ⟨command.entry, entry, ?_⟩
  refine (bind_ok _ _ _).mpr ⟨command.reservedBytes, by rw [reserved]; exact reservation, ?_⟩
  rw [QuarantinedCommand.bytes, readable.exportable] at fits
  refine (bind_ok _ _ _).mpr ⟨(), ?_, ?_⟩
  · rw [require_ok, decide_eq_true_iff]
    exact fits
  · rw [← readable.exportable]
    rfl

/-- The writer keeps a readable intent. -/
theorem normalizePendingQuarantine_written (intent : QuarantineIntent) (readable : intent.Readable) :
    normalizePendingQuarantine convert intent.value = .ok intent := by
  obtain ⟨members, value, id, resourceId, incarnationId, type, version, authorized, payload,
    reserved⟩ := intent.value_members
  have paid : quarantinePayload (members.get "payload") = .ok intent.payload := by
    rw [payload]
    exact quarantinePayload_written intent.payload readable.entry.payload
  have consistent : require (intent.initiallyAuthorized || intent.payload.isNone)
      "Denied quarantine intent retained payload." = .ok () := by
    rw [require_ok]
    cases known : intent.initiallyAuthorized with
    | true => rfl
    | false => simp [readable.denied known]
  have versioned : quarantineVersion convert (members.get "expected_record_version") =
      .ok intent.expectedRecordVersion := by
    rw [version, quarantineVersion, positiveSafe_written convert intent.expectedRecordVersion
      (readable.entry.version _ rfl)]
  have entry : quarantineEntry members intent.payload (some intent.expectedRecordVersion) =
      .ok intent.entry :=
    (quarantineEntry_ok _ _ _ _).mpr ⟨⟨id, readable.entry.id⟩, ⟨resourceId, readable.entry.resourceId⟩,
      ⟨incarnationId, readable.entry.resourceIncarnationId⟩, ⟨type, readable.entry.commandType⟩,
      rfl, rfl⟩
  have reservation := normalizeQuarantineReservation_written convert intent.entry
    intent.reservedBytes readable.entry.covered readable.entry.bounded
  unfold normalizePendingQuarantine
  refine (bind_ok _ _ _).mpr ⟨members, by rw [value]; rfl, ?_⟩
  refine (bind_ok _ _ _).mpr ⟨intent.initiallyAuthorized, by rw [authorized]; rfl, ?_⟩
  refine (bind_ok _ _ _).mpr ⟨intent.payload, paid, ?_⟩
  refine (bind_ok _ _ _).mpr ⟨(), consistent, ?_⟩
  refine (bind_ok _ _ _).mpr ⟨intent.expectedRecordVersion, versioned, ?_⟩
  refine (bind_ok _ _ _).mpr ⟨intent.entry, entry, ?_⟩
  refine (bind_ok _ _ _).mpr ⟨intent.reservedBytes, by rw [reserved]; exact reservation, ?_⟩
  refine (bind_ok _ _ _).mpr ⟨(), ?_, rfl⟩
  rw [require_ok, decide_eq_true_iff]
  exact readable.bytes_le

/-- The reader takes a store back as it was written exactly when the store is readable. -/
theorem readQuarantineStore_written (store : QuarantineStore) :
    readQuarantineStore convert (some store.value) = .ok ⟨store, true, false⟩ ↔ store.Readable := by
  constructor
  · exact readQuarantineStore_readable convert _ store true false
  · intro readable
    have finalized := mapM_round_trip (normalizeFinalizedQuarantine convert false)
      QuarantinedCommand.value store.finalized fun command there =>
        normalizeFinalizedQuarantine_written convert false command (readable.finalized command there)
    have pending := mapM_round_trip (normalizePendingQuarantine convert)
      QuarantineIntent.value store.pending fun intent there =>
        normalizePendingQuarantine_written convert intent (readable.pending intent there)
    have unique : assertUniqueQuarantineIds store = .ok () := by
      rw [assertUniqueQuarantineIds, require_ok, decide_eq_true_iff]
      exact readable.distinct
    obtain ⟨members, value, version, listed, waiting⟩ := store.value_members
    rw [value]
    refine (bind_ok _ _ _).mpr ⟨members, rfl, ?_⟩
    simp only [version, listed, waiting]
    refine (bind_ok _ _ _).mpr ⟨store.finalized, finalized, ?_⟩
    refine (bind_ok _ _ _).mpr ⟨store.pending, pending, ?_⟩
    exact (bind_ok _ _ _).mpr ⟨(), unique, rfl⟩

end Written

section Resets

/-- A candidate has its texts, and a payload that is preserved is not the empty text. -/
structure Candidate.Filled (item : Candidate) (preserved : Bool) : Prop where
  id : item.id ≠ []
  resourceId : item.resourceId ≠ []
  resourceIncarnationId : item.resourceIncarnationId ≠ []
  commandType : item.commandType ≠ []
  payload : preserved = true → item.payload ≠ some []

/-- The intent of a candidate is readable when the candidate is filled. -/
theorem intent_readable (item : Candidate) (overlays : List OverlayRow) (preserved : Bool)
    (version : 1 ≤ item.expectedRecordVersion ∧ item.expectedRecordVersion ≤ maxSafeInteger)
    (bounded : (item.intent overlays preserved).reservedBytes ≤ 65536) :
    (item.intent overlays preserved).Readable ↔ item.Filled preserved := by
  constructor
  · intro readable
    refine ⟨readable.entry.id, readable.entry.resourceId, readable.entry.resourceIncarnationId,
      readable.entry.commandType, ?_⟩
    rintro rfl
    exact readable.entry.payload
  · intro filled
    refine ⟨⟨filled.id, filled.resourceId, filled.resourceIncarnationId, filled.commandType, ?_, ?_,
      Nat.le_max_right _ _, bounded⟩, ?_⟩
    · cases preserved with
      | true => exact filled.payload rfl
      | false => exact Option.some_ne_none _ |>.symm
    · rintro number ⟨⟩
      exact version
    · intro denied
      have unauthorised : preserved = false := denied
      subst unauthorised
      rfl

/-- The candidates have distinct identifiers when the queue has. -/
theorem resetCandidates_distinct (queued : List Candidate) (overlays : List OverlayRow)
    (keyed : (overlays.map OverlayRow.id).Nodup) :
    ((resetCandidates queued overlays).map Candidate.id).Nodup ↔
      (queued.map Candidate.id).Nodup := by
  rw [resetCandidates, List.map_append, List.nodup_append, List.map_map]
  constructor
  · exact fun distinct => distinct.1
  · intro distinct
    refine ⟨distinct, keyed.sublist (List.filter_sublist.map _), ?_⟩
    rintro _ here _ there rfl
    obtain ⟨overlay, member, same⟩ := List.mem_map.mp there
    obtain ⟨command, among, equal⟩ := List.mem_map.mp here
    have absent := (List.mem_filter.mp member).2
    simp only [Bool.not_eq_true', List.any_eq_false, decide_eq_true_eq] at absent
    exact absent command among (equal.trans same.symm)

/-- What the first part of a reset writes. -/
theorem quarantineReset_ok (collation : Text → Text → Bool) (queued : List Candidate)
    (tables : ApplicationTables) (prior : QuarantineStore) (preserve : Candidate → Bool)
    (store : QuarantineStore)
    (written : quarantineReset collation queued tables prior preserve = .ok store) :
    let overlays := readOverlayRecords collation tables
    store = ⟨prior.finalized, pendingQuarantine queued overlays preserve⟩ ∧ prior.pending = [] ∧
      (∀ item ∈ resetCandidates queued overlays, ∀ command ∈ prior.finalized, command.id ≠ item.id) ∧
      (store.pending.map QuarantineIntent.reservedBytes).sum ≤ 65536 := by
  unfold quarantineReset at written
  obtain ⟨_, _, written⟩ := (bind_ok _ _ _).mp written
  obtain ⟨_, empty, written⟩ := (bind_ok _ _ _).mp written
  obtain ⟨_, fresh, written⟩ := (bind_ok _ _ _).mp written
  obtain ⟨_, capacity, written⟩ := (bind_ok _ _ _).mp written
  obtain rfl := Except.ok.inj written
  rw [require_ok, List.isEmpty_iff] at empty
  rw [require_ok, List.all_eq_true] at fresh
  have fits := ((assertResetCapacity_ok _ _).mp capacity).2
  refine ⟨rfl, empty, fun item there command member => ?_, by omega⟩
  simpa using List.all_eq_true.mp (fresh item there) command member

/-- The store of a reset is readable exactly when its candidates are filled, and the
queue holds none of them twice. -/
theorem quarantineReset_readable (collation : Text → Text → Bool) (queued : List Candidate)
    (tables : ApplicationTables) (keyed : (tables.overlays.map OverlayRow.id).Nodup)
    (prior : QuarantineStore) (readable : prior.Readable) (preserve : Candidate → Bool)
    (versions : ∀ item ∈ resetCandidates queued (readOverlayRecords collation tables),
      1 ≤ item.expectedRecordVersion ∧ item.expectedRecordVersion ≤ maxSafeInteger)
    (store : QuarantineStore)
    (written : quarantineReset collation queued tables prior preserve = .ok store) :
    store.Readable ↔ (queued.map Candidate.id).Nodup ∧
      ∀ item ∈ resetCandidates queued (readOverlayRecords collation tables),
        item.Filled (preserve item) := by
  obtain ⟨rfl, _, fresh, fits⟩ := quarantineReset_ok collation queued tables prior preserve store
    written
  have sorted := (readOverlayRecords_perm collation tables).map OverlayRow.id
  have candidates := resetCandidates_distinct queued (readOverlayRecords collation tables)
    (sorted.nodup_iff.mpr keyed)
  have ids : (pendingQuarantine queued (readOverlayRecords collation tables) preserve).map
      QuarantineIntent.id =
        (resetCandidates queued (readOverlayRecords collation tables)).map Candidate.id := by
    rw [pendingQuarantine, List.map_map]
    rfl
  have intents : ∀ item ∈ resetCandidates queued (readOverlayRecords collation tables),
      (item.intent (readOverlayRecords collation tables) (preserve item)).Readable ↔
        item.Filled (preserve item) := by
    intro item there
    refine intent_readable item _ _ (versions item there) ?_
    have member : item.intent (readOverlayRecords collation tables) (preserve item) ∈
        pendingQuarantine queued (readOverlayRecords collation tables) preserve :=
      List.mem_map_of_mem there
    exact (List.single_le_sum (fun _ _ => Nat.zero_le _) _ (List.mem_map_of_mem member)).trans fits
  constructor
  · intro stored
    have distinct := stored.distinct
    rw [QuarantineStore.ids, ids] at distinct
    refine ⟨candidates.mp (List.nodup_append.mp distinct).2.1, fun item there => ?_⟩
    exact (intents item there).mp (stored.pending _ (List.mem_map_of_mem there))
  · rintro ⟨distinct, filled⟩
    refine ⟨readable.finalized, fun intent there => ?_, ?_⟩
    · obtain ⟨item, member, rfl⟩ := List.mem_map.mp there
      exact (intents item member).mpr (filled item member)
    · rw [QuarantineStore.ids, ids]
      refine List.nodup_append.mpr ⟨(List.nodup_append.mp readable.distinct).1,
        candidates.mpr distinct, ?_⟩
      rintro _ here _ there rfl
      obtain ⟨command, among, same⟩ := List.mem_map.mp here
      obtain ⟨item, member, equal⟩ := List.mem_map.mp there
      exact fresh item member command among (same.trans equal.symm)

/-- The entry of an intent without its payload. -/
def QuarantineIntent.invalidatedEntry (item : QuarantineIntent) : QuarantineEntry :=
  { item.entry with payload := none }

/-- A readable intent makes a readable finalized entry, when its reservation covers the
entry without a payload or the payload is kept. -/
theorem finalized_readable (item : QuarantineIntent) (readable : item.Readable) (visible : Bool)
    (authorized : visible = true → item.initiallyAuthorized = true) :
    (item.finalized visible).Readable ↔
      (visible = false → quarantineEntryReservationBytes item.invalidatedEntry ≤ item.reservedBytes) := by
  have entry := readable.entry
  cases visible with
  | true =>
    refine iff_of_true ?_ (by simp)
    exact ⟨entry, rfl, fun invalidated => by cases invalidated⟩
  | false =>
    constructor
    · exact fun stored _ => stored.entry.covered
    · intro covered
      refine ⟨⟨entry.id, entry.resourceId, entry.resourceIncarnationId, entry.commandType,
        Option.some_ne_none _ |>.symm, entry.version, covered rfl, entry.bounded⟩, rfl, fun _ => rfl⟩

/-- The store of a finalization is readable exactly when each reservation covers the entry
that loses its payload. -/
theorem finalizeReset_readable (localeCompare : Text → Text → Bool) (tables : ApplicationTables)
    (retained : QuarantineStore) (readable : retained.Readable)
    (preserve present : QuarantineIntent → Bool) (completed : QuarantineStore)
    (written : finalizeReset localeCompare tables retained preserve present = .ok completed) :
    completed.Readable ↔ ∀ item ∈ retained.pending,
      (item.initiallyAuthorized && preserve item && present item) = false →
        quarantineEntryReservationBytes item.invalidatedEntry ≤ item.reservedBytes := by
  unfold finalizeReset at written
  obtain ⟨_, _, written⟩ := (bind_ok _ _ _).mp written
  obtain ⟨_, _, written⟩ := (bind_ok _ _ _).mp written
  obtain ⟨merged, joined, written⟩ := (bind_ok _ _ _).mp written
  obtain ⟨_, _, written⟩ := (bind_ok _ _ _).mp written
  obtain rfl := Except.ok.inj written
  unfold mergeFinalizedQuarantine at joined
  obtain ⟨_, distinct, joined⟩ := (bind_ok _ _ _).mp joined
  obtain rfl := Except.ok.inj joined
  rw [require_ok, decide_eq_true_iff] at distinct
  have finalized := fun item there => finalized_readable item (readable.pending item there)
    (item.initiallyAuthorized && preserve item && present item) (by simp_all)
  constructor
  · intro stored item there
    refine (finalized item there).mp (stored.finalized _ ?_)
    exact (mem_sortBy _ _ _).mpr (List.mem_append_right _ (List.mem_map_of_mem there))
  · intro covered
    refine ⟨fun command there => ?_, List.forall_mem_nil _, ?_⟩
    · rcases List.mem_append.mp ((mem_sortBy _ _ _).mp there) with there | there
      · exact readable.finalized command there
      · obtain ⟨item, member, rfl⟩ := List.mem_map.mp there
        exact (finalized item member).mpr (covered item member)
    · rw [QuarantineStore.ids, List.map_nil, List.append_nil]
      exact ((sortBy_perm _ _).map QuarantinedCommand.id).nodup_iff.mpr distinct

end Resets

/-- What comes back from the quarantine file. The store that a reset writes before it clears
the replica comes back unchanged exactly when every candidate is filled, and the queue
holds none of them twice. The store that it writes in the end does exactly when the
reservation of each intent that is invalidated covers the entry without its payload. A
store that was migrated always does. -/
theorem quarantine_round_trip (convert : Conversion) :
    (∀ (collation : Text → Text → Bool) (operations : List Operation) (queued : List Candidate)
      (file : Option Value) (prior : QuarantineStore) (existed migrated : Bool)
      (preserve : Candidate → Bool) (store : QuarantineStore),
      (∀ command ∈ queued,
        1 ≤ command.expectedRecordVersion ∧ command.expectedRecordVersion ≤ maxSafeInteger) →
      readQuarantineStore convert file = .ok ⟨prior, existed, migrated⟩ →
      quarantineReset collation queued (stateAfter operations) prior preserve = .ok store →
      (readQuarantineStore convert (some store.value) = .ok ⟨store, true, false⟩ ↔
        (queued.map Candidate.id).Nodup ∧
          ∀ item ∈ resetCandidates queued (readOverlayRecords collation (stateAfter operations)),
            item.Filled (preserve item))) ∧
    (∀ (localeCompare : Text → Text → Bool) (tables : ApplicationTables) (file : Option Value)
      (retained : QuarantineStore) (existed migrated : Bool)
      (preserve present : QuarantineIntent → Bool) (completed : QuarantineStore),
      readQuarantineStore convert file = .ok ⟨retained, existed, migrated⟩ →
      finalizeReset localeCompare tables retained preserve present = .ok completed →
      (readQuarantineStore convert (some completed.value) = .ok ⟨completed, true, false⟩ ↔
        ∀ item ∈ retained.pending,
          (item.initiallyAuthorized && preserve item && present item) = false →
            quarantineEntryReservationBytes item.invalidatedEntry ≤ item.reservedBytes)) ∧
    ∀ (file : Value) (store : QuarantineStore),
      readQuarantineStore convert (some file) = .ok ⟨store, true, true⟩ →
        readQuarantineStore convert (some store.value) = .ok ⟨store, true, false⟩ := by
  refine ⟨?_, ?_, ?_⟩
  · intro collation operations queued file prior existed migrated preserve store versions read written
    have readable := readQuarantineStore_readable convert file prior existed migrated read
    have balanced := stateAfter_balanced operations
    rw [readQuarantineStore_written]
    refine quarantineReset_readable collation queued _ balanced.overlaysKeyed prior readable preserve
      ?_ store written
    intro item there
    rcases List.mem_append.mp there with there | there
    · exact versions item there
    · obtain ⟨overlay, member, rfl⟩ := List.mem_map.mp there
      have among := (readOverlayRecords_perm collation _).mem_iff.mp (List.mem_filter.mp member).1
      exact (stateAfter_admitted operations overlay among).version
  · intro localeCompare tables file retained existed migrated preserve present completed read written
    have readable := readQuarantineStore_readable convert file retained existed migrated read
    rw [readQuarantineStore_written]
    exact finalizeReset_readable localeCompare tables retained readable preserve present completed
      written
  · intro file store read
    rw [readQuarantineStore_written]
    exact readQuarantineStore_readable convert _ store true true read

namespace Sample

/-- An update with a payload. -/
def noteUpdate (payload : Text) : QueuedCommandInput :=
  { largeUpdate 0 with payload := some payload }

/-- The queue and the application state with this update. -/
def queuedNote (payload : Text) : List Candidate :=
  [((noteUpdate payload).overlay noteIncarnation).candidate]

def overlaidNote (payload : Text) : ApplicationTables :=
  stateAfter [.queueCommands [] none [noteUpdate payload]]

/-- The store that a reset makes of it. -/
def quarantinedNote (payload : Text) : QuarantineStore :=
  ⟨[], pendingQuarantine (queuedNote payload)
    (readOverlayRecords (fun _ _ => true) (overlaidNote payload)) fun _ => true⟩

/-- The store after the reset, with the update for review. -/
def reviewedNote (payload : Text) : QuarantineStore :=
  ⟨(quarantinedNote payload).pending.map fun item => item.finalized true, []⟩

/-- An entry of version 1 for review, and the store that it is migrated to. -/
def legacyFile : Value :=
  .object [(ascii "version", numberValue 1), (ascii "commands", .array [.object
    [(ascii "id", .text (ascii "review")), (ascii "resource_id", .text (ascii "one")),
      (ascii "resource_incarnation_id", .text (ascii "two")),
      (ascii "command_type", .text (ascii "update")),
      (ascii "state", .text (ascii "pending_review")), (ascii "payload", .text (ascii "REVIEW")),
      (ascii "exportable", numberValue 1)]])]

def migratedStore : QuarantineStore where
  finalized :=
    [{ id := ascii "review"
       resourceId := ascii "one"
       resourceIncarnationId := ascii "two"
       commandType := ascii "update"
       expectedRecordVersion := none
       state := .pendingReview
       payload := some (ascii "REVIEW")
       exportable := 1
       reservedBytes := 512 }]
  pending := []

end Sample

/-- An update with a payload comes back, for review as well, and so does a migrated store. -/
theorem quarantine_round_trip_note :
    let convert : Conversion := fun _ => none
    let note := Sample.quarantinedNote (ascii "REVIEW")
    let reviewed := Sample.reviewedNote (ascii "REVIEW")
    readQuarantineStore convert (some note.value) = .ok ⟨note, true, false⟩ ∧
      readQuarantineStore convert (some reviewed.value) = .ok ⟨reviewed, true, false⟩ ∧
      readQuarantineStore convert (some Sample.migratedStore.value) =
        .ok ⟨Sample.migratedStore, true, false⟩ := by
  obtain ⟨reset, finalization, migration⟩ := quarantine_round_trip fun _ => none
  have quarantined := (reset (fun _ _ => true)
    [.queueCommands [] none [Sample.noteUpdate (ascii "REVIEW")]]
    (Sample.queuedNote (ascii "REVIEW")) none ⟨[], []⟩ false false (fun _ => true)
    (Sample.quarantinedNote (ascii "REVIEW")) (by decide +kernel) rfl (by decide +kernel)).mpr
    ⟨by decide +kernel, fun item there => by
      have candidates : resetCandidates (Sample.queuedNote (ascii "REVIEW"))
          (readOverlayRecords (fun _ _ => true) (Sample.overlaidNote (ascii "REVIEW"))) =
            Sample.queuedNote (ascii "REVIEW") := by decide +kernel
      obtain rfl := List.mem_singleton.mp (candidates ▸ there)
      exact ⟨by decide +kernel, by decide +kernel, by decide +kernel, by decide +kernel,
        fun _ => by decide +kernel⟩⟩
  refine ⟨quarantined, ?_, migration Sample.legacyFile _ (by decide +kernel)⟩
  exact (finalization (fun _ _ => true) ApplicationTables.empty _ _ true false (fun _ => true)
    (fun _ => true) _ quarantined (by decide +kernel)).mpr (by decide +kernel)

/-- An update whose payload is the empty text is admitted, quarantined and not read back. -/
theorem empty_payload_unreadable :
    quarantineReset (fun _ _ => true) (Sample.queuedNote []) (Sample.overlaidNote []) ⟨[], []⟩
        (fun _ => true) = .ok (Sample.quarantinedNote []) ∧
      readQuarantineStore (fun _ => none) (some (Sample.quarantinedNote []).value) =
        throwing "Invalid quarantine payload." := by
  decide +kernel

end TraxOs.PowerSync
