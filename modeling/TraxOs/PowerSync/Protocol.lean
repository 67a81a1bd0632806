import Mathlib.Data.List.Basic
import Mathlib.Data.Nat.Digits.Lemmas

/-!
# The command protocol

The values that the PowerSync client and the command server exchange: the binding
of a replica, one command, and the result of one command. A JavaScript string is
its sequence of UTF-16 code units, and an identifier is the string that the
protocol's regular expressions accept, in lower case.

Cryptography is a parameter. What the development needs of it, that hashes do not
collide, is a hypothesis where it is used.
-/

namespace TraxOs.PowerSync

/-- A JavaScript string. -/
abbrev Text := List UInt16

/-- The code units of an ASCII literal. -/
def ascii (literal : String) : Text := literal.toList.map fun character => character.toNat.toUInt16

/-- An identifier, as the text that is sent and stored. -/
abbrev Uuid := Text

/-- A class of code units in a regular expression. -/
abbrev UnitClass := UInt16 → Bool

/-- `[0-9a-f]`. -/
def hexadecimal : UnitClass := fun unit => (48 ≤ unit && unit ≤ 57) || (97 ≤ unit && unit ≤ 102)

/-- A text that matches one class after another, from its start to its end. -/
def matchesAll : List UnitClass → Text → Bool
  | [], [] => true
  | unitClass :: classes, unit :: text => unitClass unit && matchesAll classes text
  | _, _ => false

/-- The shape of a UUID whose version digit lies in a given class. -/
def uuidShape (version : UnitClass) : List UnitClass :=
  let digits count := List.replicate count hexadecimal
  let dash : UnitClass := fun unit => unit == 45
  let variant : UnitClass := fun unit => unit == 56 || unit == 57 || unit == 97 || unit == 98
  digits 8 ++ dash :: digits 4 ++ dash :: version :: digits 3 ++ dash :: variant :: digits 3 ++
    dash :: digits 12

/-- `uuid`, which `parseBinding` also uses. -/
def isUuid (text : Text) : Bool := matchesAll (uuidShape fun unit => 49 ≤ unit && unit ≤ 53) text

/-- `commandUuid`, which is also `version4Uuid`. -/
def isVersion4Uuid (text : Text) : Bool := matchesAll (uuidShape fun unit => unit == 52) text

/-- A matched text has a unit for every class. -/
theorem matchesAll_length (classes : List UnitClass) (text : Text)
    (matched : matchesAll classes text = true) : text.length = classes.length := by
  induction classes generalizing text with
  | nil =>
    cases text with
    | nil => rfl
    | cons unit rest => cases matched
  | cons unitClass classes inductionHypothesis =>
    cases text with
    | nil => cases matched
    | cons unit rest =>
      simp only [matchesAll, Bool.and_eq_true] at matched
      simp [inductionHypothesis rest matched.2]

/-- A wider list of classes matches the same text. -/
theorem matchesAll_mono (narrow wide : List UnitClass) (text : Text)
    (implies : List.Forall₂ (fun one two : UnitClass => ∀ unit, one unit = true → two unit = true)
      narrow wide) (matched : matchesAll narrow text = true) : matchesAll wide text = true := by
  induction implies generalizing text with
  | nil => exact matched
  | cons here _ inductionHypothesis =>
    cases text with
    | nil => cases matched
    | cons unit rest =>
      simp only [matchesAll, Bool.and_eq_true] at matched ⊢
      exact ⟨here unit matched.1, inductionHypothesis rest matched.2⟩

/-- What every class of a shape excludes does not occur in a matched text. -/
theorem matchesAll_excludes (classes : List UnitClass) (text : Text) (excluded : UInt16)
    (rejects : ∀ unitClass ∈ classes, unitClass excluded = false)
    (matched : matchesAll classes text = true) : excluded ∉ text := by
  induction classes generalizing text with
  | nil =>
    cases text with
    | nil => simp
    | cons unit rest => cases matched
  | cons unitClass classes inductionHypothesis =>
    cases text with
    | nil => cases matched
    | cons unit rest =>
      simp only [matchesAll, Bool.and_eq_true] at matched
      have apart : excluded ≠ unit := by
        intro same
        have rejected := rejects unitClass List.mem_cons_self
        rw [same, matched.1] at rejected
        cases rejected
      have later := inductionHypothesis rest
        (fun other member => rejects other (List.mem_cons_of_mem unitClass member)) matched.2
      simp [apart, later]

/-- The shape of an identifier has no class of colons, when that of the version has none. -/
theorem uuidShape_excludes (version : UnitClass) (rejects : version 58 = false) :
    ∀ unitClass ∈ uuidShape version, unitClass 58 = false := by
  have digit : hexadecimal 58 = false := by decide
  simp only [uuidShape, List.mem_append, List.mem_cons, List.mem_replicate]
  rintro unitClass ((((⟨_, rfl⟩ | rfl | ⟨_, rfl⟩) | rfl | rfl | ⟨_, rfl⟩) | rfl | rfl | ⟨_, rfl⟩) |
    rfl | ⟨_, rfl⟩)
  all_goals assumption

/-- An identifier contains no colon. -/
theorem uuid_no_colon (text : Text) (valid : isUuid text = true) : (58 : UInt16) ∉ text :=
  matchesAll_excludes _ text 58 (uuidShape_excludes _ (by decide)) valid

/-- A version-4 identifier contains no colon. -/
theorem version4_no_colon (text : Text) (valid : isVersion4Uuid text = true) :
    (58 : UInt16) ∉ text :=
  matchesAll_excludes _ text 58 (uuidShape_excludes _ (by decide)) valid

/-- `Number.MAX_SAFE_INTEGER`. -/
def maxSafeInteger : Nat := 2 ^ 53 - 1

/-- `ReplicaBinding`, as `parseBinding` and `parseCommandEnvelope` admit it. -/
structure ReplicaBinding where
  replicaId : Uuid
  replicaEpoch : Nat
  identified : isUuid replicaId = true
  positive : 1 ≤ replicaEpoch
  safe : replicaEpoch ≤ maxSafeInteger
deriving DecidableEq

/-- `SpikeCommandType`, with what only one of the types carries. -/
inductive CommandKind where
  | update (payload : Text)
  | softDelete
deriving DecidableEq

/-- `SpikeCommand`. -/
structure SpikeCommand where
  commandId : Uuid
  kind : CommandKind
  resourceId : Uuid
  resourceIncarnationId : Uuid
  expectedRecordVersion : Nat
deriving DecidableEq

/-- The object whose JSON text `commandDigest` hashes. -/
structure Normalized where
  replicaId : Uuid
  replicaEpoch : Nat
  commandId : Uuid
  type : Text
  resourceId : Uuid
  resourceIncarnationId : Uuid
  expectedRecordVersion : Nat
  payload : Option Text
deriving DecidableEq

/-- The spelling of a command type. -/
def CommandKind.type : CommandKind → Text
  | .update _ => ascii "ps8.resource.update.v1"
  | .softDelete => ascii "ps8.resource.soft_delete.v1"

/-- `command.payload`. -/
def CommandKind.payload : CommandKind → Option Text
  | .update payload => some payload
  | .softDelete => none

/-- The normalised command of a replica. -/
def normalized (command : SpikeCommand) (binding : ReplicaBinding) : Normalized where
  replicaId := binding.replicaId
  replicaEpoch := binding.replicaEpoch
  commandId := command.commandId
  type := command.kind.type
  resourceId := command.resourceId
  resourceIncarnationId := command.resourceIncarnationId
  expectedRecordVersion := command.expectedRecordVersion
  payload := command.kind.payload

/-- A normalised command determines the command and the binding. -/
theorem normalized_injective (command other : SpikeCommand) (binding bound : ReplicaBinding)
    (same : normalized command binding = normalized other bound) :
    command = other ∧ binding = bound := by
  obtain ⟨commandId, kind, resourceId, incarnation, expected⟩ := command
  obtain ⟨otherId, otherKind, otherResource, otherIncarnation, otherExpected⟩ := other
  obtain ⟨replicaId, epoch, _, _, _⟩ := binding
  obtain ⟨boundId, boundEpoch, _, _, _⟩ := bound
  simp only [normalized, Normalized.mk.injEq] at same
  obtain ⟨rfl, rfl, rfl, _, rfl, rfl, rfl, payloads⟩ := same
  have kinds : kind = otherKind := by
    cases kind <;> cases otherKind <;> simp_all [CommandKind.payload]
  exact ⟨by rw [kinds], rfl⟩

/-- What the command service takes from its runtime: `sha256` of a text and of the
JSON text of a normalised command, and the keyed hash of the rotation, already
encoded as base64url. -/
structure Platform where
  sha256 : Text → Text
  sha256Json : Normalized → Text
  hmac : Text → Text

/-- `commandDigest`. -/
def commandDigest (platform : Platform) (command : SpikeCommand) (binding : ReplicaBinding) : Text :=
  platform.sha256Json (normalized command binding)

/-- The decimal text of a positive number. -/
def decimal (number : Nat) : Text :=
  (Nat.digits 10 number).reverse.map fun digit => (48 + digit).toUInt16

/-- The text whose keyed hash becomes the next credential. -/
def rotationMessage (replicaId resetRequestId : Uuid) (targetEpoch : Nat) : Text :=
  replicaId ++ 58 :: (resetRequestId ++ 58 :: decimal targetEpoch)

/-- `rotatedCredential`. -/
def rotatedCredential (platform : Platform) (replicaId resetRequestId : Uuid) (targetEpoch : Nat) :
    Text :=
  ascii "r2_" ++ platform.hmac (rotationMessage replicaId resetRequestId targetEpoch)

/-- Two positive numbers with the same decimal text are equal. -/
theorem decimal_injective (left right : Nat) (same : decimal left = decimal right) :
    left = right := by
  have small : ∀ number, ∀ digit ∈ Nat.digits 10 number, digit < 10 :=
    fun number digit member => Nat.digits_lt_base (by decide) member
  have units : (Nat.digits 10 left).map (fun digit => (48 + digit).toUInt16) =
      (Nat.digits 10 right).map (fun digit => (48 + digit).toUInt16) := by
    have reversed := congrArg List.reverse same
    simpa [decimal, List.map_reverse] using reversed
  have digits : ∀ one two : List Nat, (∀ digit ∈ one, digit < 10) → (∀ digit ∈ two, digit < 10) →
      one.map (fun digit => (48 + digit).toUInt16) = two.map (fun digit => (48 + digit).toUInt16) →
        one = two := by
    intro one
    induction one with
    | nil => intro two _ _ equal; simpa using equal
    | cons first rest inductionHypothesis =>
      intro two bounded others equal
      cases two with
      | nil => simp at equal
      | cons second remaining =>
        simp only [List.map_cons, List.cons.injEq] at equal
        have one_small := bounded first List.mem_cons_self
        have two_small := others second List.mem_cons_self
        have here : first = second := by
          have values := congrArg UInt16.toNat equal.1
          simp only [Nat.toUInt16, UInt16.toNat_ofNat'] at values
          omega
        rw [here, inductionHypothesis remaining
          (fun digit member => bounded digit (List.mem_cons_of_mem first member))
          (fun digit member => others digit (List.mem_cons_of_mem second member)) equal.2]
  exact Nat.digits_inj_iff.mp (digits _ _ (small left) (small right) units)

/-- A text before the first separator is determined by the whole. -/
theorem separated_injective (separator : UInt16) (left right after rest : Text)
    (leftFree : separator ∉ left) (rightFree : separator ∉ right)
    (same : left ++ separator :: after = right ++ separator :: rest) :
    left = right ∧ after = rest := by
  induction left generalizing right with
  | nil =>
    cases right with
    | nil => simpa using same
    | cons unit right =>
      simp only [List.nil_append, List.cons_append, List.cons.injEq] at same
      simp [same.1] at rightFree
  | cons unit left inductionHypothesis =>
    cases right with
    | nil =>
      simp only [List.nil_append, List.cons_append, List.cons.injEq] at same
      simp [same.1] at leftFree
    | cons other right =>
      simp only [List.cons_append, List.cons.injEq] at same
      obtain ⟨equal, later⟩ := inductionHypothesis right
        (fun member => leftFree (List.mem_cons_of_mem unit member))
        (fun member => rightFree (List.mem_cons_of_mem other member)) same.2
      exact ⟨by rw [same.1, equal], later⟩

/-- When the keyed hash does not collide, a rotated credential determines the
replica, the reset request and the epoch that it was made for. -/
theorem rotatedCredential_injective (platform : Platform)
    (collisionFree : ∀ one two, platform.hmac one = platform.hmac two → one = two)
    (replicaId other resetRequestId another : Uuid) (epoch target : Nat)
    (valid : isUuid replicaId = true) (otherValid : isUuid other = true)
    (requestValid : isVersion4Uuid resetRequestId = true)
    (anotherValid : isVersion4Uuid another = true)
    (same : rotatedCredential platform replicaId resetRequestId epoch =
      rotatedCredential platform other another target) :
    replicaId = other ∧ resetRequestId = another ∧ epoch = target := by
  have messages := collisionFree _ _ (List.append_cancel_left same)
  obtain ⟨sameReplica, rest⟩ := separated_injective 58 _ _ _ _ (uuid_no_colon _ valid)
    (uuid_no_colon _ otherValid) messages
  obtain ⟨sameRequest, epochs⟩ := separated_injective 58 _ _ _ _
    (version4_no_colon _ requestValid) (version4_no_colon _ anotherValid) rest
  exact ⟨sameReplica, sameRequest, decimal_injective _ _ epochs⟩

/-- `SpikeCommandResult.state`. -/
inductive ResultState where
  | applied
  | conflict
  | denied
deriving DecidableEq

/-- `SpikeCommandResult.code`. A stored code is never `alreadyApplied`. -/
inductive ResultCode where
  | applied
  | alreadyApplied
  | optimisticConflict
  | staleIncarnation
  | commandDenied
deriving DecidableEq

/-- `SpikeCommandResult`. -/
structure SpikeCommandResult where
  commandId : Uuid
  resourceId : Uuid
  digest : Text
  state : ResultState
  code : ResultCode
  previousVersion : Nat
  currentVersion : Nat
  attemptNumber : Nat
deriving DecidableEq

end TraxOs.PowerSync
