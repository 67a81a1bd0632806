import Mathlib.Algebra.Group.Nat.Defs
import Mathlib.Data.List.Basic
import Mathlib.Data.List.TakeWhile

/-!
# Values on the wire and in the columns

Texts are sequences of Unicode code points, because both sides count, strip and
compare them that way. A UUID is its 128 bits. A timestamp counts microseconds,
the resolution of the server's clock and of its columns.

A date carries the proof that it denotes a real day of the years 1 to 9999, the
range of Python's `date`. The closed vocabularies of the wire models are
enumerations; their spelling on the wire is a function of the value.
-/

namespace TraxOs.Api

/-- A string, as the sequence of its code points. -/
abbrev Text := List Char

/-- A UUID, compared bit by bit. -/
abbrev Uuid := BitVec 128

/-- A moment in UTC, in microseconds. -/
abbrev Timestamp := Nat

/-- The code point that no PostgreSQL text value can hold. -/
def nul : Char := Char.ofNat 0

/-- The white space that Python's `str.strip` removes. -/
def isSpace (character : Char) : Bool :=
  let code := character.toNat
  (9 ≤ code && code ≤ 13) || (28 ≤ code && code ≤ 32) || code == 0x85 || code == 0xA0 ||
    code == 0x1680 || (0x2000 ≤ code && code ≤ 0x200A) || code == 0x2028 || code == 0x2029 ||
    code == 0x202F || code == 0x205F || code == 0x3000

/-- Remove the characters of one kind from both ends of a text. -/
def trimBy (kind : Char → Bool) (text : Text) : Text :=
  ((text.dropWhile kind).reverse.dropWhile kind).reverse

/-- Python's `str.strip`. -/
def strip (text : Text) : Text := trimBy isSpace text

/-- Trimming keeps a contiguous part of the text. -/
theorem trimBy_part (kind : Char → Bool) (text : Text) : trimBy kind text <:+: text := by
  have front : text.dropWhile kind <:+ text := List.dropWhile_suffix kind
  have back : trimBy kind text <+: text.dropWhile kind := by
    rw [← List.reverse_suffix]
    simp only [trimBy, List.reverse_reverse]
    exact List.dropWhile_suffix kind
  exact back.isInfix.trans front.isInfix

/-- Stripping never lengthens a text. -/
theorem strip_length (text : Text) : (strip text).length ≤ text.length :=
  (trimBy_part isSpace text).length_le

/-- Stripping introduces no character. -/
theorem mem_of_mem_strip (text : Text) (character : Char) (member : character ∈ strip text) :
    character ∈ text :=
  (trimBy_part isSpace text).subset member

/-- Every other character stays. -/
theorem mem_trimBy (kind : Char → Bool) (text : Text) (character : Char) (member : character ∈ text)
    (other : kind character = false) : character ∈ trimBy kind text := by
  have kept : ∀ letters : Text, character ∈ letters → character ∈ letters.dropWhile kind := by
    intro letters
    induction letters with
    | nil => exact id
    | cons head rest inductionHypothesis =>
      intro inside
      rw [List.dropWhile_cons]
      split
      · next dropped =>
        rcases List.mem_cons.mp inside with rfl | later
        · rw [other] at dropped
          cases dropped
        · exact inductionHypothesis later
      · exact inside
  rw [trimBy, List.mem_reverse]
  exact kept _ (List.mem_reverse.mpr (kept text member))

/-- A text strips to nothing exactly when it is white space throughout. -/
theorem strip_eq_nil (text : Text) : strip text = [] ↔ ∀ character ∈ text, isSpace character := by
  constructor
  · intro empty character member
    by_contra other
    have stays := mem_trimBy isSpace text character member (Bool.not_eq_true _ ▸ other)
    have stays : character ∈ strip text := stays
    rw [empty] at stays
    cases stays
  · intro spaces
    rw [strip, trimBy, List.dropWhile_eq_nil_iff.mpr spaces]
    rfl

/-- The number of days of a month in the Gregorian calendar. -/
def daysInMonth (year month : Nat) : Nat :=
  if month = 2 then
    if year % 4 = 0 ∧ (year % 100 ≠ 0 ∨ year % 400 = 0) then 29 else 28
  else if month = 4 ∨ month = 6 ∨ month = 9 ∨ month = 11 then 30
  else 31

/-- A calendar day that Python's `date` can represent. -/
structure Date where
  year : Nat
  month : Nat
  day : Nat
  real : (1 ≤ year ∧ year ≤ 9999) ∧ (1 ≤ month ∧ month ≤ 12) ∧
    (1 ≤ day ∧ day ≤ daysInMonth year month)
deriving DecidableEq

/-- Python's `<` on dates: by year, then month, then day. -/
def Date.before (left right : Date) : Prop :=
  left.year < right.year ∨
    (left.year = right.year ∧
      (left.month < right.month ∨ (left.month = right.month ∧ left.day < right.day)))

instance (left right : Date) : Decidable (left.before right) :=
  inferInstanceAs (Decidable (_ ∨ _))

/-- The ordering that models and tables require of optional dates: `end_date` is
not before `start_date` when both are given. -/
def datesOrdered : Option Date → Option Date → Prop
  | some startDate, some endDate => ¬ endDate.before startDate
  | _, _ => True

instance (startDate endDate : Option Date) : Decidable (datesOrdered startDate endDate) :=
  match startDate, endDate with
  | some startDate, some endDate => inferInstanceAs (Decidable (¬ endDate.before startDate))
  | none, _ => .isTrue trivial
  | some _, none => .isTrue trivial

/-- `Literal["planning", "active", "completed", "archived"]`. -/
inductive JourneyStatus where
  | planning
  | active
  | completed
  | archived
deriving DecidableEq, Repr

/-- `Literal["stay", "move"]`. -/
inductive SegmentKind where
  | stay
  | move
deriving DecidableEq, Repr

/-- The `PackingCategory` literals. -/
inductive PackingCategory where
  | documents
  | clothing
  | toiletries
  | electronics
  | other
deriving DecidableEq, Repr

/-- The membership roles that `membership_role_valid` admits. -/
inductive Role where
  | owner
  | editor
  | viewer
deriving DecidableEq, Repr

/-- The workspace types that `workspace_type_valid` admits. -/
inductive WorkspaceType where
  | personal
  | agency
deriving DecidableEq, Repr

/-- `Origin` of a command. -/
inductive Origin where
  | web
  | agent
  | sync
  | system
deriving DecidableEq, Repr

/-- Reversibility classes of a command definition. -/
inductive Reversibility where
  | full
  | compensatable
  | partially
  | never
deriving DecidableEq, Repr

/-- The canonical form of a UUID: 32 lower-case hexadecimal digits in five groups. -/
def uuidText (id : Uuid) : Text :=
  let digits := (List.range 32).map fun place => Nat.digitChar (id.toNat / 16 ^ (31 - place) % 16)
  digits.take 8 ++ '-' :: (digits.drop 8).take 4 ++ '-' :: (digits.drop 12).take 4 ++
    '-' :: (digits.drop 16).take 4 ++ '-' :: digits.drop 20

/-- The decimal text of a number, with zeros in front up to a width. -/
def padded (width number : Nat) : Text :=
  let digits := Nat.toDigits 10 number
  List.replicate (width - digits.length) '0' ++ digits

/-- The ISO form `YYYY-MM-DD` of a date. -/
def Date.iso (date : Date) : Text :=
  padded 4 date.year ++ '-' :: padded 2 date.month ++ '-' :: padded 2 date.day

/-- The status as the wire and the column spell it. -/
def JourneyStatus.literal : JourneyStatus → String
  | .planning => "planning"
  | .active => "active"
  | .completed => "completed"
  | .archived => "archived"

/-- The category as the wire and the column spell it. -/
def PackingCategory.literal : PackingCategory → String
  | .documents => "documents"
  | .clothing => "clothing"
  | .toiletries => "toiletries"
  | .electronics => "electronics"
  | .other => "other"

end TraxOs.Api
