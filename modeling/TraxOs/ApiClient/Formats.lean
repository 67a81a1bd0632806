import TraxOs.ApiClient.Values
import TraxOs.Theory.Calendar

/-!
# String formats

The format checks of the client, over UTF-16 code units. `Date.UTC` numbers days and
the accessors of `Date` read a number back; both use the proleptic Gregorian calendar
and differ from the numbering of the calendar theory by a constant only. `Date.UTC`
takes a year of one or two digits to mean the twentieth century.
-/

namespace TraxOs.ApiClient

open TraxOs.Theory

/-- `\d`. -/
def isDigit (unit : UInt16) : Bool := 48 ≤ unit && unit ≤ 57

/-- `Number` of a text of digits. -/
def decimalValue (digits : Text) : Nat :=
  digits.foldl (fun value digit => 10 * value + (digit.toNat - 48)) 0

/-- `Date.UTC(year, month, day)`, as the number of a day. Months count from 0 and carry
into the year; any day carries into the months that follow. -/
def dateUTC (year month day : Int) : Int :=
  let full := if 0 ≤ year ∧ year ≤ 99 then 1900 + year else year
  Calendar.number (full + month / 12) ((month % 12).toNat + 1) 1 + (day - 1)

/-- The date that `/^(\d{4})-(\d{2})-(\d{2})$/` matches: its year, month and day. -/
def dateFields : Text → Option (Nat × Nat × Nat)
  | [y₁, y₂, y₃, y₄, first, m₁, m₂, second, d₁, d₂] =>
    if ([y₁, y₂, y₃, y₄, m₁, m₂, d₁, d₂].all isDigit && first == 45 && second == 45) then
      some (decimalValue [y₁, y₂, y₃, y₄], decimalValue [m₁, m₂], decimalValue [d₁, d₂])
    else none
  | _ => none

/-- `validDate`. -/
def validDate (value : Text) : Bool :=
  match dateFields value with
  | none => false
  | some (year, month, day) =>
    let date := dateUTC year ((month : Int) - 1) day
    Calendar.yearOf date == (year : Int) && (Calendar.monthOf date : Int) - 1 == (month : Int) - 1 &&
      Calendar.dayOf date == (day : Int)

/-- The parts of a date-time that the regular expression captures. -/
structure DateTimeMatch where
  date : Text
  hour : Nat
  minute : Nat
  second : Nat
  offsetHour : Nat
  offsetMinute : Nat

/-- `(?:\.\d+)?`: what follows it. -/
def skipFraction : Text → Option Text
  | 46 :: rest =>
    if (rest.takeWhile isDigit).isEmpty then none else some (rest.dropWhile isDigit)
  | rest => some rest

/-- `(?:Z|([+-])(\d{2}):(\d{2}))$`: the hours and minutes of the offset, 0 without one. -/
def zone : Text → Option (Nat × Nat)
  | [90] => some (0, 0)
  | [sign, h₁, h₂, colon, m₁, m₂] =>
    if (sign == 43 || sign == 45) && colon == 58 && [h₁, h₂, m₁, m₂].all isDigit then
      some (decimalValue [h₁, h₂], decimalValue [m₁, m₂])
    else none
  | _ => none

/-- The regular expression of `date-time`. -/
def matchDateTime (value : Text) : Option DateTimeMatch :=
  match value.drop 10 with
  | divider :: h₁ :: h₂ :: first :: m₁ :: m₂ :: second :: s₁ :: s₂ :: rest =>
    if divider == 84 && first == 58 && second == 58 &&
        [h₁, h₂, m₁, m₂, s₁, s₂].all isDigit && (dateFields (value.take 10)).isSome then
      ((skipFraction rest).bind zone).map fun offset =>
        ⟨value.take 10, decimalValue [h₁, h₂], decimalValue [m₁, m₂], decimalValue [s₁, s₂],
          offset.1, offset.2⟩
    else none
  | _ => none

/-- `Number.isFinite(Date.parse(value))` for a value that the regular expression matches:
every element lies in its range. -/
def parses (found : DateTimeMatch) : Bool :=
  (dateFields found.date).any (fun date => 1 ≤ date.2.1 && date.2.1 ≤ 12 && 1 ≤ date.2.2 &&
    date.2.2 ≤ 31) && found.hour ≤ 24 && found.minute ≤ 59 && found.second ≤ 59 &&
      found.offsetHour ≤ 23 && found.offsetMinute ≤ 59

/-- The `date-time` branch of `validFormat`. -/
def validDateTime (value : Text) : Bool :=
  match matchDateTime value with
  | none => false
  | some found =>
    validDate found.date && found.hour ≤ 23 && found.minute ≤ 59 && found.second ≤ 59 &&
      found.offsetHour ≤ 23 && found.offsetMinute ≤ 59 && parses found

/-- `[0-9a-f]` without regard to case. -/
def isHexDigit (unit : UInt16) : Bool :=
  isDigit unit || (97 ≤ unit && unit ≤ 102) || (65 ≤ unit && unit ≤ 70)

/-- The `uuid` branch of `validFormat`. -/
def validUuid (value : Text) : Bool :=
  value.length == 36 && value.zipIdx.all fun entry =>
    if entry.2 = 8 ∨ entry.2 = 13 ∨ entry.2 = 18 ∨ entry.2 = 23 then entry.1 == 45
    else isHexDigit entry.1

/-- `\s`. -/
def isSpaceUnit (unit : UInt16) : Bool :=
  (9 ≤ unit && unit ≤ 13) || unit == 32 || unit == 0xA0 || unit == 0x1680 ||
    (0x2000 ≤ unit && unit ≤ 0x200A) || unit == 0x2028 || unit == 0x2029 || unit == 0x202F ||
    unit == 0x205F || unit == 0x3000 || unit == 0xFEFF

/-- The `email` branch of `validFormat`: one `@`, no white space, something before it, and
after it a full stop with something on both sides. -/
def validEmail (value : Text) : Bool :=
  let domain := (value.dropWhile (· != 64)).drop 1
  value.contains 64 && !(value.takeWhile (· != 64)).isEmpty && !domain.contains 64 &&
    value.all (fun unit => !isSpaceUnit unit) && (domain.drop 1).dropLast.contains 46 &&
    value.length ≤ 320

/-- `validFormat`. -/
def validFormat (format value : Text) : Bool :=
  if format = literal "uuid" then validUuid value
  else if format = literal "date" then validDate value
  else if format = literal "date-time" then validDateTime value
  else if format = literal "email" then validEmail value
  else false

/-- The Gregorian date that a text in the form `YYYY-MM-DD` denotes. -/
def Denotes (value : Text) (year month day : Nat) : Prop :=
  dateFields value = some (year, month, day) ∧ Calendar.Real year month day

/-- Two captured digits stay below 100. -/
theorem decimalValue_pair (first second : UInt16)
    (digits : isDigit first = true ∧ isDigit second = true) :
    decimalValue [first, second] ≤ 99 := by
  simp only [isDigit, Bool.and_eq_true, decide_eq_true_eq, UInt16.le_iff_toNat_le] at digits
  change 10 * (10 * 0 + (first.toNat - 48)) + (second.toNat - 48) ≤ 99
  have high : first.toNat ≤ 57 ∧ second.toNat ≤ 57 := ⟨digits.1.2, digits.2.2⟩
  omega

/-- The bounds of what the date expression captures. -/
theorem dateFields_bounds (value : Text) (year month day : Nat)
    (fields : dateFields value = some (year, month, day)) : year ≤ 9999 ∧ month ≤ 99 := by
  unfold dateFields at fields
  split at fields
  · next y₁ y₂ y₃ y₄ first m₁ m₂ second d₁ d₂ =>
    split at fields
    · next shape =>
      simp only [List.all_cons, List.all_nil, Bool.and_true, Bool.and_eq_true] at shape
      obtain ⟨⟨⟨h₁, h₂, h₃, h₄, h₅, h₆, -⟩, -⟩, -⟩ := shape
      have century := decimalValue_pair y₁ y₂ ⟨h₁, h₂⟩
      have inCentury := decimalValue_pair y₃ y₄ ⟨h₃, h₄⟩
      have months := decimalValue_pair m₁ m₂ ⟨h₅, h₆⟩
      have split : decimalValue [y₁, y₂, y₃, y₄] =
          100 * decimalValue [y₁, y₂] + decimalValue [y₃, y₄] := by
        simp only [decimalValue, List.foldl_cons, List.foldl_nil]
        omega
      simp only [Option.some.injEq, Prod.mk.injEq] at fields
      omega
    · cases fields
  · cases fields

/-- From the year 100 on, `Date.UTC` numbers the dates of the calendar. -/
theorem dateUTC_number (year month day : Nat) (full : 100 ≤ year)
    (months : 1 ≤ month ∧ month ≤ 12) :
    dateUTC year ((month : Int) - 1) day = Calendar.number year month day := by
  have late : ¬ (0 ≤ (year : Int) ∧ (year : Int) ≤ 99) := by omega
  have sameYear : ((month : Int) - 1) / 12 = 0 := by omega
  have sameMonth : (((month : Int) - 1) % 12).toNat + 1 = month := by omega
  simp only [dateUTC, if_neg late, sameYear, sameMonth, Calendar.number, add_zero]
  omega

/-- A year of two digits is never read back. -/
theorem dateUTC_early (year month day : Nat) (early : year ≤ 99) (months : month ≤ 99) :
    Calendar.yearOf (dateUTC year ((month : Int) - 1) day) ≠ (year : Int) := by
  intro same
  have bounds := Calendar.yearOf_bounds (dateUTC year ((month : Int) - 1) day)
  have recent : (0 ≤ (year : Int) ∧ (year : Int) ≤ 99) := by omega
  rw [same] at bounds
  simp only [dateUTC, if_pos recent, Calendar.number] at bounds
  have later := Calendar.daysBeforeYear_mono ((year : Int) + 1)
    (1900 + (year : Int) + ((month : Int) - 1) / 12) (by omega)
  have first : 0 ≤ Calendar.daysBeforeMonth (1900 + (year : Int) + ((month : Int) - 1) / 12)
      ((((month : Int) - 1) % 12).toNat + 1) := Calendar.daysBeforeMonth_nonneg _ _
  omega

/-- The date check accepts the real dates from the year 100 on, and nothing else. -/
theorem validDate_iff (value : Text) :
    validDate value = true ↔ ∃ year month day, Denotes value year month day ∧ 100 ≤ year := by
  unfold validDate Denotes
  cases fields : dateFields value with
  | none => simp
  | some found =>
    obtain ⟨year, month, day⟩ := found
    have short : year ≤ 9999 ∧ month ≤ 99 := dateFields_bounds value year month day fields
    simp only [Bool.and_eq_true, beq_iff_eq, Option.some.injEq, Prod.mk.injEq]
    constructor
    · rintro ⟨⟨sameYear, sameMonth⟩, sameDay⟩
      have real := Calendar.read_real (dateUTC year ((month : Int) - 1) day)
      have months : Calendar.monthOf (dateUTC year ((month : Int) - 1) day) = month := by omega
      rw [sameYear, months, sameDay] at real
      refine ⟨year, month, day, ⟨⟨rfl, rfl, rfl⟩, real⟩, ?_⟩
      by_contra early
      exact dateUTC_early year month day (by omega) short.2 sameYear
    · rintro ⟨_, _, _, ⟨⟨rfl, rfl, rfl⟩, real⟩, full⟩
      rw [dateUTC_number year month day full real.1]
      obtain ⟨sameYear, sameMonth, sameDay⟩ := Calendar.read_number year month day real
      rw [sameYear, sameMonth, sameDay]
      exact ⟨⟨rfl, rfl⟩, rfl⟩

end TraxOs.ApiClient
