import TraxOs.ApiClient.Formats
import TraxOs.Api.Values

/-!
# The texts that the server writes

Identifiers, dates and timestamps in the forms that Pydantic serialises, and how the
format checks of the client read them. A timestamp counts microseconds from the first
moment of the year 1, the least of Python's datetimes; its seconds have a fraction of
six digits unless that is zero.
-/

namespace TraxOs.ApiClient

open TraxOs.Theory TraxOs.Api

/-- The number of the day of a timestamp. -/
def momentDay (moment : Timestamp) : Nat := moment / 86400000000

/-- The calendar year of a timestamp. -/
def momentYear (moment : Timestamp) : Nat := (Calendar.yearOf (momentDay moment)).toNat

/-- The moments that Python's `datetime` can represent: those before the year 10000. -/
def Representable (moment : Timestamp) : Prop := moment < 3652059 * 86400000000

instance (moment : Timestamp) : Decidable (Representable moment) := inferInstanceAs (Decidable (_ < _))

/-- A UTC datetime as Pydantic serialises it. -/
def momentIso (moment : Timestamp) : List Char :=
  let day : Int := momentDay moment
  let second := moment / 1000000 % 86400
  padded 4 (momentYear moment) ++ '-' :: padded 2 (Calendar.monthOf day) ++
    '-' :: padded 2 (Calendar.dayOf day).toNat ++ 'T' :: padded 2 (second / 3600) ++
    ':' :: padded 2 (second / 60 % 60) ++ ':' :: padded 2 (second % 60) ++
    (if moment % 1000000 = 0 then [] else '.' :: padded 6 (moment % 1000000)) ++ ['Z']

/-- The code unit of a decimal digit. -/
def digitUnit (digit : Nat) : UInt16 := UInt16.ofNat (48 + digit)

section Digits

theorem utf16_append (front back : List Char) :
    utf16 (front ++ back) = utf16 front ++ utf16 back := List.flatMap_append

theorem utf16_cons (character : Char) (rest : List Char) (basic : character.toNat < 0x10000) :
    utf16 (character :: rest) = UInt16.ofNat character.toNat :: utf16 rest := by
  rw [utf16, List.flatMap_cons, utf16Units, if_pos basic]
  rfl

/-- One digit. -/
theorem utf16_digit (digit : Nat) (small : digit < 10) :
    utf16 [Nat.digitChar digit] = [digitUnit digit] := by
  interval_cases digit <;> rfl

theorem padded_one (digit : Nat) (small : digit < 10) : padded 1 digit = [Nat.digitChar digit] := by
  rw [padded, Nat.toDigits_of_lt_base small]
  rfl

/-- The last digit of a padded number. -/
theorem padded_succ (width number : Nat) (positive : 1 ≤ width) :
    padded (width + 1) number = padded width (number / 10) ++ [Nat.digitChar (number % 10)] := by
  rcases Nat.lt_or_ge number 10 with small | large
  · have single : number / 10 = 0 := by omega
    rw [single, Nat.mod_eq_of_lt small, padded, padded, Nat.toDigits_of_lt_base small]
    obtain ⟨before, rfl⟩ : ∃ before, width = before + 1 := ⟨width - 1, by omega⟩
    simp [List.replicate_succ']
  · have split := Nat.toDigits_of_base_le (b := 10) (by decide) large
    simp only [padded, split, List.length_append, List.length_singleton, ← List.append_assoc,
      Nat.add_sub_add_right]

/-- The code units of a number of two digits. -/
theorem utf16_padded_two (number : Nat) (small : number < 100) :
    utf16 (padded 2 number) = [digitUnit (number / 10), digitUnit (number % 10)] := by
  rw [padded_succ 1 number (by omega), padded_one _ (by omega), utf16_append,
    utf16_digit _ (by omega), utf16_digit _ (by omega)]
  rfl

/-- The code units of a number of four digits. -/
theorem utf16_padded_four (number : Nat) (small : number < 10000) :
    utf16 (padded 4 number) = [digitUnit (number / 1000), digitUnit (number / 100 % 10),
      digitUnit (number / 10 % 10), digitUnit (number % 10)] := by
  rw [padded_succ 3 number (by omega), padded_succ 2 (number / 10) (by omega), utf16_append,
    utf16_append, utf16_padded_two _ (by omega), utf16_digit _ (by omega), utf16_digit _ (by omega)]
  have first : number / 10 / 10 / 10 = number / 1000 := by omega
  have second : number / 10 / 10 % 10 = number / 100 % 10 := by omega
  rw [first, second]
  rfl

theorem isDigit_digitUnit (digit : Nat) (small : digit < 10) : isDigit (digitUnit digit) = true := by
  interval_cases digit <;> rfl

theorem digitUnit_value (digit : Nat) (small : digit < 10) : (digitUnit digit).toNat - 48 = digit := by
  interval_cases digit <;> rfl

/-- Two digits denote their number. -/
theorem decimalValue_two (number : Nat) (small : number < 100) :
    decimalValue [digitUnit (number / 10), digitUnit (number % 10)] = number := by
  simp only [decimalValue, List.foldl_cons, List.foldl_nil, digitUnit_value (number / 10) (by omega),
    digitUnit_value (number % 10) (by omega)]
  omega

/-- Four digits denote their number. -/
theorem decimalValue_four (number : Nat) (small : number < 10000) :
    decimalValue [digitUnit (number / 1000), digitUnit (number / 100 % 10),
      digitUnit (number / 10 % 10), digitUnit (number % 10)] = number := by
  simp only [decimalValue, List.foldl_cons, List.foldl_nil, digitUnit_value (number / 1000) (by omega),
    digitUnit_value (number / 100 % 10) (by omega), digitUnit_value (number / 10 % 10) (by omega),
    digitUnit_value (number % 10) (by omega)]
  omega

end Digits

section Dates

/-- The code units of a date. -/
def dateUnits (year month day : Nat) : Text :=
  [digitUnit (year / 1000), digitUnit (year / 100 % 10), digitUnit (year / 10 % 10),
    digitUnit (year % 10), 45, digitUnit (month / 10), digitUnit (month % 10), 45,
    digitUnit (day / 10), digitUnit (day % 10)]

theorem utf16_date (year month day : Nat) (years : year < 10000) (months : month < 100)
    (days : day < 100) :
    utf16 (padded 4 year ++ '-' :: padded 2 month ++ '-' :: padded 2 day) =
      dateUnits year month day := by
  rw [utf16_append, utf16_append, utf16_cons '-' _ (by decide), utf16_cons '-' _ (by decide),
    utf16_padded_four year years, utf16_padded_two month months, utf16_padded_two day days]
  rfl

/-- The client captures the numbers that were written. -/
theorem dateFields_units (year month day : Nat) (years : year < 10000) (months : month < 100)
    (days : day < 100) : dateFields (dateUnits year month day) = some (year, month, day) := by
  have digits : [digitUnit (year / 1000), digitUnit (year / 100 % 10), digitUnit (year / 10 % 10),
      digitUnit (year % 10), digitUnit (month / 10), digitUnit (month % 10),
      digitUnit (day / 10), digitUnit (day % 10)].all isDigit = true := by
    simp only [List.all_cons, List.all_nil, Bool.and_true, Bool.and_eq_true]
    refine ⟨?_, ?_, ?_, ?_, ?_, ?_, ?_, ?_⟩ <;> exact isDigit_digitUnit _ (by omega)
  simp only [dateFields, dateUnits, digits, Bool.true_and, beq_self_eq_true, if_true,
    decimalValue_four year years, decimalValue_two month months, decimalValue_two day days]

/-- Both sides agree on the lengths of months. -/
theorem daysInMonth_eq (year month : Nat) :
    (daysInMonth year month : Int) = Calendar.monthLength year month := by
  unfold daysInMonth Calendar.monthLength Calendar.leapDay Calendar.leap
  simp only [Bool.and_eq_true, Bool.or_eq_true, beq_iff_eq, bne_iff_ne]
  split
  · split <;> split <;> omega
  · split <;> omega

/-- What a date denotes on the wire. -/
theorem date_denotes (date : Date) : Denotes (utf16 date.iso) date.year date.month date.day := by
  obtain ⟨⟨low, high⟩, months, first, last⟩ := date.real
  have short : daysInMonth date.year date.month ≤ 31 := by
    unfold daysInMonth
    split
    · split <;> omega
    · split <;> omega
  have length := daysInMonth_eq date.year date.month
  refine ⟨?_, months, by omega, by omega⟩
  rw [Date.iso, utf16_date _ _ _ (by omega) (by omega) (by omega)]
  exact dateFields_units _ _ _ (by omega) (by omega) (by omega)

/-- A text denotes one date at most. -/
theorem Denotes.unique (value : Text) (year month day year' month' day' : Nat)
    (left : Denotes value year month day) (right : Denotes value year' month' day') :
    year = year' := by
  have same := Option.some.inj (left.1.symm.trans right.1)
  exact congrArg Prod.fst same

/-- The client accepts a server date exactly from the year 100 on. -/
theorem validDate_iso (date : Date) : validDate (utf16 date.iso) = true ↔ 100 ≤ date.year := by
  have denotes := date_denotes date
  rw [validDate_iff]
  constructor
  · rintro ⟨year, month, day, found, late⟩
    rw [denotes.unique _ _ _ _ _ _ _ found]
    exact late
  · intro late
    exact ⟨_, _, _, denotes, late⟩

end Dates

section Moments

variable (moment : Timestamp)

/-- The date of a representable moment is one that a calendar shows, in the years 1 to
9999. -/
theorem moment_real (representable : Representable moment) :
    (1 ≤ momentYear moment ∧ momentYear moment ≤ 9999) ∧
      Calendar.Real (momentYear moment) (Calendar.monthOf (momentDay moment))
        (Calendar.dayOf (momentDay moment)).toNat := by
  have real := Calendar.read_real (momentDay moment)
  have bounds := Calendar.yearOf_bounds (momentDay moment)
  have last : (momentDay moment : Int) < 3652059 := by
    have days : momentDay moment < 3652059 :=
      Nat.div_lt_of_lt_mul (representable.trans_eq (Nat.mul_comm _ _))
    omega
  have low : 1 ≤ Calendar.yearOf (momentDay moment) := by
    by_contra early
    have before := Calendar.daysBeforeYear_mono (Calendar.yearOf (momentDay moment) + 1) 1 (by omega)
    have origin : Calendar.daysBeforeYear 1 = 0 := by decide
    omega
  have high : Calendar.yearOf (momentDay moment) ≤ 9999 := by
    by_contra late
    have after := Calendar.daysBeforeYear_mono 10000 (Calendar.yearOf (momentDay moment)) (by omega)
    have bound : Calendar.daysBeforeYear 10000 = 3652059 := by decide
    omega
  have year : (momentYear moment : Int) = Calendar.yearOf (momentDay moment) := by
    unfold momentYear
    omega
  have day : ((Calendar.dayOf (momentDay moment)).toNat : Int) =
      Calendar.dayOf (momentDay moment) := by
    have first := real.2.1
    omega
  refine ⟨by omega, ?_⟩
  rw [year, day]
  exact real

/-- What follows the date of a moment. -/
def clockUnits (hour minute second fraction : Nat) : Text :=
  84 :: digitUnit (hour / 10) :: digitUnit (hour % 10) :: 58 :: digitUnit (minute / 10) ::
    digitUnit (minute % 10) :: 58 :: digitUnit (second / 10) :: digitUnit (second % 10) ::
      ((if fraction = 0 then [] else 46 :: utf16 (padded 6 fraction)) ++ [90])

/-- The zone letter follows the fraction, whatever its digits. -/
theorem zone_of_fraction (fraction : Nat) (small : fraction < 1000000) :
    (skipFraction ((if fraction = 0 then [] else 46 :: utf16 (padded 6 fraction)) ++ [90])).bind
      zone = some (0, 0) := by
  split
  · rfl
  · have digits : utf16 (padded 6 fraction) =
        utf16 (padded 4 (fraction / 100)) ++ utf16 (padded 2 (fraction % 100)) := by
      rw [padded_succ 5 fraction (by omega), padded_succ 4 (fraction / 10) (by omega), utf16_append,
        utf16_append, utf16_padded_two _ (by omega), utf16_digit _ (by omega),
        utf16_digit _ (by omega)]
      have tens : fraction / 10 / 10 = fraction / 100 := by omega
      have first : fraction / 10 % 10 = fraction % 100 / 10 := by omega
      have second : fraction % 10 = fraction % 100 % 10 := by omega
      rw [tens, first, second]
      simp
    have all : ∀ unit ∈ utf16 (padded 6 fraction), isDigit unit = true := by
      rw [digits, utf16_padded_four _ (by omega), utf16_padded_two _ (by omega)]
      simp only [List.cons_append, List.nil_append, List.forall_mem_cons]
      refine ⟨?_, ?_, ?_, ?_, ?_, ?_, by simp⟩ <;> exact isDigit_digitUnit _ (by omega)
    have whole : (utf16 (padded 6 fraction) ++ [90]).takeWhile isDigit =
        utf16 (padded 6 fraction) := by
      rw [List.takeWhile_append_of_pos all]
      exact List.append_nil _
    have rest : (utf16 (padded 6 fraction) ++ [90]).dropWhile isDigit = [90] := by
      rw [List.dropWhile_append_of_pos all]
      rfl
    have filled : (utf16 (padded 6 fraction)).isEmpty = false := by
      rw [digits, utf16_padded_four _ (by omega)]
      rfl
    rw [List.cons_append, skipFraction, whole, filled, rest]
    rfl

/-- A moment on the wire is its date and its clock. -/
theorem utf16_moment (representable : Representable moment) :
    utf16 (momentIso moment) =
      dateUnits (momentYear moment) (Calendar.monthOf (momentDay moment))
          (Calendar.dayOf (momentDay moment)).toNat ++
        clockUnits (moment / 1000000 % 86400 / 3600) (moment / 1000000 % 86400 / 60 % 60)
          (moment / 1000000 % 86400 % 60) (moment % 1000000) := by
  obtain ⟨years, months, days⟩ := moment_real moment representable
  have short : Calendar.monthLength (momentYear moment) (Calendar.monthOf (momentDay moment)) ≤ 31 :=
    Calendar.monthLength_le _ _
  have date := utf16_date (momentYear moment) (Calendar.monthOf (momentDay moment))
    (Calendar.dayOf (momentDay moment)).toNat (by omega) (by omega) (by omega)
  have colon := fun rest => utf16_cons ':' rest (by decide)
  have fraction : utf16 (if moment % 1000000 = 0 then [] else '.' :: padded 6 (moment % 1000000)) =
      if moment % 1000000 = 0 then [] else 46 :: utf16 (padded 6 (moment % 1000000)) := by
    split
    · rfl
    · exact utf16_cons '.' _ (by decide)
  rw [momentIso, utf16_append, utf16_append, utf16_append, utf16_append, utf16_append, date, colon,
    colon, utf16_cons 'T' _ (by decide), utf16_padded_two _ (by omega),
    utf16_padded_two _ (by omega), utf16_padded_two _ (by omega), fraction]
  simp only [clockUnits, List.append_assoc, List.cons_append, List.nil_append]
  rfl

/-- The client reads a real date and a clock, and minds the year only. -/
theorem validDateTime_units (year month day hour minute second fraction : Nat)
    (years : 1 ≤ year ∧ year ≤ 9999) (real : Calendar.Real year month day) (hours : hour ≤ 23)
    (minutes : minute ≤ 59) (seconds : second ≤ 59) (fractions : fraction < 1000000) :
    validDateTime (dateUnits year month day ++ clockUnits hour minute second fraction) = true ↔
      100 ≤ year := by
  obtain ⟨months, days⟩ := real
  have short := Calendar.monthLength_le year month
  have fields := dateFields_units year month day (by omega) (by omega) (by omega)
  have digits : [digitUnit (hour / 10), digitUnit (hour % 10), digitUnit (minute / 10),
      digitUnit (minute % 10), digitUnit (second / 10), digitUnit (second % 10)].all isDigit =
        true := by
    simp only [List.all_cons, List.all_nil, Bool.and_true, Bool.and_eq_true]
    refine ⟨?_, ?_, ?_, ?_, ?_, ?_⟩ <;> exact isDigit_digitUnit _ (by omega)
  have matched : matchDateTime (dateUnits year month day ++ clockUnits hour minute second fraction) =
      some ⟨dateUnits year month day, hour, minute, second, 0, 0⟩ := by
    have front : (dateUnits year month day ++ clockUnits hour minute second fraction).take 10 =
        dateUnits year month day := rfl
    have back : (dateUnits year month day ++ clockUnits hour minute second fraction).drop 10 =
        clockUnits hour minute second fraction := rfl
    rw [matchDateTime, front, back]
    simp only [clockUnits, digits, fields, Option.isSome_some, beq_self_eq_true, Bool.and_true,
      if_true, zone_of_fraction fraction fractions, Option.map_some,
      decimalValue_two hour (by omega), decimalValue_two minute (by omega),
      decimalValue_two second (by omega)]
  have checked : validDate (dateUnits year month day) = true ↔ 100 ≤ year := by
    rw [validDate_iff]
    constructor
    · rintro ⟨other, month', day', found, late⟩
      rw [Denotes.unique _ _ _ _ _ _ _ ⟨fields, months, days⟩ found]
      exact late
    · intro late
      exact ⟨year, month, day, ⟨fields, months, days⟩, late⟩
  rw [validDateTime, matched]
  simp only [parses, fields, Bool.and_eq_true, checked, decide_eq_true_eq, Option.any_some]
  omega

/-- The client accepts a server timestamp exactly from the year 100 on. -/
theorem validDateTime_iso (representable : Representable moment) :
    validDateTime (utf16 (momentIso moment)) = true ↔ 100 ≤ momentYear moment := by
  obtain ⟨years, real⟩ := moment_real moment representable
  have hours : ∀ second : Nat, second % 86400 / 3600 ≤ 23 := by omega
  have minutes : ∀ second : Nat, second % 86400 / 60 % 60 ≤ 59 := by omega
  have seconds : ∀ second : Nat, second % 86400 % 60 ≤ 59 := by omega
  have fractions : ∀ number : Nat, number % 1000000 < 1000000 := by omega
  rw [utf16_moment moment representable]
  exact validDateTime_units _ _ _ _ _ _ _ years real (hours _) (minutes _) (seconds _) (fractions _)

end Moments

section Identifiers

/-- The code unit of a hexadecimal digit. -/
def hexUnit (digit : Nat) : UInt16 := UInt16.ofNat (Nat.digitChar (digit % 16)).toNat

theorem utf16_hex (digit : Nat) : utf16Units (Nat.digitChar (digit % 16)) = [hexUnit digit] := by
  have small : digit % 16 < 16 := Nat.mod_lt _ (by decide)
  unfold hexUnit
  generalize digit % 16 = value at *
  interval_cases value <;> rfl

theorem isHexDigit_hexUnit (digit : Nat) : isHexDigit (hexUnit digit) = true := by
  have small : digit % 16 < 16 := Nat.mod_lt _ (by decide)
  unfold hexUnit
  generalize digit % 16 = value at *
  interval_cases value <;> rfl

/-- The client accepts every identifier that the server writes. -/
theorem validUuid_text (id : Uuid) : validUuid (utf16 (uuidText id)) = true := by
  have hyphen : utf16Units '-' = [45] := rfl
  simp only [uuidText, List.range, List.range.loop, List.map_cons, List.map_nil, List.take_succ_cons,
    List.take_zero, List.drop_succ_cons, List.drop_zero, utf16, List.cons_append, List.nil_append,
    List.flatMap_cons, List.flatMap_nil, hyphen, utf16_hex]
  simp [validUuid, isHexDigit_hexUnit, List.zipIdx]

end Identifiers

end TraxOs.ApiClient
