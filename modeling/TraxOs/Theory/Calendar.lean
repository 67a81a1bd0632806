import Mathlib.Tactic.Common
import Mathlib.Tactic.IntervalCases

/-!
# The Gregorian calendar

Days are numbered from the first day of the year 1, in both directions. A year,
a month and a day of the month determine the number, whether or not they denote a
real date: an excess of days runs into the months that follow.

Reading a number back always gives a real date, and numbering that date gives the
number again. So a triple is read back unchanged exactly when it is real.
-/

namespace TraxOs.Theory.Calendar

/-- A year of 366 days. -/
def leap (year : Int) : Bool := year % 4 == 0 && (year % 100 != 0 || year % 400 == 0)

/-- The additional day of a leap year. -/
def leapDay (year : Int) : Int := if leap year then 1 else 0

/-- The number of days of a month, counted from 1. -/
def monthLength (year : Int) (month : Nat) : Int :=
  if month = 2 then 28 + leapDay year
  else if month = 4 ∨ month = 6 ∨ month = 9 ∨ month = 11 then 30
  else 31

/-- The days of a year before one of its months. -/
def daysBeforeMonth (year : Int) (month : Nat) : Int :=
  match month with
  | 2 => 31
  | 3 => 59 + leapDay year
  | 4 => 90 + leapDay year
  | 5 => 120 + leapDay year
  | 6 => 151 + leapDay year
  | 7 => 181 + leapDay year
  | 8 => 212 + leapDay year
  | 9 => 243 + leapDay year
  | 10 => 273 + leapDay year
  | 11 => 304 + leapDay year
  | 12 => 334 + leapDay year
  | _ => 0

/-- The days between the first day of the year 1 and the first day of a year. -/
def daysBeforeYear (year : Int) : Int :=
  365 * (year - 1) + (year - 1) / 4 - (year - 1) / 100 + (year - 1) / 400

/-- The number of a day. -/
def number (year : Int) (month : Nat) (day : Int) : Int :=
  daysBeforeYear year + daysBeforeMonth year month + (day - 1)

/-- A year, a month and a day that a calendar shows. -/
def Real (year : Int) (month : Nat) (day : Int) : Prop :=
  (1 ≤ month ∧ month ≤ 12) ∧ (1 ≤ day ∧ day ≤ monthLength year month)

instance (year : Int) (month : Nat) (day : Int) : Decidable (Real year month day) :=
  inferInstanceAs (Decidable (_ ∧ _))

/-- The year of a day: its cycle of 400 years, the century and the four years in
it, and the year in those. The last century and the last year are one day longer. -/
def yearOf (day : Int) : Int :=
  let inCycle := day % 146097
  let century := min (inCycle / 36524) 3
  let inCentury := inCycle - century * 36524
  let inFour := inCentury % 1461
  let single := min (inFour / 365) 3
  400 * (day / 146097) + 100 * century + 4 * (inCentury / 1461) + single + 1

/-- How many days of its year lie before a day. -/
def dayWithinYear (day : Int) : Int := day - daysBeforeYear (yearOf day)

/-- The month in which a day of a year falls. -/
def monthWithin (year within : Int) : Nat :=
  if within < 31 then 1
  else if within < 59 + leapDay year then 2
  else if within < 90 + leapDay year then 3
  else if within < 120 + leapDay year then 4
  else if within < 151 + leapDay year then 5
  else if within < 181 + leapDay year then 6
  else if within < 212 + leapDay year then 7
  else if within < 243 + leapDay year then 8
  else if within < 273 + leapDay year then 9
  else if within < 304 + leapDay year then 10
  else if within < 334 + leapDay year then 11
  else 12

/-- The month of a day. -/
def monthOf (day : Int) : Nat := monthWithin (yearOf day) (dayWithinYear day)

/-- The day of its month. -/
def dayOf (day : Int) : Int :=
  dayWithinYear day - daysBeforeMonth (yearOf day) (monthOf day) + 1

theorem leapDay_bounds (year : Int) : 0 ≤ leapDay year ∧ leapDay year ≤ 1 := by
  unfold leapDay
  split <;> omega

theorem monthLength_le (year : Int) (month : Nat) : monthLength year month ≤ 31 := by
  have extra := leapDay_bounds year
  unfold monthLength
  split
  · omega
  · split <;> omega

theorem daysBeforeMonth_nonneg (year : Int) (month : Nat) : 0 ≤ daysBeforeMonth year month := by
  have extra := leapDay_bounds year
  unfold daysBeforeMonth
  split <;> omega

/-- A year ends where the next one begins. -/
theorem daysBeforeYear_succ (year : Int) :
    daysBeforeYear (year + 1) = daysBeforeYear year + 365 + leapDay year := by
  simp only [daysBeforeYear, leapDay, leap, Bool.and_eq_true, Bool.or_eq_true, beq_iff_eq,
    bne_iff_ne]
  split <;> omega

/-- Later years begin later, by at least 365 days each. -/
theorem daysBeforeYear_mono (earlier later : Int) (ordered : earlier ≤ later) :
    daysBeforeYear earlier + 365 * (later - earlier) ≤ daysBeforeYear later := by
  simp only [daysBeforeYear]
  omega

/-- The first day of a year, by its place in the cycle of 400 years. -/
theorem daysBeforeYear_parts (cycle century four single : Int) (centuries : 0 ≤ century ∧ century ≤ 3)
    (fours : 0 ≤ four ∧ four ≤ 24) (singles : 0 ≤ single ∧ single ≤ 3) :
    daysBeforeYear (400 * cycle + 100 * century + 4 * four + single + 1) =
      146097 * cycle + 36524 * century + 1461 * four + 365 * single := by
  have years : 400 * cycle + 100 * century + 4 * four + single + 1 - 1 =
      400 * cycle + 100 * century + 4 * four + single := by omega
  have byFour : (400 * cycle + 100 * century + 4 * four + single) / 4 =
      100 * cycle + 25 * century + four := by omega
  have byHundred : (400 * cycle + 100 * century + 4 * four + single) / 100 =
      4 * cycle + century := by omega
  have byCycle : (400 * cycle + 100 * century + 4 * four + single) / 400 = cycle := by omega
  rw [daysBeforeYear, years, byFour, byHundred, byCycle]
  omega

/-- The year after it begins with the next year, the next four years, the next
century or the next cycle. -/
theorem daysBeforeYear_next (cycle century four single rest : Int)
    (centuries : 0 ≤ century ∧ century ≤ 3) (fours : 0 ≤ four ∧ four ≤ 24)
    (singles : 0 ≤ single ∧ single ≤ 3) (inSingle : single < 3 → rest < 365)
    (inFour : 365 * single + rest < 1461)
    (inCentury : century < 3 → 1461 * four + 365 * single + rest < 36524)
    (inCycle : 36524 * century + 1461 * four + 365 * single + rest < 146097) :
    146097 * cycle + 36524 * century + 1461 * four + 365 * single + rest <
      daysBeforeYear (400 * cycle + 100 * century + 4 * four + single + 1 + 1) := by
  rcases (by omega : single < 3 ∨ single = 3) with early | rfl
  · have begins := daysBeforeYear_parts cycle century four (single + 1) centuries fours (by omega)
    rw [← add_assoc] at begins
    rw [begins]
    have short := inSingle early
    omega
  · rcases (by omega : four < 24 ∨ four = 24) with early | rfl
    · have begins := daysBeforeYear_parts cycle century (four + 1) 0 centuries (by omega) (by omega)
      rw [show 400 * cycle + 100 * century + 4 * four + 3 + 1 + 1 =
        400 * cycle + 100 * century + 4 * (four + 1) + 0 + 1 by omega, begins]
      omega
    · rcases (by omega : century < 3 ∨ century = 3) with early | rfl
      · have begins := daysBeforeYear_parts cycle (century + 1) 0 0 (by omega) (by omega) (by omega)
        rw [show 400 * cycle + 100 * century + 4 * 24 + 3 + 1 + 1 =
          400 * cycle + 100 * (century + 1) + 4 * 0 + 0 + 1 by omega, begins]
        have short := inCentury early
        omega
      · have begins := daysBeforeYear_parts (cycle + 1) 0 0 0 (by omega) (by omega) (by omega)
        rw [show 400 * cycle + 100 * 3 + 4 * 24 + 3 + 1 + 1 =
          400 * (cycle + 1) + 100 * 0 + 4 * 0 + 0 + 1 by omega, begins]
        omega

/-- The year of a day is the one that has begun and not ended. -/
theorem yearOf_bounds (day : Int) :
    daysBeforeYear (yearOf day) ≤ day ∧ day < daysBeforeYear (yearOf day + 1) := by
  obtain ⟨cycle, century, four, single, rest, year, same, centuries, fours, singles, nonnegative,
      inSingle, inFour, inCentury, inCycle⟩ :
      ∃ cycle century four single rest : Int,
        yearOf day = 400 * cycle + 100 * century + 4 * four + single + 1 ∧
        day = 146097 * cycle + 36524 * century + 1461 * four + 365 * single + rest ∧
        (0 ≤ century ∧ century ≤ 3) ∧ (0 ≤ four ∧ four ≤ 24) ∧ (0 ≤ single ∧ single ≤ 3) ∧
        0 ≤ rest ∧ (single < 3 → rest < 365) ∧ 365 * single + rest < 1461 ∧
        (century < 3 → 1461 * four + 365 * single + rest < 36524) ∧
        36524 * century + 1461 * four + 365 * single + rest < 146097 := by
    refine ⟨day / 146097, min (day % 146097 / 36524) 3,
      (day % 146097 - min (day % 146097 / 36524) 3 * 36524) / 1461,
      min ((day % 146097 - min (day % 146097 / 36524) 3 * 36524) % 1461 / 365) 3,
      (day % 146097 - min (day % 146097 / 36524) 3 * 36524) % 1461 -
        min ((day % 146097 - min (day % 146097 / 36524) 3 * 36524) % 1461 / 365) 3 * 365, rfl, ?_⟩
    omega
  have begins := daysBeforeYear_parts cycle century four single centuries fours singles
  have ends := daysBeforeYear_next cycle century four single rest centuries fours singles inSingle
    inFour inCentury inCycle
  rw [year, begins]
  exact ⟨by omega, same ▸ ends⟩

/-- No other year has begun and not ended. -/
theorem yearOf_unique (day year : Int) (begun : daysBeforeYear year ≤ day)
    (lasts : day < daysBeforeYear (year + 1)) : yearOf day = year := by
  have bounds := yearOf_bounds day
  rcases Int.lt_trichotomy (yearOf day) year with earlier | same | later
  · have := daysBeforeYear_mono (yearOf day + 1) year (by omega)
    omega
  · exact same
  · have := daysBeforeYear_mono (year + 1) (yearOf day) (by omega)
    omega

/-- Where in its year a real date falls. -/
theorem within_of_real (year : Int) (month : Nat) (day : Int) (real : Real year month day) :
    0 ≤ daysBeforeMonth year month + (day - 1) ∧
      daysBeforeMonth year month + (day - 1) < 365 + leapDay year ∧
        monthWithin year (daysBeforeMonth year month + (day - 1)) = month := by
  obtain ⟨⟨low, high⟩, first, last⟩ := real
  have extra := leapDay_bounds year
  interval_cases month <;> simp only [monthLength, daysBeforeMonth, monthWithin] at last ⊢ <;>
    simp at last <;> refine ⟨by omega, by omega, ?_⟩ <;>
      repeat (first | rfl | rw [if_pos (by omega)] | rw [if_neg (by omega)])

/-- The month and the day that are read from a place in a year are real. -/
theorem real_of_within (year within : Int) (begun : 0 ≤ within)
    (lasts : within < 365 + leapDay year) :
    Real year (monthWithin year within)
      (within - daysBeforeMonth year (monthWithin year within) + 1) := by
  have extra := leapDay_bounds year
  unfold monthWithin
  repeat' split
  all_goals
    refine ⟨⟨by omega, by omega⟩, ?_⟩
    simp [monthLength, daysBeforeMonth]
    omega

/-- Every number is the number of the date that is read from it. -/
theorem number_read (day : Int) : number (yearOf day) (monthOf day) (dayOf day) = day := by
  simp only [number, dayOf, dayWithinYear]
  omega

/-- What is read from a number is a real date. -/
theorem read_real (day : Int) : Real (yearOf day) (monthOf day) (dayOf day) := by
  have bounds := yearOf_bounds day
  rw [daysBeforeYear_succ] at bounds
  exact real_of_within (yearOf day) (dayWithinYear day) (by rw [dayWithinYear]; omega)
    (by rw [dayWithinYear]; omega)

/-- A real date is read back from its number. -/
theorem read_number (year : Int) (month : Nat) (day : Int) (real : Real year month day) :
    yearOf (number year month day) = year ∧ monthOf (number year month day) = month ∧
      dayOf (number year month day) = day := by
  obtain ⟨begun, lasts, inMonth⟩ := within_of_real year month day real
  have sameYear : yearOf (number year month day) = year := by
    apply yearOf_unique
    · rw [number]
      omega
    · rw [daysBeforeYear_succ, number]
      omega
  have within : dayWithinYear (number year month day) = daysBeforeMonth year month + (day - 1) := by
    rw [dayWithinYear, sameYear, number]
    omega
  have sameMonth : monthOf (number year month day) = month := by
    rw [monthOf, sameYear, within, inMonth]
  refine ⟨sameYear, sameMonth, ?_⟩
  rw [dayOf, within, sameYear, sameMonth]
  omega

end TraxOs.Theory.Calendar
