/-!
# Calendar dates

The proleptic Gregorian calendar with a year zero and negative years.  Days are
numbered from the first of January of the year one, so that adding days is adding
numbers, and a date is the year, month and day of such a number.

Main statement: the year of a day is the one whose days the number falls into
(`daysBeforeYear_yearOfDay`).
-/

namespace Formulary

namespace Calendar

/-! ## Years -/

/-- A leap year: every fourth, of the centuries only every fourth. -/
def isLeap (year : Int) : Bool :=
  year % 4 == 0 && (year % 100 != 0 || year % 400 == 0)

/-- The first year of the calendar. -/
def firstYear : Int := -262143

/-- The last year of the calendar. -/
def lastYear : Int := 262142

/-- The number of days from the first of January of the year one to that of a year. -/
def daysBeforeYear (year : Int) : Int :=
  365 * (year - 1) + (year - 1) / 4 - (year - 1) / 100 + (year - 1) / 400

/-- The year of a numbered day, and the number of the day in that year, from zero.  The
days fall into periods of 400 years; the last century of a period and the last year of
four years are the ones that have a day more. -/
def yearOfDay (number : Int) : Int × Int :=
  let period := number / 146097
  let day := number % 146097
  let century := min (day / 36524) 3
  let day := day - 36524 * century
  let four := day / 1461
  let day := day % 1461
  let one := min (day / 365) 3
  (400 * period + 100 * century + 4 * four + one + 1, day - 365 * one)

/-- The days before a year that is given by its period, century, four years and year. -/
theorem daysBeforeYear_parts {period century four one : Int}
    (hcentury : 0 ≤ century ∧ century ≤ 3) (hfour : 0 ≤ four ∧ four ≤ 24)
    (hone : 0 ≤ one ∧ one ≤ 3) :
    daysBeforeYear (400 * period + 100 * century + 4 * four + one + 1) =
      146097 * period + 36524 * century + 1461 * four + 365 * one := by
  have fours : (400 * period + 100 * century + 4 * four + one) / 4
      = 100 * period + 25 * century + four := by omega
  have centuries : (400 * period + 100 * century + 4 * four + one) / 100
      = 4 * period + century := by omega
  have periods : (400 * period + 100 * century + 4 * four + one) / 400 = period := by omega
  simp only [daysBeforeYear, Int.add_sub_cancel, fours, centuries, periods]
  omega

/-- A numbered day is that many days after the first of its year. -/
theorem daysBeforeYear_yearOfDay (number : Int) :
    daysBeforeYear (yearOfDay number).1 + (yearOfDay number).2 = number := by
  simp only [yearOfDay]
  rw [daysBeforeYear_parts (by omega) (by omega) (by omega)]
  omega

/-! ## Months -/

/-- The lengths of the months of a year. -/
def monthLengths (leap : Bool) : List Nat :=
  [31, if leap then 29 else 28, 31, 30, 31, 30, 31, 31, 30, 31, 30, 31]

/-- The number of days of a month; none in a month that is not there. -/
def daysInMonth (leap : Bool) (month : Nat) : Nat :=
  if month = 0 then 0 else (monthLengths leap).getD (month - 1) 0

/-- The number of days of a year before a month. -/
def daysBeforeMonth (leap : Bool) (month : Nat) : Nat :=
  ((monthLengths leap).take (month - 1)).foldr (· + ·) 0

/-- The month and the day of the month of a day, counted from zero, in months of the
given lengths. -/
def splitDay : List Nat → Nat → Nat × Nat
  | [], day => (1, day + 1)
  | length :: rest, day =>
    if day < length then (1, day + 1)
    else
      let (month, day) := splitDay rest (day - length)
      (month + 1, day)

/-- Month and day of the month lead back to the day of the year. -/
theorem daysBeforeMonth_splitDay : ∀ leap : Bool, ∀ day < 366,
    daysBeforeMonth leap (splitDay (monthLengths leap) day).1
      + (splitDay (monthLengths leap) day).2 = day + 1 := by
  decide +kernel

end Calendar

/-! ## Dates -/

/-- A day of the calendar. -/
structure Date where
  year : Int
  month : Nat
  day : Nat
  deriving DecidableEq

namespace Date

open Calendar

/-- A date that is in the calendar. -/
def Valid (date : Date) : Prop :=
  firstYear ≤ date.year ∧ date.year ≤ lastYear ∧
    1 ≤ date.day ∧ date.day ≤ daysInMonth (isLeap date.year) date.month

instance (date : Date) : Decidable date.Valid :=
  inferInstanceAs (Decidable (_ ∧ _))

/-- The date of a year, a month and a day, if the calendar has it. -/
def ofFields? (year : Int) (month day : Nat) : Option Date :=
  if (Date.mk year month day).Valid then some ⟨year, month, day⟩ else none

/-- The number of a date. -/
def number (date : Date) : Int :=
  daysBeforeYear date.year + daysBeforeMonth (isLeap date.year) date.month + date.day - 1

/-- The date with a number, if the calendar has it. -/
def ofNumber? (number : Int) : Option Date :=
  let (year, day) := yearOfDay number
  let (month, day) := splitDay (monthLengths (isLeap year)) day.toNat
  ofFields? year month day

/-- The date a number of days later, or earlier if the number is negative. -/
def addDays? (date : Date) (days : Int) : Option Date :=
  ofNumber? (date.number + days)

/-- Digits of a number with zeros before them up to a width. -/
def padded (width n : Nat) : List Char :=
  let digits := Nat.toDigits 10 n
  List.replicate (width - digits.length) '0' ++ digits

/-- The text of a year: at least four digits, and a sign outside 0 to 9999. -/
def yearChars (year : Int) : List Char :=
  (if year < 0 then ['-'] else if 9999 < year then ['+'] else []) ++ padded 4 year.natAbs

/-- The text of a date: year, month and day with hyphens between them. -/
def text (date : Date) : String :=
  String.ofList (yearChars date.year ++ '-' :: padded 2 date.month ++ '-' :: padded 2 date.day)

end Date

end Formulary
