import Formulary.Calendar.Date
import Mathlib.Data.Int.Init
import Mathlib.Logic.Function.Iterate

/-!
# Days of the calendar

Day numbers count the days of the calendar one after the other: the day after a date, which ends
months and years where they end, has the next number, and a number belongs to one day only.

* `ofDay_number`, `number_ofDay` — dates and numbers lead to each other;
* `ofNumber?_isSome_iff` — the calendar has all days from its first to its last;
* `addDays?_eq_some_iff`, `addDays?_addDays?` — what adding days finds, and adding again;
* `number_tomorrow` — the day after a date has the next number;
* `isDaysAfter_iff` — going from day to day is counting.
-/

namespace Formulary

namespace Calendar

/-! ## Years -/

theorem isLeap_iff {year : Int} :
    isLeap year = true ↔ year % 4 = 0 ∧ (year % 100 ≠ 0 ∨ year % 400 = 0) := by
  simp [isLeap]

/-- The number of days of a year. -/
def daysInYear (leap : Bool) : Nat :=
  if leap then 366 else 365

theorem daysBeforeYear_succ (year : Int) :
    daysBeforeYear (year + 1) = daysBeforeYear year + daysInYear (isLeap year) := by
  unfold daysBeforeYear daysInYear
  by_cases hleap : isLeap year = true
  · rw [if_pos hleap]
    have hyear := isLeap_iff.1 hleap
    omega
  · rw [if_neg hleap]
    have hyear := mt isLeap_iff.2 hleap
    omega

theorem daysBeforeYear_mono {year later : Int} (h : year ≤ later) :
    daysBeforeYear year ≤ daysBeforeYear later := by
  induction later, h using Int.leInduction with
  | base => exact Int.le_refl _
  | succ later _ ih =>
    rw [daysBeforeYear_succ]
    omega

/-- Which years of a period are leap years: the last of every four, but of the last four of a
century only if it is the last century. -/
theorem isLeap_parts {period century four one : Int} (hcentury : 0 ≤ century ∧ century ≤ 3)
    (hfour : 0 ≤ four ∧ four ≤ 24) (hone : 0 ≤ one ∧ one ≤ 3) :
    isLeap (400 * period + 100 * century + 4 * four + one + 1) = true ↔
      one = 3 ∧ (four ≠ 24 ∨ century = 3) := by
  rw [isLeap_iff]
  omega

/-- The day of a numbered day in its year is one that the year has. -/
theorem yearOfDay_bounds (number : Int) :
    0 ≤ (yearOfDay number).2 ∧
      (yearOfDay number).2 < daysInYear (isLeap (yearOfDay number).1) := by
  by_cases hleap : isLeap (yearOfDay number).1 = true
  · have hlength : daysInYear (isLeap (yearOfDay number).1) = 366 := if_pos hleap
    rw [hlength]
    simp only [yearOfDay] at hleap ⊢
    rw [isLeap_parts (by omega) (by omega) (by omega)] at hleap
    omega
  · have hlength : daysInYear (isLeap (yearOfDay number).1) = 365 := if_neg hleap
    rw [hlength]
    simp only [yearOfDay] at hleap ⊢
    rw [isLeap_parts (by omega) (by omega) (by omega)] at hleap
    omega

/-- The days of a year have their numbers in it only. -/
theorem yearOfDay_unique {year day : Int} (hday : 0 ≤ day)
    (hlt : day < daysInYear (isLeap year)) :
    yearOfDay (daysBeforeYear year + day) = (year, day) := by
  have hsum := daysBeforeYear_yearOfDay (daysBeforeYear year + day)
  obtain ⟨hrest, hrestlt⟩ := yearOfDay_bounds (daysBeforeYear year + day)
  generalize yearOfDay (daysBeforeYear year + day) = found at *
  -- a whole year lies between the days of two different years
  have hyear : found.1 = year := by
    rcases Int.lt_trichotomy found.1 year with hbefore | heq | hafter
    · have hnext : daysBeforeYear (found.1 + 1) ≤ daysBeforeYear year := daysBeforeYear_mono hbefore
      rw [daysBeforeYear_succ] at hnext
      omega
    · exact heq
    · have hnext : daysBeforeYear (year + 1) ≤ daysBeforeYear found.1 := daysBeforeYear_mono hafter
      rw [daysBeforeYear_succ] at hnext
      omega
  refine Prod.ext hyear ?_
  rw [hyear] at hsum
  exact Int.add_left_cancel hsum

/-! ## Months -/

/-- A month with a day is one of twelve, and has at most 31. -/
theorem month_of_day {leap : Bool} {month day : Nat} (hday : 1 ≤ day)
    (hlast : day ≤ daysInMonth leap month) : 1 ≤ month ∧ month ≤ 12 ∧ day ≤ 31 := by
  have hmonth : 1 ≤ month := by
    by_contra hzero
    obtain rfl : month = 0 := by omega
    rw [daysInMonth, if_pos rfl] at hlast
    omega
  have hlength : month ≤ 12 := by
    by_contra hlater
    have hlength : (monthLengths leap).length ≤ month - 1 := by
      show 12 ≤ month - 1
      omega
    rw [daysInMonth, if_neg (by omega), List.getD_eq_getElem?_getD,
      List.getElem?_eq_none hlength, Option.getD_none] at hlast
    omega
  have hlongest : ∀ leap : Bool, ∀ month < 13, daysInMonth leap month ≤ 31 := by decide
  exact ⟨hmonth, hlength, Nat.le_trans hlast (hlongest leap month (by omega))⟩

/-- The days of a year are days of its months. -/
theorem splitDay_bounds : ∀ leap : Bool, ∀ day < daysInYear leap,
    1 ≤ (splitDay (monthLengths leap) day).2 ∧
      (splitDay (monthLengths leap) day).2 ≤
        daysInMonth leap (splitDay (monthLengths leap) day).1 := by
  decide +kernel

/-- The day of the year leads back to month and day of the month. -/
theorem splitDay_daysBeforeMonth : ∀ leap : Bool, ∀ month < 13, ∀ day < 32,
    1 ≤ day → day ≤ daysInMonth leap month →
      splitDay (monthLengths leap) (daysBeforeMonth leap month + day - 1) = (month, day) := by
  decide +kernel

/-- A month begins where the one before ends. -/
theorem daysBeforeMonth_succ : ∀ leap : Bool, ∀ month < 12, 1 ≤ month →
    daysBeforeMonth leap (month + 1) = daysBeforeMonth leap month + daysInMonth leap month := by
  decide

/-- A year ends with its last month. -/
theorem daysBeforeMonth_last (leap : Bool) :
    daysBeforeMonth leap 12 + daysInMonth leap 12 = daysInYear leap := by
  cases leap with
  | true => rfl
  | false => rfl

end Calendar

namespace Date

open Calendar

/-! ## Numbers -/

/-- A day that its month has, in a year of any size. -/
def Proper (date : Date) : Prop :=
  1 ≤ date.day ∧ date.day ≤ daysInMonth (isLeap date.year) date.month

theorem Valid.proper {date : Date} (h : date.Valid) : date.Proper := h.2.2

/-- The day with a number, in a year of any size. -/
def ofDay (number : Int) : Date :=
  let (year, day) := yearOfDay number
  let (month, day) := splitDay (monthLengths (isLeap year)) day.toNat
  ⟨year, month, day⟩

theorem ofNumber?_eq (number : Int) :
    ofNumber? number = if (ofDay number).Valid then some (ofDay number) else none := rfl

theorem proper_ofDay (number : Int) : (ofDay number).Proper := by
  obtain ⟨hday, hlt⟩ := yearOfDay_bounds number
  have hmonth := splitDay_bounds (isLeap (yearOfDay number).1) (yearOfDay number).2.toNat
    (by omega)
  simp only [Proper, ofDay]
  exact hmonth

theorem number_ofDay (number : Int) : (ofDay number).number = number := by
  obtain ⟨hday, hlt⟩ := yearOfDay_bounds number
  have hyear := daysBeforeYear_yearOfDay number
  have hlast : daysInYear (isLeap (yearOfDay number).1) ≤ 366 := by
    unfold daysInYear
    split <;> omega
  have hmonth := daysBeforeMonth_splitDay (isLeap (yearOfDay number).1)
    (yearOfDay number).2.toNat (by omega)
  simp only [Date.number, ofDay]
  omega

variable {date : Date}

/-- The day of the year of a date. -/
theorem Proper.dayOfYear (h : date.Proper) :
    daysBeforeMonth (isLeap date.year) date.month + date.day ≤ daysInYear (isLeap date.year) := by
  have hall : ∀ leap : Bool, ∀ month < 13,
      daysBeforeMonth leap month + daysInMonth leap month ≤ daysInYear leap := by decide
  obtain ⟨-, hmonth, -⟩ := month_of_day h.1 h.2
  have hlast := hall (isLeap date.year) date.month (by omega)
  have hday := h.2
  omega

/-- The number of a date lies between those of its year. -/
theorem Proper.number_bounds (h : date.Proper) :
    daysBeforeYear date.year ≤ date.number ∧ date.number < daysBeforeYear (date.year + 1) := by
  have hfirst := h.1
  have hlast := h.dayOfYear
  rw [daysBeforeYear_succ]
  unfold Date.number
  omega

/-- A date is in the calendar if its number lies between those of the first and the last year. -/
theorem Proper.valid_iff (h : date.Proper) :
    date.Valid ↔
      daysBeforeYear firstYear ≤ date.number ∧ date.number < daysBeforeYear (lastYear + 1) := by
  obtain ⟨hlow, hhigh⟩ := h.number_bounds
  constructor
  · intro hvalid
    have hfirst : daysBeforeYear firstYear ≤ daysBeforeYear date.year :=
      daysBeforeYear_mono hvalid.1
    have hlast : daysBeforeYear (date.year + 1) ≤ daysBeforeYear (lastYear + 1) :=
      daysBeforeYear_mono (Int.add_le_add_right hvalid.2.1 1)
    omega
  · rintro ⟨hfirst, hlast⟩
    refine ⟨?_, ?_, h⟩
    · by_contra hbefore
      have hnext : daysBeforeYear (date.year + 1) ≤ daysBeforeYear firstYear :=
        daysBeforeYear_mono (Int.not_le.1 hbefore)
      omega
    · by_contra hafter
      have hnext : daysBeforeYear (lastYear + 1) ≤ daysBeforeYear date.year :=
        daysBeforeYear_mono (Int.not_le.1 hafter)
      omega

theorem ofDay_number (h : date.Proper) : ofDay date.number = date := by
  obtain ⟨-, hmonth, hday⟩ := month_of_day h.1 h.2
  have hfirst := h.1
  have hlast := h.dayOfYear
  have hnumber : date.number = daysBeforeYear date.year +
      ((daysBeforeMonth (isLeap date.year) date.month + date.day - 1 : Nat) : Int) := by
    unfold Date.number
    omega
  rw [hnumber, ofDay, yearOfDay_unique (by omega) (by omega)]
  simp only [Int.toNat_natCast]
  rw [splitDay_daysBeforeMonth _ _ (by omega) _ (by omega) h.1 h.2]

/-- Different days have different numbers. -/
theorem number_inj {other : Date} (h : date.Proper) (hother : other.Proper)
    (hnumber : date.number = other.number) : date = other := by
  rw [← ofDay_number h, ← ofDay_number hother, hnumber]

/-! ## Adding days -/

/-- The date with a number is the one in the calendar that has it. -/
theorem ofNumber?_eq_some_iff {number : Int} :
    ofNumber? number = some date ↔ date.Valid ∧ date.number = number := by
  rw [ofNumber?_eq]
  constructor
  · intro h
    split at h
    · next hvalid =>
      obtain rfl := Option.some.inj h
      exact ⟨hvalid, number_ofDay number⟩
    · cases h
  · rintro ⟨hvalid, rfl⟩
    rw [ofDay_number hvalid.proper, if_pos hvalid]

/-- The calendar has a date for every number from its first day to its last. -/
theorem ofNumber?_isSome_iff {number : Int} :
    (ofNumber? number).isSome ↔
      daysBeforeYear firstYear ≤ number ∧ number < daysBeforeYear (lastYear + 1) := by
  have hvalid := (proper_ofDay number).valid_iff
  rw [number_ofDay] at hvalid
  rw [ofNumber?_eq, ← hvalid]
  by_cases h : (ofDay number).Valid
  · rw [if_pos h]
    exact iff_of_true rfl h
  · rw [if_neg h]
    exact iff_of_false Bool.false_ne_true h

variable {later : Date} {days more : Int}

theorem addDays?_eq_some_iff :
    date.addDays? days = some later ↔ later.Valid ∧ later.number = date.number + days :=
  ofNumber?_eq_some_iff

/-- Days are added one number after the other or both at once. -/
theorem addDays?_addDays? (h : date.addDays? days = some later) :
    later.addDays? more = date.addDays? (days + more) := by
  obtain ⟨-, hnumber⟩ := addDays?_eq_some_iff.1 h
  rw [addDays?, addDays?, hnumber, Int.add_assoc]

/-- Days that were added can be taken away again. -/
theorem addDays?_neg (hdate : date.Valid) (h : date.addDays? days = some later) :
    later.addDays? (-days) = some date := by
  rw [addDays?_addDays? h, Int.add_right_neg]
  exact addDays?_eq_some_iff.2 ⟨hdate, (Int.add_zero _).symm⟩

/-! ## From day to day -/

/-- The day after a date: the next of its month, the first of the next month, or the first of the
next year. -/
def tomorrow (date : Date) : Date :=
  if date.day < daysInMonth (isLeap date.year) date.month then
    ⟨date.year, date.month, date.day + 1⟩
  else if date.month < 12 then
    ⟨date.year, date.month + 1, 1⟩
  else
    ⟨date.year + 1, 1, 1⟩

theorem proper_tomorrow (date : Date) : date.tomorrow.Proper := by
  have hfirst : ∀ leap : Bool, ∀ month < 12, 1 ≤ daysInMonth leap (month + 1) := by decide
  unfold tomorrow
  split
  · next hday => exact ⟨Nat.le_add_left 1 _, hday⟩
  · split
    · next hmonth => exact ⟨Nat.le_refl 1, hfirst _ _ hmonth⟩
    · exact ⟨Nat.le_refl 1, hfirst _ 0 (by decide)⟩

/-- The day after a date has the next number. -/
theorem number_tomorrow (h : date.Proper) : date.tomorrow.number = date.number + 1 := by
  obtain ⟨hmonth, hlength, -⟩ := month_of_day h.1 h.2
  unfold tomorrow
  split
  · -- within the month
    simp only [Date.number]
    omega
  · next hday =>
    have hlast : date.day = daysInMonth (isLeap date.year) date.month :=
      Nat.le_antisymm h.2 (Nat.not_lt.1 hday)
    split
    · next hlt =>
      -- at the end of a month
      have hnext := daysBeforeMonth_succ (isLeap date.year) date.month hlt hmonth
      simp only [Date.number, hnext, hlast]
      omega
    · next hge =>
      -- at the end of a year
      obtain hdecember : date.month = 12 := by omega
      have hyear := daysBeforeYear_succ date.year
      have hend := daysBeforeMonth_last (isLeap date.year)
      have hjanuary : daysBeforeMonth (isLeap (date.year + 1)) 1 = 0 := rfl
      simp only [Date.number, hyear, hjanuary, hlast, hdecember]
      omega

theorem proper_iterate_tomorrow (h : date.Proper) (n : Nat) : (tomorrow^[n] date).Proper := by
  cases n with
  | zero => exact h
  | succ n =>
    rw [Function.iterate_succ_apply']
    exact proper_tomorrow _

theorem number_iterate_tomorrow (h : date.Proper) (n : Nat) :
    (tomorrow^[n] date).number = date.number + n := by
  induction n with
  | zero => exact (Int.add_zero _).symm
  | succ n ih =>
    rw [Function.iterate_succ_apply', number_tomorrow (proper_iterate_tomorrow h n), ih]
    omega

theorem iterate_tomorrow_eq_iff (hdate : date.Proper) (hlater : later.Proper) (n : Nat) :
    tomorrow^[n] date = later ↔ later.number = date.number + n := by
  constructor
  · rintro rfl
    exact number_iterate_tomorrow hdate n
  · intro hnumber
    refine number_inj (proper_iterate_tomorrow hdate n) hlater ?_
    rw [number_iterate_tomorrow hdate n, hnumber]

/-- A date is a number of days after another one: so many times going to the next day leads to it.
If the number is negative, going on from it leads to the other. -/
def IsDaysAfter (days : Int) (date later : Date) : Prop :=
  if 0 ≤ days then tomorrow^[days.toNat] date = later else tomorrow^[(-days).toNat] later = date

/-- **Going from day to day is counting.** -/
theorem isDaysAfter_iff (hdate : date.Proper) (hlater : later.Proper) :
    IsDaysAfter days date later ↔ later.number = date.number + days := by
  unfold IsDaysAfter
  by_cases hdays : 0 ≤ days
  · rw [if_pos hdays, iterate_tomorrow_eq_iff hdate hlater]
    omega
  · rw [if_neg hdays, iterate_tomorrow_eq_iff hlater hdate]
    omega

end Date

end Formulary
