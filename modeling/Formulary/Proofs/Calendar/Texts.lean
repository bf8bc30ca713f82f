import Formulary.Calendar.Reading
import Formulary.Proofs.Calendar.Days
import Formulary.Proofs.Number.Texts

/-!
# Written dates

The text of a date is read as the date, also if its year has a sign or more than four digits.

* `digits?_run` — digits are read up to where they end, if they fit the width;
* `year?_yearChars`, `number?_padded` — the parts of a date;
* `read?_text` — a date is read from its text.
-/

namespace Formulary.Date

open Calendar
open Decimal (valueOfDigits)
open Grammar (Digits takeWhile_run isBlank_of_isIdentifierChar isIdentifierChar_of_isDigit)

/-! ## Digits -/

/-- A text does not go on with digits. -/
def Stops (rest : List Char) : Prop :=
  ∀ c r, rest = c :: r → c.isDigit = false

theorem stops_nil : Stops [] := by
  intro c r h
  cases h

theorem stops_cons {c : Char} {rest : List Char} (h : c.isDigit = false) : Stops (c :: rest) := by
  intro c' r h'
  cases h'
  exact h

theorem Stops.take {rest : List Char} (h : Stops rest) (n : Nat) : Stops (rest.take n) := by
  intro c r htake
  cases n with
  | zero => cases htake
  | succ n =>
    cases rest with
    | nil => cases htake
    | cons d rest =>
      obtain ⟨rfl, -⟩ := List.cons.inj htake
      exact h d rest rfl

variable {digits rest : List Char} {width n : Nat}

/-- Digits that fit the width are read up to where they end. -/
theorem digits?_run (hdigits : Digits digits) (hwidth : digits.length ≤ width)
    (hstops : Stops rest) :
    digits? width (digits ++ rest) = some (valueOfDigits digits, rest) := by
  have hrun : ((digits ++ rest).take width).takeWhile Char.isDigit = digits := by
    rw [List.take_append, List.take_of_length_le hwidth]
    exact takeWhile_run hdigits.2 (hstops.take _)
  have hsome : digits.isEmpty = false := by
    rw [List.isEmpty_eq_false_iff]
    exact hdigits.1
  simp only [digits?, hrun, hsome, Bool.false_eq_true, if_false, List.drop_left]

theorem dropBlanks_digits (hdigits : Digits digits) :
    Text.dropBlanks (digits ++ rest) = digits ++ rest := by
  obtain ⟨c, more, rfl⟩ := List.exists_cons_of_ne_nil hdigits.1
  have hblank : Text.isBlank c = false :=
    isBlank_of_isIdentifierChar (isIdentifierChar_of_isDigit (hdigits.2 c List.mem_cons_self))
  rw [Text.dropBlanks, List.cons_append, List.dropWhile_cons_of_neg (by simp [hblank])]

/-! ## Numbers with zeros before them -/

theorem valueOfDigits_padded (width n : Nat) : valueOfDigits (padded width n) = n := by
  simp only [padded]
  rw [Numeral.valueOfDigits_append, Numeral.valueOfDigits_zeros, Numeral.valueOfDigits_toDigits]
  omega

theorem length_padded_le (hwidth : 0 < width) (hn : n < 10 ^ width) :
    (padded width n).length ≤ width := by
  have hdigits : (Nat.toDigits 10 n).length ≤ width :=
    (Nat.length_toDigits_le_iff (by decide) hwidth).2 hn
  simp only [padded, List.length_append, List.length_replicate]
  omega

theorem number?_padded (hwidth : 0 < width) (hn : n < 10 ^ width) (hstops : Stops rest) :
    number? width (padded width n ++ rest) = some (n, rest) := by
  have hdigits := padded_digits width n
  rw [number?, dropBlanks_digits hdigits,
    digits?_run hdigits (length_padded_le hwidth hn) hstops, valueOfDigits_padded]

/-! ## Years -/

/-- After a sign, all the digits that follow are read. -/
theorem digits?_signed (width n : Nat) (hstops : Stops rest) :
    digits? (padded width n ++ rest).length (padded width n ++ rest) = some (n, rest) := by
  have hlength : (padded width n).length ≤ (padded width n ++ rest).length := by
    rw [List.length_append]
    exact Nat.le_add_right _ _
  rw [digits?_run (padded_digits width n) hlength hstops, valueOfDigits_padded]

theorem year?_yearChars (year : Int) (hstops : Stops rest) :
    year? (yearChars year ++ rest) = some (year, rest) := by
  by_cases hnegative : year < 0
  · have hchars : yearChars year ++ rest = '-' :: (padded 4 year.natAbs ++ rest) := by
      rw [yearChars, if_pos hnegative]
      rfl
    have hblank : Text.dropBlanks ('-' :: (padded 4 year.natAbs ++ rest)) =
        '-' :: (padded 4 year.natAbs ++ rest) := rfl
    have hyear : -(year.natAbs : Int) = year := by omega
    simp only [year?, hchars, hblank, digits?_signed 4 _ hstops, Option.map_some, hyear]
  · have hyear : (year.natAbs : Int) = year := by omega
    by_cases hlong : 9999 < year
    · have hchars : yearChars year ++ rest = '+' :: (padded 4 year.natAbs ++ rest) := by
        rw [yearChars, if_neg hnegative, if_pos hlong]
        rfl
      have hblank : Text.dropBlanks ('+' :: (padded 4 year.natAbs ++ rest)) =
          '+' :: (padded 4 year.natAbs ++ rest) := rfl
      simp only [year?, hchars, hblank, digits?_signed 4 _ hstops, Option.map_some, hyear]
    · have hchars : yearChars year ++ rest = padded 4 year.natAbs ++ rest := by
        rw [yearChars, if_neg hnegative, if_neg hlong]
        rfl
      have hdigits := padded_digits 4 year.natAbs
      have hread : digits? 4 (padded 4 year.natAbs ++ rest) = some (year.natAbs, rest) := by
        have hlength : (padded 4 year.natAbs).length ≤ 4 :=
          length_padded_le (by decide) (by omega)
        rw [digits?_run hdigits hlength hstops, valueOfDigits_padded]
      rw [hchars, year?, dropBlanks_digits hdigits]
      -- the first character is a digit, and neither sign is one
      obtain ⟨c, more, hcons⟩ := List.exists_cons_of_ne_nil hdigits.1
      have hdigit : c.isDigit = true := hdigits.2 c (by rw [hcons]; exact List.mem_cons_self)
      split
      · next hminus =>
        rw [hcons] at hminus
        obtain ⟨rfl, -⟩ := List.cons.inj hminus
        exact absurd hdigit (by decide)
      · next hplus =>
        rw [hcons] at hplus
        obtain ⟨rfl, -⟩ := List.cons.inj hplus
        exact absurd hdigit (by decide)
      · simp only [hread, Option.map_some, hyear]

/-! ## Dates -/

/-- The fields of a date with the months and days that dates have. -/
theorem fields?_chars (year : Int) {month day : Nat} (hmonth : month < 10 ^ 2)
    (hday : day < 10 ^ 2) :
    fields? (yearChars year ++ '-' :: (padded 2 month ++ '-' :: padded 2 day)) =
      some ((year, month, day), []) := by
  have hhyphen : ∀ rest, Stops ('-' :: rest) := fun rest => stops_cons (by decide)
  have hmark : ∀ rest, mark? '-' ('-' :: rest) = some rest := fun rest => rfl
  have hlast : number? 2 (padded 2 day ++ []) = some (day, []) :=
    number?_padded (by decide) hday stops_nil
  rw [List.append_nil] at hlast
  simp only [fields?, year?_yearChars year (hhyphen _), hmark,
    number?_padded (by decide) hmonth (hhyphen _), hlast, Option.bind_eq_bind, Option.bind_some,
    Option.pure_def]

/-- **A date is read from its text.** -/
theorem read?_text {date : Date} (h : date.Valid) : read? date.text = some date := by
  obtain ⟨-, hmonth, hday⟩ := month_of_day h.proper.1 h.proper.2
  have hchars : date.text.toList =
      yearChars date.year ++ '-' :: (padded 2 date.month ++ '-' :: padded 2 date.day) := by
    rw [text, String.toList_ofList, List.append_assoc, List.cons_append]
  rw [read?, hchars, fields?_chars date.year (by omega) (by omega)]
  show (if (true || isTime []) = true then ofFields? date.year date.month date.day else none) = _
  rw [Bool.true_or, if_pos rfl, ofFields?, if_pos h]

/-- A date that was read is in the calendar. -/
theorem valid_of_read? {text : String} {date : Date} (h : read? text = some date) :
    date.Valid := by
  have hfields {year : Int} {month day : Nat} (hdate : ofFields? year month day = some date) :
      date.Valid := by
    unfold ofFields? at hdate
    split at hdate
    · next hvalid =>
      obtain rfl := Option.some.inj hdate
      exact hvalid
    · cases hdate
  unfold read? at h
  split at h
  · cases h
  · split at h
    · exact hfields h
    · cases h

end Formulary.Date
