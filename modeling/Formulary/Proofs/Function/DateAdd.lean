import Formulary.Proofs.Calendar.Texts
import Formulary.Proofs.Function.Signature
import Formulary.Number.Integer

/-!
# Adding days to written dates

The function reads a date, goes a number of days on or back in the calendar, and writes the date
it finds.  What it writes it can read again, so days can be added one number after the other.

* `dateAdd_eq_ok_iff` — what the function finds, in terms of the calendar;
* `dateAdd_composes` — two additions are one, and a subtraction takes an addition back.
-/

namespace Formulary.Builtin

open Date (read? valid_of_read? read?_text addDays?_eq_some_iff)

variable {t : String} {n : Int64} {v : Value} {date later : Date}

/-- A text and an integer: the date that is read, the days that are added, the date that is
written. -/
theorem dateAdd_eq_ok_iff :
    dateAdd [.string t, .int n] = .ok v ↔
      ∃ date later, read? t = some date ∧ date.addDays? n.toInt = some later ∧
        v = .string later.text := by
  have hdays : Value.int n ≠ .null := by simp
  have hcount : (Value.int n).int? = some n := rfl
  simp only [dateAdd_of_text t hdays, hcount]
  cases read? t with
  | none => simp
  | some date =>
    cases hlater : date.addDays? n.toInt with
    | none => simp [hlater]
    | some later => simp [hlater, eq_comm]

/-- A text and any value that counts as an integer, if a text is found. -/
theorem dateAdd_eq_ok_text {days : Value} {r : String}
    (h : dateAdd [.string t, days] = .ok (.string r)) :
    ∃ count date later, days.int? = some count ∧ read? t = some date ∧
      date.addDays? count.toInt = some later ∧ r = later.text := by
  have hdays : days ≠ .null := by
    rintro rfl
    cases h
  rw [dateAdd_of_text t hdays] at h
  cases hcount : days.int? with
  | none => simp [hcount] at h
  | some count =>
    cases hdate : read? t with
    | none => simp [hcount, hdate] at h
    | some date =>
      cases hlater : date.addDays? count.toInt with
      | none => simp [hcount, hdate, hlater] at h
      | some later =>
        simp only [hcount, hdate, hlater] at h
        exact ⟨count, date, later, rfl, rfl, hlater, (Value.string.inj (Except.ok.inj h)).symm⟩

/-- Days that lead out of the calendar. -/
theorem dateAdd_of_none (hdate : read? t = some date) (hlater : date.addDays? n.toInt = none) :
    ∃ message, dateAdd [.string t, .int n] = .error (.invalidArgument "DATE_ADD" message) := by
  have hdays : Value.int n ≠ .null := by simp
  have hcount : (Value.int n).int? = some n := rfl
  simp only [dateAdd_of_text t hdays, hcount, hdate, hlater]
  exact ⟨_, rfl⟩

/-- Two texts of dates from which the same day is reached: the function does the same with both,
but for its message. -/
theorem dateAdd_agrees {s : String} {m : Int64} {other : Date} (hdate : read? t = some date)
    (hother : read? s = some other) (hadd : date.addDays? n.toInt = other.addDays? m.toInt) :
    (∃ result, dateAdd [.string t, .int n] = .ok (.string result) ∧
        dateAdd [.string s, .int m] = .ok (.string result)) ∨
      ∃ message message', dateAdd [.string t, .int n] = .error (.invalidArgument "DATE_ADD" message) ∧
        dateAdd [.string s, .int m] = .error (.invalidArgument "DATE_ADD" message') := by
  cases hlater : date.addDays? n.toInt with
  | some later =>
    exact .inl ⟨later.text, dateAdd_eq_ok_iff.2 ⟨date, later, hdate, hlater, rfl⟩,
      dateAdd_eq_ok_iff.2 ⟨other, later, hother, hadd ▸ hlater, rfl⟩⟩
  | none =>
    obtain ⟨message, herror⟩ := dateAdd_of_none hdate hlater
    obtain ⟨message', herror'⟩ := dateAdd_of_none hother (hadd ▸ hlater)
    exact .inr ⟨message, message', herror, herror'⟩

/-- The days between two dates of the calendar can be counted back. -/
theorem toInt_neg_of_addDays? (hdate : date.Valid) (h : date.addDays? n.toInt = some later) :
    (-n).toInt = -n.toInt := by
  obtain ⟨hlaterValid, hnumber⟩ := addDays?_eq_some_iff.1 h
  obtain ⟨hlow, hhigh⟩ := hdate.proper.valid_iff.1 hdate
  obtain ⟨hlow', hhigh'⟩ := hlaterValid.proper.valid_iff.1 hlaterValid
  have hfirst : Calendar.daysBeforeYear Calendar.firstYear = -95746130 := by decide
  have hlast : Calendar.daysBeforeYear (Calendar.lastYear + 1) = 95745399 := by decide
  rw [Int64.toInt_neg]
  exact Int.bmod_eq_of_le (by omega) (by omega)

/-- **Days are added one after the other or all at once.**  If days can be added to a written date,
the result is a written date again, that many days after the first in the calendar.  Adding more
days to it gives the same text as adding the sum of both to the first one, or fails as that does;
and taking the days away again gives the date that the first text writes. -/
theorem dateAdd_composes {m sum : Int64} (hsum : Integer.add? n m = some sum)
    (h : dateAdd [.string t, .int n] = .ok v) :
    ∃ r date later, v = .string r ∧ read? t = some date ∧ read? r = some later ∧
      Date.IsDaysAfter n.toInt date later ∧
      ((∃ s, dateAdd [.string r, .int m] = .ok (.string s) ∧
          dateAdd [.string t, .int sum] = .ok (.string s)) ∨
        ∃ message message',
          dateAdd [.string r, .int m] = .error (.invalidArgument "DATE_ADD" message) ∧
          dateAdd [.string t, .int sum] = .error (.invalidArgument "DATE_ADD" message')) ∧
      dateAdd [.string r, .int (-n)] = .ok (.string date.text) := by
  obtain ⟨date, later, hdate, hlater, rfl⟩ := dateAdd_eq_ok_iff.1 h
  have hvalid : date.Valid := valid_of_read? hdate
  obtain ⟨hlaterValid, hnumber⟩ := addDays?_eq_some_iff.1 hlater
  have hread : read? later.text = some later := read?_text hlaterValid
  refine ⟨later.text, date, later, rfl, hdate, hread, ?_, ?_, ?_⟩
  · exact (Date.isDaysAfter_iff hvalid.proper hlaterValid.proper).2 hnumber
  · refine dateAdd_agrees hread hdate ?_
    rw [Integer.toInt_ofInt? hsum]
    exact Date.addDays?_addDays? hlater
  · refine dateAdd_eq_ok_iff.2 ⟨later, date, hread, ?_, rfl⟩
    rw [toInt_neg_of_addDays? hvalid hlater]
    exact Date.addDays?_neg hvalid hlater

/-- Over the end of a February with 29 days, and back.  The time of day is left out. -/
theorem dateAdd_composes_february :
    dateAdd [.string "2024-02-28 08:30:00", .int 2] = .ok (.string "2024-03-01") ∧
      dateAdd [.string "2024-03-01", .int (-1)] = .ok (.string "2024-02-29") ∧
      dateAdd [.string "2024-02-28 08:30:00", .int 1] = .ok (.string "2024-02-29") ∧
      dateAdd [.string "2024-03-01", .int (-2)] = .ok (.string "2024-02-28") := by
  have hread : read? "2024-02-28 08:30:00" = some ⟨2024, 2, 28⟩ := by decide +kernel
  have hstart : "2024-02-28" = Date.text ⟨2024, 2, 28⟩ := by decide +kernel
  have hone : dateAdd [.string "2024-02-28 08:30:00", .int 1] = .ok (.string "2024-02-29") := by
    have hnext : Date.addDays? ⟨2024, 2, 28⟩ 1 = some ⟨2024, 2, 29⟩ := by decide +kernel
    have htext : "2024-02-29" = Date.text ⟨2024, 2, 29⟩ := by decide +kernel
    exact dateAdd_eq_ok_iff.2 ⟨_, _, hread, hnext, by rw [htext]⟩
  have htwo : dateAdd [.string "2024-02-28 08:30:00", .int 2] = .ok (.string "2024-03-01") := by
    have hnext : Date.addDays? ⟨2024, 2, 28⟩ 2 = some ⟨2024, 3, 1⟩ := by decide +kernel
    have htext : "2024-03-01" = Date.text ⟨2024, 3, 1⟩ := by decide +kernel
    exact dateAdd_eq_ok_iff.2 ⟨_, _, hread, hnext, by rw [htext]⟩
  have hsum : Integer.add? 2 (-1) = some 1 := by decide
  obtain ⟨r, date, later, hr, hdate, -, -, hmore, hback⟩ := dateAdd_composes hsum htwo
  obtain rfl := Value.string.inj hr
  obtain rfl := Option.some.inj (hread.symm.trans hdate)
  refine ⟨htwo, ?_, hone, ?_⟩
  · rcases hmore with ⟨s, hless, hsame⟩ | ⟨_, _, -, hfails⟩
    · rw [hless, ← hsame, hone]
    · rw [hone] at hfails
      cases hfails
  · rw [hstart]
    exact hback

end Formulary.Builtin
