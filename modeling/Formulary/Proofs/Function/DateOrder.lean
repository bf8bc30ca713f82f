import Formulary.Proofs.Calendar.Order
import Formulary.Proofs.Function.DateAdd
import Formulary.Proofs.Program.HasValue
import Formulary.Proofs.Program.Tests

/-!
# Tests of found dates

There is no kind of value for dates: what adding days finds is a text, and tests take two texts
character by character.  For days in the years 0 to 9999 that is the order of the calendar.

* `compare?_text` — two written days have the order of their numbers;
* `hasValue_test_days` — what a test of written days asks of these numbers;
* `Reaches` — the day that adding days to a written date leads to;
* `dateAdd_tests` — what the tests of found dates say of the days.
-/

namespace Formulary

open Date (read? read?_text valid_of_read? IsDaysAfter)

variable {registry : Registry} {context : Context} {left right : Expr} {date other : Date}

/-! ## Written days -/

/-- Two written days have the order of their numbers. -/
theorem Date.compare?_text (hdate : date.Proper) (hother : other.Proper)
    (hyear : date.FourDigitYear) (hyear' : other.FourDigitYear) :
    Value.compare? (.string date.text) (.string other.text) =
      some (compare date.number other.number) := by
  show some (compare date.text other.text) = _
  rcases Int.lt_trichotomy date.number other.number with hless | hsame | hgreater
  · have htext := text_lt_text hdate hother hyear hyear' ((before_iff hdate hother).2 hless)
    rw [Int.compare_eq_lt.2 hless, compare_lt_iff_lt.2 htext]
  · obtain rfl := number_inj hdate hother hsame
    rw [Int.compare_eq_eq.2 rfl, compare_eq_iff_eq.2 rfl]
  · have htext := text_lt_text hother hdate hyear' hyear ((before_iff hother hdate).2 hgreater)
    rw [Int.compare_eq_gt.2 hgreater, compare_gt_iff_gt.2 htext]

/-- A test of two written days asks what it says of the order of their numbers. -/
theorem Expr.hasValue_test_days {op : BinaryOp} (hop : (op.isEquality || op.isOrdering) = true)
    (hdate : date.Proper) (hother : other.Proper) (hyear : date.FourDigitYear)
    (hyear' : other.FourDigitYear) (hleft : left.HasValue registry context (.string date.text))
    (hright : right.HasValue registry context (.string other.text)) (b : Bool) :
    (Expr.binary op left right).HasValue registry context (.bool b) ↔
      (b = true ↔ op.asks (compare date.number other.number) = true) := by
  have horder := Date.compare?_text hdate hother hyear hyear'
  rw [HasValue.binary_iff (BinaryOp.isLogical_of_test hop) hleft hright,
    BinaryOp.apply_of_compare? hop horder, ← Bool.eq_iff_iff]
  simp [eq_comm]

/-! ## Found dates -/

namespace Builtin

/-- Adding days to the date that a text writes leads to a day of the calendar. -/
def Reaches (t : String) (days : Value) (day : Date) : Prop :=
  ∃ start count, read? t = some start ∧ days.int? = some count ∧ day.Valid ∧
    IsDaysAfter count.toInt start day

/-- A found date is the text of the day that is reached. -/
theorem reaches_of_dateAdd {t r : String} {days : Value}
    (h : dateAdd [.string t, days] = .ok (.string r)) :
    ∃ day, Reaches t days day ∧ r = day.text := by
  obtain ⟨count, start, day, hcount, hstart, hday, rfl⟩ := dateAdd_eq_ok_text h
  obtain ⟨hvalid, hnumber⟩ := Date.addDays?_eq_some_iff.1 hday
  have hafter := (Date.isDaysAfter_iff (valid_of_read? hstart).proper hvalid.proper).2 hnumber
  exact ⟨day, ⟨start, count, hstart, hcount, hvalid, hafter⟩, rfl⟩

/-- **Found dates are in the order of the calendar.**  Two results of adding days to written dates
can be read as the days that are reached.  If both days are in the years 0 to 9999, then of
any two formulas that have these results the first is less, equal or greater exactly if its
day is before, the same as or after the other one, and no other outcome is possible. -/
theorem dateAdd_tests {t u r s : String} {n m : Value}
    (hr : dateAdd [.string t, n] = .ok (.string r))
    (hs : dateAdd [.string u, m] = .ok (.string s)) :
    ∃ first second, Reaches t n first ∧ read? r = some first ∧
      Reaches u m second ∧ read? s = some second ∧
      (first.FourDigitYear → second.FourDigitYear →
        ∀ (registry : Registry) (context : Context) (left right : Expr),
          left.HasValue registry context (.string r) →
          right.HasValue registry context (.string s) → ∀ b : Bool,
          ((Expr.binary .lt left right).HasValue registry context (.bool b) ↔
            (b = true ↔ first.Before second)) ∧
          ((Expr.binary .eq left right).HasValue registry context (.bool b) ↔
            (b = true ↔ first = second)) ∧
          ((Expr.binary .gt left right).HasValue registry context (.bool b) ↔
            (b = true ↔ second.Before first))) := by
  obtain ⟨first, hfirst, rfl⟩ := reaches_of_dateAdd hr
  obtain ⟨second, hsecond, rfl⟩ := reaches_of_dateAdd hs
  obtain ⟨-, -, -, -, hvalid, -⟩ := id hfirst
  obtain ⟨-, -, -, -, hvalid', -⟩ := id hsecond
  refine ⟨first, second, hfirst, read?_text hvalid, hsecond, read?_text hvalid', ?_⟩
  intro hyear hyear' registry context left right hleft hright b
  have htest (op : BinaryOp) (hop : (op.isEquality || op.isOrdering) = true) :=
    Expr.hasValue_test_days hop hvalid.proper hvalid'.proper hyear hyear' hleft hright b
  have hsame : first.number = second.number ↔ first = second :=
    ⟨Date.number_inj hvalid.proper hvalid'.proper, fun h => h ▸ rfl⟩
  refine ⟨?_, ?_, ?_⟩
  · rw [htest .lt rfl, Date.before_iff hvalid.proper hvalid'.proper]
    simp [BinaryOp.asks, BinaryOp.holds, Int.compare_eq_lt]
  · rw [htest .eq rfl, ← hsame]
    simp [BinaryOp.asks]
  · rw [htest .gt rfl, Date.before_iff hvalid'.proper hvalid.proper]
    simp [BinaryOp.asks, BinaryOp.holds, Int.compare_eq_gt]

/-- The last day of a year whose text needs a zero, and the first day of the next one, whose text
does not. -/
theorem dateAdd_tests_millennium :
    let left := Expr.identifier (.ofDotted "closed")
    let right := Expr.literal (.string "1000-01-01")
    let context : Context := [("closed", .string "0999-12-31")]
    dateAdd [.string "1000-01-31", .int (-31)] = .ok (.string "0999-12-31") ∧
      dateAdd [.string "999-12-31 23:59:60", .string "+1"] = .ok (.string "1000-01-01") ∧
      (Expr.binary .lt left right).HasValue .empty context (.bool true) ∧
      (Expr.binary .eq left right).HasValue .empty context (.bool false) ∧
      (Expr.binary .gt left right).HasValue .empty context (.bool false) := by
  intro left right context
  have hr : dateAdd [.string "1000-01-31", .int (-31)] = .ok (.string "0999-12-31") := by rfl
  have hs : dateAdd [.string "999-12-31 23:59:60", .string "+1"] =
      .ok (.string "1000-01-01") := by rfl
  obtain ⟨first, second, -, hfirst, -, hsecond, htests⟩ := dateAdd_tests hr hs
  have hread : read? "0999-12-31" = some ⟨999, 12, 31⟩ := by decide +kernel
  have hread' : read? "1000-01-01" = some ⟨1000, 1, 1⟩ := by decide +kernel
  obtain rfl := Option.some.inj (hread.symm.trans hfirst)
  obtain rfl := Option.some.inj (hread'.symm.trans hsecond)
  have hproper := (valid_of_read? hread).proper
  have hproper' := (valid_of_read? hread').proper
  have hbefore : Date.Before ⟨999, 12, 31⟩ ⟨1000, 1, 1⟩ :=
    (Date.before_iff_fields hproper hproper').2 (.inl (by decide))
  have hnot : ¬ Date.Before ⟨1000, 1, 1⟩ ⟨999, 12, 31⟩ := by
    rw [Date.before_iff_fields hproper' hproper]
    decide
  have hleft : left.HasValue .empty context (.string "0999-12-31") := by
    rw [Expr.hasValue_identifier]
    rfl
  have hright : right.HasValue .empty context (.string "1000-01-01") :=
    Expr.hasValue_literal.2 rfl
  have htest := htests (by decide) (by decide) .empty context left right hleft hright
  refine ⟨hr, hs, (htest true).1.2 ?_, (htest false).2.1.2 ?_, (htest false).2.2.2 ?_⟩
  · simp [hbefore]
  · simp
  · simp [hnot]

end Builtin

end Formulary
