import Formulary.Proofs.Calendar.Texts

/-!
# The order of days and of their texts

A day is before another if going on from day to day leads from it to the other.  The texts of days
are ordered in the same way as long as no year has a sign: every part has a fixed width then, and
the greater parts come first.

* `lt_of_valueOfDigits_lt` — digits of one length are ordered as the numbers they write;
* `before_iff`, `before_iff_fields` — the order of days by their numbers, and by year, month and
  day;
* `text_lt_text` — an earlier day has the smaller text.
-/

namespace Formulary

/-! ## Texts of one length -/

/-- Where two texts of one length differ, what follows them does not matter. -/
theorem Text.append_lt_append {a b : List Char} (hlength : a.length = b.length) (h : a < b)
    (x y : List Char) : a ++ x < b ++ y := by
  induction a generalizing b with
  | nil =>
    obtain rfl := List.length_eq_zero_iff.1 hlength.symm
    exact absurd h (List.lt_irrefl [])
  | cons c a ih =>
    cases b with
    | nil => simp at hlength
    | cons d b =>
      rw [List.cons_append, List.cons_append, List.cons_lt_cons_iff]
      rcases List.cons_lt_cons_iff.1 h with hless | ⟨rfl, hrest⟩
      · exact .inl hless
      · exact .inr ⟨rfl, ih (by simpa using hlength) hrest⟩

namespace Decimal

theorem valueOfDigits_cons (c : Char) (s : List Char) :
    valueOfDigits (c :: s) = (c.toNat - '0'.toNat) * 10 ^ s.length + valueOfDigits s := by
  have hone : valueOfDigits [c] = c.toNat - '0'.toNat := by simp [valueOfDigits]
  rw [← List.singleton_append, Numeral.valueOfDigits_append, hone]

theorem valueOfDigits_lt {s : List Char} (h : ∀ c ∈ s, c.isDigit = true) :
    valueOfDigits s < 10 ^ s.length := by
  induction s with
  | nil => decide
  | cons c s ih =>
    obtain ⟨hc, hs⟩ := List.forall_mem_cons.1 h
    have hdigit : c.toNat - '0'.toNat ≤ 9 := by
      obtain ⟨-, hnine⟩ := Char.isDigit_iff_toNat.1 hc
      exact Nat.sub_le_sub_right hnine '0'.toNat
    calc valueOfDigits (c :: s)
        = (c.toNat - '0'.toNat) * 10 ^ s.length + valueOfDigits s := valueOfDigits_cons c s
      _ < 9 * 10 ^ s.length + 10 ^ s.length :=
          Nat.add_lt_add_of_le_of_lt (Nat.mul_le_mul_right _ hdigit) (ih hs)
      _ = 10 ^ (c :: s).length := by rw [List.length_cons, Nat.pow_succ]; omega

/-- Digits of one length are ordered as the numbers they write. -/
theorem lt_of_valueOfDigits_lt {a b : List Char} (ha : ∀ c ∈ a, c.isDigit = true)
    (hb : ∀ c ∈ b, c.isDigit = true) (hlength : a.length = b.length)
    (h : valueOfDigits a < valueOfDigits b) : a < b := by
  induction a generalizing b with
  | nil =>
    obtain rfl := List.length_eq_zero_iff.1 hlength.symm
    exact absurd h (Nat.lt_irrefl _)
  | cons c a ih =>
    cases b with
    | nil => simp at hlength
    | cons d b =>
      obtain ⟨-, hmore⟩ := List.forall_mem_cons.1 ha
      obtain ⟨hd, hmore'⟩ := List.forall_mem_cons.1 hb
      have hrest : a.length = b.length := by simpa using hlength
      rw [valueOfDigits_cons, valueOfDigits_cons, hrest] at h
      rw [List.cons_lt_cons_iff]
      rcases Nat.lt_trichotomy c.toNat d.toNat with hless | hsame | hgreater
      · exact .inl (Char.lt_def.2 hless)
      · obtain rfl := Char.toNat_inj.1 hsame
        exact .inr ⟨rfl, ih hmore hmore' hrest (Nat.lt_of_add_lt_add_left h)⟩
      · -- a greater first digit outweighs all the digits behind the other one
        have hzero := (Char.isDigit_iff_toNat.1 hd).1
        have hfirst : d.toNat - '0'.toNat + 1 ≤ c.toNat - '0'.toNat := by omega
        have hweight := Nat.mul_le_mul_right (10 ^ b.length) hfirst
        have hbehind := valueOfDigits_lt hmore'
        rw [Nat.add_mul, Nat.one_mul] at hweight
        omega

end Decimal

namespace Date

open Calendar

/-! ## The order of days -/

variable {date later : Date}

/-- A day is before another: going on from day to day leads to the other. -/
def Before (date later : Date) : Prop :=
  ∃ days : Int, 0 < days ∧ IsDaysAfter days date later

/-- The days are in the order of their numbers. -/
theorem before_iff (hdate : date.Proper) (hlater : later.Proper) :
    date.Before later ↔ date.number < later.number := by
  constructor
  · rintro ⟨days, hdays, hafter⟩
    have hnumber := (isDaysAfter_iff hdate hlater).1 hafter
    omega
  · intro hless
    refine ⟨later.number - date.number, by omega, ?_⟩
    rw [isDaysAfter_iff hdate hlater]
    omega

/-- A month ends before every later one begins. -/
theorem daysBeforeMonth_later : ∀ leap : Bool, ∀ month < 13, ∀ later < 13, 1 ≤ month →
    month < later →
      daysBeforeMonth leap month + daysInMonth leap month ≤ daysBeforeMonth leap later := by
  decide

/-- Year, month and day of one day are below those of another. -/
def FieldsBelow (date later : Date) : Prop :=
  date.year < later.year ∨ date.year = later.year ∧
    (date.month < later.month ∨ date.month = later.month ∧ date.day < later.day)

instance (date later : Date) : Decidable (date.FieldsBelow later) :=
  inferInstanceAs (Decidable (_ ∨ _))

theorem FieldsBelow.number_lt (hdate : date.Proper) (hlater : later.Proper)
    (h : date.FieldsBelow later) : date.number < later.number := by
  obtain ⟨hfirst, hlength, -⟩ := month_of_day hdate.1 hdate.2
  obtain ⟨-, hlengthLater, -⟩ := month_of_day hlater.1 hlater.2
  have hlast := hdate.2
  have hday := hlater.1
  rcases h with hyear | ⟨hyear, hmonth | ⟨hmonth, hless⟩⟩
  · obtain ⟨-, hend⟩ := hdate.number_bounds
    obtain ⟨hstart, -⟩ := hlater.number_bounds
    have hyears : daysBeforeYear (date.year + 1) ≤ daysBeforeYear later.year :=
      daysBeforeYear_mono hyear
    omega
  · have hmonths := daysBeforeMonth_later (isLeap later.year) date.month (by omega) later.month
      (by omega) hfirst hmonth
    rw [hyear] at hlast
    simp only [Date.number, hyear]
    omega
  · simp only [Date.number, hyear, hmonth]
    omega

/-- The days are in the order of their years, then of their months, then of their days. -/
theorem before_iff_fields (hdate : date.Proper) (hlater : later.Proper) :
    date.Before later ↔ date.FieldsBelow later := by
  rw [before_iff hdate hlater]
  constructor
  · intro hless
    by_contra hnot
    -- otherwise the fields are the same or below the other way round
    have hcases : date = later ∨ later.FieldsBelow date := by
      unfold FieldsBelow at hnot ⊢
      rw [Date.mk.injEq]
      omega
    rcases hcases with rfl | hbelow
    · exact Int.lt_irrefl _ hless
    · have hgreater := hbelow.number_lt hlater hdate
      omega
  · intro h
    exact h.number_lt hdate hlater

/-! ## Texts of fixed width -/

variable {width m n : Nat}

theorem length_padded (hwidth : 0 < width) (hn : n < 10 ^ width) :
    (padded width n).length = width := by
  have hle := length_padded_le hwidth hn
  simp only [padded, List.length_append, List.length_replicate] at hle ⊢
  omega

/-- Numbers that fit a width are ordered as they are written. -/
theorem padded_lt_padded (hwidth : 0 < width) (hn : n < 10 ^ width) (h : m < n) :
    padded width m < padded width n := by
  refine Decimal.lt_of_valueOfDigits_lt (padded_digits width m).2 (padded_digits width n).2 ?_ ?_
  · rw [length_padded hwidth (Nat.lt_trans h hn), length_padded hwidth hn]
  · rwa [valueOfDigits_padded, valueOfDigits_padded]

/-- What follows numbers of one width does not matter where the numbers differ. -/
theorem padded_append_lt (hwidth : 0 < width) (hn : n < 10 ^ width) (h : m < n)
    (x y : List Char) : padded width m ++ x < padded width n ++ y := by
  refine Text.append_lt_append ?_ (padded_lt_padded hwidth hn h) x y
  rw [length_padded hwidth (Nat.lt_trans h hn), length_padded hwidth hn]

/-- The year of a day needs no sign: it has four digits. -/
def FourDigitYear (date : Date) : Prop :=
  0 ≤ date.year ∧ date.year ≤ 9999

instance (date : Date) : Decidable date.FourDigitYear :=
  inferInstanceAs (Decidable (_ ∧ _))

theorem FourDigitYear.toList_text (h : date.FourDigitYear) :
    date.text.toList =
      padded 4 date.year.natAbs ++ ('-' :: (padded 2 date.month ++ '-' :: padded 2 date.day)) := by
  obtain ⟨hlow, hhigh⟩ := h
  have hyear : yearChars date.year = padded 4 date.year.natAbs := by
    rw [yearChars, if_neg (by omega), if_neg (by omega)]
    rfl
  rw [text, String.toList_ofList, hyear, List.append_assoc, List.cons_append]

/-- **An earlier day has the smaller text**, as long as neither year needs a sign. -/
theorem text_lt_text (hdate : date.Proper) (hlater : later.Proper) (hyear : date.FourDigitYear)
    (hyear' : later.FourDigitYear) (h : date.Before later) : date.text < later.text := by
  obtain ⟨-, hmonth, hday⟩ := month_of_day hdate.1 hdate.2
  obtain ⟨-, hmonth', hday'⟩ := month_of_day hlater.1 hlater.2
  obtain ⟨hlow, hhigh⟩ := id hyear
  obtain ⟨hlow', hhigh'⟩ := id hyear'
  rw [String.lt_iff_toList_lt, hyear.toList_text, hyear'.toList_text]
  rcases (before_iff_fields hdate hlater).1 h with hless | ⟨hsame, hless | ⟨hsameMonth, hless⟩⟩
  · exact padded_append_lt (by decide) (by omega) (by omega) _ _
  · rw [hsame]
    refine List.append_left_lt (List.cons_lt_cons_self.2 ?_)
    exact padded_append_lt (by decide) (by omega) hless _ _
  · rw [hsame, hsameMonth]
    refine List.append_left_lt (List.cons_lt_cons_self.2 ?_)
    refine List.append_left_lt (List.cons_lt_cons_self.2 ?_)
    exact padded_lt_padded (by decide) (by omega) hless

end Date

end Formulary
