import Formulary.Proofs.Expr.Grammar
import Formulary.Proofs.Number.Shortest

/-!
# Written numbers

The texts of integers and of binary numbers, as far as they have the form of a numeral of
the grammar.

* `digits_toDigits` — a whole number is written with digits that mean it;
* `pointText_size` — a plain number is written with a point and reads back;
* `plain_iff` — a finite number is plain exactly when it is written without an exponent.
-/

namespace Formulary.Numeral

open Decimal (valueOfDigits shortest ofCount)
open Grammar (Digits)

/-! ## Digits -/

theorem digits_toDigits (n : Nat) : Digits (Nat.toDigits 10 n) :=
  ⟨Nat.toDigits_ne_nil, fun _ hc => Nat.isDigit_of_mem_toDigits (by decide) (by decide) hc⟩

theorem valueOfDigits_toDigits (n : Nat) : valueOfDigits (Nat.toDigits 10 n) = n :=
  Nat.ofDigitChars_ten_toDigits

theorem valueOfDigits_append (a b : List Char) :
    valueOfDigits (a ++ b) = valueOfDigits a * 10 ^ b.length + valueOfDigits b := by
  change Nat.ofDigitChars 10 (a ++ b) 0 = Nat.ofDigitChars 10 a 0 * 10 ^ b.length +
    Nat.ofDigitChars 10 b 0
  rw [Nat.ofDigitChars_append, Nat.ofDigitChars_eq_ofDigitChars_zero, Nat.mul_comm]

theorem valueOfDigits_zeros (n : Nat) : valueOfDigits (List.replicate n '0') = 0 := by
  change Nat.ofDigitChars 10 (List.replicate n '0') 0 = 0
  rw [Nat.ofDigitChars_replicate_zero, Nat.mul_zero]

theorem digits_zeros_append {s : List Char} (n : Nat) (h : Digits s) :
    Digits (List.replicate n '0' ++ s) := by
  refine ⟨by simp [h.1], ?_⟩
  intro c hc
  rcases List.mem_append.1 hc with hc | hc
  · rw [(List.mem_replicate.1 hc).2]
    rfl
  · exact h.2 c hc

theorem digits_append_zeros {s : List Char} (n : Nat) (h : Digits s) :
    Digits (s ++ List.replicate n '0') := by
  refine ⟨by simp [h.1], ?_⟩
  intro c hc
  rcases List.mem_append.1 hc with hc | hc
  · exact h.2 c hc
  · rw [(List.mem_replicate.1 hc).2]
    rfl

/-! ## Digits with a point -/

/-- Digits on both sides of a point that read back to a count of units. -/
def PointText (units : Nat) (s : List Char) : Prop :=
  ∃ whole fraction, s = whole ++ '.' :: fraction ∧ Digits whole ∧ Digits fraction ∧
    Binary64.ofDecimal false (valueOfDigits (whole ++ fraction)) (-(fraction.length : Int)) =
      Binary64.ofUnits false units

/-- A number that is written without an exponent: zero, or from `10⁻⁴` up to `10¹⁶`. -/
inductive Plain : Binary64 → Prop
  | zero (negative : Bool) (fits : FitsBinary64 0) : Plain (.finite negative 0 fits)
  | range {negative : Bool} {units : Nat} {fits : FitsBinary64 units} :
      1 / 10 ^ 4 ≤ ofCount units → ofCount units < 10 ^ 16 → Plain (.finite negative units fits)

theorem plain_zero (negative : Bool) : Plain (Binary64.zero negative) := by
  have hfits : FitsBinary64 0 := ⟨by decide +kernel, by decide +kernel⟩
  rw [Binary64.zero, Binary64.ofUnits_of_fits negative hfits]
  exact .zero negative hfits

theorem isPositional_iff (place : Int) :
    marked.isPositional place = true ↔ -3 ≤ place ∧ place ≤ 16 := by
  simp [Layout.isPositional, marked]

theorem pointText_of_value {d : Decimal} {units : Nat} {whole fraction : List Char}
    (hw : Digits whole) (hf : Digits fraction) (hd : d.digits ≠ 0) (hlow : -3 ≤ d.place)
    (hhigh : d.place ≤ 16) (hback : d.toBinary64 false = Binary64.ofUnits false units)
    (hv : d.value =
      Decimal.value ⟨valueOfDigits (whole ++ fraction), -(fraction.length : Int)⟩) :
    PointText units (whole ++ '.' :: fraction) := by
  refine ⟨whole, fraction, rfl, hw, hf, ?_⟩
  have hne : valueOfDigits (whole ++ fraction) ≠ 0 := by
    intro hzero
    have hpos : (0 : ℚ) < d.value :=
      lt_of_lt_of_le (zpow_pos (by norm_num) _) (Decimal.placed_value hd).1
    rw [hv, hzero, Decimal.value, Nat.cast_zero, zero_mul] at hpos
    exact lt_irrefl _ hpos
  rw [← hback, Decimal.toBinary64_congr hd hne hv (by omega) (by omega)]
  rfl

/-- The digits of a decimal laid out around the point read back to what the decimal does. -/
theorem pointText_positional {d : Decimal} {units : Nat} (hd : d.digits ≠ 0)
    (hlow : -3 ≤ d.place) (hhigh : d.place ≤ 16)
    (hback : d.toBinary64 false = Binary64.ofUnits false units) :
    PointText units (marked.positional (Nat.toDigits 10 d.digits) d.place) := by
  have hdigits := digits_toDigits d.digits
  have hvalue := valueOfDigits_toDigits d.digits
  have hplace : d.place = d.exponent + (Nat.toDigits 10 d.digits).length := rfl
  unfold Layout.positional
  generalize hs : Nat.toDigits 10 d.digits = s at *
  have hlen : 0 < s.length := List.length_pos_iff.2 hdigits.1
  split
  · next hle =>
    have hzero : Digits ['0'] := ⟨by simp, by simp⟩
    apply pointText_of_value hzero (digits_zeros_append _ hdigits) hd hlow hhigh hback
    rw [valueOfDigits_append, valueOfDigits_append, valueOfDigits_zeros, hvalue,
      show valueOfDigits ['0'] = 0 from rfl, Nat.zero_mul, Nat.zero_mul, Nat.zero_add,
      Nat.zero_add, List.length_append, List.length_replicate, Decimal.value, Decimal.value,
      show d.exponent = -((((-d.place).toNat + s.length : Nat)) : Int) by omega]
  · next hpos =>
    split
    · next hle =>
      have hzero : Digits ['0'] := ⟨by simp, by simp⟩
      have htext : s ++ List.replicate (d.place.toNat - s.length) '0' ++
          (if marked.marksWhole = true then ['.', '0'] else []) =
          (s ++ List.replicate (d.place.toNat - s.length) '0') ++ '.' :: ['0'] := rfl
      rw [htext]
      apply pointText_of_value (digits_append_zeros _ hdigits) hzero hd hlow hhigh hback
      rw [valueOfDigits_append, valueOfDigits_append, valueOfDigits_zeros, hvalue,
        show valueOfDigits ['0'] = 0 from rfl, List.length_replicate, Decimal.value,
        Decimal.value, show d.exponent = ((d.place.toNat - s.length : Nat) : Int) by omega]
      push_cast
      norm_num
      ring
    · next hlt =>
      have hwhole : Digits (s.take d.place.toNat) := by
        refine ⟨?_, fun c hc => hdigits.2 c (List.mem_of_mem_take hc)⟩
        rw [← List.length_pos_iff, List.length_take]
        omega
      have hfraction : Digits (s.drop d.place.toNat) := by
        refine ⟨?_, fun c hc => hdigits.2 c (List.mem_of_mem_drop hc)⟩
        rw [← List.length_pos_iff, List.length_drop]
        omega
      apply pointText_of_value hwhole hfraction hd hlow hhigh hback
      rw [List.take_append_drop, hvalue, List.length_drop, Decimal.value, Decimal.value,
        show d.exponent = -((s.length - d.place.toNat : Nat) : Int) by omega]

theorem pointText_zero : PointText 0 (marked.size 0) := by
  refine ⟨['0'], ['0'], rfl, ⟨by simp, by simp⟩, ⟨by simp, by simp⟩, ?_⟩
  rw [show valueOfDigits (['0'] ++ ['0']) = 0 from rfl, Binary64.ofDecimal, if_pos rfl,
    Binary64.zero]

/-- A plain number is written with a point and reads back. -/
theorem pointText_size {negative : Bool} {units : Nat} {fits : FitsBinary64 units}
    (h : Plain (.finite negative units fits)) : PointText units (marked.size units) := by
  cases h with
  | zero => exact pointText_zero
  | range hlow hhigh =>
    by_cases hne : units = 0
    · rw [hne]
      exact pointText_zero
    · have hrange := (Decimal.place_shortest_iff marked.tie hne fits).2 ⟨hlow, hhigh⟩
      obtain ⟨hnear, hback⟩ := Decimal.shortest_spec marked.tie hne
      have hpos := (isPositional_iff _).2 hrange
      simp only [Decimal.place] at hpos
      unfold Layout.size
      simp only [if_neg hne, hpos, if_true]
      exact pointText_positional hnear.digits_ne_zero hrange.1 hrange.2
        (hback (by omega) (by omega))

theorem exponent_not_mem_pointText {units : Nat} {s : List Char} (h : PointText units s) :
    'e' ∉ s := by
  obtain ⟨whole, fraction, rfl, hw, hf, -⟩ := h
  intro he
  rcases List.mem_append.1 he with he | he
  · exact absurd (hw.2 _ he) (by decide)
  · rcases List.mem_cons.1 he with he | he
    · exact absurd he (by decide)
    · exact absurd (hf.2 _ he) (by decide)

theorem exponent_mem_text_iff {negative : Bool} {units : Nat} {fits : FitsBinary64 units} :
    'e' ∈ (marked.text (.finite negative units fits)).toList ↔ 'e' ∈ marked.size units := by
  rw [Layout.text, String.toList_ofList, List.mem_append]
  cases negative with
  | false => simp
  | true => simp

theorem size_of_not_positional {units : Nat} (hne : units ≠ 0)
    (hplace : ¬ marked.isPositional (shortest marked.tie units).place = true) :
    marked.size units =
      marked.scientific (Nat.toDigits 10 (shortest marked.tie units).digits)
        ((shortest marked.tie units).place - 1) := by
  unfold Layout.size
  rw [Decimal.place] at hplace
  rw [if_neg hne]
  simp only
  rw [if_neg hplace, Decimal.place]

theorem exponent_mem_scientific (layout : Layout) (digits : List Char) (exponent : Int) :
    'e' ∈ layout.scientific digits exponent := by
  simp [Layout.scientific]

/-- A finite number is plain exactly when it is written without an exponent. -/
theorem plain_iff {negative : Bool} {units : Nat} {fits : FitsBinary64 units} :
    Plain (.finite negative units fits) ↔
      'e' ∉ (marked.text (.finite negative units fits)).toList := by
  rw [exponent_mem_text_iff]
  constructor
  · intro h
    exact exponent_not_mem_pointText (pointText_size h)
  · intro h
    by_cases hne : units = 0
    · subst hne
      exact .zero negative fits
    · have hpos : marked.isPositional (shortest marked.tie units).place = true := by
        by_contra hplace
        apply h
        rw [size_of_not_positional hne hplace]
        exact exponent_mem_scientific _ _ _
      rw [isPositional_iff, Decimal.place_shortest_iff marked.tie hne fits] at hpos
      exact .range hpos.1 hpos.2

end Formulary.Numeral
