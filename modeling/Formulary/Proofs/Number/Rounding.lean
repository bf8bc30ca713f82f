import Formulary.Number.Decimal
import Mathlib.Algebra.Order.Field.Power
import Mathlib.Data.Rat.Cast.Order
import Mathlib.Tactic.FieldSimp
import Mathlib.Tactic.Linarith
import Mathlib.Tactic.Positivity
import Mathlib.Tactic.Ring

/-!
# Rounding ratios and decimals

Rounding depends on a number only, not on the ratio or the decimal that writes it.

* `Binary64.ofRatio_congr` — equal ratios are rounded to the same number;
* `Binary64.ofUnits_of_fits` — a count that 53 bits can write is rounded to itself;
* `Decimal.Moderate.toBinary64_eq` — a decimal is rounded as any ratio with its value.
-/

namespace Formulary

namespace Binary64

/-! ## Ratios -/

theorem roundQuotient_mul (num den : Nat) {k : Nat} (hk : 0 < k) :
    roundQuotient (num * k) (den * k) = roundQuotient num den := by
  have hdiv : num * k / (den * k) = num / den := Nat.mul_div_mul_right _ _ hk
  have hmod : 2 * (num * k % (den * k)) = 2 * (num % den) * k := by
    rw [Nat.mul_mod_mul_right, Nat.mul_assoc]
  have hlt : 2 * (num % den) * k < den * k ↔ 2 * (num % den) < den :=
    Nat.mul_lt_mul_right hk
  have heq : 2 * (num % den) * k = den * k ↔ 2 * (num % den) = den :=
    Nat.mul_left_inj (Nat.pos_iff_ne_zero.1 hk)
  simp only [roundQuotient, hdiv, hmod, hlt, heq]

theorem nearestCount_mul (num den : Nat) {k : Nat} (hk : 0 < k) :
    nearestCount (num * k) (den * k) = nearestCount num den := by
  have hdiv : num * k / (den * k) = num / den := Nat.mul_div_mul_right _ _ hk
  simp only [nearestCount, hdiv, Nat.mul_right_comm den k]
  rw [roundQuotient_mul _ _ hk]

/-- A common factor does not change the rounded number. -/
theorem ofRatio_mul (negative : Bool) (num den : Nat) {k : Nat} (hk : 0 < k) :
    ofRatio negative (num * k) (den * k) = ofRatio negative num den := by
  simp only [ofRatio, nearestCount_mul num den hk]

/-- A count over a unit is rounded as the count alone. -/
theorem nearestCount_mul_self (units : Nat) {unit : Nat} (h : 0 < unit) :
    nearestCount (units * unit) unit = nearestCount units 1 := by
  have hcount := nearestCount_mul units 1 h
  rwa [Nat.one_mul] at hcount

theorem ofRatio_mul_self (negative : Bool) (units : Nat) {unit : Nat} (h : 0 < unit) :
    ofRatio negative (units * unit) unit = ofUnits negative units := by
  simp only [ofUnits, ofRatio, nearestCount_mul_self units h]

/-- Equal ratios are rounded to the same number. -/
theorem ofRatio_congr (negative : Bool) {num den num' den' : Nat} (hden : 0 < den)
    (hden' : 0 < den') (h : (num : ℚ) / den = num' / den') :
    ofRatio negative num den = ofRatio negative num' den' := by
  have hcross : num * den' = num' * den := by
    have hne : (den : ℚ) ≠ 0 := Nat.cast_ne_zero.2 (Nat.pos_iff_ne_zero.1 hden)
    have hne' : (den' : ℚ) ≠ 0 := Nat.cast_ne_zero.2 (Nat.pos_iff_ne_zero.1 hden')
    rw [div_eq_div_iff hne hne'] at h
    exact_mod_cast h
  calc ofRatio negative num den
      = ofRatio negative (num * den') (den * den') := (ofRatio_mul negative num den hden').symm
    _ = ofRatio negative (num' * den) (den' * den) := by rw [hcross, Nat.mul_comm den den']
    _ = ofRatio negative num' den' := ofRatio_mul negative num' den' hden

/-- Less than half a unit is rounded to nothing. -/
theorem ofRatio_small (negative : Bool) {num den : Nat} (h : 2 * num < den) :
    ofRatio negative num den = zero negative := by
  have hdiv : num / den = 0 := Nat.div_eq_of_lt (by omega)
  have hmod : num % den = num := Nat.mod_eq_of_lt (by omega)
  have hcount : nearestCount num den = nearestCount 0 1 := by
    simp [nearestCount, roundQuotient, hdiv, hmod, h]
  simp only [zero, ofUnits, ofRatio, hcount]

theorem roundQuotient_of_dvd {num den : Nat} (hden : 0 < den) (h : den ∣ num) :
    roundQuotient num den = num / den := by
  have hmod : num % den = 0 := Nat.mod_eq_zero_of_dvd h
  simp only [roundQuotient, hmod, Nat.mul_zero]
  rw [if_pos (.inl hden)]

theorem nearestCount_of_dvd {units : Nat} (h : Nat.pow 2 (units.log2 - 52) ∣ units) :
    nearestCount units 1 = units := by
  simp only [nearestCount, Nat.div_one, Nat.one_mul]
  rw [roundQuotient_of_dvd (by rw [Nat.pow_eq]; exact Nat.two_pow_pos _) h]
  exact Nat.div_mul_cancel h

theorem nearestCount_of_fits {units : Nat} (h : FitsBinary64 units) :
    nearestCount units 1 = units :=
  nearestCount_of_dvd h.dvd_units

/-- A count that 53 bits can write is rounded to itself. -/
theorem ofUnits_of_fits (negative : Bool) {units : Nat} (h : FitsBinary64 units) :
    ofUnits negative units = .finite negative units h := by
  have hcount := nearestCount_of_fits h
  unfold ofUnits ofRatio
  rw [dif_pos (by rw [hcount]; exact h.lt_limit)]
  simp only [hcount]

theorem unitsPerOne_pos : 0 < unitsPerOne := by
  unfold unitsPerOne
  generalize 1074 = n
  exact Nat.two_pow_pos n

end Binary64

/-! ## Decimals -/

namespace Decimal

open Binary64 (ofRatio ofDecimal)

/-- The number that a decimal writes. -/
def value (d : Decimal) : ℚ :=
  d.digits * 10 ^ d.exponent

/-- Three bits say less than a digit. -/
theorem lt_ten_pow_log2 (m : Nat) : m < 10 ^ (m.log2 / 3 + 1) := by
  calc m < 2 ^ (m.log2 + 1) := Nat.lt_log2_self
    _ ≤ 2 ^ (3 * (m.log2 / 3 + 1)) := Nat.pow_le_pow_right (by decide) (by omega)
    _ = 8 ^ (m.log2 / 3 + 1) := Nat.pow_mul 2 3 _
    _ ≤ 10 ^ (m.log2 / 3 + 1) := Nat.pow_le_pow_left (by decide) _

/-- Digits with a point before the last of them are rounded as a ratio, also where the ratio is
too small to be formed at once. -/
theorem ofDecimal_eq_ofRatio (negative : Bool) (digits places : Nat) :
    ofDecimal negative digits (-(places : Int)) =
      ofRatio negative (digits * unitsPerOne) (10 ^ places) := by
  have hden : 0 < 10 ^ places := Nat.pow_pos (by decide)
  by_cases hzero : digits = 0
  · subst hzero
    rw [ofDecimal, if_pos rfl, Nat.zero_mul, Binary64.zero, Binary64.ofUnits]
    exact Binary64.ofRatio_congr negative Nat.one_pos hden (by simp)
  by_cases hlow : -(places : Int) + (digits.log2 / 3 + 1 : Nat) < -400
  · have hhalf : 2 * (digits * unitsPerOne) < 10 ^ places := by
      obtain ⟨far, hfar, hunits⟩ : ∃ far : Nat, far = 400 ∧ 2 * unitsPerOne < 10 ^ far :=
        ⟨400, rfl, by decide +kernel⟩
      calc 2 * (digits * unitsPerOne) = digits * (2 * unitsPerOne) := Nat.mul_left_comm 2 _ _
        _ ≤ 10 ^ (digits.log2 / 3 + 1) * 10 ^ far :=
          Nat.mul_le_mul (lt_ten_pow_log2 digits).le hunits.le
        _ = 10 ^ (digits.log2 / 3 + 1 + far) := (Nat.pow_add ..).symm
        _ < 10 ^ places := Nat.pow_lt_pow_right (by decide) (by omega)
    rw [ofDecimal, if_neg hzero, if_neg (by omega), if_pos hlow, Binary64.ofRatio_small _ hhalf]
  rw [ofDecimal, if_neg hzero, if_neg (by omega), if_neg hlow]
  by_cases hplaces : places = 0
  · subst hplaces
    rw [if_pos (by decide)]
    simp [Binary64.ofUnits]
  · rw [if_neg (by omega), Int.neg_neg, Int.toNat_natCast, Nat.pow_eq]

/-- A decimal for which no power is too large to be formed. -/
structure Moderate (d : Decimal) : Prop where
  digits_ne_zero : d.digits ≠ 0
  exponent_le : d.exponent ≤ 400
  large : 10 ^ ((-d.exponent).toNat - 400) ≤ d.digits

/-- A power of ten has three times as many bits as digits. -/
theorem three_mul_le_log2 {m k : Nat} (h : 10 ^ k ≤ m) : 3 * k ≤ m.log2 := by
  have hm : m ≠ 0 := by
    have := Nat.pow_pos (n := k) (show 0 < 10 by decide)
    omega
  rw [Nat.le_log2 hm, Nat.pow_mul]
  exact Nat.le_trans (Nat.pow_le_pow_left (by decide) k) h

theorem Moderate.toBinary64 {d : Decimal} (h : d.Moderate) (negative : Bool) :
    d.toBinary64 negative =
      ofRatio negative (d.digits * 10 ^ d.exponent.toNat * unitsPerOne)
        (10 ^ (-d.exponent).toNat) := by
  have hlow : ¬ d.exponent + (d.digits.log2 / 3 + 1 : Nat) < -400 := by
    intro hlt
    have := three_mul_le_log2 h.large
    omega
  have hhigh := h.exponent_le
  rw [Decimal.toBinary64, ofDecimal, if_neg h.digits_ne_zero, if_neg (by omega), if_neg hlow]
  by_cases hpos : 0 ≤ d.exponent
  · rw [if_pos hpos, show (-d.exponent).toNat = 0 by omega]
    rfl
  · rw [if_neg hpos, show d.exponent.toNat = 0 by omega, pow_zero, Nat.mul_one, Nat.pow_eq]

/-- A power of ten with any exponent, as a ratio of two powers without a sign. -/
theorem ten_zpow (e : ℤ) : (10 : ℚ) ^ e = 10 ^ e.toNat / 10 ^ (-e).toNat := by
  rcases le_total 0 e with h | h
  · obtain ⟨n, rfl⟩ := Int.eq_ofNat_of_zero_le h
    simp
  · obtain ⟨n, hn⟩ := Int.eq_ofNat_of_zero_le (Int.neg_nonneg_of_nonpos h)
    obtain rfl : e = -n := by omega
    simp

/-- A decimal is rounded as any ratio with its value. -/
theorem Moderate.toBinary64_eq {d : Decimal} (h : d.Moderate) (negative : Bool) {num den : Nat}
    (hden : 0 < den) (hv : d.value * unitsPerOne = num / den) :
    d.toBinary64 negative = ofRatio negative num den := by
  rw [h.toBinary64]
  apply Binary64.ofRatio_congr negative (Nat.pow_pos (by decide)) hden
  rw [← hv, value, ten_zpow]
  push_cast
  ring

end Decimal

end Formulary
