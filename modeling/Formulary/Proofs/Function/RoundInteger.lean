import Formulary.Proofs.Function.Round
import Formulary.Proofs.Number.Whole

/-!
# Rounding integers

An integer has no fraction, so rounding it to decimal places should not change it.  Whether it
does is decided by how the scaled integer is rounded: the half that is added changes nothing
unless the integer is odd and has no room for it, and with places the quotient is the integer
again unless the product moved too far.

* `LeavesAlone` — the integers and places for which nothing changes;
* `roundHalfUp_ofInt_zero`, `roundHalfUp_ofInt` — what rounding makes of an integer;
* `round_integer` — an integer is left alone in just these cases, and comes out no more than one
  unit in its last place away in the others, or as an infinity.
-/

namespace Formulary

namespace Binary64

/-! ## Products and quotients of whole numbers -/

variable {n : Int} {count : Nat}

theorem ofInt_mul (hn : FitsBinary64 (n.natAbs * unitsPerOne)) (hcount : FitsBinary64 count) :
    (ofInt n).mul (.finite false count hcount) = ofUnits (n < 0) (n.natAbs * count) := by
  have hproduct : n.natAbs * unitsPerOne * count = n.natAbs * count * unitsPerOne := by ring
  rw [ofInt_of_fits hn, mul, hproduct, Bool.bne_false, ofRatio_mul_self _ _ unitsPerOne_pos]

theorem ofInt_div (hn : FitsBinary64 (n.natAbs * unitsPerOne)) (hcount : FitsBinary64 count)
    (hpos : 0 < count) : (ofInt n).div (.finite false count hcount) =
      ofRatio (n < 0) (n.natAbs * unitsPerOne * unitsPerOne) count := by
  rw [ofInt_of_fits hn, div, if_neg hpos.ne', Bool.bne_false]

theorem powerOfTen_zero : ∃ fits, powerOfTen 0 = .finite false unitsPerOne fits := by
  have hfits : FitsBinary64 (1 * unitsPerOne) := fits_mul_unitsPerOne (by norm_num)
  rw [Nat.one_mul] at hfits
  refine ⟨hfits, ?_⟩
  rw [powerOfTen_eq (by norm_num), pow_zero, Nat.one_mul, ofUnits_of_fits false hfits]

theorem ofInt_mul_one (hn : FitsBinary64 (n.natAbs * unitsPerOne)) :
    (ofInt n).mul (powerOfTen 0) = ofInt n := by
  obtain ⟨hfits, hone⟩ := powerOfTen_zero
  rw [hone, ofInt_mul hn, ofInt]

theorem ofInt_div_one (hn : FitsBinary64 (n.natAbs * unitsPerOne)) :
    (ofInt n).div (powerOfTen 0) = ofInt n := by
  obtain ⟨hfits, hone⟩ := powerOfTen_zero
  rw [hone, ofInt_div hn hfits unitsPerOne_pos, ofRatio_mul_self _ _ unitsPerOne_pos, ofInt]

/-- A finite even number is the nearest number of a whole number. -/
theorem exists_ofInt_eq {negative : Bool} {units : Nat} (fits : FitsBinary64 units)
    (hpos : negative = true → 0 < units) (h : 2 * unitsPerOne ∣ units) :
    ∃ n : Int, 2 ∣ n ∧ n.natAbs * unitsPerOne = units ∧ (n < 0 ↔ negative = true) ∧
      finite negative units fits = ofInt n := by
  obtain ⟨half, hhalf⟩ := h
  have habs : (signed negative (2 * half)).natAbs = 2 * half := by
    cases negative <;> simp only [signed, Bool.false_eq_true, if_true, if_false] <;> omega
  have hunits : (signed negative (2 * half)).natAbs * unitsPerOne = units := by
    rw [habs, hhalf]
    ring
  have hsign : signed negative (2 * half) < 0 ↔ negative = true := by
    cases negative with
    | false => simp [signed]
    | true =>
      have hne : half ≠ 0 := by
        rintro rfl
        rw [Nat.mul_zero] at hhalf
        exact absurd hhalf (hpos rfl).ne'
      simp only [signed, if_true, iff_true]
      omega
  refine ⟨signed negative (2 * half), ?_, hunits, hsign, ?_⟩
  · cases negative <;> simp only [signed, Bool.false_eq_true, if_true, if_false] <;> omega
  · rw [ofInt_of_fits (by rwa [hunits]), finite.injEq, hunits]
    exact ⟨by simp [hsign], rfl⟩

end Binary64

namespace Builtin

open Binary64

variable {n : Int}

/-! ## Integers that are left alone -/

/-- A whole number is left alone by rounding to a number of places.  Without places it is if it
has room for the half or is even.  With places it is if the rounded product, divided by the power
of ten in exact arithmetic, is no further from it than half the unit in its last place. -/
def LeavesAlone (n : Int) : Nat → Prop
  | 0 => n.natAbs ≤ 2 ^ 52 ∨ 2 ∣ n
  | places + 1 => ∃ power product : ℚ, (powerOfTen (places + 1)).exactValue? = some power ∧
      ((ofInt n).mul (powerOfTen (places + 1))).exactValue? = some product ∧
        |product / power - n| ≤ 2 ^ n.natAbs.log2 / 2 ^ 53

/-- The unit in the last place of a whole number. -/
def lastPlaceOf (n : Int) : ℚ := 2 ^ n.natAbs.log2 / 2 ^ 52

/-- Two sizes with one sign are as far apart as without it. -/
theorem abs_signed_div_sub (negative : Bool) (units count size : Nat) :
    |(signed negative units : ℚ) / count - signed negative size| =
      |(units : ℚ) / count - size| := by
  cases negative with
  | false => simp [signed]
  | true =>
    simp only [signed, if_true]
    push_cast
    rw [neg_div, sub_neg_eq_add, neg_add_eq_sub, abs_sub_comm]

theorem signed_div_eq_iff (negative : Bool) (units size : Nat) :
    (signed negative units : ℚ) / unitsPerOne = signed negative size ↔
      units = size * unitsPerOne := by
  have hunit : (unitsPerOne : ℚ) ≠ 0 := Nat.cast_ne_zero.2 unitsPerOne_pos.ne'
  rw [← sub_eq_zero, ← abs_eq_zero, abs_signed_div_sub, abs_eq_zero, sub_eq_zero,
    div_eq_iff hunit]
  exact_mod_cast Iff.rfl

theorem abs_div_sub_le_iff {units size count e k : Nat} (hcount : 0 < count) :
    |(units : ℚ) / count - size| ≤ 2 ^ e / 2 ^ k ↔
      2 ^ k * units ≤ 2 ^ k * (size * count) + 2 ^ e * count ∧
        2 ^ k * (size * count) ≤ 2 ^ k * units + 2 ^ e * count := by
  have hpos : (0 : ℚ) < count := Nat.cast_pos.2 hcount
  have hbits : (0 : ℚ) < 2 ^ k := by positivity
  have hdistance : |(units : ℚ) / count - size| * count * 2 ^ k =
      |(2 : ℚ) ^ k * units - 2 ^ k * (size * count)| := by
    have hscaled : (2 : ℚ) ^ k * units - 2 ^ k * (size * count) =
        (units / count - size) * count * 2 ^ k := by
      field_simp
    rw [hscaled, abs_mul, abs_mul, abs_of_pos hpos, abs_of_pos hbits]
  rw [le_div_iff₀ hbits, ← mul_le_mul_iff_of_pos_right hpos, mul_right_comm, hdistance, abs_le]
  constructor
  · rintro ⟨hlow, hhigh⟩
    constructor
    · exact_mod_cast (by linarith : (2 : ℚ) ^ k * units ≤ 2 ^ k * (size * count) + 2 ^ e * count)
    · exact_mod_cast (by linarith : (2 : ℚ) ^ k * (size * count) ≤ 2 ^ k * units + 2 ^ e * count)
  · rintro ⟨hhigh, hlow⟩
    have hhigh' : (2 : ℚ) ^ k * units ≤ 2 ^ k * (size * count) + 2 ^ e * count := by
      exact_mod_cast hhigh
    have hlow' : (2 : ℚ) ^ k * (size * count) ≤ 2 ^ k * units + 2 ^ e * count := by
      exact_mod_cast hlow
    constructor <;> linarith

/-! ## What rounding makes of an integer -/

/-- Without places, an integer that has no room for the half and is odd goes to the next one. -/
theorem roundHalfUp_ofInt_zero (hn : n.natAbs ≤ 2 ^ 53) :
    roundHalfUp (ofInt n) 0 = ofInt (if n.natAbs ≤ 2 ^ 52 ∨ 2 ∣ n then n else n + 1) := by
  have hfits := fits_mul_unitsPerOne hn
  have hnext : (if n.natAbs ≤ 2 ^ 52 ∨ 2 ∣ n then n else n + 1).natAbs ≤ 2 ^ 53 := by
    split <;> omega
  rw [roundHalfUp, if_pos (Int.le_refl 0), Int.natAbs_zero, ofInt_mul_one hfits,
    floor_add_half_ofInt hfits, ofInt_div_one (fits_mul_unitsPerOne hnext)]

section Places

variable (hn : n.natAbs ≤ 2 ^ 53) {places count : Nat} {fits : FitsBinary64 count}
  (hplaces : 0 < places) (hpower : powerOfTen places = .finite false count fits)
  (hone : unitsPerOne ≤ count)

include hn hplaces hpower hone

/-- A scaled integer in the range is an even whole number. -/
theorem exists_scaled_eq (hlimit : nearestCount (n.natAbs * count) 1 < unitsLimit) :
    ∃ whole : Int, 2 ∣ whole ∧ whole.natAbs * unitsPerOne = nearestCount (n.natAbs * count) 1 ∧
      (whole < 0 ↔ n < 0) ∧ (ofInt n).mul (powerOfTen places) = ofInt whole := by
  have hwhole : (ofInt n).IsMultiple 1 := by
    intro negative units hunits heq
    rw [ofInt_of_fits (fits_mul_unitsPerOne hn)] at heq
    cases heq
    exact Nat.mul_dvd_mul_right (Nat.one_dvd _) _
  have hproduct : (ofInt n).mul (powerOfTen places) =
      .finite (n < 0) (nearestCount (n.natAbs * count) 1) ⟨hlimit, nearestCount_dvd _ _⟩ := by
    rw [hpower, ofInt_mul (fits_mul_unitsPerOne hn) fits]
    exact ofRatio_of_lt _ hlimit
  have heven := hwhole.mul (isMultiple_powerOfTen hplaces) _ _ _ hproduct
  have hpos : decide (n < 0) = true → 0 < nearestCount (n.natAbs * count) 1 := by
    intro hneg
    have hsize : 0 < n.natAbs := by
      have := of_decide_eq_true hneg
      omega
    have hcount : 0 < count := lt_of_lt_of_le unitsPerOne_pos hone
    have hlow := (product_bounds hsize hn (two_pow_le_unitsPerOne.trans hone) fits.dvd_units).1
    exact lt_of_lt_of_le (Nat.mul_pos (Nat.two_pow_pos _) hcount) hlow
  obtain ⟨whole, htwo, hunits, hsign, heq⟩ := exists_ofInt_eq _ hpos heven
  exact ⟨whole, htwo, hunits, by rwa [decide_eq_true_eq] at hsign, hproduct.trans heq⟩

/-- With places, the half changes nothing: the rounded product is divided by the power, or the
product is infinite. -/
theorem roundHalfUp_ofInt : roundHalfUp (ofInt n) places =
    if nearestCount (n.natAbs * count) 1 < unitsLimit then
      ofRatio (n < 0) (nearestCount (n.natAbs * count) 1 * unitsPerOne) count
    else
      .infinite (n < 0) := by
  have hcount : 0 < count := lt_of_lt_of_le unitsPerOne_pos hone
  rw [roundHalfUp, if_pos (Int.natCast_nonneg places), Int.natAbs_natCast]
  by_cases hlimit : nearestCount (n.natAbs * count) 1 < unitsLimit
  · obtain ⟨whole, htwo, hunits, hsign, hproduct⟩ :=
      exists_scaled_eq hn hplaces hpower hone hlimit
    have hwhole : FitsBinary64 (whole.natAbs * unitsPerOne) := by
      rw [hunits]
      exact ⟨hlimit, nearestCount_dvd _ _⟩
    rw [if_pos hlimit, hproduct, floor_add_half_ofInt hwhole, if_pos (.inr htwo), hpower,
      ofInt_div hwhole fits hcount, hunits]
    simp only [hsign]
  · have hinfinite : ofUnits (n < 0) (n.natAbs * count) = .infinite (n < 0) := by
      rw [ofUnits, ofRatio, dif_neg hlimit]
    rw [if_neg hlimit, hpower, ofInt_mul (fits_mul_unitsPerOne hn) fits, hinfinite, half_eq]
    simp [add, floor, div]

/-- In counts: the product is in the range, and its rounded quotient is the number again. -/
theorem leavesAlone_iff : LeavesAlone n places ↔
    nearestCount (n.natAbs * count) 1 < unitsLimit ∧
      nearestCount (nearestCount (n.natAbs * count) 1 * unitsPerOne) count =
        n.natAbs * unitsPerOne := by
  have hcount : 0 < count := lt_of_lt_of_le unitsPerOne_pos hone
  have hunit : (unitsPerOne : ℚ) ≠ 0 := Nat.cast_ne_zero.2 unitsPerOne_pos.ne'
  have hbits : 2 ^ 52 ≤ count := two_pow_le_unitsPerOne.trans hone
  obtain ⟨rest, rfl⟩ : ∃ rest, places = rest + 1 := ⟨places - 1, by omega⟩
  rw [LeavesAlone, hpower, ofInt_mul (fits_mul_unitsPerOne hn) fits, ofUnits,
    quotient_eq_iff hn hbits fits.dvd_units, ← abs_div_sub_le_iff hcount,
    ← abs_signed_div_sub (n < 0), signed_natAbs]
  by_cases hlimit : nearestCount (n.natAbs * count) 1 < unitsLimit
  · have hquotient : (signed (n < 0) (nearestCount (n.natAbs * count) 1) / unitsPerOne : ℚ) /
        (signed false count / unitsPerOne) =
        signed (n < 0) (nearestCount (n.natAbs * count) 1) / count := by
      rw [div_div_div_cancel_right₀ hunit]
      simp [signed]
    rw [ofRatio_of_lt _ hlimit]
    simp only [exactValue?, Option.some.injEq]
    constructor
    · rintro ⟨_, _, rfl, rfl, hnear⟩
      exact ⟨hlimit, by rwa [hquotient] at hnear⟩
    · rintro ⟨-, hnear⟩
      exact ⟨_, _, rfl, rfl, by rwa [hquotient]⟩
  · have hinfinite : ofRatio (n < 0) (n.natAbs * count) 1 = .infinite (n < 0) := dif_neg hlimit
    rw [hinfinite]
    constructor
    · rintro ⟨_, _, -, hnone, -⟩
      cases hnone
    · rintro ⟨hlt, -⟩
      exact absurd hlt hlimit

/-- The quotient of a product in the range is in the range. -/
theorem exactValue_scaled (hlimit : nearestCount (n.natAbs * count) 1 < unitsLimit) :
    (roundHalfUp (ofInt n) places).exactValue? = some ((signed (n < 0)
      (nearestCount (nearestCount (n.natAbs * count) 1 * unitsPerOne) count) : ℚ) /
        unitsPerOne) := by
  have hcount : 0 < count := lt_of_lt_of_le unitsPerOne_pos hone
  have hproduct : FitsBinary64 (nearestCount (n.natAbs * count) 1) :=
    ⟨hlimit, nearestCount_dvd _ _⟩
  have hquotient : nearestCount (nearestCount (n.natAbs * count) 1 * unitsPerOne) count <
      unitsLimit := by
    refine nearestCount_lt hcount ?_
    calc nearestCount (n.natAbs * count) 1 * unitsPerOne
        ≤ nearestCount (n.natAbs * count) 1 * count := Nat.mul_le_mul_left _ hone
      _ < overflowBound * count := by
        refine Nat.mul_lt_mul_of_pos_right ?_ hcount
        simpa using add_lt_of_fits hproduct halfPlace_pos
  rw [roundHalfUp_ofInt hn hplaces hpower hone, if_pos hlimit, ofRatio_of_lt _ hquotient,
    exactValue?]

/-- With places, rounding leaves the number alone exactly if the product allows it. -/
theorem scaled_eq_iff :
    (roundHalfUp (ofInt n) places).exactValue? = some (n : ℚ) ↔ LeavesAlone n places := by
  rw [leavesAlone_iff hn hplaces hpower hone]
  by_cases hlimit : nearestCount (n.natAbs * count) 1 < unitsLimit
  · rw [exactValue_scaled hn hplaces hpower hone hlimit, Option.some.injEq]
    have hvalue := signed_div_eq_iff (n < 0)
      (nearestCount (nearestCount (n.natAbs * count) 1 * unitsPerOne) count) n.natAbs
    rw [signed_natAbs] at hvalue
    rw [hvalue, and_iff_right hlimit]
  · rw [roundHalfUp_ofInt hn hplaces hpower hone, if_neg hlimit]
    constructor
    · intro hnone
      cases hnone
    · rintro ⟨hlt, -⟩
      exact absurd hlt hlimit

/-- With places, a finite result is no more than one unit in the last place away. -/
theorem scaled_near {q : ℚ} (hq : (roundHalfUp (ofInt n) places).exactValue? = some q) :
    |q - n| ≤ lastPlaceOf n := by
  by_cases hlimit : nearestCount (n.natAbs * count) 1 < unitsLimit
  · rw [exactValue_scaled hn hplaces hpower hone hlimit, Option.some.injEq] at hq
    obtain ⟨hup, hdown⟩ :=
      quotient_near hn (two_pow_le_unitsPerOne.trans hone) fits.dvd_units
    have hvalue := abs_signed_div_sub (n < 0)
      (nearestCount (nearestCount (n.natAbs * count) 1 * unitsPerOne) count) unitsPerOne n.natAbs
    rw [signed_natAbs] at hvalue
    have hunit : 2 ^ n.natAbs.log2 * unitsPerOne =
        2 ^ 52 * (2 ^ n.natAbs.log2 * lastPlaceOfOne) := by
      rw [unitsPerOne_eq]
      ring
    rw [← hq, hvalue, lastPlaceOf, abs_div_sub_le_iff unitsPerOne_pos, hunit, ← Nat.mul_add,
      ← Nat.mul_add]
    exact ⟨Nat.mul_le_mul_left _ hup, Nat.mul_le_mul_left _ hdown⟩
  · rw [roundHalfUp_ofInt hn hplaces hpower hone, if_neg hlimit] at hq
    cases hq

/-- A product out of the range stays infinite. -/
theorem scaled_of_none (hq : (roundHalfUp (ofInt n) places).exactValue? = none) :
    unitsLimit ≤ nearestCount (n.natAbs * count) 1 ∧
      roundHalfUp (ofInt n) places = .infinite (n < 0) := by
  by_cases hlimit : nearestCount (n.natAbs * count) 1 < unitsLimit
  · rw [exactValue_scaled hn hplaces hpower hone hlimit] at hq
    cases hq
  · rw [roundHalfUp_ofInt hn hplaces hpower hone, if_neg hlimit]
    exact ⟨Nat.le_of_not_lt hlimit, rfl⟩

/-- A number whose product is exact is left alone. -/
theorem leavesAlone_of_fits (h : FitsBinary64 (n.natAbs * count)) : LeavesAlone n places := by
  have hcount : 0 < count := lt_of_lt_of_le unitsPerOne_pos hone
  rw [leavesAlone_iff hn hplaces hpower hone, nearestCount_of_fits h]
  refine ⟨h.lt_limit, ?_⟩
  rw [Nat.mul_right_comm, nearestCount_mul_self _ hcount,
    nearestCount_of_fits (fits_mul_unitsPerOne hn)]

omit hone in
/-- No product is out of the range with up to 292 places. -/
theorem product_lt_unitsLimit (h : places ≤ 292) :
    nearestCount (n.natAbs * count) 1 < unitsLimit := by
  obtain ⟨units, hfits, heq, -, hcount⟩ := upTo_powerOfTen (h.trans (by norm_num : 292 ≤ 308))
  rw [hpower] at heq
  cases heq
  have hgrowth : (0 : ℚ) < growth := one_pos.trans_le one_le_growth
  have hten : (10 : ℚ) ≤ growth := le_mul_of_one_le_right (by norm_num) one_le_slack
  have hsize : (n.natAbs : ℚ) ≤ growth ^ 16 :=
    calc (n.natAbs : ℚ)
        ≤ 2 ^ 53 := by exact_mod_cast hn
      _ ≤ 10 ^ 16 := by norm_num
      _ ≤ growth ^ 16 := pow_le_pow_left₀ (by norm_num) hten 16
  have hproduct : (n.natAbs * count : ℚ) < overflowBound :=
    calc (n.natAbs * count : ℚ)
        ≤ growth ^ 16 * (growth ^ places * unitsPerOne) :=
          mul_le_mul hsize hcount (Nat.cast_nonneg _) (pow_pos hgrowth 16).le
      _ = growth ^ (16 + places) * unitsPerOne := by rw [pow_add, mul_assoc]
      _ < overflowBound := growth_pow_mul_lt (by omega)
  refine nearestCount_lt Nat.one_pos ?_
  rw [Nat.mul_one]
  exact_mod_cast hproduct

end Places

/-! ## Any number of places -/

/-- Without places, in exact values. -/
theorem exactValue_unscaled (hn : n.natAbs ≤ 2 ^ 53) : (roundHalfUp (ofInt n) 0).exactValue? =
    some ((if n.natAbs ≤ 2 ^ 52 ∨ 2 ∣ n then n else n + 1 : Int) : ℚ) := by
  rw [roundHalfUp_ofInt_zero hn]
  refine exactValue_ofInt ?_
  split <;> omega

theorem exactValue_roundHalfUp_iff (hn : n.natAbs ≤ 2 ^ 53) {places : Nat} (h : places ≤ 308) :
    (roundHalfUp (ofInt n) places).exactValue? = some (n : ℚ) ↔ LeavesAlone n places := by
  cases places with
  | zero =>
    show (roundHalfUp (ofInt n) 0).exactValue? = some (n : ℚ) ↔ n.natAbs ≤ 2 ^ 52 ∨ 2 ∣ n
    rw [exactValue_unscaled hn, Option.some.injEq, Int.cast_inj]
    split <;> omega
  | succ rest =>
    obtain ⟨count, fits, hpower, hone⟩ := atLeastOne_powerOfTen h
    exact scaled_eq_iff hn (Nat.succ_pos rest) hpower hone

/-- The unit in the last place is one for the numbers that have no room for a half. -/
theorem one_le_lastPlaceOf (h : 2 ^ 52 ≤ n.natAbs) : 1 ≤ lastPlaceOf n := by
  have hlog : 52 ≤ n.natAbs.log2 := (Nat.le_log2 (by omega)).2 h
  rw [lastPlaceOf, le_div_iff₀ (by positivity), one_mul]
  exact pow_le_pow_right₀ (by norm_num) hlog

theorem roundHalfUp_near (hn : n.natAbs ≤ 2 ^ 53) {places : Nat} (h : places ≤ 308) {q : ℚ}
    (hq : (roundHalfUp (ofInt n) places).exactValue? = some q) : |q - n| ≤ lastPlaceOf n := by
  cases places with
  | zero =>
    have hzero : (roundHalfUp (ofInt n) 0).exactValue? = some q := hq
    rw [exactValue_unscaled hn, Option.some.injEq] at hzero
    rw [← hzero]
    split
    · rw [sub_self, abs_zero, lastPlaceOf]
      positivity
    · have hlast : 1 ≤ lastPlaceOf n := one_le_lastPlaceOf (by omega)
      push_cast
      rwa [add_sub_cancel_left, abs_one]
  | succ rest =>
    obtain ⟨count, fits, hpower, hone⟩ := atLeastOne_powerOfTen h
    exact scaled_near hn (Nat.succ_pos rest) hpower hone hq

/-- Only from 293 places on can a product leave the range. -/
theorem roundHalfUp_of_none (hn : n.natAbs ≤ 2 ^ 53) {places : Nat} (h : places ≤ 308)
    (hq : (roundHalfUp (ofInt n) places).exactValue? = none) :
    roundHalfUp (ofInt n) places = .infinite (n < 0) ∧ 292 < places := by
  cases places with
  | zero =>
    have hzero : (roundHalfUp (ofInt n) 0).exactValue? = none := hq
    rw [exactValue_unscaled hn] at hzero
    cases hzero
  | succ rest =>
    obtain ⟨count, fits, hpower, hone⟩ := atLeastOne_powerOfTen h
    obtain ⟨hlimit, hinfinite⟩ := scaled_of_none hn (Nat.succ_pos rest) hpower hone hq
    refine ⟨hinfinite, ?_⟩
    by_contra hfew
    have hlt := product_lt_unitsLimit hn (Nat.succ_pos rest) hpower (by omega)
    exact absurd hlt (Nat.not_lt.2 hlimit)

/-- Beyond 22 places the fives alone do not fit. -/
theorem le_of_mul_five_pow_le {size places : Nat} (hsize : 0 < size)
    (h : size * 5 ^ places ≤ 2 ^ 53) : places ≤ 22 := by
  by_contra hmore
  have hpow : 5 ^ 23 ≤ 5 ^ places := Nat.pow_le_pow_right (by norm_num) (by omega)
  have hle : 5 ^ places ≤ size * 5 ^ places := Nat.le_mul_of_pos_left _ hsize
  have hbig : 2 ^ 53 < 5 ^ 23 := by norm_num
  omega

/-- A number that fits with the fives of the power of ten has an exact product. -/
theorem leavesAlone_of_mul_five_pow_le (hn : n.natAbs ≤ 2 ^ 53) {places : Nat}
    (hplaces : 0 < places) (hmost : places ≤ 308) (h : n.natAbs * 5 ^ places ≤ 2 ^ 53) :
    LeavesAlone n places := by
  obtain ⟨count, fits, hpower, hone⟩ := atLeastOne_powerOfTen hmost
  refine leavesAlone_of_fits hn hplaces hpower hone ?_
  rcases Nat.eq_zero_or_pos n.natAbs with hzero | hsize
  · have hfits : FitsBinary64 (0 * unitsPerOne) := fits_mul_unitsPerOne (Nat.zero_le _)
    rwa [Nat.zero_mul, ← Nat.zero_mul count, ← hzero] at hfits
  · have hfew := le_of_mul_five_pow_le hsize h
    have hcount : count = 10 ^ places * unitsPerOne := by
      rw [powerOfTen_eq hfew, ofUnits_of_fits false (fits_ten_pow hfew), finite.injEq] at hpower
      exact hpower.2.symm
    rw [hcount, ← Nat.mul_assoc]
    exact fits_mul_ten_pow h hfew

/-! ## The function -/

theorem clampPlaces_of_nonneg {p : Int} (hp : 0 ≤ p) :
    clampPlaces p = (min p.toNat 308 : Nat) := by
  unfold clampPlaces greatestPlaces
  omega

/-- **When rounding leaves integers alone.**  An integer of up to 53 bits, rounded to any number
of decimal places, is a number, and it is the integer itself exactly in the cases of
`LeavesAlone`; with places it is in particular if the integer fits with the fives of the power
of ten.  In the other cases it is

* without places the next integer;
* with places no more than one unit in the last place away;
* from 293 places on possibly the infinity of the same sign. -/
theorem round_integer {n p : Int64} (hn : n.toInt.natAbs ≤ 2 ^ 53) (hp : 0 ≤ p.toInt) :
    ∃ r, round [.int n, .int p] = .ok (.float r) ∧
      (r.exactValue? = some (n.toInt : ℚ) ↔ LeavesAlone n.toInt (min p.toInt.toNat 308)) ∧
      (0 < p.toInt → n.toInt.natAbs * 5 ^ p.toInt.toNat ≤ 2 ^ 53 →
        r.exactValue? = some (n.toInt : ℚ)) ∧
      (p.toInt = 0 → ¬ LeavesAlone n.toInt 0 → r.exactValue? = some (n.toInt + 1 : ℚ)) ∧
      (∀ q, r.exactValue? = some q → |q - n.toInt| ≤ lastPlaceOf n.toInt) ∧
      (r.exactValue? = none → r = .infinite (n.toInt < 0) ∧ 292 < p.toInt) := by
  have hmost : min p.toInt.toNat 308 ≤ 308 := Nat.min_le_right _ _
  have hround : round [.int n, .int p] =
      .ok (.float (roundHalfUp (ofInt n.toInt) (min p.toInt.toNat 308 : Nat))) := by
    rw [← clampPlaces_of_nonneg hp]
    exact round_of_numbers rfl rfl
  refine ⟨_, hround, exactValue_roundHalfUp_iff hn hmost, ?_, ?_, ?_, ?_⟩
  · intro hpos hfives
    rw [exactValue_roundHalfUp_iff hn hmost]
    refine leavesAlone_of_mul_five_pow_le hn (by omega) hmost (le_trans ?_ hfives)
    exact Nat.mul_le_mul_left _ (Nat.pow_le_pow_right (by norm_num) (Nat.min_le_left _ _))
  · intro hzero hmoved
    have hplaces : ((min p.toInt.toNat 308 : Nat) : Int) = 0 := by omega
    have hnext : ¬ (n.toInt.natAbs ≤ 2 ^ 52 ∨ 2 ∣ n.toInt) := hmoved
    rw [hplaces, exactValue_unscaled hn, if_neg hnext]
    push_cast
    rfl
  · intro q hq
    exact roundHalfUp_near hn hmost hq
  · intro hq
    obtain ⟨hinfinite, hfew⟩ := roundHalfUp_of_none hn hmost hq
    exact ⟨hinfinite, by omega⟩

/-- The product of this number has more than 53 bits, but not with the fives alone. -/
theorem round_integer_tenths :
    (1801439850948198 : Int64).toInt.natAbs ≤ 2 ^ 53 ∧ 0 ≤ (1 : Int64).toInt ∧
      2 ^ 53 < 1801439850948198 * 10 ^ 1 ∧
      ∃ r, round [.int 1801439850948198, .int 1] = .ok (.float r) ∧
        r.exactValue? = some (1801439850948198 : ℚ) := by
  have hn : (1801439850948198 : Int64).toInt.natAbs ≤ 2 ^ 53 := by decide
  have hp : 0 ≤ (1 : Int64).toInt := by decide
  obtain ⟨r, hround, -, hfives, -⟩ := round_integer hn hp
  have hvalue : (1801439850948198 : Int64).toInt = 1801439850948198 := by decide
  have hexact := hfives (by decide) (by decide)
  rw [hvalue] at hexact
  exact ⟨hn, hp, by norm_num, r, hround, by exact_mod_cast hexact⟩

/-- Integers do not stay what they are: 2⁵² + 1 goes to the next one without any places, three
comes out larger from 27 places, and ten comes out infinite from 308. -/
theorem round_integer_moved :
    round [.int 4503599627370497, .int 0] = .ok (.float (ofInt 4503599627370498)) ∧
      round [.int 3, .int 27] =
        .ok (.float (ofUnits false (3 * unitsPerOne + 2 * lastPlaceOfOne))) ∧
      round [.int 10, .int 308] = .ok (.float (.infinite false)) ∧
      ¬ ∀ n p : Int64, n.toInt.natAbs ≤ 2 ^ 53 → 0 ≤ p.toInt →
        ∃ r, round [.int n, .int p] = .ok (.float r) ∧ r.exactValue? = some (n.toInt : ℚ) := by
  have hodd : roundHalfUp (ofInt (4503599627370497 : Int64).toInt)
      (clampPlaces (0 : Int64).toInt) = ofInt 4503599627370498 := by
    decide +kernel
  have hthree : roundHalfUp (ofInt (3 : Int64).toInt) (clampPlaces (27 : Int64).toInt) =
      ofUnits false (3 * unitsPerOne + 2 * lastPlaceOfOne) := by
    decide +kernel
  have hten : roundHalfUp (ofInt (10 : Int64).toInt) (clampPlaces (308 : Int64).toInt) =
      .infinite false := by
    decide +kernel
  have hround {n p : Int64} {r : Binary64}
      (hr : roundHalfUp (ofInt n.toInt) (clampPlaces p.toInt) = r) :
      round [.int n, .int p] = .ok (.float r) :=
    hr ▸ round_of_numbers rfl rfl
  refine ⟨hround hodd, hround hthree, hround hten, fun halone => ?_⟩
  obtain ⟨r, hr, hexact⟩ := halone 10 308 (by decide) (by decide)
  have hinfinite : .infinite false = r :=
    Value.float.inj (Except.ok.inj ((hround hten).symm.trans hr))
  rw [← hinfinite] at hexact
  cases hexact

end Builtin

end Formulary
