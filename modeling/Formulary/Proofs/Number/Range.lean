import Formulary.Proofs.Number.Rounding

/-!
# The range of finite numbers

When a rounded result is finite, and how far it can be from the exact one.  The greatest finite
number lies one unit in its last place, 2²⁰⁴⁵ units, below the limit, and a ratio is rounded to
a finite number if it lies more than half of that below.

* `isFinite_ofRatio` — a ratio below the bound is rounded to a finite number;
* `isFinite_add_half`, `isFinite_floor`, `AtLeastOne.isFinite_div` — what does not leave the
  range;
* `atLeastOne_powerOfTen` — the powers of ten up to 10³⁰⁸ are finite.
-/

namespace Formulary.Binary64

/-! ## The nearest count -/

/-- Rounding moves a ratio by one half at most. -/
theorem two_mul_roundQuotient_le (num den : Nat) :
    2 * (roundQuotient num den * den) ≤ 2 * num + den := by
  have hparts : num / den * den + num % den = num := Nat.div_add_mod' num den
  simp only [roundQuotient]
  split
  · omega
  · next hup =>
    have hhalf : den ≤ 2 * (num % den) := by omega
    rw [Nat.add_mul, Nat.one_mul]
    omega

theorem le_roundQuotient (num den : Nat) : num / den ≤ roundQuotient num den := by
  simp only [roundQuotient]
  split <;> omega

/-- The unit in the last place that a ratio is rounded to. -/
def lastPlace (num den : Nat) : Nat :=
  2 ^ ((num / den).log2 - 52)

theorem nearestCount_eq (num den : Nat) :
    nearestCount num den =
      roundQuotient num (den * lastPlace num den) * lastPlace num den := rfl

/-- Rounding moves a ratio by half a unit in the last place at most. -/
theorem two_mul_nearestCount_le (num den : Nat) :
    2 * (nearestCount num den * den) ≤ 2 * num + den * lastPlace num den := by
  have hround := two_mul_roundQuotient_le num (den * lastPlace num den)
  rwa [nearestCount_eq, Nat.mul_assoc, Nat.mul_comm (lastPlace num den)]

/-- Rounding does not cross the power of two below a ratio. -/
theorem two_pow_le_nearestCount {num den k : Nat} (hden : 0 < den) (h : 2 ^ k * den ≤ num) :
    2 ^ k ≤ nearestCount num den := by
  have hquotient : 2 ^ k ≤ num / den := (Nat.le_div_iff_mul_le hden).2 h
  have hne : num / den ≠ 0 := by
    have := Nat.two_pow_pos k
    omega
  have hlog : k ≤ (num / den).log2 := (Nat.le_log2 hne).2 hquotient
  have hsplit : 2 ^ ((num / den).log2 - ((num / den).log2 - 52)) * lastPlace num den =
      2 ^ (num / den).log2 := by
    rw [lastPlace, ← Nat.pow_add]
    congr 1
    omega
  have hwhole : 2 ^ ((num / den).log2 - ((num / den).log2 - 52)) ≤
      roundQuotient num (den * lastPlace num den) := by
    refine le_trans ?_ (le_roundQuotient _ _)
    have hpos : 0 < lastPlace num den := Nat.two_pow_pos _
    rw [← Nat.div_div_eq_div_mul, Nat.le_div_iff_mul_le hpos, hsplit]
    exact Nat.log2_self_le hne
  calc 2 ^ k
      ≤ 2 ^ (num / den).log2 := Nat.pow_le_pow_right Nat.two_pos hlog
    _ = 2 ^ ((num / den).log2 - ((num / den).log2 - 52)) * lastPlace num den := hsplit.symm
    _ ≤ nearestCount num den := by
      rw [nearestCount_eq]
      exact Nat.mul_le_mul_right _ hwhole

theorem one_le_nearestCount {num den : Nat} (hden : 0 < den) (h : unitsPerOne * den ≤ num) :
    unitsPerOne ≤ nearestCount num den := by
  unfold unitsPerOne at h ⊢
  generalize 1074 = k at h ⊢
  exact two_pow_le_nearestCount hden h

/-! ## The bound -/

/-- Half the unit in the last place of the greatest finite number. -/
def halfPlace : Nat := Nat.pow 2 2044

/-- The first size that is rounded past the greatest finite number. -/
def overflowBound : Nat := unitsLimit - halfPlace

theorem unitsLimit_eq : unitsLimit = 2 ^ 54 * halfPlace := by
  unfold unitsLimit halfPlace
  have hsum : 2098 = 54 + 2044 := rfl
  rw [hsum]
  generalize 2044 = n
  exact Nat.pow_add 2 54 n

theorem two_pow_le {n : Nat} (h : n ≤ 2045) : 2 ^ n ≤ 2 * halfPlace := by
  unfold halfPlace
  generalize hplace : 2044 = m
  rw [Nat.pow_eq, ← Nat.pow_succ']
  exact Nat.pow_le_pow_right Nat.two_pos (by omega)

/-- Whole numbers of sixty-four bits are far from the bound. -/
theorem two_pow_mul_unitsPerOne_le : 2 ^ 64 * unitsPerOne ≤ halfPlace := by
  unfold unitsPerOne halfPlace
  generalize hone : 1074 = k
  generalize hplace : 2044 = m
  rw [Nat.pow_eq, Nat.pow_eq, ← Nat.pow_add]
  exact Nat.pow_le_pow_right Nat.two_pos (by omega)

theorem unitsPerOne_lt_halfPlace : unitsPerOne < halfPlace := by
  have := two_pow_mul_unitsPerOne_le
  have := unitsPerOne_pos
  omega

theorem halfPlace_pos : 0 < halfPlace :=
  Nat.zero_lt_of_lt unitsPerOne_lt_halfPlace

theorem overflowBound_add : overflowBound + halfPlace = unitsLimit := by
  have hle : halfPlace ≤ unitsLimit := by
    rw [unitsLimit_eq]
    exact Nat.le_mul_of_pos_left halfPlace (Nat.two_pow_pos 54)
  rw [overflowBound, Nat.sub_add_cancel hle]

theorem log2_le_of_lt {units : Nat} (h : units < unitsLimit) : units.log2 ≤ 2097 := by
  unfold unitsLimit at h
  generalize hlimit : 2098 = n at h
  by_cases hzero : units = 0
  · simp [hzero]
  · have hlog : units.log2 < n := (Nat.log2_lt hzero).2 h
    omega

/-- A ratio below the bound is rounded to a count below the limit. -/
theorem nearestCount_lt {num den : Nat} (hden : 0 < den) (h : num < overflowBound * den) :
    nearestCount num den < unitsLimit := by
  have hquotient : num / den < unitsLimit := by
    have hlt : num / den < overflowBound := (Nat.div_lt_iff_lt_mul hden).2 h
    have := overflowBound_add
    omega
  have hplace : lastPlace num den ≤ 2 * halfPlace := by
    have hlog := log2_le_of_lt hquotient
    exact two_pow_le (by omega)
  have hround := two_mul_nearestCount_le num den
  have hlast := Nat.mul_le_mul_left den hplace
  have hbound : 2 * (overflowBound * den) + den * (2 * halfPlace) = 2 * (unitsLimit * den) := by
    rw [← overflowBound_add]
    ring
  have htwice : 2 * (nearestCount num den * den) < 2 * (unitsLimit * den) := by omega
  exact Nat.lt_of_mul_lt_mul_right (Nat.lt_of_mul_lt_mul_left htwice)

theorem ofRatio_of_lt (negative : Bool) {num den : Nat} (h : nearestCount num den < unitsLimit) :
    ofRatio negative num den =
      .finite negative (nearestCount num den) ⟨h, nearestCount_dvd num den⟩ := by
  rw [ofRatio, dif_pos h]

theorem isFinite_ofRatio (negative : Bool) {num den : Nat} (hden : 0 < den)
    (h : num < overflowBound * den) : (ofRatio negative num den).isFinite = true := by
  rw [ofRatio_of_lt negative (nearestCount_lt hden h)]
  rfl

theorem isFinite_ofUnits (negative : Bool) {units : Nat} (h : units < overflowBound) :
    (ofUnits negative units).isFinite = true :=
  isFinite_ofRatio negative Nat.one_pos (by rwa [Nat.mul_one])

/-- The greatest finite number is one unit in its last place below the limit. -/
theorem le_of_fits {units : Nat} (h : FitsBinary64 units) :
    units + 2 * halfPlace ≤ unitsLimit := by
  have hlog := log2_le_of_lt h.lt_limit
  have hplace : Nat.pow 2 (units.log2 - 52) ≤ 2 * halfPlace := two_pow_le (by omega)
  have hsignificand : units / Nat.pow 2 (units.log2 - 52) + 1 ≤ 2 ^ 53 := div_two_pow_lt units
  have hunits : units / Nat.pow 2 (units.log2 - 52) * Nat.pow 2 (units.log2 - 52) = units :=
    Nat.div_mul_cancel h.dvd_units
  calc units + 2 * halfPlace
      ≤ units / Nat.pow 2 (units.log2 - 52) * (2 * halfPlace) + 2 * halfPlace := by
        have hle := Nat.mul_le_mul_left (units / Nat.pow 2 (units.log2 - 52)) hplace
        omega
    _ = (units / Nat.pow 2 (units.log2 - 52) + 1) * (2 * halfPlace) := by ring
    _ ≤ 2 ^ 53 * (2 * halfPlace) := Nat.mul_le_mul_right _ hsignificand
    _ = unitsLimit := by
      rw [unitsLimit_eq]
      ring

/-- A finite number and anything less than half a unit in the last place of the greatest one
stay below the bound. -/
theorem add_lt_of_fits {units more : Nat} (h : FitsBinary64 units) (hmore : more < halfPlace) :
    units + more < overflowBound := by
  have := le_of_fits h
  have := overflowBound_add
  omega

/-! ## Operations -/

/-- A significand shifted to any place fits. -/
theorem fits_mul_two_pow {m k : Nat} (hm : m ≤ 2 ^ 53) (hk : k ≤ 2044) :
    FitsBinary64 (m * Nat.pow 2 k) := by
  refine ⟨?_, dvd_mul_two_pow hm k⟩
  have hplace : Nat.pow 2 k ≤ halfPlace := by
    have hsucc := two_pow_le (Nat.succ_le_succ hk)
    rw [Nat.pow_succ'] at hsucc
    exact Nat.le_of_mul_le_mul_left hsucc Nat.two_pos
  calc m * Nat.pow 2 k
      ≤ 2 ^ 53 * halfPlace := Nat.mul_le_mul hm hplace
    _ < 2 ^ 54 * halfPlace := Nat.mul_lt_mul_of_pos_right (by norm_num) halfPlace_pos
    _ = unitsLimit := unitsLimit_eq.symm

theorem fits_mul_unitsPerOne {m : Nat} (hm : m ≤ 2 ^ 53) : FitsBinary64 (m * unitsPerOne) := by
  unfold unitsPerOne
  generalize hone : 1074 = k
  exact fits_mul_two_pow hm (by omega)

/-- A whole number times a power of ten fits if it does with the fives of that power alone. -/
theorem fits_mul_ten_pow {whole places : Nat} (h : whole * 5 ^ places ≤ 2 ^ 53)
    (hplaces : places ≤ 22) : FitsBinary64 (whole * 10 ^ places * unitsPerOne) := by
  have hten : 10 ^ places = 5 ^ places * 2 ^ places := by rw [← Nat.mul_pow]
  have hsplit : whole * 10 ^ places * unitsPerOne =
      whole * 5 ^ places * (2 ^ places * unitsPerOne) := by
    rw [hten]
    ring
  rw [hsplit]
  unfold unitsPerOne
  generalize hone : 1074 = k
  rw [Nat.pow_eq, ← Nat.pow_add]
  exact fits_mul_two_pow h (by omega)

theorem fits_ten_pow {places : Nat} (h : places ≤ 22) :
    FitsBinary64 (10 ^ places * unitsPerOne) := by
  have hfives : 1 * 5 ^ places ≤ 2 ^ 53 :=
    calc 1 * 5 ^ places
        ≤ 5 ^ 22 := by
          rw [Nat.one_mul]
          exact Nat.pow_le_pow_right (by decide) h
      _ ≤ 2 ^ 53 := by norm_num
  have hfits := fits_mul_ten_pow hfives h
  rwa [Nat.one_mul] at hfits

theorem fits_half : FitsBinary64 (unitsPerOne / 2) := by
  obtain ⟨n, hn, hhalf⟩ : ∃ n ≤ 2044, unitsPerOne / 2 = 1 * Nat.pow 2 n := by
    unfold unitsPerOne
    generalize hone : 1074 = k
    obtain ⟨n, rfl⟩ : ∃ n, k = n + 1 := ⟨k - 1, by omega⟩
    refine ⟨n, by omega, ?_⟩
    rw [Nat.pow_eq, Nat.pow_succ, Nat.one_mul, Nat.pow_eq]
    exact Nat.mul_div_cancel _ Nat.two_pos
  rw [hhalf]
  exact fits_mul_two_pow (by norm_num) hn

theorem half_eq : half = .finite false (unitsPerOne / 2) fits_half :=
  ofUnits_of_fits false fits_half

/-- Adding one half does not leave the range. -/
theorem isFinite_add_half (x : Binary64) : (x.add half).isFinite = x.isFinite := by
  rw [half_eq]
  cases x with
  | nan => rfl
  | infinite negative => rfl
  | finite negative units fits =>
    refine isFinite_ofUnits _ ?_
    have hsum : (signed negative units + signed false (unitsPerOne / 2)).natAbs ≤
        units + unitsPerOne / 2 := by
      cases negative with
      | true =>
        simp only [signed, if_true, Bool.false_eq_true, if_false]
        generalize unitsPerOne / 2 = half
        omega
      | false =>
        simp only [signed, Bool.false_eq_true, if_false]
        generalize unitsPerOne / 2 = half
        omega
    have hsmall : unitsPerOne / 2 < halfPlace := by
      have := unitsPerOne_lt_halfPlace
      omega
    exact lt_of_le_of_lt hsum (add_lt_of_fits fits hsmall)

/-- Rounding down does not leave the range. -/
theorem isFinite_floor (x : Binary64) : x.floor.isFinite = x.isFinite := by
  cases x with
  | nan => rfl
  | infinite negative => rfl
  | finite negative units fits =>
    refine isFinite_ofUnits _ ?_
    have hwhole : units / unitsPerOne * unitsPerOne ≤ units := Nat.div_mul_le_self _ _
    refine lt_of_le_of_lt ?_ (add_lt_of_fits fits unitsPerOne_lt_halfPlace)
    split
    · rw [Nat.add_mul, Nat.one_mul]
      omega
    · omega

theorem isFinite_ofInt (n : Int64) : (ofInt n.toInt).isFinite = true := by
  refine isFinite_ofUnits _ ?_
  have hlow := n.le_toInt
  have hhigh := n.toInt_lt
  have habs : n.toInt.natAbs ≤ 2 ^ 63 := by omega
  have hunits := Nat.mul_le_mul_right unitsPerOne habs
  have hsmall := two_pow_mul_unitsPerOne_le
  have hpos := unitsPerOne_pos
  have hlimit := unitsLimit_eq
  have hbound := overflowBound_add
  omega

/-! ## Powers of ten -/

theorem two_pow_le_unitsPerOne : 2 ^ 52 ≤ unitsPerOne := by
  unfold unitsPerOne
  generalize hone : 1074 = n
  exact Nat.pow_le_pow_right Nat.two_pos (by omega)

/-- A finite number that is at least one. -/
def AtLeastOne (x : Binary64) : Prop :=
  ∃ units fits, x = .finite false units fits ∧ unitsPerOne ≤ units

/-- A division by what is at least one does not leave the range. -/
theorem AtLeastOne.isFinite_div {power : Binary64} (hpower : power.AtLeastOne) (x : Binary64) :
    (x.div power).isFinite = x.isFinite := by
  obtain ⟨count, countFits, rfl, hone⟩ := hpower
  have hpos : 0 < count := lt_of_lt_of_le unitsPerOne_pos hone
  cases x with
  | nan => rfl
  | infinite negative => rfl
  | finite negative units fits =>
    rw [div, if_neg hpos.ne']
    refine isFinite_ofRatio _ hpos ?_
    calc units * unitsPerOne
        ≤ units * count := Nat.mul_le_mul_left units hone
      _ < overflowBound * count := by
        refine Nat.mul_lt_mul_of_pos_right ?_ hpos
        simpa using add_lt_of_fits fits halfPlace_pos

/-- What one rounding may add, as a factor. -/
def slack : ℚ := 1 + 1 / 2 ^ 53

theorem one_le_slack : 1 ≤ slack := by norm_num [slack]

theorem slack_pos : 0 < slack := one_pos.trans_le one_le_slack

/-- The unit in the last place of a ratio of 53 bits or more is one part in 2⁵² at most. -/
theorem mul_lastPlace_le {num den : Nat} (hden : 0 < den) (h : 2 ^ 52 * den ≤ num) :
    den * lastPlace num den * 2 ^ 52 ≤ num := by
  have hquotient : 2 ^ 52 ≤ num / den := (Nat.le_div_iff_mul_le hden).2 h
  have hne : num / den ≠ 0 := by omega
  have hlog : 52 ≤ (num / den).log2 := (Nat.le_log2 hne).2 hquotient
  calc den * lastPlace num den * 2 ^ 52
      = den * 2 ^ (num / den).log2 := by
        rw [lastPlace, Nat.mul_assoc, ← Nat.pow_add, Nat.sub_add_cancel hlog]
    _ ≤ den * (num / den) := Nat.mul_le_mul_left den (Nat.log2_self_le hne)
    _ ≤ num := Nat.mul_div_le num den

/-- A ratio of 53 bits or more is rounded to a count within that factor. -/
theorem nearestCount_mul_le {num den : Nat} (hden : 0 < den) (h : 2 ^ 52 * den ≤ num) :
    (nearestCount num den : ℚ) * den ≤ num * slack := by
  have hround : (2 : ℚ) * (nearestCount num den * den) ≤ 2 * num + den * lastPlace num den := by
    exact_mod_cast two_mul_nearestCount_le num den
  have hlast : (den : ℚ) * lastPlace num den * 2 ^ 52 ≤ num := by
    exact_mod_cast mul_lastPlace_le hden h
  rw [slack]
  linarith

/-- A finite number from one up to a bound. -/
def UpTo (bound : ℚ) (x : Binary64) : Prop :=
  ∃ units fits, x = .finite false units fits ∧ unitsPerOne ≤ units ∧
    (units : ℚ) ≤ bound * unitsPerOne

/-- Ten, with what one rounding may add. -/
def growth : ℚ := 10 * slack

theorem one_le_growth : 1 ≤ growth := by norm_num [growth, slack]

/-- The powers that are counted stay below the bound. -/
theorem growth_pow_mul_lt {n : Nat} (h : n ≤ 308) :
    growth ^ n * unitsPerOne < overflowBound := by
  have hexact : (10 * (2 ^ 53 + 1)) ^ 308 * unitsPerOne < overflowBound * (2 ^ 53) ^ 308 := by
    decide +kernel
  have hgrowth : growth = (10 * (2 ^ 53 + 1) : Nat) / (2 ^ 53 : Nat) := by
    norm_num [growth, slack]
  have hone : (0 : ℚ) < unitsPerOne := Nat.cast_pos.2 unitsPerOne_pos
  generalize 308 = most at h hexact
  have hmost : growth ^ n ≤ growth ^ most := pow_le_pow_right₀ one_le_growth h
  refine lt_of_le_of_lt (mul_le_mul_of_nonneg_right hmost hone.le) ?_
  have hpos : (0 : ℚ) < ((2 ^ 53 : Nat) : ℚ) ^ most := by positivity
  rw [hgrowth, div_pow, div_mul_eq_mul_div, div_lt_iff₀ hpos]
  exact_mod_cast hexact

/-- A product stays in the range as long as the bound does. -/
theorem UpTo.mul {a b : ℚ} {x y : Binary64} (hx : x.UpTo a) (hy : y.UpTo b)
    (h : a * b * unitsPerOne < overflowBound) : (x.mul y).UpTo (a * b * slack) := by
  obtain ⟨m, mfits, rfl, hm, hma⟩ := hx
  obtain ⟨n, nfits, rfl, hn, hnb⟩ := hy
  have hone : (0 : ℚ) < unitsPerOne := Nat.cast_pos.2 unitsPerOne_pos
  have hproduct : ((m * n : Nat) : ℚ) ≤ a * b * unitsPerOne * unitsPerOne :=
    calc ((m * n : Nat) : ℚ)
        = m * n := Nat.cast_mul m n
      _ ≤ (a * unitsPerOne) * (b * unitsPerOne) :=
        mul_le_mul hma hnb (Nat.cast_nonneg n) ((Nat.cast_nonneg m).trans hma)
      _ = a * b * unitsPerOne * unitsPerOne := by ring
  have hlt : m * n < overflowBound * unitsPerOne := by
    have hcast : ((m * n : Nat) : ℚ) < overflowBound * unitsPerOne :=
      lt_of_le_of_lt hproduct (mul_lt_mul_of_pos_right h hone)
    exact_mod_cast hcast
  have hlow : unitsPerOne * unitsPerOne ≤ m * n := Nat.mul_le_mul hm hn
  have hcount := nearestCount_lt unitsPerOne_pos hlt
  have hmul : (finite false m mfits).mul (finite false n nfits) =
      ofRatio false (m * n) unitsPerOne := rfl
  refine ⟨_, _, hmul.trans (ofRatio_of_lt false hcount),
    one_le_nearestCount unitsPerOne_pos hlow, ?_⟩
  have hbits : 2 ^ 52 * unitsPerOne ≤ m * n :=
    (Nat.mul_le_mul_right _ two_pow_le_unitsPerOne).trans hlow
  refine le_of_mul_le_mul_right ?_ hone
  calc (nearestCount (m * n) unitsPerOne : ℚ) * unitsPerOne
      ≤ (m * n : Nat) * slack := nearestCount_mul_le unitsPerOne_pos hbits
    _ ≤ a * b * unitsPerOne * unitsPerOne * slack :=
      mul_le_mul_of_nonneg_right hproduct slack_pos.le
    _ = a * b * slack * unitsPerOne * unitsPerOne := by ring

theorem UpTo.atLeastOne {bound : ℚ} {x : Binary64} (h : x.UpTo bound) : x.AtLeastOne := by
  obtain ⟨units, fits, hx, hone, -⟩ := h
  exact ⟨units, fits, hx, hone⟩

theorem mul_lt_overflowBound {a : ℚ} {n : Nat} (ha : a ≤ growth ^ n) (h : n ≤ 308) :
    a * unitsPerOne < overflowBound :=
  (mul_le_mul_of_nonneg_right ha (Nat.cast_nonneg unitsPerOne)).trans_lt (growth_pow_mul_lt h)

theorem growth_div_slack_le (j : Nat) : growth ^ j / slack ≤ growth ^ j :=
  div_le_self (pow_nonneg (one_pos.trans_le one_le_growth).le j) one_le_slack

/-- The result takes in the base if the exponent is odd. -/
theorem UpTo.step {result base : Binary64} {i j : Nat} (n : Nat)
    (hresult : result.UpTo (growth ^ i)) (hbase : base.UpTo (growth ^ j / slack))
    (h : i + j * (n % 2) ≤ 308) :
    (if n % 2 = 1 then result.mul base else result).UpTo (growth ^ (i + j * (n % 2))) := by
  have hgrowth : 0 ≤ growth ^ i := pow_nonneg (one_pos.trans_le one_le_growth).le i
  by_cases hodd : n % 2 = 1
  · rw [hodd, Nat.mul_one] at h ⊢
    rw [if_pos rfl]
    have hbound : growth ^ i * (growth ^ j / slack) * slack = growth ^ (i + j) := by
      rw [pow_add, mul_assoc, div_mul_cancel₀ _ slack_pos.ne']
    rw [← hbound]
    refine hresult.mul hbase (mul_lt_overflowBound ?_ h)
    rw [pow_add]
    exact mul_le_mul_of_nonneg_left (growth_div_slack_le j) hgrowth
  · have heven : n % 2 = 0 := by omega
    simpa [heven] using hresult

/-- A square of a base carries twice the factors. -/
theorem UpTo.square {base : Binary64} {j : Nat} (hbase : base.UpTo (growth ^ j / slack))
    (h : 2 * j ≤ 308) : (base.mul base).UpTo (growth ^ (2 * j) / slack) := by
  have hdouble : growth ^ (2 * j) = growth ^ j * growth ^ j := by
    rw [two_mul, pow_add]
  have hbound : growth ^ j / slack * (growth ^ j / slack) * slack = growth ^ (2 * j) / slack := by
    have hne : slack ≠ 0 := slack_pos.ne'
    rw [hdouble]
    field_simp
  have hgrowth : 0 ≤ growth ^ j := pow_nonneg (one_pos.trans_le one_le_growth).le j
  rw [← hbound]
  refine hbase.mul hbase (mul_lt_overflowBound ?_ h)
  rw [hdouble]
  exact mul_le_mul (growth_div_slack_le j) (growth_div_slack_le j)
    (div_nonneg hgrowth slack_pos.le) hgrowth

/-- Repeated squaring: the result carries `i` factors of ten and the base `j`, each with what
its rounding may have added. -/
theorem upTo_powerLoop (result base : Binary64) (n : Nat) {i j : Nat}
    (hresult : result.UpTo (growth ^ i)) (hbase : base.UpTo (growth ^ j / slack))
    (h : i + j * n ≤ 308) : (powerLoop result base n).UpTo (growth ^ (i + j * n)) := by
  induction n using Nat.strongRecOn generalizing result base i j with
  | ind n ih =>
    rw [powerLoop]
    by_cases hlast : n / 2 = 0
    · have hparts : i + j * (n % 2) = i + j * n := by
        rw [Nat.mod_eq_of_lt (by omega)]
      have hstep := hresult.step n hbase (by rwa [hparts])
      rw [hparts] at hstep
      simpa only [hlast, if_true] using hstep
    · -- the rest of the exponent counts twice, since the base is squared
      have hparts : i + j * (n % 2) + 2 * j * (n / 2) = i + j * n := by
        have hn : n % 2 + 2 * (n / 2) = n := Nat.mod_add_div n 2
        calc i + j * (n % 2) + 2 * j * (n / 2)
            = i + j * (n % 2 + 2 * (n / 2)) := by ring
          _ = i + j * n := by rw [hn]
      have hsquare : 2 * j ≤ 2 * j * (n / 2) :=
        Nat.le_mul_of_pos_right _ (Nat.pos_of_ne_zero hlast)
      have hnext := ih (n / 2) (by omega) _ _ (hresult.step n hbase (by omega))
        (hbase.square (by omega)) (by omega)
      rw [hparts] at hnext
      simpa only [hlast, if_false] using hnext

theorem upTo_ofUnits {bound : ℚ} {units : Nat} (fits : FitsBinary64 units)
    (hone : unitsPerOne ≤ units) (hbound : (units : ℚ) ≤ bound * unitsPerOne) :
    (ofUnits false units).UpTo bound :=
  ⟨units, fits, ofUnits_of_fits false fits, hone, hbound⟩

theorem upTo_powerOfTen {n : Nat} (h : n ≤ 308) : (powerOfTen n).UpTo (growth ^ n) := by
  have hone : one.UpTo (growth ^ 0) :=
    upTo_ofUnits (by simpa using fits_mul_unitsPerOne (m := 1) (by norm_num)) le_rfl
      (by rw [pow_zero, one_mul])
  have hten : ten.UpTo (growth ^ 1 / slack) := by
    refine upTo_ofUnits (fits_mul_unitsPerOne (m := 10) (by norm_num))
      (Nat.le_mul_of_pos_left _ (by norm_num)) ?_
    rw [pow_one, growth, mul_div_assoc, div_self slack_pos.ne', mul_one, Nat.cast_mul]
    exact le_rfl
  have hloop := upTo_powerLoop one ten n hone hten (by omega)
  rwa [Nat.zero_add, Nat.one_mul] at hloop

/-- The powers of ten that are counted are finite, and at least one. -/
theorem atLeastOne_powerOfTen {n : Nat} (h : n ≤ 308) : (powerOfTen n).AtLeastOne :=
  (upTo_powerOfTen h).atLeastOne

end Formulary.Binary64
