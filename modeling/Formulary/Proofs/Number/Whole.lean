import Formulary.Proofs.Number.LastPlace

/-!
# Whole numbers among the binary numbers

One half is added to a whole number, and the sum is rounded down.  In exact arithmetic this
changes nothing; here it does not change the even numbers, nor those with room for a half.

* `exactValue?` — the exact value of a finite number;
* `floor_add_half_ofInt` — what one half more, rounded down, is;
* `isMultiple_powerOfTen` — the powers of ten are even whole numbers, rounded or not;
* `powerOfTen_eq` — the first twenty-two of them are exact.
-/

namespace Formulary.Binary64

/-! ## Exact values -/

/-- The exact value of a finite number. -/
def exactValue? : Binary64 → Option ℚ
  | .finite negative units _ => some (signed negative units / unitsPerOne)
  | _ => none

theorem signed_natAbs (n : Int) : signed (n < 0) n.natAbs = n := by
  unfold signed
  split
  · next h =>
    have := of_decide_eq_true h
    omega
  · next h =>
    have : ¬ n < 0 := fun hn => h (decide_eq_true hn)
    omega

theorem signed_mul (negative : Bool) (m k : Nat) :
    signed negative (m * k) = signed negative m * k := by
  unfold signed
  split
  · rw [Int.natCast_mul, Int.neg_mul]
  · rw [Int.natCast_mul]

/-- A whole number that fits is not rounded. -/
theorem ofInt_of_fits {n : Int} (h : FitsBinary64 (n.natAbs * unitsPerOne)) :
    ofInt n = .finite (n < 0) (n.natAbs * unitsPerOne) h :=
  ofUnits_of_fits _ h

theorem exactValue_ofInt {n : Int} (h : n.natAbs ≤ 2 ^ 53) :
    (ofInt n).exactValue? = some (n : ℚ) := by
  have hone : (unitsPerOne : ℚ) ≠ 0 := Nat.cast_ne_zero.2 unitsPerOne_pos.ne'
  rw [ofInt_of_fits (fits_mul_unitsPerOne h), exactValue?, signed_mul, signed_natAbs, Int.cast_mul,
    Int.cast_natCast, mul_div_cancel_right₀ _ hone]

/-! ## One half more -/

theorem two_mul_half : 2 * (unitsPerOne / 2) = unitsPerOne := by
  obtain ⟨k, -, hhalf, hone⟩ := exists_half_eq
  rw [hhalf, hone, Nat.pow_succ, Nat.mul_comm]

theorem half_pos : 0 < unitsPerOne / 2 := by
  have := two_mul_half
  have := unitsPerOne_pos
  omega

/-- The lower of the two whole sizes around one half more than a number. -/
def lowerSize (n : Int) : Nat :=
  if n < 0 then n.natAbs - 1 else n.natAbs

theorem lowerSize_cases (n : Int) :
    n < 0 ∧ lowerSize n + 1 = n.natAbs ∨ 0 ≤ n ∧ lowerSize n = n.natAbs := by
  unfold lowerSize
  split <;> omega

/-- One half more than a whole number. -/
theorem ofInt_add_half {n : Int} (h : FitsBinary64 (n.natAbs * unitsPerOne)) :
    (ofInt n).add half = ofUnits (n < 0) ((2 * lowerSize n + 1) * (unitsPerOne / 2)) := by
  have hpos : (0 : Int) < (unitsPerOne / 2 : Nat) := Int.natCast_pos.2 half_pos
  have hsum : signed (n < 0) (n.natAbs * unitsPerOne) + signed false (unitsPerOne / 2) =
      (2 * n + 1) * (unitsPerOne / 2 : Nat) := by
    have hone : (unitsPerOne : Int) = 2 * (unitsPerOne / 2 : Nat) := by
      exact_mod_cast two_mul_half.symm
    rw [signed_mul, signed_natAbs, hone]
    simp only [signed, Bool.false_eq_true, if_false]
    ring
  have hne : (2 * n + 1) * ((unitsPerOne / 2 : Nat) : Int) ≠ 0 :=
    Int.mul_ne_zero (by omega) hpos.ne'
  have hneg : (2 * n + 1) * ((unitsPerOne / 2 : Nat) : Int) < 0 ↔ n < 0 := by
    constructor
    · intro hlt
      by_contra hn
      exact absurd hlt (Int.not_lt.2 (Int.mul_nonneg (by omega) hpos.le))
    · intro hn
      exact Int.mul_neg_of_neg_of_pos (by omega) hpos
  have habs : ((2 * n + 1) * ((unitsPerOne / 2 : Nat) : Int)).natAbs =
      (2 * lowerSize n + 1) * (unitsPerOne / 2) := by
    have hlower := lowerSize_cases n
    rw [Int.natAbs_mul, Int.natAbs_natCast]
    congr 1
    omega
  rw [ofInt_of_fits h, half_eq, add]
  simp only [hsum, if_neg hne, habs, hneg]

/-- A whole number and one half that fit are cut down to the whole number. -/
theorem floor_half (negative : Bool) {whole : Nat} (h : whole < 2 ^ 52) :
    (ofUnits negative ((2 * whole + 1) * (unitsPerOne / 2))).floor =
      ofUnits negative ((if negative then whole + 1 else whole) * unitsPerOne) := by
  have hfits : FitsBinary64 ((2 * whole + 1) * (unitsPerOne / 2)) := by
    obtain ⟨k, hk, hhalf, -⟩ := exists_half_eq
    rw [hhalf]
    exact fits_mul_two_pow (by omega) hk
  have hparts : (2 * whole + 1) * (unitsPerOne / 2) = unitsPerOne / 2 + whole * unitsPerOne := by
    calc (2 * whole + 1) * (unitsPerOne / 2)
        = unitsPerOne / 2 + whole * (2 * (unitsPerOne / 2)) := by ring
      _ = unitsPerOne / 2 + whole * unitsPerOne := by rw [two_mul_half]
  have hless : unitsPerOne / 2 < unitsPerOne := Nat.div_lt_self unitsPerOne_pos (by decide)
  have hquotient : (2 * whole + 1) * (unitsPerOne / 2) / unitsPerOne = whole := by
    rw [hparts, Nat.add_mul_div_right _ _ unitsPerOne_pos, Nat.div_eq_of_lt hless, Nat.zero_add]
  have hrest : (2 * whole + 1) * (unitsPerOne / 2) % unitsPerOne = unitsPerOne / 2 := by
    rw [hparts, Nat.add_mul_mod_self_right, Nat.mod_eq_of_lt hless]
  have hne : (unitsPerOne / 2 != 0) = true := bne_iff_ne.2 half_pos.ne'
  rw [ofUnits_of_fits negative hfits, floor]
  simp only [hquotient, hrest, hne, Bool.and_true]

/-- A whole number is its own whole part. -/
theorem floor_whole (negative : Bool) {whole : Nat} (h : FitsBinary64 (whole * unitsPerOne)) :
    (ofUnits negative (whole * unitsPerOne)).floor = ofUnits negative (whole * unitsPerOne) := by
  have hquotient : whole * unitsPerOne / unitsPerOne = whole :=
    Nat.mul_div_cancel _ unitsPerOne_pos
  have hrest : whole * unitsPerOne % unitsPerOne = 0 := Nat.mul_mod_left _ _
  rw [ofUnits_of_fits negative h, floor]
  simp only [hquotient, hrest, bne_self_eq_false, Bool.and_false, Bool.false_eq_true, if_false]
  exact ofUnits_of_fits negative h

/-- An odd number beyond 2⁵² that fits has 53 bits. -/
theorem lt_of_odd_fits {size : Nat} (hodd : size % 2 = 1)
    (h : FitsBinary64 (size * unitsPerOne)) : size < 2 ^ 53 := by
  refine lt_of_odd_dvd (i := 0) hodd (Nat.mul_pos (by omega) unitsPerOne_pos) h.dvd_units ?_
  rw [pow_zero, Nat.one_mul]
  exact Nat.dvd_mul_right _ _

/-- A rounded count is the number that the count is rounded to. -/
theorem ofUnits_nearestCount (negative : Bool) (units : Nat) :
    ofUnits negative (nearestCount units 1) = ofUnits negative units := by
  have hcount := nearestCount_of_dvd (nearestCount_dvd units 1)
  simp only [ofUnits, ofRatio, hcount]

/-- **One half more, rounded down.**  A whole number is found again if there is room for the half
or if it is even; from the other numbers the sum is rounded up to the next one. -/
theorem floor_add_half_ofInt {n : Int} (h : FitsBinary64 (n.natAbs * unitsPerOne)) :
    ((ofInt n).add half).floor = ofInt (if n.natAbs ≤ 2 ^ 52 ∨ 2 ∣ n then n else n + 1) := by
  have hlower := lowerSize_cases n
  rw [ofInt_add_half h]
  by_cases hsmall : lowerSize n < 2 ^ 52
  · have habs : (if n < 0 then lowerSize n + 1 else lowerSize n) = n.natAbs := by
      split <;> omega
    have hroom : n.natAbs ≤ 2 ^ 52 := by omega
    rw [floor_half _ hsmall]
    simp only [decide_eq_true_eq, habs]
    rw [if_pos (.inl hroom), ofInt]
  · -- the sum has no room for the half, and goes to the even number next to it
    have hlarge : 2 ^ 52 ≤ lowerSize n := Nat.le_of_not_lt hsmall
    obtain ⟨next, hnext⟩ : ∃ next, next = if n.natAbs ≤ 2 ^ 52 ∨ 2 ∣ n then n else n + 1 :=
      ⟨_, rfl⟩
    have habs : next.natAbs = lowerSize n + lowerSize n % 2 := by
      rw [hnext]
      split <;> omega
    have hsign : next < 0 ↔ n < 0 := by
      rw [hnext]
      split <;> omega
    have hfits : FitsBinary64 ((lowerSize n + lowerSize n % 2) * unitsPerOne) := by
      rcases Nat.mod_two_eq_zero_or_one n.natAbs with heven | hodd
      · have hself : next = n := by
          rw [hnext, if_pos (.inr (by omega))]
        rwa [← habs, hself]
      · have hbits := lt_of_odd_fits hodd h
        exact fits_mul_unitsPerOne (by omega)
    rw [← hnext, ← ofUnits_nearestCount, nearestCount_half hlarge hfits, floor_whole _ hfits, ofInt,
      habs]
    simp only [hsign]

/-! ## Multiples -/

/-- A number that is a multiple of a whole number, if it is finite. -/
def IsMultiple (k : Nat) (x : Binary64) : Prop :=
  ∀ negative units fits, x = .finite negative units fits → k * unitsPerOne ∣ units

variable {x y result base : Binary64}

theorem IsMultiple.of_two (h : x.IsMultiple 2) : x.IsMultiple 1 := by
  intro negative units fits hx
  exact (Nat.mul_dvd_mul_right (Nat.one_dvd 2) _).trans (h negative units fits hx)

/-- An even whole number stays even when it is rounded. -/
theorem two_mul_dvd_nearestCount {whole : Nat} (h : 2 ∣ whole) :
    2 * unitsPerOne ∣ nearestCount (whole * unitsPerOne) 1 := by
  rcases Nat.le_total whole (2 ^ 53) with hsmall | hlarge
  · rw [nearestCount_of_fits (fits_mul_unitsPerOne hsmall)]
    exact Nat.mul_dvd_mul_right h _
  · have hplaces (k : Nat) : 2 ^ (k + 2 + 52) = 2 ^ 53 * 2 ^ (k + 1) := by
      rw [← Nat.pow_add]
      congr 1
      omega
    obtain ⟨k, -, -, hone⟩ := exists_half_eq
    have hcount : 2 ^ (k + 2 + 52) ≤ nearestCount (whole * unitsPerOne) 1 := by
      refine two_pow_le_nearestCount Nat.one_pos ?_
      calc 2 ^ (k + 2 + 52) * 1
          = 2 ^ 53 * unitsPerOne := by rw [Nat.mul_one, hplaces, hone]
        _ ≤ whole * unitsPerOne := Nat.mul_le_mul_right _ hlarge
    have htwo : 2 * unitsPerOne = 2 ^ (k + 2) := by
      rw [hone, ← Nat.pow_succ']
    rw [htwo]
    exact dvd_of_two_pow_le (nearestCount_dvd _ _) hcount

theorem eq_nearestCount_of_ofRatio {negative sign : Bool} {num den units : Nat}
    {fits : FitsBinary64 units} (h : ofRatio negative num den = .finite sign units fits) :
    units = nearestCount num den := by
  unfold ofRatio at h
  split at h
  · cases h
    rfl
  · cases h

/-- A product is finite only if its factors are. -/
theorem finite_of_mul {negative : Bool} {units : Nat} {fits : FitsBinary64 units}
    (h : x.mul y = .finite negative units fits) :
    ∃ a m hm b n hn, x = .finite a m hm ∧ y = .finite b n hn ∧
      units = nearestCount (m * n) unitsPerOne := by
  cases x with
  | nan => cases h
  | infinite a =>
    cases y with
    | nan => cases h
    | infinite b => cases h
    | finite b n hn =>
      rw [mul] at h
      split at h <;> cases h
  | finite a m hm =>
    cases y with
    | nan => cases h
    | infinite b =>
      rw [mul] at h
      split at h <;> cases h
    | finite b n hn =>
      rw [mul] at h
      exact ⟨a, m, hm, b, n, hn, rfl, rfl, eq_nearestCount_of_ofRatio h⟩

/-- The product of a whole number and an even one is even, rounded or not. -/
theorem IsMultiple.mul (hx : x.IsMultiple 1) (hy : y.IsMultiple 2) : (x.mul y).IsMultiple 2 := by
  intro negative units fits heq
  obtain ⟨a, m, hm, b, n, hn, hfirst, hsecond, hunits⟩ := finite_of_mul heq
  obtain ⟨whole, hwhole⟩ := hx a m hm hfirst
  obtain ⟨even, heven⟩ := hy b n hn hsecond
  have hproduct : m * n = 2 * (whole * even) * unitsPerOne * unitsPerOne := by
    rw [hwhole, heven]
    ring
  rw [hunits, hproduct, nearestCount_mul_self _ unitsPerOne_pos]
  exact two_mul_dvd_nearestCount (Nat.dvd_mul_right 2 _)

/-- Repeated squaring of an even number makes an even result. -/
theorem isMultiple_powerLoop (result base : Binary64) {n : Nat} (hresult : result.IsMultiple 1)
    (hbase : base.IsMultiple 2) (hn : 0 < n) : (powerLoop result base n).IsMultiple 2 := by
  induction n using Nat.strongRecOn generalizing result base with
  | ind n ih =>
    rw [powerLoop]
    by_cases hlast : n / 2 = 0
    · have hodd : n % 2 = 1 := by omega
      simpa only [hlast, hodd, if_true] using hresult.mul hbase
    · have hstep : (if n % 2 = 1 then result.mul base else result).IsMultiple 1 := by
        split
        · exact (hresult.mul hbase).of_two
        · exact hresult
      simpa only [hlast, if_false] using
        ih (n / 2) (by omega) _ _ hstep (hbase.of_two.mul hbase) (by omega)

theorem isMultiple_ofUnits {k units : Nat} (fits : FitsBinary64 units)
    (h : k * unitsPerOne ∣ units) : (ofUnits false units).IsMultiple k := by
  intro negative count hcount heq
  rw [ofUnits_of_fits false fits] at heq
  cases heq
  exact h

/-- The powers of ten are even whole numbers. -/
theorem isMultiple_powerOfTen {n : Nat} (hn : 0 < n) : (powerOfTen n).IsMultiple 2 := by
  refine isMultiple_powerLoop one ten ?_ ?_ hn
  · exact isMultiple_ofUnits (by simpa using fits_mul_unitsPerOne (m := 1) (by norm_num))
      (by rw [Nat.one_mul])
  · exact isMultiple_ofUnits (fits_mul_unitsPerOne (m := 10) (by norm_num))
      (Nat.mul_dvd_mul_right (by decide) _)

/-! ## Exact powers of ten -/

/-- Whole numbers are multiplied exactly and rounded once. -/
theorem ofUnits_mul_ofUnits {a b : Nat} (ha : FitsBinary64 (a * unitsPerOne))
    (hb : FitsBinary64 (b * unitsPerOne)) :
    (ofUnits false (a * unitsPerOne)).mul (ofUnits false (b * unitsPerOne)) =
      ofUnits false (a * b * unitsPerOne) := by
  have hproduct : a * unitsPerOne * (b * unitsPerOne) = a * b * unitsPerOne * unitsPerOne := by
    ring
  rw [ofUnits_of_fits false ha, ofUnits_of_fits false hb, mul, hproduct, bne_self_eq_false,
    ofRatio_mul_self _ _ unitsPerOne_pos]

/-- Repeated squaring is exact as long as the powers of ten are. -/
theorem powerLoop_eq (n : Nat) {i j : Nat} (h : i + j * n ≤ 22) :
    powerLoop (ofUnits false (10 ^ i * unitsPerOne)) (ofUnits false (10 ^ j * unitsPerOne)) n =
      ofUnits false (10 ^ (i + j * n) * unitsPerOne) := by
  induction n using Nat.strongRecOn generalizing i j with
  | ind n ih =>
    have hresult : (if n % 2 = 1 then
        (ofUnits false (10 ^ i * unitsPerOne)).mul (ofUnits false (10 ^ j * unitsPerOne)) else
        ofUnits false (10 ^ i * unitsPerOne)) =
        ofUnits false (10 ^ (i + j * (n % 2)) * unitsPerOne) := by
      rcases Nat.mod_two_eq_zero_or_one n with heven | hodd
      · rw [heven, if_neg (by decide), Nat.mul_zero, Nat.add_zero]
      · have hj : j ≤ j * n := Nat.le_mul_of_pos_right _ (by omega)
        rw [hodd, if_pos rfl, ofUnits_mul_ofUnits (fits_ten_pow (by omega))
          (fits_ten_pow (by omega)), ← Nat.pow_add, Nat.mul_one]
    rw [powerLoop]
    simp only [hresult]
    by_cases hlast : n / 2 = 0
    · have hparts : n % 2 = n := Nat.mod_eq_of_lt (by omega)
      rw [if_pos hlast, hparts]
    · have hparts : i + j * (n % 2) + (j + j) * (n / 2) = i + j * n := by
        calc i + j * (n % 2) + (j + j) * (n / 2)
            = i + j * (n % 2 + 2 * (n / 2)) := by ring
          _ = i + j * n := by rw [Nat.mod_add_div]
      have hj : j + j ≤ (j + j) * (n / 2) :=
        Nat.le_mul_of_pos_right _ (Nat.pos_of_ne_zero hlast)
      have hsquare : (ofUnits false (10 ^ j * unitsPerOne)).mul
          (ofUnits false (10 ^ j * unitsPerOne)) =
          ofUnits false (10 ^ (j + j) * unitsPerOne) := by
        rw [ofUnits_mul_ofUnits (fits_ten_pow (by omega)) (fits_ten_pow (by omega)),
          ← Nat.pow_add]
      rw [if_neg hlast, hsquare, ih (n / 2) (by omega) (by omega), hparts]

/-- The first powers of ten are exact. -/
theorem powerOfTen_eq {n : Nat} (h : n ≤ 22) :
    powerOfTen n = ofUnits false (10 ^ n * unitsPerOne) := by
  have hone : one = ofUnits false (10 ^ 0 * unitsPerOne) := by
    rw [one, pow_zero, Nat.one_mul]
  have hten : ten = ofUnits false (10 ^ 1 * unitsPerOne) := by
    rw [ten, pow_one]
  have hplaces : 0 + 1 * n = n := by omega
  rw [powerOfTen, hone, hten, powerLoop_eq n (by omega), hplaces]

end Formulary.Binary64
