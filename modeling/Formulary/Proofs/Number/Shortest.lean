import Formulary.Proofs.Number.Range

/-!
# The shortest decimal of a binary number

The decimal that writes a binary number reads back to it, and its point stands where the
size of the number says.

* `placed_value` — the digits and the exponent of a decimal tell its size;
* `shortest_spec` — the chosen decimal is near the number and reads back;
* `place_shortest_iff` — the place of its point is in the range that is written without an
  exponent exactly for the numbers from `10⁻⁴` up to `10¹⁶`.
-/

namespace Formulary.Decimal

open Binary64 (ofRatio ofUnits)

/-! ## Places -/

/-- The first digit of a number stands right before the given place, counted from the
point. -/
def Placed (place : ℤ) (x : ℚ) : Prop :=
  10 ^ (place - 1) ≤ x ∧ x < 10 ^ place

/-- A power of ten is not above a number exactly if its exponent is below the place. -/
theorem Placed.zpow_le_iff {p : ℤ} {x : ℚ} (h : Placed p x) (k : ℤ) : 10 ^ k ≤ x ↔ k < p := by
  have hten : (1 : ℚ) < 10 := by norm_num
  constructor
  · intro hk
    exact (zpow_lt_zpow_iff_right₀ hten).1 (lt_of_le_of_lt hk h.2)
  · intro hk
    exact le_trans (zpow_le_zpow_right₀ hten.le (by omega)) h.1

theorem Placed.lt_zpow_iff {p : ℤ} {x : ℚ} (h : Placed p x) (k : ℤ) : x < 10 ^ k ↔ p ≤ k := by
  rw [← not_le, h.zpow_le_iff, not_lt]

/-- A number has one place only. -/
theorem Placed.unique {p q : ℤ} {x : ℚ} (hp : Placed p x) (hq : Placed q x) : p = q :=
  le_antisymm ((hp.lt_zpow_iff q).1 hq.2) ((hq.lt_zpow_iff p).1 hp.2)

theorem Placed.mul_zpow {p : ℤ} {x : ℚ} (h : Placed p x) (e : ℤ) :
    Placed (p + e) (x * 10 ^ e) := by
  have hten : (0 : ℚ) < 10 ^ e := zpow_pos (by norm_num) e
  constructor
  · rw [show p + e - 1 = p - 1 + e by ring, zpow_add₀ (by norm_num)]
    exact mul_le_mul_of_nonneg_right h.1 hten.le
  · rw [zpow_add₀ (by norm_num)]
    exact mul_lt_mul_of_pos_right h.2 hten

/-- The place of a ratio is the number of digits of its whole part. -/
theorem placed_div_iff {num den k : Nat} (hden : 0 < den) (hk : 0 < k) :
    Placed k ((num : ℚ) / den) ↔ 10 ^ (k - 1) ≤ num / den ∧ num / den < 10 ^ k := by
  have hdenQ : (0 : ℚ) < den := Nat.cast_pos.2 hden
  have hexp : ((k : ℤ) - 1) = ((k - 1 : Nat) : ℤ) := by omega
  rw [Placed, hexp, zpow_natCast, zpow_natCast, le_div_iff₀ hdenQ, div_lt_iff₀ hdenQ,
    Nat.le_div_iff_mul_le hden, Nat.div_lt_iff_lt_mul hden]
  norm_cast

theorem placed_natCast_iff {n k : Nat} (hk : 0 < k) :
    Placed k (n : ℚ) ↔ 10 ^ (k - 1) ≤ n ∧ n < 10 ^ k := by
  have hdiv : Placed k ((n : ℚ) / (1 : Nat)) ↔ 10 ^ (k - 1) ≤ n / 1 ∧ n / 1 < 10 ^ k :=
    placed_div_iff Nat.one_pos hk
  simpa using hdiv

/-- A number has as many digits as its decimal text. -/
theorem placed_toDigits {n : Nat} (h : n ≠ 0) :
    Placed ((Nat.toDigits 10 n).length : Nat) (n : ℚ) := by
  have hpos : 0 < (Nat.toDigits 10 n).length := List.length_pos_iff.2 Nat.toDigits_ne_nil
  rw [placed_natCast_iff hpos]
  refine ⟨?_, (Nat.length_toDigits_le_iff (by decide) hpos).1 le_rfl⟩
  by_cases hone : (Nat.toDigits 10 n).length = 1
  · rw [hone]
    exact Nat.one_le_iff_ne_zero.2 h
  · by_contra hlt
    have := (Nat.length_toDigits_le_iff (n := n) (b := 10)
      (k := (Nat.toDigits 10 n).length - 1) (by decide) (by omega)).2 (by omega)
    omega

/-- The place of the point of a decimal, counted from its first digit. -/
def place (d : Decimal) : ℤ :=
  d.exponent + (Nat.toDigits 10 d.digits).length

/-- The digits and the exponent of a decimal tell its size. -/
theorem placed_value {d : Decimal} (h : d.digits ≠ 0) : Placed d.place d.value := by
  rw [place, value, add_comm]
  exact (placed_toDigits h).mul_zpow d.exponent

theorem place_eq_of_placed {d : Decimal} {p : ℤ} (hd : d.digits ≠ 0) (h : Placed p d.value) :
    d.place = p :=
  (placed_value hd).unique h

/-- A decimal of middling size is moderate. -/
theorem moderate_of_place {d : Decimal} (hd : d.digits ≠ 0) (hlow : -300 ≤ d.place)
    (hhigh : d.place ≤ 300) : d.Moderate := by
  have hlen : 0 < (Nat.toDigits 10 d.digits).length := List.length_pos_iff.2 Nat.toDigits_ne_nil
  rw [place] at hlow hhigh
  refine ⟨hd, by omega, ?_⟩
  have hdigits := ((placed_natCast_iff hlen).1 (placed_toDigits hd)).1
  exact le_trans (Nat.pow_le_pow_right (by decide) (by omega)) hdigits

/-- Decimals with one value are rounded to the same number. -/
theorem toBinary64_congr {d e : Decimal} (hd : d.digits ≠ 0) (he : e.digits ≠ 0)
    (hv : d.value = e.value) (hlow : -300 ≤ d.place) (hhigh : d.place ≤ 300) {negative : Bool} :
    d.toBinary64 negative = e.toBinary64 negative := by
  have hplace : d.place = e.place := by
    apply place_eq_of_placed hd
    rw [hv]
    exact placed_value he
  have hmd : d.Moderate := moderate_of_place hd hlow hhigh
  have hme : e.Moderate := moderate_of_place he (hplace ▸ hlow) (hplace ▸ hhigh)
  rw [hme.toBinary64]
  apply hmd.toBinary64_eq negative (Nat.pow_pos (by decide))
  rw [hv, value, ten_zpow]
  push_cast
  ring

/-! ## Zeros at the end -/

theorem strip_digits_ne_zero (d : Decimal) (h : d.digits ≠ 0) : d.strip.digits ≠ 0 := by
  fun_induction strip d with
  | case1 d hd ih =>
    apply ih
    dsimp only
    omega
  | case2 d hd => exact h

theorem value_strip (d : Decimal) : d.strip.value = d.value := by
  fun_induction strip d with
  | case1 d hd ih =>
    rw [ih, value, value, zpow_add₀ (by norm_num), zpow_one]
    have hten : ((d.digits / 10 : Nat) : ℚ) * 10 = d.digits := by
      exact_mod_cast Nat.div_mul_cancel (Nat.dvd_of_mod_eq_zero hd.2)
    rw [← hten]
    ring
  | case2 d hd => rfl

theorem place_strip {d : Decimal} (h : d.digits ≠ 0) : d.strip.place = d.place := by
  apply place_eq_of_placed (strip_digits_ne_zero d h)
  rw [value_strip]
  exact placed_value h

/-! ## The place of a count of units -/

/-- The size of a finite number with a count of units. -/
def ofCount (units : Nat) : ℚ :=
  (units : ℚ) / unitsPerOne

theorem unitsPerOne_ne_zero : (unitsPerOne : ℚ) ≠ 0 :=
  Nat.cast_ne_zero.2 (Nat.pos_iff_ne_zero.1 Binary64.unitsPerOne_pos)

theorem ofCount_mul (units : Nat) : ofCount units * unitsPerOne = units :=
  div_mul_cancel₀ _ unitsPerOne_ne_zero

/-- The unit is greater than `10 ^ -400`. -/
theorem unitsPerOne_le : unitsPerOne ≤ Nat.pow 10 400 := by
  decide +kernel

theorem placed_pointPlace {units : Nat} (h : units ≠ 0) :
    Placed (pointPlace units) (ofCount units) := by
  have hquot : units * Nat.pow 10 400 / unitsPerOne ≠ 0 := by
    have hle : unitsPerOne ≤ units * Nat.pow 10 400 :=
      le_trans unitsPerOne_le (Nat.le_mul_of_pos_left _ (Nat.pos_iff_ne_zero.2 h))
    have := Nat.div_pos hle Binary64.unitsPerOne_pos
    omega
  rw [pointPlace, ofCount, show (400 : ℤ) = ((400 : Nat) : ℤ) from rfl]
  generalize 400 = k at hquot ⊢
  set digits := Nat.toDigits 10 (units * Nat.pow 10 k / unitsPerOne) with hdigits
  have hlen : 0 < digits.length := List.length_pos_iff.2 Nat.toDigits_ne_nil
  have hwhole := (placed_natCast_iff hlen).1 (placed_toDigits hquot)
  have hplaced := ((placed_div_iff Binary64.unitsPerOne_pos hlen).2 hwhole).mul_zpow (-k)
  have hx : ((units * Nat.pow 10 k : Nat) : ℚ) / unitsPerOne * 10 ^ (-k : ℤ) =
      units / unitsPerOne := by
    have hten : (10 : ℚ) ^ k ≠ 0 := pow_ne_zero k (by norm_num)
    have hone := unitsPerOne_ne_zero
    rw [zpow_neg, zpow_natCast, Nat.pow_eq]
    push_cast
    field_simp
  rw [hx] at hplaced
  rw [sub_eq_add_neg]
  exact hplaced

/-! ## The chosen decimal -/

/-- What is known of a decimal that was chosen for a count of units: its size is that of the
count, unless it was rounded up to a power of ten. -/
structure Near (units : Nat) (d : Decimal) : Prop where
  digits_ne_zero : d.digits ≠ 0
  place_or : d.place = pointPlace units ∨
    d.place = pointPlace units + 1 ∧ d.value = 10 ^ pointPlace units

theorem placed_ten_zpow (p : ℤ) : Placed (p + 1) (10 ^ p) := by
  constructor
  · rw [add_sub_cancel_right]
  · exact zpow_lt_zpow_right₀ (by norm_num) (by omega)

/-- A decimal whose digits are a given number of digits, or the next power of ten. -/
theorem near_of_digits {units count : Nat} {d : Decimal} (hcount : 0 < count)
    (he : d.exponent = pointPlace units - count) (hlow : 10 ^ (count - 1) ≤ d.digits)
    (hhigh : d.digits ≤ 10 ^ count) : Near units d := by
  have hd : d.digits ≠ 0 := by
    have := Nat.pow_pos (n := count - 1) (show 0 < 10 by decide)
    omega
  refine ⟨hd, ?_⟩
  rcases Nat.lt_or_eq_of_le hhigh with hlt | heq
  · left
    apply place_eq_of_placed hd
    have hplaced := ((placed_natCast_iff hcount).2 ⟨hlow, hlt⟩).mul_zpow d.exponent
    rwa [show (count : ℤ) + d.exponent = pointPlace units by omega] at hplaced
  · right
    have hvalue : d.value = 10 ^ pointPlace units := by
      rw [value, heq, he, Nat.cast_pow, ← zpow_natCast, Nat.cast_ofNat,
        ← zpow_add₀ (by norm_num), add_sub_cancel]
    refine ⟨place_eq_of_placed hd ?_, hvalue⟩
    rw [hvalue]
    exact placed_ten_zpow _

theorem near_withDigits? {tie : TieRule} {units count : Nat} {d : Decimal} (h : units ≠ 0)
    (hcount : 0 < count) (hd : withDigits? tie units count = some d) : Near units d := by
  obtain ⟨e, he⟩ : ∃ e, e = pointPlace units - count := ⟨_, rfl⟩
  simp only [withDigits?, ← he] at hd
  set num := units * Nat.pow 10 (-e).toNat with hnum
  set den := unitsPerOne * Nat.pow 10 e.toNat with hden
  have hdenpos : 0 < den := Nat.mul_pos Binary64.unitsPerOne_pos (Nat.pow_pos (by decide))
  have hratio : (num : ℚ) / den = ofCount units * 10 ^ (-e) := by
    rw [ofCount, ten_zpow, neg_neg, hnum, hden, Nat.pow_eq, Nat.pow_eq, div_mul_div_comm]
    push_cast
    rfl
  have hplaced : Placed count ((num : ℚ) / den) := by
    have hp := (placed_pointPlace h).mul_zpow (-e)
    rwa [← hratio, show pointPlace units + -e = count by omega] at hp
  obtain ⟨hlow, hhigh⟩ := (placed_div_iff hdenpos hcount).1 hplaced
  split at hd
  · obtain rfl := Option.some.inj hd
    exact near_of_digits hcount he hlow hhigh.le
  · split at hd
    · obtain rfl := Option.some.inj hd
      exact near_of_digits hcount he (Nat.le_succ_of_le hlow) hhigh
    · cases hd

/-- A count of units, each the given power of one half, as a decimal. -/
theorem mul_five_pow_mul_zpow (units k : Nat) :
    ((units * Nat.pow 5 k : Nat) : ℚ) * 10 ^ (-(k : ℤ)) = units / (Nat.pow 2 k : Nat) := by
  have hfive : (5 : ℚ) ^ k ≠ 0 := pow_ne_zero k (by norm_num)
  have htwo : (2 : ℚ) ^ k ≠ 0 := pow_ne_zero k (by norm_num)
  rw [zpow_neg, zpow_natCast, show (10 : ℚ) = 5 * 2 by norm_num, mul_pow, Nat.pow_eq, Nat.pow_eq]
  push_cast
  field_simp

theorem value_exact (units : Nat) : (exact units).value = ofCount units := by
  unfold exact value ofCount unitsPerOne
  dsimp only
  rw [show (-1074 : ℤ) = -((1074 : Nat) : ℤ) from rfl]
  generalize 1074 = k
  exact mul_five_pow_mul_zpow units k

theorem digits_exact_ne_zero {units : Nat} (h : units ≠ 0) : (exact units).digits ≠ 0 := by
  unfold exact
  dsimp only
  generalize 1074 = k
  exact Nat.mul_ne_zero h (Nat.pos_iff_ne_zero.1 (Nat.pow_pos (by decide)))

theorem near_exact {units : Nat} (h : units ≠ 0) : Near units (exact units) := by
  refine ⟨digits_exact_ne_zero h, .inl (place_eq_of_placed (digits_exact_ne_zero h) ?_)⟩
  rw [value_exact]
  exact placed_pointPlace h

theorem Near.strip {units : Nat} {d : Decimal} (h : Near units d) : Near units d.strip := by
  refine ⟨strip_digits_ne_zero d h.digits_ne_zero, ?_⟩
  rw [place_strip h.digits_ne_zero, value_strip]
  exact h.place_or

/-- A decimal of middling size reads back to a count of units. -/
def ReadsBack (units : Nat) (d : Decimal) : Prop :=
  -300 ≤ d.place → d.place ≤ 300 → d.toBinary64 false = ofUnits false units

theorem readsBack_exact {units : Nat} (h : units ≠ 0) : ReadsBack units (exact units) := by
  intro hlow hhigh
  have hmoderate := moderate_of_place (digits_exact_ne_zero h) hlow hhigh
  apply hmoderate.toBinary64_eq false Nat.one_pos
  rw [value_exact, ofCount_mul, Nat.cast_one, div_one]

/-- Zeros at the end of the digits make no difference. -/
theorem ReadsBack.strip {units : Nat} {d : Decimal} (hd : d.digits ≠ 0) (h : ReadsBack units d) :
    ReadsBack units d.strip := by
  intro hlow hhigh
  rw [toBinary64_congr (strip_digits_ne_zero d hd) hd (value_strip d) hlow hhigh]
  rw [place_strip hd] at hlow hhigh
  exact h hlow hhigh

/-- The chosen decimal has the size of the count and reads back to it. -/
theorem shortest_spec (tie : TieRule) {units : Nat} (h : units ≠ 0) :
    Near units (shortest tie units) ∧ ReadsBack units (shortest tie units) := by
  rw [shortest]
  cases hfound : (List.range 17).findSome? fun i => withDigits? tie units (i + 1) with
  | none =>
    rw [Option.getD_none]
    exact ⟨(near_exact h).strip, (readsBack_exact h).strip (digits_exact_ne_zero h)⟩
  | some d =>
    rw [Option.getD_some]
    obtain ⟨i, -, hd⟩ := List.exists_of_findSome?_eq_some hfound
    have hnear := near_withDigits? h (Nat.succ_pos i) hd
    have hback : ReadsBack units d := by
      intro _ _
      exact beq_iff_eq.1 (readsBack_withDigits? hd)
    exact ⟨hnear.strip, hback.strip hnear.digits_ne_zero⟩

/-! ## The range without an exponent -/

/-- The number nearest to `10⁻⁴` is not below it. -/
theorem le_nearestCount : unitsPerOne ≤ Binary64.nearestCount unitsPerOne (10 ^ 4) * 10 ^ 4 := by
  decide +kernel

theorem nearestCount_of_readsBack {units num den : Nat} {d : Decimal} (h : d.Moderate)
    (hfits : FitsBinary64 units) (hden : 0 < den) (hv : d.value * unitsPerOne = num / den)
    (hback : d.toBinary64 false = ofUnits false units) :
    Binary64.nearestCount num den = units := by
  rw [h.toBinary64_eq false hden hv, Binary64.ofUnits_of_fits false hfits, ofRatio] at hback
  split at hback
  · injection hback
  · cases hback

/-- The place of the point of the chosen decimal is in the range that is written without an
exponent exactly for the numbers from `10⁻⁴` up to `10¹⁶`. -/
theorem place_shortest_iff (tie : TieRule) {units : Nat} (h : units ≠ 0)
    (hfits : FitsBinary64 units) :
    (-3 ≤ (shortest tie units).place ∧ (shortest tie units).place ≤ 16) ↔
      1 / 10 ^ 4 ≤ ofCount units ∧ ofCount units < 10 ^ 16 := by
  obtain ⟨⟨hd, hplace⟩, hback⟩ := shortest_spec tie h
  generalize shortest tie units = d at *
  have hP := placed_pointPlace h
  have hsmall : (1 / 10 ^ 4 : ℚ) ≤ ofCount units ↔ -4 < pointPlace units := by
    rw [← hP.zpow_le_iff]
    norm_num
  have hlarge : ofCount units < 10 ^ 16 ↔ pointPlace units ≤ 16 := by
    rw [← hP.lt_zpow_iff]
    norm_num
  rcases hplace with hp | ⟨hp, hvalue⟩
  · rw [hsmall, hlarge, hp]
    omega
  -- the digits were rounded up to a power of ten, so the size decides at both ends
  constructor
  · rintro ⟨hlow, hhigh⟩
    refine ⟨?_, hlarge.2 (by omega)⟩
    by_cases hP4 : pointPlace units = -4
    · have hv : d.value * unitsPerOne = (unitsPerOne : Nat) / ((10 ^ 4 : Nat) : ℚ) := by
        rw [hvalue, hP4]
        generalize (unitsPerOne : ℚ) = one
        norm_num
        ring
      have hcount := nearestCount_of_readsBack (moderate_of_place hd (by omega) (by omega)) hfits
        (by decide) hv (hback (by omega) (by omega))
      have hle := le_nearestCount
      rw [hcount] at hle
      have hone : (0 : ℚ) < unitsPerOne := Nat.cast_pos.2 Binary64.unitsPerOne_pos
      rw [ofCount, div_le_div_iff₀ (by norm_num) hone, one_mul]
      exact_mod_cast hle
    · exact hsmall.2 (by omega)
  · rintro ⟨hlow, hhigh⟩
    have hlow := hsmall.1 hlow
    have hle := hlarge.1 hhigh
    refine ⟨by omega, ?_⟩
    by_contra hlt
    have hP16 : pointPlace units = 16 := by omega
    have hv : d.value * unitsPerOne = (10 ^ 16 * unitsPerOne : Nat) / ((1 : Nat) : ℚ) := by
      rw [hvalue, hP16, Nat.cast_mul]
      generalize (unitsPerOne : ℚ) = one
      norm_num
    have hcount := nearestCount_of_readsBack (moderate_of_place hd (by omega) (by omega)) hfits
      Nat.one_pos hv (hback (by omega) (by omega))
    rw [Binary64.nearestCount_of_fits (Binary64.fits_ten_pow (by norm_num))] at hcount
    have hx : ofCount units = 10 ^ 16 := by
      rw [ofCount, ← hcount, div_eq_iff unitsPerOne_ne_zero]
      push_cast
      rfl
    exact absurd hhigh (by rw [hx]; exact lt_irrefl _)

end Formulary.Decimal
