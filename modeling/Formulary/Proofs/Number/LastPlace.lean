import Formulary.Proofs.Number.Integers
import Mathlib.Data.Nat.Prime.Basic

/-!
# Half a unit in the last place

A ratio is rounded to a count as soon as it lies closer to it than half the unit in its last
place.  What comes of a product that is rounded, and then divided by one of its factors and
rounded again, depends on how far the first rounding moved the product.

* `nearestCount_eq_of_near` — a ratio is rounded to the count that it is near;
* `nearestCount_half` — the number between two whole numbers is rounded to the even one;
* `ne_halfway` — a number divided by a factor is never halfway between two numbers;
* `quotient_eq_iff` — the other factor comes back exactly if the product moved by no more than
  half the unit in its last place;
* `quotient_near` — and in any case no more than that unit away.
-/

namespace Formulary.Binary64

/-! ## Near a whole number -/

/-- A ratio closer than one half to a whole number is rounded to it. -/
theorem roundQuotient_eq_of_near {num den q : Nat} (hlow : 2 * (q * den) < 2 * num + den)
    (hhigh : 2 * num < 2 * (q * den) + den) : roundQuotient num den = q := by
  have hparts : num / den * den + num % den = num := Nat.div_add_mod' num den
  rcases Nat.lt_or_ge num (q * den) with hbelow | habove
  · -- the quotient is one less, and the remainder more than one half
    obtain ⟨p, rfl⟩ : ∃ p, q = p + 1 := by
      refine ⟨q - 1, (Nat.sub_add_cancel (Nat.pos_of_ne_zero ?_)).symm⟩
      rintro rfl
      omega
    rw [Nat.add_mul, Nat.one_mul] at hlow hhigh hbelow
    have hquotient : num / den = p :=
      Nat.div_eq_of_lt_le (by omega) (by rw [Nat.add_mul, Nat.one_mul]; omega)
    rw [hquotient] at hparts
    simp only [roundQuotient, hquotient]
    rw [if_neg (by omega)]
  · have hquotient : num / den = q :=
      Nat.div_eq_of_lt_le habove (by rw [Nat.add_mul, Nat.one_mul]; omega)
    rw [hquotient] at hparts
    simp only [roundQuotient, hquotient]
    rw [if_pos (.inl (by omega))]

/-- A ratio halfway between two whole numbers is rounded to the even one. -/
theorem roundQuotient_half {den : Nat} (hden : 0 < den) (q : Nat) :
    roundQuotient ((2 * q + 1) * den) (2 * den) = q + q % 2 := by
  have hnum : (2 * q + 1) * den = den + q * (2 * den) := by ring
  have hquotient : (2 * q + 1) * den / (2 * den) = q := by
    rw [hnum, Nat.add_mul_div_right _ _ (by omega), Nat.div_eq_of_lt (by omega), Nat.zero_add]
  have hrest : (2 * q + 1) * den % (2 * den) = den := by
    rw [hnum, Nat.add_mul_mod_self_right, Nat.mod_eq_of_lt (by omega)]
  simp only [roundQuotient, hquotient, hrest, Nat.lt_irrefl, false_or, true_and]
  rcases Nat.mod_two_eq_zero_or_one q with heven | hodd
  · rw [if_pos heven, heven, Nat.add_zero]
  · rw [if_neg (by omega), hodd]

/-! ## Near a count -/

theorem lastPlace_eq {num den k : Nat} (hden : 0 < den) (hlow : 2 ^ k * den ≤ num)
    (hhigh : num < 2 ^ (k + 1) * den) : lastPlace num den = 2 ^ (k - 52) := by
  have hquotient : 2 ^ k ≤ num / den := (Nat.le_div_iff_mul_le hden).2 hlow
  have hne : num / den ≠ 0 := (lt_of_lt_of_le (Nat.two_pow_pos k) hquotient).ne'
  have hlog : (num / den).log2 = k :=
    (Nat.log2_eq_iff hne).2 ⟨hquotient, (Nat.div_lt_iff_lt_mul hden).2 hhigh⟩
  rw [lastPlace, hlog]

/-- A ratio closer to a count than half the unit in its last place is rounded to it. -/
theorem nearestCount_eq_of_near {num den units place : Nat} (hplace : lastPlace num den = place)
    (hdvd : place ∣ units) (hlow : 2 * (units * den) < 2 * num + den * place)
    (hhigh : 2 * num < 2 * (units * den) + den * place) : nearestCount num den = units := by
  obtain ⟨q, rfl⟩ := hdvd
  have hmul : place * q * den = q * (den * place) := by ring
  rw [hmul] at hlow hhigh
  rw [nearestCount_eq, hplace, roundQuotient_eq_of_near hlow hhigh, Nat.mul_comm]

/-- A count that 53 bits can write is a multiple of every unit that its size has room for. -/
theorem dvd_of_two_pow_le {units k : Nat} (h : Nat.pow 2 (units.log2 - 52) ∣ units)
    (hk : 2 ^ (k + 52) ≤ units) : 2 ^ k ∣ units := by
  have hne : units ≠ 0 := (lt_of_lt_of_le (Nat.two_pow_pos _) hk).ne'
  have hlog : k + 52 ≤ units.log2 := (Nat.le_log2 hne).2 hk
  exact (Nat.pow_dvd_pow 2 (by omega)).trans h

/-- Rounding a count of 53 bits or more moves it by one part in 2⁵³ at most. -/
theorem nearestCount_relative {num : Nat} (h : 2 ^ 52 ≤ num) :
    2 ^ 53 * nearestCount num 1 ≤ 2 ^ 53 * num + num ∧
      2 ^ 53 * num ≤ 2 ^ 53 * nearestCount num 1 + num := by
  have hplace : 1 * lastPlace num 1 * 2 ^ 52 ≤ num :=
    mul_lastPlace_le Nat.one_pos (by rwa [Nat.mul_one])
  have hup := two_mul_nearestCount_le num 1
  have hdown := le_two_mul_nearestCount Nat.one_pos num
  omega

/-! ## Halves -/

/-- The even one of the whole numbers around a half is one half away from it, at any scale. -/
theorem even_near_half (whole k : Nat) :
    (whole + whole % 2) * 2 ^ (k + 1) ≤ (2 * whole + 1) * 2 ^ k + 2 ^ k ∧
      (2 * whole + 1) * 2 ^ k ≤ (whole + whole % 2) * 2 ^ (k + 1) + 2 ^ k := by
  have heven : (whole + whole % 2) * 2 ^ (k + 1) = 2 * (whole + whole % 2) * 2 ^ k := by ring
  rw [heven, ← Nat.succ_mul, ← Nat.succ_mul]
  exact ⟨Nat.mul_le_mul_right _ (by omega), Nat.mul_le_mul_right _ (by omega)⟩

/-- The number between two whole numbers of more than 52 bits, at any scale, is rounded to the
even one of them. -/
theorem nearestCount_halfway {whole k : Nat} (hwhole : 2 ^ 52 ≤ whole)
    (hfits : Nat.pow 2 (((whole + whole % 2) * 2 ^ (k + 1)).log2 - 52) ∣
      (whole + whole % 2) * 2 ^ (k + 1)) :
    nearestCount ((2 * whole + 1) * 2 ^ k) 1 = (whole + whole % 2) * 2 ^ (k + 1) := by
  have hne : 2 * whole + 1 ≠ 0 := by omega
  obtain ⟨s, hs⟩ : ∃ s, s = (2 * whole + 1).log2 := ⟨_, rfl⟩
  have hbits : 53 ≤ s := by
    rw [hs, Nat.le_log2 hne]
    omega
  have hbelow : 2 ^ s ≤ 2 * whole + 1 := by
    rw [hs]
    exact Nat.log2_self_le hne
  have habove : 2 * whole + 1 < 2 ^ (s + 1) := by
    rw [hs]
    exact Nat.lt_log2_self
  have hplace : lastPlace ((2 * whole + 1) * 2 ^ k) 1 = 2 ^ (s + k - 52) := by
    refine lastPlace_eq Nat.one_pos ?_ ?_
    · rw [Nat.mul_one, Nat.pow_add]
      exact Nat.mul_le_mul_right _ hbelow
    · rw [Nat.mul_one, Nat.add_right_comm, Nat.pow_add 2 (s + 1)]
      exact Nat.mul_lt_mul_of_pos_right habove (Nat.two_pow_pos k)
  rcases Nat.eq_or_lt_of_le hbits with rfl | hmore
  · -- the unit in the last place is one, and the number is halfway
    have hlast : 53 + k - 52 = k + 1 := by omega
    rw [nearestCount_eq, hplace, hlast, Nat.one_mul, Nat.pow_succ',
      roundQuotient_half (Nat.two_pow_pos k)]
  · -- the unit in the last place is two or more, so only the even one is a number at all
    obtain ⟨t, rfl⟩ : ∃ t, s = t + 1 := ⟨s - 1, by omega⟩
    rw [Nat.pow_succ] at hbelow
    have hlarge : 2 ^ (t + 1 + k - 52 + 52) ≤ (whole + whole % 2) * 2 ^ (k + 1) :=
      calc 2 ^ (t + 1 + k - 52 + 52)
          = 2 ^ t * 2 ^ (k + 1) := by
            rw [← Nat.pow_add]
            congr 1
            omega
        _ ≤ (whole + whole % 2) * 2 ^ (k + 1) := Nat.mul_le_mul_right _ (by omega)
    have hroom : 4 * 2 ^ k ≤ 2 ^ (t + 1 + k - 52) :=
      calc 4 * 2 ^ k = 2 ^ (2 + k) := (Nat.pow_add 2 2 k).symm
        _ ≤ 2 ^ (t + 1 + k - 52) := Nat.pow_le_pow_right Nat.two_pos (by omega)
    have hpos := Nat.two_pow_pos k
    obtain ⟨hafter, hbefore⟩ := even_near_half whole k
    refine nearestCount_eq_of_near hplace (dvd_of_two_pow_le hfits hlarge) ?_ ?_
    · rw [Nat.mul_one, Nat.one_mul]
      omega
    · rw [Nat.mul_one, Nat.one_mul]
      omega

/-- One half and one, as powers of two. -/
theorem exists_half_eq : ∃ k ≤ 2044, unitsPerOne / 2 = 2 ^ k ∧ unitsPerOne = 2 ^ (k + 1) := by
  unfold unitsPerOne
  generalize hone : 1074 = n
  obtain ⟨k, rfl⟩ : ∃ k, n = k + 1 := ⟨n - 1, by omega⟩
  refine ⟨k, by omega, ?_, rfl⟩
  rw [Nat.pow_eq, Nat.pow_succ]
  exact Nat.mul_div_cancel _ Nat.two_pos

/-- One half more than a whole number of more than 52 bits is rounded to an even one. -/
theorem nearestCount_half {whole : Nat} (hwhole : 2 ^ 52 ≤ whole)
    (hfits : FitsBinary64 ((whole + whole % 2) * unitsPerOne)) :
    nearestCount ((2 * whole + 1) * (unitsPerOne / 2)) 1 = (whole + whole % 2) * unitsPerOne := by
  obtain ⟨k, -, hhalf, hone⟩ := exists_half_eq
  have hdvd := hfits.dvd_units
  rw [hone] at hdvd
  rw [hhalf, hone]
  exact nearestCount_halfway hwhole hdvd

/-! ## Halfway between two numbers -/

/-- An odd divisor of a count that 53 bits can write is below 2⁵³: powers of two in the count do
not matter to it. -/
theorem lt_of_odd_dvd {odd units i : Nat} (hodd : odd % 2 = 1) (hunits : 0 < units)
    (hfits : Nat.pow 2 (units.log2 - 52) ∣ units) (hdvd : odd ∣ 2 ^ i * units) :
    odd < 2 ^ 53 := by
  obtain ⟨significand, hsplit⟩ := hfits
  have hpos : 0 < significand := by
    rcases Nat.eq_zero_or_pos significand with hzero | hpos
    · rw [hzero, Nat.mul_zero] at hsplit
      omega
    · exact hpos
  have hbits : significand < 2 ^ 53 := by
    have hdiv := div_two_pow_lt units
    have hplace : 0 < Nat.pow 2 (units.log2 - 52) := Nat.two_pow_pos _
    rwa [Nat.div_eq_of_eq_mul_right hplace hsplit] at hdiv
  have hcoprime (j : Nat) : odd.Coprime (2 ^ j) :=
    Nat.Coprime.pow_right j (Nat.coprime_two_right.2 (Nat.odd_iff.2 hodd))
  rw [hsplit] at hdvd
  have hsignificand : odd ∣ significand :=
    (hcoprime _).dvd_of_dvd_mul_left ((hcoprime i).dvd_of_dvd_mul_left hdvd)
  exact lt_of_le_of_lt (Nat.le_of_dvd hpos hsignificand) hbits

/-- A number divided by any factor is not halfway between a whole number of 53 bits and one of
its neighbours: what lies halfway has 54 bits, and they would all be bits of the number. -/
theorem ne_halfway {size units : Nat} (hsize : size < 2 ^ 53) (hbits : 2 ^ size.log2 < size)
    (hunits : 0 < units) (hfits : Nat.pow 2 (units.log2 - 52) ∣ units) (power : Nat) :
    2 ^ 53 * units ≠ 2 ^ 53 * (size * power) + 2 ^ size.log2 * power ∧
      2 ^ 53 * units + 2 ^ size.log2 * power ≠ 2 ^ 53 * (size * power) := by
  generalize he : size.log2 = e at hbits
  have hlog : e < 53 := by
    rw [← he, Nat.log2_lt (Nat.ne_zero_of_lt hbits)]
    exact hsize
  have hsplit : 2 ^ 53 = 2 ^ e * 2 ^ (53 - e) := by
    rw [← Nat.pow_add]
    congr 1
    omega
  obtain ⟨half, hhalf⟩ : ∃ half, 2 ^ (53 - e) = 2 * half :=
    ⟨2 ^ (52 - e), by rw [← Nat.pow_succ']; congr 1; omega⟩
  have hlarge : 2 ^ 53 + 2 * half ≤ 2 * (half * size) :=
    calc 2 ^ 53 + 2 * half
        = (2 ^ e + 1) * (2 * half) := by rw [hsplit, hhalf]; ring
      _ ≤ size * (2 * half) := Nat.mul_le_mul_right _ hbits
      _ = 2 * (half * size) := by ring
  have hpos : 0 < half := by
    have := Nat.two_pow_pos (53 - e)
    omega
  constructor
  · intro heq
    have hdvd : 2 * (half * size) + 1 ∣ 2 ^ 53 * units := by
      refine ⟨2 ^ e * power, heq.trans ?_⟩
      rw [hsplit, hhalf]
      ring
    have := lt_of_odd_dvd (by omega) hunits hfits hdvd
    omega
  · intro heq
    obtain ⟨below, hbelow⟩ : ∃ below, 2 * (half * size) = below + 1 :=
      ⟨2 * (half * size) - 1, by omega⟩
    have hdvd : below ∣ 2 ^ 53 * units := by
      refine ⟨2 ^ e * power, Nat.add_right_cancel (m := 2 ^ e * power) (heq.trans ?_)⟩
      rw [hsplit, hhalf]
      calc 2 ^ e * (2 * half) * (size * power)
          = 2 ^ e * power * (2 * (half * size)) := by ring
        _ = below * (2 ^ e * power) + 2 ^ e * power := by rw [hbelow]; ring
    have := lt_of_odd_dvd (by omega) hunits hfits hdvd
    omega

/-! ## A product divided by its factor -/

/-- The unit in the last place of one. -/
def lastPlaceOfOne : Nat := Nat.pow 2 1022

theorem exists_lastPlaceOfOne_eq : ∃ k, lastPlaceOfOne = 2 ^ k ∧ unitsPerOne = 2 ^ (52 + k) := by
  unfold unitsPerOne lastPlaceOfOne
  have hsum : 1074 = 52 + 1022 := rfl
  rw [hsum]
  generalize 1022 = k
  exact ⟨k, rfl, rfl⟩

theorem unitsPerOne_eq : unitsPerOne = 2 ^ 52 * lastPlaceOfOne := by
  obtain ⟨k, hlast, hone⟩ := exists_lastPlaceOfOne_eq
  rw [hone, hlast, Nat.pow_add]

theorem lastPlaceOfOne_pos : 0 < lastPlaceOfOne := by
  obtain ⟨k, hlast, -⟩ := exists_lastPlaceOfOne_eq
  rw [hlast]
  exact Nat.two_pow_pos k

/-- Twice the count of a whole number, in units in the last place of one. -/
theorem two_mul_mul_unitsPerOne (whole : Nat) :
    2 * (whole * unitsPerOne) = 2 ^ 53 * whole * lastPlaceOfOne := by
  rw [unitsPerOne_eq]
  ring

theorem nearestCount_zero (den : Nat) : nearestCount 0 den = 0 := by
  simp [nearestCount, roundQuotient, eq_comm]

/-- A power of two shifts a number. -/
theorem nearestCount_two_pow_mul (e : Nat) {power : Nat}
    (hpower : Nat.pow 2 (power.log2 - 52) ∣ power) :
    nearestCount (2 ^ e * power) 1 = 2 ^ e * power := by
  refine nearestCount_of_dvd ?_
  rcases Nat.eq_zero_or_pos power with rfl | hpos
  · simp
  · have hlog : (2 ^ e * power).log2 = e + power.log2 := by
      rw [Nat.log2_eq_iff (Nat.mul_pos (Nat.two_pow_pos e) hpos).ne', Nat.pow_add, Nat.add_assoc,
        Nat.pow_add 2 e]
      exact ⟨Nat.mul_le_mul_left _ (Nat.log2_self_le hpos.ne'),
        Nat.mul_lt_mul_of_pos_left Nat.lt_log2_self (Nat.two_pow_pos e)⟩
    calc Nat.pow 2 ((2 ^ e * power).log2 - 52)
        ∣ 2 ^ (e + (power.log2 - 52)) := Nat.pow_dvd_pow 2 (by omega)
      _ = 2 ^ e * Nat.pow 2 (power.log2 - 52) := Nat.pow_add 2 e _
      _ ∣ 2 ^ e * power := Nat.mul_dvd_mul_left _ hpower

section Product

variable {size power : Nat} (hsize : 0 < size) (hbits : size ≤ 2 ^ 53)

include hsize hbits

/-- The whole number is a multiple of the unit in its last place. -/
theorem lastPlace_dvd : 2 ^ size.log2 * lastPlaceOfOne ∣ size * unitsPerOne := by
  rw [unitsPerOne_eq, ← Nat.mul_assoc]
  refine Nat.mul_dvd_mul_right ?_ _
  rcases Nat.eq_or_lt_of_le hbits with rfl | hlt
  · rw [Nat.log2_two_pow]
    exact Nat.dvd_mul_right _ _
  · have hlog : size.log2 < 53 := (Nat.log2_lt hsize.ne').2 hlt
    exact (Nat.pow_dvd_pow 2 (by omega)).trans (Nat.dvd_mul_left _ _)

variable (hpower : 2 ^ 52 ≤ power) (hfits : Nat.pow 2 (power.log2 - 52) ∣ power)

include hpower hfits

/-- A rounded product stays between the powers of two around the whole number. -/
theorem product_bounds : 2 ^ size.log2 * power ≤ nearestCount (size * power) 1 ∧
    nearestCount (size * power) 1 < 2 ^ (size.log2 + 1) * power := by
  have hbelow : 2 ^ size.log2 ≤ size := Nat.log2_self_le hsize.ne'
  have habove : size < 2 ^ (size.log2 + 1) := Nat.lt_log2_self
  constructor
  · rw [← nearestCount_two_pow_mul size.log2 hfits]
    exact nearestCount_mono Nat.one_pos (Nat.mul_le_mul_right _ hbelow)
  · have hlarge : 2 ^ 52 ≤ size * power := hpower.trans (Nat.le_mul_of_pos_left power hsize)
    have hmoved := (nearestCount_relative hlarge).1
    have hroom : (2 ^ 53 + 1) * size < 2 ^ 53 * 2 ^ (size.log2 + 1) := by
      rcases Nat.eq_or_lt_of_le hbits with rfl | hlt
      · rw [Nat.log2_two_pow]
        norm_num
      · omega
    have hscaled : (2 ^ 53 + 1) * size * power < 2 ^ 53 * 2 ^ (size.log2 + 1) * power :=
      Nat.mul_lt_mul_of_pos_right hroom (by omega)
    refine Nat.lt_of_mul_lt_mul_left (a := 2 ^ 53) (lt_of_le_of_lt hmoved ?_)
    calc 2 ^ 53 * (size * power) + size * power
        = (2 ^ 53 + 1) * size * power := by ring
      _ < 2 ^ 53 * 2 ^ (size.log2 + 1) * power := hscaled
      _ = 2 ^ 53 * (2 ^ (size.log2 + 1) * power) := Nat.mul_assoc _ _ _

/-- The quotient has the same unit in the last place. -/
theorem lastPlace_quotient :
    lastPlace (nearestCount (size * power) 1 * unitsPerOne) power =
      2 ^ size.log2 * lastPlaceOfOne := by
  obtain ⟨hlow, hhigh⟩ := product_bounds hsize hbits hpower hfits
  obtain ⟨k, hlast, hone⟩ := exists_lastPlaceOfOne_eq
  have hpos : 0 < power := lt_of_lt_of_le (Nat.two_pow_pos 52) hpower
  have hplace : size.log2 + (52 + k) - 52 = size.log2 + k := by
    rw [Nat.add_left_comm, Nat.add_sub_cancel_left]
  rw [hone, hlast, lastPlace_eq (k := size.log2 + (52 + k)) hpos, hplace, Nat.pow_add]
  · calc 2 ^ (size.log2 + (52 + k)) * power
        = 2 ^ size.log2 * power * 2 ^ (52 + k) := by rw [Nat.pow_add]; ring
      _ ≤ nearestCount (size * power) 1 * 2 ^ (52 + k) := Nat.mul_le_mul_right _ hlow
  · calc nearestCount (size * power) 1 * 2 ^ (52 + k)
        < 2 ^ (size.log2 + 1) * power * 2 ^ (52 + k) :=
          Nat.mul_lt_mul_of_pos_right hhigh (Nat.two_pow_pos _)
      _ = 2 ^ (size.log2 + (52 + k) + 1) * power := by rw [Nat.pow_add, Nat.pow_add]; ring

/-- What the product moved is never just half the unit in the last place: a power of two is
multiplied exactly, and other numbers are not halfway. -/
theorem product_strict
    (hup : 2 ^ 53 * nearestCount (size * power) 1 ≤
      2 ^ 53 * (size * power) + 2 ^ size.log2 * power)
    (hdown : 2 ^ 53 * (size * power) ≤
      2 ^ 53 * nearestCount (size * power) 1 + 2 ^ size.log2 * power) :
    2 ^ 53 * nearestCount (size * power) 1 < 2 ^ 53 * (size * power) + 2 ^ size.log2 * power ∧
      2 ^ 53 * (size * power) <
        2 ^ 53 * nearestCount (size * power) 1 + 2 ^ size.log2 * power := by
  have hroom : 0 < 2 ^ size.log2 * power := Nat.mul_pos (Nat.two_pow_pos _) (by omega)
  rcases Nat.eq_or_lt_of_le (Nat.log2_self_le hsize.ne') with htwo | hbelow
  · have hexact : nearestCount (size * power) 1 = size * power := by
      rw [← htwo]
      exact nearestCount_two_pow_mul _ hfits
    rw [hexact]
    omega
  · have hlt : size < 2 ^ 53 := by
      rcases Nat.eq_or_lt_of_le hbits with rfl | hlt
      · rw [Nat.log2_two_pow] at hbelow
        omega
      · exact hlt
    have hunits : 0 < nearestCount (size * power) 1 :=
      lt_of_lt_of_le hroom (product_bounds hsize hbits hpower hfits).1
    obtain ⟨habove, hunder⟩ := ne_halfway hlt hbelow hunits (nearestCount_dvd _ _) power
    exact ⟨lt_of_le_of_ne hup habove, lt_of_le_of_ne hdown hunder.symm⟩

omit hsize in
/-- **A whole number comes back from its rounded product**, divided by the factor and rounded
again, exactly if the product moved by no more than half the unit in the last place of the
whole number times the factor. -/
theorem quotient_eq_iff :
    nearestCount (nearestCount (size * power) 1 * unitsPerOne) power = size * unitsPerOne ↔
      2 ^ 53 * nearestCount (size * power) 1 ≤ 2 ^ 53 * (size * power) + 2 ^ size.log2 * power ∧
        2 ^ 53 * (size * power) ≤
          2 ^ 53 * nearestCount (size * power) 1 + 2 ^ size.log2 * power := by
  rcases Nat.eq_zero_or_pos size with rfl | hsize
  · simp [nearestCount_zero]
  have hplace := lastPlace_quotient hsize hbits hpower hfits
  have hlast := lastPlaceOfOne_pos
  have hpos : 0 < power := by omega
  have hstrict := product_strict hsize hbits hpower hfits
  generalize nearestCount (size * power) 1 = product at *
  -- the three sizes compared, in units in the last place of one
  have hquotient := two_mul_mul_unitsPerOne product
  have hwhole : 2 * (size * unitsPerOne * power) = 2 ^ 53 * (size * power) * lastPlaceOfOne := by
    rw [Nat.mul_right_comm, two_mul_mul_unitsPerOne]
  have hunit : power * (2 ^ size.log2 * lastPlaceOfOne) =
      2 ^ size.log2 * power * lastPlaceOfOne := by ring
  constructor
  · intro heq
    have hup := two_mul_nearestCount_le (product * unitsPerOne) power
    have hdown := le_two_mul_nearestCount hpos (product * unitsPerOne)
    rw [heq, hplace, hwhole, hquotient, hunit, ← Nat.add_mul] at hup hdown
    exact ⟨Nat.le_of_mul_le_mul_right hdown hlast, Nat.le_of_mul_le_mul_right hup hlast⟩
  · rintro ⟨hup, hdown⟩
    obtain ⟨hbelow, habove⟩ := hstrict hup hdown
    refine nearestCount_eq_of_near hplace (lastPlace_dvd hsize hbits) ?_ ?_
    · rw [hwhole, hquotient, hunit, ← Nat.add_mul]
      exact Nat.mul_lt_mul_of_pos_right habove hlast
    · rw [hwhole, hquotient, hunit, ← Nat.add_mul]
      exact Nat.mul_lt_mul_of_pos_right hbelow hlast

omit hsize in
/-- In any case the quotient is no more than one unit in the last place away. -/
theorem quotient_near :
    nearestCount (nearestCount (size * power) 1 * unitsPerOne) power ≤
        size * unitsPerOne + 2 ^ size.log2 * lastPlaceOfOne ∧
      size * unitsPerOne ≤
        nearestCount (nearestCount (size * power) 1 * unitsPerOne) power +
          2 ^ size.log2 * lastPlaceOfOne := by
  rcases Nat.eq_zero_or_pos size with rfl | hsize
  · simp [nearestCount_zero]
  have hplace := lastPlace_quotient hsize hbits hpower hfits
  obtain ⟨whole, hwhole⟩ := lastPlace_dvd hsize hbits
  have hlarge : 2 ^ 52 ≤ size * power := hpower.trans (Nat.le_mul_of_pos_left power hsize)
  obtain ⟨hmore, hless⟩ := nearestCount_relative hlarge
  have hpos : 0 < power := by omega
  generalize nearestCount (size * power) 1 = product at *
  have hup := two_mul_nearestCount_le (product * unitsPerOne) power
  have hdown := le_two_mul_nearestCount hpos (product * unitsPerOne)
  have hcount := nearestCount_eq (product * unitsPerOne) power
  rw [hplace] at hup hdown hcount
  generalize roundQuotient (product * unitsPerOne) (power * (2 ^ size.log2 * lastPlaceOfOne)) =
    count at hcount
  rw [hcount] at hup hdown ⊢
  -- everything in units of the last place, times the factor
  generalize hunit : 2 ^ size.log2 * lastPlaceOfOne = unit at *
  have hexact : 2 * (whole * (unit * power)) = 2 ^ 53 * (size * power) * lastPlaceOfOne := by
    calc 2 * (whole * (unit * power))
        = 2 * (unit * whole * power) := by ring
      _ = 2 * (size * power * unitsPerOne) := by rw [← hwhole, Nat.mul_right_comm]
      _ = 2 ^ 53 * (size * power) * lastPlaceOfOne := two_mul_mul_unitsPerOne _
  have hquotient := two_mul_mul_unitsPerOne product
  have hmoved : size * power * lastPlaceOfOne < 2 * (unit * power) :=
    calc size * power * lastPlaceOfOne
        = size * (power * lastPlaceOfOne) := Nat.mul_assoc _ _ _
      _ < 2 ^ (size.log2 + 1) * (power * lastPlaceOfOne) :=
        Nat.mul_lt_mul_of_pos_right Nat.lt_log2_self (Nat.mul_pos hpos lastPlaceOfOne_pos)
      _ = 2 * (unit * power) := by
        rw [← hunit, Nat.pow_succ]
        ring
  have hmoreUnits := Nat.mul_le_mul_right lastPlaceOfOne hmore
  have hlessUnits := Nat.mul_le_mul_right lastPlaceOfOne hless
  rw [Nat.add_mul] at hmoreUnits hlessUnits
  have hcounted : count * unit * power = count * (unit * power) := Nat.mul_assoc _ _ _
  have hswap : power * unit = unit * power := Nat.mul_comm _ _
  have habove : count * (unit * power) < (whole + 2) * (unit * power) := by
    rw [Nat.add_mul]
    omega
  have hunder : whole * (unit * power) < (count + 2) * (unit * power) := by
    rw [Nat.add_mul]
    omega
  have hcountLe : count ≤ whole + 1 := Nat.le_of_lt_succ (Nat.lt_of_mul_lt_mul_right habove)
  have hwholeLe : whole ≤ count + 1 := Nat.le_of_lt_succ (Nat.lt_of_mul_lt_mul_right hunder)
  rw [hwhole, Nat.mul_comm unit whole]
  constructor
  · calc count * unit
        ≤ (whole + 1) * unit := Nat.mul_le_mul_right unit hcountLe
      _ = whole * unit + unit := Nat.succ_mul whole unit
  · calc whole * unit
        ≤ (count + 1) * unit := Nat.mul_le_mul_right unit hwholeLe
      _ = count * unit + unit := Nat.succ_mul count unit

end Product

end Formulary.Binary64
