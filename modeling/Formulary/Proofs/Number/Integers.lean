import Formulary.Proofs.Number.Range
import Mathlib.Data.Nat.Log

/-!
# Integers among the binary numbers

An integer of sixty-four bits has a nearest binary number, which is the integer itself up to 2⁵³.
Beyond, some neighbours share it, but none changes places with another.

* `nearestCount_mono` — rounding keeps the order of counts;
* `compare?_ofInt` — the nearest numbers of two integers are ordered as their signed counts;
* `compare?_ofInt_of_distinct` — and as the integers, unless two integers have the same one;
* `distinct_of_natAbs_lt`, `distinct_of_far` — which happens neither below 2⁵³ nor to integers more
  than 1024 apart.
-/

namespace Formulary.Binary64

/-! ## Rounding keeps the order -/

theorem roundQuotient_mono {m n : Nat} (den : Nat) (h : m ≤ n) :
    roundQuotient m den ≤ roundQuotient n den := by
  have hquotient : m / den ≤ n / den := Nat.div_le_div_right h
  rcases Nat.lt_or_eq_of_le hquotient with hlt | heq
  · calc roundQuotient m den
        ≤ m / den + 1 := roundQuotient_le m den
      _ ≤ n / den := hlt
      _ ≤ roundQuotient n den := le_roundQuotient n den
  · -- with equal quotients the remainders are in order
    have hm := Nat.div_add_mod m den
    have hn := Nat.div_add_mod n den
    have hrest : m % den ≤ n % den := by
      rw [heq] at hm
      omega
    simp only [roundQuotient, heq]
    split
    · split <;> omega
    · split
      · omega
      · exact Nat.le_refl _

theorem le_two_mul_roundQuotient {den : Nat} (hden : 0 < den) (num : Nat) :
    2 * num ≤ 2 * (roundQuotient num den * den) + den := by
  have hparts : num / den * den + num % den = num := Nat.div_add_mod' num den
  have hrest : num % den < den := Nat.mod_lt num hden
  simp only [roundQuotient]
  split
  · omega
  · rw [Nat.add_mul]
    omega

/-- Rounding moves a ratio by half a unit in the last place at most. -/
theorem le_two_mul_nearestCount {den : Nat} (hden : 0 < den) (num : Nat) :
    2 * num ≤ 2 * (nearestCount num den * den) + den * lastPlace num den := by
  have hplace : 0 < den * lastPlace num den := Nat.mul_pos hden (Nat.two_pow_pos _)
  have hround := le_two_mul_roundQuotient hplace num
  rwa [nearestCount_eq, Nat.mul_assoc, Nat.mul_comm (lastPlace num den)]

/-- The last place of a whole number below 2⁶³ is at most 1024. -/
theorem lastPlace_le_of_lt {n : Nat} (h : n < 2 ^ 63) :
    lastPlace (n * unitsPerOne) 1 ≤ 1024 * unitsPerOne := by
  unfold lastPlace unitsPerOne
  rw [Nat.div_one]
  generalize 1074 = k
  rw [Nat.pow_eq]
  have hbound : n * 2 ^ k < 2 ^ (63 + k) := by
    rw [Nat.pow_add]
    exact Nat.mul_lt_mul_of_pos_right h (Nat.two_pow_pos k)
  have hlog : (n * 2 ^ k).log2 ≤ 62 + k := by
    by_cases hzero : n * 2 ^ k = 0
    · simp [hzero]
    · have := (Nat.log2_lt hzero).2 hbound
      omega
  calc 2 ^ ((n * 2 ^ k).log2 - 52)
      ≤ 2 ^ (10 + k) := Nat.pow_le_pow_right Nat.two_pos (by omega)
    _ = 1024 * 2 ^ k := Nat.pow_add 2 10 k

/-- A ratio is rounded at most to the power of two above it. -/
theorem nearestCount_le_two_pow (num den : Nat) :
    nearestCount num den ≤ 2 ^ 53 * lastPlace num den := by
  rw [nearestCount_eq]
  refine Nat.mul_le_mul_right _ ?_
  have hup := roundQuotient_le num (den * lastPlace num den)
  have hsmall : num / den / lastPlace num den < 2 ^ 53 := div_two_pow_lt (num / den)
  rw [Nat.div_div_eq_div_mul] at hsmall
  omega

/-- A larger count is not rounded to a smaller one. -/
theorem nearestCount_mono {m n den : Nat} (hden : 0 < den) (h : m ≤ n) :
    nearestCount m den ≤ nearestCount n den := by
  have hquotient : m / den ≤ n / den := Nat.div_le_div_right h
  have hlog : (m / den).log2 ≤ (n / den).log2 := by
    rw [Nat.log2_eq_log_two, Nat.log2_eq_log_two]
    exact Nat.log_mono_right hquotient
  by_cases hplace : (m / den).log2 - 52 = (n / den).log2 - 52
  · have hlast : lastPlace m den = lastPlace n den := by
      rw [lastPlace, lastPlace, hplace]
    rw [nearestCount_eq, nearestCount_eq, hlast]
    exact Nat.mul_le_mul_right _ (roundQuotient_mono _ h)
  · -- there is a power of two between them
    have hne : n / den ≠ 0 := by
      intro hzero
      have hm : m / den = 0 := Nat.le_zero.1 (hzero ▸ hquotient)
      exact hplace (by rw [hm, hzero])
    have hbelow : 2 ^ (n / den).log2 * den ≤ n :=
      (Nat.le_div_iff_mul_le hden).1 (Nat.log2_self_le hne)
    calc nearestCount m den
        ≤ 2 ^ 53 * lastPlace m den := nearestCount_le_two_pow m den
      _ = 2 ^ (53 + ((m / den).log2 - 52)) := (Nat.pow_add 2 53 _).symm
      _ ≤ 2 ^ (n / den).log2 := Nat.pow_le_pow_right Nat.two_pos (by omega)
      _ ≤ nearestCount n den := two_pow_le_nearestCount hden hbelow

/-! ## Integers -/

/-- The signed count that a whole number is rounded to. -/
def wholeCount (n : Int) : Int :=
  signed (n < 0) (nearestCount (n.natAbs * unitsPerOne) 1)

/-- The nearest number of an integer is finite. -/
theorem ofInt_eq (n : Int64) : ∃ fits,
    ofInt n.toInt = .finite (n.toInt < 0) (nearestCount (n.toInt.natAbs * unitsPerOne) 1) fits := by
  have hfinite := isFinite_ofInt n
  unfold ofInt ofUnits ofRatio at hfinite ⊢
  split
  · next hlimit => exact ⟨⟨hlimit, nearestCount_dvd _ _⟩, rfl⟩
  · next hlimit =>
    rw [dif_neg hlimit] at hfinite
    cases hfinite

theorem compare?_ofInt (m n : Int64) :
    compare? (ofInt m.toInt) (ofInt n.toInt) =
      some (compare (wholeCount m.toInt) (wholeCount n.toInt)) := by
  obtain ⟨hm, hmfits⟩ := ofInt_eq m
  obtain ⟨hn, hnfits⟩ := ofInt_eq n
  rw [hmfits, hnfits]
  rfl

theorem wholeCount_of_nonneg {n : Int} (h : 0 ≤ n) :
    wholeCount n = nearestCount (n.natAbs * unitsPerOne) 1 := by
  have hsign : ¬ n < 0 := by omega
  simp [wholeCount, signed, hsign]

theorem wholeCount_of_neg {n : Int} (h : n < 0) :
    wholeCount n = -(nearestCount (n.natAbs * unitsPerOne) 1 : Int) := by
  simp [wholeCount, signed, h]

/-- Rounding keeps the sign. -/
theorem wholeCount_neg_iff (n : Int) : wholeCount n < 0 ↔ n < 0 := by
  by_cases hn : n < 0
  · have hone : unitsPerOne * 1 ≤ n.natAbs * unitsPerOne := by
      rw [Nat.mul_comm]
      exact Nat.mul_le_mul_right _ (by omega)
    have hcount := one_le_nearestCount Nat.one_pos hone
    have hpos := unitsPerOne_pos
    rw [wholeCount_of_neg hn]
    omega
  · rw [wholeCount_of_nonneg (by omega)]
    omega

/-- A larger whole number is not rounded to a smaller one. -/
theorem wholeCount_mono {m n : Int} (h : m ≤ n) : wholeCount m ≤ wholeCount n := by
  have hcount {a b : Int} (hab : a.natAbs ≤ b.natAbs) :
      nearestCount (a.natAbs * unitsPerOne) 1 ≤ nearestCount (b.natAbs * unitsPerOne) 1 :=
    nearestCount_mono Nat.one_pos (Nat.mul_le_mul_right _ hab)
  by_cases hm : m < 0
  · rw [wholeCount_of_neg hm]
    by_cases hn : n < 0
    · rw [wholeCount_of_neg hn]
      exact Int.neg_le_neg (Int.ofNat_le.2 (hcount (by omega)))
    · rw [wholeCount_of_nonneg (by omega)]
      exact Int.le_trans (Int.neg_nonpos_of_nonneg (Int.natCast_nonneg _)) (Int.natCast_nonneg _)
  · rw [wholeCount_of_nonneg (by omega), wholeCount_of_nonneg (by omega)]
    exact Int.ofNat_le.2 (hcount (by omega))

/-- A whole number of at most 53 bits is rounded to itself. -/
theorem wholeCount_of_natAbs_le {n : Int} (h : n.natAbs ≤ 2 ^ 53) :
    wholeCount n = n * unitsPerOne := by
  have hcount : nearestCount (n.natAbs * unitsPerOne) 1 = n.natAbs * unitsPerOne :=
    nearestCount_of_fits (fits_mul_unitsPerOne h)
  by_cases hn : n < 0
  · have habs : (n.natAbs : Int) = -n := by omega
    rw [wholeCount_of_neg hn, hcount, Int.natCast_mul, habs, Int.neg_mul, Int.neg_neg]
  · have habs : (n.natAbs : Int) = n := by omega
    rw [wholeCount_of_nonneg (by omega), hcount, Int.natCast_mul, habs]

/-- A whole number of 63 bits is rounded by half its last place at most. -/
theorem nearestCount_near {n : Nat} (h : n ≤ 2 ^ 63) :
    2 * nearestCount (n * unitsPerOne) 1 ≤ 2 * (n * unitsPerOne) + 1024 * unitsPerOne ∧
      2 * (n * unitsPerOne) ≤ 2 * nearestCount (n * unitsPerOne) 1 + 1024 * unitsPerOne := by
  rcases Nat.lt_or_eq_of_le h with hlt | rfl
  · have hplace : lastPlace (n * unitsPerOne) 1 ≤ 1024 * unitsPerOne := lastPlace_le_of_lt hlt
    have hup := two_mul_nearestCount_le (n * unitsPerOne) 1
    have hdown := le_two_mul_nearestCount Nat.one_pos (n * unitsPerOne)
    omega
  · have hfits : FitsBinary64 (2 ^ 63 * unitsPerOne) := by
      unfold unitsPerOne
      generalize hone : 1074 = k
      have hsplit : 2 ^ 63 * Nat.pow 2 k = 2 ^ 53 * Nat.pow 2 (10 + k) := by
        have hplaces : 2 ^ 63 = 2 ^ 53 * 2 ^ 10 := rfl
        rw [Nat.pow_eq, Nat.pow_eq, Nat.pow_add 2 10, ← Nat.mul_assoc, hplaces]
      rw [hsplit]
      exact fits_mul_two_pow (Nat.le_refl _) (by omega)
    rw [nearestCount_of_fits hfits]
    omega

/-- The nearest number of an integer is at most 512 away from it. -/
theorem wholeCount_near (n : Int64) :
    2 * wholeCount n.toInt ≤ 2 * (n.toInt * unitsPerOne) + 1024 * unitsPerOne ∧
      2 * (n.toInt * unitsPerOne) ≤ 2 * wholeCount n.toInt + 1024 * unitsPerOne := by
  have hlow := n.le_toInt
  have hhigh := n.toInt_lt
  have hnear := nearestCount_near (show n.toInt.natAbs ≤ 2 ^ 63 by omega)
  have hcast : ((n.toInt.natAbs * unitsPerOne : Nat) : Int) = n.toInt.natAbs * unitsPerOne :=
    Int.natCast_mul _ _
  by_cases hn : n.toInt < 0
  · have habs : (n.toInt.natAbs : Int) = -n.toInt := by omega
    rw [habs, Int.neg_mul] at hcast
    rw [wholeCount_of_neg hn]
    omega
  · have habs : (n.toInt.natAbs : Int) = n.toInt := by omega
    rw [habs] at hcast
    rw [wholeCount_of_nonneg (by omega)]
    omega

/-! ## Integers that share their nearest number -/

/-- Two integers are one, or their nearest binary numbers differ. -/
def Distinct (m n : Int64) : Prop :=
  ofInt m.toInt = ofInt n.toInt → m = n

theorem Distinct.symm {m n : Int64} (h : Distinct m n) : Distinct n m :=
  fun hsame => (h hsame.symm).symm

/-- Two integers have the same nearest number if they are rounded to the same count. -/
theorem ofInt_eq_ofInt_iff (m n : Int64) :
    ofInt m.toInt = ofInt n.toInt ↔ wholeCount m.toInt = wholeCount n.toInt := by
  constructor
  · intro h
    have horder := compare?_ofInt m n
    rw [h, compare?_ofInt, Int.compare_eq_eq.2 rfl] at horder
    exact Int.compare_eq_eq.1 (Option.some.inj horder).symm
  · intro h
    have hsign : m.toInt < 0 ↔ n.toInt < 0 := by
      rw [← wholeCount_neg_iff, h, wholeCount_neg_iff]
    obtain ⟨_, hm⟩ := ofInt_eq m
    obtain ⟨_, hn⟩ := ofInt_eq n
    rw [hm, hn, finite.injEq, decide_eq_decide]
    refine ⟨hsign, ?_⟩
    by_cases hneg : n.toInt < 0
    · rw [wholeCount_of_neg (hsign.2 hneg), wholeCount_of_neg hneg] at h
      omega
    · have hmneg : ¬ m.toInt < 0 := fun hm => hneg (hsign.1 hm)
      rw [wholeCount_of_nonneg (by omega), wholeCount_of_nonneg (by omega)] at h
      omega

/-- Nearest numbers of their own are in the order of the integers. -/
theorem compare?_ofInt_of_distinct {m n : Int64} (h : Distinct m n) :
    compare? (ofInt m.toInt) (ofInt n.toInt) = some (compare m.toInt n.toInt) := by
  rw [compare?_ofInt]
  have hne : m ≠ n → wholeCount m.toInt ≠ wholeCount n.toInt := fun hmn hcount =>
    hmn (h ((ofInt_eq_ofInt_iff m n).2 hcount))
  congr 1
  rcases Int.lt_trichotomy m.toInt n.toInt with hlt | heq | hgt
  · have hcount := wholeCount_mono (Int.le_of_lt hlt)
    have := hne (by rintro rfl; omega)
    rw [Int.compare_eq_lt.2 hlt, Int.compare_eq_lt.2 (by omega)]
  · rw [heq]
    simp
  · have hcount := wholeCount_mono (Int.le_of_lt hgt)
    have := hne (by rintro rfl; omega)
    rw [Int.compare_eq_gt.2 hgt, Int.compare_eq_gt.2 (by omega)]

/-- An integer below 2⁵³ does not share its nearest number. -/
theorem distinct_of_natAbs_lt {m : Int64} (hm : m.toInt.natAbs < 2 ^ 53) (n : Int64) :
    Distinct m n := by
  intro hequal
  rw [ofInt_eq_ofInt_iff, wholeCount_of_natAbs_le (by omega)] at hequal
  have hone := unitsPerOne_pos
  -- the whole numbers next to it are rounded to themselves too
  have hafter : wholeCount (m.toInt + 1) = (m.toInt + 1) * unitsPerOne :=
    wholeCount_of_natAbs_le (by omega)
  have hbefore : wholeCount (m.toInt - 1) = (m.toInt - 1) * unitsPerOne :=
    wholeCount_of_natAbs_le (by omega)
  rcases Int.lt_trichotomy m.toInt n.toInt with hlt | heq | hgt
  · have hnext := wholeCount_mono (Int.add_one_le_of_lt hlt)
    rw [hafter, ← hequal, Int.add_mul] at hnext
    omega
  · exact Int64.toInt_inj.1 heq
  · have hnext := wholeCount_mono (Int.le_sub_one_of_lt hgt)
    rw [hbefore, ← hequal, Int.sub_mul] at hnext
    omega

/-- Integers further apart than the last place of 63 bits do not share their nearest number. -/
theorem distinct_of_far {m n : Int64} (h : 1024 < (m.toInt - n.toInt).natAbs) : Distinct m n := by
  intro hequal
  rw [ofInt_eq_ofInt_iff] at hequal
  obtain ⟨hmlow, hmhigh⟩ := wholeCount_near m
  obtain ⟨hnlow, hnhigh⟩ := wholeCount_near n
  have hone := unitsPerOne_pos
  exfalso
  rcases Int.lt_or_le n.toInt m.toInt with hlt | hle
  · have hfar : (n.toInt + 1025) * unitsPerOne ≤ m.toInt * unitsPerOne :=
      Int.mul_le_mul_of_nonneg_right (by omega) (by omega)
    rw [Int.add_mul] at hfar
    omega
  · have hfar : (m.toInt + 1025) * unitsPerOne ≤ n.toInt * unitsPerOne :=
      Int.mul_le_mul_of_nonneg_right (by omega) (by omega)
    rw [Int.add_mul] at hfar
    omega

end Formulary.Binary64
