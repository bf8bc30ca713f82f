/-!
# Binary floating point with sixty-four bits

The numbers of IEEE 754 binary64.  The smallest positive one is the *unit*, 2⁻¹⁰⁷⁴,
and every finite number is a whole multiple of it, so a finite number is a sign
and a count of units.  Counts are natural numbers, hence every operation is done
exactly and then rounded once, to the nearest representable count, a tie going to
the even neighbour.  There is one NaN.

Main statement: rounding any ratio gives a count that 53 significant bits can
write (`nearestCount_dvd`), which is what makes `ofRatio` total.
-/

namespace Formulary

/-! ## Counts of units -/

/-- The number of units in one. -/
def unitsPerOne : Nat := Nat.pow 2 1074

/-- The first count too large for a finite number. -/
def unitsLimit : Nat := Nat.pow 2 2098

/-- A count that a finite number can have: below the limit, and a multiple of the
unit in the last place of a 53-bit significand. -/
structure FitsBinary64 (units : Nat) : Prop where
  lt_limit : units < unitsLimit
  dvd_units : Nat.pow 2 (units.log2 - 52) ∣ units

/-- A number of IEEE 754 binary64. -/
inductive Binary64 where
  /-- Not a number. -/
  | nan
  /-- An infinity. -/
  | infinite (negative : Bool)
  /-- A finite number: its sign and its size in units.  Zero has a sign too. -/
  | finite (negative : Bool) (units : Nat) (fits : FitsBinary64 units)
  deriving DecidableEq

namespace Binary64

/-! ## Rounding -/

/-- The whole number nearest to `num / den`; of two equally near, the even one. -/
def roundQuotient (num den : Nat) : Nat :=
  let quotient := num / den
  let twice := 2 * (num % den)
  if twice < den ∨ (twice = den ∧ quotient % 2 = 0) then quotient else quotient + 1

/-- The count nearest to `num / den` among the multiples of the unit in the last
place of a 53-bit significand for that size. -/
def nearestCount (num den : Nat) : Nat :=
  let shift := (num / den).log2 - 52
  roundQuotient num (den * Nat.pow 2 shift) * Nat.pow 2 shift

/-- Rounding is up by one at most. -/
theorem roundQuotient_le (num den : Nat) : roundQuotient num den ≤ num / den + 1 := by
  simp only [roundQuotient]
  split <;> omega

/-- A number of more than 53 bits, without its low bits, has 53. -/
theorem div_two_pow_lt (q : Nat) : q / Nat.pow 2 (q.log2 - 52) < Nat.pow 2 53 := by
  simp only [Nat.pow_eq]
  rw [Nat.div_lt_iff_lt_mul (Nat.two_pow_pos _), ← Nat.pow_add]
  exact Nat.lt_of_lt_of_le Nat.lt_log2_self
    (Nat.pow_le_pow_right (by decide) (by omega))

/-- A significand of at most 53 bits, or 2⁵³ itself, shifted left is a multiple of
the unit in its last place. -/
theorem dvd_mul_two_pow {m : Nat} (h : m ≤ Nat.pow 2 53) (k : Nat) :
    Nat.pow 2 ((m * Nat.pow 2 k).log2 - 52) ∣ m * Nat.pow 2 k := by
  simp only [Nat.pow_eq] at *
  rcases Nat.eq_zero_or_pos m with rfl | pos
  · simp
  rcases Nat.lt_or_eq_of_le h with lt | rfl
  · have nonzero : m * 2 ^ k ≠ 0 := by
      have := Nat.mul_pos pos (Nat.two_pow_pos k)
      omega
    have bound : (m * 2 ^ k).log2 < 53 + k := by
      rw [Nat.log2_lt nonzero, Nat.pow_add]
      exact Nat.mul_lt_mul_of_pos_right lt (Nat.two_pow_pos k)
    exact Nat.dvd_trans (Nat.pow_dvd_pow 2 (by omega)) (Nat.dvd_mul_left _ _)
  · rw [← Nat.pow_add, Nat.log2_two_pow]
    exact Nat.pow_dvd_pow 2 (by omega)

/-- Every rounded count fits 53 significant bits. -/
theorem nearestCount_dvd (num den : Nat) :
    Nat.pow 2 ((nearestCount num den).log2 - 52) ∣ nearestCount num den := by
  unfold nearestCount
  refine dvd_mul_two_pow ?_ _
  have up := roundQuotient_le num (den * Nat.pow 2 ((num / den).log2 - 52))
  have small := div_two_pow_lt (num / den)
  rw [Nat.div_div_eq_div_mul] at small
  omega

/-- The number nearest to `num / den` units, with the given sign; a ratio that rounds
past the greatest finite number is infinite. -/
def ofRatio (negative : Bool) (num den : Nat) : Binary64 :=
  if h : nearestCount num den < unitsLimit then
    .finite negative (nearestCount num den) ⟨h, nearestCount_dvd num den⟩
  else
    .infinite negative

/-- The number with the given sign that is nearest to a whole count of units. -/
def ofUnits (negative : Bool) (units : Nat) : Binary64 :=
  ofRatio negative units 1

/-! ## Signs and classes -/

/-- Zero with the given sign. -/
def zero (negative : Bool) : Binary64 := ofUnits negative 0

/-- One. -/
def one : Binary64 := ofUnits false unitsPerOne

/-- Ten. -/
def ten : Binary64 := ofUnits false (10 * unitsPerOne)

/-- One half. -/
def half : Binary64 := ofUnits false (unitsPerOne / 2)

/-- Neither infinite nor NaN. -/
def isFinite : Binary64 → Bool
  | .finite .. => true
  | _ => false

/-- A zero of either sign. -/
def isZero : Binary64 → Bool
  | .finite _ units _ => units == 0
  | _ => false

/-- The number with its sign changed. -/
def neg : Binary64 → Binary64
  | .nan => .nan
  | .infinite negative => .infinite (!negative)
  | .finite negative units fits => .finite (!negative) units fits

/-- A count of units with a sign, as a whole number. -/
def signed (negative : Bool) (units : Nat) : Int :=
  if negative then -units else units

/-! ## Words of sixty-four bits -/

/-- The number that a word stands for.  Every NaN pattern is the one NaN. -/
def ofBits (word : UInt64) : Binary64 :=
  let bits := word.toNat
  let negative := Nat.pow 2 63 ≤ bits
  let exponent := bits / Nat.pow 2 52 % Nat.pow 2 11
  let fraction := bits % Nat.pow 2 52
  if exponent = 2047 then
    if fraction = 0 then .infinite negative else .nan
  else if exponent = 0 then
    ofUnits negative fraction
  else
    ofUnits negative ((Nat.pow 2 52 + fraction) * Nat.pow 2 (exponent - 1))

/-- The bits of a sign, as a part of a word. -/
def signBits (negative : Bool) : Nat :=
  if negative then Nat.pow 2 63 else 0

/-- The word that stands for a number.  The NaN is written as the quiet NaN without
sign and payload. -/
def toBits : Binary64 → UInt64
  | .nan => UInt64.ofNat (2047 * Nat.pow 2 52 + Nat.pow 2 51)
  | .infinite negative => UInt64.ofNat (signBits negative + 2047 * Nat.pow 2 52)
  | .finite negative units _ =>
    if units < Nat.pow 2 52 then
      UInt64.ofNat (signBits negative + units)
    else
      let shift := units.log2 - 52
      UInt64.ofNat (signBits negative + shift * Nat.pow 2 52 + units / Nat.pow 2 shift)

/-! ## Arithmetic -/

/-- The sum. -/
def add : Binary64 → Binary64 → Binary64
  | .nan, _ => .nan
  | _, .nan => .nan
  | .infinite a, .infinite b => if a = b then .infinite a else .nan
  | .infinite a, .finite .. => .infinite a
  | .finite .., .infinite b => .infinite b
  | .finite a m _, .finite b n _ =>
    let sum := signed a m + signed b n
    ofUnits (if sum = 0 then a && b else decide (sum < 0)) sum.natAbs

/-- The difference. -/
def sub (x y : Binary64) : Binary64 := add x (neg y)

/-- The product. -/
def mul : Binary64 → Binary64 → Binary64
  | .nan, _ => .nan
  | _, .nan => .nan
  | .infinite a, .infinite b => .infinite (a != b)
  | .infinite a, .finite b n _ => if n = 0 then .nan else .infinite (a != b)
  | .finite a m _, .infinite b => if m = 0 then .nan else .infinite (a != b)
  | .finite a m _, .finite b n _ => ofRatio (a != b) (m * n) unitsPerOne

/-- The quotient. -/
def div : Binary64 → Binary64 → Binary64
  | .nan, _ => .nan
  | _, .nan => .nan
  | .infinite _, .infinite _ => .nan
  | .infinite a, .finite b .. => .infinite (a != b)
  | .finite a .., .infinite b => zero (a != b)
  | .finite a m _, .finite b n _ =>
    if n = 0 then
      if m = 0 then .nan else .infinite (a != b)
    else
      ofRatio (a != b) (m * unitsPerOne) n

/-- The greatest whole number not above a number.  The sign of a zero is kept. -/
def floor : Binary64 → Binary64
  | .finite negative units _ =>
    let whole := units / unitsPerOne
    let up := if negative && units % unitsPerOne != 0 then whole + 1 else whole
    ofUnits negative (up * unitsPerOne)
  | x => x

/-- A base raised to a natural power by repeated squaring, each product rounded:
`result` gathers the squares that the binary digits of the exponent ask for. -/
def powerLoop (result base : Binary64) (exponent : Nat) : Binary64 :=
  let result := if exponent % 2 = 1 then mul result base else result
  if exponent / 2 = 0 then result else powerLoop result (mul base base) (exponent / 2)
termination_by exponent

/-- Ten raised to a natural power, by repeated squaring. -/
def powerOfTen (exponent : Nat) : Binary64 :=
  powerLoop one ten exponent

/-! ## Whole numbers -/

/-- The number nearest to a whole number. -/
def ofInt (n : Int) : Binary64 :=
  ofUnits (n < 0) (n.natAbs * unitsPerOne)

/-- The whole part of a finite number, which is the number without its fraction. -/
def truncate? : Binary64 → Option Int
  | .finite negative units _ => some (signed negative (units / unitsPerOne))
  | _ => none

/-! ## Order -/

/-- The order of two numbers; none with a NaN.  The zeros are equal. -/
def compare? : Binary64 → Binary64 → Option Ordering
  | .nan, _ => none
  | _, .nan => none
  | .infinite a, .infinite b => some (if a = b then .eq else if a then .lt else .gt)
  | .infinite a, .finite .. => some (if a then .lt else .gt)
  | .finite .., .infinite b => some (if b then .gt else .lt)
  | .finite a m _, .finite b n _ => some (compare (signed a m) (signed b n))

/-- Equality as numbers: the zeros are equal, and a NaN equals nothing. -/
def equal (x y : Binary64) : Bool :=
  compare? x y == some .eq

/-! ## Decimals -/

/-- The number nearest to `digits · 10 ^ exponent`.  Exponents beyond every finite
number are decided at once, so that no huge power is ever formed: above 400 the
value is infinite, and below -400 less the number of digits it is zero. -/
def ofDecimal (negative : Bool) (digits : Nat) (exponent : Int) : Binary64 :=
  if digits = 0 then
    zero negative
  else if exponent > 400 then
    .infinite negative
  else if exponent + (digits.log2 / 3 + 1 : Nat) < -400 then
    zero negative
  else if 0 ≤ exponent then
    ofUnits negative (digits * Nat.pow 10 exponent.toNat * unitsPerOne)
  else
    ofRatio negative (digits * unitsPerOne) (Nat.pow 10 (-exponent).toNat)

end Binary64

end Formulary
