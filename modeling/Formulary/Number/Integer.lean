/-!
# Sixty-four bit integers

Whole numbers are signed words of sixty-four bits.  Arithmetic on them is done
exactly and then checked: a result outside the range is no result, so nothing
ever wraps.
-/

namespace Formulary.Integer

/-- The least integer. -/
def least : Int := -9223372036854775808

/-- The greatest integer. -/
def greatest : Int := 9223372036854775807

/-- An exact whole number as an integer, if it lies in the range. -/
def ofInt? (n : Int) : Option Int64 :=
  if least ≤ n ∧ n ≤ greatest then some (Int64.ofInt n) else none

/-- The exact sum, if it lies in the range. -/
def add? (a b : Int64) : Option Int64 := ofInt? (a.toInt + b.toInt)

/-- The exact difference, if it lies in the range. -/
def sub? (a b : Int64) : Option Int64 := ofInt? (a.toInt - b.toInt)

/-- The exact product, if it lies in the range. -/
def mul? (a b : Int64) : Option Int64 := ofInt? (a.toInt * b.toInt)

/-- The exact opposite, if it lies in the range. -/
def neg? (a : Int64) : Option Int64 := ofInt? (-a.toInt)

/-- The decimal text of an integer. -/
def text (n : Int64) : String := toString n.toInt

/-- An integer that is in the range is found unchanged. -/
theorem toInt_ofInt? {n : Int} {i : Int64} (h : ofInt? n = some i) : i.toInt = n := by
  unfold ofInt? least greatest at h
  split at h
  · next range =>
    obtain rfl := Option.some.inj h
    exact Int64.toInt_ofInt_of_le (by omega) (by omega)
  · contradiction

/-- A whole number is an integer exactly when it lies in the range. -/
theorem ofInt?_isSome_iff (n : Int) : (ofInt? n).isSome ↔ least ≤ n ∧ n ≤ greatest := by
  unfold ofInt?
  split <;> simp_all

/-- Every integer is found again from its exact value. -/
theorem ofInt?_toInt (i : Int64) : ofInt? i.toInt = some i := by
  have low := i.le_toInt
  have high := i.toInt_lt
  unfold ofInt? least greatest
  rw [if_pos (by omega), Int64.ofInt_toInt]

end Formulary.Integer
