import Formulary.Program.Operators

/-!
# Operators, null and integers

What the operators make of null: arithmetic passes it on, order is never found, and equality
finds it only between two nulls.  And what arithmetic makes of integers.

* `calculate_of_null` — arithmetic, which without a number has no other result
  (`eq_null_of_calculate`);
* `apply_of_null` — a test that meets null is false, unless it compares two nulls or asks for
  a difference;
* `apply_of_integers` — sums, differences and products of integers are exact, and checked.
-/

namespace Formulary

namespace Value

theorem eq_null_of_isNull {v : Value} (h : v.isNull = true) : v = .null := by
  cases v with
  | null => rfl
  | _ => cases h

/-- A comparison with null is a test for null. -/
theorem equals_null (v : Value) : v.equals .null = v.isNull := by
  cases v with
  | null => rfl
  | _ => rfl

theorem expectNumber_of_none {v : Value} (h : v.number? = none) (op : String) :
    v.expectNumber op = .error (.notNumeric op v.kind) := by
  rw [expectNumber, h]

/-- What is no number has no opposite, unless it is null. -/
theorem eq_null_of_opposite {v w : Value} (hv : v.number? = none) (h : v.opposite = .ok w) :
    w = .null := by
  unfold opposite at h
  split at h
  · exact (Except.ok.inj h).symm
  · rw [expectNumber_of_none hv] at h
    cases h

theorem null_equals (v : Value) : Value.null.equals v = v.isNull := by
  cases v with
  | null => rfl
  | _ => rfl

end Value

namespace BinaryOp

variable {op : BinaryOp} {a b : Value}

theorem isLogical_of_arithmetic (h : op.isArithmetic = true) : op.isLogical = false := by
  cases op with
  | and => cases h
  | or => cases h
  | _ => rfl

theorem isLogical_of_test (h : (op.isEquality || op.isOrdering) = true) : op.isLogical = false := by
  cases op with
  | and => cases h
  | or => cases h
  | _ => rfl

theorem apply_arithmetic (h : op.isArithmetic = true) (a b : Value) :
    op.apply a b = op.calculate a b := by
  cases op with
  | add => rfl
  | sub => rfl
  | mul => rfl
  | div => rfl
  | _ => cases h

theorem apply_ordering (h : op.isOrdering = true) (a b : Value) :
    op.apply a b = op.testOrder a b := by
  cases op with
  | gt => rfl
  | ge => rfl
  | lt => rfl
  | le => rfl
  | _ => cases h

theorem calculate_of_null (h : (a.isNull || b.isNull) = true) : op.calculate a b = .ok .null :=
  if_pos h

/-- Arithmetic with an operand that is no number has no result, unless there is a null. -/
theorem eq_null_of_calculate {w : Value} (hnone : a.number? = none ∨ b.number? = none)
    (h : op.calculate a b = .ok w) : w = .null := by
  unfold calculate at h
  split at h
  · exact (Except.ok.inj h).symm
  · rcases hnone with ha | hb
    · rw [Value.expectNumber_of_none ha] at h
      cases h
    · cases ha : a.expectNumber op.symbol with
      | error e => simp [ha] at h
      | ok n => simp [ha, Value.expectNumber_of_none hb] at h

theorem testOrder_of_null (h : (a.isNull || b.isNull) = true) :
    op.testOrder a b = .ok (.bool false) :=
  if_pos h

/-- Null equals nothing else. -/
theorem equals_of_null (h : (a.isNull || b.isNull) = true)
    (hboth : (a.isNull && b.isNull) = false) : a.equals b = false := by
  rcases Bool.or_eq_true_iff.1 h with h | h
  · obtain rfl := Value.eq_null_of_isNull h
    cases b with
    | null => cases hboth
    | _ => rfl
  · obtain rfl := Value.eq_null_of_isNull h
    cases a with
    | null => cases hboth
    | _ => rfl

/-- A test that meets null is false, unless it compares two nulls or asks for a difference. -/
theorem apply_of_null (hop : (op.isEquality || op.isOrdering) = true)
    (h : (a.isNull || b.isNull) = true) (heq : op = .eq → (a.isNull && b.isNull) = false)
    (hne : op ≠ .ne) : op.apply a b = .ok (.bool false) := by
  rcases Bool.or_eq_true_iff.1 hop with hop | hop
  · cases op with
    | eq =>
      show Except.ok (Value.bool (a.equals b)) = _
      rw [equals_of_null h (heq rfl)]
    | ne => exact absurd rfl hne
    | _ => cases hop
  · rw [apply_ordering hop, testOrder_of_null h]

/-! ## Integers -/

/-- What an operator makes of two whole numbers, if it always makes a whole number. -/
def onWholeNumbers? (op : BinaryOp) (m n : Int) : Option Int :=
  match op with
  | .add => some (m + n)
  | .sub => some (m - n)
  | .mul => some (m * n)
  | _ => none

/-- An operator on values that count as integers is exact, and checked. -/
theorem apply_of_integers {m n : Int64} {k : Int} (ha : a.number? = some (.int m))
    (hb : b.number? = some (.int n)) (h : op.onWholeNumbers? m.toInt n.toInt = some k) :
    op.apply a b = integerResult op.symbol (Integer.ofInt? k) := by
  have hnull : (a.isNull || b.isNull) = false := by
    cases a with
    | null => cases ha
    | _ =>
      cases b with
      | null => cases hb
      | _ => rfl
  have hcalculate (harithmetic : op.isArithmetic = true) :
      op.apply a b = op.onNumbers (.int m) (.int n) := by
    rw [apply_arithmetic harithmetic, calculate, hnull, Value.expectNumber, ha,
      Value.expectNumber, hb]
    rfl
  cases op with
  | add =>
    obtain rfl := Option.some.inj h
    exact hcalculate rfl
  | sub =>
    obtain rfl := Option.some.inj h
    exact hcalculate rfl
  | mul =>
    obtain rfl := Option.some.inj h
    exact hcalculate rfl
  | _ => cases h

end BinaryOp

end Formulary
