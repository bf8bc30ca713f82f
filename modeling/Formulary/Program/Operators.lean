import Formulary.Function.Basic

/-!
# Operators on values

Equality is defined for all values: integers and texts among themselves exactly, a
number and anything that counts as one by their nearest binary numbers, and the rest
by identity.  Null equals only null.  Order is defined for integers, for texts, and
for a number and anything that counts as one.  Arithmetic takes everything that counts
as a number; integers stay integers except in a division, and a result that cannot be
represented is an error.
-/

namespace Formulary

/-! ## Errors of a run -/

/-- Why a formula has no value in a context. -/
inductive RuntimeError where
  /-- The context has nothing under an identifier. -/
  | missingIdentifier (path : Path)
  /-- A truth value is needed. -/
  | notBoolean (place actual : String)
  /-- A number is needed. -/
  | notNumeric (op actual : String)
  /-- The operands have no order. -/
  | typeMismatch (op left right : String)
  /-- The divisor is zero. -/
  | divisionByZero
  /-- The result cannot be represented. -/
  | overflow (op : String)
  /-- A function has no result. -/
  | function (name : String) (source : FunctionError)
  deriving DecidableEq

/-- The message of an error. -/
def RuntimeError.message : RuntimeError → String
  | .missingIdentifier path => "Unknown identifier: " ++ path.text
  | .notBoolean place actual => s!"{place} requires a boolean, got {actual}"
  | .notNumeric op actual => s!"Operator {op} requires a number, got {actual}"
  | .typeMismatch op left right => s!"Cannot compare {left} {op} {right}"
  | .divisionByZero => "Division by zero"
  | .overflow op => s!"Numeric overflow in {op}"
  | .function name source => s!"Function {name} failed: " ++ source.message

namespace Value

/-! ## Equality and order -/

/-- Two values as binary numbers, if one is a number and the other counts as one. -/
def numericPair? (left right : Value) : Option (Binary64 × Binary64) :=
  if left.isNumber || right.isNumber then
    match left.float?, right.float? with
    | some x, some y => some (x, y)
    | _, _ => none
  else
    none

/-- Two values are equal. -/
def equals (left right : Value) : Bool :=
  match left, right with
  | .null, .null => true
  | .null, _ => false
  | _, .null => false
  | .int m, .int n => m == n
  | .string s, .string t => s == t
  | _, _ =>
    match numericPair? left right with
    | some (x, y) => x.equal y
    | none => same left right

/-- The order of two values, if they have one. -/
def compare? (left right : Value) : Option Ordering :=
  match left, right with
  | .int m, .int n => some (compare m.toInt n.toInt)
  | .string s, .string t => some (compare s t)
  | _, _ => (numericPair? left right).bind fun (x, y) => Binary64.compare? x y

/-- The value needed as a truth value at a place. -/
def expectBool (place : String) (value : Value) : Except RuntimeError Bool :=
  match value.bool? with
  | some b => .ok b
  | none => .error (.notBoolean place value.kind)

/-- The value needed as a number by an operator. -/
def expectNumber (op : String) (value : Value) : Except RuntimeError Number :=
  match value.number? with
  | some n => .ok n
  | none => .error (.notNumeric op value.kind)

end Value

/-! ## Arithmetic -/

/-- A binary number as the result of an operator: it has to be finite. -/
def finiteResult (op : String) (x : Binary64) : Except RuntimeError Value :=
  if x.isFinite then .ok (.float x) else .error (.overflow op)

/-- An integer as the result of an operator: it has to be there. -/
def integerResult (op : String) : Option Int64 → Except RuntimeError Value
  | some n => .ok (.int n)
  | none => .error (.overflow op)

/-- The opposite of a value.  The opposite of null is null. -/
def Value.opposite (value : Value) : Except RuntimeError Value :=
  match value with
  | .null => .ok .null
  | _ =>
    match value.expectNumber "-" with
    | .error e => .error e
    | .ok (.int n) => integerResult "-" (Integer.neg? n)
    | .ok (.float x) => .ok (.float x.neg)

namespace BinaryOp

/-- The relation that a test of order asks for. -/
def holds (op : BinaryOp) (ordering : Ordering) : Bool :=
  match op with
  | .gt => ordering == .gt
  | .ge => ordering != .lt
  | .lt => ordering == .lt
  | _ => ordering != .gt

/-- An arithmetic operator on integers.  A division is not one. -/
def onIntegers (op : BinaryOp) (m n : Int64) : Option Int64 :=
  match op with
  | .add => Integer.add? m n
  | .sub => Integer.sub? m n
  | _ => Integer.mul? m n

/-- An arithmetic operator on binary numbers. -/
def onFloats (op : BinaryOp) (x y : Binary64) : Binary64 :=
  match op with
  | .add => x.add y
  | .sub => x.sub y
  | .div => x.div y
  | _ => x.mul y

/-- An arithmetic operator on numbers. -/
def onNumbers (op : BinaryOp) (a b : Number) : Except RuntimeError Value :=
  match op with
  | .div =>
    if b.toFloat.isZero then .error .divisionByZero
    else finiteResult op.symbol (op.onFloats a.toFloat b.toFloat)
  | _ =>
    match a, b with
    | .int m, .int n => integerResult op.symbol (op.onIntegers m n)
    | _, _ => finiteResult op.symbol (op.onFloats a.toFloat b.toFloat)

/-- A test of equality on values. -/
def testEquality (op : BinaryOp) (left right : Value) : Bool :=
  match op with
  | .eq => left.equals right
  | _ => !left.equals right

/-- A test of order on values.  With a null it fails. -/
def testOrder (op : BinaryOp) (left right : Value) : Except RuntimeError Value :=
  if left.isNull || right.isNull then
    .ok (.bool false)
  else
    match left.compare? right with
    | some ordering => .ok (.bool (op.holds ordering))
    | none => .error (.typeMismatch op.symbol left.kind right.kind)

/-- An arithmetic operator on values.  With a null the result is null. -/
def calculate (op : BinaryOp) (left right : Value) : Except RuntimeError Value :=
  if left.isNull || right.isNull then
    .ok .null
  else
    match left.expectNumber op.symbol with
    | .error e => .error e
    | .ok a =>
      match right.expectNumber op.symbol with
      | .error e => .error e
      | .ok b => op.onNumbers a b

/-- An operator that needs both its operands, on their values. -/
def apply (op : BinaryOp) (left right : Value) : Except RuntimeError Value :=
  if op.isEquality then .ok (.bool (op.testEquality left right))
  else if op.isOrdering then op.testOrder left right
  else op.calculate left right

/-- The value of the left operand that settles a logical operator. -/
def settledBy (op : BinaryOp) (left : Bool) : Bool :=
  match op with
  | .and => !left
  | .or => left
  | _ => false

end BinaryOp

end Formulary
