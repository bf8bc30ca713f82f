import Formulary.Text.Blank
import Formulary.Value.Basic

/-!
# Values as numbers

One rule says which values count as numbers, for every operator, every function and
the check of literals alike: integers, binary numbers, and texts that write a finite
number between blanks.
-/

namespace Formulary

/-- A number of either kind. -/
inductive Number where
  /-- An integer. -/
  | int (value : Int64)
  /-- A binary number. -/
  | float (value : Binary64)
  deriving DecidableEq

namespace Number

/-- The binary number nearest to a number. -/
def toFloat : Number → Binary64
  | .int n => Binary64.ofInt n.toInt
  | .float x => x

/-- The number without its fraction, if it is an integer. -/
def toInt? : Number → Option Int64
  | .int n => some n
  | .float x => x.truncate?.bind Integer.ofInt?

/-- The value of a number. -/
def toValue : Number → Value
  | .int n => .int n
  | .float x => .float x

/-- The number that a text writes: an integer if it can be one, otherwise a finite
binary number. -/
def ofText? (s : String) : Option Number :=
  let s := Text.trimChars s.toList
  match Numeral.integer? s with
  | some n => some (.int n)
  | none => ((Numeral.binary? s).filter Binary64.isFinite).map .float

end Number

namespace Value

/-- The number that a value counts as. -/
def number? : Value → Option Number
  | .int n => some (.int n)
  | .float x => some (.float x)
  | .string s => Number.ofText? s
  | _ => none

/-- The binary number that a value counts as. -/
def float? (value : Value) : Option Binary64 :=
  value.number?.map Number.toFloat

/-- The integer that a value counts as; a fraction is cut off. -/
def int? (value : Value) : Option Int64 :=
  value.number?.bind Number.toInt?

/-- A number, and not just a text that writes one. -/
def isNumber : Value → Bool
  | .int _ => true
  | .float _ => true
  | _ => false

end Value

end Formulary
