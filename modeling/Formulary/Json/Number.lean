import Formulary.Json.Basic
import Formulary.Number.Decimal

/-!
# Numbers of data exchange

A numeral without fraction and exponent that fits sixty-four bits, with or without a
sign, is an integer; the numeral `-0` is the negative zero.  Every other numeral is
read with a significand of at most sixty-four bits, whose further digits only move
the point, and the significand is then multiplied or divided by powers of ten.  A
number past the greatest finite one is refused.
-/

namespace Formulary.Json.Number

/-! ## Significand and scale -/

/-- The greatest significand. -/
def greatestSignificand : Nat := Nat.pow 2 64 - 1

/-- The greatest exponent that is told apart from greater ones. -/
def greatestExponent : Nat := Nat.pow 2 31 - 1

/-- The greatest power of ten that is multiplied or divided by in one step. -/
def greatestPower : Nat := 308

/-- Adds digits to a significand as long as it stays in the range: the significand and
the number of digits added. -/
def gather (significand : Nat) : List Char → Nat × Nat
  | [] => (significand, 0)
  | c :: rest =>
    let next := 10 * significand + (c.toNat - '0'.toNat)
    if next ≤ greatestSignificand then
      let (significand, count) := gather next rest
      (significand, count + 1)
    else
      (significand, 0)

/-- A power of ten as a binary number. -/
def power (exponent : Nat) : Binary64 :=
  Binary64.ofDecimal false 1 exponent

/-- A number divided by ten again and again, the greatest power at a time. -/
def scaleDown (x : Binary64) (exponent : Nat) : Binary64 :=
  if exponent ≤ greatestPower then
    x.div (power exponent)
  else if x.isZero then
    x
  else
    scaleDown (x.div (power greatestPower)) (exponent - greatestPower)
termination_by exponent
decreasing_by simp only [greatestPower] at *; omega

/-- A significand with a power of ten, if the result is finite. -/
def scale? (significand : Nat) (exponent : Int) : Option Binary64 :=
  let x := Binary64.ofInt significand
  if exponent < 0 then
    some (scaleDown x (-exponent).toNat)
  else if exponent ≤ greatestPower then
    let product := x.mul (power exponent.toNat)
    if product.isFinite then some product else none
  else if x.isZero then
    some x
  else
    none

/-- A binary number with a sign given apart. -/
def withSign (negative : Bool) (x : Binary64) : Json :=
  .float (if negative then x.neg else x)

/-! ## Reading -/

/-- The number after its letter E: sign and digits of the exponent. -/
def exponent? (negative : Bool) (significand : Nat) (start : Int) (s : List Char) :
    Option (Json × List Char) :=
  let (down, digits) := match s with
    | '-' :: rest => (true, rest)
    | '+' :: rest => (false, rest)
    | _ => (false, s)
  let (digits, rest) := digits.span Char.isDigit
  if digits.isEmpty then
    none
  else
    let size := Decimal.valueOfDigits digits
    if greatestExponent < size then
      if significand ≠ 0 ∧ !down then none
      else some (withSign negative (Binary64.zero false), rest)
    else
      (scale? significand (if down then start - size else start + size)).map fun x =>
        (withSign negative x, rest)

/-- The number after the digits of its significand: an exponent or nothing. -/
def scaled? (negative : Bool) (significand : Nat) (exponent : Int) (s : List Char) :
    Option (Json × List Char) :=
  match s with
  | 'e' :: rest => exponent? negative significand exponent rest
  | 'E' :: rest => exponent? negative significand exponent rest
  | _ => (scale? significand exponent).map fun x => (withSign negative x, s)

/-- The number after its point. -/
def fraction? (negative : Bool) (significand : Nat) (exponent : Int) (s : List Char) :
    Option (Json × List Char) :=
  let (digits, rest) := s.span Char.isDigit
  if digits.isEmpty then
    none
  else
    let (significand, count) := gather significand digits
    scaled? negative significand (exponent - count) rest

/-- A whole number without fraction and exponent whose digits all fit. -/
def whole (negative : Bool) (significand : Nat) : Json :=
  if negative then
    if significand = 0 ∨ Nat.pow 2 63 < significand then
      withSign true (Binary64.ofInt significand)
    else
      .integer (-significand)
  else
    .integer significand

/-- A numeral after its sign.  The first digit is zero only if it is the only one. -/
def unsigned? (negative : Bool) (s : List Char) : Option (Json × List Char) :=
  let (digits, rest) := s.span Char.isDigit
  if digits.isEmpty || (1 < digits.length && digits.head? == some '0') then
    none
  else
    let (significand, count) := gather 0 digits
    let dropped := digits.length - count
    match rest with
    | '.' :: rest => fraction? negative significand dropped rest
    | 'e' :: rest => exponent? negative significand dropped rest
    | 'E' :: rest => exponent? negative significand dropped rest
    | _ =>
      if dropped = 0 then
        some (whole negative significand, rest)
      else
        scaled? negative significand dropped rest

/-- A numeral at the start of a text, and what follows it. -/
def read? : List Char → Option (Json × List Char)
  | '-' :: rest => unsigned? true rest
  | s => unsigned? false s

end Formulary.Json.Number
