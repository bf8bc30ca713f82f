import Formulary.Number.Integer
import Formulary.Number.Decimal

/-!
# Numerals: the written forms of numbers

Reading: a numeral is an integer if it is a whole number with an optional sign in
the range, and otherwise a decimal rounded to the nearest binary number.

Writing: a binary number is written with its shortest digits.  The three ways of
laying the digits out are one function and three records: `plain` never uses an
exponent and marks nothing, `marked` shows that a whole number is a binary one, and
`interchange` is the form of data exchange.
-/

namespace Formulary.Numeral

/-! ## Reading -/

/-- An integer: an optional sign and digits, in the range. -/
def integer? (s : List Char) : Option Int64 :=
  (Decimal.signedDigits? s).bind Integer.ofInt?

/-- A binary number from a numeral with an optional sign. -/
def binary? : List Char → Option Binary64
  | '-' :: s => (Decimal.ofChars? s).map (Decimal.toBinary64 true)
  | '+' :: s => (Decimal.ofChars? s).map (Decimal.toBinary64 false)
  | s => (Decimal.ofChars? s).map (Decimal.toBinary64 false)

/-! ## Writing -/

/-- The decisions of a written form. -/
structure Layout where
  /-- The least place of the point that is written without an exponent, if there is one. -/
  leastPlace : Option Int
  /-- The greatest place of the point that is written without an exponent, if there is one. -/
  greatestPlace : Option Int
  /-- A whole number without exponent ends in `.0`. -/
  marksWhole : Bool
  /-- An exponent that is not negative has a plus sign. -/
  signsExponent : Bool
  /-- Which of two equally near decimals is written. -/
  tie : TieRule
  deriving DecidableEq

/-- All digits in place, and nothing after the last. -/
def plain : Layout := ⟨none, none, false, false, .greater⟩

/-- From `10⁻⁴` up to `10¹⁶` in place, a whole number with `.0`. -/
def marked : Layout := ⟨some (-3), some 16, true, false, .greater⟩

/-- From `10⁻⁵` up to `10¹⁶` in place, a whole number with `.0`; exponents have their sign,
and a tie goes to the even digit. -/
def interchange : Layout := ⟨some (-4), some 16, true, true, .even⟩

/-- The place of the point is written without an exponent. -/
def Layout.isPositional (layout : Layout) (place : Int) : Bool :=
  layout.leastPlace.all (· ≤ place) && layout.greatestPlace.all (place ≤ ·)

/-- Digits with the point at a place counted from their start. -/
def Layout.positional (layout : Layout) (digits : List Char) (place : Int) : List Char :=
  if place ≤ 0 then
    '0' :: '.' :: (List.replicate (-place).toNat '0' ++ digits)
  else if digits.length ≤ place.toNat then
    digits ++ List.replicate (place.toNat - digits.length) '0'
      ++ (if layout.marksWhole then ['.', '0'] else [])
  else
    digits.take place.toNat ++ '.' :: digits.drop place.toNat

/-- Digits with the point after the first, and the power of ten. -/
def Layout.scientific (layout : Layout) (digits : List Char) (exponent : Int) : List Char :=
  digits.take 1
    ++ (if digits.length ≤ 1 then [] else '.' :: digits.drop 1)
    ++ 'e' :: (if exponent < 0 then ['-'] else if layout.signsExponent then ['+'] else [])
    ++ Nat.toDigits 10 exponent.natAbs

/-- A finite size in units, without its sign. -/
def Layout.size (layout : Layout) (units : Nat) : List Char :=
  if units = 0 then
    '0' :: (if layout.marksWhole then ['.', '0'] else [])
  else
    let decimal := Decimal.shortest layout.tie units
    let digits := Nat.toDigits 10 decimal.digits
    let place := decimal.exponent + digits.length
    if layout.isPositional place then
      layout.positional digits place
    else
      layout.scientific digits (place - 1)

/-- The written form of a binary number. -/
def Layout.text (layout : Layout) : Binary64 → String
  | .nan => "NaN"
  | .infinite negative => if negative then "-inf" else "inf"
  | .finite negative units _ =>
    String.ofList ((if negative then ['-'] else []) ++ layout.size units)

end Formulary.Numeral
