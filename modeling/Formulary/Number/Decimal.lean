import Formulary.Number.Binary64

/-!
# Decimals: reading them and choosing the shortest

A decimal is `digits · 10 ^ exponent`.  Numbers are read as decimals and then
rounded to the nearest binary number.  The other way round, a binary number is
written with the fewest digits that read back to it, and among those with the
nearest; which of two equally near is taken is up to the written form.

Main statement: the digits chosen for a count of units read back to it as soon as
any decimal of at most seventeen digits was found (`readsBack_of_findSome`).
-/

namespace Formulary

/-- The non-negative number `digits · 10 ^ exponent`. -/
structure Decimal where
  /-- The digits, as one whole number. -/
  digits : Nat
  /-- The power of ten. -/
  exponent : Int
  deriving DecidableEq

/-- Which of two equally near decimals is taken. -/
inductive TieRule where
  /-- The greater. -/
  | greater
  /-- The one with an even last digit. -/
  | even
  deriving DecidableEq

namespace Decimal

/-! ## Reading -/

/-- The whole number that a list of digits writes. -/
def valueOfDigits (s : List Char) : Nat :=
  s.foldl (fun value c => 10 * value + (c.toNat - '0'.toNat)) 0

/-- A whole number with an optional sign. -/
def signedDigits? : List Char → Option Int
  | '-' :: s => if !s.isEmpty && s.all Char.isDigit then some (-(valueOfDigits s : Int)) else none
  | '+' :: s => if !s.isEmpty && s.all Char.isDigit then some (valueOfDigits s) else none
  | s => if !s.isEmpty && s.all Char.isDigit then some (valueOfDigits s) else none

/-- The power of ten that ends a numeral: nothing, or a letter E and a whole number. -/
def exponentPart? : List Char → Option Int
  | [] => some 0
  | c :: s => if c == 'e' || c == 'E' then signedDigits? s else none

/-- A numeral without a sign: digits, a point and digits, an exponent.  Digits may be
missing on one side of the point, and point and exponent may be missing. -/
def ofChars? (s : List Char) : Option Decimal :=
  let (whole, rest) := s.span Char.isDigit
  let (fraction, rest) := match rest with
    | '.' :: tail => tail.span Char.isDigit
    | _ => ([], rest)
  if whole.isEmpty && fraction.isEmpty then
    none
  else
    (exponentPart? rest).map fun exponent =>
      ⟨valueOfDigits (whole ++ fraction), exponent - fraction.length⟩

/-- The binary number nearest to a decimal with a sign. -/
def toBinary64 (negative : Bool) (d : Decimal) : Binary64 :=
  Binary64.ofDecimal negative d.digits d.exponent

/-! ## Digits of a binary number -/

/-- A decimal without zeros at the end of its digits. -/
def strip (d : Decimal) : Decimal :=
  if h : d.digits ≠ 0 ∧ d.digits % 10 = 0 then
    strip ⟨d.digits / 10, d.exponent + 1⟩
  else
    d
termination_by d.digits
decreasing_by omega

/-- A decimal reads back to a count of units. -/
def readsBack (units : Nat) (d : Decimal) : Bool :=
  d.toBinary64 false == Binary64.ofUnits false units

/-- The number of digits before the point; for a number below one, less the number of
zeros that follow the point.  Every positive count is at least `10 ^ -400`. -/
def pointPlace (units : Nat) : Int :=
  (Nat.toDigits 10 (units * Nat.pow 10 400 / unitsPerOne)).length - 400

/-- Of the decimals next to `num / den`, the one below is nearer. -/
def belowIsNearer (tie : TieRule) (num den : Nat) : Bool :=
  let twice := 2 * (num % den)
  twice < den || (twice == den && tie == .even && num / den % 2 == 0)

/-- The decimal with the given number of digits that reads back to a count: one of the
two neighbours of the exact value, the nearer if both do. -/
def withDigits? (tie : TieRule) (units count : Nat) : Option Decimal :=
  let exponent := pointPlace units - count
  let num := units * Nat.pow 10 (-exponent).toNat
  let den := unitsPerOne * Nat.pow 10 exponent.toNat
  let below : Decimal := ⟨num / den, exponent⟩
  let above : Decimal := ⟨num / den + 1, exponent⟩
  if readsBack units below && (belowIsNearer tie num den || !readsBack units above) then
    some below
  else if readsBack units above then
    some above
  else
    none

/-- The exact decimal of a count of units, since a unit is `5 ^ 1074 · 10 ^ -1074`. -/
def exact (units : Nat) : Decimal :=
  ⟨units * Nat.pow 5 1074, -1074⟩

/-- The decimal with the fewest digits that reads back to a count, the nearest of those. -/
def shortest (tie : TieRule) (units : Nat) : Decimal :=
  (((List.range 17).findSome? fun i => withDigits? tie units (i + 1)).getD (exact units)).strip

/-- A decimal that was chosen for its number of digits reads back. -/
theorem readsBack_withDigits? {tie : TieRule} {units count : Nat} {d : Decimal}
    (h : withDigits? tie units count = some d) : readsBack units d = true := by
  simp only [withDigits?] at h
  split at h
  · next below =>
    obtain rfl := Option.some.inj h
    simp only [Bool.and_eq_true] at below
    exact below.1
  · split at h
    · next above =>
      obtain rfl := Option.some.inj h
      exact above
    · contradiction

/-- The first decimal found in a list of digit counts reads back. -/
theorem readsBack_of_findSome {tie : TieRule} {units : Nat} {d : Decimal} {counts : List Nat}
    (h : (counts.findSome? fun i => withDigits? tie units (i + 1)) = some d) :
    readsBack units d = true := by
  obtain ⟨i, -, found⟩ := List.exists_of_findSome?_eq_some h
  exact readsBack_withDigits? found

end Decimal

end Formulary
