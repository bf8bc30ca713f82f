import Formulary.Calendar.Date
import Formulary.Number.Decimal
import Formulary.Text.Blank

/-!
# Reading dates

Two forms are read: a date, and a date with a time of day, of which only the date
counts.  Reading is lenient: blanks may stand before every number, a number may have
fewer digits than usual, a year with a sign may have any number of digits, and
nothing at all may stand between date and time.  Nothing may follow.
-/

namespace Formulary.Date

/-! ## Pieces -/

/-- A number of one digit up to a width, and what follows it. -/
def digits? (width : Nat) (s : List Char) : Option (Nat × List Char) :=
  let digits := (s.take width).takeWhile Char.isDigit
  if digits.isEmpty then none
  else some (Decimal.valueOfDigits digits, s.drop digits.length)

/-- A number after blanks. -/
def number? (width : Nat) (s : List Char) : Option (Nat × List Char) :=
  digits? width (Text.dropBlanks s)

/-- A year after blanks: up to four digits, or a sign and digits. -/
def year? (s : List Char) : Option (Int × List Char) :=
  match Text.dropBlanks s with
  | '-' :: rest => (digits? rest.length rest).map fun (n, rest) => (-(n : Int), rest)
  | '+' :: rest => (digits? rest.length rest).map fun (n, rest) => ((n : Int), rest)
  | s => (digits? 4 s).map fun (n, rest) => ((n : Int), rest)

/-- What follows a mark. -/
def mark? (mark : Char) : List Char → Option (List Char)
  | c :: rest => if c = mark then some rest else none
  | [] => none

/-! ## Forms -/

/-- A year, a month and a day with hyphens between them, and what follows. -/
def fields? (s : List Char) : Option ((Int × Nat × Nat) × List Char) := do
  let (year, s) ← year? s
  let s ← mark? '-' s
  let (month, s) ← number? 2 s
  let s ← mark? '-' s
  let (day, s) ← number? 2 s
  return ((year, month, day), s)

/-- A time of day up to its end: hours, minutes and seconds, of which there may be a
sixty-first. -/
def isTime (s : List Char) : Bool :=
  let time := do
    let (hour, s) ← number? 2 s
    let s ← mark? ':' s
    let (minute, s) ← number? 2 s
    let s ← mark? ':' s
    let (second, s) ← number? 2 s
    return decide (hour ≤ 23 ∧ minute ≤ 59 ∧ second ≤ 60) && s.isEmpty
  time.getD false

/-- The date that a text writes, with or without a time of day. -/
def read? (text : String) : Option Date :=
  match fields? text.toList with
  | none => none
  | some ((year, month, day), rest) =>
    if rest.isEmpty || isTime rest then ofFields? year month day else none

end Formulary.Date
