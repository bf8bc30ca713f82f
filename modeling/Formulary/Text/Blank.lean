/-!
# Blank characters and trimming

A blank is a character with the Unicode property White_Space.  Texts that a
person types (numbers, names, column lists, whole formulas) are read with the
blanks at both ends taken off.
-/

namespace Formulary.Text

/-! ## The class of blanks -/

/-- The twenty-five characters with the Unicode property White_Space, as inclusive
ranges of code points. -/
def blankRanges : List (Nat × Nat) :=
  [(0x09, 0x0D), (0x20, 0x20), (0x85, 0x85), (0xA0, 0xA0), (0x1680, 0x1680),
   (0x2000, 0x200A), (0x2028, 0x2029), (0x202F, 0x202F), (0x205F, 0x205F),
   (0x3000, 0x3000)]

/-- Membership of a code point in a list of inclusive ranges. -/
def inRanges (ranges : List (Nat × Nat)) (code : Nat) : Bool :=
  ranges.any fun range => range.1 ≤ code && code ≤ range.2

/-- A character with the Unicode property White_Space. -/
def isBlank (c : Char) : Bool :=
  inRanges blankRanges c.toNat

/-- There are twenty-five blanks. -/
example : (blankRanges.map fun range => range.2 - range.1 + 1).sum = 25 := by decide

/-! ## Trimming -/

/-- A list of characters without the blanks at its start. -/
def dropBlanks (s : List Char) : List Char :=
  s.dropWhile isBlank

/-- A list of characters without the blanks at either end. -/
def trimChars (s : List Char) : List Char :=
  (dropBlanks (dropBlanks s).reverse).reverse

/-- A text without the blanks at either end. -/
def trim (s : String) : String :=
  String.ofList (trimChars s.toList)

/-- A text of blanks only, the empty text included. -/
def isAllBlank (s : String) : Bool :=
  s.toList.all isBlank

/-! ## Marks at the start of a file -/

/-- The characters of a file without the byte order mark that may come first. -/
def withoutMark : List Char → List Char
  | [] => []
  | c :: rest => if c.toNat = 0xFEFF then rest else c :: rest

end Formulary.Text
