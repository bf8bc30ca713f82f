/-!
# Letter case and plain identifiers

Names are compared without regard to the case of the letters A to Z, and only of
those: every other character is its own upper and lower case.  A plain identifier
is a letter or an underscore followed by letters, digits and underscores.
-/

namespace Formulary.Text

/-! ## Case of the letters A to Z -/

/-- A text with the letters `a` to `z` in upper case and the rest as it was. -/
def upper (s : String) : String :=
  String.ofList (s.toList.map Char.toUpper)

/-- A text with the letters `A` to `Z` in lower case and the rest as it was. -/
def lower (s : String) : String :=
  String.ofList (s.toList.map Char.toLower)

/-! ## Plain identifiers -/

/-- A character that may start an identifier. -/
def isIdentifierStart (c : Char) : Bool :=
  c.isAlpha || c == '_'

/-- A character that may stand inside an identifier. -/
def isIdentifierChar (c : Char) : Bool :=
  c.isAlphanum || c == '_'

/-- A list of characters that is a plain identifier. -/
def isIdentifierChars : List Char → Bool
  | [] => false
  | c :: rest => isIdentifierStart c && rest.all isIdentifierChar

/-- A text that is a plain identifier. -/
def isIdentifier (s : String) : Bool :=
  isIdentifierChars s.toList

end Formulary.Text
