import Formulary.Text.Printable

/-!
# Texts in messages

A name that is wrong is shown between double quotes in such a way that every character
can be told: quote and backslash are escaped, and so are characters that do not show.
-/

namespace Formulary.Text

/-- A character of a shown text. -/
def showChar (c : Char) : List Char :=
  if c = '"' then ['\\', '"']
  else if c = '\\' then ['\\', '\\']
  else if c = '\n' then ['\\', 'n']
  else if c = '\r' then ['\\', 'r']
  else if c = '\t' then ['\\', 't']
  else if c.toNat = 0 then ['\\', '0']
  else if isShown c then [c]
  else '\\' :: 'u' :: '{' :: (Nat.toDigits 16 c.toNat ++ ['}'])

/-- A text between double quotes in which every character can be told. -/
def shown (s : String) : String :=
  String.ofList ('"' :: (s.toList.flatMap showChar ++ ['"']))

end Formulary.Text
