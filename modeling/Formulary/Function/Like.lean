import Formulary.Function.Basic

/-!
# Looking for a text

Each way of looking for a text has two sides: a test on texts, and a pattern for the
database, in which `%` stands for any characters, `_` for one, and a backslash takes
the next character as it is.
-/

namespace Formulary

/-- A list of characters occurs in another. -/
def Text.occursIn (part : List Char) : List Char → Bool
  | [] => part.isEmpty
  | c :: rest => part.isPrefixOf (c :: rest) || occursIn part rest

namespace LikePattern

/-- A character of the text looked for, as a pattern writes it. -/
def escape (c : Char) : List Char :=
  if c = '%' ∨ c = '_' ∨ c = '\\' then ['\\', c] else [c]

/-- The database pattern for a text. -/
def pattern (kind : LikePattern) (text : String) : String :=
  let escaped := text.toList.flatMap escape
  String.ofList (match kind with
    | .contains => '%' :: (escaped ++ ['%'])
    | .startsWith => escaped ++ ['%']
    | .endsWith => '%' :: escaped)

/-- The text is where it is looked for. -/
def found (kind : LikePattern) (subject text : String) : Bool :=
  match kind with
  | .contains => Text.occursIn text.toList subject.toList
  | .startsWith => text.toList.isPrefixOf subject.toList
  | .endsWith => text.toList.isSuffixOf subject.toList

end LikePattern

end Formulary
