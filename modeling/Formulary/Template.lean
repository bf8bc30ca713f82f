import Formulary.Value.Json

/-!
# Templates

A template is a text with names in braces.  Each is replaced by the text of the value
that a record has under the name, once, from the left; a value is not looked at again.
-/

namespace Formulary.Template

/-- What stands for a name: nothing for null, the text of any other value, and the name
in its braces if the record has none. -/
def replacement (record : Fields Value) (name : List Char) : List Char :=
  match record.get? (String.ofList name) with
  | none => '{' :: (name ++ ['}'])
  | some .null => []
  | some value => value.text.toList

/-- A template with its names replaced.  A name has at least one character and goes up to
the next closing brace; a brace that no such name follows stands for itself. -/
def substituteChars (record : Fields Value) : List Char → List Char
  | [] => []
  | c :: rest =>
    let name := rest.takeWhile (· != '}')
    if c = '{' ∧ name ≠ [] ∧ name.length < rest.length then
      replacement record name ++ substituteChars record (rest.drop (name.length + 1))
    else
      c :: substituteChars record rest
termination_by s => s.length
decreasing_by
  · simp only [List.length_drop, List.length_cons]
    omega
  · simp only [List.length_cons]
    omega

/-- A template with its names replaced by values of a record. -/
def substitute (template : String) (record : Fields Value) : String :=
  String.ofList (substituteChars record template.toList)

end Formulary.Template
