import Formulary.Json.Basic
import Formulary.Json.Quoted
import Formulary.Number.Integer
import Formulary.Number.Numeral

/-!
# Writing data-exchange text

Two forms: the compact one has no blanks, and the indented one puts every item and
every field on a line of its own, two blanks deeper than what holds it.  Numbers
that are not finite have no written form and become null.
-/

namespace Formulary.Json

/-! ## Single values -/

/-- The characters of a whole number. -/
def integerChars (n : Int) : List Char :=
  (toString n).toList

/-- The characters of a binary number. -/
def floatChars (x : Binary64) : List Char :=
  if x.isFinite then (Numeral.interchange.text x).toList else "null".toList

/-- The characters of a truth value. -/
def boolChars (b : Bool) : List Char :=
  if b then "true".toList else "false".toList

/-- Parts with a separator between neighbours. -/
def separated (separator : List Char) : List (List Char) → List Char
  | [] => []
  | [part] => part
  | part :: rest => part ++ separator ++ separated separator rest

/-! ## The compact form -/

mutual

/-- The compact form of a value. -/
def compactChars : Json → List Char
  | .null => "null".toList
  | .bool b => boolChars b
  | .integer n => integerChars n
  | .float x => floatChars x
  | .string s => Quoted.write s.toList
  | .array items => '[' :: (separated [','] (compactItems items) ++ [']'])
  | .object fields => '{' :: (separated [','] (compactFields fields) ++ ['}'])

/-- The compact forms of the items of a list. -/
def compactItems : List Json → List (List Char)
  | [] => []
  | item :: rest => compactChars item :: compactItems rest

/-- The compact forms of the fields of an object. -/
def compactFields : List (String × Json) → List (List Char)
  | [] => []
  | (name, value) :: rest =>
    (Quoted.write name.toList ++ ':' :: compactChars value) :: compactFields rest

end

/-- The compact text of a value. -/
def compact (json : Json) : String :=
  String.ofList (compactChars json)

/-! ## The indented form -/

/-- A new line at a depth. -/
def newLine (depth : Nat) : List Char :=
  '\n' :: List.replicate (2 * depth) ' '

/-- Parts between brackets, each on its line; brackets around nothing stay together. -/
def block (first last : Char) (depth : Nat) (parts : List (List Char)) : List Char :=
  if parts.isEmpty then
    [first, last]
  else
    first :: (newLine (depth + 1) ++ separated (',' :: newLine (depth + 1)) parts
      ++ newLine depth ++ [last])

mutual

/-- The indented form of a value at a depth. -/
def indentedChars (depth : Nat) : Json → List Char
  | .null => "null".toList
  | .bool b => boolChars b
  | .integer n => integerChars n
  | .float x => floatChars x
  | .string s => Quoted.write s.toList
  | .array items => block '[' ']' depth (indentedItems (depth + 1) items)
  | .object fields => block '{' '}' depth (indentedFields (depth + 1) fields)

/-- The indented forms of the items of a list. -/
def indentedItems (depth : Nat) : List Json → List (List Char)
  | [] => []
  | item :: rest => indentedChars depth item :: indentedItems depth rest

/-- The indented forms of the fields of an object. -/
def indentedFields (depth : Nat) : List (String × Json) → List (List Char)
  | [] => []
  | (name, value) :: rest =>
    (Quoted.write name.toList ++ ':' :: ' ' :: indentedChars depth value)
      :: indentedFields depth rest

end

/-- The indented text of a value. -/
def indented (json : Json) : String :=
  String.ofList (indentedChars 0 json)

end Formulary.Json
