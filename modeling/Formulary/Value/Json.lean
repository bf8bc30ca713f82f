import Formulary.Value.Basic
import Formulary.Json.Reader
import Formulary.Json.Writer

/-!
# Values as data-exchange text

A value is written without any mark of its kind: an integer has no point, a binary
number has one or an exponent, and a map is an object with sorted names.  Reading goes
by the same marks; a whole number outside sixty-four bits becomes a binary number, and
of two fields with one name the last one counts.
-/

namespace Formulary.Value

/-! ## Writing -/

mutual

/-- The data-exchange form of a value. -/
def toJson : Value → Json
  | .null => .null
  | .bool b => .bool b
  | .int n => .integer n.toInt
  | .float x => .float x
  | .string s => .string s
  | .list items => .array (toJsonItems items)
  | .map fields => .object (toJsonFields fields)

/-- The data-exchange forms of the items of a list. -/
def toJsonItems : List Value → List Json
  | [] => []
  | item :: rest => toJson item :: toJsonItems rest

/-- The data-exchange forms of the fields of a map. -/
def toJsonFields : List (String × Value) → List (String × Json)
  | [] => []
  | (name, value) :: rest => (name, toJson value) :: toJsonFields rest

end

/-- The data-exchange text of a value. -/
def jsonText (value : Value) : String :=
  value.toJson.compact

/-- The text of a value for a reader: a text is itself, a list or a map is its
data-exchange text. -/
def text : Value → String
  | .null => "null"
  | .bool b => Literal.boolText b
  | .int n => Integer.text n
  | .float x => Numeral.plain.text x
  | .string s => s
  | .list items => jsonText (.list items)
  | .map fields => jsonText (.map fields)

/-! ## Reading -/

mutual

/-- The value of a data-exchange form. -/
def ofJson : Json → Value
  | .null => .null
  | .bool b => .bool b
  | .integer n =>
    match Integer.ofInt? n with
    | some n => .int n
    | none => .float (Binary64.ofInt n)
  | .float x => .float x
  | .string s => .string s
  | .array items => .list (ofJsonItems items)
  | .object fields => .map (Fields.ofList (ofJsonFields fields))

/-- The values of the items of a list. -/
def ofJsonItems : List Json → List Value
  | [] => []
  | item :: rest => ofJson item :: ofJsonItems rest

/-- The values of the fields of an object, in their order. -/
def ofJsonFields : List (String × Json) → List (String × Value)
  | [] => []
  | (name, value) :: rest => (name, ofJson value) :: ofJsonFields rest

end

/-- The value of a data-exchange text. -/
def ofJsonText? (text : String) : Option Value :=
  (Json.parse? text).map ofJson

/-! ## Reading by trial

Another reader does not go by the mark of a form.  It tries the kinds of values one after the
other, and the first that can be made of the form counts. -/

/-- The kinds of values without parts. -/
inductive ScalarKind where
  | null | bool | int | float | string
  deriving DecidableEq

/-- The kinds of values without parts, in the order in which they are tried. -/
def ScalarKind.all : List ScalarKind := [.null, .bool, .int, .float, .string]

/-- The value of a kind that can be made of a form. -/
def ScalarKind.read? : ScalarKind → Json → Option Value
  | .null, .null => some .null
  | .bool, .bool b => some (.bool b)
  | .int, .integer n => (Integer.ofInt? n).map .int
  | .float, .integer n => some (.float (Binary64.ofInt n))
  | .float, .float x => some (.float x)
  | .string, .string s => some (.string s)
  | _, _ => none

/-- The value of the first kind without parts that can be made of a form. -/
def scalarByTrial? (json : Json) : Option Value :=
  ScalarKind.all.findSome? fun kind => kind.read? json

mutual

/-- The value of the first kind that can be made of a form; lists come after the kinds without
parts, and maps last. -/
def byTrial? : Json → Option Value
  | .array items => (scalarByTrial? (.array items)).or ((itemsByTrial? items).map .list)
  | .object fields =>
    (scalarByTrial? (.object fields)).or
      ((fieldsByTrial? fields).map fun fields => .map (Fields.ofList fields))
  | json => scalarByTrial? json

/-- The values of the items of a list, if there is one for each. -/
def itemsByTrial? : List Json → Option (List Value)
  | [] => some []
  | item :: rest => do return (← byTrial? item) :: (← itemsByTrial? rest)

/-- The values of the fields of an object in their order, if there is one for each. -/
def fieldsByTrial? : List (String × Json) → Option (List (String × Value))
  | [] => some []
  | (name, value) :: rest => do return (name, ← byTrial? value) :: (← fieldsByTrial? rest)

end

/-- The value of a data-exchange text, found by trial. -/
def ofTextByTrial? (text : String) : Option Value :=
  (Json.parse? text).bind byTrial?

end Formulary.Value
