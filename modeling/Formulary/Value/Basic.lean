import Formulary.Expr.Basic
import Formulary.Fields

/-!
# Values

What formulas work on: null, truth values, integers, binary numbers, texts, lists and
maps.  Integers and binary numbers are different kinds.
-/

namespace Formulary

/-- A value. -/
inductive Value where
  /-- The null. -/
  | null
  /-- A truth value. -/
  | bool (value : Bool)
  /-- An integer. -/
  | int (value : Int64)
  /-- A binary number. -/
  | float (value : Binary64)
  /-- A text. -/
  | string (value : String)
  /-- A list. -/
  | list (items : List Value)
  /-- A map from names to values. -/
  | map (fields : List (String × Value))
  deriving Inhabited

namespace Value

/-! ## Kinds and parts -/

/-- The name of the kind of a value. -/
def kind : Value → String
  | .null => "null"
  | .bool _ => "bool"
  | .int _ => "int"
  | .float _ => "float"
  | .string _ => "string"
  | .list _ => "list"
  | .map _ => "map"

/-- The null. -/
def isNull : Value → Bool
  | .null => true
  | _ => false

/-- The truth value, if it is one. -/
def bool? : Value → Option Bool
  | .bool b => some b
  | _ => none

/-- The text, if it is one. -/
def string? : Value → Option String
  | .string s => some s
  | _ => none

/-- The value that some names lead to, one after the other, through nested maps. -/
def getPath? : List String → Value → Option Value
  | [], value => some value
  | name :: rest, .map fields => (Fields.get? name fields).bind (getPath? rest)
  | _ :: _, _ => none

/-- The value of a literal. -/
def ofLiteral : Literal → Value
  | .null => .null
  | .bool b => .bool b
  | .int n => .int n
  | .float x => .float x
  | .string s => .string s

/-! ## Identity

Two values are the same if they have the same kind and the same content.  Binary
numbers are compared as numbers, so a NaN is not the same as itself and the two zeros
are the same. -/

mutual

/-- Two values are the same. -/
def same : Value → Value → Bool
  | .null, .null => true
  | .bool a, .bool b => a == b
  | .int a, .int b => a == b
  | .float a, .float b => a.equal b
  | .string a, .string b => a == b
  | .list a, .list b => sameItems a b
  | .map a, .map b => sameFields a b
  | _, _ => false

/-- Two lists have the same items in the same order. -/
def sameItems : List Value → List Value → Bool
  | [], [] => true
  | a :: as, b :: bs => same a b && sameItems as bs
  | _, _ => false

/-- Two maps have the same names with the same values. -/
def sameFields : List (String × Value) → List (String × Value) → Bool
  | [], [] => true
  | (m, a) :: as, (n, b) :: bs => m == n && same a b && sameFields as bs
  | _, _ => false

end

end Value

end Formulary
