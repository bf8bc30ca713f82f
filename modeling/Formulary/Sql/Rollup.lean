import Formulary.Sql.Compiler
import Formulary.Text.Shown
import Formulary.Value.Json

/-!
# Rollups

A rollup sums up the child records of one parent: it counts them, or takes the sum,
the least, the greatest or the mean of a field.  Deleted children are left out, and a
formula may narrow the rest.  Names of tables and columns are plain identifiers in
back quotes, so no name can leave its place.
-/

namespace Formulary

namespace Sql

/-! ## Functions -/

/-- What is made of the children. -/
inductive RollupFunction where
  | count | sum | min | max | avg
  deriving DecidableEq

namespace RollupFunction

/-- The name of a function in the database. -/
def name : RollupFunction → String
  | .count => "COUNT"
  | .sum => "SUM"
  | .min => "MIN"
  | .max => "MAX"
  | .avg => "AVG"

/-- Every function. -/
def all : List RollupFunction := [.count, .sum, .min, .max, .avg]

/-- The function with a name, in letters of either case and between blanks. -/
def ofText? (text : String) : Option RollupFunction :=
  all.find? fun function => function.name == Text.upper (Text.trim text)

/-- The value of a rollup from the raw answer of the database.  No answer and null both
mean that there are no children. -/
def finish (function : RollupFunction) (raw : Option Value) : Value :=
  match function, raw.filter fun value => !value.isNull with
  | .count, none => .int 0
  | .count, some value => (value.int?.map Value.int).getD value
  | .sum, none | .avg, none => .float (Binary64.zero false)
  | .sum, some value | .avg, some value => (value.float?.map Value.float).getD value
  | .min, none | .max, none => .null
  | .min, some value | .max, some value => value

end RollupFunction

/-! ## Errors -/

/-- Why there is no statement for a rollup. -/
inductive RollupError where
  /-- No function has the name. -/
  | unsupportedFunction (text : String)
  /-- A name is no plain identifier. -/
  | invalidIdentifier (name : String)
  /-- The function needs a field. -/
  | missingSummaryField (function : RollupFunction)
  /-- The filter is no predicate. -/
  | filter (source : Error)
  deriving DecidableEq

/-- The message of an error. -/
def RollupError.message : RollupError → String
  | .unsupportedFunction text => s!"Unsupported rollup type: {text}"
  | .invalidIdentifier name => "Invalid identifier: " ++ Text.shown name
  | .missingSummaryField function => function.name ++ " rollup requires a summary field"
  | .filter source => "Invalid rollup filter: " ++ source.message

/-- The function that a text names. -/
def RollupFunction.parse (text : String) : Except RollupError RollupFunction :=
  match ofText? text with
  | some function => .ok function
  | none => .error (.unsupportedFunction text)

/-! ## Statements -/

/-- A plain identifier in back quotes. -/
def quotedName (name : String) : Except RollupError String :=
  if Text.isIdentifier name then .ok ("\x60" ++ name ++ "\x60")
  else .error (.invalidIdentifier name)

/-- The column that tells deleted records, unless another is named. -/
def defaultSoftDeleteField : String := "is_deleted"

/-- What a rollup sums up. -/
structure Rollup where
  function : RollupFunction
  /-- The table of the children. -/
  child : String
  /-- The column of the children that holds the parent. -/
  relationship : String
  /-- The column that is summed up. -/
  summaryField : Option String
  /-- The formula that narrows the children. -/
  filter : Option String
  /-- The column that tells deleted children. -/
  softDeleteField : String
  /-- The columns that the filter may use. -/
  columns : Columns

namespace Rollup

/-- What the function is applied to: all rows, or a column. -/
def target (rollup : Rollup) : Except RollupError String :=
  match rollup.function, rollup.summaryField with
  | .count, _ => .ok "*"
  | _, some field => quotedName field
  | function, none => .error (.missingSummaryField function)

/-- The fragment of the filter, in parentheses; nothing if it has only blanks. -/
def filterPredicate (rollup : Rollup) : Except RollupError (Option Predicate) :=
  match rollup.filter with
  | none => .ok none
  | some text =>
    if Text.isAllBlank text then
      .ok none
    else
      match compile rollup.columns text with
      | .error e => .error (.filter e)
      | .ok predicate => .ok (some predicate)

/-- The statement for one parent.  The parent is bound first, then what the filter
binds. -/
def statement (rollup : Rollup) (parent : String) : Except RollupError Predicate := do
  let target ← rollup.target
  let child ← quotedName rollup.child
  let relationship ← quotedName rollup.relationship
  let softDelete ← quotedName rollup.softDeleteField
  let sql := "SELECT " ++ rollup.function.name ++ "(" ++ target ++ ") FROM " ++ child
    ++ " WHERE " ++ relationship ++ " = ? AND " ++ softDelete ++ " = false"
  match ← rollup.filterPredicate with
  | none => return ⟨sql, [.string parent]⟩
  | some filter =>
    return ⟨sql ++ " AND (" ++ filter.sql ++ ")", .string parent :: filter.params⟩

end Rollup

/-- The statement that writes a finished rollup into a parent. -/
def updateParent (table target : String) (value : Literal) (parent : String) :
    Except RollupError Predicate := do
  let table ← quotedName table
  let target ← quotedName target
  return ⟨"UPDATE " ++ table ++ " SET " ++ target ++ " = ? WHERE \x60id\x60 = ?",
    [value, .string parent]⟩

end Sql

end Formulary
