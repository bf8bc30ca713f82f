import Formulary.Expr.Form
import Formulary.Function.Builtin

/-!
# Formulas as database predicates

A formula is written as a database predicate in which every literal is a bound value: the
text has a question mark for it, and the value goes to the end of one list that grows while
the text is written.  Identifiers are columns and are written as they are; where a list of
columns is given, only those may occur.  A test for null is written as such, every operator
is in parentheses, and what the database would take for a number although the evaluator
never does is refused.
-/

namespace Formulary.Sql

/-! ## Errors -/

/-- Why a formula is no predicate. -/
inductive CompileError where
  /-- The database does not know the function. -/
  | unsupportedFunction (name : String)
  /-- The number of arguments is wrong. -/
  | arity (function : String) (expected actual : Nat)
  /-- An argument has to be a literal text.  Positions count from one. -/
  | literalRequired (function : String) (position : Nat)
  /-- A literal argument is of a wrong kind. -/
  | argumentType (function : String) (position : Nat) (expected : ParamKind) (actual : String)
  /-- An operator stands at a null. -/
  | nullOperand (op : String)
  /-- An operand can never be a number. -/
  | nonNumericOperand (op operand : String)
  /-- A column may not be used. -/
  | columnNotAllowed (column : String)
  deriving DecidableEq

/-- The message of an error. -/
def CompileError.message : CompileError → String
  | .unsupportedFunction name => s!"Unsupported function in SQL: {name}"
  | .arity function expected actual =>
    s!"{function} requires {expected} argument(s), got {actual}"
  | .literalRequired function position =>
    s!"{function} argument {position} must be a string literal"
  | .argumentType function position expected actual =>
    s!"{function} argument {position} must be " ++ expected.describe ++ s!", got {actual} literal"
  | .nullOperand op => s!"Operator {op} cannot take a null operand"
  | .nonNumericOperand op operand => s!"Operand of {op} is not numeric: {operand}"
  | .columnNotAllowed column => s!"Column not allowed: {column}"

/-- Why a text is no predicate. -/
inductive Error where
  /-- The text is no formula. -/
  | parse (source : ParseError)
  /-- The formula is no predicate. -/
  | compile (source : CompileError)
  deriving DecidableEq

namespace Error

/-- The name of the step that failed. -/
def step : Error → String
  | .parse _ => "parse"
  | .compile _ => "compile"

/-- The message of an error. -/
def message : Error → String
  | .parse source => "Failed to parse expression: " ++ source.message
  | .compile source => "Failed to compile expression: " ++ source.message

end Error

/-! ## Checks -/

/-- The columns that may be used; none means all. -/
abbrev Columns := Option (List String)

/-- A column may be used. -/
def Columns.allow (columns : Columns) (column : String) : Bool :=
  match columns with
  | none => true
  | some allowed => allowed.contains column

/-- An operand may be a number for all that its text shows. -/
def mayBeNumeric : Expr → Bool
  | .literal (.string s) => (Number.ofText? s).isSome
  | .literal (.bool _) => false
  | .call name _ =>
    match Builtin.lookup? name with
    | some builtin => builtin.returns != .text && builtin.returns != .bool
    | none => true
  | _ => true

/-- An operand of an arithmetic operator has to be a possible number. -/
def checkNumeric (op : String) (operand : Expr) : Except CompileError Unit :=
  if mayBeNumeric operand then .ok () else .error (.nonNumericOperand op operand.text)

/-- Literal arguments have to be of the kinds of their parameters.  Positions are counted
from the given one. -/
def checkLiterals (function : String) : Nat → List ParamKind → List Expr →
    Except CompileError Unit
  | position, kind :: kinds, .literal value :: args =>
    if kind.accepts (.ofLiteral value) then
      checkLiterals function (position + 1) kinds args
    else
      .error (.argumentType function (position + 1) kind value.kind)
  | position, _ :: kinds, _ :: args => checkLiterals function (position + 1) kinds args
  | _, _, _ => .ok ()

/-- A call has to have the arguments that its function takes. -/
def checkCall (builtin : Builtin) (args : List Expr) : Except CompileError Unit :=
  if args.length = builtin.params.length then
    checkLiterals builtin.name 0 builtin.params args
  else
    .error (.arity builtin.name builtin.params.length args.length)

/-! ## Writing -/

/-- A database text and the values bound to its question marks, in their order. -/
structure Predicate where
  sql : String
  params : List Literal
  deriving DecidableEq

/-- The symbol of an operator in the database. -/
def operatorText : BinaryOp → String
  | .eq => "="
  | .and => "AND"
  | .or => "OR"
  | op => op.symbol

/-- The test for null that a comparison with null stands for. -/
def nullTest? : BinaryOp → Option String
  | .eq => some "IS NULL"
  | .ne => some "IS NOT NULL"
  | _ => none

/-- A literal number of days is bound as an integer. -/
def daysValue (value : Literal) : Literal :=
  match (Value.ofLiteral value).int? with
  | some n => .int n
  | none => .null

/-! ### Texts of operators and functions -/

/-- Texts with commas between them. -/
def commaSeparated : List (List Char) → List Char
  | [] => []
  | [text] => text
  | text :: rest => text ++ ", ".toList ++ commaSeparated rest

def negText (operand : List Char) : List Char :=
  "(-".toList ++ operand ++ ")".toList

def binaryText (op : BinaryOp) (left right : List Char) : List Char :=
  "(".toList ++ left ++ (" " ++ operatorText op ++ " ").toList ++ right ++ ")".toList

def nullTestText (test : String) (operand : List Char) : List Char :=
  "(".toList ++ operand ++ (" " ++ test ++ ")").toList

def likeText (subject hole : List Char) : List Char :=
  "(".toList ++ subject ++ " LIKE ".toList ++ hole ++ ")".toList

def callText (function : String) (args : List (List Char)) : List Char :=
  (function ++ "(").toList ++ commaSeparated args ++ ")".toList

def addDaysText (date days : List Char) : List Char :=
  "DATE_ADD(".toList ++ date ++ ", INTERVAL ".toList ++ days ++ " DAY)".toList

/-- Half-up rounding, in which the number of places is written twice. -/
def roundText (x places : List Char) : List Char :=
  "(FLOOR(".toList ++ x ++ " * POW(10, ".toList ++ places ++ ") + 0.5) / POW(10, ".toList
    ++ places ++ "))".toList

/-! ### Emission -/

/-- The text that is written, and all values bound up to its end. -/
abbrev Emitted := List Char × List Literal

/-- What writes a formula behind the values that are bound already. -/
abbrev Writer := List Literal → Except CompileError Emitted

/-- A value is bound: a question mark is written, and the value goes to the end. -/
def bind (value : Literal) (params : List Literal) : Emitted :=
  (['?'], params ++ [value])

/-- One text after the other; the first error counts. -/
def emitAll : List Writer → List Literal →
    Except CompileError (List (List Char) × List Literal)
  | [], params => .ok ([], params)
  | writer :: rest, params =>
    match writer params with
    | .error e => .error e
    | .ok (text, params) =>
      match emitAll rest params with
      | .error e => .error e
      | .ok (texts, params) => .ok (text :: texts, params)

/-- The number of days of a date that is moved: a literal is bound as an integer. -/
def emitDays (days : Expr) (writer : Writer) : Writer := fun params =>
  match days with
  | .literal value => .ok (bind (daysValue value) params)
  | _ => writer params

/-- Writes a call, whose arguments come with what writes them.  The check of a call leaves no
other numbers of arguments. -/
def emitCall (function : String) :
    SqlMapping → List Expr → List Writer → Writer
  | .keyword text, _, _, params => .ok (text.toList, params)
  | .call name, _, writers, params =>
    match emitAll writers params with
    | .error e => .error e
    | .ok (texts, params) => .ok (callText name texts, params)
  | .addDays, [_, days], [date, count], params =>
    match date params with
    | .error e => .error e
    | .ok (dateText, params) =>
      match emitDays days count params with
      | .error e => .error e
      | .ok (daysText, params) => .ok (addDaysText dateText daysText, params)
  | .roundHalfUp, _, [x, places], params =>
    match x params with
    | .error e => .error e
    | .ok (xText, params) =>
      match places params with
      | .error e => .error e
      | .ok (placesText, more) =>
        -- the places are written twice, so their values are bound twice
        let repeated := more.drop params.length
        .ok (roundText xText placesText, more ++ repeated)
  | .like pattern, [_, text], [subject, _], params =>
    match text.stringLiteral? with
    | none => .error (.literalRequired function 2)
    | some text =>
      match subject params with
      | .error e => .error e
      | .ok (subjectText, params) =>
        let (hole, params) := bind (.string (pattern.pattern text)) params
        .ok (likeText subjectText hole, params)
  | _, _, _, params => .ok ([], params)

mutual

/-- Writes a formula. -/
def emit (columns : Columns) : Expr → Writer
  | .literal value, params => .ok (bind value params)
  | .identifier path, params =>
    if columns.allow path.text then .ok (path.text.toList, params)
    else .error (.columnNotAllowed path.text)
  | .neg operand, params =>
    if operand.isNullLiteral then
      .error (.nullOperand "-")
    else
      match checkNumeric "-" operand with
      | .error e => .error e
      | .ok () =>
        match emit columns operand params with
        | .error e => .error e
        | .ok (text, params) => .ok (negText text, params)
  | .binary op left right, params =>
    if left.isNullLiteral || right.isNullLiteral then
      match nullTest? op with
      | none => .error (.nullOperand op.symbol)
      | some test =>
        match if right.isNullLiteral then emit columns left params
          else emit columns right params with
        | .error e => .error e
        | .ok (text, params) => .ok (nullTestText test text, params)
    else
      match if op.isArithmetic then checkNumeric op.symbol left else .ok () with
      | .error e => .error e
      | .ok () =>
        match if op.isArithmetic then checkNumeric op.symbol right else .ok () with
        | .error e => .error e
        | .ok () =>
          match emit columns left params with
          | .error e => .error e
          | .ok (leftText, params) =>
            match emit columns right params with
            | .error e => .error e
            | .ok (rightText, params) => .ok (binaryText op leftText rightText, params)
  | .call name args, params =>
    match Builtin.lookup? name with
    | none => .error (.unsupportedFunction (Text.upper name))
    | some builtin =>
      match builtin.sql with
      | none => .error (.unsupportedFunction (Text.upper name))
      | some mapping =>
        match checkCall builtin args with
        | .error e => .error e
        | .ok () => emitCall builtin.name mapping args (writers columns args) params

/-- What writes each of some formulas. -/
def writers (columns : Columns) : List Expr → List Writer
  | [] => []
  | expr :: rest => emit columns expr :: writers columns rest

end

/-- The predicate of a formula. -/
def compileExpr (columns : Columns) (expr : Expr) : Except CompileError Predicate :=
  match emit columns expr [] with
  | .error e => .error e
  | .ok (text, params) => .ok ⟨String.ofList text, params⟩

/-- The predicate that a text writes. -/
def compile (columns : Columns) (text : String) : Except Error Predicate :=
  match parse text with
  | .error e => .error (.parse e)
  | .ok expr =>
    match compileExpr columns expr with
    | .error e => .error (.compile e)
    | .ok predicate => .ok predicate

end Formulary.Sql
