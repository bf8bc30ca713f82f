import Formulary.Value.Number

/-!
# Functions

What a function of the formula language is: a name, the kinds of its parameters, the
way it is carried out, and what the catalog and the database know of it.
-/

namespace Formulary

/-! ## Kinds of parameters -/

/-- What a parameter may be. -/
inductive ParamKind where
  | any | text | number | integer | bool
  deriving DecidableEq

namespace ParamKind

/-- The wording of a kind in messages. -/
def describe : ParamKind → String
  | .any => "any value"
  | .text => "string"
  | .number => "number"
  | .integer => "integer"
  | .bool => "boolean"

/-- A value is of a kind.  Null is of every kind but the truth values. -/
def accepts : ParamKind → Value → Bool
  | .any, _ => true
  | .bool, value => value.bool?.isSome
  | .text, value => value.isNull || value.string?.isSome
  | .number, value => value.isNull || value.float?.isSome
  | .integer, value => value.isNull || value.int?.isSome

end ParamKind

/-! ## Numbers of arguments -/

/-- How many arguments a function takes. -/
inductive Arity where
  /-- Just so many. -/
  | exact (count : Nat)
  /-- Any number. -/
  | variadic
  deriving DecidableEq

namespace Arity

/-- A number of arguments will do. -/
def accepts : Arity → Nat → Bool
  | .exact count, actual => count == actual
  | .variadic, _ => true

/-- The wording of a number of arguments in messages. -/
def text : Arity → String
  | .exact count => toString count
  | .variadic => "any number of"

end Arity

/-! ## Errors -/

/-- Why a function has no result. -/
inductive FunctionError where
  /-- The number of arguments is wrong. -/
  | arity (function : String) (expected actual : Nat)
  /-- An argument is of a wrong kind.  Positions count from one. -/
  | argumentType (function : String) (position : Nat) (expected : ParamKind) (actual : String)
  /-- An argument of the right kind cannot be used. -/
  | invalidArgument (function message : String)
  /-- The function gave up for a reason of its own. -/
  | failed (message : String)
  deriving DecidableEq

/-- The message of an error. -/
def FunctionError.message : FunctionError → String
  | .arity function expected actual =>
    s!"{function} requires {expected} argument(s), got {actual}"
  | .argumentType function position expected actual =>
    s!"{function} argument {position} must be " ++ expected.describe ++ s!", got {actual}"
  | .invalidArgument function message => s!"{function}: {message}"
  | .failed message => message

/-! ## Carrying out -/

/-- A function that gets the values of its arguments. -/
abbrev Native := List Value → Except FunctionError Value

/-- How a function is carried out. -/
inductive Implementation where
  /-- All arguments are evaluated first. -/
  | native (function : Native)
  /-- The first argument decides which of the other two is evaluated. -/
  | conditional

/-- The pattern that a text is looked for with. -/
inductive LikePattern where
  | contains | startsWith | endsWith
  deriving DecidableEq

/-- How a call is written in a database predicate. -/
inductive SqlMapping where
  /-- A database function with the same arguments. -/
  | call (function : String)
  /-- A fixed text. -/
  | keyword (text : String)
  /-- A date with a number of days added. -/
  | addDays
  /-- Rounding by scaling, adding one half and going down. -/
  | roundHalfUp
  /-- A text compared with a pattern. -/
  | like (pattern : LikePattern)
  deriving DecidableEq

/-- What the catalog says of a function. -/
structure FunctionDefinition where
  name : String
  category : String
  description : String
  usage : String
  deriving DecidableEq

/-- A function that formulas can call. -/
structure FunctionEntry where
  /-- The name, as messages write it. -/
  name : String
  /-- How many arguments it takes. -/
  arity : Arity
  /-- The kinds of its first parameters; every further one may be any value. -/
  params : List ParamKind
  /-- How it is carried out. -/
  implementation : Implementation
  /-- How the database writes it; none if only the evaluator knows it. -/
  sql : Option SqlMapping
  /-- What the catalog says of it; none if it is not listed. -/
  definition : Option FunctionDefinition

namespace FunctionEntry

/-- A function of the caller: it takes any arguments, and only the evaluator knows it. -/
def custom (name : String) (function : Native) : FunctionEntry where
  name := Text.upper name
  arity := .variadic
  params := []
  implementation := .native function
  sql := none
  definition := none

/-- The kind of the parameter at a position counted from zero. -/
def paramKind (entry : FunctionEntry) (position : Nat) : ParamKind :=
  entry.params.getD position .any

end FunctionEntry

end Formulary
