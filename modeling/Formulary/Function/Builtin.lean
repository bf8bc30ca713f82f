import Formulary.Calendar.Reading
import Formulary.Function.Like
import Formulary.Text.Identifier

/-!
# The functions of the language

One table lists every function with the kinds of its parameters, how it is carried
out, how the database writes it and what the catalog says.  Unless its doc comment
says otherwise, a function with a null argument is null.
-/

namespace Formulary

/-- What the functions take from outside.  All of it is held fixed for a command, so that
a call gives the same as often as it is made: a clock that goes on within a command, a salt
that is drawn for each hash, and a hash that fails are left out. -/
structure Surroundings where
  /-- The date as a text. -/
  today : String
  /-- The date and the time of day as a text. -/
  now : String
  /-- A salted hash for passwords.  The salt is one for all calls, and equal passwords have
  equal hashes. -/
  hashPassword : String → String

/-- How a function of the language is carried out. -/
inductive BuiltinAction where
  /-- All arguments are evaluated first. -/
  | eager (function : Surroundings → Native)
  /-- The first argument decides which of the other two is evaluated. -/
  | conditional

/-- A function of the language. -/
structure Builtin where
  name : String
  /-- The kind of its results from arguments that are not null. -/
  returns : ParamKind
  params : List ParamKind
  action : BuiltinAction
  /-- How the database writes it; none if it does not know it. -/
  sql : Option SqlMapping
  category : String
  description : String
  usage : String

namespace Builtin

/-! ## Errors -/

/-- A wrong number of arguments. -/
def arityError (function : String) (expected : Nat) (args : List Value) : FunctionError :=
  .arity function expected args.length

/-- A wrong kind of argument. -/
def typeError (function : String) (position : Nat) (expected : ParamKind) (actual : Value) :
    FunctionError :=
  .argumentType function position expected actual.kind

/-! ## Dates -/

/-- A text that is there without arguments. -/
def constant (function : String) (text : String) : Native
  | [] => .ok (.string text)
  | args => .error (arityError function 0 args)

/-- The date a number of days after a date. -/
def dateAdd : Native
  | [.null, _] => .ok .null
  | [_, .null] => .ok .null
  | [.string text, days] =>
    match days.int? with
    | none => .error (typeError "DATE_ADD" 2 .integer days)
    | some count =>
      match Date.read? text with
      | none => .error (.invalidArgument "DATE_ADD" s!"date format invalid: {text}")
      | some date =>
        match date.addDays? count.toInt with
        | some shifted => .ok (.string shifted.text)
        | none =>
          .error (.invalidArgument "DATE_ADD"
            (s!"date out of range: {text} + " ++ Integer.text count ++ " days"))
  | [date, _] => .error (typeError "DATE_ADD" 1 .text date)
  | args => .error (arityError "DATE_ADD" 2 args)

/-! ## Texts -/

/-- A function of one text. -/
def ofText (function : String) (result : String → Value) : Native
  | [.null] => .ok .null
  | [.string s] => .ok (result s)
  | [other] => .error (typeError function 1 .text other)
  | args => .error (arityError function 1 args)

/-- The number of characters of a text. -/
def length (s : String) : Value :=
  .int (Int64.ofInt s.toList.length)

/-- A test for a text in another; a null is nowhere, and nowhere in a null. -/
def like (function : String) (pattern : LikePattern) : Native
  | [.null, _] => .ok (.bool false)
  | [_, .null] => .ok (.bool false)
  | [.string subject, .string text] => .ok (.bool (pattern.found subject text))
  | [.string _, other] => .error (typeError function 2 .text other)
  | [other, _] => .error (typeError function 1 .text other)
  | args => .error (arityError function 2 args)

/-! ## Rounding -/

/-- Half-up rounding to a number of decimal places, negative ones counted to the left of
the point: the scaled number and one half, rounded down and scaled back. -/
def roundHalfUp (x : Binary64) (places : Int) : Binary64 :=
  let power := Binary64.powerOfTen places.natAbs
  if 0 ≤ places then
    (((x.mul power).add Binary64.half).floor).div power
  else
    (((x.div power).add Binary64.half).floor).mul power

/-- The greatest number of places, at either side of the point, that rounding counts. -/
def greatestPlaces : Int := 308

/-- The number of places that rounding counts. -/
def clampPlaces (places : Int) : Int :=
  max (-greatestPlaces) (min greatestPlaces places)

/-- A number rounded half-up to a number of decimal places. -/
def round : Native
  | [.null, _] => .ok .null
  | [_, .null] => .ok .null
  | [value, places] =>
    match value.float?, places.int? with
    | none, _ => .error (typeError "ROUND" 1 .number value)
    | some _, none => .error (typeError "ROUND" 2 .integer places)
    | some x, some places => .ok (.float (roundHalfUp x (clampPlaces places.toInt)))
  | args => .error (arityError "ROUND" 2 args)

/-! ## The table -/

/-- Every function of the language. -/
def all : List Builtin :=
  [{ name := "TODAY"
     returns := .text
     params := []
     action := .eager fun surroundings => constant "TODAY" surroundings.today
     sql := some (.keyword "CURDATE()")
     category := "Date"
     description := "Returns today's date (YYYY-MM-DD)"
     usage := "TODAY()" },
   { name := "NOW"
     returns := .text
     params := []
     action := .eager fun surroundings => constant "NOW" surroundings.now
     sql := some (.keyword "NOW()")
     category := "Date"
     description := "Returns current date/time (YYYY-MM-DD HH:MM:SS)"
     usage := "NOW()" },
   { name := "DATE_ADD"
     returns := .text
     params := [.text, .integer]
     action := .eager fun _ => dateAdd
     sql := some .addDays
     category := "Date"
     description := "Adds days to a date"
     usage := "DATE_ADD(date, days)" },
   { name := "LEN"
     returns := .integer
     params := [.text]
     action := .eager fun _ => ofText "LEN" length
     sql := some (.call "CHAR_LENGTH")
     category := "Text"
     description := "Length of string in characters"
     usage := "LEN(text)" },
   { name := "UPPER"
     returns := .text
     params := [.text]
     action := .eager fun _ => ofText "UPPER" fun s => .string (Text.upper s)
     sql := some (.call "UPPER")
     category := "Text"
     description := "Converts to uppercase"
     usage := "UPPER(text)" },
   { name := "LOWER"
     returns := .text
     params := [.text]
     action := .eager fun _ => ofText "LOWER" fun s => .string (Text.lower s)
     sql := some (.call "LOWER")
     category := "Text"
     description := "Converts to lowercase"
     usage := "LOWER(text)" },
   { name := "CONTAINS"
     returns := .bool
     params := [.text, .text]
     action := .eager fun _ => like "CONTAINS" .contains
     sql := some (.like .contains)
     category := "Text"
     description := "True when text contains the given substring"
     usage := "CONTAINS(text, 'substring')" },
   { name := "STARTS_WITH"
     returns := .bool
     params := [.text, .text]
     action := .eager fun _ => like "STARTS_WITH" .startsWith
     sql := some (.like .startsWith)
     category := "Text"
     description := "True when text starts with the given prefix"
     usage := "STARTS_WITH(text, 'prefix')" },
   { name := "ENDS_WITH"
     returns := .bool
     params := [.text, .text]
     action := .eager fun _ => like "ENDS_WITH" .endsWith
     sql := some (.like .endsWith)
     category := "Text"
     description := "True when text ends with the given suffix"
     usage := "ENDS_WITH(text, 'suffix')" },
   { name := "ROUND"
     returns := .number
     params := [.number, .integer]
     action := .eager fun _ => round
     sql := some .roundHalfUp
     category := "Math"
     description := "Rounds a number half-up to the specified precision"
     usage := "ROUND(number, precision)" },
   { name := "IF"
     returns := .any
     params := [.bool, .any, .any]
     action := .conditional
     sql := some (.call "IF")
     category := "Logic"
     description := "Conditional logic"
     usage := "IF(condition, true_val, false_val)" },
   { name := "BCRYPT"
     returns := .text
     params := [.text]
     action := .eager fun surroundings =>
       ofText "BCRYPT" fun s => .string (surroundings.hashPassword s)
     sql := none
     category := "Security"
     description := "Hashes a password with bcrypt"
     usage := "BCRYPT(password)" }]

/-- The function of the language with a name, in letters of either case. -/
def lookup? (name : String) : Option Builtin :=
  all.find? fun builtin => builtin.name == Text.upper name

/-- What the catalog says of a function. -/
def definition (builtin : Builtin) : FunctionDefinition where
  name := builtin.name
  category := builtin.category
  description := builtin.description
  usage := builtin.usage

/-- The function as formulas call it. -/
def toEntry (surroundings : Surroundings) (builtin : Builtin) : FunctionEntry where
  name := builtin.name
  arity := .exact builtin.params.length
  params := builtin.params
  implementation := match builtin.action with
    | .eager function => .native (function surroundings)
    | .conditional => .conditional
  sql := builtin.sql
  definition := some builtin.definition

end Builtin

end Formulary
