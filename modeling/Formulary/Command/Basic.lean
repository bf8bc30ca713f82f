import Formulary.Command.Arguments

/-!
# Commands

The commands on formulas and what each takes.
-/

namespace Formulary

/-- Where the fields for an evaluation come from. -/
inductive FieldSource where
  /-- There are none. -/
  | nothing
  /-- The text of an object. -/
  | inline (text : String)
  /-- A file with the text of an object. -/
  | file (path : String)
  deriving DecidableEq

/-- How an evaluation takes the fields, and what it makes of them. -/
inductive EvaluationMode where
  /-- Any value, of the fields by their names. -/
  | value
  /-- A truth value, of the fields by their names. -/
  | condition
  /-- Any value, in the context of a record. -/
  | formula
  deriving DecidableEq

/-- A command. -/
inductive Command where
  /-- The value of a formula. -/
  | evaluate (formula : String) (fields : FieldSource) (mode : EvaluationMode)
  /-- Whether a formula can be read and bound. -/
  | validate (formula : String)
  /-- The predicate of a formula, with the columns that it may use. -/
  | predicate (formula : String) (columns : List String)
  /-- The catalog of functions. -/
  | functions
  /-- The statement of a rollup. -/
  | rollup (function child relationship : String) (field filter : Option String)
      (parent : String)
  /-- A template with its names replaced. -/
  | substitute (template : String) (fields : FieldSource)
  deriving DecidableEq

/-- What the words of a command line ask for. -/
structure Request where
  /-- The settings document, if one is named. -/
  settings : Option String
  command : Command
  deriving DecidableEq

namespace Command

/-! ## Forms -/

/-- The option that every command takes. -/
def settingsOption : OptionForm := ⟨"config", .path, "Path to formula.yaml"⟩

/-- The options for fields. -/
def fieldOptions : List OptionForm :=
  [⟨"context", .text, "Inline JSON object"⟩,
   ⟨"context-file", .path, "File containing a JSON object"⟩]

/-- The form of every command. -/
def forms : List CommandForm :=
  [{ name := "eval"
     about := "Evaluate an expression against a JSON context"
     words := ["EXPR"]
     options := fieldOptions ++
      [⟨"formula", .flag,
        "Treat the context as \x7b\"record\", \"prior\", \"user\", \"env\", ...\x7d"⟩,
       ⟨"condition", .flag, "Require a boolean result"⟩, settingsOption]
     excluded := [("context", "context-file"), ("condition", "formula")] },
   { name := "validate"
     about := "Check that an expression parses and binds"
     words := ["EXPR"]
     options := [settingsOption]
     excluded := [] },
   { name := "sql"
     about := "Compile an expression into a parameterized SQL predicate"
     words := ["EXPR"]
     options :=
      [⟨"column", .texts, "Allowed column (repeatable); overrides the configured allow-list"⟩,
       settingsOption]
     excluded := [] },
   { name := "functions"
     about := "List the builtin function catalog"
     words := []
     options := [settingsOption]
     excluded := [] },
   { name := "rollup"
     about := "Build a rollup aggregate query for one parent record"
     words := ["PARENT_ID"]
     options :=
      [⟨"function", .text, "COUNT, SUM, MIN, MAX or AVG"⟩,
       ⟨"child", .text, "Child object (table) name"⟩,
       ⟨"relationship", .text, "Field on the child pointing at the parent"⟩,
       ⟨"field", .text, "Summarized field, required for everything but COUNT"⟩,
       ⟨"filter", .text, "Formula narrowing the child records"⟩, settingsOption]
     excluded := [] },
   { name := "substitute"
     about := "Replace \x7bField\x7d placeholders in a template with record values"
     words := ["TEMPLATE"]
     options := fieldOptions ++ [settingsOption]
     excluded := [("context", "context-file")] }]

/-- What stands before the name of a command. -/
def topForm : CommandForm where
  name := "formula"
  about := "Formula expression toolkit"
  words := []
  options := [settingsOption]
  excluded := []

/-- The form of the command with a name. -/
def form? (name : String) : Option CommandForm :=
  forms.find? fun form => form.name == name

/-! ## Commands from arguments -/

/-- Where the arguments say that fields come from. -/
def fieldSource (arguments : Arguments) : FieldSource :=
  match arguments.value? "context", arguments.value? "context-file" with
  | some text, _ => .inline text
  | none, some path => .file path
  | none, none => .nothing

/-- How the arguments say that an evaluation is done. -/
def evaluationMode (arguments : Arguments) : EvaluationMode :=
  if arguments.has "formula" then .formula
  else if arguments.has "condition" then .condition
  else .value

/-- The command of a name that arguments make. -/
def ofArguments (name : String) (arguments : Arguments) : Except UsageError Command :=
  match name with
  | "eval" => do
    let formula ← arguments.requireWord "EXPR"
    return .evaluate formula (fieldSource arguments) (evaluationMode arguments)
  | "validate" => do return .validate (← arguments.requireWord "EXPR")
  | "sql" => do return .predicate (← arguments.requireWord "EXPR") (arguments.values "column")
  | "functions" => .ok .functions
  | "rollup" => do
    let function ← arguments.requireValue "function"
    let child ← arguments.requireValue "child"
    let relationship ← arguments.requireValue "relationship"
    let parent ← arguments.requireWord "PARENT_ID"
    return .rollup function child relationship (arguments.value? "field")
      (arguments.value? "filter") parent
  | "substitute" => do
    return .substitute (← arguments.requireWord "TEMPLATE") (fieldSource arguments)
  | _ => .error (.unknownCommand name)

end Command

/-! ## Command lines -/

/-- What a command line asks for: help on a command or on all, the version or a request,
unless it cannot be followed. -/
inductive CommandLine where
  | help (form : CommandForm)
  | version
  | misused (error : UsageError)
  | request (request : Request)

namespace CommandLine

/-- What an interruption of the reading of a command asks for. -/
def ofInterruption (form : CommandForm) : Interruption → CommandLine
  | .help => .help form
  | .wrong error => .misused error

/-- What the words after the name of a command ask for.  What they say of the settings
goes before what was said earlier. -/
def ofCommandWords (settings : Option String) (name : String) (words : List String) :
    CommandLine :=
  match Command.form? name with
  | none => .misused (.unknownCommand name)
  | some form =>
    match Arguments.parse form words with
    | .error interruption => ofInterruption form interruption
    | .ok arguments =>
      match Command.ofArguments name arguments with
      | .error error => .misused error
      | .ok command => .request ⟨(arguments.value? "config").orElse fun _ => settings, command⟩

/-- What the words after `help` ask for. -/
def ofHelpWords : List String → CommandLine
  | [] => .help Command.topForm
  | [name] =>
    match Command.form? name with
    | some form => .help form
    | none => if name == "help" then .help Command.topForm else .misused (.unknownCommand name)
  | _ :: word :: _ => .misused (.unknownCommand word)

/-- What the words before the name of a command and all further ones ask for. -/
def ofTopWords (arguments : Arguments) : Arguments.Pending → List String → CommandLine
  | none, [] => .misused .missingCommand
  | some option, [] => .misused (.missingValue option.name)
  | pending, word :: rest =>
    match pending, Word.of word with
    | none, .plain =>
      if word == "help" then ofHelpWords rest
      else ofCommandWords (arguments.value? "config") word rest
    | none, .divider => .misused .missingCommand
    | none, .short 'V' => .version
    | none, .long "version" none => .version
    | _, _ =>
      match Arguments.addNext Command.topForm arguments word pending with
      | .error interruption => ofInterruption Command.topForm interruption
      | .ok (arguments, pending) => ofTopWords arguments pending rest

/-- What a command line asks for. -/
def ofWords (words : List String) : CommandLine :=
  ofTopWords .empty none words

end CommandLine

end Formulary
