import Formulary.Command.Basic
import Formulary.Config.Settings
import Formulary.Engine
import Formulary.Template

/-!
# Running commands

What a command line does and tells.  What a formula turns out to be, an error included,
is told as an object on the output.  What is wrong with the files or words that were
given is told as one line.

Files are read through the host of the command, so the same definitions run on a
machine and on a directory that is a value.
-/

namespace Formulary

/-- Why a command does not come to a formula. -/
inductive CommandError where
  /-- There are no settings. -/
  | settings (source : SettingsError)
  /-- The file with the fields cannot be read. -/
  | unreadableContext (path : String)
  /-- The fields are no text of JSON. -/
  | contextSyntax
  /-- The fields are not an object. -/
  | contextKind (kind : String)
  /-- The fields are no context of a record. -/
  | recordContext
  /-- The function of a rollup is unknown. -/
  | rollup (source : Sql.RollupError)
  deriving DecidableEq

/-- The message of an error. -/
def CommandError.message : CommandError → String
  | .settings _ => "Failed to load configuration"
  | .unreadableContext path => "Failed to read context file " ++ path
  | .contextSyntax => "Context must be a JSON object"
  | .contextKind kind => "Context must be a JSON object, got " ++ kind
  | .recordContext => "Invalid formula context"
  | .rollup source => source.message

/-- What a command line ends in. -/
inductive Outcome where
  /-- A report on the output, of a success or of a failure. -/
  | reported (success : Bool) (report : Json)
  /-- Help on a command or on all. -/
  | help (form : CommandForm)
  /-- The version. -/
  | version
  /-- An error before there is anything to report. -/
  | failed (error : CommandError)
  /-- Words that cannot be followed. -/
  | misused (error : UsageError)
  /-- There is no place for the log. -/
  | unlogged

/-! ## Reports -/

namespace Report

/-- The report of a result. -/
def success (result : Json) : Outcome :=
  .reported true (.object [("result", result), ("success", .bool true)])

/-- The report of an error. -/
def failure (kind message : String) : Outcome :=
  .reported false
    (.object [("error", .string message), ("kind", .string kind), ("success", .bool false)])

/-- The report of a result or of an error. -/
def ofExcept {ε α : Type} (toJson : α → Json) (kind message : ε → String) :
    Except ε α → Outcome
  | .ok result => success (toJson result)
  | .error e => failure (kind e) (message e)

/-- The report of an evaluation. -/
def ofEvaluation {α : Type} (toJson : α → Json) : Except EngineError α → Outcome :=
  ofExcept toJson EngineError.step EngineError.message

/-- A predicate in a report. -/
def predicate (predicate : Sql.Predicate) : Json :=
  .object
    [("params", .array (predicate.params.map fun param => (Value.ofLiteral param).toJson)),
     ("sql", .string predicate.sql)]

/-- An item of the catalog in a report. -/
def definition (definition : FunctionDefinition) : Json :=
  .object
    [("category", .string definition.category), ("description", .string definition.description),
     ("name", .string definition.name), ("usage", .string definition.usage)]

/-- The report of the catalog. -/
def catalog (definitions : List FunctionDefinition) : Outcome :=
  .reported true
    (.object [("functions", .array (definitions.map definition)), ("success", .bool true)])

end Report

/-! ## Fields -/

namespace FieldSource

variable {m : Type → Type} [Monad m]

/-- The value that a text of fields writes. -/
def ofText (text : String) : Except CommandError Value :=
  match Value.ofJsonText? text with
  | none => .error .contextSyntax
  | some value => .ok value

/-- The value that the fields are given as. -/
def read (host : Host m) : FieldSource → m (Except CommandError Value)
  | .nothing => return .ok (.map [])
  | .inline text => return ofText text
  | .file path => do
    match ← host.textAt path with
    | .found text => return ofText text
    | _ => return .error (.unreadableContext path)

/-- The fields of a value, which has to be a map. -/
def fieldsOf : Value → Except CommandError (Fields Value)
  | .map fields => .ok fields
  | value => .error (.contextKind value.kind)

/-- The context of a record that a value writes. -/
def recordOf (value : Value) : Except CommandError RecordContext :=
  match RecordContext.ofValue? value with
  | none => .error .recordContext
  | some context => .ok context

end FieldSource

/-! ## Commands -/

namespace Command

/-- What comes of evaluating a formula with the fields that a value is. -/
def evaluation (engine : Engine) (formula : String) (mode : EvaluationMode) (value : Value) :
    Except CommandError Outcome :=
  match mode with
  | .value => do
    let fields ← FieldSource.fieldsOf value
    return Report.ofEvaluation Value.toJson (engine.evaluate formula fields).1
  | .condition => do
    let fields ← FieldSource.fieldsOf value
    return Report.ofEvaluation Json.bool (engine.evaluateCondition formula fields).1
  | .formula => do
    let context ← FieldSource.recordOf value
    return Report.ofEvaluation Value.toJson (engine.evaluateFormula formula context).1

/-- What comes of replacing the names in a template by the fields that a value is. -/
def substitution (template : String) (value : Value) : Except CommandError Outcome := do
  let fields ← FieldSource.fieldsOf value
  return Report.success (.string (Template.substitute template fields))

/-- The columns that a predicate may use: those that are named, or those of the settings
if none is. -/
def predicateColumns (settings : SqlSettings) (columns : List String) : Sql.Columns :=
  if columns.isEmpty then settings.columns else some columns

/-- What comes of a predicate that is compiled under a restriction. -/
def predicateOutcome (columns : Sql.Columns) (formula : String) : Outcome :=
  Report.ofExcept Report.predicate Sql.Error.step Sql.Error.message (Sql.compile columns formula)

/-- What comes of a rollup whose filter is compiled under a restriction. -/
def rollupOutcome (columns : Sql.Columns) (softDeleteField : String)
    (function child relationship : String) (field filter : Option String) (parent : String) :
    Except CommandError Outcome :=
  match Sql.RollupFunction.parse function with
  | .error e => .error (.rollup e)
  | .ok function =>
    let rollup : Sql.Rollup :=
      ⟨function, child, relationship, field, filter, softDeleteField, columns⟩
    .ok (Report.ofExcept Report.predicate (fun _ => "rollup") Sql.RollupError.message
      (rollup.statement parent))

variable {m : Type → Type} [Monad m]

/-- What comes of a command. -/
def run (host : Host m) (surroundings : Surroundings) (settings : Settings) :
    Command → m (Except CommandError Outcome)
  | .evaluate formula fields mode => do
    return (← fields.read host).bind (evaluation (.new surroundings) formula mode)
  | .validate formula =>
    return .ok (Report.ofEvaluation (fun _ => .bool true)
      ((Engine.new surroundings).validate formula).1)
  | .predicate formula columns =>
    return .ok (predicateOutcome (predicateColumns settings.sql columns) formula)
  | .functions => return .ok (Report.catalog (Engine.new surroundings).definitions)
  | .rollup function child relationship field filter parent =>
    return rollupOutcome settings.sql.columns settings.sql.softDeleteField function child
      relationship field filter parent
  | .substitute template fields => do return (← fields.read host).bind (substitution template)

end Command

/-! ## Command lines -/

namespace CommandLine

variable {m : Type → Type} [Monad m]

/-- The name of the log file of a day. -/
def logName (surroundings : Surroundings) : String :=
  "formula.log." ++ surroundings.today

/-- Opens the log if the settings ask for one in a file, and tells whether all is well. -/
def openLog (host : Host m) (surroundings : Surroundings) (settings : LoggingSettings) : m Bool :=
  if settings.toFile then host.openLog settings.directory (logName surroundings)
  else return true

/-- What comes of an action on the settings of a request. -/
def runWith (host : Host m) (surroundings : Surroundings) (environment : Environment)
    (named : Option String) (action : Settings → m (Except CommandError Outcome)) : m Outcome := do
  match ← Settings.discover host environment named with
  | .error e => return .failed (.settings e)
  | .ok settings =>
    if ← openLog host surroundings settings.logging then
      match ← action settings with
      | .error e => return .failed e
      | .ok outcome => return outcome
    else
      return .unlogged

/-- What comes of a request. -/
def runRequest (host : Host m) (surroundings : Surroundings) (environment : Environment)
    (asked : Request) : m Outcome :=
  runWith host surroundings environment asked.settings (asked.command.run host surroundings)

/-- What comes of the words of a command line.  The environment file, if there is one,
adds to the environment first. -/
def run (host : Host m) (surroundings : Surroundings) (environment : Environment)
    (environmentFile : Option String) (words : List String) : m Outcome :=
  match ofWords words with
  | .help form => return .help form
  | .version => return .version
  | .misused error => return .misused error
  | .request asked =>
    let environment := match environmentFile with
      | none => environment
      | some text => EnvFile.load environment text
    runRequest host surroundings environment asked

end CommandLine

/-! ## Exit codes and texts -/

namespace CommandForm

/-- The lines of help on a form. -/
def help (form : CommandForm) (commands : List CommandForm) : String :=
  let option (o : OptionForm) := "  --" ++ o.name ++ "\n      " ++ o.about ++ "\n"
  let command (c : CommandForm) := "  " ++ c.name ++ "\n      " ++ c.about ++ "\n"
  form.about ++ "\n\nUsage: " ++ String.intercalate " " (form.name :: "[OPTIONS]" ::
    (form.words ++ if commands.isEmpty then [] else ["COMMAND"])) ++ "\n"
    ++ (if commands.isEmpty then "" else "\nCommands:\n")
    ++ String.join (commands.map command)
    ++ "\nOptions:\n" ++ String.join (form.options.map option)

end CommandForm

namespace Outcome

/-- The code that a command ends with. -/
def exitCode : Outcome → Nat
  | .reported success _ => if success then 0 else 1
  | .help _ => 0
  | .version => 0
  | .failed _ => 1
  | .misused _ => 2
  | .unlogged => 101

/-- The name and number of the version. -/
def versionText : String := "formula 0.1.0\n"

/-- What is written on the output. -/
def output : Outcome → String
  | .reported _ report => report.indented ++ "\n"
  | .help form =>
    form.help (if form.name == Command.topForm.name then Command.forms else [])
  | .version => versionText
  | _ => ""

/-- What is written on the error output. -/
def complaint : Outcome → String
  | .failed error => "Error: " ++ error.message ++ "\n"
  | .misused error => "error: " ++ error.message ++ "\n"
  | .unlogged => "error: the log file cannot be opened\n"
  | _ => ""

/-- The first line about an error before there was anything to report. -/
def errorLine? : Outcome → Option String
  | .failed error =>
    let line := error.message.toList.takeWhile (· != '\n')
    some ("Error: " ++ String.ofList
      (if line.getLast? == some '\r' then line.dropLast else line))
  | _ => none

end Outcome

end Formulary
