import Formulary.Command.Host
import Formulary.Config.EnvFile
import Formulary.Sql.Rollup

/-!
# Settings

What a command is told beside its arguments: how to log, which columns a predicate may
use, and which column tells deleted records.  The settings are read from a document;
the environment has the last word.
-/

namespace Formulary

/-- How a command logs. -/
structure LoggingSettings where
  /-- The least grave messages that are logged. -/
  level : String
  /-- The format of messages. -/
  format : String
  /-- Where messages go. -/
  output : String
  /-- The directory of log files. -/
  directory : String
  deriving DecidableEq

/-- What predicates and rollups may use. -/
structure SqlSettings where
  /-- The columns that may be used; all if there are none. -/
  allowedColumns : List String
  /-- The column that tells deleted records. -/
  softDeleteField : String
  deriving DecidableEq

/-- The settings of a command. -/
structure Settings where
  logging : LoggingSettings
  sql : SqlSettings
  deriving DecidableEq

/-- Why there are no settings. -/
inductive SettingsError where
  /-- The document cannot be read. -/
  | unreadable (path : String)
  /-- The document writes no settings. -/
  | malformed (path : String)
  deriving DecidableEq

/-! ## Nodes of documents -/

namespace Yaml

/-- The nodes under some names: in a mapping by name, in a sequence by position.  Other
names are passed over, but each name can be there only once. -/
def record? (names : List String) : Yaml → Option (Fields Yaml)
  | .scalar text plain => if text.isEmpty && plain then some [] else none
  | .sequence items =>
    if items.length ≤ names.length then some (Fields.ofList (names.zip items)) else none
  | .mapping entries => entries.foldlM
    (fun fields (key, node) =>
      match key with
      | .scalar name _ =>
        if !names.contains name then some fields
        else if fields.contains name then none
        else some (fields.insert name node)
      | _ => none)
    []

/-- The text of a scalar. -/
def text? : Yaml → Option String
  | .scalar text _ => some text
  | _ => none

/-- The texts of a sequence of scalars; the absent node is the empty sequence. -/
def texts? : Yaml → Option (List String)
  | .scalar text plain => if text.isEmpty && plain then some [] else none
  | .sequence items => items.mapM text?
  | .mapping _ => none

end Yaml

/-- What is made of the node under a name, or what stands in for a missing one. -/
def Fields.readOr {α : Type} (nodes : Fields Yaml) (name : String) (fallback : α)
    (read? : Yaml → Option α) : Option α :=
  match nodes.get? name with
  | none => some fallback
  | some node => read? node

/-! ## Settings from documents -/

namespace LoggingSettings

/-- The settings where nothing is said. -/
def standard : LoggingSettings := ⟨"warn", "compact", "stdout", "./logs"⟩

/-- The settings that a node writes. -/
def ofYaml? (node : Yaml) : Option LoggingSettings := do
  let nodes ← node.record? ["level", "format", "output", "directory"]
  let level ← nodes.readOr "level" standard.level Yaml.text?
  let format ← nodes.readOr "format" standard.format Yaml.text?
  let output ← nodes.readOr "output" standard.output Yaml.text?
  let directory ← nodes.readOr "directory" standard.directory Yaml.text?
  return ⟨level, format, output, directory⟩

/-- The settings with what the environment says in their place. -/
def override (environment : Environment) (settings : LoggingSettings) : LoggingSettings where
  level := (environment.get? "RUST_LOG").getD settings.level
  format := (environment.get? "LOG_FORMAT").getD settings.format
  output := (environment.get? "LOG_OUTPUT").getD settings.output
  directory := (environment.get? "LOG_DIR").getD settings.directory

/-- The settings as variables of the environment. -/
def toEnvironment (settings : LoggingSettings) : Environment :=
  Fields.ofList [("RUST_LOG", settings.level), ("LOG_FORMAT", settings.format),
    ("LOG_OUTPUT", settings.output), ("LOG_DIR", settings.directory)]

/-- Messages go to a file. -/
def toFile (settings : LoggingSettings) : Bool :=
  settings.output == "file" || settings.output == "both"

end LoggingSettings

namespace SqlSettings

/-- The settings where nothing is said. -/
def standard : SqlSettings := ⟨[], Sql.defaultSoftDeleteField⟩

/-- The settings that a node writes. -/
def ofYaml? (node : Yaml) : Option SqlSettings := do
  let nodes ← node.record? ["allowed_columns", "soft_delete_field"]
  let columns ← nodes.readOr "allowed_columns" standard.allowedColumns Yaml.texts?
  let field ← nodes.readOr "soft_delete_field" standard.softDeleteField Yaml.text?
  return ⟨columns, field⟩

/-- The names in a list with commas.  Blanks around names and empty names do not count. -/
def columnNames (text : String) : List String :=
  ((Text.cut ',' text).map Text.trim).filter fun name => !name.isEmpty

/-- The settings with what the environment says in their place. -/
def override (environment : Environment) (settings : SqlSettings) : SqlSettings where
  allowedColumns :=
    ((environment.get? "FORMULA_ALLOWED_COLUMNS").map columnNames).getD settings.allowedColumns
  softDeleteField :=
    (environment.get? "FORMULA_SOFT_DELETE_FIELD").getD settings.softDeleteField

/-- The columns that may be used, as a restriction of predicates. -/
def columns (settings : SqlSettings) : Sql.Columns :=
  if settings.allowedColumns.isEmpty then none else some settings.allowedColumns

end SqlSettings

namespace Settings

/-- The settings where nothing is said. -/
def standard : Settings := ⟨.standard, .standard⟩

/-- The settings that a node writes. -/
def ofYaml? (node : Yaml) : Option Settings := do
  let nodes ← node.record? ["logging", "sql"]
  let logging ← nodes.readOr "logging" standard.logging LoggingSettings.ofYaml?
  let sql ← nodes.readOr "sql" standard.sql SqlSettings.ofYaml?
  return ⟨logging, sql⟩

/-- The settings with what the environment says in their place. -/
def override (environment : Environment) (settings : Settings) : Settings :=
  ⟨settings.logging.override environment, settings.sql.override environment⟩

/-! ## The document of a command -/

/-- The document of a command that names none, if there is such a file. -/
def defaultPath : String := "formula.yaml"

/-- The settings that a document writes, if it is one. -/
def ofDocument (environment : Environment) (path : String) (document : Option Yaml) :
    Except SettingsError Settings :=
  match document.bind ofYaml? with
  | none => .error (.malformed path)
  | some settings => .ok (settings.override environment)

/-- The settings of the document that is named, first by the command and then by the
environment.  If none is named, the default document need not be there. -/
def discover {m : Type → Type} [Monad m] (host : Host m) (environment : Environment)
    (named : Option String) : m (Except SettingsError Settings) := do
  let chosen := named.orElse fun _ => environment.get? "FORMULA_CONFIG"
  let path := chosen.getD defaultPath
  match ← host.textAt path with
  | .found text => return ofDocument environment path (host.document? text)
  | .absent =>
    if chosen.isNone then return .ok (standard.override environment)
    else return .error (.unreadable path)
  | .unreadable => return .error (.unreadable path)

end Settings

end Formulary
