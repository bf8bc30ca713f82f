import Formulary.Command.Run
import Formulary.Digest.Bcrypt
import Std.Time

/-!
# The command line

Runs a command on the machine: its files, its clock and its environment.
-/

namespace Formulary.Machine

/-- What is at a path. -/
def textAt (path : String) : IO FileText := do
  try return .found (← IO.FS.readFile path)
  catch _ =>
    if ← ((← IO.currentDir) / path).pathExists then return .unreadable
    else return .absent

/-- Opens a log file in a directory, which is made if need be. -/
def openLog (directory name : String) : IO Bool := do
  try
    unless directory.isEmpty do
      IO.FS.createDirAll directory
    let path := if directory.isEmpty then name else directory ++ "/" ++ name
    let _ ← IO.FS.Handle.mk path .append
    return true
  catch _ => return false

/-- The machine as a host. -/
def host : Host IO := ⟨textAt, openLog, Yaml.parse?⟩

/-- The text of the environment file of the directory, or of the nearest one above it
that has one. -/
def environmentFile : Nat → String → IO (Option String)
  | 0, _ => return none
  | levels + 1, path => do
    match ← textAt path with
    | .found text => return some text
    | _ => environmentFile levels ("../" ++ path)

/-- The names in a text that may be names of variables. -/
def namesIn (text : String) : List String :=
  ((text.map fun c => if EnvFile.isNameChar c then c else ' ').splitOn " ").filter (!·.isEmpty)

/-- The variables of the machine under some names. -/
def environment (names : List String) : IO Environment :=
  names.foldlM (fun (found : Environment) name => do
    match ← IO.getEnv name with
    | none => return found
    | some value => return found.insert name value) []

/-- The names of the variables that settings come from. -/
def settingNames : List String :=
  ["RUST_LOG", "LOG_FORMAT", "LOG_OUTPUT", "LOG_DIR", "FORMULA_CONFIG",
    "FORMULA_ALLOWED_COLUMNS", "FORMULA_SOFT_DELETE_FIELD"]

/-- The cost of a password hash. -/
def hashCost : Nat := 10

/-- The date and the time of day of the machine, and hashes with a salt of its own.  Both are
taken once for a command: a later call of `NOW` gives the same time, and `BCRYPT` the same hash
for the same password. -/
def surroundings : IO Surroundings := do
  let now ← Std.Time.PlainDateTime.now
  let salt ← IO.getRandomBytes 16
  let date : Date := ⟨now.date.year.toInt, now.date.month.toNat, now.date.day.toNat⟩
  let two (n : Int) := String.ofList (Date.padded 2 n.toNat)
  let time := String.intercalate ":"
    [two now.time.hour.val, two now.time.minute.val, two now.time.second.val]
  return ⟨date.text, date.text ++ " " ++ time, Bcrypt.hash hashCost salt.data⟩

/-- Runs a command line and writes what comes of it. -/
def run (words : List String) : IO Outcome := do
  let depth := (← IO.currentDir).components.length
  let file ← environmentFile depth ".env"
  let environment ← environment (settingNames ++ namesIn (file.getD ""))
  let outcome ← CommandLine.run host (← surroundings) environment file words
  IO.print outcome.output
  IO.eprint outcome.complaint
  return outcome

end Formulary.Machine

/-- The command. -/
def main (words : List String) : IO UInt32 := do
  return UInt32.ofNat (← Formulary.Machine.run words).exitCode
