import Formulary.Config.Yaml
import Formulary.Fields
import Formulary.Text.Pieces

/-!
# Where a command runs

A command reads files, makes nodes of the documents among them, and may open a log file.  A
host says how that is done; one host is the machine itself, and another is a directory that
is a value.
-/

namespace Formulary

/-- What is found at a path. -/
inductive FileText where
  /-- Nothing is there. -/
  | absent
  /-- There is something, but no file with a text. -/
  | unreadable
  /-- A file with a text. -/
  | found (text : String)
  deriving DecidableEq

/-- The text that is found. -/
def FileText.text? : FileText → Option String
  | .found text => some text
  | _ => none

/-- How a command reads and writes files. -/
structure Host (m : Type → Type) where
  /-- What is at a path. -/
  textAt : String → m FileText
  /-- Opens the file of a name in a directory, making the directory if need be, and tells
  whether it could. -/
  openLog : String → String → m Bool
  /-- The node that the text of a document writes; none if it writes none. -/
  document? : String → Option Yaml

/-! ## Directories -/

/-- A directory: the texts of its files under their paths, and its empty directories. -/
structure Directory where
  /-- The steps to a file or directory, and the text if it is a file. -/
  entries : List (List String × Option String)

namespace Directory

/-- The parts of a path between slashes. -/
def parts (path : String) : List String :=
  Text.cut '/' path

/-- A path that starts at the root of the machine. -/
def isAbsolute (path : String) : Bool :=
  path.toList.head? == some '/'

/-- The directory of some files. -/
def ofFiles (files : Fields String) : Directory :=
  ⟨files.map fun (path, text) => ((parts path).filter (!·.isEmpty), some text)⟩

/-- The text of the file at the end of some steps. -/
def file? (directory : Directory) (steps : List String) : Option String :=
  (directory.entries.lookup steps).join

/-- A directory is at the end of some steps. -/
def isDirectory (directory : Directory) (steps : List String) : Bool :=
  steps.isEmpty ||
    directory.entries.any fun (entry, text) =>
      steps.isPrefixOf entry && (text.isNone || steps.length < entry.length)

/-- The steps that the parts of a path lead to.  Every part but the last has to lead to a
directory; paths that leave the directory lead nowhere. -/
def follow (directory : Directory) (steps : List String) : List String → Option (List String)
  | [] => some steps
  | part :: rest =>
    if !directory.isDirectory steps then none
    else if part.isEmpty || part == "." then follow directory steps rest
    else if part == ".." then
      if steps.isEmpty then none else follow directory steps.dropLast rest
    else follow directory (steps ++ [part]) rest

/-- What is at a path. -/
def textAt (directory : Directory) (path : String) : FileText :=
  if isAbsolute path then .absent
  else
    match directory.follow [] (parts path) with
    | none => .absent
    | some steps =>
      match directory.file? steps with
      | some text => .found text
      | none => if directory.isDirectory steps then .unreadable else .absent

/-- The text of the file at a path. -/
def read? (directory : Directory) (path : String) : Option String :=
  (directory.textAt path).text?

/-- The directory with a further directory. -/
def add (directory : Directory) (steps : List String) : Directory :=
  if directory.isDirectory steps then directory else ⟨directory.entries ++ [(steps, none)]⟩

/-- Makes a directory and those above it, and then an entry in it; none if a file is in
the way.  What happens outside of the directory leaves no trace in it. -/
def openAt (directory : Directory) (steps : List String) (name : String) :
    List String → Option Directory
  | [] =>
    if directory.isDirectory (steps ++ [name]) then none
    else if (directory.file? (steps ++ [name])).isSome then some directory
    else some ⟨directory.entries ++ [(steps ++ [name], some "")]⟩
  | part :: rest =>
    if part.isEmpty || part == "." then openAt directory steps name rest
    else if part == ".." then
      if steps.isEmpty then some directory else openAt directory steps.dropLast name rest
    else if (directory.file? (steps ++ [part])).isSome then none
    else openAt (directory.add (steps ++ [part])) (steps ++ [part]) name rest

/-- Opens a log file in the directory at a path. -/
def openLog (directory : Directory) (path name : String) : Option Directory :=
  if isAbsolute path then some directory else directory.openAt [] name (parts path)

/-- The names of what is directly in the directory, in order. -/
def names (directory : Directory) : List String :=
  (Fields.ofList ((directory.entries.filterMap fun entry => entry.1.head?).map (·, ()))).map
    Prod.fst

/-- A directory that is a value as a host. -/
def host : Host (StateM Directory) where
  textAt path := do return (← get).textAt path
  openLog path name := do
    match (← get).openLog path name with
    | none => return false
    | some directory =>
      set directory
      return true
  document? := Yaml.parse?

end Directory

end Formulary
