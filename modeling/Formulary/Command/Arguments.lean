/-!
# Arguments of a command

What the words of a command line say.  A word that starts with two hyphens is an option;
its value is attached with an equals sign or is the next word, which then starts with no
hyphen.  After a word of just two hyphens no word is an option.  Options may stand before
and after the words that are none.

An option that may be given once is refused the second time, and a command says which
options exclude each other.
-/

namespace Formulary

/-! ## What a command takes -/

/-- What an option takes. -/
inductive OptionKind where
  /-- Nothing: it is there or not. -/
  | flag
  /-- One text. -/
  | text
  /-- The path of a file, which is not empty. -/
  | path
  /-- A text every time it is given. -/
  | texts
  deriving DecidableEq

/-- An option of a command. -/
structure OptionForm where
  name : String
  kind : OptionKind
  about : String

/-- What a command takes. -/
structure CommandForm where
  name : String
  about : String
  /-- The names of its plain words, in order. -/
  words : List String
  options : List OptionForm
  /-- The options that exclude each other. -/
  excluded : List (String × String)

/-! ## Why words are refused -/

/-- Why the words of a command line are not followed. -/
inductive UsageError where
  | missingCommand
  | unknownCommand (word : String)
  | unknownOption (word : String)
  | unexpectedWord (word : String)
  | unexpectedValue (option : String)
  | missingValue (option : String)
  | emptyValue (option : String)
  | repeated (option : String)
  | excluded (option other : String)
  | missingWord (word : String)
  | missingOption (option : String)
  deriving DecidableEq

/-- The message of an error. -/
def UsageError.message : UsageError → String
  | .missingCommand => "a command is required"
  | .unknownCommand word => "unrecognized command: " ++ word
  | .unknownOption word => "unexpected option: " ++ word
  | .unexpectedWord word => "unexpected argument: " ++ word
  | .unexpectedValue option => "no value is allowed for --" ++ option
  | .missingValue option => "a value is required for --" ++ option
  | .emptyValue option => "a value is required for --" ++ option ++ ", but it is empty"
  | .repeated option => "--" ++ option ++ " cannot be given more than once"
  | .excluded option other => "--" ++ option ++ " cannot be given with --" ++ other
  | .missingWord word => "the argument " ++ word ++ " is required"
  | .missingOption option => "--" ++ option ++ " is required"

/-- What ends the reading of words early. -/
inductive Interruption where
  /-- Help is asked for. -/
  | help
  /-- The words cannot be followed. -/
  | wrong (error : UsageError)
  deriving DecidableEq

/-! ## Words -/

/-- What a single word is. -/
inductive Word where
  /-- The word that makes all others plain. -/
  | divider
  /-- An option, perhaps with a value attached. -/
  | long (name : String) (attached : Option String)
  /-- Options of one letter. -/
  | short (letter : Char)
  /-- Any other word. -/
  | plain
  deriving DecidableEq

/-- What a word is.  A single hyphen is a plain word. -/
def Word.of (word : String) : Word :=
  match word.toList with
  | ['-', '-'] => .divider
  | '-' :: '-' :: rest =>
    let name := rest.takeWhile (· != '=')
    .long (String.ofList name)
      (if name.length = rest.length then none
        else some (String.ofList (rest.drop (name.length + 1))))
  | '-' :: letter :: _ => .short letter
  | _ => .plain

/-! ## Words of a command -/

/-- What the words of a command say. -/
structure Arguments where
  /-- The plain words, in order. -/
  words : List String
  /-- The options with their values, in order.  A flag has the empty value. -/
  options : List (String × String)
  deriving DecidableEq

namespace Arguments

/-- Nothing said. -/
def empty : Arguments := ⟨[], []⟩

/-- An option is given. -/
def has (arguments : Arguments) (option : String) : Bool :=
  arguments.options.any fun given => given.1 == option

/-- The value of an option. -/
def value? (arguments : Arguments) (option : String) : Option String :=
  arguments.options.lookup option

/-- The values of an option, in order. -/
def values (arguments : Arguments) (option : String) : List String :=
  (arguments.options.filter fun given => given.1 == option).map Prod.snd

/-- The arguments with one more plain word. -/
def addWord (form : CommandForm) (arguments : Arguments) (word : String) :
    Except Interruption Arguments :=
  if arguments.words.length < form.words.length then
    .ok { arguments with words := arguments.words ++ [word] }
  else
    .error (.wrong (.unexpectedWord word))

/-- The arguments with one more option. -/
def addOption (option : OptionForm) (arguments : Arguments) (value : String) :
    Except Interruption Arguments :=
  if option.kind = .path ∧ value.isEmpty then
    .error (.wrong (.emptyValue option.name))
  else if option.kind ≠ .texts ∧ arguments.has option.name then
    .error (.wrong (.repeated option.name))
  else
    .ok { arguments with options := arguments.options ++ [(option.name, value)] }

/-- The arguments with a list of plain words. -/
def addWords (form : CommandForm) (arguments : Arguments) (words : List String) :
    Except Interruption Arguments :=
  words.foldlM (addWord form) arguments

/-- The option that waits for the next word as its value, if one does. -/
abbrev Pending := Option OptionForm

/-- What one word adds to the arguments, and the option that waits for the next. -/
def addNext (form : CommandForm) (arguments : Arguments) (word : String) :
    Pending → Except Interruption (Arguments × Pending)
  | some option =>
    if Word.of word = .plain then (addOption option arguments word).map (·, none)
    else .error (.wrong (.missingValue option.name))
  | none =>
    match Word.of word with
    | .long name attached =>
      match form.options.find? fun option => option.name == name with
      | none =>
        if name == "help" then
          .error (if attached.isNone then .help else .wrong (.unexpectedValue name))
        else
          .error (.wrong (.unknownOption word))
      | some option =>
        match option.kind, attached with
        | .flag, none => (addOption option arguments "").map (·, none)
        | .flag, some _ => .error (.wrong (.unexpectedValue name))
        | _, some value => (addOption option arguments value).map (·, none)
        | _, none => .ok (arguments, some option)
    | .short letter =>
      .error (if letter = 'h' then .help else .wrong (.unknownOption word))
    | _ => (addWord form arguments word).map (·, none)

/-- The arguments that words add to. -/
def read (form : CommandForm) (arguments : Arguments) :
    Pending → List String → Except Interruption Arguments
  | none, [] => .ok arguments
  | some option, [] => .error (.wrong (.missingValue option.name))
  | none, "--" :: rest => addWords form arguments rest
  | pending, word :: rest =>
    match addNext form arguments word pending with
    | .error e => .error e
    | .ok (arguments, pending) => read form arguments pending rest

/-- The arguments that words make for a command. -/
def parse (form : CommandForm) (words : List String) : Except Interruption Arguments :=
  match read form empty none words with
  | .error e => .error e
  | .ok arguments =>
    match form.excluded.find? fun (a, b) => arguments.has a && arguments.has b with
    | some (a, b) => .error (.wrong (.excluded a b))
    | none => .ok arguments

/-- The plain word, which has to be there and stands for something. -/
def requireWord (arguments : Arguments) (meaning : String) : Except UsageError String :=
  match arguments.words with
  | [] => .error (.missingWord meaning)
  | word :: _ => .ok word

/-- The value of an option that has to be there. -/
def requireValue (arguments : Arguments) (option : String) : Except UsageError String :=
  match arguments.value? option with
  | none => .error (.missingOption option)
  | some value => .ok value

end Arguments

end Formulary
