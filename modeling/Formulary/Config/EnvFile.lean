import Formulary.Fields
import Formulary.Text.Alphanumeric
import Formulary.Text.Identifier

/-!
# Environment files

A file of assignments, `NAME=value` one to a line, adds to the environment of a command.
What the environment has already stays as it is.  A value may be quoted, may go on over
line ends inside quotes, and may name other variables after a dollar sign.

Reading stops at the first line that is no assignment; what the lines before it set
remains.
-/

namespace Formulary

/-- The variables of a command, under their names. -/
abbrev Environment := Fields String

namespace EnvFile

/-! ## Lines -/

/-- What the characters of a line so far mean for the next one. -/
inductive LineMode where
  /-- Only blanks so far. -/
  | start
  /-- Nothing special. -/
  | plain
  /-- After a blank, where a number sign starts a comment. -/
  | blank
  /-- After a backslash. -/
  | escaped
  /-- Inside double quotes, perhaps after a backslash. -/
  | weak (escaped : Bool)
  /-- Inside single quotes, perhaps after a backslash. -/
  | strong (escaped : Bool)
  /-- In a comment. -/
  | comment
  deriving DecidableEq

namespace LineMode

/-- The mode after a character outside quotes. -/
def afterPlain (c : Char) : LineMode :=
  if c = '\\' then .escaped
  else if c = '"' then .weak false
  else if c = '\'' then .strong false
  else .plain

/-- The mode after one more character.  Every second blank of a run counts as plain. -/
def next (c : Char) : LineMode → LineMode
  | .start => if c = '#' then .comment else if Text.isBlank c then .start else afterPlain c
  | .plain => if Text.isBlank c then .blank else afterPlain c
  | .blank => if c = '#' then .comment else afterPlain c
  | .escaped => .plain
  | .weak true => .weak false
  | .weak false => if c = '\\' then .weak true else if c = '"' then .plain else .weak false
  | .strong true => .strong false
  | .strong false =>
    if c = '\\' then .strong true else if c = '\'' then .plain else .strong false
  | .comment => .comment

/-- A line end belongs to the line. -/
def isQuoted : LineMode → Bool
  | .weak _ => true
  | .strong _ => true
  | _ => false

/-- The text may end here. -/
def mayEnd : LineMode → Bool
  | .start => true
  | .plain => true
  | .comment => true
  | _ => false

end LineMode

/-- The lines of a text without comments, given what was read of the first.  A last line
that breaks off is left out. -/
def lines : LineMode → List Char → List Char → List (List Char)
  | mode, line, [] => if mode.mayEnd then [line] else []
  | mode, line, c :: rest =>
    if c = '\n' ∧ mode.isQuoted = false then
      line :: lines .start [] rest
    else
      match mode.next c with
      | .comment => lines .comment line rest
      | mode => lines mode (line ++ [c]) rest

/-! ## Values -/

/-- What the characters of a value so far mean for the next one.  Names of variables
can stand inside double quotes. -/
inductive ValueMode where
  /-- Outside quotes. -/
  | bare
  /-- Inside double quotes. -/
  | weak
  /-- Inside single quotes. -/
  | strong
  /-- After a backslash. -/
  | escaped (quoted : Bool)
  /-- In a name after a dollar sign. -/
  | name (quoted : Bool) (name : List Char)
  /-- In a name in braces after a dollar sign. -/
  | braced (quoted : Bool) (name : List Char)
  /-- After the value, where only blanks and a comment may stand. -/
  | ended
  /-- In a comment. -/
  | comment

namespace ValueMode

/-- The mode inside double quotes or outside. -/
def text (quoted : Bool) : ValueMode :=
  if quoted then .weak else .bare

end ValueMode

/-- What a name stands for: its value in the environment, or nothing. -/
def valueOf (environment : Environment) (name : List Char) : List Char :=
  ((environment.get? (String.ofList name)).getD "").toList

/-- What a character adds to a value, and the mode after it. -/
def step (environment : Environment) (c : Char) : ValueMode → Option (List Char × ValueMode)
  | .comment => some ([], .comment)
  | .ended =>
    if c = ' ' ∨ c = '\t' then some ([], .ended)
    else if c = '#' then some ([], .comment)
    else none
  | .escaped quoted =>
    if c = '\\' ∨ c = '\'' ∨ c = '"' ∨ c = '$' ∨ c = ' ' then some ([c], .text quoted)
    else if c = 'n' then some (['\n'], .text quoted)
    else none
  | .strong => if c = '\'' then some ([], .bare) else some ([c], .strong)
  | .name quoted name =>
    if Text.isAlphanumeric c then some ([], .name quoted (name ++ [c]))
    else if c = '{' ∧ name.isEmpty then some ([], .braced quoted [])
    else if c = '$' then some (valueOf environment name, .name quoted [])
    else some (valueOf environment name ++ [c], .text quoted)
  | .braced quoted name =>
    if c = '}' then some (valueOf environment name, .text quoted)
    else some ([], .braced quoted (name ++ [c]))
  | .weak =>
    if c = '$' then some ([], .name true [])
    else if c = '"' then some ([], .bare)
    else if c = '\\' then some ([], .escaped true)
    else some ([c], .weak)
  | .bare =>
    if c = '$' then some ([], .name false [])
    else if c = '\'' then some ([], .strong)
    else if c = '"' then some ([], .weak)
    else if c = '\\' then some ([], .escaped false)
    else if c = ' ' ∨ c = '\t' then some ([], .ended)
    else some ([c], .bare)

/-- What the end of the line adds to a value.  Quotes and braces have to be closed. -/
def finish (environment : Environment) : ValueMode → Option (List Char)
  | .bare => some []
  | .escaped false => some []
  | .ended => some []
  | .comment => some []
  | .name false name => some (valueOf environment name)
  | _ => none

/-- The value that the rest of a line writes. -/
def value? (environment : Environment) : ValueMode → List Char → Option (List Char)
  | mode, [] => finish environment mode
  | mode, c :: rest =>
    match step environment c mode with
    | none => none
    | some (added, mode) => (value? environment mode rest).map (added ++ ·)

/-! ## Assignments -/

/-- A character inside the name of a variable. -/
def isNameChar (c : Char) : Bool := Text.isIdentifierChar c || c == '.'

/-- The name at the start of a line, and what follows it and the blanks after it. -/
def name? (s : List Char) : Option (String × List Char) :=
  match s with
  | [] => none
  | c :: _ =>
    if Text.isIdentifierStart c then
      some (String.ofList (s.takeWhile isNameChar), Text.dropBlanks (s.dropWhile isNameChar))
    else
      none

/-- What follows an equals sign and the blanks after it. -/
def afterEquals? : List Char → Option (List Char)
  | '=' :: rest => some (Text.dropBlanks rest)
  | _ => none

/-- The name that a line assigns to, and the text of the value.  The word `export` before
the name is passed over, unless it is the name itself. -/
def target? (s : List Char) : Option (String × List Char) := do
  let (name, rest) ← name? s
  match afterEquals? rest with
  | some value => return (name, value)
  | none =>
    if name = "export" then
      let (name, rest) ← name? rest
      let value ← afterEquals? rest
      return (name, value)
    else
      none

/-- Nothing but a comment is here. -/
def isVoid (s : List Char) : Bool :=
  s.isEmpty || s.head? == some '#'

/-- The environment after a line; none if the line is no assignment. -/
def assign? (environment : Environment) (line : List Char) : Option Environment :=
  let s := Text.trimChars line
  if isVoid s then
    some environment
  else do
    let (name, rest) ← target? s
    let value ← if isVoid rest then some [] else value? environment .bare rest
    return if environment.contains name then environment
      else environment.insert name (String.ofList value)

/-- The environment after lines, up to the first that is no assignment. -/
def assignAll (environment : Environment) : List (List Char) → Environment
  | [] => environment
  | line :: rest =>
    match assign? environment line with
    | none => environment
    | some environment => assignAll environment rest

/-- The environment with what a text adds to it. -/
def load (environment : Environment) (text : String) : Environment :=
  assignAll environment (lines .start [] (Text.withoutMark text.toList))

end EnvFile

end Formulary
