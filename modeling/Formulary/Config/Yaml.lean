import Formulary.Json.Quoted
import Formulary.Text.Blank
import Formulary.Text.Pieces

/-!
# Settings documents

The part of YAML that settings are written in: block and flow mappings and sequences,
plain and quoted scalars, comments, and one document with or without its markers.
Anchors, tags, block scalars and complex keys are refused.

A block collection is told by its column: its entries all start there, and whatever
belongs to an entry starts further to the right.  Only the items of a sequence under
a key may start at the column of the key.
-/

namespace Formulary

/-- A node of a document. -/
inductive Yaml where
  /-- A scalar: its text, and whether it is written without quotes. -/
  | scalar (text : String) (plain : Bool)
  /-- A sequence. -/
  | sequence (items : List Yaml)
  /-- A mapping, in the order of its text. -/
  | mapping (entries : List (Yaml × Yaml))

namespace Yaml

/-- The node of which nothing is written. -/
def absent : Yaml := .scalar "" true

/-! ## Lines and gaps -/

/-- A blank within a line. -/
def isBlank (c : Char) : Bool := c == ' ' || c == '\t'

/-- A character that belongs to the shape of a flow collection. -/
def isFlowMark (c : Char) : Bool :=
  c == ',' || c == '[' || c == ']' || c == '{' || c == '}'

/-- A character that starts no plain scalar. -/
def isIndicator (c : Char) : Bool :=
  isFlowMark c || c == '#' || c == '&' || c == '*' || c == '!' || c == '|' || c == '>'
    || c == '\'' || c == '"' || c == '%' || c == '@' || c == '\x60'

/-- Nothing, a blank or the end of the line comes next. -/
def isBreak : List Char → Bool
  | [] => true
  | c :: _ => isBlank c || c == '\n'

/-- What follows the end of the line, the end included. -/
def dropLine (s : List Char) : List Char :=
  s.dropWhile (· != '\n')

/-- A place in a document: the column where text starts, and the text. -/
structure Place where
  column : Nat
  rest : List Char

/-- The next text after the start of a line, passing over empty lines and comments.
Tabs do not indent. -/
def nextText : Nat → List Char → Option (Option Place)
  | 0, _ => none
  | fuel + 1, s =>
    let indent := s.takeWhile (· == ' ')
    match s.dropWhile (· == ' ') with
    | [] => some none
    | '\n' :: rest => nextText fuel rest
    | '#' :: rest => nextText fuel ((dropLine rest).drop 1)
    | '\t' :: rest =>
      match rest.dropWhile isBlank with
      | [] => some none
      | '\n' :: rest => nextText fuel rest
      | _ => none
    | rest => some (some ⟨indent.length, rest⟩)

/-- The next text after a value, which has to be alone at the end of its line but for a
comment. -/
def endLine (s : List Char) : Option (Option Place) :=
  let rest := s.dropWhile isBlank
  match rest with
  | [] => some none
  | '\n' :: rest => nextText (rest.length + 1) rest
  | '#' :: rest => if s.length = rest.length + 1 then none
    else nextText (rest.length + 1) ((dropLine rest).drop 1)
  | _ => none

/-! ## Scalars -/

/-- A plain scalar may start here. -/
def startsPlain (flow : Bool) : List Char → Bool
  | [] => false
  | c :: rest =>
    if c == '-' || c == '?' || c == ':' then
      !isBreak rest && !(flow && (rest.head?.map isFlowMark).getD false)
    else
      !isIndicator c

/-- The part of a plain scalar that is on this line, and what follows it. -/
def plainLine (flow : Bool) : List Char → List Char × List Char
  | [] => ([], [])
  | c :: rest =>
    if c == '\n' || (flow && isFlowMark c) then
      ([], c :: rest)
    else if c == ':' && (isBreak rest || (flow && (rest.head?.map isFlowMark).getD false)) then
      ([], c :: rest)
    else if isBlank c && rest.head? == some '#' then
      ([], c :: rest)
    else
      let (text, after) := plainLine flow rest
      if isBlank c && text.isEmpty then ([], c :: rest) else (c :: text, after)

/-- Line ends at the start of a text inside quotes, with the blanks around them, and what
follows.  One line end is a blank, and of several the first does not count. -/
def fold? (s : List Char) : Option (List Char × List Char) :=
  let gap := s.takeWhile fun c => isBlank c || c == '\n'
  match gap.count '\n' with
  | 0 => none
  | 1 => some ([' '], s.drop gap.length)
  | breaks + 1 => some (List.replicate breaks '\n', s.drop gap.length)

/-- A single-quoted scalar after its quote, and what follows it. -/
def singleQuoted : Nat → List Char → Option (List Char × List Char)
  | 0, _ => none
  | _ + 1, [] => none
  | fuel + 1, '\'' :: '\'' :: rest =>
    (singleQuoted fuel rest).map fun (s, rest) => ('\'' :: s, rest)
  | _ + 1, '\'' :: rest => some ([], rest)
  | fuel + 1, c :: rest =>
    match fold? (c :: rest) with
    | some (folded, rest) => (singleQuoted fuel rest).map fun (s, rest) => (folded ++ s, rest)
    | none => (singleQuoted fuel rest).map fun (s, rest) => (c :: s, rest)

/-- The character of an escape of one letter. -/
def shortEscape? (c : Char) : Option Char :=
  match c with
  | '0' => some (Char.ofNat 0)
  | 'a' => some (Char.ofNat 0x07)
  | 'b' => some (Char.ofNat 0x08)
  | 't' => some '\t'
  | '\t' => some '\t'
  | 'n' => some '\n'
  | 'v' => some (Char.ofNat 0x0B)
  | 'f' => some (Char.ofNat 0x0C)
  | 'r' => some '\r'
  | 'e' => some (Char.ofNat 0x1B)
  | ' ' => some ' '
  | '"' => some '"'
  | '/' => some '/'
  | '\\' => some '\\'
  | 'N' => some (Char.ofNat 0x85)
  | '_' => some (Char.ofNat 0xA0)
  | 'L' => some (Char.ofNat 0x2028)
  | 'P' => some (Char.ofNat 0x2029)
  | _ => none

/-- The number of hexadecimal digits of an escape by code point. -/
def escapeWidth? (c : Char) : Option Nat :=
  match c with
  | 'x' => some 2
  | 'u' => some 4
  | 'U' => some 8
  | _ => none

/-- The character that hexadecimal digits write. -/
def hexChar? (digits : List Char) : Option Char := do
  let values ← digits.mapM Json.Quoted.hexValue?
  let code := values.foldl (fun n digit => 16 * n + digit) 0
  if code.isValidChar then some (Char.ofNat code) else none

/-- A double-quoted scalar after its quote, and what follows it. -/
def doubleQuoted : Nat → List Char → Option (List Char × List Char)
  | 0, _ => none
  | _ + 1, [] => none
  | _ + 1, '"' :: rest => some ([], rest)
  | fuel + 1, '\\' :: '\n' :: rest => doubleQuoted fuel (rest.dropWhile isBlank)
  | fuel + 1, '\\' :: c :: rest =>
    match escapeWidth? c with
    | some width =>
      if rest.length < width then none
      else
        match hexChar? (rest.take width) with
        | none => none
        | some c => (doubleQuoted fuel (rest.drop width)).map fun (s, rest) => (c :: s, rest)
    | none =>
      match shortEscape? c with
      | none => none
      | some c => (doubleQuoted fuel rest).map fun (s, rest) => (c :: s, rest)
  | fuel + 1, c :: rest =>
    match fold? (c :: rest) with
    | some (folded, rest) => (doubleQuoted fuel rest).map fun (s, rest) => (folded ++ s, rest)
    | none => (doubleQuoted fuel rest).map fun (s, rest) => (c :: s, rest)

/-- A quoted scalar with its quotes, and what follows it. -/
def quoted? (s : List Char) : Option (Yaml × List Char) :=
  let read := match s with
    | '\'' :: rest => singleQuoted (rest.length + 1) rest
    | '"' :: rest => doubleQuoted (rest.length + 1) rest
    | _ => none
  read.map fun (text, rest) => (.scalar (String.ofList text) false, rest)

/-! ## Flow collections -/

/-- What follows blanks, line ends and comments. -/
def skipGap : Nat → List Char → List Char
  | 0, s => s
  | fuel + 1, s =>
    match s.dropWhile fun c => isBlank c || c == '\n' with
    | '#' :: rest => skipGap fuel (dropLine rest)
    | rest => rest

mutual

/-- A node inside a flow collection, and what follows it.  A node of which nothing is
written is absent. -/
def flowNode : Nat → List Char → Option (Yaml × List Char)
  | 0, _ => none
  | fuel + 1, s =>
    match s with
    | '[' :: rest => (flowItems fuel (skipGap rest.length rest)).map fun (items, rest) =>
      (.sequence items, rest)
    | '{' :: rest => (flowEntries fuel (skipGap rest.length rest)).map fun (entries, rest) =>
      (.mapping entries, rest)
    | '"' :: _ => quoted? s
    | '\'' :: _ => quoted? s
    | _ =>
      if startsPlain true s then
        let (text, rest) := plainLine true s
        some (.scalar (String.ofList text) true, rest)
      else
        none

/-- A node inside a flow collection, or the absent one before a mark. -/
def flowValue : Nat → List Char → Option (Yaml × List Char)
  | 0, _ => none
  | fuel + 1, s =>
    match s with
    | ',' :: _ => some (absent, s)
    | '}' :: _ => some (absent, s)
    | ']' :: _ => some (absent, s)
    | _ => flowNode fuel s

/-- Items up to the closing bracket.  An item with a colon is a mapping of one entry. -/
def flowItems : Nat → List Char → Option (List Yaml × List Char)
  | 0, _ => none
  | fuel + 1, s =>
    match s with
    | ']' :: rest => some ([], rest)
    | _ =>
      match flowNode fuel s with
      | none => none
      | some (item, rest) =>
        let entry : Option (Yaml × List Char) := match skipGap rest.length rest with
          | ':' :: rest => (flowValue fuel (skipGap rest.length rest)).map fun (value, rest) =>
            (Yaml.mapping [(item, value)], rest)
          | rest => some (item, rest)
        match entry with
        | none => none
        | some (item, rest) =>
          match skipGap rest.length rest with
          | ',' :: rest =>
            (flowItems fuel (skipGap rest.length rest)).map fun (items, rest) =>
              (item :: items, rest)
          | ']' :: rest => some ([item], rest)
          | _ => none

/-- Entries up to the closing brace.  A key without a colon has the absent value. -/
def flowEntries : Nat → List Char → Option (List (Yaml × Yaml) × List Char)
  | 0, _ => none
  | fuel + 1, s =>
    match s with
    | '}' :: rest => some ([], rest)
    | _ =>
      match flowNode fuel s with
      | none => none
      | some (key, rest) =>
        let entry : Option (Yaml × List Char) := match skipGap rest.length rest with
          | ':' :: rest => flowValue fuel (skipGap rest.length rest)
          | rest => some (absent, rest)
        match entry with
        | none => none
        | some (value, rest) =>
          match skipGap rest.length rest with
          | ',' :: rest =>
            (flowEntries fuel (skipGap rest.length rest)).map fun (entries, rest) =>
              ((key, value) :: entries, rest)
          | '}' :: rest => some ([(key, value)], rest)
          | _ => none

end

/-! ## Block collections -/

/-- The key at the start of a line, and what follows its colon. -/
def key? (s : List Char) : Option (Yaml × List Char) :=
  let read := match s with
    | '"' :: _ => quoted? s
    | '\'' :: _ => quoted? s
    | _ =>
      if startsPlain false s then
        let (text, rest) := plainLine false s
        some (.scalar (String.ofList text) true, rest)
      else
        none
  match read with
  | none => none
  | some (key, rest) =>
    match rest.dropWhile isBlank with
    | ':' :: rest => if isBreak rest then some (key, rest) else none
    | _ => none

/-- An item of a sequence starts here: what follows its hyphen. -/
def item? : List Char → Option (List Char)
  | '-' :: rest => if isBreak rest then some rest else none
  | _ => none

/-- Nothing but a comment is left on the line. -/
def isLineDone (s : List Char) : Bool :=
  match s.dropWhile isBlank with
  | [] => true
  | '\n' :: _ => true
  | '#' :: _ => isBreak s
  | _ => false

/-- Further lines of a plain scalar, each indented at least so far. -/
def morePlain (least : Nat) : Nat → List Char → Option Place →
    Option (List Char × Option Place)
  | 0, text, next => some (text, next)
  | fuel + 1, text, next =>
    match next with
    | none => some (text, none)
    | some place =>
      if place.column < least then
        some (text, next)
      else
        let (line, rest) := plainLine false place.rest
        if line.isEmpty then none
        else (endLine rest).bind fun next => morePlain least fuel (text ++ ' ' :: line) next

/-- A value on the line of its key or hyphen that is no block collection.  Further lines
are indented at least so far. -/
def inlineNode (least : Nat) (s : List Char) : Option (Yaml × Option Place) :=
  match s with
  | '[' :: _ => (flowNode (2 * s.length + 2) s).bind fun (node, rest) =>
    (endLine rest).map fun next => (node, next)
  | '{' :: _ => (flowNode (2 * s.length + 2) s).bind fun (node, rest) =>
    (endLine rest).map fun next => (node, next)
  | '"' :: _ => (quoted? s).bind fun (node, rest) => (endLine rest).map fun next => (node, next)
  | '\'' :: _ => (quoted? s).bind fun (node, rest) => (endLine rest).map fun next => (node, next)
  | _ =>
    if startsPlain false s then
      let (line, rest) := plainLine false s
      (endLine rest).bind fun next =>
        (morePlain least (s.length + 1) line next).map fun (text, next) =>
          (.scalar (String.ofList text) true, next)
    else
      none

mutual

/-- The node at a place, and the next text after it. -/
def blockNode : Nat → Nat → Place → Option (Yaml × Option Place)
  | 0, _, _ => none
  | fuel + 1, least, place =>
    match item? place.rest, key? place.rest with
    | some _, _ => (blockItems fuel place.column place).map fun (items, next) =>
      (.sequence items, next)
    | none, some _ => (blockEntries fuel place.column place).map fun (entries, next) =>
      (.mapping entries, next)
    | none, none => inlineNode least place.rest

/-- The node below a key or hyphen: one that is indented at least so far. -/
def nestedNode : Nat → Nat → Option Place → Option (Yaml × Option Place)
  | 0, _, _ => none
  | _ + 1, _, none => some (absent, none)
  | fuel + 1, least, some place =>
    if place.column < least then some (absent, some place) else blockNode fuel least place

/-- The items of a sequence that stand at a column. -/
def blockItems : Nat → Nat → Place → Option (List Yaml × Option Place)
  | 0, _, _ => none
  | fuel + 1, column, place =>
    match item? place.rest with
    | none => none
    | some rest =>
      let blanks := (rest.takeWhile isBlank).length
      let item : Option (Yaml × Option Place) :=
        if isLineDone rest then
          (endLine rest).bind fun next => nestedNode fuel (column + 1) next
        else
          blockNode fuel (column + 1) ⟨column + 1 + blanks, rest.dropWhile isBlank⟩
      match item with
      | none => none
      | some (item, none) => some ([item], none)
      | some (item, some next) =>
        if next.column = column ∧ (item? next.rest).isSome then
          (blockItems fuel column next).map fun (items, next) => (item :: items, next)
        else if next.column ≤ column then
          some ([item], some next)
        else
          none

/-- The entries of a mapping whose keys stand at a column. -/
def blockEntries : Nat → Nat → Place → Option (List (Yaml × Yaml) × Option Place)
  | 0, _, _ => none
  | fuel + 1, column, place =>
    match key? place.rest with
    | none => none
    | some (key, rest) =>
      let value : Option (Yaml × Option Place) :=
        if isLineDone rest then
          (endLine rest).bind fun next =>
            match next with
            | none => some (absent, none)
            | some place =>
              if place.column = column ∧ (item? place.rest).isSome then
                (blockItems fuel column place).map fun (items, next) =>
                  (Yaml.sequence items, next)
              else
                nestedNode fuel (column + 1) next
        else
          inlineNode (column + 1) (rest.dropWhile isBlank)
      match value with
      | none => none
      | some (value, none) => some ([(key, value)], none)
      | some (value, some next) =>
        if next.column = column then
          (blockEntries fuel column next).map fun (entries, next) =>
            ((key, value) :: entries, next)
        else if next.column < column then
          some ([(key, value)], some next)
        else
          none

end

/-! ## Documents -/

/-- Every line end as a line feed. -/
def normalizeEnds : List Char → List Char
  | [] => []
  | '\r' :: '\n' :: rest => '\n' :: normalizeEnds rest
  | '\r' :: rest => '\n' :: normalizeEnds rest
  | c :: rest => c :: normalizeEnds rest

/-- What follows a marker of three characters at the start of a line. -/
def afterMarker? (mark : Char) : List Char → Option (List Char)
  | a :: b :: c :: rest =>
    if a = mark ∧ b = mark ∧ c = mark ∧ isBreak rest then some rest else none
  | _ => none

/-- A line with nothing but blanks or a comment. -/
def isVoidLine (line : List Char) : Bool :=
  match line.dropWhile isBlank with
  | [] => true
  | '#' :: _ => true
  | _ => false

/-- The lines up to the end of the document; a second document is refused. -/
def documentBody : List (List Char) → Option (List (List Char))
  | [] => some []
  | line :: rest =>
    if (afterMarker? '.' line).isSome then
      if rest.all isVoidLine then some [] else none
    else if (afterMarker? '-' line).isSome then
      none
    else
      (documentBody rest).map (line :: ·)

/-- The lines of the one document, after its directives and its marker. -/
def documentLines : List (List Char) → Option (List (List Char))
  | [] => some []
  | line :: rest =>
    if isVoidLine line || line.head? == some '%' then
      documentLines rest
    else
      match afterMarker? '-' line with
      | some after => (documentBody rest).map fun body => ("   ".toList ++ after) :: body
      | none => documentBody (line :: rest)

/-- Lines with a line feed after each. -/
def unlines (ls : List (List Char)) : List Char :=
  ls.flatMap (· ++ ['\n'])

/-- The node that a text writes. -/
def parse? (text : String) : Option Yaml := do
  let body ← documentLines (Text.pieces '\n' (normalizeEnds (Text.withoutMark text.toList)))
  let s := unlines body
  match ← nextText (s.length + 1) s with
  | none => return absent
  | some place =>
    let (node, next) ← blockNode (4 * s.length + 4) 0 place
    if next.isNone then some node else none

end Yaml

end Formulary
