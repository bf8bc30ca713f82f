import Formulary.Json.Basic
import Formulary.Json.Number
import Formulary.Json.Quoted

/-!
# Reading data-exchange text

A text is one value with blanks around it.  Lists and objects may be nested less
than 128 deep.
-/

namespace Formulary.Json

/-! ## Blanks -/

/-- A blank of the format: space, tab, line feed or carriage return. -/
def isGap (c : Char) : Bool :=
  c == ' ' || c == '\t' || c == '\n' || c == '\r'

/-- What follows the blanks at the start. -/
def skipGap (s : List Char) : List Char :=
  s.dropWhile isGap

/-- What follows a given start, if the text has it. -/
def after? : List Char → List Char → Option (List Char)
  | [], s => some s
  | c :: start, d :: s => if c = d then after? start s else none
  | _ :: _, [] => none

/-! ## Values -/

mutual

/-- The value at the start of a text, and what follows it.  `depth` is the number of
levels that may still be opened. -/
def value? (depth : Nat) : Nat → List Char → Option (Json × List Char)
  | 0, _ => none
  | fuel + 1, s =>
    match skipGap s with
    | 'n' :: rest => (after? "ull".toList rest).map fun rest => (.null, rest)
    | 't' :: rest => (after? "rue".toList rest).map fun rest => (.bool true, rest)
    | 'f' :: rest => (after? "alse".toList rest).map fun rest => (.bool false, rest)
    | '"' :: rest => (Quoted.read? rest).map fun (s, rest) => (.string (String.ofList s), rest)
    | '[' :: rest =>
      if depth ≤ 1 then none
      else
        match skipGap rest with
        | ']' :: rest => some (.array [], rest)
        | rest => (items? (depth - 1) fuel rest).map fun (items, rest) => (.array items, rest)
    | '{' :: rest =>
      if depth ≤ 1 then none
      else
        match skipGap rest with
        | '}' :: rest => some (.object [], rest)
        | rest => (fields? (depth - 1) fuel rest).map fun (fields, rest) => (.object fields, rest)
    | s => Number.read? s

/-- One or more items with commas between them, up to the closing bracket. -/
def items? (depth : Nat) : Nat → List Char → Option (List Json × List Char)
  | 0, _ => none
  | fuel + 1, s =>
    match value? depth fuel s with
    | none => none
    | some (item, rest) =>
      match skipGap rest with
      | ']' :: rest => some ([item], rest)
      | ',' :: rest => (items? depth fuel rest).map fun (items, rest) => (item :: items, rest)
      | _ => none

/-- One or more fields with commas between them, up to the closing brace. -/
def fields? (depth : Nat) : Nat → List Char → Option (List (String × Json) × List Char)
  | 0, _ => none
  | fuel + 1, s =>
    match skipGap s with
    | '"' :: rest =>
      match Quoted.read? rest with
      | none => none
      | some (name, rest) =>
        match skipGap rest with
        | ':' :: rest =>
          match value? depth fuel rest with
          | none => none
          | some (value, rest) =>
            let field := (String.ofList name, value)
            match skipGap rest with
            | '}' :: rest => some ([field], rest)
            | ',' :: rest =>
              (fields? depth fuel rest).map fun (fields, rest) => (field :: fields, rest)
            | _ => none
        | _ => none
    | _ => none

end

/-- The levels that a text may open, less one. -/
def depthLimit : Nat := 128

/-- The value that a text writes. -/
def parse? (text : String) : Option Json :=
  let s := text.toList
  match value? depthLimit (2 * s.length + 2) s with
  | some (json, rest) => if (skipGap rest).isEmpty then some json else none
  | none => none

end Formulary.Json
