import Formulary.Expr.Basic

/-!
# Tokens of formulas

A formula is cut into *lexemes*: the blanks before a token, the characters of the
token, and the token they write.  Nothing is lost, so the place of a token in the
text is the length of what stands before it.  The longest token always wins:
`>=` is one token, `1.5` is one number and `a.b.c` is one identifier.

Main statement: gaps and tokens, put one after the other, are the text
(`Lexeme.source_ofChars`).
-/

namespace Formulary

/-! ## Tokens -/

/-- A literal as it is written. -/
inductive WrittenLiteral where
  /-- The null. -/
  | null
  /-- A truth value. -/
  | bool (value : Bool)
  /-- A whole number. -/
  | whole (digits : List Char)
  /-- A number with a fraction. -/
  | fraction (whole fraction : List Char)
  /-- A text, with its escapes resolved. -/
  | string (value : List Char)
  deriving DecidableEq

/-- The smallest meaningful piece of a formula. -/
inductive Token where
  /-- A literal. -/
  | literal (value : WrittenLiteral)
  /-- An identifier, or the name of a function. -/
  | path (segments : List (List Char))
  /-- An operator.  The minus sign before an operand is the operator `sub` too. -/
  | op (op : BinaryOp)
  /-- An opening parenthesis. -/
  | opening
  /-- A closing parenthesis. -/
  | closing
  /-- A comma. -/
  | comma
  /-- Text that starts no token. -/
  | unreadable
  deriving DecidableEq

/-- A token in its text. -/
structure Lexeme where
  /-- The blanks before the token. -/
  gap : List Char
  /-- The characters of the token. -/
  written : List Char
  /-- What they write. -/
  token : Token

namespace Token

/-! ## Blanks and names -/

/-- A character that may stand between tokens. -/
def isGap (c : Char) : Bool :=
  c == ' ' || c == '\t' || c == '\r' || c == '\n'

/-- The literal that a word stands for, whatever the case of its letters. -/
def keyword? (word : List Char) : Option WrittenLiteral :=
  let word := word.map Char.toLower
  if word = "true".toList then some (.bool true)
  else if word = "false".toList then some (.bool false)
  else if word = "null".toList ∨ word = "nil".toList then some .null
  else none

/-- The word at the start of a text, if a name may start there. -/
def word? : List Char → Option (List Char)
  | [] => none
  | c :: rest =>
    if Text.isIdentifierStart c then some (c :: rest.takeWhile Text.isIdentifierChar) else none

/-- The name at the start of a text: a word that is no keyword. -/
def name? (s : List Char) : Option (List Char) :=
  (word? s).filter fun word => (keyword? word).isNone

/-- The further segments of an identifier: each is a point and a name. -/
def moreSegments : List Char → List (List Char)
  | '.' :: rest =>
    match name? rest with
    | some name => name :: moreSegments (rest.drop name.length)
    | none => []
  | _ => []
termination_by s => s.length
decreasing_by simp only [List.length_drop, List.length_cons]; omega

/-- The number of characters of some further segments. -/
def segmentsLength (segments : List (List Char)) : Nat :=
  segments.foldr (fun segment length => segment.length + 1 + length) 0

/-! ## Quoted texts -/

/-- The character that a backslash and a character stand for. -/
def unescape (c : Char) : Char :=
  if c = 'n' then '\n' else if c = 't' then '\t' else if c = 'r' then '\r' else c

/-- The text up to a closing quote, and the number of characters read, the quote
included. -/
def quoted? (quote : Char) : List Char → Option (List Char × Nat)
  | [] => none
  | '\\' :: [] => none
  | '\\' :: c :: rest => (quoted? quote rest).map fun (s, count) => (unescape c :: s, count + 2)
  | c :: rest =>
    if c = quote then some ([], 1)
    else (quoted? quote rest).map fun (s, count) => (c :: s, count + 1)

/-! ## One token -/

/-- The number at the start of a text that starts with a digit, and the number of
characters that follow the first one. -/
def number (first : Char) (rest : List Char) : Token × Nat :=
  let more := rest.takeWhile Char.isDigit
  match rest.dropWhile Char.isDigit with
  | '.' :: tail =>
    let fraction := tail.takeWhile Char.isDigit
    if fraction.isEmpty then
      (.literal (.whole (first :: more)), more.length)
    else
      (.literal (.fraction (first :: more) fraction), more.length + 1 + fraction.length)
  | _ => (.literal (.whole (first :: more)), more.length)

/-- The keyword or identifier at the start of a text that starts with a letter or an
underscore, and the number of characters that follow the first one. -/
def nameOrKeyword (first : Char) (rest : List Char) : Token × Nat :=
  let more := rest.takeWhile Text.isIdentifierChar
  match keyword? (first :: more) with
  | some value => (.literal value, more.length)
  | none =>
    let segments := moreSegments (rest.drop more.length)
    (.path ((first :: more) :: segments), more.length + segmentsLength segments)

/-- The operator or mark at the start of a text, and the number of characters that
follow the first one. -/
def mark? : Char → List Char → Option (Token × Nat)
  | '|', '|' :: _ => some (.op .or, 1)
  | '&', '&' :: _ => some (.op .and, 1)
  | '=', '=' :: _ => some (.op .eq, 1)
  | '!', '=' :: _ => some (.op .ne, 1)
  | '>', '=' :: _ => some (.op .ge, 1)
  | '<', '=' :: _ => some (.op .le, 1)
  | '>', _ => some (.op .gt, 0)
  | '<', _ => some (.op .lt, 0)
  | '+', _ => some (.op .add, 0)
  | '-', _ => some (.op .sub, 0)
  | '*', _ => some (.op .mul, 0)
  | '/', _ => some (.op .div, 0)
  | '(', _ => some (.opening, 0)
  | ')', _ => some (.closing, 0)
  | ',', _ => some (.comma, 0)
  | _, _ => none

/-- The token at the start of a text, and the number of characters that follow its first
one.  Text that starts no token is one unreadable token to its end. -/
def first (c : Char) (rest : List Char) : Token × Nat :=
  if c.isDigit then
    number c rest
  else if Text.isIdentifierStart c then
    nameOrKeyword c rest
  else if c = '\'' ∨ c = '"' then
    match quoted? c rest with
    | some (s, count) => (.literal (.string s), count)
    | none => (.unreadable, rest.length)
  else
    (mark? c rest).getD (.unreadable, rest.length)

end Token

/-! ## A whole text -/

namespace Lexeme

/-- Dropping the gap at the start of a text does not make it longer. -/
theorem length_dropGap_le (s : List Char) : (s.dropWhile Token.isGap).length ≤ s.length :=
  (List.dropWhile_sublist Token.isGap).length_le

/-- The lexemes of a text.  Blanks at its end belong to none. -/
def ofChars (s : List Char) : List Lexeme :=
  match s.dropWhile Token.isGap, length_dropGap_le s with
  | [], _ => []
  | c :: rest, _ =>
    let (token, count) := Token.first c rest
    ⟨s.takeWhile Token.isGap, c :: rest.take count, token⟩ :: ofChars (rest.drop count)
termination_by s.length
decreasing_by simp only [List.length_drop, List.length_cons] at *; omega

/-- Gaps and tokens, one after the other. -/
def source (lexemes : List Lexeme) : List Char :=
  lexemes.flatMap fun lexeme => lexeme.gap ++ lexeme.written

/-- A text of blanks has no lexemes. -/
theorem ofChars_of_dropGap_nil {s : List Char} (h : s.dropWhile Token.isGap = []) :
    ofChars s = [] := by
  unfold ofChars
  split
  · rfl
  · next cons _ => rw [h] at cons; contradiction

/-- The first lexeme of a text and the lexemes of what follows it. -/
theorem ofChars_of_dropGap_cons {s rest : List Char} {c : Char}
    (h : s.dropWhile Token.isGap = c :: rest) :
    ofChars s = ⟨s.takeWhile Token.isGap, c :: rest.take (Token.first c rest).2,
      (Token.first c rest).1⟩ :: ofChars (rest.drop (Token.first c rest).2) := by
  rw [ofChars]
  split
  · next nil _ => rw [h] at nil; contradiction
  · next cons _ =>
    rw [h] at cons
    obtain ⟨rfl, rfl⟩ := List.cons.inj cons
    rfl

/-- Only blanks at the end of a text are not in its lexemes. -/
theorem source_ofChars (s : List Char) :
    ∃ gap, (∀ c ∈ gap, Token.isGap c = true) ∧ source (ofChars s) ++ gap = s := by
  have whole := List.takeWhile_append_dropWhile (p := Token.isGap) (l := s)
  match h : s.dropWhile Token.isGap with
  | [] =>
    rw [h, List.append_nil] at whole
    refine ⟨s, fun c mem => ?_, by simp [ofChars_of_dropGap_nil h, source]⟩
    rw [← whole] at mem
    exact List.all_eq_true.1 List.all_takeWhile c mem
  | c :: rest =>
    obtain ⟨gap, blank, same⟩ := source_ofChars (rest.drop (Token.first c rest).2)
    refine ⟨gap, blank, ?_⟩
    rw [h] at whole
    have tail := List.take_append_drop (Token.first c rest).2 rest
    calc source (ofChars s) ++ gap
        = s.takeWhile Token.isGap ++ c :: (rest.take (Token.first c rest).2
            ++ (source (ofChars (rest.drop (Token.first c rest).2)) ++ gap)) := by
          simp [ofChars_of_dropGap_cons h, source]
      _ = s := by rw [same, tail, whole]
termination_by s.length
decreasing_by
  have shorter := length_dropGap_le s
  rw [h] at shorter
  simp only [List.length_drop, List.length_cons] at *
  omega

/-- The number of UTF-8 bytes of some characters. -/
def byteLength (s : List Char) : Nat :=
  s.foldr (fun c size => c.utf8Size + size) 0

end Lexeme

end Formulary
