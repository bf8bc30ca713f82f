import Formulary.Expr.Token
import Formulary.Text.Blank

/-!
# Written forms and their trees

Reading a formula has two parts.  Its tokens are grouped into a *form*, in which every
literal and every minus sign stands as it was written.  The form then becomes a tree:
numbers get their values, and a minus sign before a number becomes part of it.

Operators bind, from the loosest: `||`, `&&`, comparisons, `+` and `-`, `*` and `/`,
and the minus sign before an operand.  Operators of one level group from the left.
-/

namespace Formulary

/-! ## Errors -/

/-- Why a text is no formula. -/
inductive ParseError where
  /-- The text has only blanks. -/
  | empty
  /-- The grammar has no way to go on; the place is counted in UTF-8 bytes. -/
  | unexpected (offset : Nat)
  /-- A whole number is greater than the greatest integer. -/
  | integerTooLarge (digits : String)
  /-- The opposite of an integer is out of the range. -/
  | negationOverflow (value : Int64)
  deriving DecidableEq

/-- The message of an error. -/
def ParseError.message : ParseError → String
  | .empty => "Syntax error: Empty expression"
  | .unexpected offset => s!"Unexpected text at byte {offset}"
  | .integerTooLarge digits =>
    s!"Invalid literal {digits}: number too large to fit in target type"
  | .negationOverflow value =>
    "Invalid literal -" ++ Integer.text value ++ ": integer overflow"

/-! ## Forms -/

/-- A formula as it is written, without its parentheses. -/
inductive Form where
  /-- A literal. -/
  | literal (value : WrittenLiteral)
  /-- An identifier. -/
  | path (segments : List (List Char))
  /-- A minus sign before an operand. -/
  | neg (operand : Form)
  /-- An operator between two operands. -/
  | binary (op : BinaryOp) (left right : Form)
  /-- A function applied to arguments. -/
  | call (name : List Char) (args : List Form)

namespace Form

/-! ## From tokens to forms

Every function returns the form it read and the tokens that follow, or the tokens that
begin where the grammar has no way to go on. -/

mutual

/-- Operands with operators of a level or tighter ones between them.  Level 5 is an
operand. -/
def readLevel : Nat → Nat → List Token → Except (List Token) (Form × List Token)
  | 0, _, tokens => .error tokens
  | fuel + 1, level, tokens =>
    if level < 5 then
      match readLevel fuel (level + 1) tokens with
      | .error rest => .error rest
      | .ok (left, rest) => readMore fuel level left rest
    else
      readOperand fuel tokens

/-- Further operators of a level, each with its right operand. -/
def readMore : Nat → Nat → Form → List Token → Except (List Token) (Form × List Token)
  | 0, _, _, tokens => .error tokens
  | fuel + 1, level, left, tokens =>
    match tokens with
    | .op op :: rest =>
      if op.level = level then
        match readLevel fuel (level + 1) rest with
        | .error rest => .error rest
        | .ok (right, rest) => readMore fuel level (.binary op left right) rest
      else
        .ok (left, tokens)
    | _ => .ok (left, tokens)

/-- A literal, an identifier, a call, a parenthesis, or one of these after minus signs. -/
def readOperand : Nat → List Token → Except (List Token) (Form × List Token)
  | 0, tokens => .error tokens
  | fuel + 1, tokens =>
    match tokens with
    | .op .sub :: rest =>
      match readOperand fuel rest with
      | .error rest => .error rest
      | .ok (operand, rest) => .ok (.neg operand, rest)
    | .literal value :: rest => .ok (.literal value, rest)
    | .path [name] :: .opening :: .closing :: rest => .ok (.call name [], rest)
    | .path [name] :: .opening :: rest =>
      match readArguments fuel rest with
      | .error rest => .error rest
      | .ok (args, rest) => .ok (.call name args, rest)
    | .path segments :: rest => .ok (.path segments, rest)
    | .opening :: rest =>
      match readLevel fuel 0 rest with
      | .error rest => .error rest
      | .ok (form, .closing :: rest) => .ok (form, rest)
      | .ok (_, rest) => .error rest
    | _ => .error tokens

/-- One or more arguments with commas between them, up to the closing parenthesis. -/
def readArguments : Nat → List Token → Except (List Token) (List Form × List Token)
  | 0, tokens => .error tokens
  | fuel + 1, tokens =>
    match readLevel fuel 0 tokens with
    | .error rest => .error rest
    | .ok (arg, .closing :: rest) => .ok ([arg], rest)
    | .ok (arg, .comma :: rest) =>
      match readArguments fuel rest with
      | .error rest => .error rest
      | .ok (args, rest) => .ok (arg :: args, rest)
    | .ok (_, rest) => .error rest

end

/-- The form that a list of tokens writes, or the tokens that begin where the grammar has
no way to go on.  Eight steps are enough for every token. -/
def ofTokens (tokens : List Token) : Except (List Token) Form :=
  match readLevel (8 * tokens.length + 8) 0 tokens with
  | .error rest => .error rest
  | .ok (form, []) => .ok form
  | .ok (_, rest) => .error rest

/-! ## From forms to trees -/

/-- The value of a written literal. -/
def literalValue : WrittenLiteral → Except ParseError Literal
  | .null => .ok .null
  | .bool b => .ok (.bool b)
  | .whole digits =>
    match Integer.ofInt? (Decimal.valueOfDigits digits) with
    | some n => .ok (.int n)
    | none => .error (.integerTooLarge (String.ofList digits))
  | .fraction whole fraction =>
    .ok (.float (Binary64.ofDecimal false
      (Decimal.valueOfDigits (whole ++ fraction)) (-(fraction.length : Int))))
  | .string s => .ok (.string (String.ofList s))

/-- A minus sign before a tree: a number takes it in, anything else goes under it. -/
def negate : Expr → Except ParseError Expr
  | .literal (.int n) =>
    match Integer.neg? n with
    | some n => .ok (.literal (.int n))
    | none => .error (.negationOverflow n)
  | .literal (.float x) => .ok (.literal (.float x.neg))
  | expr => .ok (.neg expr)

mutual

/-- The tree of a form. -/
def toExpr : Form → Except ParseError Expr
  | .literal value => (literalValue value).map .literal
  | .path segments => .ok (.identifier ⟨segments.map String.ofList⟩)
  | .neg operand =>
    match toExpr operand with
    | .error e => .error e
    | .ok expr => negate expr
  | .binary op left right =>
    match toExpr left with
    | .error e => .error e
    | .ok left =>
      match toExpr right with
      | .error e => .error e
      | .ok right => .ok (.binary op left right)
  | .call name args =>
    match toExprs args with
    | .error e => .error e
    | .ok args => .ok (.call (String.ofList name) args)

/-- The trees of some forms; the first error counts. -/
def toExprs : List Form → Except ParseError (List Expr)
  | [] => .ok []
  | form :: rest =>
    match toExpr form with
    | .error e => .error e
    | .ok expr =>
      match toExprs rest with
      | .error e => .error e
      | .ok exprs => .ok (expr :: exprs)

end

end Form

/-! ## Whole texts -/

/-- The place in a text where a list of its last tokens begins.  A point right after an
identifier promises a further segment, which is what is missing behind it. -/
def stuckOffset (source : List Char) (lexemes : List Lexeme) (rest : List Token) : Nat :=
  let index := lexemes.length - rest.length
  match lexemes[index]? with
  | none => Lexeme.byteLength source
  | some lexeme =>
    let start := Lexeme.byteLength (Lexeme.source (lexemes.take index) ++ lexeme.gap)
    match lexeme.written.head?, (lexemes.take index).getLast?.map Lexeme.token with
    | some '.', some (.path _) => if lexeme.gap.isEmpty then start + 1 else start
    | _, _ => start

/-- The formula that a text writes. -/
def parse (source : String) : Except ParseError Expr :=
  if source.toList.all Text.isBlank then
    .error .empty
  else
    let lexemes := Lexeme.ofChars source.toList
    match Form.ofTokens (lexemes.map Lexeme.token) with
    | .error rest => .error (.unexpected (stuckOffset source.toList lexemes rest))
    | .ok form => form.toExpr

end Formulary
