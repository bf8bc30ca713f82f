import Formulary.Expr.Form
import Formulary.Proofs.Text.Classes
import Mathlib.Algebra.Group.Nat.Defs

/-!
# The grammar of formulas

Which texts write which formulas, said as a grammar and not as a reader.  The rules
follow the layers of the language: operators bind, from the loosest, as `||`, `&&`,
comparisons, `+` and `-`, `*` and `/`, and the minus sign before an operand.  A level
is a number, 0 to 4 for the operators, 5 for an operand with its minus signs and 6 for
an operand without.  The grammar has its own tables of operators and of escapes and its
own classes of characters; nothing in it is taken from the reader.

* `Operator` — the operators with their levels and symbols;
* `Writes` — the characters of a form at a level, blanks between tokens allowed;
* `Spells` — the characters of a whole formula;
* `Denotes` — the tree of a form, with minus signs taken into numbers;
* `WritesTree` — the characters of a tree, both relations one after the other.
-/

namespace Formulary.Grammar

/-! ## Blanks, names and literals -/

/-- Blanks that may stand between tokens. -/
def Gap (s : List Char) : Prop :=
  ∀ c ∈ s, c = ' ' ∨ c = '\t' ∨ c = '\r' ∨ c = '\n'

/-- A word that stands for null, in letters of either case. -/
def NullWord (s : List Char) : Prop :=
  s.map Char.toLower = "null".toList ∨ s.map Char.toLower = "nil".toList

/-- A word that stands for a truth value, in letters of either case. -/
def BoolWord : Bool → List Char → Prop
  | true, s => s.map Char.toLower = "true".toList
  | false, s => s.map Char.toLower = "false".toList

/-- A letter or an underscore, then letters, digits and underscores; no word that stands
for a literal. -/
def Name (s : List Char) : Prop :=
  Text.IsName s ∧ ¬ NullWord s ∧ ∀ b, ¬ BoolWord b s

/-- One or more digits. -/
def Digits (s : List Char) : Prop :=
  s ≠ [] ∧ ∀ c ∈ s, c.isDigit = true

/-- What a character means behind a backslash. -/
inductive Escape : Char → Char → Prop
  | newline : Escape 'n' '\n'
  | tab : Escape 't' '\t'
  | carriageReturn : Escape 'r' '\r'
  /-- Any other character means itself. -/
  | itself {c : Char} : c ≠ 'n' → c ≠ 't' → c ≠ 'r' → Escape c c

theorem escape_iff {c d : Char} : Escape c d ↔ d = Token.unescape c := by
  constructor
  · rintro (_ | _ | _ | ⟨hn, ht, hr⟩)
    · rfl
    · rfl
    · rfl
    · rw [Token.unescape, if_neg hn, if_neg ht, if_neg hr]
  · rintro rfl
    unfold Token.unescape
    split
    · next h => exact h ▸ .newline
    · split
      · next h => exact h ▸ .tab
      · split
        · next h => exact h ▸ .carriageReturn
        · next hn ht hr => exact .itself hn ht hr

/-- What stands between two quotes, and the text that it means. -/
inductive Quoted (quote : Char) : List Char → List Char → Prop
  | nil : Quoted quote [] []
  /-- A character that is neither the quote nor a backslash means itself. -/
  | plain {c : Char} {value body : List Char} : c ≠ quote → c ≠ '\\' →
      Quoted quote value body → Quoted quote (c :: value) (c :: body)
  /-- A backslash changes the meaning of the next character, whichever it is. -/
  | escaped {c meant : Char} {value body : List Char} : Escape c meant →
      Quoted quote value body → Quoted quote (meant :: value) ('\\' :: c :: body)

/-- The characters of a literal.  There are no blanks inside. -/
inductive WritesLiteral : WrittenLiteral → List Char → Prop
  | null {s : List Char} : NullWord s → WritesLiteral .null s
  | bool {b : Bool} {s : List Char} : BoolWord b s → WritesLiteral (.bool b) s
  | whole {digits : List Char} : Digits digits → WritesLiteral (.whole digits) digits
  | fraction {whole fraction : List Char} : Digits whole → Digits fraction →
      WritesLiteral (.fraction whole fraction) (whole ++ '.' :: fraction)
  | string {quote : Char} {value body : List Char} : quote = '\'' ∨ quote = '"' →
      Quoted quote value body → WritesLiteral (.string value) (quote :: (body ++ [quote]))

/-! ## Operators -/

/-- The operators, each with its level and the characters of its symbol. -/
inductive Operator : BinaryOp → Nat → List Char → Prop
  | or : Operator .or 0 ['|', '|']
  | and : Operator .and 1 ['&', '&']
  | eq : Operator .eq 2 ['=', '=']
  | ne : Operator .ne 2 ['!', '=']
  | gt : Operator .gt 2 ['>']
  | ge : Operator .ge 2 ['>', '=']
  | lt : Operator .lt 2 ['<']
  | le : Operator .le 2 ['<', '=']
  | add : Operator .add 3 ['+']
  | sub : Operator .sub 3 ['-']
  | mul : Operator .mul 4 ['*']
  | div : Operator .div 4 ['/']

theorem operator_iff {op : BinaryOp} {level : Nat} {symbol : List Char} :
    Operator op level symbol ↔ level = op.level ∧ symbol = op.symbol.toList := by
  constructor
  · intro h
    cases h <;> exact ⟨rfl, rfl⟩
  · rintro ⟨rfl, rfl⟩
    cases op <;> constructor

/-! ## Forms -/

mutual

/-- The characters of a form at a level. -/
inductive Writes : Nat → Form → List Char → Prop
  /-- Operators of one level group from the left. -/
  | binary {op : BinaryOp} {level : Nat} {left right : Form} {symbol l g h r : List Char} :
      Operator op level symbol → Writes level left l → Gap g → Gap h →
      Writes (level + 1) right r → Writes level (.binary op left right) (l ++ g ++ symbol ++ h ++ r)
  /-- What binds tighter may stand where something looser is asked for. -/
  | tighter {level : Nat} {form : Form} {s : List Char} : level < 6 →
      Writes (level + 1) form s → Writes level form s
  | neg {operand : Form} {g s : List Char} : Gap g → Writes 5 operand s →
      Writes 5 (.neg operand) ('-' :: (g ++ s))
  | literal {value : WrittenLiteral} {s : List Char} : WritesLiteral value s →
      Writes 6 (.literal value) s
  | path {segments : List (List Char)} : segments ≠ [] → (∀ segment ∈ segments, Name segment) →
      Writes 6 (.path segments) (['.'].intercalate segments)
  | call {name : List Char} {args : List Form} {g s : List Char} : Name name → Gap g →
      WritesArgs args s → Writes 6 (.call name args) (name ++ g ++ '(' :: (s ++ [')']))
  | parens {form : Form} {g s h : List Char} : Gap g → Writes 0 form s → Gap h →
      Writes 6 form ('(' :: (g ++ s ++ h ++ [')']))

/-- The characters of the arguments of a call, between its parentheses. -/
inductive WritesArgs : List Form → List Char → Prop
  | none {g : List Char} : Gap g → WritesArgs [] g
  | one {arg : Form} {g s h : List Char} : Gap g → Writes 0 arg s → Gap h →
      WritesArgs [arg] (g ++ s ++ h)
  | more {arg next : Form} {args : List Form} {g s h rest : List Char} : Gap g →
      Writes 0 arg s → Gap h → WritesArgs (next :: args) rest →
      WritesArgs (arg :: next :: args) (g ++ s ++ h ++ ',' :: rest)

end

/-- The characters of a whole formula. -/
def Spells (form : Form) (source : List Char) : Prop :=
  ∃ g s h, source = g ++ s ++ h ∧ Gap g ∧ Writes 0 form s ∧ Gap h

/-! ## Trees -/

/-- The number that some digits write. -/
def numeral (digits : List Char) : Nat :=
  Nat.ofDigitChars 10 digits 0

theorem numeral_eq (digits : List Char) : numeral digits = Decimal.valueOfDigits digits := rfl

/-- The value of a literal.  A whole number has one only if it is an integer, and a number with
a fraction has the binary number that is nearest to it. -/
inductive LiteralMeans : WrittenLiteral → Literal → Prop
  | null : LiteralMeans .null .null
  | bool (b : Bool) : LiteralMeans (.bool b) (.bool b)
  | whole {digits : List Char} {n : Int64} : n.toInt = numeral digits →
      LiteralMeans (.whole digits) (.int n)
  | fraction (whole fraction : List Char) :
      LiteralMeans (.fraction whole fraction) (.float (Binary64.ofRatio false
        (numeral (whole ++ fraction) * unitsPerOne) (10 ^ fraction.length)))
  | string (s : List Char) : LiteralMeans (.string s) (.string (String.ofList s))

/-- A number as a tree. -/
def IsNumber (expr : Expr) : Prop :=
  (∃ n, expr = .literal (.int n)) ∨ ∃ x, expr = .literal (.float x)

/-- A minus sign before a tree: a number takes it in, anything else goes under it. -/
inductive Negated : Expr → Expr → Prop
  | int {m n : Int64} : n.toInt = -m.toInt → Negated (.literal (.int m)) (.literal (.int n))
  | float (x : Binary64) : Negated (.literal (.float x)) (.literal (.float x.neg))
  | other {expr : Expr} : ¬ IsNumber expr → Negated expr (.neg expr)

mutual

/-- The tree of a form. -/
def Denotes : Form → Expr → Prop
  | .literal written, expr => ∃ value, LiteralMeans written value ∧ expr = .literal value
  | .path segments, expr => expr = .identifier ⟨segments.map String.ofList⟩
  | .neg operand, expr => ∃ inner, Denotes operand inner ∧ Negated inner expr
  | .binary op left right, expr =>
    ∃ l r, Denotes left l ∧ Denotes right r ∧ expr = .binary op l r
  | .call name args, expr =>
    ∃ exprs, DenotesAll args exprs ∧ expr = .call (String.ofList name) exprs

/-- The trees of some forms. -/
def DenotesAll : List Form → List Expr → Prop
  | [], exprs => exprs = []
  | form :: rest, exprs => ∃ e es, Denotes form e ∧ DenotesAll rest es ∧ exprs = e :: es

end

/-- The characters of a tree. -/
def WritesTree (source : List Char) (expr : Expr) : Prop :=
  ∃ form, Spells form source ∧ Denotes form expr

/-- The digits stand as a whole number somewhere in a form. -/
inductive HasWhole (digits : List Char) : Form → Prop
  | here : HasWhole digits (.literal (.whole digits))
  | neg {operand : Form} : HasWhole digits operand → HasWhole digits (.neg operand)
  | left {op : BinaryOp} {left right : Form} : HasWhole digits left →
      HasWhole digits (.binary op left right)
  | right {op : BinaryOp} {left right : Form} : HasWhole digits right →
      HasWhole digits (.binary op left right)
  | arg {name : List Char} {args : List Form} {arg : Form} : arg ∈ args →
      HasWhole digits arg → HasWhole digits (.call name args)

end Formulary.Grammar
