import Formulary.Number.Integer
import Formulary.Number.Numeral
import Formulary.Text.Identifier
import Formulary.Text.Pieces

/-!
# Expressions

A formula is a tree of literals, identifiers, a minus sign before an operand, binary
operators and function calls.  The tree is what every other part works on: the
evaluator, the database predicates and the data-exchange form.
-/

namespace Formulary

/-! ## Literals -/

/-- A constant of a formula. -/
inductive Literal where
  /-- The null. -/
  | null
  /-- A truth value. -/
  | bool (value : Bool)
  /-- An integer. -/
  | int (value : Int64)
  /-- A binary number. -/
  | float (value : Binary64)
  /-- A text. -/
  | string (value : String)
  deriving DecidableEq

namespace Literal

/-- The name of the kind of a literal. -/
def kind : Literal → String
  | .null => "null"
  | .bool _ => "bool"
  | .int _ => "int"
  | .float _ => "float"
  | .string _ => "string"

/-- A character of a text as it stands between single quotes. -/
def quoteChar (c : Char) : List Char :=
  if c = '\\' then ['\\', '\\'] else if c = '\'' then ['\\', '\''] else [c]

/-- The text of a truth value. -/
def boolText (b : Bool) : String :=
  if b then "true" else "false"

/-- The text of a literal in a formula. -/
def text : Literal → String
  | .null => "null"
  | .bool b => boolText b
  | .int n => Integer.text n
  | .float x => Numeral.marked.text x
  | .string s => String.ofList ('\'' :: (s.toList.flatMap quoteChar ++ ['\'']))

end Literal

/-! ## Identifiers -/

/-- A dotted name such as `record.account.name`, as the list of its segments. -/
structure Path where
  segments : List String
  deriving DecidableEq

namespace Path

/-- The dotted text of a path. -/
def text (path : Path) : String :=
  String.intercalate "." path.segments

/-- The path that a dotted text writes.  Every text writes one. -/
def ofDotted (dotted : String) : Path :=
  ⟨Text.cut '.' dotted⟩

end Path

/-! ## Operators -/

/-- An operator between two operands. -/
inductive BinaryOp where
  | or | and | eq | ne | gt | ge | lt | le | add | sub | mul | div
  deriving DecidableEq

namespace BinaryOp

/-- Every operator. -/
def all : List BinaryOp :=
  [.or, .and, .eq, .ne, .gt, .ge, .lt, .le, .add, .sub, .mul, .div]

/-- The symbol of an operator. -/
def symbol : BinaryOp → String
  | .or => "||"
  | .and => "&&"
  | .eq => "=="
  | .ne => "!="
  | .gt => ">"
  | .ge => ">="
  | .lt => "<"
  | .le => "<="
  | .add => "+"
  | .sub => "-"
  | .mul => "*"
  | .div => "/"

/-- The name of an operator in the data-exchange form. -/
def name : BinaryOp → String
  | .or => "Or"
  | .and => "And"
  | .eq => "Eq"
  | .ne => "Ne"
  | .gt => "Gt"
  | .ge => "Ge"
  | .lt => "Lt"
  | .le => "Le"
  | .add => "Add"
  | .sub => "Sub"
  | .mul => "Mul"
  | .div => "Div"

/-- The operator with a symbol. -/
def ofSymbol? (symbol : String) : Option BinaryOp :=
  all.find? fun op => op.symbol == symbol

/-- The operator with a name in the data-exchange form. -/
def ofName? (name : String) : Option BinaryOp :=
  all.find? fun op => op.name == name

/-- An operator between truth values. -/
def isLogical : BinaryOp → Bool
  | .or | .and => true
  | _ => false

/-- A test of equality. -/
def isEquality : BinaryOp → Bool
  | .eq | .ne => true
  | _ => false

/-- A test of order. -/
def isOrdering : BinaryOp → Bool
  | .gt | .ge | .lt | .le => true
  | _ => false

/-- An operator between numbers. -/
def isArithmetic : BinaryOp → Bool
  | .add | .sub | .mul | .div => true
  | _ => false

/-- How tightly an operator binds, from 0 for the loosest to 4 for the tightest. -/
def level : BinaryOp → Nat
  | .or => 0
  | .and => 1
  | .eq | .ne | .gt | .ge | .lt | .le => 2
  | .add | .sub => 3
  | .mul | .div => 4

/-- The symbols tell the operators apart. -/
theorem ofSymbol?_symbol (op : BinaryOp) : ofSymbol? op.symbol = some op := by
  cases op <;> decide

/-- The names tell the operators apart. -/
theorem ofName?_name (op : BinaryOp) : ofName? op.name = some op := by
  cases op <;> decide

end BinaryOp

/-! ## Trees -/

/-- A formula. -/
inductive Expr where
  /-- A constant. -/
  | literal (value : Literal)
  /-- A value of the context. -/
  | identifier (path : Path)
  /-- A minus sign before an operand. -/
  | neg (operand : Expr)
  /-- An operator between two operands. -/
  | binary (op : BinaryOp) (left right : Expr)
  /-- A function applied to arguments, with its name as it was written. -/
  | call (name : String) (args : List Expr)

namespace Expr

/-- Induction on formulas: what is to be shown of a call may be used of its arguments. -/
@[elab_as_elim]
theorem induct {motive : Expr → Prop}
    (literal : ∀ value, motive (.literal value))
    (identifier : ∀ path, motive (.identifier path))
    (neg : ∀ operand, motive operand → motive (.neg operand))
    (binary : ∀ op left right, motive left → motive right → motive (.binary op left right))
    (call : ∀ name args, (∀ arg ∈ args, motive arg) → motive (.call name args))
    (expr : Expr) : motive expr := by
  refine Expr.rec (motive_1 := motive) (motive_2 := fun args => ∀ arg ∈ args, motive arg)
    literal identifier neg binary call ?_ ?_ expr
  · intro arg harg
    cases harg
  · intro first rest hfirst hrest arg harg
    rcases List.mem_cons.1 harg with rfl | hlater
    · exact hfirst
    · exact hrest arg hlater

/-- The null literal. -/
def isNullLiteral : Expr → Bool
  | .literal .null => true
  | _ => false

/-- The text of a literal text. -/
def stringLiteral? : Expr → Option String
  | .literal (.string s) => some s
  | _ => none

mutual

/-- Two formulas are the same. -/
def same : Expr → Expr → Bool
  | .literal v, .literal w => v == w
  | .identifier p, .identifier q => p == q
  | .neg a, .neg b => same a b
  | .binary op a b, .binary other c d => op == other && (same a c && same b d)
  | .call name args, .call other args' => name == other && sameAll args args'
  | _, _ => false

/-- Two lists have the same formulas in the same order. -/
def sameAll : List Expr → List Expr → Bool
  | [], [] => true
  | a :: as, b :: bs => same a b && sameAll as bs
  | _, _ => false

end

mutual

theorem same_iff : ∀ a b : Expr, same a b = true ↔ a = b
  | .literal v, b => by cases b <;> simp [same]
  | .identifier p, b => by cases b <;> simp [same]
  | .neg a, b => by
    cases b with
    | neg b => simp [same, same_iff a b]
    | _ => simp [same]
  | .binary op a b, c => by
    cases c with
    | binary other c d => simp [same, same_iff a c, same_iff b d]
    | _ => simp [same]
  | .call name args, c => by
    cases c with
    | call other args' => simp [same, sameAll_iff args args']
    | _ => simp [same]

theorem sameAll_iff : ∀ as bs : List Expr, sameAll as bs = true ↔ as = bs
  | [], bs => by cases bs <;> simp [sameAll]
  | a :: as, bs => by
    cases bs with
    | nil => simp [sameAll]
    | cons b bs => simp [sameAll, same_iff a b, sameAll_iff as bs]

end

instance : DecidableEq Expr := fun a b => decidable_of_iff _ (same_iff a b)

mutual

/-- Adds the names of the functions that a formula calls, in upper case and in the order
of their first appearance, to a list of names without repetition. -/
def addFunctionNames (names : List String) : Expr → List String
  | .literal _ => names
  | .identifier _ => names
  | .neg operand => addFunctionNames names operand
  | .binary _ left right => addFunctionNames (addFunctionNames names left) right
  | .call name args =>
    let name := Text.upper name
    addFunctionNamesOf (if names.contains name then names else names ++ [name]) args

/-- Adds the names of the functions that some formulas call. -/
def addFunctionNamesOf (names : List String) : List Expr → List String
  | [] => names
  | expr :: rest => addFunctionNamesOf (addFunctionNames names expr) rest

end

/-- The names of the functions that a formula calls, in upper case, each once, in the
order of their first appearance. -/
def functionNames (expr : Expr) : List String :=
  addFunctionNames [] expr

mutual

/-- The text of a formula: every binary operator is in parentheses. -/
def text : Expr → String
  | .literal value => value.text
  | .identifier path => path.text
  | .neg operand => "-" ++ text operand
  | .binary op left right =>
    "(" ++ text left ++ " " ++ op.symbol ++ " " ++ text right ++ ")"
  | .call name args => name ++ "(" ++ String.intercalate ", " (texts args) ++ ")"

/-- The texts of some formulas. -/
def texts : List Expr → List String
  | [] => []
  | expr :: rest => text expr :: texts rest

end

end Expr

end Formulary
