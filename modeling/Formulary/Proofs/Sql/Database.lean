import Formulary.Program.Eval
import Formulary.Proofs.Function.Like
import Formulary.Proofs.Program.Operators
import Formulary.Proofs.Sql.Reader

/-!
# What a predicate says of a row

A database answers a predicate with one of three truth values.  Null is known of nothing: a
comparison with null is neither true nor false, and only a predicate that holds selects its
row.  What the database does with numbers and texts is left open here; `Database.Lawful` says
what is relied upon.

* `Truth` — the three truth values, with the connectives;
* `Database.truth` — the truth value of a clause;
* `Database.Lawful` — the database computes as the evaluator does, apart from null;
  `Database.ComparesAlike` says so of comparisons alone;
* `lawful_ofContext` — there is such a database for the values of any record.
-/

namespace Formulary.Sql

/-! ## Truth values -/

/-- A truth value of the database. -/
inductive Truth where
  | holds
  | fails
  | unknown
  deriving DecidableEq

namespace Truth

/-- What is known to be true or false. -/
def ofBool (b : Bool) : Truth :=
  if b then .holds else .fails

/-- Both hold; one that fails settles it. -/
def and : Truth → Truth → Truth
  | .holds, b => b
  | .fails, _ => .fails
  | .unknown, .fails => .fails
  | .unknown, _ => .unknown

/-- One of both holds; one that holds settles it. -/
def or : Truth → Truth → Truth
  | .holds, _ => .holds
  | .fails, b => b
  | .unknown, .holds => .holds
  | .unknown, _ => .unknown

@[simp]
theorem ofBool_eq_holds {b : Bool} : ofBool b = .holds ↔ b = true := by
  cases b <;> simp [ofBool]

theorem and_eq_holds {a b : Truth} : a.and b = .holds ↔ a = .holds ∧ b = .holds := by
  cases a <;> cases b <;> decide

theorem or_eq_holds {a b : Truth} : a.or b = .holds ↔ a = .holds ∨ b = .holds := by
  cases a <;> cases b <;> decide

end Truth

/-! ## Databases -/

/-- A database with a row in view: what it does with values. -/
structure Database where
  /-- The value of a column in the row. -/
  column : String → Value
  /-- The value with the other sign. -/
  opposite : Value → Value
  /-- An arithmetic operator. -/
  arithmetic : BinaryOp → Value → Value → Value
  /-- A test of equality or order. -/
  comparison : BinaryOp → Value → Value → Truth
  /-- A value compared with a pattern. -/
  like : Value → String → Truth
  /-- A value as a truth value. -/
  asTruth : Value → Truth
  /-- The value of a clause that is none of these. -/
  other : Clause → Value

namespace Database

variable (db : Database)

/-- The value of a clause. -/
def term : Clause → Value
  | .column name => db.column name
  | .bound value => .ofLiteral value
  | .neg operand => db.opposite (term operand)
  | .binary op left right =>
    if op.isArithmetic then db.arithmetic op (term left) (term right)
    else db.other (.binary op left right)
  | c => db.other c

/-- The truth value of a clause. -/
def truth : Clause → Truth
  | .binary .and left right => (truth left).and (truth right)
  | .binary .or left right => (truth left).or (truth right)
  | .binary op left right =>
    if op.isArithmetic then db.asTruth (db.term (.binary op left right))
    else db.comparison op (db.term left) (db.term right)
  | .nullTest isNull operand => .ofBool (isNull == (db.term operand).isNull)
  | .like subject pattern => db.like (db.term subject) pattern
  | c => db.asTruth (db.term c)

/-! ## Laws -/

/-- What is relied upon, with the values of a record in view.  Null makes null and the
unknown; for everything else the results of the evaluator count, where it has one. -/
structure Lawful (context : Context) : Prop where
  /-- The columns have the values of the identifiers. -/
  column : ∀ {path value}, Grammar.Canonical (.identifier path) →
    Node.resolve context path = some value → db.column path.text = value
  opposite_null : db.opposite .null = .null
  opposite : ∀ {a c}, a.isNull = false → a.opposite = .ok c → db.opposite a = c
  arithmetic_null : ∀ {op a b}, (a.isNull || b.isNull) = true → db.arithmetic op a b = .null
  arithmetic : ∀ {op a b c}, (a.isNull || b.isNull) = false → op.calculate a b = .ok c →
    db.arithmetic op a b = c
  comparison_null : ∀ {op a b}, (a.isNull || b.isNull) = true →
    db.comparison op a b = .unknown
  comparison : ∀ {op a b c}, (a.isNull || b.isNull) = false → op.apply a b = .ok (.bool c) →
    db.comparison op a b = .ofBool c
  like_null : ∀ {pattern}, db.like .null pattern = .unknown
  like : ∀ {kind subject text}, db.like (.string subject) (LikePattern.pattern kind text) =
    .ofBool (kind.found subject text)
  asTruth : ∀ {b}, db.asTruth (.bool b) = .ofBool b

/-- Comparisons alone: with null they are unknown, and otherwise the result of the evaluator
counts, where it has one. -/
structure ComparesAlike : Prop where
  comparison_null : ∀ {op a b}, (a.isNull || b.isNull) = true →
    db.comparison op a b = .unknown
  comparison : ∀ {op a b c}, (a.isNull || b.isNull) = false → op.apply a b = .ok (.bool c) →
    db.comparison op a b = .ofBool c

variable {db} in
theorem Lawful.comparesAlike {context : Context} (h : db.Lawful context) : db.ComparesAlike :=
  ⟨h.comparison_null, h.comparison⟩

/-! ## A database for every record -/

/-- The result of the evaluator, or null where it has none. -/
def resultOrNull : Except RuntimeError Value → Value
  | .ok value => value
  | .error _ => .null

/-- A value as a truth value; what is none is unknown. -/
def truthOrUnknown : Value → Truth
  | .bool b => .ofBool b
  | _ => .unknown

/-- The database that computes as the evaluator does, with null and the unknown in the place
of errors. -/
def ofContext (context : Context) : Database where
  column name := (Node.resolve context (Path.ofDotted name)).getD .null
  opposite a := resultOrNull a.opposite
  arithmetic op a b := resultOrNull (op.calculate a b)
  comparison op a b :=
    if a.isNull || b.isNull then .unknown else truthOrUnknown (resultOrNull (op.apply a b))
  like a pattern :=
    match a with
    | .string subject => .ofBool (LikePattern.matchesPattern pattern subject)
    | _ => .unknown
  asTruth := truthOrUnknown
  other _ := .null

/-- It keeps the laws. -/
theorem lawful_ofContext (context : Context) : (ofContext context).Lawful context where
  column hpath hvalue := by
    simp [ofContext, Grammar.ofDotted_text hpath, hvalue]
  opposite_null := rfl
  opposite _ hc := by
    simp [ofContext, hc, resultOrNull]
  arithmetic_null hnull := by
    simp [ofContext, BinaryOp.calculate_of_null hnull, resultOrNull]
  arithmetic _ hc := by
    simp [ofContext, hc, resultOrNull]
  comparison_null hnull := by
    simp only [ofContext, if_pos hnull]
  comparison hnull hc := by
    simp only [ofContext, hnull, hc, resultOrNull, truthOrUnknown, Bool.false_eq_true, if_false]
  like_null := rfl
  like := by
    simp [ofContext, LikePattern.matches_pattern]
  asTruth := rfl

end Database

end Formulary.Sql
