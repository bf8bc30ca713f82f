import Formulary.Proofs.Function.Standard
import Formulary.Proofs.Sql.Reader

/-!
# Conditions and their clauses

The conditions that the evaluator and the database are to agree on: comparisons of terms,
tests for null, searches in a text, identifiers and truth values, put together with `&&` and
`||`.  Their clauses have the same shape, one case for each.

* `IsTerm`, `IsCondition` — the terms and the conditions;
* `TermClause`, `ConditionClause` — a term or a condition with its clause;
* `termClause_of_clause`, `conditionClause_of_clause` — the clauses of conditions are these;
* `ConditionClause.plain` — the database reads them.
-/

namespace Formulary.Sql

open Grammar (Canonical)

/-! ## Conditions -/

/-- An identifier, a literal other than null, or arithmetic on such. -/
inductive IsTerm : Expr → Prop
  | identifier (path : Path) : IsTerm (.identifier path)
  | literal {value : Literal} : value ≠ .null → IsTerm (.literal value)
  | neg {operand : Expr} : IsTerm operand → IsTerm (.neg operand)
  | binary {op : BinaryOp} {left right : Expr} : op.isArithmetic = true → IsTerm left →
      IsTerm right → IsTerm (.binary op left right)

/-- The functions that look for a text in another. -/
def searches : List String := ["CONTAINS", "STARTS_WITH", "ENDS_WITH"]

/-- What a row can be selected by. -/
inductive IsCondition : Expr → Prop
  | bool (b : Bool) : IsCondition (.literal (.bool b))
  | identifier (path : Path) : IsCondition (.identifier path)
  | comparison {op : BinaryOp} {left right : Expr} : (op.isEquality || op.isOrdering) = true →
      IsTerm left → IsTerm right → IsCondition (.binary op left right)
  /-- A term is null, or is not. -/
  | nullAfter {op : BinaryOp} {term : Expr} : op.isEquality = true → IsTerm term →
      IsCondition (.binary op term (.literal .null))
  | nullBefore {op : BinaryOp} {term : Expr} : op.isEquality = true → IsTerm term →
      IsCondition (.binary op (.literal .null) term)
  /-- A text is looked for in the value of an identifier. -/
  | search {name : String} (path : Path) (text : String) : Text.upper name ∈ searches →
      IsCondition (.call name [.identifier path, .literal (.string text)])
  | logical {op : BinaryOp} {left right : Expr} : op.isLogical = true → IsCondition left →
      IsCondition right → IsCondition (.binary op left right)

theorem IsTerm.isNullLiteral {expr : Expr} (h : IsTerm expr) : expr.isNullLiteral = false := by
  cases h with
  | @literal value hvalue =>
    cases value with
    | null => exact absurd rfl hvalue
    | _ => rfl
  | _ => rfl

theorem IsCondition.isNullLiteral {expr : Expr} (h : IsCondition expr) :
    expr.isNullLiteral = false := by
  cases h <;> rfl

/-! ## Clauses of terms -/

/-- A term and its clause. -/
inductive TermClause : Expr → Clause → Prop
  | column {path : Path} : Canonical (.identifier path) →
      TermClause (.identifier path) (.column path.text)
  | bound {value : Literal} : value ≠ .null → TermClause (.literal value) (.bound value)
  | neg {operand : Expr} {c : Clause} : TermClause operand c → TermClause (.neg operand) (.neg c)
  | binary {op : BinaryOp} {left right : Expr} {c d : Clause} : op.isArithmetic = true →
      TermClause left c → TermClause right d →
      TermClause (.binary op left right) (.binary op c d)

variable {columns : Columns}

theorem clause_identifier {path : Path} {c : Clause}
    (h : clause columns (.identifier path) = .ok c) : c = .column path.text := by
  rw [clause] at h
  split at h
  · exact (Except.ok.inj h).symm
  · cases h

/-- An operator between operands that are not null stays an operator. -/
theorem clause_operator {op : BinaryOp} {left right : Expr} {c : Clause}
    (hl : left.isNullLiteral = false) (hr : right.isNullLiteral = false)
    (h : clause columns (.binary op left right) = .ok c) :
    ∃ d e, clause columns left = .ok d ∧ clause columns right = .ok e ∧ c = .binary op d e := by
  rcases clause_binary h with ⟨isNull, d, -, hnull, -⟩ | ⟨-, -, hclauses⟩
  · rcases hnull with ⟨hnull, -⟩ | ⟨hnull, -⟩
    · rw [hr] at hnull
      cases hnull
    · rw [hl] at hnull
      cases hnull
  · exact hclauses

theorem termClause_of_clause {expr : Expr} (h : IsTerm expr) (hcanonical : Canonical expr)
    {c : Clause} (hc : clause columns expr = .ok c) : TermClause expr c := by
  induction h generalizing c with
  | identifier path =>
    obtain rfl := clause_identifier hc
    exact .column hcanonical
  | literal hvalue =>
    obtain rfl := Except.ok.inj hc
    exact .bound hvalue
  | neg hoperand ih =>
    obtain ⟨-, -, d, hd, rfl⟩ := clause_neg hc
    cases hcanonical with
    | neg _ hcanonical => exact .neg (ih hcanonical hd)
  | binary hop hl hr ihl ihr =>
    obtain ⟨d, e, hd, he, rfl⟩ := clause_operator hl.isNullLiteral hr.isNullLiteral hc
    cases hcanonical with
    | binary _ hleft hright => exact .binary hop (ihl hleft hd) (ihr hright he)

theorem TermClause.isTerm {expr : Expr} {c : Clause} (h : TermClause expr c) : IsTerm expr := by
  induction h with
  | column _ => exact .identifier _
  | bound hvalue => exact .literal hvalue
  | neg _ ih => exact .neg ih
  | binary hop _ _ ihl ihr => exact .binary hop ihl ihr

/-- The text of an identifier is the name of a column. -/
theorem plain_column {path : Path} (h : Canonical (.identifier path)) :
    Plain (.column path.text) := by
  refine .column (Grammar.pathText_ne_nil h) ?_
  intro c hc
  rcases Grammar.mem_pathText h hc with hc | hc
  · simp [isColumnChar, hc]
  · rw [Text.isIdentifierChar, Bool.or_comm] at hc
    rw [isColumnChar, Bool.or_assoc, hc, Bool.or_true]

theorem TermClause.plain {expr : Expr} {c : Clause} (h : TermClause expr c) : Plain c := by
  induction h with
  | column hpath => exact plain_column hpath
  | bound _ => exact .bound _
  | neg _ ih => exact .neg ih
  | binary _ _ _ ihl ihr => exact .binary _ ihl ihr

/-! ## Clauses of conditions -/

/-- A name means the search with a pattern. -/
def Searches (name : String) (pattern : LikePattern) : Prop :=
  ∃ builtin, Builtin.lookup? name = some builtin ∧
    builtin.action = .eager fun _ => Builtin.like builtin.name pattern

theorem search_of_lookup {name : String} {builtin : Builtin} (h : Text.upper name ∈ searches)
    (hlookup : Builtin.lookup? name = some builtin) :
    ∃ pattern, builtin.sql = some (.like pattern) ∧
      builtin.action = .eager fun _ => Builtin.like builtin.name pattern := by
  have hall : builtin ∈ Builtin.all := List.mem_of_find?_eq_some hlookup
  rw [← Builtin.name_of_lookup? hlookup] at h
  clear hlookup
  simp only [Builtin.all, List.mem_cons, List.not_mem_nil, or_false] at hall
  rcases hall with rfl | rfl | rfl | rfl | rfl | rfl | rfl | rfl | rfl | rfl | rfl | rfl
  all_goals first | exact ⟨_, rfl, rfl⟩ | simp [searches] at h

/-- A condition and its clause. -/
inductive ConditionClause : Expr → Clause → Prop
  | bound (b : Bool) : ConditionClause (.literal (.bool b)) (.bound (.bool b))
  | column {path : Path} : Canonical (.identifier path) →
      ConditionClause (.identifier path) (.column path.text)
  | comparison {op : BinaryOp} {left right : Expr} {c d : Clause} :
      (op.isEquality || op.isOrdering) = true → TermClause left c → TermClause right d →
      ConditionClause (.binary op left right) (.binary op c d)
  | nullAfter {op : BinaryOp} {isNull : Bool} {term : Expr} {c : Clause} :
      isNullTest? op = some isNull → TermClause term c →
      ConditionClause (.binary op term (.literal .null)) (.nullTest isNull c)
  | nullBefore {op : BinaryOp} {isNull : Bool} {term : Expr} {c : Clause} :
      isNullTest? op = some isNull → TermClause term c →
      ConditionClause (.binary op (.literal .null) term) (.nullTest isNull c)
  | search {name : String} {pattern : LikePattern} {path : Path} (text : String) :
      Searches name pattern → Canonical (.identifier path) →
      ConditionClause (.call name [.identifier path, .literal (.string text)])
        (.like (.column path.text) (pattern.pattern text))
  | logical {op : BinaryOp} {left right : Expr} {c d : Clause} : op.isLogical = true →
      ConditionClause left c → ConditionClause right d →
      ConditionClause (.binary op left right) (.binary op c d)

theorem conditionClause_search {name text : String} {path : Path}
    (hname : Text.upper name ∈ searches) (hcanonical : Canonical (.identifier path)) {c : Clause}
    (hc : clause columns (.call name [.identifier path, .literal (.string text)]) = .ok c) :
    ConditionClause (.call name [.identifier path, .literal (.string text)]) c := by
  obtain ⟨builtin, mapping, hlookup, hsql, -, -, hcall⟩ := clause_call hc
  obtain ⟨pattern, hpattern, haction⟩ := search_of_lookup hname hlookup
  obtain rfl : mapping = .like pattern := by
    rw [hsql] at hpattern
    exact Option.some.inj hpattern
  cases hcall with
  | like _ hsubject =>
    obtain rfl := clause_identifier hsubject
    exact .search text ⟨builtin, hlookup, haction⟩ hcanonical

theorem conditionClause_of_clause {expr : Expr} (h : IsCondition expr)
    (hcanonical : Canonical expr) {c : Clause} (hc : clause columns expr = .ok c) :
    ConditionClause expr c := by
  induction h generalizing c with
  | bool b =>
    obtain rfl := Except.ok.inj hc
    exact .bound b
  | identifier path =>
    obtain rfl := clause_identifier hc
    exact .column hcanonical
  | comparison hop hl hr =>
    obtain ⟨d, e, hd, he, rfl⟩ := clause_operator hl.isNullLiteral hr.isNullLiteral hc
    cases hcanonical with
    | binary _ hleft hright =>
      exact .comparison hop (termClause_of_clause hl hleft hd) (termClause_of_clause hr hright he)
  | nullAfter _ hterm =>
    cases hcanonical with
    | binary _ hleft _ =>
      rcases clause_binary hc with ⟨isNull, d, htest, hoperand, rfl⟩ | ⟨-, hright, -⟩
      · rcases hoperand with ⟨-, hd⟩ | ⟨-, hright, -⟩
        · exact .nullAfter htest (termClause_of_clause hterm hleft hd)
        · cases hright
      · cases hright
  | nullBefore _ hterm =>
    cases hcanonical with
    | binary _ _ hright =>
      rcases clause_binary hc with ⟨isNull, d, htest, hoperand, rfl⟩ | ⟨hleft, -, -⟩
      · rcases hoperand with ⟨hnull, -⟩ | ⟨-, -, hd⟩
        · rw [hterm.isNullLiteral] at hnull
          cases hnull
        · exact .nullBefore htest (termClause_of_clause hterm hright hd)
      · cases hleft
  | search path text hname =>
    cases hcanonical with
    | call _ hargs => exact conditionClause_search hname (hargs _ (by simp)) hc
  | logical hop hl hr ihl ihr =>
    obtain ⟨d, e, hd, he, rfl⟩ := clause_operator hl.isNullLiteral hr.isNullLiteral hc
    cases hcanonical with
    | binary _ hleft hright => exact .logical hop (ihl hleft hd) (ihr hright he)

/-- The database reads the clause of a condition. -/
theorem ConditionClause.plain {expr : Expr} {c : Clause} (h : ConditionClause expr c) :
    Plain c := by
  induction h with
  | bound b => exact .bound _
  | column hpath => exact plain_column hpath
  | comparison _ hl hr => exact .binary _ hl.plain hr.plain
  | nullAfter _ hterm => exact .nullTest _ hterm.plain
  | nullBefore _ hterm => exact .nullTest _ hterm.plain
  | search text _ hpath => exact .like _ (plain_column hpath)
  | logical _ _ _ ihl ihr => exact .binary _ ihl ihr

end Formulary.Sql
