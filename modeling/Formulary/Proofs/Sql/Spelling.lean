import Formulary.Proofs.Expr.Spelling
import Formulary.Proofs.Sql.Clause

/-!
# Spellings of function names in database predicates

Formulas that are the same but for the case of function names have the same predicate, or are
refused for the same reason.  The one trace of the spelling is in the refusal of an operand that
is no number, which quotes the operand as it was written.

* `SameRefusal`, `SameOutcome` — refusals for one reason, and results of one kind;
* `bind`, `map`, `clauseAll` — steps in a row have results of one kind if each has;
* `clause_same`, `compileExpr_same` — so have the clauses and the predicates of two formulas.
-/

namespace Formulary

/-- A function of the language is found under every spelling of its name. -/
theorem Builtin.lookup?_congr {name other : String} (h : Text.upper name = Text.upper other) :
    Builtin.lookup? name = Builtin.lookup? other := by
  unfold Builtin.lookup?
  rw [h]

namespace Sql

open Formulary.Expr (SameButCase)

/-- Two refusals for one reason: they are the same, or each quotes its operand as it was written. -/
inductive SameRefusal : CompileError → CompileError → Prop
  | same (e : CompileError) : SameRefusal e e
  | operand (op : String) {a b : Expr} : SameButCase a b →
      SameRefusal (.nonNumericOperand op a.text) (.nonNumericOperand op b.text)

/-- Two results of one kind: they are the same, or refusals for one reason. -/
inductive SameOutcome {α : Type} : Except CompileError α → Except CompileError α → Prop
  | ok (value : α) : SameOutcome (.ok value) (.ok value)
  | error {e e' : CompileError} : SameRefusal e e' → SameOutcome (.error e) (.error e')

/-! ## Steps in a row -/

namespace SameOutcome

variable {α β : Type} {x y : Except CompileError α}

@[refl]
theorem refl (x : Except CompileError α) : SameOutcome x x := by
  cases x with
  | error e => exact .error (.same e)
  | ok value => exact .ok value

theorem bind {f g : α → Except CompileError β} (h : SameOutcome x y)
    (hnext : ∀ value, SameOutcome (f value) (g value)) : SameOutcome (x.bind f) (y.bind g) := by
  cases h with
  | ok value => exact hnext value
  | error hrefusal => exact .error hrefusal

theorem map (h : SameOutcome x y) (f : α → β) : SameOutcome (x.map f) (y.map f) := by
  cases h with
  | ok value => exact .ok (f value)
  | error hrefusal => exact .error hrefusal

theorem clauseAll {xs ys : List (Except CompileError Clause)} (h : List.Forall₂ SameOutcome xs ys) :
    SameOutcome (clauseAll xs) (clauseAll ys) := by
  induction h with
  | nil => exact .ok []
  | cons hfirst hrest ih =>
    cases hfirst with
    | ok c => exact ih.map _
    | error hrefusal => exact .error hrefusal

end SameOutcome

/-! ## Checks -/

section Checks

variable {a b : Expr} {args others : List Expr}

theorem mayBeNumeric_eq (h : SameButCase a b) : mayBeNumeric a = mayBeNumeric b := by
  cases h with
  | call hname hargs => rw [mayBeNumeric, mayBeNumeric, Builtin.lookup?_congr hname]
  | _ => rfl

/-- The check that quotes its operand. -/
theorem checkNumeric_same (op : String) (h : SameButCase a b) :
    SameOutcome (checkNumeric op a) (checkNumeric op b) := by
  unfold checkNumeric
  rw [mayBeNumeric_eq h]
  by_cases hnumeric : mayBeNumeric b = true
  · rw [if_pos hnumeric, if_pos hnumeric]
  · rw [if_neg hnumeric, if_neg hnumeric]
    exact .error (.operand op h)

theorem checkOperand_same (op : BinaryOp) (h : SameButCase a b) :
    SameOutcome (checkOperand op a) (checkOperand op b) := by
  unfold checkOperand
  by_cases harithmetic : op.isArithmetic = true
  · rw [if_pos harithmetic, if_pos harithmetic]
    exact checkNumeric_same op.symbol h
  · rw [if_neg harithmetic, if_neg harithmetic]

/-- Literals have one spelling. -/
theorem checkLiterals_eq {function : String} {position : Nat} {kinds : List ParamKind}
    (h : List.Forall₂ SameButCase args others) :
    checkLiterals function position kinds args = checkLiterals function position kinds others := by
  induction h generalizing position kinds with
  | nil => rfl
  | cons hfirst hrest ih =>
    cases kinds with
    | nil => rfl
    | cons kind kinds => cases hfirst <;> simp only [checkLiterals, ih]

theorem checkCall_eq (builtin : Builtin) (h : List.Forall₂ SameButCase args others) :
    checkCall builtin args = checkCall builtin others := by
  unfold checkCall
  rw [h.length_eq, checkLiterals_eq h]

end Checks

/-! ## Clauses and predicates -/

variable {columns : Columns}

theorem daysClause_same {a b : Expr} {x y : Except CompileError Clause} (h : SameButCase a b)
    (hread : SameOutcome x y) : SameOutcome (daysClause a x) (daysClause b y) := by
  cases h with
  | literal value => rfl
  | _ => exact hread

theorem pair_of_forall₂ {R : Expr → Expr → Prop} {x y : Expr} {others : List Expr}
    (h : List.Forall₂ R [x, y] others) : ∃ x' y', R x x' ∧ R y y' ∧ others = [x', y'] := by
  obtain ⟨x', rest, hx, hrest, rfl⟩ := List.forall₂_cons_left_iff.1 h
  obtain ⟨y', rest, hy, hnil, rfl⟩ := List.forall₂_cons_left_iff.1 hrest
  obtain rfl := List.forall₂_nil_left_iff.1 hnil
  exact ⟨x', y', hx, hy, rfl⟩

/-- The clauses of two calls of one function. -/
theorem callClause_same {function : String} {mapping : SqlMapping} {args others : List Expr}
    (hmapping : (mapping, args.length) ∈ mappings)
    (h : List.Forall₂ (fun a b => ∃ _ : SameButCase a b,
      SameOutcome (clause columns a) (clause columns b)) args others) :
    SameOutcome (callClause function mapping args (args.map (clause columns)))
      (callClause function mapping others (others.map (clause columns))) := by
  have harity := arity_of_mem_mappings hmapping
  cases mapping with
  | keyword text => exact .refl _
  | call name =>
    have hclauses : List.Forall₂ SameOutcome (args.map (clause columns))
        (others.map (clause columns)) := by
      simpa using h.imp fun _ _ harg => harg.2
    exact (SameOutcome.clauseAll hclauses).map _
  | addDays =>
    obtain ⟨date, days, rfl⟩ := List.length_eq_two.1 harity
    obtain ⟨date', days', ⟨-, hdate⟩, ⟨hdays, hcount⟩, rfl⟩ := pair_of_forall₂ h
    simp only [List.map_cons, List.map_nil, callClause_addDays_eq_bind]
    exact hdate.bind fun c => (daysClause_same hdays hcount).map _
  | roundHalfUp =>
    obtain ⟨x, places, rfl⟩ := List.length_eq_two.1 harity
    obtain ⟨x', places', ⟨-, hx⟩, ⟨-, hplaces⟩, rfl⟩ := pair_of_forall₂ h
    simp only [List.map_cons, List.map_nil, callClause_round_eq_bind]
    exact hx.bind fun c => hplaces.map _
  | like pattern =>
    obtain ⟨subject, text, rfl⟩ := List.length_eq_two.1 harity
    obtain ⟨subject', text', ⟨-, hsubject⟩, ⟨htext, -⟩, rfl⟩ := pair_of_forall₂ h
    simp only [callClause, List.map_cons, List.map_nil, htext.stringLiteral?_eq]
    cases text'.stringLiteral? with
    | none => exact .refl _
    | some s => exact hsubject.map _

/-- **Formulas that are the same but for case have the same clause, or none for one reason.** -/
theorem clause_same {a b : Expr} (h : SameButCase a b) :
    SameOutcome (clause columns a) (clause columns b) := by
  induction h using SameButCase.induct with
  | literal value => rfl
  | identifier path => rfl
  | neg a b hoperand ih =>
    by_cases hnull : b.isNullLiteral = true
    · have hsame := hoperand.isNullLiteral_eq
      simp only [clause, hsame, hnull, if_true]
      rfl
    · rw [clause_neg_eq_bind (hoperand.isNullLiteral_eq ▸ hnull), clause_neg_eq_bind hnull]
      exact (checkNumeric_same "-" hoperand).bind fun _ => ih.map _
  | binary op a b c d hleft hright ihleft ihright =>
    by_cases hnull : (b.isNullLiteral || d.isNullLiteral) = true
    · simp only [clause, hleft.isNullLiteral_eq, hright.isNullLiteral_eq, hnull, if_true]
      cases isNullTest? op with
      | none => rfl
      | some isNull =>
        by_cases hd : d.isNullLiteral = true
        · simp only [hd, if_true]
          exact ihleft.map _
        · simp only [hd]
          exact ihright.map _
    · have hnull' : (a.isNullLiteral || c.isNullLiteral) ≠ true := by
        rwa [hleft.isNullLiteral_eq, hright.isNullLiteral_eq]
      rw [clause_binary_eq_bind hnull', clause_binary_eq_bind hnull]
      exact (checkOperand_same op hleft).bind fun _ => (checkOperand_same op hright).bind fun _ =>
        ihleft.bind fun c => ihright.map _
  | call name other args others hname hargs ih =>
    simp only [clause, hname, Builtin.lookup?_congr hname, clauses_eq_map]
    cases hlookup : Builtin.lookup? other with
    | none => rfl
    | some builtin =>
      cases hsql : builtin.sql with
      | none => simp only [hsql]; rfl
      | some mapping =>
        simp only [hsql, checkCall_eq builtin hargs]
        cases hcheck : checkCall builtin others with
        | error e => rfl
        | ok _ =>
          have hmapping := mem_mappings hlookup hsql
          rw [← length_of_checkCall hcheck, ← hargs.length_eq] at hmapping
          exact callClause_same hmapping ih

theorem compileExpr_same (columns : Columns) {a b : Expr} (h : SameButCase a b) :
    SameOutcome (compileExpr columns a) (compileExpr columns b) := by
  rw [compileExpr_eq, compileExpr_eq]
  exact (clause_same h).map _

/-- Of two texts of such formulas neither is refused as a text. -/
theorem compile_same (columns : Columns) {text other : String} {a b : Expr} (h : SameButCase a b)
    (ha : parse text = .ok a) (hb : parse other = .ok b) :
    (∃ p, compile columns text = .ok p ∧ compile columns other = .ok p) ∨
      ∃ e e', SameRefusal e e' ∧ compile columns text = .error (.compile e) ∧
        compile columns other = .error (.compile e') := by
  have hsame := compileExpr_same columns h
  simp only [compile, ha, hb]
  generalize compileExpr columns a = x at hsame
  generalize compileExpr columns b = y at hsame
  cases hsame with
  | ok p => exact .inl ⟨p, rfl, rfl⟩
  | error hrefusal => exact .inr ⟨_, _, hrefusal, rfl, rfl⟩

end Sql

end Formulary
