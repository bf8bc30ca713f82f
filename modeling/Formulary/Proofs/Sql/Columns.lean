import Formulary.Proofs.Expr.Parts
import Formulary.Proofs.Sql.Clause

/-!
# Predicates over some columns only

A list of columns is a gate and nothing else: a formula whose identifiers are all on the list
is written as it is without one, and any other formula is refused, wherever the identifier
stands that is not on the list.

* `clause_of_columns_subset` — on the list, the clause or the error is the one without a list;
* `columns_subset_of_clause` — what has a clause has its identifiers on the list;
* `compileExpr_allowed_iff` — so the list decides about a predicate, and never changes it;
* `compile_allowed_iff` — the same for the predicate of a text.
-/

namespace Formulary.Sql

variable {allowed : List String}

/-! ## Formulas that keep to the list -/

theorem columns_subset_arg {args : List Expr} (h : args.flatMap Expr.columns ⊆ allowed)
    {arg : Expr} (harg : arg ∈ args) : arg.columns ⊆ allowed := by
  intro column hcolumn
  exact h (List.mem_flatMap.2 ⟨arg, harg, hcolumn⟩)

/-- A formula that keeps to the list has the clause, or the error, that it has without one. -/
theorem clause_of_columns_subset {expr : Expr} (h : expr.columns ⊆ allowed) :
    clause (some allowed) expr = clause none expr := by
  induction expr using Expr.induct with
  | literal value => rfl
  | identifier path =>
    have hpath : path.text ∈ allowed := h (by simp)
    simp [clause, Columns.allow, hpath]
  | neg operand ih => simp only [clause, ih h]
  | binary op left right ihl ihr =>
    rw [Expr.columns_binary, List.append_subset] at h
    simp only [clause, ihl h.1, ihr h.2]
  | call name args ih =>
    rw [Expr.columns_call] at h
    have hargs : args.map (clause (some allowed)) = args.map (clause none) :=
      List.map_congr_left fun arg harg => ih arg harg (columns_subset_arg h harg)
    simp only [clause, clauses_eq_map, hargs]

/-! ## Formulas with a clause -/

/-- Every identifier of a formula with a clause is on the list. -/
theorem columns_subset_of_clause {expr : Expr} {c : Clause}
    (h : clause (some allowed) expr = .ok c) : expr.columns ⊆ allowed := by
  induction expr using Expr.induct generalizing c with
  | literal value => simp
  | identifier path =>
    by_cases hallowed : path.text ∈ allowed
    · simpa using hallowed
    · simp [clause, Columns.allow, hallowed] at h
  | neg operand ih =>
    obtain ⟨-, -, d, hd, -⟩ := clause_neg h
    exact ih hd
  | binary op left right ihl ihr =>
    rw [Expr.columns_binary, List.append_subset]
    rcases clause_binary h with ⟨isNull, d, -, hoperand, -⟩ | ⟨-, -, l, r, hl, hr, -⟩
    · rcases hoperand with ⟨hnull, hd⟩ | ⟨hnull, -, hd⟩
      · obtain rfl := eq_null_of_isNullLiteral hnull
        exact ⟨ihl hd, by simp⟩
      · obtain rfl := eq_null_of_isNullLiteral hnull
        exact ⟨by simp, ihr hd⟩
    · exact ⟨ihl hl, ihr hr⟩
  | call name args ih =>
    obtain ⟨builtin, mapping, -, -, -, -, hcall⟩ := clause_call h
    intro column hcolumn
    rw [Expr.columns_call] at hcolumn
    obtain ⟨arg, harg, hcolumn⟩ := List.mem_flatMap.1 hcolumn
    rcases hcall.literal_or_clause harg with ⟨value, rfl⟩ | ⟨d, hd⟩
    · cases hcolumn
    · exact ih arg harg hd hcolumn

/-- A list admits just the formulas that keep to it, with the clauses that they have anyway. -/
theorem clause_allowed_iff {expr : Expr} {c : Clause} :
    clause (some allowed) expr = .ok c ↔ clause none expr = .ok c ∧ expr.columns ⊆ allowed := by
  constructor
  · intro hc
    have hkeeps := columns_subset_of_clause hc
    rw [← clause_of_columns_subset hkeeps]
    exact ⟨hc, hkeeps⟩
  · rintro ⟨hc, hkeeps⟩
    rw [clause_of_columns_subset hkeeps, hc]

/-! ## Predicates -/

/-- **A list of columns is exact.**  With a list a formula has a predicate exactly if it has it
without one and every identifier that occurs in it is on the list. -/
theorem compileExpr_allowed_iff (allowed : List String) (expr : Expr) (p : Predicate) :
    compileExpr (some allowed) expr = .ok p ↔
      compileExpr none expr = .ok p ∧ expr.columns ⊆ allowed := by
  simp only [compileExpr_eq]
  constructor
  · intro h
    obtain ⟨c, hc, rfl⟩ := ok_of_map h
    obtain ⟨hfree, hkeeps⟩ := clause_allowed_iff.1 hc
    rw [hfree]
    exact ⟨rfl, hkeeps⟩
  · rintro ⟨h, hkeeps⟩
    obtain ⟨c, hc, rfl⟩ := ok_of_map h
    rw [clause_allowed_iff.2 ⟨hc, hkeeps⟩]
    rfl

/-- A text writes a formula whose identifiers are all on a list. -/
def KeepsTo (allowed : List String) (text : String) : Prop :=
  ∃ expr, parse text = .ok expr ∧ expr.columns ⊆ allowed

/-- With a list a text has a predicate exactly if it has it without one and keeps to the list. -/
theorem compile_allowed_iff {text : String} {p : Predicate} :
    compile (some allowed) text = .ok p ↔ compile none text = .ok p ∧ KeepsTo allowed text := by
  constructor
  · intro h
    obtain ⟨expr, c, hparse, hclause, rfl⟩ := compile_eq_ok_iff.1 h
    obtain ⟨hfree, hkeeps⟩ := clause_allowed_iff.1 hclause
    exact ⟨compile_eq_ok_iff.2 ⟨expr, c, hparse, hfree, rfl⟩, expr, hparse, hkeeps⟩
  · rintro ⟨h, other, hother, hkeeps⟩
    obtain ⟨expr, c, hparse, hfree, rfl⟩ := compile_eq_ok_iff.1 h
    obtain rfl := Except.ok.inj (hother.symm.trans hparse)
    exact compile_eq_ok_iff.2 ⟨other, c, hparse, clause_allowed_iff.2 ⟨hfree, hkeeps⟩, rfl⟩

end Formulary.Sql
