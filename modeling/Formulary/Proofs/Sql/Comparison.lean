import Formulary.Proofs.Sql.Agreement

/-!
# A column compared with a literal

The simplest filter there is: a column, an operator, and a literal other than null.  All six
operators are written in the same way, and the database selects no row whose column is null.
The evaluator says so too, except when it is asked for a difference: null differs from every
literal.

* `sql_comparison` — the predicate of such a filter;
* `comparison_selects` — evaluator and database select the same rows, apart from those in which
  a null is asked to differ;
* `null_differs_unselected` — such a row, whatever the database does with other values.
-/

namespace Formulary.Sql

variable {columns : Columns} {text : String} {path : Path} {op : BinaryOp} {k : Literal}

/-! ## The predicate -/

/-- The clause of a comparison is the same operator between a column and a bound value. -/
theorem clause_comparison (hk : k ≠ .null) {c : Clause}
    (h : clause columns (.binary op (.identifier path) (.literal k)) = .ok c) :
    c = .binary op (.column path.text) (.bound k) := by
  have hnull : (Expr.literal k).isNullLiteral = false := (IsTerm.literal hk).isNullLiteral
  obtain ⟨d, e, hd, he, rfl⟩ := clause_operator rfl hnull h
  obtain rfl := clause_identifier hd
  obtain rfl := Except.ok.inj he
  rfl

/-- The predicate of a comparison: the name of the column, the operator and a question mark. -/
theorem sql_comparison (op : BinaryOp) (name : String) (k : Literal) :
    (Clause.binary op (.column name) (.bound k)).predicate =
      ⟨"(" ++ name ++ " " ++ Dialect.operator op ++ " ?)", [k]⟩ := by
  simp [Clause.predicate, Clause.chars, Clause.params, binaryText, Dialect.operatorText_eq,
    String.append_assoc]

/-! ## The value -/

/-- A test has a truth value, if it has one at all. -/
theorem bool_of_apply (hop : (op.isEquality || op.isOrdering) = true) {a b value : Value}
    (h : op.apply a b = .ok value) : ∃ t, value = .bool t := by
  rcases Bool.or_eq_true_iff.1 hop with hop | hop
  · rw [BinaryOp.apply, if_pos hop] at h
    exact ⟨_, (Except.ok.inj h).symm⟩
  · rw [BinaryOp.apply_ordering hop, BinaryOp.testOrder] at h
    split at h
    · exact ⟨_, (Except.ok.inj h).symm⟩
    · split at h
      · exact ⟨_, (Except.ok.inj h).symm⟩
      · cases h

theorem isNull_ofLiteral (hk : k ≠ .null) : (Value.ofLiteral k).isNull = false := by
  cases k with
  | null => exact absurd rfl hk
  | _ => rfl

/-- Null differs from everything else. -/
theorem ne_of_null {a b : Value} (ha : a.isNull = true) (hb : b.isNull = false) :
    BinaryOp.ne.apply a b = .ok (.bool true) := by
  have hequals : a.equals b = false :=
    BinaryOp.equals_of_null (by simp [ha]) (by simp [hb])
  show Except.ok (Value.bool (!a.equals b)) = _
  rw [hequals]
  rfl

/-! ## Which rows are selected -/

/-- **Evaluator and database select the same rows by a comparison**, unless a null is asked to
differ: there the evaluator finds that it does, and the database does not know. -/
theorem comparison_selects {surroundings : Surroundings} {context : Context} {p : Predicate}
    {value : Value} {db : Database} (hop : (op.isEquality || op.isOrdering) = true)
    (hk : k ≠ .null) (hparse : parse text = .ok (.binary op (.identifier path) (.literal k)))
    (hcompile : compile columns text = .ok p) (hdb : db.ComparesAlike)
    (hcolumn : Node.resolve context path = some (db.column path.text))
    (hvalue : ((Engine.new surroundings).evaluate text context).1 = .ok value) :
    p = ⟨"(" ++ path.text ++ " " ++ Dialect.operator op ++ " ?)", [k]⟩ ∧
    ∃ c, p.clause? = some c ∧
      (¬ (op = .ne ∧ (db.column path.text).isNull = true) →
        (value = .bool true ↔ db.truth c = .holds)) ∧
      (op = .ne → (db.column path.text).isNull = true →
        value = .bool true ∧ db.truth c = .unknown) := by
  obtain ⟨other, c, hother, hclause, rfl⟩ := compile_eq_ok_iff.1 hcompile
  obtain rfl := Except.ok.inj (hparse.symm.trans hother)
  obtain ⟨other, hother, hhas⟩ := evaluate_new.1 hvalue
  obtain rfl := Except.ok.inj (hparse.symm.trans hother)
  obtain ⟨a, b, ha, hb, happly⟩ := hhas.binary (BinaryOp.isLogical_of_test hop)
  obtain rfl : db.column path.text = a :=
    Option.some.inj (hcolumn.symm.trans (Expr.hasValue_identifier.1 ha))
  obtain rfl := Expr.hasValue_literal.1 hb
  obtain rfl := clause_comparison hk hclause
  have hplain : Plain (.binary op (.column path.text) (.bound k)) := by
    cases Grammar.canonical_of_parse hparse with
    | binary _ hpath _ => exact .binary op (plain_column hpath) (.bound k)
  have htruth : db.truth (.binary op (.column path.text) (.bound k)) =
      db.comparison op (db.column path.text) (.ofLiteral k) := truth_comparison hop _ _
  refine ⟨sql_comparison .., _, clause?_predicate hplain, ?_, ?_⟩
  · intro hsafe
    obtain ⟨t, rfl⟩ := bool_of_apply hop happly
    have hnulls : NullTolerated op (db.column path.text) (.ofLiteral k) := by
      simp only [NullTolerated, isNull_ofLiteral hk, Bool.and_false, Bool.or_false, implies_true,
        true_and]
      intro hne
      simpa using fun hnull => hsafe ⟨hne, hnull⟩
    rw [htruth, comparison_agrees hdb hop hnulls happly, Value.bool.injEq]
  · rintro rfl hnull
    rw [ne_of_null hnull (isNull_ofLiteral hk)] at happly
    rw [htruth, hdb.comparison_null (by simp [hnull])]
    exact ⟨(Except.ok.inj happly).symm, rfl⟩

/-- A null and the tests: it is found to be neither equal nor ordered, and it is found to
differ.  The first two select as the database does. -/
theorem comparison_selects_total :
    let context : Context := [("total", .null)]
    let db := Database.ofContext context
    let value (text : String) := ((Engine.new ⟨"", "", id⟩).evaluate text context).1
    (compile none "total == 12" = .ok ⟨"(total = ?)", [.int 12]⟩ ∧
      value "total == 12" = .ok (.bool false) ∧
      ∃ c, (Predicate.mk "(total = ?)" [.int 12]).clause? = some c ∧ ¬ db.truth c = .holds) ∧
    (compile none "total >= 12" = .ok ⟨"(total >= ?)", [.int 12]⟩ ∧
      value "total >= 12" = .ok (.bool false) ∧
      ∃ c, (Predicate.mk "(total >= ?)" [.int 12]).clause? = some c ∧ ¬ db.truth c = .holds) ∧
    compile none "total != 12" = .ok ⟨"(total != ?)", [.int 12]⟩ ∧
      value "total != 12" = .ok (.bool true) ∧
      ∃ c, (Predicate.mk "(total != ?)" [.int 12]).clause? = some c ∧ db.truth c = .unknown := by
  intro context db value
  have hdb : db.ComparesAlike := (Database.lawful_ofContext context).comparesAlike
  refine ⟨?equal, ?ordered, ?different⟩
  case equal =>
    have hcompile : compile none "total == 12" = .ok ⟨"(total = ?)", [.int 12]⟩ := by
      decide +kernel
    have hparse : parse "total == 12" =
        .ok (.binary .eq (.identifier ⟨["total"]⟩) (.literal (.int 12))) := by decide +kernel
    have hvalue : value "total == 12" = .ok (.bool false) :=
      evaluate_new.2 ⟨_, hparse, _, rfl, rfl⟩
    obtain ⟨-, c, hc, hselects, -⟩ :=
      comparison_selects rfl (by decide) hparse hcompile hdb rfl hvalue
    exact ⟨hcompile, hvalue, c, hc, by simpa using hselects (by decide)⟩
  case ordered =>
    have hcompile : compile none "total >= 12" = .ok ⟨"(total >= ?)", [.int 12]⟩ := by
      decide +kernel
    have hparse : parse "total >= 12" =
        .ok (.binary .ge (.identifier ⟨["total"]⟩) (.literal (.int 12))) := by decide +kernel
    have hvalue : value "total >= 12" = .ok (.bool false) :=
      evaluate_new.2 ⟨_, hparse, _, rfl, rfl⟩
    obtain ⟨-, c, hc, hselects, -⟩ :=
      comparison_selects rfl (by decide) hparse hcompile hdb rfl hvalue
    exact ⟨hcompile, hvalue, c, hc, by simpa using hselects (by decide)⟩
  case different =>
    have hcompile : compile none "total != 12" = .ok ⟨"(total != ?)", [.int 12]⟩ := by
      decide +kernel
    have hparse : parse "total != 12" =
        .ok (.binary .ne (.identifier ⟨["total"]⟩) (.literal (.int 12))) := by decide +kernel
    have hvalue : value "total != 12" = .ok (.bool true) :=
      evaluate_new.2 ⟨_, hparse, _, rfl, rfl⟩
    obtain ⟨-, c, hc, -, hdiffers⟩ :=
      comparison_selects rfl (by decide) hparse hcompile hdb rfl hvalue
    exact ⟨hcompile, hvalue, c, hc, (hdiffers rfl rfl).2⟩

/-- A row without a stage: the evaluator finds that its stage differs, and the database, which
computes as the evaluator does wherever there is no null, does not select it. -/
theorem null_differs_unselected :
    let context : Context := [("Stage", .null)]
    let db := Database.ofContext context
    let p : Predicate := ⟨"(Stage != ?)", [.string "Closed"]⟩
    compile none "Stage != 'Closed'" = .ok p ∧ db.ComparesAlike ∧ db.column "Stage" = .null ∧
      ((Engine.new ⟨"", "", id⟩).evaluate "Stage != 'Closed'" context).1 = .ok (.bool true) ∧
      ∃ c, p.clause? = some c ∧ db.truth c = .unknown := by
  intro context db p
  have hcompile : compile none "Stage != 'Closed'" = .ok p := by decide +kernel
  have hparse : parse "Stage != 'Closed'" =
      .ok (.binary .ne (.identifier ⟨["Stage"]⟩) (.literal (.string "Closed"))) := by
    decide +kernel
  have hdb : db.ComparesAlike := (Database.lawful_ofContext context).comparesAlike
  have hclause : p.clause? = some (.binary .ne (.column "Stage") (.bound (.string "Closed"))) := by
    have hplain : Plain (.binary .ne (.column "Stage") (.bound (.string "Closed"))) := by
      cases Grammar.canonical_of_parse hparse with
      | binary _ hpath _ => exact .binary .ne (plain_column hpath) (.bound _)
    rw [← clause?_predicate hplain, sql_comparison]
    rfl
  exact ⟨hcompile, hdb, rfl, evaluate_new.2 ⟨_, hparse, _, rfl, rfl⟩, _, hclause, rfl⟩

end Formulary.Sql
