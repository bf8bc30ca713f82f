import Formulary.Proofs.Program.HasValue
import Formulary.Proofs.Sql.Conditions
import Formulary.Proofs.Sql.Database

/-!
# The evaluator and the database agree

A condition that the evaluator finds true holds in the database, and one that it finds false
does not: it fails or is unknown there.  The two part only where a test of equality meets
null, since null equals null for the evaluator and is unknown to the database.

* `Evaluated` — the parts of a condition that a run reaches;
* `NullSafe` — no test of equality that is reached meets null so that the two part;
* `TermClause.agrees` — a term has one value in both;
* `ConditionClause.agrees` — the induction over a condition;
* `condition_agrees` — the same of a text, of the predicate that it writes and of an engine.
-/

namespace Formulary.Sql

variable {registry : Registry} {context : Context} {db : Database}

/-! ## Terms -/

/-- A term with a value has the same value in the database. -/
theorem TermClause.agrees (hdb : db.Lawful context) {expr : Expr} {c : Clause}
    (h : TermClause expr c) {v : Value} (hv : expr.HasValue registry context v) :
    db.term c = v := by
  induction h generalizing v with
  | column hpath => exact hdb.column hpath (Expr.hasValue_identifier.1 hv)
  | bound _ => exact (Expr.hasValue_literal.1 hv).symm
  | neg _ ih =>
    obtain ⟨w, hw, hopposite⟩ := hv.neg
    rw [Database.term, ih hw]
    by_cases hnull : w.isNull = true
    · obtain rfl := Value.eq_null_of_isNull hnull
      rw [hdb.opposite_null]
      exact Except.ok.inj hopposite
    · exact hdb.opposite (by simpa using hnull) hopposite
  | @binary op left right c d hop _ _ ihl ihr =>
    obtain ⟨a, b, ha, hb, happly⟩ := hv.binary (BinaryOp.isLogical_of_arithmetic hop)
    rw [BinaryOp.apply_arithmetic hop] at happly
    rw [Database.term, if_pos hop, ihl ha, ihr hb]
    by_cases hnull : (a.isNull || b.isNull) = true
    · rw [hdb.arithmetic_null hnull]
      rw [BinaryOp.calculate_of_null hnull] at happly
      exact Except.ok.inj happly
    · exact hdb.arithmetic (by simpa using hnull) happly

/-! ## Reached parts and null -/

/-- A part of a condition that a run of it reaches. -/
inductive Evaluated (registry : Registry) (context : Context) : Expr → Expr → Prop
  | here (expr : Expr) : Evaluated registry context expr expr
  | left {op : BinaryOp} {left right expr : Expr} : op.isLogical = true →
      Evaluated registry context left expr →
      Evaluated registry context (.binary op left right) expr
  /-- The right operand is reached if the left one does not settle the operator. -/
  | right {op : BinaryOp} {left right expr : Expr} {a : Bool} : op.isLogical = true →
      left.HasValue registry context (.bool a) → op.settledBy a = false →
      Evaluated registry context right expr →
      Evaluated registry context (.binary op left right) expr

/-- The nulls that a test may meet: `==` at most one, and `!=` none. -/
def NullTolerated (op : BinaryOp) (a b : Value) : Prop :=
  (op = .eq → (a.isNull && b.isNull) = false) ∧ (op = .ne → (a.isNull || b.isNull) = false)

/-- No test between two terms that is reached meets more nulls than it may. -/
def NullSafe (registry : Registry) (context : Context) (expr : Expr) : Prop :=
  ∀ op left right a b, Evaluated registry context expr (.binary op left right) →
    IsTerm left → IsTerm right → left.HasValue registry context a →
    right.HasValue registry context b → NullTolerated op a b

theorem nullSafe_logical {op : BinaryOp} {left right : Expr} (hop : op.isLogical = true) :
    NullSafe registry context (.binary op left right) ↔
      NullSafe registry context left ∧
        ∀ a, left.HasValue registry context (.bool a) → op.settledBy a = false →
          NullSafe registry context right := by
  constructor
  · intro h
    constructor
    · intro test l r a b hreached
      exact h test l r a b (.left hop hreached)
    · intro c hc hopen test l r a b hreached
      exact h test l r a b (.right hop hc hopen hreached)
  · rintro ⟨hl, hr⟩ test l r a b hreached
    cases hreached with
    | here =>
      -- a logical operator is no test of equality
      intro _ _ _ _
      constructor
      · rintro rfl
        cases hop
      · rintro rfl
        cases hop
    | left _ hreached => exact hl test l r a b hreached
    | right _ hc hopen hreached => exact hr _ hc hopen test l r a b hreached

theorem nullSafe_identifier (path : Path) : NullSafe registry context (.identifier path) := by
  intro test l r a b hreached
  cases hreached

theorem nullSafe_call (name : String) (args : List Expr) :
    NullSafe registry context (.call name args) := by
  intro test l r a b hreached
  cases hreached

theorem nullSafe_test {op : BinaryOp} {left right : Expr} (hop : op.isLogical = false)
    (h : ∀ a b, left.HasValue registry context a → right.HasValue registry context b →
      NullTolerated op a b) : NullSafe registry context (.binary op left right) := by
  intro test l r a b hreached _ _ ha hb
  cases hreached with
  | here => exact h a b ha hb
  | left hlogical _ =>
    rw [hop] at hlogical
    cases hlogical
  | right hlogical _ _ _ =>
    rw [hop] at hlogical
    cases hlogical

/-! ## Conditions -/

theorem truth_comparison {op : BinaryOp} (hop : (op.isEquality || op.isOrdering) = true)
    (c d : Clause) : db.truth (.binary op c d) = db.comparison op (db.term c) (db.term d) := by
  cases op with
  | eq => rfl
  | ne => rfl
  | gt => rfl
  | ge => rfl
  | lt => rfl
  | le => rfl
  | _ => cases hop

/-- A comparison is true exactly if it holds. -/
theorem comparison_agrees (hdb : db.ComparesAlike) {op : BinaryOp} {a b : Value} {t : Bool}
    (hop : (op.isEquality || op.isOrdering) = true) (hnulls : NullTolerated op a b)
    (h : op.apply a b = .ok (.bool t)) : db.comparison op a b = .holds ↔ t = true := by
  obtain ⟨heq, hne⟩ := hnulls
  by_cases hnull : (a.isNull || b.isNull) = true
  · have hdifference : op ≠ .ne := by
      intro hop
      rw [hne hop] at hnull
      cases hnull
    rw [BinaryOp.apply_of_null hop hnull heq hdifference] at h
    obtain rfl := Value.bool.inj (Except.ok.inj h)
    rw [hdb.comparison_null hnull]
    simp
  · rw [hdb.comparison (by simpa using hnull) h, Truth.ofBool_eq_holds]

section NullTests

variable {op : BinaryOp} {isNull : Bool}

theorem not_logical_of_nullTest (hop : isNullTest? op = some isNull) : op.isLogical = false := by
  cases op with
  | eq => rfl
  | ne => rfl
  | _ => cases hop

/-- A comparison with null is a test for null. -/
theorem apply_null (hop : isNullTest? op = some isNull) (a : Value) :
    op.apply a .null = .ok (.bool (isNull == a.isNull)) := by
  cases op with
  | eq =>
    obtain rfl := Option.some.inj hop
    show Except.ok (Value.bool (a.equals .null)) = _
    rw [Value.equals_null, Bool.true_beq]
  | ne =>
    obtain rfl := Option.some.inj hop
    show Except.ok (Value.bool (!a.equals .null)) = _
    rw [Value.equals_null, Bool.false_beq]
  | _ => cases hop

theorem null_apply (hop : isNullTest? op = some isNull) (a : Value) :
    op.apply .null a = .ok (.bool (isNull == a.isNull)) := by
  cases op with
  | eq =>
    obtain rfl := Option.some.inj hop
    show Except.ok (Value.bool (Value.null.equals a)) = _
    rw [Value.null_equals, Bool.true_beq]
  | ne =>
    obtain rfl := Option.some.inj hop
    show Except.ok (Value.bool (!Value.null.equals a)) = _
    rw [Value.null_equals, Bool.false_beq]
  | _ => cases hop

/-- A test for null is true exactly if it holds. -/
theorem nullTest_agrees {c : Clause} {v : Value} (hc : db.term c = v) {b : Bool}
    (h : (.ok (.bool (isNull == v.isNull)) : Except RuntimeError Value) = .ok (.bool b)) :
    db.truth (.nullTest isNull c) = .holds ↔ b = true := by
  obtain rfl := Value.bool.inj (Except.ok.inj h)
  rw [Database.truth, hc, Truth.ofBool_eq_holds]

end NullTests

/-- A search for a literal text looks into the value of the identifier. -/
theorem hasValue_search {surroundings : Surroundings} {name text : String}
    {pattern : LikePattern} {path : Path} {v : Value} (hname : Searches name pattern)
    (h : (Expr.call name [.identifier path, .literal (.string text)]).HasValue
      (.standard surroundings) context v) :
    ∃ subject function, Node.resolve context path = some subject ∧
      Builtin.like function pattern [subject, .string text] = .ok v := by
  obtain ⟨builtin, hlookup, haction⟩ := hname
  have hentry : (Registry.standard surroundings).lookup? name =
      some (builtin.toEntry surroundings) := by
    rw [Registry.lookup?_standard, hlookup, Option.map_some]
  have hnative : (builtin.toEntry surroundings).implementation =
      .native (Builtin.like builtin.name pattern) := by
    simp only [Builtin.toEntry, haction]
  obtain ⟨values, hvalues, hresult⟩ := h.call hentry hnative
  cases hvalues with
  | cons hsubject hrest =>
    cases hrest with
    | cons htext hrest =>
      cases hrest
      obtain rfl := Expr.hasValue_literal.1 htext
      exact ⟨_, builtin.name, Expr.hasValue_identifier.1 hsubject, hresult⟩

/-- A search is true exactly if it holds: nothing is found in null. -/
theorem search_agrees (hdb : db.Lawful context) {function text : String} {pattern : LikePattern}
    {subject : Value} {b : Bool}
    (h : Builtin.like function pattern [subject, .string text] = .ok (.bool b)) :
    db.like subject (pattern.pattern text) = .holds ↔ b = true := by
  cases subject with
  | null =>
    obtain rfl := Value.bool.inj (Except.ok.inj h)
    rw [hdb.like_null]
    simp
  | string s =>
    obtain rfl := Value.bool.inj (Except.ok.inj h)
    rw [hdb.like, Truth.ofBool_eq_holds]
  | _ => cases h

theorem logical_agrees {op : BinaryOp} (hop : op.isLogical = true) {c d : Clause} {a b : Bool}
    (hc : db.truth c = .holds ↔ a = true)
    (hd : op.settledBy a = false → (db.truth d = .holds ↔ b = true))
    (hvalue : op.settledBy a = true → b = a) :
    db.truth (.binary op c d) = .holds ↔ b = true := by
  cases op with
  | and =>
    rw [Database.truth, Truth.and_eq_holds, hc]
    cases a with
    | true => simp [hd rfl]
    | false => simp [hvalue rfl]
  | or =>
    rw [Database.truth, Truth.or_eq_holds, hc]
    cases a with
    | true => simp [hvalue rfl]
    | false => simp [hd rfl]
  | _ => cases hop

/-- A condition that has a truth value is true exactly if it holds in the database. -/
theorem ConditionClause.agrees {surroundings : Surroundings} (hdb : db.Lawful context)
    {expr : Expr} {c : Clause} (h : ConditionClause expr c) {b : Bool}
    (hsafe : NullSafe (.standard surroundings) context expr)
    (hb : expr.HasValue (.standard surroundings) context (.bool b)) :
    db.truth c = .holds ↔ b = true := by
  induction h generalizing b with
  | bound a =>
    obtain rfl := Value.bool.inj (Expr.hasValue_literal.1 hb)
    show db.asTruth (.bool b) = .holds ↔ _
    rw [hdb.asTruth, Truth.ofBool_eq_holds]
  | @column path hpath =>
    show db.asTruth (db.column path.text) = .holds ↔ _
    rw [hdb.column hpath (Expr.hasValue_identifier.1 hb), hdb.asTruth, Truth.ofBool_eq_holds]
  | @comparison op left right c d hop hl hr =>
    obtain ⟨v, w, hv, hw, happly⟩ := hb.binary (BinaryOp.isLogical_of_test hop)
    rw [truth_comparison hop, hl.agrees hdb hv, hr.agrees hdb hw]
    have hnulls := hsafe op left right v w (.here _) hl.isTerm hr.isTerm hv hw
    exact comparison_agrees hdb.comparesAlike hop hnulls happly
  | @nullAfter op isNull term c htest hterm =>
    obtain ⟨v, w, hv, hw, happly⟩ := hb.binary (not_logical_of_nullTest htest)
    obtain rfl := Expr.hasValue_literal.1 hw
    rw [Value.ofLiteral, apply_null htest] at happly
    exact nullTest_agrees (hterm.agrees hdb hv) happly
  | @nullBefore op isNull term c htest hterm =>
    obtain ⟨v, w, hv, hw, happly⟩ := hb.binary (not_logical_of_nullTest htest)
    obtain rfl := Expr.hasValue_literal.1 hv
    rw [Value.ofLiteral, null_apply htest] at happly
    exact nullTest_agrees (hterm.agrees hdb hw) happly
  | @search name pattern path text hname hpath =>
    obtain ⟨subject, function, hsubject, hresult⟩ := hasValue_search hname hb
    show db.like (db.column path.text) _ = .holds ↔ _
    rw [hdb.column hpath hsubject]
    exact search_agrees hdb hresult
  | @logical op left right c d hop _ _ ihl ihr =>
    obtain ⟨hleft, hright⟩ := (nullSafe_logical hop).1 hsafe
    obtain ⟨a, ha, hcases⟩ := hb.logical hop
    refine logical_agrees hop (ihl hleft ha) ?_ ?_
    · intro hopen
      rcases hcases with ⟨hsettled, -⟩ | ⟨-, d, hd, hvalue⟩
      · rw [hopen] at hsettled
        cases hsettled
      · obtain rfl := Value.bool.inj hvalue
        exact ihr (hright a ha hopen) hd
    · intro hsettled
      rcases hcases with ⟨-, hvalue⟩ | ⟨hopen, -⟩
      · exact Value.bool.inj hvalue
      · rw [hsettled] at hopen
        cases hopen

/-! ## Texts -/

/-- **The evaluator and the database agree.**  Of a text that writes a condition, the database
reads one clause from the predicate, and if the evaluator finds a truth value, the clause holds
exactly if that value is true. -/
theorem condition_agrees {surroundings : Surroundings} {context : Context} {columns : Columns}
    {text : String} {p : Predicate} {expr : Expr} {b : Bool} {db : Database}
    (hcompile : compile columns text = .ok p) (hparse : parse text = .ok expr)
    (hcondition : IsCondition expr) (hdb : db.Lawful context)
    (hsafe : NullSafe (.standard surroundings) context expr)
    (hvalue : ((Engine.new surroundings).evaluateCondition text context).1 = .ok b) :
    ∃ c, p.clause? = some c ∧ (db.truth c = .holds ↔ b = true) := by
  obtain ⟨other, c, hother, hclause, rfl⟩ := compile_eq_ok_iff.1 hcompile
  rw [hparse] at hother
  obtain rfl := Except.ok.inj hother
  obtain ⟨other, hother, hb⟩ := evaluateCondition_new.1 hvalue
  rw [hparse] at hother
  obtain rfl := Except.ok.inj hother
  have hcanonical := Grammar.canonical_of_parse hparse
  have hc := conditionClause_of_clause hcondition hcanonical hclause
  exact ⟨c, clause?_predicate hc.plain, hc.agrees hdb hsafe hb⟩

/-- Two nulls are compared where the evaluator does not get to, and a percent sign is looked
for. -/
theorem condition_agrees_percent :
    let text := "(closed || x == y) && CONTAINS(record.name, '50%') && total - 2 != 12"
    let context : Context :=
      [("closed", .bool true), ("record", .map [("name", .string "up to 50% off")]),
        ("total", .int 20), ("x", .null), ("y", .null)]
    let p : Predicate :=
      ⟨"(((closed OR (x = y)) AND (record.name LIKE ?)) AND ((total - ?) != ?))",
        [.string "%50\\%%", .int 2, .int 12]⟩
    let surroundings : Surroundings := ⟨"", "", id⟩
    compile none text = .ok p ∧
      ((Engine.new surroundings).evaluateCondition text context).1 = .ok true ∧
      ∃ c, p.clause? = some c ∧ (Database.ofContext context).truth c = .holds := by
  intro text context p surroundings
  let closed : Expr := .binary .or (.identifier ⟨["closed"]⟩)
    (.binary .eq (.identifier ⟨["x"]⟩) (.identifier ⟨["y"]⟩))
  let named : Expr :=
    .call "CONTAINS" [.identifier ⟨["record", "name"]⟩, .literal (.string "50%")]
  let rest : Expr := .binary .sub (.identifier ⟨["total"]⟩) (.literal (.int 2))
  let left : Expr := .binary .ne rest (.literal (.int 12))
  have hcompile : compile none text = .ok p := by decide +kernel
  have hparse : parse text = .ok (.binary .and (.binary .and closed named) left) := by
    decide +kernel
  have hvalue : ((Engine.new surroundings).evaluateCondition text context).1 = .ok true := by
    decide +kernel
  have hcondition : IsCondition (.binary .and (.binary .and closed named) left) := by
    have hclosed : IsCondition closed :=
      .logical rfl (.identifier _) (.comparison rfl (.identifier _) (.identifier _))
    have hnamed : IsCondition named := .search _ _ (by decide)
    have hrest : IsTerm rest := .binary rfl (.identifier _) (.literal (by decide))
    exact .logical rfl (.logical rfl hclosed hnamed) (.comparison rfl hrest (.literal (by decide)))
  have hclosed : NullSafe (.standard surroundings) context closed := by
    refine (nullSafe_logical rfl).2 ⟨nullSafe_identifier _, ?_⟩
    intro a ha hopen
    have htrue : Node.resolve context ⟨["closed"]⟩ = some (.bool true) := rfl
    rw [Expr.hasValue_identifier, htrue] at ha
    obtain rfl := Value.bool.inj (Option.some.inj ha)
    cases hopen
  have hleft : NullSafe (.standard surroundings) context left := by
    refine nullSafe_test rfl fun a b ha hb => ⟨nofun, fun _ => ?_⟩
    obtain ⟨v, w, hv, hw, happly⟩ := ha.binary rfl
    have htotal : Node.resolve context ⟨["total"]⟩ = some (.int 20) := rfl
    rw [Expr.hasValue_identifier, htotal] at hv
    obtain rfl := Option.some.inj hv
    obtain rfl := Expr.hasValue_literal.1 hw
    obtain rfl := Expr.hasValue_literal.1 hb
    have hresult : BinaryOp.sub.apply (.int 20) (.int 2) = .ok (.int 18) := rfl
    rw [Value.ofLiteral, hresult] at happly
    obtain rfl := Except.ok.inj happly
    rfl
  have hsafe : NullSafe (.standard surroundings) context
      (.binary .and (.binary .and closed named) left) :=
    (nullSafe_logical rfl).2 ⟨(nullSafe_logical rfl).2 ⟨hclosed, fun _ _ _ => nullSafe_call _ _⟩,
      fun _ _ _ => hleft⟩
  obtain ⟨c, hc, hagrees⟩ := condition_agrees hcompile hparse hcondition
    (Database.lawful_ofContext context) hsafe hvalue
  exact ⟨hcompile, hvalue, c, hc, hagrees.2 rfl⟩

end Formulary.Sql
