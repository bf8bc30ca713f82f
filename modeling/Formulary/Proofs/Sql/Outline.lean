import Formulary.Proofs.Sql.Clause

/-!
# What literals leave in a predicate

The text of a predicate does not depend on the literals of its formula, except that a null is
not another literal: whatever a literal is, a question mark stands for it.

* `Expr.masked` — a formula in which one mark stands for every literal other than null;
* `Clause.blank` — a clause in which one mark stands for every bound value; it has the same
  text (`chars_blank`) and as many values (`length_params_blank`);
* `outline` — the blank clause of a formula, found without looking at its literals
  (`blank_clause`);
* `sql_eq_of_masked_eq` — formulas that differ in their literals have the same text.
-/

namespace Formulary

/-! ## Masked formulas -/

/-- The mark for a literal.  A null stays what it is. -/
def Literal.masked : Literal → Literal
  | .null => .null
  | _ => .bool true

namespace Expr

mutual

/-- A formula with the mark in the place of its literals. -/
def masked : Expr → Expr
  | .literal value => .literal value.masked
  | .identifier path => .identifier path
  | .neg operand => .neg (masked operand)
  | .binary op left right => .binary op (masked left) (masked right)
  | .call name args => .call name (maskedAll args)

/-- Some formulas with the mark in the place of their literals. -/
def maskedAll : List Expr → List Expr
  | [] => []
  | expr :: rest => masked expr :: maskedAll rest

end

theorem isNullLiteral_masked (expr : Expr) : expr.masked.isNullLiteral = expr.isNullLiteral := by
  cases expr with
  | literal value => cases value <;> rfl
  | _ => rfl

end Expr

namespace Sql

/-! ## Blank clauses -/

namespace Clause

mutual

/-- A clause with one value in the place of all that are bound. -/
def blank : Clause → Clause
  | .column name => .column name
  | .bound _ => .bound .null
  | .neg operand => .neg (blank operand)
  | .binary op left right => .binary op (blank left) (blank right)
  | .nullTest isNull operand => .nullTest isNull (blank operand)
  | .like subject _ => .like (blank subject) ""
  | .keyword text => .keyword text
  | .call function args => .call function (blankAll args)
  | .addDays date days => .addDays (blank date) (blank days)
  | .round x places => .round (blank x) (blank places)

/-- Some clauses with one value in the place of all that are bound. -/
def blankAll : List Clause → List Clause
  | [] => []
  | c :: rest => blank c :: blankAll rest

end

mutual

theorem chars_blank : ∀ c : Clause, c.blank.chars = c.chars
  | .column _ => rfl
  | .bound _ => rfl
  | .neg operand => by simp only [blank, chars, chars_blank operand]
  | .binary op left right => by simp only [blank, chars, chars_blank left, chars_blank right]
  | .nullTest isNull operand => by simp only [blank, chars, chars_blank operand]
  | .like subject _ => by simp only [blank, chars, chars_blank subject]
  | .keyword _ => rfl
  | .call function args => by simp only [blank, chars, charsAll_blank args]
  | .addDays date days => by simp only [blank, chars, chars_blank date, chars_blank days]
  | .round x places => by simp only [blank, chars, chars_blank x, chars_blank places]

theorem charsAll_blank : ∀ cs : List Clause, charsAll (blankAll cs) = charsAll cs
  | [] => rfl
  | c :: rest => by simp only [blankAll, charsAll, chars_blank c, charsAll_blank rest]

end

mutual

theorem length_params_blank : ∀ c : Clause, c.blank.params.length = c.params.length
  | .column _ => rfl
  | .bound _ => rfl
  | .neg operand => by simp only [blank, params, length_params_blank operand]
  | .binary op left right => by
    simp only [blank, params, List.length_append, length_params_blank left,
      length_params_blank right]
  | .nullTest isNull operand => by simp only [blank, params, length_params_blank operand]
  | .like subject _ => by
    simp only [blank, params, List.length_append, length_params_blank subject,
      List.length_singleton]
  | .keyword _ => rfl
  | .call function args => by simp only [blank, params, length_paramsAll_blank args]
  | .addDays date days => by
    simp only [blank, params, List.length_append, length_params_blank date,
      length_params_blank days]
  | .round x places => by
    simp only [blank, params, List.length_append, length_params_blank x,
      length_params_blank places]

theorem length_paramsAll_blank :
    ∀ cs : List Clause, (paramsAll (blankAll cs)).length = (paramsAll cs).length
  | [] => rfl
  | c :: rest => by
    simp only [blankAll, paramsAll, List.length_append, length_params_blank c,
      length_paramsAll_blank rest]

end

end Clause

/-! ## Outlines -/

/-- The outline of a call, from those of its arguments. -/
def callOutline : SqlMapping → List Clause → Clause
  | .keyword text, _ => .keyword text
  | .call function, args => .call function args
  | .addDays, [date, days] => .addDays date days
  | .roundHalfUp, [x, places] => .round x places
  | .like _, [subject, _] => .like subject ""
  -- with any other arguments a call has no clause
  | _, _ => .keyword ""

mutual

/-- The blank clause of a formula.  Of a literal it matters only whether it is a null. -/
def outline : Expr → Clause
  | .literal _ => .bound .null
  | .identifier path => .column path.text
  | .neg operand => .neg (outline operand)
  | .binary op left right =>
    if left.isNullLiteral || right.isNullLiteral then
      .nullTest (isNullTest? op == some true)
        (if right.isNullLiteral then outline left else outline right)
    else
      .binary op (outline left) (outline right)
  | .call name args =>
    match (Builtin.lookup? name).bind Builtin.sql with
    | some mapping => callOutline mapping (outlines args)
    | none => .keyword ""

/-- The blank clauses of some formulas. -/
def outlines : List Expr → List Clause
  | [] => []
  | expr :: rest => outline expr :: outlines rest

end

mutual

/-- The mark for a literal leaves the outline as it is. -/
theorem outline_masked : ∀ expr : Expr, outline expr.masked = outline expr
  | .literal _ => rfl
  | .identifier _ => rfl
  | .neg operand => by simp only [Expr.masked, outline, outline_masked operand]
  | .binary op left right => by
    simp only [Expr.masked, outline, Expr.isNullLiteral_masked, outline_masked left,
      outline_masked right]
  | .call name args => by simp only [Expr.masked, outline, outlines_masked args]

theorem outlines_masked : ∀ args : List Expr, outlines (Expr.maskedAll args) = outlines args
  | [] => rfl
  | arg :: rest => by
    simp only [Expr.maskedAll, outlines, outline_masked arg, outlines_masked rest]

end

/-! ## Clauses have the outlines of their formulas -/

variable {columns : Columns}

/-- The clause of a formula, if it has one, is its outline with values. -/
def HasOutline (columns : Columns) (expr : Expr) : Prop :=
  ∀ c, clause columns expr = .ok c → c.blank = outline expr

theorem blank_daysClause {days : Expr} (h : HasOutline columns days) {d : Clause}
    (hd : daysClause days (clause columns days) = .ok d) : d.blank = outline days := by
  rcases daysClause_cases hd with ⟨value, rfl, rfl⟩ | hd
  · rfl
  · exact h d hd

theorem blankAll_clauses {args : List Expr} (h : ∀ arg ∈ args, HasOutline columns arg)
    {cs : List Clause} (hcs : clauseAll (args.map (clause columns)) = .ok cs) :
    Clause.blankAll cs = outlines args := by
  have hall := clauseAll_eq_ok hcs
  clear hcs
  induction hall with
  | nil => rfl
  | cons hc _ ih =>
    have hfirst := h _ List.mem_cons_self _ hc
    have hrest := ih fun arg harg => h arg (List.mem_cons_of_mem _ harg)
    rw [Clause.blankAll, outlines, hfirst, hrest]

theorem blank_call {mapping : SqlMapping} {args : List Expr} {c : Clause}
    (h : ∀ arg ∈ args, HasOutline columns arg) (hc : CallClause columns mapping args c) :
    c.blank = callOutline mapping (outlines args) := by
  cases hc with
  | keyword text => rfl
  | call hcs => rw [Clause.blank, blankAll_clauses h hcs, callOutline]
  | addDays hdate hdays =>
    rw [Clause.blank, h _ (by simp) _ hdate, blank_daysClause (h _ (by simp)) hdays]
    rfl
  | round hx hplaces =>
    rw [Clause.blank, h _ (by simp) _ hx, h _ (by simp) _ hplaces]
    rfl
  | like pattern hsubject =>
    rw [Clause.blank, h _ (by simp) _ hsubject]
    rfl

theorem blank_clause (columns : Columns) (expr : Expr) : HasOutline columns expr := by
  induction expr using Expr.induct with
  | literal value =>
    intro c hc
    obtain rfl := Except.ok.inj hc
    rfl
  | identifier path =>
    intro c hc
    simp only [clause] at hc
    split at hc
    · obtain rfl := Except.ok.inj hc
      rfl
    · cases hc
  | neg operand ih =>
    intro c hc
    obtain ⟨-, -, d, hd, rfl⟩ := clause_neg hc
    rw [Clause.blank, outline, ih d hd]
  | binary op left right ihl ihr =>
    intro c hc
    rcases clause_binary hc with ⟨isNull, d, htest, hoperand, rfl⟩ | ⟨hl, hr, l, r, hlc, hrc, rfl⟩
    · have hname : (isNullTest? op == some true) = isNull := by
        rw [htest]
        cases isNull <;> rfl
      rcases hoperand with ⟨hnull, hd⟩ | ⟨hnull, hright, hd⟩
      · rw [outline, if_pos (by simp [hnull]), if_pos hnull, hname, Clause.blank, ihl d hd]
      · rw [outline, if_pos (by simp [hnull]), if_neg (by simp [hright]), hname, Clause.blank,
          ihr d hd]
    · rw [outline, if_neg (by simp [hl, hr]), Clause.blank, ihl l hlc, ihr r hrc]
  | call name args ih =>
    intro c hc
    obtain ⟨builtin, mapping, hlookup, hsql, -, -, hcall⟩ := clause_call hc
    rw [outline, hlookup, Option.bind_some, hsql]
    exact blank_call ih hcall

/-- The predicate of a formula has the text of the outline, and a value for each that the
outline has. -/
theorem predicate_outline {expr : Expr} {p : Predicate}
    (h : compileExpr columns expr = .ok p) :
    p.sql = String.ofList (outline expr).chars ∧
      p.params.length = (outline expr).params.length := by
  rw [compileExpr_eq] at h
  obtain ⟨c, hc, rfl⟩ := ok_of_map h
  rw [← blank_clause columns expr c hc, Clause.chars_blank, Clause.length_params_blank]
  exact ⟨rfl, rfl⟩

/-- **Literals do not show in the text.**  Two formulas that are the same but for literals other
than null have predicates with the same text and as many values, if they have predicates. -/
theorem sql_eq_of_masked_eq (columns : Columns) {e₁ e₂ : Expr} {p₁ p₂ : Predicate}
    (hmasked : e₁.masked = e₂.masked) (h₁ : compileExpr columns e₁ = .ok p₁)
    (h₂ : compileExpr columns e₂ = .ok p₂) :
    p₁.sql = p₂.sql ∧ p₁.params.length = p₂.params.length := by
  have houtline : outline e₁ = outline e₂ := by
    rw [← outline_masked e₁, ← outline_masked e₂, hmasked]
  obtain ⟨hsql₁, hlength₁⟩ := predicate_outline h₁
  obtain ⟨hsql₂, hlength₂⟩ := predicate_outline h₂
  rw [hsql₁, hsql₂, hlength₁, hlength₂, houtline]
  exact ⟨rfl, rfl⟩

/-- Days, places and texts of other contents and kinds, one of them written like SQL. -/
theorem sql_eq_of_masked_eq_kinds :
    let filter (days limit text places : Literal) : Expr :=
      .binary .and
        (.binary .lt (.call "DATE_ADD" [.identifier ⟨["due"]⟩, .literal days]) (.literal limit))
        (.binary .or (.call "CONTAINS" [.identifier ⟨["name"]⟩, .literal text])
          (.binary .ne (.call "ROUND" [.identifier ⟨["price"]⟩, .literal places])
            (.literal .null)))
    let e₁ := filter (.string "7") (.int 9) (.string "50%_off") (.int 2)
    let e₂ := filter (.int (-30)) (.string "x") (.string "?) OR (1 = 1") (.string "1")
    let sql := "((DATE_ADD(due, INTERVAL ? DAY) < ?) AND ((name LIKE ?) OR "
      ++ "((FLOOR(price * POW(10, ?) + 0.5) / POW(10, ?)) IS NOT NULL)))"
    let p₁ : Predicate := ⟨sql, [.int 7, .int 9, .string "%50\\%\\_off%", .int 2, .int 2]⟩
    let p₂ : Predicate :=
      ⟨sql, [.int (-30), .string "x", .string "%?) OR (1 = 1%", .string "1", .string "1"]⟩
    e₁.masked = e₂.masked ∧ compileExpr none e₁ = .ok p₁ ∧ compileExpr none e₂ = .ok p₂ ∧
      p₁.sql = p₂.sql ∧ p₁.params.length = p₂.params.length := by
  intro filter e₁ e₂ sql p₁ p₂
  have hmasked : e₁.masked = e₂.masked := by decide +kernel
  have h₁ : compileExpr none e₁ = .ok p₁ := by decide +kernel
  have h₂ : compileExpr none e₂ = .ok p₂ := by decide +kernel
  exact ⟨hmasked, h₁, h₂, sql_eq_of_masked_eq none hmasked h₁ h₂⟩

end Sql

end Formulary
