import Formulary.Proofs.Expr.Parts
import Formulary.Proofs.Sql.Clause

/-!
# Whose fault an error is

A formula that is no predicate has a part that is to blame: the error is the one that this
part has for what it is, whatever stands around it.

* `NeedsNumber` — an arithmetic operator with one of its operands;
* `Fault` — the errors that a part has by itself, one case for each way to be refused;
* `fault_of_clause` — every error is the fault of a part.
-/

namespace Formulary.Sql

/-! ## Faults -/

/-- A formula whose operator, given by its symbol, needs the number of an operand. -/
inductive NeedsNumber : Expr → String → Expr → Prop
  | neg (operand : Expr) : NeedsNumber (.neg operand) "-" operand
  | left {op : BinaryOp} (left right : Expr) : op.isArithmetic = true →
      NeedsNumber (.binary op left right) op.symbol left
  | right {op : BinaryOp} (left right : Expr) : op.isArithmetic = true →
      NeedsNumber (.binary op left right) op.symbol right

/-- What is wrong with a formula itself, and not with a part of it. -/
inductive Fault (columns : Columns) : Expr → CompileError → Prop
  | column {path : Path} : columns.allow path.text = false →
      Fault columns (.identifier path) (.columnNotAllowed path.text)
  | negNull : Fault columns (.neg (.literal .null)) (.nullOperand "-")
  | nullOperand {op : BinaryOp} {left right : Expr} : isNullTest? op = none →
      (left.isNullLiteral || right.isNullLiteral) = true →
      Fault columns (.binary op left right) (.nullOperand op.symbol)
  | nonNumeric {expr operand : Expr} {op : String} : NeedsNumber expr op operand →
      mayBeNumeric operand = false → Fault columns expr (.nonNumericOperand op operand.text)
  /-- There is no such function, or the database does not know it. -/
  | unsupported {name : String} {args : List Expr} :
      (Builtin.lookup? name).bind Builtin.sql = none →
      Fault columns (.call name args) (.unsupportedFunction (Text.upper name))
  | misused {name : String} {args : List Expr} {builtin : Builtin} {e : CompileError} :
      Builtin.lookup? name = some builtin → checkCall builtin args = .error e →
      Fault columns (.call name args) e
  /-- The text that is looked for is not there to make a pattern of. -/
  | textRequired {name : String} {args : List Expr} {builtin : Builtin} {pattern : LikePattern} :
      Builtin.lookup? name = some builtin → builtin.sql = some (.like pattern) →
      Fault columns (.call name args) (.literalRequired builtin.name 2)

variable {columns : Columns}

/-- An operand is refused just if it can never be a number, and the error names it. -/
theorem checkNumeric_eq_error {operand : Expr} {op : String} {e : CompileError} :
    checkNumeric op operand = .error e ↔
      mayBeNumeric operand = false ∧ e = .nonNumericOperand op operand.text := by
  unfold checkNumeric
  split
  · next h => simp [h]
  · next h => simpa [h] using eq_comm

theorem fault_of_checkNumeric {expr operand : Expr} {op : String} {e : CompileError}
    (hneeds : NeedsNumber expr op operand) (h : checkNumeric op operand = .error e) :
    Fault columns expr e := by
  obtain ⟨hnumeric, rfl⟩ := checkNumeric_eq_error.1 h
  exact .nonNumeric hneeds hnumeric

/-! ## Errors of parts -/

theorem error_of_clauseAll {args : List Expr} {e : CompileError}
    (h : clauseAll (args.map (clause columns)) = .error e) :
    ∃ arg ∈ args, clause columns arg = .error e := by
  induction args with
  | nil => cases h
  | cons arg args ih =>
    rw [List.map_cons] at h
    cases hfirst : clause columns arg with
    | error e' =>
      rw [hfirst, clauseAll] at h
      obtain rfl := Except.error.inj h
      exact ⟨arg, by simp, hfirst⟩
    | ok c =>
      rw [hfirst, clauseAll] at h
      obtain ⟨a, ha, he⟩ := ih (error_of_map h)
      exact ⟨a, List.mem_cons_of_mem _ ha, he⟩

theorem error_of_daysClause {days : Expr} {e : CompileError}
    (h : daysClause days (clause columns days) = .error e) : clause columns days = .error e := by
  unfold daysClause at h
  split at h
  · cases h
  · exact h

/-- The arguments of a call that fit have an error of their own, or one of them is not the text
that has to be there. -/
theorem error_of_callClause {function : String} {mapping : SqlMapping} {args : List Expr}
    (hm : (mapping, args.length) ∈ mappings) {e : CompileError}
    (h : callClause function mapping args (args.map (clause columns)) = .error e) :
    (∃ arg ∈ args, clause columns arg = .error e) ∨
      (∃ pattern, mapping = .like pattern) ∧ e = .literalRequired function 2 := by
  have harity := arity_of_mem_mappings hm
  cases mapping with
  | keyword text => cases h
  | call name => exact .inl (error_of_clauseAll (error_of_map h))
  | addDays =>
    obtain ⟨date, days, rfl⟩ := List.length_eq_two.1 harity
    simp only [List.map_cons, List.map_nil, callClause_addDays_eq_bind] at h
    rcases steps_eq_error_iff.1 h with hdate | ⟨_, -, h⟩
    · exact .inl ⟨date, by simp, hdate⟩
    · exact .inl ⟨days, by simp, error_of_daysClause (error_of_map h)⟩
  | roundHalfUp =>
    obtain ⟨x, places, rfl⟩ := List.length_eq_two.1 harity
    simp only [List.map_cons, List.map_nil, callClause_round_eq_bind] at h
    rcases steps_eq_error_iff.1 h with hx | ⟨_, -, h⟩
    · exact .inl ⟨x, by simp, hx⟩
    · exact .inl ⟨places, by simp, error_of_map h⟩
  | like pattern =>
    obtain ⟨subject, text, rfl⟩ := List.length_eq_two.1 harity
    simp only [List.map_cons, List.map_nil, callClause] at h
    cases htext : text.stringLiteral? with
    | none =>
      rw [htext] at h
      exact .inr ⟨⟨pattern, rfl⟩, (Except.error.inj h).symm⟩
    | some s =>
      rw [htext] at h
      exact .inl ⟨subject, by simp, error_of_map h⟩

/-! ## Errors of formulas -/

/-- A call is at fault itself, or one of its arguments has the error. -/
theorem error_of_call {name : String} {args : List Expr} {e : CompileError}
    (h : clause columns (.call name args) = .error e) :
    Fault columns (.call name args) e ∨ ∃ arg ∈ args, clause columns arg = .error e := by
  simp only [clause] at h
  cases hlookup : Builtin.lookup? name with
  | none =>
    rw [hlookup] at h
    obtain rfl := Except.error.inj h
    exact .inl (.unsupported (by rw [hlookup]; rfl))
  | some builtin =>
    simp only [hlookup] at h
    cases hsql : builtin.sql with
    | none =>
      simp only [hsql] at h
      obtain rfl := Except.error.inj h
      exact .inl (.unsupported (by rw [hlookup]; exact hsql))
    | some mapping =>
      simp only [hsql] at h
      cases hcheck : checkCall builtin args with
      | error e' =>
        simp only [hcheck] at h
        obtain rfl := Except.error.inj h
        exact .inl (.misused hlookup hcheck)
      | ok _ =>
        simp only [hcheck, clauses_eq_map] at h
        have hm := mem_mappings hlookup hsql
        rw [← length_of_checkCall hcheck] at hm
        rcases error_of_callClause hm h with harg | ⟨⟨pattern, rfl⟩, rfl⟩
        · exact .inr harg
        · exact .inl (.textRequired hlookup hsql)

/-- A minus sign is at fault itself, or its operand has the error. -/
theorem error_of_neg {operand : Expr} {e : CompileError}
    (h : clause columns (.neg operand) = .error e) :
    Fault columns (.neg operand) e ∨ clause columns operand = .error e := by
  by_cases hnull : operand.isNullLiteral = true
  · rw [clause, if_pos hnull] at h
    obtain rfl := Except.error.inj h
    obtain rfl := eq_null_of_isNullLiteral hnull
    exact .inl .negNull
  · rw [clause_neg_eq_bind hnull] at h
    rcases steps_eq_error_iff.1 h with hcheck | ⟨_, -, h⟩
    · exact .inl (fault_of_checkNumeric (.neg operand) hcheck)
    · exact .inr (error_of_map h)

theorem checkOperand_eq_error {op : BinaryOp} {operand : Expr} {e : CompileError}
    (h : checkOperand op operand = .error e) :
    op.isArithmetic = true ∧ checkNumeric op.symbol operand = .error e := by
  unfold checkOperand at h
  by_cases harithmetic : op.isArithmetic = true
  · rw [if_pos harithmetic] at h
    exact ⟨harithmetic, h⟩
  · rw [if_neg harithmetic] at h
    cases h

/-- An operator is at fault itself, or one of its operands has the error. -/
theorem error_of_binary {op : BinaryOp} {left right : Expr} {e : CompileError}
    (h : clause columns (.binary op left right) = .error e) :
    Fault columns (.binary op left right) e ∨ clause columns left = .error e ∨
      clause columns right = .error e := by
  by_cases hnull : (left.isNullLiteral || right.isNullLiteral) = true
  · rw [clause, if_pos hnull] at h
    split at h
    · next htest =>
      obtain rfl := Except.error.inj h
      exact .inl (.nullOperand htest hnull)
    · have hoperand := error_of_map h
      split at hoperand
      · exact .inr (.inl hoperand)
      · exact .inr (.inr hoperand)
  · rw [clause_binary_eq_bind hnull] at h
    rcases steps_eq_error_iff.1 h with hcheck | ⟨_, -, h⟩
    · obtain ⟨hop, hcheck⟩ := checkOperand_eq_error hcheck
      exact .inl (fault_of_checkNumeric (.left left right hop) hcheck)
    rcases steps_eq_error_iff.1 h with hcheck | ⟨_, -, h⟩
    · obtain ⟨hop, hcheck⟩ := checkOperand_eq_error hcheck
      exact .inl (fault_of_checkNumeric (.right left right hop) hcheck)
    rcases steps_eq_error_iff.1 h with hleft | ⟨_, -, h⟩
    · exact .inr (.inl hleft)
    · exact .inr (.inr (error_of_map h))

/-- Every error is the fault of a part. -/
theorem fault_of_clause {expr : Expr} {e : CompileError} (h : clause columns expr = .error e) :
    ∃ part ∈ expr.parts, Fault columns part e := by
  induction expr using Expr.induct with
  | literal value => cases h
  | identifier path =>
    simp only [clause] at h
    split at h
    · cases h
    · next hallow =>
      obtain rfl := Except.error.inj h
      exact ⟨_, Expr.self_mem_parts _, .column (by simpa using hallow)⟩
  | neg operand ih =>
    rcases error_of_neg h with hfault | herror
    · exact ⟨_, Expr.self_mem_parts _, hfault⟩
    · obtain ⟨part, hpart, hfault⟩ := ih herror
      exact ⟨part, Expr.mem_parts_neg.2 (.inr hpart), hfault⟩
  | binary op left right ihl ihr =>
    rcases error_of_binary h with hfault | herror | herror
    · exact ⟨_, Expr.self_mem_parts _, hfault⟩
    · obtain ⟨part, hpart, hfault⟩ := ihl herror
      exact ⟨part, Expr.mem_parts_binary.2 (.inr (.inl hpart)), hfault⟩
    · obtain ⟨part, hpart, hfault⟩ := ihr herror
      exact ⟨part, Expr.mem_parts_binary.2 (.inr (.inr hpart)), hfault⟩
  | call name args ih =>
    rcases error_of_call h with hfault | ⟨arg, harg, herror⟩
    · exact ⟨_, Expr.self_mem_parts _, hfault⟩
    · obtain ⟨part, hpart, hfault⟩ := ih arg harg herror
      exact ⟨part, Expr.mem_parts_call.2 (.inr ⟨arg, harg, hpart⟩), hfault⟩

end Formulary.Sql
