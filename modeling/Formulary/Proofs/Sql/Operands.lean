import Formulary.Proofs.Program.Calls
import Formulary.Proofs.Program.Operators
import Formulary.Proofs.Sql.Faults

/-!
# Operands that are refused

The database refuses an arithmetic operand that can never be a number.  It goes by the kind of
results that a function is declared with, while the evaluator goes by the result: the two differ
where a function only puts a text in another case, and the text writes a number.

* `number?_of_refused` — the value of a refused operand is a number in just that case;
* `eq_null_of_needsNumber` — without a number for its operand an operation has no result but null;
* `refused_operand_no_number` — both, for every formula that is refused for an operand;
* `refused_operand_upper` — a formula that is refused and has a number as its value.
-/

namespace Formulary.Sql

variable {surroundings : Surroundings} {registry : Registry} {columns : Columns}
  {context : Context} {op operand : String}

/-! ## The operand -/

theorem checkLiterals_eq_error {function : String} {position : Nat} {kinds : List ParamKind}
    {args : List Expr} {e : CompileError}
    (h : checkLiterals function position kinds args = .error e) :
    ∃ position kind actual, e = .argumentType function position kind actual := by
  fun_induction checkLiterals function position kinds args with
  | case1 position kind kinds value args _ ih => exact ih h
  | case2 position kind kinds value args _ => exact ⟨_, _, _, (Except.error.inj h).symm⟩
  | case3 position kind kinds arg args _ ih => exact ih h
  | case4 => cases h

/-- An operation and that operand of it, with its text, for which it is refused. -/
def RefusedFor (op operand : String) (node x : Expr) : Prop :=
  NeedsNumber node op x ∧ checkNumeric op x = .error (.nonNumericOperand op operand)

theorem refusedFor_of_fault {part : Expr}
    (h : Fault columns part (.nonNumericOperand op operand)) :
    ∃ x, RefusedFor op operand part x := by
  cases h with
  | nonNumeric hneeds hx => exact ⟨_, hneeds, checkNumeric_eq_error.2 ⟨hx, rfl⟩⟩
  | misused _ hcheck =>
    unfold checkCall at hcheck
    split at hcheck
    · obtain ⟨_, _, _, heq⟩ := checkLiterals_eq_error hcheck
      cases heq
    · cases hcheck

/-! ## Its value -/

/-- A call that puts a text in another case, of a text that writes a number. -/
def CasedNumeral (registry : Registry) (context : Context) (x : Expr) : Prop :=
  ∃ name arg s, x = .call name [arg] ∧ Text.upper name ∈ Builtin.caseNames ∧
    arg.HasValue registry context (.string s) ∧ (Number.ofText? s).isSome = true

/-- A function that gives a text or a truth value evaluates all its arguments. -/
theorem eager_of_returns {builtin : Builtin} (hmem : builtin ∈ Builtin.all)
    (hreturns : builtin.returns = .text ∨ builtin.returns = .bool) :
    ∃ function, builtin.action = .eager function := by
  have hall : ∀ b ∈ Builtin.all, b.action = .conditional → b.returns = .any := by
    simp [Builtin.all]
  cases haction : builtin.action with
  | eager function => exact ⟨function, rfl⟩
  | conditional =>
    rw [hall builtin hmem haction] at hreturns
    exact absurd hreturns (by decide)

/-- What a call of a function with texts or truth values as results has as its value, the
function gives for the values of its arguments. -/
theorem gives_of_hasValue {name : String} {args : List Expr} {builtin : Builtin} {v : Value}
    (hlookup : Builtin.lookup? name = some builtin)
    (hreturns : builtin.returns = .text ∨ builtin.returns = .bool)
    (h : (Expr.call name args).HasValue (.standard surroundings) context v) :
    ∃ values, List.Forall₂ (Expr.HasValue (.standard surroundings) context) args values ∧
      builtin.Gives surroundings values v := by
  obtain ⟨function, haction⟩ := eager_of_returns (List.mem_of_find?_eq_some hlookup) hreturns
  obtain ⟨found, hfound, hvalues | ⟨hconditional, -⟩⟩ := h.standard_call
  · obtain rfl := Option.some.inj (hfound.symm.trans hlookup)
    exact hvalues
  · obtain rfl := Option.some.inj (hfound.symm.trans hlookup)
    cases haction.symm.trans hconditional

/-- A result that keeps the number of its argument is a number if the argument writes one. -/
theorem number?_of_keepsNumber {name : String} {args : List Expr} {values : List Value} {v : Value}
    (hname : Text.upper name ∈ Builtin.caseNames)
    (hvalues : List.Forall₂ (Expr.HasValue registry context) args values)
    (h : Builtin.KeepsNumber values v) :
    v.number?.isSome = true ↔ CasedNumeral registry context (.call name args) := by
  rcases h with ⟨rfl, rfl⟩ | ⟨s, rfl, hs⟩
  · refine iff_of_false (by simp [Value.number?]) ?_
    rintro ⟨_, arg, s, heq, -, harg, -⟩
    cases heq
    cases hvalues with
    | cons hnull _ => cases hnull.unique harg
  · obtain ⟨arg, rest, harg, hrest, rfl⟩ := List.forall₂_cons_right_iff.1 hvalues
    obtain rfl := List.forall₂_nil_right_iff.1 hrest
    rw [hs]
    constructor
    · exact fun hsome => ⟨name, arg, s, rfl, hname, harg, hsome⟩
    · rintro ⟨_, arg', s', heq, -, harg', hsome⟩
      cases heq
      cases harg.unique harg'
      exact hsome

/-- **The value of a refused operand is no number**, unless the operand puts a text in another
case that writes one. -/
theorem number?_of_refused (usual : surroundings.Usual) {x : Expr} (hx : mayBeNumeric x = false)
    {v : Value} (hv : x.HasValue (.standard surroundings) context v) :
    v.number?.isSome = true ↔ CasedNumeral (.standard surroundings) context x := by
  cases x with
  | identifier path => cases hx
  | neg operand => cases hx
  | binary op left right => cases hx
  | literal value =>
    obtain rfl := Expr.hasValue_literal.1 hv
    have hnone : (Value.ofLiteral value).number?.isSome = false := by
      cases value with
      | string s => exact hx
      | bool b => rfl
      | _ => cases hx
    refine iff_of_false (by simp [hnone]) ?_
    rintro ⟨_, _, _, heq, -⟩
    cases heq
  | call name args =>
    cases hlookup : Builtin.lookup? name with
    | none => simp [mayBeNumeric, hlookup] at hx
    | some builtin =>
      have hreturns : builtin.returns = .text ∨ builtin.returns = .bool := by
        simp only [mayBeNumeric, hlookup, Bool.and_eq_false_iff, bne_eq_false_iff_eq] at hx
        exact hx
      obtain ⟨values, hvalues, hgives⟩ := gives_of_hasValue hlookup hreturns hv
      rcases Builtin.number?_of_gives usual (List.mem_of_find?_eq_some hlookup) hreturns hgives with
        ⟨hname, hnone⟩ | ⟨hname, hkeeps⟩
      · refine iff_of_false (by simp [hnone]) ?_
        rintro ⟨_, _, _, heq, hcase, -⟩
        cases heq
        exact absurd (Builtin.name_of_lookup? hlookup ▸ hcase) hname
      · exact number?_of_keepsNumber (Builtin.name_of_lookup? hlookup ▸ hname) hvalues hkeeps

/-! ## The operation -/

/-- Without a number for its operand an operation has no result but null. -/
theorem eq_null_of_needsNumber {node x : Expr} (hneeds : NeedsNumber node op x)
    (hx : ∀ v, x.HasValue registry context v → v.number? = none) {w : Value}
    (hw : node.HasValue registry context w) : w = .null := by
  cases hneeds with
  | neg =>
    obtain ⟨v, hv, hopposite⟩ := hw.neg
    exact Value.eq_null_of_opposite (hx v hv) hopposite
  | left left right hop =>
    obtain ⟨a, b, ha, -, happly⟩ := hw.binary (BinaryOp.isLogical_of_arithmetic hop)
    rw [BinaryOp.apply_arithmetic hop] at happly
    exact BinaryOp.eq_null_of_calculate (.inl (hx a ha)) happly
  | right left right hop =>
    obtain ⟨a, b, -, hb, happly⟩ := hw.binary (BinaryOp.isLogical_of_arithmetic hop)
    rw [BinaryOp.apply_arithmetic hop] at happly
    exact BinaryOp.eq_null_of_calculate (.inr (hx b hb)) happly

/-- **A formula that is refused for an operand has a part that needs the number of that
operand.**  In every context the value of such an operand is no number, and the part has no value
but null, unless the operand puts a text in another case that writes a number. -/
theorem refused_operand_no_number (usual : surroundings.Usual) {expr : Expr}
    (h : compileExpr columns expr = .error (.nonNumericOperand op operand)) :
    (∃ node ∈ expr.parts, ∃ x, RefusedFor op operand node x) ∧
    ∀ node ∈ expr.parts, ∀ x, RefusedFor op operand node x → ∀ context,
      (∀ v, x.HasValue (.standard surroundings) context v →
        (v.number?.isSome = true ↔ CasedNumeral (.standard surroundings) context x)) ∧
      (¬ CasedNumeral (.standard surroundings) context x →
        ∀ w, node.HasValue (.standard surroundings) context w → w = .null) := by
  rw [compileExpr_eq] at h
  obtain ⟨part, hpart, hfault⟩ := fault_of_clause (error_of_map h)
  refine ⟨⟨part, hpart, refusedFor_of_fault hfault⟩, ?_⟩
  rintro node - x ⟨hneeds, hcheck⟩ context
  have hx := (checkNumeric_eq_error.1 hcheck).1
  refine ⟨fun v hv => number?_of_refused usual hx hv, fun hcased w hw => ?_⟩
  refine eq_null_of_needsNumber hneeds (fun v hv => ?_) hw
  have hnone := mt (number?_of_refused usual hx hv).1 hcased
  simpa using hnone

/-- A code of letters and digits, in lower case, is no number, and it has no opposite. -/
theorem refused_operand_code :
    let date : Date := ⟨2024, 5, 17⟩
    let registry := Registry.standard
      ⟨date.text, date.text ++ " " ++ "12:00:00", Bcrypt.hash 10 #[]⟩
    let context : Context := [("code", .string "B12")]
    let code : Expr := .call "lower" [.identifier ⟨["code"]⟩]
    compileExpr none (.neg code) = .error (.nonNumericOperand "-" "lower(code)") ∧
      (∀ v, code.HasValue registry context v → v.number? = none) ∧
      ∀ w, (Expr.neg code).HasValue registry context w → w = .null := by
  intro date registry context code
  have hrefused : compileExpr none (.neg code) =
      .error (.nonNumericOperand "-" "lower(code)") := by decide +kernel
  have hcased : ¬ CasedNumeral registry context code := by
    rintro ⟨_, _, s, heq, -, harg, hsome⟩
    obtain rfl := (List.cons.inj (Expr.call.inj heq).2).1
    have hs : Value.string "B12" = .string s := Option.some.inj (Expr.hasValue_identifier.1 harg)
    cases hs
    exact absurd hsome (by decide +kernel)
  have hfor : RefusedFor "-" "lower(code)" (.neg code) code :=
    ⟨.neg code, checkNumeric_eq_error.2 ⟨by decide +kernel, by decide +kernel⟩⟩
  obtain ⟨-, hoperands⟩ :=
    refused_operand_no_number (Surroundings.usual_machine date "12:00:00" 10 #[]) hrefused
  obtain ⟨hnumber, hnull⟩ := hoperands _ (Expr.self_mem_parts _) code hfor context
  refine ⟨hrefused, fun v hv => ?_, hnull hcased⟩
  have hnone := mt (hnumber v hv).1 hcased
  simpa using hnone

/-- A code of digits, in upper case: the operand is refused, and the evaluator finds a number in
it and a sum. -/
theorem refused_operand_upper :
    let context : Context := [("code", .string "5")]
    let value (text : String) := ((Engine.new ⟨"", "", id⟩).evaluate text context).1
    compile none "UPPER(code) + 1" =
        .error (.compile (.nonNumericOperand "+" "UPPER(code)")) ∧
      value "UPPER(code)" = .ok (.string "5") ∧
      (Value.string "5").number? = some (.int 5) ∧
      value "UPPER(code) + 1" = .ok (.int 6) := by
  intro context value
  have hcode : parse "UPPER(code)" = .ok (.call "UPPER" [.identifier ⟨["code"]⟩]) := by
    decide +kernel
  have hsum : parse "UPPER(code) + 1" = .ok
      (.binary .add (.call "UPPER" [.identifier ⟨["code"]⟩]) (.literal (.int 1))) := by
    decide +kernel
  exact ⟨by decide +kernel, evaluate_new.2 ⟨_, hcode, _, rfl, rfl⟩, by decide +kernel,
    evaluate_new.2 ⟨_, hsum, _, rfl, rfl⟩⟩

end Formulary.Sql
