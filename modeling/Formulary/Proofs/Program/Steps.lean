import Formulary.Engine

/-!
# Runs as sequences of steps

A run of a bound formula is a sequence of steps, and the first that fails ends it.

* `eval_neg`, `eval_logical`, `eval_strict`, `eval_call`, `eval_conditional` — the steps of each
  kind of formula;
* `steps_eq_ok_iff`, `steps_eq_error_iff` — what a sequence went through that does not fail, and
  one that fails;
* `ofOperator_of_apply` — operators fail for reasons of their own.
-/

namespace Formulary

/-- A step that follows another one has a result if that one has one for it to go on with. -/
theorem steps_eq_ok_iff {ε α β : Type} {x : Except ε α} {f : α → Except ε β} {b : β} :
    x.bind f = .ok b ↔ ∃ a, x = .ok a ∧ f a = .ok b := by
  cases x with
  | error e => simp [Except.bind]
  | ok a => simp [Except.bind]

/-- A step that follows another one fails if that one does, or with what it goes on with. -/
theorem steps_eq_error_iff {ε α β : Type} {x : Except ε α} {f : α → Except ε β} {e : ε} :
    x.bind f = .error e ↔ x = .error e ∨ ∃ a, x = .ok a ∧ f a = .error e := by
  cases x with
  | error e' => simp [Except.bind]
  | ok a => simp [Except.bind]

theorem mapError_eq_ok_iff {ε δ α : Type} {x : Except ε α} {f : ε → δ} {a : α} :
    x.mapError f = .ok a ↔ x = .ok a := by
  cases x with
  | error e => constructor <;> intro h <;> cases h
  | ok b =>
    constructor
    · intro h
      rw [Except.ok.inj h]
    · intro h
      rw [Except.ok.inj h]
      rfl

theorem Value.expectBool_eq_ok {place : String} {v : Value} {b : Bool}
    (h : v.expectBool place = .ok b) : v = .bool b := by
  unfold Value.expectBool at h
  cases v with
  | bool c => rw [Except.ok.inj h]
  | _ => simp [Value.bool?] at h

/-! ## What operators fail with -/

/-- An error of operators: it tells neither of a path nor of a function. -/
def RuntimeError.OfOperator : RuntimeError → Prop
  | .missingIdentifier _ => False
  | .function _ _ => False
  | _ => True

section Operators

variable {e : RuntimeError}

theorem ofOperator_of_expectBool {place : String} {v : Value} (h : v.expectBool place = .error e) :
    e.OfOperator := by
  unfold Value.expectBool at h
  split at h
  · cases h
  · obtain rfl := Except.error.inj h
    trivial

theorem ofOperator_of_expectNumber {op : String} {v : Value} (h : v.expectNumber op = .error e) :
    e.OfOperator := by
  unfold Value.expectNumber at h
  split at h
  · cases h
  · obtain rfl := Except.error.inj h
    trivial

theorem ofOperator_of_finiteResult {op : String} {x : Binary64}
    (h : finiteResult op x = .error e) : e.OfOperator := by
  unfold finiteResult at h
  split at h
  · cases h
  · obtain rfl := Except.error.inj h
    trivial

theorem ofOperator_of_integerResult {op : String} {n : Option Int64}
    (h : integerResult op n = .error e) : e.OfOperator := by
  cases n with
  | none =>
    obtain rfl := Except.error.inj h
    trivial
  | some n => cases h

theorem ofOperator_of_opposite {v : Value} (h : v.opposite = .error e) : e.OfOperator := by
  unfold Value.opposite at h
  split at h
  · cases h
  · split at h
    · next he =>
      obtain rfl := Except.error.inj h
      exact ofOperator_of_expectNumber he
    · exact ofOperator_of_integerResult h
    · cases h

theorem ofOperator_of_onNumbers {op : BinaryOp} {a b : Number} (h : op.onNumbers a b = .error e) :
    e.OfOperator := by
  unfold BinaryOp.onNumbers at h
  split at h
  · split at h
    · obtain rfl := Except.error.inj h
      trivial
    · exact ofOperator_of_finiteResult h
  · split at h
    · exact ofOperator_of_integerResult h
    · exact ofOperator_of_finiteResult h

theorem ofOperator_of_calculate {op : BinaryOp} {a b : Value} (h : op.calculate a b = .error e) :
    e.OfOperator := by
  unfold BinaryOp.calculate at h
  split at h
  · cases h
  · split at h
    · next he =>
      obtain rfl := Except.error.inj h
      exact ofOperator_of_expectNumber he
    · split at h
      · next he =>
        obtain rfl := Except.error.inj h
        exact ofOperator_of_expectNumber he
      · exact ofOperator_of_onNumbers h

theorem ofOperator_of_testOrder {op : BinaryOp} {a b : Value} (h : op.testOrder a b = .error e) :
    e.OfOperator := by
  unfold BinaryOp.testOrder at h
  split at h
  · cases h
  · split at h
    · cases h
    · obtain rfl := Except.error.inj h
      trivial

/-- Operators fail for reasons of their own. -/
theorem ofOperator_of_apply {op : BinaryOp} {a b : Value} (h : op.apply a b = .error e) :
    e.OfOperator := by
  unfold BinaryOp.apply at h
  split at h
  · cases h
  · split at h
    · exact ofOperator_of_testOrder h
    · exact ofOperator_of_calculate h

end Operators

/-! ## Steps -/

namespace Node

variable {context : Context}

theorem eval_neg (operand : Node) :
    eval context (.neg operand) = (eval context operand).bind Value.opposite := by
  rw [eval]
  cases eval context operand <;> rfl

theorem eval_logical {op : BinaryOp} (hop : op.isLogical = true) (left right : Node) :
    eval context (.binary op left right) =
      ((eval context left).bind (Value.expectBool op.symbol)).bind fun decided =>
        if op.settledBy decided then .ok (.bool decided)
        else ((eval context right).bind (Value.expectBool op.symbol)).bind fun b =>
          .ok (.bool b) := by
  rw [eval]
  cases eval context left with
  | error e => rfl
  | ok leftValue =>
    simp only [hop, if_true, Except.bind]
    cases leftValue.expectBool op.symbol with
    | error e => rfl
    | ok decided =>
      simp only
      split
      · rfl
      · cases eval context right with
        | error e => rfl
        | ok rightValue => cases rightValue.expectBool op.symbol <;> rfl

theorem eval_strict {op : BinaryOp} (hop : op.isLogical = false) (left right : Node) :
    eval context (.binary op left right) =
      (eval context left).bind fun leftValue =>
        (eval context right).bind fun rightValue => op.apply leftValue rightValue := by
  rw [eval]
  cases eval context left with
  | error e => rfl
  | ok leftValue =>
    simp only [hop, Bool.false_eq_true, if_false, Except.bind]
    cases eval context right <;> rfl

theorem eval_call (name : String) (function : Native) (args : List Node) :
    eval context (.call name function args) =
      (evalAll context args).bind fun values =>
        (function values).mapError (RuntimeError.function name) := by
  rw [eval]
  cases evalAll context args with
  | error e => rfl
  | ok values =>
    simp only [Except.bind]
    cases function values <;> rfl

theorem eval_conditional (condition thenNode elseNode : Node) :
    eval context (.conditional condition thenNode elseNode) =
      ((eval context condition).bind (Value.expectBool "IF")).bind fun b =>
        if b then eval context thenNode else eval context elseNode := by
  rw [eval]
  cases eval context condition with
  | error e => rfl
  | ok value =>
    simp only [Except.bind]
    cases value.expectBool "IF" with
    | error e => rfl
    | ok b => cases b <;> rfl

theorem evalAll_cons (node : Node) (rest : List Node) :
    evalAll context (node :: rest) =
      (eval context node).bind fun value =>
        (evalAll context rest).bind fun values => .ok (value :: values) := by
  rw [evalAll]
  cases eval context node with
  | error e => rfl
  | ok value => cases hrest : evalAll context rest <;> simp [Except.bind]

end Node

end Formulary
