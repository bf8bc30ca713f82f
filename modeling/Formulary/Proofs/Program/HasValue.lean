import Formulary.Proofs.Program.Steps
import Mathlib.Data.List.Forall2

/-!
# The value of a formula

What the evaluator finds, said of formulas instead of bound programs: a formula has a value
in a context if it can be bound to a registry and its run ends with that value.  There is
one lemma for every kind of formula.

* `HasValue.binary`, `HasValue.logical` — an operator needs both operands, or only what the
  left one does not settle;
* `Node.ofCall_eq_ok_iff` — bound arguments become a call, or the last three of them a choice;
* `HasValue.call`, `HasValue.conditional` — a function gets the values of its arguments, or chooses
  one of them;
* `evaluate_new`, `evaluateCondition_new` — an engine for the language finds what a formula has.
-/

namespace Formulary

/-- A formula has a value in a context, with the functions of a registry. -/
def Expr.HasValue (registry : Registry) (context : Context) (expr : Expr) (value : Value) : Prop :=
  ∃ node, Node.bind registry expr = .ok node ∧ node.eval context = .ok value

variable {registry : Registry} {context : Context} {value : Value}

attribute [local simp] Node.bind Node.bindAll Node.eval Node.evalAll

namespace Expr

/-- A formula has at most one value. -/
theorem HasValue.unique {expr : Expr} {other : Value}
    (h : expr.HasValue registry context value) (hother : expr.HasValue registry context other) :
    value = other := by
  obtain ⟨node, hbind, heval⟩ := h
  obtain ⟨node', hbind', heval'⟩ := hother
  obtain rfl := Except.ok.inj (hbind.symm.trans hbind')
  exact Except.ok.inj (heval.symm.trans heval')

theorem hasValue_literal {literal : Literal} :
    (Expr.literal literal).HasValue registry context value ↔ value = .ofLiteral literal := by
  constructor
  · rintro ⟨node, hbind, heval⟩
    obtain rfl := Except.ok.inj hbind
    exact (Except.ok.inj heval).symm
  · rintro rfl
    exact ⟨_, rfl, rfl⟩

theorem hasValue_identifier {path : Path} :
    (Expr.identifier path).HasValue registry context value ↔
      Node.resolve context path = some value := by
  constructor
  · rintro ⟨node, hbind, heval⟩
    obtain rfl := Except.ok.inj hbind
    rw [Node.eval] at heval
    cases hresolve : Node.resolve context path with
    | none => simp [hresolve] at heval
    | some found =>
      simp only [hresolve] at heval
      rw [Except.ok.inj heval]
  · intro hresolve
    refine ⟨.identifier path, rfl, ?_⟩
    simp [hresolve]

/-- The operand of a bound minus sign is bound. -/
theorem bind_neg {operand : Expr} {node : Node}
    (h : Node.bind registry (.neg operand) = .ok node) :
    ∃ n, Node.bind registry operand = .ok n ∧ node = .neg n := by
  rw [Node.bind] at h
  cases hoperand : Node.bind registry operand with
  | error e => simp [hoperand] at h
  | ok n =>
    simp only [hoperand] at h
    exact ⟨n, rfl, (Except.ok.inj h).symm⟩

theorem HasValue.neg {operand : Expr} (h : (Expr.neg operand).HasValue registry context value) :
    ∃ w, operand.HasValue registry context w ∧ w.opposite = .ok value := by
  obtain ⟨node, hbind, heval⟩ := h
  obtain ⟨n, hoperand, rfl⟩ := bind_neg hbind
  rw [Node.eval_neg] at heval
  obtain ⟨w, hw, hopposite⟩ := steps_eq_ok_iff.1 heval
  exact ⟨w, ⟨n, hoperand, hw⟩, hopposite⟩

/-- Both operands of a bound operator are bound. -/
theorem bind_binary {op : BinaryOp} {left right : Expr} {node : Node}
    (h : Node.bind registry (.binary op left right) = .ok node) :
    ∃ l r, Node.bind registry left = .ok l ∧ Node.bind registry right = .ok r ∧
      node = .binary op l r := by
  rw [Node.bind] at h
  cases hl : Node.bind registry left with
  | error e => simp [hl] at h
  | ok l =>
    cases hr : Node.bind registry right with
    | error e => simp [hl, hr] at h
    | ok r =>
      simp only [hl, hr] at h
      exact ⟨l, r, rfl, rfl, (Except.ok.inj h).symm⟩

/-- An operator that is not logical needs both its operands. -/
theorem HasValue.binary {op : BinaryOp} {left right : Expr} (hop : op.isLogical = false)
    (h : (Expr.binary op left right).HasValue registry context value) :
    ∃ a b, left.HasValue registry context a ∧ right.HasValue registry context b ∧
      op.apply a b = .ok value := by
  obtain ⟨node, hbind, heval⟩ := h
  obtain ⟨l, r, hl, hr, rfl⟩ := bind_binary hbind
  rw [Node.eval_strict hop] at heval
  obtain ⟨a, ha, hright⟩ := steps_eq_ok_iff.1 heval
  obtain ⟨b, hb, happly⟩ := steps_eq_ok_iff.1 hright
  exact ⟨a, b, ⟨l, hl, ha⟩, ⟨r, hr, hb⟩, happly⟩

/-- The value of an operator that is not logical is the one it has at the values of its operands. -/
theorem HasValue.binary_iff {op : BinaryOp} {left right : Expr} {a b : Value}
    (hop : op.isLogical = false) (hleft : left.HasValue registry context a)
    (hright : right.HasValue registry context b) :
    (Expr.binary op left right).HasValue registry context value ↔ op.apply a b = .ok value := by
  constructor
  · intro h
    obtain ⟨a', b', hleft', hright', happly⟩ := h.binary hop
    rwa [hleft.unique hleft', hright.unique hright']
  · intro happly
    obtain ⟨l, hl, ha⟩ := hleft
    obtain ⟨r, hr, hb⟩ := hright
    refine ⟨.binary op l r, by simp [hl, hr], ?_⟩
    simp [hop, ha, hb, happly]

/-- An operator between literals has the value it has at theirs. -/
theorem hasValue_binary_literals {op : BinaryOp} {left right : Literal} (hop : op.isLogical = false)
    (h : op.apply (.ofLiteral left) (.ofLiteral right) = .ok value) :
    (Expr.binary op (.literal left) (.literal right)).HasValue registry context value :=
  ⟨.binary op (.literal (.ofLiteral left)) (.literal (.ofLiteral right)), rfl, by simp [hop, h]⟩

/-- A logical operator needs its right operand only if the left one does not settle it. -/
theorem HasValue.logical {op : BinaryOp} {left right : Expr} (hop : op.isLogical = true)
    (h : (Expr.binary op left right).HasValue registry context value) :
    ∃ a, left.HasValue registry context (.bool a) ∧
      (op.settledBy a = true ∧ value = .bool a ∨
        op.settledBy a = false ∧ ∃ b, right.HasValue registry context (.bool b) ∧
          value = .bool b) := by
  obtain ⟨node, hbind, heval⟩ := h
  obtain ⟨l, r, hl, hr, rfl⟩ := bind_binary hbind
  rw [Node.eval_logical hop] at heval
  obtain ⟨a, hdecided, hrest⟩ := steps_eq_ok_iff.1 heval
  obtain ⟨v, hv, hbool⟩ := steps_eq_ok_iff.1 hdecided
  obtain rfl := Value.expectBool_eq_ok hbool
  refine ⟨a, ⟨l, hl, hv⟩, ?_⟩
  by_cases hsettled : op.settledBy a = true
  · rw [if_pos hsettled] at hrest
    exact .inl ⟨hsettled, (Except.ok.inj hrest).symm⟩
  · rw [if_neg hsettled] at hrest
    obtain ⟨b, hright, hvalue⟩ := steps_eq_ok_iff.1 hrest
    obtain ⟨w, hw, hwbool⟩ := steps_eq_ok_iff.1 hright
    obtain rfl := Value.expectBool_eq_ok hwbool
    exact .inr ⟨by simpa using hsettled, b, ⟨r, hr, hw⟩, (Except.ok.inj hvalue).symm⟩

/-! ## Calls -/

theorem bindAll_eq_ok {args : List Expr} {nodes : List Node}
    (h : Node.bindAll registry args = .ok nodes) :
    List.Forall₂ (fun arg node => Node.bind registry arg = .ok node) args nodes := by
  induction args generalizing nodes with
  | nil =>
    obtain rfl := Except.ok.inj h
    exact .nil
  | cons arg args ih =>
    rw [Node.bindAll] at h
    cases hfirst : Node.bind registry arg with
    | error e => simp [hfirst] at h
    | ok node =>
      cases hrest : Node.bindAll registry args with
      | error e => simp [hfirst, hrest] at h
      | ok more =>
        simp only [hfirst, hrest] at h
        obtain rfl := Except.ok.inj h
        exact .cons hfirst (ih hrest)

/-- Every bound argument is that of an argument. -/
theorem exists_of_mem_bindAll {args : List Expr} {nodes : List Node} {node : Node}
    (h : List.Forall₂ (fun arg node => Node.bind registry arg = .ok node) args nodes)
    (hnode : node ∈ nodes) : ∃ arg ∈ args, Node.bind registry arg = .ok node := by
  induction h with
  | nil => cases hnode
  | cons hfirst _ ih =>
    rcases List.mem_cons.1 hnode with rfl | hlater
    · exact ⟨_, List.mem_cons_self, hfirst⟩
    · obtain ⟨arg, harg, hbound⟩ := ih hlater
      exact ⟨arg, List.mem_cons_of_mem _ harg, hbound⟩

/-- A bound call is one of a function that the registry has, with as many arguments as it takes,
literals of the right kinds, and all arguments bound. -/
theorem bind_call_eq_ok_iff {name : String} {args : List Expr} {node : Node} :
    Node.bind registry (.call name args) = .ok node ↔
      ∃ entry nodes, registry.lookup? name = some entry ∧
        entry.arity.accepts args.length = true ∧ Node.checkLiterals entry 0 args = .ok () ∧
        Node.bindAll registry args = .ok nodes ∧ Node.ofCall entry nodes = .ok node := by
  constructor
  · intro h
    rw [Node.bind] at h
    cases hentry : registry.lookup? name with
    | none => simp [hentry] at h
    | some entry =>
      by_cases harity : entry.arity.accepts args.length = true
      · simp only [hentry, if_pos harity] at h
        cases hcheck : Node.checkLiterals entry 0 args with
        | error e => simp [hcheck] at h
        | ok _ =>
          cases hargs : Node.bindAll registry args with
          | error e => simp [hcheck, hargs] at h
          | ok nodes =>
            simp only [hcheck, hargs] at h
            exact ⟨entry, nodes, rfl, harity, hcheck, rfl, h⟩
      · simp [hentry, harity] at h
  · rintro ⟨entry, nodes, hentry, harity, hcheck, hargs, hnode⟩
    simp [hentry, harity, hcheck, hargs, hnode]

end Expr

namespace Node

/-- Bound arguments become a call of a native function, or the last three of them a choice. -/
theorem ofCall_eq_ok_iff {entry : FunctionEntry} {nodes : List Node} {node : Node} :
    ofCall entry nodes = .ok node ↔
      (∃ function, entry.implementation = .native function ∧
        node = .call entry.name function nodes) ∨
      (entry.implementation = .conditional ∧ ∃ ignored condition thenNode elseNode,
        nodes = ignored ++ [condition, thenNode, elseNode] ∧
          node = .conditional condition thenNode elseNode) := by
  unfold ofCall
  cases entry.implementation with
  | native function => simp [eq_comm]
  | conditional =>
    constructor
    · intro h
      simp only at h
      split at h
      · next elseNode thenNode condition rest hreverse =>
        obtain rfl := Except.ok.inj h
        refine .inr ⟨rfl, rest.reverse, condition, thenNode, elseNode, ?_, rfl⟩
        rw [← List.reverse_reverse nodes, hreverse]
        simp
      · cases h
    · rintro (⟨_, hnative, -⟩ | ⟨-, ignored, condition, thenNode, elseNode, rfl, rfl⟩)
      · cases hnative
      · simp

/-- Three formulas are bound as the parts of a choice. -/
structure BindsParts (registry : Registry) (x y z : Expr)
    (condition thenNode elseNode : Node) : Prop where
  condition : bind registry x = .ok condition
  thenBranch : bind registry y = .ok thenNode
  elseBranch : bind registry z = .ok elseNode

/-- Bound arguments that end in three nodes come from arguments that end in their formulas. -/
theorem bindAll_append_three {args : List Expr} {ignored : List Node}
    {condition thenNode elseNode : Node}
    (h : bindAll registry args = .ok (ignored ++ [condition, thenNode, elseNode])) :
    ∃ dropped x y z, args = dropped ++ [x, y, z] ∧
      BindsParts registry x y z condition thenNode elseNode := by
  -- from the back, where the three are the first
  have hreverse := List.forall₂_reverse_iff.2 (Expr.bindAll_eq_ok h)
  rw [List.reverse_append] at hreverse
  obtain ⟨z, others, hz, hothers, hall⟩ := List.forall₂_cons_right_iff.1 hreverse
  obtain ⟨y, others, hy, hlast, rfl⟩ := List.forall₂_cons_right_iff.1 hothers
  obtain ⟨x, more, hx, -, rfl⟩ := List.forall₂_cons_right_iff.1 hlast
  refine ⟨more.reverse, x, y, z, ?_, hx, hy, hz⟩
  rw [← List.reverse_reverse args, hall]
  simp

end Node

namespace Expr

theorem evalAll_eq_ok {nodes : List Node} {values : List Value}
    (h : Node.evalAll context nodes = .ok values) :
    List.Forall₂ (fun node value => node.eval context = .ok value) nodes values := by
  induction nodes generalizing values with
  | nil =>
    obtain rfl := Except.ok.inj h
    exact .nil
  | cons node nodes ih =>
    rw [Node.evalAll_cons] at h
    obtain ⟨value, hfirst, hrest⟩ := steps_eq_ok_iff.1 h
    obtain ⟨more, hmore, hvalues⟩ := steps_eq_ok_iff.1 hrest
    obtain rfl := Except.ok.inj hvalues
    exact .cons hfirst (ih hmore)

theorem hasValue_all {args : List Expr} {nodes : List Node} {values : List Value}
    (hbind : List.Forall₂ (fun arg node => Node.bind registry arg = .ok node) args nodes)
    (heval : List.Forall₂ (fun node value => node.eval context = .ok value) nodes values) :
    List.Forall₂ (HasValue registry context) args values := by
  induction hbind generalizing values with
  | nil =>
    cases heval
    exact .nil
  | cons hfirst _ ih =>
    cases heval with
    | cons hvalue hrest => exact .cons ⟨_, hfirst, hvalue⟩ (ih hrest)

/-- A function that needs all its arguments gets their values. -/
theorem HasValue.call {name : String} {args : List Expr} {entry : FunctionEntry}
    {function : Native} (hentry : registry.lookup? name = some entry)
    (hnative : entry.implementation = .native function)
    (h : (Expr.call name args).HasValue registry context value) :
    ∃ values, List.Forall₂ (HasValue registry context) args values ∧
      function values = .ok value := by
  obtain ⟨node, hbind, heval⟩ := h
  obtain ⟨found, nodes, hfound, -, -, hargs, hnode⟩ := bind_call_eq_ok_iff.1 hbind
  obtain rfl := Option.some.inj (hfound.symm.trans hentry)
  rw [Node.ofCall, hnative] at hnode
  obtain rfl := Except.ok.inj hnode
  rw [Node.eval_call] at heval
  obtain ⟨values, hvalues, hresult⟩ := steps_eq_ok_iff.1 heval
  exact ⟨values, hasValue_all (bindAll_eq_ok hargs) (evalAll_eq_ok hvalues),
    mapError_eq_ok_iff.1 hresult⟩

/-- Of the last three arguments the first decides which of the other two has the value. -/
def Chooses (registry : Registry) (context : Context) (args : List Expr) (value : Value) : Prop :=
  ∃ elseArg thenArg condition more b, args.reverse = elseArg :: thenArg :: condition :: more ∧
    condition.HasValue registry context (.bool b) ∧
    (if b then thenArg else elseArg).HasValue registry context value

/-- The chosen argument is one of the arguments. -/
theorem Chooses.exists_mem {args : List Expr} (h : Chooses registry context args value) :
    ∃ arg ∈ args, arg.HasValue registry context value := by
  obtain ⟨elseArg, thenArg, condition, more, b, hargs, -, hvalue⟩ := h
  refine ⟨_, ?_, hvalue⟩
  rw [← List.mem_reverse, hargs]
  cases b with
  | true => exact List.mem_cons_of_mem _ List.mem_cons_self
  | false => exact List.mem_cons_self

/-- A conditional has the value of the argument that its condition chooses. -/
theorem HasValue.conditional {name : String} {args : List Expr} {entry : FunctionEntry}
    (hentry : registry.lookup? name = some entry)
    (hconditional : entry.implementation = .conditional)
    (h : (Expr.call name args).HasValue registry context value) :
    Chooses registry context args value := by
  obtain ⟨node, hbind, heval⟩ := h
  obtain ⟨found, nodes, hfound, -, -, hargs, hnode⟩ := bind_call_eq_ok_iff.1 hbind
  obtain rfl := Option.some.inj (hfound.symm.trans hentry)
  rcases Node.ofCall_eq_ok_iff.1 hnode with ⟨_, hnative, -⟩ | ⟨-, _, conditionNode, _, _, rfl, rfl⟩
  · cases hnative.symm.trans hconditional
  obtain ⟨dropped, condition, thenArg, elseArg, rfl, hparts⟩ := Node.bindAll_append_three hargs
  rw [Node.eval_conditional] at heval
  obtain ⟨b, hdecided, hbranch⟩ := steps_eq_ok_iff.1 heval
  obtain ⟨v, hv, hbool⟩ := steps_eq_ok_iff.1 hdecided
  obtain rfl := Value.expectBool_eq_ok hbool
  refine ⟨elseArg, thenArg, condition, dropped.reverse, b, by simp,
    ⟨_, hparts.condition, hv⟩, ?_⟩
  cases b with
  | true => exact ⟨_, hparts.thenBranch, hbranch⟩
  | false => exact ⟨_, hparts.elseBranch, hbranch⟩

end Expr

/-! ## Engines -/

/-- A new engine binds the text it is given. -/
theorem program_new (surroundings : Surroundings) (text : String) :
    ((Engine.new surroundings).program text).1 = Engine.compile (.standard surroundings) text := by
  have hnone : (Engine.new surroundings).programs.get? text = none := rfl
  have hregistry : (Engine.new surroundings).registry = .standard surroundings := rfl
  unfold Engine.program
  simp only [hnone, hregistry]
  cases Engine.compile (.standard surroundings) text with
  | error e => rfl
  | ok program => rfl

theorem condition_eq_ok {value : Value} {b : Bool} :
    Engine.condition value = .ok b ↔ value = .bool b := by
  unfold Engine.condition
  constructor
  · intro h
    cases hbool : value.expectBool "condition" with
    | error e => simp [hbool] at h
    | ok a =>
      simp only [hbool] at h
      rw [Value.expectBool_eq_ok hbool, Except.ok.inj h]
  · rintro rfl
    rfl

/-- A condition is true or false exactly if that is the value of its text. -/
theorem Engine.evaluateCondition_eq_ok_iff (engine : Engine) (text : String) (context : Context)
    (b : Bool) :
    (engine.evaluateCondition text context).1 = .ok b ↔
      (engine.evaluate text context).1 = .ok (.bool b) := by
  simp only [Engine.evaluateCondition]
  cases (engine.evaluate text context).1 with
  | error e => simp [Except.bind]
  | ok value => simp only [Except.bind, condition_eq_ok, Except.ok.injEq]

/-- A new engine finds the value of the formula that a text writes. -/
theorem evaluate_new {surroundings : Surroundings} {text : String} {value : Value} :
    ((Engine.new surroundings).evaluate text context).1 = .ok value ↔
      ∃ expr, parse text = .ok expr ∧
        expr.HasValue (.standard surroundings) context value := by
  have hevaluate : ((Engine.new surroundings).evaluate text context).1 =
      (Engine.compile (.standard surroundings) text).bind fun program =>
        Engine.run program context := by
    rw [← program_new]
    rfl
  rw [hevaluate]
  unfold Engine.compile
  cases parse text with
  | error e => simp [Except.bind]
  | ok expr =>
    simp only [Except.ok.injEq, exists_eq_left', Expr.HasValue, Program.compile]
    cases Node.bind (.standard surroundings) expr with
    | error e => simp [Except.bind]
    | ok node =>
      simp only [Except.bind, Engine.run, Program.run, Except.ok.injEq, exists_eq_left']
      cases node.eval context with
      | error e => simp
      | ok value => simp only [Except.ok.injEq]

/-- A new engine finds a condition true or false exactly if that is the value of the formula
that the text writes. -/
theorem evaluateCondition_new {surroundings : Surroundings} {text : String} {b : Bool} :
    ((Engine.new surroundings).evaluateCondition text context).1 = .ok b ↔
      ∃ expr, parse text = .ok expr ∧
        expr.HasValue (.standard surroundings) context (.bool b) := by
  rw [Engine.evaluateCondition_eq_ok_iff, evaluate_new]

end Formulary
