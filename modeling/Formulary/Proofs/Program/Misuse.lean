import Formulary.Proofs.Function.Signature
import Formulary.Proofs.Program.Mentions
import Formulary.Proofs.Sql.Acceptance

/-!
# Misuse of functions

A formula that calls a function with a wrong number of arguments, or with a literal of a wrong
kind, cannot be bound.  What is left for a run to find is an argument of a wrong kind that is no
literal.

* `FailsIn` — a call in a formula fails, and its arguments have values;
* `failsIn_of_eval` — an error of a function always comes from such a call;
* `run_misuse` — what misuse a run can find.
-/

namespace Formulary

namespace Expr

variable {registry : Registry} {context : Context} {name : String} {e : FunctionError}

/-! ## Where errors of functions come from -/

/-- The function of a call fails with the values of its arguments, under its own name. -/
def CallFails (registry : Registry) (context : Context) (written : String) (args : List Expr)
    (name : String) (e : FunctionError) : Prop :=
  ∃ entry function values, registry.lookup? written = some entry ∧ entry.name = name ∧
    entry.implementation = .native function ∧
    List.Forall₂ (HasValue registry context) args values ∧ function values = .error e

/-- A call in the formula fails. -/
def FailsIn (registry : Registry) (context : Context) (expr : Expr) (name : String)
    (e : FunctionError) : Prop :=
  ∃ written args, .call written args ∈ expr.parts ∧
    CallFails registry context written args name e

/-- What fails in a part fails in the whole. -/
theorem FailsIn.of_parts {part expr : Expr} (hparts : ∀ call ∈ part.parts, call ∈ expr.parts)
    (h : part.FailsIn registry context name e) : expr.FailsIn registry context name e := by
  obtain ⟨written, args, hcall, hfails⟩ := h
  exact ⟨written, args, hparts _ hcall, hfails⟩

theorem evalAll_eq_error {nodes : List Node} {e : RuntimeError}
    (h : Node.evalAll context nodes = .error e) : ∃ node ∈ nodes, node.eval context = .error e := by
  induction nodes with
  | nil => cases h
  | cons node nodes ih =>
    rw [Node.evalAll_cons] at h
    rcases steps_eq_error_iff.1 h with hnode | ⟨value, -, hrest⟩
    · exact ⟨node, List.mem_cons_self, hnode⟩
    · rcases steps_eq_error_iff.1 hrest with hlater | ⟨values, -, hvalues⟩
      · obtain ⟨n, hn, heval⟩ := ih hlater
        exact ⟨n, List.mem_cons_of_mem _ hn, heval⟩
      · cases hvalues

theorem eval_identifier_ne_function {path : Path} :
    Node.eval context (.identifier path) ≠ .error (.function name e) := by
  intro h
  rw [Node.eval] at h
  split at h
  · cases h
  · cases h

theorem mapError_function_eq_error {own : String} {x : Except FunctionError Value}
    (h : x.mapError (RuntimeError.function own) = .error (.function name e)) :
    own = name ∧ x = .error e := by
  cases x with
  | error source =>
    obtain ⟨rfl, rfl⟩ := RuntimeError.function.inj (Except.error.inj h)
    exact ⟨rfl, rfl⟩
  | ok v => cases h

/-- Asking a formula for a truth value adds no error of a function. -/
theorem eval_of_expectBool {node : Node} {place : String}
    (h : (node.eval context).bind (Value.expectBool place) = .error (.function name e)) :
    node.eval context = .error (.function name e) := by
  rcases steps_eq_error_iff.1 h with hnode | ⟨v, -, hbool⟩
  · exact hnode
  · exact (ofOperator_of_expectBool hbool).elim

/-- **An error of a function comes from a call in the formula.** -/
theorem failsIn_of_eval {expr : Expr} {node : Node} (hbind : Node.bind registry expr = .ok node)
    (h : node.eval context = .error (.function name e)) :
    expr.FailsIn registry context name e := by
  induction expr using Expr.induct generalizing node with
  | literal value =>
    obtain rfl := Except.ok.inj hbind
    cases h
  | identifier path =>
    obtain rfl := Except.ok.inj hbind
    exact absurd h eval_identifier_ne_function
  | neg operand ih =>
    obtain ⟨n, hoperand, rfl⟩ := bind_neg hbind
    rw [Node.eval_neg] at h
    rcases steps_eq_error_iff.1 h with hn | ⟨v, -, hopposite⟩
    · exact (ih hoperand hn).of_parts fun call hcall => mem_parts_neg.2 (.inr hcall)
    · exact (ofOperator_of_opposite hopposite).elim
  | binary op left right ihleft ihright =>
    obtain ⟨l, r, hl, hr, rfl⟩ := bind_binary hbind
    have hleft (hfails : l.eval context = .error (.function name e)) :
        (Expr.binary op left right).FailsIn registry context name e :=
      (ihleft hl hfails).of_parts fun call hcall => mem_parts_binary.2 (.inr (.inl hcall))
    have hright (hfails : r.eval context = .error (.function name e)) :
        (Expr.binary op left right).FailsIn registry context name e :=
      (ihright hr hfails).of_parts fun call hcall => mem_parts_binary.2 (.inr (.inr hcall))
    by_cases hop : op.isLogical = true
    · rw [Node.eval_logical hop] at h
      rcases steps_eq_error_iff.1 h with hfirst | ⟨decided, -, hrest⟩
      · exact hleft (eval_of_expectBool hfirst)
      · split at hrest
        · cases hrest
        · rcases steps_eq_error_iff.1 hrest with hsecond | ⟨b, -, hb⟩
          · exact hright (eval_of_expectBool hsecond)
          · cases hb
    · rw [Node.eval_strict (by simpa using hop)] at h
      rcases steps_eq_error_iff.1 h with hfirst | ⟨a, -, hrest⟩
      · exact hleft hfirst
      · rcases steps_eq_error_iff.1 hrest with hsecond | ⟨b, -, happly⟩
        · exact hright hsecond
        · exact (ofOperator_of_apply happly).elim
  | call written args ih =>
    obtain ⟨entry, nodes, hentry, -, -, hargs, hnode⟩ := bind_call_eq_ok_iff.1 hbind
    have harg : ∀ n ∈ nodes, n.eval context = .error (.function name e) →
        (Expr.call written args).FailsIn registry context name e := by
      intro n hn hfails
      obtain ⟨arg, harg, hbound⟩ := exists_of_mem_bindAll (bindAll_eq_ok hargs) hn
      exact (ih arg harg hbound hfails).of_parts fun call hcall =>
        mem_parts_call.2 (.inr ⟨arg, harg, hcall⟩)
    rcases Node.ofCall_eq_ok_iff.1 hnode with
      ⟨function, hnative, rfl⟩ | ⟨-, ignored, condition, thenNode, elseNode, rfl, rfl⟩
    · rw [Node.eval_call] at h
      rcases steps_eq_error_iff.1 h with hfails | ⟨values, hvalues, hresult⟩
      · obtain ⟨n, hn, hfails⟩ := evalAll_eq_error hfails
        exact harg n hn hfails
      · -- all arguments have values, so the error is the function's own
        obtain ⟨hname, hfunction⟩ := mapError_function_eq_error hresult
        exact ⟨written, args, self_mem_parts _, entry, function, values, hentry, hname, hnative,
          hasValue_all (bindAll_eq_ok hargs) (evalAll_eq_ok hvalues), hfunction⟩
    · rw [Node.eval_conditional] at h
      rcases steps_eq_error_iff.1 h with hfirst | ⟨decided, -, hbranch⟩
      · exact harg condition (by simp) (eval_of_expectBool hfirst)
      · cases decided with
        | true => exact harg thenNode (by simp) hbranch
        | false => exact harg elseNode (by simp) hbranch

/-! ## Calls of the functions of the language -/

/-- An argument that the table allows is no literal if its value is of a wrong kind. -/
theorem not_literal_of_refuses {kind : ParamKind} {arg : Expr} {value : Value}
    (hadmits : kind.Admits arg) (hvalue : arg.HasValue registry context value)
    (hrefused : kind.accepts value = false) : ∀ literal, arg ≠ .literal literal := by
  rintro literal rfl
  have haccepts := hadmits literal rfl
  rw [← hasValue_literal.1 hvalue] at haccepts
  exact Bool.noConfusion (haccepts.symm.trans hrefused)

/-- A call that the table allows is misused only by an argument that is no literal and whose value
is of a wrong kind. -/
theorem misuse_of_callFails {surroundings : Surroundings} {written : String} {args : List Expr}
    (hcalled : WellCalled (.call written args))
    (h : CallFails (.standard surroundings) context written args name e) (hmisuse : e.IsMisuse) :
    ∃ place kind arg value, args[place]? = some arg ∧ (∀ literal, arg ≠ .literal literal) ∧
      arg.HasValue (.standard surroundings) context value ∧ kind.accepts value = false ∧
      name = Text.upper written ∧ e = .argumentType name (place + 1) kind value.kind := by
  obtain ⟨entry, function, values, hentry, rfl, hnative, hvalues, he⟩ := h
  rw [Registry.lookup?_standard] at hentry
  obtain ⟨builtin, hlookup, rfl⟩ := Option.map_eq_some_iff.1 hentry
  cases hcalled with
  | @call _ _ found hfound hadmits hargs =>
  obtain rfl := Option.some.inj (hlookup.symm.trans hfound)
  have hkeeps := Builtin.keeps_of_native (List.mem_of_find?_eq_some hlookup) hnative
  have hlength : values.length = builtin.params.length :=
    (hadmits.length_eq.trans hvalues.length_eq).symm
  have hnull : .null ∉ values := by
    intro hnull
    rw [hkeeps.null values hlength hnull] at he
    cases he
  obtain ⟨place, kind, value, hfirst, rfl⟩ :=
    hkeeps.firstRefused_of_isMisuse ⟨hlength, hnull⟩ he hmisuse
  -- the argument at the same place has the value, and the table asks for the kind there
  obtain ⟨hplace, rfl⟩ := List.getElem?_eq_some_iff.1 hfirst.argument
  obtain ⟨hparam, rfl⟩ := List.getElem?_eq_some_iff.1 hfirst.param
  have harg : place < args.length := by
    rw [hvalues.length_eq]
    exact hplace
  have hvalue := hvalues.get harg hplace
  exact ⟨place, _, args[place], _, List.getElem?_eq_getElem harg,
    not_literal_of_refuses (hadmits.get hparam harg) hvalue hfirst.refused, hvalue, hfirst.refused,
    Builtin.name_of_lookup? hlookup, rfl⟩

end Expr

/-! ## Programs -/

/-- **What misuse of functions a run can find.**  A formula that was compiled never calls a
function with a wrong number of arguments.  If an argument is of a wrong kind, the function has a
call in the formula with an argument at this place that is no literal, and has a value of the kind
that was found. -/
theorem run_misuse {surroundings : Surroundings} {source : String} {expr : Expr}
    {program : Program} (h : Program.compile source expr (.standard surroundings) = .ok program)
    (context : Context) :
    (∀ name function expected actual,
      program.run context ≠ .error (.function name (.arity function expected actual))) ∧
    ∀ name function position kind actual,
      program.run context = .error (.function name (.argumentType function position kind actual)) →
        name = function ∧ ∃ written args place arg value,
          .call written args ∈ expr.parts ∧ Text.upper written = function ∧
          position = place + 1 ∧ args[place]? = some arg ∧ (∀ literal, arg ≠ .literal literal) ∧
          arg.HasValue (.standard surroundings) context value ∧ kind.accepts value = false ∧
          actual = value.kind := by
  have hbind := bind_of_compile h
  have hcalled : WellCalled expr := (bind_eq_ok_iff surroundings).1 ⟨program.root, hbind⟩
  constructor
  · intro name function expected actual hrun
    obtain ⟨written, args, hcall, hfails⟩ := Expr.failsIn_of_eval hbind hrun
    obtain ⟨_, _, _, _, -, -, -, -, -, heq⟩ :=
      Expr.misuse_of_callFails (hcalled.of_part hcall) hfails trivial
    cases heq
  · intro name function position kind actual hrun
    obtain ⟨written, args, hcall, hfails⟩ := Expr.failsIn_of_eval hbind hrun
    obtain ⟨place, _, arg, value, harg, hliteral, hvalue, hrefused, rfl, heq⟩ :=
      Expr.misuse_of_callFails (hcalled.of_part hcall) hfails trivial
    cases heq
    exact ⟨rfl, written, args, place, arg, value, hcall, rfl, rfl, harg, hliteral, hvalue, hrefused,
      rfl⟩

/-- The length of a sum: that it is no text shows only in the run. -/
theorem run_misuse_sum :
    let source := "IF(active, len(amount + 1), 0)"
    let context : Context := [("active", .bool true), ("amount", .int 5)]
    ∃ expr program, parse source = .ok expr ∧
      Program.compile source expr (.standard ⟨"", "", id⟩) = .ok program ∧
      program.run context = .error (.function "LEN" (.argumentType "LEN" 1 .text "int")) ∧
      ∃ written args place arg value, .call written args ∈ expr.parts ∧
        Text.upper written = "LEN" ∧ 1 = place + 1 ∧ args[place]? = some arg ∧
        (∀ literal, arg ≠ .literal literal) ∧
        arg.HasValue (.standard ⟨"", "", id⟩) context value ∧
        ParamKind.text.accepts value = false ∧ "int" = value.kind := by
  intro source context
  let sum : Expr := .binary .add (.identifier ⟨["amount"]⟩) (.literal (.int 1))
  let expr : Expr :=
    .call "IF" [.identifier ⟨["active"]⟩, .call "len" [sum], .literal (.int 0)]
  obtain ⟨program, hcompile⟩ : ∃ program,
      Program.compile source expr (.standard ⟨"", "", id⟩) = .ok program := ⟨_, rfl⟩
  have hparse : parse source = .ok expr := by decide +kernel
  have hrun : program.run context =
      .error (.function "LEN" (.argumentType "LEN" 1 .text "int")) := by
    cases hcompile
    rfl
  obtain ⟨-, hkinds⟩ := run_misuse hcompile context
  obtain ⟨-, hcall⟩ := hkinds _ _ _ _ _ hrun
  exact ⟨expr, program, hparse, hcompile, hrun, hcall⟩

end Formulary
