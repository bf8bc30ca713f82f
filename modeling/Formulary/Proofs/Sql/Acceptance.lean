import Formulary.Proofs.Function.Standard
import Formulary.Proofs.Program.HasValue
import Formulary.Proofs.Sql.Faults

/-!
# What evaluator and database accept

A formula is checked twice, when it is bound for the evaluator and when it is written for the
database, and in two different orders.  Both checks ask the same of its calls; what the
database asks beyond that is no misuse of a function.

* `WellCalled` — every call in a formula is one that the table of functions allows;
* `bind_eq_ok_iff` — the evaluator accepts just these formulas;
* `wellCalled_of_clause` — what the database accepts is one of them;
* `Refusal` — what the database may still say against one of them (`refusal_of_wellCalled`);
* `validate_compile_agree` — the two verdicts on a text.
-/

namespace Formulary

/-! ## Calls that the table allows -/

/-- An argument may be of a kind for all that its text shows: if it is a literal, it is. -/
def ParamKind.Admits (kind : ParamKind) (arg : Expr) : Prop :=
  ∀ value, arg = .literal value → kind.accepts (.ofLiteral value) = true

/-- Every call names a function of the language, with as many arguments as it takes and with
literals of the right kinds. -/
inductive WellCalled : Expr → Prop
  | literal (value : Literal) : WellCalled (.literal value)
  | identifier (path : Path) : WellCalled (.identifier path)
  | neg {operand : Expr} : WellCalled operand → WellCalled (.neg operand)
  | binary (op : BinaryOp) {left right : Expr} : WellCalled left → WellCalled right →
      WellCalled (.binary op left right)
  | call {name : String} {args : List Expr} {builtin : Builtin} :
      Builtin.lookup? name = some builtin →
      List.Forall₂ ParamKind.Admits builtin.params args → (∀ arg ∈ args, WellCalled arg) →
      WellCalled (.call name args)

/-- What the table allows of a formula it allows of its parts. -/
theorem WellCalled.of_part {expr part : Expr} (h : WellCalled expr) (hpart : part ∈ expr.parts) :
    WellCalled part := by
  induction h with
  | literal value =>
    obtain rfl := Expr.mem_parts_literal.1 hpart
    exact .literal value
  | identifier path =>
    obtain rfl := Expr.mem_parts_identifier.1 hpart
    exact .identifier path
  | neg hoperand ih =>
    rcases Expr.mem_parts_neg.1 hpart with rfl | hpart
    · exact .neg hoperand
    · exact ih hpart
  | binary op hl hr ihl ihr =>
    rcases Expr.mem_parts_binary.1 hpart with rfl | hpart | hpart
    · exact .binary op hl hr
    · exact ihl hpart
    · exact ihr hpart
  | call hlookup hadmits hargs ih =>
    rcases Expr.mem_parts_call.1 hpart with rfl | ⟨arg, harg, hpart⟩
    · exact .call hlookup hadmits hargs
    · exact ih arg harg hpart

namespace ParamKind

theorem admits_literal {kind : ParamKind} {value : Literal} :
    kind.Admits (.literal value) ↔ kind.accepts (.ofLiteral value) = true := by
  constructor
  · intro h
    exact h value rfl
  · intro h other heq
    rw [← Expr.literal.inj heq]
    exact h

theorem admits_of_ne {kind : ParamKind} {arg : Expr} (h : ∀ value, arg ≠ .literal value) :
    kind.Admits arg :=
  fun value heq => absurd heq (h value)

end ParamKind

open ParamKind (admits_literal admits_of_ne)

/-! ## The evaluator's check -/

namespace Node

theorem checkLiterals_eq_ok_iff {entry : FunctionEntry} {kinds : List ParamKind}
    {args : List Expr} {position : Nat} (hlength : args.length = kinds.length)
    (hkinds : ∀ i, entry.paramKind (position + i) = kinds.getD i .any) :
    checkLiterals entry position args = .ok () ↔ List.Forall₂ ParamKind.Admits kinds args := by
  induction kinds generalizing args position with
  | nil =>
    obtain rfl := List.length_eq_zero_iff.1 hlength
    simp [checkLiterals]
  | cons kind kinds ih =>
    cases args with
    | nil => simp at hlength
    | cons arg args =>
      have hfirst : entry.paramKind position = kind := hkinds 0
      have hrest := @ih args (position + 1) (by simpa using hlength) fun i => by
        rw [Nat.add_assoc, Nat.add_comm 1 i]
        exact hkinds (i + 1)
      rw [List.forall₂_cons, ← hrest]
      cases arg with
      | literal value =>
        rw [checkLiterals, hfirst, admits_literal]
        by_cases haccepts : kind.accepts (.ofLiteral value) = true
        · simp [haccepts]
        · simp [haccepts]
      | _ => simp [checkLiterals, admits_of_ne]

end Node

section Binding

variable (surroundings : Surroundings)

/-- The one function that does not evaluate all its arguments takes three. -/
theorem length_params_of_conditional {builtin : Builtin} (hbuiltin : builtin ∈ Builtin.all)
    (haction : builtin.action = .conditional) : builtin.params.length = 3 := by
  have hall : ∀ b ∈ Builtin.all, b.action = .conditional → b.params.length = 3 := by
    simp [Builtin.all]
  exact hall builtin hbuiltin haction

/-- The table's entry of a function can be given any arguments that are as many as it takes. -/
theorem ofCall_toEntry {builtin : Builtin} (hbuiltin : builtin ∈ Builtin.all) {nodes : List Node}
    (hlength : nodes.length = builtin.params.length) :
    ∃ node, Node.ofCall (builtin.toEntry surroundings) nodes = .ok node := by
  unfold Node.ofCall Builtin.toEntry
  cases haction : builtin.action with
  | eager function => exact ⟨_, rfl⟩
  | conditional =>
    -- the table keeps a conditional from being short of branches
    rw [length_params_of_conditional hbuiltin haction] at hlength
    obtain ⟨condition, thenNode, elseNode, rfl⟩ := List.length_eq_three.1 hlength
    exact ⟨_, rfl⟩

theorem bindAll_of_forall {registry : Registry} {args : List Expr}
    (h : ∀ arg ∈ args, ∃ node, Node.bind registry arg = .ok node) :
    ∃ nodes, Node.bindAll registry args = .ok nodes := by
  induction args with
  | nil => exact ⟨[], rfl⟩
  | cons arg args ih =>
    obtain ⟨node, hnode⟩ := h arg (by simp)
    obtain ⟨nodes, hnodes⟩ := ih fun a ha => h a (List.mem_cons_of_mem _ ha)
    exact ⟨node :: nodes, by simp only [Node.bindAll, hnode, hnodes]⟩

/-- A call is bound exactly if the table allows it and its arguments are bound. -/
theorem bind_call_standard {name : String} {args : List Expr} :
    (∃ node, Node.bind (.standard surroundings) (.call name args) = .ok node) ↔
      ∃ builtin, Builtin.lookup? name = some builtin ∧
        List.Forall₂ ParamKind.Admits builtin.params args ∧
        ∀ arg ∈ args, ∃ node, Node.bind (.standard surroundings) arg = .ok node := by
  simp only [Expr.bind_call_eq_ok_iff, Registry.lookup?_standard, Option.map_eq_some_iff]
  constructor
  · rintro ⟨node, entry, nodes, ⟨builtin, hlookup, rfl⟩, harity, hcheck, hargs, -⟩
    have hlength : args.length = builtin.params.length := (beq_iff_eq.1 harity).symm
    refine ⟨builtin, hlookup,
      (Node.checkLiterals_eq_ok_iff hlength fun i => by rw [Nat.zero_add]; rfl).1 hcheck, ?_⟩
    intro arg harg
    have hall := Expr.bindAll_eq_ok hargs
    obtain ⟨i, hi, rfl⟩ := List.getElem_of_mem harg
    exact ⟨_, hall.get hi (hall.length_eq ▸ hi)⟩
  · rintro ⟨builtin, hlookup, hadmits, hargs⟩
    have hlength := hadmits.length_eq.symm
    obtain ⟨nodes, hnodes⟩ := bindAll_of_forall hargs
    have hcount : nodes.length = builtin.params.length :=
      (Expr.bindAll_eq_ok hnodes).length_eq.symm.trans hlength
    obtain ⟨node, hnode⟩ :=
      ofCall_toEntry surroundings (List.mem_of_find?_eq_some hlookup) hcount
    exact ⟨node, _, nodes, ⟨builtin, hlookup, rfl⟩, beq_iff_eq.2 hlength.symm,
      (Node.checkLiterals_eq_ok_iff hlength fun i => by rw [Nat.zero_add]; rfl).2 hadmits,
      hnodes, hnode⟩

/-- A formula is bound to the functions of the language exactly if the table allows its calls. -/
theorem bind_eq_ok_iff {expr : Expr} :
    (∃ node, Node.bind (.standard surroundings) expr = .ok node) ↔ WellCalled expr := by
  constructor
  · intro h
    induction expr using Expr.induct with
    | literal value => exact .literal value
    | identifier path => exact .identifier path
    | neg operand ih =>
      obtain ⟨node, hnode⟩ := h
      cases hoperand : Node.bind (.standard surroundings) operand with
      | error e => simp [Node.bind, hoperand] at hnode
      | ok n => exact .neg (ih ⟨n, hoperand⟩)
    | binary op left right ihl ihr =>
      obtain ⟨node, hnode⟩ := h
      obtain ⟨l, r, hl, hr, -⟩ := Expr.bind_binary hnode
      exact .binary op (ihl ⟨l, hl⟩) (ihr ⟨r, hr⟩)
    | call name args ih =>
      obtain ⟨builtin, hlookup, hadmits, hargs⟩ := (bind_call_standard surroundings).1 h
      exact .call hlookup hadmits fun arg harg => ih arg harg (hargs arg harg)
  · intro h
    induction h with
    | literal value => exact ⟨_, rfl⟩
    | identifier path => exact ⟨_, rfl⟩
    | neg _ ih =>
      obtain ⟨node, hnode⟩ := ih
      exact ⟨.neg node, by simp only [Node.bind, hnode]⟩
    | binary op _ _ ihl ihr =>
      obtain ⟨l, hl⟩ := ihl
      obtain ⟨r, hr⟩ := ihr
      exact ⟨.binary op l r, by simp only [Node.bind, hl, hr]⟩
    | call hlookup hadmits _ ih =>
      exact (bind_call_standard surroundings).2 ⟨_, hlookup, hadmits, ih⟩

end Binding

/-! ## The database's check -/

namespace Sql

theorem checkLiterals_eq_ok_iff {function : String} {kinds : List ParamKind} {args : List Expr}
    {position : Nat} (hlength : args.length = kinds.length) :
    checkLiterals function position kinds args = .ok () ↔
      List.Forall₂ ParamKind.Admits kinds args := by
  induction kinds generalizing args position with
  | nil =>
    obtain rfl := List.length_eq_zero_iff.1 hlength
    simp [checkLiterals]
  | cons kind kinds ih =>
    cases args with
    | nil => simp at hlength
    | cons arg args =>
      have hrest := @ih args (position + 1) (by simpa using hlength)
      rw [List.forall₂_cons, ← hrest]
      cases arg with
      | literal value =>
        rw [checkLiterals, admits_literal]
        by_cases haccepts : kind.accepts (.ofLiteral value) = true
        · simp [haccepts]
        · simp [haccepts]
      | _ => simp [checkLiterals, admits_of_ne]

theorem checkCall_eq_ok_iff {builtin : Builtin} {args : List Expr} :
    checkCall builtin args = .ok () ↔ List.Forall₂ ParamKind.Admits builtin.params args := by
  constructor
  · intro h
    have hlength := length_of_checkCall h
    rw [checkCall, if_pos hlength] at h
    exact (checkLiterals_eq_ok_iff hlength).1 h
  · intro h
    have hlength := h.length_eq.symm
    rw [checkCall, if_pos hlength]
    exact (checkLiterals_eq_ok_iff hlength).2 h

variable {columns : Columns}

/-- What the database accepts has only calls that the table allows. -/
theorem wellCalled_of_clause {expr : Expr} {c : Clause} (h : clause columns expr = .ok c) :
    WellCalled expr := by
  induction expr using Expr.induct generalizing c with
  | literal value => exact .literal value
  | identifier path => exact .identifier path
  | neg operand ih =>
    obtain ⟨-, -, d, hd, -⟩ := clause_neg h
    exact .neg (ih hd)
  | binary op left right ihl ihr =>
    rcases clause_binary h with ⟨isNull, d, -, hoperand, -⟩ | ⟨-, -, l, r, hl, hr, -⟩
    · rcases hoperand with ⟨hnull, hd⟩ | ⟨hnull, -, hd⟩
      · obtain rfl := eq_null_of_isNullLiteral hnull
        exact .binary op (ihl hd) (.literal .null)
      · obtain rfl := eq_null_of_isNullLiteral hnull
        exact .binary op (.literal .null) (ihr hd)
    · exact .binary op (ihl hl) (ihr hr)
  | call name args ih =>
    obtain ⟨builtin, mapping, hlookup, -, -, hcheck, hcall⟩ := clause_call h
    refine .call hlookup (checkCall_eq_ok_iff.1 hcheck) fun arg harg => ?_
    rcases hcall.literal_or_clause harg with ⟨value, rfl⟩ | ⟨d, hd⟩
    · exact .literal value
    · exact ih arg harg hd

/-! ## What the database may still refuse -/

/-- Errors of the database that are no misuse of a function.  Columns are refused only if some
are given. -/
inductive Refusal (columns : Columns) : CompileError → Prop
  | passwords : Refusal columns (.unsupportedFunction "BCRYPT")
  | literalRequired (function : String) (position : Nat) :
      Refusal columns (.literalRequired function position)
  | nullOperand (op : String) : Refusal columns (.nullOperand op)
  | nonNumericOperand (op operand : String) : Refusal columns (.nonNumericOperand op operand)
  | columnNotAllowed {column : String} : columns ≠ none → columns.allow column = false →
      Refusal columns (.columnNotAllowed column)

/-- The formula has a clause, or is refused for no misuse. -/
def OnlyRefused (columns : Columns) (expr : Expr) : Prop :=
  ∀ e, clause columns expr = .error e → Refusal columns e

theorem upper_of_unsupported {name : String} {builtin : Builtin}
    (hlookup : Builtin.lookup? name = some builtin) (hsql : builtin.sql = none) :
    Text.upper name = "BCRYPT" := by
  have hall : Builtin.all.all (fun b => b.sql.isSome || b.name == "BCRYPT") = true := by
    decide +kernel
  have hname := List.all_eq_true.1 hall builtin (List.mem_of_find?_eq_some hlookup)
  rw [hsql] at hname
  rw [← Builtin.name_of_lookup? hlookup]
  exact beq_iff_eq.1 hname

/-- A part that the table allows is refused, if it is at fault, for no misuse. -/
theorem refusal_of_fault {part : Expr} {e : CompileError} (h : WellCalled part)
    (hfault : Fault columns part e) : Refusal columns e := by
  cases hfault with
  | column hallow =>
    refine .columnNotAllowed ?_ hallow
    rintro rfl
    cases hallow
  | negNull => exact .nullOperand _
  | nullOperand _ _ => exact .nullOperand _
  | nonNumeric _ _ => exact .nonNumericOperand _ _
  | unsupported hnone =>
    cases h with
    | call hlookup _ _ =>
      rw [hlookup] at hnone
      rw [upper_of_unsupported hlookup hnone]
      exact .passwords
  | misused hfound hcheck =>
    cases h with
    | call hlookup hadmits _ =>
      obtain rfl := Option.some.inj (hfound.symm.trans hlookup)
      rw [checkCall_eq_ok_iff.2 hadmits] at hcheck
      cases hcheck
  | textRequired _ _ => exact .literalRequired _ _

/-- Of a formula that the table allows the database refuses no call as misused. -/
theorem refusal_of_wellCalled {expr : Expr} (h : WellCalled expr) : OnlyRefused columns expr := by
  intro e he
  obtain ⟨part, hpart, hfault⟩ := fault_of_clause he
  exact refusal_of_fault (h.of_part hpart) hfault

/-! ## The verdicts on a text -/

/-- A function is called with a wrong number of arguments or with a literal of a wrong kind. -/
def CompileError.IsMisuse (e : CompileError) : Prop :=
  (∃ function expected actual, e = .arity function expected actual) ∨
    ∃ function position expected actual, e = .argumentType function position expected actual

theorem not_isMisuse_of_refusal {e : CompileError} (h : Refusal columns e) : ¬ e.IsMisuse := by
  cases h <;> simp [CompileError.IsMisuse]

/-- What the evaluator says of a text: it cannot be read, its formula has a call that the table
does not allow, or it passes. -/
theorem validate_new (surroundings : Surroundings) (text : String) :
    (∃ e, parse text = .error e ∧
      ((Engine.new surroundings).validate text).1 = .error (.parse e)) ∨
    ∃ expr, parse text = .ok expr ∧
      (WellCalled expr ∧ ((Engine.new surroundings).validate text).1 = .ok () ∨
        ¬ WellCalled expr ∧ ∃ source,
          ((Engine.new surroundings).validate text).1 = .error (.bind source)) := by
  have hvalidate : ((Engine.new surroundings).validate text).1 =
      (Engine.compile (.standard surroundings) text).map fun _ => () := by
    rw [← program_new]
    rfl
  rw [hvalidate]
  unfold Engine.compile Program.compile
  cases parse text with
  | error e => exact .inl ⟨e, rfl, rfl⟩
  | ok expr =>
    refine .inr ⟨expr, rfl, ?_⟩
    rw [← bind_eq_ok_iff surroundings]
    cases hbind : Node.bind (.standard surroundings) expr with
    | error source => exact .inr ⟨by simp, source, by simp only [hbind, Except.map]⟩
    | ok node => exact .inl ⟨⟨node, rfl⟩, by simp only [hbind, Except.map]⟩

/-- What the database says of a text that can be read. -/
theorem compile_of_parse {text : String} {expr : Expr} (h : parse text = .ok expr) :
    compile columns text = match clause columns expr with
      | .error e => .error (.compile e)
      | .ok c => .ok c.predicate := by
  simp only [compile, h, compileExpr_eq]
  cases clause columns expr with
  | error e => rfl
  | ok c => rfl

/-- The two verdicts on a text together. -/
theorem verdicts (surroundings : Surroundings) (columns : Columns) (text : String) :
    (∃ e, ((Engine.new surroundings).validate text).1 = .error (.parse e) ∧
      compile columns text = .error (.parse e)) ∨
    (((Engine.new surroundings).validate text).1 = .ok () ∧
      ((∃ p, compile columns text = .ok p) ∨
        ∃ e, compile columns text = .error (.compile e) ∧ Refusal columns e)) ∨
    ∃ source e, ((Engine.new surroundings).validate text).1 = .error (.bind source) ∧
      compile columns text = .error (.compile e) := by
  rcases validate_new surroundings text with ⟨e, hparse, hchecked⟩ | ⟨expr, hparse, hverdict⟩
  · exact .inl ⟨e, hchecked, by simp only [compile, hparse]⟩
  · right
    rw [compile_of_parse hparse]
    rcases hverdict with ⟨hcalled, hchecked⟩ | ⟨hcalled, source, hchecked⟩
    · refine .inl ⟨hchecked, ?_⟩
      cases hclause : clause columns expr with
      | ok c => exact .inl ⟨c.predicate, rfl⟩
      | error e => exact .inr ⟨e, rfl, refusal_of_wellCalled hcalled e hclause⟩
    · cases hclause : clause columns expr with
      | ok c => exact absurd (wellCalled_of_clause hclause) hcalled
      | error e => exact .inr ⟨source, e, hchecked, rfl⟩

/-- **Evaluator and database accept the same calls.**  A text that one cannot read the other
cannot read either; what the database accepts the evaluator accepts; a function that the
database finds misused the evaluator refuses; and what only the database refuses is a password
hash, a text that is not a literal, an operator at a null or at what is no number, or a column
that is not among those given. -/
theorem validate_compile_agree (surroundings : Surroundings) (columns : Columns)
    (text : String) :
    let checked := ((Engine.new surroundings).validate text).1
    let written := compile columns text
    (∀ e, checked = .error (.parse e) ↔ written = .error (.parse e)) ∧
    (∀ p, written = .ok p → checked = .ok ()) ∧
    (∀ e, written = .error (.compile e) → e.IsMisuse → ∃ source, checked = .error (.bind source)) ∧
    ∀ e, checked = .ok () → written = .error e → ∃ source, e = .compile source ∧
      Refusal columns source := by
  rcases verdicts surroundings columns text with
    ⟨e, hchecked, hwritten⟩ | ⟨hchecked, ⟨p, hwritten⟩ | ⟨e, hwritten, hrefusal⟩⟩ |
      ⟨source, e, hchecked, hwritten⟩
  · simp [hchecked, hwritten]
  · simp [hchecked, hwritten]
  · simp [hchecked, hwritten, hrefusal, not_isMisuse_of_refusal hrefusal]
  · simp [hchecked, hwritten]

/-- A filter that both accept, one that both refuse, and one that only the database refuses. -/
theorem validate_compile_agree_filters :
    let surroundings : Surroundings := ⟨"2024-05-17", "2024-05-17 12:00:00", id⟩
    let checked (text : String) := ((Engine.new surroundings).validate text).1
    let misused : CompileError := .arity "ROUND" 2 1
    let passwords : CompileError := .unsupportedFunction "BCRYPT"
    (∃ p, compile none "ROUND(price, 2) > 5" = .ok p ∧ checked "ROUND(price, 2) > 5" = .ok ()) ∧
    (compile none "name == null || ROUND(price) > 5" = .error (.compile misused) ∧
      ∃ source, checked "name == null || ROUND(price) > 5" = .error (.bind source)) ∧
    compile none "BCRYPT(name) == 'x'" = .error (.compile passwords) ∧
      checked "BCRYPT(name) == 'x'" = .ok () ∧ Refusal none passwords := by
  intro surroundings checked misused passwords
  refine ⟨?_, ?_, ?_⟩
  · obtain ⟨-, haccepted, -⟩ := validate_compile_agree surroundings none "ROUND(price, 2) > 5"
    have hwritten : compile none "ROUND(price, 2) > 5" =
        .ok ⟨"((FLOOR(price * POW(10, ?) + 0.5) / POW(10, ?)) > ?)", [.int 2, .int 2, .int 5]⟩ := by
      decide +kernel
    exact ⟨_, hwritten, haccepted _ hwritten⟩
  · obtain ⟨-, -, hmisuse, -⟩ :=
      validate_compile_agree surroundings none "name == null || ROUND(price) > 5"
    have hwritten : compile none "name == null || ROUND(price) > 5" =
        .error (.compile misused) := by decide +kernel
    exact ⟨hwritten, hmisuse misused hwritten (.inl ⟨"ROUND", 2, 1, rfl⟩)⟩
  · obtain ⟨-, -, -, hrefused⟩ := validate_compile_agree surroundings none "BCRYPT(name) == 'x'"
    have hwritten : compile none "BCRYPT(name) == 'x'" = .error (.compile passwords) := by
      decide +kernel
    have hchecked : checked "BCRYPT(name) == 'x'" = .ok () := by decide +kernel
    obtain ⟨source, hsource, hrefusal⟩ := hrefused _ hchecked hwritten
    rw [← Error.compile.inj hsource] at hrefusal
    exact ⟨hwritten, hchecked, hrefusal⟩

end Sql

end Formulary
