import Formulary.Proofs.Program.Steps
import Formulary.Sql.Compiler
import Mathlib.Data.List.Forall2

/-!
# Clauses: the database's own trees

Writing a predicate and finding out what it says are kept apart here.  A formula first
becomes a *clause*, the tree that the database reads, and a clause has a text and a list of
bound values that are put together from those of its parts.

* `clause` — the clause of a formula, or why there is none;
* `clause_neg_eq_bind`, `clause_binary_eq_bind` — the clauses of operators as steps in a row;
* `emit_follows` — writing a formula behind some bound values writes the text of its clause and
  adds the values of its clause to the end;
* `compile_eq_ok_iff` — the predicate of a text is that of the clause of its formula.
-/

namespace Formulary.Sql

/-! ## Clauses -/

/-- What the database reads. -/
inductive Clause where
  /-- A column. -/
  | column (name : String)
  /-- A question mark, and the value bound to it. -/
  | bound (value : Literal)
  | neg (operand : Clause)
  | binary (op : BinaryOp) (left right : Clause)
  /-- A test for null, or for anything but null. -/
  | nullTest (isNull : Bool) (operand : Clause)
  | like (subject : Clause) (pattern : String)
  /-- A function without arguments. -/
  | keyword (text : String)
  | call (function : String) (args : List Clause)
  | addDays (date days : Clause)
  | round (x places : Clause)

/-- The name of a test for null. -/
def nullText (isNull : Bool) : String :=
  if isNull then "IS NULL" else "IS NOT NULL"

namespace Clause

mutual

/-- The text of a clause. -/
def chars : Clause → List Char
  | .column name => name.toList
  | .bound _ => ['?']
  | .neg operand => negText (chars operand)
  | .binary op left right => binaryText op (chars left) (chars right)
  | .nullTest isNull operand => nullTestText (nullText isNull) (chars operand)
  | .like subject _ => likeText (chars subject) ['?']
  | .keyword text => text.toList
  | .call function args => callText function (charsAll args)
  | .addDays date days => addDaysText (chars date) (chars days)
  | .round x places => roundText (chars x) (chars places)

/-- The texts of some clauses. -/
def charsAll : List Clause → List (List Char)
  | [] => []
  | c :: rest => chars c :: charsAll rest

end

mutual

/-- The values bound in a clause, in the order of their question marks. -/
def params : Clause → List Literal
  | .column _ => []
  | .bound value => [value]
  | .neg operand => params operand
  | .binary _ left right => params left ++ params right
  | .nullTest _ operand => params operand
  | .like subject pattern => params subject ++ [.string pattern]
  | .keyword _ => []
  | .call _ args => paramsAll args
  | .addDays date days => params date ++ params days
  | .round x places => params x ++ params places ++ params places

/-- The values bound in some clauses. -/
def paramsAll : List Clause → List Literal
  | [] => []
  | c :: rest => params c ++ paramsAll rest

end

/-- The predicate of a clause. -/
def predicate (c : Clause) : Predicate :=
  ⟨String.ofList c.chars, c.params⟩

end Clause

/-! ## From formulas to clauses -/

/-- The test for null that a comparison with null stands for. -/
def isNullTest? : BinaryOp → Option Bool
  | .eq => some true
  | .ne => some false
  | _ => none

theorem nullTest?_eq (op : BinaryOp) : nullTest? op = (isNullTest? op).map nullText := by
  cases op <;> rfl

/-- The clauses of some formulas; the first error counts. -/
def clauseAll : List (Except CompileError Clause) → Except CompileError (List Clause)
  | [] => .ok []
  | .error e :: _ => .error e
  | .ok c :: rest => (clauseAll rest).map (c :: ·)

/-- The clause of a number of days. -/
def daysClause (days : Expr) (read : Except CompileError Clause) : Except CompileError Clause :=
  match days with
  | .literal value => .ok (.bound (daysValue value))
  | _ => read

/-- The clause of a call, whose arguments come with their clauses. -/
def callClause (function : String) : SqlMapping → List Expr →
    List (Except CompileError Clause) → Except CompileError Clause
  | .keyword text, _, _ => .ok (.keyword text)
  | .call name, _, args => (clauseAll args).map (.call name)
  | .addDays, [_, days], [date, count] =>
    match date with
    | .error e => .error e
    | .ok date => (daysClause days count).map (.addDays date)
  | .roundHalfUp, _, [x, places] =>
    match x with
    | .error e => .error e
    | .ok x => places.map (.round x)
  | .like pattern, [_, text], [subject, _] =>
    match text.stringLiteral? with
    | none => .error (.literalRequired function 2)
    | some text => subject.map (.like · (pattern.pattern text))
  | _, _, _ => .ok (.keyword "")

mutual

/-- The clause of a formula. -/
def clause (columns : Columns) : Expr → Except CompileError Clause
  | .literal value => .ok (.bound value)
  | .identifier path =>
    if columns.allow path.text then .ok (.column path.text)
    else .error (.columnNotAllowed path.text)
  | .neg operand =>
    if operand.isNullLiteral then
      .error (.nullOperand "-")
    else
      match checkNumeric "-" operand with
      | .error e => .error e
      | .ok () => (clause columns operand).map .neg
  | .binary op left right =>
    if left.isNullLiteral || right.isNullLiteral then
      match isNullTest? op with
      | none => .error (.nullOperand op.symbol)
      | some isNull =>
        (if right.isNullLiteral then clause columns left else clause columns right).map
          (.nullTest isNull)
    else
      match if op.isArithmetic then checkNumeric op.symbol left else .ok () with
      | .error e => .error e
      | .ok () =>
        match if op.isArithmetic then checkNumeric op.symbol right else .ok () with
        | .error e => .error e
        | .ok () =>
          match clause columns left with
          | .error e => .error e
          | .ok left => (clause columns right).map (.binary op left)
  | .call name args =>
    match Builtin.lookup? name with
    | none => .error (.unsupportedFunction (Text.upper name))
    | some builtin =>
      match builtin.sql with
      | none => .error (.unsupportedFunction (Text.upper name))
      | some mapping =>
        match checkCall builtin args with
        | .error e => .error e
        | .ok () => callClause builtin.name mapping args (clauses columns args)

/-- The clause of each of some formulas. -/
def clauses (columns : Columns) : List Expr → List (Except CompileError Clause)
  | [] => []
  | expr :: rest => clause columns expr :: clauses columns rest

end

-- Both readings of a formula follow its constructors, so their equations simplify.
attribute [local simp] Clause.chars Clause.charsAll Clause.params Clause.paramsAll clauseAll emitAll
  callClause emitCall clause clauses emit writers

theorem writers_eq_map (columns : Columns) (args : List Expr) :
    writers columns args = args.map (emit columns) := by
  induction args with
  | nil => rfl
  | cons arg args ih => rw [writers, ih, List.map_cons]

theorem clauses_eq_map (columns : Columns) (args : List Expr) :
    clauses columns args = args.map (clause columns) := by
  induction args with
  | nil => rfl
  | cons arg args ih => rw [clauses, ih, List.map_cons]

/-! ## Clauses as steps in a row -/

/-- The check of an operand of an operator: only arithmetic asks for numbers. -/
def checkOperand (op : BinaryOp) (operand : Expr) : Except CompileError Unit :=
  if op.isArithmetic then checkNumeric op.symbol operand else .ok ()

section Steps

variable {columns : Columns}

theorem clause_neg_eq_bind {operand : Expr} (h : operand.isNullLiteral ≠ true) :
    clause columns (.neg operand) =
      (checkNumeric "-" operand).bind fun _ => (clause columns operand).map .neg := by
  rw [clause, if_neg h]
  cases checkNumeric "-" operand <;> rfl

theorem clause_binary_eq_bind {op : BinaryOp} {left right : Expr}
    (h : (left.isNullLiteral || right.isNullLiteral) ≠ true) :
    clause columns (.binary op left right) =
      (checkOperand op left).bind fun _ => (checkOperand op right).bind fun _ =>
        (clause columns left).bind fun c => (clause columns right).map (.binary op c) := by
  rw [clause, if_neg h, ← checkOperand, ← checkOperand]
  cases checkOperand op left with
  | error e => rfl
  | ok _ =>
    cases checkOperand op right with
    | error e => rfl
    | ok _ => cases clause columns left <;> rfl

theorem callClause_addDays_eq_bind {function : String} {date days : Expr}
    {x y : Except CompileError Clause} :
    callClause function .addDays [date, days] [x, y] =
      x.bind fun c => (daysClause days y).map (.addDays c) := by
  cases x <;> rfl

theorem callClause_round_eq_bind {function : String} {args : List Expr}
    {x y : Except CompileError Clause} :
    callClause function .roundHalfUp args [x, y] = x.bind fun c => y.map (.round c) := by
  cases x <;> rfl

end Steps

/-! ## What a formula with a clause looks like -/

theorem ok_of_map {α β : Type} {f : α → β} {x : Except CompileError α} {b : β}
    (h : x.map f = .ok b) : ∃ a, x = .ok a ∧ b = f a := by
  cases x with
  | error e => cases h
  | ok a => exact ⟨a, rfl, (Except.ok.inj h).symm⟩

theorem error_of_map {α β : Type} {f : α → β} {x : Except CompileError α} {e : CompileError}
    (h : x.map f = .error e) : x = .error e := by
  cases x with
  | error e' => exact congrArg Except.error (Except.error.inj h)
  | ok a => cases h

/-- Literal days are bound as a number; other days have their own clause. -/
theorem daysClause_cases {days : Expr} {read : Except CompileError Clause} {d : Clause}
    (h : daysClause days read = .ok d) :
    (∃ value, days = .literal value ∧ d = .bound (daysValue value)) ∨ read = .ok d := by
  cases days with
  | literal value => exact .inl ⟨value, rfl, (Except.ok.inj h).symm⟩
  | _ => exact .inr h

theorem clauseAll_cons_eq_ok {first : Except CompileError Clause}
    {rest : List (Except CompileError Clause)} {cs : List Clause}
    (h : clauseAll (first :: rest) = .ok cs) :
    ∃ c more, first = .ok c ∧ clauseAll rest = .ok more ∧ cs = c :: more := by
  cases first with
  | error e => cases h
  | ok c =>
    obtain ⟨more, hmore, rfl⟩ := ok_of_map h
    exact ⟨c, more, rfl, hmore, rfl⟩

/-- The clauses of some formulas are one for each, in their order. -/
theorem clauseAll_eq_ok {columns : Columns} {args : List Expr} {cs : List Clause}
    (h : clauseAll (args.map (clause columns)) = .ok cs) :
    List.Forall₂ (fun arg c => clause columns arg = .ok c) args cs := by
  induction args generalizing cs with
  | nil =>
    obtain rfl := Except.ok.inj h
    exact .nil
  | cons arg args ih =>
    obtain ⟨c, more, hc, hmore, rfl⟩ := clauseAll_cons_eq_ok h
    exact .cons hc (ih hmore)

/-- The written forms of the functions of the language, and how many arguments they take. -/
def mappings : List (SqlMapping × Nat) :=
  [(.keyword "CURDATE()", 0), (.keyword "NOW()", 0), (.addDays, 2), (.call "CHAR_LENGTH", 1),
    (.call "UPPER", 1), (.call "LOWER", 1), (.like .contains, 2), (.like .startsWith, 2),
    (.like .endsWith, 2), (.roundHalfUp, 2), (.call "IF", 3)]

theorem mem_mappings {name : String} {builtin : Builtin} {mapping : SqlMapping}
    (h : Builtin.lookup? name = some builtin) (hsql : builtin.sql = some mapping) :
    (mapping, builtin.params.length) ∈ mappings := by
  have hall : builtin ∈ Builtin.all := List.mem_of_find?_eq_some h
  have hmapping : (mapping, builtin.params.length) ∈
      Builtin.all.filterMap fun b => b.sql.map (·, b.params.length) :=
    List.mem_filterMap.2 ⟨builtin, hall, by rw [hsql]; rfl⟩
  exact hmapping

/-- The clauses of a call, one case for each way in which the database writes a function. -/
inductive CallClause (columns : Columns) : SqlMapping → List Expr → Clause → Prop
  | keyword (text : String) : CallClause columns (.keyword text) [] (.keyword text)
  | call {function : String} {args : List Expr} {cs : List Clause} :
      clauseAll (args.map (clause columns)) = .ok cs →
      CallClause columns (.call function) args (.call function cs)
  | addDays {date days : Expr} {c d : Clause} : clause columns date = .ok c →
      daysClause days (clause columns days) = .ok d →
      CallClause columns .addDays [date, days] (.addDays c d)
  | round {x places : Expr} {c d : Clause} : clause columns x = .ok c →
      clause columns places = .ok d → CallClause columns .roundHalfUp [x, places] (.round c d)
  | like (pattern : LikePattern) {subject : Expr} {text : String} {c : Clause} :
      clause columns subject = .ok c →
      CallClause columns (.like pattern) [subject, .literal (.string text)]
        (.like c (pattern.pattern text))

theorem stringLiteral?_eq_some {expr : Expr} {text : String}
    (h : expr.stringLiteral? = some text) : expr = .literal (.string text) := by
  unfold Expr.stringLiteral? at h
  split at h
  · rw [Option.some.inj h]
  · cases h

theorem eq_null_of_isNullLiteral {expr : Expr} (h : expr.isNullLiteral = true) :
    expr = .literal .null := by
  unfold Expr.isNullLiteral at h
  split at h
  · rfl
  · cases h

/-- What the database does not write of a call is literals. -/
theorem CallClause.literal_or_clause {columns : Columns} {mapping : SqlMapping}
    {args : List Expr} {c : Clause} (h : CallClause columns mapping args c) {arg : Expr}
    (harg : arg ∈ args) :
    (∃ value, arg = .literal value) ∨ ∃ d, clause columns arg = .ok d := by
  cases h with
  | keyword text => cases harg
  | call hcs =>
    have hall := clauseAll_eq_ok hcs
    obtain ⟨i, hi, rfl⟩ := List.getElem_of_mem harg
    exact .inr ⟨_, hall.get hi (hall.length_eq ▸ hi)⟩
  | addDays hdate hdays =>
    rcases List.mem_pair.1 harg with rfl | rfl
    · exact .inr ⟨_, hdate⟩
    · rcases daysClause_cases hdays with ⟨value, rfl, -⟩ | hdays
      · exact .inl ⟨value, rfl⟩
      · exact .inr ⟨_, hdays⟩
  | round hx hplaces =>
    rcases List.mem_pair.1 harg with rfl | rfl
    · exact .inr ⟨_, hx⟩
    · exact .inr ⟨_, hplaces⟩
  | like pattern hsubject =>
    rcases List.mem_pair.1 harg with rfl | rfl
    · exact .inr ⟨_, hsubject⟩
    · exact .inl ⟨_, rfl⟩

/-- The numbers of arguments in the table. -/
theorem arity_of_mem_mappings {mapping : SqlMapping} {arity : Nat}
    (h : (mapping, arity) ∈ mappings) :
    match mapping with
    | .keyword _ => arity = 0
    | .call _ => True
    | .addDays | .roundHalfUp | .like _ => arity = 2 := by
  simp only [mappings, List.mem_cons, Prod.mk.injEq, List.not_mem_nil, or_false] at h
  rcases h with h | h | h | h | h | h | h | h | h | h | h <;> obtain ⟨rfl, rfl⟩ := h <;> trivial

theorem callClause_eq_ok {columns : Columns} {function : String} {mapping : SqlMapping}
    {args : List Expr} {c : Clause} (hm : (mapping, args.length) ∈ mappings)
    (h : callClause function mapping args (args.map (clause columns)) = .ok c) :
    CallClause columns mapping args c := by
  have harity := arity_of_mem_mappings hm
  cases mapping with
  | keyword text =>
    obtain rfl := List.length_eq_zero_iff.1 harity
    obtain rfl := Except.ok.inj h
    exact .keyword text
  | call name =>
    obtain ⟨cs, hcs, rfl⟩ := ok_of_map h
    exact .call hcs
  | addDays =>
    obtain ⟨date, days, rfl⟩ := List.length_eq_two.1 harity
    simp only [List.map_cons, List.map_nil, callClause_addDays_eq_bind] at h
    obtain ⟨date, hdate, h⟩ := steps_eq_ok_iff.1 h
    obtain ⟨d, hd, rfl⟩ := ok_of_map h
    exact .addDays hdate hd
  | roundHalfUp =>
    obtain ⟨x, places, rfl⟩ := List.length_eq_two.1 harity
    simp only [List.map_cons, List.map_nil, callClause_round_eq_bind] at h
    obtain ⟨x, hx, h⟩ := steps_eq_ok_iff.1 h
    obtain ⟨d, hd, rfl⟩ := ok_of_map h
    exact .round hx hd
  | like pattern =>
    obtain ⟨subject, text, rfl⟩ := List.length_eq_two.1 harity
    simp only [List.map_cons, List.map_nil, callClause] at h
    cases htext : text.stringLiteral? with
    | none =>
      rw [htext] at h
      cases h
    | some s =>
      rw [htext] at h
      obtain rfl := stringLiteral?_eq_some htext
      obtain ⟨d, hd, rfl⟩ := ok_of_map h
      exact .like pattern hd

theorem length_of_checkCall {builtin : Builtin} {args : List Expr}
    (h : checkCall builtin args = .ok ()) : args.length = builtin.params.length := by
  unfold checkCall at h
  split at h
  · assumption
  · cases h

/-- A call has a clause only if the database knows its function and the arguments fit. -/
theorem clause_call {columns : Columns} {name : String} {args : List Expr} {c : Clause}
    (h : clause columns (.call name args) = .ok c) :
    ∃ builtin mapping, Builtin.lookup? name = some builtin ∧ builtin.sql = some mapping ∧
      (mapping, args.length) ∈ mappings ∧ checkCall builtin args = .ok () ∧
      CallClause columns mapping args c := by
  simp only [clause] at h
  cases hlookup : Builtin.lookup? name with
  | none => simp [hlookup] at h
  | some builtin =>
    simp only [hlookup] at h
    cases hsql : builtin.sql with
    | none => simp [hsql] at h
    | some mapping =>
      simp only [hsql] at h
      cases hcheck : checkCall builtin args with
      | error e => simp [hcheck] at h
      | ok _ =>
        simp only [hcheck, clauses_eq_map] at h
        have hm := mem_mappings hlookup hsql
        rw [← length_of_checkCall hcheck] at hm
        exact ⟨builtin, mapping, rfl, hsql, hm, hcheck, callClause_eq_ok hm h⟩

theorem mayBeNumeric_of_checkNumeric {op : String} {operand : Expr}
    (h : checkNumeric op operand = .ok ()) : mayBeNumeric operand = true := by
  unfold checkNumeric at h
  by_cases hnumeric : mayBeNumeric operand = true
  · exact hnumeric
  · rw [if_neg hnumeric] at h
    cases h

/-- A minus sign has a clause only before what may be a number. -/
theorem clause_neg {columns : Columns} {operand : Expr} {c : Clause}
    (h : clause columns (.neg operand) = .ok c) :
    operand.isNullLiteral = false ∧ mayBeNumeric operand = true ∧
      ∃ d, clause columns operand = .ok d ∧ c = .neg d := by
  by_cases hnull : operand.isNullLiteral = true
  · rw [clause, if_pos hnull] at h
    cases h
  · rw [clause_neg_eq_bind hnull] at h
    obtain ⟨_, hcheck, h⟩ := steps_eq_ok_iff.1 h
    obtain ⟨d, hd, rfl⟩ := ok_of_map h
    exact ⟨by simpa using hnull, mayBeNumeric_of_checkNumeric hcheck, d, hd, rfl⟩

/-- An operator has a clause as a test for null or as an operator of the database. -/
theorem clause_binary {columns : Columns} {op : BinaryOp} {left right : Expr} {c : Clause}
    (h : clause columns (.binary op left right) = .ok c) :
    (∃ isNull d, isNullTest? op = some isNull ∧
      (right.isNullLiteral = true ∧ clause columns left = .ok d ∨
        left.isNullLiteral = true ∧ right.isNullLiteral = false ∧ clause columns right = .ok d) ∧
      c = .nullTest isNull d) ∨
    (left.isNullLiteral = false ∧ right.isNullLiteral = false ∧
      ∃ l r, clause columns left = .ok l ∧ clause columns right = .ok r ∧
        c = .binary op l r) := by
  by_cases hnull : (left.isNullLiteral || right.isNullLiteral) = true
  · left
    rw [clause, if_pos hnull] at h
    cases htest : isNullTest? op with
    | none => simp [htest] at h
    | some isNull =>
      simp only [htest] at h
      obtain ⟨d, hd, rfl⟩ := ok_of_map h
      refine ⟨isNull, d, rfl, ?_, rfl⟩
      by_cases hright : right.isNullLiteral = true
      · rw [if_pos hright] at hd
        exact .inl ⟨hright, hd⟩
      · rw [if_neg hright] at hd
        have hleft : left.isNullLiteral = true := by simpa [hright] using hnull
        exact .inr ⟨hleft, by simpa using hright, hd⟩
  · right
    rw [clause_binary_eq_bind hnull] at h
    simp only [Bool.or_eq_true, not_or, Bool.not_eq_true] at hnull
    obtain ⟨_, -, h⟩ := steps_eq_ok_iff.1 h
    obtain ⟨_, -, h⟩ := steps_eq_ok_iff.1 h
    obtain ⟨l, hl, h⟩ := steps_eq_ok_iff.1 h
    obtain ⟨r, hr, rfl⟩ := ok_of_map h
    exact ⟨hnull.1, hnull.2, l, r, hl, hr, rfl⟩

/-! ## Writing is writing a clause -/

/-- A writer writes a clause: the text, and the values behind those that are bound already. -/
def Follows (writer : Writer) (read : Except CompileError Clause) : Prop :=
  ∀ params, writer params = read.map fun c => (c.chars, params ++ c.params)

theorem emitAll_eq {columns : Columns} {args : List Expr}
    (h : ∀ arg ∈ args, Follows (emit columns arg) (clause columns arg)) (params : List Literal) :
    emitAll (args.map (emit columns)) params =
      (clauseAll (args.map (clause columns))).map fun cs =>
        (Clause.charsAll cs, params ++ Clause.paramsAll cs) := by
  induction args generalizing params with
  | nil => simp [Except.map]
  | cons arg args ih =>
    have hrest := ih fun a ha => h a (List.mem_cons_of_mem _ ha)
    simp only [List.map_cons, emitAll, h arg (by simp) params]
    cases clause columns arg with
    | error e => simp only [clauseAll, Except.map]
    | ok c =>
      simp only [clauseAll, Except.map, hrest]
      cases clauseAll (args.map (clause columns)) with
      | error e => rfl
      | ok cs => simp

theorem emitDays_follows {writer : Writer} {read : Except CompileError Clause}
    (h : Follows writer read) (days : Expr) :
    Follows (emitDays days writer) (daysClause days read) := by
  intro params
  cases days with
  | literal value => rfl
  | _ => exact h params

/-! ### Calls -/

section Calls

variable {columns : Columns} (function : String)

theorem addDays_follows {date days : Expr}
    (hdate : Follows (emit columns date) (clause columns date))
    (hdays : Follows (emit columns days) (clause columns days)) :
    Follows (emitCall function .addDays [date, days] [emit columns date, emit columns days])
      (callClause function .addDays [date, days] [clause columns date, clause columns days]) := by
  intro params
  simp only [emitCall, callClause, hdate params]
  cases clause columns date with
  | error e => simp only [Except.map]
  | ok date =>
    simp only [Except.map, emitDays_follows hdays days _]
    cases daysClause days (clause columns days) with
    | error e => rfl
    | ok days => simp

theorem round_follows {x places : Expr} (hx : Follows (emit columns x) (clause columns x))
    (hplaces : Follows (emit columns places) (clause columns places)) :
    Follows (emitCall function .roundHalfUp [x, places] [emit columns x, emit columns places])
      (callClause function .roundHalfUp [x, places] [clause columns x, clause columns places]) := by
  intro params
  simp only [emitCall, callClause, hx params]
  cases clause columns x with
  | error e => simp only [Except.map]
  | ok x =>
    simp only [Except.map, hplaces _]
    cases clause columns places with
    | error e => rfl
    | ok places => simp

theorem like_follows (pattern : LikePattern) {subject : Expr}
    (hsubject : Follows (emit columns subject) (clause columns subject)) (text : Expr) :
    Follows
      (emitCall function (.like pattern) [subject, text] [emit columns subject, emit columns text])
      (callClause function (.like pattern) [subject, text]
        [clause columns subject, clause columns text]) := by
  intro params
  simp only [emitCall, callClause]
  cases text.stringLiteral? with
  | none => rfl
  | some text =>
    simp only [hsubject params]
    cases clause columns subject with
    | error e => simp only [Except.map]
    | ok subject => simp [Except.map, bind]

/-- A call without the two arguments that its written form has places for is nothing. -/
theorem follows_of_length_ne_two {mapping : SqlMapping} {args : List Expr}
    (hmapping : mapping = .addDays ∨ mapping = .roundHalfUp ∨ ∃ pattern, mapping = .like pattern)
    (hlength : args.length ≠ 2) :
    Follows (emitCall function mapping args (args.map (emit columns)))
      (callClause function mapping args (args.map (clause columns))) := by
  intro params
  match args, hlength with
  | [_, _], h => exact absurd rfl h
  | [], _ =>
    rcases hmapping with rfl | rfl | ⟨pattern, rfl⟩ <;>
      simp [Except.map]
  | [_], _ =>
    rcases hmapping with rfl | rfl | ⟨pattern, rfl⟩ <;>
      simp [Except.map]
  | _ :: _ :: _ :: _, _ =>
    rcases hmapping with rfl | rfl | ⟨pattern, rfl⟩ <;>
      simp [Except.map]

theorem emitCall_follows {args : List Expr}
    (h : ∀ arg ∈ args, Follows (emit columns arg) (clause columns arg)) (mapping : SqlMapping) :
    Follows (emitCall function mapping args (args.map (emit columns)))
      (callClause function mapping args (args.map (clause columns))) := by
  cases mapping with
  | keyword text =>
    intro params
    simp [Except.map]
  | call name =>
    intro params
    simp only [emitCall, callClause, emitAll_eq h params]
    cases clauseAll (args.map (clause columns)) with
    | error e => simp only [Except.map]
    | ok cs => simp only [Except.map, Clause.chars, Clause.params]
  | addDays =>
    by_cases hlength : args.length = 2
    · obtain ⟨date, days, rfl⟩ := List.length_eq_two.1 hlength
      exact addDays_follows function (h date (by simp)) (h days (by simp))
    · exact follows_of_length_ne_two function (.inl rfl) hlength
  | roundHalfUp =>
    by_cases hlength : args.length = 2
    · obtain ⟨x, places, rfl⟩ := List.length_eq_two.1 hlength
      exact round_follows function (h x (by simp)) (h places (by simp))
    · exact follows_of_length_ne_two function (.inr (.inl rfl)) hlength
  | like pattern =>
    by_cases hlength : args.length = 2
    · obtain ⟨subject, text, rfl⟩ := List.length_eq_two.1 hlength
      exact like_follows function pattern (h subject (by simp)) text
    · exact follows_of_length_ne_two function (.inr (.inr ⟨pattern, rfl⟩)) hlength

end Calls

/-- Writing a formula behind some bound values writes its clause. -/
theorem emit_follows (columns : Columns) (expr : Expr) :
    Follows (emit columns expr) (clause columns expr) := by
  induction expr using Expr.induct with
  | literal value =>
    intro params
    rfl
  | identifier path =>
    intro params
    simp only [emit, clause]
    split
    · simp [Except.map]
    · simp only [Except.map]
  | neg operand ih =>
    intro params
    simp only [emit, clause, ih params]
    by_cases hnull : operand.isNullLiteral = true
    · rw [if_pos hnull, if_pos hnull]
      rfl
    · rw [if_neg hnull, if_neg hnull]
      cases checkNumeric "-" operand with
      | error e => simp only [Except.map]
      | ok _ =>
        cases clause columns operand with
        | error e => simp only [Except.map]
        | ok c => simp only [Except.map, Clause.chars, Clause.params]
  | binary op left right ihl ihr =>
    intro params
    simp only [emit, clause, ihl params, nullTest?_eq]
    by_cases hnull : (left.isNullLiteral || right.isNullLiteral) = true
    · rw [if_pos hnull, if_pos hnull]
      cases isNullTest? op with
      | none => rfl
      | some isNull =>
        simp only [Option.map_some, ihr params]
        by_cases hright : right.isNullLiteral = true
        · simp only [if_pos hright]
          cases clause columns left with
          | error e => simp only [Except.map]
          | ok c => simp only [Except.map, Clause.chars, Clause.params]
        · simp only [if_neg hright]
          cases clause columns right with
          | error e => simp only [Except.map]
          | ok c => simp only [Except.map, Clause.chars, Clause.params]
    · rw [if_neg hnull, if_neg hnull]
      cases (if op.isArithmetic then checkNumeric op.symbol left else .ok ()) with
      | error e => simp only [Except.map]
      | ok _ =>
        cases (if op.isArithmetic then checkNumeric op.symbol right else .ok ()) with
        | error e => simp only [Except.map]
        | ok _ =>
          cases clause columns left with
          | error e => simp only [Except.map]
          | ok l =>
            simp only [Except.map, ihr _]
            cases clause columns right with
            | error e => rfl
            | ok r => simp
  | call name args ih =>
    intro params
    simp only [emit, clause]
    cases Builtin.lookup? name with
    | none => rfl
    | some builtin =>
      cases hsql : builtin.sql with
      | none => simp [hsql, Except.map]
      | some mapping =>
        simp only [hsql]
        cases checkCall builtin args with
        | error e => simp only [Except.map]
        | ok _ =>
          simp only [writers_eq_map, clauses_eq_map]
          exact emitCall_follows builtin.name ih mapping params

/-- The predicate of a formula is that of its clause. -/
theorem compileExpr_eq (columns : Columns) (expr : Expr) :
    compileExpr columns expr = (clause columns expr).map Clause.predicate := by
  rw [compileExpr, emit_follows columns expr []]
  cases clause columns expr with
  | error e => simp only [Except.map]
  | ok c => rfl

/-- A text is a predicate exactly if it writes a formula that has a clause. -/
theorem compile_eq_ok_iff {columns : Columns} {text : String} {p : Predicate} :
    compile columns text = .ok p ↔
      ∃ expr c, parse text = .ok expr ∧ clause columns expr = .ok c ∧ p = c.predicate := by
  constructor
  · intro h
    unfold compile at h
    cases hparse : parse text with
    | error e => simp [hparse] at h
    | ok expr =>
      simp only [hparse, compileExpr_eq] at h
      cases hclause : clause columns expr with
      | error e => simp [hclause, Except.map] at h
      | ok c =>
        simp only [hclause, Except.map, Except.ok.injEq] at h
        exact ⟨expr, c, rfl, hclause, h.symm⟩
  · rintro ⟨expr, c, hparse, hclause, rfl⟩
    simp only [compile, hparse, compileExpr_eq, hclause, Except.map]

end Formulary.Sql
