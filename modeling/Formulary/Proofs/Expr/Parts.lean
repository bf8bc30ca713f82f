import Formulary.Expr.Basic

/-!
# The parts of a formula

Every formula that occurs in a formula, at any depth and under any operator or function.

* `Expr.parts` — the parts, the whole formula first;
* `Expr.columns` — the dotted names of the identifiers among them;
* `mem_parts_binary`, `mem_parts_call`, … — what a part is, for every kind of formula;
* `mem_functionNames`, `nodup_functionNames` — the names of the functions among them, each once.
-/

namespace Formulary.Expr

/-! ## Parts -/

mutual

/-- The formulas that occur in a formula, itself first. -/
def parts : Expr → List Expr
  | .literal value => [.literal value]
  | .identifier path => [.identifier path]
  | .neg operand => .neg operand :: parts operand
  | .binary op left right => .binary op left right :: (parts left ++ parts right)
  | .call name args => .call name args :: partsAll args

/-- The formulas that occur in some formulas. -/
def partsAll : List Expr → List Expr
  | [] => []
  | expr :: rest => parts expr ++ partsAll rest

end

attribute [local simp] parts partsAll

theorem partsAll_eq_flatMap (args : List Expr) : partsAll args = args.flatMap parts := by
  induction args with
  | nil => rfl
  | cons arg args ih => rw [partsAll, ih, List.flatMap_cons]

variable {part : Expr}

@[simp]
theorem mem_parts_literal {value : Literal} :
    part ∈ (Expr.literal value).parts ↔ part = .literal value := by
  simp

@[simp]
theorem mem_parts_identifier {path : Path} :
    part ∈ (Expr.identifier path).parts ↔ part = .identifier path := by
  simp

@[simp]
theorem mem_parts_neg {operand : Expr} :
    part ∈ (Expr.neg operand).parts ↔ part = .neg operand ∨ part ∈ operand.parts := by
  simp

@[simp]
theorem mem_parts_binary {op : BinaryOp} {left right : Expr} :
    part ∈ (Expr.binary op left right).parts ↔
      part = .binary op left right ∨ part ∈ left.parts ∨ part ∈ right.parts := by
  simp

@[simp]
theorem mem_parts_call {name : String} {args : List Expr} :
    part ∈ (Expr.call name args).parts ↔
      part = .call name args ∨ ∃ arg ∈ args, part ∈ arg.parts := by
  simp [partsAll_eq_flatMap]

/-- A formula is a part of itself. -/
theorem self_mem_parts (expr : Expr) : expr ∈ expr.parts := by
  cases expr with
  | literal value => simp
  | identifier path => simp
  | neg operand => simp
  | binary op left right => simp
  | call name args => simp

/-! ## Columns -/

/-- The dotted name of an identifier. -/
def column? : Expr → Option String
  | .identifier path => some path.text
  | _ => none

/-- The dotted names of the identifiers of a formula. -/
def columns (expr : Expr) : List String :=
  expr.parts.filterMap column?

@[simp]
theorem columns_literal (value : Literal) : (Expr.literal value).columns = [] := rfl

@[simp]
theorem columns_identifier (path : Path) : (Expr.identifier path).columns = [path.text] := rfl

@[simp]
theorem columns_neg (operand : Expr) : (Expr.neg operand).columns = operand.columns := rfl

@[simp]
theorem columns_binary (op : BinaryOp) (left right : Expr) :
    (Expr.binary op left right).columns = left.columns ++ right.columns := by
  rw [columns, parts, List.filterMap_cons_none rfl, List.filterMap_append]
  rfl

@[simp]
theorem columns_call (name : String) (args : List Expr) :
    (Expr.call name args).columns = args.flatMap columns := by
  rw [columns, parts, List.filterMap_cons_none rfl, partsAll_eq_flatMap, List.filterMap_flatMap]
  rfl

/-! ## Functions -/

/-- A formula calls a function under a name in upper case. -/
def Calls (expr : Expr) (n : String) : Prop :=
  ∃ name args, .call name args ∈ expr.parts ∧ Text.upper name = n

variable {n : String} {names : List String}

theorem not_calls_literal {value : Literal} : ¬ (Expr.literal value).Calls n := by
  simp [Calls]

theorem not_calls_identifier {path : Path} : ¬ (Expr.identifier path).Calls n := by
  simp [Calls]

theorem calls_neg {operand : Expr} : (Expr.neg operand).Calls n ↔ operand.Calls n := by
  simp [Calls]

theorem calls_binary {op : BinaryOp} {left right : Expr} :
    (Expr.binary op left right).Calls n ↔ left.Calls n ∨ right.Calls n := by
  simp [Calls, or_and_right, exists_or]

theorem calls_call {name : String} {args : List Expr} :
    (Expr.call name args).Calls n ↔ Text.upper name = n ∨ ∃ arg ∈ args, arg.Calls n := by
  constructor
  · rintro ⟨called, given, hpart, hname⟩
    rcases mem_parts_call.1 hpart with heq | ⟨arg, harg, hpart⟩
    · obtain ⟨rfl, -⟩ := Expr.call.inj heq
      exact .inl hname
    · exact .inr ⟨arg, harg, called, given, hpart, hname⟩
  · rintro (hname | ⟨arg, harg, called, given, hpart, hname⟩)
    · exact ⟨name, args, self_mem_parts _, hname⟩
    · exact ⟨called, given, mem_parts_call.2 (.inr ⟨arg, harg, hpart⟩), hname⟩

/-- Names are added for some formulas if they are added for each. -/
theorem mem_addFunctionNamesOf {args : List Expr}
    (h : ∀ arg ∈ args, ∀ names, n ∈ addFunctionNames names arg ↔ n ∈ names ∨ arg.Calls n) :
    n ∈ addFunctionNamesOf names args ↔ n ∈ names ∨ ∃ arg ∈ args, arg.Calls n := by
  induction args generalizing names with
  | nil => simp [addFunctionNamesOf]
  | cons arg args ih =>
    obtain ⟨harg, hargs⟩ := List.forall_mem_cons.1 h
    rw [addFunctionNamesOf, ih hargs, harg, or_assoc]
    simp only [List.mem_cons, exists_eq_or_imp]

theorem mem_addFunctionNames {expr : Expr} :
    n ∈ addFunctionNames names expr ↔ n ∈ names ∨ expr.Calls n := by
  induction expr using Expr.induct generalizing names with
  | literal value => simp [addFunctionNames, not_calls_literal]
  | identifier path => simp [addFunctionNames, not_calls_identifier]
  | neg operand ih => rw [addFunctionNames, ih, calls_neg]
  | binary op left right ihleft ihright =>
    rw [addFunctionNames, ihright, ihleft, calls_binary, or_assoc]
  | call name args ih =>
    have hname : n ∈ (if names.contains (Text.upper name) then names
        else names ++ [Text.upper name]) ↔ n ∈ names ∨ Text.upper name = n := by
      split
      · next hknown =>
        rw [List.contains_iff_mem] at hknown
        constructor
        · exact .inl
        · rintro (hn | rfl)
          · exact hn
          · exact hknown
      · simp [eq_comm]
    rw [addFunctionNames, mem_addFunctionNamesOf fun arg harg names => ih arg harg, hname,
      calls_call, or_assoc]

/-- The function names of a formula are the names in upper case of all functions it calls. -/
theorem mem_functionNames {expr : Expr} : n ∈ expr.functionNames ↔ expr.Calls n := by
  simp [functionNames, mem_addFunctionNames]

/-- Adding names for some formulas keeps each name once if adding them for each does. -/
theorem nodup_addFunctionNamesOf {args : List Expr}
    (h : ∀ arg ∈ args, ∀ names : List String, names.Nodup → (addFunctionNames names arg).Nodup)
    (hnames : names.Nodup) : (addFunctionNamesOf names args).Nodup := by
  induction args generalizing names with
  | nil => exact hnames
  | cons arg args ih =>
    obtain ⟨harg, hargs⟩ := List.forall_mem_cons.1 h
    exact ih hargs (harg names hnames)

theorem nodup_addFunctionNames {expr : Expr} (hnames : names.Nodup) :
    (addFunctionNames names expr).Nodup := by
  induction expr using Expr.induct generalizing names with
  | literal value => exact hnames
  | identifier path => exact hnames
  | neg operand ih => exact ih hnames
  | binary op left right ihleft ihright => exact ihright (ihleft hnames)
  | call name args ih =>
    have hname : (if names.contains (Text.upper name) then names
        else names ++ [Text.upper name]).Nodup := by
      split
      · exact hnames
      · next hnew =>
        rw [List.contains_iff_mem] at hnew
        refine List.nodup_append.2 ⟨hnames, List.pairwise_singleton _ _, ?_⟩
        intro known hknown other hother heq
        rw [heq, List.mem_singleton.1 hother] at hknown
        exact hnew hknown
    exact nodup_addFunctionNamesOf (fun arg harg names hnames => ih arg harg hnames) hname

/-- Each function name of a formula is there once. -/
theorem nodup_functionNames (expr : Expr) : expr.functionNames.Nodup :=
  nodup_addFunctionNames List.nodup_nil

/-- Names that differ in case only are one, and the first appearance counts. -/
example : (Expr.binary .add (.call "len" [.call "Trim" []]) (.call "LEN" [])).functionNames =
    ["LEN", "TRIM"] := by decide

end Formulary.Expr
