import Formulary.Expr.Basic
import Mathlib.Data.List.Forall2

/-!
# Spellings of function names

Formulas that differ only in the case of the letters A to Z in the names of their calls.

* `Expr.SameButCase` — two such formulas;
* `SameButCase.induct` — induction on them: of a call, what is to be shown may be used of each
  pair of arguments;
* `functionNames_eq` — the collected names are the same.
-/

namespace Formulary.Expr

/-- Two formulas are the same but for the case of the letters of function names.  Two names differ
only in that if they have the same form in upper case. -/
inductive SameButCase : Expr → Expr → Prop
  | literal (value : Literal) : SameButCase (.literal value) (.literal value)
  | identifier (path : Path) : SameButCase (.identifier path) (.identifier path)
  | neg {a b : Expr} : SameButCase a b → SameButCase (.neg a) (.neg b)
  | binary (op : BinaryOp) {a b c d : Expr} : SameButCase a b → SameButCase c d →
      SameButCase (.binary op a c) (.binary op b d)
  | call {name other : String} {args others : List Expr} : Text.upper name = Text.upper other →
      List.Forall₂ SameButCase args others → SameButCase (.call name args) (.call other others)

namespace SameButCase

/-- Induction on two formulas that are the same but for case.  The arguments of two calls come in
pairs, and each pair with what is to be shown of it. -/
@[elab_as_elim]
theorem induct {motive : (a b : Expr) → SameButCase a b → Prop}
    (literal : ∀ value, motive _ _ (.literal value))
    (identifier : ∀ path, motive _ _ (.identifier path))
    (neg : ∀ a b h, motive a b h → motive _ _ (.neg h))
    (binary : ∀ op a b c d hleft hright, motive a b hleft → motive c d hright →
      motive _ _ (.binary op hleft hright))
    (call : ∀ name other args others hname hargs,
      List.Forall₂ (fun a b => ∃ h : SameButCase a b, motive a b h) args others →
      motive (.call name args) (.call other others) (.call hname hargs))
    {a b : Expr} (h : SameButCase a b) : motive a b h := by
  refine SameButCase.rec (motive_1 := motive)
    (motive_2 := fun args others _ =>
      List.Forall₂ (fun a b => ∃ h : SameButCase a b, motive a b h) args others)
    literal identifier ?neg ?binary ?call .nil ?cons h
  case neg =>
    intro a b hoperand ih
    exact neg a b hoperand ih
  case binary =>
    intro op a b c d hleft hright ihleft ihright
    exact binary op a b c d hleft hright ihleft ihright
  case call =>
    intro name other args others hname hargs ih
    exact call name other args others hname hargs ih
  case cons =>
    intro a b args others hfirst hrest ihfirst ihrest
    exact .cons ⟨hfirst, ihfirst⟩ ihrest

@[refl]
theorem refl (expr : Expr) : SameButCase expr expr := by
  induction expr using Expr.induct with
  | literal value => exact .literal value
  | identifier path => exact .identifier path
  | neg operand ih => exact .neg ih
  | binary op left right ihleft ihright => exact .binary op ihleft ihright
  | call name args ih => exact .call rfl (List.forall₂_same.2 ih)

variable {a b : Expr} {args others : List Expr}

/-! ## Names -/

theorem addFunctionNamesOf_eq {names : List String}
    (h : List.Forall₂ (fun a b => ∀ names, addFunctionNames names a = addFunctionNames names b)
      args others) :
    addFunctionNamesOf names args = addFunctionNamesOf names others := by
  induction h generalizing names with
  | nil => rfl
  | cons hfirst hrest ih => rw [addFunctionNamesOf, addFunctionNamesOf, hfirst, ih]

theorem addFunctionNames_eq (h : SameButCase a b) (names : List String) :
    addFunctionNames names a = addFunctionNames names b := by
  induction h using SameButCase.induct generalizing names with
  | literal value => rfl
  | identifier path => rfl
  | neg a b _ ih => exact ih names
  | binary op a b c d _ _ ihleft ihright =>
    rw [addFunctionNames, addFunctionNames, ihleft, ihright]
  | call name other args others hname hargs ih =>
    have hrest := ih.imp fun _ _ harg => harg.2
    simp only [addFunctionNames, hname, addFunctionNamesOf_eq hrest]

/-- The names are collected in upper case, so they are the same. -/
theorem functionNames_eq (h : SameButCase a b) : a.functionNames = b.functionNames :=
  addFunctionNames_eq h []

/-! ## Literals -/

theorem isNullLiteral_eq (h : SameButCase a b) : a.isNullLiteral = b.isNullLiteral := by
  cases h <;> rfl

theorem stringLiteral?_eq (h : SameButCase a b) : a.stringLiteral? = b.stringLiteral? := by
  cases h <;> rfl

end SameButCase

end Formulary.Expr
