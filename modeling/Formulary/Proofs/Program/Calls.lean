import Formulary.Proofs.Function.Results
import Formulary.Proofs.Function.Standard
import Formulary.Proofs.Program.HasValue

/-!
# Calls of the functions of the language

A call that has a value is one of a function in the table, which gives the value for the values
of its arguments or chooses one of them.

* `HasValue.standard_call` — the two kinds of calls.
-/

namespace Formulary.Expr

variable {surroundings : Surroundings} {context : Context} {name : String} {args : List Expr}
  {v : Value}

/-- A function of the language gets the values of its arguments, or chooses one of them. -/
theorem HasValue.standard_call
    (h : (Expr.call name args).HasValue (.standard surroundings) context v) :
    ∃ builtin, Builtin.lookup? name = some builtin ∧
      ((∃ values, List.Forall₂ (Expr.HasValue (.standard surroundings) context) args values ∧
          builtin.Gives surroundings values v) ∨
        builtin.action = .conditional ∧ Chooses (.standard surroundings) context args v) := by
  obtain ⟨node, hbind, -⟩ := id h
  obtain ⟨entry, -, hentry, -⟩ := bind_call_eq_ok_iff.1 hbind
  have hstandard := hentry
  rw [Registry.lookup?_standard] at hstandard
  obtain ⟨builtin, hlookup, rfl⟩ := Option.map_eq_some_iff.1 hstandard
  refine ⟨builtin, hlookup, ?_⟩
  cases haction : builtin.action with
  | eager function =>
    have hnative : (builtin.toEntry surroundings).implementation =
        .native (function surroundings) := by
      simp [Builtin.toEntry, haction]
    obtain ⟨values, hvalues, hgives⟩ := h.call hentry hnative
    exact .inl ⟨values, hvalues, function, haction, hgives⟩
  | conditional =>
    have hconditional : (builtin.toEntry surroundings).implementation = .conditional := by
      simp [Builtin.toEntry, haction]
    exact .inr ⟨rfl, h.conditional hentry hconditional⟩

end Formulary.Expr
