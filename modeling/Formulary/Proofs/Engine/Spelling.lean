import Formulary.Proofs.Engine.Locality
import Formulary.Proofs.Sql.Spelling

/-!
# Function names in either case

Nothing that reads a formula sees how the names of its functions are spelled, but for the message
that quotes an operand.

* `bind_spelling` — a registry binds two spellings of a formula to one tree;
* `Faithful.evaluate_spelling`, `Faithful.validate_spelling` — an engine has one answer for both;
* `answers_of_sameButCase` — what follows for everything that is done with the two.
-/

namespace Formulary

open Formulary.Expr (SameButCase)

variable {a b : Expr} {args others : List Expr}

/-- A function is found under every spelling of its name. -/
theorem Registry.lookup?_congr {name other : String} (h : Text.upper name = Text.upper other)
    (registry : Registry) : registry.lookup? name = registry.lookup? other := by
  unfold lookup?
  rw [h]

/-! ## Trees -/

namespace Node

theorem checkLiterals_spelling {entry : FunctionEntry} {position : Nat}
    (h : List.Forall₂ SameButCase args others) :
    checkLiterals entry position args = checkLiterals entry position others := by
  induction h generalizing position with
  | nil => rfl
  | cons hfirst hrest ih => cases hfirst <;> simp only [checkLiterals, ih]

theorem bindAll_spelling {registry : Registry}
    (h : List.Forall₂ (fun a b => bind registry a = bind registry b) args others) :
    bindAll registry args = bindAll registry others := by
  induction h with
  | nil => rfl
  | cons hfirst hrest ih => rw [bindAll, bindAll, hfirst, ih]

/-- A bound call has the name that the registry gives the function, and an error that of the
function or the name in upper case. -/
theorem bind_spelling (registry : Registry) (h : SameButCase a b) :
    bind registry a = bind registry b := by
  induction h using SameButCase.induct with
  | literal value => rfl
  | identifier path => rfl
  | neg a b hoperand ih => rw [bind, bind, ih]
  | binary op a b c d hleft hright ihleft ihright => rw [bind, bind, ihleft, ihright]
  | call name other args others hname hargs ih =>
    have hlookup := registry.lookup?_congr hname
    have hnodes := bindAll_spelling (ih.imp fun _ _ harg => harg.2)
    simp only [bind, hlookup, hname, hargs.length_eq, checkLiterals_spelling hargs, hnodes]

end Node

theorem Program.functions_spelling (h : SameButCase a b) (source other : String)
    (registry : Registry) :
    (compile source a registry).map functions = (compile other b registry).map functions := by
  unfold compile
  rw [Node.bind_spelling registry h, h.functionNames_eq]
  cases Node.bind registry b with
  | error e => rfl
  | ok root => rfl

/-! ## Texts -/

section Texts

variable {text other : String} (ha : parse text = .ok a) (hb : parse other = .ok b)

include ha hb

namespace Engine

theorem Faithful.evaluate_spelling {engine : Engine} (hfaithful : Faithful engine)
    (h : SameButCase a b) (context : Context) :
    (engine.evaluate text context).1 = (engine.evaluate other context).1 := by
  have hbind := Node.bind_spelling engine.registry h
  rw [hfaithful.evaluate_eq, hfaithful.evaluate_eq, valueAnew_eq_eval, valueAnew_eq_eval, ha, hb]
  simp only [Except.mapError, Except.bind, hbind]

theorem Faithful.validate_spelling {engine : Engine} (hfaithful : Faithful engine)
    (h : SameButCase a b) : (engine.validate text).1 = (engine.validate other).1 := by
  have hbind := Node.bind_spelling engine.registry h
  obtain ⟨hprogram, -⟩ := program_spec hfaithful text
  obtain ⟨hprogram', -⟩ := program_spec hfaithful other
  simp only [validate, hprogram, hprogram', ← compile_eq_anew, compile, Program.compile, ha, hb,
    hbind]
  cases Node.bind engine.registry b with
  | error e => rfl
  | ok root => rfl

end Engine

end Texts

/-- **Names of functions can be written in either case.**  Two formulas that differ only in the
case of the names of their calls call the same functions and have programs of the same functions.
Every engine, after any calls, has one answer for their texts, and the database one predicate, or
two refusals for one reason. -/
theorem answers_of_sameButCase (h : SameButCase a b) :
    a.functionNames = b.functionNames ∧
    (∀ source other registry, (Program.compile source a registry).map Program.functions =
      (Program.compile other b registry).map Program.functions) ∧
    (∀ columns, Sql.SameOutcome (Sql.compileExpr columns a) (Sql.compileExpr columns b)) ∧
    ∀ text other, parse text = .ok a → parse other = .ok b →
      (∀ registry calls, let engine := ((Engine.ofRegistry registry).performAll calls).2
        (∀ context, (engine.evaluate text context).1 = (engine.evaluate other context).1) ∧
        (engine.validate text).1 = (engine.validate other).1) ∧
      ∀ columns, (∃ p, Sql.compile columns text = .ok p ∧ Sql.compile columns other = .ok p) ∨
        ∃ e e', Sql.SameRefusal e e' ∧ Sql.compile columns text = .error (.compile e) ∧
          Sql.compile columns other = .error (.compile e') := by
  refine ⟨h.functionNames_eq, Program.functions_spelling h,
    fun columns => Sql.compileExpr_same columns h, fun text other ha hb => ⟨?_, ?_⟩⟩
  · intro registry calls engine
    obtain ⟨-, -, hfaithful⟩ :=
      Engine.performAll_spec (Engine.faithful_ofRegistry registry) calls
    exact ⟨hfaithful.evaluate_spelling ha hb h, hfaithful.validate_spelling ha hb h⟩
  · exact fun columns => Sql.compile_same columns h ha hb

/-- Two spellings of a sum with a function of the caller: both have one value, and the database
refuses both, each with its operand as it stands there. -/
theorem answers_of_sameButCase_bonus :
    let a : Expr := .binary .add (.call "Upper" [.identifier ⟨["code"]⟩]) (.call "bonus" [])
    let b : Expr := .binary .add (.call "UPPER" [.identifier ⟨["code"]⟩]) (.call "Bonus" [])
    let text := "Upper(code) + bonus()"
    let other := "UPPER(code) + Bonus()"
    let registry : Registry := .standard ⟨"", "", id⟩
    let calls : List Engine.Call := [.register "Bonus" fun _ => .ok (.int 3), .validate text]
    let engine := ((Engine.ofRegistry registry).performAll calls).2
    let refusal (quoted : String) : Sql.Error := .compile (.nonNumericOperand "+" quoted)
    a.SameButCase b ∧ parse text = .ok a ∧ parse other = .ok b ∧
      b.functionNames = ["UPPER", "BONUS"] ∧ a.functionNames = ["UPPER", "BONUS"] ∧
      (engine.evaluate text [("code", .string "5")]).1 = .ok (.int 8) ∧
      (engine.evaluate other [("code", .string "5")]).1 = .ok (.int 8) ∧
      Sql.compile none text = .error (refusal "Upper(code)") ∧
      Sql.compile none other = .error (refusal "UPPER(code)") := by
  intro a b text other registry calls engine refusal
  have hsame : a.SameButCase b :=
    .binary .add (.call (by decide) (.cons (.refl _) .nil)) (.call (by decide) .nil)
  have ha : parse text = .ok a := by decide +kernel
  have hb : parse other = .ok b := by decide +kernel
  obtain ⟨hnames, -, -, htexts⟩ := answers_of_sameButCase hsame
  obtain ⟨hanswers, -⟩ := htexts text other ha hb
  obtain ⟨hvalue, -⟩ := hanswers registry calls
  obtain ⟨-, hregistry, hfaithful⟩ :=
    Engine.performAll_spec (Engine.faithful_ofRegistry registry) calls
  have hsum : (engine.evaluate other [("code", .string "5")]).1 = .ok (.int 8) := by
    rw [hfaithful.evaluate_eq, hregistry, Engine.valueAnew_eq_eval, hb]
    rfl
  have hcollected : b.functionNames = ["UPPER", "BONUS"] := by decide
  exact ⟨hsame, ha, hb, hcollected, hnames.trans hcollected, (hvalue _).trans hsum, hsum,
    by decide +kernel, by decide +kernel⟩

end Formulary
