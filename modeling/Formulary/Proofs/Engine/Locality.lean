import Formulary.Proofs.Engine.Memory
import Formulary.Proofs.Expr.Parts
import Formulary.Proofs.Function.Registrations

/-!
# Registrations and the texts they concern

What a text means depends on the functions that it calls and on no others.

* `AgreeOn` — two registries have the same functions for a formula;
* `bind_congr`, `valueAnew_congr` — then they bind it to the same tree, and its text has the same
  value in every context;
* `evaluate_register` — so a registration concerns only the texts that call the function by
  its name.
-/

namespace Formulary

/-- Two registries hold the same under the name of every call in a formula. -/
def Registry.AgreeOn (a b : Registry) (expr : Expr) : Prop :=
  ∀ name args, .call name args ∈ expr.parts → a.lookup? name = b.lookup? name

/-- A registration changes nothing for a formula that does not call the function. -/
theorem Registry.agreeOn_registerNative (registry : Registry) {name : String} {expr : Expr}
    (h : Text.upper name ∉ expr.functionNames) (function : Native) :
    (registry.registerNative name function).AgreeOn registry expr := by
  intro called args hcall
  have hname : Text.upper (FunctionEntry.custom name function).name = Text.upper name :=
    Text.upper_upper name
  have hne : Text.upper called ≠ Text.upper name := by
    intro heq
    exact h (Expr.mem_functionNames.2 ⟨called, args, hcall, heq⟩)
  rw [registerNative, lookup?_register, hname, if_neg hne]

/-! ## Trees -/

namespace Node

variable {a b : Registry}

theorem bindAll_congr {args : List Expr} (h : ∀ arg ∈ args, bind a arg = bind b arg) :
    bindAll a args = bindAll b args := by
  induction args with
  | nil => rfl
  | cons arg args ih =>
    obtain ⟨harg, hargs⟩ := List.forall_mem_cons.1 h
    rw [bindAll, bindAll, harg, ih hargs]

/-- A formula is bound in the same way, or refused for the same reason, under registries that agree
on it. -/
theorem bind_congr {expr : Expr} (h : a.AgreeOn b expr) : bind a expr = bind b expr := by
  induction expr using Expr.induct with
  | literal value => rfl
  | identifier path => rfl
  | neg operand ih =>
    have hoperand := ih fun name args hcall => h name args (Expr.mem_parts_neg.2 (.inr hcall))
    rw [bind, bind, hoperand]
  | binary op left right ihleft ihright =>
    have hleft := ihleft fun name args hcall =>
      h name args (Expr.mem_parts_binary.2 (.inr (.inl hcall)))
    have hright := ihright fun name args hcall =>
      h name args (Expr.mem_parts_binary.2 (.inr (.inr hcall)))
    rw [bind, bind, hleft, hright]
  | call name args ih =>
    have hname := h name args (Expr.self_mem_parts _)
    have hargs := bindAll_congr fun arg harg => ih arg harg fun name args hcall =>
      h name args (Expr.mem_parts_call.2 (.inr ⟨arg, harg, hcall⟩))
    rw [bind, bind, hname, hargs]

end Node

/-! ## Texts -/

namespace Engine

variable {a b : Registry} {text : String}

/-- Reading, binding and running, one after the other.  The epoch plays no part. -/
theorem valueAnew_eq_eval (registry : Registry) (text : String) (context : Context) :
    valueAnew registry text context =
      ((parse text).mapError EngineError.parse).bind fun expr =>
        ((Node.bind registry expr).mapError EngineError.bind).bind fun root =>
          (root.eval context).mapError EngineError.run := by
  unfold valueAnew programAnew Program.compile
  cases parse text with
  | error e => rfl
  | ok expr =>
    cases hbind : Node.bind registry expr with
    | error e => simp [Except.mapError, bind, Except.bind, hbind]
    | ok root => simp [Except.mapError, bind, Except.bind, hbind, Program.run]

/-- A text has the same value under registries that agree on its formula. -/
theorem valueAnew_congr (h : ∀ expr, parse text = .ok expr → a.AgreeOn b expr)
    (context : Context) : valueAnew a text context = valueAnew b text context := by
  rw [valueAnew_eq_eval, valueAnew_eq_eval]
  cases hparse : parse text with
  | error e => rfl
  | ok expr =>
    have hbind := Node.bind_congr (h expr hparse)
    simp only [Except.mapError, Except.bind, hbind]

/-- A faithful engine finds what one without a memory finds. -/
theorem Faithful.evaluate_eq {engine : Engine} (h : Faithful engine) (text : String)
    (context : Context) :
    (engine.evaluate text context).1 = valueAnew engine.registry text context := by
  obtain ⟨hanswer, -⟩ := perform_spec h (.evaluate text context)
  exact Answer.value.inj hanswer

theorem faithful_register (engine : Engine) (name : String) (function : Native) :
    Faithful (engine.register name function) :=
  fun _ h => absurd h List.not_mem_nil

/-- A registration leaves the value of a text that does not call the function. -/
theorem Faithful.evaluate_register_of_absent {engine : Engine} (h : Faithful engine) {name : String}
    (habsent : ∀ expr, parse text = .ok expr → Text.upper name ∉ expr.functionNames)
    (function : Native) (context : Context) :
    ((engine.register name function).evaluate text context).1 =
      (engine.evaluate text context).1 := by
  have hagree : ∀ expr, parse text = .ok expr →
      (engine.registry.registerNative name function).AgreeOn engine.registry expr :=
    fun expr hparse => engine.registry.agreeOn_registerNative (habsent expr hparse) function
  have hregistry : (engine.register name function).registry =
      engine.registry.registerNative name function := rfl
  rw [(faithful_register engine name function).evaluate_eq, h.evaluate_eq, hregistry,
    valueAnew_congr hagree]

/-- **Registrations are local.**  After any calls, a text that does not call the function under its
name, in whichever case, has the value or the error after a registration that it had before, in
every context.  The function names of a formula are those of its calls, each once, and a
registration that changes the value of its text is one of a function among them. -/
theorem evaluate_register (registry : Registry) (calls : List Call) (text : String)
    (context : Context) :
    let engine := ((ofRegistry registry).performAll calls).2
    (∀ name function, (∀ expr, parse text = .ok expr → Text.upper name ∉ expr.functionNames) →
      ((engine.register name function).evaluate text context).1 =
        (engine.evaluate text context).1) ∧
    ∀ expr, parse text = .ok expr → expr.functionNames.Nodup ∧
      (∀ n, n ∈ expr.functionNames ↔ expr.Calls n) ∧
      ∀ name function, ((engine.register name function).evaluate text context).1 ≠
        (engine.evaluate text context).1 → Text.upper name ∈ expr.functionNames := by
  obtain ⟨-, -, hfaithful⟩ := performAll_spec (faithful_ofRegistry registry) calls
  refine ⟨fun name function habsent => hfaithful.evaluate_register_of_absent habsent _ _,
    fun expr hparse => ?_⟩
  refine ⟨expr.nodup_functionNames, fun n => Expr.mem_functionNames, ?_⟩
  intro name function hchanged
  by_contra habsent
  refine hchanged (hfaithful.evaluate_register_of_absent (fun other hother => ?_) _ _)
  rwa [Except.ok.inj (hother.symm.trans hparse)]

/-- A text that is remembered and calls one function in two spellings of its name: a registration
of another function leaves its value, one of that function in a third spelling does not. -/
theorem evaluate_register_bonus :
    let text := "Bonus(BONUS(1))"
    let engine := ((ofRegistry .empty).performAll
      [.register "Bonus" fun _ => .ok (.int 3), .evaluate text []]).2
    let other := engine.register "tax" fun _ => .ok .null
    let changed := engine.register "bONUS" fun _ => .ok (.int 4)
    (parse text).map Expr.functionNames = .ok ["BONUS"] ∧
      (engine.evaluate text []).1 = .ok (.int 3) ∧ (other.evaluate text []).1 = .ok (.int 3) ∧
      (changed.evaluate text []).1 = .ok (.int 4) := by
  intro text engine other changed
  have hparse : parse text = .ok (.call "Bonus" [.call "BONUS" [.literal (.int 1)]]) := by
    decide +kernel
  obtain ⟨-, hregistry, hfaithful⟩ := performAll_spec (faithful_ofRegistry .empty)
    [.register "Bonus" fun _ => .ok (.int 3), .evaluate text []]
  have hvalue : (engine.evaluate text []).1 = .ok (.int 3) := by
    rw [hfaithful.evaluate_eq, hregistry, valueAnew_eq_eval, hparse]
    rfl
  have hafter : changed.registry =
      engine.registry.registerNative "bONUS" fun _ => .ok (.int 4) := rfl
  have hchanged : (changed.evaluate text []).1 = .ok (.int 4) := by
    rw [(faithful_register engine _ _).evaluate_eq, hafter, hregistry, valueAnew_eq_eval, hparse]
    rfl
  obtain ⟨hlocal, -⟩ := evaluate_register .empty
    [.register "Bonus" fun _ => .ok (.int 3), .evaluate text []] text []
  refine ⟨by rw [hparse]; rfl, hvalue, ?_, hchanged⟩
  rw [← hvalue]
  refine hlocal "tax" _ fun expr hexpr => ?_
  obtain rfl := Except.ok.inj (hparse.symm.trans hexpr)
  decide

end Engine

end Formulary
