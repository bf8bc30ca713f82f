import Formulary.Proofs.Expr.Parts
import Formulary.Proofs.Program.HasValue

/-!
# What a run reads

A run of a program reads the context at the paths that its formula mentions, and nowhere else.
All that is said about this comes from one induction, on the formula: two runs are related by
every relation that the steps of a run keep, if what they read is.

* `eval_related` — the induction;
* `kept_eq`, `StaysFound`, `MissesOnly` — equality, a result that stays as long as nothing is
  missing, and what can be missing, as such relations;
* `run_reads` — what follows for the runs of a program.
-/

namespace Formulary

/-- A path occurs in a formula as an identifier. -/
def Expr.Mentions (expr : Expr) (path : Path) : Prop :=
  .identifier path ∈ expr.parts

/-! ## Steps that miss nothing -/

/-- A result is that the context has nothing under a path. -/
def Misses {α : Type} (x : Except RuntimeError α) (path : Path) : Prop :=
  x = .error (.missingIdentifier path)

section Steps

variable {path : Path}

/-- Operators fail for reasons of their own. -/
theorem not_misses_of_ofOperator {α : Type} {x : Except RuntimeError α}
    (h : ∀ e, x = .error e → e.OfOperator) : ¬ Misses x path := by
  intro hmisses
  exact h _ hmisses

/-- A function fails for a reason of its own. -/
theorem not_misses_function (name : String) (x : Except FunctionError Value) :
    ¬ Misses (x.mapError (RuntimeError.function name)) path := by
  cases x <;> simp [Misses, Except.mapError]

end Steps

/-! ## Related runs -/

/-- A relation between results is kept by the steps of a run: a step that reads nothing is related
to itself, and a step after another one is if both are. -/
structure Kept (R : ∀ {α : Type}, Except RuntimeError α → Except RuntimeError α → Prop) : Prop where
  same : ∀ {α : Type} {x : Except RuntimeError α}, (∀ path, ¬ Misses x path) → R x x
  bind : ∀ {α β : Type} {x y : Except RuntimeError α} {f g : α → Except RuntimeError β},
    R x y → (∀ a, R (f a) (g a)) → R (x.bind f) (y.bind g)

section Related

variable {R : ∀ {α : Type}, Except RuntimeError α → Except RuntimeError α → Prop}
  {registry : Registry} {a b : Context}

theorem Kept.ok (hR : Kept R) {α : Type} (v : α) :
    R (Except.ok v : Except RuntimeError α) (.ok v) :=
  hR.same fun path h => by cases h

theorem Kept.evalAll (hR : Kept R) {nodes : List Node}
    (h : ∀ node ∈ nodes, R (node.eval a) (node.eval b)) :
    R (Node.evalAll a nodes) (Node.evalAll b nodes) := by
  induction nodes with
  | nil => exact hR.ok _
  | cons node rest ih =>
    obtain ⟨hnode, hrest⟩ := List.forall_mem_cons.1 h
    rw [Node.evalAll_cons, Node.evalAll_cons]
    exact hR.bind hnode fun value => hR.bind (ih hrest) fun values => hR.ok _

/-- **Runs of a bound formula are related if what they read is.** -/
theorem eval_related (hR : Kept R) {expr : Expr} {node : Node}
    (hbind : Node.bind registry expr = .ok node)
    (hread : ∀ path, expr.Mentions path →
      R (Node.eval a (.identifier path)) (Node.eval b (.identifier path))) :
    R (node.eval a) (node.eval b) := by
  induction expr using Expr.induct generalizing node with
  | literal value =>
    obtain rfl := Except.ok.inj hbind
    exact hR.ok _
  | identifier path =>
    obtain rfl := Except.ok.inj hbind
    exact hread path (Expr.self_mem_parts _)
  | neg operand ih =>
    obtain ⟨n, hoperand, rfl⟩ := Expr.bind_neg hbind
    have hn := ih hoperand fun path hpath => hread path (Expr.mem_parts_neg.2 (.inr hpath))
    rw [Node.eval_neg, Node.eval_neg]
    exact hR.bind hn fun v => hR.same fun path =>
      not_misses_of_ofOperator fun e => ofOperator_of_opposite
  | binary op left right ihleft ihright =>
    obtain ⟨l, r, hl, hr, rfl⟩ := Expr.bind_binary hbind
    have hleft := ihleft hl fun path hpath =>
      hread path (Expr.mem_parts_binary.2 (.inr (.inl hpath)))
    have hright := ihright hr fun path hpath =>
      hread path (Expr.mem_parts_binary.2 (.inr (.inr hpath)))
    have hbool : ∀ v : Value, R (v.expectBool op.symbol) (v.expectBool op.symbol) := fun v =>
      hR.same fun path => not_misses_of_ofOperator fun e => ofOperator_of_expectBool
    cases hop : op.isLogical with
    | true =>
      rw [Node.eval_logical hop, Node.eval_logical hop]
      refine hR.bind (hR.bind hleft hbool) fun decided => ?_
      -- both runs come this far with the same truth value, so both stop here or neither does
      split
      · exact hR.ok _
      · exact hR.bind (hR.bind hright hbool) fun t => hR.ok _
    | false =>
      rw [Node.eval_strict hop, Node.eval_strict hop]
      exact hR.bind hleft fun v => hR.bind hright fun w =>
        hR.same fun path => not_misses_of_ofOperator fun e => ofOperator_of_apply
  | call name args ih =>
    obtain ⟨entry, nodes, -, -, -, hargs, hnode⟩ := Expr.bind_call_eq_ok_iff.1 hbind
    have hnodes : ∀ n ∈ nodes, R (n.eval a) (n.eval b) := by
      intro n hn
      obtain ⟨arg, harg, hbound⟩ := Expr.exists_of_mem_bindAll (Expr.bindAll_eq_ok hargs) hn
      exact ih arg harg hbound fun path hpath =>
        hread path (Expr.mem_parts_call.2 (.inr ⟨arg, harg, hpath⟩))
    rcases Node.ofCall_eq_ok_iff.1 hnode with
      ⟨function, -, rfl⟩ | ⟨-, ignored, condition, thenNode, elseNode, rfl, rfl⟩
    · rw [Node.eval_call, Node.eval_call]
      exact hR.bind (hR.evalAll hnodes) fun values =>
        hR.same fun path => not_misses_function entry.name (function values)
    · rw [Node.eval_conditional, Node.eval_conditional]
      have hcondition := hnodes condition (by simp)
      have hthen := hnodes thenNode (by simp)
      have helse := hnodes elseNode (by simp)
      refine hR.bind (hR.bind hcondition fun v => hR.same fun path =>
        not_misses_of_ofOperator fun e => ofOperator_of_expectBool) fun decided => ?_
      cases decided with
      | true => exact hthen
      | false => exact helse

end Related

/-! ## Three relations -/

theorem kept_eq : Kept fun {α} (x y : Except RuntimeError α) => x = y where
  same _ := rfl
  bind hx hf := by rw [hx, funext hf]

/-- A result stays as it is unless it is that something is missing. -/
def StaysFound {α : Type} (x y : Except RuntimeError α) : Prop :=
  (∀ path, ¬ Misses x path) → y = x

theorem kept_staysFound : Kept StaysFound where
  same _ := fun _ => rfl
  bind {α β x y f g} hx hf := by
    intro hfound
    cases x with
    | error e =>
      -- the first step is the whole run
      have hy : y = .error e := hx fun path hpath => hfound path (by
        obtain rfl := Except.error.inj hpath
        rfl)
      rw [hy]
      rfl
    | ok v =>
      have hy : y = .ok v := hx fun path hpath => by cases hpath
      rw [hy]
      exact hf v hfound

/-- Only paths of some kind are missing.  The second run plays no part. -/
def MissesOnly (P : Path → Prop) {α : Type} (x _ : Except RuntimeError α) : Prop :=
  ∀ path, Misses x path → P path

theorem kept_missesOnly (P : Path → Prop) : Kept (MissesOnly P) where
  same hnone := fun path hpath => absurd hpath (hnone path)
  bind {α β x y f g} hx hf := by
    intro path hpath
    cases x with
    | error e =>
      obtain rfl := Except.error.inj hpath
      exact hx path rfl
    | ok v => exact hf v path hpath

/-! ## Contexts -/

/-- A context has all that another has, under the same names. -/
def Extends (a b : Context) : Prop :=
  ∀ name value, a.get? name = some value → b.get? name = some value

/-- A larger context leads to the same value where there was one. -/
theorem Extends.resolve {a b : Context} (h : Extends a b) {path : Path} {value : Value}
    (hvalue : Node.resolve a path = some value) : Node.resolve b path = some value := by
  unfold Node.resolve at hvalue ⊢
  split at hvalue
  · cases hvalue
  · obtain ⟨outer, houter, hinner⟩ := Option.bind_eq_some_iff.1 hvalue
    rw [h _ _ houter]
    exact hinner

theorem misses_identifier {context : Context} {path other : Path}
    (h : Misses (Node.eval context (.identifier path)) other) :
    other = path ∧ Node.resolve context path = none := by
  unfold Misses at h
  rw [Node.eval] at h
  split at h
  · cases h
  · next hnone =>
    obtain ⟨rfl⟩ := RuntimeError.missingIdentifier.inj (Except.error.inj h)
    exact ⟨rfl, hnone⟩

/-! ## Programs -/

variable {registry : Registry} {source : String} {expr : Expr} {program : Program}

/-- The tree of a program is that of its formula. -/
theorem bind_of_compile (h : Program.compile source expr registry = .ok program) :
    Node.bind registry expr = .ok program.root := by
  unfold Program.compile at h
  cases hbind : Node.bind registry expr with
  | error e => simp [hbind] at h
  | ok root =>
    simp only [hbind] at h
    rw [← Except.ok.inj h]

/-- **A run depends only on what the formula mentions.**  Contexts in which every path of the
formula leads to the same value, or to none, give the same value or error.  Names that are added
to a context change nothing, unless something was missing.  And what is missing is always a path
of the formula that leads nowhere. -/
theorem run_reads (h : Program.compile source expr registry = .ok program) :
    (∀ a b, (∀ path, expr.Mentions path → Node.resolve a path = Node.resolve b path) →
      program.run a = program.run b) ∧
    (∀ a b, Extends a b → (∀ path, program.run a ≠ .error (.missingIdentifier path)) →
      program.run b = program.run a) ∧
    ∀ a path, program.run a = .error (.missingIdentifier path) →
      expr.Mentions path ∧ Node.resolve a path = none := by
  have hbind := bind_of_compile h
  refine ⟨fun a b hagree => ?_, fun a b hextends hfound => ?_, fun a path hmissing => ?_⟩
  · refine eval_related kept_eq hbind fun path hpath => ?_
    rw [Node.eval, Node.eval, hagree path hpath]
  · refine eval_related kept_staysFound hbind (fun path hpath hread => ?_) hfound
    cases hvalue : Node.resolve a path with
    | none => exact absurd (by simp [Misses, Node.eval, hvalue]) (hread path)
    | some value => simp only [Node.eval, hvalue, hextends.resolve hvalue]
  · refine eval_related (b := a)
      (kept_missesOnly fun path => expr.Mentions path ∧ Node.resolve a path = none) hbind ?_
      path hmissing
    intro path hpath other hother
    obtain ⟨rfl, hnone⟩ := misses_identifier hother
    exact ⟨hpath, hnone⟩

/-- A branch that is not taken, and a comparison that is settled before: neither is read.  With
another truth value the run stops where it would have to read. -/
theorem run_reads_bonus :
    let source := "IF(active && rate > 1, bonus, base)"
    let a : Context := [("active", .bool false), ("base", .int 5)]
    let other : Context := [("active", .bool false), ("base", .int 5), ("note", .null)]
    let larger : Context :=
      [("active", .bool false), ("base", .int 5), ("bonus", .string "none"), ("rate", .int 2)]
    let active : Context := [("active", .bool true), ("base", .int 5)]
    ∃ expr program, parse source = .ok expr ∧
      Program.compile source expr (.standard ⟨"", "", id⟩) = .ok program ∧
      program.run a = .ok (.int 5) ∧ program.run other = .ok (.int 5) ∧
      Extends a larger ∧ program.run larger = .ok (.int 5) ∧
      program.run active = .error (.missingIdentifier ⟨["rate"]⟩) ∧
      expr.Mentions ⟨["rate"]⟩ ∧ Node.resolve active ⟨["rate"]⟩ = none := by
  intro source a other larger active
  let expr : Expr := .call "IF"
    [.binary .and (.identifier ⟨["active"]⟩)
      (.binary .gt (.identifier ⟨["rate"]⟩) (.literal (.int 1))),
      .identifier ⟨["bonus"]⟩, .identifier ⟨["base"]⟩]
  let program : Program :=
    ⟨source, .conditional (.binary .and (.identifier ⟨["active"]⟩)
      (.binary .gt (.identifier ⟨["rate"]⟩) (.literal (.int 1))))
      (.identifier ⟨["bonus"]⟩) (.identifier ⟨["base"]⟩), 0, ["IF"]⟩
  have hparse : parse source = .ok expr := by decide +kernel
  have hcompile : Program.compile source expr (.standard ⟨"", "", id⟩) = .ok program := rfl
  obtain ⟨hsame, hmore, hmissing⟩ := run_reads hcompile
  have hrun : program.run a = .ok (.int 5) := rfl
  have hactive : program.run active = .error (.missingIdentifier ⟨["rate"]⟩) := rfl
  have hother : program.run a = program.run other := by
    refine hsame a other fun path hpath => ?_
    have hpaths : (path = ⟨["active"]⟩ ∨ path = ⟨["rate"]⟩) ∨ path = ⟨["bonus"]⟩ ∨
        path = ⟨["base"]⟩ := by
      simpa [expr, Expr.Mentions] using hpath
    rcases hpaths with (rfl | rfl) | rfl | rfl <;> rfl
  have hextends : Extends a larger := by
    intro name value hvalue
    simp only [a, larger, Fields.get?_cons, Fields.get?_nil] at hvalue ⊢
    split at hvalue
    · next hname => rwa [if_pos hname]
    · next hname =>
      split at hvalue
      · next hbase => rwa [if_neg hname, if_pos hbase]
      · cases hvalue
  have hlarger : program.run larger = program.run a :=
    hmore a larger hextends fun path hpath => by
      rw [hrun] at hpath
      cases hpath
  obtain ⟨hrate, hnone⟩ := hmissing active _ hactive
  exact ⟨expr, program, hparse, hcompile, hrun, hother ▸ hrun, hextends, hlarger.trans hrun, hactive,
    hrate, hnone⟩

end Formulary
