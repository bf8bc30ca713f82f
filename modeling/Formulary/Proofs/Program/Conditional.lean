import Formulary.Proofs.Program.HasValue

/-!
# Calls of conditional functions

A conditional function takes a condition and two branches, but how many arguments a call may
have is for its entry to say, and a caller can register one with any arity.  Fewer than three
arguments are always refused.  Of three or more the last three are bound, so that a call has all
its arguments in the program only if the arity lets no more than three through.

* `conditional_call_binds` — which arguments become which parts, and when a call is refused;
* `conditional_call_ignores` — a call with four arguments, of which the first is lost.
-/

namespace Formulary.Node

variable {registry : Registry} {entry : FunctionEntry} {name : String} {args : List Expr}
  {nodes : List Node}

/-- A choice needs three arguments. -/
theorem ofCall_of_short (hconditional : entry.implementation = .conditional)
    (hshort : nodes.length < 3) :
    ofCall entry nodes = .error (.arity entry.name "3" nodes.length) := by
  cases hnode : ofCall entry nodes with
  | ok node =>
    rcases ofCall_eq_ok_iff.1 hnode with ⟨_, hnative, -⟩ | ⟨-, ignored, _, _, _, rfl, -⟩
    · cases hnative.symm.trans hconditional
    · rw [List.length_append, List.length_cons] at hshort
      exact absurd hshort (by simp)
  | error e =>
    simp only [ofCall, hconditional] at hnode
    split at hnode
    · cases hnode
    · rw [← hnode]

/-- What a call that becomes a choice is made of. -/
theorem bind_call_eq_conditional {condition thenNode elseNode : Node}
    (h : bind registry (.call name args) = .ok (.conditional condition thenNode elseNode)) :
    ∃ entry, registry.lookup? name = some entry ∧ entry.implementation = .conditional ∧
      entry.arity.accepts args.length = true ∧ ∃ ignored x y z, args = ignored ++ [x, y, z] ∧
        BindsParts registry x y z condition thenNode elseNode := by
  obtain ⟨entry, nodes, hentry, harity, -, hargs, hnode⟩ := Expr.bind_call_eq_ok_iff.1 h
  rcases ofCall_eq_ok_iff.1 hnode with ⟨_, -, hcall⟩ | ⟨himplementation, ignored, _, _, _, rfl, hparts⟩
  · cases hcall
  · obtain ⟨rfl, rfl, rfl⟩ := Node.conditional.inj hparts
    exact ⟨entry, hentry, himplementation, harity, bindAll_append_three hargs⟩

/-- A call with a number of arguments that the arity does not let through is refused. -/
theorem bind_call_of_not_accepts (hentry : registry.lookup? name = some entry)
    (harity : entry.arity.accepts args.length = false) :
    bind registry (.call name args) =
      .error (.arity entry.name entry.arity.text args.length) := by
  simp [bind, hentry, harity]

theorem bind_call_of_bindAll (hentry : registry.lookup? name = some entry)
    (harity : entry.arity.accepts args.length = true) (hcheck : checkLiterals entry 0 args = .ok ())
    (hargs : bindAll registry args = .ok nodes) :
    bind registry (.call name args) = ofCall entry nodes := by
  simp [bind, hentry, harity, hcheck, hargs]

/-- A call of a conditional function with fewer than three arguments is not bound. -/
theorem not_bind_of_short (hentry : registry.lookup? name = some entry)
    (hconditional : entry.implementation = .conditional) (hshort : args.length < 3) (node : Node) :
    bind registry (.call name args) ≠ .ok node := by
  intro h
  obtain ⟨other, nodes, hother, -, -, hargs, hnode⟩ := Expr.bind_call_eq_ok_iff.1 h
  obtain rfl := Option.some.inj (hentry.symm.trans hother)
  have hlength : nodes.length = args.length := (Expr.bindAll_eq_ok hargs).length_eq.symm
  rw [ofCall_of_short hconditional (hlength ▸ hshort)] at hnode
  cases hnode

/-- Three arguments that the arity lets through and that can be bound become the parts. -/
theorem BindsParts.bind_call {x y z : Expr} {condition thenNode elseNode : Node}
    (h : BindsParts registry x y z condition thenNode elseNode)
    (hentry : registry.lookup? name = some entry)
    (hconditional : entry.implementation = .conditional) (harity : entry.arity.accepts 3 = true)
    (hcheck : checkLiterals entry 0 [x, y, z] = .ok ()) :
    bind registry (.call name [x, y, z]) = .ok (.conditional condition thenNode elseNode) := by
  have hargs : bindAll registry [x, y, z] = .ok [condition, thenNode, elseNode] := by
    simp [bindAll, h.condition, h.thenBranch, h.elseBranch]
  have hlength : entry.arity.accepts [x, y, z].length = true := harity
  rw [bind_call_of_bindAll hentry hlength hcheck hargs]
  exact ofCall_eq_ok_iff.2 (.inr ⟨hconditional, [], _, _, _, rfl, rfl⟩)

/-- **A conditional call binds its last three arguments, and so all of them where its arity lets no
more than three through.**  There a call with another number of arguments is refused, for that
number unless an argument is itself refused before; and three arguments that can be bound become
the condition and the two branches. -/
theorem conditional_call_binds (args : List Expr)
    (hentry : registry.lookup? name = some entry) :
    (∀ condition thenNode elseNode,
      bind registry (.call name args) = .ok (.conditional condition thenNode elseNode) →
        entry.implementation = .conditional ∧ ∃ ignored x y z, args = ignored ++ [x, y, z] ∧
          BindsParts registry x y z condition thenNode elseNode) ∧
    (∀ x y z condition thenNode elseNode, args = [x, y, z] →
      entry.implementation = .conditional → entry.arity.accepts 3 = true →
        checkLiterals entry 0 args = .ok () →
          BindsParts registry x y z condition thenNode elseNode →
            bind registry (.call name args) = .ok (.conditional condition thenNode elseNode)) ∧
    ((entry.arity.accepts args.length = true → args.length ≤ 3) →
      (∀ condition thenNode elseNode,
        bind registry (.call name args) = .ok (.conditional condition thenNode elseNode) →
          ∃ x y z, args = [x, y, z] ∧ BindsParts registry x y z condition thenNode elseNode) ∧
      (entry.implementation = .conditional → args.length ≠ 3 →
        (∀ node, bind registry (.call name args) ≠ .ok node) ∧
        (entry.arity.accepts args.length = false →
          bind registry (.call name args) =
            .error (.arity entry.name entry.arity.text args.length)) ∧
        (entry.arity.accepts args.length = true → checkLiterals entry 0 args = .ok () →
          ∀ nodes, bindAll registry args = .ok nodes →
            bind registry (.call name args) = .error (.arity entry.name "3" args.length)))) := by
  have hmade : ∀ condition thenNode elseNode,
      bind registry (.call name args) = .ok (.conditional condition thenNode elseNode) →
        entry.implementation = .conditional ∧ entry.arity.accepts args.length = true ∧
          ∃ ignored x y z, args = ignored ++ [x, y, z] ∧
            BindsParts registry x y z condition thenNode elseNode := by
    intro condition thenNode elseNode h
    obtain ⟨other, hother, hconditional, harity, hparts⟩ := bind_call_eq_conditional h
    obtain rfl := Option.some.inj (hentry.symm.trans hother)
    exact ⟨hconditional, harity, hparts⟩
  refine ⟨fun c t e h => ?_, ?_, fun hatMost => ⟨fun c t e h => ?_, fun hconditional hne => ?_⟩⟩
  · obtain ⟨hconditional, -, hparts⟩ := hmade c t e h
    exact ⟨hconditional, hparts⟩
  · rintro x y z c t e rfl hconditional harity hcheck hparts
    exact hparts.bind_call hentry hconditional harity hcheck
  · obtain ⟨-, harity, ignored, x, y, z, rfl, hparts⟩ := hmade c t e h
    have hnone : ignored = [] := by
      have hlength := hatMost harity
      rw [List.length_append] at hlength
      exact List.length_eq_zero_iff.1 (by simpa using hlength)
    exact ⟨x, y, z, by rw [hnone, List.nil_append], hparts⟩
  · have hshort : entry.arity.accepts args.length = true → args.length < 3 := fun harity => by
      have := hatMost harity
      omega
    refine ⟨fun node => ?_, bind_call_of_not_accepts hentry, fun harity hcheck nodes hargs => ?_⟩
    · cases harity : entry.arity.accepts args.length with
      | true => exact not_bind_of_short hentry hconditional (hshort harity) node
      | false => simp [bind_call_of_not_accepts hentry harity]
    · have hlength : nodes.length = args.length := (Expr.bindAll_eq_ok hargs).length_eq.symm
      rw [bind_call_of_bindAll hentry harity hcheck hargs, ← hlength]
      exact ofCall_of_short hconditional (hlength ▸ hshort harity)

/-- A function of a caller that takes any number of arguments: three are the condition and the two
branches, and two are refused. -/
theorem conditional_call_binds_pick :
    let entry : FunctionEntry := ⟨"PICK", .variadic, [.bool], .conditional, none, none⟩
    let registry := Registry.empty.register entry
    let args : List Expr := [.identifier ⟨["rated"]⟩, .literal (.int 1), .literal .null]
    registry.lookup? "Pick" = some entry ∧
      bind registry (.call "Pick" args) = .ok (.conditional (.identifier ⟨["rated"]⟩)
        (.literal (.int 1)) (.literal .null)) ∧
      (∃ x y z, args = [x, y, z] ∧ BindsParts registry x y z (.identifier ⟨["rated"]⟩)
        (.literal (.int 1)) (.literal .null)) ∧
      bind registry (.call "Pick" (args.take 2)) = .error (.arity "PICK" "3" 2) := by
  intro entry registry args
  have hname : Text.upper "Pick" = Text.upper "PICK" := by decide
  have hentry : registry.lookup? "Pick" = some entry := by
    rw [Registry.lookup?_register, if_pos hname]
  obtain ⟨-, hbind, hall⟩ := conditional_call_binds args hentry
  have hnode := hbind _ _ _ _ _ _ rfl rfl rfl rfl ⟨rfl, rfl, rfl⟩
  obtain ⟨-, -, hfew⟩ := conditional_call_binds (args.take 2) hentry
  obtain ⟨-, -, hrefused⟩ := (hfew fun _ => by decide).2 rfl (by decide)
  exact ⟨hentry, hnode, (hall fun _ => by decide).1 _ _ _ hnode, hrefused rfl rfl _ rfl⟩

/-- Called with four arguments, that function does not look at the first: the program is without
it, and has a value although the argument has none. -/
theorem conditional_call_ignores :
    let registry := Registry.empty.register ⟨"PICK", .variadic, [], .conditional, none, none⟩
    let missing : Expr := .identifier ⟨["missing"]⟩
    ∃ args program, parse "PICK(missing, true, 1, 2)" = .ok (.call "PICK" args) ∧
      args = [missing, .literal (.bool true), .literal (.int 1), .literal (.int 2)] ∧
      Program.compile "" (.call "PICK" args) registry = .ok program ∧
      program.root = .conditional (.literal (.bool true)) (.literal (.int 1)) (.literal (.int 2)) ∧
      program.run [] = .ok (.int 1) := by
  intro registry missing
  have hparse : parse "PICK(missing, true, 1, 2)" =
      .ok (.call "PICK" [missing, .literal (.bool true), .literal (.int 1), .literal (.int 2)]) := by
    decide +kernel
  exact ⟨_, _, hparse, rfl, rfl, rfl, rfl⟩

end Formulary.Node
