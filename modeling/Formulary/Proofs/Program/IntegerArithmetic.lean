import Formulary.Proofs.Engine.Locality
import Formulary.Proofs.Expr.Grammar
import Formulary.Proofs.Program.Operators

/-!
# Integer arithmetic

A formula of sums, differences, products and minus signs over whole numbers stands for a whole
number, in a context in which its identifiers have integers or texts that write one.  The
evaluator works on integers of sixty-four bits and checks every step, so it finds that number or
reports an overflow, and which of the two is decided by the exact values of the parts alone.

* `Expr.wholeValue?` — the whole number that a formula stands for, without any bounds;
* `Expr.Overflows` — a part whose operator makes a whole number that is no integer;
* `eval_wholeValue?` — what a run makes of a formula, by its recursion;
* `integer_arithmetic_exact` — the same for programs, for texts, and for a minus sign that the
  reader takes into a literal.
-/

namespace Formulary

/-! ## Whole numbers -/

/-- A whole number that is an integer of sixty-four bits. -/
def Integer.InRange (k : Int) : Prop :=
  least ≤ k ∧ k ≤ greatest

instance (k : Int) : Decidable (Integer.InRange k) :=
  inferInstanceAs (Decidable (_ ∧ _))

theorem Integer.ofInt?_of_inRange {k : Int} (h : InRange k) :
    ∃ n : Int64, ofInt? k = some n ∧ n.toInt = k := by
  obtain ⟨n, hn⟩ := Option.isSome_iff_exists.1 ((ofInt?_isSome_iff k).2 h)
  exact ⟨n, hn, toInt_ofInt? hn⟩

theorem Integer.ofInt?_of_not_inRange {k : Int} (h : ¬ InRange k) : ofInt? k = none := by
  have hsome := mt (ofInt?_isSome_iff k).1 h
  simpa using hsome

/-- Every integer lies in the range. -/
theorem Integer.inRange_toInt (n : Int64) : InRange n.toInt :=
  (ofInt?_isSome_iff n.toInt).1 (by rw [ofInt?_toInt]; rfl)

/-- The integer that a value is, or that a text writes between blanks. -/
def Value.integer? : Value → Option Int64
  | .int n => some n
  | .string s => Numeral.integer? (Text.trimChars s.toList)
  | _ => none

theorem Value.number?_of_integer? {v : Value} {n : Int64} (h : v.integer? = some n) :
    v.number? = some (.int n) := by
  cases v with
  | int m =>
    obtain rfl := Option.some.inj h
    rfl
  | string s =>
    have hs : Numeral.integer? (Text.trimChars s.toList) = some n := h
    simp only [Value.number?, Number.ofText?, hs]
  | _ => cases h

namespace Expr

/-- The whole number that a formula stands for: a literal integer, an identifier whose value is an
integer or writes one, and what the operators make of these exactly. -/
def wholeValue? (context : Context) : Expr → Option Int
  | .literal (.int n) => some n.toInt
  | .literal _ => none
  | .identifier path => ((Node.resolve context path).bind Value.integer?).map Int64.toInt
  | .neg operand => (wholeValue? context operand).map fun k => -k
  | .binary op left right => do
    let m ← wholeValue? context left
    let n ← wholeValue? context right
    op.onWholeNumbers? m n
  | .call _ _ => none

/-- The symbol of the operator at the root of a formula. -/
def operator? : Expr → Option String
  | .neg _ => some "-"
  | .binary op _ _ => some op.symbol
  | _ => none

/-- An operator, given by its symbol, makes a whole number that is no integer. -/
def Overflows (context : Context) (part : Expr) (op : String) : Prop :=
  part.operator? = some op ∧ ∃ k, part.wholeValue? context = some k ∧ ¬ Integer.InRange k

/-- No operator of a formula overflows. -/
def StaysInRange (context : Context) (expr : Expr) : Prop :=
  ∀ part ∈ expr.parts, ∀ op, ¬ part.Overflows context op

theorem staysInRange_iff {context : Context} {expr : Expr} :
    (∀ part ∈ expr.parts, ∀ op ∈ part.operator?, ∀ k ∈ part.wholeValue? context,
      Integer.InRange k) ↔ expr.StaysInRange context := by
  constructor
  · rintro h part hpart op ⟨hop, k, hk, hout⟩
    exact hout (h part hpart op hop k hk)
  · intro h part hpart op hop k hk
    by_contra hout
    exact h part hpart op ⟨hop, k, hk, hout⟩

instance (context : Context) (expr : Expr) : Decidable (expr.StaysInRange context) :=
  decidable_of_iff _ staysInRange_iff

end Expr

/-! ## Operators -/

variable {context : Context} {registry : Registry}

/-- The opposite of a value that counts as an integer is exact, and checked. -/
theorem Value.opposite_of_integer? {v : Value} {n : Int64} (h : v.integer? = some n) :
    v.opposite = integerResult "-" (Integer.ofInt? (-n.toInt)) := by
  have hnumber := Value.number?_of_integer? h
  cases v with
  | int m =>
    obtain rfl := Option.some.inj h
    rfl
  | string s =>
    simp only [Value.opposite, Value.expectNumber, hnumber]
    rfl
  | _ => cases h

/-! ## Runs -/

/-- A run comes to the whole number that a formula stands for, as a value that counts as it, if no
part overflows; otherwise it ends with the overflow of a part. -/
inductive ComesTo (context : Context) (expr : Expr) (k : Int) :
    Except RuntimeError Value → Prop
  | value {v : Value} {n : Int64} : expr.StaysInRange context → v.integer? = some n →
      n.toInt = k → (v = .int n ∨ ∃ path, expr = .identifier path) →
      ComesTo context expr k (.ok v)
  | overflow {part : Expr} {op : String} : part ∈ expr.parts → part.Overflows context op →
      ComesTo context expr k (.error (.overflow op))

/-- The last step of a run: an operator whose operands stay in the range is checked. -/
theorem comesTo_integerResult {expr : Expr} {op : String} {k : Int}
    (hop : expr.operator? = some op) (hvalue : expr.wholeValue? context = some k)
    (hparts : ∀ part ∈ expr.parts, part = expr ∨ ∀ op, ¬ part.Overflows context op) :
    ComesTo context expr k (integerResult op (Integer.ofInt? k)) := by
  by_cases hrange : Integer.InRange k
  · obtain ⟨n, hn, hk⟩ := Integer.ofInt?_of_inRange hrange
    rw [hn]
    refine .value ?_ rfl hk (.inl rfl)
    intro part hpart other hoverflow
    rcases hparts part hpart with rfl | hnone
    · obtain ⟨-, j, hj, hout⟩ := hoverflow
      obtain rfl := Option.some.inj (hvalue.symm.trans hj)
      exact hout hrange
    · exact hnone other hoverflow
  · rw [Integer.ofInt?_of_not_inRange hrange]
    exact .overflow (Expr.self_mem_parts expr) ⟨hop, k, hvalue, hrange⟩

/-- **A formula over whole numbers comes to the one it stands for, or overflows.**  It can always
be bound, since it calls no function. -/
theorem eval_wholeValue? (registry : Registry) {expr : Expr} {k : Int}
    (h : expr.wholeValue? context = some k) :
    ∃ node, Node.bind registry expr = .ok node ∧ ComesTo context expr k (node.eval context) := by
  induction expr using Expr.induct generalizing k with
  | literal value =>
    cases value with
    | int n =>
      obtain rfl := Option.some.inj h
      refine ⟨.literal (.int n), rfl, ?_⟩
      rw [Node.eval]
      refine .value ?_ rfl rfl (.inl rfl)
      intro part hpart op hoverflow
      obtain rfl := Expr.mem_parts_literal.1 hpart
      cases hoverflow.1
    | _ => cases h
  | identifier path =>
    simp only [Expr.wholeValue?, Option.map_eq_some_iff, Option.bind_eq_some_iff] at h
    obtain ⟨n, ⟨v, hv, hn⟩, hk⟩ := h
    refine ⟨.identifier path, rfl, ?_⟩
    simp only [Node.eval, hv]
    refine .value ?_ hn hk (.inr ⟨path, rfl⟩)
    intro part hpart op hoverflow
    obtain rfl := Expr.mem_parts_identifier.1 hpart
    cases hoverflow.1
  | neg operand ih =>
    have hvalue := h
    simp only [Expr.wholeValue?, Option.map_eq_some_iff] at h
    obtain ⟨m, hm, rfl⟩ := h
    obtain ⟨node, hbind, hnode⟩ := ih hm
    refine ⟨.neg node, by simp only [Node.bind, hbind], ?_⟩
    rw [Node.eval_neg]
    generalize node.eval context = result at hnode
    cases hnode with
    | value hstays hn hm =>
      show ComesTo context _ _ (Value.opposite _)
      rw [Value.opposite_of_integer? hn, hm]
      refine comesTo_integerResult rfl hvalue ?_
      intro part hpart
      rcases Expr.mem_parts_neg.1 hpart with hself | hoperand
      · exact .inl hself
      · exact .inr (hstays part hoperand)
    | overflow hpart hoverflow =>
      exact .overflow (Expr.mem_parts_neg.2 (.inr hpart)) hoverflow
  | binary op left right ihleft ihright =>
    have hvalue := h
    simp only [Expr.wholeValue?, Option.bind_eq_bind, Option.bind_eq_some_iff] at h
    obtain ⟨m, hm, n, hn, hk⟩ := h
    obtain ⟨l, hl, hleft⟩ := ihleft hm
    obtain ⟨r, hr, hright⟩ := ihright hn
    refine ⟨.binary op l r, by simp only [Node.bind, hl, hr], ?_⟩
    have hop : op.isLogical = false := by
      cases op with
      | and => cases hk
      | or => cases hk
      | _ => rfl
    rw [Node.eval_strict hop]
    generalize l.eval context = leftResult at hleft
    generalize r.eval context = rightResult at hright
    cases hleft with
    | overflow hpart hoverflow =>
      exact .overflow (Expr.mem_parts_binary.2 (.inr (.inl hpart))) hoverflow
    | value hleftStays ha hm =>
      cases hright with
      | overflow hpart hoverflow =>
        exact .overflow (Expr.mem_parts_binary.2 (.inr (.inr hpart))) hoverflow
      | value hrightStays hb hn =>
        show ComesTo context _ _ (op.apply _ _)
        rw [BinaryOp.apply_of_integers (Value.number?_of_integer? ha) (Value.number?_of_integer? hb)
          (by rw [hm, hn, hk])]
        refine comesTo_integerResult rfl hvalue ?_
        intro part hpart
        rcases Expr.mem_parts_binary.1 hpart with hself | hinLeft | hinRight
        · exact .inl hself
        · exact .inr (hleftStays part hinLeft)
        · exact .inr (hrightStays part hinRight)
  | call name args ih => cases h

/-! ## Programs and texts -/

/-- A result is the whole number that a formula stands for, if no part overflows, and the overflow
of a part otherwise. -/
structure ExactOrOverflow (context : Context) (expr : Expr) (k : Int)
    (result : Except RuntimeError Value) : Prop where
  exactly : expr.StaysInRange context → ∃ n : Int64, n.toInt = k ∧ result = .ok (.int n)
  reported : ¬ expr.StaysInRange context →
    ∃ part ∈ expr.parts, ∃ op, part.Overflows context op ∧ result = .error (.overflow op)

theorem ComesTo.exactOrOverflow {expr : Expr} {k : Int} {result : Except RuntimeError Value}
    (h : ComesTo context expr k result) (hroot : ∀ path, expr ≠ .identifier path) :
    ExactOrOverflow context expr k result := by
  cases h with
  | @value v n hstays _ hk hint =>
    have hv : v = .int n := by
      rcases hint with hv | ⟨path, hpath⟩
      · exact hv
      · exact absurd hpath (hroot path)
    exact ⟨fun _ => ⟨n, hk, by rw [hv]⟩, fun hnot => absurd hstays hnot⟩
  | @overflow part op hpart hoverflow =>
    refine ⟨fun hstays => absurd hoverflow (hstays part hpart op), ?_⟩
    intro _
    exact ⟨part, hpart, op, hoverflow, rfl⟩

/-- A minus sign stands for the same whole number whether the reader takes it into a literal or
not, and if it does, no operator is lost that overflows. -/
theorem wholeValue?_of_negated {inner expr : Expr} {k : Int} (hnegated : Grammar.Negated inner expr)
    (h : expr.wholeValue? context = some k) :
    (Expr.neg inner).wholeValue? context = some k ∧
      ((Expr.neg inner).StaysInRange context ↔ expr.StaysInRange context) := by
  cases hnegated with
  | @int m n hn =>
    obtain rfl := Option.some.inj h
    have hvalue : (Expr.neg (.literal (.int m))).wholeValue? context = some n.toInt := by
      rw [hn]
      rfl
    refine ⟨hvalue, iff_of_true ?_ ?_⟩
    · intro part hpart op hoverflow
      rcases Expr.mem_parts_neg.1 hpart with rfl | hliteral
      · obtain ⟨-, j, hj, hout⟩ := hoverflow
        obtain rfl := Option.some.inj (hvalue.symm.trans hj)
        exact hout (Integer.inRange_toInt n)
      · obtain rfl := Expr.mem_parts_literal.1 hliteral
        cases hoverflow.1
    · intro part hpart op hoverflow
      obtain rfl := Expr.mem_parts_literal.1 hpart
      cases hoverflow.1
  | float x => cases h
  | other hnumber => exact ⟨h, Iff.rfl⟩

/-- **Integer arithmetic is exact or reported.**  A formula that stands for a whole number, and is
not just an identifier, has it as its value if every operator in it makes an integer of sixty-four
bits; otherwise its run ends with the overflow of such an operator.  So it is for programs, for
texts in an engine after any calls, and for minus signs that the reader takes into literals. -/
theorem integer_arithmetic_exact (registry : Registry) {expr : Expr} {k : Int}
    (hroot : ∀ path, expr ≠ .identifier path) (h : expr.wholeValue? context = some k) :
    (∀ source, ∃ program, Program.compile source expr registry = .ok program ∧
      ExactOrOverflow context expr k (program.run context)) ∧
    (∀ calls text, parse text = .ok expr → ∃ result, ExactOrOverflow context expr k result ∧
      (((Engine.ofRegistry registry).performAll calls).2.evaluate text context).1 =
        result.mapError .run) ∧
    ∀ inner, Grammar.Negated inner expr →
      (Expr.neg inner).wholeValue? context = some k ∧
        ((Expr.neg inner).StaysInRange context ↔ expr.StaysInRange context) := by
  refine ⟨?_, ?_, ?_⟩
  · intro source
    obtain ⟨node, hbind, hnode⟩ := eval_wholeValue? registry h
    refine ⟨⟨source, node, registry.epoch, expr.functionNames⟩, ?_, hnode.exactOrOverflow hroot⟩
    simp only [Program.compile, hbind]
  · intro calls text hparse
    obtain ⟨-, -, hfaithful⟩ :=
      Engine.performAll_spec (Engine.faithful_ofRegistry registry) calls
    obtain ⟨node, hbind, hnode⟩ :=
      eval_wholeValue? ((Engine.ofRegistry registry).performAll calls).2.registry h
    refine ⟨node.eval context, hnode.exactOrOverflow hroot, ?_⟩
    rw [hfaithful.evaluate_eq, Engine.valueAnew_eq_eval, hparse]
    simp only [Except.mapError, Except.bind, hbind]
  · intro inner hnegated
    exact wholeValue?_of_negated hnegated h

/-- A text that counts as twelve and a folded minus sign lead to the least integer; its opposite is
out of the range, although the number before it would be an integer again. -/
theorem integer_arithmetic_exact_least :
    let context : Context := [("a", .string " +12 "), ("least", .int (-9223372036854775808))]
    let value (text : String) := ((Engine.ofRegistry .empty).evaluate text context).1
    value "-9223372036854775807 - (a - 11)" = .ok (.int (-9223372036854775808)) ∧
      value "-least - 1" = .error (.run (.overflow "-")) := by
  intro context value
  let a : Expr := .binary .sub (.identifier ⟨["a"]⟩) (.literal (.int 11))
  let sum : Expr := .binary .sub (.literal (.int (-9223372036854775807))) a
  let opposite : Expr := .neg (.identifier ⟨["least"]⟩)
  let greatest : Expr := .binary .sub opposite (.literal (.int 1))
  have hsum : parse "-9223372036854775807 - (a - 11)" = .ok sum := by decide +kernel
  have hgreatest : parse "-least - 1" = .ok greatest := by decide +kernel
  have hvalue : sum.wholeValue? context = some (-9223372036854775808) := by decide +kernel
  have hout : greatest.wholeValue? context = some 9223372036854775807 := by decide +kernel
  have hsymbols : ∀ part ∈ greatest.parts, ∀ op ∈ part.operator?, op = "-" := by decide +kernel
  obtain ⟨-, hexact, -⟩ := integer_arithmetic_exact .empty (by intro path; simp [sum]) hvalue
  obtain ⟨-, hreported, -⟩ := integer_arithmetic_exact .empty (by intro path; simp [greatest]) hout
  constructor
  · obtain ⟨result, hresult, hevaluate⟩ := hexact [] _ hsum
    obtain ⟨n, hn, rfl⟩ := hresult.exactly (by decide +kernel)
    have hleast : n = -9223372036854775808 := Int64.toInt_inj.1 hn
    exact hleast ▸ hevaluate
  · obtain ⟨result, hresult, hevaluate⟩ := hreported [] _ hgreatest
    obtain ⟨part, hpart, op, ⟨hop, -⟩, rfl⟩ := hresult.reported (by decide +kernel)
    exact hsymbols part hpart op hop ▸ hevaluate

end Formulary
