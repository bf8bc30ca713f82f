import Formulary.Proofs.Expr.Parts
import Formulary.Proofs.Expr.Printing
import Formulary.Proofs.Function.Round
import Formulary.Proofs.Program.Calls

/-!
# Binary numbers that a formula lets out

Arithmetic has only finite results, but not every binary number is a result of arithmetic.
From a context with finite numbers only, a formula never has a NaN, and it has an infinity only
if one of its literals is one or the product of one of its roundings is.

* `Value.floats` — the binary numbers in a value, at any depth;
* `Expr.floats_of_hasValue` — what holds of the binary numbers of the context and of the parts
  holds of those of the value;
* `Expr.LeavesRange` — a part that is not finite although all that it is made of is;
* `evaluate_finite` — every infinity comes from such a part.
-/

namespace Formulary

/-! ## The binary numbers in a value -/

namespace Value

mutual

/-- The binary numbers in a value, at any depth. -/
def floats : Value → List Binary64
  | .float x => [x]
  | .list items => floatsOfItems items
  | .map fields => floatsOfFields fields
  | _ => []

/-- The binary numbers in some values. -/
def floatsOfItems : List Value → List Binary64
  | [] => []
  | value :: rest => floats value ++ floatsOfItems rest

/-- The binary numbers in the values of some fields. -/
def floatsOfFields : List (String × Value) → List Binary64
  | [] => []
  | (_, value) :: rest => floats value ++ floatsOfFields rest

end

variable {x : Binary64} {value : Value}

theorem floats_subset_fields {fields : Fields Value} {name : String}
    (h : (name, value) ∈ fields) : value.floats ⊆ floatsOfFields fields := by
  induction fields with
  | nil => cases h
  | cons field rest ih =>
    rw [floatsOfFields]
    rcases List.mem_cons.1 h with rfl | hlater
    · exact List.subset_append_left _ _
    · exact List.Subset.trans (ih hlater) (List.subset_append_right _ _)

theorem floats_getPath? {names : List String} {outer : Value}
    (h : getPath? names outer = some value) : value.floats ⊆ outer.floats := by
  induction names generalizing outer with
  | nil =>
    obtain rfl := Option.some.inj h
    exact fun x hx => hx
  | cons name rest ih =>
    cases outer with
    | map fields =>
      rw [getPath?] at h
      obtain ⟨inner, hget, hpath⟩ := Option.bind_eq_some_iff.1 h
      exact List.Subset.trans (ih hpath) (floats_subset_fields (Fields.mem_of_get? hget))
    | _ => cases h

/-- What an identifier means is part of the context. -/
theorem floats_resolve {context : Context} {path : Path}
    (h : Node.resolve context path = some value) : value.floats ⊆ floatsOfFields context := by
  unfold Node.resolve at h
  split at h
  · cases h
  · obtain ⟨root, hget, hpath⟩ := Option.bind_eq_some_iff.1 h
    exact List.Subset.trans (floats_getPath? hpath)
      (floats_subset_fields (Fields.mem_of_get? hget))

/-- The binary number that a value counts as is the value itself, or it is finite. -/
theorem mem_floats_of_number? {n : Number} (h : value.number? = some n) :
    n.toFloat ∈ value.floats ∨ n.toFloat.isFinite = true := by
  cases value with
  | int m =>
    obtain rfl := Option.some.inj h
    exact .inr (Binary64.isFinite_ofInt m)
  | float y =>
    obtain rfl := Option.some.inj h
    exact .inl (List.mem_singleton_self y)
  | string s =>
    right
    have hs : Number.ofText? s = some n := h
    unfold Number.ofText? at hs
    simp only at hs
    split at hs
    · obtain rfl := Option.some.inj hs
      exact Binary64.isFinite_ofInt _
    · obtain ⟨y, hy, rfl⟩ := Option.map_eq_some_iff.1 hs
      exact (Option.filter_eq_some_iff.1 hy).2
  | _ => cases h

end Value

/-! ## Operators -/

theorem Binary64.isFinite_neg (x : Binary64) : x.neg.isFinite = x.isFinite := by
  cases x <;> rfl

theorem finiteResult_cases (op : String) (x : Binary64) :
    (∃ v, finiteResult op x = .ok v ∧ ∀ y ∈ v.floats, y.isFinite = true) ∨
      finiteResult op x = .error (.overflow op) := by
  unfold finiteResult
  split
  · next hfinite =>
    refine .inl ⟨_, rfl, fun y hy => ?_⟩
    rw [List.mem_singleton.1 hy]
    exact hfinite
  · exact .inr rfl

theorem integerResult_cases (op : String) (n : Option Int64) :
    (∃ v, integerResult op n = .ok v ∧ v.floats = []) ∨
      integerResult op n = .error (.overflow op) := by
  cases n with
  | none => exact .inr rfl
  | some m => exact .inl ⟨_, rfl, rfl⟩

/-- The opposite of a value has no binary number but that of the one that the value counts as. -/
theorem Value.floats_opposite {value v : Value} (h : value.opposite = .ok v) {x : Binary64}
    (hx : x ∈ v.floats) : ∃ n, value.number? = some n ∧ x = n.toFloat.neg := by
  unfold opposite at h
  split at h
  · obtain rfl := Except.ok.inj h
    cases hx
  · unfold expectNumber at h
    cases hnumber : value.number? with
    | none =>
      rw [hnumber] at h
      cases h
    | some n =>
      rw [hnumber] at h
      cases n with
      | int m =>
        rcases integerResult_cases "-" (Integer.neg? m) with ⟨w, hw, hnone⟩ | hoverflow
        · obtain rfl := Except.ok.inj (hw.symm.trans h)
          rw [hnone] at hx
          cases hx
        · cases hoverflow.symm.trans h
      | float y =>
        obtain rfl := Except.ok.inj h
        exact ⟨_, rfl, List.mem_singleton.1 hx⟩

namespace BinaryOp

/-- An operator on two numbers has a finite result, divides by zero, or overflows. -/
theorem onNumbers_cases (op : BinaryOp) (a b : Number) :
    (∃ v, op.onNumbers a b = .ok v ∧ ∀ x ∈ v.floats, x.isFinite = true) ∨
      op.onNumbers a b = .error .divisionByZero ∨
      op.onNumbers a b = .error (.overflow op.symbol) := by
  unfold onNumbers
  split
  · split
    · exact .inr (.inl rfl)
    · exact (finiteResult_cases _ _).imp_right .inr
  · split
    · rcases integerResult_cases op.symbol (op.onIntegers _ _) with ⟨v, hv, hnone⟩ | hoverflow
      · exact .inl ⟨v, hv, by simp [hnone]⟩
      · exact .inr (.inr hoverflow)
    · exact (finiteResult_cases _ _).imp_right .inr

theorem isFinite_of_calculate {op : BinaryOp} {a b v : Value} (h : op.calculate a b = .ok v) :
    ∀ x ∈ v.floats, x.isFinite = true := by
  unfold calculate at h
  split at h
  · obtain rfl := Except.ok.inj h
    exact fun x hx => absurd hx List.not_mem_nil
  · split at h
    · cases h
    · split at h
      · cases h
      · next m _ _ n _ =>
        rcases op.onNumbers_cases m n with ⟨w, hw, hfinite⟩ | hzero | hoverflow
        · obtain rfl := Except.ok.inj (hw.symm.trans h)
          exact hfinite
        · cases hzero.symm.trans h
        · cases hoverflow.symm.trans h

/-- The result of an operator has only finite numbers, whatever its operands are. -/
theorem isFinite_of_apply {op : BinaryOp} {a b v : Value} (h : op.apply a b = .ok v) :
    ∀ x ∈ v.floats, x.isFinite = true := by
  unfold apply at h
  split at h
  · obtain rfl := Except.ok.inj h
    exact fun x hx => absurd hx List.not_mem_nil
  · split at h
    · unfold testOrder at h
      split at h
      · obtain rfl := Except.ok.inj h
        exact fun x hx => absurd hx List.not_mem_nil
      · split at h
        · obtain rfl := Except.ok.inj h
          exact fun x hx => absurd hx List.not_mem_nil
        · cases h
    · exact isFinite_of_calculate h

end BinaryOp

/-! ## Functions -/

/-- Of the functions of the language only the rounding gives a binary number. -/
theorem Builtin.floats_of_gives {surroundings : Surroundings} {builtin : Builtin}
    {args : List Value} {v : Value} (hmem : builtin ∈ all)
    (h : builtin.Gives surroundings args v) :
    v.floats = [] ∨ builtin.name = "ROUND" ∧ ∃ value places x p, args = [value, places] ∧
      value.float? = some x ∧ places.int? = some p ∧
      v = .float (roundHalfUp x (clampPlaces p.toInt)) := by
  obtain ⟨function, haction, h⟩ := h
  have hofText : ∀ {name result}, (∀ s, Value.floats (result s) = []) →
      ofText name result args = .ok v → v.floats = [] := by
    intro name result hresult htext
    rcases ofText_eq_ok htext with ⟨-, rfl⟩ | ⟨s, -, rfl⟩
    · rfl
    · exact hresult s
  have hlike : ∀ {name pattern}, like name pattern args = .ok v → v.floats = [] := by
    intro name pattern htext
    obtain ⟨b, rfl⟩ := like_eq_ok htext
    rfl
  -- one case for every function of the table, in its order
  simp only [all, List.mem_cons, List.not_mem_nil, or_false] at hmem
  rcases hmem with rfl | rfl | rfl | rfl | rfl | rfl | rfl | rfl | rfl | rfl | rfl | rfl
  · cases haction
    obtain rfl := constant_eq_ok h
    exact .inl rfl
  · cases haction
    obtain rfl := constant_eq_ok h
    exact .inl rfl
  · cases haction
    rcases dateAdd_eq_ok h with rfl | ⟨date, rfl⟩
    · exact .inl rfl
    · exact .inl rfl
  · cases haction
    exact .inl (hofText (fun _ => rfl) h)
  · cases haction
    exact .inl (hofText (fun _ => rfl) h)
  · cases haction
    exact .inl (hofText (fun _ => rfl) h)
  · cases haction
    exact .inl (hlike h)
  · cases haction
    exact .inl (hlike h)
  · cases haction
    exact .inl (hlike h)
  · cases haction
    rcases round_eq_ok h with rfl | hround
    · exact .inl rfl
    · exact .inr ⟨rfl, hround⟩
  · cases haction
  · cases haction
    exact .inl (hofText (fun _ => rfl) h)

/-! ## Formulas -/

namespace Expr

/-- A call rounds a number to a number of decimal places. -/
def Rounds (registry : Registry) (context : Context) (part : Expr) (x : Binary64)
    (places : Int) : Prop :=
  ∃ name value count w q p, part = .call name [value, count] ∧ Text.upper name = "ROUND" ∧
    value.HasValue registry context w ∧ w.float? = some x ∧
    count.HasValue registry context q ∧ q.int? = some p ∧ places = Builtin.clampPlaces p.toInt

/-- A part of a formula has a property of binary numbers as a literal, and keeps it as a
rounding. -/
structure Keeps (good : Binary64 → Prop) (registry : Registry) (context : Context)
    (part : Expr) : Prop where
  literal : ∀ x, part = .literal (.float x) → good x
  round : ∀ x places, part.Rounds registry context x places → good x →
    good (Builtin.roundHalfUp x places)

variable {surroundings : Surroundings} {context : Context} {good : Binary64 → Prop}

theorem good_of_number? (hfinite : ∀ x, x.isFinite = true → good x) {value : Value}
    (hvalue : ∀ x ∈ value.floats, good x) {n : Number} (h : value.number? = some n) :
    good n.toFloat := by
  rcases Value.mem_floats_of_number? h with hmem | hisFinite
  · exact hvalue _ hmem
  · exact hfinite _ hisFinite

/-- **What holds of the binary numbers that a formula starts from holds of those that it ends
with**, if it holds of all finite numbers and does not depend on the sign. -/
theorem floats_of_hasValue (hfinite : ∀ x, x.isFinite = true → good x)
    (hneg : ∀ x, good x → good x.neg) (hcontext : ∀ x ∈ Value.floatsOfFields context, good x)
    {expr : Expr} (hparts : ∀ part ∈ expr.parts, part.Keeps good (.standard surroundings) context)
    {v : Value} (h : expr.HasValue (.standard surroundings) context v) :
    ∀ x ∈ v.floats, good x := by
  induction expr using Expr.induct generalizing v with
  | literal value =>
    obtain rfl := hasValue_literal.1 h
    intro x hx
    cases value with
    | float y =>
      obtain rfl := List.mem_singleton.1 hx
      exact (hparts _ (self_mem_parts _)).literal x rfl
    | _ => cases hx
  | identifier path =>
    have hresolve := hasValue_identifier.1 h
    exact fun x hx => hcontext x (Value.floats_resolve hresolve hx)
  | neg operand ih =>
    obtain ⟨w, hw, hopposite⟩ := h.neg
    intro x hx
    obtain ⟨n, hn, rfl⟩ := Value.floats_opposite hopposite hx
    have hoperand := ih (fun part hpart => hparts part (mem_parts_neg.2 (.inr hpart))) hw
    exact hneg _ (good_of_number? hfinite hoperand hn)
  | binary op left right ihl ihr =>
    cases hop : op.isLogical with
    | true =>
      obtain ⟨a, -, ⟨-, rfl⟩ | ⟨-, b, -, rfl⟩⟩ := h.logical hop
      · exact fun x hx => absurd hx List.not_mem_nil
      · exact fun x hx => absurd hx List.not_mem_nil
    | false =>
      obtain ⟨a, b, -, -, happly⟩ := h.binary hop
      exact fun x hx => hfinite x (BinaryOp.isFinite_of_apply happly x hx)
  | call name args ih =>
    have hargs : ∀ arg ∈ args, ∀ {w}, arg.HasValue (.standard surroundings) context w →
        ∀ x ∈ w.floats, good x := fun arg harg _ hw =>
      ih arg harg (fun part hpart => hparts part (mem_parts_call.2 (.inr ⟨arg, harg, hpart⟩))) hw
    obtain ⟨builtin, hlookup, ⟨values, hvalues, hgives⟩ | ⟨-, hchooses⟩⟩ := h.standard_call
    · rcases Builtin.floats_of_gives (List.mem_of_find?_eq_some hlookup) hgives with
        hnone | ⟨hround, w, q, x, p, rfl, hx, hp, rfl⟩
      · rw [hnone]
        exact fun x hx => absurd hx List.not_mem_nil
      · obtain ⟨value, others, hvalue, hothers, rfl⟩ := List.forall₂_cons_right_iff.1 hvalues
        obtain ⟨count, rest, hcount, hrest, rfl⟩ := List.forall₂_cons_right_iff.1 hothers
        obtain rfl := List.forall₂_nil_right_iff.1 hrest
        intro y hy
        obtain rfl := List.mem_singleton.1 hy
        obtain ⟨n, hn, rfl⟩ := Option.map_eq_some_iff.1 hx
        have hname : Text.upper name = "ROUND" := by
          rw [← Builtin.name_of_lookup? hlookup, hround]
        have hgood := good_of_number? hfinite (hargs value (by simp) hvalue) hn
        refine (hparts _ (self_mem_parts _)).round _ _ ?_ hgood
        exact ⟨name, value, count, w, q, p, rfl, hname, hvalue, hx, hcount, hp, rfl⟩
    · obtain ⟨arg, harg, hvalue⟩ := hchooses.exists_mem
      exact hargs arg harg hvalue

/-! ## Out of range -/

/-- A part of a formula that is not finite although all that it is made of is: a literal that
writes too large a number, or a rounding whose product is too large. -/
def LeavesRange (registry : Registry) (context : Context) (part : Expr) : Prop :=
  (∃ x, part = .literal (.float x) ∧ x.isFinite = false) ∨
    ∃ x places, part.Rounds registry context x places ∧ x.isFinite = true ∧
      (Builtin.roundingProduct x places).isFinite = false

/-- A part that stays in the range has finite numbers if those that it is made of are finite. -/
theorem keeps_isFinite {registry : Registry} {part : Expr}
    (h : ¬ part.LeavesRange registry context) :
    part.Keeps (fun x => x.isFinite = true) registry context where
  literal x hx := by
    by_contra hinfinite
    exact h (.inl ⟨x, hx, by simpa using hinfinite⟩)
  round x places hrounds hx := by
    have hplaces : places.natAbs ≤ 308 := by
      obtain ⟨_, _, _, _, _, p, -, -, -, -, -, -, rfl⟩ := hrounds
      exact Builtin.natAbs_clampPlaces_le p.toInt
    by_contra hinfinite
    rw [Builtin.isFinite_roundHalfUp x hplaces] at hinfinite
    exact h (.inr ⟨x, places, hrounds, hx, by simpa using hinfinite⟩)

theorem canonical_of_mem_parts {expr part : Expr} (h : Grammar.Canonical expr)
    (hpart : part ∈ expr.parts) : Grammar.Canonical part := by
  induction expr using Expr.induct with
  | literal value => rwa [mem_parts_literal.1 hpart]
  | identifier path => rwa [mem_parts_identifier.1 hpart]
  | neg operand ih =>
    rcases mem_parts_neg.1 hpart with rfl | hoperand
    · exact h
    · cases h with
      | neg _ hcanonical => exact ih hcanonical hoperand
  | binary op left right ihl ihr =>
    rcases mem_parts_binary.1 hpart with rfl | hleft | hright
    · exact h
    · cases h with
      | binary _ hl _ => exact ihl hl hleft
    · cases h with
      | binary _ _ hr => exact ihr hr hright
  | call name args ih =>
    rcases mem_parts_call.1 hpart with rfl | ⟨arg, harg, hpart⟩
    · exact h
    · cases h with
      | call _ hargs => exact ih arg harg (hargs arg harg) hpart

/-- No literal is a NaN, and no rounding makes one. -/
theorem keeps_ne_nan {registry : Registry} {part : Expr} (h : Grammar.Canonical part) :
    part.Keeps (fun x => x ≠ .nan) registry context where
  literal x hx := by
    subst hx
    cases h with
    | literal _ hnan => simpa using hnan
  round x places hrounds hx := by
    obtain ⟨_, _, _, _, _, p, -, -, -, -, -, -, rfl⟩ := hrounds
    exact Builtin.roundHalfUp_ne_nan hx (Builtin.natAbs_clampPlaces_le p.toInt)

/-- A part that leaves the range has an infinity as its value. -/
theorem LeavesRange.not_isFinite {part : Expr}
    (h : part.LeavesRange (.standard surroundings) context) {v : Value}
    (hv : part.HasValue (.standard surroundings) context v) :
    ∃ x ∈ v.floats, x.isFinite = false := by
  rcases h with ⟨x, rfl, hx⟩ | ⟨x, places, hrounds, -, hproduct⟩
  · obtain rfl := hasValue_literal.1 hv
    exact ⟨x, List.mem_singleton_self x, hx⟩
  · obtain ⟨name, value, count, w, q, p, rfl, hname, hw, hx, hq, hp, rfl⟩ := hrounds
    obtain ⟨builtin, hlookup, ⟨values, hvalues, function, haction, hgives⟩ | ⟨haction, -⟩⟩ :=
      hv.standard_call
    · obtain ⟨w', _, hw', hothers, rfl⟩ := List.forall₂_cons_left_iff.1 hvalues
      obtain ⟨q', _, hq', hrest, rfl⟩ := List.forall₂_cons_left_iff.1 hothers
      obtain rfl := List.forall₂_nil_left_iff.1 hrest
      obtain rfl := hw.unique hw'
      obtain rfl := hq.unique hq'
      cases haction.symm.trans (Builtin.action_of_round hname hlookup)
      obtain rfl := Except.ok.inj ((Builtin.round_of_numbers hx hp).symm.trans hgives)
      refine ⟨_, List.mem_singleton_self _, ?_⟩
      rwa [Builtin.isFinite_roundHalfUp x (Builtin.natAbs_clampPlaces_le p.toInt)]
    · cases haction.symm.trans (Builtin.action_of_round hname hlookup)

end Expr

/-! ## Whole texts -/

/-- **Every infinity comes from a literal or from a rounding.**  From a context with finite
numbers only no text has a NaN in its value, and the value is finite unless some part of the
formula is a literal or a rounding that is too large, which has an infinity as its value then.
An operator on two numbers never does: it has a finite result, or reports a division by zero
or an overflow. -/
theorem evaluate_finite (surroundings : Surroundings) (text : String) {context : Context}
    (hcontext : ∀ x ∈ Value.floatsOfFields context, x.isFinite = true) {v : Value}
    (h : ((Engine.new surroundings).evaluate text context).1 = .ok v) :
    (∀ x ∈ v.floats, x ≠ .nan) ∧
    (∃ expr, parse text = .ok expr ∧
      ((∀ part ∈ expr.parts, ¬ part.LeavesRange (.standard surroundings) context) →
        ∀ x ∈ v.floats, x.isFinite = true) ∧
      ∀ part ∈ expr.parts, part.LeavesRange (.standard surroundings) context →
        ∀ w, part.HasValue (.standard surroundings) context w →
          ∃ x ∈ w.floats, x.isFinite = false) ∧
    ∀ (op : BinaryOp) (a b : Number),
      (∃ w, op.onNumbers a b = .ok w ∧ ∀ x ∈ w.floats, x.isFinite = true) ∨
        op.onNumbers a b = .error .divisionByZero ∨
        op.onNumbers a b = .error (.overflow op.symbol) := by
  obtain ⟨expr, hparse, hvalue⟩ := evaluate_new.1 h
  have hne : ∀ x : Binary64, x.isFinite = true → x ≠ .nan := by
    rintro x hx rfl
    cases hx
  have hcanonical := Grammar.canonical_of_parse hparse
  refine ⟨?_, ⟨expr, hparse, fun hparts => ?_, fun part _ hleaves w hw => hleaves.not_isFinite hw⟩,
    BinaryOp.onNumbers_cases⟩
  · exact Expr.floats_of_hasValue hne (fun _ => Grammar.neg_ne_nan)
      (fun x hx => hne x (hcontext x hx))
      (fun part hpart => Expr.keeps_ne_nan (Expr.canonical_of_mem_parts hcanonical hpart)) hvalue
  · exact Expr.floats_of_hasValue (fun _ hx => hx) (fun x hx => by rwa [Binary64.isFinite_neg])
      hcontext (fun part hpart => Expr.keeps_isFinite (hparts part hpart)) hvalue

theorem evaluate_finite_price :
    let context : Context := [("price", .float .half)]
    let value : Value := .float (Binary64.neg .half)
    (∀ x ∈ Value.floatsOfFields context, x.isFinite = true) ∧
      ((Engine.new ⟨"", "", id⟩).evaluate "-price" context).1 = .ok value ∧
      (∀ x ∈ value.floats, x ≠ .nan) ∧ ∀ x ∈ value.floats, x.isFinite = true := by
  intro context value
  have hparse : parse "-price" = .ok (.neg (.identifier ⟨["price"]⟩)) := by decide +kernel
  have hhalf : Binary64.half.isFinite = true := by
    rw [Binary64.half_eq]
    rfl
  have hcontext : ∀ x ∈ Value.floatsOfFields context, x.isFinite = true := by
    intro x hx
    rw [List.mem_singleton.1 hx, hhalf]
  have hvalue : ((Engine.new ⟨"", "", id⟩).evaluate "-price" context).1 = .ok value :=
    evaluate_new.2 ⟨_, hparse, _, rfl, rfl⟩
  obtain ⟨hnan, ⟨expr, hexpr, hfinite, -⟩, -⟩ := evaluate_finite _ _ hcontext hvalue
  obtain rfl := Except.ok.inj (hparse.symm.trans hexpr)
  refine ⟨hcontext, hvalue, hnan, hfinite fun part hpart hleaves => ?_⟩
  -- neither part is a literal or a call
  rcases Expr.mem_parts_neg.1 hpart with rfl | hidentifier
  · rcases hleaves with ⟨x, heq, -⟩ | ⟨x, places, ⟨_, _, _, _, _, _, heq, -⟩, -⟩ <;> cases heq
  · obtain rfl := Expr.mem_parts_identifier.1 hidentifier
    rcases hleaves with ⟨x, heq, -⟩ | ⟨x, places, ⟨_, _, _, _, _, _, heq, -⟩, -⟩ <;> cases heq

/-- Ten is rounded to infinity, since its product with 10³⁰⁸ is one, and so is a literal of more
than three hundred digits. -/
theorem evaluate_infinite :
    let value (text : String) := ((Engine.new ⟨"", "", id⟩).evaluate text []).1
    value "ROUND(10, 308)" = .ok (.float (.infinite false)) ∧
      value (String.ofList ('1' :: List.replicate 309 '0' ++ ['.', '0'])) =
        .ok (.float (.infinite false)) := by
  intro value
  have hround : parse "ROUND(10, 308)" =
      .ok (.call "ROUND" [.literal (.int 10), .literal (.int 308)]) := by
    decide +kernel
  have hrounded : Builtin.roundHalfUp (Binary64.ofInt (10 : Int64).toInt)
      (Builtin.clampPlaces (308 : Int64).toInt) = .infinite false := by
    decide +kernel
  have hliteral : parse (String.ofList ('1' :: List.replicate 309 '0' ++ '.' :: ['0'])) =
      .ok (.literal (.float (.infinite false))) := by
    apply Grammar.parse_of_writesOperand
    rw [String.toList_ofList]
    have hwhole : Grammar.Digits ('1' :: List.replicate 309 '0') := by
      refine ⟨List.cons_ne_nil _ _, fun c hc => ?_⟩
      rcases List.mem_cons.1 hc with rfl | hzero
      · rfl
      · rw [List.eq_of_mem_replicate hzero]
        rfl
    have hfraction : Grammar.Digits ['0'] := ⟨by simp, by simp⟩
    have hmeans := Grammar.LiteralMeans.fraction ('1' :: List.replicate 309 '0') ['0']
    have hvalue : Binary64.ofRatio false
        (Grammar.numeral ('1' :: List.replicate 309 '0' ++ ['0']) * unitsPerOne)
        (10 ^ (['0'] : List Char).length) = .infinite false := by
      decide +kernel
    rw [hvalue] at hmeans
    exact Grammar.writesOperand_literal (.fraction hwhole hfraction) hmeans
  refine ⟨evaluate_new.2 ⟨_, hround, _, rfl, ?_⟩, evaluate_new.2 ⟨_, hliteral, _, rfl, rfl⟩⟩
  rw [← hrounded]
  rfl

end Formulary
