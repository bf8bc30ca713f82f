import Formulary.Proofs.Program.Operators

/-!
# Tests of equality and order

The six tests on values are coherent: where two values have an order at all, every test asks
something of it, and equality is one of its three cases.

* `Value.compare?_swap`, `Value.equals_comm` — changing sides;
* `Value.equals_of_compare?` — values are equal if that is their order;
* `apply_of_compare?` — every test asks for some of the three cases;
* `tests_coherent` — with null, without an order, or with one.
-/

namespace Formulary

/-! ## Numbers -/

namespace Binary64

/-- Changing sides turns the order of two numbers round. -/
theorem compare?_swap (x y : Binary64) : compare? y x = (compare? x y).map Ordering.swap := by
  cases x with
  | nan => cases y <;> rfl
  | infinite a =>
    cases y with
    | nan => rfl
    | infinite b => cases a <;> cases b <;> rfl
    | finite b n hn => cases a <;> rfl
  | finite a m hm =>
    cases y with
    | nan => rfl
    | infinite b => cases b <;> rfl
    | finite b n hn => simp only [compare?, Option.map_some, Int.compare_swap]

theorem equal_comm (x y : Binary64) : y.equal x = x.equal y := by
  unfold equal
  rw [compare?_swap x y]
  cases compare? x y with
  | none => rfl
  | some o => cases o <;> rfl

end Binary64

namespace Value

/-! ## Identity -/

mutual

theorem same_comm : ∀ a b : Value, same b a = same a b
  | .null, b => by cases b <;> simp [same]
  | .bool m, b => by
    cases b with
    | bool n => simp only [same, BEq.comm]
    | _ => simp [same]
  | .int m, b => by
    cases b with
    | int n => simp only [same, BEq.comm]
    | _ => simp [same]
  | .float x, b => by
    cases b with
    | float y => simp only [same, Binary64.equal_comm x y]
    | _ => simp [same]
  | .string s, b => by
    cases b with
    | string t => simp only [same, BEq.comm]
    | _ => simp [same]
  | .list as, b => by
    cases b with
    | list bs => simp only [same, sameItems_comm as bs]
    | _ => simp [same]
  | .map as, b => by
    cases b with
    | map bs => simp only [same, sameFields_comm as bs]
    | _ => simp [same]

theorem sameItems_comm : ∀ as bs : List Value, sameItems bs as = sameItems as bs
  | [], bs => by cases bs <;> simp [sameItems]
  | a :: as, bs => by
    cases bs with
    | nil => simp [sameItems]
    | cons b bs => simp only [sameItems, same_comm a b, sameItems_comm as bs]

theorem sameFields_comm :
    ∀ as bs : List (String × Value), sameFields bs as = sameFields as bs
  | [], bs => by cases bs <;> simp [sameFields]
  | (m, a) :: as, bs => by
    cases bs with
    | nil => simp [sameFields]
    | cons field bs =>
      obtain ⟨n, b⟩ := field
      simp only [sameFields, same_comm a b, sameFields_comm as bs, BEq.comm (a := m)]

end

/-! ## Both sides of a test -/

/-- Two values are neither two integers nor two texts. -/
structure Mixed (a b : Value) : Prop where
  not_ints : ∀ m n, ¬ (a = .int m ∧ b = .int n)
  not_texts : ∀ s t, ¬ (a = .string s ∧ b = .string t)

theorem Mixed.symm {a b : Value} (h : Mixed a b) : Mixed b a where
  not_ints m n both := h.not_ints n m both.symm
  not_texts s t both := h.not_texts t s both.symm

/-- Two integers and two texts are compared among themselves, all others by their numbers. -/
theorem sides_cases (a b : Value) :
    (∃ m n, a = .int m ∧ b = .int n) ∨ (∃ s t, a = .string s ∧ b = .string t) ∨ Mixed a b := by
  by_cases hints : ∃ m n, a = .int m ∧ b = .int n
  · exact .inl hints
  by_cases htexts : ∃ s t, a = .string s ∧ b = .string t
  · exact .inr (.inl htexts)
  exact .inr (.inr ⟨fun m n both => hints ⟨m, n, both⟩, fun s t both => htexts ⟨s, t, both⟩⟩)

theorem Mixed.compare? {a b : Value} (h : Mixed a b) :
    a.compare? b = (numericPair? a b).bind fun (x, y) => Binary64.compare? x y := by
  unfold Value.compare?
  split
  · next m n => exact absurd ⟨rfl, rfl⟩ (h.not_ints m n)
  · next s t => exact absurd ⟨rfl, rfl⟩ (h.not_texts s t)
  · rfl

theorem Mixed.equals {a b : Value} (h : Mixed a b) (hnull : (a.isNull || b.isNull) = false) :
    a.equals b = match numericPair? a b with
      | some (x, y) => x.equal y
      | none => same a b := by
  unfold Value.equals
  split
  · cases hnull
  · cases hnull
  · next hright => simp [isNull] at hnull
  · next m n => exact absurd ⟨rfl, rfl⟩ (h.not_ints m n)
  · next s t => exact absurd ⟨rfl, rfl⟩ (h.not_texts s t)
  · rfl

theorem numericPair?_swap (a b : Value) :
    numericPair? b a = (numericPair? a b).map Prod.swap := by
  unfold numericPair?
  rw [Bool.or_comm b.isNumber]
  split
  · cases a.float? <;> cases b.float? <;> rfl
  · rfl

/-! ## Order -/

/-- Changing sides turns the order of two values round, and leaves them without one if they had
none. -/
theorem compare?_swap (a b : Value) : b.compare? a = (a.compare? b).map Ordering.swap := by
  rcases sides_cases a b with ⟨m, n, rfl, rfl⟩ | ⟨s, t, rfl, rfl⟩ | hmixed
  · simp only [compare?, Option.map_some, Int.compare_swap]
  · have hswap : compare t s = (compare s t).swap := Std.OrientedCmp.eq_swap
    simp only [compare?, Option.map_some, hswap]
  · rw [hmixed.compare?, hmixed.symm.compare?, numericPair?_swap a b]
    cases numericPair? a b with
    | none => rfl
    | some pair => exact Binary64.compare?_swap pair.1 pair.2

/-- Null has no place in the order. -/
theorem compare?_of_null {a b : Value} (h : (a.isNull || b.isNull) = true) : a.compare? b = none := by
  rcases Bool.or_eq_true_iff.1 h with h | h
  · obtain rfl := eq_null_of_isNull h
    cases b <;> rfl
  · obtain rfl := eq_null_of_isNull h
    cases a <;> rfl

/-! ## Equality -/

theorem equals_comm (a b : Value) : b.equals a = a.equals b := by
  rcases sides_cases a b with ⟨m, n, rfl, rfl⟩ | ⟨s, t, rfl, rfl⟩ | hmixed
  · simp only [equals, BEq.comm]
  · simp only [equals, BEq.comm]
  · cases hnull : a.isNull || b.isNull with
    | true =>
      rcases Bool.or_eq_true_iff.1 hnull with h | h
      · rw [eq_null_of_isNull h, equals_null, null_equals]
      · rw [eq_null_of_isNull h, equals_null, null_equals]
    | false =>
      rw [hmixed.equals hnull, hmixed.symm.equals (by rwa [Bool.or_comm]), numericPair?_swap a b]
      cases numericPair? a b with
      | none => exact same_comm a b
      | some pair => exact Binary64.equal_comm pair.1 pair.2

/-- Values that have an order are equal if it is that of equal values. -/
theorem equals_of_compare? {a b : Value} {o : Ordering} (h : a.compare? b = some o) :
    a.equals b = (o == .eq) := by
  rcases sides_cases a b with ⟨m, n, rfl, rfl⟩ | ⟨s, t, rfl, rfl⟩ | hmixed
  · obtain rfl := Option.some.inj h
    rw [Bool.eq_iff_iff]
    simp [equals, Int64.toInt_inj]
  · obtain rfl := Option.some.inj h
    rw [Bool.eq_iff_iff]
    simp [equals]
  · cases hnull : a.isNull || b.isNull with
    | true =>
      rw [compare?_of_null hnull] at h
      cases h
    | false =>
      rw [hmixed.compare?] at h
      obtain ⟨⟨x, y⟩, hpair, horder⟩ := Option.bind_eq_some_iff.1 h
      rw [hmixed.equals hnull, hpair]
      have horder : Binary64.compare? x y = some o := horder
      simp only [Binary64.equal, horder]
      rfl

end Value

/-! ## Tests -/

namespace BinaryOp

variable {op : BinaryOp} {a b : Value}

/-- A test asks for one of two cases of an order, or for the third not to be there. -/
def asks (op : BinaryOp) (ordering : Ordering) : Bool :=
  match op with
  | .eq => ordering == .eq
  | .ne => ordering != .eq
  | _ => op.holds ordering

/-- Every test on values that have an order asks something of it. -/
theorem apply_of_compare? (hop : (op.isEquality || op.isOrdering) = true) {o : Ordering}
    (h : a.compare? b = some o) : op.apply a b = .ok (.bool (op.asks o)) := by
  have hnull : (a.isNull || b.isNull) = false := by
    rw [Bool.eq_false_iff]
    intro hnull
    rw [Value.compare?_of_null hnull] at h
    cases h
  have hordering (hop : op.isOrdering = true) : op.apply a b = .ok (.bool (op.holds o)) := by
    rw [apply_ordering hop, testOrder, hnull, h]
    rfl
  have hequals := Value.equals_of_compare? h
  cases op with
  | eq =>
    show Except.ok (Value.bool (a.equals b)) = _
    rw [hequals]
    rfl
  | ne =>
    show Except.ok (Value.bool (!a.equals b)) = _
    rw [hequals]
    rfl
  | gt => exact hordering rfl
  | ge => exact hordering rfl
  | lt => exact hordering rfl
  | le => exact hordering rfl
  | _ => cases hop

/-- A test of order on values without one fails, unless there is a null. -/
theorem apply_of_compare?_eq_none (hop : op.isOrdering = true)
    (hnull : (a.isNull || b.isNull) = false) (h : a.compare? b = none) :
    op.apply a b = .error (.typeMismatch op.symbol a.kind b.kind) := by
  rw [apply_ordering hop, testOrder, hnull, h]
  rfl

/-- **The tests are coherent.**  Equality does not depend on the sides, and difference is its
negation.  With a null no test of order holds.  Otherwise either the values have no order, and all
four tests of order fail on either side, or they have one: then exactly one of less, equal and
greater holds, the other tests are made of these, and changing sides exchanges less and greater. -/
theorem tests_coherent (a b : Value) :
    (∃ e, BinaryOp.eq.apply a b = .ok (.bool e) ∧ BinaryOp.eq.apply b a = .ok (.bool e) ∧
      BinaryOp.ne.apply a b = .ok (.bool !e) ∧ BinaryOp.ne.apply b a = .ok (.bool !e)) ∧
    ((a.isNull || b.isNull) = true → ∀ op : BinaryOp, op.isOrdering = true →
      op.apply a b = .ok (.bool false) ∧ op.apply b a = .ok (.bool false)) ∧
    ((a.isNull || b.isNull) = false →
      (∀ op : BinaryOp, op.isOrdering = true →
        op.apply a b = .error (.typeMismatch op.symbol a.kind b.kind) ∧
        op.apply b a = .error (.typeMismatch op.symbol b.kind a.kind)) ∨
      ∃ less equal greater : Bool, [less, equal, greater].count true = 1 ∧
        BinaryOp.lt.apply a b = .ok (.bool less) ∧ BinaryOp.gt.apply b a = .ok (.bool less) ∧
        BinaryOp.eq.apply a b = .ok (.bool equal) ∧
        BinaryOp.gt.apply a b = .ok (.bool greater) ∧ BinaryOp.lt.apply b a = .ok (.bool greater) ∧
        BinaryOp.le.apply a b = .ok (.bool (less || equal)) ∧
        BinaryOp.ge.apply b a = .ok (.bool (less || equal)) ∧
        BinaryOp.ge.apply a b = .ok (.bool (greater || equal)) ∧
        BinaryOp.le.apply b a = .ok (.bool (greater || equal))) := by
  refine ⟨⟨a.equals b, rfl, ?_, rfl, ?_⟩, fun hnull op hop => ⟨?_, ?_⟩, fun hnull => ?_⟩
  · rw [← Value.equals_comm a b]
    rfl
  · rw [← Value.equals_comm a b]
    rfl
  · rw [apply_ordering hop, testOrder_of_null hnull]
  · rw [apply_ordering hop, testOrder_of_null (by rwa [Bool.or_comm])]
  have hswap := Value.compare?_swap a b
  cases h : a.compare? b with
  | none =>
    rw [h] at hswap
    refine .inl fun op hop => ⟨apply_of_compare?_eq_none hop hnull h, ?_⟩
    exact apply_of_compare?_eq_none hop (by rwa [Bool.or_comm]) hswap
  | some o =>
    rw [h] at hswap
    right
    have hab (op : BinaryOp) (hop : (op.isEquality || op.isOrdering) = true) :=
      apply_of_compare? hop h
    have hba (op : BinaryOp) (hop : (op.isEquality || op.isOrdering) = true) :=
      apply_of_compare? hop hswap
    -- in each of the three cases every test asks what the booleans say
    refine ⟨o == .lt, o == .eq, o == .gt, by cases o <;> rfl, ?_⟩
    cases o <;>
      exact ⟨hab .lt rfl, hba .gt rfl, hab .eq rfl, hab .gt rfl, hba .lt rfl, hab .le rfl,
        hba .ge rfl, hab .ge rfl, hba .le rfl⟩

/-- A null, a NaN, and a text that writes a number above the other. -/
theorem tests_coherent_mixed :
    (∀ op : BinaryOp, op.isOrdering = true →
      op.apply .null (.bool true) = .ok (.bool false) ∧
        op.apply (.bool true) .null = .ok (.bool false)) ∧
    (BinaryOp.eq.apply (.float .nan) (.float .nan) = .ok (.bool false) ∧
      ∀ op : BinaryOp, op.isOrdering = true →
        op.apply (.float .nan) (.float .nan) = .error (.typeMismatch op.symbol "float" "float")) ∧
    BinaryOp.lt.apply (.int 3) (.string " +12 ") = .ok (.bool true) ∧
      BinaryOp.gt.apply (.string " +12 ") (.int 3) = .ok (.bool true) ∧
      BinaryOp.ge.apply (.int 3) (.string " +12 ") = .ok (.bool false) := by
  refine ⟨(tests_coherent .null (.bool true)).2.1 rfl, ⟨rfl, ?_⟩, ?_⟩
  · intro op hop
    rcases (tests_coherent (.float .nan) (.float .nan)).2.2 rfl with hnone | ⟨_, _, _, _, hlt, _⟩
    · exact (hnone op hop).1
    · cases hlt
  · have hless : Value.compare? (.int 3) (.string " +12 ") = some .lt := by decide +kernel
    have hlt : BinaryOp.lt.apply (.int 3) (.string " +12 ") = .ok (.bool true) :=
      apply_of_compare? rfl hless
    rcases (tests_coherent (.int 3) (.string " +12 ")).2.2 rfl with
      hnone | ⟨less, equal, greater, hone, hab, hba, -, -, -, -, -, hge, -⟩
    · cases hlt.symm.trans (hnone .lt rfl).1
    · obtain rfl : true = less := Value.bool.inj (Except.ok.inj (hlt.symm.trans hab))
      refine ⟨hlt, hba, ?_⟩
      -- less holds, so neither of the others does
      have hothers : (greater || equal) = false := by
        revert hone
        cases equal <;> cases greater <;> decide
      rw [hge, hothers]

end BinaryOp

end Formulary
