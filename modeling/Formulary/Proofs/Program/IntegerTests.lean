import Formulary.Proofs.Number.Integers
import Formulary.Proofs.Program.HasValue
import Formulary.Proofs.Program.Tests

/-!
# An integer against a text that writes one

Arithmetic takes both as integers and is exact.  Tests of equality and order take both as binary
numbers, so they are exact as long as the two integers have nearest numbers of their own, which
is so below 2⁵³.  Beyond, an integer is found equal to others next to it, although the difference
is not zero.

* `AgreesWithDifference` — what the tests of two values say, and that the difference says so too;
* `integer_text_tests` — when that holds, and what the tests say otherwise;
* `integer_text_found_equal` — two integers that are found equal, with the difference one.
-/

namespace Formulary

namespace BinaryOp

/-- What a test says of two whole numbers. -/
def onWhole (op : BinaryOp) (m n : Int) : Bool :=
  match op with
  | .eq => m = n
  | .ne => m ≠ n
  | .lt => m < n
  | .le => m ≤ n
  | .gt => m > n
  | .ge => m ≥ n
  | _ => false

/-- A test asks of the order of two whole numbers what it says of them. -/
theorem asks_compare {op : BinaryOp} (hop : (op.isEquality || op.isOrdering) = true) (m n : Int) :
    op.asks (compare m n) = op.onWhole m n := by
  rw [Bool.eq_iff_iff]
  cases op with
  | eq => simp [asks, onWhole]
  | ne => simp [asks, onWhole]
  | lt => simp [asks, holds, onWhole, Int.compare_eq_lt]
  | gt => simp [asks, holds, onWhole, Int.compare_eq_gt]
  | le => simp [asks, holds, onWhole, Int.compare_eq_gt]
  | ge => simp [asks, holds, onWhole, Int.compare_eq_lt]
  | _ => cases hop

/-- The difference of values that count as integers is exact, and checked. -/
theorem sub_apply_of_ints {a b : Value} {m n : Int64} (ha : a.number? = some (.int m))
    (hb : b.number? = some (.int n)) :
    BinaryOp.sub.apply a b = integerResult "-" (Integer.sub? m n) :=
  apply_of_integers ha hb rfl

end BinaryOp

/-! ## Tests that agree with the difference -/

/-- The tests of two values say what holds of two integers, and when there is a difference of the
values, it is zero if they are found equal and negative if the first is found less. -/
structure AgreesWithDifference (a b : Value) (m n : Int64) : Prop where
  tests : ∀ op : BinaryOp, (op.isEquality || op.isOrdering) = true →
    op.apply a b = .ok (.bool (op.onWhole m.toInt n.toInt))
  equal_iff : ∀ d, BinaryOp.sub.apply a b = .ok d →
    (BinaryOp.eq.apply a b = .ok (.bool true) ↔ d = .int 0)
  less_iff : ∀ d, BinaryOp.sub.apply a b = .ok d →
    (BinaryOp.lt.apply a b = .ok (.bool true) ↔ ∃ k : Int64, d = .int k ∧ k.toInt < 0)

/-- Values that count as integers and are ordered as them have tests that agree with the
difference. -/
theorem agreesWithDifference_of_compare? {a b : Value} {m n : Int64}
    (ha : a.number? = some (.int m)) (hb : b.number? = some (.int n))
    (h : a.compare? b = some (compare m.toInt n.toInt)) : AgreesWithDifference a b m n := by
  have htests : ∀ op : BinaryOp, (op.isEquality || op.isOrdering) = true →
      op.apply a b = .ok (.bool (op.onWhole m.toInt n.toInt)) := fun op hop => by
    rw [BinaryOp.apply_of_compare? hop h, BinaryOp.asks_compare hop]
  -- a difference that is there is the exact one
  have hexact {d : Value} (hd : BinaryOp.sub.apply a b = .ok d) :
      ∃ k : Int64, d = .int k ∧ k.toInt = m.toInt - n.toInt := by
    rw [BinaryOp.sub_apply_of_ints ha hb] at hd
    cases hsub : Integer.sub? m n with
    | none =>
      rw [hsub] at hd
      cases hd
    | some k =>
      rw [hsub] at hd
      exact ⟨k, (Except.ok.inj hd).symm, Integer.toInt_ofInt? hsub⟩
  refine ⟨htests, fun d hd => ?_, fun d hd => ?_⟩
  · obtain ⟨k, rfl, hk⟩ := hexact hd
    have hzero : (0 : Int64).toInt = 0 := rfl
    simp only [htests .eq rfl, BinaryOp.onWhole, Except.ok.injEq, Value.bool.injEq,
      Value.int.injEq, decide_eq_true_eq, ← Int64.toInt_inj, hk, hzero]
    omega
  · obtain ⟨k, rfl, hk⟩ := hexact hd
    simp only [htests .lt rfl, BinaryOp.onWhole, Except.ok.injEq, Value.bool.injEq,
      Value.int.injEq, decide_eq_true_eq, exists_eq_left', hk]
    omega

/-! ## An integer and a text -/

variable {i j : Int64} {s : String}

/-- An integer and a text that writes one are ordered as their nearest binary numbers. -/
theorem compare?_int_string (hs : (Value.string s).number? = some (.int j)) (i : Int64) :
    (Value.int i).compare? (.string s) =
      Binary64.compare? (.ofInt i.toInt) (.ofInt j.toInt) := by
  have hfloat : (Value.string s).float? = some (.ofInt j.toInt) := by
    rw [Value.float?, hs]
    rfl
  have hnumber : (Value.int i).float? = some (.ofInt i.toInt) := rfl
  have hmixed : Value.Mixed (.int i) (.string s) :=
    { not_ints := fun _ _ both => nomatch both.2
      not_texts := fun _ _ both => nomatch both.1 }
  have hpair : Value.numericPair? (.int i) (.string s) =
      some (.ofInt i.toInt, .ofInt j.toInt) := by
    simp [Value.numericPair?, Value.isNumber, hnumber, hfloat]
  rw [hmixed.compare?, hpair, Option.bind_some]

/-- **An integer is tested against a text that writes one as the two integers are**, if these have
nearest binary numbers of their own: the tests say what holds of the integers and agree with the
difference, on either side.  That is so if one of them is below 2⁵³ or they are more than 1024
apart.  If it is not so, the two are found equal, whatever they are.  The difference is exact in
any case. -/
theorem integer_text_tests (hs : (Value.string s).number? = some (.int j)) (i : Int64) :
    (Binary64.Distinct i j →
      AgreesWithDifference (.int i) (.string s) i j ∧
      AgreesWithDifference (.string s) (.int i) j i) ∧
    (i.toInt.natAbs < 2 ^ 53 ∨ j.toInt.natAbs < 2 ^ 53 ∨ 1024 < (i.toInt - j.toInt).natAbs →
      Binary64.Distinct i j) ∧
    (¬ Binary64.Distinct i j → ∀ op : BinaryOp, (op.isEquality || op.isOrdering) = true →
      op.apply (.int i) (.string s) = .ok (.bool (op.asks .eq)) ∧
      op.apply (.string s) (.int i) = .ok (.bool (op.asks .eq))) ∧
    BinaryOp.sub.apply (.int i) (.string s) = integerResult "-" (Integer.sub? i j) ∧
    BinaryOp.sub.apply (.string s) (.int i) = integerResult "-" (Integer.sub? j i) := by
  have hi : (Value.int i).number? = some (.int i) := rfl
  have hcompare := compare?_int_string hs i
  have hswap := Value.compare?_swap (.int i) (.string s)
  refine ⟨fun hdistinct => ?_, ?_, fun hshared op hop => ?_,
    BinaryOp.sub_apply_of_ints hi hs, BinaryOp.sub_apply_of_ints hs hi⟩
  · rw [Binary64.compare?_ofInt_of_distinct hdistinct] at hcompare
    rw [hcompare, Option.map_some, Int.compare_swap] at hswap
    exact ⟨agreesWithDifference_of_compare? hi hs hcompare,
      agreesWithDifference_of_compare? hs hi hswap⟩
  · rintro (hsmall | hsmall | hfar)
    · exact Binary64.distinct_of_natAbs_lt hsmall j
    · exact (Binary64.distinct_of_natAbs_lt hsmall i).symm
    · exact Binary64.distinct_of_far hfar
  · have hsame : Binary64.ofInt i.toInt = .ofInt j.toInt := by
      by_contra hne
      exact hshared fun h => absurd h hne
    rw [Binary64.compare?_ofInt, (Binary64.ofInt_eq_ofInt_iff i j).1 hsame,
      Int.compare_eq_eq.2 rfl] at hcompare
    rw [hcompare] at hswap
    exact ⟨BinaryOp.apply_of_compare? hop hcompare, BinaryOp.apply_of_compare? hop hswap⟩

/-- A small integer against a text with a sign and blanks, and the first integer that is not
a binary number against its neighbour. -/
theorem integer_text_tests_neighbours :
    (AgreesWithDifference (.int (-3)) (.string " +012 ") (-3) 12 ∧
      AgreesWithDifference (.string " +012 ") (.int (-3)) 12 (-3) ∧
      BinaryOp.sub.apply (.int (-3)) (.string " +012 ") = .ok (.int (-15))) ∧
    BinaryOp.ne.apply (.int 9007199254740993) (.string "9007199254740992") = .ok (.bool false) ∧
      BinaryOp.le.apply (.string "9007199254740992") (.int 9007199254740993) =
        .ok (.bool true) := by
  have hsmall : (Value.string " +012 ").number? = some (.int 12) := by decide +kernel
  have hlarge : (Value.string "9007199254740992").number? = some (.int 9007199254740992) := by
    decide +kernel
  have hshared : ¬ Binary64.Distinct 9007199254740993 9007199254740992 := fun h =>
    absurd (h (by decide +kernel)) (by decide)
  obtain ⟨hagrees, hdistinct, -, hdifference, -⟩ := integer_text_tests hsmall (-3)
  obtain ⟨hleft, hright⟩ := hagrees (hdistinct (.inl (by decide)))
  obtain ⟨-, -, hequal, -⟩ := integer_text_tests hlarge 9007199254740993
  exact ⟨⟨hleft, hright, hdifference⟩, (hequal hshared .ne rfl).1, (hequal hshared .le rfl).2⟩

/-- An integer and a text that writes the one before it are found equal, and the difference is
one. -/
theorem integer_text_found_equal :
    let value (text : String) := ((Engine.new ⟨"", "", id⟩).evaluate text []).1
    (Value.string "9007199254740992").number? = some (.int 9007199254740992) ∧
      value "9007199254740993 == '9007199254740992'" = .ok (.bool true) ∧
      value "9007199254740993 - '9007199254740992'" = .ok (.int 1) := by
  intro value
  have hequal : parse "9007199254740993 == '9007199254740992'" =
      .ok (.binary .eq (.literal (.int 9007199254740993))
        (.literal (.string "9007199254740992"))) := by decide +kernel
  have hminus : parse "9007199254740993 - '9007199254740992'" =
      .ok (.binary .sub (.literal (.int 9007199254740993))
        (.literal (.string "9007199254740992"))) := by decide +kernel
  have hnumber : (Value.string "9007199254740992").number? = some (.int 9007199254740992) := by
    decide +kernel
  have horder : Value.compare? (.int 9007199254740993) (.string "9007199254740992") = some .eq := by
    decide +kernel
  have htest : BinaryOp.eq.apply (.int 9007199254740993) (.string "9007199254740992") =
      .ok (.bool true) := BinaryOp.apply_of_compare? rfl horder
  have hone : (Value.int 9007199254740993).number? = some (.int 9007199254740993) := rfl
  exact ⟨hnumber, evaluate_new.2 ⟨_, hequal, Expr.hasValue_binary_literals rfl htest⟩,
    evaluate_new.2 ⟨_, hminus,
      Expr.hasValue_binary_literals rfl (BinaryOp.sub_apply_of_ints hone hnumber)⟩⟩

end Formulary
