import Formulary.Json.Number
import Formulary.Json.Writer
import Formulary.Proofs.Number.Written
import Mathlib.Data.List.TakeWhile

/-!
# Numbers of data exchange read back

A whole number is always read back from its text.  A binary number is read back if reading its
shortest digits comes to it again (`ReadsBack`), which the steps of multiplication by powers of
ten do not promise for every number.

* `read?_append` — what follows a number and cannot go on with it does not matter;
* `read?_integerChars` — whole numbers of sixty-four bits, with or without a sign;
* `read?_floatChars` — binary numbers that read back.
-/

namespace Formulary.Json.Number

open Decimal (valueOfDigits)
open Numeral (digits_toDigits valueOfDigits_toDigits)

/-! ## Where a number ends -/

/-- No number goes on with the text. -/
def EndsNumber (rest : List Char) : Prop :=
  ∀ c r, rest = c :: r → c.isDigit = false ∧ c ≠ '.' ∧ c ≠ 'e' ∧ c ≠ 'E'

theorem endsNumber_nil : EndsNumber [] := by
  intro c r h
  cases h

theorem endsNumber_cons {c : Char} {r : List Char}
    (h : c.isDigit = false ∧ c ≠ '.' ∧ c ≠ 'e' ∧ c ≠ 'E') : EndsNumber (c :: r) := by
  intro c' r' h'
  cases h'
  exact h

variable {rest : List Char}

theorem EndsNumber.takeWhile (h : EndsNumber rest) (s : List Char) :
    (s ++ rest).takeWhile Char.isDigit = s.takeWhile Char.isDigit := by
  induction s with
  | nil =>
    cases rest with
    | nil => rfl
    | cons c r => simp [(h c r rfl).1]
  | cons c s ih => simp only [List.cons_append, List.takeWhile_cons, ih]

theorem EndsNumber.dropWhile (h : EndsNumber rest) (s : List Char) :
    (s ++ rest).dropWhile Char.isDigit = s.dropWhile Char.isDigit ++ rest := by
  induction s with
  | nil =>
    cases rest with
    | nil => rfl
    | cons c r => simp [(h c r rfl).1]
  | cons c s ih =>
    by_cases hc : c.isDigit = true
    · simp only [List.cons_append, List.dropWhile_cons, hc, if_true, ih]
    · simp only [List.cons_append, List.dropWhile_cons, hc, Bool.false_eq_true, if_false]

/-! ## The steps of reading, with more text behind -/

variable {negative : Bool} {significand : Nat} {start : Int} {s t : List Char} {json : Json}

/-- A number that was read with something left is read with more left. -/
theorem map_behind {α : Type} {found : Option α} {toJson : α → Json} {left : List Char}
    (h : (found.map fun x => (toJson x, left)) = some (json, t)) :
    (found.map fun x => (toJson x, left ++ rest)) = some (json, t ++ rest) := by
  cases found with
  | none => cases h
  | some x =>
    cases h
    rfl

/-- The number after the sign of its exponent. -/
def signedExponent? (negative : Bool) (significand : Nat) (start : Int) (down : Bool)
    (s : List Char) : Option (Json × List Char) :=
  let digits := s.takeWhile Char.isDigit
  let size := Decimal.valueOfDigits digits
  if digits.isEmpty then
    none
  else if greatestExponent < size then
    if significand ≠ 0 ∧ !down then none
    else some (withSign negative (Binary64.zero false), s.dropWhile Char.isDigit)
  else
    (scale? significand (if down then start - size else start + size)).map fun x =>
      (withSign negative x, s.dropWhile Char.isDigit)

theorem exponent?_minus (s : List Char) : exponent? negative significand start ('-' :: s) =
    signedExponent? negative significand start true s := by
  simp only [exponent?, signedExponent?, List.span_eq_takeWhile_dropWhile]

theorem exponent?_plus (s : List Char) : exponent? negative significand start ('+' :: s) =
    signedExponent? negative significand start false s := by
  simp only [exponent?, signedExponent?, List.span_eq_takeWhile_dropWhile]

theorem exponent?_unsigned {c : Char} (hminus : c ≠ '-') (hplus : c ≠ '+') (s : List Char) :
    exponent? negative significand start (c :: s) =
      signedExponent? negative significand start false (c :: s) := by
  unfold exponent? signedExponent?
  simp only [List.span_eq_takeWhile_dropWhile]
  split
  · next heq => exact absurd (List.cons.inj heq).1 hminus
  · next heq => exact absurd (List.cons.inj heq).1 hplus
  · rfl

theorem signedExponent?_append {down : Bool} (hrest : EndsNumber rest)
    (h : signedExponent? negative significand start down s = some (json, t)) :
    signedExponent? negative significand start down (s ++ rest) = some (json, t ++ rest) := by
  unfold signedExponent? at h ⊢
  simp only [hrest.takeWhile, hrest.dropWhile] at h ⊢
  split at h
  · cases h
  next hdigits =>
  rw [if_neg hdigits]
  split at h
  · next hgreat =>
    rw [if_pos hgreat]
    split at h
    · cases h
    · next hsome =>
      cases h
      rw [if_neg hsome]
  · next hsmall =>
    rw [if_neg hsmall]
    exact map_behind h

theorem exponent?_append (hrest : EndsNumber rest)
    (h : exponent? negative significand start s = some (json, t)) :
    exponent? negative significand start (s ++ rest) = some (json, t ++ rest) := by
  cases s with
  | nil => simp [exponent?] at h
  | cons c s =>
    rw [List.cons_append]
    by_cases hminus : c = '-'
    · subst hminus
      rw [exponent?_minus] at h ⊢
      exact signedExponent?_append hrest h
    by_cases hplus : c = '+'
    · subst hplus
      rw [exponent?_plus] at h ⊢
      exact signedExponent?_append hrest h
    rw [exponent?_unsigned hminus hplus] at h ⊢
    exact signedExponent?_append hrest h

/-- A text that does not go on with a mark does not do so with more text behind. -/
theorem EndsNumber.not_mark (hrest : EndsNumber rest) {mark : Char} {left : List Char}
    (hmark : mark = '.' ∨ mark = 'e' ∨ mark = 'E') (hleft : ∀ r, left = mark :: r → False)
    (r : List Char) (h : left ++ rest = mark :: r) : False := by
  cases left with
  | nil =>
    obtain ⟨-, hpoint, hlower, hupper⟩ := hrest mark r h
    rcases hmark with rfl | rfl | rfl
    · exact hpoint rfl
    · exact hlower rfl
    · exact hupper rfl
  | cons c left => exact hleft left (by rw [(List.cons.inj h).1])

theorem scaled?_append (hrest : EndsNumber rest)
    (h : scaled? negative significand start s = some (json, t)) :
    scaled? negative significand start (s ++ rest) = some (json, t ++ rest) := by
  unfold scaled? at h
  split at h
  · exact exponent?_append hrest h
  · exact exponent?_append hrest h
  · next hlower hupper =>
    rw [scaled?]
    · exact map_behind h
    · exact hrest.not_mark (.inr (.inl rfl)) hlower
    · exact hrest.not_mark (.inr (.inr rfl)) hupper

theorem fraction?_append (hrest : EndsNumber rest)
    (h : fraction? negative significand start s = some (json, t)) :
    fraction? negative significand start (s ++ rest) = some (json, t ++ rest) := by
  unfold fraction? at h ⊢
  simp only [List.span_eq_takeWhile_dropWhile, hrest.takeWhile, hrest.dropWhile] at h ⊢
  split at h
  · cases h
  · next hdigits =>
    rw [if_neg hdigits]
    exact scaled?_append hrest h

theorem unsigned?_append (hrest : EndsNumber rest)
    (h : unsigned? negative s = some (json, t)) :
    unsigned? negative (s ++ rest) = some (json, t ++ rest) := by
  unfold unsigned? at h ⊢
  simp only [List.span_eq_takeWhile_dropWhile, hrest.takeWhile, hrest.dropWhile] at h ⊢
  split at h
  · cases h
  next hdigits =>
  rw [if_neg hdigits]
  generalize s.dropWhile Char.isDigit = left at h ⊢
  split at h
  · exact fraction?_append hrest h
  · exact exponent?_append hrest h
  · exact exponent?_append hrest h
  next hpoint hlower hupper =>
  split
  · next heq => exact (hrest.not_mark (.inl rfl) hpoint _ heq).elim
  · next heq => exact (hrest.not_mark (.inr (.inl rfl)) hlower _ heq).elim
  · next heq => exact (hrest.not_mark (.inr (.inr rfl)) hupper _ heq).elim
  split at h
  · next hall =>
    cases h
    rw [if_pos hall]
  · next hdropped =>
    rw [if_neg hdropped]
    exact scaled?_append hrest h

theorem read?_unsigned {c : Char} (h : c ≠ '-') (s : List Char) :
    read? (c :: s) = unsigned? false (c :: s) := by
  rw [read?]
  intro r hr
  exact h (List.cons.inj hr).1

/-- What follows a number and cannot go on with it does not matter. -/
theorem read?_append (hrest : EndsNumber rest) (h : read? s = some (json, t)) :
    read? (s ++ rest) = some (json, t ++ rest) := by
  cases s with
  | nil => simp [read?, unsigned?] at h
  | cons c s =>
    by_cases hminus : c = '-'
    · subst hminus
      exact unsigned?_append hrest h
    · rw [read?_unsigned hminus] at h
      rw [List.cons_append, read?_unsigned hminus]
      exact unsigned?_append hrest h

/-! ## Whole numbers -/

/-- All digits are added as long as the whole number stays in the range. -/
theorem gather_eq (digits : List Char) (significand : Nat)
    (h : Nat.ofDigitChars 10 digits significand ≤ greatestSignificand) :
    gather significand digits = (Nat.ofDigitChars 10 digits significand, digits.length) := by
  induction digits generalizing significand with
  | nil => rfl
  | cons c digits ih =>
    rw [Nat.ofDigitChars_cons] at h ⊢
    have hnext : 10 * significand + (c.toNat - '0'.toNat) ≤ greatestSignificand := by
      refine Nat.le_trans ?_ h
      rw [Nat.ofDigitChars_eq_ofDigitChars_zero]
      exact Nat.le_trans (Nat.le_mul_of_pos_left _ (Nat.pow_pos (by decide))) (Nat.le_add_right _ _)
    rw [gather, if_pos hnext, ih _ h, List.length_cons]

/-- The first digit is zero only if it is the only one. -/
theorem head?_toDigits {n : Nat} (h : n ≠ 0) : (Nat.toDigits 10 n).head? ≠ some '0' := by
  induction n using Nat.strongRecOn with
  | ind n ih =>
    by_cases hlt : n < 10
    · rw [Nat.toDigits_of_lt_base hlt, List.head?_cons]
      intro hzero
      have hvalue := Nat.toNat_digitChar_of_lt_ten hlt
      rw [Option.some.inj hzero] at hvalue
      have : '0'.toNat = 48 := rfl
      omega
    · rw [Nat.toDigits_of_base_le (by decide) (by omega),
        List.head?_append_of_ne_nil _ Nat.toDigits_ne_nil]
      exact ih (n / 10) (by omega) (by omega)

/-- The digits of a whole number are read as that number, with the sign before them. -/
theorem unsigned?_toDigits (negative : Bool) {n : Nat} (h : n ≤ greatestSignificand) :
    unsigned? negative (Nat.toDigits 10 n) = some (whole negative n, []) := by
  obtain ⟨hne, hdigits⟩ := digits_toDigits n
  have htake := List.takeWhile_eq_self_iff.2 hdigits
  have hdrop := List.dropWhile_eq_nil_iff.2 hdigits
  have hvalue : Nat.ofDigitChars 10 (Nat.toDigits 10 n) 0 = n := Nat.ofDigitChars_ten_toDigits
  have hgather := gather_eq (Nat.toDigits 10 n) 0 (by rw [hvalue]; exact h)
  have hfirst : ¬ ((Nat.toDigits 10 n).isEmpty ||
      (1 < (Nat.toDigits 10 n).length && (Nat.toDigits 10 n).head? == some '0')) = true := by
    by_cases hzero : n = 0
    · subst hzero
      decide
    · simp [hne, head?_toDigits hzero]
  unfold unsigned?
  simp only [List.span_eq_takeWhile_dropWhile, htake, hdrop, if_neg hfirst, hgather, hvalue,
    Nat.sub_self, if_true]

theorem integerChars_of_nonneg {n : Nat} : integerChars n = Nat.toDigits 10 n := by
  rw [integerChars, Int.toString_eq_repr, Int.repr_eq_if, if_pos (by omega), Int.toNat_natCast,
    Nat.toList_repr]

theorem integerChars_of_neg {n : Nat} (h : 0 < n) :
    integerChars (-n) = '-' :: Nat.toDigits 10 n := by
  rw [integerChars, Int.toString_eq_repr, Int.repr_eq_if, if_neg (by omega), Int.neg_neg,
    Int.toNat_natCast, String.toList_append, Nat.toList_repr]
  rfl

/-- A whole number of sixty-four bits is read back, whatever cannot go on with it follows. -/
theorem read?_integerChars {n : Int} (hlow : -2 ^ 63 ≤ n) (hhigh : n < 2 ^ 64)
    (hrest : EndsNumber rest) :
    read? (integerChars n ++ rest) = some (.integer n, rest) := by
  have hgreatest : greatestSignificand = 2 ^ 64 - 1 := rfl
  have hread : read? (integerChars n) = some (.integer n, []) := by
    by_cases hneg : n < 0
    · obtain ⟨m, rfl⟩ : ∃ m : Nat, n = -m := ⟨n.natAbs, by omega⟩
      rw [integerChars_of_neg (by omega), read?, unsigned?_toDigits true (by omega), whole,
        if_pos rfl, if_neg]
      have : Nat.pow 2 63 = 2 ^ 63 := rfl
      omega
    · obtain ⟨m, rfl⟩ : ∃ m : Nat, n = m := ⟨n.natAbs, by omega⟩
      have hunsigned := unsigned?_toDigits false (n := m) (by omega)
      rw [integerChars_of_nonneg]
      cases hdigits : Nat.toDigits 10 m with
      | nil => exact absurd hdigits Nat.toDigits_ne_nil
      | cons c s =>
        have hminus : c ≠ '-' := by
          rintro rfl
          have hdigit := (digits_toDigits m).2 '-' (by rw [hdigits]; exact List.mem_cons_self)
          exact absurd hdigit (by decide)
        rw [read?_unsigned hminus, ← hdigits, hunsigned]
        rfl
  exact read?_append hrest hread

/-! ## Binary numbers -/

/-- A binary number is read back from its text. -/
def ReadsBack (x : Binary64) : Prop :=
  read? (floatChars x) = some (.float x, [])

/-- A test for it. -/
def readsBack (x : Binary64) : Bool :=
  match read? (floatChars x) with
  | some (.float y, []) => x == y
  | _ => false

theorem readsBack_iff (x : Binary64) : readsBack x = true ↔ ReadsBack x := by
  unfold readsBack ReadsBack
  split
  · next y hread =>
    rw [hread, beq_iff_eq]
    constructor
    · rintro rfl
      rfl
    · intro h
      cases h
      rfl
  · next hother =>
    constructor
    · intro h
      cases h
    · intro h
      exact absurd h (hother x)

instance (x : Binary64) : Decidable (ReadsBack x) :=
  decidable_of_iff _ (readsBack_iff x)

/-- The text of `10⁻²³` is read as one divided by a rounded power of ten, which is a neighbour. -/
example : ¬ ReadsBack (Binary64.ofDecimal false 1 (-23)) := by decide +kernel

/-- A binary number that reads back does so, whatever cannot go on with it follows. -/
theorem read?_floatChars {x : Binary64} (h : ReadsBack x) (hrest : EndsNumber rest) :
    read? (floatChars x ++ rest) = some (.float x, rest) :=
  read?_append hrest h

/-- A number starts with a minus sign or a digit. -/
theorem start_of_read? (h : read? s = some (json, t)) :
    ∃ c r, s = c :: r ∧ (c = '-' ∨ c.isDigit = true) := by
  cases s with
  | nil => simp [read?, unsigned?] at h
  | cons c s =>
    refine ⟨c, s, rfl, ?_⟩
    by_contra hnone
    obtain ⟨hminus, hdigit⟩ := not_or.1 hnone
    rw [read?_unsigned hminus, unsigned?] at h
    simp [List.span_eq_takeWhile_dropWhile, hdigit] at h

end Formulary.Json.Number
