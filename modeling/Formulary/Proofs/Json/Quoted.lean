import Formulary.Json.Quoted

/-!
# Quoted texts read back

What is written between quotes is read again, character by character, up to the closing quote
and no further.

* `read?_escape` — one character, however it is written;
* `read?_write` — a whole text, whatever follows it.
-/

namespace Formulary.Json.Quoted

/-! ## Digits of control characters -/

theorem hexValue?_hexDigit : ∀ n, n < 16 → hexValue? (hexDigit n) = some n := by
  decide

/-- Two hexadecimal digits after two zeros are the code unit of a control character. -/
theorem codeUnit?_hexDigits {n : Nat} (h : n < 0x20) :
    codeUnit? '0' '0' (hexDigit (n / 16)) (hexDigit (n % 16)) = some n := by
  have hhigh := hexValue?_hexDigit (n / 16) (by omega)
  have hlow := hexValue?_hexDigit (n % 16) (by omega)
  have hzero : hexValue? '0' = some 0 := by decide
  have hunit : ((0 * 16 + 0) * 16 + n / 16) * 16 + n % 16 = n := by omega
  simp only [codeUnit?, hzero, hhigh, hlow, Option.bind_eq_bind, Option.bind_some, hunit]
  rfl

/-! ## Single characters -/

/-- A code unit that is no half of a pair is read as its character. -/
theorem read?_unit {a b c d : Char} {unit : Nat} (h : codeUnit? a b c d = some unit)
    (hunit : unit < 0x20) (rest : List Char) :
    read? ('\\' :: 'u' :: a :: b :: c :: d :: rest) =
      (read? rest).map fun (s, rest) => (Char.ofNat unit :: s, rest) := by
  have htrailing : isTrailing unit = false := by simp [isTrailing]; omega
  have hleading : isLeading unit = false := by simp [isLeading]; omega
  rw [read?]
  simp only [h, htrailing, hleading, Bool.false_eq_true, if_false]

/-- An escape of one letter is read as its character. -/
theorem read?_short {letter c : Char} (h : short? letter = some c) (rest : List Char) :
    read? ('\\' :: letter :: rest) =
      (read? rest).map fun (s, rest) => (c :: s, rest) := by
  have hletter : letter ≠ 'u' := by
    rintro rfl
    simp [short?] at h
  rw [read?]
  · simp only [h]
  · intro a b c d rest heq
    exact absurd heq hletter

/-- A character that is not escaped is read as it stands. -/
theorem read?_self {c : Char} (hquote : c ≠ '"') (hslash : c ≠ '\\') (hlow : ¬ c.toNat < 0x20)
    (rest : List Char) :
    read? (c :: rest) = (read? rest).map fun (s, rest) => (c :: s, rest) := by
  rw [read?]
  · simp [hslash, hlow]
  · exact hquote
  · intro a b c d rest heq
    exact fun _ => hslash heq
  · intro c rest heq
    exact fun _ => hslash heq

/-- However a character is written, it is read. -/
theorem read?_escape (c : Char) (rest : List Char) :
    read? (escape c ++ rest) = (read? rest).map fun (s, rest) => (c :: s, rest) := by
  unfold escape
  by_cases hquote : c = '"'
  · subst hquote
    exact read?_short rfl rest
  rw [if_neg hquote]
  by_cases hslash : c = '\\'
  · subst hslash
    exact read?_short rfl rest
  rw [if_neg hslash]
  by_cases hline : c = '\n'
  · subst hline
    exact read?_short rfl rest
  rw [if_neg hline]
  by_cases hreturn : c = '\r'
  · subst hreturn
    exact read?_short rfl rest
  rw [if_neg hreturn]
  by_cases htab : c = '\t'
  · subst htab
    exact read?_short rfl rest
  rw [if_neg htab]
  by_cases hback : c.toNat = 0x08
  · have hc : c = Char.ofNat 0x08 := by rw [← hback, Char.ofNat_toNat]
    rw [if_pos hback, hc]
    exact read?_short rfl rest
  rw [if_neg hback]
  by_cases hfeed : c.toNat = 0x0C
  · have hc : c = Char.ofNat 0x0C := by rw [← hfeed, Char.ofNat_toNat]
    rw [if_pos hfeed, hc]
    exact read?_short rfl rest
  rw [if_neg hfeed]
  by_cases hlow : c.toNat < 0x20
  · rw [if_pos hlow]
    have hread := read?_unit (codeUnit?_hexDigits hlow) hlow rest
    rw [Char.ofNat_toNat] at hread
    exact hread
  · rw [if_neg hlow]
    exact read?_self hquote hslash hlow rest

/-! ## Texts -/

/-- What stands between quotes is read up to the closing quote. -/
theorem read?_flatMap_escape (s rest : List Char) :
    read? (s.flatMap escape ++ '"' :: rest) = some (s, rest) := by
  induction s with
  | nil => rw [List.flatMap_nil, List.nil_append, read?]
  | cons c s ih =>
    rw [List.flatMap_cons, List.append_assoc, read?_escape, ih]
    rfl

/-- A written text is its opening quote, and then what reads back. -/
theorem read?_write (s rest : List Char) :
    ∃ body, write s ++ rest = '"' :: body ∧ read? body = some (s, rest) := by
  refine ⟨s.flatMap escape ++ '"' :: rest, ?_, read?_flatMap_escape s rest⟩
  simp [write]

end Formulary.Json.Quoted
