import Formulary.Calendar.Date
import Formulary.Proofs.Number.Written
import Formulary.Proofs.Expr.Lexing
import Formulary.Value.Number
import Mathlib

/-!
# Texts that write numbers, and texts that do not

* `ofText?_upper`, `ofText?_lower` — the case of letters does not matter: the only letter of a
  numeral is the one before its exponent;
* `ofText?_of_stop` — a text whose digits stop at a character that has no place in a numeral is
  no number;
* `ofText?_date` — so a text that starts with a date is none.
-/

namespace Formulary

open Grammar (isIdentifierStart_of_isDigit isBlank_of_isIdentifierChar isIdentifierChar_of_isDigit
  takeWhile_run dropWhile_run)

/-! ## Letters of either case -/

namespace Text

/-- A change of characters that keeps all but the case of letters. -/
def Recases (f : Char → Char) : Prop :=
  ∀ c, (f c).toLower = c.toLower

theorem recases_toLower : Recases Char.toLower := Char.toLower_toLower_eq_toLower

theorem recases_toUpper : Recases Char.toUpper := Char.toLower_toUpper_eq_toLower

theorem toLower_of_not_isAlpha {c : Char} (h : c.isAlpha = false) : c.toLower = c :=
  Char.toLower_eq_of_not_isUpper fun hupper => by simp [Char.isAlpha, hupper] at h

theorem toLower_eq_e {c : Char} : c.toLower = 'e' ↔ c = 'e' ∨ c = 'E' := by
  constructor
  · intro h
    by_cases hupper : c.isUpper = true
    · right
      calc c = c.toUpper :=
            (Char.toUpper_eq_of_not_isLower (Char.not_isLower_of_isUpper hupper)).symm
        _ = c.toLower.toUpper := (Char.toUpper_toLower_eq_toUpper c).symm
        _ = 'E' := by rw [h]; rfl
    · exact .inl (Char.toLower_eq_of_not_isUpper hupper ▸ h)
  · rintro (rfl | rfl) <;> rfl

theorem isAlpha_of_isDigit {c : Char} (h : c.isDigit = true) : c.isAlpha = false := by
  have hstart := isIdentifierStart_of_isDigit h
  rw [isIdentifierStart, Bool.or_eq_false_iff] at hstart
  exact hstart.1

theorem isAlpha_of_isBlank {c : Char} (h : isBlank c = true) : c.isAlpha = false := by
  rw [Bool.eq_false_iff]
  intro halpha
  rw [isBlank_of_isIdentifierChar (by simp [isIdentifierChar, Char.isAlphanum, halpha])] at h
  cases h

namespace Recases

variable {f : Char → Char}

theorem isAlpha (hf : Recases f) (c : Char) : (f c).isAlpha = c.isAlpha := by
  rw [← Char.isAlpha_toLower_eq_isAlpha, hf, Char.isAlpha_toLower_eq_isAlpha]

/-- What is no letter stays as it is. -/
theorem eq_self (hf : Recases f) {c : Char} (h : c.isAlpha = false) : f c = c :=
  calc f c = (f c).toLower := (toLower_of_not_isAlpha ((hf.isAlpha c).trans h)).symm
    _ = c.toLower := hf c
    _ = c := toLower_of_not_isAlpha h

/-- A class of characters without letters does not tell the cases apart. -/
theorem class_eq (hf : Recases f) {p : Char → Bool} (hp : ∀ c, p c = true → c.isAlpha = false)
    (c : Char) : p (f c) = p c := by
  cases hc : c.isAlpha with
  | false => rw [hf.eq_self hc]
  | true =>
    have hno {d : Char} (hd : d.isAlpha = true) : p d = false := by
      rw [Bool.eq_false_iff]
      exact fun htrue => by simp [hp d htrue] at hd
    rw [hno hc, hno ((hf.isAlpha c).trans hc)]

theorem eq_mark_iff (hf : Recases f) (mark : Char) (hmark : mark.isAlpha = false) (c : Char) :
    f c = mark ↔ c = mark := by
  have hclass := hf.class_eq (p := (· == mark)) (fun c hc => by rwa [beq_iff_eq.1 hc]) c
  simpa using congrArg (· = true) hclass

theorem isDigit_comp (hf : Recases f) : Char.isDigit ∘ f = Char.isDigit :=
  funext (hf.class_eq fun _ => isAlpha_of_isDigit)

theorem isBlank_comp (hf : Recases f) : isBlank ∘ f = isBlank :=
  funext (hf.class_eq fun _ => isAlpha_of_isBlank)

/-- Digits stay as they are. -/
theorem map_digits (hf : Recases f) {s : List Char} (hs : ∀ c ∈ s, c.isDigit = true) :
    s.map f = s := by
  rw [List.map_congr_left fun c hc => hf.eq_self (isAlpha_of_isDigit (hs c hc)), List.map_id']

theorem dropBlanks_map (hf : Recases f) (s : List Char) :
    dropBlanks (s.map f) = (dropBlanks s).map f := by
  rw [dropBlanks, List.dropWhile_map, hf.isBlank_comp, dropBlanks]

theorem trimChars_map (hf : Recases f) (s : List Char) :
    trimChars (s.map f) = (trimChars s).map f := by
  rw [trimChars, hf.dropBlanks_map, ← List.map_reverse, hf.dropBlanks_map, ← List.map_reverse,
    trimChars]

end Recases

end Text

/-! ## Signs -/

/-- What may stand before the digits of a numeral. -/
inductive Numeral.Sign : List Char → Prop
  | none : Sign []
  | minus : Sign ['-']
  | plus : Sign ['+']

/-- No sign comes first. -/
def Numeral.Unsigned (s : List Char) : Prop :=
  ∀ t, s ≠ '-' :: t ∧ s ≠ '+' :: t

theorem Numeral.sign_cases (s : List Char) :
    (∃ t, s = '-' :: t) ∨ (∃ t, s = '+' :: t) ∨ Unsigned s := by
  by_cases hminus : ∃ t, s = '-' :: t
  · exact .inl hminus
  by_cases hplus : ∃ t, s = '+' :: t
  · exact .inr (.inl hplus)
  · exact .inr (.inr fun t => ⟨fun h => hminus ⟨t, h⟩, fun h => hplus ⟨t, h⟩⟩)

theorem Numeral.Unsigned.signedDigits? {s : List Char} (h : Unsigned s) :
    Decimal.signedDigits? s = if !s.isEmpty && s.all Char.isDigit then
      some (Decimal.valueOfDigits s : Int) else none := by
  unfold Decimal.signedDigits?
  split
  · next t => exact absurd rfl (h t).1
  · next t => exact absurd rfl (h t).2
  · rfl

theorem Numeral.Unsigned.binary? {s : List Char} (h : Unsigned s) :
    Numeral.binary? s = (Decimal.ofChars? s).map (Decimal.toBinary64 false) := by
  unfold Numeral.binary?
  split
  · next t => exact absurd rfl (h t).1
  · next t => exact absurd rfl (h t).2
  · rfl

/-! ## Numerals in either case -/

open Text (Recases)

variable {f : Char → Char}

theorem Numeral.Unsigned.map (hf : Recases f) {s : List Char} (h : Unsigned s) :
    Unsigned (s.map f) := by
  intro t
  constructor
  · intro heq
    obtain ⟨c, r, rfl, hc, -⟩ := List.map_eq_cons_iff.1 heq
    exact (h r).1 (by rw [(hf.eq_mark_iff _ rfl c).1 hc])
  · intro heq
    obtain ⟨c, r, rfl, hc, -⟩ := List.map_eq_cons_iff.1 heq
    exact (h r).2 (by rw [(hf.eq_mark_iff _ rfl c).1 hc])

theorem Decimal.signedDigits?_map (hf : Recases f) (s : List Char) :
    signedDigits? (s.map f) = signedDigits? s := by
  have hwhole (g : Nat → Int) (t : List Char) :
      (if !(t.map f).isEmpty && (t.map f).all Char.isDigit then
        some (g (valueOfDigits (t.map f))) else none) =
      if !t.isEmpty && t.all Char.isDigit then some (g (valueOfDigits t)) else none := by
    rw [List.isEmpty_map, List.all_map, hf.isDigit_comp]
    split
    · next h =>
      rw [Bool.and_eq_true, List.all_eq_true] at h
      rw [hf.map_digits h.2]
    · rfl
  rcases Numeral.sign_cases s with ⟨t, rfl⟩ | ⟨t, rfl⟩ | hs
  · rw [List.map_cons, hf.eq_self rfl]
    exact hwhole (fun n => -n) t
  · rw [List.map_cons, hf.eq_self rfl]
    exact hwhole (fun n => n) t
  · rw [(hs.map hf).signedDigits?, hs.signedDigits?]
    exact hwhole (fun n => n) s

theorem Decimal.exponentPart?_map (hf : Recases f) (s : List Char) :
    exponentPart? (s.map f) = exponentPart? s := by
  cases s with
  | nil => rfl
  | cons c s =>
    have hletter : (f c == 'e' || f c == 'E') = (c == 'e' || c == 'E') := by
      rw [Bool.eq_iff_iff]
      simp only [Bool.or_eq_true, beq_iff_eq, ← Text.toLower_eq_e, hf c]
    rw [List.map_cons, exponentPart?, exponentPart?, hletter, signedDigits?_map hf]

/-- Digits after which there is no point need an exponent, or nothing, after them. -/
theorem Decimal.ofChars?_of_no_point {s rest : List Char} {c : Char}
    (hs : s.dropWhile Char.isDigit = c :: rest) (hc : c ≠ '.') :
    ofChars? s = if (s.takeWhile Char.isDigit).isEmpty then none
      else (exponentPart? (c :: rest)).map (⟨valueOfDigits (s.takeWhile Char.isDigit), ·⟩) := by
  -- the second case of the match applies only as the first does not
  have hpoint (tail : List Char) (heq : c :: rest = '.' :: tail) : False :=
    hc (List.cons.inj heq).1
  unfold ofChars?
  simp only [List.span_eq_takeWhile_dropWhile, hs, List.isEmpty_nil, Bool.and_true, List.append_nil,
    List.length_nil, Nat.cast_zero, sub_zero]

theorem Decimal.ofChars?_map (hf : Recases f) (s : List Char) :
    ofChars? (s.map f) = ofChars? s := by
  have htake (t : List Char) : (t.map f).takeWhile Char.isDigit = t.takeWhile Char.isDigit := by
    rw [List.takeWhile_map, hf.isDigit_comp, hf.map_digits fun c hc => Grammar.mem_takeWhile hc]
  have hdrop (t : List Char) :
      (t.map f).dropWhile Char.isDigit = (t.dropWhile Char.isDigit).map f := by
    rw [List.dropWhile_map, hf.isDigit_comp]
  cases hs : s.dropWhile Char.isDigit with
  | nil => simp only [ofChars?, List.span_eq_takeWhile_dropWhile, htake, hdrop, hs, List.map_nil]
  | cons c rest =>
    have hmap : (s.map f).dropWhile Char.isDigit = f c :: rest.map f := by
      rw [hdrop, hs, List.map_cons]
    by_cases hpoint : c = '.'
    · subst hpoint
      rw [hf.eq_self rfl] at hmap
      unfold ofChars?
      simp only [List.span_eq_takeWhile_dropWhile, hmap, hs]
      simp only [htake, hdrop, exponentPart?_map hf]
    · have hpoint' := mt (hf.eq_mark_iff '.' rfl c).1 hpoint
      rw [ofChars?_of_no_point hs hpoint, ofChars?_of_no_point hmap hpoint', htake,
        ← List.map_cons, exponentPart?_map hf]

theorem Numeral.binary?_map (hf : Recases f) (s : List Char) :
    binary? (s.map f) = binary? s := by
  rcases sign_cases s with ⟨t, rfl⟩ | ⟨t, rfl⟩ | hs
  · rw [List.map_cons, hf.eq_self rfl, binary?, binary?, Decimal.ofChars?_map hf]
  · rw [List.map_cons, hf.eq_self rfl, binary?, binary?, Decimal.ofChars?_map hf]
  · rw [(hs.map hf).binary?, hs.binary?, Decimal.ofChars?_map hf]

theorem Number.ofText?_map (hf : Recases f) (s : String) :
    ofText? (String.ofList (s.toList.map f)) = ofText? s := by
  unfold ofText?
  simp only [String.toList_ofList, hf.trimChars_map, Numeral.integer?,
    Decimal.signedDigits?_map hf, Numeral.binary?_map hf]

/-- The case of letters does not matter for the number that a text writes. -/
theorem Number.ofText?_upper (s : String) : ofText? (Text.upper s) = ofText? s :=
  ofText?_map Text.recases_toUpper s

theorem Number.ofText?_lower (s : String) : ofText? (Text.lower s) = ofText? s :=
  ofText?_map Text.recases_toLower s

/-! ## Texts that stop -/

/-- Characters that are no blanks stay at the start of a trimmed text. -/
theorem Text.trimChars_append {w : List Char} (hw : w ≠ []) (hblank : ∀ c ∈ w, isBlank c = false)
    (rest : List Char) : ∃ rest', trimChars (w ++ rest) = w ++ rest' := by
  have hkeep {v : List Char} (hv : v ≠ []) (hvw : ∀ c ∈ v, c ∈ w) (r : List Char) :
      dropBlanks (v ++ r) = v ++ r := by
    obtain ⟨c, v, rfl⟩ := List.exists_cons_of_ne_nil hv
    rw [dropBlanks, List.cons_append, List.dropWhile_cons_of_neg]
    simp [hblank c (hvw c (by simp))]
  rw [trimChars, hkeep hw (fun _ hc => hc), List.reverse_append]
  have hdrop := hkeep (v := w.reverse) (by simpa using hw) (by simp) []
  rw [List.append_nil] at hdrop
  rw [dropBlanks] at hdrop ⊢
  rw [List.dropWhile_append]
  split
  · exact ⟨[], by rw [hdrop, List.reverse_reverse, List.append_nil]⟩
  · exact ⟨(rest.reverse.dropWhile isBlank).reverse, by
      rw [List.reverse_append, List.reverse_reverse]⟩

/-- A character at which every numeral has ended. -/
def Numeral.Strange (c : Char) : Prop :=
  c.isDigit = false ∧ Text.isBlank c = false ∧ c ∉ ['.', 'e', 'E']

instance (c : Char) : Decidable (Numeral.Strange c) :=
  inferInstanceAs (Decidable (_ ∧ _))

variable {digits rest : List Char} {c : Char}

theorem Decimal.ofChars?_of_stop (hdigits : ∀ d ∈ digits, d.isDigit = true)
    (hc : Numeral.Strange c) : ofChars? (digits ++ c :: rest) = none := by
  obtain ⟨hdigit, -, hletters⟩ := hc
  have hstop : ∀ d r, c :: rest = d :: r → d.isDigit = false := by
    rintro d r heq
    rw [← (List.cons.inj heq).1, hdigit]
  have hexponent : exponentPart? (c :: rest) = none := by
    simp only [List.mem_cons, not_or] at hletters
    simp [exponentPart?, hletters]
  rw [ofChars?_of_no_point (dropWhile_run hdigits hstop) (by rintro rfl; simp at hletters),
    hexponent, Option.map_none, ite_self]

theorem Numeral.unsigned_of_stop (hdigits : ∀ d ∈ digits, d.isDigit = true)
    (hc : digits = [] → c ∉ ['-', '+']) : Unsigned (digits ++ c :: rest) := by
  cases digits with
  | nil =>
    have hmarks := hc rfl
    simp only [List.mem_cons, List.not_mem_nil, or_false, not_or] at hmarks
    exact fun t => ⟨fun heq => hmarks.1 (List.cons.inj heq).1,
      fun heq => hmarks.2 (List.cons.inj heq).1⟩
  | cons d ds =>
    have hd := hdigits d (by simp)
    refine fun t => ⟨fun heq => ?_, fun heq => ?_⟩
    · rw [(List.cons.inj heq).1] at hd
      cases hd
    · rw [(List.cons.inj heq).1] at hd
      cases hd

theorem Numeral.integer?_of_sign {sign body : List Char} (hsign : Sign sign)
    (hbody : Unsigned body) (hall : body.all Char.isDigit = false) :
    integer? (sign ++ body) = none := by
  have hsigned : Decimal.signedDigits? (sign ++ body) = none := by
    cases hsign with
    | none => rw [List.nil_append, hbody.signedDigits?, hall, Bool.and_false, if_neg (by simp)]
    | _ => rw [List.singleton_append, Decimal.signedDigits?, hall, Bool.and_false, if_neg (by simp)]
  rw [integer?, hsigned, Option.bind_none]

theorem Numeral.binary?_of_sign {sign body : List Char} (hsign : Sign sign)
    (hbody : Unsigned body) (hnone : Decimal.ofChars? body = none) :
    binary? (sign ++ body) = none := by
  cases hsign with
  | none => rw [List.nil_append, hbody.binary?, hnone, Option.map_none]
  | _ => rw [List.singleton_append, binary?, hnone, Option.map_none]

/-- A text whose digits, with a sign or without, stop at a strange character is no number. -/
theorem Number.ofText?_of_stop {sign : List Char} (hsign : Numeral.Sign sign)
    (hdigits : ∀ d ∈ digits, d.isDigit = true) (hc : Numeral.Strange c)
    (hunsigned : digits = [] → c ∉ ['-', '+']) :
    ofText? (String.ofList (sign ++ digits ++ c :: rest)) = none := by
  have hblank : ∀ d ∈ sign ++ digits ++ [c], Text.isBlank d = false := by
    simp only [List.mem_append, List.mem_singleton]
    rintro d ((hd | hd) | rfl)
    · cases hsign with
      | none => cases hd
      | _ =>
        rw [List.mem_singleton.1 hd]
        decide
    · exact isBlank_of_isIdentifierChar (isIdentifierChar_of_isDigit (hdigits d hd))
    · exact hc.2.1
  obtain ⟨rest', htrim⟩ := Text.trimChars_append (by simp) hblank rest
  have hbody : Numeral.Unsigned (digits ++ c :: rest') :=
    Numeral.unsigned_of_stop hdigits hunsigned
  have hall : (digits ++ c :: rest').all Char.isDigit = false := by
    simp [hc.1]
  have hinteger := Numeral.integer?_of_sign hsign hbody hall
  have hbinary := Numeral.binary?_of_sign hsign hbody (Decimal.ofChars?_of_stop hdigits hc)
  have happend (r : List Char) :
      sign ++ digits ++ c :: r = sign ++ digits ++ [c] ++ r := by
    rw [List.append_assoc _ [c], List.singleton_append]
  rw [ofText?, String.toList_ofList, happend, htrim, ← happend, List.append_assoc, hinteger,
    hbinary]
  rfl

/-! ## Dates and hashes -/

theorem Date.padded_digits (width n : Nat) : Grammar.Digits (padded width n) :=
  Numeral.digits_zeros_append _ (Numeral.digits_toDigits n)

theorem Date.sign_of_year (year : Int) :
    Numeral.Sign (if year < 0 then ['-'] else if 9999 < year then ['+'] else []) := by
  split
  · exact .minus
  · split
    · exact .plus
    · exact .none

/-- A text that starts with a date is no number: its year ends with a hyphen. -/
theorem Number.ofText?_date (date : Date) (rest : String) :
    ofText? (date.text ++ rest) = none := by
  have hyear := Date.padded_digits 4 date.year.natAbs
  have htext : date.text ++ rest = String.ofList
      ((if date.year < 0 then ['-'] else if 9999 < date.year then ['+'] else []) ++
        Date.padded 4 date.year.natAbs ++ '-' :: (Date.padded 2 date.month ++
          '-' :: Date.padded 2 date.day ++ rest.toList)) := by
    apply String.toList_injective
    simp [Date.text, Date.yearChars]
  rw [htext]
  exact ofText?_of_stop (Date.sign_of_year date.year) hyear.2 (by decide)
    fun hnil => absurd hnil hyear.1

/-- A text that starts with a dollar sign is no number. -/
theorem Number.ofText?_dollar (rest : String) : ofText? ("$" ++ rest) = none := by
  have htext : "$" ++ rest = String.ofList ([] ++ [] ++ '$' :: rest.toList) := by
    apply String.toList_injective
    simp
  rw [htext]
  exact ofText?_of_stop .none (by simp) (by decide) (by simp)

end Formulary
