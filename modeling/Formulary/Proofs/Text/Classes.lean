import Formulary.Text.Blank
import Formulary.Text.Identifier
import Mathlib.Data.List.DropRight

/-!
# Classes of characters

The classes of characters that statements about texts go by, each one listed: the letters and
digits of names, and the blanks.

* `IsNameStart`, `IsNameChar`, `IsName` — names (`isIdentifierChars_iff`);
* `White`, `AllWhite` — the blanks and the texts of them (`isBlank_iff`, `isAllBlank_iff`);
* `stripped` — a text without the blanks at its ends (`trimChars_eq`).
-/

namespace Formulary.Text

/-! ## Names -/

/-- A letter from A to Z in either case, or an underscore. -/
def IsNameStart (c : Char) : Prop :=
  ('A' ≤ c ∧ c ≤ 'Z') ∨ ('a' ≤ c ∧ c ≤ 'z') ∨ c = '_'

instance (c : Char) : Decidable (IsNameStart c) :=
  inferInstanceAs (Decidable (_ ∨ _ ∨ _))

/-- The same, or a digit. -/
def IsNameChar (c : Char) : Prop :=
  IsNameStart c ∨ ('0' ≤ c ∧ c ≤ '9')

instance (c : Char) : Decidable (IsNameChar c) :=
  inferInstanceAs (Decidable (_ ∨ _))

/-- Letters, digits and underscores, not starting with a digit. -/
def IsName (s : List Char) : Prop :=
  ∃ c rest, s = c :: rest ∧ IsNameStart c ∧ ∀ d ∈ rest, IsNameChar d

theorem isIdentifierStart_iff {c : Char} : isIdentifierStart c = true ↔ IsNameStart c := by
  have hupper : c.isUpper = true ↔ 'A' ≤ c ∧ c ≤ 'Z' := decide_eq_true_iff
  have hlower : c.isLower = true ↔ 'a' ≤ c ∧ c ≤ 'z' :=
    Bool.and_eq_true_iff.trans (and_congr decide_eq_true_iff decide_eq_true_iff)
  have hletter : c.isAlpha = (c.isUpper || c.isLower) := rfl
  rw [isIdentifierStart, hletter, IsNameStart, ← hupper, ← hlower]
  simp only [Bool.or_eq_true, beq_iff_eq, or_assoc]

theorem isIdentifierChar_iff {c : Char} : isIdentifierChar c = true ↔ IsNameChar c := by
  have hdigit : c.isDigit = true ↔ '0' ≤ c ∧ c ≤ '9' :=
    Bool.and_eq_true_iff.trans (and_congr decide_eq_true_iff decide_eq_true_iff)
  rw [IsNameChar, ← isIdentifierStart_iff, ← hdigit, isIdentifierStart, isIdentifierChar,
    Char.isAlphanum]
  simp only [Bool.or_eq_true]
  tauto

theorem isName_cons {c : Char} {rest : List Char} :
    IsName (c :: rest) ↔ IsNameStart c ∧ ∀ d ∈ rest, IsNameChar d := by
  constructor
  · rintro ⟨_, _, heq, hc, hrest⟩
    obtain ⟨rfl, rfl⟩ := List.cons.inj heq
    exact ⟨hc, hrest⟩
  · rintro ⟨hc, hrest⟩
    exact ⟨c, rest, rfl, hc, hrest⟩

theorem isIdentifierChars_iff {s : List Char} : isIdentifierChars s = true ↔ IsName s := by
  cases s with
  | nil => simp [isIdentifierChars, IsName]
  | cons c rest =>
    simp [isName_cons, isIdentifierChars, isIdentifierStart_iff, isIdentifierChar_iff]

instance (s : List Char) : Decidable (IsName s) :=
  decidable_of_iff _ isIdentifierChars_iff

/-! ## Blanks -/

/-- The twenty-five code points of blanks. -/
def white : List Nat :=
  [0x0009, 0x000A, 0x000B, 0x000C, 0x000D, 0x0020, 0x0085, 0x00A0, 0x1680, 0x2000, 0x2001, 0x2002,
    0x2003, 0x2004, 0x2005, 0x2006, 0x2007, 0x2008, 0x2009, 0x200A, 0x2028, 0x2029, 0x202F, 0x205F,
    0x3000]

/-- A blank. -/
def White (c : Char) : Prop :=
  c.toNat ∈ white

instance (c : Char) : Decidable (White c) :=
  inferInstanceAs (Decidable (_ ∈ _))

theorem isBlank_iff {c : Char} : isBlank c = true ↔ White c := by
  simp only [isBlank, inRanges, blankRanges, List.any_cons, List.any_nil, Bool.or_false,
    Bool.or_eq_true, Bool.and_eq_true, decide_eq_true_eq, White, white, List.mem_cons,
    List.not_mem_nil, or_false]
  omega

theorem isBlank_eq_decide : isBlank = fun c => decide (White c) := by
  funext c
  rw [Bool.eq_iff_iff, isBlank_iff, decide_eq_true_iff]

/-- A text without the blanks at its ends. -/
def stripped (s : List Char) : List Char :=
  (s.dropWhile fun c => decide (White c)).rdropWhile fun c => decide (White c)

theorem trimChars_eq (s : List Char) : trimChars s = stripped s := by
  rw [stripped, ← isBlank_eq_decide]
  rfl

/-- A text of blanks. -/
def AllWhite (s : String) : Prop :=
  ∀ c ∈ s.toList, White c

instance (s : String) : Decidable (AllWhite s) :=
  List.decidableBAll White s.toList

theorem isAllBlank_iff {s : String} : isAllBlank s = true ↔ AllWhite s := by
  simp only [isAllBlank, List.all_eq_true, isBlank_iff, AllWhite]

end Formulary.Text
