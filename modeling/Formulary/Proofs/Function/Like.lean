import Formulary.Function.Like
import Mathlib.Data.List.Infix

/-!
# Patterns of the database

What a database pattern means, and that the pattern for a text means what the test for that
text finds.  A pattern is taken apart into marks first: `%` is a run of any characters, `_`
is one character, and everything else stands for itself, after a backslash even these.

* `matchesMarks` — the texts that some marks describe as a whole;
* `Matches` — the same said of the pattern itself, one character after the other
  (`matches_iff_matchesMarks`);
* `marks_escaped` — an escaped text is taken apart into its own characters;
* `matches_pattern` — the pattern for a text matches what the test finds.
-/

namespace Formulary

theorem Text.occursIn_iff {part s : List Char} : Text.occursIn part s = true ↔ part <:+: s := by
  induction s with
  | nil => simp [Text.occursIn]
  | cons c s ih => simp [Text.occursIn, ih, List.infix_cons_iff]

namespace LikePattern

/-! ## Marks -/

/-- A part of a pattern. -/
inductive Mark where
  /-- Any characters, or none. -/
  | run
  /-- One character. -/
  | one
  /-- This character. -/
  | exactly (c : Char)

/-- The marks of a pattern. -/
def marks : List Char → List Mark
  | [] => []
  | '%' :: rest => .run :: marks rest
  | '_' :: rest => .one :: marks rest
  | '\\' :: c :: rest => .exactly c :: marks rest
  | c :: rest => .exactly c :: marks rest

/-- Some marks describe a text as a whole. -/
def matchesMarks : List Mark → List Char → Bool
  | [], s => s.isEmpty
  | .run :: more, s => s.tails.any fun t => matchesMarks more t
  | .one :: more, _ :: s => matchesMarks more s
  | .exactly c :: more, d :: s => c == d && matchesMarks more s
  | .one :: _, [] => false
  | .exactly _ :: _, [] => false

/-- A text matches a pattern of the database. -/
def matchesPattern (pattern subject : String) : Bool :=
  matchesMarks (marks pattern.toList) subject.toList

/-! ## What marks describe -/

/-- A run takes any beginning. -/
theorem matchesMarks_run {more : List Mark} {s : List Char} :
    matchesMarks (.run :: more) s = true ↔
      ∃ before after, s = before ++ after ∧ matchesMarks more after = true := by
  simp only [matchesMarks, List.any_eq_true, List.mem_tails]
  constructor
  · rintro ⟨after, ⟨before, rfl⟩, h⟩
    exact ⟨before, after, rfl, h⟩
  · rintro ⟨before, after, rfl, h⟩
    exact ⟨after, List.suffix_append before after, h⟩

/-- Characters take themselves. -/
theorem matchesMarks_exactly {text : List Char} {more : List Mark} {s : List Char} :
    matchesMarks (text.map .exactly ++ more) s = true ↔
      ∃ after, s = text ++ after ∧ matchesMarks more after = true := by
  induction text generalizing s with
  | nil => simp
  | cons c text ih =>
    cases s with
    | nil => simp [matchesMarks]
    | cons d s =>
      simp only [List.map_cons, List.cons_append, matchesMarks, Bool.and_eq_true, beq_iff_eq, ih,
        List.cons.injEq]
      constructor
      · rintro ⟨rfl, after, rfl, h⟩
        exact ⟨after, ⟨rfl, rfl⟩, h⟩
      · rintro ⟨after, ⟨rfl, rfl⟩, h⟩
        exact ⟨rfl, after, rfl, h⟩

theorem matchesMarks_exactly_end {text s : List Char} :
    matchesMarks (text.map .exactly) s = true ↔ s = text := by
  have h := @matchesMarks_exactly text [] s
  simpa [matchesMarks] using h

theorem matchesMarks_run_end (s : List Char) : matchesMarks [.run] s = true :=
  matchesMarks_run.2 ⟨s, [], by simp, rfl⟩

/-! ## Patterns character by character -/

theorem marks_plain {c : Char} (h : ¬ (c = '%' ∨ c = '_' ∨ c = '\\')) (rest : List Char) :
    marks (c :: rest) = .exactly c :: marks rest := by
  simp only [not_or] at h
  obtain ⟨hrun, hone, hescape⟩ := h
  rw [marks]
  · exact hrun
  · exact hone
  · rintro d more rfl -
    exact hescape rfl

/-- A text as a whole matches a pattern of the database. -/
inductive Matches : List Char → List Char → Prop
  | nil : Matches [] []
  /-- A percent sign takes any characters. -/
  | run (before : List Char) {pattern s : List Char} : Matches pattern s →
      Matches ('%' :: pattern) (before ++ s)
  /-- An underscore takes one character. -/
  | one (c : Char) {pattern s : List Char} : Matches pattern s → Matches ('_' :: pattern) (c :: s)
  /-- A character after a backslash takes itself. -/
  | escaped (c : Char) {pattern s : List Char} : Matches pattern s →
      Matches ('\\' :: c :: pattern) (c :: s)
  /-- Every other character takes itself. -/
  | plain {c : Char} {pattern s : List Char} : ¬ (c = '%' ∨ c = '_' ∨ c = '\\') →
      Matches pattern s → Matches (c :: pattern) (c :: s)
  /-- A backslash with nothing after it takes itself. -/
  | lastBackslash : Matches ['\\'] ['\\']

/-- Marks say what the characters of the pattern say. -/
theorem matches_iff_matchesMarks {pattern s : List Char} :
    Matches pattern s ↔ matchesMarks (marks pattern) s = true := by
  constructor
  · intro h
    induction h with
    | nil => rfl
    | run before _ ih => exact matchesMarks_run.2 ⟨before, _, rfl, ih⟩
    | one c _ ih => exact ih
    | escaped c _ ih => simpa [marks, matchesMarks] using ih
    | plain hc _ ih => simpa [marks_plain hc, matchesMarks] using ih
    | lastBackslash => rfl
  · intro h
    induction pattern using marks.induct generalizing s with
    | case1 =>
      obtain rfl : s = [] := by simpa [marks, matchesMarks] using h
      exact .nil
    | case2 rest ih =>
      obtain ⟨before, after, rfl, hafter⟩ := matchesMarks_run.1 h
      exact .run before (ih hafter)
    | case3 rest ih =>
      cases s with
      | nil => cases h
      | cons c s => exact .one c (ih h)
    | case4 c rest ih =>
      cases s with
      | nil => cases h
      | cons d s =>
        simp only [marks, matchesMarks, Bool.and_eq_true, beq_iff_eq] at h
        obtain ⟨rfl, h⟩ := h
        exact .escaped c (ih h)
    | case5 c rest hrun hone hescape ih =>
      by_cases hlast : c = '\\'
      · -- the backslash takes nothing along, so nothing follows it
        subst hlast
        cases rest with
        | cons d rest => exact absurd rfl (hescape d rest rfl)
        | nil =>
          have hs : matchesMarks (['\\'].map .exactly) s = true := h
          obtain rfl := matchesMarks_exactly_end.1 hs
          exact .lastBackslash
      · have hc : ¬ (c = '%' ∨ c = '_' ∨ c = '\\') := by
          simp only [not_or]
          exact ⟨hrun, hone, hlast⟩
        cases s with
        | nil => simp [marks_plain hc, matchesMarks] at h
        | cons d s =>
          simp only [marks_plain hc, matchesMarks, Bool.and_eq_true, beq_iff_eq] at h
          obtain ⟨rfl, h⟩ := h
          exact .plain hc (ih h)

/-! ## Patterns of texts -/

/-- An escaped text stands for itself. -/
theorem marks_escaped (text rest : List Char) :
    marks (text.flatMap escape ++ rest) = text.map .exactly ++ marks rest := by
  induction text with
  | nil => rfl
  | cons c text ih =>
    rw [List.flatMap_cons, List.append_assoc, List.map_cons, List.cons_append, ← ih]
    unfold escape
    split
    · rfl
    · next h => exact marks_plain h _

/-- The marks of the pattern for a text. -/
def marksFor (kind : LikePattern) (text : List Char) : List Mark :=
  match kind with
  | .contains => .run :: (text.map .exactly ++ [.run])
  | .startsWith => text.map .exactly ++ [.run]
  | .endsWith => .run :: text.map .exactly

theorem marks_pattern (kind : LikePattern) (text : String) :
    marks (kind.pattern text).toList = kind.marksFor text.toList := by
  have hend : marks (text.toList.flatMap escape) = text.toList.map .exactly := by
    have h := marks_escaped text.toList []
    rwa [marks, List.append_nil, List.append_nil] at h
  unfold pattern
  rw [String.toList_ofList]
  cases kind with
  | contains =>
    show Mark.run :: marks (text.toList.flatMap escape ++ ['%']) = _
    rw [marks_escaped]
    rfl
  | startsWith =>
    show marks (text.toList.flatMap escape ++ ['%']) = _
    rw [marks_escaped]
    rfl
  | endsWith =>
    show Mark.run :: marks (text.toList.flatMap escape) = _
    rw [hend]
    rfl

/-- The pattern for a text matches what the test for the text finds. -/
theorem matches_pattern (kind : LikePattern) (subject text : String) :
    matchesPattern (kind.pattern text) subject = kind.found subject text := by
  rw [Bool.eq_iff_iff, matchesPattern, marks_pattern]
  cases kind with
  | contains =>
    simp only [marksFor, found, matchesMarks_run, matchesMarks_exactly, Text.occursIn_iff]
    constructor
    · rintro ⟨before, -, hsubject, after, rfl, -⟩
      exact ⟨before, after, by rw [hsubject, List.append_assoc]⟩
    · rintro ⟨before, after, hsubject⟩
      refine ⟨before, text.toList ++ after, ?_, after, rfl, matchesMarks_run.1 ?_⟩
      · rw [← hsubject, List.append_assoc]
      · exact matchesMarks_run_end after
  | startsWith =>
    rw [marksFor, found, matchesMarks_exactly, List.isPrefixOf_iff_prefix]
    constructor
    · rintro ⟨after, hsubject, -⟩
      exact ⟨after, hsubject.symm⟩
    · rintro ⟨after, hsubject⟩
      exact ⟨after, hsubject.symm, matchesMarks_run_end after⟩
  | endsWith =>
    rw [marksFor, found, matchesMarks_run, List.isSuffixOf_iff_suffix]
    simp only [matchesMarks_exactly_end]
    constructor
    · rintro ⟨before, after, hsubject, rfl⟩
      exact ⟨before, hsubject.symm⟩
    · rintro ⟨before, hsubject⟩
      exact ⟨before, text.toList, hsubject.symm, rfl⟩

/-- **A pattern means what the test finds.**  A subject as a whole matches the pattern for a text
exactly if the text is where it is looked for, whatever characters the two have. -/
theorem matches_pattern_iff (kind : LikePattern) (subject text : String) :
    Matches (kind.pattern text).toList subject.toList ↔ kind.found subject text = true := by
  rw [matches_iff_matchesMarks, ← matches_pattern]
  rfl

end LikePattern

end Formulary
