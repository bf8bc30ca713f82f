/-!
# Texts in pieces

A mark cuts a text into pieces: dotted paths, lists with commas, the steps of a file path
and lines are read this way.  There is always one piece more than there are marks.

Main statements: the pieces with the mark between them are the text (`joined_pieces`), and
pieces without the mark are found again (`pieces_joined`).
-/

namespace Formulary.Text

/-- The pieces of a text between the occurrences of a mark, empty pieces included. -/
def pieces (mark : Char) : List Char → List (List Char)
  | [] => [[]]
  | c :: rest =>
    if c = mark then [] :: pieces mark rest
    else
      match pieces mark rest with
      | [] => [[c]]
      | piece :: more => (c :: piece) :: more

/-- Pieces with a mark between neighbours. -/
def joined (mark : Char) : List (List Char) → List Char
  | [] => []
  | [piece] => piece
  | piece :: more => piece ++ mark :: joined mark more

/-- The pieces of a text as texts. -/
def cut (mark : Char) (s : String) : List String :=
  (pieces mark s.toList).map String.ofList

/-! ## Cutting and joining -/

theorem pieces_ne_nil (mark : Char) (s : List Char) : pieces mark s ≠ [] := by
  cases s with
  | nil => simp [pieces]
  | cons c rest =>
    simp only [pieces]
    split
    · simp
    · split <;> simp

/-- A piece before others comes first in the text, with the mark after it. -/
theorem joined_cons (mark : Char) (piece : List Char) {more : List (List Char)}
    (h : more ≠ []) : joined mark (piece :: more) = piece ++ mark :: joined mark more := by
  cases more with
  | nil => exact absurd rfl h
  | cons next more => rfl

/-- Cutting loses nothing. -/
theorem joined_pieces (mark : Char) (s : List Char) : joined mark (pieces mark s) = s := by
  induction s with
  | nil => rfl
  | cons c rest ih =>
    have nonempty := pieces_ne_nil mark rest
    simp only [pieces]
    split
    · next here => rw [joined_cons mark [] nonempty, ih, here]; rfl
    · cases h : pieces mark rest with
      | nil => exact absurd h nonempty
      | cons piece more =>
        rw [h] at ih
        cases more with
        | nil => simpa [joined] using ih
        | cons next more => simpa [joined] using ih

/-- A text without the mark is one piece. -/
theorem pieces_of_not_mem {mark : Char} {s : List Char} (h : mark ∉ s) :
    pieces mark s = [s] := by
  induction s with
  | nil => rfl
  | cons c s ih =>
    simp only [List.mem_cons, not_or] at h
    rw [pieces, if_neg (Ne.symm h.1), ih h.2]

/-- A piece ends at the first mark. -/
theorem pieces_append {mark : Char} {s : List Char} (h : mark ∉ s) (rest : List Char) :
    pieces mark (s ++ mark :: rest) = s :: pieces mark rest := by
  induction s with
  | nil => rw [List.nil_append, pieces, if_pos rfl]
  | cons c s ih =>
    simp only [List.mem_cons, not_or] at h
    rw [List.cons_append, pieces, if_neg (Ne.symm h.1), ih h.2]

/-- Pieces without the mark are found again. -/
theorem pieces_joined {mark : Char} {segments : List (List Char)} (hne : segments ≠ [])
    (h : ∀ segment ∈ segments, mark ∉ segment) : pieces mark (joined mark segments) = segments := by
  induction segments with
  | nil => exact absurd rfl hne
  | cons segment more ih =>
    have hsegment := h segment (by simp)
    cases more with
    | nil => exact pieces_of_not_mem hsegment
    | cons next more =>
      have hmore := ih (by simp) fun s hs => h s (List.mem_cons_of_mem _ hs)
      rw [joined_cons mark segment (by simp), pieces_append hsegment, hmore]

end Formulary.Text
