import Formulary.Proofs.Expr.Reading

/-!
# Canonical trees

Not every tree is the tree of a text: names have to be names, and a minus sign before a
number is part of the number.  The trees that come out of the reader are canonical, and
`Formulary.Proofs.Expr.Printing` shows that canonical trees are read back from their texts.

* `canonical_of_parse` — every tree that a text writes is canonical.
-/

namespace Formulary.Grammar

/-- A tree as the reader builds it. -/
inductive Canonical : Expr → Prop
  /-- The least integer and the number that is not a number have no text. -/
  | literal {value : Literal} : value ≠ .int Int64.minValue → value ≠ .float .nan →
      Canonical (.literal value)
  | identifier {path : Path} : path.segments ≠ [] →
      (∀ segment ∈ path.segments, Name segment.toList) → Canonical (.identifier path)
  /-- A minus sign before a number is part of the number. -/
  | neg {operand : Expr} : ¬ IsNumber operand → Canonical operand → Canonical (.neg operand)
  | binary (op : BinaryOp) {left right : Expr} : Canonical left → Canonical right →
      Canonical (.binary op left right)
  | call {name : String} {args : List Expr} : Name name.toList →
      (∀ arg ∈ args, Canonical arg) → Canonical (.call name args)

/-! ## Literals -/

theorem ofRatio_ne_nan (negative : Bool) (num den : Nat) :
    Binary64.ofRatio negative num den ≠ .nan := by
  unfold Binary64.ofRatio
  split <;> simp

theorem zero_ne_nan (negative : Bool) : Binary64.zero negative ≠ .nan := by
  rw [Binary64.zero, Binary64.ofUnits]
  exact ofRatio_ne_nan negative 0 1

theorem neg_ne_nan {x : Binary64} (h : x ≠ .nan) : x.neg ≠ .nan := by
  cases x with
  | nan => exact absurd rfl h
  | infinite negative => simp [Binary64.neg]
  | finite negative units fits => simp [Binary64.neg]

theorem ne_minValue_of_noLeast {n : Int64} (h : NoLeast (.literal (.int n))) :
    Literal.int n ≠ .int Int64.minValue := by
  intro heq
  obtain rfl := Literal.int.inj heq
  exact absurd (h _ rfl) (by decide)

theorem canonical_int {n : Int64} (h : NoLeast (.literal (.int n))) :
    Canonical (.literal (.int n)) :=
  .literal (ne_minValue_of_noLeast h) (by simp)

theorem canonical_float {x : Binary64} (h : x ≠ .nan) : Canonical (.literal (.float x)) :=
  .literal (by simp) (by simpa using h)

theorem canonical_of_negated {inner expr : Expr} (hinner : Canonical inner)
    (h : Negated inner expr) : Canonical expr := by
  have hno := noLeast_of_negated h
  cases h with
  | int hn => exact canonical_int hno
  | float x =>
    cases hinner with
    | literal hint hfloat => exact canonical_float (neg_ne_nan (by simpa using hfloat))
  | other hnumber => exact .neg hnumber hinner

/-! ## Names -/

theorem isIdentifierChar_of_name {s : List Char} (h : Name s) {c : Char} (hc : c ∈ s) :
    Text.isIdentifierChar c = true := by
  cases s with
  | nil => cases hc
  | cons d s =>
    obtain ⟨hd, hs⟩ := name_cons h
    rcases List.mem_cons.1 hc with rfl | hc
    · exact isIdentifierChar_of_start hd
    · exact hs c hc

theorem mem_intercalate {mark c : Char} {segments : List (List Char)}
    (h : c ∈ [mark].intercalate segments) : c = mark ∨ ∃ segment ∈ segments, c ∈ segment := by
  induction segments with
  | nil => cases h
  | cons segment more ih =>
    cases more with
    | nil => exact .inr ⟨segment, by simp, by simpa using h⟩
    | cons next more =>
      rw [List.intercalate_cons_cons, List.append_assoc, List.mem_append] at h
      rcases h with h | h
      · exact .inr ⟨segment, by simp, h⟩
      · rcases List.mem_cons.1 h with h | h
        · exact .inl h
        · rcases ih h with h | ⟨found, hfound, hc⟩
          · exact .inl h
          · exact .inr ⟨found, List.mem_cons_of_mem _ hfound, hc⟩

theorem joined_eq_intercalate (mark : Char) (segments : List (List Char)) :
    Text.joined mark segments = [mark].intercalate segments := by
  induction segments with
  | nil => rfl
  | cons segment more ih =>
    cases more with
    | nil => simp [Text.joined]
    | cons next more =>
      rw [Text.joined_cons mark segment (by simp), ih, List.intercalate_cons_cons]
      simp

/-- The text of an identifier has only letters, digits, underscores and points. -/
theorem mem_pathText {path : Path} (h : Canonical (.identifier path)) {c : Char}
    (hc : c ∈ path.text.toList) : c = '.' ∨ Text.isIdentifierChar c = true := by
  cases h with
  | identifier _ hnames =>
    rw [Path.text, String.toList_intercalate] at hc
    rcases mem_intercalate hc with hc | ⟨segment, hsegment, hc⟩
    · exact .inl hc
    · obtain ⟨name, hname, rfl⟩ := List.mem_map.1 hsegment
      exact .inr (isIdentifierChar_of_name (hnames name hname) hc)

theorem pathText_eq_intercalate (path : Path) :
    path.text.toList = ['.'].intercalate (path.segments.map String.toList) := by
  rw [Path.text, String.toList_intercalate]
  rfl

/-- The text of an identifier is cut into its segments again. -/
theorem ofDotted_text {path : Path} (h : Canonical (.identifier path)) :
    Path.ofDotted path.text = path := by
  cases h with
  | identifier hne hnames =>
    have hsegments : ∀ segment ∈ path.segments.map String.toList, '.' ∉ segment := by
      intro segment hsegment hmark
      obtain ⟨name, hname, rfl⟩ := List.mem_map.1 hsegment
      exact absurd (isIdentifierChar_of_name (hnames name hname) hmark) (by decide)
    rw [Path.ofDotted, Text.cut, pathText_eq_intercalate, ← joined_eq_intercalate,
      Text.pieces_joined (by simpa using hne) hsegments]
    simp [List.map_map, Function.comp_def]

theorem pathText_ne_nil {path : Path} (h : Canonical (.identifier path)) :
    path.text.toList ≠ [] := by
  cases h with
  | identifier hne hnames =>
    rw [pathText_eq_intercalate]
    cases hsegments : path.segments with
    | nil => exact absurd hsegments hne
    | cons segment more =>
      have hsegment := name_ne_nil (hnames segment (by simp [hsegments]))
      cases more with
      | nil => simpa using hsegment
      | cons next more => simp

/-! ## Trees of texts -/

mutual

theorem canonical_of_writes {level : Nat} {form : Form} {s : List Char} {expr : Expr} :
    Writes level form s → Denotes form expr → Canonical expr
  | .binary _ hl _ _ hr, h => by
    obtain ⟨l, r, hleft, hright, rfl⟩ := h
    exact .binary _ (canonical_of_writes hl hleft) (canonical_of_writes hr hright)
  | .tighter _ hw, h => canonical_of_writes hw h
  | .neg _ hw, h => by
    obtain ⟨inner, hinner, hneg⟩ := h
    exact canonical_of_negated (canonical_of_writes hw hinner) hneg
  | .literal _, h => by
    have hno := noLeast_of_denotes h
    obtain ⟨value, hv, rfl⟩ := h
    cases hv with
    | whole hn => exact canonical_int hno
    | fraction whole fraction => exact canonical_float (ofRatio_ne_nan _ _ _)
    | null => exact .literal (by simp) (by simp)
    | bool b => exact .literal (by simp) (by simp)
    | string s => exact .literal (by simp) (by simp)
  | .path hne hnames, h => by
    obtain rfl : expr = _ := h
    refine .identifier (by simpa using hne) ?_
    intro segment hsegment
    obtain ⟨name, hname, rfl⟩ := List.mem_map.1 hsegment
    rw [String.toList_ofList]
    exact hnames name hname
  | .call hname _ hargs, h => by
    obtain ⟨exprs, hall, rfl⟩ := h
    refine .call ?_ (canonical_of_writesArgs hargs hall)
    rw [String.toList_ofList]
    exact hname
  | .parens _ hw _, h => canonical_of_writes hw h

theorem canonical_of_writesArgs {forms : List Form} {s : List Char} {exprs : List Expr} :
    WritesArgs forms s → DenotesAll forms exprs → ∀ expr ∈ exprs, Canonical expr
  | .none _, h => by
    obtain rfl : exprs = [] := h
    simp
  | .one _ hw _, h => by
    obtain ⟨e, es, he, hes, rfl⟩ := h
    obtain rfl : es = [] := hes
    intro expr hexpr
    obtain rfl := List.mem_singleton.1 hexpr
    exact canonical_of_writes hw he
  | .more _ hw _ hmore, h => by
    obtain ⟨e, es, he, hes, rfl⟩ := h
    intro expr hexpr
    rcases List.mem_cons.1 hexpr with rfl | hexpr
    · exact canonical_of_writes hw he
    · exact canonical_of_writesArgs hmore hes expr hexpr

end

/-- Every tree that a text writes is canonical. -/
theorem canonical_of_parse {source : String} {expr : Expr} (h : parse source = .ok expr) :
    Canonical expr := by
  obtain ⟨form, ⟨g, s, gap, -, -, hw, -⟩, hdenotes⟩ := parse_eq_ok_iff.1 h
  exact canonical_of_writes hw hdenotes

end Formulary.Grammar
