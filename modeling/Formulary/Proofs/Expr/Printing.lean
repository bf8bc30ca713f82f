import Formulary.Proofs.Expr.Canonical
import Formulary.Proofs.Number.Written

/-!
# Printing a formula

The text of a canonical tree writes the tree: every binary operator stands in parentheses,
a negative number is a minus sign and a numeral, and a quoted text hides its quotes and
backslashes.

* `writesOperand_text` — the text of a tree is an operand of the grammar that means it;
* `parse_text` — reading undoes printing.
-/

namespace Formulary.Grammar

/-- A binary number stands somewhere in a tree. -/
inductive HasFloat (x : Binary64) : Expr → Prop
  | here : HasFloat x (.literal (.float x))
  | neg {operand : Expr} : HasFloat x operand → HasFloat x (.neg operand)
  | left {op : BinaryOp} {left right : Expr} : HasFloat x left → HasFloat x (.binary op left right)
  | right {op : BinaryOp} {left right : Expr} : HasFloat x right →
      HasFloat x (.binary op left right)
  | arg {name : String} {args : List Expr} {arg : Expr} : arg ∈ args → HasFloat x arg →
      HasFloat x (.call name args)

theorem HasFloat.eq_of_literal {x y : Binary64} (h : HasFloat x (.literal (.float y))) :
    x = y := by
  cases h
  rfl

/-- The characters of a tree as an operand with its minus signs. -/
def WritesOperand (expr : Expr) (s : List Char) : Prop :=
  ∃ form, Writes 5 form s ∧ Denotes form expr

/-- What binds tighter may stand where anything looser is asked for. -/
theorem Writes.loosen {level k : Nat} {form : Form} {s : List Char} (h : Writes level form s)
    (hl : level ≤ 6) (hk : k ≤ level) : Writes k form s := by
  obtain ⟨d, rfl⟩ := Nat.exists_eq_add_of_le hk
  induction d generalizing k with
  | zero => exact h
  | succ d ih =>
    apply Writes.tighter (by omega)
    exact ih (by rw [Nat.add_right_comm]; exact h) (by omega) (by omega)

/-! ## Literals -/

/-- A text between quotes means the text whose quotes and backslashes were hidden. -/
theorem quoted_flatMap (s : List Char) : Quoted '\'' s (s.flatMap Literal.quoteChar) := by
  induction s with
  | nil => exact .nil
  | cons c s ih =>
    rw [List.flatMap_cons, Literal.quoteChar]
    by_cases hb : c = '\\'
    · subst hb
      exact .escaped (escape_iff.2 rfl) ih
    · rw [if_neg hb]
      by_cases hq : c = '\''
      · subst hq
        exact .escaped (escape_iff.2 rfl) ih
      · rw [if_neg hq]
        exact .plain hq hb ih

/-- A literal of the grammar is an operand. -/
theorem writesOperand_literal {written : WrittenLiteral} {value : Literal} {s : List Char}
    (hw : WritesLiteral written s) (hm : LiteralMeans written value) :
    WritesOperand (.literal value) s :=
  ⟨.literal written, .tighter (by decide) (.literal hw), value, hm, rfl⟩

/-- A minus sign before an operand. -/
theorem writesOperand_neg {inner expr : Expr} {s : List Char} (h : WritesOperand inner s)
    (hneg : Negated inner expr) : WritesOperand expr ('-' :: s) := by
  obtain ⟨form, hw, hd⟩ := h
  have hgap : Gap [] := by simp [Gap]
  exact ⟨.neg form, .neg hgap hw, inner, hd, hneg⟩

theorem intText_of_nonneg {n : Int64} {m : Nat} (h : n.toInt = m) :
    (Integer.text n).toList = Nat.toDigits 10 m := by
  rw [Integer.text, Int.toString_eq_repr, Int.repr_eq_if, h, if_pos (by omega), Int.toNat_natCast,
    Nat.toList_repr]

theorem intText_of_neg {n : Int64} {m : Nat} (hm : 0 < m) (h : n.toInt = -m) :
    (Integer.text n).toList = '-' :: Nat.toDigits 10 m := by
  rw [Integer.text, Int.toString_eq_repr, Int.repr_eq_if, h, if_neg (by omega), Int.neg_neg,
    Int.toNat_natCast, String.toList_append, Nat.toList_repr]
  rfl

theorem writesOperand_digits {n : Int64} {m : Nat} (h : n.toInt = m) :
    WritesOperand (.literal (.int n)) (Nat.toDigits 10 m) := by
  apply writesOperand_literal (.whole (Numeral.digits_toDigits m))
  exact .whole (by rw [h, numeral_eq, Numeral.valueOfDigits_toDigits])

theorem writesOperand_int {n : Int64} (h : Literal.int n ≠ .int Int64.minValue) :
    WritesOperand (.literal (.int n)) (Integer.text n).toList := by
  have hlow := n.le_toInt
  have hhigh := n.toInt_lt
  rcases lt_or_ge n.toInt 0 with hneg | hpos
  · obtain ⟨m, hm⟩ : ∃ m : Nat, n.toInt = -m := ⟨n.toInt.natAbs, by omega⟩
    have hne : n.toInt ≠ Int64.minValue.toInt := by
      intro heq
      exact h (by rw [Int64.toInt_inj.1 heq])
    have hmin : Int64.minValue.toInt = -2 ^ 63 := rfl
    have hopposite : (Int64.ofInt m).toInt = m :=
      Int64.toInt_ofInt_of_le (by omega) (by omega)
    rw [intText_of_neg (by omega) hm]
    exact writesOperand_neg (writesOperand_digits hopposite) (.int (by rw [hm, hopposite]))
  · obtain ⟨m, hm⟩ : ∃ m : Nat, n.toInt = m := ⟨n.toInt.natAbs, by omega⟩
    rw [intText_of_nonneg hm]
    exact writesOperand_digits hm

theorem writesOperand_pointText {units : Nat} {s : List Char} (fits : FitsBinary64 units)
    (h : Numeral.PointText units s) :
    WritesOperand (.literal (.float (.finite false units fits))) s := by
  obtain ⟨whole, fraction, rfl, hw, hf, hback⟩ := h
  apply writesOperand_literal (.fraction hw hf)
  rw [Binary64.ofUnits_of_fits false fits] at hback
  rw [← hback, Decimal.ofDecimal_eq_ofRatio]
  exact .fraction whole fraction

theorem writesOperand_float {x : Binary64} (h : Numeral.Plain x) :
    WritesOperand (.literal (.float x)) (Numeral.marked.text x).toList := by
  cases x with
  | nan => cases h
  | infinite negative => cases h
  | finite negative units fits =>
    have hsize := writesOperand_pointText fits (Numeral.pointText_size h)
    rw [Numeral.Layout.text, String.toList_ofList]
    cases negative with
    | false => exact hsize
    | true => exact writesOperand_neg hsize (.float _)

theorem writesOperand_value {value : Literal} (hint : value ≠ .int Int64.minValue)
    (hfloat : ∀ x, HasFloat x (.literal value) → Numeral.Plain x) :
    WritesOperand (.literal value) value.text.toList := by
  cases value with
  | null =>
    have hnull : NullWord "null".toList := .inl rfl
    exact writesOperand_literal (.null hnull) .null
  | bool b =>
    have hbool : BoolWord b (Literal.boolText b).toList := by cases b <;> rfl
    exact writesOperand_literal (.bool hbool) (.bool b)
  | int n => exact writesOperand_int hint
  | float x => exact writesOperand_float (hfloat x .here)
  | string s =>
    rw [Literal.text, String.toList_ofList]
    have hmeans := LiteralMeans.string s.toList
    rw [String.ofList_toList] at hmeans
    exact writesOperand_literal (.string (.inl rfl) (quoted_flatMap s.toList)) hmeans

/-! ## Trees -/

theorem writesOperand_path {path : Path} (hne : path.segments ≠ [])
    (hnames : ∀ segment ∈ path.segments, Name segment.toList) :
    WritesOperand (.identifier path) path.text.toList := by
  have hsegments : ∀ segment ∈ path.segments.map String.toList, Name segment := by
    intro segment hsegment
    obtain ⟨name, hname, rfl⟩ := List.mem_map.1 hsegment
    exact hnames name hname
  refine ⟨.path (path.segments.map String.toList), .tighter (by decide) ?_, ?_⟩
  · rw [pathText_eq_intercalate]
    exact .path (by simpa using hne) hsegments
  · simp [Denotes, List.map_map, Function.comp_def]

/-- Operands with an operator between them stand in parentheses. -/
theorem writesOperand_binary (op : BinaryOp) {left right : Expr} {l r : List Char}
    (hl : WritesOperand left l) (hr : WritesOperand right r) :
    WritesOperand (.binary op left right)
      ('(' :: (l ++ [' '] ++ op.symbol.toList ++ [' '] ++ r ++ [')'])) := by
  obtain ⟨leftForm, hlw, hld⟩ := hl
  obtain ⟨rightForm, hrw, hrd⟩ := hr
  have hlevel : op.level < 5 := by cases op <;> decide
  have hnone : Gap [] := by simp [Gap]
  have hblank : Gap [' '] := by simp [Gap]
  have hop : Operator op op.level op.symbol.toList := operator_iff.2 ⟨rfl, rfl⟩
  have hw := Writes.binary hop (hlw.loosen (by decide) (by omega)) hblank hblank
    (hrw.loosen (by decide) (by omega))
  have hparens := Writes.parens hnone (hw.loosen (by omega) (Nat.zero_le _)) hnone
  refine ⟨.binary op leftForm rightForm, .tighter (by decide) ?_, left, right, hld, hrd, rfl⟩
  simpa using hparens

theorem texts_eq_map (args : List Expr) : Expr.texts args = args.map Expr.text := by
  induction args with
  | nil => rfl
  | cons arg args ih => rw [Expr.texts, ih, List.map_cons]

theorem writesArgs_texts {args : List Expr}
    (h : ∀ arg ∈ args, WritesOperand arg arg.text.toList) {g : List Char} (hg : Gap g) :
    ∃ forms, DenotesAll forms args ∧
      WritesArgs forms (g ++ [',', ' '].intercalate ((args.map Expr.text).map String.toList)) := by
  have hnone : Gap [] := by simp [Gap]
  have hblank : Gap [' '] := by simp [Gap]
  induction args generalizing g with
  | nil => exact ⟨[], rfl, by simpa using WritesArgs.none hg⟩
  | cons arg args ih =>
    obtain ⟨form, hw, hd⟩ := h arg (by simp)
    have hw := hw.loosen (by decide) (Nat.zero_le 5)
    cases args with
    | nil =>
      refine ⟨[form], ⟨arg, [], hd, rfl, rfl⟩, ?_⟩
      simpa using WritesArgs.one hg hw hnone
    | cons next args =>
      obtain ⟨forms, hall, hmore⟩ := ih (fun a ha => h a (List.mem_cons_of_mem _ ha)) hblank
      cases forms with
      | nil => cases hall
      | cons nextForm forms =>
        refine ⟨form :: nextForm :: forms, ⟨arg, next :: args, hd, hall, rfl⟩, ?_⟩
        simpa using WritesArgs.more hg hw hnone hmore

theorem writesOperand_call {name : String} {args : List Expr} (hname : Name name.toList)
    (hargs : ∀ arg ∈ args, WritesOperand arg arg.text.toList) :
    WritesOperand (.call name args) (Expr.text (.call name args)).toList := by
  have hnone : Gap [] := by simp [Gap]
  obtain ⟨forms, hall, hw⟩ := writesArgs_texts hargs hnone
  refine ⟨.call name.toList forms, .tighter (by decide) ?_, args, hall, ?_⟩
  · have hcall := Writes.call hname hnone hw
    simpa [Expr.text, texts_eq_map, String.toList_intercalate] using hcall
  · rw [String.ofList_toList]

/-- The text of a canonical tree whose binary numbers are plain is an operand that means it. -/
theorem writesOperand_text {expr : Expr} (h : Canonical expr)
    (hfloat : ∀ x, HasFloat x expr → Numeral.Plain x) :
    WritesOperand expr expr.text.toList := by
  induction h with
  | literal hint _ => exact writesOperand_value hint hfloat
  | identifier hne hnames => exact writesOperand_path hne hnames
  | neg hnumber _ ih =>
    have hoperand := ih fun x hx => hfloat x (.neg hx)
    have hneg := writesOperand_neg hoperand (.other hnumber)
    simpa [Expr.text] using hneg
  | binary op _ _ ihl ihr =>
    have hleft := ihl fun x hx => hfloat x (.left hx)
    have hright := ihr fun x hx => hfloat x (.right hx)
    have hbinary := writesOperand_binary op hleft hright
    simpa [Expr.text] using hbinary
  | call hname _ ih =>
    apply writesOperand_call hname
    intro arg harg
    exact ih arg harg fun x hx => hfloat x (.arg harg hx)

/-- An operand is a whole formula. -/
theorem parse_of_writesOperand {expr : Expr} {source : String}
    (h : WritesOperand expr source.toList) : parse source = .ok expr := by
  obtain ⟨form, hw, hd⟩ := h
  have hnone : Gap [] := by simp [Gap]
  refine parse_eq_ok_iff.2 ⟨form, ⟨[], source.toList, [], by simp, hnone, ?_, hnone⟩, hd⟩
  exact hw.loosen (by decide) (Nat.zero_le 5)

/-- Reading undoes printing. -/
theorem parse_text {expr : Expr} (h : Canonical expr)
    (hfloat : ∀ x, HasFloat x expr → Numeral.Plain x) : parse expr.text = .ok expr :=
  parse_of_writesOperand (writesOperand_text h hfloat)

/-- **Reading undoes printing.**  Every tree that is read is canonical; a finite number is
written without an exponent exactly if it is plain, which is to say zero or from `10⁻⁴` up to
`10¹⁶`; and a canonical tree whose binary numbers are plain is read back from its text as
it was. -/
theorem text_roundtrip :
    (∀ source expr, parse source = .ok expr → Canonical expr) ∧
    (∀ negative units fits, Numeral.Plain (.finite negative units fits) ↔
      'e' ∉ (Literal.text (.float (.finite negative units fits))).toList) ∧
    ∀ expr, Canonical expr → (∀ x, HasFloat x expr → Numeral.Plain x) →
      parse expr.text = .ok expr :=
  ⟨fun _ _ => canonical_of_parse, fun _ _ _ => Numeral.plain_iff,
    fun _ h hfloat => parse_text h hfloat⟩

/-- A minus sign before a call, with a negative number behind a minus, a quote and a
backslash in a text, and a negative zero. -/
theorem text_roundtrip_call :
    let expr : Expr := .neg (.call "f" [
      .binary .sub (.identifier ⟨["nullable", "x"]⟩) (.literal (.int (-5))),
      .literal (.string "it's \\"),
      .literal (.float (Binary64.zero true))])
    (∀ x, HasFloat x expr → Numeral.Plain x) ∧ parse expr.text = .ok expr ∧ Canonical expr := by
  intro expr
  have hfloat : ∀ x, HasFloat x expr → Numeral.Plain x := by
    intro x hx
    dsimp only [expr] at hx
    cases hx with | neg hx =>
    cases hx with | arg harg hx =>
    simp only [List.mem_cons, List.not_mem_nil, or_false] at harg
    rcases harg with rfl | rfl | rfl
    · cases hx with
      | left hx => cases hx
      | right hx => cases hx
    · cases hx
    · rw [hx.eq_of_literal]
      exact Numeral.plain_zero true
  have hpath : ∀ segment ∈ ["nullable", "x"], Name segment.toList := by
    simp only [List.forall_mem_cons]
    exact ⟨by decide, by decide, by simp⟩
  have hcanonical : Canonical expr := by
    apply Canonical.neg (by simp [IsNumber])
    apply Canonical.call (by decide)
    simp only [List.forall_mem_cons]
    refine ⟨.binary .sub ?_ ?_, ?_, ?_, by simp⟩
    · exact .identifier (by simp) hpath
    · exact .literal (by decide) (by simp)
    · exact .literal (by simp) (by simp)
    · exact canonical_float (zero_ne_nan true)
  have hparse := text_roundtrip.2.2 expr hcanonical hfloat
  exact ⟨hfloat, hparse, text_roundtrip.1 expr.text expr hparse⟩

end Formulary.Grammar
