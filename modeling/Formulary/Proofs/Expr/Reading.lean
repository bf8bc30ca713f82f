import Formulary.Proofs.Expr.Phrases
import Formulary.Proofs.Number.Rounding

/-!
# Reading a formula

The reader against the grammar.

* `parse_eq_ok_iff` — a text is read as a tree exactly when it writes the tree;
* `parse_of_spells` — a text of the grammar is read, unless a whole number in it is greater
  than the greatest integer;
* `parse_accepts_grammar` — both, with the uniqueness of forms and trees.
-/

namespace Formulary.Grammar

/-! ## Literals and minus signs -/

theorem literalValue_eq_ok_iff {written : WrittenLiteral} {value : Literal} :
    Form.literalValue written = .ok value ↔ LiteralMeans written value := by
  constructor
  · intro h
    cases written with
    | whole digits =>
      simp only [Form.literalValue] at h
      split at h
      · next n hn =>
        obtain rfl := Except.ok.inj h
        exact .whole (Integer.toInt_ofInt? hn)
      · contradiction
    | null => obtain rfl := Except.ok.inj h; exact .null
    | bool b => obtain rfl := Except.ok.inj h; exact .bool b
    | fraction whole fraction =>
      obtain rfl := Except.ok.inj h
      rw [Decimal.ofDecimal_eq_ofRatio]
      exact .fraction whole fraction
    | string s => obtain rfl := Except.ok.inj h; exact .string s
  · intro h
    cases h with
    | whole hn =>
      simp only [Form.literalValue]
      rw [← numeral_eq, ← hn, Integer.ofInt?_toInt]
    | fraction whole fraction => rw [Form.literalValue, Decimal.ofDecimal_eq_ofRatio]; rfl
    | _ => rfl

/-- The only literals without a value are whole numbers above the greatest integer. -/
theorem literalValue_error {written : WrittenLiteral} {e : ParseError}
    (h : Form.literalValue written = .error e) :
    ∃ digits, written = .whole digits ∧
      2 ^ 63 ≤ numeral digits ∧
      e = .integerTooLarge (String.ofList digits) := by
  cases written with
  | whole digits =>
    simp only [Form.literalValue] at h
    split at h
    · contradiction
    · next hn =>
      refine ⟨digits, rfl, ?_, (Except.error.inj h).symm⟩
      have hout := mt (Integer.ofInt?_isSome_iff (Decimal.valueOfDigits digits)).2 (by simp [hn])
      unfold Integer.least Integer.greatest at hout
      rw [numeral_eq]
      omega
  | _ => simp [Form.literalValue] at h

theorem negate_eq_ok_iff {inner expr : Expr} :
    Form.negate inner = .ok expr ↔ Negated inner expr := by
  constructor
  · intro h
    unfold Form.negate at h
    split at h
    · next m =>
      split at h
      · next n hn =>
        obtain rfl := Except.ok.inj h
        exact .int (Integer.toInt_ofInt? hn)
      · contradiction
    · obtain rfl := Except.ok.inj h
      exact .float _
    · next hint hfloat =>
      obtain rfl := Except.ok.inj h
      refine .other ?_
      rintro (⟨n, rfl⟩ | ⟨x, rfl⟩)
      · exact hint n rfl
      · exact hfloat x rfl
  · intro h
    cases h with
    | @int m n hn =>
      have hneg : Integer.neg? m = some n := by rw [Integer.neg?, ← hn, Integer.ofInt?_toInt]
      simp only [Form.negate, hneg]
    | float x => rfl
    | other hno =>
      unfold Form.negate
      split
      · next m => exact absurd (.inl ⟨m, rfl⟩) hno
      · next x => exact absurd (.inr ⟨x, rfl⟩) hno
      · rfl

/-- The tree is not the least integer, the only one without an opposite. -/
def NoLeast (expr : Expr) : Prop :=
  ∀ n, expr = .literal (.int n) → Integer.least < n.toInt

theorem negate_of_noLeast {expr : Expr} (h : NoLeast expr) (e : ParseError) :
    Form.negate expr ≠ .error e := by
  unfold Form.negate
  split
  · next m =>
    have hm := h m rfl
    have hsome : (Integer.neg? m).isSome := by
      rw [Integer.neg?, Integer.ofInt?_isSome_iff]
      have := m.le_toInt
      have := m.toInt_lt
      unfold Integer.least Integer.greatest at *
      omega
    obtain ⟨n, hn⟩ := Option.isSome_iff_exists.1 hsome
    simp [hn]
  · simp
  · simp

theorem noLeast_of_negated {inner expr : Expr} (h : Negated inner expr) : NoLeast expr := by
  intro k hk
  cases h with
  | @int m n hn =>
    cases hk
    have := m.toInt_lt
    unfold Integer.least
    omega
  | float x => cases hk
  | other hno => cases hk

theorem noLeast_of_denotes {form : Form} {expr : Expr} (h : Denotes form expr) :
    NoLeast expr := by
  cases form with
  | literal written =>
    obtain ⟨value, hv, rfl⟩ := h
    intro n hn
    cases hv with
    | whole hw =>
      cases hn
      unfold Integer.least
      omega
    | _ => cases hn
  | path segments =>
    obtain rfl : expr = _ := h
    intro n hn; cases hn
  | neg operand =>
    obtain ⟨inner, -, hneg⟩ := h
    exact noLeast_of_negated hneg
  | binary op left right =>
    obtain ⟨l, r, -, -, rfl⟩ := h
    intro n hn; cases hn
  | call name args =>
    obtain ⟨exprs, -, rfl⟩ := h
    intro n hn; cases hn

/-! ## From forms to trees -/

mutual

theorem toExpr_eq_ok_iff : ∀ {form : Form} {expr : Expr},
    form.toExpr = .ok expr ↔ Denotes form expr
  | .literal written, expr => by
    simp only [Form.toExpr, Denotes, ← literalValue_eq_ok_iff]
    cases Form.literalValue written with
    | error e => simp [Except.map]
    | ok value => simp [Except.map, eq_comm]
  | .path segments, expr => by simp [Form.toExpr, Denotes, eq_comm]
  | .neg operand, expr => by
    simp only [Form.toExpr, Denotes, ← toExpr_eq_ok_iff, ← negate_eq_ok_iff]
    cases operand.toExpr with
    | error e => simp
    | ok inner => simp
  | .binary op left right, expr => by
    simp only [Form.toExpr, Denotes, ← toExpr_eq_ok_iff]
    cases left.toExpr with
    | error e => simp
    | ok l =>
      cases right.toExpr with
      | error e => simp
      | ok r => simp [eq_comm]
  | .call name args, expr => by
    simp only [Form.toExpr, Denotes, ← toExprs_eq_ok_iff]
    cases Form.toExprs args with
    | error e => simp
    | ok exprs => simp [eq_comm]

theorem toExprs_eq_ok_iff : ∀ {forms : List Form} {exprs : List Expr},
    Form.toExprs forms = .ok exprs ↔ DenotesAll forms exprs
  | [], exprs => by simp [Form.toExprs, DenotesAll, eq_comm]
  | form :: rest, exprs => by
    simp only [Form.toExprs, DenotesAll, ← toExpr_eq_ok_iff, ← toExprs_eq_ok_iff]
    cases form.toExpr with
    | error e => simp
    | ok expr =>
      cases Form.toExprs rest with
      | error e => simp
      | ok more => simp [eq_comm]

end

mutual

/-- A form has no tree only if a whole number in it is above the greatest integer. -/
theorem toExpr_error : ∀ {form : Form} {e : ParseError}, form.toExpr = .error e →
    ∃ digits, HasWhole digits form ∧ 2 ^ 63 ≤ numeral digits ∧
      e = .integerTooLarge (String.ofList digits)
  | .literal written, e, h => by
    simp only [Form.toExpr] at h
    cases hv : Form.literalValue written with
    | error e' =>
      rw [hv] at h
      obtain rfl := Except.error.inj h
      obtain ⟨digits, rfl, hlarge, he⟩ := literalValue_error hv
      exact ⟨digits, .here, hlarge, he⟩
    | ok value => rw [hv] at h; contradiction
  | .path segments, e, h => by simp [Form.toExpr] at h
  | .neg operand, e, h => by
    simp only [Form.toExpr] at h
    split at h
    · next hoperand =>
      obtain rfl := Except.error.inj h
      obtain ⟨digits, hd, hlarge, he⟩ := toExpr_error hoperand
      exact ⟨digits, .neg hd, hlarge, he⟩
    · next inner hinner =>
      have hno := noLeast_of_denotes (toExpr_eq_ok_iff.1 hinner)
      exact absurd h (negate_of_noLeast hno e)
  | .binary op left right, e, h => by
    simp only [Form.toExpr] at h
    split at h
    · next hleft =>
      obtain rfl := Except.error.inj h
      obtain ⟨digits, hd, hlarge, he⟩ := toExpr_error hleft
      exact ⟨digits, .left hd, hlarge, he⟩
    · split at h
      · next hright =>
        obtain rfl := Except.error.inj h
        obtain ⟨digits, hd, hlarge, he⟩ := toExpr_error hright
        exact ⟨digits, .right hd, hlarge, he⟩
      · contradiction
  | .call name args, e, h => by
    simp only [Form.toExpr] at h
    split at h
    · next hargs =>
      obtain rfl := Except.error.inj h
      obtain ⟨arg, harg, digits, hd, hlarge, he⟩ := toExprs_error hargs
      exact ⟨digits, .arg harg hd, hlarge, he⟩
    · contradiction

theorem toExprs_error : ∀ {forms : List Form} {e : ParseError}, Form.toExprs forms = .error e →
    ∃ form ∈ forms, ∃ digits, HasWhole digits form ∧
      2 ^ 63 ≤ numeral digits ∧
      e = .integerTooLarge (String.ofList digits)
  | [], e, h => by simp [Form.toExprs] at h
  | form :: rest, e, h => by
    simp only [Form.toExprs] at h
    split at h
    · next hform =>
      obtain rfl := Except.error.inj h
      exact ⟨form, by simp, toExpr_error hform⟩
    · split at h
      · next hrest =>
        obtain rfl := Except.error.inj h
        obtain ⟨arg, harg, hd⟩ := toExprs_error hrest
        exact ⟨arg, List.mem_cons_of_mem _ harg, hd⟩
      · contradiction

end

/-! ## Whole texts -/

/-- The tokens of a text are those of a form exactly when the text spells the form. -/
theorem ofTokens_eq_ok_iff {source : List Char} {form : Form} :
    Form.ofTokens (tokens source) = .ok form ↔ Spells form source := by
  constructor
  · intro h
    obtain ⟨g, s, hs, hg, hw⟩ :=
      writes_of_phrase (phrase_of_ofTokens h) _ rfl (lexeme_sound source)
    obtain ⟨gap, hgap, hsource⟩ := Lexeme.source_ofChars source
    exact ⟨g, s, gap, by rw [← hs, hsource], hg, hw, fun c hc => isGap_iff.1 (hgap c hc)⟩
  · rintro ⟨g, s, gap, rfl, hg, hw, hgap⟩
    obtain ⟨t, hp, hl⟩ := phrase_of_writes hw
    have htokens : tokens (g ++ s ++ gap) = t := by
      have hend : Ends (gap ++ []) := ends_gap_append hgap ends_nil
      rw [List.append_nil] at hend
      rw [List.append_assoc, tokens_gap_append hg, hl gap hend, ← List.append_nil gap,
        tokens_gap_append hgap, tokens_nil, List.append_nil]
    rw [htokens]
    exact ofTokens_of_phrase hp

theorem not_blank_of_spells {source : List Char} {form : Form} (h : Spells form source) :
    source.all Text.isBlank = false := by
  obtain ⟨g, s, gap, rfl, -, hw, -⟩ := h
  obtain ⟨c, r, rfl, hc, -⟩ := opens_of_writes hw
  simp [hc]

/-- A text is read as the tree of the form that it spells. -/
theorem parse_of_spells {source : String} {form : Form} (h : Spells form source.toList) :
    parse source = form.toExpr := by
  have hread := ofTokens_eq_ok_iff.2 h
  rw [tokens] at hread
  simp only [parse, not_blank_of_spells h, hread]
  rfl

/-- A text that is read, or read up to a number, spells a form. -/
theorem spells_of_parse {source : String} (hempty : parse source ≠ .error .empty)
    (hplace : ∀ offset, parse source ≠ .error (.unexpected offset)) :
    ∃ form, Spells form source.toList := by
  unfold parse at hempty hplace
  split at hempty
  · exact absurd rfl hempty
  · next hblank =>
    rw [if_neg hblank] at hplace
    simp only at hplace
    split at hplace
    · exact absurd rfl (hplace _)
    · next form hread => exact ⟨form, ofTokens_eq_ok_iff.1 hread⟩

theorem spells_unique {a b : Form} {source : List Char} (ha : Spells a source)
    (hb : Spells b source) : a = b := by
  have hread := (ofTokens_eq_ok_iff.2 ha).symm.trans (ofTokens_eq_ok_iff.2 hb)
  exact Except.ok.inj hread

/-- A text is read as a tree exactly when it writes the tree. -/
theorem parse_eq_ok_iff {source : String} {expr : Expr} :
    parse source = .ok expr ↔ WritesTree source.toList expr := by
  constructor
  · intro h
    have hform : ∃ form, Spells form source.toList :=
      spells_of_parse (by simp [h]) (by simp [h])
    obtain ⟨form, hspells⟩ := hform
    rw [parse_of_spells hspells] at h
    exact ⟨form, hspells, toExpr_eq_ok_iff.1 h⟩
  · rintro ⟨form, hspells, hdenotes⟩
    rw [parse_of_spells hspells]
    exact toExpr_eq_ok_iff.2 hdenotes

/-- **The reader accepts exactly its grammar.**  It reads a text as a tree exactly when the
text writes the tree; form and tree of a text are unique; a text of the grammar is refused
only for a whole number above the greatest integer; and no minus sign ever leads out of
the range. -/
theorem parse_accepts_grammar (source : String) :
    (∀ expr, parse source = .ok expr ↔ WritesTree source.toList expr) ∧
    (∀ a b, Spells a source.toList → Spells b source.toList → a = b) ∧
    (∀ a b, WritesTree source.toList a → WritesTree source.toList b → a = b) ∧
    (∀ form, Spells form source.toList →
      (∃ expr, parse source = .ok expr ∧ Denotes form expr) ∨
      ∃ digits, HasWhole digits form ∧ 2 ^ 63 ≤ numeral digits ∧
        parse source = .error (.integerTooLarge (String.ofList digits))) ∧
    ∀ n, parse source ≠ .error (.negationOverflow n) := by
  refine ⟨fun expr => parse_eq_ok_iff, fun a b => spells_unique, fun a b ha hb => ?_,
    fun form hform => ?_, fun n hn => ?_⟩
  · have hread := (parse_eq_ok_iff.2 ha).symm.trans (parse_eq_ok_iff.2 hb)
    exact Except.ok.inj hread
  · rw [parse_of_spells hform]
    cases h : form.toExpr with
    | ok expr => exact .inl ⟨expr, rfl, toExpr_eq_ok_iff.1 h⟩
    | error e =>
      obtain ⟨digits, hd, hlarge, rfl⟩ := toExpr_error h
      exact .inr ⟨digits, hd, hlarge, rfl⟩
  · have hform : ∃ form, Spells form source.toList :=
      spells_of_parse (by simp [hn]) (by simp [hn])
    obtain ⟨form, hspells⟩ := hform
    rw [parse_of_spells hspells] at hn
    obtain ⟨digits, -, -, he⟩ := toExpr_error hn
    contradiction

/-- Every layer of the grammar at once: a conjunction inside a disjunction, a comparison of a
difference that groups from the left, a product of a number that a minus sign before parentheses
has become part of, two minus signs before a name, a word that only starts like a null, and a
call with literals in letters of either case, both kinds of quotes and escapes.  It writes one
tree.  A segment of a path is no literal, and a whole number is no greater than the greatest. -/
theorem parse_accepts_grammar_layers :
    let source :=
      "a || b && nullable.x >= 1 - 2 - -( 0.5 )*--y ||\tF(TRUE, 'it\\'s\\n', \"\\r\", Nil)"
    let half : FitsBinary64 (2 ^ 1073) := ⟨by decide +kernel, by decide +kernel⟩
    let difference : Expr :=
      .binary .sub (.binary .sub (.literal (.int 1)) (.literal (.int 2)))
        (.binary .mul (.literal (.float (.finite true (2 ^ 1073) half)))
          (.neg (.neg (.identifier ⟨["y"]⟩))))
    let tree : Expr :=
      .binary .or
        (.binary .or (.identifier ⟨["a"]⟩)
          (.binary .and (.identifier ⟨["b"]⟩)
            (.binary .ge (.identifier ⟨["nullable", "x"]⟩) difference)))
        (.call "F" [.literal (.bool true), .literal (.string "it's\n"), .literal (.string "\r"),
          .literal .null])
    (parse source = .ok tree ∧ WritesTree source.toList tree ∧
      ∀ other, WritesTree source.toList other → other = tree) ∧
    (¬ ∃ tree, WritesTree "a.nil".toList tree) ∧
    ¬ ∃ tree, WritesTree "9223372036854775808".toList tree := by
  intro source half difference tree
  have hnone : ∀ {text : String} {e : ParseError}, parse text = .error e →
      ¬ ∃ tree, WritesTree text.toList tree := by
    rintro text e he ⟨tree, hwrites⟩
    cases he.symm.trans (((parse_accepts_grammar text).1 tree).2 hwrites)
  have hparse : parse source = .ok tree := by decide +kernel
  have hwrites := ((parse_accepts_grammar source).1 tree).1 hparse
  refine ⟨⟨hparse, hwrites, fun other hother => ?_⟩, ?path, ?large⟩
  · exact (parse_accepts_grammar source).2.2.1 other tree hother hwrites
  case path =>
    have herror : parse "a.nil" = .error (.unexpected 2) := by decide +kernel
    exact hnone herror
  case large =>
    have herror : parse "9223372036854775808" =
        .error (.integerTooLarge "9223372036854775808") := by decide +kernel
    exact hnone herror

end Formulary.Grammar
