import Formulary.Proofs.Sql.Placeholders
import Formulary.Proofs.Sql.Sealed
import Formulary.Sql.Rollup

/-!
# Statements of rollups

A statement is put together from names and from a predicate that others have written.  It keeps
its scope: no name leaves its quotes, and no filter leaves its parentheses, so the conditions on
the parent and on deleted children hold for every row that is summed up.

* `PlainName` — a name that has nothing to leave its quotes with;
* `Rollup.Ready` — what a statement needs;
* `Rollup.IsStatement` — the statement, in its two shapes: without a filter and with one;
* `Rollup.statement_eq_ok_iff` — there is a statement exactly if there is all that it needs;
* `Rollup.statement_keeps_scope` — what the statement is, and what may change with the parent.
-/

namespace Formulary.Sql

open Grammar (Canonical)

/-! ## Plain names -/

/-- A name of letters, digits and underscores that does not start with a digit. -/
def PlainName (name : String) : Prop :=
  Text.IsName name.toList

theorem isIdentifier_iff (name : String) : Text.isIdentifier name = true ↔ PlainName name :=
  Text.isIdentifierChars_iff

/-- A name in back quotes. -/
def quoted (name : String) : String :=
  "\x60" ++ name ++ "\x60"

theorem quotedName_eq_ok_iff {name text : String} :
    quotedName name = .ok text ↔ PlainName name ∧ text = quoted name := by
  unfold quotedName
  split
  · next h =>
    have hplain := (isIdentifier_iff name).1 h
    simp [hplain, quoted, eq_comm]
  · next h =>
    have hplain := mt (isIdentifier_iff name).2 h
    simp [hplain]

/-- No name has a question mark. -/
theorem count_quoted {name : String} (h : PlainName name) :
    (quoted name).toList.count '?' = 0 := by
  have hname : '?' ∉ name.toList := by
    obtain ⟨c, rest, hchars, hc, hrest⟩ := h
    rw [hchars, List.mem_cons, not_or]
    constructor
    · rintro rfl
      exact absurd hc (by decide)
    · intro hmark
      exact absurd (hrest _ hmark) (by decide)
  have hquote : "\x60".toList.count '?' = 0 := rfl
  simp only [quoted, String.toList_append, List.count_append, hquote,
    List.count_eq_zero_of_not_mem hname]

/-! ## Parentheses around a filter -/

/-- A text that starts with a parenthesis and ends with the one that closes it: everything
between the two stands inside. -/
structure Paired (s : List Char) : Prop where
  balanced : s.count '(' = s.count ')'
  inside : ∀ before, before <+: s → before ≠ [] → before ≠ s →
    before.count ')' < before.count '('

theorem paired_of_sealed {s : List Char} (h : Sealed s) : Paired ('(' :: (s ++ [')'])) where
  balanced := by
    have hbalanced := h.balanced
    simp only [List.count_cons, List.count_append, List.count_nil]
    simpa using hbalanced
  inside before hbefore hne hproper := by
    rcases List.prefix_cons_iff.1 hbefore with rfl | ⟨start, rfl, hstart⟩
    · exact absurd rfl hne
    rcases List.prefix_concat_iff.1 hstart with rfl | hstart
    · exact absurd rfl hproper
    · have hnested := h.nested start hstart
      have hother : '(' ≠ ')' := by decide
      rw [List.count_cons_of_ne hother, List.count_cons_self]
      omega

theorem sealed_of_compile {columns : Columns} {text : String} {p : Predicate}
    (h : compile columns text = .ok p) : Sealed p.sql.toList := by
  obtain ⟨expr, c, hparse, hclause, rfl⟩ := compile_eq_ok_iff.1 h
  rw [Clause.predicate, String.toList_ofList]
  have hpasses := passes_clause columns (Grammar.canonical_of_parse hparse) c hclause 0 false
  exact sealed_of_read? hpasses

theorem count_of_compile {columns : Columns} {text : String} {p : Predicate}
    (h : compile columns text = .ok p) : p.sql.toList.count '?' = p.params.length := by
  obtain ⟨expr, c, hparse, hclause, rfl⟩ := compile_eq_ok_iff.1 h
  rw [Clause.predicate, String.toList_ofList]
  have haligned : Aligned (fun _ => []) c.chars c.params _ :=
    aligned_clause columns (Grammar.canonical_of_parse hparse) c hclause
  exact haligned.count

namespace Rollup

/-! ## What a statement is -/

/-- The filter, unless it has only blanks. -/
def filterText? (rollup : Rollup) : Option String :=
  match rollup.filter with
  | none => none
  | some text => if Text.AllWhite text then none else some text

/-- What the database calls the function. -/
def functionText (rollup : Rollup) : String :=
  match rollup.function with
  | .count => "COUNT"
  | .sum => "SUM"
  | .min => "MIN"
  | .max => "MAX"
  | .avg => "AVG"

theorem functionName_eq (rollup : Rollup) : rollup.function.name = rollup.functionText := by
  unfold functionText
  cases rollup.function <;> rfl

/-- The column that is summed up; children are counted without one. -/
def column? (rollup : Rollup) : Option String :=
  if rollup.function = .count then none else rollup.summaryField

/-- All that a statement needs. -/
structure Ready (rollup : Rollup) : Prop where
  child : PlainName rollup.child
  relationship : PlainName rollup.relationship
  softDeleteField : PlainName rollup.softDeleteField
  column : ∀ name ∈ rollup.column?, PlainName name
  summaryField : rollup.function ≠ .count → rollup.summaryField.isSome = true
  filter : ∀ text, rollup.filterText? = some text →
    ∃ fragment, compile rollup.columns text = .ok fragment

/-- The statement without its filter. -/
def unfiltered (rollup : Rollup) : String :=
  "SELECT " ++ rollup.functionText ++ "(" ++ (rollup.column?.map quoted).getD "*" ++ ") FROM "
    ++ quoted rollup.child ++ " WHERE " ++ quoted rollup.relationship ++ " = ? AND "
    ++ quoted rollup.softDeleteField ++ " = false"

/-- The statement for a parent.  The parent is bound first. -/
inductive IsStatement (rollup : Rollup) (parent : String) : Predicate → Prop
  | whole : rollup.filterText? = none →
      IsStatement rollup parent ⟨rollup.unfiltered, [.string parent]⟩
  | narrowed {text : String} {fragment : Predicate} : rollup.filterText? = some text →
      compile rollup.columns text = .ok fragment →
      IsStatement rollup parent
        ⟨rollup.unfiltered ++ " AND (" ++ fragment.sql ++ ")", .string parent :: fragment.params⟩

variable {rollup : Rollup} {parent : String} {p : Predicate}

/-! ## When there is a statement -/

/-- The function is applied to all children, or to a column that is there and plain. -/
theorem target_eq_ok_iff {text : String} :
    rollup.target = .ok text ↔
      (rollup.function ≠ .count → rollup.summaryField.isSome = true) ∧
        (∀ name ∈ rollup.column?, PlainName name) ∧
        text = (rollup.column?.map quoted).getD "*" := by
  unfold target column?
  cases hfunction : rollup.function with
  | count =>
    simp only [Except.ok.injEq, ne_eq, not_true_eq_false, false_implies, if_true, true_and,
      Option.not_mem_none, implies_true, Option.map_none, Option.getD_none]
    exact eq_comm
  | _ =>
    cases hfield : rollup.summaryField with
    | none => simp
    | some field => simp [quotedName_eq_ok_iff]

/-- A filter of blanks is no filter, and any other has to compile. -/
theorem filterPredicate_eq_ok_iff {filter : Option Predicate} :
    rollup.filterPredicate = .ok filter ↔
      (rollup.filterText? = none ∧ filter = none) ∨
        ∃ text fragment, rollup.filterText? = some text ∧
          compile rollup.columns text = .ok fragment ∧ filter = some fragment := by
  unfold filterPredicate filterText?
  cases rollup.filter with
  | none => simp [eq_comm]
  | some text =>
    simp only [← Text.isAllBlank_iff]
    by_cases hblank : Text.isAllBlank text = true
    · simp [hblank, eq_comm]
    · cases hcompile : compile rollup.columns text with
      | error e => simp [hblank, hcompile]
      | ok fragment => simp [hblank, hcompile, eq_comm]

/-- Steps that may fail, one after the other. -/
theorem bind_eq_ok_iff {α β : Type} {x : Except RollupError α} {f : α → Except RollupError β}
    {b : β} : (x >>= f) = .ok b ↔ ∃ a, x = .ok a ∧ f a = .ok b := by
  cases x with
  | error e =>
    show (Except.error e : Except RollupError β) = .ok b ↔ _
    simp
  | ok a =>
    show f a = .ok b ↔ _
    simp

/-- **There is a statement exactly if there is all that it needs**, and then it is the one. -/
theorem statement_eq_ok_iff :
    rollup.statement parent = .ok p ↔ rollup.Ready ∧ rollup.IsStatement parent p := by
  unfold statement
  simp only [functionName_eq, bind_eq_ok_iff, target_eq_ok_iff, quotedName_eq_ok_iff,
    filterPredicate_eq_ok_iff]
  constructor
  · rintro ⟨_, ⟨hsummary, hcolumn, rfl⟩, _, ⟨hchild, rfl⟩, _, ⟨hrelationship, rfl⟩, _,
      ⟨hsoftDelete, rfl⟩, _, hfilter, hp⟩
    rcases hfilter with ⟨hnone, rfl⟩ | ⟨text, fragment, htext, hfragment, rfl⟩
    · obtain rfl := Except.ok.inj hp
      refine ⟨⟨hchild, hrelationship, hsoftDelete, hcolumn, hsummary, ?_⟩, .whole hnone⟩
      simp [hnone]
    · obtain rfl := Except.ok.inj hp
      refine ⟨⟨hchild, hrelationship, hsoftDelete, hcolumn, hsummary, ?_⟩,
        .narrowed htext hfragment⟩
      rintro _ hother
      obtain rfl := Option.some.inj (htext.symm.trans hother)
      exact ⟨fragment, hfragment⟩
  · rintro ⟨hready, hp⟩
    refine ⟨_, ⟨hready.summaryField, hready.column, rfl⟩, _, ⟨hready.child, rfl⟩, _,
      ⟨hready.relationship, rfl⟩, _, ⟨hready.softDeleteField, rfl⟩, ?_⟩
    cases hp with
    | whole hnone => exact ⟨none, .inl ⟨hnone, rfl⟩, rfl⟩
    | narrowed htext hfragment => exact ⟨_, .inr ⟨_, _, htext, hfragment, rfl⟩, rfl⟩

/-- Whoever has all that a statement needs has a statement for each parent. -/
theorem Ready.exists_isStatement (h : rollup.Ready) (parent : String) :
    ∃ p, rollup.IsStatement parent p := by
  cases htext : rollup.filterText? with
  | none => exact ⟨_, .whole htext⟩
  | some text =>
    obtain ⟨fragment, hfragment⟩ := h.filter text htext
    exact ⟨_, .narrowed htext hfragment⟩

/-! ## What stays in its place -/

theorem count_functionText (rollup : Rollup) : rollup.functionText.toList.count '?' = 0 := by
  unfold functionText
  cases rollup.function <;> rfl

/-- The one question mark outside the filter is that of the parent. -/
theorem Ready.count_unfiltered (h : rollup.Ready) : rollup.unfiltered.toList.count '?' = 1 := by
  have hcolumn : ((rollup.column?.map quoted).getD "*").toList.count '?' = 0 := by
    cases hname : rollup.column? with
    | none => rfl
    | some name => exact count_quoted (h.column name hname)
  unfold unfiltered
  simp only [String.toList_append, List.count_append, count_functionText, hcolumn,
    count_quoted h.child, count_quoted h.relationship, count_quoted h.softDeleteField]
  rfl

theorem Ready.count_isStatement (h : rollup.Ready) (hp : rollup.IsStatement parent p) :
    p.sql.toList.count '?' = p.params.length := by
  cases hp with
  | whole _ => exact h.count_unfiltered
  | narrowed _ hfragment =>
    have hopen : " AND (".toList.count '?' = 0 := rfl
    have hclose : ")".toList.count '?' = 0 := rfl
    simp only [String.toList_append, List.count_append, h.count_unfiltered, hopen, hclose,
      count_of_compile hfragment, List.length_cons]
    omega

/-- The parent is bound, and not written. -/
theorem IsStatement.sql_eq {other : String} {q : Predicate} (hp : rollup.IsStatement parent p)
    (hq : rollup.IsStatement other q) : q.sql = p.sql := by
  cases hp with
  | whole hnone =>
    cases hq with
    | whole _ => rfl
    | narrowed htext _ => cases hnone.symm.trans htext
  | narrowed htext hfragment =>
    cases hq with
    | whole hnone => cases hnone.symm.trans htext
    | narrowed htext' hfragment' =>
      obtain rfl := Option.some.inj (htext.symm.trans htext')
      obtain rfl := Except.ok.inj (hfragment.symm.trans hfragment')
      rfl

/-- **A statement keeps its scope.**  It exists exactly if its names are plain, a column is there
if the function needs one, and the filter compiles.  It is then the fixed statement, with the
clause of the filter behind it in a pair of parentheses that the clause does not close.  It has a
value for each question mark, and its text is the same for every parent. -/
theorem statement_keeps_scope (rollup : Rollup) (parent : String) :
    ((∃ p, rollup.statement parent = .ok p) ↔ rollup.Ready) ∧
    ∀ p, rollup.statement parent = .ok p →
      rollup.IsStatement parent p ∧
      (∀ text fragment, rollup.filterText? = some text →
        compile rollup.columns text = .ok fragment →
        Paired ('(' :: (fragment.sql.toList ++ [')']))) ∧
      p.sql.toList.count '?' = p.params.length ∧
      ∀ other, ∃ q, rollup.statement other = .ok q ∧ q.sql = p.sql := by
  constructor
  · constructor
    · rintro ⟨p, hp⟩
      exact (statement_eq_ok_iff.1 hp).1
    · intro hready
      obtain ⟨p, hp⟩ := hready.exists_isStatement parent
      exact ⟨p, statement_eq_ok_iff.2 ⟨hready, hp⟩⟩
  · intro p hstatement
    obtain ⟨hready, hp⟩ := statement_eq_ok_iff.1 hstatement
    refine ⟨hp, fun text fragment _ hfragment => paired_of_sealed (sealed_of_compile hfragment),
      hready.count_isStatement hp, fun other => ?_⟩
    obtain ⟨q, hq⟩ := hready.exists_isStatement other
    exact ⟨q, statement_eq_ok_iff.2 ⟨hready, hq⟩, hp.sql_eq hq⟩

/-- A filter whose text has a parenthesis and a question mark, and a parent that would end the
statement: neither of them gets into it.  Children are counted whatever the field is called, and
a filter of blanks is none; the other functions stand before their field. -/
theorem statement_keeps_scope_stage :
    let parent := "x'; --"
    (let rollup : Rollup :=
        ⟨.sum, "opportunity", "account_id", some "Amount",
          some "Stage == ') OR (?' && Amount > 100", "is_deleted", none⟩
      let fragment : Predicate := ⟨"((Stage = ?) AND (Amount > ?))", [.string ") OR (?", .int 100]⟩
      let p : Predicate :=
        ⟨"SELECT SUM(\x60Amount\x60) FROM \x60opportunity\x60 WHERE \x60account_id\x60 = ?"
            ++ " AND \x60is_deleted\x60 = false AND (((Stage = ?) AND (Amount > ?)))",
          [.string parent, .string ") OR (?", .int 100]⟩
      rollup.statement parent = .ok p ∧ rollup.IsStatement parent p ∧
        Paired ('(' :: (fragment.sql.toList ++ [')'])) ∧
        p.sql.toList.count '?' = p.params.length ∧
        ∀ other, ∃ q, rollup.statement other = .ok q ∧ q.sql = p.sql) ∧
    (let rollup : Rollup :=
        ⟨.count, "opportunity", "account_id", some "a\x60b", some " \t\u2003", "is_deleted", none⟩
      let p : Predicate :=
        ⟨"SELECT COUNT(*) FROM \x60opportunity\x60 WHERE \x60account_id\x60 = ?"
            ++ " AND \x60is_deleted\x60 = false", [.string parent]⟩
      rollup.statement parent = .ok p ∧ rollup.IsStatement parent p) ∧
    ∀ entry ∈ [(RollupFunction.min, "MIN"), (.max, "MAX"), (.avg, "AVG")],
      let rollup : Rollup :=
        ⟨entry.1, "opportunity", "account_id", some "Amount", none, "is_deleted", none⟩
      let p : Predicate :=
        ⟨"SELECT " ++ entry.2 ++ "(\x60Amount\x60) FROM \x60opportunity\x60"
            ++ " WHERE \x60account_id\x60 = ? AND \x60is_deleted\x60 = false", [.string parent]⟩
      rollup.statement parent = .ok p ∧ rollup.IsStatement parent p := by
  intro parent
  refine ⟨?sum, ?count, ?others⟩
  case sum =>
    intro rollup fragment p
    have hfragment : compile none "Stage == ') OR (?' && Amount > 100" = .ok fragment := by
      decide +kernel
    have hstatement : rollup.statement parent = .ok p := by decide +kernel
    obtain ⟨hp, hpaired, hcount, hother⟩ := (statement_keeps_scope rollup parent).2 p hstatement
    have htext : rollup.filterText? = some "Stage == ') OR (?' && Amount > 100" := by decide +kernel
    exact ⟨hstatement, hp, hpaired _ _ htext hfragment, hcount, hother⟩
  case count =>
    intro rollup p
    have hstatement : rollup.statement parent = .ok p := by decide +kernel
    exact ⟨hstatement, ((statement_keeps_scope rollup parent).2 p hstatement).1⟩
  case others =>
    intro entry hentry rollup p
    have hstatement : rollup.statement parent = .ok p := by
      simp only [List.mem_cons, List.not_mem_nil, or_false] at hentry
      rcases hentry with rfl | rfl | rfl <;> decide +kernel
    exact ⟨hstatement, ((statement_keeps_scope rollup parent).2 p hstatement).1⟩

end Rollup

end Formulary.Sql
