import Formulary.Proofs.Expr.Canonical
import Formulary.Proofs.Sql.Dialect

/-!
# Question marks and bound values

The bound values of a predicate belong to its question marks, in their order: putting each
value in the place of its question mark gives the text that a writer without bound values
would have written.

* `inPlace` — that writer: it goes through the formula and writes each value where it stands;
* `Aligned` — question marks and values belong together, and what follows is left alone;
* `compile_aligned` — they do in every predicate.
-/

namespace Formulary.Sql

open Grammar (Canonical Name)

variable (render : Literal → List Char)

/-! ## Values in their places -/

/-- A text in which each question mark, from the left, is replaced by the next value. -/
def fill : List Char → List Literal → List Char
  | [], _ => []
  | '?' :: rest, value :: more => render value ++ fill rest more
  | c :: rest, params => c :: fill rest params

theorem fill_of_ne {c : Char} (h : c ≠ '?') (rest : List Char) (params : List Literal) :
    fill render (c :: rest) params = c :: fill render rest params := by
  cases params with
  | nil => simp [fill]
  | cons value more => simp [fill, h]

/-- A number of days.  A literal stands as the integer that it has the value of, if any. -/
def daysInPlace : Expr → List Char → List Char
  | .literal value, _ =>
    match (Value.ofLiteral value).int? with
    | some count => render (.int count)
    | none => render .null
  | _, written => written

/-- A call with its values in place, from its arguments and from these with theirs. -/
def callInPlace : SqlMapping → List Expr → List (List Char) → List Char
  | .keyword text, _, _ => text.toList
  | .call function, _, written =>
    function.toList ++ "(".toList ++ ", ".toList.intercalate written ++ ")".toList
  | .addDays, [_, count], [date, days] =>
    "DATE_ADD(".toList ++ date ++ ", INTERVAL ".toList ++ daysInPlace render count days ++
      " DAY)".toList
  | .roundHalfUp, _, [x, places] =>
    "(FLOOR(".toList ++ x ++ " * POW(10, ".toList ++ places ++ ") + 0.5) / POW(10, ".toList ++
      places ++ "))".toList
  | .like kind, [_, .literal (.string text)], [subject, _] =>
    "(".toList ++ subject ++ " LIKE ".toList ++ render (.string (Dialect.pattern kind text)) ++
      ")".toList
  | _, _, _ => []

mutual

/-- A formula with its values in place. -/
def inPlace : Expr → List Char
  | .literal value => render value
  | .identifier path => ['.'].intercalate (path.segments.map String.toList)
  | .neg operand => "(-".toList ++ inPlace operand ++ ")".toList
  | .binary op left right =>
    -- a comparison with null is a test of the other operand
    if right = .literal .null then
      "(".toList ++ inPlace left ++ " ".toList ++ (Dialect.nullTest (op == .eq)).toList ++
        ")".toList
    else if left = .literal .null then
      "(".toList ++ inPlace right ++ " ".toList ++ (Dialect.nullTest (op == .eq)).toList ++
        ")".toList
    else
      "(".toList ++ inPlace left ++ " ".toList ++ (Dialect.operator op).toList ++ " ".toList ++
        inPlace right ++ ")".toList
  | .call name args =>
    match Dialect.mapping? name with
    | some mapping => callInPlace render mapping args (inPlaceAll args)
    | none => []

/-- Some formulas with their values in place. -/
def inPlaceAll : List Expr → List (List Char)
  | [] => []
  | expr :: rest => inPlace expr :: inPlaceAll rest

end

/-! ## Alignment -/

/-- A text has a question mark for each of its values, and putting the values in their places
gives the written text, whatever comes after it. -/
structure Aligned (text : List Char) (params : List Literal) (written : List Char) : Prop where
  count : text.count '?' = params.length
  fill : ∀ rest more, fill render (text ++ rest) (params ++ more) = written ++ fill render rest more

variable {render}

/-- A text without question marks is left as it is. -/
theorem aligned_text {s : List Char} (h : '?' ∉ s) : Aligned render s [] s := by
  refine ⟨by simpa using List.count_eq_zero.2 h, ?_⟩
  intro rest more
  induction s with
  | nil => rfl
  | cons c s ih =>
    have hc : c ≠ '?' := by
      rintro rfl
      exact h (by simp)
    rw [List.cons_append, fill_of_ne render hc, ih fun hs => h (List.mem_cons_of_mem _ hs)]
    rfl

theorem aligned_hole (value : Literal) : Aligned render ['?'] [value] (render value) := by
  refine ⟨rfl, ?_⟩
  intro rest more
  rfl

/-- Texts with their values may stand one after the other. -/
theorem Aligned.append {s t : List Char} {p q : List Literal} {u v : List Char}
    (hs : Aligned render s p u) (ht : Aligned render t q v) :
    Aligned render (s ++ t) (p ++ q) (u ++ v) := by
  refine ⟨by rw [List.count_append, List.length_append, hs.count, ht.count], ?_⟩
  intro rest more
  rw [List.append_assoc, List.append_assoc, hs.fill, ht.fill, List.append_assoc]

theorem Aligned.text_after {s u : List Char} {p : List Literal} (h : Aligned render s p u)
    (after : List Char) (ha : '?' ∉ after) : Aligned render (s ++ after) p (u ++ after) := by
  have hall := h.append (aligned_text ha)
  rwa [List.append_nil] at hall

/-- A text with its values between texts without question marks. -/
theorem Aligned.between {s u : List Char} {p : List Literal} (h : Aligned render s p u)
    (before after : List Char) (hb : '?' ∉ before) (ha : '?' ∉ after) :
    Aligned render (before ++ s ++ after) p (before ++ u ++ after) :=
  ((aligned_text hb).append h).text_after after ha

/-! ## The texts of operators and functions -/

theorem aligned_negText {s u : List Char} {p : List Literal} (h : Aligned render s p u) :
    Aligned render (negText s) p ("(-".toList ++ u ++ ")".toList) :=
  h.between "(-".toList ")".toList (by decide) (by decide)

theorem aligned_nullTestText {s u : List Char} {p : List Literal} (h : Aligned render s p u)
    (isNull : Bool) :
    Aligned render (nullTestText (nullText isNull) s) p
      ("(".toList ++ u ++ " ".toList ++ (Dialect.nullTest isNull).toList ++ ")".toList) := by
  have htest : '?' ∉ (" " ++ Dialect.nullTest isNull ++ ")").toList := by
    cases isNull <;> decide
  have hall := h.between "(".toList _ (by decide) htest
  simpa [nullTestText, Dialect.nullText_eq] using hall

theorem aligned_binaryText (op : BinaryOp) {s t u v : List Char} {p q : List Literal}
    (hs : Aligned render s p u) (ht : Aligned render t q v) :
    Aligned render (binaryText op s t) (p ++ q)
      ("(".toList ++ u ++ " ".toList ++ (Dialect.operator op).toList ++ " ".toList ++ v ++
        ")".toList) := by
  have hop : '?' ∉ (" " ++ Dialect.operator op ++ " ").toList := by cases op <;> decide
  have hleft := hs.between "(".toList _ (by decide) hop
  have hall := (hleft.append ht).text_after ")".toList (by decide)
  simpa [binaryText, Dialect.operatorText_eq] using hall

theorem aligned_likeText {s u : List Char} {p : List Literal} (h : Aligned render s p u)
    (value : Literal) :
    Aligned render (likeText s ['?']) (p ++ [value])
      ("(".toList ++ u ++ " LIKE ".toList ++ render value ++ ")".toList) := by
  have hsubject := h.between "(".toList " LIKE ".toList (by decide) (by decide)
  exact (hsubject.append (aligned_hole value)).text_after ")".toList (by decide)

theorem aligned_addDaysText {s t u v : List Char} {p q : List Literal}
    (hs : Aligned render s p u) (ht : Aligned render t q v) :
    Aligned render (addDaysText s t) (p ++ q)
      ("DATE_ADD(".toList ++ u ++ ", INTERVAL ".toList ++ v ++ " DAY)".toList) := by
  have hdate := hs.between "DATE_ADD(".toList ", INTERVAL ".toList (by decide) (by decide)
  exact (hdate.append ht).text_after " DAY)".toList (by decide)

/-- The number of places is written twice, and its values are bound twice. -/
theorem aligned_roundText {s t u v : List Char} {p q : List Literal}
    (hs : Aligned render s p u) (ht : Aligned render t q v) :
    Aligned render (roundText s t) (p ++ q ++ q)
      ("(FLOOR(".toList ++ u ++ " * POW(10, ".toList ++ v ++ ") + 0.5) / POW(10, ".toList ++ v ++
        "))".toList) := by
  have hx := hs.between "(FLOOR(".toList " * POW(10, ".toList (by decide) (by decide)
  have hscaled := (hx.append ht).text_after ") + 0.5) / POW(10, ".toList (by decide)
  exact (hscaled.append ht).text_after "))".toList (by decide)

theorem aligned_callText {function : String} (hf : '?' ∉ function.toList)
    {texts : List (List Char)} {written : List Char} {p : List Literal}
    (h : Aligned render (commaSeparated texts) p written) :
    Aligned render (callText function texts) p
      (function.toList ++ "(".toList ++ written ++ ")".toList) := by
  have hopen : '?' ∉ (function ++ "(").toList := by simpa using hf
  have hall := h.between _ ")".toList hopen (by decide)
  rw [String.toList_append] at hall
  rwa [callText, String.toList_append]

/-! ## Formulas -/

/-- The clause of a formula is aligned with the formula. -/
def ClauseAligned (render : Literal → List Char) (columns : Columns) (expr : Expr) : Prop :=
  ∀ c, clause columns expr = .ok c → Aligned render c.chars c.params (inPlace render expr)

theorem inPlaceAll_eq_map (args : List Expr) :
    inPlaceAll render args = args.map (inPlace render) := by
  induction args with
  | nil => rfl
  | cons arg args ih => rw [inPlaceAll, ih, List.map_cons]

theorem aligned_commaSeparated {columns : Columns} {args : List Expr} {cs : List Clause}
    (h : ∀ arg ∈ args, ClauseAligned render columns arg)
    (hcs : clauseAll (args.map (clause columns)) = .ok cs) :
    Aligned render (commaSeparated (Clause.charsAll cs)) (Clause.paramsAll cs)
      (", ".toList.intercalate (args.map (inPlace render))) := by
  induction args generalizing cs with
  | nil =>
    obtain rfl := Except.ok.inj hcs
    exact aligned_text List.not_mem_nil
  | cons arg args ih =>
    obtain ⟨c, more, hc, hmore, rfl⟩ := clauseAll_cons_eq_ok hcs
    have hfirst := h arg (by simp) c hc
    have hrest := ih (fun a ha => h a (List.mem_cons_of_mem _ ha)) hmore
    cases args with
    | nil =>
      obtain rfl := Except.ok.inj hmore
      simpa [Clause.charsAll, Clause.paramsAll, commaSeparated] using hfirst
    | cons next args =>
      obtain ⟨d, tail, -, -, rfl⟩ := clauseAll_cons_eq_ok hmore
      rw [List.map_cons, List.map_cons, List.intercalate_cons_cons]
      exact (hfirst.text_after ", ".toList (by decide)).append hrest

/-- The name of a function in the database. -/
def mappingName : SqlMapping → List Char
  | .keyword text => text.toList
  | .call function => function.toList
  | _ => []

theorem mark_not_mem_mappingName {mapping : SqlMapping} {arity : Nat}
    (h : (mapping, arity) ∈ mappings) : '?' ∉ mappingName mapping := by
  simp only [mappings, List.mem_cons, Prod.mk.injEq, List.not_mem_nil, or_false] at h
  rcases h with h | h | h | h | h | h | h | h | h | h | h <;> rw [h.1] <;> decide

theorem aligned_bound {value : Literal} :
    Aligned render (Clause.bound value).chars (Clause.bound value).params (render value) :=
  aligned_hole value

/-- The value bound for a literal number of days is the integer that stands in its place. -/
theorem aligned_days (value : Literal) (written : List Char) :
    Aligned render ['?'] [daysValue value] (daysInPlace render (.literal value) written) := by
  cases hcount : (Value.ofLiteral value).int? with
  | none => simpa only [daysValue, daysInPlace, hcount] using aligned_hole _
  | some count => simpa only [daysValue, daysInPlace, hcount] using aligned_hole _

/-- A literal number of days stands as an integer, any other as it is. -/
theorem aligned_addDays {columns : Columns} {date days : Expr} {c d : Clause}
    (hdate : ClauseAligned render columns date) (hdays : ClauseAligned render columns days)
    (hc : clause columns date = .ok c) (hd : daysClause days (clause columns days) = .ok d) :
    Aligned render (Clause.addDays c d).chars (Clause.addDays c d).params
      (callInPlace render .addDays [date, days] [inPlace render date, inPlace render days]) := by
  have hfirst := hdate c hc
  unfold daysClause at hd
  split at hd
  · obtain rfl := Except.ok.inj hd
    exact aligned_addDaysText hfirst (aligned_days _ _)
  · next hliteral =>
    have hall := aligned_addDaysText hfirst (hdays d hd)
    cases days with
    | literal value => exact absurd rfl (hliteral value)
    | _ => exact hall

theorem aligned_call {columns : Columns} {args : List Expr} {mapping : SqlMapping} {c : Clause}
    (hm : (mapping, args.length) ∈ mappings)
    (h : ∀ arg ∈ args, ClauseAligned render columns arg)
    (hc : CallClause columns mapping args c) :
    Aligned render c.chars c.params
      (callInPlace render mapping args (args.map (inPlace render))) := by
  have hmark := mark_not_mem_mappingName hm
  cases hc with
  | keyword text => exact aligned_text hmark
  | call hcs => exact aligned_callText hmark (aligned_commaSeparated h hcs)
  | addDays hdate hdays => exact aligned_addDays (h _ (by simp)) (h _ (by simp)) hdate hdays
  | round hx hplaces =>
    exact aligned_roundText (h _ (by simp) _ hx) (h _ (by simp) _ hplaces)
  | like kind hsubject =>
    rw [Dialect.pattern_eq]
    exact aligned_likeText (h _ (by simp) _ hsubject) _

/-- A test for null stands for an equality, one for anything else for its opposite. -/
theorem beq_eq_of_isNullTest? {op : BinaryOp} {isNull : Bool}
    (h : isNullTest? op = some isNull) : (op == .eq) = isNull := by
  cases op <;> cases h <;> rfl

theorem ne_null_of_isNullLiteral {expr : Expr} (h : expr.isNullLiteral = false) :
    expr ≠ .literal .null := by
  rintro rfl
  cases h

/-- Every clause of a canonical formula is aligned with it. -/
theorem aligned_clause (columns : Columns) {expr : Expr} (h : Canonical expr) :
    ClauseAligned render columns expr := by
  induction h with
  | literal _ _ =>
    intro c hc
    obtain rfl := Except.ok.inj hc
    exact aligned_bound
  | @identifier path hne hnames =>
    intro c hc
    simp only [clause] at hc
    split at hc
    · obtain rfl := Except.ok.inj hc
      have hchars : inPlace render (.identifier path) = path.text.toList := by
        rw [inPlace, Path.text, String.toList_intercalate]
        rfl
      rw [hchars]
      apply aligned_text
      intro hmark
      rcases Grammar.mem_pathText (.identifier hne hnames) hmark with h | h
      · exact absurd h (by decide)
      · exact absurd h (by decide)
    · cases hc
  | neg _ _ ih =>
    intro c hc
    obtain ⟨-, -, d, hd, rfl⟩ := clause_neg hc
    exact aligned_negText (ih d hd)
  | @binary op left right _ _ ihl ihr =>
    intro c hc
    rcases clause_binary hc with ⟨isNull, d, htest, hoperand, rfl⟩ | ⟨hl, hr, l, r, hlc, hrc, rfl⟩
    · obtain rfl := beq_eq_of_isNullTest? htest
      rcases hoperand with ⟨hnull, hd⟩ | ⟨hnull, hright, hd⟩
      · rw [inPlace, if_pos (eq_null_of_isNullLiteral hnull)]
        exact aligned_nullTestText (ihl d hd) _
      · rw [inPlace, if_neg (ne_null_of_isNullLiteral hright),
          if_pos (eq_null_of_isNullLiteral hnull)]
        exact aligned_nullTestText (ihr d hd) _
    · rw [inPlace, if_neg (ne_null_of_isNullLiteral hr), if_neg (ne_null_of_isNullLiteral hl)]
      exact aligned_binaryText op (ihl l hlc) (ihr r hrc)
  | call _ _ ih =>
    intro c hc
    obtain ⟨builtin, mapping, hlookup, hsql, hm, -, hcall⟩ := clause_call hc
    rw [inPlace, Dialect.mapping?_eq, hlookup, Option.bind_some, hsql, inPlaceAll_eq_map]
    exact aligned_call hm ih hcall

/-- **Question marks and values belong together.**  A predicate has a value for each of its
question marks, and with each value in the place of its question mark its text is the formula
with its values in place. -/
theorem compile_aligned (columns : Columns) (text : String) (p : Predicate)
    (h : compile columns text = .ok p) :
    p.sql.toList.count '?' = p.params.length ∧
    ∃ expr, parse text = .ok expr ∧
      ∀ render, fill render p.sql.toList p.params = inPlace render expr := by
  obtain ⟨expr, c, hparse, hclause, rfl⟩ := compile_eq_ok_iff.1 h
  have haligned : ∀ render, Aligned render c.chars c.params (inPlace render expr) :=
    fun render => aligned_clause columns (Grammar.canonical_of_parse hparse) c hclause
  rw [Clause.predicate, String.toList_ofList]
  refine ⟨(haligned fun _ => []).count, expr, hparse, fun render => ?_⟩
  have hfill := (haligned render).fill [] []
  simpa [fill] using hfill

/-- The places of a rounding are a rounding again, and all their values are bound twice.  A
number of days is a text, whose integer is bound, and a text that is looked for is bound as its
pattern; with the texts of these values in their places the predicate can be read off. -/
theorem compile_aligned_round :
    (let text := "ROUND(a, ROUND(3, n - 1)) > 2"
      let p : Predicate :=
        ⟨"((FLOOR(a * POW(10, (FLOOR(? * POW(10, (n - ?)) + 0.5) / POW(10, (n - ?)))) + 0.5)"
            ++ " / POW(10, (FLOOR(? * POW(10, (n - ?)) + 0.5) / POW(10, (n - ?))))) > ?)",
          [.int 3, .int 1, .int 1, .int 3, .int 1, .int 1, .int 2]⟩
      compile none text = .ok p ∧ p.sql.toList.count '?' = p.params.length ∧
        ∃ expr, parse text = .ok expr ∧
          ∀ render, fill render p.sql.toList p.params = inPlace render expr) ∧
    (let text := "DATE_ADD(d, '3') != null || contains(t, '5%') && -x <= 7"
      let p : Predicate :=
        ⟨"((DATE_ADD(d, INTERVAL ? DAY) IS NOT NULL) OR ((t LIKE ?) AND ((-x) <= ?)))",
          [.int 3, .string "%5\\%%", .int 7]⟩
      compile none text = .ok p ∧ p.sql.toList.count '?' = p.params.length ∧
        ∃ expr, parse text = .ok expr ∧
          (∀ render, fill render p.sql.toList p.params = inPlace render expr) ∧
          inPlace (fun value => value.text.toList) expr =
            ("((DATE_ADD(d, INTERVAL 3 DAY) IS NOT NULL)"
              ++ " OR ((t LIKE '%5\\\\%%') AND ((-x) <= 7)))").toList) := by
  constructor
  · intro text p
    have h : compile none text = .ok p := by decide +kernel
    exact ⟨h, compile_aligned none text p h⟩
  · intro text p
    have h : compile none text = .ok p := by decide +kernel
    obtain ⟨hcount, expr, hparse, hfill⟩ := compile_aligned none text p h
    refine ⟨h, hcount, expr, hparse, hfill, ?_⟩
    rw [← hfill]
    decide +kernel

end Formulary.Sql
