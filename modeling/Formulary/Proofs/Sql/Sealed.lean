import Formulary.Proofs.Expr.Canonical
import Formulary.Proofs.Sql.Clause

/-!
# Predicates as parts of statements

A predicate is put into statements as it is, so its text must not reach beyond itself: it
opens no comment, closes no parenthesis that it did not open, and has everything that an
operator of the statement could get hold of in parentheses of its own.

* `Sealed` — the texts that may be put anywhere;
* `Place.read?` — a reader that goes through a text once and stops where it breaks a seal
  (`sealed_of_read?`);
* `Passes` — the texts that the reader gets through wherever it stands, and which may be put
  together (`passes_clause`);
* `compile_sealed` — every predicate is sealed.
-/

namespace Formulary.Sql

open Grammar (Canonical)

/-! ## Sealed texts -/

/-- A character of a name, a number or a question mark. -/
def isWordChar (c : Char) : Bool :=
  Text.isIdentifierChar c || c == '.' || c == '?'

/-- A character between words: the blank, the comma, and those of the operators. -/
def isJointChar (c : Char) : Bool :=
  " ,=!<>+-*/".toList.contains c

/-- A character that can be half of a comment mark. -/
def isCommentChar (c : Char) : Bool :=
  "-*/".toList.contains c

/-- A text that stays by itself wherever it is put. -/
structure Sealed (s : List Char) : Prop where
  chars : ∀ c ∈ s, c.isAlphanum = true ∨ c ∈ " _.,?()=!<>+-*/".toList
  noLineComment : ¬ "--".toList <:+: s
  noCommentStart : ¬ "/*".toList <:+: s
  noCommentEnd : ¬ "*/".toList <:+: s
  balanced : s.count '(' = s.count ')'
  /-- No beginning closes more parentheses than it opened. -/
  nested : ∀ before, before <+: s → before.count ')' ≤ before.count '('
  /-- Blanks, commas and operators have an open parenthesis before them. -/
  enclosed : ∀ before c after, s = before ++ c :: after → isJointChar c = true →
    before.count ')' < before.count '('

/-! ## The reader -/

/-- Where a reader stands in a text: the number of open parentheses, and whether the last
character can be half of a comment mark. -/
structure Place where
  depth : Nat
  afterComment : Bool

namespace Place

/-- The place behind one more character; none if the character may not stand here. -/
def next? (place : Place) (c : Char) : Option Place :=
  match place with
  | ⟨depth, afterComment⟩ =>
    if c = '(' then some ⟨depth + 1, false⟩
    else if isWordChar c then some ⟨depth, false⟩
    else
      match depth with
      | 0 => none -- outside of all parentheses there are only words
      | depth + 1 =>
        if c = ')' then some ⟨depth, false⟩
        else if isJointChar c && !(afterComment && isCommentChar c) then
          some ⟨depth + 1, isCommentChar c⟩
        else none

/-- The place behind a text. -/
def read? (place : Place) (s : List Char) : Option Place :=
  s.foldlM next? place

theorem read?_append (place : Place) (s t : List Char) :
    place.read? (s ++ t) = (place.read? s).bind (·.read? t) :=
  List.foldlM_append

/-- Two texts may be read one after the other. -/
theorem read?_trans {p q r : Place} {s t : List Char} (hs : p.read? s = some q)
    (ht : q.read? t = some r) : p.read? (s ++ t) = some r := by
  rw [read?_append, hs, Option.bind_some, ht]

theorem read?_cons (place : Place) (c : Char) (s : List Char) :
    place.read? (c :: s) = (place.next? c).bind (·.read? s) :=
  List.foldlM_cons

/-- What one character does: it opens a parenthesis, closes an open one, belongs to a word, or
stands between words inside a parenthesis without ending a comment mark. -/
theorem next?_cases {p q : Place} {c : Char} (h : p.next? c = some q) :
    (c = '(' ∧ q = ⟨p.depth + 1, false⟩) ∨
      (c = ')' ∧ p.depth = q.depth + 1 ∧ q.afterComment = false) ∨
      (isWordChar c = true ∧ q = ⟨p.depth, false⟩) ∨
      (isJointChar c = true ∧ 0 < p.depth ∧ (p.afterComment && isCommentChar c) = false ∧
        q = ⟨p.depth, isCommentChar c⟩) := by
  obtain ⟨depth, afterComment⟩ := p
  simp only [next?] at h
  split at h
  · next hopen => exact .inl ⟨hopen, (Option.some.inj h).symm⟩
  split at h
  · next hword => exact .inr (.inr (.inl ⟨hword, (Option.some.inj h).symm⟩))
  split at h
  · cases h
  split at h
  · next hclose =>
    obtain rfl := Option.some.inj h
    exact .inr (.inl ⟨hclose, rfl, rfl⟩)
  split at h
  · next hjoint =>
    obtain rfl := Option.some.inj h
    simp only [Bool.and_eq_true, Bool.not_eq_true'] at hjoint
    exact .inr (.inr (.inr ⟨hjoint.1, Nat.succ_pos _, hjoint.2, rfl⟩))
  · cases h

end Place

/-! ## The reader stops at every breach -/

theorem ne_paren_of_isWordChar {c : Char} (h : isWordChar c = true) : c ≠ '(' ∧ c ≠ ')' := by
  constructor <;> rintro rfl <;> exact absurd h (by decide)

theorem ne_paren_of_isJointChar {c : Char} (h : isJointChar c = true) : c ≠ '(' ∧ c ≠ ')' := by
  constructor <;> rintro rfl <;> exact absurd h (by decide)

theorem not_isWordChar_of_isJointChar {c : Char} (h : isJointChar c = true) :
    isWordChar c = false := by
  have hall : " ,=!<>+-*/".toList.all (isWordChar · == false) = true := by decide
  exact beq_iff_eq.1 (List.all_eq_true.1 hall c (List.contains_iff_mem.1 h))

theorem isJointChar_of_isCommentChar {c : Char} (h : isCommentChar c = true) :
    isJointChar c = true := by
  have hall : "-*/".toList.all isJointChar = true := by decide
  exact List.all_eq_true.1 hall c (List.contains_iff_mem.1 h)

namespace Place

theorem depth_next? {p q : Place} {c : Char} (h : p.next? c = some q) :
    p.depth + [c].count '(' = q.depth + [c].count ')' := by
  rcases next?_cases h with ⟨rfl, rfl⟩ | ⟨rfl, hdepth, -⟩ | ⟨hword, rfl⟩ | ⟨hjoint, -, -, rfl⟩
  · simp
  · simpa using hdepth
  · obtain ⟨hopen, hclose⟩ := ne_paren_of_isWordChar hword
    simp [hopen, hclose]
  · obtain ⟨hopen, hclose⟩ := ne_paren_of_isJointChar hjoint
    simp [hopen, hclose]

/-- The depth keeps count of the parentheses. -/
theorem depth_read? {p q : Place} {s : List Char} (h : p.read? s = some q) :
    p.depth + s.count '(' = q.depth + s.count ')' := by
  induction s generalizing p with
  | nil =>
    obtain rfl := Option.some.inj h
    rfl
  | cons c s ih =>
    rw [read?_cons] at h
    obtain ⟨r, hnext, hrest⟩ := Option.bind_eq_some_iff.1 h
    have hfirst := depth_next? hnext
    have hlater := ih hrest
    rw [← List.singleton_append, List.count_append, List.count_append]
    omega

/-- Whoever reads a text reads its beginning, and the rest from there. -/
theorem read?_append_eq_some {p q : Place} {s t : List Char} (h : p.read? (s ++ t) = some q) :
    ∃ r, p.read? s = some r ∧ r.read? t = some q := by
  rw [read?_append] at h
  exact Option.bind_eq_some_iff.1 h

/-- What stands between words stands inside a parenthesis, and does not end a comment mark. -/
theorem next?_joint {p q : Place} {c : Char} (h : p.next? c = some q)
    (hc : isJointChar c = true) :
    0 < p.depth ∧ (p.afterComment && isCommentChar c) = false ∧
      q.afterComment = isCommentChar c := by
  obtain ⟨hopen, hclose⟩ := ne_paren_of_isJointChar hc
  rcases next?_cases h with ⟨heq, -⟩ | ⟨heq, -, -⟩ | ⟨hword, -⟩ | ⟨-, hdepth, hpair, rfl⟩
  · exact absurd heq hopen
  · exact absurd heq hclose
  · rw [not_isWordChar_of_isJointChar hc] at hword
    cases hword
  · exact ⟨hdepth, hpair, rfl⟩

/-- No two characters of comment marks stand side by side. -/
theorem not_infix_of_read? {p q : Place} {s : List Char} (h : p.read? s = some q) {a b : Char}
    (ha : isCommentChar a = true) (hb : isCommentChar b = true) : ¬ [a, b] <:+: s := by
  rintro ⟨before, after, rfl⟩
  -- the place behind the first character tells the second one not to follow it
  obtain ⟨r, hbefore, -⟩ := read?_append_eq_some h
  obtain ⟨start, -, hpair⟩ := read?_append_eq_some hbefore
  rw [read?_cons] at hpair
  obtain ⟨behind, hfirst, hmore⟩ := Option.bind_eq_some_iff.1 hpair
  rw [read?_cons] at hmore
  obtain ⟨last, hsecond, -⟩ := Option.bind_eq_some_iff.1 hmore
  obtain ⟨-, -, hafter⟩ := next?_joint hfirst (isJointChar_of_isCommentChar ha)
  obtain ⟨-, hpair, -⟩ := next?_joint hsecond (isJointChar_of_isCommentChar hb)
  rw [hafter, ha, hb] at hpair
  cases hpair

/-- Whoever reads a text reads each of its characters. -/
theorem next?_of_read? {p q : Place} {before after : List Char} {c : Char}
    (h : p.read? (before ++ c :: after) = some q) :
    ∃ r next, p.read? before = some r ∧ r.next? c = some next := by
  obtain ⟨r, hbefore, hrest⟩ := read?_append_eq_some h
  rw [read?_cons] at hrest
  obtain ⟨next, hnext, -⟩ := Option.bind_eq_some_iff.1 hrest
  exact ⟨r, next, hbefore, hnext⟩

end Place

theorem allowed_of_isWordChar {c : Char} (h : isWordChar c = true) :
    c.isAlphanum = true ∨ c ∈ " _.,?()=!<>+-*/".toList := by
  simp only [isWordChar, Text.isIdentifierChar, Bool.or_eq_true, beq_iff_eq] at h
  rcases h with ((h | rfl) | rfl) | rfl
  · exact .inl h
  · exact .inr (by decide)
  · exact .inr (by decide)
  · exact .inr (by decide)

theorem allowed_of_isJointChar {c : Char} (h : isJointChar c = true) :
    c.isAlphanum = true ∨ c ∈ " _.,?()=!<>+-*/".toList := by
  have hsubset : " ,=!<>+-*/".toList ⊆ " _.,?()=!<>+-*/".toList := by decide
  exact .inr (hsubset (List.contains_iff_mem.1 h))

/-- What the reader gets through, from the outside and back, is sealed. -/
theorem sealed_of_read? {s : List Char} {afterComment : Bool}
    (h : Place.read? ⟨0, false⟩ s = some ⟨0, afterComment⟩) : Sealed s where
  chars c hc := by
    obtain ⟨before, after, rfl⟩ := List.append_of_mem hc
    obtain ⟨r, next, -, hnext⟩ := Place.next?_of_read? h
    rcases Place.next?_cases hnext with ⟨rfl, -⟩ | ⟨rfl, -, -⟩ | ⟨hword, -⟩ | ⟨hjoint, -, -, -⟩
    · exact .inr (by decide)
    · exact .inr (by decide)
    · exact allowed_of_isWordChar hword
    · exact allowed_of_isJointChar hjoint
  noLineComment := Place.not_infix_of_read? h (by decide) (by decide)
  noCommentStart := Place.not_infix_of_read? h (by decide) (by decide)
  noCommentEnd := Place.not_infix_of_read? h (by decide) (by decide)
  balanced := by simpa using Place.depth_read? h
  nested before hbefore := by
    obtain ⟨after, rfl⟩ := hbefore
    obtain ⟨r, hread, -⟩ := Place.read?_append_eq_some h
    have hdepth := Place.depth_read? hread
    simp only at hdepth
    omega
  enclosed before c after heq hjoint := by
    subst heq
    obtain ⟨r, next, hread, hnext⟩ := Place.next?_of_read? h
    have hdepth := Place.depth_read? hread
    have hopen := (Place.next?_joint hnext hjoint).1
    simp only at hdepth
    omega

/-! ## Texts that pass -/

/-- The reader gets through wherever it stands, and is as deep behind the text as before it.
The text does not start or end with half of a comment mark. -/
def Passes (s : List Char) : Prop :=
  ∀ depth afterComment, Place.read? ⟨depth, afterComment⟩ s = some ⟨depth, false⟩

theorem passes_word {s : List Char} (hne : s ≠ []) (h : ∀ c ∈ s, isWordChar c = true) :
    Passes s := by
  induction s with
  | nil => exact absurd rfl hne
  | cons c s ih =>
    intro depth afterComment
    have hc := h c (by simp)
    have hfirst : Place.next? ⟨depth, afterComment⟩ c = some ⟨depth, false⟩ := by
      simp [Place.next?, (ne_paren_of_isWordChar hc).1, hc]
    rw [Place.read?_cons, hfirst, Option.bind_some]
    cases s with
    | nil => rfl
    | cons d s => exact ih (by simp) (fun c hc => h c (List.mem_cons_of_mem _ hc)) depth false

theorem passes_hole : Passes ['?'] := by
  refine passes_word (List.cons_ne_nil _ _) fun c hc => ?_
  rw [List.mem_singleton.1 hc]
  rfl

/-- A text that passes may stand behind a text that is read. -/
theorem Passes.behind {s before : List Char} {p q : Place} (hs : Passes s)
    (h : p.read? before = some q) : p.read? (before ++ s) = some ⟨q.depth, false⟩ :=
  Place.read?_trans h (hs q.depth q.afterComment)

theorem passes_negText {s : List Char} (hs : Passes s) : Passes (negText s) := by
  intro depth afterComment
  have hopen : Place.read? ⟨depth, afterComment⟩ "(-".toList = some ⟨depth + 1, true⟩ := by rfl
  have hclose : Place.read? ⟨depth + 1, false⟩ ")".toList = some ⟨depth, false⟩ := by rfl
  exact Place.read?_trans (hs.behind hopen) hclose

theorem passes_nullTestText {s : List Char} (hs : Passes s) (isNull : Bool) :
    Passes (nullTestText (nullText isNull) s) := by
  intro depth afterComment
  have hopen : Place.read? ⟨depth, afterComment⟩ "(".toList = some ⟨depth + 1, false⟩ := by rfl
  have htest : Place.read? ⟨depth + 1, false⟩ (" " ++ nullText isNull ++ ")").toList =
      some ⟨depth, false⟩ := by cases isNull <;> rfl
  exact Place.read?_trans (hs.behind hopen) htest

theorem passes_binaryText (op : BinaryOp) {s t : List Char} (hs : Passes s) (ht : Passes t) :
    Passes (binaryText op s t) := by
  intro depth afterComment
  have hopen : Place.read? ⟨depth, afterComment⟩ "(".toList = some ⟨depth + 1, false⟩ := by rfl
  have hop : Place.read? ⟨depth + 1, false⟩ (" " ++ operatorText op ++ " ").toList =
      some ⟨depth + 1, false⟩ := by cases op <;> rfl
  have hclose : Place.read? ⟨depth + 1, false⟩ ")".toList = some ⟨depth, false⟩ := by rfl
  have hleft := Place.read?_trans (hs.behind hopen) hop
  exact Place.read?_trans (ht.behind hleft) hclose

theorem passes_likeText {s : List Char} (hs : Passes s) : Passes (likeText s ['?']) := by
  intro depth afterComment
  have hopen : Place.read? ⟨depth, afterComment⟩ "(".toList = some ⟨depth + 1, false⟩ := by rfl
  have hlike : Place.read? ⟨depth + 1, false⟩ " LIKE ".toList = some ⟨depth + 1, false⟩ := by rfl
  have hclose : Place.read? ⟨depth + 1, false⟩ ")".toList = some ⟨depth, false⟩ := by rfl
  have hsubject := Place.read?_trans (hs.behind hopen) hlike
  exact Place.read?_trans (passes_hole.behind hsubject) hclose

theorem passes_addDaysText {s t : List Char} (hs : Passes s) (ht : Passes t) :
    Passes (addDaysText s t) := by
  intro depth afterComment
  have hopen : Place.read? ⟨depth, afterComment⟩ "DATE_ADD(".toList =
      some ⟨depth + 1, false⟩ := by rfl
  have hinterval : Place.read? ⟨depth + 1, false⟩ ", INTERVAL ".toList =
      some ⟨depth + 1, false⟩ := by rfl
  have hclose : Place.read? ⟨depth + 1, false⟩ " DAY)".toList = some ⟨depth, false⟩ := by rfl
  have hdate := Place.read?_trans (hs.behind hopen) hinterval
  exact Place.read?_trans (ht.behind hdate) hclose

theorem passes_roundText {s t : List Char} (hs : Passes s) (ht : Passes t) :
    Passes (roundText s t) := by
  intro depth afterComment
  have hopen : Place.read? ⟨depth, afterComment⟩ "(FLOOR(".toList =
      some ⟨depth + 2, false⟩ := by rfl
  have hscale : Place.read? ⟨depth + 2, false⟩ " * POW(10, ".toList =
      some ⟨depth + 3, false⟩ := by rfl
  have hback : Place.read? ⟨depth + 3, false⟩ ") + 0.5) / POW(10, ".toList =
      some ⟨depth + 2, false⟩ := by rfl
  have hclose : Place.read? ⟨depth + 2, false⟩ "))".toList = some ⟨depth, false⟩ := by rfl
  have hx := Place.read?_trans (hs.behind hopen) hscale
  have hscaled := Place.read?_trans (ht.behind hx) hback
  exact Place.read?_trans (ht.behind hscaled) hclose

/-- Commas stand between arguments, inside the parentheses of the call. -/
theorem read?_commaSeparated {texts : List (List Char)} (h : ∀ text ∈ texts, Passes text)
    (depth : Nat) :
    Place.read? ⟨depth + 1, false⟩ (commaSeparated texts) = some ⟨depth + 1, false⟩ := by
  induction texts with
  | nil => rfl
  | cons text more ih =>
    have hfirst := h text (by simp) (depth + 1) false
    cases more with
    | nil => exact hfirst
    | cons next more =>
      have hcomma : Place.read? ⟨depth + 1, false⟩ ", ".toList = some ⟨depth + 1, false⟩ := by rfl
      have hrest := ih fun t ht => h t (List.mem_cons_of_mem _ ht)
      exact Place.read?_trans (Place.read?_trans hfirst hcomma) hrest

theorem passes_callText {function : String} (hf : Passes function.toList)
    {texts : List (List Char)} (h : ∀ text ∈ texts, Passes text) :
    Passes (callText function texts) := by
  intro depth afterComment
  have hopen : Place.read? ⟨depth, false⟩ "(".toList = some ⟨depth + 1, false⟩ := by rfl
  have hclose : Place.read? ⟨depth + 1, false⟩ ")".toList = some ⟨depth, false⟩ := by rfl
  have hname := Place.read?_trans (hf depth afterComment) hopen
  rw [callText, String.toList_append]
  exact Place.read?_trans (Place.read?_trans hname (read?_commaSeparated h depth)) hclose

/-! ## Clauses pass -/

theorem passes_keyword {text : String} {arity : Nat} (h : (.keyword text, arity) ∈ mappings) :
    Passes text.toList := by
  simp only [mappings, List.mem_cons, Prod.mk.injEq, SqlMapping.keyword.injEq, reduceCtorEq,
    false_and, List.not_mem_nil, or_false] at h
  intro depth afterComment
  rcases h with ⟨rfl, -⟩ | ⟨rfl, -⟩
  · rfl
  · rfl

theorem passes_function {function : String} {arity : Nat}
    (h : (.call function, arity) ∈ mappings) : Passes function.toList := by
  simp only [mappings, List.mem_cons, Prod.mk.injEq, SqlMapping.call.injEq, reduceCtorEq,
    false_and, List.not_mem_nil, or_false, false_or] at h
  intro depth afterComment
  rcases h with ⟨rfl, -⟩ | ⟨rfl, -⟩ | ⟨rfl, -⟩ | ⟨rfl, -⟩
  · rfl
  · rfl
  · rfl
  · rfl

/-- The clause of a formula, if it has one, passes. -/
def ClausePasses (columns : Columns) (expr : Expr) : Prop :=
  ∀ c, clause columns expr = .ok c → Passes c.chars

theorem passes_charsAll {columns : Columns} {args : List Expr} {cs : List Clause}
    (h : ∀ arg ∈ args, ClausePasses columns arg)
    (hcs : clauseAll (args.map (clause columns)) = .ok cs) :
    ∀ text ∈ Clause.charsAll cs, Passes text := by
  have hall := clauseAll_eq_ok hcs
  clear hcs
  induction hall with
  | nil => exact fun text htext => absurd htext List.not_mem_nil
  | cons hc _ ih =>
    intro text htext
    rcases List.mem_cons.1 htext with rfl | htext
    · exact h _ (by simp) _ hc
    · exact ih (fun arg harg => h arg (List.mem_cons_of_mem _ harg)) text htext

theorem passes_call {columns : Columns} {args : List Expr} {mapping : SqlMapping} {c : Clause}
    (hm : (mapping, args.length) ∈ mappings) (h : ∀ arg ∈ args, ClausePasses columns arg)
    (hc : CallClause columns mapping args c) : Passes c.chars := by
  cases hc with
  | keyword text => exact passes_keyword hm
  | call hcs => exact passes_callText (passes_function hm) (passes_charsAll h hcs)
  | @addDays date days c d hdate hdays =>
    refine passes_addDaysText (h _ (by simp) _ hdate) ?_
    rcases daysClause_cases hdays with ⟨value, -, rfl⟩ | hdays
    · exact passes_hole
    · exact h _ (by simp) _ hdays
  | round hx hplaces => exact passes_roundText (h _ (by simp) _ hx) (h _ (by simp) _ hplaces)
  | like pattern hsubject => exact passes_likeText (h _ (by simp) _ hsubject)

/-- The text of an identifier is one word. -/
theorem passes_pathText {path : Path} (h : Canonical (.identifier path)) :
    Passes path.text.toList := by
  refine passes_word (Grammar.pathText_ne_nil h) fun c hc => ?_
  rcases Grammar.mem_pathText h hc with rfl | hc
  · rfl
  · simp [isWordChar, hc]

/-- Every clause of a canonical formula passes. -/
theorem passes_clause (columns : Columns) {expr : Expr} (h : Canonical expr) :
    ClausePasses columns expr := by
  induction h with
  | literal _ _ =>
    intro c hc
    obtain rfl := Except.ok.inj hc
    exact passes_hole
  | identifier hne hnames =>
    intro c hc
    simp only [clause] at hc
    split at hc
    · obtain rfl := Except.ok.inj hc
      exact passes_pathText (.identifier hne hnames)
    · cases hc
  | neg _ _ ih =>
    intro c hc
    obtain ⟨-, -, d, hd, rfl⟩ := clause_neg hc
    exact passes_negText (ih d hd)
  | binary op _ _ ihl ihr =>
    intro c hc
    rcases clause_binary hc with ⟨isNull, d, -, hoperand, rfl⟩ | ⟨-, -, l, r, hl, hr, rfl⟩
    · rcases hoperand with ⟨-, hd⟩ | ⟨-, -, hd⟩
      · exact passes_nullTestText (ihl d hd) isNull
      · exact passes_nullTestText (ihr d hd) isNull
    · exact passes_binaryText op (ihl l hl) (ihr r hr)
  | call _ _ ih =>
    intro c hc
    obtain ⟨builtin, mapping, -, -, hm, -, hcall⟩ := clause_call hc
    exact passes_call hm ih hcall

/-- **Every predicate is sealed.**  It has no other characters than letters, digits and those
of its operators, no comment marks, every parenthesis closed by itself, and no blank, comma or
operator outside its parentheses. -/
theorem compile_sealed (columns : Columns) (text : String) (p : Predicate)
    (h : compile columns text = .ok p) : Sealed p.sql.toList := by
  obtain ⟨expr, c, hparse, hclause, rfl⟩ := compile_eq_ok_iff.1 h
  have hpasses := passes_clause columns (Grammar.canonical_of_parse hparse) c hclause
  rw [Clause.predicate, String.toList_ofList]
  exact sealed_of_read? (hpasses 0 false)

/-- Minus signs side by side and a comment in a text looked for leave no mark in the
predicate. -/
theorem compile_sealed_minus :
    let p : Predicate :=
      ⟨"(((-(-a)) > (-(FLOOR(b * POW(10, (? - n)) + 0.5) / POW(10, (? - n))))) AND (c LIKE ?))",
        [.int 1, .int 1, .string "%-- /*%"]⟩
    compile none "--a > -ROUND(b, 1 - n) && CONTAINS(c, '-- /*')" = .ok p ∧
      Sealed p.sql.toList := by
  intro p
  have h : compile none "--a > -ROUND(b, 1 - n) && CONTAINS(c, '-- /*')" = .ok p := by
    decide +kernel
  exact ⟨h, compile_sealed none _ p h⟩

end Formulary.Sql
