import Formulary.Proofs.Expr.Canonical
import Formulary.Proofs.Sql.Dialect

/-!
# How the database reads a predicate

A predicate is a text with a list of values, and what it says is said by the clause that the
database reads from the two.  The reader goes by the dialect of the database.  It knows columns,
bound values, minus signs, operators, tests for null and patterns; a question mark takes the
next value, and everything that is put together is in parentheses.

* `readClause` — the reader, with what is left of the text and of the values;
* `Plain` — the clauses that it knows;
* `readClause_chars` — it reads a plain clause back from its text and its values, whatever
  follows them;
* `clause?_predicate` — so a predicate says what was meant by it, and nothing else.
-/

namespace Formulary.Sql

/-! ## Joints -/

/-- What may follow the first operand in parentheses. -/
inductive Joint where
  /-- An operator, before a second operand. -/
  | operator (op : BinaryOp)
  /-- A test for null, or for anything but null, with the parenthesis that ends it. -/
  | test (isNull : Bool)
  /-- A pattern, with the parenthesis that ends it. -/
  | like
  deriving DecidableEq

namespace Joint

/-- The text of a joint. -/
def chars : Joint → List Char
  | .operator op => (" " ++ Dialect.operator op ++ " ").toList
  | .test isNull => (" " ++ Dialect.nullTest isNull ++ ")").toList
  | .like => " LIKE ?)".toList

/-- Every joint. -/
def all : List Joint :=
  [.test true, .test false, .like] ++ BinaryOp.all.map .operator

/-- The joint at the start of a text, and what comes after it. -/
def read? (s : List Char) : Option (Joint × List Char) :=
  (all.find? fun joint => joint.chars.isPrefixOf s).map fun joint =>
    (joint, s.drop joint.chars.length)

theorem mem_all (joint : Joint) : joint ∈ all := by
  cases joint with
  | operator op => cases op <;> decide
  | test isNull => cases isNull <;> decide
  | like => decide

/-- No joint is the start of another. -/
theorem eq_of_starts {i j : Joint} (h : i.chars <+: j.chars) : i = j := by
  have hall : all.all (fun i => all.all fun j => !i.chars.isPrefixOf j.chars || i == j) = true := by
    decide +kernel
  have hi := List.all_eq_true.1 hall i (mem_all i)
  have hj := List.all_eq_true.1 hi j (mem_all j)
  rw [List.isPrefixOf_iff_prefix.2 h] at hj
  simpa using hj

/-- A joint is found at the start of its text. -/
theorem read?_chars (joint : Joint) (s : List Char) :
    read? (joint.chars ++ s) = some (joint, s) := by
  have hfound : ∀ other : Joint,
      other.chars.isPrefixOf (joint.chars ++ s) = true ↔ other = joint := by
    intro other
    rw [List.isPrefixOf_iff_prefix]
    constructor
    · intro h
      rcases List.prefix_or_prefix_of_prefix h (List.prefix_append joint.chars s) with h | h
      · exact eq_of_starts h
      · exact (eq_of_starts h).symm
    · rintro rfl
      exact List.prefix_append _ s
  have hfind : (all.find? fun other => other.chars.isPrefixOf (joint.chars ++ s)) = some joint := by
    cases h : all.find? fun other => other.chars.isPrefixOf (joint.chars ++ s) with
    | none => exact absurd ((hfound joint).2 rfl) (List.find?_eq_none.1 h joint (mem_all joint))
    | some other =>
      have hother := List.find?_some h
      rw [(hfound other).1 hother]
  rw [read?, hfind, Option.map_some, List.drop_left]

end Joint

/-! ## The reader -/

/-- A clause that was read, with what is left of the text and of the values. -/
abbrev Read := Option (Clause × List Char × List Literal)

/-- A character of the name of a column. -/
def isColumnChar (c : Char) : Bool :=
  c == '.' || c == '_' || c.isAlphanum

/-- The column at the start of a text. -/
def readColumn (s : List Char) (params : List Literal) : Read :=
  let name := s.takeWhile isColumnChar
  if name = [] then none else some (.column (String.ofList name), s.drop name.length, params)

/-- The question mark before a text takes the next value. -/
def readBound (s : List Char) (params : List Literal) : Read :=
  match params with
  | [] => none
  | value :: params => some (.bound value, s, params)

/-- The last operand is followed by a parenthesis. -/
def readEnd (make : Clause → Clause) : Read → Read
  | some (c, ')' :: s, params) => some (make c, s, params)
  | _ => none

/-- What follows the first operand, with a reader for a second one. -/
def readJoint (read : List Char → List Literal → Read) : Read → Read
  | none => none
  | some (left, s, params) =>
    match Joint.read? s, params with
    | some (.operator op, s), params => readEnd (.binary op left) (read s params)
    | some (.test isNull, s), params => some (.nullTest isNull left, s, params)
    | some (.like, s), .string pattern :: params => some (.like left pattern, s, params)
    | _, _ => none

/-- The clause at the start of a text. -/
def readClause : Nat → List Char → List Literal → Read
  | 0, _, _ => none
  | _ + 1, '?' :: s, params => readBound s params
  | fuel + 1, '(' :: '-' :: s, params => readEnd .neg (readClause fuel s params)
  | fuel + 1, '(' :: s, params => readJoint (readClause fuel) (readClause fuel s params)
  | _ + 1, s, params => readColumn s params

/-- What a predicate says: the clause that takes up all of its text and all of its values. -/
def Predicate.clause? (p : Predicate) : Option Clause :=
  match readClause p.sql.toList.length p.sql.toList p.params with
  | some (c, [], []) => some c
  | _ => none

/-! ## Reading plain clauses back -/

/-- A clause without functions, whose columns have names. -/
inductive Plain : Clause → Prop
  | column {name : String} : name.toList ≠ [] → (∀ c ∈ name.toList, isColumnChar c = true) →
      Plain (.column name)
  | bound (value : Literal) : Plain (.bound value)
  | neg {operand : Clause} : Plain operand → Plain (.neg operand)
  | binary (op : BinaryOp) {left right : Clause} : Plain left → Plain right →
      Plain (.binary op left right)
  | nullTest (isNull : Bool) {operand : Clause} : Plain operand → Plain (.nullTest isNull operand)
  | like {subject : Clause} (pattern : String) : Plain subject → Plain (.like subject pattern)

/-- No name of a column goes on with the text. -/
def EndsColumn (s : List Char) : Prop :=
  ∀ c ∈ s.head?, isColumnChar c = false

theorem endsColumn_joint (joint : Joint) (s : List Char) : EndsColumn (joint.chars ++ s) := by
  intro c hc
  have hspace : (joint.chars ++ s).head? = some ' ' := by
    cases joint with
    | operator op => cases op <;> rfl
    | test isNull => cases isNull <;> rfl
    | like => rfl
  rw [hspace] at hc
  obtain rfl := Option.some.inj hc
  decide

theorem endsColumn_close (s : List Char) : EndsColumn (')' :: s) := by
  intro c hc
  obtain rfl := Option.some.inj hc
  decide

theorem readColumn_name {name : String} (hne : name.toList ≠ [])
    (hname : ∀ c ∈ name.toList, isColumnChar c = true) {s : List Char} (hs : EndsColumn s)
    (params : List Literal) :
    readColumn (name.toList ++ s) params = some (.column name, s, params) := by
  have htake : (name.toList ++ s).takeWhile isColumnChar = name.toList := by
    rw [List.takeWhile_append_of_pos hname]
    cases s with
    | nil => simp
    | cons c s => simp [hs c rfl]
  rw [readColumn, htake, if_neg hne, List.drop_left, String.ofList_toList]

/-! ### The texts of plain clauses -/

theorem chars_neg (operand : Clause) (s : List Char) :
    (Clause.neg operand).chars ++ s = '(' :: '-' :: (operand.chars ++ ')' :: s) := by
  simp [Clause.chars, negText]

theorem chars_binary (op : BinaryOp) (left right : Clause) (s : List Char) :
    (Clause.binary op left right).chars ++ s =
      '(' :: (left.chars ++ ((Joint.operator op).chars ++ (right.chars ++ ')' :: s))) := by
  have hjoint : (" " ++ operatorText op ++ " ").toList = (Joint.operator op).chars := by
    rw [Dialect.operatorText_eq]
    rfl
  rw [Clause.chars, binaryText, hjoint]
  generalize (Joint.operator op).chars = joint
  simp

theorem chars_nullTest (isNull : Bool) (operand : Clause) (s : List Char) :
    (Clause.nullTest isNull operand).chars ++ s =
      '(' :: (operand.chars ++ ((Joint.test isNull).chars ++ s)) := by
  have hjoint : (" " ++ nullText isNull ++ ")").toList = (Joint.test isNull).chars := by
    rw [Dialect.nullText_eq]
    rfl
  rw [Clause.chars, nullTestText, hjoint]
  generalize (Joint.test isNull).chars = joint
  simp

theorem chars_like (subject : Clause) (pattern : String) (s : List Char) :
    (Clause.like subject pattern).chars ++ s =
      '(' :: (subject.chars ++ (Joint.like.chars ++ s)) := by
  have hjoint : Joint.like.chars = " LIKE ".toList ++ ['?'] ++ ")".toList := by decide
  rw [Clause.chars, likeText, hjoint]
  generalize " LIKE ".toList = before
  generalize ")".toList = after
  simp

/-- A plain clause starts with a question mark, a parenthesis or a name. -/
theorem Plain.start {c : Clause} (h : Plain c) :
    ∃ first rest, c.chars = first :: rest ∧
      (first = '?' ∨ first = '(' ∨ isColumnChar first = true) := by
  cases h with
  | @column name hne hname =>
    cases hchars : name.toList with
    | nil => exact absurd hchars hne
    | cons first rest =>
      refine ⟨first, rest, hchars, .inr (.inr ?_)⟩
      exact hname first (by simp [hchars])
  | bound value => exact ⟨'?', [], rfl, .inl rfl⟩
  | @neg operand _ =>
    have hchars := chars_neg operand []
    rw [List.append_nil] at hchars
    exact ⟨'(', _, hchars, .inr (.inl rfl)⟩
  | @binary op left right _ _ =>
    have hchars := chars_binary op left right []
    rw [List.append_nil] at hchars
    exact ⟨'(', _, hchars, .inr (.inl rfl)⟩
  | @nullTest isNull operand _ =>
    have hchars := chars_nullTest isNull operand []
    rw [List.append_nil] at hchars
    exact ⟨'(', _, hchars, .inr (.inl rfl)⟩
  | @like subject pattern _ =>
    have hchars := chars_like subject pattern []
    rw [List.append_nil] at hchars
    exact ⟨'(', _, hchars, .inr (.inl rfl)⟩

/-! ### Steps of the reader -/

/-- What a parenthesis opens is an operand and a joint, unless it is a minus sign. -/
theorem readClause_open {c : Clause} (h : Plain c) (fuel : Nat) (s : List Char)
    (params : List Literal) :
    readClause (fuel + 1) ('(' :: (c.chars ++ s)) params =
      readJoint (readClause fuel) (readClause fuel (c.chars ++ s) params) := by
  obtain ⟨first, rest, hchars, hfirst⟩ := h.start
  rw [hchars, List.cons_append, readClause]
  intro t ht
  obtain rfl := (List.cons.inj ht).1
  rcases hfirst with h | h | h
  · exact absurd h (by decide)
  · exact absurd h (by decide)
  · exact absurd h (by decide)

theorem readClause_name {name : String} (hne : name.toList ≠ [])
    (hname : ∀ c ∈ name.toList, isColumnChar c = true) (fuel : Nat) {s : List Char}
    (hs : EndsColumn s) (params : List Literal) :
    readClause (fuel + 1) (name.toList ++ s) params = some (.column name, s, params) := by
  rw [← readColumn_name hne hname hs params]
  cases hchars : name.toList with
  | nil => exact absurd hchars hne
  | cons first rest =>
    have hfirst := hname first (by simp [hchars])
    have hmark : first ≠ '?' := by
      rintro rfl
      exact absurd hfirst (by decide)
    have hopen : first ≠ '(' := by
      rintro rfl
      exact absurd hfirst (by decide)
    rw [List.cons_append, readClause]
    · intro t ht
      exact hmark (List.cons.inj ht).1
    · intro t ht
      exact hopen (List.cons.inj ht).1
    · intro t ht
      exact hopen (List.cons.inj ht).1

section Joints

variable (read : List Char → List Literal → Read) (left : Clause) (s : List Char)
  (params : List Literal)

theorem readJoint_operator (op : BinaryOp) :
    readJoint read (some (left, (Joint.operator op).chars ++ s, params)) =
      readEnd (.binary op left) (read s params) := by
  simp only [readJoint, Joint.read?_chars]

theorem readJoint_test (isNull : Bool) :
    readJoint read (some (left, (Joint.test isNull).chars ++ s, params)) =
      some (.nullTest isNull left, s, params) := by
  simp only [readJoint, Joint.read?_chars]

theorem readJoint_like (pattern : String) :
    readJoint read (some (left, Joint.like.chars ++ s, .string pattern :: params)) =
      some (.like left pattern, s, params) := by
  simp only [readJoint, Joint.read?_chars]

end Joints

/-! ### Whole clauses -/

/-- A plain clause is read back from its text and its values, whatever follows them. -/
theorem readClause_chars {c : Clause} (h : Plain c) (fuel : Nat) (hfuel : c.chars.length ≤ fuel)
    {s : List Char} (hs : EndsColumn s) (params : List Literal) :
    readClause fuel (c.chars ++ s) (c.params ++ params) = some (c, s, params) := by
  induction h generalizing fuel s params with
  | @column name hne hname =>
    cases fuel with
    | zero => exact absurd (List.length_eq_zero_iff.1 (Nat.le_zero.1 hfuel)) hne
    | succ fuel => exact readClause_name hne hname fuel hs params
  | bound value =>
    cases fuel with
    | zero => cases hfuel
    | succ fuel => rfl
  | @neg operand hoperand ih =>
    rw [← List.append_nil (Clause.neg operand).chars, chars_neg] at hfuel
    cases fuel with
    | zero => simp at hfuel
    | succ fuel =>
      have hlength : operand.chars.length ≤ fuel := by
        simp only [List.length_cons, List.length_append] at hfuel
        omega
      rw [chars_neg, readClause, Clause.params, ih fuel hlength (endsColumn_close s), readEnd]
  | @binary op left right hleft hright ihl ihr =>
    rw [← List.append_nil (Clause.binary op left right).chars, chars_binary] at hfuel
    cases fuel with
    | zero => simp at hfuel
    | succ fuel =>
      simp only [List.length_cons, List.length_append] at hfuel
      rw [chars_binary, readClause_open hleft, Clause.params, List.append_assoc,
        ihl fuel (by omega) (endsColumn_joint _ _), readJoint_operator,
        ihr fuel (by omega) (endsColumn_close s), readEnd]
  | @nullTest isNull operand hoperand ih =>
    rw [← List.append_nil (Clause.nullTest isNull operand).chars, chars_nullTest] at hfuel
    cases fuel with
    | zero => simp at hfuel
    | succ fuel =>
      simp only [List.length_cons, List.length_append] at hfuel
      rw [chars_nullTest, readClause_open hoperand, Clause.params,
        ih fuel (by omega) (endsColumn_joint _ _), readJoint_test]
  | @like subject pattern hsubject ih =>
    rw [← List.append_nil (Clause.like subject pattern).chars, chars_like] at hfuel
    cases fuel with
    | zero => simp at hfuel
    | succ fuel =>
      simp only [List.length_cons, List.length_append] at hfuel
      rw [chars_like, readClause_open hsubject, Clause.params, List.append_assoc,
        ih fuel (by omega) (endsColumn_joint _ _), List.singleton_append, readJoint_like]

/-- A predicate says what was meant by it, and nothing else. -/
theorem clause?_predicate {c : Clause} (h : Plain c) : c.predicate.clause? = some c := by
  have hend : EndsColumn [] := by simp [EndsColumn]
  have hread := readClause_chars h c.chars.length (Nat.le_refl _) hend []
  rw [List.append_nil, List.append_nil] at hread
  rw [Predicate.clause?, Clause.predicate]
  simp only [String.toList_ofList, hread]

end Formulary.Sql
