import Formulary.Proofs.Sql.Clause

/-!
# The dialect of the database

How the database spells what formulas spell in their own way, said from the side of the
database: the symbols of its operators, its tests for null, what each function is called by it
and how a pattern marks the characters that it looks for.  Whoever reads a predicate, or says
what its text should be, goes by these tables and not by those that it was written with; that
the two agree is shown case by case.

* `operator`, `nullTest` — operators and tests for null (`operatorText_eq`, `nullText_eq`);
* `mapping?` — what becomes of a function (`mapping?_eq`);
* `pattern` — what a pattern looks like (`pattern_eq`).
-/

namespace Formulary.Sql.Dialect

/-! ## Operators and tests for null -/

/-- The symbol of an operator. -/
def operator : BinaryOp → String
  | .or => "OR"
  | .and => "AND"
  | .eq => "="
  | .ne => "!="
  | .gt => ">"
  | .ge => ">="
  | .lt => "<"
  | .le => "<="
  | .add => "+"
  | .sub => "-"
  | .mul => "*"
  | .div => "/"

theorem operatorText_eq (op : BinaryOp) : operatorText op = operator op := by
  cases op <;> rfl

/-- The test for null, or for anything but null. -/
def nullTest : Bool → String
  | true => "IS NULL"
  | false => "IS NOT NULL"

theorem nullText_eq (isNull : Bool) : nullText isNull = nullTest isNull := by
  cases isNull <;> rfl

/-! ## Functions -/

/-- Every function of formulas with what the database has for it; none if it has nothing. -/
def functions : List (String × Option SqlMapping) :=
  [("TODAY", some (.keyword "CURDATE()")),
   ("NOW", some (.keyword "NOW()")),
   ("DATE_ADD", some .addDays),
   ("LEN", some (.call "CHAR_LENGTH")),
   ("UPPER", some (.call "UPPER")),
   ("LOWER", some (.call "LOWER")),
   ("CONTAINS", some (.like .contains)),
   ("STARTS_WITH", some (.like .startsWith)),
   ("ENDS_WITH", some (.like .endsWith)),
   ("ROUND", some .roundHalfUp),
   ("IF", some (.call "IF")),
   ("BCRYPT", none)]

/-- What the database has for a function whose name is written in letters of either case. -/
def mapping? (name : String) : Option SqlMapping :=
  (functions.find? fun entry => entry.1.toList == name.toList.map Char.toUpper).bind Prod.snd

theorem functions_eq :
    functions = Builtin.all.map fun builtin => (builtin.name, builtin.sql) := rfl

theorem mapping?_eq (name : String) :
    mapping? name = (Builtin.lookup? name).bind Builtin.sql := by
  have hname : ∀ builtin : Builtin,
      (builtin.name.toList == name.toList.map Char.toUpper) =
        (builtin.name == Text.upper name) := by
    intro builtin
    rw [Bool.eq_iff_iff, beq_iff_eq, beq_iff_eq, Text.upper, ← String.toList_inj,
      String.toList_ofList]
  rw [mapping?, functions_eq, List.find?_map, Builtin.lookup?, Option.bind_map]
  simp only [Function.comp_def, hname]

/-! ## Patterns -/

/-- A character that is looked for: a backslash before those that have a meaning in patterns. -/
def patternChar (c : Char) : List Char :=
  match c with
  | '%' => ['\\', '%']
  | '_' => ['\\', '_']
  | '\\' => ['\\', '\\']
  | c => [c]

/-- The pattern of a text that is looked for; a percent sign stands for anything. -/
def pattern (kind : LikePattern) (text : String) : String :=
  let marked := text.toList.flatMap patternChar
  match kind with
  | .contains => String.ofList (['%'] ++ marked ++ ['%'])
  | .startsWith => String.ofList (marked ++ ['%'])
  | .endsWith => String.ofList (['%'] ++ marked)

theorem escape_eq (c : Char) : LikePattern.escape c = patternChar c := by
  by_cases hmarked : c = '%' ∨ c = '_' ∨ c = '\\'
  · rcases hmarked with rfl | rfl | rfl <;> rfl
  · rw [LikePattern.escape, if_neg hmarked]
    unfold patternChar
    split
    · exact absurd (.inl rfl) hmarked
    · exact absurd (.inr (.inl rfl)) hmarked
    · exact absurd (.inr (.inr rfl)) hmarked
    · rfl

theorem pattern_eq (kind : LikePattern) (text : String) :
    kind.pattern text = pattern kind text := by
  have hchars : LikePattern.escape = patternChar := funext escape_eq
  cases kind <;> simp [LikePattern.pattern, pattern, hchars]

end Formulary.Sql.Dialect
