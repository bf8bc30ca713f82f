import Formulary.Config.Settings
import Formulary.Proofs.Expr.Lexing

/-!
# Lists of columns in documents and in the environment

A list of columns may be written in the document of settings and in a variable of the
environment.  What each of the two lists is said here without the program, by the nodes of the
document and by the characters of the variable; the program finds the same lists.

* `Yaml.listedColumns` — the list of a document (`allowedColumns_of_ofYaml?`);
* `listedNames` — the list that a text writes with commas (`columnNames_eq_listedNames`);
* `EnvFile.get?_load` — a file of assignments leaves the variables alone that are there already;
* `EnvFile.get?_load_plain` — and sets the others as its lines say, if these are plain.
-/

namespace Formulary

/-! ## Documents -/

namespace Yaml

/-- The node behind a name, if the entry is that of the name. -/
def under? (name : String) (entry : Yaml × Yaml) : Option Yaml :=
  match entry.1 with
  | .scalar key _ => if key = name then some entry.2 else none
  | _ => none

/-- An entry of a node: in a mapping it goes by its name, in a sequence by its place. -/
def child? (place : Nat) (name : String) : Yaml → Option Yaml
  | .scalar _ _ => none
  | .sequence items => items[place]?
  | .mapping entries => entries.findSome? (under? name)

/-- The text of a scalar. -/
def scalar? : Yaml → Option String
  | .scalar text _ => some text
  | _ => none

/-- The columns that a document lists. -/
def listedColumns (document : Yaml) : List String :=
  match (document.child? 1 "sql").bind (child? 0 "allowed_columns") with
  | some (.sequence items) => items.filterMap scalar?
  | _ => []

/-- The nodes that are known so far, with one more entry. -/
def addEntry (names : List String) (fields : Fields Yaml) (entry : Yaml × Yaml) :
    Option (Fields Yaml) :=
  match entry.1 with
  | .scalar name _ =>
    if !names.contains name then some fields
    else if fields.contains name then none
    else some (fields.insert name entry.2)
  | _ => none

theorem record?_mapping (names : List String) (entries : List (Yaml × Yaml)) :
    record? names (.mapping entries) = entries.foldlM (addEntry names) [] := rfl

variable {names : List String} {name : String}

/-- A name that is known keeps its node, and any other gets that of the entry. -/
theorem get?_addEntry {fields more : Fields Yaml} {entry : Yaml × Yaml} (hname : name ∈ names)
    (h : addEntry names fields entry = some more) :
    more.get? name = (fields.get? name).or (under? name entry) := by
  obtain ⟨key, node⟩ := entry
  cases key with
  | scalar key plain =>
    simp only [addEntry] at h
    split at h
    · next hother =>
      obtain rfl := Option.some.inj h
      have hne : key ≠ name := by
        rintro rfl
        simp [hname] at hother
      simp [under?, hne]
    · split at h
      · cases h
      · next habsent =>
        obtain rfl := Option.some.inj h
        rw [Fields.get?_insert]
        by_cases heq : name = key
        · subst heq
          have hnone : fields.get? name = none := by simpa [Fields.contains] using habsent
          simp [under?, hnone]
        · simp [under?, heq, Ne.symm heq]
  | sequence items => cases h
  | mapping entries => cases h

/-- The first entry of a name counts; there is no second one. -/
theorem get?_foldlM {entries : List (Yaml × Yaml)} {fields more : Fields Yaml}
    (hname : name ∈ names) (h : entries.foldlM (addEntry names) fields = some more) :
    more.get? name = (fields.get? name).or (entries.findSome? (under? name)) := by
  induction entries generalizing fields with
  | nil =>
    obtain rfl := Option.some.inj h
    simp
  | cons entry entries ih =>
    rw [List.foldlM_cons] at h
    obtain ⟨next, hnext, hmore⟩ := Option.bind_eq_some_iff.1 h
    rw [ih hmore, get?_addEntry hname hnext, List.findSome?_cons, Option.or_assoc]
    cases under? name entry with
    | none => rfl
    | some node => rfl

/-- The nodes under two names are the entries of the names. -/
theorem get?_record? {node : Yaml} {first second : String} {fields : Fields Yaml}
    (hne : first ≠ second) (h : node.record? [first, second] = some fields) :
    fields.get? first = node.child? 0 first ∧ fields.get? second = node.child? 1 second := by
  cases node with
  | scalar text plain =>
    rw [record?] at h
    split at h
    · obtain rfl := Option.some.inj h
      exact ⟨rfl, rfl⟩
    · cases h
  | sequence items =>
    rw [record?] at h
    split at h
    · next hlength =>
      obtain rfl := Option.some.inj h
      match items, hlength with
      | [], _ => exact ⟨rfl, rfl⟩
      | [a], _ => simp [Fields.ofList, Fields.insertAll, Fields.get?_insert, Fields.get?_nil,
          child?, hne.symm]
      | [a, b], _ => simp [Fields.ofList, Fields.insertAll, Fields.get?_insert, child?, hne]
    · cases h
  | mapping entries =>
    rw [record?_mapping] at h
    exact ⟨get?_foldlM (by simp) h, get?_foldlM (by simp) h⟩

theorem filterMap_of_mapM {items : List Yaml} {texts : List String}
    (h : items.mapM text? = some texts) : items.filterMap scalar? = texts := by
  have hscalar : text? = scalar? := by
    funext node
    cases node <;> rfl
  rw [hscalar] at h
  induction items generalizing texts with
  | nil =>
    obtain rfl := Option.some.inj h
    rfl
  | cons item items ih =>
    rw [List.mapM_cons] at h
    obtain ⟨text, htext, hrest⟩ := Option.bind_eq_some_iff.1 h
    obtain ⟨more, hmore, hboth⟩ := Option.bind_eq_some_iff.1 hrest
    obtain rfl := Option.some.inj hboth
    rw [List.filterMap_cons, htext, ih hmore]

end Yaml

open Yaml in
/-- The columns of the part about predicates are those of its list. -/
theorem SqlSettings.allowedColumns_of_ofYaml? {node : Yaml} {settings : SqlSettings}
    (h : ofYaml? node = some settings) :
    settings.allowedColumns =
      match node.child? 0 "allowed_columns" with
      | some (.sequence items) => items.filterMap scalar?
      | _ => [] := by
  unfold ofYaml? at h
  obtain ⟨fields, hfields, h⟩ := Option.bind_eq_some_iff.1 h
  obtain ⟨columns, hcolumns, h⟩ := Option.bind_eq_some_iff.1 h
  obtain ⟨field, -, h⟩ := Option.bind_eq_some_iff.1 h
  obtain rfl := Option.some.inj h
  rw [Fields.readOr, (get?_record? (by decide) hfields).1] at hcolumns
  cases hentry : node.child? 0 "allowed_columns" with
  | none =>
    rw [hentry] at hcolumns
    exact (Option.some.inj hcolumns).symm
  | some list =>
    rw [hentry] at hcolumns
    cases list with
    | scalar text plain =>
      simp only [texts?] at hcolumns
      split at hcolumns
      · exact (Option.some.inj hcolumns).symm
      · cases hcolumns
    | sequence items => exact (filterMap_of_mapM hcolumns).symm
    | mapping entries => cases hcolumns

/-- The columns of settings are those that the document lists. -/
theorem Settings.allowedColumns_of_ofYaml? {document : Yaml} {settings : Settings}
    (h : ofYaml? document = some settings) :
    settings.sql.allowedColumns = document.listedColumns := by
  unfold ofYaml? at h
  obtain ⟨fields, hfields, h⟩ := Option.bind_eq_some_iff.1 h
  obtain ⟨logging, -, h⟩ := Option.bind_eq_some_iff.1 h
  obtain ⟨sql, hsql, h⟩ := Option.bind_eq_some_iff.1 h
  obtain rfl := Option.some.inj h
  rw [Fields.readOr, (Yaml.get?_record? (by decide) hfields).2] at hsql
  rw [Yaml.listedColumns]
  cases hentry : document.child? 1 "sql" with
  | none =>
    rw [hentry] at hsql
    obtain rfl := Option.some.inj hsql
    rfl
  | some node =>
    rw [hentry] at hsql
    exact SqlSettings.allowedColumns_of_ofYaml? hsql

/-! ## Variables of the environment -/

/-- The names that a text lists: what stands between its commas, without the blanks around it,
unless nothing is left. -/
def listedNames (text : String) : List String :=
  (((text.toList.splitOn ',').map Text.stripped).filter (· ≠ [])).map String.ofList

theorem Text.pieces_eq_splitOn (mark : Char) (s : List Char) :
    Text.pieces mark s = s.splitOn mark := by
  induction s with
  | nil => rfl
  | cons c s ih =>
    have hne := Text.pieces_ne_nil mark s
    rw [Text.pieces, List.splitOn, List.splitOnP_cons_eq_if_modifyHead, ← List.splitOn, ← ih]
    by_cases hc : c = mark
    · simp [hc]
    · cases hpieces : Text.pieces mark s with
      | nil => exact absurd hpieces hne
      | cons piece more => simp [hc]

theorem columnNames_eq_listedNames (text : String) :
    SqlSettings.columnNames text = listedNames text := by
  have htrim : Text.trim ∘ String.ofList = String.ofList ∘ Text.stripped := by
    funext s
    simp [Text.trim, Text.trimChars_eq]
  rw [SqlSettings.columnNames, Text.cut, List.map_map, htrim, Text.pieces_eq_splitOn, listedNames,
    ← List.map_map, List.filter_map]
  congr 1
  apply List.filter_congr
  intro s _
  cases s <;> simp

/-! ## Files of assignments -/

namespace EnvFile

/-- A line changes nothing, or sets a variable that is not there. -/
theorem assign?_cases {environment more : Environment} {line : List Char}
    (h : assign? environment line = some more) :
    more = environment ∨
      ∃ name value, environment.get? name = none ∧ more = environment.insert name value := by
  have hset : ∀ (name : String) (written : List Char),
      (if environment.contains name then environment
        else environment.insert name (String.ofList written)) = more →
      more = environment ∨
        ∃ name value, environment.get? name = none ∧ more = environment.insert name value := by
    rintro name written rfl
    split
    · exact .inl rfl
    · next habsent => exact .inr ⟨name, _, by simpa [Fields.contains] using habsent, rfl⟩
  unfold assign? at h
  simp only at h
  split at h
  · exact .inl (Option.some.inj h).symm
  · obtain ⟨⟨name, rest⟩, -, h⟩ := Option.bind_eq_some_iff.1 h
    split at h
    · exact hset name [] (Option.some.inj h)
    · obtain ⟨written, -, h⟩ := Option.bind_eq_some_iff.1 h
      exact hset name written (Option.some.inj h)

theorem get?_assign {environment more : Environment} {line : List Char} {name value : String}
    (hassign : assign? environment line = some more) (h : environment.get? name = some value) :
    more.get? name = some value := by
  rcases assign?_cases hassign with rfl | ⟨other, set, habsent, rfl⟩
  · exact h
  · have hne : name ≠ other := by
      rintro rfl
      cases h.symm.trans habsent
    rw [Fields.get?_insert, if_neg hne, h]

/-- A file of assignments leaves the variables alone that are there already. -/
theorem get?_load {environment : Environment} {name value : String} (text : String)
    (h : environment.get? name = some value) : (load environment text).get? name = some value := by
  rw [load]
  generalize lines .start [] (Text.withoutMark text.toList) = ls
  induction ls generalizing environment with
  | nil => exact h
  | cons line ls ih =>
    rw [assignAll]
    cases hassign : assign? environment line with
    | none => exact h
    | some more => exact ih (get?_assign hassign h)

/-! ### Plain assignments -/

/-- A character that means itself in a value. -/
def IsPlainChar (c : Char) : Prop :=
  ¬ Text.White c ∧ c ∉ ['\\', '"', '\'', '$', '#']

/-- A name and a value that have to be written in no other way than as they are. -/
structure PlainAssignment (assignment : String × String) : Prop where
  name : Text.IsName assignment.1.toList
  value : ∀ c ∈ assignment.2.toList, IsPlainChar c

/-- The line of an assignment. -/
def assignmentLine (assignment : String × String) : List Char :=
  assignment.1.toList ++ '=' :: assignment.2.toList

/-- The lines of some assignments, each with its end. -/
def assignmentLines (assignments : List (String × String)) : List Char :=
  assignments.flatMap fun assignment => assignmentLine assignment ++ ['\n']

theorem isPlainChar_of_isNameChar {c : Char} (h : Text.IsNameChar c) : IsPlainChar c := by
  constructor
  · intro hwhite
    have hblank := Text.isBlank_iff.2 hwhite
    rw [Grammar.isBlank_of_isIdentifierChar (Text.isIdentifierChar_iff.2 h)] at hblank
    cases hblank
  · intro hmark
    simp only [List.mem_cons, List.not_mem_nil, or_false] at hmark
    rcases hmark with rfl | rfl | rfl | rfl | rfl <;> exact absurd h (by decide)

theorem IsPlainChar.isBlank {c : Char} (h : IsPlainChar c) : Text.isBlank c = false :=
  Bool.eq_false_iff.2 fun hblank => h.1 (Text.isBlank_iff.1 hblank)

theorem IsPlainChar.afterPlain {c : Char} (h : IsPlainChar c) : LineMode.afterPlain c = .plain := by
  obtain ⟨-, hmark⟩ := h
  simp only [List.mem_cons, List.not_mem_nil, or_false, not_or] at hmark
  rw [LineMode.afterPlain, if_neg hmark.1, if_neg hmark.2.1, if_neg hmark.2.2.1]

theorem IsPlainChar.ne_lineEnd {c : Char} (h : IsPlainChar c) : c ≠ '\n' := by
  rintro rfl
  exact h.1 (by decide)

/-- A line of plain characters goes on to its end. -/
theorem lines_plain {s : List Char} (line rest : List Char) (h : ∀ c ∈ s, IsPlainChar c) :
    lines .plain line (s ++ '\n' :: rest) = (line ++ s) :: lines .start [] rest := by
  induction s generalizing line with
  | nil => simp [lines, LineMode.isQuoted]
  | cons c s ih =>
    have hc := h c (by simp)
    have hnext : LineMode.plain.next c = .plain := by
      rw [LineMode.next, hc.isBlank, if_neg Bool.false_ne_true, hc.afterPlain]
    have hmore := ih (line ++ [c]) fun d hd => h d (List.mem_cons_of_mem _ hd)
    rw [List.append_assoc, List.singleton_append] at hmore
    rw [List.cons_append, lines, if_neg fun hend => hc.ne_lineEnd hend.1, hnext]
    exact hmore

theorem lines_start {c : Char} {s : List Char} (rest : List Char)
    (h : ∀ d ∈ c :: s, IsPlainChar d) :
    lines .start [] (c :: s ++ '\n' :: rest) = (c :: s) :: lines .start [] rest := by
  have hc := h c (by simp)
  have hmark : c ≠ '#' := by
    rintro rfl
    exact hc.2 (by simp)
  have hnext : LineMode.start.next c = .plain := by
    rw [LineMode.next, if_neg hmark, hc.isBlank, if_neg Bool.false_ne_true, hc.afterPlain]
  rw [List.cons_append, lines, if_neg fun hend => hc.ne_lineEnd hend.1, hnext]
  exact lines_plain _ rest fun d hd => h d (List.mem_cons_of_mem _ hd)

theorem value?_of_plain (environment : Environment) {value : List Char}
    (h : ∀ c ∈ value, IsPlainChar c) : value? environment .bare value = some value := by
  induction value with
  | nil => rfl
  | cons c value ih =>
    have hc := h c (by simp)
    have hblank : ¬ (c = ' ' ∨ c = '\t') := by
      rintro (rfl | rfl) <;> exact hc.1 (by decide)
    have hmark := hc.2
    simp only [List.mem_cons, List.not_mem_nil, or_false, not_or] at hmark
    have hstep : step environment c .bare = some ([c], .bare) := by
      rw [step, if_neg hmark.2.2.2.1, if_neg hmark.2.2.1, if_neg hmark.2.1, if_neg hmark.1,
        if_neg hblank]
    rw [value?, hstep]
    simp [ih fun d hd => h d (List.mem_cons_of_mem _ hd)]

theorem dropBlanks_of_plain {s : List Char} (h : ∀ c ∈ s, IsPlainChar c) :
    Text.dropBlanks s = s := by
  cases s with
  | nil => rfl
  | cons c s => simp [Text.dropBlanks, (h c (by simp)).isBlank]

theorem trimChars_of_plain {s : List Char} (h : ∀ c ∈ s, IsPlainChar c) :
    Text.trimChars s = s := by
  have hreverse : ∀ c ∈ s.reverse, IsPlainChar c := fun c hc => h c (List.mem_reverse.1 hc)
  rw [Text.trimChars, dropBlanks_of_plain h, dropBlanks_of_plain hreverse, List.reverse_reverse]

/-- Plain characters are no comment, so nothing is void but the empty text. -/
theorem isVoid_of_plain {s : List Char} (h : ∀ c ∈ s, IsPlainChar c) :
    isVoid s = s.isEmpty := by
  cases s with
  | nil => rfl
  | cons c s =>
    have hmark : c ≠ '#' := by
      rintro rfl
      exact (h '#' (by simp)).2 (by simp)
    simp [isVoid, hmark]

/-- A name ends where an equals sign stands. -/
theorem name?_of_isName {name : String} (hname : Text.IsName name.toList) (value : List Char) :
    name? (name.toList ++ '=' :: value) = some (name, '=' :: value) := by
  obtain ⟨c, rest, hchars, hc, hrest⟩ := hname
  have hall : ∀ d ∈ name.toList, isNameChar d = true := by
    intro d hd
    rw [hchars] at hd
    have hd : Text.IsNameChar d := by
      rcases List.mem_cons.1 hd with rfl | hd
      · exact .inl hc
      · exact hrest d hd
    rw [isNameChar, Text.isIdentifierChar_iff.2 hd, Bool.true_or]
  have hend : ∀ d r, '=' :: value = d :: r → isNameChar d = false := by
    intro d r heq
    obtain rfl := (List.cons.inj heq).1
    decide
  have hstart : Text.isIdentifierStart c = true := Text.isIdentifierStart_iff.2 hc
  have htake := Grammar.takeWhile_run hall hend
  have hdrop := Grammar.dropWhile_run hall hend
  have hstarts : name? (c :: (rest ++ '=' :: value)) =
      some (String.ofList ((c :: (rest ++ '=' :: value)).takeWhile isNameChar),
        Text.dropBlanks ((c :: (rest ++ '=' :: value)).dropWhile isNameChar)) := by
    simp only [name?, hstart, if_true]
  have hblank : Text.dropBlanks ('=' :: value) = '=' :: value := rfl
  rw [hchars] at htake hdrop
  rw [hchars, List.cons_append, hstarts, ← List.cons_append, htake, hdrop, hblank, ← hchars,
    String.ofList_toList]

/-- The name before an equals sign is the name of the variable. -/
theorem target?_of_plain {name : String} {value : List Char} (hname : Text.IsName name.toList)
    (hvalue : ∀ c ∈ value, IsPlainChar c) :
    target? (name.toList ++ '=' :: value) = some (name, value) := by
  rw [target?, name?_of_isName hname]
  show some (name, Text.dropBlanks value) = _
  rw [dropBlanks_of_plain hvalue]

/-- A line of an assignment is plain, and does not start with a mark of byte order. -/
theorem PlainAssignment.line {assignment : String × String} (h : PlainAssignment assignment) :
    ∃ c s, assignmentLine assignment = c :: s ∧
      c.toNat ≠ 0xFEFF ∧ ∀ d ∈ c :: s, IsPlainChar d := by
  obtain ⟨⟨c, rest, hchars, hc, hrest⟩, hvalue⟩ := h
  have hline : assignmentLine assignment = c :: (rest ++ '=' :: assignment.2.toList) := by
    rw [assignmentLine, hchars, List.cons_append]
  refine ⟨c, rest ++ '=' :: assignment.2.toList, hline, ?_, ?_⟩
  · have hsmall := Grammar.toNat_of_isIdentifierChar (Text.isIdentifierChar_iff.2 (.inl hc))
    omega
  · intro d hd
    simp only [List.mem_cons, List.mem_append] at hd
    rcases hd with rfl | hd | rfl | hd
    · exact isPlainChar_of_isNameChar (.inl hc)
    · exact isPlainChar_of_isNameChar (hrest d hd)
    · exact ⟨by decide, by decide⟩
    · exact hvalue d hd

theorem assign?_of_plain (environment : Environment) {assignment : String × String}
    (h : PlainAssignment assignment) :
    assign? environment (assignmentLine assignment) =
      some (if environment.contains assignment.1 then environment
        else environment.insert assignment.1 assignment.2) := by
  obtain ⟨c, s, hline, -, hplain⟩ := h.line
  have htarget := target?_of_plain h.name h.value
  rw [← assignmentLine, hline] at htarget
  rw [hline]
  have hvoid : isVoid (c :: s) = false := isVoid_of_plain hplain
  have hwritten := value?_of_plain environment h.value
  have hvoidValue := isVoid_of_plain h.value
  have htext : String.ofList assignment.2.toList = assignment.2 := String.ofList_toList
  simp only [assign?, trimChars_of_plain hplain, hvoid, htarget]
  cases hvalue : assignment.2.toList with
  | nil =>
    rw [hvalue] at htext
    simp [isVoid, ← htext]
  | cons d t =>
    rw [hvalue] at hwritten hvoidValue htext
    simp [hwritten, hvoidValue, htext]

/-- The lines of some assignments, and the empty one after them. -/
theorem lines_assignmentLines {assignments : List (String × String)}
    (h : ∀ assignment ∈ assignments, PlainAssignment assignment) :
    lines .start [] (assignmentLines assignments) =
      assignments.map assignmentLine ++ [[]] := by
  induction assignments with
  | nil => rfl
  | cons assignment assignments ih =>
    obtain ⟨c, s, hline, -, hplain⟩ := (h assignment (by simp)).line
    have hmore := ih fun other hother => h other (List.mem_cons_of_mem _ hother)
    rw [assignmentLines, List.flatMap_cons, ← assignmentLines, List.map_cons, hline,
      List.append_assoc, List.singleton_append, lines_start _ hplain, hmore]
    rfl

theorem withoutMark_assignmentLines {assignments : List (String × String)}
    (h : ∀ assignment ∈ assignments, PlainAssignment assignment) :
    Text.withoutMark (assignmentLines assignments) = assignmentLines assignments := by
  cases assignments with
  | nil => rfl
  | cons assignment assignments =>
    obtain ⟨c, s, hline, hmark, -⟩ := (h assignment (by simp)).line
    rw [assignmentLines, List.flatMap_cons, hline]
    simp [Text.withoutMark, hmark]

theorem get?_assignAll_plain (environment : Environment) {assignments : List (String × String)}
    (h : ∀ assignment ∈ assignments, PlainAssignment assignment) (name : String) :
    (assignAll environment (assignments.map assignmentLine ++ [[]])).get? name =
      (environment.get? name).or (assignments.lookup name) := by
  induction assignments generalizing environment with
  | nil => simp [assignAll, assign?, Text.trimChars, Text.dropBlanks, isVoid]
  | cons assignment assignments ih =>
    rw [List.map_cons, List.cons_append, assignAll,
      assign?_of_plain environment (h assignment (by simp))]
    simp only
    rw [ih _ fun other hother => h other (List.mem_cons_of_mem _ hother)]
    have hlookup : (assignment :: assignments).lookup name =
        if name = assignment.1 then some assignment.2 else assignments.lookup name :=
      Fields.get?_cons name assignment.1 assignment.2 assignments
    rw [hlookup]
    by_cases heq : name = assignment.1
    · subst heq
      split
      · next hset =>
        obtain ⟨value, hvalue⟩ := Option.isSome_iff_exists.1 hset
        rw [hvalue]
        rfl
      · next habsent =>
        have hnone : environment.get? assignment.1 = none := by
          simpa [Fields.contains] using habsent
        rw [Fields.get?_insert, if_pos rfl, hnone, if_pos rfl]
        rfl
    · rw [if_neg heq]
      split
      · rfl
      · rw [Fields.get?_insert, if_neg heq]

/-- **A file of plain assignments sets what is not set.**  A variable has the value that it had, or
else that of its first line. -/
theorem get?_load_plain (environment : Environment) {assignments : List (String × String)}
    (h : ∀ assignment ∈ assignments, PlainAssignment assignment) (name : String) :
    (load environment (String.ofList (assignmentLines assignments))).get? name =
      (environment.get? name).or (assignments.lookup name) := by
  rw [load, String.toList_ofList, withoutMark_assignmentLines h, lines_assignmentLines h,
    get?_assignAll_plain environment h]

/-- What is known with a file of assignments, if there is one.  It adds to what is set already, and
where its lines are plain it sets what they say. -/
structure Extends (environment : Environment) (file : Option String) (known : Environment) :
    Prop where
  without : file = none → known = environment
  kept : ∀ {name value : String}, environment.get? name = some value →
    known.get? name = some value
  plain : ∀ {assignments : List (String × String)},
    (∀ assignment ∈ assignments, PlainAssignment assignment) →
    file = some (String.ofList (assignmentLines assignments)) →
    ∀ name, known.get? name = (environment.get? name).or (assignments.lookup name)

theorem extends_load (environment : Environment) (file : Option String) :
    Extends environment file ((file.map (load environment)).getD environment) := by
  cases file with
  | none =>
    refine ⟨fun _ => rfl, fun h => h, ?_⟩
    rintro _ _ ⟨⟩
  | some text =>
    refine ⟨?_, get?_load text, ?_⟩
    · rintro ⟨⟩
    · rintro assignments h ⟨⟩
      exact get?_load_plain environment h

end EnvFile

end Formulary
