import Formulary.Json.Reader
import Formulary.Proofs.Json.Number
import Formulary.Proofs.Json.Quoted

/-!
# Compact texts read back

The compact text of a value is read as that value, and nothing behind it is touched.  Lists and
objects must not be nested deeper than the reader allows, whole numbers need sixty-four bits, and
binary numbers have to read back.

* `nesting` — how deep lists and objects stand in each other;
* `Readable` — the values whose text can be read;
* `value?_compactChars` — the text of such a value, whatever follows it;
* `parse?_compact` — a whole text.
-/

namespace Formulary.Json

open Number (EndsNumber ReadsBack endsNumber_nil endsNumber_cons)

/-! ## Nesting -/

mutual

/-- How many lists and objects stand in each other. -/
def nesting : Json → Nat
  | .array items => nestingOfItems items + 1
  | .object fields => nestingOfFields fields + 1
  | _ => 0

/-- The nesting of the most nested item. -/
def nestingOfItems : List Json → Nat
  | [] => 0
  | item :: rest => max (nesting item) (nestingOfItems rest)

/-- The nesting of the most nested field. -/
def nestingOfFields : List (String × Json) → Nat
  | [] => 0
  | (_, value) :: rest => max (nesting value) (nestingOfFields rest)

end

theorem nestingOfItems_le_iff {items : List Json} {n : Nat} :
    nestingOfItems items ≤ n ↔ ∀ item ∈ items, item.nesting ≤ n := by
  induction items with
  | nil => simp [nestingOfItems]
  | cons item items ih =>
    rw [nestingOfItems, Nat.max_le, ih, List.forall_mem_cons]

theorem nestingOfFields_le_iff {fields : List (String × Json)} {n : Nat} :
    nestingOfFields fields ≤ n ↔ ∀ field ∈ fields, field.2.nesting ≤ n := by
  induction fields with
  | nil => simp [nestingOfFields]
  | cons field fields ih =>
    rw [nestingOfFields, Nat.max_le, ih, List.forall_mem_cons]

/-! ## Values whose text can be read -/

/-- Whole numbers have at most sixty-four bits, and binary numbers read back. -/
inductive Readable : Json → Prop
  | null : Readable .null
  | bool (b : Bool) : Readable (.bool b)
  | integer {n : Int} : -2 ^ 63 ≤ n → n < 2 ^ 64 → Readable (.integer n)
  | float {x : Binary64} : ReadsBack x → Readable (.float x)
  | string (s : String) : Readable (.string s)
  | array {items : List Json} : (∀ item ∈ items, Readable item) → Readable (.array items)
  | object {fields : List (String × Json)} : (∀ field ∈ fields, Readable field.2) →
      Readable (.object fields)

/-! ## Steps of the reader -/

theorem after?_append (start rest : List Char) : after? start (start ++ rest) = some rest := by
  induction start with
  | nil => rfl
  | cons c start ih => rw [List.cons_append, after?, if_pos rfl, ih]

/-- Nothing is skipped before a character that is no blank. -/
theorem skipGap_cons {c : Char} (h : isGap c = false) (s : List Char) :
    skipGap (c :: s) = c :: s := by
  rw [skipGap, List.dropWhile_cons, h]
  rfl

/-- A character that starts a value: it is no blank and does not end a list. -/
def Opens (c : Char) : Prop :=
  isGap c = false ∧ c ≠ ']'

theorem opens_of_number {c : Char} (h : c = '-' ∨ c.isDigit = true) : Opens c := by
  rcases h with rfl | hdigit
  · exact ⟨by decide, by decide⟩
  · refine ⟨?_, ?_⟩
    · rw [Bool.eq_false_iff]
      intro hgap
      simp only [isGap, Bool.or_eq_true, beq_iff_eq] at hgap
      rcases hgap with ((rfl | rfl) | rfl) | rfl
      · exact absurd hdigit (by decide)
      · exact absurd hdigit (by decide)
      · exact absurd hdigit (by decide)
      · exact absurd hdigit (by decide)
    · rintro rfl
      exact absurd hdigit (by decide)

variable (depth fuel : Nat) {rest : List Char}

/-- A minus sign or a digit starts a number. -/
theorem value?_number {c : Char} (h : c = '-' ∨ c.isDigit = true) (s : List Char) :
    value? depth (fuel + 1) (c :: s) = Number.read? (c :: s) := by
  have hother : ∀ letter s', ¬ (letter = '-' ∨ letter.isDigit = true) →
      c :: s = letter :: s' → False := by
    intro letter s' hletter heq
    exact hletter ((List.cons.inj heq).1 ▸ h)
  rw [value?, skipGap_cons (opens_of_number h).1]
  split
  · next heq => exact (hother _ _ (by decide) heq).elim
  · next heq => exact (hother _ _ (by decide) heq).elim
  · next heq => exact (hother _ _ (by decide) heq).elim
  · next heq => exact (hother _ _ (by decide) heq).elim
  · next heq => exact (hother _ _ (by decide) heq).elim
  · next heq => exact (hother _ _ (by decide) heq).elim
  · rfl

theorem value?_null : value? depth (fuel + 1) (compactChars .null ++ rest) = some (.null, rest) := by
  show Option.map _ (after? "ull".toList ("ull".toList ++ rest)) = _
  rw [after?_append]
  rfl

theorem value?_bool (b : Bool) :
    value? depth (fuel + 1) (compactChars (.bool b) ++ rest) = some (.bool b, rest) := by
  cases b with
  | false =>
    show Option.map _ (after? "alse".toList ("alse".toList ++ rest)) = _
    rw [after?_append]
    rfl
  | true =>
    show Option.map _ (after? "rue".toList ("rue".toList ++ rest)) = _
    rw [after?_append]
    rfl

theorem value?_string (s : String) :
    value? depth (fuel + 1) (compactChars (.string s) ++ rest) = some (.string s, rest) := by
  obtain ⟨body, hwrite, hread⟩ := Quoted.read?_write s.toList rest
  rw [compactChars, hwrite]
  show Option.map _ (Quoted.read? body) = _
  simp only [hread, Option.map_some, String.ofList_toList]

/-- A bracket opens a list, which is empty or has items. -/
theorem value?_empty_array :
    value? (depth + 2) (fuel + 1) (compactChars (.array []) ++ rest) = some (.array [], rest) := rfl

theorem value?_array {c : Char} (hc : Opens c) (s : List Char) :
    value? (depth + 2) (fuel + 1) ('[' :: c :: s) =
      (items? (depth + 1) fuel (c :: s)).map fun (items, rest) => (.array items, rest) := by
  rw [value?, skipGap_cons (by decide)]
  show (if depth + 2 ≤ 1 then none else _) = _
  rw [if_neg (by omega), skipGap_cons hc.1]
  split
  · next heq => exact absurd (List.cons.inj heq).1 hc.2
  · rfl

/-- A brace opens an object, which is empty or has fields. -/
theorem value?_empty_object :
    value? (depth + 2) (fuel + 1) (compactChars (.object []) ++ rest) = some (.object [], rest) := rfl

theorem value?_object (s : List Char) :
    value? (depth + 2) (fuel + 1) ('{' :: '"' :: s) =
      (fields? (depth + 1) fuel ('"' :: s)).map fun (fields, rest) => (.object fields, rest) := rfl

section Steps

variable {depth fuel : Nat} {s more rest : List Char}

/-- A bracket behind an item ends the list, and a comma leads to more items. -/
theorem items?_last {item : Json} (h : value? depth fuel s = some (item, ']' :: rest)) :
    items? depth (fuel + 1) s = some ([item], rest) := by
  rw [items?, h]
  rfl

theorem items?_comma {item : Json} (h : value? depth fuel s = some (item, ',' :: more)) :
    items? depth (fuel + 1) s =
      (items? depth fuel more).map fun (items, rest) => (item :: items, rest) := by
  rw [items?, h]
  rfl

/-- A name, a colon and a value are a field; what is behind it ends the object or leads to more
fields. -/
theorem fields?_last {name : String} {value : Json}
    (h : value? depth fuel s = some (value, '}' :: rest)) :
    fields? depth (fuel + 1) (Quoted.write name.toList ++ ':' :: s) =
      some ([(name, value)], rest) := by
  obtain ⟨body, hwrite, hname⟩ := Quoted.read?_write name.toList (':' :: s)
  rw [hwrite, fields?, skipGap_cons (by decide)]
  simp only [hname, skipGap_cons (show isGap ':' = false by decide), h, String.ofList_toList]
  rfl

theorem fields?_comma {name : String} {value : Json}
    (h : value? depth fuel s = some (value, ',' :: more)) :
    fields? depth (fuel + 1) (Quoted.write name.toList ++ ':' :: s) =
      (fields? depth fuel more).map fun (fields, rest) => ((name, value) :: fields, rest) := by
  obtain ⟨body, hwrite, hname⟩ := Quoted.read?_write name.toList (':' :: s)
  rw [hwrite, fields?, skipGap_cons (by decide)]
  simp only [hname, skipGap_cons (show isGap ':' = false by decide), h, String.ofList_toList]
  rfl

end Steps

/-! ## Compact texts -/

/-- The text of a readable value starts like one. -/
theorem Readable.opens {json : Json} (h : Readable json) :
    ∃ c s, compactChars json = c :: s ∧ Opens c := by
  cases h with
  | null => exact ⟨'n', _, rfl, by decide, by decide⟩
  | bool b =>
    cases b with
    | false => exact ⟨'f', _, rfl, by decide, by decide⟩
    | true => exact ⟨'t', _, rfl, by decide, by decide⟩
  | @integer n hlow hhigh =>
    have hread := Number.read?_integerChars hlow hhigh endsNumber_nil
    rw [List.append_nil] at hread
    obtain ⟨c, s, heq, hc⟩ := Number.start_of_read? hread
    exact ⟨c, s, heq, opens_of_number hc⟩
  | float hback =>
    obtain ⟨c, s, heq, hc⟩ := Number.start_of_read? hback
    exact ⟨c, s, heq, opens_of_number hc⟩
  | string s => exact ⟨'"', _, rfl, by decide, by decide⟩
  | array => exact ⟨'[', _, rfl, by decide, by decide⟩
  | object => exact ⟨'{', _, rfl, by decide, by decide⟩

/-- The text of a value is read as the value, if there are levels and steps enough. -/
def Returns (json : Json) : Prop :=
  ∀ (depth fuel : Nat) (rest : List Char), json.nesting < depth →
    2 * (compactChars json).length ≤ fuel + 1 → EndsNumber rest →
    value? depth (fuel + 1) (compactChars json ++ rest) = some (json, rest)

/-- A comma or a closing bracket ends a number. -/
theorem endsNumber_mark {c : Char} (h : c = ',' ∨ c = ']' ∨ c = '}') (s : List Char) :
    EndsNumber (c :: s) := by
  apply endsNumber_cons
  rcases h with rfl | rfl | rfl
  · decide
  · decide
  · decide

variable {depth fuel}

/-- The texts of items that return, with commas between them, are read up to the bracket. -/
theorem items?_compactItems {items : List Json} (hne : items ≠ [])
    (h : ∀ item ∈ items, Returns item) (hdepth : ∀ item ∈ items, item.nesting < depth)
    (hfuel : 2 * (separated [','] (compactItems items)).length + 2 ≤ fuel) :
    items? depth fuel (separated [','] (compactItems items) ++ ']' :: rest) =
      some (items, rest) := by
  induction items generalizing fuel with
  | nil => exact absurd rfl hne
  | cons item items ih =>
    obtain ⟨hitem, hitems⟩ := List.forall_mem_cons.1 h
    obtain ⟨hlevel, hlevels⟩ := List.forall_mem_cons.1 hdepth
    obtain ⟨fuel, rfl⟩ : ∃ f, fuel = f + 2 := ⟨fuel - 2, by omega⟩
    cases items with
    | nil =>
      have htext : separated [','] (compactItems [item]) = compactChars item := rfl
      rw [htext] at hfuel ⊢
      exact items?_last (hitem depth fuel _ hlevel (by omega)
        (endsNumber_mark (.inr (.inl rfl)) rest))
    | cons next items =>
      have htext : separated [','] (compactItems (item :: next :: items)) =
          compactChars item ++ ',' :: separated [','] (compactItems (next :: items)) := by
        simp [compactItems, separated]
      rw [htext, List.length_append, List.length_cons] at hfuel
      have hmore : items? depth (fuel + 1)
          (separated [','] (compactItems (next :: items)) ++ ']' :: rest) =
            some (next :: items, rest) :=
        ih (List.cons_ne_nil _ _) hitems hlevels (by omega)
      rw [htext, List.append_assoc, List.cons_append,
        items?_comma (hitem depth fuel _ hlevel (by omega) (endsNumber_mark (.inl rfl) _)), hmore]
      rfl

/-- The same for the fields of an object, up to the brace. -/
theorem fields?_compactFields {fields : List (String × Json)} (hne : fields ≠ [])
    (h : ∀ field ∈ fields, Returns field.2) (hdepth : ∀ field ∈ fields, field.2.nesting < depth)
    (hfuel : 2 * (separated [','] (compactFields fields)).length + 2 ≤ fuel) :
    fields? depth fuel (separated [','] (compactFields fields) ++ '}' :: rest) =
      some (fields, rest) := by
  induction fields generalizing fuel with
  | nil => exact absurd rfl hne
  | cons field fields ih =>
    obtain ⟨name, value⟩ := field
    obtain ⟨hvalue, hvalues⟩ := List.forall_mem_cons.1 h
    obtain ⟨hlevel, hlevels⟩ := List.forall_mem_cons.1 hdepth
    simp only at hvalue hlevel
    obtain ⟨fuel, rfl⟩ : ∃ f, fuel = f + 2 := ⟨fuel - 2, by omega⟩
    cases fields with
    | nil =>
      have htext : separated [','] (compactFields [(name, value)]) =
          Quoted.write name.toList ++ ':' :: compactChars value := rfl
      rw [htext, List.length_append, List.length_cons] at hfuel
      rw [htext, List.append_assoc, List.cons_append]
      exact fields?_last (hvalue depth fuel _ hlevel (by omega)
        (endsNumber_mark (.inr (.inr rfl)) rest))
    | cons next fields =>
      have htext : separated [','] (compactFields ((name, value) :: next :: fields)) =
          Quoted.write name.toList ++ ':' :: (compactChars value ++
            ',' :: separated [','] (compactFields (next :: fields))) := by
        simp [compactFields, separated]
      rw [htext, List.length_append, List.length_cons, List.length_append,
        List.length_cons] at hfuel
      have hmore : fields? depth (fuel + 1)
          (separated [','] (compactFields (next :: fields)) ++ '}' :: rest) =
            some (next :: fields, rest) :=
        ih (List.cons_ne_nil _ _) hvalues hlevels (by omega)
      rw [htext, List.append_assoc, List.cons_append, List.append_assoc, List.cons_append,
        fields?_comma (hvalue depth fuel _ hlevel (by omega) (endsNumber_mark (.inl rfl) _)), hmore]
      rfl

theorem compactChars_array (items : List Json) (rest : List Char) :
    compactChars (.array items) ++ rest =
      '[' :: (separated [','] (compactItems items) ++ ']' :: rest) := by
  simp [compactChars]

theorem compactChars_object (fields : List (String × Json)) (rest : List Char) :
    compactChars (.object fields) ++ rest =
      '{' :: (separated [','] (compactFields fields) ++ '}' :: rest) := by
  simp [compactChars]

/-- Parts with separators between them start like the first. -/
theorem separated_start (separator : List Char) {part : List Char} {c : Char} {t : List Char}
    (h : part = c :: t) (parts : List (List Char)) :
    ∃ t, separated separator (part :: parts) = c :: t := by
  subst h
  cases parts with
  | nil => exact ⟨t, rfl⟩
  | cons next parts => exact ⟨_, rfl⟩

/-- The text of a number is read if the reader of numbers reads it. -/
theorem Returns.number {json : Json} (h : ∀ {rest}, EndsNumber rest →
    Number.read? (compactChars json ++ rest) = some (json, rest)) : Returns json := by
  intro depth fuel rest _ _ hrest
  have hread := h hrest
  obtain ⟨c, s, heq, hc⟩ := Number.start_of_read? hread
  rw [heq, value?_number depth fuel hc, ← heq, hread]

/-- The text of an array of readable items is read if those of the items are. -/
theorem Returns.array {items : List Json} (hitems : ∀ item ∈ items, Readable item)
    (h : ∀ item ∈ items, Returns item) : Returns (.array items) := by
  intro depth fuel rest hdepth hfuel _
  rw [nesting] at hdepth
  obtain ⟨depth, rfl⟩ : ∃ d, depth = d + 2 := ⟨depth - 2, by omega⟩
  have hlevels : ∀ item ∈ items, item.nesting < depth + 1 := fun item hitem =>
    Nat.lt_succ_of_le (nestingOfItems_le_iff.1 (by omega) item hitem)
  cases items with
  | nil => exact value?_empty_array depth fuel
  | cons item items =>
    rw [← List.append_nil (compactChars _), compactChars_array, List.length_cons,
      List.length_append, List.length_cons] at hfuel
    have hread : items? (depth + 1) fuel
        (separated [','] (compactItems (item :: items)) ++ ']' :: rest) =
          some (item :: items, rest) :=
      items?_compactItems (List.cons_ne_nil _ _) h hlevels (by omega)
    obtain ⟨c, _, hfirst, hc⟩ := (hitems item List.mem_cons_self).opens
    obtain ⟨t, heq⟩ := separated_start [','] hfirst (compactItems items)
    rw [compactItems, heq, List.cons_append] at hread
    rw [compactChars_array, compactItems, heq, List.cons_append, value?_array depth fuel hc,
      hread]
    rfl

/-- The same for an object. -/
theorem Returns.object {fields : List (String × Json)} (h : ∀ field ∈ fields, Returns field.2) :
    Returns (.object fields) := by
  intro depth fuel rest hdepth hfuel _
  rw [nesting] at hdepth
  obtain ⟨depth, rfl⟩ : ∃ d, depth = d + 2 := ⟨depth - 2, by omega⟩
  have hlevels : ∀ field ∈ fields, field.2.nesting < depth + 1 := fun field hfield =>
    Nat.lt_succ_of_le (nestingOfFields_le_iff.1 (by omega) field hfield)
  cases fields with
  | nil => exact value?_empty_object depth fuel
  | cons field fields =>
    rw [← List.append_nil (compactChars _), compactChars_object, List.length_cons,
      List.length_append, List.length_cons] at hfuel
    have hread : fields? (depth + 1) fuel
        (separated [','] (compactFields (field :: fields)) ++ '}' :: rest) =
          some (field :: fields, rest) :=
      fields?_compactFields (List.cons_ne_nil _ _) h hlevels (by omega)
    obtain ⟨t, heq⟩ := separated_start [',']
      (show Quoted.write field.1.toList ++ ':' :: compactChars field.2 = '"' :: _ from rfl)
      (compactFields fields)
    rw [compactFields, heq, List.cons_append] at hread
    rw [compactChars_object, compactFields, heq, List.cons_append, value?_object depth fuel,
      hread]
    rfl

/-- The text of a readable value is read as the value. -/
theorem value?_compactChars {json : Json} (h : Readable json) : Returns json := by
  induction h with
  | null => exact fun depth fuel rest _ _ _ => value?_null depth fuel
  | bool b => exact fun depth fuel rest _ _ _ => value?_bool depth fuel b
  | integer hlow hhigh => exact .number fun hrest => Number.read?_integerChars hlow hhigh hrest
  | float hback => exact .number fun hrest => Number.read?_floatChars hback hrest
  | string s => exact fun depth fuel rest _ _ _ => value?_string depth fuel s
  | array hitems ih => exact .array hitems ih
  | object _ ih => exact .object ih

/-! ## Whole texts -/

/-- The compact text of a readable value is read as the value. -/
theorem parse?_compact {json : Json} (h : Readable json) (hnesting : json.nesting < depthLimit) :
    parse? json.compact = some json := by
  have hread := value?_compactChars h depthLimit (2 * (compactChars json).length + 1) [] hnesting
    (by omega) endsNumber_nil
  rw [List.append_nil] at hread
  unfold parse? compact
  simp only [String.toList_ofList, hread]
  rfl

/-- Readable values with the same compact text are the same, however deep they are. -/
theorem eq_of_compact_eq {left right : Json} (hleft : Readable left) (hright : Readable right)
    (h : left.compact = right.compact) : left = right := by
  have hchars : compactChars left = compactChars right := String.ofList_injective h
  have hlength : 2 * (compactChars left).length ≤ 2 * (compactChars left).length + 1 := by omega
  have hread := value?_compactChars hleft (left.nesting + right.nesting + 1)
    (2 * (compactChars left).length) [] (by omega) hlength endsNumber_nil
  have hother := value?_compactChars hright (left.nesting + right.nesting + 1)
    (2 * (compactChars left).length) [] (by omega) (hchars ▸ hlength) endsNumber_nil
  rw [← hchars, hread] at hother
  exact (Prod.mk.inj (Option.some.inj hother)).1

end Formulary.Json
