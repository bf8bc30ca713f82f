import Formulary.Engine

/-!
# What a formula sees of a record

A formula on a record sees one context, in which several things may claim a name.  Which one gets
it is fixed, and what is hidden does not matter to any formula.

* `RecordContext.Ordered` — a context in which each field has its name to itself;
* `RecordContext.shown?` — what is under a name, by precedence;
* `RecordContext.get?_flatten` — it is what a formula finds there;
* `RecordContext.AgreeOnVisible` — two contexts that differ in hidden fields only;
* `RecordContext.formulas_see_visible` — no formula tells them apart.
-/

namespace Formulary.RecordContext

/-! ## Contexts in order -/

/-- The fields of the record and the further fields are in the order of their names, each name
once. -/
structure Ordered (context : RecordContext) : Prop where
  record : ∀ record, context.record = some record → record.Ascending
  fields : context.fields.Ascending

theorem ordered_empty : empty.Ordered where
  record _ h := by cases h
  fields := List.Pairwise.nil

/-- A further field finds its place. -/
theorem Ordered.withField {context : RecordContext} (h : context.Ordered) (name : String)
    (value : Value) : (context.withField name value).Ordered where
  record := h.record
  fields := Fields.ascending_insert h.fields

/-- A context that is read is in order if what it is read from is. -/
theorem Ordered.of_value {fields : Fields Value} {context : RecordContext}
    (hfields : fields.Ascending)
    (hrecord : ∀ record, fields.get? "record" = some (.map record) → Fields.Ascending record)
    (h : ofValue? (.map fields) = some context) : context.Ordered := by
  simp only [ofValue?, Option.bind_eq_bind, Option.bind_eq_some_iff] at h
  obtain ⟨record, hsection, prior, -, user, -, env, -, hcontext⟩ := h
  obtain rfl := Option.some.inj hcontext
  refine ⟨?_, hfields.restrict fun name => !sections.contains name⟩
  rintro entries rfl
  unfold section? at hsection
  split at hsection
  · cases hsection
  · cases hsection
  · next hget =>
    obtain rfl := Option.some.inj (Option.some.inj hsection)
    exact hrecord _ hget
  · cases hsection

/-! ## What is under a name -/

variable (context : RecordContext)

/-- The further field with a name, if it may be seen. -/
def extraField? (name : String) : Option Value :=
  if context.visible name then context.fields.get? name else none

/-- The section with a name, if it is there: the record before a change, the user or the
environment. -/
def sectionMap? (name : String) : Option Value :=
  if name = "prior" then context.prior.map .map
  else if name = "user" then context.user.map .map
  else if name = "env" then context.env.map .map
  else none

/-- The fields of the record that may be seen, under the name of the record. -/
def wholeRecord? (name : String) : Option Value :=
  if name = "record" then
    context.record.map fun record => .map (record.restrict context.visible)
  else none

/-- The field of the record with a name, if it may be seen. -/
def recordField? (name : String) : Option Value :=
  if context.visible name then context.record.bind (Fields.get? name) else none

/-- What is under a name: a further field before a section, a section before the record, and the
record before its field. -/
def shown? (name : String) : Option Value :=
  (context.extraField? name).or <| (context.sectionMap? name).or <|
    (context.wholeRecord? name).or (context.recordField? name)

variable {context : RecordContext}

theorem get?_addSection (name key : String) (fields : Option (Fields Value)) (rest : Context) :
    (addSection key fields rest).get? name =
      (if name = key then fields.map Value.map else none).or (rest.get? name) := by
  cases fields with
  | none => simp [addSection]
  | some fields =>
    rw [addSection, Fields.get?_insert]
    split <;> rfl

/-- The record alone: first all of it, then its fields. -/
theorem get?_addRecord (h : context.Ordered) (name : String) :
    (addRecord context.visible context.record []).get? name =
      (context.wholeRecord? name).or (context.recordField? name) := by
  unfold wholeRecord? recordField?
  cases hrecord : context.record with
  | none =>
    simp [addRecord, Fields.get?_nil]
  | some record =>
    have hascending := (h.record record hrecord).restrict context.visible
    rw [addRecord, Fields.get?_insert, Fields.get?_insertAll name hascending,
      Fields.get?_restrict, Fields.get?_nil, Option.or_none]
    by_cases hname : name = "record"
    · simp [hname]
    · simp [hname]

/-- **Precedence.**  What a formula finds under a name is what is shown there. -/
theorem get?_flatten (h : context.Ordered) (name : String) :
    context.flatten.get? name = context.shown? name := by
  rw [flatten, Fields.get?_insertAll name (h.fields.restrict context.visible),
    Fields.get?_restrict, get?_addSection, get?_addSection, get?_addSection, get?_addRecord h]
  unfold shown? extraField? sectionMap?
  -- the sections have different names, so their order is of no account
  by_cases hprior : name = "prior"
  · simp [hprior]
  by_cases huser : name = "user"
  · simp [huser]
  by_cases henv : name = "env"
  · simp [henv]
  simp [hprior, huser, henv]

/-! ## What is hidden -/

/-- Two contexts hide the same names and differ in nothing else than in what they hide. -/
structure AgreeOnVisible (left right : RecordContext) : Prop where
  visible : left.visible = right.visible
  record_isSome : left.record.isSome = right.record.isSome
  recordField : ∀ name, left.visible name = true →
    left.record.bind (Fields.get? name) = right.record.bind (Fields.get? name)
  extraField : ∀ name, left.visible name = true → left.fields.get? name = right.fields.get? name
  prior : left.prior = right.prior
  user : left.user = right.user
  env : left.env = right.env

/-- Collections that agree on what may be seen have the same restriction to it. -/
theorem restrict_congr {fields others : Fields Value} {visible : String → Bool}
    (h : fields.Ascending) (h' : others.Ascending)
    (hagree : ∀ name, visible name = true → fields.get? name = others.get? name) :
    fields.restrict visible = others.restrict visible := by
  refine (h.restrict visible).ext (h'.restrict visible) fun name => ?_
  rw [Fields.get?_restrict, Fields.get?_restrict]
  by_cases hname : visible name = true
  · rw [if_pos hname, if_pos hname, hagree name hname]
  · rw [if_neg hname, if_neg hname]

theorem addRecord_congr {left right : RecordContext} (hleft : left.Ordered)
    (hright : right.Ordered) (hagree : AgreeOnVisible left right) :
    addRecord left.visible left.record [] = addRecord right.visible right.record [] := by
  have hsome := hagree.record_isSome
  have hfield := hagree.recordField
  rw [← hagree.visible]
  cases hl : left.record with
  | none =>
    cases hr : right.record with
    | none => rfl
    | some other => simp [hl, hr] at hsome
  | some record =>
    cases hr : right.record with
    | none => simp [hl, hr] at hsome
    | some other =>
      simp only [hl, hr, Option.bind_some] at hfield
      have hsame := restrict_congr (hleft.record record hl) (hright.record other hr) hfield
      simp only [addRecord, hsame]

/-- Contexts that agree on what may be seen are one context for a formula. -/
theorem flatten_congr {left right : RecordContext} (hleft : left.Ordered) (hright : right.Ordered)
    (hagree : AgreeOnVisible left right) : left.flatten = right.flatten := by
  have hextra := restrict_congr hleft.fields hright.fields hagree.extraField
  rw [flatten, flatten, addRecord_congr hleft hright hagree, hextra, hagree.visible, hagree.prior,
    hagree.user, hagree.env]

/-- **Formulas see what is visible, by a fixed precedence, and nothing else.**  Under a name is
the further field if there is one that may be seen, else the section, else the record with just
those of its fields that may be seen, else such a field.  Contexts that differ in hidden fields
only give every formula the same value or error, on every engine. -/
theorem formulas_see_visible (context : RecordContext) (h : context.Ordered) :
    (∀ name, context.flatten.get? name = context.shown? name) ∧
    (∀ record, context.record = some record → ∀ name,
      (record.restrict context.visible).get? name =
        if context.visible name then record.get? name else none) ∧
    ∀ other : RecordContext, other.Ordered → AgreeOnVisible context other →
      ∀ (engine : Engine) (text : String),
        engine.evaluateFormula text context = engine.evaluateFormula text other := by
  refine ⟨get?_flatten h, fun record _ name => Fields.get?_restrict name _ record, ?_⟩
  intro other hother hagree engine text
  rw [Engine.evaluateFormula, Engine.evaluateFormula, flatten_congr h hother hagree]

/-- Somebody whose pay is hidden: a formula does not even learn whether there is one.  The further
field `user` stands before the section. -/
theorem formulas_see_visible_salary :
    let visible (name : String) := name != "Bonus" && name != "Salary"
    let left : RecordContext :=
      ⟨some [("Name", .string "Ada"), ("Salary", .int 100000)], none, some [("id", .int 7)], none,
        [("Bonus", .int 5), ("user", .null)], visible⟩
    let right : RecordContext :=
      ⟨some [("Name", .string "Ada")], none, some [("id", .int 7)], none,
        [("Salary", .bool true), ("user", .null)], visible⟩
    left.Ordered ∧ right.Ordered ∧ AgreeOnVisible left right ∧
      left.flatten.get? "user" = some .null ∧ left.flatten.get? "Salary" = none ∧
      left.flatten.get? "record" = some (.map [("Name", .string "Ada")]) ∧
      ∀ (engine : Engine) (text : String),
        engine.evaluateFormula text left = engine.evaluateFormula text right := by
  intro visible left right
  have hleft : left.Ordered := by
    refine ⟨?_, by decide⟩
    rintro _ ⟨⟩
    decide
  have hright : right.Ordered := by
    refine ⟨?_, by decide⟩
    rintro _ ⟨⟩
    decide
  have hagree : AgreeOnVisible left right := by
    refine ⟨rfl, rfl, fun name hname => ?_, fun name hname => ?_, rfl, rfl, rfl⟩
    · have hsalary : name ≠ "Salary" := by
        rintro rfl
        cases hname
      simp [left, right, Fields.get?_cons, Fields.get?_nil, hsalary]
    · have hbonus : name ≠ "Bonus" := by
        rintro rfl
        cases hname
      have hsalary : name ≠ "Salary" := by
        rintro rfl
        cases hname
      simp [left, right, Fields.get?_cons, Fields.get?_nil, hbonus, hsalary]
  obtain ⟨hshown, -, hsame⟩ := formulas_see_visible left hleft
  refine ⟨hleft, hright, hagree, ?_, ?_, ?_, hsame right hright hagree⟩
  · rw [hshown]
    rfl
  · rw [hshown]
    rfl
  · rw [hshown]
    rfl

end Formulary.RecordContext
