/-!
# Named things, sorted by name

A collection of things under names, each name once, kept in the order of the names by
code points.  Records, contexts, registered functions and remembered programs are
such collections.

Main statements: looking a name up after an insertion (`get?_insert`), an insertion keeps
the names in order (`ascending_insert`), and two collections in order are the same if every
name has the same in both (`Ascending.ext`).
-/

namespace Formulary

/-- Things under names. -/
abbrev Fields (α : Type) := List (String × α)

namespace Fields

variable {α : Type}

/-- The thing under a name. -/
def get? (name : String) (fields : Fields α) : Option α :=
  fields.lookup name

/-- A name is present. -/
def contains (name : String) (fields : Fields α) : Bool :=
  (fields.get? name).isSome

/-- Puts a thing under a name, in place of what was there. -/
def insert (name : String) (thing : α) : Fields α → Fields α
  | [] => [(name, thing)]
  | (other, old) :: rest =>
    if name = other then (name, thing) :: rest
    else if name < other then (name, thing) :: (other, old) :: rest
    else (other, old) :: insert name thing rest

/-- Puts a thing under a name, and gives back what was there. -/
def exchange (name : String) (thing : α) : Fields α → Option α × Fields α
  | [] => (none, [(name, thing)])
  | (other, old) :: rest =>
    if name = other then (some old, (name, thing) :: rest)
    else if name < other then (none, (name, thing) :: (other, old) :: rest)
    else
      let (found, rest) := exchange name thing rest
      (found, (other, old) :: rest)

/-- Puts all of some named things into a collection; the last of a name wins. -/
def insertAll (fields : Fields α) (named : List (String × α)) : Fields α :=
  named.foldl (fun fields field => fields.insert field.1 field.2) fields

/-- The collection of some named things; the last of a name wins. -/
def ofList (named : List (String × α)) : Fields α :=
  insertAll [] named

/-- The things whose names pass a test. -/
def restrict (keep : String → Bool) (fields : Fields α) : Fields α :=
  fields.filter fun field => keep field.1

/-! ## Looking up -/

theorem get?_nil (name : String) : get? name ([] : Fields α) = none := rfl

theorem get?_cons (name other : String) (thing : α) (rest : Fields α) :
    get? name ((other, thing) :: rest) = if name = other then some thing else get? name rest := by
  unfold get?
  by_cases same : name = other
  · simp [same]
  · have unlike : (name == other) = false := by simpa using same
    simp [List.lookup_cons, unlike, same]

/-- What is under a name is in the collection. -/
theorem mem_of_get? {name : String} {thing : α} {fields : Fields α}
    (h : get? name fields = some thing) : (name, thing) ∈ fields := by
  obtain ⟨before, after, rfl, -⟩ := List.lookup_eq_some_iff.1 h
  simp

/-- After an insertion the name has the new thing and every other name what it had. -/
theorem get?_insert (name other : String) (thing : α) (fields : Fields α) :
    get? name (insert other thing fields) =
      if name = other then some thing else get? name fields := by
  induction fields with
  | nil => simp [insert, get?_cons, get?_nil]
  | cons field rest ih =>
    obtain ⟨first, old⟩ := field
    simp only [insert]
    split
    · next same => subst same; simp only [get?_cons]; split <;> rfl
    · split
      · simp only [get?_cons]
      · simp only [get?_cons, ih]
        split
        · next here => subst here; split <;> simp_all
        · rfl

/-- A name has something exactly if it is one of the names. -/
theorem isSome_get?_iff {name : String} {fields : Fields α} :
    (fields.get? name).isSome = true ↔ name ∈ fields.map Prod.fst := by
  induction fields with
  | nil => simp [get?_nil]
  | cons field rest ih =>
    obtain ⟨other, thing⟩ := field
    rw [get?_cons, List.map_cons, List.mem_cons, ← ih]
    by_cases here : name = other
    · simp [here]
    · simp [here]

/-- A restriction keeps what is under a name that passes, and nothing under another. -/
theorem get?_restrict (name : String) (keep : String → Bool) (fields : Fields α) :
    get? name (restrict keep fields) = if keep name then get? name fields else none := by
  induction fields with
  | nil => simp [restrict, get?_nil]
  | cons field rest ih =>
    obtain ⟨first, thing⟩ := field
    unfold restrict at ih ⊢
    by_cases passes : keep first = true
    · simp only [List.filter_cons, passes, if_true, get?_cons, ih]
      by_cases here : name = first
      · subst here; simp [passes]
      · simp [here]
    · rw [List.filter_cons, if_neg passes, ih, get?_cons]
      by_cases here : name = first
      · subst here; simp [passes]
      · simp [here]

/-! ## Order -/

/-- The names ascend, so that each is there once. -/
def Ascending (fields : Fields α) : Prop :=
  fields.Pairwise fun a b => a.1 < b.1

instance (fields : Fields α) : Decidable fields.Ascending :=
  inferInstanceAs (Decidable (List.Pairwise _ fields))

/-- What is in a collection after an insertion. -/
theorem mem_insert {name : String} {thing : α} {fields : Fields α} {field : String × α}
    (h : field ∈ insert name thing fields) : field = (name, thing) ∨ field ∈ fields := by
  induction fields with
  | nil => simpa [insert] using h
  | cons first rest ih =>
    obtain ⟨other, old⟩ := first
    simp only [insert] at h
    split at h
    · rcases List.mem_cons.1 h with here | later
      · exact .inl here
      · exact .inr (List.mem_cons_of_mem _ later)
    · split at h
      · simpa using h
      · rcases List.mem_cons.1 h with here | later
        · exact .inr (here ▸ List.mem_cons_self)
        · exact (ih later).imp_right (List.mem_cons_of_mem _)

/-- An insertion keeps the names ascending. -/
theorem ascending_insert {name : String} {thing : α} {fields : Fields α}
    (h : Ascending fields) : Ascending (insert name thing fields) := by
  induction fields with
  | nil => simp [insert, Ascending]
  | cons first rest ih =>
    obtain ⟨other, old⟩ := first
    obtain ⟨below, ascending⟩ := List.pairwise_cons.1 h
    simp only [insert]
    split
    · next same =>
      exact List.pairwise_cons.2 ⟨fun field mem => same ▸ below field mem, ascending⟩
    · next unlike =>
      split
      · next less =>
        refine List.pairwise_cons.2 ⟨fun field mem => ?_, h⟩
        rcases List.mem_cons.1 mem with here | later
        · exact here ▸ less
        · exact String.lt_trans less (below field later)
      · next notLess =>
        refine List.pairwise_cons.2 ⟨fun field mem => ?_, ih ascending⟩
        rcases mem_insert mem with here | later
        · have greater : other < name := Decidable.byContradiction fun notGreater =>
            unlike (String.le_antisymm (String.not_lt.1 notGreater) (String.not_lt.1 notLess))
          exact here ▸ greater
        · exact below field later

theorem ascending_insertAll {fields : Fields α} (named : List (String × α))
    (h : Ascending fields) : Ascending (insertAll fields named) := by
  induction named generalizing fields with
  | nil => exact h
  | cons field rest ih => exact ih (ascending_insert h)

theorem ascending_ofList (named : List (String × α)) : Ascending (ofList named) :=
  ascending_insertAll named List.Pairwise.nil

theorem Ascending.restrict {fields : Fields α} (h : Ascending fields) (keep : String → Bool) :
    Ascending (fields.restrict keep) :=
  List.Pairwise.filter _ h

/-- Nothing is under a name below all others. -/
theorem get?_of_below {name : String} {fields : Fields α}
    (h : ∀ field ∈ fields, name < field.1) : get? name fields = none := by
  induction fields with
  | nil => rfl
  | cons field rest ih =>
    have unlike : name ≠ field.1 := fun same =>
      String.lt_irrefl name (same ▸ h field List.mem_cons_self)
    rw [get?_cons, if_neg unlike]
    exact ih fun other later => h other (List.mem_cons_of_mem _ later)

/-- After all insertions a name has what it has among the inserted things, and what it had
before if it is not among them. -/
theorem get?_insertAll (name : String) {named : Fields α} (h : Ascending named)
    (fields : Fields α) :
    get? name (insertAll fields named) = (get? name named).or (get? name fields) := by
  induction named generalizing fields with
  | nil => rfl
  | cons field rest ih =>
    obtain ⟨first, thing⟩ := field
    obtain ⟨below, ascending⟩ := List.pairwise_cons.1 h
    show get? name (insertAll (fields.insert first thing) rest) = _
    rw [ih ascending, get?_insert, get?_cons]
    by_cases here : name = first
    · subst here
      simp [get?_of_below below]
    · simp [here]

/-- Nothing is under a name below the first. -/
theorem get?_of_lt {name first : String} {thing : α} {rest : Fields α}
    (h : Ascending ((first, thing) :: rest)) (less : name < first) :
    get? name ((first, thing) :: rest) = none := by
  refine get?_of_below fun field mem => ?_
  rcases List.mem_cons.1 mem with rfl | later
  · exact less
  · exact String.lt_trans less ((List.pairwise_cons.1 h).1 field later)

/-- Each name of a collection in order is there once. -/
theorem Ascending.nodup_names {fields : Fields α} (h : Ascending fields) :
    (fields.map Prod.fst).Nodup := by
  refine List.pairwise_map.2 (List.Pairwise.imp ?_ h)
  rintro a b less same
  exact String.lt_irrefl a.1 (same ▸ less)

/-- What is in a collection in order is under its name. -/
theorem Ascending.get?_of_mem {fields : Fields α} (h : Ascending fields) {field : String × α}
    (mem : field ∈ fields) : get? field.1 fields = some field.2 := by
  induction fields with
  | nil => cases mem
  | cons first rest ih =>
    obtain ⟨below, ascending⟩ := List.pairwise_cons.1 h
    rw [get?_cons]
    rcases List.mem_cons.1 mem with rfl | later
    · rw [if_pos rfl]
    · have unlike : field.1 ≠ first.1 := by
        intro same
        exact String.lt_irrefl first.1 (same ▸ below field later)
      rw [if_neg unlike, ih ascending later]

/-- Two collections in which every name has the same are the same. -/
theorem Ascending.ext {fields others : Fields α} (h : Ascending fields) (h' : Ascending others)
    (same : ∀ name, get? name fields = get? name others) : fields = others := by
  induction fields generalizing others with
  | nil =>
    cases others with
    | nil => rfl
    | cons other rest => simpa [get?_nil, get?_cons other.1 other.1 other.2] using same other.1
  | cons field rest ih =>
    obtain ⟨name, thing⟩ := field
    cases others with
    | nil => simpa [get?_nil, get?_cons] using same name
    | cons other more =>
      obtain ⟨name', thing'⟩ := other
      -- the first name of either collection is not below that of the other
      have first : name = name' := by
        refine String.le_antisymm (String.not_lt.1 fun less => ?_) (String.not_lt.1 fun less => ?_)
        · simpa [get?_cons, get?_of_lt h less] using same name'
        · simpa [get?_cons, get?_of_lt h' less] using same name
      subst first
      obtain ⟨below, ascending⟩ := List.pairwise_cons.1 h
      obtain ⟨below', ascending'⟩ := List.pairwise_cons.1 h'
      have sameThing : thing = thing' := by simpa [get?_cons] using same name
      have sameRest := ih ascending ascending' fun other => by
        by_cases here : other = name
        · rw [here, get?_of_below below, get?_of_below below']
        · simpa [get?_cons, here] using same other
      rw [sameThing, sameRest]

/-! ## Exchanges -/

/-- An exchange leaves the collection as an insertion does. -/
theorem exchange_snd (name : String) (thing : α) (fields : Fields α) :
    (exchange name thing fields).2 = insert name thing fields := by
  induction fields with
  | nil => rfl
  | cons field rest ih =>
    obtain ⟨other, old⟩ := field
    simp only [exchange, insert]
    split
    · rfl
    · split
      · rfl
      · rw [ih]

/-- An exchange gives back what the name had. -/
theorem Ascending.exchange_fst {fields : Fields α} (h : Ascending fields) (name : String)
    (thing : α) : (exchange name thing fields).1 = get? name fields := by
  induction fields with
  | nil => rfl
  | cons field rest ih =>
    obtain ⟨other, old⟩ := field
    simp only [exchange]
    by_cases same : name = other
    · rw [if_pos same, get?_cons, if_pos same]
    · rw [if_neg same]
      by_cases less : name < other
      · rw [if_pos less, get?_of_lt h less]
      · rw [if_neg less, ih (List.pairwise_cons.1 h).2, get?_cons, if_neg same]

/-- Things in order are a collection as they are. -/
theorem Ascending.ofList_eq {fields : Fields α} (h : Ascending fields) :
    ofList fields = fields := by
  refine (ascending_ofList fields).ext h fun name => ?_
  rw [ofList, get?_insertAll name h, get?_nil, Option.or_none]

end Fields

end Formulary
