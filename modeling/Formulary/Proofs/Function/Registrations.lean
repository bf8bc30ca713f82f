import Formulary.Proofs.Function.Standard
import Mathlib

/-!
# Registrations in a row

What a registry holds can be read off the registrations that were made: of each name, in whichever
case, the last one counts.

* `Registration`, `Start`, `afterAll` — what can be registered, what one starts from, and the
  registry after some registrations;
* `lookup?_afterAll` — what a name means then;
* `Keyed` — the functions are in the order of their names in upper case; every registration keeps
  that (`Keyed.register`);
* `last_registration_counts` — the registry after any registrations: its functions, its epoch, its
  size and its catalog.
-/

namespace Formulary

theorem Text.upper_upper (s : String) : Text.upper (Text.upper s) = Text.upper s := by
  simp [Text.upper, Function.comp_def, Char.toUpper_toUpper_eq_toUpper]

/-! ## Histories -/

/-- What can be registered. -/
inductive Registration where
  /-- An entry with everything that is known of a function. -/
  | ofEntry (entry : FunctionEntry)
  /-- A function of the caller under a name. -/
  | ofNative (name : String) (function : Native)

namespace Registration

/-- The name that is registered, as it was given. -/
def name : Registration → String
  | .ofEntry entry => entry.name
  | .ofNative name _ => name

/-- The entry that is registered. -/
def toEntry : Registration → FunctionEntry
  | .ofEntry entry => entry
  | .ofNative name function => .custom name function

/-- A function of the caller gets its name in upper case, and so the same names mean it. -/
theorem upper_toEntry_name (call : Registration) :
    Text.upper call.toEntry.name = Text.upper call.name := by
  cases call with
  | ofEntry entry => rfl
  | ofNative name function => exact Text.upper_upper name

/-- The last of some registrations under a name, in whichever case. -/
def lastUnder (calls : List Registration) (name : String) : Option Registration :=
  calls.reverse.find? fun call => Text.upper call.name == Text.upper name

theorem lastUnder_concat (calls : List Registration) (call : Registration) (name : String) :
    lastUnder (calls ++ [call]) name =
      if Text.upper call.name = Text.upper name then some call else lastUnder calls name := by
  unfold lastUnder
  rw [List.reverse_append, List.reverse_singleton, List.singleton_append, List.find?_cons]
  by_cases here : Text.upper call.name = Text.upper name
  · simp [here]
  · have unlike : (Text.upper call.name == Text.upper name) = false := by simpa using here
    simp [here, unlike]

end Registration

namespace Registry

/-- A registry that nothing was registered in yet. -/
inductive Start where
  /-- With the functions of the language. -/
  | new (surroundings : Surroundings)
  /-- Without functions. -/
  | empty

namespace Start

/-- The registry. -/
def registry : Start → Registry
  | .new surroundings => .standard surroundings
  | .empty => .empty

/-- The function of the language with a name, if there are such. -/
def lookup? : Start → String → Option FunctionEntry
  | .new surroundings, name => (Builtin.lookup? name).map (Builtin.toEntry surroundings)
  | .empty, _ => none

end Start

/-- The registry after some registrations. -/
def afterAll (registry : Registry) (calls : List Registration) : Registry :=
  calls.foldl (fun registry call => (registry.exchange call.toEntry).2) registry

/-! ## Names -/

variable {registry : Registry}

/-- An exchange leaves the registry as a registration does. -/
theorem exchange_snd (registry : Registry) (entry : FunctionEntry) :
    (registry.exchange entry).2 = registry.register entry := by
  simp only [exchange, register, Fields.exchange_snd]

theorem afterAll_concat (registry : Registry) (calls : List Registration) (call : Registration) :
    registry.afterAll (calls ++ [call]) = (registry.afterAll calls).register call.toEntry := by
  rw [afterAll, List.foldl_concat, ← afterAll, exchange_snd]

theorem lookup?_start (start : Start) (name : String) :
    start.registry.lookup? name = start.lookup? name := by
  cases start with
  | new surroundings => exact lookup?_standard surroundings name
  | empty => rfl

/-- **The last registration of a name counts**, and without one what the registry began with. -/
theorem lookup?_afterAll (registry : Registry) (calls : List Registration) (name : String) :
    (registry.afterAll calls).lookup? name =
      ((Registration.lastUnder calls name).map Registration.toEntry).or
        (registry.lookup? name) := by
  induction calls using List.reverseRecOn with
  | nil => rfl
  | append_singleton calls call ih =>
    rw [afterAll_concat, lookup?_register, call.upper_toEntry_name, ih, Registration.lastUnder_concat]
    by_cases here : Text.upper call.name = Text.upper name
    · simp [here]
    · simp [here, Ne.symm here]

theorem epoch_afterAll (registry : Registry) (calls : List Registration) :
    (registry.afterAll calls).epoch = registry.epoch + calls.length := by
  induction calls using List.reverseRecOn with
  | nil => rfl
  | append_singleton calls call ih =>
    rw [afterAll_concat, register, ih, List.length_append, List.length_singleton, Nat.add_assoc]

/-! ## Functions in order -/

/-- The functions are in the order of their names, which are in upper case. -/
structure Keyed (registry : Registry) : Prop where
  ascending : registry.functions.Ascending
  upper : ∀ field ∈ registry.functions, Text.upper field.1 = field.1

namespace Keyed

theorem register (h : registry.Keyed) (entry : FunctionEntry) :
    (registry.register entry).Keyed where
  ascending := Fields.ascending_insert h.ascending
  upper := by
    intro field mem
    rcases Fields.mem_insert mem with rfl | old
    · exact Text.upper_upper entry.name
    · exact h.upper field old

theorem registerAll (h : registry.Keyed) (entries : List FunctionEntry) :
    (entries.foldl Registry.register registry).Keyed := by
  induction entries generalizing registry with
  | nil => exact h
  | cons entry rest ih => exact ih (h.register entry)

/-- The epoch plays no part. -/
theorem setEpoch (h : registry.Keyed) (epoch : Nat) : Keyed ⟨registry.functions, epoch⟩ :=
  ⟨h.ascending, h.upper⟩

theorem start (start : Start) : start.registry.Keyed := by
  have hempty : Registry.empty.Keyed := by
    refine ⟨List.Pairwise.nil, ?_⟩
    intro field mem
    cases mem
  cases start with
  | new surroundings =>
    rw [Start.registry, standard]
    exact (hempty.registerAll _).setEpoch 0
  | empty => exact hempty

theorem afterAll (h : registry.Keyed) (calls : List Registration) :
    (registry.afterAll calls).Keyed := by
  induction calls using List.reverseRecOn with
  | nil => exact h
  | append_singleton calls call ih =>
    rw [afterAll_concat]
    exact ih.register call.toEntry

/-- A registration gives back what its name meant. -/
theorem exchange_fst (h : registry.Keyed) (call : Registration) :
    (registry.exchange call.toEntry).1 = registry.lookup? call.name := by
  rw [lookup?, ← call.upper_toEntry_name, ← h.ascending.exchange_fst _ call.toEntry]
  rfl

/-- The names in upper case under which a registry holds functions. -/
theorem mem_names_iff (h : registry.Keyed) {key : String} :
    key ∈ registry.functions.map Prod.fst ↔
      ∃ name, Text.upper name = key ∧ registry.contains name = true := by
  constructor
  · intro mem
    obtain ⟨field, hfield, rfl⟩ := List.mem_map.1 mem
    refine ⟨field.1, h.upper field hfield, ?_⟩
    rw [contains, lookup?, h.upper field hfield, Fields.isSome_get?_iff]
    exact mem
  · rintro ⟨name, rfl, hcontains⟩
    exact Fields.isSome_get?_iff.1 hcontains

end Keyed

/-! ## The catalog -/

theorem catalogOrder_iff {a b : FunctionDefinition} :
    catalogOrder a b = true ↔
      a.category < b.category ∨ a.category = b.category ∧ a.name ≤ b.name := by
  simp only [catalogOrder, Bool.or_eq_true, Bool.and_eq_true, decide_eq_true_eq, beq_iff_eq]

theorem catalogOrder_trans (a b c : FunctionDefinition) (hab : catalogOrder a b = true)
    (hbc : catalogOrder b c = true) : catalogOrder a c = true := by
  rw [catalogOrder_iff] at hab hbc ⊢
  rcases hab with hab | ⟨hab, hnames⟩
  · rcases hbc with hbc | ⟨hbc, -⟩
    · exact .inl (String.lt_trans hab hbc)
    · exact .inl (hbc ▸ hab)
  · rw [hab]
    exact hbc.imp_right (And.imp_right (String.le_trans hnames))

theorem catalogOrder_total (a b : FunctionDefinition) :
    (catalogOrder a b || catalogOrder b a) = true := by
  rw [Bool.or_eq_true, catalogOrder_iff, catalogOrder_iff]
  rcases lt_trichotomy a.category b.category with hless | hsame | hgreater
  · exact .inl (.inl hless)
  · rcases String.le_total a.name b.name with hle | hle
    · exact .inl (.inr ⟨hsame, hle⟩)
    · exact .inr (.inr ⟨hsame.symm, hle⟩)
  · exact .inr (.inl hgreater)

/-- The catalog is in the order of categories, and of names in each of them. -/
theorem pairwise_definitions (registry : Registry) :
    registry.definitions.Pairwise fun a b =>
      a.category < b.category ∨ a.category = b.category ∧ a.name ≤ b.name :=
  (List.pairwise_mergeSort catalogOrder_trans catalogOrder_total _).imp catalogOrder_iff.1

/-- The catalog has what is known of each function, and nothing else. -/
theorem Keyed.definitions_perm (h : registry.Keyed) :
    registry.definitions.Perm ((registry.functions.map Prod.fst).filterMap fun key =>
      (registry.lookup? key).bind FunctionEntry.definition) := by
  have hlookup : ∀ field ∈ registry.functions,
      (registry.lookup? field.1).bind FunctionEntry.definition = field.2.definition := by
    intro field mem
    rw [lookup?, h.upper field mem, h.ascending.get?_of_mem mem]
    rfl
  have hlisted : (registry.functions.map Prod.fst).filterMap (fun key =>
      (registry.lookup? key).bind FunctionEntry.definition) =
        registry.functions.filterMap fun field => field.2.definition := by
    rw [List.filterMap_map]
    exact List.filterMap_congr hlookup
  rw [hlisted]
  exact List.mergeSort_perm _ _

/-- **The last registration counts.**  Whatever was registered, a name means, in whichever case,
what was last registered under it, and otherwise what it meant at the start.  A registration gives
back what its name meant before, and the epoch counts the registrations.  The size is the number of
names in upper case that mean something; the catalog has one item for each of these whose function
is listed, in the order of categories and names. -/
theorem last_registration_counts (start : Start) (calls : List Registration) :
    let registry := start.registry.afterAll calls
    (∀ name, registry.lookup? name =
      ((Registration.lastUnder calls name).map Registration.toEntry).or (start.lookup? name)) ∧
    (∀ call : Registration, (registry.exchange call.toEntry).1 = registry.lookup? call.name) ∧
    registry.epoch = calls.length ∧
    (∃ names : List String, names.Nodup ∧
      (∀ key, key ∈ names ↔ ∃ name, Text.upper name = key ∧ registry.contains name = true) ∧
      registry.size = names.length ∧
      registry.definitions.Perm (names.filterMap fun key =>
        (registry.lookup? key).bind FunctionEntry.definition)) ∧
    registry.definitions.Pairwise fun a b =>
      a.category < b.category ∨ a.category = b.category ∧ a.name ≤ b.name := by
  intro registry
  have hkeyed : registry.Keyed := (Keyed.start start).afterAll calls
  refine ⟨fun name => ?_, hkeyed.exchange_fst, ?_,
    ⟨registry.functions.map Prod.fst, hkeyed.ascending.nodup_names, fun key => hkeyed.mem_names_iff,
      ?_, hkeyed.definitions_perm⟩, registry.pairwise_definitions⟩
  · rw [lookup?_afterAll, lookup?_start]
  · rw [epoch_afterAll]
    cases start <;> exact Nat.zero_add _
  · rw [size, List.length_map]

end Registry

end Formulary
