import Formulary.Function.Registry

/-!
# The registry of the language

The names in the table of functions are in upper case and all different, so registering one
function after the other loses none.

* `lookup?_standard` — looking a name up in the registry of the language is looking it up in
  the table.
-/

namespace Formulary

/-- A name in either case is looked up as the name that the table has. -/
theorem Builtin.name_of_lookup? {name : String} {builtin : Builtin}
    (h : Builtin.lookup? name = some builtin) : builtin.name = Text.upper name := by
  simpa using List.find?_some h

namespace Registry

/-- Functions with different names are all found after their registration. -/
theorem lookup?_registerAll (surroundings : Surroundings) {builtins : List Builtin}
    (hupper : ∀ b ∈ builtins, Text.upper b.name = b.name)
    (hnames : builtins.Pairwise fun a b => a.name ≠ b.name) (registry : Registry) (name : String) :
    ((builtins.map (Builtin.toEntry surroundings)).foldl register registry).lookup? name =
      match builtins.find? fun b => b.name == Text.upper name with
      | some b => some (b.toEntry surroundings)
      | none => registry.lookup? name := by
  induction builtins generalizing registry with
  | nil => rfl
  | cons b builtins ih =>
    rw [List.pairwise_cons] at hnames
    have hrest := ih (fun a ha => hupper a (List.mem_cons_of_mem _ ha)) hnames.2
      (registry.register (b.toEntry surroundings))
    rw [List.map_cons, List.foldl_cons, hrest, lookup?_register]
    have hname : Text.upper (b.toEntry surroundings).name = b.name := hupper b (by simp)
    rw [hname, List.find?_cons]
    by_cases h : b.name = Text.upper name
    · have hnone : builtins.find? (fun c => c.name == Text.upper name) = none := by
        rw [List.find?_eq_none]
        intro c hc
        have hne := hnames.1 c hc
        rw [h] at hne
        simpa using hne.symm
      simp [h, hnone]
    · have hne : (b.name == Text.upper name) = false := by simpa using h
      rw [hne, if_neg fun heq => h heq.symm]

theorem upper_name {b : Builtin} (h : b ∈ Builtin.all) : Text.upper b.name = b.name := by
  have hall : (Builtin.all.map Builtin.name).all (fun name => Text.upper name == name) = true := by
    decide +kernel
  have hname : b.name ∈ Builtin.all.map Builtin.name := List.mem_map_of_mem h
  exact beq_iff_eq.1 (List.all_eq_true.1 hall _ hname)

theorem pairwise_names : Builtin.all.Pairwise fun a b => a.name ≠ b.name := by
  have hmap : (Builtin.all.map Builtin.name).Pairwise (· ≠ ·) := by decide +kernel
  exact List.pairwise_map.1 hmap

/-- Looking a name up in the registry of the language is looking it up in the table. -/
theorem lookup?_standard (surroundings : Surroundings) (name : String) :
    (standard surroundings).lookup? name =
      (Builtin.lookup? name).map (Builtin.toEntry surroundings) := by
  have hlookup := lookup?_registerAll surroundings (fun b hb => upper_name hb) pairwise_names
    empty name
  have hempty : empty.lookup? name = none := rfl
  have hstandard : (standard surroundings).lookup? name =
      ((Builtin.all.map (Builtin.toEntry surroundings)).foldl register empty).lookup? name := by
    rw [lookup?, lookup?, standard]
  rw [hstandard, hlookup, hempty, Builtin.lookup?]
  cases Builtin.all.find? fun b => b.name == Text.upper name with
  | none => rfl
  | some b => rfl

end Registry

end Formulary
