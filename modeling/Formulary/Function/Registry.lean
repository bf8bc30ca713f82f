import Formulary.Fields
import Formulary.Function.Builtin

/-!
# Registries of functions

A registry holds the functions that formulas can call.  Names are looked up without
regard to the case of the letters A to Z, and of two functions with one name the last
registered counts.  The epoch counts the registrations, so that whoever remembers what
a name meant can tell when that may have changed.
-/

namespace Formulary

/-- The functions that formulas can call. -/
structure Registry where
  /-- The functions, under their names in upper case. -/
  functions : Fields FunctionEntry
  /-- The number of registrations.  It has no bound: that it would start again from zero
  after `2 ^ 64` registrations is left out. -/
  epoch : Nat

namespace Registry

/-- The registry without functions. -/
def empty : Registry := ⟨[], 0⟩

/-- The function under a name. -/
def lookup? (registry : Registry) (name : String) : Option FunctionEntry :=
  registry.functions.get? (Text.upper name)

/-- A function has a name. -/
def contains (registry : Registry) (name : String) : Bool :=
  (registry.lookup? name).isSome

/-- Adds a function, or puts it in the place of the one that had its name. -/
def register (registry : Registry) (entry : FunctionEntry) : Registry where
  functions := registry.functions.insert (Text.upper entry.name) entry
  epoch := registry.epoch + 1

/-- Adds a function of the caller. -/
def registerNative (registry : Registry) (name : String) (function : Native) : Registry :=
  registry.register (.custom name function)

/-- Adds a function, and gives back the one that had its name. -/
def exchange (registry : Registry) (entry : FunctionEntry) : Option FunctionEntry × Registry :=
  let (old, functions) := registry.functions.exchange (Text.upper entry.name) entry
  (old, ⟨functions, registry.epoch + 1⟩)

/-- The registry with the functions of the language, before any registration. -/
def standard (surroundings : Surroundings) : Registry where
  functions :=
    (Builtin.all.map (Builtin.toEntry surroundings)).foldl register empty |>.functions
  epoch := 0

/-- The number of functions. -/
def size (registry : Registry) : Nat :=
  registry.functions.length

/-- The order of the catalog: by category, then by name. -/
def catalogOrder (a b : FunctionDefinition) : Bool :=
  a.category < b.category || (a.category == b.category && a.name ≤ b.name)

/-- The catalog: what is said of the functions that are listed, by category and name. -/
def definitions (registry : Registry) : List FunctionDefinition :=
  (registry.functions.filterMap fun field => field.2.definition).mergeSort catalogOrder

/-- After a registration its name means the new function, and no other name changed. -/
theorem lookup?_register (registry : Registry) (entry : FunctionEntry) (name : String) :
    (registry.register entry).lookup? name =
      if Text.upper name = Text.upper entry.name then some entry else registry.lookup? name :=
  Fields.get?_insert ..

end Registry

end Formulary
