import Formulary.Program.Eval
import Formulary.Value.Json

/-!
# Contexts of records

Formulas on a record see its fields, the fields as they were before a change, the user,
the environment and further fields.  Fields that are not visible are left out before a
formula sees anything.
-/

namespace Formulary

/-- What formulas on a record are told. -/
structure RecordContext where
  /-- The record. -/
  record : Option (Fields Value)
  /-- The record before a change. -/
  prior : Option (Fields Value)
  /-- The user. -/
  user : Option (Fields Value)
  /-- The environment. -/
  env : Option (Fields Value)
  /-- Further fields. -/
  fields : Fields Value
  /-- The fields that may be seen. -/
  visible : String → Bool

namespace RecordContext

/-- The context that tells nothing. -/
def empty : RecordContext := ⟨none, none, none, none, [], fun _ => true⟩

/-- The context with one more field. -/
def withField (context : RecordContext) (name : String) (value : Value) : RecordContext :=
  { context with fields := context.fields.insert name value }

/-! ## What a formula sees -/

/-- The visible fields of a record, under their own names and together as `record`. -/
def addRecord (visible : String → Bool) : Option (Fields Value) → Context → Context
  | none, context => context
  | some record, context =>
    let record := record.restrict visible
    (context.insertAll record).insert "record" (.map record)

/-- A section under its name, if there is one. -/
def addSection (name : String) : Option (Fields Value) → Context → Context
  | none, context => context
  | some fields, context => context.insert name (.map fields)

/-- The context that a formula sees.  Later additions take the place of earlier ones. -/
def flatten (context : RecordContext) : Context :=
  Fields.insertAll
    (addSection "env" context.env
      (addSection "user" context.user
        (addSection "prior" context.prior
          (addRecord context.visible context.record []))))
    (context.fields.restrict context.visible)

/-! ## Reading -/

/-- A section of a data-exchange form: a map, or null for none. -/
def section? (name : String) (fields : Fields Value) : Option (Option (Fields Value)) :=
  match fields.get? name with
  | none => some none
  | some .null => some none
  | some (.map fields) => some (some fields)
  | some _ => none

/-- The names of the sections. -/
def sections : List String := ["record", "prior", "user", "env"]

/-- The context that a value writes: a map with the sections under their names.  All
other names are further fields. -/
def ofValue? : Value → Option RecordContext
  | .map fields => do
    let record ← section? "record" fields
    let prior ← section? "prior" fields
    let user ← section? "user" fields
    let env ← section? "env" fields
    return ⟨record, prior, user, env, Fields.restrict (fun name => !sections.contains name) fields,
      fun _ => true⟩
  | _ => none

end RecordContext

end Formulary
