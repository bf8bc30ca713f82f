import Formulary.Number.Binary64

/-!
# Data-exchange values

The values of JSON.  An object is the list of its fields in the order of the text,
a repeated name included, because readers differ in what they make of a repetition:
a record refuses it and a map lets the last one win.
-/

namespace Formulary

/-- A JSON value.  A number without fraction and exponent is an integer if it fits
sixty-four bits, and every other number is binary. -/
inductive Json where
  /-- The null. -/
  | null
  /-- A truth value. -/
  | bool (value : Bool)
  /-- A whole number written without fraction and exponent. -/
  | integer (value : Int)
  /-- Any other number. -/
  | float (value : Binary64)
  /-- A text. -/
  | string (value : String)
  /-- A list of values. -/
  | array (items : List Json)
  /-- Named values, in order. -/
  | object (fields : List (String × Json))

namespace Json

/-- Induction on values: what is to be shown of a list or an object may be used of its parts. -/
@[elab_as_elim]
theorem induct {motive : Json → Prop} (null : motive .null) (bool : ∀ b, motive (.bool b))
    (integer : ∀ n, motive (.integer n)) (float : ∀ x, motive (.float x))
    (string : ∀ s, motive (.string s))
    (array : ∀ items, (∀ item ∈ items, motive item) → motive (.array items))
    (object : ∀ fields, (∀ field ∈ fields, motive field.2) → motive (.object fields))
    (json : Json) : motive json := by
  refine Json.rec (motive_1 := motive) (motive_2 := fun items => ∀ item ∈ items, motive item)
    (motive_3 := fun fields => ∀ field ∈ fields, motive field.2)
    (motive_4 := fun field => motive field.2)
    null bool integer float string array object ?_ ?_ ?_ ?_ ?_ json
  · intro item hitem
    cases hitem
  · intro first rest hfirst hrest
    exact List.forall_mem_cons.2 ⟨hfirst, hrest⟩
  · intro field hfield
    cases hfield
  · intro first rest hfirst hrest
    exact List.forall_mem_cons.2 ⟨hfirst, hrest⟩
  · intro name value hvalue
    exact hvalue

/-! ## Fields -/

/-- The values under a name, in order. -/
def named (name : String) (fields : List (String × Json)) : List Json :=
  (fields.filter fun field => field.1 == name).map Prod.snd

/-- The value under a name that occurs once; none if the name is missing or repeated. -/
def unique? (name : String) (fields : List (String × Json)) : Option Json :=
  match named name fields with
  | [value] => some value
  | _ => none

/-! ## Records and variants

A record is an object that has every wanted field once, whatever else it has, or the
list of just the values of the fields in their order.  A variant is a name alone, or
an object whose one field has that name. -/

/-- The values of the fields of a record. -/
def record? (names : List String) : Json → Option (List Json)
  | .object fields => names.mapM fun name => unique? name fields
  | .array items => if items.length = names.length then some items else none
  | _ => none

/-- The name of a variant, and its content if it has one. -/
def variant? : Json → Option (String × Option Json)
  | .string name => some (name, none)
  | .object [(name, content)] => some (name, some content)
  | _ => none

/-- A content that says nothing: none, null or the empty object. -/
def isVoid : Option Json → Bool
  | none => true
  | some .null => true
  | some (.object []) => true
  | _ => false

/-! ## Depth -/

mutual

/-- The number of levels of a value. -/
def depth : Json → Nat
  | .array items => depthOfItems items + 1
  | .object fields => depthOfFields fields + 1
  | _ => 1

/-- The number of levels of the deepest item. -/
def depthOfItems : List Json → Nat
  | [] => 0
  | item :: rest => max (depth item) (depthOfItems rest)

/-- The number of levels of the deepest field. -/
def depthOfFields : List (String × Json) → Nat
  | [] => 0
  | (_, value) :: rest => max (depth value) (depthOfFields rest)

end

end Json

end Formulary
