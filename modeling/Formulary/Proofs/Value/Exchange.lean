import Formulary.Proofs.Json.RoundTrip
import Formulary.Proofs.Program.Finite
import Formulary.Value.Json

/-!
# Values in data exchange

A value is found again in its data-exchange text, kind and all, whether the reader goes by the
marks of the text or tries one kind after the other.

* `byTrial?_eq` — the two readers agree on every form, and so on every text;
* `ofJson_toJson` — reading undoes writing, for values whose maps are in order;
* `jsonText_roundtrip` — the same for texts.
-/

namespace Formulary.Value

/-! ## The two readers -/

theorem ofJsonItems_eq_map (items : List Json) : ofJsonItems items = items.map ofJson := by
  induction items with
  | nil => rfl
  | cons item items ih => rw [ofJsonItems, ih, List.map_cons]

theorem ofJsonFields_eq_map (fields : List (String × Json)) :
    ofJsonFields fields = fields.map fun field => (field.1, ofJson field.2) := by
  induction fields with
  | nil => rfl
  | cons field fields ih => rw [ofJsonFields, ih, List.map_cons]

theorem itemsByTrial?_eq {items : List Json} (h : ∀ item ∈ items, byTrial? item = some (ofJson item)) :
    itemsByTrial? items = some (ofJsonItems items) := by
  induction items with
  | nil => rfl
  | cons item items ih =>
    obtain ⟨hitem, hitems⟩ := List.forall_mem_cons.1 h
    rw [itemsByTrial?, hitem, ih hitems]
    rfl

theorem fieldsByTrial?_eq {fields : List (String × Json)}
    (h : ∀ field ∈ fields, byTrial? field.2 = some (ofJson field.2)) :
    fieldsByTrial? fields = some (ofJsonFields fields) := by
  induction fields with
  | nil => rfl
  | cons field fields ih =>
    obtain ⟨name, value⟩ := field
    obtain ⟨hvalue, hvalues⟩ := List.forall_mem_cons.1 h
    rw [fieldsByTrial?, hvalue, ih hvalues]
    rfl

/-- The first kind that can be made of a form is the one that its mark tells. -/
theorem byTrial?_eq (json : Json) : byTrial? json = some (ofJson json) := by
  induction json using Json.induct with
  | null => rfl
  | bool b => rfl
  | integer n =>
    show (ScalarKind.all.findSome? fun kind => kind.read? (.integer n)) = _
    rw [ofJson]
    cases hn : Integer.ofInt? n with
    | none => simp [ScalarKind.all, ScalarKind.read?, hn]
    | some i => simp [ScalarKind.all, ScalarKind.read?, hn]
  | float x => rfl
  | string s => rfl
  | array items ih =>
    show (itemsByTrial? items).map Value.list = _
    rw [itemsByTrial?_eq ih, Option.map_some, ofJson]
  | object fields ih =>
    show (fieldsByTrial? fields).map (fun fields => Value.map (Fields.ofList fields)) = _
    rw [fieldsByTrial?_eq ih, Option.map_some, ofJson]

/-- So they agree on every text. -/
theorem ofTextByTrial?_eq (text : String) : ofTextByTrial? text = ofJsonText? text := by
  unfold ofTextByTrial? ofJsonText?
  cases Json.parse? text with
  | none => rfl
  | some json => exact byTrial?_eq json

/-! ## Values in order -/

/-- Every map in a value has its names in order, each once. -/
inductive Ordered : Value → Prop
  | null : Ordered .null
  | bool (b : Bool) : Ordered (.bool b)
  | int (n : Int64) : Ordered (.int n)
  | float (x : Binary64) : Ordered (.float x)
  | string (s : String) : Ordered (.string s)
  | list {items : List Value} : (∀ item ∈ items, Ordered item) → Ordered (.list items)
  | map {fields : Fields Value} : fields.Ascending → (∀ field ∈ fields, Ordered field.2) →
      Ordered (.map fields)

theorem ordered_list_iff {items : List Value} :
    Ordered (.list items) ↔ ∀ item ∈ items, item.Ordered :=
  ⟨fun | .list h => h, .list⟩

theorem ordered_map_iff {fields : Fields Value} :
    Ordered (.map fields) ↔ fields.Ascending ∧ ∀ field ∈ fields, field.2.Ordered :=
  ⟨fun | .map hascending h => ⟨hascending, h⟩, fun ⟨hascending, h⟩ => .map hascending h⟩

theorem toJsonItems_eq_map (items : List Value) : toJsonItems items = items.map toJson := by
  induction items with
  | nil => rfl
  | cons item items ih => rw [toJsonItems, ih, List.map_cons]

theorem toJsonFields_eq_map (fields : List (String × Value)) :
    toJsonFields fields = fields.map fun field => (field.1, toJson field.2) := by
  induction fields with
  | nil => rfl
  | cons field fields ih => rw [toJsonFields, ih, List.map_cons]

/-- Reading undoes writing. -/
theorem ofJson_toJson {value : Value} (h : value.Ordered) : ofJson value.toJson = value := by
  induction h with
  | null => rfl
  | bool b => rfl
  | int n =>
    rw [toJson, ofJson, Integer.ofInt?_toInt]
  | float x => rfl
  | string s => rfl
  | @list items _ ih =>
    have hitems : ofJsonItems (toJsonItems items) = items := by
      rw [ofJsonItems_eq_map, toJsonItems_eq_map, List.map_map]
      exact (List.map_congr_left ih).trans (List.map_id' items)
    rw [toJson, ofJson, hitems]
  | @map fields hascending _ ih =>
    have hfields : ofJsonFields (toJsonFields fields) = fields := by
      rw [ofJsonFields_eq_map, toJsonFields_eq_map, List.map_map]
      refine (List.map_congr_left fun field hfield => ?_).trans (List.map_id' fields)
      exact Prod.ext rfl (ih field hfield)
    rw [toJson, ofJson, hfields, hascending.ofList_eq]

/-! ## Texts -/

theorem floats_subset_items {items : List Value} {item : Value} (h : item ∈ items) :
    item.floats ⊆ floatsOfItems items := by
  induction items with
  | nil => cases h
  | cons first rest ih =>
    rw [floatsOfItems]
    rcases List.mem_cons.1 h with rfl | hlater
    · exact List.subset_append_left _ _
    · exact List.Subset.trans (ih hlater) (List.subset_append_right _ _)

/-- A value can be written and read again if its binary numbers can. -/
theorem readable_toJson {value : Value} (h : value.Ordered)
    (hfloats : ∀ x ∈ value.floats, Json.Number.ReadsBack x) : value.toJson.Readable := by
  induction h with
  | null => exact .null
  | bool b => exact .bool b
  | int n =>
    have hlow := n.le_toInt
    have hhigh := n.toInt_lt
    exact .integer (by omega) (by omega)
  | float x => exact .float (hfloats x List.mem_cons_self)
  | string s => exact .string s
  | @list items _ ih =>
    rw [toJson, toJsonItems_eq_map]
    refine .array fun json hjson => ?_
    obtain ⟨item, hitem, rfl⟩ := List.mem_map.1 hjson
    exact ih item hitem fun x hx => hfloats x (floats_subset_items hitem hx)
  | @map fields _ _ ih =>
    rw [toJson, toJsonFields_eq_map]
    refine .object fun json hjson => ?_
    obtain ⟨field, hfield, rfl⟩ := List.mem_map.1 hjson
    exact ih field hfield fun x hx => hfloats x (floats_subset_fields hfield hx)

/-- **A value is found again in its text.**  Take a value whose maps are in order and whose binary
numbers are finite and read back, with no more levels than the reader allows.  Both readers find
the same value in its text: an integer is an integer, a whole binary number a binary one, and no
item and no field is lost, added or changed. -/
theorem jsonText_roundtrip (value : Value) (ordered : value.Ordered)
    (finite : ∀ x ∈ value.floats, x.isFinite = true)
    (reads : ∀ x ∈ value.floats, x.isFinite = true → Json.Number.ReadsBack x)
    (nesting : value.toJson.nesting < Json.depthLimit) :
    ofJsonText? value.jsonText = some value ∧ ofTextByTrial? value.jsonText = some value := by
  have hreadable := readable_toJson ordered fun x hx => reads x hx (finite x hx)
  have hfound : ofJsonText? value.jsonText = some value := by
    rw [ofJsonText?, jsonText, Json.parse?_compact hreadable nesting, Option.map_some,
      ofJson_toJson ordered]
  exact ⟨hfound, by rw [ofTextByTrial?_eq, hfound]⟩

/-- Numbers of both kinds at their edges, a text that looks like a number, and names that have to
be quoted. -/
theorem jsonText_roundtrip_record :
    let two := Binary64.ofDecimal false 2 0
    let value : Value := .map [
      ("\"\n\"", .list [.int Int64.minValue, .int 2, .float two, .float (Binary64.zero true)]),
      ("rate", .string "2.0"), ("rest", .list [.map [], .null, .bool true])]
    value.Ordered ∧ (∀ x ∈ value.floats, x.isFinite = true ∧ Json.Number.ReadsBack x) ∧
      ofJsonText? value.jsonText = some value ∧ ofTextByTrial? value.jsonText = some value := by
  intro two value
  have hordered : value.Ordered := by
    simp only [value, ordered_map_iff, ordered_list_iff, List.forall_mem_cons, Ordered.null,
      Ordered.bool, Ordered.int, Ordered.float, Ordered.string, List.not_mem_nil, false_implies,
      implies_true, and_true, true_and]
    decide
  have hfloats : ∀ x ∈ value.floats, x.isFinite = true ∧ Json.Number.ReadsBack x := by
    intro x hx
    have hcases : x = two ∨ x = Binary64.zero true := by
      simpa [value, floats, floatsOfItems, floatsOfFields] using hx
    rcases hcases with hx | hx
    · rw [hx]
      decide +kernel
    · rw [hx]
      decide +kernel
  have hfound := jsonText_roundtrip value hordered (fun x hx => (hfloats x hx).1)
    (fun x hx _ => (hfloats x hx).2) (by decide)
  exact ⟨hordered, hfloats, hfound⟩

end Formulary.Value
