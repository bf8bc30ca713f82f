import Formulary.Expr.Json
import Formulary.Proofs.Digest.Collision
import Formulary.Proofs.Expr.Parts
import Formulary.Proofs.Json.RoundTrip

/-!
# Formulas in data exchange

A tree is found again in its data-exchange form, and so in its canonical text.

* `ofJson?_toJson` — reading undoes writing, for every tree;
* `readable_toJson` — the form can be written as text and read again if the binary numbers in the
  tree can;
* `canonicalText_unique` — so trees are told apart by their canonical texts.
-/

namespace Formulary

/-! ## Levels of forms -/

/-- Every form has a level. -/
theorem Json.exists_of_depth_le {json : Json} {n : Nat} (h : json.depth ≤ n) : ∃ m, n = m + 1 := by
  have hpos : 0 < json.depth := by
    cases json with
    | array items => exact Nat.succ_pos _
    | object fields => exact Nat.succ_pos _
    | _ => exact Nat.one_pos
  exact ⟨n - 1, by omega⟩

theorem Json.depthOfItems_le_iff {items : List Json} {n : Nat} :
    depthOfItems items ≤ n ↔ ∀ item ∈ items, item.depth ≤ n := by
  induction items with
  | nil => simp [depthOfItems]
  | cons item items ih => rw [depthOfItems, Nat.max_le, ih, List.forall_mem_cons]

/-- Things that are found again one by one are found again all together. -/
theorem mapM_map_eq_some {α β : Type} {write : α → β} {read? : β → Option α} {things : List α}
    (h : ∀ thing ∈ things, read? (write thing) = some thing) :
    (things.map write).mapM read? = some things := by
  induction things with
  | nil => rfl
  | cons thing things ih =>
    obtain ⟨hthing, hthings⟩ := List.forall_mem_cons.1 h
    simp [hthing, ih hthings]

/-! ## Literals, paths and operators -/

theorem Literal.ofJson?_toJson (value : Literal) : Literal.ofJson? value.toJson = some value := by
  cases value with
  | null => rfl
  | bool b => rfl
  | int n =>
    show (Integer.ofInt? n.toInt).map Literal.int = _
    rw [Integer.ofInt?_toInt, Option.map_some]
  | float x => rfl
  | string s => rfl

theorem Path.ofJson?_toJson (path : Path) : Path.ofJson? path.toJson = some path := by
  show ((path.segments.map Json.string).mapM Json.string?).map Path.mk = _
  have hsegments : (path.segments.map Json.string).mapM Json.string? = some path.segments :=
    mapM_map_eq_some fun _ _ => rfl
  rw [hsegments, Option.map_some]

theorem Literal.readable_toJson {value : Literal}
    (h : ∀ x, value = .float x → Json.Number.ReadsBack x) : value.toJson.Readable := by
  cases value with
  | null => exact .string _
  | bool b => exact .object (by simpa using .bool b)
  | int n =>
    have hlow := n.le_toInt
    have hhigh := n.toInt_lt
    have hn : Json.Readable (.integer n.toInt) := .integer (by omega) (by omega)
    exact .object (by simpa using hn)
  | float x => exact .object (by simpa using .float (h x rfl))
  | string s => exact .object (by simpa using .string s)

theorem Path.readable_toJson (path : Path) : path.toJson.Readable := by
  have hsegments : ∀ item ∈ path.segments.map Json.string, item.Readable := by
    intro item hitem
    obtain ⟨segment, -, rfl⟩ := List.mem_map.1 hitem
    exact .string segment
  exact .object (by simpa using .array hsegments)

theorem BinaryOp.ofJson?_name (op : BinaryOp) : BinaryOp.ofJson? (.string op.name) = some op :=
  ofName?_name op

namespace Expr

/-! ## Trees -/

theorem toJsons_eq_map (args : List Expr) : toJsons args = args.map toJson := by
  induction args with
  | nil => rfl
  | cons arg args ih => rw [toJsons, ih, List.map_cons]

/-- A tree is found again by a reader that goes down far enough. -/
theorem read?_toJson (expr : Expr) {depth : Nat} (top : Bool) (h : expr.toJson.depth ≤ depth) :
    read? depth top expr.toJson = some expr := by
  induction expr using Expr.induct generalizing depth top with
  | literal value =>
    obtain ⟨depth, rfl⟩ := Json.exists_of_depth_le h
    show (Literal.ofJson? value.toJson).map Expr.literal = _
    rw [Literal.ofJson?_toJson, Option.map_some]
  | identifier path =>
    obtain ⟨depth, rfl⟩ := Json.exists_of_depth_le h
    show (Path.ofJson? path.toJson).map Expr.identifier = _
    rw [Path.ofJson?_toJson, Option.map_some]
  | neg operand ih =>
    obtain ⟨depth, rfl⟩ := Json.exists_of_depth_le h
    show (read? depth false operand.toJson).map Expr.neg = _
    simp only [toJson, Json.depth, Json.depthOfFields] at h
    rw [ih false (by omega), Option.map_some]
  | binary op left right ihl ihr =>
    obtain ⟨depth, rfl⟩ := Json.exists_of_depth_le h
    show (do
      let op ← BinaryOp.ofJson? (.string op.name)
      let left ← read? depth false left.toJson
      let right ← read? depth false right.toJson
      return Expr.binary op left right) = _
    simp only [toJson, Json.depth, Json.depthOfFields] at h
    rw [BinaryOp.ofJson?_name, ihl false (by omega), ihr false (by omega)]
    rfl
  | call name args ih =>
    obtain ⟨depth, rfl⟩ := Json.exists_of_depth_le h
    show ((toJsons args).mapM fun arg => read? depth false arg).map (Expr.call name) = _
    simp only [toJson, Json.depth, Json.depthOfFields] at h
    have hlevels := Json.depthOfItems_le_iff.1 (show Json.depthOfItems (toJsons args) ≤ depth by omega)
    rw [toJsons_eq_map] at hlevels ⊢
    rw [mapM_map_eq_some fun arg harg =>
      ih arg harg false (hlevels _ (List.mem_map_of_mem harg)), Option.map_some]

/-- Reading undoes writing. -/
theorem ofJson?_toJson (expr : Expr) : ofJson? expr.toJson = some expr :=
  read?_toJson expr true (Nat.le_refl _)

theorem toJson_injective {left right : Expr} (h : left.toJson = right.toJson) : left = right := by
  have hleft := ofJson?_toJson left
  rw [h, ofJson?_toJson right] at hleft
  exact (Option.some.inj hleft).symm

/-! ## Canonical texts -/

/-- The binary numbers in a tree are neither infinite nor NaN. -/
def FloatsFinite (expr : Expr) : Prop :=
  ∀ x, .literal (.float x) ∈ expr.parts → x.isFinite = true

/-- The binary numbers in a tree are read back from their texts if they are finite. -/
def FloatsReadBack (expr : Expr) : Prop :=
  ∀ x, .literal (.float x) ∈ expr.parts → x.isFinite = true → Json.Number.ReadsBack x

/-- A tree can be written and read again if its binary numbers can. -/
theorem readable_toJson (expr : Expr)
    (h : ∀ x, .literal (.float x) ∈ expr.parts → Json.Number.ReadsBack x) :
    expr.toJson.Readable := by
  induction expr using Expr.induct with
  | literal value =>
    have hvalue : value.toJson.Readable := Literal.readable_toJson fun x hx => by
      subst hx
      exact h x (self_mem_parts _)
    apply Json.Readable.object
    simp only [List.forall_mem_cons]
    exact ⟨.string _, hvalue, by simp⟩
  | identifier path =>
    apply Json.Readable.object
    simp only [List.forall_mem_cons]
    exact ⟨.string _, path.readable_toJson, by simp⟩
  | neg operand ih =>
    have hoperand := ih fun x hx => h x (mem_parts_neg.2 (.inr hx))
    apply Json.Readable.object
    simp only [List.forall_mem_cons]
    exact ⟨.string _, .string _, hoperand, by simp⟩
  | binary op left right ihl ihr =>
    have hleft := ihl fun x hx => h x (mem_parts_binary.2 (.inr (.inl hx)))
    have hright := ihr fun x hx => h x (mem_parts_binary.2 (.inr (.inr hx)))
    apply Json.Readable.object
    simp only [List.forall_mem_cons]
    exact ⟨.string _, .string _, hleft, hright, by simp⟩
  | call name args ih =>
    have hargs : ∀ arg ∈ args, arg.toJson.Readable := fun arg harg =>
      ih arg harg fun x hx => h x (mem_parts_call.2 (.inr ⟨arg, harg, hx⟩))
    apply Json.Readable.object
    simp only [List.forall_mem_cons, toJsons_eq_map]
    refine ⟨.string _, .string _, .array ?_, by simp⟩
    simpa using hargs

/-- The canonical text of a tree is read as the tree. -/
theorem ofJsonText?_canonicalText {expr : Expr} (h : expr.toJson.Readable)
    (hnesting : expr.toJson.nesting < Json.depthLimit) :
    ofJsonText? expr.canonicalText = some expr := by
  rw [ofJsonText?, canonicalText, Json.parse?_compact h hnesting, Option.bind_some, ofJson?_toJson]

/-- **Trees are told apart by their canonical texts.**  Take a tree whose binary numbers are finite
and read back.  If lists and objects do not stand too deep in each other in its form, then it is
found again in its canonical text.  However deep they stand, another such tree has another text, so
trees with one fingerprint are a collision of the digest. -/
theorem canonicalText_unique (expr : Expr) (finite : expr.FloatsFinite)
    (reads : expr.FloatsReadBack) :
    (expr.toJson.nesting < Json.depthLimit → ofJsonText? expr.canonicalText = some expr) ∧
    ∀ other : Expr, other.FloatsFinite → other.FloatsReadBack → other ≠ expr →
      other.canonicalText ≠ expr.canonicalText ∧
      (other.fingerprint = expr.fingerprint →
        Sha256.Collision other.canonicalText expr.canonicalText) := by
  have hexpr := readable_toJson expr fun x hx => reads x hx (finite x hx)
  refine ⟨ofJsonText?_canonicalText hexpr, ?_⟩
  intro other hfinite hreads hne
  have hother := readable_toJson other fun x hx => hreads x hx (hfinite x hx)
  have htexts : other.canonicalText ≠ expr.canonicalText := by
    intro htext
    exact hne (toJson_injective (Json.eq_of_compact_eq hother hexpr htext))
  exact ⟨htexts, Sha256.collision_of_hexDigest_eq htexts⟩

/-- A call with the least integer, a negative zero and quotes, a line end and a control character
in a text; a tree that differs in the sign of the zero has another text. -/
theorem canonicalText_unique_zero :
    let tree (zero : Binary64) : Expr := .neg (.call "f" [
      .binary .sub (.identifier ⟨["record", "Amount"]⟩) (.literal (.int Int64.minValue)),
      .literal (.float zero), .literal (.float Binary64.half),
      .literal (.string "\"a\\b\"\n\x01é"), .literal .null])
    let expr := tree (Binary64.zero true)
    let other := tree (Binary64.zero false)
    expr.FloatsFinite ∧ expr.FloatsReadBack ∧ other.FloatsFinite ∧ other.FloatsReadBack ∧
      ofJsonText? expr.canonicalText = some expr ∧ other.canonicalText ≠ expr.canonicalText := by
  intro tree expr other
  have hfloats : ∀ negative x, .literal (.float x) ∈ (tree (Binary64.zero negative)).parts →
      x.isFinite = true ∧ Json.Number.ReadsBack x := by
    intro negative x hx
    have hcases : x = Binary64.zero negative ∨ x = Binary64.half := by simpa [tree] using hx
    rcases hcases with hx | hx
    · rw [hx]
      cases negative with
      | false => decide +kernel
      | true => decide +kernel
    · rw [hx]
      decide +kernel
  have hne : other ≠ expr := by
    simp only [other, expr, tree, ne_eq, Expr.neg.injEq, Expr.call.injEq]
    decide +kernel
  have hfinite : ∀ negative, (tree (Binary64.zero negative)).FloatsFinite :=
    fun negative x hx => (hfloats negative x hx).1
  have hreads : ∀ negative, (tree (Binary64.zero negative)).FloatsReadBack :=
    fun negative x hx _ => (hfloats negative x hx).2
  obtain ⟨hfound, hunique⟩ := canonicalText_unique expr (hfinite true) (hreads true)
  refine ⟨hfinite true, hreads true, hfinite false, hreads false, hfound (by decide), ?_⟩
  exact (hunique other (hfinite false) (hreads false) hne).1

end Expr

end Formulary
