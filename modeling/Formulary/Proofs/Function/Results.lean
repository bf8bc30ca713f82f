import Formulary.Digest.Bcrypt
import Formulary.Function.Builtin
import Formulary.Proofs.Number.Texts

/-!
# Results that are no numbers

The functions whose results are texts or truth values.  Dates and hashes never write a number,
and a truth value is none; only a change of case keeps whatever number its text writes.

* `Surroundings.Usual` — what comes from outside has the form of dates and hashes;
* `number?_of_gives` — the number that a text or a truth value of a function counts as.
-/

namespace Formulary

/-! ## Surroundings -/

/-- The date and the time of day start with a date, and a hash with the mark of its kind. -/
structure Surroundings.Usual (surroundings : Surroundings) : Prop where
  today : ∃ date : Date, surroundings.today = date.text
  now : ∃ (date : Date) (time : String), surroundings.now = date.text ++ time
  hashPassword : ∀ password, ∃ rest, surroundings.hashPassword password = "$2b$" ++ rest

/-- A machine has usual surroundings. -/
theorem Surroundings.usual_machine (date : Date) (time : String) (cost : Nat)
    (salt : Array UInt8) :
    Usual ⟨date.text, date.text ++ " " ++ time, Bcrypt.hash cost salt⟩ where
  today := ⟨date, rfl⟩
  now := ⟨date, " " ++ time, by rw [String.append_assoc]⟩
  hashPassword password := by
    simp only [Bcrypt.hash, String.append_assoc]
    exact ⟨_, rfl⟩

/-- The date of today is no number. -/
theorem Surroundings.Usual.ofText?_today {surroundings : Surroundings}
    (usual : surroundings.Usual) : Number.ofText? surroundings.today = none := by
  obtain ⟨date, htoday⟩ := usual.today
  have hdate := Number.ofText?_date date ""
  rwa [String.append_empty, ← htoday] at hdate

theorem Surroundings.Usual.ofText?_now {surroundings : Surroundings}
    (usual : surroundings.Usual) : Number.ofText? surroundings.now = none := by
  obtain ⟨date, time, hnow⟩ := usual.now
  rw [hnow, Number.ofText?_date]

theorem Surroundings.Usual.ofText?_hash {surroundings : Surroundings}
    (usual : surroundings.Usual) (password : String) :
    Number.ofText? (surroundings.hashPassword password) = none := by
  obtain ⟨rest, hhash⟩ := usual.hashPassword password
  have hmark : "$2b$" = "$" ++ "2b$" := rfl
  rw [hhash, hmark, String.append_assoc, Number.ofText?_dollar]

namespace Builtin

/-! ## Results of functions -/

theorem constant_eq_ok {function text : String} {args : List Value} {v : Value}
    (h : constant function text args = .ok v) : v = .string text := by
  unfold constant at h
  split at h
  · exact (Except.ok.inj h).symm
  · cases h

theorem dateAdd_eq_ok {args : List Value} {v : Value} (h : dateAdd args = .ok v) :
    v = .null ∨ ∃ date : Date, v = .string date.text := by
  unfold dateAdd at h
  split at h
  · exact .inl (Except.ok.inj h).symm
  · exact .inl (Except.ok.inj h).symm
  · split at h
    · cases h
    · split at h
      · cases h
      · split at h
        · exact .inr ⟨_, (Except.ok.inj h).symm⟩
        · cases h
  · cases h
  · cases h

theorem ofText_eq_ok {function : String} {result : String → Value} {args : List Value} {v : Value}
    (h : ofText function result args = .ok v) :
    (args = [.null] ∧ v = .null) ∨ ∃ s, args = [.string s] ∧ v = result s := by
  unfold ofText at h
  split at h
  · exact .inl ⟨rfl, (Except.ok.inj h).symm⟩
  · exact .inr ⟨_, rfl, (Except.ok.inj h).symm⟩
  · cases h
  · cases h

theorem like_eq_ok {function : String} {pattern : LikePattern} {args : List Value} {v : Value}
    (h : like function pattern args = .ok v) : ∃ b, v = .bool b := by
  unfold like at h
  split at h
  · exact ⟨_, (Except.ok.inj h).symm⟩
  · exact ⟨_, (Except.ok.inj h).symm⟩
  · exact ⟨_, (Except.ok.inj h).symm⟩
  · cases h
  · cases h
  · cases h

/-! ## Numbers -/

/-- A function that evaluates all its arguments has a result for some. -/
def Gives (surroundings : Surroundings) (builtin : Builtin) (args : List Value) (v : Value) :
    Prop :=
  ∃ function, builtin.action = .eager function ∧ function surroundings args = .ok v

/-- The names of the functions that put a text in another case. -/
def caseNames : List String := ["UPPER", "LOWER"]

/-- The result counts as the number that the one argument writes, which is a text or null. -/
def KeepsNumber (args : List Value) (v : Value) : Prop :=
  (args = [.null] ∧ v = .null) ∨ ∃ s, args = [.string s] ∧ v.number? = Number.ofText? s

variable {surroundings : Surroundings} {builtin : Builtin} {args : List Value} {v : Value}

theorem number?_of_dateAdd (h : dateAdd args = .ok v) : v.number? = none := by
  rcases dateAdd_eq_ok h with rfl | ⟨date, rfl⟩
  · rfl
  · have hdate := Number.ofText?_date date ""
    rwa [String.append_empty] at hdate

theorem number?_of_like {function : String} {pattern : LikePattern}
    (h : like function pattern args = .ok v) : v.number? = none := by
  obtain ⟨b, rfl⟩ := like_eq_ok h
  rfl

theorem number?_of_hash (usual : surroundings.Usual) {function : String}
    (h : ofText function (fun s => .string (surroundings.hashPassword s)) args = .ok v) :
    v.number? = none := by
  rcases ofText_eq_ok h with ⟨-, rfl⟩ | ⟨s, -, rfl⟩
  · rfl
  · exact usual.ofText?_hash s

/-- A change of a text keeps its number, if it keeps the number of every text. -/
theorem keepsNumber_of_change {function : String} {change : String → String}
    (hchange : ∀ s, Number.ofText? (change s) = Number.ofText? s)
    (h : ofText function (fun s => .string (change s)) args = .ok v) : KeepsNumber args v := by
  rcases ofText_eq_ok h with hnull | ⟨s, hs, rfl⟩
  · exact .inl hnull
  · exact .inr ⟨s, hs, hchange s⟩

/-- A text or a truth value that a function gives is no number, unless the function only puts
a text in another case. -/
theorem number?_of_gives (usual : surroundings.Usual) (hmem : builtin ∈ all)
    (hreturns : builtin.returns = .text ∨ builtin.returns = .bool)
    (h : builtin.Gives surroundings args v) :
    (builtin.name ∉ caseNames ∧ v.number? = none) ∨
      (builtin.name ∈ caseNames ∧ KeepsNumber args v) := by
  obtain ⟨function, haction, h⟩ := h
  -- one case for every function of the table, in its order
  simp only [all, List.mem_cons, List.not_mem_nil, or_false] at hmem
  rcases hmem with rfl | rfl | rfl | rfl | rfl | rfl | rfl | rfl | rfl | rfl | rfl | rfl
  · cases haction
    obtain rfl := constant_eq_ok h
    exact .inl ⟨by decide, usual.ofText?_today⟩
  · cases haction
    obtain rfl := constant_eq_ok h
    exact .inl ⟨by decide, usual.ofText?_now⟩
  · cases haction
    exact .inl ⟨by decide, number?_of_dateAdd h⟩
  · exact absurd hreturns (by decide)
  · cases haction
    exact .inr ⟨by decide, keepsNumber_of_change Number.ofText?_upper h⟩
  · cases haction
    exact .inr ⟨by decide, keepsNumber_of_change Number.ofText?_lower h⟩
  · cases haction
    exact .inl ⟨by decide, number?_of_like h⟩
  · cases haction
    exact .inl ⟨by decide, number?_of_like h⟩
  · cases haction
    exact .inl ⟨by decide, number?_of_like h⟩
  · exact absurd hreturns (by decide)
  · cases haction
  · cases haction
    exact .inl ⟨by decide, number?_of_hash usual h⟩

end Builtin

end Formulary
