import Formulary.Function.Builtin
import Formulary.Proofs.Expr.Canonical
import Formulary.Proofs.Number.Range

/-!
# Half-up rounding at the end of the range

Rounding to decimal places scales a number, rounds it down and scales it back.  Of these steps
only the product can leave the range of finite numbers, and nothing checks it.

* `isFinite_roundHalfUp` — a rounded number is finite exactly if its product is;
* `roundHalfUp_ne_nan` — a rounded number is a number;
* `round_eq_ok` — what the function of the language gives.
-/

namespace Formulary

namespace Binary64

/-! ## No NaN -/

variable {x power : Binary64}

theorem ofUnits_ne_nan (negative : Bool) (units : Nat) : ofUnits negative units ≠ .nan :=
  Grammar.ofRatio_ne_nan negative units 1

theorem mul_ne_nan (hx : x ≠ .nan) (hpower : power.AtLeastOne) : x.mul power ≠ .nan := by
  obtain ⟨count, fits, rfl, hone⟩ := hpower
  have hne : count ≠ 0 := (lt_of_lt_of_le unitsPerOne_pos hone).ne'
  cases x with
  | nan => exact absurd rfl hx
  | infinite negative => simp [mul, hne]
  | finite negative units fits => exact Grammar.ofRatio_ne_nan _ _ _

theorem div_ne_nan (hx : x ≠ .nan) (hpower : power.AtLeastOne) : x.div power ≠ .nan := by
  obtain ⟨count, fits, rfl, hone⟩ := hpower
  have hne : count ≠ 0 := (lt_of_lt_of_le unitsPerOne_pos hone).ne'
  cases x with
  | nan => exact absurd rfl hx
  | infinite negative => simp [div]
  | finite negative units fits =>
    rw [div, if_neg hne]
    exact Grammar.ofRatio_ne_nan _ _ _

theorem add_half_ne_nan (hx : x ≠ .nan) : x.add half ≠ .nan := by
  rw [half_eq]
  cases x with
  | nan => exact absurd rfl hx
  | infinite negative => simp [add]
  | finite negative units fits =>
    rw [add]
    exact ofUnits_ne_nan _ _

theorem floor_ne_nan (hx : x ≠ .nan) : x.floor ≠ .nan := by
  cases x with
  | nan => exact absurd rfl hx
  | infinite negative => simp [floor]
  | finite negative units fits =>
    rw [floor]
    exact ofUnits_ne_nan _ _

end Binary64

namespace Builtin

/-! ## The product -/

/-- The product that rounding forms: the scaled number, or to the left of the point the number
of steps scaled back. -/
def roundingProduct (x : Binary64) (places : Int) : Binary64 :=
  let power := Binary64.powerOfTen places.natAbs
  if 0 ≤ places then
    x.mul power
  else
    ((x.div power).add Binary64.half).floor.mul power

theorem natAbs_clampPlaces_le (places : Int) : (clampPlaces places).natAbs ≤ 308 := by
  unfold clampPlaces greatestPlaces
  omega

/-- A rounded number is finite exactly if the product was. -/
theorem isFinite_roundHalfUp (x : Binary64) {places : Int} (h : places.natAbs ≤ 308) :
    (roundHalfUp x places).isFinite = (roundingProduct x places).isFinite := by
  have hpower := Binary64.atLeastOne_powerOfTen h
  unfold roundHalfUp roundingProduct
  by_cases hleft : 0 ≤ places
  · simp only [if_pos hleft]
    rw [hpower.isFinite_div, Binary64.isFinite_floor, Binary64.isFinite_add_half]
  · simp only [if_neg hleft]

/-- A number is rounded to a number. -/
theorem roundHalfUp_ne_nan {x : Binary64} (hx : x ≠ .nan) {places : Int}
    (h : places.natAbs ≤ 308) : roundHalfUp x places ≠ .nan := by
  have hpower := Binary64.atLeastOne_powerOfTen h
  unfold roundHalfUp
  by_cases hleft : 0 ≤ places
  · simp only [if_pos hleft]
    exact Binary64.div_ne_nan (Binary64.floor_ne_nan (Binary64.add_half_ne_nan
      (Binary64.mul_ne_nan hx hpower))) hpower
  · simp only [if_neg hleft]
    exact Binary64.mul_ne_nan (Binary64.floor_ne_nan (Binary64.add_half_ne_nan
      (Binary64.div_ne_nan hx hpower))) hpower

/-! ## The function -/

theorem round_eq_ok {args : List Value} {v : Value} (h : round args = .ok v) :
    v = .null ∨ ∃ value places x p, args = [value, places] ∧ value.float? = some x ∧
      places.int? = some p ∧ v = .float (roundHalfUp x (clampPlaces p.toInt)) := by
  unfold round at h
  split at h
  · exact .inl (Except.ok.inj h).symm
  · exact .inl (Except.ok.inj h).symm
  · split at h
    · cases h
    · cases h
    · next hx hp => exact .inr ⟨_, _, _, _, rfl, hx, hp, (Except.ok.inj h).symm⟩
  · cases h

theorem round_of_numbers {value places : Value} {x : Binary64} {p : Int64}
    (hx : value.float? = some x) (hp : places.int? = some p) :
    round [value, places] = .ok (.float (roundHalfUp x (clampPlaces p.toInt))) := by
  cases value with
  | null => cases hx
  | _ =>
    cases places with
    | null => cases hp
    | _ => simp only [round, hx, hp]

/-- The name of the function in either case. -/
theorem action_of_round {name : String} {builtin : Builtin} (hname : Text.upper name = "ROUND")
    (h : lookup? name = some builtin) : builtin.action = .eager fun _ => round := by
  have hupper : Text.upper "ROUND" = "ROUND" := by decide
  have hsame : lookup? name = lookup? "ROUND" := by rw [lookup?, lookup?, hname, hupper]
  have hround : (lookup? "ROUND").map Builtin.action = some (.eager fun _ => round) := rfl
  rw [← hsame, h] at hround
  exact Option.some.inj hround

end Builtin

end Formulary
