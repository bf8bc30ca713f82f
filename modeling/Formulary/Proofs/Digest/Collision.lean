import Formulary.Digest.Sha256
import Mathlib.Algebra.Group.Nat.Defs

/-!
# Collisions of the digest

* `Collision` — two different texts with one digest;
* `collision_of_hexDigest_eq` — the written digest tells the digest, so different texts with one
  written digest are a collision.
-/

namespace Formulary.Sha256

/-- Two different texts whose bytes have one digest. -/
structure Collision (left right : String) : Prop where
  ne : left ≠ right
  same_digest : digest left.toUTF8.toList = digest right.toUTF8.toList

/-! ## Written digests -/

theorem digitChar_injective :
    ∀ m, m < 16 → ∀ n, n < 16 → m.digitChar = n.digitChar → m = n := by
  decide

/-- Numbers with the same hexadecimal digits are the same. -/
theorem eq_of_hexDigits (count : Nat) {m n : Nat} (hm : m < 16 ^ count) (hn : n < 16 ^ count)
    (h : ∀ i < count, m / 16 ^ i % 16 = n / 16 ^ i % 16) : m = n := by
  induction count generalizing m n with
  | zero => omega
  | succ count ih =>
    have hlast : m % 16 = n % 16 := by simpa using h 0 (by omega)
    have hrest : m / 16 = n / 16 := by
      refine ih ?_ ?_ fun i hi => ?_
      · exact Nat.div_lt_of_lt_mul (by rw [Nat.mul_comm]; exact hm)
      · exact Nat.div_lt_of_lt_mul (by rw [Nat.mul_comm]; exact hn)
      · have hdigit := h (i + 1) (by omega)
        rwa [Nat.pow_succ, Nat.mul_comm, ← Nat.div_div_eq_div_mul,
          ← Nat.div_div_eq_div_mul] at hdigit
    omega

/-- The digits of a word tell it. -/
theorem hexWord_injective {x y : UInt32} (h : hexWord x = hexWord y) : x = y := by
  apply UInt32.toNat_inj.1
  refine eq_of_hexDigits 8 x.toNat_lt y.toNat_lt fun i hi => ?_
  have hshift : 4 * i ∈ [28, 24, 20, 16, 12, 8, 4, 0] := by
    have hall : ∀ i < 8, 4 * i ∈ [28, 24, 20, 16, 12, 8, 4, 0] := by decide
    exact hall i hi
  have hdigit := digitChar_injective _ (Nat.mod_lt _ (by decide)) _ (Nat.mod_lt _ (by decide))
    (List.map_inj_left.1 h (4 * i) hshift)
  rwa [Nat.shiftRight_eq_div_pow, Nat.shiftRight_eq_div_pow, Nat.pow_mul] at hdigit

theorem flatMap_hexWord_injective {a b : List UInt32} (h : a.flatMap hexWord = b.flatMap hexWord) :
    a = b := by
  induction a generalizing b with
  | nil =>
    cases b with
    | nil => rfl
    | cons y b => cases h
  | cons x a ih =>
    cases b with
    | nil => cases h
    | cons y b =>
      rw [List.flatMap_cons, List.flatMap_cons] at h
      obtain ⟨hword, hrest⟩ := List.append_inj h rfl
      rw [hexWord_injective hword, ih hrest]

/-- Different texts with one written digest collide. -/
theorem collision_of_hexDigest_eq {left right : String} (hne : left ≠ right)
    (h : hexDigest left = hexDigest right) : Collision left right where
  ne := hne
  same_digest := flatMap_hexWord_injective (String.ofList_injective h)

end Formulary.Sha256
