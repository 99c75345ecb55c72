import HubDispatch.Binary64.Exact
import Mathlib.Data.Rat.Floor
import Mathlib.Tactic.NormNum

/-!
# Numbers as rational numbers

A binary64 pattern that is neither infinite nor not-a-number stands for a rational number
(`Exact.value?`). Rounding it down or up to a whole number gives the floor and the ceiling of that
rational number, brought into the range (`Exact.toInt_down`, `Exact.toInt_up`).
-/

namespace HubDispatch
namespace Binary64
namespace Exact

variable {x : Exact} {v : ℚ} {lo hi : Int}

/-- The rational number that a finite pattern stands for. -/
def value? : Exact → Option ℚ
  | .finite negative m q => some ((signed negative m : ℚ) * 2 ^ q)
  | _ => none

theorem signed_mul (negative : Bool) (m n : Nat) :
    signed negative (m * n) = signed negative m * n := by
  cases negative <;> simp [signed]

/-- Numerator and denominator are those of the value. -/
theorem signed_mul_two_zpow (negative : Bool) (m : Nat) (q : Int) :
    (signed negative m : ℚ) * 2 ^ q = (signed negative (numerator m q) : ℚ) / denominator q := by
  obtain ⟨n, rfl | rfl⟩ := q.eq_nat_or_neg
  · simp [numerator, denominator, signed_mul]
  · simp [numerator, denominator, div_eq_mul_inv]

/-- The nearest whole number below is the quotient, one further from zero for a negative value
between two whole numbers. -/
theorem signed_magnitude_down (negative : Bool) (num : Nat) {den : Nat} (hden : 0 < den) :
    signed negative (Rounding.down.magnitude negative num den) =
      signed negative num / (den : Int) := by
  cases negative with
  | false => simp [signed, Rounding.magnitude]
  | true =>
    have hsign : ((den : Int).sign) = 1 := Int.sign_eq_one_of_pos (by exact_mod_cast hden)
    simp only [signed, Rounding.magnitude, if_true, Bool.true_and, Int.neg_ediv, hsign,
      Int.natCast_dvd_natCast, Nat.dvd_iff_mod_eq_zero]
    by_cases hrest : num % den = 0
    · simp [hrest]
    · simp only [bne_iff_ne, ne_eq, hrest, not_false_eq_true, ↓reduceIte, Nat.cast_add,
        Int.natCast_ediv, Nat.cast_one, neg_add_rev, Int.reduceNeg]
      omega

/-- Rounding up is rounding the negative down. -/
theorem signed_magnitude_up (negative : Bool) (num den : Nat) :
    signed negative (Rounding.up.magnitude negative num den) =
      -signed (!negative) (Rounding.down.magnitude (!negative) num den) := by
  cases negative <;> simp [signed, Rounding.magnitude]

theorem signed_not (negative : Bool) (n : Nat) : signed (!negative) n = -signed negative n := by
  cases negative <;> simp [signed]

theorem denominator_pos (q : Int) : 0 < denominator q := Nat.pow_pos (by decide)

/-- **Rounding down gives the floor.** -/
theorem toInt_down (h : x.value? = some v) : x.toInt .down lo hi = clamp lo hi ⌊v⌋ := by
  cases x with
  | finite negative m q =>
    cases h
    rw [signed_mul_two_zpow, Rat.floor_intCast_div_natCast, toInt,
      signed_magnitude_down _ _ (denominator_pos q)]
  | nan => cases h
  | infinite negative => cases h

/-- **Rounding up gives the ceiling.** -/
theorem toInt_up (h : x.value? = some v) : x.toInt .up lo hi = clamp lo hi ⌈v⌉ := by
  cases x with
  | finite negative m q =>
    cases h
    rw [signed_mul_two_zpow, Rat.ceil_intCast_div_natCast, toInt, signed_magnitude_up,
      signed_magnitude_down _ _ (denominator_pos q), signed_not]
  | nan => cases h
  | infinite negative => cases h

end Exact
end Binary64
end HubDispatch
