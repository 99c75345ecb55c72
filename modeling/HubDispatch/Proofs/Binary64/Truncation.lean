import HubDispatch.Proofs.Binary64.Order

/-!
# Counts without a fraction

Cutting off the fraction leaves nothing of a number exactly if it is less than one, and what is not
a number counts as nothing. So a count that is made of a number toward zero is not zero exactly if
one is at most that number (`toCount32_ne_zero_iff`).
-/

namespace HubDispatch
namespace Binary64
namespace Exact

open Float.Model (UnpackedFloat)

variable {x y : Float}

/-! ## Comparison -/

/-- What is not a number does not compare. -/
theorem compare_eq_none {u v : UnpackedFloat} (h : ofUnpacked u = .nan ∨ ofUnpacked v = .nan) :
    u.compare v = none := by
  cases u <;> cases v <;> simp_all [ofUnpacked, UnpackedFloat.compare]

theorem ne_nan_of_le (h : x ≤ y) : ofFloat x ≠ .nan ∧ ofFloat y ≠ .nan := by
  change decide (x.toModel ≤ y.toModel) = true at h
  rw [decide_eq_true_iff] at h
  change (x.toModel.unpack.compare y.toModel.unpack).any (·.isLE) = true at h
  rw [ofFloat_eq, ofFloat_eq, ← not_or]
  intro hnan
  rw [compare_eq_none hnan] at h
  cases h

theorem ne_nan_of_lt (h : x < y) : ofFloat x ≠ .nan ∧ ofFloat y ≠ .nan := by
  change decide (x.toModel < y.toModel) = true at h
  rw [decide_eq_true_iff] at h
  change (x.toModel.unpack.compare y.toModel.unpack == some .lt) = true at h
  rw [ofFloat_eq, ofFloat_eq, ← not_or]
  intro hnan
  rw [compare_eq_none hnan] at h
  cases h

/-- Numbers are at most others as their ranks are. -/
theorem le_iff_rank_le (hx : ofFloat x ≠ .nan) (hy : ofFloat y ≠ .nan) :
    x ≤ y ↔ rank (ofFloat x) ≤ rank (ofFloat y) := by
  have hcx := canonical_ofFloat x
  have hcy := canonical_ofFloat y
  rw [ofFloat_eq] at hx hcx
  rw [ofFloat_eq] at hy hcy
  rw [ofFloat_eq, ofFloat_eq, ← compare_le_iff_le]
  change decide (x.toModel ≤ y.toModel) = true ↔ _
  rw [decide_eq_true_iff]
  change (x.toModel.unpack.compare y.toModel.unpack).any (·.isLE) = true ↔ _
  rw [compare_unpacked hcx hcy hx hy, Option.any_some, Ordering.isLE_iff_ne_gt]

/-- Of two numbers, one is at most the other or it is larger. -/
theorem not_le_iff_lt (hx : ofFloat x ≠ .nan) (hy : ofFloat y ≠ .nan) : ¬ x ≤ y ↔ y < x := by
  rw [le_iff_rank_le hx hy, lt_iff_rank_lt hy hx, not_le]

/-! ## Truncation -/

theorem rank_one : rank (ofFloat 1.0) = 2 ^ 52 * 1023 := by decide +kernel

/-- A magnitude holds a whole one exactly if it stands at or after that of one. -/
theorem denominator_le_numerator_iff {negative : Bool} {m : Nat} {q : Int}
    (h : Canonical (.finite negative m q)) :
    denominator q ≤ numerator m q ↔ 2 ^ 52 * 1023 ≤ magnitude m q := by
  obtain ⟨hm, hq, -, hnormal⟩ := h
  unfold denominator numerator magnitude
  by_cases hwhole : 0 ≤ q
  · -- A whole number, which is not zero.
    have hpos : 2 ^ 52 ≤ m := by omega
    have hshift : 1 ≤ 2 ^ q.toNat := Nat.one_le_two_pow
    have hden : (-q).toNat = 0 := by omega
    have hnum : 1 * 1 ≤ m * 2 ^ q.toNat := Nat.mul_le_mul (by omega) hshift
    rw [hden]
    exact iff_of_true hnum (by omega)
  · have hnum : q.toNat = 0 := by omega
    rw [hnum, Nat.pow_zero, Nat.mul_one]
    by_cases hshort : (-q).toNat ≤ 52
    · -- No more places are cut off than a canonical number has.
      have hden : 2 ^ (-q).toNat ≤ 2 ^ 52 := Nat.pow_le_pow_right (by decide) hshort
      exact iff_of_true (by omega) (by omega)
    · have hden : 2 ^ 53 ≤ 2 ^ (-q).toNat := Nat.pow_le_pow_right (by decide) (by omega)
      exact iff_of_false (by omega) (by omega)

/-- **What is left without the fraction.** -/
theorem toInt_towardZero_ne_zero_iff {e : Exact} {hi : Nat} (h : e.Canonical) (hhi : 0 < hi) :
    (e.toInt .towardZero 0 hi).toNat ≠ 0 ↔ e ≠ .nan ∧ 2 ^ 52 * 1023 ≤ rank e := by
  cases e with
  | nan => simp [toInt]
  | infinite negative =>
    cases negative with
    | true => simp [toInt, rank, top]
    | false => simpa [toInt, rank, top] using hhi.ne'
  | finite negative m q =>
    rw [toInt, rank, clamp]
    cases negative with
    | true =>
      rw [signed_true, signed_true]
      exact iff_of_false (by omega) (fun hand => by omega)
    | false =>
      have hpos : 0 < denominator q := Nat.two_pow_pos _
      have hwhole : Rounding.towardZero.magnitude false (numerator m q) (denominator q) =
          numerator m q / denominator q := rfl
      have hquotient : numerator m q / denominator q ≠ 0 ↔ 2 ^ 52 * 1023 ≤ magnitude m q := by
        rw [← denominator_le_numerator_iff h, ne_eq, Nat.div_eq_zero_iff_lt hpos, Nat.not_lt]
      rw [signed_false, signed_false, hwhole, and_iff_right (by simp)]
      generalize numerator m q / denominator q = n at hquotient
      omega

theorem toCount32_ne_zero_iff : toCount32 .towardZero x ≠ 0 ↔ 1.0 ≤ x := by
  have hone : ofFloat 1.0 ≠ .nan := by decide +kernel
  rw [toCount32, toInt_towardZero_ne_zero_iff (canonical_ofFloat x) (by decide)]
  constructor
  · rintro ⟨hx, hrank⟩
    rwa [le_iff_rank_le hone hx, rank_one]
  · intro hle
    obtain ⟨-, hx⟩ := ne_nan_of_le hle
    rw [le_iff_rank_le hone hx, rank_one] at hle
    exact ⟨hx, hle⟩

end Exact
end Binary64
end HubDispatch
