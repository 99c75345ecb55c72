import HubDispatch.Proofs.Binary64.Whole

/-!
# Rounding to 53 bits

Every number is a whole multiple of the least positive one, so what arithmetic does to numbers that
are not negative is said of whole numbers: it rounds the exact result to 53 bits (`rounded`). Where
53 bits suffice nothing is lost (`rounded_of_dvd`), rounding keeps the order (`rounded_mono`), and
it does not depend on the unit in which a value is counted (`rounded_mul_two_pow`).

A half goes to the even neighbour. So whatever lies within half a step of an even multiple of the
step is rounded to that multiple, ends included (`rounded_eq_of_near`).
-/

namespace HubDispatch
namespace Binary64
namespace Exact

/-! ## Quotients -/

theorem halfEven_of_dvd {n den : Nat} (h : den ∣ n) :
    Rounding.halfEven.magnitude false n den = n / den := by
  unfold Rounding.magnitude
  have hrest : n % den = 0 := Nat.mod_eq_zero_of_dvd h
  simp only [hrest, Bool.or_eq_true, Bool.and_eq_true, decide_eq_true_eq, beq_iff_eq]
  by_cases hden : den = 0
  · rw [hden, Nat.div_zero]
    rfl
  · rw [if_neg (by omega)]

/-- Half-even rounding moves a fraction by half at most. -/
theorem halfEven_near (n : Nat) {den : Nat} (hden : 0 < den) :
    2 * (Rounding.halfEven.magnitude false n den * den) ≤ 2 * n + den ∧
      2 * n ≤ 2 * (Rounding.halfEven.magnitude false n den * den) + den := by
  have hsplit := Nat.div_add_mod n den
  have hrest := Nat.mod_lt n hden
  rw [Nat.mul_comm] at hsplit
  unfold Rounding.magnitude
  simp only [Bool.or_eq_true, Bool.and_eq_true, decide_eq_true_eq, beq_iff_eq]
  split
  · rw [Nat.add_mul, Nat.one_mul]
    omega
  · omega

/-- What is moved by a half goes to an even number. -/
theorem halfEven_mod_two {n den : Nat} (hden : 0 < den)
    (h : 2 * n = 2 * (Rounding.halfEven.magnitude false n den * den) + den ∨
      2 * (Rounding.halfEven.magnitude false n den * den) = 2 * n + den) :
    Rounding.halfEven.magnitude false n den % 2 = 0 := by
  have hsplit := Nat.div_add_mod n den
  have hrest := Nat.mod_lt n hden
  rw [Nat.mul_comm] at hsplit
  revert h
  unfold Rounding.magnitude
  simp only [Bool.or_eq_true, Bool.and_eq_true, decide_eq_true_eq, beq_iff_eq]
  split
  · rw [Nat.add_mul, Nat.one_mul]
    omega
  · omega

/-- An even quotient is what everything within half a denominator is rounded to. -/
theorem halfEven_eq_of_near {n k den : Nat} (hden : 0 < den) (hk : k % 2 = 0)
    (hle : 2 * n ≤ 2 * (k * den) + den) (hge : 2 * (k * den) ≤ 2 * n + den) :
    Rounding.halfEven.magnitude false n den = k := by
  have hsplit := Nat.div_add_mod n den
  have hrest := Nat.mod_lt n hden
  rw [Nat.mul_comm] at hsplit
  unfold Rounding.magnitude
  simp only [Bool.or_eq_true, Bool.and_eq_true, decide_eq_true_eq, beq_iff_eq]
  rcases Nat.lt_trichotomy (n / den) k with hlt | heq | hgt
  · -- One step below, and more than half of it is left, or a half below an even quotient.
    have hbelow : (n / den + 1) * den ≤ k * den := Nat.mul_le_mul_right den hlt
    rw [Nat.add_mul, Nat.one_mul] at hbelow
    have hnext : n / den + 1 = k := by
      by_contra hne
      have hfar : (n / den + 2) * den ≤ k * den := Nat.mul_le_mul_right den (by omega)
      rw [Nat.add_mul] at hfar
      omega
    rw [if_pos (by rw [← hnext, Nat.add_mul, Nat.one_mul] at hge; omega)]
    exact hnext
  · rw [heq] at hsplit ⊢
    rw [if_neg (by omega)]
  · have habove : (k + 1) * den ≤ n / den * den := Nat.mul_le_mul_right den hgt
    rw [Nat.add_mul, Nat.one_mul] at habove
    omega

/-! ## Whole numbers -/

/-- The distance between numbers of 53 bits that are as large as `n`. -/
def spacing (n : Nat) : Nat := 2 ^ (n.log2 - 52)

/-- The nearest number of 53 bits, of two such numbers the even one. -/
def rounded (n : Nat) : Nat := kept n * spacing n

variable {n m : Nat}

theorem spacing_pos (n : Nat) : 0 < spacing n := Nat.two_pow_pos _

theorem rounded_of_dvd (h : spacing n ∣ n) : rounded n = n := by
  have hkept : kept n = n / spacing n := halfEven_of_dvd h
  rw [rounded, hkept, Nat.div_mul_cancel h]

theorem rounded_of_log2_lt (h : n.log2 < 53) : rounded n = n := by
  have hone : spacing n = 1 := by
    rw [spacing, Nat.sub_eq_zero_of_le (by omega), Nat.pow_zero]
  exact rounded_of_dvd (hone ▸ Nat.one_dvd n)

/-- Rounding does not leave the powers of two between which a number lies. -/
theorem rounded_bounds (hn : 0 < n) : 2 ^ n.log2 ≤ rounded n ∧ rounded n ≤ 2 ^ (n.log2 + 1) := by
  by_cases hlog : n.log2 < 53
  · obtain ⟨hlo, hhi⟩ := (Nat.log2_eq_iff hn.ne').mp rfl
    rw [rounded_of_log2_lt hlog]
    exact ⟨hlo, hhi.le⟩
  · obtain ⟨hlo, hhi⟩ := kept_bounds (m := n) (by omega)
    have hleast : 2 ^ n.log2 = 2 ^ 52 * spacing n := by
      rw [spacing, ← Nat.pow_add, Nat.add_sub_cancel' (by omega)]
    have hmost : 2 ^ (n.log2 + 1) = 2 ^ 53 * spacing n := by
      rw [Nat.pow_succ, hleast]
      ring
    rw [hleast, hmost]
    exact ⟨Nat.mul_le_mul_right _ hlo, Nat.mul_le_mul_right _ hhi⟩

theorem log2_le_log2 (hn : 0 < n) (h : n ≤ m) : n.log2 ≤ m.log2 :=
  (Nat.le_log2 (hn.trans_le h).ne').mpr ((Nat.log2_self_le hn.ne').trans h)

theorem spacing_dvd_spacing (hn : 0 < n) (h : n ≤ m) : spacing n ∣ spacing m :=
  Nat.pow_dvd_pow 2 (Nat.sub_le_sub_right (log2_le_log2 hn h) 52)

/-- **Rounding keeps the order.** -/
theorem rounded_mono (h : n ≤ m) : rounded n ≤ rounded m := by
  rcases Nat.eq_zero_or_pos n with rfl | hn
  · exact Nat.zero_le _
  · rcases Nat.lt_or_eq_of_le (log2_le_log2 hn h) with hlt | heq
    · calc rounded n ≤ 2 ^ (n.log2 + 1) := (rounded_bounds hn).2
        _ ≤ 2 ^ m.log2 := Nat.pow_le_pow_right (by decide) hlt
        _ ≤ rounded m := (rounded_bounds (hn.trans_le h)).1
    · rw [rounded, rounded, kept, kept, spacing, spacing, heq]
      exact Nat.mul_le_mul_right _ (magnitude_mono _ _ h)

/-- **Within half a step** of an even multiple of the step, this multiple is the result. -/
theorem rounded_eq_of_near (heven : 2 * spacing n ∣ n) (hlog : m.log2 = n.log2)
    (hle : 2 * m ≤ 2 * n + spacing n) (hge : 2 * n ≤ 2 * m + spacing n) : rounded m = n := by
  obtain ⟨k, hk⟩ := heven
  have hmultiple : 2 * k * spacing n = n := (Nat.mul_right_comm 2 k _).trans hk.symm
  have hkept : kept m = 2 * k := by
    rw [kept, hlog]
    apply halfEven_eq_of_near (spacing_pos n) (Nat.mul_mod_right 2 k)
    · rwa [hmultiple]
    · rwa [hmultiple]
  rw [rounded, hkept, spacing, hlog]
  exact hmultiple

/-- **The unit makes no difference.** -/
theorem rounded_mul_two_pow (hn : 52 ≤ n.log2) (j : Nat) :
    rounded (n * 2 ^ j) = rounded n * 2 ^ j := by
  have hpos : 0 < n := Nat.pos_of_ne_zero fun h => by simp [h] at hn
  have hstep : spacing (n * 2 ^ j) = spacing n * 2 ^ j := by
    rw [spacing, spacing, log2_mul_two_pow hpos, ← Nat.pow_add]
    congr 1
    omega
  have hkept : kept (n * 2 ^ j) = kept n := by
    change Rounding.halfEven.magnitude false _ (spacing _) = _
    rw [hstep]
    exact magnitude_mul_right _ _ n (spacing n) (Nat.two_pow_pos j)
  rw [rounded, rounded, hkept, hstep, Nat.mul_assoc]

end Exact
end Binary64
end HubDispatch
