import HubDispatch.Decimal.Reading
import HubDispatch.Proofs.Binary64.WholeSums

/-!
# Decimals with a few digits

A decimal with at most three digits behind the point is read as a whole number divided by a power of
ten. Both are numbers, so the division is the only step that rounds, and what is read lies within
half a step of the decimal (`exists_measures_nearest`).

The thousandfold of such a decimal is a whole number. The product with a thousand rounds once more,
and what comes out is one step off the whole number at most (`counts_thousandfold`), on either side
of it.
-/

namespace HubDispatch

namespace Binary64.Exact

variable {n : Nat}

/-! ## Decimals -/

/-- Small powers of ten are numbers. -/
theorem measures_powerOfTen {d : Nat} (hd : d ≤ 3)
    (h : d < Float.exactlyRepresentablePowersOfTen.size) :
    Measures Float.exactlyRepresentablePowersOfTen[d] (10 ^ d * unit) := by
  match d, hd with
  | 0, _ =>
    have hpower : 10 ^ 0 = 1 := rfl
    rw [hpower]
    change Measures (Float.ofBits 0x3FF0000000000000) (1 * unit)
    exact measures_of_bits (j := 52) (by decide) (by decide) rfl
  | 1, _ =>
    have hpower : 10 ^ 1 = 10 := rfl
    rw [hpower]
    change Measures (Float.ofBits 0x4024000000000000) (10 * unit)
    exact measures_of_bits (j := 49) (by decide) (by decide) rfl
  | 2, _ =>
    have hpower : 10 ^ 2 = 100 := rfl
    rw [hpower]
    change Measures (Float.ofBits 0x4059000000000000) (100 * unit)
    exact measures_of_bits (j := 46) (by decide) (by decide) rfl
  | 3, _ =>
    have hpower : 10 ^ 3 = 1000 := rfl
    rw [hpower]
    change Measures (Float.ofBits 0x408F400000000000) (1000 * unit)
    exact measures_of_bits (j := 43) (by decide) (by decide) rfl

theorem measures_nearest_zero (e : Int) : Measures (Decimal.nearest false 0 e) 0 := by
  have hzero : Decimal.nearest false 0 e = 0.0 := by
    unfold Decimal.nearest
    simp
  rw [hzero]
  exact measures_of_zero (s := .positive) rfl

/-- A few digits are neither too large nor too small to be read at once. -/
theorem nearest_eq_ofScientific {d : Nat} (hn : 0 < n) (hn' : n < 2 ^ 53) (hd : d ≤ 3) :
    Decimal.nearest false n (-d) = Float.ofScientific n (decide (0 < d)) d := by
  have hdigits : (Nat.toDigits 10 n).length ≤ 16 :=
    (Nat.length_toDigits_le_iff (by decide) (by decide)).mpr (by omega)
  have hsmall : ¬ (n = 0 ∨ -(d : Int) + (Nat.toDigits 10 n).length < -400) := by omega
  have hlarge : ¬ 400 < -(d : Int) + (Nat.toDigits 10 n).length := by omega
  unfold Decimal.nearest
  rw [if_neg Bool.false_ne_true, if_neg hsmall, if_neg hlarge]
  cases d with
  | zero =>
    rw [if_pos (by decide)]
    exact congrArg (Float.ofScientific · false 0) (Nat.mul_one n)
  | succ d =>
    rw [if_neg (by omega)]
    exact congrArg (Float.ofScientific n true) (by omega)

/-- Digits behind the point divide by a power of ten. -/
theorem ofScientific_eq_div {d : Nat} (hn : n < 2 ^ 53) (hd : 0 < d) (hd' : d ≤ 3)
    (h : d < Float.exactlyRepresentablePowersOfTen.size) :
    Float.ofScientific n (decide (0 < d)) d =
      n.toUInt64.toFloat / Float.exactlyRepresentablePowersOfTen[d] := by
  rw [decide_eq_true hd]
  unfold Float.ofScientific
  rw [dif_pos ⟨hn, by omega⟩]
  rfl

/-- **A decimal with up to three digits behind the point** is read as a multiple of the least number
that differs from it by half a step at most, where a step is so small that the multiple has 53
bits. -/
theorem exists_measures_nearest {d : Nat} (hn : 0 < n) (hn' : n < 2 ^ 53) (hd : d ≤ 3) :
    ∃ v j, Measures (Decimal.nearest false n (-d)) v ∧ 10 ^ d * 2 ^ (52 + j) ≤ n * unit ∧
      2 * (v * 10 ^ d) ≤ 2 * (n * unit) + 10 ^ d * 2 ^ j ∧
      2 * (n * unit) ≤ 2 * (v * 10 ^ d) + 10 ^ d * 2 ^ j := by
  rw [nearest_eq_ofScientific hn hn' hd]
  rcases Nat.eq_zero_or_pos d with rfl | hpos
  · refine ⟨n * unit, 0, measures_ofNat hn', ?_, ?_, ?_⟩
    · rw [Nat.pow_zero, Nat.one_mul]
      exact two_pow_le_whole (by decide) hn
    · omega
    · omega
  · have hlog : n.log2 < 53 := (Nat.log2_lt hn.ne').mpr hn'
    have hpower : 10 ^ d < 2 ^ 53 :=
      (Nat.pow_le_pow_right (by decide) hd).trans_lt (by decide)
    have hlisted : d < Float.exactlyRepresentablePowersOfTen.size := hd.trans_lt (by decide)
    rw [ofScientific_eq_div hn' hpos hd hlisted]
    have hrange : (n * unit).log2 ≤ 2090 := by
      rw [log2_whole hn]
      omega
    exact (measures_toFloat hn').div (le_log2_whole hn) hrange
      (measures_powerOfTen hd hlisted) (Nat.pow_pos (by decide)) hpower

/-! ## Thousands -/

/-- A step of the whole number that a thousand makes is longer than a thousand half steps. -/
theorem le_two_mul_step {j : Nat} (hn : 0 < n) (h : 1000 * 2 ^ (52 + j) ≤ n * unit) :
    1000 * 2 ^ j ≤ 2 * step n := by
  have hlt : n * unit < 2 ^ ((n * unit).log2 + 1) := Nat.lt_log2_self
  have hexp : n.log2 + 1074 + 1 = 53 + (n.log2 + 1022) := by omega
  rw [log2_whole hn, hexp, Nat.pow_add, ← step_of_pos hn] at hlt
  rw [Nat.pow_add] at h
  omega

/-- What is known of a decimal is known of its thousandfold. -/
theorem near_thousandfold {d v j : Nat} (hd : d ≤ 3) (hn : 0 < n)
    (hlarge : 10 ^ d * 2 ^ (52 + j) ≤ n * unit)
    (hle : 2 * (v * 10 ^ d) ≤ 2 * (n * unit) + 10 ^ d * 2 ^ j)
    (hge : 2 * (n * unit) ≤ 2 * (v * 10 ^ d) + 10 ^ d * 2 ^ j) :
    Near 1 (v * 1000) (n * 10 ^ (3 - d)) := by
  have hscale : 1000 = 10 ^ d * 10 ^ (3 - d) := by
    rw [← Nat.pow_add, Nat.add_sub_cancel' hd]
  have hlarge' : 1000 * 2 ^ (52 + j) ≤ n * 10 ^ (3 - d) * unit := by
    calc 1000 * 2 ^ (52 + j) = 10 ^ d * 2 ^ (52 + j) * 10 ^ (3 - d) := by rw [hscale]; ring
      _ ≤ n * unit * 10 ^ (3 - d) := Nat.mul_le_mul_right _ hlarge
      _ = n * 10 ^ (3 - d) * unit := Nat.mul_right_comm ..
  have hle' : 2 * (v * 1000) ≤ 2 * (n * 10 ^ (3 - d) * unit) + 1000 * 2 ^ j := by
    calc 2 * (v * 1000) = 2 * (v * 10 ^ d) * 10 ^ (3 - d) := by rw [hscale]; ring
      _ ≤ (2 * (n * unit) + 10 ^ d * 2 ^ j) * 10 ^ (3 - d) := Nat.mul_le_mul_right _ hle
      _ = 2 * (n * 10 ^ (3 - d) * unit) + 1000 * 2 ^ j := by rw [hscale]; ring
  have hge' : 2 * (n * 10 ^ (3 - d) * unit) ≤ 2 * (v * 1000) + 1000 * 2 ^ j := by
    calc 2 * (n * 10 ^ (3 - d) * unit) = 2 * (n * unit) * 10 ^ (3 - d) := by ring
      _ ≤ (2 * (v * 10 ^ d) + 10 ^ d * 2 ^ j) * 10 ^ (3 - d) := Nat.mul_le_mul_right _ hge
      _ = 2 * (v * 1000) + 1000 * 2 ^ j := by rw [hscale]; ring
  have hstep := le_two_mul_step (Nat.mul_pos hn (Nat.pow_pos (by decide))) hlarge'
  constructor
  · omega
  · omega

/-- What makes a whole number a thousand times is not small. -/
theorem le_log2_of_near {v : Nat} (h : Near 1 (v * 1000) n) (hn : 0 < n) (hn' : n < 2 ^ 32) :
    1060 ≤ v.log2 := by
  have hge := h.ge
  have hsteps := step_le_unit hn'
  have hpos := unit_pos
  have hunit : unit ≤ n * unit := Nat.le_mul_of_pos_left unit hn
  have hlog := log2_le_log2 (show 0 < 1 * unit by omega) (show 1 * unit ≤ v * 2 ^ 14 by omega)
  rw [log2_whole Nat.one_pos, log2_mul_two_pow (by omega)] at hlog
  omega

/-- **A decimal in thousands**, with up to three digits behind the point, is a whole number. What is
computed of it is one step off at most. -/
theorem counts_thousandfold {d : Nat} (hd : d ≤ 3) (hn : n * 10 ^ (3 - d) < 2 ^ 32) :
    Counts 1 (Decimal.nearest false n (-d) * Float.ofNat 1000) (n * 10 ^ (3 - d)) := by
  have hthousand : Measures (Float.ofNat 1000) (1000 * unit) := measures_ofNat (by decide)
  rcases Nat.eq_zero_or_pos n with rfl | hpos
  · rw [Nat.zero_mul]
    exact ⟨0, (measures_nearest_zero _).zero_mul hthousand, Nat.zero_le _, by omega⟩
  · have hpower : 0 < 10 ^ (3 - d) := Nat.pow_pos (by decide)
    have hwhole : 0 < n * 10 ^ (3 - d) := Nat.mul_pos hpos hpower
    have hbits : n < 2 ^ 53 := by
      have hle := Nat.le_mul_of_pos_right n hpower
      omega
    obtain ⟨v, j, hv, hlarge, hle, hge⟩ := exists_measures_nearest hpos hbits hd
    have hnear := near_thousandfold hd hpos hlarge hle hge
    have hrange := (hnear.mono (show 1 ≤ 2 by decide)).log2_add_le (t := 0) (m := 0)
      ⟨Nat.zero_le _, by omega⟩ hwhole hn
    rw [Nat.add_zero] at hrange
    have hlow := le_log2_of_near hnear hwhole hn
    have hproduct := hv.mul hlow hthousand (by decide) hrange
    exact ⟨_, hproduct, hnear.rounded hwhole hn (by decide)⟩

end Binary64.Exact

/-- What a decimal with at most three digits behind the point is read as. -/
def Decimal.ReadFrom (v : Float) (q : ℚ) : Prop :=
  ∃ m d : Nat, d ≤ 3 ∧ nearest false m (-d) = v ∧ (m : ℚ) / 10 ^ d = q

/-- Its thousandfold is a whole number, and computed as a number near to it. -/
theorem Decimal.ReadFrom.thousandfold {v : Float} {q : ℚ} (h : ReadFrom v q) :
    ∃ n : Nat, q * 1000 = n ∧
      (n < 2 ^ 32 → Binary64.Exact.Counts 1 (v * Float.ofNat 1000) n) := by
  obtain ⟨m, d, hd, rfl, rfl⟩ := h
  refine ⟨m * 10 ^ (3 - d), ?_, Binary64.Exact.counts_thousandfold hd⟩
  have hscale : (1000 : ℚ) = 10 ^ d * 10 ^ (3 - d) := by
    rw [← pow_add, Nat.add_sub_cancel' hd]
    norm_num
  have hpower : (10 : ℚ) ^ d ≠ 0 := pow_ne_zero d (by norm_num)
  rw [hscale, ← mul_assoc, div_mul_cancel₀ _ hpower, Nat.cast_mul, Nat.cast_pow, Nat.cast_ofNat]

end HubDispatch
