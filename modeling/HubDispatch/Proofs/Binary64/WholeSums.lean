import HubDispatch.Proofs.Binary64.Arithmetic

/-!
# Sums that should be whole

Whole numbers below `2 ^ 32` leave more than twenty of the 53 bits to spare, so the numbers beside
them are a tiny step apart. A number that should be whole may be a few steps off (`Near`), and
rounding does not take it further away (`Near.rounded`).

In a running sum the error does not grow either (`Near.rounded_add`): what is added is one of its
own steps off at most. Once the sum passes a power of two its step doubles, which makes room for
the new error. Before that, the new error is half a step at most, and half a step is rounded away:
two steps beside a whole number is an even place, and ties go there.
-/

namespace HubDispatch
namespace Binary64
namespace Exact

open Float.Model (UnpackedFloat)
open Float.Model.UnpackedFloat

variable {x : Float} {n m k s t : Nat}

/-! ## Whole numbers -/

theorem log2_whole_add {r : Nat} (hn : 0 < n) (hr : r < unit) :
    (n * unit + r).log2 = n.log2 + 1074 := by
  obtain ⟨hlo, hhi⟩ := (Nat.log2_eq_iff hn.ne').mp rfl
  have hpos : 0 < n * unit := Nat.mul_pos hn unit_pos
  refine (Nat.log2_eq_iff (by omega)).mpr ⟨?_, ?_⟩
  · calc 2 ^ (n.log2 + 1074) = 2 ^ n.log2 * unit := (two_pow_mul_unit _).symm
      _ ≤ n * unit := Nat.mul_le_mul_right unit hlo
      _ ≤ n * unit + r := Nat.le_add_right ..
  · calc n * unit + r < (n + 1) * unit := by rw [Nat.add_mul, Nat.one_mul]; omega
      _ ≤ 2 ^ (n.log2 + 1) * unit := Nat.mul_le_mul_right unit hhi
      _ = 2 ^ (n.log2 + 1074 + 1) := by rw [two_pow_mul_unit, Nat.add_right_comm]

/-- The distance between numbers that are as large as the whole number `n`. -/
def step (n : Nat) : Nat := if n = 0 then 0 else 2 ^ (n.log2 + 1022)

@[simp] theorem step_zero : step 0 = 0 := rfl

theorem step_of_pos (hn : 0 < n) : step n = 2 ^ (n.log2 + 1022) := if_neg hn.ne'

theorem step_pos (hn : 0 < n) : 0 < step n := by
  rw [step_of_pos hn]
  exact Nat.two_pow_pos _

theorem spacing_whole_add {r : Nat} (hn : 0 < n) (hr : r < unit) :
    spacing (n * unit + r) = step n := by
  have hexp : n.log2 + 1074 - 52 = n.log2 + 1022 := by omega
  rw [spacing, log2_whole_add hn hr, step_of_pos hn, hexp]

theorem spacing_whole (hn : 0 < n) : spacing (n * unit) = step n := by
  rw [← Nat.add_zero (n * unit), spacing_whole_add hn unit_pos]

/-- Whole numbers of 53 bits are numbers. -/
theorem rounded_whole (hn : n < 2 ^ 53) : rounded (n * unit) = n * unit := by
  rcases Nat.eq_zero_or_pos n with rfl | hpos
  · rw [Nat.zero_mul]
    rfl
  · have hlog : n.log2 < 53 := (Nat.log2_lt hpos.ne').mpr hn
    apply rounded_of_dvd
    rw [spacing_whole hpos, step_of_pos hpos]
    exact Dvd.dvd.mul_left (two_pow_dvd_unit (by omega)) n

/-- A whole number may be scaled before it is counted. -/
theorem scaled_eq_whole (k : Nat) {j : Nat} (hj : j ≤ 1074) :
    k * 2 ^ j * 2 ^ (-(j : Int) + 1074).toNat = k * unit := by
  have hexp : (-(j : Int) + 1074).toNat = 1074 - j := by omega
  rw [hexp, unit_eq_mul hj, Nat.mul_assoc]

/-- A whole number of 53 bits is itself. -/
theorem measures_toFloat (hn : n < 2 ^ 53) : Measures n.toUInt64.toFloat (n * unit) := by
  rcases Nat.eq_zero_or_pos n with rfl | hpos
  · rw [Nat.zero_mul]
    exact measures_of_zero (s := .positive) rfl
  · have hlog : n.log2 < 53 := (Nat.log2_lt hpos.ne').mpr hn
    have hmodel := toModel_toFloat hn
    rw [ofNat_eq_round hpos hn] at hmodel
    have hbits := log2_mul_two_pow hpos (52 - n.log2)
    have hread := measures_of_exact hmodel (by omega) (by omega) (by omega)
    rwa [scaled_eq_whole n (by omega), rounded_whole hn] at hread

/-- A number whose bits spell a whole number. -/
theorem measures_of_bits {j : Nat} (hj : j ≤ 1074) (hm : 0 < k * 2 ^ j)
    (hx : x.toModel.unpack = .finite .positive (k * 2 ^ j) (-j) hm) : Measures x (k * unit) := by
  have hread := measures_of_finite hx (by omega)
  rwa [scaled_eq_whole k hj] at hread

/-- Whole numbers of 53 bits are read as they are. -/
theorem measures_ofNat (hn : n < 2 ^ 53) : Measures (Float.ofNat n) (n * unit) := by
  have hone : Measures (Float.ofBits 0x3FF0000000000000) (1 * unit) :=
    measures_of_bits (j := 52) (by decide) (by decide) rfl
  have hwhole := measures_toFloat hn
  rw [ofNat_eq_mul_one hn]
  rcases Nat.eq_zero_or_pos n with rfl | hpos
  · rw [Nat.zero_mul] at hwhole ⊢
    exact hwhole.zero_mul hone
  · have hlog : n.log2 < 53 := (Nat.log2_lt hpos.ne').mpr hn
    have hresult := hwhole.mul (le_log2_whole hpos) hone Nat.one_pos (by
      rw [Nat.mul_one, log2_whole hpos]
      omega)
    rwa [Nat.mul_one, rounded_whole hn] at hresult

/-! ## Steps -/

/-- Between whole numbers of 32 bits there are more than two million steps. -/
theorem step_dvd_unit (hn : 0 < n) (hn' : n < 2 ^ 32) : 2 ^ 21 * step n ∣ unit := by
  have hlog : n.log2 < 32 := (Nat.log2_lt hn.ne').mpr hn'
  rw [step_of_pos hn, ← Nat.pow_add]
  exact two_pow_dvd_unit (by omega)

theorem step_le_unit (hn : n < 2 ^ 32) : 2 ^ 21 * step n ≤ unit := by
  rcases Nat.eq_zero_or_pos n with rfl | hpos
  · exact Nat.zero_le _
  · exact Nat.le_of_dvd unit_pos (step_dvd_unit hpos hn)

theorem step_eq_step (hn : 0 < n) (hm : 0 < m) (h : n.log2 = m.log2) : step n = step m := by
  rw [step_of_pos hn, step_of_pos hm, h]

theorem step_mono (hn : 0 < n) (h : n ≤ m) : step n ≤ step m := by
  have hlog := log2_le_log2 hn h
  rw [step_of_pos hn, step_of_pos (hn.trans_le h)]
  exact Nat.pow_le_pow_right (by decide) (by omega)

/-- Beyond a power of two, a step is twice as long. -/
theorem two_mul_step_le (hn : 0 < n) (hm : 0 < m) (h : n.log2 < m.log2) :
    2 * step n ≤ step m := by
  rw [step_of_pos hn, step_of_pos hm, ← Nat.pow_succ']
  exact Nat.pow_le_pow_right (by decide) (by omega)

/-! ## Almost whole numbers -/

/-- The multiple of the least number is `k` steps off the whole number `n` at most. -/
structure Near (k s n : Nat) : Prop where
  le : s ≤ n * unit + k * step n
  ge : n * unit ≤ s + k * step n

namespace Near

theorem mono (h : Near k s n) {l : Nat} (hl : k ≤ l) : Near l s n := by
  obtain ⟨hle, hge⟩ := h
  have hsteps := Nat.mul_le_mul_right (step n) hl
  exact ⟨by omega, by omega⟩

theorem eq_zero (h : Near k s 0) : s = 0 := by
  have hle := h.le
  rw [step_zero, Nat.zero_mul, Nat.mul_zero] at hle
  exact Nat.le_zero.mp hle

/-- What should be whole and is not zero has all bits. -/
theorem two_pow_le (h : Near k s n) (hk : k ≤ 2) (hn : 0 < n) (hn' : n < 2 ^ 32) : 2 ^ 52 ≤ s := by
  have hge := (h.mono hk).ge
  have hstep := step_le_unit hn'
  have hunit : unit ≤ n * unit := Nat.le_mul_of_pos_left unit hn
  have hbits : 2 ^ 53 ≤ 1 * unit := two_pow_le_whole (by decide) Nat.one_pos
  omega

theorem eq_zero_or_two_pow_le (h : Near k s n) (hk : k ≤ 2) (hn : n < 2 ^ 32) :
    s = 0 ∨ 2 ^ 52 ≤ s := by
  rcases Nat.eq_zero_or_pos n with rfl | hpos
  · exact Or.inl h.eq_zero
  · exact Or.inr (h.two_pow_le hk hpos hn)

end Near

/-- A few steps above a whole number is a number. -/
theorem rounded_whole_add (hn : 0 < n) (hn' : n < 2 ^ 32) (hk : k < 2 ^ 21) :
    rounded (n * unit + k * step n) = n * unit + k * step n := by
  have hstep := step_le_unit hn'
  have hpos := step_pos hn
  have hfew : k * step n < 2 ^ 21 * step n := Nat.mul_lt_mul_of_pos_right hk hpos
  have hdvd : step n ∣ unit := (Nat.dvd_mul_left ..).trans (step_dvd_unit hn hn')
  apply rounded_of_dvd
  rw [spacing_whole_add hn (by omega)]
  exact Nat.dvd_add (hdvd.mul_left n) (Nat.dvd_mul_left ..)

/-- A few steps below a whole number is a number: below a power of two, steps get no longer. -/
theorem rounded_whole_sub (hn : 0 < n) (hn' : n < 2 ^ 32) :
    rounded (n * unit - k * step n) = n * unit - k * step n := by
  rcases Nat.eq_zero_or_pos (n * unit - k * step n) with hzero | hpos
  · rw [hzero]
    rfl
  · have hdvd : step n ∣ unit := (Nat.dvd_mul_left ..).trans (step_dvd_unit hn hn')
    have hspacing := spacing_dvd_spacing hpos (Nat.sub_le ..)
    rw [spacing_whole hn] at hspacing
    exact rounded_of_dvd
      (Nat.dvd_sub (hspacing.trans (hdvd.mul_left n)) (hspacing.trans (Nat.dvd_mul_left ..)))

/-- **Rounding does not add to a distance** of full steps. -/
theorem Near.rounded (h : Near k s n) (hn : 0 < n) (hn' : n < 2 ^ 32) (hk : k < 2 ^ 21) :
    Near k (rounded s) n := by
  obtain ⟨hle, hge⟩ := h
  constructor
  · rw [← rounded_whole_add hn hn' hk]
    exact rounded_mono hle
  · have hbelow := rounded_mono (Nat.sub_le_of_le_add hge)
    rw [rounded_whole_sub hn hn'] at hbelow
    omega

/-! ## Sums -/

/-- Beside a whole number, everything within half a step of an even place is rounded to it. -/
theorem rounded_eq_of_beside {r r' : Nat} (hn : 0 < n) (hn' : n < 2 ^ 32) (hr : r < unit)
    (hr' : r' < unit) (heven : 2 * step n ∣ r) (hle : 2 * r' ≤ 2 * r + step n)
    (hge : 2 * r ≤ 2 * r' + step n) : rounded (n * unit + r') = n * unit + r := by
  have hspacing := spacing_whole_add hn hr
  have hdvd : 2 * step n ∣ unit :=
    (Nat.mul_dvd_mul_right (by decide) _).trans (step_dvd_unit hn hn')
  apply rounded_eq_of_near
  · rw [hspacing]
    exact Nat.dvd_add (hdvd.mul_left n) heven
  · rw [log2_whole_add hn hr, log2_whole_add hn hr']
  · rw [hspacing]
    omega
  · rw [hspacing]
    omega

/-- Between the same powers of two, half a step more is rounded away. -/
theorem Near.rounded_of_half {w : Nat} (hn : 1 < n) (hn' : n < 2 ^ 32)
    (hlog : (n - 1).log2 = n.log2) (hw : 2 * w ≤ step n) (hle : s ≤ n * unit + 2 * step n + w)
    (hge : n * unit ≤ s + 2 * step n + w) : Near 2 (Exact.rounded s) n := by
  have hpos : 0 < n := by omega
  have hbefore : 0 < n - 1 := by omega
  have hstep := step_le_unit hn'
  have hsame : step (n - 1) = step n := step_eq_step hbefore hpos hlog
  constructor
  · by_cases hfar : n * unit + 2 * step n < s
    · obtain ⟨r, rfl⟩ := Nat.exists_eq_add_of_le (show n * unit ≤ s by omega)
      have hplace : Exact.rounded (n * unit + r) = n * unit + 2 * step n :=
        rounded_eq_of_beside hpos hn' (by omega) (by omega) (Nat.dvd_refl _) (by omega) (by omega)
      exact hplace.le
    · rw [← rounded_whole_add hpos hn' (by decide)]
      exact rounded_mono (by omega)
  · have hsplit : n * unit = (n - 1) * unit + unit := by
      rw [← Nat.succ_mul, Nat.succ_eq_add_one, Nat.sub_add_cancel hpos]
    by_cases hfar : s < n * unit - 2 * step n
    · -- The place two steps below is counted from the whole number before, where steps are as long.
      obtain ⟨r, rfl⟩ := Nat.exists_eq_add_of_le (show (n - 1) * unit ≤ s by omega)
      have heven : 2 * step n ∣ unit - 2 * step n :=
        Nat.dvd_sub ((Nat.mul_dvd_mul_right (by decide) _).trans (step_dvd_unit hpos hn'))
          (Nat.dvd_refl _)
      have hplace : Exact.rounded ((n - 1) * unit + r) = (n - 1) * unit + (unit - 2 * step n) :=
        rounded_eq_of_beside hbefore (by omega) (by omega) (by omega) (hsame ▸ heven) (by omega)
          (by omega)
      omega
    · have hbelow := rounded_mono (not_lt.mp hfar)
      rw [rounded_whole_sub hpos hn'] at hbelow
      omega

/-- **The error of a running sum does not grow.** -/
theorem Near.rounded_add (hs : Near 2 s n) (ht : Near 1 t m) (hn : 0 < n) (hm : 0 < m)
    (hsum : n + m < 2 ^ 32) : Near 2 (Exact.rounded (s + t)) (n + m) := by
  obtain ⟨hsle, hsge⟩ := hs
  obtain ⟨htle, htge⟩ := ht
  have hpos : 0 < n + m := by omega
  have hsplit : (n + m) * unit = n * unit + m * unit := Nat.add_mul ..
  rcases Nat.lt_or_eq_of_le (log2_le_log2 hn (Nat.le_add_right n m)) with hlt | heq
  · -- The step doubles.
    have hstep := two_mul_step_le hn hpos hlt
    have hstep' := step_mono hm (Nat.le_add_left m n)
    have hnear : Near 2 (s + t) (n + m) := ⟨by omega, by omega⟩
    exact hnear.rounded hpos hsum (by decide)
  · -- The step stays, and what is added is shorter by a bit.
    have hstep : step n = step (n + m) := step_eq_step hn hpos heq
    have hshort : m.log2 < (n + m).log2 := by
      by_contra hlong
      have hm' := Nat.log2_self_le hm.ne'
      have hn' := Nat.log2_self_le hn.ne'
      have hlog := log2_le_log2 hm (Nat.le_add_left m n)
      have hlt : n + m < 2 ^ ((n + m).log2 + 1) := Nat.lt_log2_self
      have hm'' : m.log2 = n.log2 := by omega
      rw [hm''] at hm'
      rw [← heq, Nat.pow_succ] at hlt
      omega
    have hbefore : (n + m - 1).log2 = (n + m).log2 := by
      have hlo := log2_le_log2 hn (show n ≤ n + m - 1 by omega)
      have hhi := log2_le_log2 (show 0 < n + m - 1 by omega) (Nat.sub_le (n + m) 1)
      omega
    exact Near.rounded_of_half (by omega) hsum hbefore (two_mul_step_le hm hpos hshort) (by omega)
      (by omega)

/-! ## Numbers -/

variable {y : Float}

/-- The number is `k` steps off the whole number `n` at most. -/
def Counts (k : Nat) (x : Float) (n : Nat) : Prop := ∃ s, Measures x s ∧ Near k s n

/-- The number is not below `q`. -/
def Covers (x : Float) (q : ℚ) : Prop := ∃ v, (ofFloat x).value? = some v ∧ q ≤ v

theorem unit_mul_least : (unit : ℚ) * least = 1 := by
  rw [unit, least, Nat.cast_pow, Nat.cast_ofNat, ← zpow_natCast, ← zpow_add₀ (by norm_num)]
  norm_num

theorem covers_iff (hx : Measures x s) : Covers x n ↔ n * unit ≤ s := by
  have hscaled : (n : ℚ) ≤ s * least ↔ n * unit ≤ s := by
    rw [← mul_one (n : ℚ), ← unit_mul_least, ← mul_assoc, mul_le_mul_iff_left₀ least_pos,
      ← Nat.cast_mul, Nat.cast_le]
  constructor
  · rintro ⟨v, hv, hle⟩
    cases hx.symm.trans hv
    exact hscaled.mp hle
  · intro hle
    exact ⟨_, hx, hscaled.mpr hle⟩

/-- A sum starts at zero. -/
theorem counts_zero : Counts 2 ((0 : Nat) : Float) 0 ∧ Covers ((0 : Nat) : Float) (0 : Nat) := by
  have hzero : Measures ((0 : Nat) : Float) (0 * unit) := measures_ofNat (by decide)
  have hnear : Near 2 (0 * unit) 0 := ⟨Nat.le_add_right .., Nat.le_add_right ..⟩
  exact ⟨⟨_, hzero, hnear⟩, (covers_iff hzero).mpr (Nat.le_refl _)⟩

/-- Sums of whole numbers below `2 ^ 32` are far from the end of the range. -/
theorem Near.log2_add_le (hs : Near 2 s n) (ht : Near 1 t m) (hn : 0 < n) (hsum : n + m < 2 ^ 32) :
    (s + t).log2 ≤ 2096 := by
  have hn' : n < 2 ^ 32 := by omega
  have hm' : m < 2 ^ 32 := by omega
  have hstep := step_le_unit hn'
  have hstep' := step_le_unit hm'
  obtain ⟨hsle, hsge⟩ := hs
  have htle := ht.le
  have hunit : unit ≤ n * unit := Nat.le_mul_of_pos_left unit hn
  have hpos := unit_pos
  have hlarge : s + t ≤ (n + m) * unit + unit := by
    rw [Nat.add_mul]
    omega
  have hmost : s + t ≤ 2 ^ 32 * unit := by
    calc s + t ≤ (n + m + 1) * unit := by rwa [Nat.succ_mul]
      _ ≤ 2 ^ 32 * unit := Nat.mul_le_mul_right unit hsum
  have hlog := log2_le_log2 (show 0 < s + t by omega) hmost
  rw [log2_whole (by decide), Nat.log2_two_pow] at hlog
  omega

/-- One step of a running sum. -/
theorem exists_measures_add (hx : Measures x s) (hs : Near 2 s n) (hy : Measures y t)
    (ht : Near 1 t m) (hsum : n + m < 2 ^ 32) :
    ∃ r, Measures (x + y) r ∧ Near 2 r (n + m) ∧
      (n * unit ≤ s → m * unit ≤ t → (n + m) * unit ≤ r) := by
  rcases Nat.eq_zero_or_pos n with rfl | hn
  · rw [Nat.zero_add] at hsum ⊢
    rw [hs.eq_zero] at hx
    exact ⟨t, hx.zero_add hy (ht.eq_zero_or_two_pow_le (by decide) hsum), ht.mono (by decide),
      fun _ hle => hle⟩
  · rcases Nat.eq_zero_or_pos m with rfl | hm
    · rw [Nat.add_zero] at hsum ⊢
      rw [ht.eq_zero] at hy
      exact ⟨s, hx.add_zero (hs.eq_zero_or_two_pow_le (by decide) hsum) hy, hs, fun hle _ => hle⟩
    · have hresult := hx.add (hs.two_pow_le (by decide) hn (by omega)) hy
        (ht.two_pow_le (by decide) hm (by omega)) (hs.log2_add_le ht hn hsum)
      refine ⟨_, hresult, hs.rounded_add ht hn hm hsum, fun hsle htle => ?_⟩
      rw [← rounded_whole (by omega), Nat.add_mul]
      exact rounded_mono (Nat.add_le_add hsle htle)

/-- **A running sum of almost whole numbers is almost whole**, and it reaches the whole sum where
all that is summed up does. -/
theorem Counts.foldl {ys : List Float} {ms : List Nat} (hx : Counts 2 x n)
    (hys : List.Forall₂ (Counts 1) ys ms) (hsum : n + ms.sum < 2 ^ 32) :
    Counts 2 (ys.foldl (· + ·) x) (n + ms.sum) ∧
      (Covers x n → List.Forall₂ (fun y m => Covers y (m : Nat)) ys ms →
        Covers (ys.foldl (· + ·) x) (n + ms.sum : Nat)) := by
  induction hys generalizing x n with
  | nil => exact ⟨hx, fun hcovers _ => hcovers⟩
  | @cons y m ys ms hy _ ih =>
    obtain ⟨s, hs, hnear⟩ := hx
    obtain ⟨t, ht, hnear'⟩ := hy
    rw [List.sum_cons, ← Nat.add_assoc] at hsum ⊢
    obtain ⟨r, hr, hresult, hreaches⟩ := exists_measures_add hs hnear ht hnear' (by omega)
    obtain ⟨hcounts, hcovers⟩ := ih ⟨r, hr, hresult⟩ hsum
    refine ⟨hcounts, fun hcovered hall => ?_⟩
    obtain ⟨hfirst, hrest⟩ := List.forall₂_cons.mp hall
    rw [covers_iff hs] at hcovered
    rw [covers_iff ht] at hfirst
    exact hcovers ((covers_iff hr).mpr (hreaches hcovered hfirst)) hrest

/-! ## Whole parts -/

theorem Measures.pos (hx : Measures x s) (hs : 0 < s) : 0.0 < x := by
  rcases hx.cases with ⟨rfl, -⟩ | ⟨m, q, hm, hparts, -⟩
  · exact absurd hs (Nat.lt_irrefl 0)
  · have hread : ofFloat x = .finite false m q := by
      rw [ofFloat_eq, hparts]
      rfl
    have hzero : rank (ofFloat 0.0) = 0 := by decide +kernel
    rw [lt_iff_rank_lt (by decide +kernel) (by rw [hread]; exact Exact.noConfusion), hzero, hread]
    exact Int.natCast_pos.mpr (magnitude_pos q hm)

theorem Counts.pos (h : Counts 2 x n) (hn : 0 < n) (hn' : n < 2 ^ 32) : 0.0 < x := by
  obtain ⟨s, hs, hnear⟩ := h
  have hbits := hnear.two_pow_le (by decide) hn hn'
  exact hs.pos (by omega)

/-- The whole part is the quotient by the unit. -/
theorem toCount32_eq (hx : Measures x s) :
    toCount32 .towardZero x = min count32Max (s / unit) := by
  rcases hx.cases with ⟨rfl, sign, hparts⟩ | ⟨m, q, hm, hparts, -, ⟨hq, -⟩, -, rfl⟩
  · rw [toCount32, ofFloat_eq, hparts, Nat.zero_div, Nat.min_zero]
    simp [ofUnpacked, toInt, numerator, Rounding.magnitude, clamp, signed]
  · rw [toCount32, ofFloat_eq, hparts]
    have hwhole : Rounding.towardZero.magnitude false (numerator m q) (denominator q) =
        m * 2 ^ (q + 1074).toNat / unit := magnitude_eq_multiples .towardZero false m hq
    change (clamp 0 count32Max
      (Rounding.towardZero.magnitude false (numerator m q) (denominator q) : Int)).toNat = _
    rw [hwhole]
    generalize m * 2 ^ (q + 1074).toNat / unit = whole
    unfold clamp
    omega

/-- **Whole parts** of almost whole numbers are whole or one too small, and whole exactly if the
whole number is reached. -/
theorem Counts.toCount32 (h : Counts 2 x n) (hn : 0 < n) (hn' : n < 2 ^ 32) :
    (toCount32 .towardZero x = n ∨ toCount32 .towardZero x + 1 = n) ∧
      (toCount32 .towardZero x = n ↔ Covers x n) := by
  obtain ⟨s, hs, hnear⟩ := h
  have hstep := step_le_unit hn'
  have hpos := step_pos hn
  obtain ⟨hle, hge⟩ := hnear
  have hmax : count32Max = 2 ^ 32 - 1 := rfl
  rw [toCount32_eq hs, covers_iff hs, ← Nat.le_div_iff_mul_le unit_pos]
  have habove : s / unit < n + 1 := by
    rw [Nat.div_lt_iff_lt_mul unit_pos, Nat.succ_mul]
    omega
  have hbelow : n - 1 ≤ s / unit := by
    rw [Nat.le_div_iff_mul_le unit_pos, Nat.sub_mul, Nat.one_mul]
    omega
  constructor
  · omega
  · omega

end Exact
end Binary64
end HubDispatch
