import HubDispatch.Proofs.Binary64.Sums
import HubDispatch.Proofs.Calendar.Timestamp

/-!
# Hours of whole seconds

Hours are written down as whole seconds. Those that are next to a whole number of seconds
(`ComesTo`) are written as this number, and the sum of two as the sum of theirs (`SumsTo`).

That holds as far as the calendar reaches. Large hours are spaced wider than seconds, so sums of
them can be seconds off, but they stay out of reach, on the same side. Numbers of seconds are told
apart within reach only (`Agree`); every timestamp lies there (`natAbs_secondsOf_le`).
-/

namespace HubDispatch
namespace Instant

open Binary64.Exact

variable {x y : Float} {z m n : Int}

/-- More hours than the calendar has on either side of a date. -/
def reach : Int := 2 ^ 34

/-- The same seconds within reach. -/
def Agree (m n : Int) : Prop :=
  m = n ∨ (reach * 3600 ≤ m ∧ reach * 3600 ≤ n) ∨ (m ≤ -(reach * 3600) ∧ n ≤ -(reach * 3600))

/-- The hours are a whole number of seconds, up to an eighth. -/
def ComesTo (x : Float) (n : Int) : Prop :=
  ∃ v, (ofFloat x).value? = some v ∧ |v * 3600 - n| ≤ 1 / 8

/-- The hours are nearest to a whole number of seconds, up to a quarter. -/
def SumsTo (x : Float) (n : Int) : Prop :=
  ∃ z, Nearest x z ∧ |(z : ℚ) * least * 3600 - n| ≤ 1 / 4

/-! ## Out of reach -/

theorem reach_eq : (reach : ℚ) = 2 ^ 34 := by norm_num [reach]

theorem spells_hour : Spells 3600.0 3600 41 := ⟨⟨by decide, by rfl⟩, by decide⟩

theorem secondsOf_mono (h : x ≤ y) : secondsOf x ≤ secondsOf y := by
  obtain ⟨hpos, hparts⟩ := spells_hour.parts
  exact toInt64_mono .halfAway (mul_le_mul_of_pos_right hparts h)

theorem secondsOf_reach : secondsOf (Float.ofInt reach) = reach * 3600 := by decide +kernel

theorem secondsOf_neg_reach : secondsOf (Float.ofInt (-reach)) = -(reach * 3600) := by
  decide +kernel

theorem amounts_reach : Amounts (Float.ofInt reach) (reach * unit) :=
  isWhole_iff.mp (isWhole_ofInt (by decide))

theorem amounts_day : Amounts 24.0 (24 * unit) := by
  show Amounts (Float.ofInt 24) (24 * unit)
  exact isWhole_iff.mp (isWhole_ofInt (by decide))

/-- The number nearest to a multiple is next to it, or both are out of reach on the same side. -/
theorem within_or_beyond (h : Nearest x z) :
    (|(z : ℚ) * least| ≤ reach ∧
        ∃ c, (ofFloat x).value? = some c ∧ |c - z * least| ≤ 1 / 2 ^ 19) ∨
      ((reach : ℚ) ≤ z * least ∧ Float.ofInt reach ≤ x) ∨
      ((z : ℚ) * least ≤ -reach ∧ x ≤ Float.ofInt (-reach)) := by
  have hscale : ∀ {a b : Int}, a ≤ b * unit → (a : ℚ) * least ≤ b := by
    intro a b hle
    rw [← mul_unit_mul_least b]
    exact mul_le_mul_of_nonneg_right (Int.cast_le.mpr hle) least_pos.le
  have hscale' : ∀ {a b : Int}, b * unit ≤ a → (b : ℚ) ≤ a * least := by
    intro a b hle
    rw [← mul_unit_mul_least b]
    exact mul_le_mul_of_nonneg_right (Int.cast_le.mpr hle) least_pos.le
  by_cases hup : reach * unit ≤ z
  · exact Or.inr (Or.inl ⟨hscale' hup, amounts_reach.nearest.1.le h hup⟩)
  · by_cases hdown : z ≤ -reach * unit
    · refine Or.inr (Or.inr ⟨?_, h.le (nearest_ofInt (-reach)) hdown⟩)
      rw [← Int.cast_neg]
      exact hscale hdown
    · have hvalue : |(z : ℚ) * least| ≤ reach := by
        rw [abs_le, ← Int.cast_neg]
        exact ⟨hscale' (not_le.mp hdown).le, hscale (not_le.mp hup).le⟩
      refine Or.inl ⟨hvalue, ?_⟩
      rw [reach_eq] at hvalue
      obtain ⟨c, hc, hnear⟩ := h.value rfl (hvalue.trans (by norm_num))
      refine ⟨c, hc, hnear.trans ?_⟩
      rw [div_le_div_iff₀ (by norm_num) (by norm_num)]
      linarith

/-- **What is nearest to whole seconds** is written as these seconds. -/
theorem agree_secondsOf (h : Nearest x z) (hn : |z * least * 3600 - n| ≤ 3 / 8) :
    Agree (secondsOf x) n := by
  rw [abs_le] at hn
  rcases within_or_beyond h with ⟨hvalue, c, hc, hnear⟩ | ⟨hvalue, hle⟩ | ⟨hvalue, hle⟩
  · -- Rounding twice moves the seconds by less than what is missing to a half.
    rw [reach_eq, abs_le] at hvalue
    rw [abs_le] at hnear
    have hrange : |c * (3600 : Nat)| ≤ 2 ^ 46 := by
      rw [abs_le]
      push_cast
      constructor <;> linarith
    obtain ⟨e, he, hproduct⟩ := value_mul hc spells_hour (hrange.trans (by norm_num))
    have hclose : |e - n| < 1 / 2 := by
      have hsmall := hproduct.trans (div_le_div_of_nonneg_right hrange (by norm_num))
      push_cast at hsmall
      rw [abs_le] at hsmall
      rw [abs_lt]
      constructor <;> linarith
    have hseconds : secondsOf x = clamp Binary64.int64Min Binary64.int64Max n :=
      toInt_halfAway he hclose
    rw [hseconds]
    unfold Agree clamp reach Binary64.int64Min Binary64.int64Max
    omega
  · have hseconds := secondsOf_mono hle
    rw [secondsOf_reach] at hseconds
    have hn' : ((reach * 3600 : Int) : ℚ) < (n + 1 : Int) := by
      push_cast
      linarith
    exact Or.inr (Or.inl ⟨hseconds, Int.lt_add_one_iff.mp (Int.cast_lt.mp hn')⟩)
  · have hseconds := secondsOf_mono hle
    rw [secondsOf_neg_reach] at hseconds
    have hn' : (n : ℚ) < (-(reach * 3600) + 1 : Int) := by
      push_cast
      linarith
    exact Or.inr (Or.inr ⟨hseconds, Int.lt_add_one_iff.mp (Int.cast_lt.mp hn')⟩)

/-! ## Whole seconds -/

/-- Whole hours are whole seconds. -/
theorem comesTo_ofInt (hn : n.natAbs < 2 ^ 53) : ComesTo (Float.ofInt n) (n * 3600) := by
  refine ⟨n, isWhole_ofInt hn, ?_⟩
  push_cast
  rw [sub_self, abs_zero]
  norm_num

theorem ComesTo.agree (h : ComesTo x n) : Agree (secondsOf x) n := by
  obtain ⟨v, hv, hn⟩ := h
  obtain ⟨z, hz, rfl⟩ := exists_amounts hv
  exact agree_secondsOf hz.nearest.1 (hn.trans (by norm_num))

/-- Whole seconds are in the order of their hours. -/
theorem ComesTo.le_of_not_lt (hx : ComesTo x m) (hy : ComesTo y n) (h : ¬ x < y) : n ≤ m := by
  obtain ⟨u, hu, hm⟩ := hx
  obtain ⟨v, hv, hn⟩ := hy
  rw [lt_iff_of_value hu hv, not_lt] at h
  rw [abs_le] at hm hn
  have hlt : (n : ℚ) < (m + 1 : Int) := by
    push_cast
    linarith
  exact Int.lt_add_one_iff.mp (Int.cast_lt.mp hlt)

theorem ComesTo.le_of_lt (hx : ComesTo x m) (hy : ComesTo y n) (h : x < y) : m ≤ n := by
  obtain ⟨u, hu, -⟩ := id hx
  obtain ⟨v, hv, -⟩ := id hy
  refine hy.le_of_not_lt hx ?_
  rw [lt_iff_of_value hv hu, not_lt]
  exact ((lt_iff_of_value hu hv).mp h).le

theorem ComesTo.unique (h : ComesTo x m) (h' : ComesTo x n) : m = n :=
  le_antisymm (h'.le_of_not_lt h (not_lt_self x)) (h.le_of_not_lt h' (not_lt_self x))

theorem ComesTo.add (hx : ComesTo x m) (hy : ComesTo y n) : SumsTo (x + y) (m + n) := by
  obtain ⟨u, hu, hm⟩ := hx
  obtain ⟨v, hv, hn⟩ := hy
  obtain ⟨z, hz, rfl⟩ := exists_amounts hu
  obtain ⟨w, hw, rfl⟩ := exists_amounts hv
  refine ⟨z + w, hz.add hw, ?_⟩
  rw [abs_le] at hm hn ⊢
  push_cast
  constructor <;> linarith

theorem sumsTo_zero : SumsTo 0.0 0 := by
  have hzero : Nearest (Float.ofInt 0) (0 * unit) := nearest_ofInt 0
  rw [Int.zero_mul] at hzero
  refine ⟨0, hzero, ?_⟩
  norm_num

theorem SumsTo.ne_nan (h : SumsTo x n) : ofFloat x ≠ .nan := by
  obtain ⟨z, hz, -⟩ := h
  exact hz.ne_nan

theorem SumsTo.agree (h : SumsTo x n) : Agree (secondsOf x) n := by
  obtain ⟨z, hz, hn⟩ := h
  exact agree_secondsOf hz (hn.trans (by norm_num))

/-! ## A day later -/

/-- What is out of reach is out of reach a day later. -/
theorem reach_le_add_day (h : Float.ofInt reach ≤ x) : Float.ofInt reach ≤ x + 24.0 := by
  have hreach := amounts_reach.nearest.1
  obtain ⟨-, hx⟩ := ne_nan_of_le h
  cases hparts : ofFloat x with
  | nan => exact absurd hparts hx
  | infinite negative =>
    have hsame : ofFloat (x + 24.0) = ofFloat x := by
      rw [ofFloat_add_of_infinite hparts amounts_day, hparts]
    rw [le_iff_rank_le hreach.ne_nan hx] at h
    rwa [le_iff_rank_le hreach.ne_nan (hsame ▸ hx), hsame]
  | finite negative m q =>
    have hz := amounts_of_finite hparts
    have hlarge := (amounts_reach.le_iff hz).mp h
    exact hreach.le (hz.add amounts_day) (by omega)

/-- **A day later** than whole seconds that are not negative, within reach. -/
theorem SumsTo.secondsOf_add_day (h : SumsTo x n) (hx : rank (ofFloat 0.0) ≤ rank (ofFloat x))
    (hday : (secondsOf (x + 24.0)).natAbs ≤ 2 ^ 44) :
    secondsOf (x + 24.0) = n + secondsPerDay := by
  obtain ⟨z, hz, hn⟩ := h
  rcases within_or_beyond hz with ⟨-, c, hc, hnear⟩ | ⟨-, hle⟩ | ⟨-, hle⟩
  · obtain ⟨w, hw, rfl⟩ := exists_amounts hc
    have hagree : Agree (secondsOf (x + 24.0)) (n + secondsPerDay) := by
      refine agree_secondsOf (hw.add amounts_day) ?_
      rw [abs_le] at hn hnear ⊢
      rw [Int.cast_add, add_mul, mul_unit_mul_least, secondsPerDay]
      push_cast
      constructor <;> linarith
    unfold Agree reach at hagree
    omega
  · have hlarge := secondsOf_mono (reach_le_add_day hle)
    rw [secondsOf_reach, reach] at hlarge
    omega
  · obtain ⟨hx', hreach⟩ := ne_nan_of_le hle
    have hneg : rank (ofFloat (Float.ofInt (-reach))) < rank (ofFloat 0.0) := by decide +kernel
    exact absurd (hx.trans ((le_iff_rank_le hx' hreach).mp hle)) (not_le.mpr hneg)

/-! ## The calendar -/

/-- **Timestamps lie within reach.** -/
theorem natAbs_secondsOf_le {date : Date} {text : String} (hdate : date.isValid = true)
    (h : format date x = some text) : (secondsOf x).natAbs ≤ 2 ^ 44 := by
  obtain ⟨hrange, hwell⟩ := Date.isValid_iff.mp hdate
  obtain ⟨chars, hchars, -⟩ := Option.map_eq_some_iff.mp h
  generalize secondsOf x = n at hchars ⊢
  rw [formatSeconds] at hchars
  obtain ⟨⟨-, hyear⟩, -⟩ := Option.ite_none_right_eq_some.mp hchars
  have hfew := natAbs_toDays_lt hwell hrange
  have hfew' := natAbs_toDays_lt (Date.wellFormed_ofDays _) hyear
  rw [Date.toDays_ofDays] at hfew'
  unfold secondsPerDay at hfew'
  omega

end Instant
end HubDispatch
