import HubDispatch.Proofs.Binary64.Rounding
import HubDispatch.Proofs.Binary64.Value

/-!
# Arithmetic on multiples of the least number

The least positive number is `2 ^ -1074`, and every number is a whole multiple of it. For numbers
that are not negative the multiple says it all (`Measures`). A sum has the rounded sum of the
multiples (`Measures.add`), a product with a whole number the rounded product (`Measures.mul`).
A quotient by a whole number is no whole multiple in general, but it lies within half a step of one
(`Measures.div`).
-/

namespace HubDispatch
namespace Binary64
namespace Exact

open Float.Model (UnpackedFloat Format totalExponent)
open Float.Model.UnpackedFloat

/-- The least positive number. -/
def least : ℚ := 2 ^ (-1074 : Int)

/-- How often the least number is in one. -/
def unit : Nat := 2 ^ 1074

/-- The number is `n` times the least positive one. -/
def Measures (x : Float) (n : Nat) : Prop := (ofFloat x).value? = some (n * least)

variable {x y : Float} {n k m : Nat} {q e : Int}

/-! ## Numbers that are taken apart -/

/-- A product with a power of two is counted in the least one. -/
theorem mul_two_zpow (m : Nat) (hq : -1074 ≤ q) :
    (m : ℚ) * 2 ^ q = ((m * 2 ^ (q + 1074).toNat : Nat) : ℚ) * least := by
  have hexp : (((q + 1074).toNat : Nat) : Int) + -1074 = q := by omega
  rw [Nat.cast_mul, Nat.cast_pow, Nat.cast_ofNat, least, mul_assoc, ← zpow_natCast,
    ← zpow_add₀ (by norm_num), hexp]

theorem two_pow_mul_unit (j : Nat) : 2 ^ j * unit = 2 ^ (j + 1074) := by
  rw [unit, Nat.pow_add]

theorem unit_pos : 0 < unit := by
  unfold unit
  positivity

theorem unit_eq_mul {j : Nat} (hj : j ≤ 1074) : unit = 2 ^ j * 2 ^ (1074 - j) := by
  rw [unit, ← Nat.pow_add, Nat.add_sub_cancel' hj]

/-- What a number is brought to by a rule, if both parts are counted in the least number. -/
theorem magnitude_eq_multiples (rule : Rounding) (negative : Bool) (m : Nat) (hq : -1074 ≤ q) :
    rule.magnitude negative (numerator m q) (denominator q) =
      rule.magnitude negative (m * 2 ^ (q + 1074).toNat) unit := by
  have hnumerator : numerator m q * 2 ^ (1074 - (-q).toNat) = m * 2 ^ (q + 1074).toNat := by
    have hexp : q.toNat + (1074 - (-q).toNat) = (q + 1074).toNat := by omega
    rw [numerator, Nat.mul_assoc, ← Nat.pow_add, hexp]
  have hdenominator : denominator q * 2 ^ (1074 - (-q).toNat) = unit :=
    (unit_eq_mul (by omega)).symm
  rw [← hnumerator, ← hdenominator, magnitude_mul_right _ _ _ _ (Nat.two_pow_pos _)]

theorem two_pow_dvd_unit {j : Nat} (hj : j ≤ 1074) : 2 ^ j ∣ unit :=
  ⟨_, unit_eq_mul hj⟩

theorem two_pow_le_whole {j : Nat} (hj : j ≤ 1074) (hk : 0 < k) : 2 ^ j ≤ k * unit :=
  (Nat.le_of_dvd unit_pos (two_pow_dvd_unit hj)).trans (Nat.le_mul_of_pos_left unit hk)

theorem log2_whole (hk : 0 < k) : (k * unit).log2 = k.log2 + 1074 := by
  rw [unit, log2_mul_two_pow hk]

theorem le_log2_whole (hk : 0 < k) : 1060 ≤ (k * unit).log2 := by
  rw [log2_whole hk]
  omega

theorem least_pos : 0 < least := zpow_pos (by norm_num) _

theorem natCast_mul_least_inj : (n : ℚ) * least = k * least ↔ n = k := by
  rw [mul_left_inj' least_pos.ne', Nat.cast_inj]

theorem measures_of_zero {s : Sign} (hx : x.toModel.unpack = .zero s) : Measures x 0 := by
  rw [Measures, ofFloat_eq, hx]
  cases s <;> simp [ofUnpacked, value?, isNegative, signed]

theorem measures_of_finite {hm : 0 < m} (hx : x.toModel.unpack = .finite .positive m q hm)
    (hq : -1074 ≤ q) : Measures x (m * 2 ^ (q + 1074).toNat) := by
  rw [Measures, ofFloat_eq, hx, ← mul_two_zpow m hq]
  rfl

/-- What a multiple of the least number is taken apart into. -/
theorem Measures.cases (h : Measures x n) :
    (n = 0 ∧ ∃ s, x.toModel.unpack = .zero s) ∨
      ∃ (m : Nat) (q : Int) (hm : 0 < m), x.toModel.unpack = .finite .positive m q hm ∧
        m < 2 ^ 53 ∧ (-1074 ≤ q ∧ q ≤ 971) ∧ (q = -1074 ∨ 2 ^ 52 ≤ m) ∧
        n = m * 2 ^ (q + 1074).toNat := by
  have hcanonical := canonical_ofFloat x
  rw [Measures, ofFloat_eq] at h
  rw [ofFloat_eq] at hcanonical
  cases hx : x.toModel.unpack with
  | notANumber =>
    rw [hx] at h
    cases h
  | infinity s =>
    rw [hx] at h
    cases h
  | zero s =>
    have hzero := measures_of_zero hx
    rw [Measures, ofFloat_eq] at hzero
    exact Or.inl ⟨natCast_mul_least_inj.mp (Option.some.inj (h.symm.trans hzero)), s, rfl⟩
  | finite s m q hm =>
    rw [hx] at h hcanonical
    obtain ⟨hbits, hq, hq', hnormal⟩ := hcanonical
    cases s with
    | positive =>
      refine Or.inr ⟨m, q, hm, rfl, hbits, ⟨hq, hq'⟩, hnormal, ?_⟩
      have hvalue : (m : ℚ) * 2 ^ q = n * least := Option.some.inj h
      rw [mul_two_zpow m hq] at hvalue
      exact (natCast_mul_least_inj.mp hvalue).symm
    | negative =>
      -- A negative value is no multiple of the least positive one.
      have hvalue : ((-(m : Int) : Int) : ℚ) * 2 ^ q = n * least := Option.some.inj h
      have hpos : (0 : ℚ) < m * 2 ^ q := mul_pos (Nat.cast_pos.mpr hm) (zpow_pos (by norm_num) q)
      have hnonneg : 0 ≤ n * least := mul_nonneg (Nat.cast_nonneg n) least_pos.le
      rw [← hvalue, Int.cast_neg, Int.cast_natCast, neg_mul] at hnonneg
      linarith

/-- A multiple that is not too small has all 53 bits. -/
theorem Measures.finite (h : Measures x n) (hn : 2 ^ 52 ≤ n) :
    ∃ (m : Nat) (q : Int) (hm : 0 < m), x.toModel.unpack = .finite .positive m q hm ∧
      (2 ^ 52 ≤ m ∧ m < 2 ^ 53) ∧ (-1074 ≤ q ∧ q ≤ 971) ∧ n.log2 = 52 + (q + 1074).toNat ∧
      n = m * 2 ^ (q + 1074).toNat := by
  rcases h.cases with ⟨rfl, -⟩ | ⟨m, q, hm, hx, hbits, hq, hnormal, rfl⟩
  · omega
  · have hlo : 2 ^ 52 ≤ m := by
      rcases hnormal with rfl | hnormal
      · have hone : (-1074 + 1074 : Int).toNat = 0 := rfl
        rw [hone, Nat.pow_zero, Nat.mul_one] at hn
        exact hn
      · exact hnormal
    have hlog : m.log2 = 52 := (Nat.log2_eq_iff hm.ne').mpr ⟨hlo, hbits⟩
    exact ⟨m, q, hm, hx, ⟨hlo, hbits⟩, hq, by rw [log2_mul_two_pow hm, hlog], rfl⟩

/-! ## Numbers that are rounded -/

/-- A number of 53 bits that is put together is the multiple it was made of. -/
theorem measures_of_pack {hm : 0 < m} (hx : x.toModel = Float.Model.pack (.finite .positive m q hm))
    (hlo : 2 ^ 52 ≤ m) (hhi : m < 2 ^ 53) (hq : -1074 ≤ q) (hq' : q ≤ 971) :
    Measures x (m * 2 ^ (q + 1074).toNat) := by
  have hparts : x.toModel.unpack = .finite .positive m q hm := by
    rw [hx]
    exact unpack_pack_finite _ hm hlo hhi hq hq'
  exact measures_of_finite hparts hq

/-- Rounding comes to the bits that are left after the first shift, also where these are one bit too
many. -/
theorem measures_of_shift {accuracy : Accuracy} {em : ExtendedMantissa}
    (hx : x.toModel =
      Float.Model.pack (roundWithAccuracy Format.binary64 .positive m e accuracy))
    (hfirst : shiftToTargetExponent Format.binary64 m e accuracy = (em, q))
    (hlo : 2 ^ 52 ≤ em.roundedMantissa) (hhi : em.roundedMantissa ≤ 2 ^ 53) (hq : -1074 ≤ q)
    (hq' : q ≤ 970) : Measures x (em.roundedMantissa * 2 ^ (q + 1074).toNat) := by
  rw [roundWithAccuracy_eq_assembled hfirst rfl] at hx
  generalize em.roundedMantissa = n at hlo hhi hx ⊢
  rcases Nat.lt_or_eq_of_le hhi with hlt | rfl
  · have hlog : n.log2 = 52 := (Nat.log2_eq_iff (by omega)).mpr ⟨hlo, hlt⟩
    rw [shiftToTargetExponent_eq _ (by omega) (by omega), hlog] at hx
    have hsame : q + (52 - 52 : Nat) = q := by omega
    rw [hsame] at hx
    have hpos : 0 < n := by omega
    exact measures_of_pack (hx.trans (congrArg _ (assembled_of_pos hpos))) hlo hlt hq (by omega)
  · have hlog : (2 ^ 53).log2 = 53 := Nat.log2_two_pow
    rw [shiftToTargetExponent_eq _ (by omega) (by omega), hlog] at hx
    have hpos : 0 < 2 ^ 52 := Nat.two_pow_pos 52
    have hcarried : Measures x (2 ^ 52 * 2 ^ (q + 1 + 1074).toNat) :=
      measures_of_pack (hx.trans (congrArg _ (assembled_of_pos hpos))) (by omega) (by omega)
        (by omega) (by omega)
    have hexp : (q + 1 + 1074).toNat = (q + 1074).toNat + 1 := by omega
    rw [hexp, Nat.pow_succ] at hcarried
    rw [Nat.pow_succ 2 52, Nat.mul_assoc, Nat.mul_comm 2]
    exact hcarried

/-- **A value that is known exactly** is rounded. -/
theorem measures_of_exact
    (hx : x.toModel = Float.Model.pack (roundWithAccuracy Format.binary64 .positive m e .exact))
    (hm : 52 ≤ m.log2) (he : -1074 ≤ e) (hrange : m.log2 + e ≤ 1022) :
    Measures x (rounded (m * 2 ^ (e + 1074).toNat)) := by
  have hkept := roundedMantissa_shiftRight m (m.log2 - 52)
  obtain ⟨hlo, hhi⟩ := kept_bounds hm
  rw [kept, ← hkept] at hlo hhi
  have hfirst := shiftToTargetExponent_eq .exact hm (show -1022 ≤ (m.log2 : Int) + e by omega)
  have hresult := measures_of_shift hx hfirst hlo hhi (by omega) (by omega)
  have hexp : (e + (m.log2 - 52 : Nat) + 1074).toNat = m.log2 - 52 + (e + 1074).toNat := by omega
  rw [hkept, hexp, Nat.pow_add, ← Nat.mul_assoc] at hresult
  rw [rounded_mul_two_pow hm]
  exact hresult

/-- The same for a value that may have fewer than 53 bits to start with. -/
theorem measures_of_round
    (hx : x.toModel = Float.Model.pack (UnpackedFloat.round Format.binary64 .positive m e))
    (hm : 0 < m) (he : -1074 ≤ e) (hnormal : -1022 ≤ m.log2 + e) (hrange : m.log2 + e ≤ 1022) :
    Measures x (rounded (m * 2 ^ (e + 1074).toNat)) := by
  have htarget := targetExponent_of_normal hnormal
  have hshift : (e - ((m.log2 : Int) + e - 52)).toNat = 52 - m.log2 := by omega
  unfold UnpackedFloat.round decreaseExponent at hx
  simp only [htarget, hshift, Nat.shiftLeft_eq] at hx
  have hlog := log2_mul_two_pow hm (52 - m.log2)
  have hresult := measures_of_exact hx (by omega) (by omega) (by omega)
  have hexp : 52 - m.log2 + (e - (52 - m.log2 : Nat) + 1074).toNat = (e + 1074).toNat := by omega
  rwa [Nat.mul_assoc, ← Nat.pow_add, hexp] at hresult

/-! ## Sums -/

theorem Measures.zero (h : Measures x 0) : ∃ s, x.toModel.unpack = .zero s := by
  rcases h.cases with ⟨-, hx⟩ | ⟨m, q, hm, -, -, -, -, hvalue⟩
  · exact hx
  · exact absurd hvalue (Nat.mul_pos hm (Nat.two_pow_pos _)).ne

theorem toModel_add (x y : Float) :
    (x + y).toModel =
      Float.Model.pack (UnpackedFloat.add Format.binary64 x.toModel.unpack y.toModel.unpack) := rfl

theorem measures_of_pack_zero {s : Sign} (hx : x.toModel = Float.Model.pack (.zero s)) :
    Measures x 0 := by
  apply measures_of_zero (s := s)
  rw [hx]
  cases s <;> rfl

/-- Nothing is lost where there is nothing to add. -/
theorem Measures.add_zero (hx : Measures x n) (hn : n = 0 ∨ 2 ^ 52 ≤ n) (hy : Measures y 0) :
    Measures (x + y) n := by
  obtain ⟨s', hy⟩ := hy.zero
  have hsum := toModel_add x y
  rw [hy] at hsum
  rcases hn with rfl | hn
  · obtain ⟨s, hx⟩ := hx.zero
    rw [hx] at hsum
    cases s <;> cases s' <;> exact measures_of_pack_zero hsum
  · obtain ⟨m, q, hm, hparts, ⟨hlo, hhi⟩, ⟨hq, hq'⟩, -, rfl⟩ := hx.finite hn
    rw [hparts] at hsum
    exact measures_of_pack hsum hlo hhi hq hq'

theorem Measures.zero_add (hx : Measures x 0) (hy : Measures y n) (hn : n = 0 ∨ 2 ^ 52 ≤ n) :
    Measures (x + y) n := by
  obtain ⟨s, hx⟩ := hx.zero
  have hsum := toModel_add x y
  rw [hx] at hsum
  rcases hn with rfl | hn
  · obtain ⟨s', hy⟩ := hy.zero
    rw [hy] at hsum
    cases s <;> cases s' <;> exact measures_of_pack_zero hsum
  · obtain ⟨m, q, hm, hparts, ⟨hlo, hhi⟩, ⟨hq, hq'⟩, -, rfl⟩ := hy.finite hn
    rw [hparts] at hsum
    exact measures_of_pack hsum hlo hhi hq hq'

/-- Two finite numbers are brought to the smaller exponent, added and rounded. -/
theorem add_finite {m' : Nat} {q' : Int} (hm : 0 < m) (hm' : 0 < m') :
    UnpackedFloat.add Format.binary64 (.finite .positive m q hm) (.finite .positive m' q' hm') =
      UnpackedFloat.round Format.binary64 .positive
        (m * 2 ^ (q - min q q').toNat + m' * 2 ^ (q' - min q q').toNat) (min q q') := by
  have hpos : 0 < m * 2 ^ (q - min q q').toNat := Nat.mul_pos hm (Nat.two_pow_pos _)
  have hcompare : compare (((m * 2 ^ (q - min q q').toNat : Nat) : Int) +
      ((m' * 2 ^ (q' - min q q').toNat : Nat) : Int)) 0 = .gt := compare_gt_iff_gt.mpr (by omega)
  unfold UnpackedFloat.add decreaseExponent
  simp only [Nat.shiftLeft_eq, Sign.apply]
  unfold UnpackedFloat.normalize
  rw [hcompare, ← Int.natCast_add]
  rfl

/-- **A sum** has the rounded sum of the multiples. -/
theorem Measures.add (hx : Measures x n) (hn : 2 ^ 52 ≤ n) (hy : Measures y k) (hk : 2 ^ 52 ≤ k)
    (hrange : (n + k).log2 ≤ 2096) : Measures (x + y) (rounded (n + k)) := by
  have hlog : 52 ≤ (n + k).log2 := (Nat.le_log2 (by omega)).mpr (by omega)
  obtain ⟨m, q, hm, hparts, -, ⟨hq, -⟩, -, rfl⟩ := hx.finite hn
  obtain ⟨m', q', hm', hparts', -, ⟨hq', -⟩, -, rfl⟩ := hy.finite hk
  have hsum := toModel_add x y
  rw [hparts, hparts', add_finite hm hm'] at hsum
  have hpos : 0 < m * 2 ^ (q - min q q').toNat := Nat.mul_pos hm (Nat.two_pow_pos _)
  -- What is counted in the smaller exponent is then counted in the least one.
  have hleft : m * 2 ^ (q + 1074).toNat =
      m * 2 ^ (q - min q q').toNat * 2 ^ (min q q' + 1074).toNat := by
    rw [Nat.mul_assoc, ← Nat.pow_add]
    congr 2
    omega
  have hright : m' * 2 ^ (q' + 1074).toNat =
      m' * 2 ^ (q' - min q q').toNat * 2 ^ (min q q' + 1074).toNat := by
    rw [Nat.mul_assoc, ← Nat.pow_add]
    congr 2
    omega
  rw [hleft, hright, ← Nat.add_mul] at hrange hlog ⊢
  rw [log2_mul_two_pow (by omega)] at hrange hlog
  exact measures_of_round hsum (by omega) (by omega) (by omega) (by omega)

/-! ## Products -/

theorem toModel_mul (x y : Float) :
    (x * y).toModel =
      Float.Model.pack (UnpackedFloat.mul Format.binary64 x.toModel.unpack y.toModel.unpack) := rfl

theorem Measures.zero_mul (hx : Measures x 0) (hy : Measures y k) : Measures (x * y) 0 := by
  obtain ⟨s, hx⟩ := hx.zero
  have hproduct := toModel_mul x y
  rw [hx] at hproduct
  rcases hy.cases with ⟨-, s', hy⟩ | ⟨m, q, hm, hy, -⟩
  · rw [hy] at hproduct
    exact measures_of_pack_zero hproduct
  · rw [hy] at hproduct
    exact measures_of_pack_zero hproduct

/-- Large multiples have no small exponent. -/
theorem Measures.finite_of_large (h : Measures x n) (hn : 1060 ≤ n.log2) :
    ∃ (m : Nat) (q : Int) (hm : 0 < m), x.toModel.unpack = .finite .positive m q hm ∧
      (2 ^ 52 ≤ m ∧ m < 2 ^ 53) ∧ -66 ≤ q ∧ n.log2 = 52 + (q + 1074).toNat ∧
      n = m * 2 ^ (q + 1074).toNat := by
  have hne : n ≠ 0 := by
    rintro rfl
    rw [Nat.log2_zero] at hn
    omega
  have hbits : 2 ^ 52 ≤ n := (Nat.le_log2 hne).mp (by omega)
  obtain ⟨m, q, hm, hparts, hm', ⟨hq, -⟩, hlog, hvalue⟩ := h.finite hbits
  exact ⟨m, q, hm, hparts, hm', by omega, hlog, hvalue⟩

/-- **A product with a whole number** has the rounded product. -/
theorem Measures.mul (hx : Measures x n) (hn : 1060 ≤ n.log2) (hy : Measures y (k * unit))
    (hk : 0 < k) (hrange : (n * k).log2 ≤ 2096) : Measures (x * y) (rounded (n * k)) := by
  obtain ⟨m, q, hm, hparts, ⟨hlo, hhi⟩, hq, -, hvalue⟩ := hx.finite_of_large hn
  obtain ⟨m', q', hm', hparts', ⟨hlo', hhi'⟩, hq', -, hvalue'⟩ :=
    hy.finite_of_large (le_log2_whole hk)
  have hproduct := toModel_mul x y
  rw [hparts, hparts'] at hproduct
  have hsame : n * k = m * m' * 2 ^ (q + q' + 1074).toNat := by
    have hexp : 2 ^ (q + q' + 1074).toNat * unit =
        2 ^ (q + 1074).toNat * 2 ^ (q' + 1074).toNat := by
      have hsum : (q + q' + 1074).toNat + 1074 = (q + 1074).toNat + (q' + 1074).toNat := by omega
      rw [two_pow_mul_unit, hsum, Nat.pow_add]
    apply Nat.eq_of_mul_eq_mul_right unit_pos
    rw [Nat.mul_assoc n, hvalue', hvalue, Nat.mul_assoc (m * m'), hexp]
    exact Nat.mul_mul_mul_comm ..
  have hbits : 2 ^ 52 * 2 ^ 52 ≤ m * m' := Nat.mul_le_mul hlo hlo'
  rw [← Nat.pow_add] at hbits
  have hlog : 104 ≤ (m * m').log2 := (Nat.le_log2 (Nat.mul_pos hm hm').ne').mpr hbits
  rw [hsame] at hrange ⊢
  rw [log2_mul_two_pow (Nat.mul_pos hm hm')] at hrange
  exact measures_of_exact hproduct (by omega) (by omega) (by omega)

/-! ## Quotients -/

theorem toModel_div (x y : Float) :
    (x / y).toModel =
      Float.Model.pack (UnpackedFloat.div Format.binary64 x.toModel.unpack y.toModel.unpack) := rfl

/-- Two numbers of 53 bits are divided with as many bits as needed. -/
theorem div_finite {m' : Nat} {q' : Int} (hm : 0 < m) (hm' : 0 < m') (hbits : m.log2 = 52)
    (hbits' : m'.log2 = 52) (hq : -1021 ≤ q - q') :
    UnpackedFloat.div Format.binary64 (.finite .positive m q hm) (.finite .positive m' q' hm') =
      roundWithAccuracy Format.binary64 .positive (m * 2 ^ 53 / m') (q - q' - 53)
        (accuracyOfFraction (m * 2 ^ 53 % m') m') := by
  have htarget : min (q - q') (Format.binary64.targetExponent
      (totalExponent m q - totalExponent m' q')) = q - q' - 53 := by
    rw [targetExponent_eq, totalExponent, totalExponent, hbits, hbits']
    omega
  have hshift : (q - q' - (q - q' - 53)).toNat = 53 := by omega
  unfold UnpackedFloat.div divCore
  simp only [htarget, hshift, Nat.shiftLeft_eq]
  rfl

/-- A quotient of numbers of 53 bits has 53 or 54 bits. -/
theorem log2_quotient {m' : Nat} (hlo : 2 ^ 52 ≤ m) (hhi : m < 2 ^ 53) (hlo' : 2 ^ 52 ≤ m')
    (hhi' : m' < 2 ^ 53) : 52 ≤ (m * 2 ^ 53 / m').log2 ∧ (m * 2 ^ 53 / m').log2 ≤ 53 := by
  have hpos : 0 < m' := by omega
  have hleast : 2 ^ 52 ≤ m * 2 ^ 53 / m' := (Nat.le_div_iff_mul_le hpos).mpr (by omega)
  have hmost : m * 2 ^ 53 / m' < 2 ^ 54 := (Nat.div_lt_iff_lt_mul hpos).mpr (by omega)
  have hne : m * 2 ^ 53 / m' ≠ 0 := by omega
  exact ⟨(Nat.le_log2 hne).mpr hleast, Nat.lt_succ_iff.mp ((Nat.log2_lt hne).mpr hmost)⟩

/-- Without the bits that are too many, a quotient has 53 bits. -/
theorem quotient_bounds {num den s : Nat} (hlog : (num / den).log2 = 52 + s) :
    2 ^ 52 ≤ num / (den * 2 ^ s) ∧ num / (den * 2 ^ s) < 2 ^ 53 := by
  have hne : num / den ≠ 0 := by
    intro hzero
    rw [hzero, Nat.log2_zero] at hlog
    omega
  obtain ⟨hlo, hhi⟩ := (Nat.log2_eq_iff hne).mp hlog
  rw [← Nat.div_div_eq_div_mul]
  refine ⟨(Nat.le_div_iff_mul_le (Nat.two_pow_pos s)).mpr ?_,
    (Nat.div_lt_iff_lt_mul (Nat.two_pow_pos s)).mpr ?_⟩
  · rwa [← Nat.pow_add]
  · rw [← Nat.pow_add]
    have hexp : 53 + s = 52 + s + 1 := by omega
    rwa [hexp]

/-- What is known of a rounded fraction is known of every fraction that it is a form of. -/
theorem quotient_of_scaled {j num den whole t u : Nat} (hu : 0 < u) (hnum : n * u = num * t)
    (hden : k * 2 ^ j * u = den * t) (hbits : 2 ^ 52 * den ≤ num)
    (hle : 2 * (whole * den) ≤ 2 * num + den) (hge : 2 * num ≤ 2 * (whole * den) + den) :
    k * 2 ^ (52 + j) ≤ n ∧ 2 * (whole * 2 ^ j * k) ≤ 2 * n + k * 2 ^ j ∧
      2 * n ≤ 2 * (whole * 2 ^ j * k) + k * 2 ^ j := by
  have hproduct : 2 * (whole * 2 ^ j * k) * u = 2 * (whole * den) * t := by
    calc 2 * (whole * 2 ^ j * k) * u = 2 * whole * (k * 2 ^ j * u) := by ring
      _ = 2 * (whole * den) * t := by rw [hden]; ring
  refine ⟨Nat.le_of_mul_le_mul_right ?_ hu, Nat.le_of_mul_le_mul_right ?_ hu,
    Nat.le_of_mul_le_mul_right ?_ hu⟩
  · calc k * 2 ^ (52 + j) * u = 2 ^ 52 * (k * 2 ^ j * u) := by rw [Nat.pow_add]; ring
      _ = 2 ^ 52 * den * t := by rw [hden]; ring
      _ ≤ n * u := by rw [hnum]; exact Nat.mul_le_mul_right t hbits
  · calc 2 * (whole * 2 ^ j * k) * u = 2 * (whole * den) * t := hproduct
      _ ≤ (2 * num + den) * t := Nat.mul_le_mul_right t hle
      _ = (2 * n + k * 2 ^ j) * u := by
        rw [Nat.add_mul, Nat.add_mul, hden, Nat.mul_assoc 2 n, hnum]
        ring
  · calc 2 * n * u = 2 * num * t := by rw [Nat.mul_assoc, hnum]; ring
      _ ≤ (2 * (whole * den) + den) * t := Nat.mul_le_mul_right t hge
      _ = (2 * (whole * 2 ^ j * k) + k * 2 ^ j) * u := by
        rw [Nat.add_mul, Nat.add_mul, hproduct, hden]

/-- **A quotient by a whole number** is a multiple that differs from it by half a step at most,
where a step is so small that the quotient has 53 bits. -/
theorem Measures.div (hx : Measures x n) (hn : 1060 ≤ n.log2) (hrange : n.log2 ≤ 2090)
    (hy : Measures y (k * unit)) (hk : 0 < k) (hk' : k < 2 ^ 53) :
    ∃ v j, Measures (x / y) v ∧ k * 2 ^ (52 + j) ≤ n ∧ 2 * (v * k) ≤ 2 * n + k * 2 ^ j ∧
      2 * n ≤ 2 * (v * k) + k * 2 ^ j := by
  have hbits : k.log2 < 53 := (Nat.log2_lt hk.ne').mpr hk'
  obtain ⟨m, q, hm, hparts, ⟨hlo, hhi⟩, hq, hsize, hvalue⟩ := hx.finite_of_large hn
  obtain ⟨m', q', hm', hparts', ⟨hlo', hhi'⟩, hq', hsize', hvalue'⟩ :=
    hy.finite_of_large (le_log2_whole hk)
  rw [log2_whole hk] at hsize'
  have hlog : m.log2 = 52 := (Nat.log2_eq_iff hm.ne').mpr ⟨hlo, hhi⟩
  have hlog' : m'.log2 = 52 := (Nat.log2_eq_iff hm'.ne').mpr ⟨hlo', hhi'⟩
  obtain ⟨hleast, hmost⟩ := log2_quotient hlo hhi hlo' hhi'
  have hquotient := toModel_div x y
  rw [hparts, hparts', div_finite hm hm' hlog hlog' (by omega)] at hquotient
  have hshifted := shiftToTargetExponent_eq (e := q - q' - 53)
    (accuracyOfFraction (m * 2 ^ 53 % m') m') hleast (by omega)
  obtain ⟨s, hs⟩ : ∃ s, (m * 2 ^ 53 / m').log2 = 52 + s := Nat.exists_eq_add_of_le hleast
  rw [hs, Nat.add_sub_cancel_left] at hshifted
  have hden : 0 < m' * 2 ^ s := Nat.mul_pos hm' (Nat.two_pow_pos s)
  obtain ⟨hfewest, hmany⟩ := quotient_bounds hs
  obtain ⟨hbelow, habove⟩ := magnitude_bounds .halfEven false (m * 2 ^ 53) (m' * 2 ^ s)
  obtain ⟨hle, hge⟩ := halfEven_near (m * 2 ^ 53) hden
  have hrounded := roundedMantissa_quotient (m * 2 ^ 53) hm' s
  rw [← hrounded] at hbelow habove hle hge
  have hresult := measures_of_shift hquotient hshifted (hfewest.trans hbelow) (by omega) (by omega)
    (by omega)
  refine ⟨_, (q - q' - 53 + s + 1074).toNat, hresult, ?_⟩
  have hbits : 2 ^ 52 * (m' * 2 ^ s) ≤ m * 2 ^ 53 := (Nat.le_div_iff_mul_le hden).mp hfewest
  refine quotient_of_scaled unit_pos (t := 2 ^ (q + 2095).toNat) ?_ ?_ hbits hle hge
  · have hexp : (q + 1074).toNat + 1074 = 53 + (q + 2095).toNat := by omega
    rw [hvalue, Nat.mul_assoc, two_pow_mul_unit, hexp, Nat.pow_add, Nat.mul_assoc]
  · have hexp : (q' + 1074).toNat + (q - q' - 53 + s + 1074).toNat = s + (q + 2095).toNat := by
      omega
    rw [Nat.mul_right_comm, hvalue', Nat.mul_assoc, ← Nat.pow_add, hexp, Nat.pow_add, Nat.mul_assoc]

end Exact
end Binary64
end HubDispatch
