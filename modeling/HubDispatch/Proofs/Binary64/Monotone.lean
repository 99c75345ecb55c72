import HubDispatch.Proofs.Binary64.Arithmetic
import HubDispatch.Proofs.Binary64.Truncation

/-!
# Operations that keep the order

Numbers are in the order of the multiples of the least one that they are (`multiples_le_multiples`),
and rounding keeps that order wherever it rounds to: between numbers of 53 bits, where the exponent
grows with the number, and near zero, where there are fewer bits to keep and the exponent stays
(`place_mono`). So what is multiplied by a positive number (`mul_le_mul_of_pos_right`) or brought to
a whole number (`toInt64_mono`) stays in order. Infinities and both zeros are no exceptions.
-/

namespace HubDispatch
namespace Binary64
namespace Exact

open Float.Model (UnpackedFloat Format totalExponent)
open Float.Model.UnpackedFloat

/-! ## Infinities -/

theorem rank_bounds {e : Exact} (h : e.Canonical) : -(top : Int) ≤ rank e ∧ rank e ≤ top := by
  cases e with
  | nan => exact ⟨by simp [rank], by simp [rank]⟩
  | infinite negative => cases negative <;> simp only [rank, signed_true, signed_false] <;> omega
  | finite negative m q =>
    have hlt := magnitude_lt_top h
    cases negative <;> simp only [rank, signed_true, signed_false] <;> omega

/-- Only the positive infinity comes after all finite numbers. -/
theorem eq_infinite_of_top_le {e : Exact} (h : e.Canonical) (hle : (top : Int) ≤ rank e) :
    e = .infinite false := by
  have htop := top_pos
  cases e with
  | nan =>
    rw [rank] at hle
    omega
  | infinite negative =>
    cases negative with
    | true =>
      rw [rank, signed_true] at hle
      omega
    | false => rfl
  | finite negative m q =>
    have hlt := magnitude_lt_top h
    cases negative <;> simp only [rank, signed_true, signed_false] at hle <;> omega

/-- Only the negative infinity comes before them. -/
theorem eq_infinite_of_le_top {e : Exact} (h : e.Canonical) (hle : rank e ≤ -(top : Int)) :
    e = .infinite true := by
  have htop := top_pos
  cases e with
  | nan =>
    rw [rank] at hle
    omega
  | infinite negative =>
    cases negative with
    | true => rfl
    | false =>
      rw [rank, signed_false] at hle
      omega
  | finite negative m q =>
    have hlt := magnitude_lt_top h
    cases negative <;> simp only [rank, signed_true, signed_false] at hle <;> omega

/-- A number, and where it stands on its side of zero. -/
structure StandsAt (e : Exact) (negative : Bool) (n : Nat) : Prop where
  ne_nan : e ≠ .nan
  rank_eq : rank e = signed negative n

/-! ## Multiples of the least number -/

section Multiples

variable {negative negative' : Bool} {m m' : Nat} {q q' : Int}

/-- **Places are in the order of the numbers**, which are counted in the least one. -/
theorem multiples_le_multiples (h : Canonical (.finite negative m q))
    (h' : Canonical (.finite negative' m' q')) (hle : magnitude m q ≤ magnitude m' q') :
    m * 2 ^ (q + 1074).toNat ≤ m' * 2 ^ (q' + 1074).toNat := by
  obtain ⟨hm, hq, -, hnormal⟩ := h
  obtain ⟨hm', hq', -, hnormal'⟩ := h'
  unfold magnitude at hle
  rcases lt_trichotomy q q' with hlt | rfl | hgt
  · have hbits : 2 ^ 52 ≤ m' := by omega
    calc m * 2 ^ (q + 1074).toNat
        ≤ 2 ^ 53 * 2 ^ (q + 1074).toNat := Nat.mul_le_mul_right _ hm.le
      _ = 2 ^ 52 * 2 ^ ((q + 1074).toNat + 1) := by
        rw [Nat.pow_succ 2 52, Nat.pow_succ 2 (q + 1074).toNat, Nat.mul_assoc, Nat.mul_comm 2]
      _ ≤ m' * 2 ^ (q' + 1074).toNat :=
        Nat.mul_le_mul hbits (Nat.pow_le_pow_right (by decide) (by omega))
  · exact Nat.mul_le_mul_right _ (by omega)
  · omega

end Multiples

/-! ## Conversions -/

theorem eq_zero_of_magnitude_eq_zero {m : Nat} {q : Int} (h : magnitude m q = 0) : m = 0 := by
  unfold magnitude at h
  omega

theorem magnitude_zero (rule : Rounding) (negative : Bool) {den : Nat} (hden : 0 < den) :
    rule.magnitude negative 0 den = 0 := by
  have hne : den ≠ 0 := hden.ne'
  cases rule <;> simp [Rounding.magnitude, hne]

theorem clamp_mono {lo hi n n' : Int} (h : n ≤ n') : clamp lo hi n ≤ clamp lo hi n' := by
  unfold clamp
  omega

/-- **Numbers are brought to whole numbers in their order**, by whatever rule. -/
theorem toInt_mono (rule : Rounding) {lo hi : Int} (hlo : lo ≤ 0) (hhi : 0 ≤ hi) {a b : Exact}
    (ha : a.Canonical) (hb : b.Canonical) (ha' : a ≠ .nan) (hb' : b ≠ .nan)
    (h : rank a ≤ rank b) : a.toInt rule lo hi ≤ b.toInt rule lo hi := by
  have hmem := @toInt_mem rule lo hi hlo hhi a
  have hmem' := @toInt_mem rule lo hi hlo hhi b
  cases a with
  | nan => exact absurd rfl ha'
  | infinite negative =>
    cases negative with
    | true => exact hmem'.1
    | false => rw [eq_infinite_of_top_le hb h]
  | finite negative m q =>
    cases b with
    | nan => exact absurd rfl hb'
    | infinite negative' =>
      cases negative' with
      | true => cases eq_infinite_of_le_top ha h
      | false => exact hmem.2
    | finite negative' m' q' =>
      rw [toInt, toInt, magnitude_eq_multiples rule _ m ha.2.1,
        magnitude_eq_multiples rule _ m' hb.2.1]
      refine clamp_mono (signed_le_signed h ?_ ?_ ?_ ?_)
      · rintro rfl rfl hle
        exact magnitude_mono _ _ (multiples_le_multiples ha hb hle)
      · rintro rfl rfl hle
        exact magnitude_mono _ _ (multiples_le_multiples hb ha hle)
      · intro hzero
        rw [eq_zero_of_magnitude_eq_zero hzero, Nat.zero_mul, magnitude_zero _ _ unit_pos]
      · intro hzero
        rw [eq_zero_of_magnitude_eq_zero hzero, Nat.zero_mul, magnitude_zero _ _ unit_pos]

theorem toInt64_mono (rule : Rounding) {x y : Float} (h : x ≤ y) :
    toInt64 rule x ≤ toInt64 rule y := by
  obtain ⟨hx, hy⟩ := ne_nan_of_le h
  rw [le_iff_rank_le hx hy] at h
  exact toInt_mono rule (by decide) (by decide) (canonical_ofFloat x) (canonical_ofFloat y) hx hy h

/-! ## Rounding -/

/-- The exponent at which `n · 2 ^ e` is rounded: that of 53 bits, unless it is too small. -/
def target (n : Nat) (e : Int) : Int := max ((n.log2 : Int) + e - 52) (-1074)

/-- Where the number stands that `n · 2 ^ e` is rounded to, if the range were unbounded. -/
def place (n : Nat) (e : Int) : Nat :=
  if n = 0 then 0
  else 2 ^ 52 * (target n e + 1074).toNat +
    Rounding.halfEven.magnitude false n (2 ^ (target n e - e).toNat)

section Place

variable {n n' m : Nat} {e : Int}

theorem place_of_pos (hn : 0 < n) :
    place n e = 2 ^ 52 * (target n e + 1074).toNat +
      Rounding.halfEven.magnitude false n (2 ^ (target n e - e).toNat) :=
  if_neg hn.ne'

/-- What is rounded has more bits than are kept, or is counted in less than the least number. -/
theorem le_target (h : 52 ≤ n.log2 ∨ e ≤ -1074) : e ≤ target n e := by
  unfold target
  omega

theorem target_mono (hn : 0 < n) (h : n ≤ n') : target n e ≤ target n' e := by
  have hlog := log2_le_log2 hn h
  unfold target
  omega

/-- No more than 53 bits are left, and no fewer unless the exponent is the least. -/
theorem bits_bounds (hn : 0 < n) (h : 52 ≤ n.log2 ∨ e ≤ -1074) :
    Rounding.halfEven.magnitude false n (2 ^ (target n e - e).toNat) ≤ 2 ^ 53 ∧
      (-1074 < target n e →
        2 ^ 52 ≤ Rounding.halfEven.magnitude false n (2 ^ (target n e - e).toNat)) := by
  obtain ⟨hlo, hhi⟩ := (Nat.log2_eq_iff hn.ne').mp rfl
  obtain ⟨hlo', hhi'⟩ := magnitude_bounds .halfEven false n (2 ^ (target n e - e).toNat)
  have hle := le_target h
  have hpos : 0 < 2 ^ (target n e - e).toNat := Nat.two_pow_pos _
  constructor
  · have hquotient : n / 2 ^ (target n e - e).toNat < 2 ^ 53 := by
      rw [Nat.div_lt_iff_lt_mul hpos, ← Nat.pow_add]
      refine hhi.trans_le (Nat.pow_le_pow_right (by decide) ?_)
      unfold target at hle ⊢
      omega
    omega
  · intro hnormal
    refine le_trans ?_ hlo'
    rw [Nat.le_div_iff_mul_le hpos, ← Nat.pow_add]
    refine le_trans (Nat.pow_le_pow_right (by decide) ?_) hlo
    unfold target at hle hnormal ⊢
    omega

/-- **Rounding keeps the order**, also across exponents and near zero. -/
theorem place_mono (hn : 0 < n → 52 ≤ n.log2 ∨ e ≤ -1074) (h : n ≤ n') :
    place n e ≤ place n' e := by
  rcases Nat.eq_zero_or_pos n with rfl | hpos
  · exact Nat.zero_le _
  · have hpos' := hpos.trans_le h
    have hfit := hn hpos
    have hfit' : 52 ≤ n'.log2 ∨ e ≤ -1074 :=
      hfit.imp_left fun hlog => hlog.trans (log2_le_log2 hpos h)
    rw [place_of_pos hpos, place_of_pos hpos']
    rcases lt_or_eq_of_le (target_mono (e := e) hpos h) with hlt | heq
    · have hleast : -1074 ≤ target n e := le_max_right _ _
      have hhi := (bits_bounds hpos hfit).1
      have hlo := (bits_bounds hpos' hfit').2 (by omega)
      omega
    · rw [heq]
      exact Nat.add_le_add_left (magnitude_mono _ _ h) _

/-- It does not matter how much of the exponent is in the bits. -/
theorem place_mul_two_pow (hn : 0 < n) (j : Nat) (h : 52 ≤ n.log2 ∨ e + j ≤ -1074) :
    place (n * 2 ^ j) e = place n (e + j) := by
  have hsame : target (n * 2 ^ j) e = target n (e + j) := by
    rw [target, log2_mul_two_pow hn, target]
    omega
  have hle := le_target h
  have hexp : (target n (e + j) - e).toNat = (target n (e + j) - (e + j)).toNat + j := by omega
  rw [place_of_pos hn, place_of_pos (Nat.mul_pos hn (Nat.two_pow_pos j)), hsame, hexp, Nat.pow_add,
    magnitude_mul_right _ _ _ _ (Nat.two_pow_pos j)]

end Place

/-- What a number comes to when it is put together. -/
def packed (u : UnpackedFloat) : Exact :=
  ofUnpacked (unpack Format.binary64 (pack Format.binary64 u))

theorem standsAt_packed_zero (s : Sign) : StandsAt (packed (.zero s)) (isNegative s) 0 := by
  cases s <;> exact ⟨by decide, by decide⟩

theorem packed_infinity (s : Sign) : packed (.infinity s) = .infinite (isNegative s) := by
  rw [packed, unpack_pack_infinity]
  rfl

/-! ## Numbers near zero -/

section Small

variable (s : Sign) {m : Nat} {e : Int}

/-- A number of fewer than 53 bits has the least exponent. -/
theorem packed_subnormal (hm : 0 < m) (hlt : m < 2 ^ 52) :
    packed (.finite s m (-1074) hm) = .finite (isNegative s) m (-1074) := by
  have hlog : m.log2 < 52 := (Nat.log2_lt hm.ne').mpr hlt
  have hbias : (Format.binary64.exponentBias : Int) = 1023 := rfl
  have hbits : Format.binary64.mantissaBits = 53 := rfl
  have hpack : pack Format.binary64 (.finite s m (-1074) hm) =
      packComponents Format.binary64 s 0#_ (BitVec.ofNat 52 m) := by
    unfold pack
    dsimp only
    rw [hbias, hbits, if_neg (by decide), if_neg (by omega)]
  have hfraction : (BitVec.ofNat 52 m).toNat = m := by
    rw [BitVec.toNat_ofNat, Nat.mod_eq_of_lt hlt]
  rw [packed, hpack, ofUnpacked_packComponents, hfraction]
  rfl

theorem standsAt_packed_least (hm : 0 < m) (hle : m ≤ 2 ^ 52) :
    StandsAt (packed (.finite s m (-1074) hm)) (isNegative s) m := by
  have hparts : packed (.finite s m (-1074) hm) = .finite (isNegative s) m (-1074) := by
    rcases Nat.lt_or_eq_of_le hle with hlt | rfl
    · exact packed_subnormal s hm hlt
    · rw [packed, unpack_pack_finite s hm (by omega) (by omega) (by omega) (by omega)]
      rfl
  rw [hparts]
  constructor
  · intro hnan
    cases hnan
  · simp [rank, magnitude]

/-- Near zero the exponent stays the least. -/
theorem shiftToTargetExponent_of_small (hsmall : (m.log2 : Int) + e ≤ -1022) (he : e ≤ -1074) :
    shiftToTargetExponent Format.binary64 m e .exact =
      (ExtendedMantissa.ofMantissaAndAccuracy m .exact >>> (-1074 - e).toNat, -1074) := by
  have htarget : Format.binary64.targetExponent (totalExponent m e) = -1074 := by
    rw [targetExponent_eq, totalExponent]
    omega
  have hexp : e + ((-1074 - e).toNat : Int) = -1074 := by omega
  unfold shiftToTargetExponent shiftToExponent
  simp only [htarget, hexp]

/-- Near zero all that is kept is what is left at the least exponent. -/
theorem standsAt_round_of_small (hm : 0 < m) (hsmall : (m.log2 : Int) + e < -1022)
    (he : e ≤ -1074) :
    StandsAt (packed (roundWithAccuracy Format.binary64 s m e .exact)) (isNegative s)
      (Rounding.halfEven.magnitude false m (2 ^ (-1074 - e).toNat)) := by
  have hle : Rounding.halfEven.magnitude false m (2 ^ (-1074 - e).toNat) ≤ 2 ^ 52 := by
    obtain ⟨-, hhi⟩ := (Nat.log2_eq_iff hm.ne').mp rfl
    obtain ⟨-, hhi'⟩ := magnitude_bounds .halfEven false m (2 ^ (-1074 - e).toNat)
    have hquotient : m / 2 ^ (-1074 - e).toNat < 2 ^ 52 := by
      rw [Nat.div_lt_iff_lt_mul (Nat.two_pow_pos _), ← Nat.pow_add]
      exact hhi.trans_le (Nat.pow_le_pow_right (by decide) (by omega))
    omega
  have hround := roundWithAccuracy_eq_assembled (s := s)
    (shiftToTargetExponent_of_small hsmall.le he) (roundedMantissa_shiftRight m (-1074 - e).toNat)
  generalize Rounding.halfEven.magnitude false m (2 ^ (-1074 - e).toNat) = n at hle hround ⊢
  have hlog : n.log2 ≤ 52 := by
    rcases Nat.eq_zero_or_pos n with rfl | hn
    · decide
    · exact Nat.lt_succ_iff.mp ((Nat.log2_lt hn.ne').mpr (by omega))
  rw [shiftToTargetExponent_of_small (by omega) (le_refl _)] at hround
  rw [hround]
  rcases Nat.eq_zero_or_pos n with rfl | hn
  · exact standsAt_packed_zero s
  · have hfinite : assembled s (ExtendedMantissa.ofMantissaAndAccuracy n .exact >>>
        (-1074 - -1074 : Int).toNat, -1074) = .finite s n (-1074) hn := assembled_of_pos hn
    rw [hfinite]
    exact standsAt_packed_least s hn hle

end Small

/-- A number is put together as it was taken apart. -/
theorem packed_of_canonical {u : UnpackedFloat} (h : (ofUnpacked u).Canonical) :
    packed u = ofUnpacked u := by
  cases u with
  | notANumber => rfl
  | infinity s => exact packed_infinity s
  | zero s => cases s <;> rfl
  | finite s m q hm =>
    obtain ⟨hhi, hq, hq', hnormal⟩ := h
    by_cases hlo : 2 ^ 52 ≤ m
    · rw [packed, unpack_pack_finite s hm hlo hhi hq hq']
    · obtain rfl : q = -1074 := hnormal.resolve_right hlo
      exact packed_subnormal s hm (not_le.mp hlo)

theorem packed_unpack (x : Float) : packed x.toModel.unpack = ofFloat x := by
  have hcanonical := canonical_ofFloat x
  rw [ofFloat_eq] at hcanonical ⊢
  exact packed_of_canonical hcanonical

/-- **What is rounded stands in its place**, or is an infinity if that is out of range. -/
theorem standsAt_round (s : Sign) {m : Nat} {e : Int} (hm : 0 < m) (h : 52 ≤ m.log2 ∨ e ≤ -1074) :
    StandsAt (packed (roundWithAccuracy Format.binary64 s m e .exact)) (isNegative s)
      (min top (place m e)) := by
  rw [place_of_pos hm]
  by_cases hnormal : -1022 ≤ (m.log2 : Int) + e
  · obtain ⟨n, q, hn, hround, ⟨hlo, hhi⟩, hq, hvalue⟩ :=
      roundWithAccuracy_eq (s := s) (by omega) hnormal
    have htarget : target m e = (m.log2 : Int) + e - 52 := max_eq_left (by omega)
    have hshift : ((m.log2 : Int) + e - 52 - e).toNat = m.log2 - 52 := by omega
    have hplace : magnitude n q = 2 ^ 52 * (target m e + 1074).toNat +
        Rounding.halfEven.magnitude false m (2 ^ (target m e - e).toNat) := by
      rw [htarget, hshift]
      change _ = _ + kept m
      unfold magnitude
      omega
    have hrank : rank (packed (.finite s n q hn)) = signed (isNegative s) (min top (magnitude n q)) :=
      rank_pack s hn hlo hhi hq
    rw [hround, ← hplace]
    refine ⟨fun hnan => ?_, hrank⟩
    -- What is not a number has the rank of zero, which this number does not have.
    have htop := top_pos
    have hpos := magnitude_pos q hn
    rw [hnan, rank] at hrank
    cases s <;> simp only [isNegative, signed_true, signed_false] at hrank <;> omega
  · have htarget : target m e = -1074 := max_eq_right (by omega)
    have hle := (bits_bounds hm h).1
    have hzero : (-1074 + 1074 : Int).toNat = 0 := rfl
    rw [htarget] at hle ⊢
    rw [hzero, Nat.mul_zero, Nat.zero_add, min_eq_right]
    · exact standsAt_round_of_small s hm (by omega) (by omega)
    · unfold top
      omega

/-! ## Products -/

section Products

variable {x x' y : Float} {k : Nat} {r : Int} {hk : 0 < k}

theorem ofFloat_mul (x y : Float) :
    ofFloat (x * y) =
      packed (UnpackedFloat.mul Format.binary64 x.toModel.unpack y.toModel.unpack) := by
  rw [ofFloat_eq, toModel_mul]
  rfl

theorem mul_positive (s : Sign) : s * Sign.positive = s := by cases s <;> rfl

theorem zero_mul_positive (s : Sign) :
    UnpackedFloat.mul Format.binary64 (.zero s) (.finite .positive k r hk) = .zero s :=
  congrArg UnpackedFloat.zero (mul_positive s)

theorem infinity_mul_positive (s : Sign) :
    UnpackedFloat.mul Format.binary64 (.infinity s) (.finite .positive k r hk) = .infinity s :=
  congrArg UnpackedFloat.infinity (mul_positive s)

theorem finite_mul_positive (s : Sign) {m : Nat} {q : Int} (hm : 0 < m) :
    UnpackedFloat.mul Format.binary64 (.finite s m q hm) (.finite .positive k r hk) =
      roundWithAccuracy Format.binary64 s (m * k) (q + r) .exact :=
  congrArg (roundWithAccuracy Format.binary64 · (m * k) (q + r) .exact) (mul_positive s)

theorem ofFloat_mul_of_infinite {negative : Bool} (hy : y.toModel.unpack = .finite .positive k r hk)
    (hx : ofFloat x = .infinite negative) : ofFloat (x * y) = .infinite negative := by
  rw [ofFloat_eq] at hx
  rw [ofFloat_mul, hy]
  cases hparts : x.toModel.unpack with
  | infinity s =>
    rw [hparts] at hx
    rw [infinity_mul_positive, packed_infinity]
    exact hx
  | notANumber | zero s | finite s m q hm =>
    rw [hparts] at hx
    cases hx

/-- A product has 53 bits to be rounded to, unless it is counted in less than the least number. -/
theorem le_log2_product {negative : Bool} {m : Nat} {q : Int} (hm : 0 < m)
    (hy : y.toModel.unpack = .finite .positive k r hk) (hx : Canonical (.finite negative m q)) :
    52 ≤ (m * k).log2 ∨ q + r ≤ -1074 := by
  have hcanonical := canonical_ofFloat y
  rw [ofFloat_eq, hy] at hcanonical
  obtain ⟨-, -, -, hnormal⟩ := hcanonical
  obtain ⟨-, -, -, hnormal'⟩ := hx
  have hlarge : 2 ^ 52 ≤ m ∨ 2 ^ 52 ≤ k → 52 ≤ (m * k).log2 := by
    intro hbits
    rw [Nat.le_log2 (Nat.mul_pos hm hk).ne']
    rcases hbits with hbits | hbits
    · exact hbits.trans (Nat.le_mul_of_pos_right m hk)
    · exact hbits.trans (Nat.le_mul_of_pos_left k hm)
  rcases hnormal' with hq | hbits
  · rcases hnormal with hr | hbits
    · exact Or.inr (by omega)
    · exact Or.inl (hlarge (Or.inr hbits))
  · exact Or.inl (hlarge (Or.inl hbits))

/-- A product with a positive number has the place of the exact product. -/
theorem standsAt_mul {negative : Bool} {m : Nat} {q : Int}
    (hy : y.toModel.unpack = .finite .positive k r hk) (hx : ofFloat x = .finite negative m q) :
    StandsAt (ofFloat (x * y)) negative
      (min top (place (m * 2 ^ (q + 1074).toNat * k) (r - 1074))) := by
  have hcanonical := canonical_ofFloat x
  rw [hx] at hcanonical
  rw [ofFloat_eq] at hx
  rw [ofFloat_mul, hy]
  cases hparts : x.toModel.unpack with
  | notANumber | infinity s =>
    rw [hparts] at hx
    cases hx
  | zero s =>
    rw [hparts] at hx
    injection hx with hnegative hm hq
    rw [zero_mul_positive, ← hnegative, ← hm, Nat.zero_mul, Nat.zero_mul, place, if_pos rfl,
      Nat.min_zero]
    exact standsAt_packed_zero s
  | finite s m' q' hm =>
    rw [hparts] at hx
    injection hx with hnegative hm' hq'
    subst hm' hq'
    have hfit := le_log2_product hm hy hcanonical
    have hexp : r - 1074 + ((q' + 1074).toNat : Int) = q' + r := by
      have hq := hcanonical.2.1
      omega
    have hplace : place (m' * 2 ^ (q' + 1074).toNat * k) (r - 1074) = place (m' * k) (q' + r) := by
      rw [Nat.mul_right_comm, place_mul_two_pow (Nat.mul_pos hm hk) _ (hexp.symm ▸ hfit), hexp]
    rw [finite_mul_positive, hplace, ← hnegative]
    exact standsAt_round s (Nat.mul_pos hm hk) hfit

theorem ofFloat_mul_ne_nan (hy : y.toModel.unpack = .finite .positive k r hk)
    (hx : ofFloat x ≠ .nan) : ofFloat (x * y) ≠ .nan := by
  cases hparts : ofFloat x with
  | nan => exact absurd hparts hx
  | infinite negative =>
    rw [ofFloat_mul_of_infinite hy hparts]
    nofun
  | finite negative m q => exact (standsAt_mul hy hparts).ne_nan

/-- Products of larger multiples stand in later places. -/
theorem place_product_mono {n n' : Nat} (hy : y.toModel.unpack = .finite .positive k r hk)
    (h : n ≤ n') : place (n * k) (r - 1074) ≤ place (n' * k) (r - 1074) := by
  refine place_mono (fun hpos => ?_) (Nat.mul_le_mul_right k h)
  have hcanonical := canonical_ofFloat y
  rw [ofFloat_eq, hy] at hcanonical
  obtain ⟨-, -, -, hnormal⟩ := hcanonical
  rcases hnormal with rfl | hbits
  · exact Or.inr (by decide)
  · rw [Nat.le_log2 hpos.ne']
    exact Or.inl (hbits.trans (Nat.le_mul_of_pos_left k (Nat.pos_of_mul_pos_right hpos)))

/-- **What is multiplied by a positive number stays in order.** -/
theorem mul_le_mul_of_pos_right (hy : y.toModel.unpack = .finite .positive k r hk) (h : x ≤ x') :
    x * y ≤ x' * y := by
  obtain ⟨hx, hx'⟩ := ne_nan_of_le h
  rw [le_iff_rank_le hx hx'] at h
  rw [le_iff_rank_le (ofFloat_mul_ne_nan hy hx) (ofFloat_mul_ne_nan hy hx')]
  have hbounds := rank_bounds (canonical_ofFloat (x * y))
  have hbounds' := rank_bounds (canonical_ofFloat (x' * y))
  have hcanonical := canonical_ofFloat x
  have hcanonical' := canonical_ofFloat x'
  cases hparts : ofFloat x with
  | nan => exact absurd hparts hx
  | infinite negative =>
    cases negative with
    | true =>
      rw [ofFloat_mul_of_infinite hy hparts]
      exact hbounds'.1
    | false =>
      rw [hparts] at h
      rw [ofFloat_mul_of_infinite hy (eq_infinite_of_top_le hcanonical' h)]
      exact hbounds.2
  | finite negative m q =>
    cases hparts' : ofFloat x' with
    | nan => exact absurd hparts' hx'
    | infinite negative' =>
      cases negative' with
      | true =>
        rw [hparts'] at h
        rw [ofFloat_mul_of_infinite hy (eq_infinite_of_le_top hcanonical h)]
        exact hbounds'.1
      | false =>
        rw [ofFloat_mul_of_infinite hy hparts']
        exact hbounds.2
    | finite negative' m' q' =>
      rw [hparts] at hcanonical
      rw [hparts'] at hcanonical'
      rw [hparts, hparts'] at h
      rw [(standsAt_mul hy hparts).rank_eq, (standsAt_mul hy hparts').rank_eq]
      refine signed_le_signed h ?_ ?_ ?_ ?_
      · intro _ _ hle
        exact min_le_min_left top
          (place_product_mono hy (multiples_le_multiples hcanonical hcanonical' hle))
      · intro _ _ hle
        exact min_le_min_left top
          (place_product_mono hy (multiples_le_multiples hcanonical' hcanonical hle))
      · intro hzero
        rw [eq_zero_of_magnitude_eq_zero hzero, Nat.zero_mul, Nat.zero_mul, place, if_pos rfl]
        exact Nat.min_zero top
      · intro hzero
        rw [eq_zero_of_magnitude_eq_zero hzero, Nat.zero_mul, Nat.zero_mul, place, if_pos rfl]
        exact Nat.min_zero top

end Products

end Exact
end Binary64
end HubDispatch
