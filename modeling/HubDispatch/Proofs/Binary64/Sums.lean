import HubDispatch.Proofs.Binary64.Monotone
import HubDispatch.Proofs.Binary64.WholeSums

/-!
# Sums of either sign

Every finite number is a whole multiple of the least positive one, on its side of zero (`Amounts`).
What addition and multiplication come to is the number nearest to the exact multiple (`Nearest`), an
infinity if that is out of range. Whole numbers and numbers themselves are no different, so one
lemma compares them all: numbers nearest to larger multiples are not smaller
(`Nearest.rank_le_rank`).

In range, the nearest number is at most one part in `2 ^ 53` off (`Nearest.value`), and not at all
where 53 bits suffice (`nearest_whole`).
-/

namespace HubDispatch
namespace Binary64
namespace Exact

open Float.Model (UnpackedFloat Format totalExponent)
open Float.Model.UnpackedFloat

variable {x y : Float} {z w : Int} {u v : ℚ}

/-! ## Multiples -/

/-- The number is `z` times the least positive one. -/
def Amounts (x : Float) (z : Int) : Prop := (ofFloat x).value? = some (z * least)

theorem intCast_mul_least_inj : (z : ℚ) * least = w * least ↔ z = w := by
  rw [mul_left_inj' least_pos.ne', Int.cast_inj]

@[simp] theorem natAbs_signed (negative : Bool) (n : Nat) : (signed negative n).natAbs = n := by
  cases negative with
  | true => rw [signed_true, Int.natAbs_neg, Int.natAbs_natCast]
  | false => exact Int.natAbs_natCast n

theorem mul_natCast_neg_iff {c : Nat} (hc : 0 < c) : z * (c : Int) < 0 ↔ z < 0 := by
  rw [Int.mul_neg_iff]
  omega

theorem Amounts.unique (h : Amounts x z) (h' : Amounts x w) : z = w :=
  intCast_mul_least_inj.mp (Option.some.inj (h.symm.trans h'))

/-- The value of a finite number in multiples of the least one. -/
theorem value?_finite {negative : Bool} {m : Nat} {q : Int} (hq : -1074 ≤ q) :
    (Exact.finite negative m q).value? =
      some ((signed negative (m * 2 ^ (q + 1074).toNat) : Int) * least) := by
  rw [value?, signed_mul, Int.cast_mul, Int.cast_natCast, mul_assoc, ← one_mul ((2 : ℚ) ^ q),
    ← Nat.cast_one, mul_two_zpow 1 hq, Nat.one_mul]

/-- What a multiple of the least number is made of. -/
theorem Amounts.cases (h : Amounts x z) :
    ∃ (negative : Bool) (m : Nat) (q : Int), ofFloat x = .finite negative m q ∧
      z = signed negative (m * 2 ^ (q + 1074).toNat) := by
  have hcanonical := canonical_ofFloat x
  cases hx : ofFloat x with
  | nan | infinite negative =>
    rw [Amounts, hx] at h
    cases h
  | finite negative m q =>
    rw [hx] at hcanonical
    rw [Amounts, hx, value?_finite hcanonical.2.1] at h
    exact ⟨negative, m, q, rfl, (intCast_mul_least_inj.mp (Option.some.inj h)).symm⟩

theorem amounts_of_finite {negative : Bool} {m : Nat} {q : Int}
    (hx : ofFloat x = .finite negative m q) :
    Amounts x (signed negative (m * 2 ^ (q + 1074).toNat)) := by
  have hcanonical := canonical_ofFloat x
  rw [hx] at hcanonical
  rw [Amounts, hx, value?_finite hcanonical.2.1]

/-- Every value is a multiple. -/
theorem exists_amounts (h : (ofFloat x).value? = some v) : ∃ z : Int, Amounts x z ∧ v = z * least := by
  cases hx : ofFloat x with
  | nan | infinite negative =>
    rw [hx] at h
    cases h
  | finite negative m q =>
    have hz := amounts_of_finite hx
    exact ⟨_, hz, Option.some.inj (h.symm.trans hz)⟩

/-- What it is taken apart into. -/
theorem Amounts.parts (h : Amounts x z) :
    (z = 0 ∧ ∃ s, x.toModel.unpack = .zero s) ∨
      ∃ (s : Sign) (m : Nat) (q : Int) (hm : 0 < m), x.toModel.unpack = .finite s m q hm ∧
        -1074 ≤ q ∧ z = signed (isNegative s) (m * 2 ^ (q + 1074).toNat) := by
  have hcanonical := canonical_ofFloat x
  obtain ⟨negative, m, q, hx, rfl⟩ := h.cases
  rw [hx] at hcanonical
  rw [ofFloat_eq] at hx
  cases hparts : x.toModel.unpack with
  | notANumber | infinity s =>
    rw [hparts] at hx
    cases hx
  | zero s =>
    rw [hparts] at hx
    injection hx with _ hm
    refine Or.inl ⟨?_, s, rfl⟩
    rw [← hm, Nat.zero_mul]
    cases negative <;> rfl
  | finite s m' q' hm =>
    rw [hparts] at hx
    injection hx with hnegative hm' hq'
    subst hnegative hm' hq'
    exact Or.inr ⟨s, m', q', hm, rfl, hcanonical.2.1, rfl⟩

/-! ## Places of multiples -/

theorem place_least (n : Nat) : place n (-1074) = 2 ^ 52 * (n.log2 - 52) + kept n := by
  rcases Nat.eq_zero_or_pos n with rfl | hn
  · rfl
  · have hexp : (target n (-1074) + 1074).toNat = n.log2 - 52 := by
      unfold target
      omega
    have hshift : (target n (-1074) - -1074).toNat = n.log2 - 52 := by
      unfold target
      omega
    rw [place_of_pos hn, hexp, hshift]
    rfl

/-- Exponent and bits side by side say how large a number is, also with one bit too many. -/
theorem mul_two_pow_eq_of_place {m i r j : Nat} (hm : m < 2 ^ 53) (hi : i = 0 ∨ 2 ^ 52 ≤ m)
    (hr : r ≤ 2 ^ 53) (hj : j = 0 ∨ 2 ^ 52 ≤ r) (h : 2 ^ 52 * i + m = 2 ^ 52 * j + r) :
    m * 2 ^ i = r * 2 ^ j := by
  rcases lt_trichotomy i j with hlt | rfl | hgt
  · omega
  · rw [Nat.add_left_cancel h]
  · obtain rfl : i = j + 1 := by omega
    obtain rfl : r = 2 ^ 53 := by omega
    obtain rfl : m = 2 ^ 52 := by omega
    rw [Nat.pow_succ 2 j, Nat.pow_succ 2 52, Nat.mul_assoc, Nat.mul_comm 2]

theorem kept_le (n : Nat) : kept n ≤ 2 ^ 53 := by
  by_cases hlog : 52 ≤ n.log2
  · exact (kept_bounds hlog).2
  · have hzero : n.log2 - 52 = 0 := by omega
    obtain ⟨-, hhi⟩ := magnitude_bounds .halfEven false n (2 ^ (n.log2 - 52))
    have hlt : n < 2 ^ 52 := by
      rcases Nat.eq_zero_or_pos n with rfl | hn
      · decide
      · exact (Nat.log2_lt hn.ne').mp (by omega)
    rw [hzero, Nat.pow_zero, Nat.div_one] at hhi
    rw [kept, hzero, Nat.pow_zero]
    omega

/-- **A number in the place of a multiple** is that multiple rounded. -/
theorem value?_of_standsAt {e : Exact} {negative : Bool} {n : Nat} (he : e.Canonical)
    (h : StandsAt e negative (place n (-1074))) (hrange : place n (-1074) < top) :
    e.value? = some ((signed negative (rounded n) : Int) * least) := by
  obtain ⟨hnan, hrank⟩ := h
  cases e with
  | nan => exact absurd rfl hnan
  | infinite negative' =>
    rw [rank] at hrank
    cases negative <;> cases negative' <;> simp only [signed_true, signed_false] at hrank <;> omega
  | finite negative' m q =>
    obtain ⟨hm, hq, -, hnormal⟩ := he
    rw [value?_finite hq]
    rw [rank] at hrank
    have hplace : magnitude m q = place n (-1074) := by
      cases negative <;> cases negative' <;> simp only [signed_true, signed_false] at hrank <;> omega
    have hsize : m * 2 ^ (q + 1074).toNat = rounded n := by
      rw [magnitude, place_least] at hplace
      refine mul_two_pow_eq_of_place hm ?_ (kept_le n) ?_ hplace
      · exact hnormal.imp_left fun hleast => by rw [hleast]; rfl
      · by_cases hlog : 52 ≤ n.log2
        · exact Or.inr (kept_bounds hlog).1
        · exact Or.inl (by omega)
    rw [hsize]
    -- The signs agree but for zero, which has none.
    rcases Nat.eq_zero_or_pos (rounded n) with hzero | hpos
    · rw [hzero]
      cases negative <;> cases negative' <;> rfl
    · have hpos' : 0 < magnitude m q := by
        refine magnitude_pos q (Nat.pos_of_ne_zero fun hzero => ?_)
        rw [hzero, Nat.zero_mul] at hsize
        omega
      have hsame : negative' = negative := by
        cases negative <;> cases negative' <;> simp only [signed_true, signed_false] at hrank <;>
          first | rfl | omega
      rw [hsame]

/-! ## The nearest number -/

/-- The nearest number of 53 bits, on the same side of zero. -/
def nearest (z : Int) : Int := signed (decide (z < 0)) (rounded z.natAbs)

/-- The number is the nearest one to `z` times the least positive one, or an infinity if that is
out of range. -/
def Nearest (x : Float) (z : Int) : Prop :=
  StandsAt (ofFloat x) (decide (z < 0)) (min top (place z.natAbs (-1074)))

/-- In range, the nearest number is a multiple again. -/
theorem Nearest.amounts (h : Nearest x z) (hrange : place z.natAbs (-1074) < top) :
    Amounts x (nearest z) := by
  rw [Nearest, min_eq_right hrange.le] at h
  exact value?_of_standsAt (canonical_ofFloat x) h hrange

/-- **Numbers nearest to larger multiples are not smaller**, infinities included. -/
theorem Nearest.rank_le_rank (hx : Nearest x z) (hy : Nearest y w) (h : z ≤ w) :
    rank (ofFloat x) ≤ rank (ofFloat y) := by
  have hmono : ∀ {n n' : Nat}, n ≤ n' →
      min top (place n (-1074)) ≤ min top (place n' (-1074)) := fun hle =>
    min_le_min_left top (place_mono (fun _ => Or.inr le_rfl) hle)
  have hzero : ∀ n : Nat, n = 0 → min top (place n (-1074)) = 0 := by
    rintro n rfl
    rfl
  rw [← signed_natAbs z, ← signed_natAbs w] at h
  rw [hx.rank_eq, hy.rank_eq]
  exact signed_le_signed h (fun _ _ => hmono) (fun _ _ => hmono) (hzero _) (hzero _)

theorem Nearest.le (hx : Nearest x z) (hy : Nearest y w) (h : z ≤ w) : x ≤ y :=
  (le_iff_rank_le hx.ne_nan hy.ne_nan).mpr (hx.rank_le_rank hy h)

/-- A number of at most 53 bits stands in its own place. -/
theorem place_canonical {negative : Bool} {m : Nat} {q : Int}
    (h : Canonical (.finite negative m q)) :
    place (m * 2 ^ (q + 1074).toNat) (-1074) = magnitude m q := by
  obtain ⟨hm, hq, -, hnormal⟩ := h
  rcases Nat.eq_zero_or_pos m with rfl | hpos
  · obtain rfl : q = -1074 := by omega
    rfl
  · have hexp : (-1074 : Int) + ((q + 1074).toNat : Int) = q := by omega
    have hlog : m.log2 < 53 := (Nat.log2_lt hpos.ne').mpr hm
    have hbits : q = -1074 ∨ m.log2 = 52 := hnormal.imp_right fun hbits =>
      (Nat.log2_eq_iff hpos.ne').mpr ⟨hbits, hm⟩
    have htarget : target m q = q := by
      unfold target
      omega
    rw [place_mul_two_pow hpos _ (by omega), hexp, place_of_pos hpos, htarget, Int.sub_self]
    have hwhole : Rounding.halfEven.magnitude false m (2 ^ (0 : Int).toNat) = m := by
      simp [Rounding.magnitude, Nat.mod_one]
    rw [hwhole, magnitude]

/-- A number is the nearest one to itself. -/
theorem Amounts.nearest (h : Amounts x z) : Nearest x z ∧ place z.natAbs (-1074) < top := by
  have hcanonical := canonical_ofFloat x
  obtain ⟨negative, m, q, hx, rfl⟩ := h.cases
  rw [hx] at hcanonical
  have hlt := magnitude_lt_top hcanonical
  rw [Nearest, natAbs_signed, place_canonical hcanonical, hx, min_eq_right hlt.le]
  refine ⟨⟨nofun, ?_⟩, hlt⟩
  rw [rank]
  have hpos := Nat.two_pow_pos (q + 1074).toNat
  rcases Nat.eq_zero_or_pos m with rfl | hm
  · obtain rfl : q = -1074 := by
      obtain ⟨-, -, -, hnormal⟩ := hcanonical
      omega
    cases negative <;> rfl
  · have hpos := Nat.mul_pos hm hpos
    cases negative with
    | true => rw [decide_eq_true (by rw [signed_true]; omega)]
    | false => rw [decide_eq_false (by rw [signed_false]; omega)]

/-- **Numbers compare as their multiples.** -/
theorem Amounts.le_iff (hx : Amounts x z) (hy : Amounts y w) : x ≤ y ↔ z ≤ w := by
  obtain ⟨hnear, hrange⟩ := hx.nearest
  obtain ⟨hnear', hrange'⟩ := hy.nearest
  refine ⟨fun hle => ?_, hnear.le hnear'⟩
  by_contra hlt
  -- Then both are in one place, so they are the same multiple.
  have hrank : rank (ofFloat x) = rank (ofFloat y) :=
    le_antisymm ((le_iff_rank_le hnear.ne_nan hnear'.ne_nan).mp hle)
      (hnear'.rank_le_rank hnear (not_le.mp hlt).le)
  have hsame : Nearest x w := ⟨hnear.ne_nan, hrank.trans hnear'.rank_eq⟩
  have hz := hx.unique (hsame.amounts hrange')
  have hw := hy.unique (hnear'.amounts hrange')
  exact hlt (hz.trans hw.symm).le

theorem Amounts.lt_iff (hx : Amounts x z) (hy : Amounts y w) : x < y ↔ z < w := by
  rw [← not_le_iff_lt hy.nearest.1.ne_nan hx.nearest.1.ne_nan, hy.le_iff hx, not_le]

/-! ## Sums -/

theorem apply_eq_signed (s : Sign) (n : Nat) : s.apply (n : Int) = signed (isNegative s) n := by
  cases s <;> rfl

/-- Whatever exponent a number has, it is rounded as the multiple that it is. -/
theorem standsAt_packed_round (s : Sign) {m : Nat} {e : Int} (hm : 0 < m) (he : -1074 ≤ e) :
    StandsAt (packed (UnpackedFloat.round Format.binary64 s m e)) (isNegative s)
      (min top (place (m * 2 ^ (e + 1074).toNat) (-1074))) := by
  have htarget : Format.binary64.targetExponent (totalExponent m e) =
      max ((m.log2 : Int) + e - 52) (-1074) := by
    rw [targetExponent_eq, totalExponent]
    omega
  obtain ⟨k, hk⟩ : ∃ k, (e - max ((m.log2 : Int) + e - 52) (-1074)).toNat = k := ⟨_, rfl⟩
  have hlog := log2_mul_two_pow hm k
  have hpos : 0 < m * 2 ^ k := Nat.mul_pos hm (Nat.two_pow_pos k)
  have hfit : 52 ≤ (m * 2 ^ k).log2 ∨ e - k ≤ -1074 := by omega
  have hexp : (-1074 : Int) + ((e - k + 1074).toNat : Int) = e - k := by omega
  have hplace : place (m * 2 ^ (e + 1074).toNat) (-1074) = place (m * 2 ^ k) (e - k) := by
    have hsplit : (e + 1074).toNat = k + (e - k + 1074).toNat := by omega
    rw [hsplit, Nat.pow_add, ← Nat.mul_assoc, place_mul_two_pow hpos _ (hexp.symm ▸ hfit), hexp]
  have hround := standsAt_round s hpos hfit
  rw [hplace]
  unfold UnpackedFloat.round decreaseExponent
  simp only [htarget, hk, Nat.shiftLeft_eq]
  exact hround

/-- A whole number of either sign is rounded on its side of zero. -/
theorem standsAt_packed_normalize (s : Sign) (z : Int) {e : Int} (he : -1074 ≤ e) :
    StandsAt (packed (UnpackedFloat.normalize Format.binary64 z e s)) (decide (z < 0))
      (min top (place (z.natAbs * 2 ^ (e + 1074).toNat) (-1074))) := by
  unfold UnpackedFloat.normalize
  rcases lt_trichotomy z 0 with hlt | rfl | hgt
  · have habs : (-z).toNat = z.natAbs := by omega
    rw [compare_lt_iff_lt.mpr hlt, decide_eq_true hlt, ← habs]
    exact standsAt_packed_round .negative (by omega) he
  · have hzero := standsAt_packed_zero s
    rw [Int.natAbs_zero, Nat.zero_mul]
    exact ⟨hzero.ne_nan, hzero.rank_eq.trans (by cases s <;> rfl)⟩
  · have habs : z.toNat = z.natAbs := by omega
    rw [compare_gt_iff_gt.mpr hgt, decide_eq_false (by omega), ← habs]
    exact standsAt_packed_round .positive (by omega) he

theorem ofFloat_add (x y : Float) :
    ofFloat (x + y) =
      packed (UnpackedFloat.add Format.binary64 x.toModel.unpack y.toModel.unpack) := by
  rw [ofFloat_eq, toModel_add]
  rfl

/-- Two finite numbers of any sign are brought to the smaller exponent, added and rounded. -/
theorem add_finite_finite (s s' : Sign) {m m' : Nat} {q q' : Int} (hm : 0 < m) (hm' : 0 < m') :
    UnpackedFloat.add Format.binary64 (.finite s m q hm) (.finite s' m' q' hm') =
      UnpackedFloat.normalize Format.binary64
        (signed (isNegative s) (m * 2 ^ (q - min q q').toNat) +
          signed (isNegative s') (m' * 2 ^ (q' - min q q').toNat)) (min q q') .positive := by
  unfold UnpackedFloat.add decreaseExponent
  simp only [Nat.shiftLeft_eq, apply_eq_signed]

/-- What is counted in a smaller exponent is then counted in the least one. -/
theorem signed_mul_two_pow {negative : Bool} {m : Nat} {q r : Int} (hr : -1074 ≤ r) (h : r ≤ q) :
    signed negative (m * 2 ^ (q + 1074).toNat) =
      signed negative (m * 2 ^ (q - r).toNat) * (2 ^ (r + 1074).toNat : Nat) := by
  have hsplit : (q + 1074).toNat = (q - r).toNat + (r + 1074).toNat := by omega
  rw [← signed_mul, hsplit, Nat.pow_add, Nat.mul_assoc]

/-- **A sum** is the number nearest to the exact sum. -/
theorem Amounts.add (hx : Amounts x z) (hy : Amounts y w) : Nearest (x + y) (z + w) := by
  rw [Nearest, ofFloat_add]
  rcases hx.parts with ⟨rfl, s, hparts⟩ | ⟨s, m, q, hm, hparts, hq, hz⟩
  · rcases hy.parts with ⟨rfl, s', hparts'⟩ | ⟨s', m', q', hm', hparts', hq', rfl⟩
    · rw [hparts, hparts']
      cases s <;> cases s' <;> exact ⟨by decide, by decide⟩
    · have hnear := hy.nearest.1
      rw [Nearest, ← packed_unpack, hparts'] at hnear
      rw [hparts, hparts', Int.zero_add]
      exact hnear
  · rcases hy.parts with ⟨rfl, s', hparts'⟩ | ⟨s', m', q', hm', hparts', hq', hw⟩
    · have hnear := hx.nearest.1
      rw [Nearest, ← packed_unpack, hparts] at hnear
      rw [hparts, hparts', Int.add_zero]
      exact hnear
    · have hr : -1074 ≤ min q q' := le_min hq hq'
      have hsum := standsAt_packed_normalize .positive
        (signed (isNegative s) (m * 2 ^ (q - min q q').toNat) +
          signed (isNegative s') (m' * 2 ^ (q' - min q q').toNat)) hr
      rw [signed_mul_two_pow hr (min_le_left q q')] at hz
      rw [signed_mul_two_pow hr (min_le_right q q')] at hw
      rw [hparts, hparts', add_finite_finite, hz, hw, ← Int.add_mul, Int.natAbs_mul,
        Int.natAbs_natCast]
      simp only [mul_natCast_neg_iff (Nat.two_pow_pos _)]
      exact hsum

/-- An infinity stays what it is. -/
theorem ofFloat_add_of_infinite {negative : Bool} (hx : ofFloat x = .infinite negative)
    (hy : Amounts y w) : ofFloat (x + y) = .infinite negative := by
  have hx' := hx
  rw [ofFloat_eq] at hx'
  rw [ofFloat_add]
  cases hparts : x.toModel.unpack with
  | notANumber | zero s | finite s m q hm =>
    rw [hparts] at hx'
    cases hx'
  | infinity s =>
    rw [hparts] at hx'
    cases hx'
    rcases hy.parts with ⟨-, s', hparts'⟩ | ⟨s', m', q', hm', hparts', -⟩
    · rw [hparts']
      exact packed_infinity s
    · rw [hparts']
      exact packed_infinity s

/-! ## Products with whole numbers -/

/-- The number is the whole number `k`, spelled with as many bits as it may have. -/
structure Spells (y : Float) (k j : Nat) : Prop where
  parts : ∃ hpos : 0 < k * 2 ^ j, y.toModel.unpack = .finite .positive (k * 2 ^ j) (-(j : Int)) hpos
  few : j ≤ 1074

/-- **A product with a positive whole number** is the number nearest to the exact product. -/
theorem Amounts.mul {k j : Nat} (hx : Amounts x z) (hy : Spells y k j) :
    Nearest (x * y) (z * k) := by
  obtain ⟨⟨hpos, hparts⟩, hj⟩ := hy
  obtain ⟨negative, m, q, hcases, rfl⟩ := hx.cases
  have hk : 0 < k := Nat.pos_of_mul_pos_right hpos
  have hstands := standsAt_mul hparts hcases
  have hplace : place (m * 2 ^ (q + 1074).toNat * (k * 2 ^ j)) (-(j : Int) - 1074) =
      place (m * 2 ^ (q + 1074).toNat * k) (-1074) := by
    have hexp : -(j : Int) - 1074 + (j : Int) = -1074 := by omega
    rcases Nat.eq_zero_or_pos (m * 2 ^ (q + 1074).toNat * k) with hzero | hpos'
    · rw [← Nat.mul_assoc, hzero, Nat.zero_mul]
      rfl
    · rw [← Nat.mul_assoc, place_mul_two_pow hpos' j (Or.inr (by omega)), hexp]
  rw [hplace] at hstands
  rw [Nearest, ← signed_mul, natAbs_signed]
  refine ⟨hstands.ne_nan, hstands.rank_eq.trans ?_⟩
  rcases Nat.eq_zero_or_pos (m * 2 ^ (q + 1074).toNat * k) with hzero | hpos'
  · rw [hzero]
    cases negative <;> rfl
  · cases negative with
    | true => rw [decide_eq_true (by rw [signed_true]; omega)]
    | false => rw [decide_eq_false (by rw [signed_false]; omega)]

/-! ## Whole numbers -/

theorem place_whole (n : Nat) : place (n * unit) (-1074) = wholeMagnitude n := by
  rcases Nat.eq_zero_or_pos n with rfl | hn
  · rw [Nat.zero_mul]
    rfl
  · have hkept : kept (n * unit) = Rounding.halfEven.magnitude false (2 ^ 52 * n) (2 ^ n.log2) := by
      rw [unit, kept_mul_two_pow hn (by omega)]
    have hlog : n.log2 + 1074 - 52 = n.log2 + 1022 := by omega
    rw [place_least, log2_whole hn, hkept, wholeMagnitude, if_neg hn.ne', hlog]

theorem natAbs_mul_unit (z : Int) : (z * unit).natAbs = z.natAbs * unit := by
  rw [Int.natAbs_mul, Int.natAbs_natCast]

/-- **Whole numbers** become the nearest numbers. -/
theorem nearest_ofInt (z : Int) : Nearest (Float.ofInt z) (z * unit) := by
  refine ⟨(proper_ofInt z).1, ?_⟩
  rw [rank_ofInt, natAbs_mul_unit, place_whole]
  simp only [mul_natCast_neg_iff unit_pos]

/-- Whole numbers of 53 bits are their own nearest numbers. -/
theorem nearest_whole (hz : z.natAbs < 2 ^ 53) : nearest (z * unit) = z * unit := by
  have hsigned : signed (decide (z < 0)) (z.natAbs * unit) = z * unit := by
    rw [signed_mul, signed_natAbs]
  rw [nearest, natAbs_mul_unit, rounded_whole hz]
  simp only [mul_natCast_neg_iff unit_pos]
  exact hsigned

theorem place_whole_lt_top (hz : z.natAbs ≤ 2 ^ 53) :
    place (z * unit).natAbs (-1074) < top := by
  rw [natAbs_mul_unit, place_whole]
  exact wholeMagnitude_lt_top hz

/-- What is nearest to a whole number of 53 bits is that number. -/
theorem Nearest.amounts_whole (h : Nearest x (z * unit)) (hz : z.natAbs < 2 ^ 53) :
    Amounts x (z * unit) := by
  have hamounts := h.amounts (place_whole_lt_top hz.le)
  rwa [nearest_whole hz] at hamounts

/-- The number is a whole one. -/
def IsWhole (x : Float) (z : Int) : Prop := (ofFloat x).value? = some (z : ℚ)

theorem mul_unit_mul_least (z : Int) : ((z * unit : Int) : ℚ) * least = z := by
  rw [Int.cast_mul, Int.cast_natCast, mul_assoc, unit_mul_least, mul_one]

theorem isWhole_iff : IsWhole x z ↔ Amounts x (z * unit) := by
  rw [IsWhole, Amounts, mul_unit_mul_least]

theorem IsWhole.unique (h : IsWhole x z) (h' : IsWhole x w) : z = w :=
  Int.cast_inj.mp (Option.some.inj (h.symm.trans h'))

theorem isWhole_ofInt (hz : z.natAbs < 2 ^ 53) : IsWhole (Float.ofInt z) z :=
  isWhole_iff.mpr ((nearest_ofInt z).amounts_whole hz)

/-- Whole numbers are added as they are. -/
theorem IsWhole.add (hx : IsWhole x z) (hy : IsWhole y w) (h : (z + w).natAbs < 2 ^ 53) :
    IsWhole (x + y) (z + w) := by
  have hsum := (isWhole_iff.mp hx).add (isWhole_iff.mp hy)
  rw [← Int.add_mul] at hsum
  exact isWhole_iff.mpr (hsum.amounts_whole h)

theorem IsWhole.le_iff (hx : IsWhole x z) (hy : IsWhole y w) : x ≤ y ↔ z ≤ w := by
  rw [(isWhole_iff.mp hx).le_iff (isWhole_iff.mp hy)]
  exact mul_le_mul_iff_left₀ (Int.natCast_pos.mpr unit_pos)

theorem IsWhole.ne_nan (hx : IsWhole x z) : ofFloat x ≠ .nan :=
  (isWhole_iff.mp hx).nearest.1.ne_nan

theorem IsWhole.le_of_rank_le (hx : IsWhole x z) (hy : IsWhole y w)
    (h : rank (ofFloat x) ≤ rank (ofFloat y)) : z ≤ w :=
  (hx.le_iff hy).mp ((le_iff_rank_le hx.ne_nan hy.ne_nan).mpr h)

/-! ## Values -/

/-- Rounding to 53 bits is less than one part in `2 ^ 53` off. -/
theorem rounded_near (n : Nat) :
    2 ^ 53 * rounded n ≤ 2 ^ 53 * n + n ∧ 2 ^ 53 * n ≤ 2 ^ 53 * rounded n + n := by
  by_cases hlog : n.log2 < 53
  · rw [rounded_of_log2_lt hlog]
    omega
  · have hne : n ≠ 0 := by
      rintro rfl
      rw [Nat.log2_zero] at hlog
      omega
    have hbits : 2 ^ 52 * spacing n ≤ n := by
      rw [spacing, ← Nat.pow_add, Nat.add_sub_cancel' (by omega)]
      exact Nat.log2_self_le hne
    obtain ⟨hle, hge⟩ := halfEven_near n (spacing_pos n)
    change 2 * rounded n ≤ _ at hle
    change _ ≤ 2 * rounded n + _ at hge
    omega

theorem nearest_near (z : Int) : 2 ^ 53 * (nearest z - z).natAbs ≤ z.natAbs := by
  obtain ⟨hle, hge⟩ := rounded_near z.natAbs
  rw [nearest]
  by_cases hz : z < 0
  · rw [decide_eq_true hz, signed_true]
    omega
  · rw [decide_eq_false hz, signed_false]
    omega

theorem natAbs_le_of_abs_mul_le {b c : Nat} {r : ℚ} (hr : 0 < r) (hc : (c : ℚ) * r = 1)
    (h : |(z : ℚ) * r| ≤ (b : Nat)) : z.natAbs ≤ b * c := by
  rw [abs_mul, abs_of_pos hr, ← mul_one (b : ℚ), ← hc, ← mul_assoc, mul_le_mul_iff_left₀ hr,
    ← Int.cast_abs, ← Nat.cast_natAbs, ← Nat.cast_mul, Nat.cast_le] at h
  exact h

/-- Well within the range, the value of the nearest number is known. -/
theorem Nearest.value (h : Nearest x z) (hv : v = z * least) (hrange : |v| ≤ 2 ^ 64) :
    ∃ c, (ofFloat x).value? = some c ∧ |c - v| ≤ |v| / 2 ^ 53 := by
  subst hv
  have hpos := least_pos
  have hsize : z.natAbs ≤ 2 ^ 64 * unit :=
    natAbs_le_of_abs_mul_le hpos unit_mul_least (by exact_mod_cast hrange)
  have hplace : place z.natAbs (-1074) < top := by
    refine (place_mono (fun _ => Or.inr le_rfl) hsize).trans_lt ?_
    rw [place_whole]
    decide +kernel
  refine ⟨_, h.amounts hplace, ?_⟩
  have hnear : (2 : ℚ) ^ 53 * |(nearest z : ℚ) - z| ≤ |(z : ℚ)| := by
    rw [← Int.cast_sub, ← Int.cast_abs, ← Int.cast_abs, ← Nat.cast_natAbs, ← Nat.cast_natAbs]
    exact_mod_cast nearest_near z
  rw [← sub_mul, abs_mul, abs_mul, abs_of_pos hpos, mul_div_right_comm]
  exact mul_le_mul_of_nonneg_right ((le_div_iff₀' (by norm_num)).mpr hnear) hpos.le

/-- **Numbers compare as their values.** -/
theorem lt_iff_of_value (hx : (ofFloat x).value? = some u) (hy : (ofFloat y).value? = some v) :
    x < y ↔ u < v := by
  obtain ⟨z, hz, rfl⟩ := exists_amounts hx
  obtain ⟨w, hw, rfl⟩ := exists_amounts hy
  rw [hz.lt_iff hw, mul_lt_mul_iff_left₀ least_pos, Int.cast_lt]

/-- **The value of a product** with a positive whole number. -/
theorem value_mul {k j : Nat} (hx : (ofFloat x).value? = some v) (hy : Spells y k j)
    (hrange : |v * k| ≤ 2 ^ 64) :
    ∃ c, (ofFloat (x * y)).value? = some c ∧ |c - v * k| ≤ |v * k| / 2 ^ 53 := by
  obtain ⟨z, hz, rfl⟩ := exists_amounts hx
  refine (hz.mul hy).value ?_ hrange
  rw [Int.cast_mul, Int.cast_natCast, mul_right_comm]

/-! ## The nearest whole number -/

/-- Half-away rounding moves a fraction by half at most, and by less than half towards zero. -/
theorem halfAway_near (negative : Bool) (num : Nat) {den : Nat} (hden : 0 < den) :
    2 * (Rounding.halfAway.magnitude negative num den * den) ≤ 2 * num + den ∧
      2 * num < 2 * (Rounding.halfAway.magnitude negative num den * den) + den := by
  have hsplit := Nat.div_add_mod num den
  have hrest := Nat.mod_lt num hden
  rw [Nat.mul_comm] at hsplit
  unfold Rounding.magnitude
  simp only [decide_eq_true_eq]
  split
  · rw [Nat.add_mul, Nat.one_mul]
    omega
  · omega

/-- What is nearer to a whole number than half is brought to it. -/
theorem halfAway_eq_of_near {negative : Bool} {num den n : Nat} (hden : 0 < den)
    (hle : 2 * (n * den) ≤ 2 * num + den) (hlt : 2 * num < 2 * (n * den) + den) :
    Rounding.halfAway.magnitude negative num den = n := by
  obtain ⟨hle', hlt'⟩ := halfAway_near negative num hden
  generalize Rounding.halfAway.magnitude negative num den = m at hle' hlt'
  have hmn : m * den < (n + 1) * den := by
    rw [Nat.add_mul]
    omega
  have hnm : n * den < (m + 1) * den := by
    rw [Nat.add_mul]
    omega
  have hm := Nat.lt_of_mul_lt_mul_right hmn
  have hn := Nat.lt_of_mul_lt_mul_right hnm
  omega

/-- The same with a sign. -/
theorem signed_magnitude_halfAway {negative : Bool} {num den : Nat} {n : Int} (hden : 0 < den)
    (hlow : 2 * (n * den) < 2 * signed negative num + den)
    (hhigh : 2 * signed negative num < 2 * (n * den) + den) :
    signed negative (Rounding.halfAway.magnitude negative num den) = n := by
  cases negative with
  | false =>
    rw [signed_false] at hlow hhigh ⊢
    have hn : 0 ≤ n := by
      by_contra hneg
      have hone : n * den ≤ -1 * den := mul_le_mul_of_nonneg_right (by omega) (by omega)
      omega
    obtain ⟨k, rfl⟩ := Int.eq_ofNat_of_zero_le hn
    rw [← Int.natCast_mul] at hlow hhigh
    exact congrArg Nat.cast (halfAway_eq_of_near hden (by omega) (by omega))
  | true =>
    rw [signed_true] at hlow hhigh ⊢
    have hn : 0 ≤ -n := by
      by_contra hpos
      have hone : 1 * den ≤ n * den := mul_le_mul_of_nonneg_right (by omega) (by omega)
      omega
    obtain ⟨k, hk⟩ := Int.eq_ofNat_of_zero_le hn
    obtain rfl : n = -(k : Int) := by omega
    rw [Int.neg_mul, ← Int.natCast_mul] at hlow hhigh
    have hmagnitude : Rounding.halfAway.magnitude true num den = k :=
      halfAway_eq_of_near hden (by omega) (by omega)
    rw [hmagnitude]

/-- Less than half off, without fractions. -/
theorem abs_div_sub_lt_half_iff {a n : Int} {den : Nat} (hden : 0 < den) :
    |(a : ℚ) / den - n| < 1 / 2 ↔ 2 * (n * den) < 2 * a + den ∧ 2 * a < 2 * (n * den) + den := by
  have hden' : (0 : ℚ) < den := Nat.cast_pos.mpr hden
  have hlow : -(1 / 2) < (a : ℚ) / den - n ↔ (2 * (n * den) : ℚ) < 2 * a + den := by
    rw [lt_sub_iff_add_lt, lt_div_iff₀ hden']
    constructor <;> intro h <;> linarith
  have hhigh : (a : ℚ) / den - n < 1 / 2 ↔ (2 * a : ℚ) < 2 * (n * den) + den := by
    rw [sub_lt_iff_lt_add, div_lt_iff₀ hden']
    constructor <;> intro h <;> linarith
  rw [abs_lt, hlow, hhigh]
  norm_cast

/-- **What is less than half off a whole number** is brought to it. -/
theorem toInt_halfAway {e : Exact} {lo hi n : Int} (h : e.value? = some v)
    (hnear : |v - n| < 1 / 2) : e.toInt .halfAway lo hi = clamp lo hi n := by
  cases e with
  | nan | infinite negative => cases h
  | finite negative m q =>
    cases h
    have hden := denominator_pos q
    rw [signed_mul_two_zpow, abs_div_sub_lt_half_iff hden] at hnear
    rw [toInt, signed_magnitude_halfAway hden hnear.1 hnear.2]

end Exact
end Binary64
end HubDispatch
