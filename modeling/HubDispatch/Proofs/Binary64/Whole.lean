import HubDispatch.Proofs.Binary64.Order
import Mathlib.Tactic.Ring

/-!
# Whole numbers as numbers

A whole number of more than 53 bits is rounded when it becomes a number: it is shifted until 53 bits
are left, the bits shifted out decide whether the last one is raised, and should that make one bit
too many, it is shifted once more. Exponent and bits side by side come out the same either way
(`roundWithAccuracy_eq`). So the magnitude of the result is a function of the whole number alone
(`wholeMagnitude`), whatever it was scaled by before, and beyond the range it is that of an infinity
(`rank_ofInt`).

Rounding keeps the order (`magnitude_mono`), and with it whole numbers keep theirs
(`rank_ofInt_mono`). Below `2 ^ 53` nothing is lost, and different whole numbers stay different
(`rank_ofInt_lt`).
-/

namespace HubDispatch
namespace Binary64
namespace Exact

open Float.Model (UnpackedFloat Format totalExponent)
open Float.Model.UnpackedFloat

/-! ## Shifting and rounding -/

theorem shiftRight_succ (em : ExtendedMantissa) (k : Nat) :
    em >>> (k + 1) = (em >>> k).shiftRightOne := rfl

/-- What is kept of a fraction with the denominator `2 * half`: its whole part and the bit of the
half; of all that lies below it is only known whether there is anything. -/
def residue (n half : Nat) : ExtendedMantissa :=
  ⟨n / (2 * half), n / half % 2 != 0, n % half != 0⟩

/-- One bit more is shifted out. -/
theorem shiftRightOne_residue {n half : Nat} (hhalf : 0 < half) :
    (residue n half).shiftRightOne = residue n (half * 2) := by
  have hquotient : n / (2 * half) / 2 = n / (2 * (half * 2)) := by
    rw [Nat.div_div_eq_div_mul, Nat.mul_assoc]
  have hsticky : (n / half % 2 != 0 || n % half != 0) = (n % (half * 2) != 0) := by
    rw [Nat.mod_mul, Bool.eq_iff_iff, Bool.or_eq_true, bne_iff_ne, bne_iff_ne, bne_iff_ne]
    rcases Nat.mod_two_eq_zero_or_one (n / half) with hbit | hbit <;> rw [hbit] <;> omega
  rw [residue, residue, ExtendedMantissa.shiftRightOne, hquotient, hsticky, Nat.mul_comm half 2]

theorem shiftRight_residue {n half : Nat} (hhalf : 0 < half) (k : Nat) :
    residue n half >>> k = residue n (half * 2 ^ k) := by
  induction k with
  | zero =>
    rw [Nat.pow_zero, Nat.mul_one]
    rfl
  | succ k ih =>
    rw [shiftRight_succ, ih, shiftRightOne_residue (Nat.mul_pos hhalf (Nat.two_pow_pos k)),
      Nat.pow_succ, Nat.mul_assoc]

/-- A quotient and what is known of the rest. -/
theorem ofMantissaAndAccuracy_eq {n den : Nat} (hden : 0 < den) :
    ExtendedMantissa.ofMantissaAndAccuracy (n / den) (accuracyOfFraction (n % den) den) =
      residue (2 * n) den := by
  have hrest := Nat.mod_lt n hden
  have hwhole : 2 * n / (2 * den) = n / den := Nat.mul_div_mul_left n den (by decide)
  have hdouble : 2 * n = den * (2 * (n / den)) + 2 * (n % den) := by
    have hsplit := Nat.div_add_mod n den
    rw [Nat.mul_left_comm]
    omega
  have hquotient : 2 * n / den % 2 = 2 * (n % den) / den % 2 := by
    rw [hdouble, Nat.mul_add_div hden]
    omega
  have hbelow : 2 * n % den = 2 * (n % den) % den := by rw [hdouble, Nat.mul_add_mod]
  rw [residue, hwhole, hquotient, hbelow]
  unfold accuracyOfFraction
  generalize n % den = rest at hrest
  -- By where twice the rest lies: at zero, below the denominator, at it, or above.
  by_cases hzero : rest = 0
  · rw [if_pos hzero, hzero, Nat.mul_zero, Nat.zero_div]
    rfl
  · rw [if_neg hzero]
    rcases Nat.lt_trichotomy (2 * rest) den with hlt | heq | hgt
    · rw [compare_lt_iff_lt.mpr hlt, Nat.div_eq_of_lt hlt, Nat.mod_eq_of_lt hlt]
      have hsome : (2 * rest != 0) = true := bne_iff_ne.mpr (by omega)
      rw [hsome]
      rfl
    · rw [compare_eq_iff_eq.mpr heq, heq, Nat.div_self hden, Nat.mod_self]
      rfl
    · have hone : 2 * rest / den = 1 := Nat.div_eq_of_lt_le (by omega) (by omega)
      have hleft : 2 * rest % den = 2 * rest - den := by
        rw [Nat.mod_eq_sub_mod hgt.le, Nat.mod_eq_of_lt (by omega)]
      have hsome : (2 * rest - den != 0) = true := bne_iff_ne.mpr (by omega)
      rw [compare_gt_iff_gt.mpr hgt, hone, hleft, hsome]
      rfl

/-- What half-even rounding makes of a fraction with the denominator `2 * half`, from the bit of the
half and what lies below it. -/
theorem halfEven_eq {half n bit rest : Nat} (hhalf : 0 < half) (hbit : n / half % 2 = bit)
    (hrest : n % half = rest) :
    Rounding.halfEven.magnitude false n (2 * half) =
      if bit = 1 ∧ (rest ≠ 0 ∨ n / (2 * half) % 2 = 1) then n / (2 * half) + 1
      else n / (2 * half) := by
  have hlt : rest < half := hrest ▸ Nat.mod_lt _ hhalf
  have hmod : n % (2 * half) = rest + half * bit := by
    rw [← hbit, ← hrest, Nat.mul_comm 2 half]
    exact Nat.mod_mul
  unfold Rounding.magnitude
  rw [hmod]
  simp only [Bool.or_eq_true, Bool.and_eq_true, decide_eq_true_eq, beq_iff_eq]
  apply if_congr ?_ rfl rfl
  rcases Nat.mod_two_eq_zero_or_one (n / half) with hzero | hone
  · obtain rfl : bit = 0 := hbit.symm.trans hzero
    omega
  · obtain rfl : bit = 1 := hbit.symm.trans hone
    omega

/-- Bits of a fraction are rounded to the nearest whole number, a half to the even neighbour. -/
theorem roundedMantissa_residue {n half : Nat} (hhalf : 0 < half) :
    (residue n half).roundedMantissa = Rounding.halfEven.magnitude false n (2 * half) := by
  rw [residue, halfEven_eq hhalf rfl rfl]
  generalize n / (2 * half) = whole
  have hbit := Nat.mod_two_eq_zero_or_one (n / half)
  generalize n / half % 2 = bit at hbit
  generalize n % half = rest
  -- By the bit of the half and by whether anything lies below it.
  rcases hbit with rfl | rfl
  · cases rest <;> rfl
  · cases rest with
    | zero =>
      change whole + whole % 2 = _
      split <;> omega
    | succ rest =>
      change whole + 1 = _
      rw [if_pos ⟨rfl, Or.inl (Nat.succ_ne_zero rest)⟩]

/-- A fraction is rounded as it is when both parts are multiplied. -/
theorem magnitude_mul_right (rule : Rounding) (negative : Bool) (num den : Nat) {c : Nat}
    (hc : 0 < c) :
    rule.magnitude negative (num * c) (den * c) = rule.magnitude negative num den := by
  have hmod : num * c % (den * c) = num % den * c := Nat.mul_mod_mul_right ..
  have hzero : num % den * c = 0 ↔ num % den = 0 := by
    rw [Nat.mul_eq_zero, or_iff_left hc.ne']
  have hle : den * c ≤ 2 * (num % den * c) ↔ den ≤ 2 * (num % den) := by
    rw [← Nat.mul_assoc]
    exact Nat.mul_le_mul_right_iff hc
  have hlt : den * c < 2 * (num % den * c) ↔ den < 2 * (num % den) := by
    rw [← Nat.mul_assoc]
    exact Nat.mul_lt_mul_right hc
  have heq : den * c = 2 * (num % den * c) ↔ den = 2 * (num % den) := by
    rw [← Nat.mul_assoc]
    exact Nat.mul_left_inj hc.ne'
  unfold Rounding.magnitude
  cases rule <;>
    simp only [Nat.mul_div_mul_right num den hc, hmod, Bool.or_eq_true, Bool.and_eq_true,
      decide_eq_true_eq, beq_iff_eq, bne_iff_ne, ne_eq, hzero, hle, hlt, heq]

/-- **Rounding a quotient that is shifted right** is rounding the fraction with the larger
denominator. -/
theorem roundedMantissa_quotient (n : Nat) {den : Nat} (hden : 0 < den) (k : Nat) :
    (ExtendedMantissa.ofMantissaAndAccuracy (n / den) (accuracyOfFraction (n % den) den) >>>
      k).roundedMantissa = Rounding.halfEven.magnitude false n (den * 2 ^ k) := by
  rw [ofMantissaAndAccuracy_eq hden, shiftRight_residue hden,
    roundedMantissa_residue (Nat.mul_pos hden (Nat.two_pow_pos k)), Nat.mul_comm 2 n,
    Nat.mul_comm 2, magnitude_mul_right _ _ _ _ (by decide)]

/-- **Rounding what is shifted right** is rounding the quotient to the nearest, a half to the even
neighbour. -/
theorem roundedMantissa_shiftRight (m k : Nat) :
    (ExtendedMantissa.ofMantissaAndAccuracy m .exact >>> k).roundedMantissa =
      Rounding.halfEven.magnitude false m (2 ^ k) := by
  have hone := roundedMantissa_quotient m Nat.one_pos k
  rw [Nat.div_one, Nat.mod_one, Nat.one_mul] at hone
  exact hone

/-- Rounding goes to the quotient or to the next whole number. -/
theorem magnitude_bounds (rule : Rounding) (negative : Bool) (num den : Nat) :
    num / den ≤ rule.magnitude negative num den ∧
      rule.magnitude negative num den ≤ num / den + 1 := by
  have hraised : ∀ raised : Bool, num / den ≤ (if raised then num / den + 1 else num / den) ∧
      (if raised then num / den + 1 else num / den) ≤ num / den + 1 := by
    intro raised
    split <;> omega
  exact hraised _

/-- Rounding keeps the order. -/
theorem magnitude_mono (rule : Rounding) (negative : Bool) {n n' den : Nat} (h : n ≤ n') :
    rule.magnitude negative n den ≤ rule.magnitude negative n' den := by
  rcases Nat.lt_or_eq_of_le (Nat.div_le_div_right (c := den) h) with hlt | heq
  · have hhi := (magnitude_bounds rule negative n den).2
    have hlo := (magnitude_bounds rule negative n' den).1
    omega
  · -- The quotients are the same, so more is left of the larger one.
    have hrest : n % den ≤ n' % den := by
      have hsplit := Nat.div_add_mod n den
      have hsplit' := Nat.div_add_mod n' den
      rw [← heq] at hsplit'
      omega
    have hraised : ∀ {a b : Bool}, (a = true → b = true) →
        (if a then n / den + 1 else n / den) ≤ if b then n / den + 1 else n / den := by
      intro a b hab
      split
      · rw [if_pos (hab ‹_›)]
      · split <;> omega
    unfold Rounding.magnitude
    rw [← heq]
    refine hraised fun hraise => ?_
    cases rule with
    | towardZero => exact hraise
    | down | up =>
      simp only [Bool.and_eq_true, bne_iff_ne] at hraise ⊢
      exact ⟨hraise.1, by omega⟩
    | halfAway | halfEven =>
      simp only [Bool.or_eq_true, Bool.and_eq_true, decide_eq_true_eq, beq_iff_eq] at hraise ⊢
      omega

/-- The bits of a number with leading bit `52 + k` that are kept. -/
def kept (m : Nat) : Nat := Rounding.halfEven.magnitude false m (2 ^ (m.log2 - 52))

theorem kept_bounds {m : Nat} (hm : 52 ≤ m.log2) : 2 ^ 52 ≤ kept m ∧ kept m ≤ 2 ^ 53 := by
  have hne : m ≠ 0 := by
    rintro rfl
    simp at hm
  obtain ⟨hlo, hhi⟩ := (Nat.log2_eq_iff hne).mp rfl
  obtain ⟨hlo', hhi'⟩ := magnitude_bounds .halfEven false m (2 ^ (m.log2 - 52))
  have hsplit : m.log2 = 52 + (m.log2 - 52) := by omega
  have hpos : 0 < 2 ^ (m.log2 - 52) := Nat.two_pow_pos _
  have hquotient : 2 ^ 52 ≤ m / 2 ^ (m.log2 - 52) := by
    rw [Nat.le_div_iff_mul_le hpos, ← Nat.pow_add, ← hsplit]
    exact hlo
  have hquotient' : m / 2 ^ (m.log2 - 52) < 2 ^ 53 := by
    rw [Nat.div_lt_iff_lt_mul hpos, ← Nat.pow_add]
    have hexp : 53 + (m.log2 - 52) = m.log2 + 1 := by omega
    rw [hexp]
    exact hhi
  unfold kept
  omega

/-- Exponents aim at 53 bits, as long as they do not become too small. -/
theorem targetExponent_eq (e : Int) :
    Format.binary64.targetExponent e = max (e - 53) (-1074) := rfl

theorem targetExponent_of_normal {m : Nat} {e : Int} (he : -1022 ≤ (m.log2 : Int) + e) :
    Format.binary64.targetExponent (totalExponent m e) = (m.log2 : Int) + e - 52 := by
  rw [targetExponent_eq, totalExponent]
  omega

/-- A number of normal size is shifted until it has 53 bits. -/
theorem shiftToTargetExponent_eq {m : Nat} {e : Int} (accuracy : Accuracy) (hm : 52 ≤ m.log2)
    (he : -1022 ≤ (m.log2 : Int) + e) :
    shiftToTargetExponent Format.binary64 m e accuracy =
      (ExtendedMantissa.ofMantissaAndAccuracy m accuracy >>> (m.log2 - 52),
        e + (m.log2 - 52 : Nat)) := by
  have htarget := targetExponent_of_normal he
  have hshift : ((m.log2 : Int) + e - 52 - e).toNat = m.log2 - 52 := by omega
  unfold shiftToTargetExponent shiftToExponent
  simp only [htarget, hshift]

/-- A number from the bits and the exponent that shifting has come to. -/
def assembled (s : Sign) (final : ExtendedMantissa × Int) : UnpackedFloat :=
  if h : final.1.mantissa = 0 then .zero s
  else .finite s final.1.mantissa final.2 (Nat.pos_of_ne_zero h)

theorem assembled_of_pos {s : Sign} {em : ExtendedMantissa} {q : Int} (h : 0 < em.mantissa) :
    assembled s (em, q) = .finite s em.mantissa q h :=
  dif_neg (Nat.ne_of_gt h)

theorem roundWithAccuracy_eq_assembled {s : Sign} {m n : Nat} {e q : Int} {em : ExtendedMantissa}
    {accuracy : Accuracy} (hfirst : shiftToTargetExponent Format.binary64 m e accuracy = (em, q))
    (hrounded : em.roundedMantissa = n) :
    roundWithAccuracy Format.binary64 s m e accuracy =
      assembled s (shiftToTargetExponent Format.binary64 n q .exact) := by
  have hunfold : roundWithAccuracy Format.binary64 s m e accuracy =
      assembled s (shiftToTargetExponent Format.binary64
        (shiftToTargetExponent Format.binary64 m e accuracy).1.roundedMantissa
        (shiftToTargetExponent Format.binary64 m e accuracy).2 .exact) := rfl
  rw [hunfold, hfirst, hrounded]

/-- **Rounding to 53 bits.** Exponent and bits side by side say what comes of it, also where
rounding up makes one bit too many. -/
theorem roundWithAccuracy_eq {s : Sign} {m : Nat} {e : Int} (hm : 52 ≤ m.log2)
    (he : -1022 ≤ (m.log2 : Int) + e) :
    ∃ (n : Nat) (q : Int) (hn : 0 < n),
      roundWithAccuracy Format.binary64 s m e .exact = .finite s n q hn ∧
        (2 ^ 52 ≤ n ∧ n < 2 ^ 53) ∧ -1074 ≤ q ∧
        (2 ^ 52 * (q + 1074) + n : Int) = 2 ^ 52 * (m.log2 + e + 1022) + kept m := by
  obtain ⟨hlo, hhi⟩ := kept_bounds hm
  have hround := roundWithAccuracy_eq_assembled (s := s) (shiftToTargetExponent_eq .exact hm he)
    (roundedMantissa_shiftRight m (m.log2 - 52))
  change _ = assembled s (shiftToTargetExponent _ (kept m) _ _) at hround
  rcases Nat.lt_or_eq_of_le hhi with hlt | htop
  · have hlog : (kept m).log2 = 52 := (Nat.log2_eq_iff (by omega)).mpr ⟨hlo, hlt⟩
    rw [shiftToTargetExponent_eq _ (by omega) (by omega), hlog] at hround
    refine ⟨kept m, e + (m.log2 - 52 : Nat), by omega, ?_, ⟨hlo, hlt⟩, by omega, by omega⟩
    rw [hround]
    have hsame : e + (m.log2 - 52 : Nat) + (52 - 52 : Nat) = e + (m.log2 - 52 : Nat) := by omega
    rw [hsame]
    exact assembled_of_pos _
  · have hlog : (kept m).log2 = 53 := by
      rw [htop]
      exact Nat.log2_two_pow
    rw [shiftToTargetExponent_eq _ (by omega) (by omega), hlog, htop] at hround
    refine ⟨2 ^ 52, e + (m.log2 - 52 : Nat) + 1, by omega, ?_, ⟨by omega, by omega⟩, by omega,
      by omega⟩
    rw [hround]
    exact assembled_of_pos _

/-! ## Putting numbers together -/

theorem unpackSign_packComponents {spec : Format} {s : Sign}
    {exponent : BitVec spec.exponentBits} {fraction : BitVec spec.mantissaBitsWithoutImplicit} :
    unpackSign (packComponents spec s exponent fraction) = s.toBitVec := by
  apply BitVec.eq_of_getLsbD_eq
  intro i hi
  obtain rfl : i = 0 := by omega
  simp [unpackSign, packComponents, BitVec.getLsbD_append, BitVec.getElem_append]

theorem ofBitVec_toBitVec (s : Sign) : Sign.ofBitVec s.toBitVec = s := by cases s <;> rfl

/-- What is put together from its parts has their value. -/
theorem ofUnpacked_packComponents (s : Sign) (exponent : BitVec 11) (fraction : BitVec 52) :
    ofUnpacked (unpack Format.binary64 (packComponents Format.binary64 s exponent fraction)) =
      ofFields (isNegative s) exponent.toNat fraction.toNat := by
  rw [ofUnpacked_unpack, unpackExponent_packComponents, unpackMantissa_packComponents,
    unpackSign_packComponents, ofBitVec_toBitVec]

theorem unpack_pack_infinity (s : Sign) :
    unpack Format.binary64 (pack Format.binary64 (.infinity s)) = .infinity s := by
  cases s <;> rfl

section Pack

variable (s : Sign) {m : Nat} {q : Int} (hm : 0 < m)

/-- A number of 53 bits in range is put together from its exponent and its bits. -/
theorem pack_finite (hlo : 2 ^ 52 ≤ m) (hhi : m < 2 ^ 53) (hq : -1074 ≤ q) (hq' : q ≤ 971) :
    pack Format.binary64 (.finite s m q hm) =
      packComponents Format.binary64 s (BitVec.ofNat 11 (q + 1075).toNat) (BitVec.ofNat 52 m) := by
  have hlog : m.log2 = 52 := (Nat.log2_eq_iff (by omega)).mpr ⟨hlo, hhi⟩
  have hbias : (Format.binary64.exponentBias : Int) = 1023 := rfl
  have hbiased : (q + (Format.binary64.exponentBias : Int) + (52 : Nat)).toNat =
      (q + 1075).toNat := by omega
  have hbits : 52 + 1 = Format.binary64.mantissaBits := rfl
  unfold pack
  simp only [hbiased, hlog]
  rw [if_neg (by omega), if_pos hbits]

/-- A number of 53 bits is taken apart as it was put together. -/
theorem unpack_pack_finite (hlo : 2 ^ 52 ≤ m) (hhi : m < 2 ^ 53) (hq : -1074 ≤ q) (hq' : q ≤ 971) :
    unpack Format.binary64 (pack Format.binary64 (.finite s m q hm)) = .finite s m q hm := by
  have hbias : (Format.binary64.exponentBias : Int) = 1023 := rfl
  have hexponent : (BitVec.ofNat 11 (q + 1075).toNat).toNat = (q + 1075).toNat := by
    rw [BitVec.toNat_ofNat]
    omega
  have hfraction : (BitVec.ofNat 52 m).toNat = m - 2 ^ 52 := by
    rw [BitVec.toNat_ofNat]
    omega
  have hone : (1#1 ++ BitVec.ofNat 52 m).toNat = m := by
    rw [BitVec.toNat_append, ← Nat.shiftLeft_add_eq_or_of_lt (BitVec.ofNat 52 m).isLt, hfraction]
    have hshift : (1#1).toNat <<< 52 = 2 ^ 52 := rfl
    rw [hshift]
    omega
  have hinside : BitVec.ofNat 11 (q + 1075).toNat ≠ -1#11 := by
    intro h
    have h := congrArg BitVec.toNat h
    rw [hexponent] at h
    change (q + 1075).toNat = 2047 at h
    omega
  have hnormal : BitVec.ofNat 11 (q + 1075).toNat ≠ 0#11 := by
    intro h
    have h := congrArg BitVec.toNat h
    rw [hexponent] at h
    change (q + 1075).toNat = 0 at h
    omega
  rw [pack_finite s hm hlo hhi hq hq']
  unfold unpack
  simp only [unpackExponent_packComponents, unpackMantissa_packComponents,
    unpackSign_packComponents, ofBitVec_toBitVec]
  rw [if_neg hinside, if_neg hnormal]
  simp only [hexponent, hone, hbias]
  congr 1
  omega

/-- A number beyond the range is an infinity. -/
theorem pack_of_large (hq : 972 ≤ q) :
    pack Format.binary64 (.finite s m q hm) = pack Format.binary64 (.infinity s) := by
  have hbiased : (q + (Format.binary64.exponentBias : Int) + (52 : Nat)).toNat =
      (q + 1075).toNat := by
    have hbias : (Format.binary64.exponentBias : Int) = 1023 := rfl
    omega
  unfold pack
  simp only [hbiased]
  rw [if_pos (by omega)]

/-- A number of 53 bits that is put together has its rank, or that of an infinity. -/
theorem rank_pack (hlo : 2 ^ 52 ≤ m) (hhi : m < 2 ^ 53) (hq : -1074 ≤ q) :
    rank (ofUnpacked (unpack Format.binary64 (pack Format.binary64 (.finite s m q hm)))) =
      signed (isNegative s) (min top (magnitude m q)) := by
  by_cases hq' : q ≤ 971
  · rw [unpack_pack_finite s hm hlo hhi hq hq', ofUnpacked, rank, min_eq_right]
    unfold magnitude top
    omega
  · rw [pack_of_large s hm (by omega), unpack_pack_infinity, ofUnpacked, rank, min_eq_left]
    unfold magnitude top
    omega

end Pack

/-! ## Whole numbers -/

theorem log2_mul_two_pow {n : Nat} (hn : 0 < n) (j : Nat) : (n * 2 ^ j).log2 = n.log2 + j := by
  obtain ⟨hlo, hhi⟩ := (Nat.log2_eq_iff hn.ne').mp rfl
  have hpos : 0 < 2 ^ j := Nat.two_pow_pos j
  refine (Nat.log2_eq_iff (Nat.mul_pos hn hpos).ne').mpr ⟨?_, ?_⟩
  · rw [Nat.pow_add]
    exact Nat.mul_le_mul_right _ hlo
  · rw [Nat.add_right_comm, Nat.pow_add]
    exact Nat.mul_lt_mul_of_pos_right hhi hpos

/-- The magnitude of a whole number, if the range were unbounded: as many bits as there is room
for, the rest rounded. -/
def wholeMagnitude (n : Nat) : Nat :=
  if n = 0 then 0
  else 2 ^ 52 * (n.log2 + 1022) + Rounding.halfEven.magnitude false (2 ^ 52 * n) (2 ^ n.log2)

theorem kept_mul_two_pow {n j : Nat} (hn : 0 < n) (hj : 52 ≤ n.log2 + j) :
    kept (n * 2 ^ j) = Rounding.halfEven.magnitude false (2 ^ 52 * n) (2 ^ n.log2) := by
  unfold kept
  rw [log2_mul_two_pow hn, ← magnitude_mul_right _ _ _ _ (Nat.two_pow_pos 52),
    ← magnitude_mul_right _ _ (2 ^ 52 * n) _ (Nat.two_pow_pos j), ← Nat.pow_add, ← Nat.pow_add]
  have hexp : n.log2 + j - 52 + 52 = n.log2 + j := by omega
  have hnum : n * 2 ^ j * 2 ^ 52 = 2 ^ 52 * n * 2 ^ j := by ring
  rw [hexp, hnum]

/-- A whole number that is rounded from a scaled form has its magnitude. -/
theorem round_whole {n j : Nat} (hn : 0 < n) (hj : 52 ≤ n.log2 + j) :
    ∃ (m : Nat) (q : Int) (hm : 0 < m),
      roundWithAccuracy Format.binary64 .positive (n * 2 ^ j) (-j) .exact =
          .finite .positive m q hm ∧
        (2 ^ 52 ≤ m ∧ m < 2 ^ 53) ∧ (-1074 ≤ q ∧ q + 51 ≤ n.log2) ∧
        magnitude m q = wholeMagnitude n := by
  have hlog := log2_mul_two_pow hn j
  obtain ⟨-, hhi⟩ := kept_bounds (m := n * 2 ^ j) (by omega)
  obtain ⟨m, q, hm, hround, hbits, hq, hvalue⟩ := roundWithAccuracy_eq (s := .positive)
    (m := n * 2 ^ j) (e := -(j : Int)) (by omega) (by omega)
  refine ⟨m, q, hm, hround, hbits, ⟨hq, by omega⟩, ?_⟩
  rw [hlog, kept_mul_two_pow hn hj] at hvalue
  rw [magnitude, wholeMagnitude, if_neg hn.ne']
  omega

/-- A number of 53 bits times one is itself. -/
theorem round_mul_one {m : Nat} {q : Int} {hm : 0 < m} (hlo : 2 ^ 52 ≤ m) (hhi : m < 2 ^ 53)
    (hq : -1074 ≤ q) :
    roundWithAccuracy Format.binary64 .positive (m * 2 ^ 52) (q + -52) .exact =
      .finite .positive m q hm := by
  have hlog : m.log2 = 52 := (Nat.log2_eq_iff (by omega)).mpr ⟨hlo, hhi⟩
  have hlog' : (m * 2 ^ 52).log2 = 104 := by
    rw [log2_mul_two_pow hm, hlog]
  obtain ⟨n, r, hn, hround, hbits, hr, hvalue⟩ := roundWithAccuracy_eq (s := .positive)
    (m := m * 2 ^ 52) (e := q + -52) (by omega) (by omega)
  have hkept : kept (m * 2 ^ 52) = m := by
    rw [kept_mul_two_pow hm (by omega), hlog, Nat.mul_comm]
    have hone := magnitude_mul_right .halfEven false m 1 (Nat.two_pow_pos 52)
    rw [Nat.one_mul] at hone
    rw [hone]
    simp [Rounding.magnitude, Nat.mod_one]
  rw [hkept, hlog'] at hvalue
  rw [hround]
  congr 1 <;> omega

/-- A whole number below `2 ^ 53` is brought to 53 bits before it is rounded. -/
theorem ofNat_eq_round {n : Nat} (hn : 0 < n) (hlt : n < 2 ^ 53) :
    UnpackedFloat.ofNat Format.binary64 n =
      roundWithAccuracy Format.binary64 .positive (n * 2 ^ (52 - n.log2)) (-(52 - n.log2 : Nat))
        .exact := by
  have hlog : n.log2 < 53 := (Nat.log2_lt hn.ne').mpr hlt
  have hcompare : compare (n : Int) 0 = .gt := compare_gt_iff_gt.mpr (by omega)
  have htarget := targetExponent_of_normal (show -1022 ≤ (n.log2 : Int) + 0 by omega)
  have hshift : (-((n.log2 : Int) + 0 - 52)).toNat = 52 - n.log2 := by omega
  unfold UnpackedFloat.ofNat UnpackedFloat.ofInt UnpackedFloat.normalize
  simp only [hcompare, Int.toNat_natCast]
  unfold UnpackedFloat.round decreaseExponent
  simp only [htarget, Int.zero_sub, hshift, Nat.shiftLeft_eq]

theorem toModel_toFloat {n : Nat} (hlt : n < 2 ^ 53) :
    n.toUInt64.toFloat.toModel = Float.Model.pack (UnpackedFloat.ofNat Format.binary64 n) := by
  have hsame : n.toUInt64.toNat = n := UInt64.toNat_ofNat_of_lt (hlt.trans (by decide))
  change Float.Model.pack (UnpackedFloat.ofNat Format.binary64 n.toUInt64.toNat) = _
  rw [hsame]

/-- A whole number below `2 ^ 53` is made of its bits and then multiplied by one. -/
theorem ofNat_eq_mul_one {n : Nat} (hlt : n < 2 ^ 53) :
    Float.ofNat n = n.toUInt64.toFloat * Float.ofBits 0x3FF0000000000000 := by
  unfold Float.ofNat
  change Float.ofScientific n false 0 = _
  unfold Float.ofScientific
  rw [dif_pos ⟨hlt, by decide⟩]
  rfl

theorem toModel_ofNat_of_lt {n m : Nat} {q : Int} {hm : 0 < m} (hn : 0 < n) (hlt : n < 2 ^ 53)
    (hround : roundWithAccuracy Format.binary64 .positive (n * 2 ^ (52 - n.log2))
      (-(52 - n.log2 : Nat)) .exact = .finite .positive m q hm)
    (hlo : 2 ^ 52 ≤ m) (hhi : m < 2 ^ 53) (hq : -1074 ≤ q) (hq' : q ≤ 971) :
    (Float.ofNat n).toModel = Float.Model.pack (.finite .positive m q hm) := by
  have hunpacked : n.toUInt64.toFloat.toModel.unpack = .finite .positive m q hm := by
    rw [toModel_toFloat hlt, ofNat_eq_round hn hlt, hround]
    exact unpack_pack_finite _ hm hlo hhi hq hq'
  have hone : (Float.ofBits 0x3FF0000000000000).toModel.unpack =
      .finite .positive (2 ^ 52) (-52) (by decide) := rfl
  rw [ofNat_eq_mul_one hlt]
  change Float.Model.pack (UnpackedFloat.mul Format.binary64 n.toUInt64.toFloat.toModel.unpack
    (Float.ofBits 0x3FF0000000000000).toModel.unpack) = _
  rw [hunpacked, hone]
  exact congrArg Float.Model.pack (round_mul_one hlo hhi hq)

/-- A whole number from `2 ^ 53` on is scaled by `2 ^ 53` before it is rounded. -/
theorem toModel_ofNat_of_le {n : Nat} (hle : 2 ^ 53 ≤ n) :
    (Float.ofNat n).toModel = Float.Model.pack
      (roundWithAccuracy Format.binary64 .positive (n * 2 ^ 53) (-(53 : Nat)) .exact) := by
  have hscientific : Float.ofNat n =
      Float.ofModel (.pack (UnpackedFloat.ofScientific Format.binary64 n 0)) := by
    unfold Float.ofNat
    change Float.ofScientific n false 0 = _
    unfold Float.ofScientific
    rw [dif_neg (fun h => not_lt.mpr hle h.1)]
    rfl
  have hround : UnpackedFloat.ofScientific Format.binary64 n 0 =
      roundWithAccuracy Format.binary64 .positive (n * 2 ^ 53) (-(53 : Nat)) .exact := by
    have hrange : (2 : Int) ^ Format.binary64.exponentBits = 2048 := rfl
    unfold UnpackedFloat.ofScientific
    rw [dif_neg (show n ≠ 0 by omega), hrange, if_neg (by omega), if_neg (by omega),
      if_pos le_rfl]
    change roundWithAccuracy Format.binary64 .positive (n <<< 53 * 1) (-(53 : Nat) + 0) .exact = _
    rw [Nat.mul_one, Nat.shiftLeft_eq, Int.add_zero]
  rw [hscientific, ← hround]

/-- **A whole number as a number** has its magnitude, if that is in range. -/
theorem toModel_ofNat {n : Nat} (hn : 0 < n) :
    ∃ (m : Nat) (q : Int) (hm : 0 < m),
      (Float.ofNat n).toModel = Float.Model.pack (.finite .positive m q hm) ∧
        (2 ^ 52 ≤ m ∧ m < 2 ^ 53) ∧ -1074 ≤ q ∧ magnitude m q = wholeMagnitude n := by
  by_cases hlt : n < 2 ^ 53
  · have hlog : n.log2 < 53 := (Nat.log2_lt hn.ne').mpr hlt
    obtain ⟨m, q, hm, hround, hbits, ⟨hq, hq'⟩, hvalue⟩ :=
      round_whole (j := 52 - n.log2) hn (by omega)
    exact ⟨m, q, hm, toModel_ofNat_of_lt hn hlt hround hbits.1 hbits.2 hq (by omega), hbits, hq,
      hvalue⟩
  · obtain ⟨m, q, hm, hround, hbits, ⟨hq, -⟩, hvalue⟩ := round_whole (j := 53) hn (by omega)
    refine ⟨m, q, hm, ?_, hbits, hq, hvalue⟩
    rw [toModel_ofNat_of_le (not_lt.mp hlt), hround]

/-- A whole number other than zero has its sign, and the magnitude of its absolute value. -/
theorem toModel_ofInt {z : Int} (hz : z ≠ 0) :
    ∃ (s : Sign) (m : Nat) (q : Int) (hm : 0 < m),
      (Float.ofInt z).toModel = Float.Model.pack (.finite s m q hm) ∧
        isNegative s = decide (z < 0) ∧ (2 ^ 52 ≤ m ∧ m < 2 ^ 53) ∧ -1074 ≤ q ∧
        magnitude m q = wholeMagnitude z.natAbs := by
  cases z with
  | ofNat n =>
    have hn : 0 < n := by
      rw [Int.ofNat_eq_natCast] at hz
      omega
    obtain ⟨m, q, hm, hmodel, hbits, hq, hvalue⟩ := toModel_ofNat hn
    exact ⟨.positive, m, q, hm, hmodel, rfl, hbits, hq, hvalue⟩
  | negSucc n =>
    obtain ⟨m, q, hm, hmodel, hbits, hq, hvalue⟩ := toModel_ofNat (Nat.succ_pos n)
    refine ⟨.negative, m, q, hm, ?_, (decide_eq_true (Int.negSucc_lt_zero n)).symm, hbits, hq,
      hvalue⟩
    change Float.Model.pack (Float.ofNat (n + 1)).toModel.unpack.neg = _
    rw [hmodel]
    change Float.Model.pack (unpack Format.binary64 (pack Format.binary64 _)).neg = _
    by_cases hq' : q ≤ 971
    · rw [unpack_pack_finite _ hm hbits.1 hbits.2 hq hq']
      rfl
    · rw [pack_of_large _ hm (by omega), unpack_pack_infinity]
      have hlarge := pack_of_large .negative hm (show 972 ≤ q by omega)
      unfold Float.Model.pack
      congr 2
      exact hlarge.symm

theorem rank_ofInt (z : Int) :
    rank (ofFloat (Float.ofInt z)) =
      signed (decide (z < 0)) (min top (wholeMagnitude z.natAbs)) := by
  by_cases hz : z = 0
  · rw [hz]
    decide +kernel
  · obtain ⟨s, m, q, hm, hmodel, hsign, hbits, hq, hvalue⟩ := toModel_ofInt hz
    rw [ofFloat_eq, hmodel, ← hsign, ← hvalue]
    exact rank_pack s hm hbits.1 hbits.2 hq

/-- Whole numbers become numbers, and zero the positive zero. -/
theorem proper_ofInt (z : Int) : Proper (Float.ofInt z) := by
  by_cases hz : z = 0
  · rw [hz]
    exact ⟨by decide +kernel, by decide +kernel⟩
  · obtain ⟨s, m, q, hm, hmodel, hsign, hbits, hq, hvalue⟩ := toModel_ofInt hz
    have hread : ofFloat (Float.ofInt z) =
        ofUnpacked (unpack Format.binary64 (pack Format.binary64 (.finite s m q hm))) := by
      rw [ofFloat_eq, hmodel]
      rfl
    unfold Proper
    rw [hread]
    by_cases hq' : q ≤ 971
    · rw [unpack_pack_finite _ hm hbits.1 hbits.2 hq hq']
      refine ⟨nofun, fun h => ?_⟩
      injection h with _ hzero
      omega
    · rw [pack_of_large _ hm (by omega), unpack_pack_infinity]
      exact ⟨nofun, nofun⟩

/-! ## The order of whole numbers -/

theorem wholeMagnitude_bounds {n : Nat} (hn : 0 < n) :
    2 ^ 52 * (n.log2 + 1023) ≤ wholeMagnitude n ∧
      wholeMagnitude n ≤ 2 ^ 52 * (n.log2 + 1024) := by
  obtain ⟨hlo, hhi⟩ := (Nat.log2_eq_iff hn.ne').mp rfl
  obtain ⟨hlo', hhi'⟩ := magnitude_bounds .halfEven false (2 ^ 52 * n) (2 ^ n.log2)
  have hpos : 0 < 2 ^ n.log2 := Nat.two_pow_pos _
  have hquotient : 2 ^ 52 ≤ 2 ^ 52 * n / 2 ^ n.log2 := by
    rw [Nat.le_div_iff_mul_le hpos]
    exact Nat.mul_le_mul_left _ hlo
  have hquotient' : 2 ^ 52 * n / 2 ^ n.log2 < 2 ^ 53 := by
    rw [Nat.div_lt_iff_lt_mul hpos]
    rw [Nat.pow_succ] at hhi
    omega
  rw [wholeMagnitude, if_neg hn.ne']
  omega

theorem wholeMagnitude_mono {n n' : Nat} (h : n ≤ n') : wholeMagnitude n ≤ wholeMagnitude n' := by
  by_cases hn : n = 0
  · rw [hn]
    exact Nat.zero_le _
  · have hpos : 0 < n := Nat.pos_of_ne_zero hn
    have hpos' : 0 < n' := hpos.trans_le h
    have hlog : n.log2 ≤ n'.log2 := by
      refine (Nat.le_log2 hpos'.ne').mpr ?_
      exact (Nat.log2_self_le hn).trans h
    rcases Nat.lt_or_eq_of_le hlog with hlt | heq
    · have hhi := (wholeMagnitude_bounds hpos).2
      have hlo := (wholeMagnitude_bounds hpos').1
      omega
    · rw [wholeMagnitude, wholeMagnitude, if_neg hn, if_neg hpos'.ne', heq]
      exact Nat.add_le_add_left (magnitude_mono _ _ (Nat.mul_le_mul_left _ h)) _

/-- Nothing is lost of at most 53 bits. -/
theorem wholeMagnitude_eq {n : Nat} (hn : 0 < n) (hlog : n.log2 ≤ 52) :
    wholeMagnitude n = 2 ^ 52 * (n.log2 + 1022) + n * 2 ^ (52 - n.log2) := by
  have hscaled : 2 ^ 52 * n = n * 2 ^ (52 - n.log2) * 2 ^ n.log2 := by
    rw [Nat.mul_assoc, ← Nat.pow_add, Nat.sub_add_cancel hlog, Nat.mul_comm]
  have hone := magnitude_mul_right .halfEven false (n * 2 ^ (52 - n.log2)) 1
    (Nat.two_pow_pos n.log2)
  rw [Nat.one_mul] at hone
  rw [wholeMagnitude, if_neg hn.ne', hscaled, hone]
  simp [Rounding.magnitude, Nat.mod_one]

theorem wholeMagnitude_lt {n n' : Nat} (h : n < n') (h' : n' ≤ 2 ^ 53) :
    wholeMagnitude n < wholeMagnitude n' := by
  have hpos' : 0 < n' := Nat.zero_lt_of_lt h
  have hlo' := (wholeMagnitude_bounds hpos').1
  by_cases hn : n = 0
  · rw [hn]
    change 0 < _
    omega
  · have hpos : 0 < n := Nat.pos_of_ne_zero hn
    have hlog : n.log2 < 53 := (Nat.log2_lt hn).mpr (h.trans_le h')
    have hle : n.log2 ≤ n'.log2 :=
      (Nat.le_log2 hpos'.ne').mpr ((Nat.log2_self_le hn).trans h.le)
    rw [wholeMagnitude_eq hpos (by omega)]
    rcases Nat.lt_or_eq_of_le hle with hlt | heq
    · have hbits : n * 2 ^ (52 - n.log2) < 2 ^ 53 := by
        have hhi := ((Nat.log2_eq_iff hn).mp rfl).2
        have hscaled := Nat.mul_lt_mul_of_pos_right hhi (Nat.two_pow_pos (52 - n.log2))
        rw [← Nat.pow_add] at hscaled
        have hexp : n.log2 + 1 + (52 - n.log2) = 53 := by omega
        rwa [hexp] at hscaled
      omega
    · rw [wholeMagnitude_eq hpos' (by omega), ← heq]
      exact Nat.add_lt_add_left (Nat.mul_lt_mul_of_pos_right h (Nat.two_pow_pos _)) _

theorem wholeMagnitude_lt_top {n : Nat} (h : n ≤ 2 ^ 53) : wholeMagnitude n < top := by
  have hmono := wholeMagnitude_mono h
  have hlarge : wholeMagnitude (2 ^ 53) < top := by decide +kernel
  omega

theorem signed_natAbs (z : Int) : signed (decide (z < 0)) z.natAbs = z := by
  by_cases hz : z < 0
  · rw [decide_eq_true hz, signed_true]
    omega
  · rw [decide_eq_false hz, signed_false]
    omega

/-- **Whole numbers keep their order**, though different ones may become the same number. -/
theorem rank_ofInt_mono {z z' : Int} (h : z ≤ z') :
    rank (ofFloat (Float.ofInt z)) ≤ rank (ofFloat (Float.ofInt z')) := by
  have hmono : ∀ {n n' : Nat}, n ≤ n' → min top (wholeMagnitude n) ≤ min top (wholeMagnitude n') :=
    fun hle => min_le_min_left top (wholeMagnitude_mono hle)
  have hzero : ∀ n : Nat, n = 0 → min top (wholeMagnitude n) = 0 := by
    rintro n rfl
    rfl
  rw [← signed_natAbs z, ← signed_natAbs z'] at h
  rw [rank_ofInt, rank_ofInt]
  exact signed_le_signed h (fun _ _ => hmono) (fun _ _ => hmono) (hzero _) (hzero _)

/-- Whole numbers of at most 53 bits stay different. -/
theorem rank_ofInt_lt {z z' : Int} (h : z < z') (hz : z.natAbs ≤ 2 ^ 53)
    (hz' : z'.natAbs ≤ 2 ^ 53) :
    rank (ofFloat (Float.ofInt z)) < rank (ofFloat (Float.ofInt z')) := by
  have htop := wholeMagnitude_lt_top hz
  have htop' := wholeMagnitude_lt_top hz'
  rw [rank_ofInt, rank_ofInt, min_eq_right htop.le, min_eq_right htop'.le]
  by_cases hneg : z < 0
  · by_cases hneg' : z' < 0
    · have hlt := wholeMagnitude_lt (show z'.natAbs < z.natAbs by omega) hz
      simp only [hneg, hneg', decide_true, signed_true]
      omega
    · have hlt := wholeMagnitude_lt (show 0 < z.natAbs by omega) hz
      simp only [hneg, hneg', decide_true, decide_false, signed_true, signed_false]
      omega
  · have hneg' : ¬ z' < 0 := by omega
    have hlt := wholeMagnitude_lt (show z.natAbs < z'.natAbs by omega) hz'
    simp only [hneg, hneg', decide_false, signed_false]
    omega

/-- Numbers of whole numbers are in their order if there are no more than 53 bits on the right. -/
theorem ofInt_lt_iff_of_right {z b : Int} (hlow : -2 ^ 53 < b) (hhigh : b ≤ 2 ^ 53) :
    Float.ofInt z < Float.ofInt b ↔ z < b := by
  rw [lt_iff_rank_lt (proper_ofInt z).1 (proper_ofInt b).1]
  constructor
  · intro h
    by_contra hle
    have hmono := rank_ofInt_mono (not_lt.mp hle)
    omega
  · intro h
    have hbefore := rank_ofInt_lt (show b - 1 < b by omega) (by omega) (by omega)
    have hmono := rank_ofInt_mono (show z ≤ b - 1 by omega)
    omega

/-- And likewise if there are no more than 53 bits on the left. -/
theorem ofInt_lt_iff_of_left {b z : Int} (hlow : -2 ^ 53 ≤ b) (hhigh : b < 2 ^ 53) :
    Float.ofInt b < Float.ofInt z ↔ b < z := by
  rw [lt_iff_rank_lt (proper_ofInt b).1 (proper_ofInt z).1]
  constructor
  · intro h
    by_contra hle
    have hmono := rank_ofInt_mono (not_lt.mp hle)
    omega
  · intro h
    have hafter := rank_ofInt_lt (show b < b + 1 by omega) (by omega) (by omega)
    have hmono := rank_ofInt_mono (show b + 1 ≤ z by omega)
    omega

end Exact
end Binary64
end HubDispatch
