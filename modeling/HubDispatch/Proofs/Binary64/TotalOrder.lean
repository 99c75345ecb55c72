import HubDispatch.Proofs.Binary64.Monotone
import HubDispatch.Proofs.Binary64.Truncation

/-!
# The total order of patterns

IEEE 754 orders all binary64 patterns (`TotalOrder`, clause by clause). Numbers stand in their own
order, the negative zero before zero. What is not a number stands outside of them, on the side of
its sign, and the further out the greater its fraction, whose first bit tells quiet from signalling.

The key of a pattern counts this order (`totalOrder_iff`). Without its sign a pattern is its own
magnitude, and not-a-number has the magnitudes above infinity; on the negative side all is turned
around and one further down, which makes room for the second zero. Different patterns have different
keys, so no two patterns are on a par (`TotalOrder.antisymm`).
-/

namespace HubDispatch
namespace Binary64

open Float.Model (UnpackedFloat Format)

namespace Exact

theorem canonical_ofBits (bits : UInt64) : (ofBits bits).Canonical :=
  canonical_ofFields _ (Nat.mod_lt _ (by decide)) (Nat.mod_lt _ (by decide))

/-- **The number with a pattern** has the value of the pattern. -/
theorem ofFloat_ofBits (bits : UInt64) : ofFloat (Float.ofBits bits) = ofBits bits := by
  have hcanonical := canonical_ofBits bits
  rw [ofBits_eq] at hcanonical ⊢
  rw [ofFloat_eq]
  exact packed_of_canonical hcanonical

end Exact

/-- The pattern stands for no number. -/
def IsNaN (bits : UInt64) : Prop := Exact.ofBits bits = .nan

/-- The sign of the pattern is that of negative numbers. -/
def Negative (bits : UInt64) : Prop := 2 ^ 63 ≤ bits.toNat

instance (bits : UInt64) : Decidable (Negative bits) := inferInstanceAs (Decidable (_ ≤ _))

/-- The pattern without its sign. -/
def size (bits : UInt64) : Nat := bits.toNat % 2 ^ 63

/-- The fraction of a pattern. In what is not a number, its first bit stands for quiet, and the
others are the payload. -/
def fraction (bits : UInt64) : Nat := bits.toNat % 2 ^ 52

/-- The total order of IEEE 754. -/
inductive TotalOrder (a b : UInt64) : Prop
  /-- Numbers are in their own order. -/
  | less (h : Float.ofBits a < Float.ofBits b)
  /-- Of the two zeros, the negative one comes first. -/
  | zeros (ha : a = 0x8000000000000000) (hb : b = 0x0000000000000000)
  | same (h : a = b)
  | nanFirst (ha : IsNaN a) (hsign : Negative a) (hb : ¬ IsNaN b)
  | nanLast (ha : ¬ IsNaN a) (hb : IsNaN b) (hsign : ¬ Negative b)
  | nanSigns (ha : IsNaN a) (hb : IsNaN b) (hsign : Negative a) (hsign' : ¬ Negative b)
  /-- A signalling one comes before a quiet one, and a lesser payload before a greater. -/
  | nanPositive (ha : IsNaN a) (hb : IsNaN b) (hsign : ¬ Negative a) (hsign' : ¬ Negative b)
      (h : fraction a < fraction b)
  /-- With a negative sign it is the other way round. -/
  | nanNegative (ha : IsNaN a) (hb : IsNaN b) (hsign : Negative a) (hsign' : Negative b)
      (h : fraction b < fraction a)

section Keys

variable {a b c : UInt64}

/-- What is not a number has a magnitude above that of infinity. -/
theorem isNaN_iff : IsNaN a ↔ Exact.top < size a := by
  unfold IsNaN Exact.ofBits Exact.top size
  dsimp only
  constructor
  · intro h
    split at h
    · split at h
      · cases h
      · omega
    · split at h <;> cases h
  · intro h
    rw [if_pos (by omega), if_neg (by omega)]

theorem size_of_isNaN (h : IsNaN a) : size a = Exact.top + fraction a := by
  rw [isNaN_iff] at h
  unfold size fraction Exact.top at *
  omega

theorem eq_of_size_eq (hsign : Negative a ↔ Negative b) (h : size a = size b) : a = b := by
  have hlt := a.toNat_lt
  have hlt' := b.toNat_lt
  unfold Negative size at *
  apply UInt64.toNat_inj.mp
  omega

theorem orderKey_of_negative (h : Negative a) : orderKey a = -(size a : Int) - 1 := by
  have hlt := a.toNat_lt
  unfold Negative at h
  unfold orderKey size
  rw [if_neg (by omega)]
  omega

theorem orderKey_of_not_negative (h : ¬ Negative a) : orderKey a = size a := by
  unfold Negative at h
  unfold orderKey size
  rw [if_pos (by omega)]
  omega

/-- Numbers compare as their magnitudes with their signs. -/
theorem ofBits_lt_iff :
    Float.ofBits a < Float.ofBits b ↔ ¬ IsNaN a ∧ ¬ IsNaN b ∧
      Exact.signed (decide (Negative a)) (size a) <
        Exact.signed (decide (Negative b)) (size b) := by
  constructor
  · intro h
    obtain ⟨ha, hb⟩ := Exact.ne_nan_of_lt h
    rw [Exact.lt_iff_rank_lt ha hb, Exact.ofFloat_ofBits, Exact.ofFloat_ofBits] at h
    rw [Exact.ofFloat_ofBits] at ha hb
    rw [Exact.rank_ofBits ha, Exact.rank_ofBits hb] at h
    exact ⟨ha, hb, h⟩
  · rintro ⟨ha, hb, h⟩
    have ha' : Exact.ofFloat (Float.ofBits a) ≠ .nan := by rwa [Exact.ofFloat_ofBits]
    have hb' : Exact.ofFloat (Float.ofBits b) ≠ .nan := by rwa [Exact.ofFloat_ofBits]
    rw [Exact.lt_iff_rank_lt ha' hb', Exact.ofFloat_ofBits, Exact.ofFloat_ofBits,
      Exact.rank_ofBits ha, Exact.rank_ofBits hb]
    exact h

theorem signed_of_negative (h : Negative a) :
    Exact.signed (decide (Negative a)) (size a) = -(size a : Int) := by
  rw [decide_eq_true h, Exact.signed_true]

theorem signed_of_not_negative (h : ¬ Negative a) :
    Exact.signed (decide (Negative a)) (size a) = size a := by
  rw [decide_eq_false h, Exact.signed_false]

/-- The key keeps what numbers are in order, for it moves the negative ones by one. -/
theorem orderKey_le_of_lt (h : Float.ofBits a < Float.ofBits b) : orderKey a ≤ orderKey b := by
  obtain ⟨-, -, h⟩ := ofBits_lt_iff.mp h
  by_cases hsign : Negative a <;> by_cases hsign' : Negative b
  · rw [signed_of_negative hsign, signed_of_negative hsign'] at h
    rw [orderKey_of_negative hsign, orderKey_of_negative hsign']
    omega
  · rw [orderKey_of_negative hsign, orderKey_of_not_negative hsign']
    omega
  · rw [signed_of_not_negative hsign, signed_of_negative hsign'] at h
    omega
  · rw [signed_of_not_negative hsign, signed_of_not_negative hsign'] at h
    rw [orderKey_of_not_negative hsign, orderKey_of_not_negative hsign']
    omega

theorem orderKey_le_of_totalOrder (h : TotalOrder a b) : orderKey a ≤ orderKey b := by
  cases h with
  | less h => exact orderKey_le_of_lt h
  | zeros ha hb =>
    rw [ha, hb]
    decide
  | same h => rw [h]
  | nanFirst ha hsign hb =>
    rw [isNaN_iff] at ha hb
    rw [orderKey_of_negative hsign]
    by_cases hsign' : Negative b
    · rw [orderKey_of_negative hsign']
      omega
    · rw [orderKey_of_not_negative hsign']
      omega
  | nanLast ha hb hsign' =>
    rw [isNaN_iff] at ha hb
    rw [orderKey_of_not_negative hsign']
    by_cases hsign : Negative a
    · rw [orderKey_of_negative hsign]
      omega
    · rw [orderKey_of_not_negative hsign]
      omega
  | nanSigns ha hb hsign hsign' =>
    rw [orderKey_of_negative hsign, orderKey_of_not_negative hsign']
    omega
  | nanPositive ha hb hsign hsign' h =>
    rw [orderKey_of_not_negative hsign, orderKey_of_not_negative hsign', size_of_isNaN ha,
      size_of_isNaN hb]
    omega
  | nanNegative ha hb hsign hsign' h =>
    rw [orderKey_of_negative hsign, orderKey_of_negative hsign', size_of_isNaN ha,
      size_of_isNaN hb]
    omega

theorem totalOrder_of_orderKey_le (h : orderKey a ≤ orderKey b) : TotalOrder a b := by
  by_cases hsign : Negative a <;> by_cases hsign' : Negative b
  · -- Both negative: the greater magnitude comes first.
    rw [orderKey_of_negative hsign, orderKey_of_negative hsign'] at h
    rcases Nat.lt_or_eq_of_le (show size b ≤ size a by omega) with hlt | heq
    · by_cases ha : IsNaN a <;> by_cases hb : IsNaN b
      · rw [size_of_isNaN ha, size_of_isNaN hb] at hlt
        exact .nanNegative ha hb hsign hsign' (by omega)
      · exact .nanFirst ha hsign hb
      · rw [isNaN_iff] at ha hb
        omega
      · refine .less (ofBits_lt_iff.mpr ⟨ha, hb, ?_⟩)
        rw [signed_of_negative hsign, signed_of_negative hsign']
        omega
    · exact .same (eq_of_size_eq (iff_of_true hsign hsign') heq.symm)
  · by_cases ha : IsNaN a <;> by_cases hb : IsNaN b
    · exact .nanSigns ha hb hsign hsign'
    · exact .nanFirst ha hsign hb
    · exact .nanLast ha hb hsign'
    · rcases Nat.eq_zero_or_pos (size a + size b) with hzero | hpos
      · -- Nothing but the sign is left of the two.
        refine .zeros (eq_of_size_eq (iff_of_true hsign (by decide)) ?_)
          (eq_of_size_eq (iff_of_false hsign' (by decide)) ?_)
        · change size a = 0
          omega
        · change size b = 0
          omega
      · refine .less (ofBits_lt_iff.mpr ⟨ha, hb, ?_⟩)
        rw [signed_of_negative hsign, signed_of_not_negative hsign']
        omega
  · rw [orderKey_of_not_negative hsign, orderKey_of_negative hsign'] at h
    omega
  · rw [orderKey_of_not_negative hsign, orderKey_of_not_negative hsign'] at h
    rcases Nat.lt_or_eq_of_le (show size a ≤ size b by omega) with hlt | heq
    · by_cases ha : IsNaN a <;> by_cases hb : IsNaN b
      · rw [size_of_isNaN ha, size_of_isNaN hb] at hlt
        exact .nanPositive ha hb hsign hsign' (by omega)
      · rw [isNaN_iff] at ha hb
        omega
      · exact .nanLast ha hb hsign'
      · refine .less (ofBits_lt_iff.mpr ⟨ha, hb, ?_⟩)
        rw [signed_of_not_negative hsign, signed_of_not_negative hsign']
        omega
    · exact .same (eq_of_size_eq (iff_of_false hsign hsign') heq)

/-- **The key counts the total order.** -/
theorem totalOrder_iff : TotalOrder a b ↔ orderKey a ≤ orderKey b :=
  ⟨orderKey_le_of_totalOrder, totalOrder_of_orderKey_le⟩

theorem TotalOrder.total (a b : UInt64) : TotalOrder a b ∨ TotalOrder b a := by
  rw [totalOrder_iff, totalOrder_iff]
  exact Int.le_total _ _

theorem TotalOrder.trans (h : TotalOrder a b) (h' : TotalOrder b c) : TotalOrder a c :=
  totalOrder_iff.mpr (Int.le_trans (totalOrder_iff.mp h) (totalOrder_iff.mp h'))

/-- **No two patterns are on a par.** -/
theorem TotalOrder.antisymm (h : TotalOrder a b) (h' : TotalOrder b a) : a = b :=
  orderKey_injective (Int.le_antisymm (totalOrder_iff.mp h) (totalOrder_iff.mp h'))

end Keys
end Binary64
end HubDispatch
