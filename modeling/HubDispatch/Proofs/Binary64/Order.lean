import HubDispatch.Binary64.Exact
import Mathlib

/-!
# The order of numbers

A number compares by what it is taken apart into: its sign, then its exponent, then its bits. All of
this is in its exact value (`ofFloat_eq`), where a finite value has as many bits as its exponent
allows (`Canonical`). Exponent and bits side by side make the pattern without its sign, so a number
has a place among all numbers (`rank`), and comparing numbers is comparing places
(`lt_iff_rank_lt`).

Different patterns have different ranks, apart from the two zeros and from what is not a number
(`eq_of_rank_eq`). The largest of many numbers is one of them (`foldl_larger_spec`), and it is
settled when it is one and the same number, wherever one starts (`foldl_larger_eq`).
-/

namespace HubDispatch
namespace Binary64

open Float.Model (UnpackedFloat Format)
open Float.Model.UnpackedFloat (Sign unpackExponent unpackMantissa unpackSign)

namespace Exact

def isNegative : Sign → Bool
  | .negative => true
  | .positive => false

/-- The exact value of a number that is taken apart. -/
def ofUnpacked : UnpackedFloat → Exact
  | .notANumber => .nan
  | .infinity s => .infinite (isNegative s)
  | .zero s => .finite (isNegative s) 0 (-1074)
  | .finite s m q _ => .finite (isNegative s) m q

/-- The value of a pattern with the given sign, exponent and fraction. -/
def ofFields (negative : Bool) (exponent fraction : Nat) : Exact :=
  if exponent = 2047 then
    if fraction = 0 then .infinite negative else .nan
  else if exponent = 0 then
    .finite negative fraction (-1074)
  else
    .finite negative (2 ^ 52 + fraction) ((exponent : Int) - 1075)

theorem ofUnpacked_unpack (b : BitVec 64) :
    ofUnpacked (UnpackedFloat.unpack Format.binary64 b) =
      ofFields (isNegative (Sign.ofBitVec (@unpackSign Format.binary64 b)))
        (@unpackExponent Format.binary64 b).toNat
        (@unpackMantissa Format.binary64 b).toNat := by
  have hall : @unpackExponent Format.binary64 b = -1#_ ↔
      (@unpackExponent Format.binary64 b).toNat = 2047 := by
    rw [← BitVec.toNat_inj]
    rfl
  have hzero : @unpackExponent Format.binary64 b = 0#_ ↔
      (@unpackExponent Format.binary64 b).toNat = 0 := by
    rw [← BitVec.toNat_inj]
    rfl
  have hmzero : @unpackMantissa Format.binary64 b = 0#_ ↔
      (@unpackMantissa Format.binary64 b).toNat = 0 := by
    rw [← BitVec.toNat_inj]
    rfl
  have hone : (1#1 ++ @unpackMantissa Format.binary64 b).toNat =
      2 ^ 52 + (@unpackMantissa Format.binary64 b).toNat := by
    rw [BitVec.toNat_append,
      ← Nat.shiftLeft_add_eq_or_of_lt (@unpackMantissa Format.binary64 b).isLt]
    rfl
  have hbias : (Format.binary64.exponentBias : Int) = 1023 := rfl
  simp only [UnpackedFloat.unpack, ofFields, hall, hzero, hmzero]
  split
  · split <;> rfl
  · split
    · rename_i he
      split
      · rename_i hm
        rw [hm]
        rfl
      · simp [ofUnpacked, he, hbias]
    · simp [ofUnpacked, hbias, hone]

theorem isNegative_ofBitVec (b : BitVec 1) :
    isNegative (Sign.ofBitVec b) = decide (b.toNat = 1) := by
  unfold Sign.ofBitVec
  have := b.isLt
  split
  · rename_i h
    simp [h, isNegative]
  · rename_i h
    rw [← BitVec.toNat_inj] at h
    simp only [BitVec.toNat_ofNat] at h
    simp [isNegative]
    omega

/-- The exact value of a pattern is that of its parts. -/
theorem ofBits_eq (bits : UInt64) :
    ofBits bits = ofUnpacked (UnpackedFloat.unpack Format.binary64 bits.toBitVec) := by
  have hbits := bits.toNat_lt
  have hexp : (@unpackExponent Format.binary64 bits.toBitVec).toNat =
      bits.toNat / 2 ^ 52 % 2 ^ 11 := by
    simp [unpackExponent, Nat.shiftRight_eq_div_pow]
  have hman : (@unpackMantissa Format.binary64 bits.toBitVec).toNat =
      bits.toNat % 2 ^ 52 := by
    simp [unpackMantissa]
  have hsign : (@unpackSign Format.binary64 bits.toBitVec).toNat =
      bits.toNat / 2 ^ 63 := by
    simp [unpackSign, Nat.shiftRight_eq_div_pow]
    omega
  have hneg : isNegative (Sign.ofBitVec (@unpackSign Format.binary64 bits.toBitVec)) =
      decide (2 ^ 63 ≤ bits.toNat) := by
    rw [isNegative_ofBitVec, hsign]
    congr 1
    apply propext
    omega
  change ofFields _ _ _ = _
  rw [ofUnpacked_unpack, hneg, hexp, hman]

/-- The exact value of a number is that of its parts. -/
theorem ofFloat_eq (x : Float) : ofFloat x = ofUnpacked x.toModel.unpack := by
  obtain ⟨⟨bits, valid⟩⟩ := x
  exact ofBits_eq bits

/-- What is finite has at most 53 bits, and all of them unless its exponent is the least. -/
def Canonical : Exact → Prop
  | .finite _ m q => m < 2 ^ 53 ∧ -1074 ≤ q ∧ q ≤ 971 ∧ (q = -1074 ∨ 2 ^ 52 ≤ m)
  | _ => True

theorem canonical_ofFields (negative : Bool) {exponent fraction : Nat} (he : exponent < 2 ^ 11)
    (hf : fraction < 2 ^ 52) : (ofFields negative exponent fraction).Canonical := by
  unfold ofFields
  split
  · split <;> exact trivial
  · split
    · exact ⟨by omega, by omega, by omega, Or.inl rfl⟩
    · exact ⟨by omega, by omega, by omega, Or.inr (by omega)⟩

theorem canonical_ofFloat (x : Float) : (ofFloat x).Canonical :=
  canonical_ofFields _ (Nat.mod_lt _ (by decide)) (Nat.mod_lt _ (by decide))

/-- Beyond every finite magnitude. -/
def top : Nat := 2 ^ 52 * 2047

theorem top_pos : 0 < top := by decide

/-- Where `m · 2 ^ q` stands among the magnitudes: exponent first, then bits. -/
def magnitude (m : Nat) (q : Int) : Nat := 2 ^ 52 * (q + 1074).toNat + m

/-- Where a number stands among all numbers. Both zeros stand in the middle. -/
def rank : Exact → Int
  | .nan => 0
  | .infinite negative => signed negative top
  | .finite negative m q => signed negative (magnitude m q)

@[simp] theorem signed_true (n : Nat) : signed true n = -(n : Int) := rfl

@[simp] theorem signed_false (n : Nat) : signed false n = n := rfl

/-- The order of magnitudes is kept on the positive side and turned around on the negative one. -/
theorem signed_le_signed {negative negative' : Bool} {a a' b b' : Nat}
    (h : signed negative a ≤ signed negative' a')
    (hpositive : negative = false → negative' = false → a ≤ a' → b ≤ b')
    (hnegative : negative = true → negative' = true → a' ≤ a → b' ≤ b)
    (hzero : a = 0 → b = 0) (hzero' : a' = 0 → b' = 0) :
    signed negative b ≤ signed negative' b' := by
  cases negative with
  | false =>
    cases negative' with
    | false =>
      rw [signed_false, signed_false] at h ⊢
      exact Int.ofNat_le.mpr (hpositive rfl rfl (Int.ofNat_le.mp h))
    | true =>
      -- A number that is not negative is at most a negative one only if both are zero.
      rw [signed_false, signed_true] at h ⊢
      have hb := hzero (by omega)
      have hb' := hzero' (by omega)
      omega
  | true =>
    cases negative' with
    | false =>
      rw [signed_true, signed_false]
      omega
    | true =>
      rw [signed_true, signed_true] at h ⊢
      have hb := hnegative rfl rfl (by omega)
      omega

theorem magnitude_pos {m : Nat} (q : Int) (hm : 0 < m) : 0 < magnitude m q :=
  Nat.lt_of_lt_of_le hm (Nat.le_add_left ..)

theorem magnitude_lt_top {negative : Bool} {m : Nat} {q : Int}
    (h : Canonical (.finite negative m q)) : magnitude m q < top := by
  obtain ⟨hm, hq, hq', -⟩ := h
  unfold magnitude top
  omega

/-- Of canonical magnitudes the exponents decide, and between equal ones the bits. -/
theorem compare_magnitude {negative negative' : Bool} {m m' : Nat} {q q' : Int}
    (h : Canonical (.finite negative m q)) (h' : Canonical (.finite negative' m' q')) :
    (compare q q').then (compare m m') = compare (magnitude m q) (magnitude m' q') := by
  obtain ⟨hm, hq, -, hnormal⟩ := h
  obtain ⟨hm', hq', -, hnormal'⟩ := h'
  unfold magnitude
  rcases lt_trichotomy q q' with hlt | rfl | hgt
  · rw [compare_lt_iff_lt.mpr hlt]
    refine (compare_lt_iff_lt.mpr ?_).symm
    omega
  · rw [compare_eq_iff_eq.mpr rfl, Ordering.eq_then]
    rcases lt_trichotomy m m' with hlt | rfl | hgt
    · rw [compare_lt_iff_lt.mpr hlt, compare_lt_iff_lt.mpr (by omega)]
    · rw [compare_eq_iff_eq.mpr rfl, compare_eq_iff_eq.mpr rfl]
    · rw [compare_gt_iff_gt.mpr hgt, compare_gt_iff_gt.mpr (by omega)]
  · rw [compare_gt_iff_gt.mpr hgt]
    refine (compare_gt_iff_gt.mpr ?_).symm
    omega

theorem swap_compare (a b : Nat) : (compare a b).swap = compare (-(a : Int)) (-(b : Int)) := by
  rcases lt_trichotomy a b with hlt | rfl | hgt
  · rw [compare_lt_iff_lt.mpr hlt, compare_gt_iff_gt.mpr (by omega)]
    rfl
  · rw [compare_eq_iff_eq.mpr rfl, compare_eq_iff_eq.mpr rfl]
    rfl
  · rw [compare_gt_iff_gt.mpr hgt, compare_lt_iff_lt.mpr (by omega)]
    rfl

theorem compare_cast (a b : Nat) : compare a b = compare (a : Int) (b : Int) := by
  rcases lt_trichotomy a b with hlt | rfl | hgt
  · rw [compare_lt_iff_lt.mpr hlt, compare_lt_iff_lt.mpr (by omega)]
  · rw [compare_eq_iff_eq.mpr rfl, compare_eq_iff_eq.mpr rfl]
  · rw [compare_gt_iff_gt.mpr hgt, compare_gt_iff_gt.mpr (by omega)]

theorem below {x y : Int} (h : x < y) : some Ordering.lt = some (compare x y) := by
  rw [compare_lt_iff_lt.mpr h]

theorem above {x y : Int} (h : y < x) : some Ordering.gt = some (compare x y) := by
  rw [compare_gt_iff_gt.mpr h]

/-- **Numbers compare as their ranks.** -/
theorem compare_unpacked {u v : UnpackedFloat} (hu : (ofUnpacked u).Canonical)
    (hv : (ofUnpacked v).Canonical) (hu' : ofUnpacked u ≠ .nan) (hv' : ofUnpacked v ≠ .nan) :
    u.compare v = some (compare (ofUnpacked u).rank (ofUnpacked v).rank) := by
  have htop := top_pos
  -- By what the numbers are, then by their signs.
  rcases u with s | _ | s | ⟨s, m, q, hm⟩
  · rcases v with t | _ | t | ⟨t, n, r, hn⟩
    · cases s <;> cases t <;> rfl
    · exact absurd rfl hv'
    · cases s <;> cases t <;> rfl
    · have hlt : magnitude n r < top := magnitude_lt_top hv
      cases s <;> cases t <;>
        simp only [UnpackedFloat.compare, ofUnpacked, isNegative, rank, signed_true, signed_false]
      · exact below (by omega)
      · exact below (by omega)
      · exact above (by omega)
      · exact above (by omega)
  · exact absurd rfl hu'
  · rcases v with t | _ | t | ⟨t, n, r, hn⟩
    · cases s <;> cases t <;> rfl
    · exact absurd rfl hv'
    · cases s <;> cases t <;> rfl
    · have hpos : 0 < magnitude n r := magnitude_pos r hn
      have hzero : (ofUnpacked (.zero s)).rank = 0 := by cases s <;> rfl
      rw [hzero]
      cases t <;>
        simp only [UnpackedFloat.compare, ofUnpacked, isNegative, rank, signed_true, signed_false]
      · exact above (by omega)
      · exact below (by omega)
  · have hpos : 0 < magnitude m q := magnitude_pos q hm
    rcases v with t | _ | t | ⟨t, n, r, hn⟩
    · have hlt : magnitude m q < top := magnitude_lt_top hu
      cases s <;> cases t <;>
        simp only [UnpackedFloat.compare, ofUnpacked, isNegative, rank, signed_true, signed_false]
      · exact above (by omega)
      · exact below (by omega)
      · exact above (by omega)
      · exact below (by omega)
    · exact absurd rfl hv'
    · have hzero : (ofUnpacked (.zero t)).rank = 0 := by cases t <;> rfl
      rw [hzero]
      cases s <;>
        simp only [UnpackedFloat.compare, ofUnpacked, isNegative, rank, signed_true, signed_false]
      · exact below (by omega)
      · exact above (by omega)
    · have hpos' : 0 < magnitude n r := magnitude_pos r hn
      cases s <;> cases t <;>
        simp only [UnpackedFloat.compare, ofUnpacked, isNegative, rank, signed_true, signed_false]
      · rw [compare_magnitude hu hv, swap_compare]
      · exact below (by omega)
      · exact above (by omega)
      · rw [compare_magnitude hu hv, compare_cast]

theorem ofUnpacked_eq_nan_iff {u : UnpackedFloat} : ofUnpacked u = .nan ↔ u.isNaN = true := by
  cases u <;> simp [ofUnpacked, UnpackedFloat.isNaN]

/-- The patterns that rank tells apart: not-a-number has no rank of its own, and the negative zero
shares that of zero. -/
def Proper (x : Float) : Prop := ofFloat x ≠ .nan ∧ ofFloat x ≠ .finite true 0 (-1074)

/-- **The order of numbers** is that of their ranks. -/
theorem lt_iff_rank_lt {x y : Float} (hx : ofFloat x ≠ .nan) (hy : ofFloat y ≠ .nan) :
    x < y ↔ rank (ofFloat x) < rank (ofFloat y) := by
  have hcx := canonical_ofFloat x
  have hcy := canonical_ofFloat y
  rw [ofFloat_eq] at hx hcx
  rw [ofFloat_eq] at hy hcy
  rw [ofFloat_eq, ofFloat_eq, ← compare_lt_iff_lt, ← Option.some_inj,
    ← compare_unpacked hcx hcy hx hy]
  change decide (x.toModel < y.toModel) = true ↔ _
  rw [decide_eq_true_iff]
  change (x.toModel.unpack.compare y.toModel.unpack == some .lt) = true ↔ _
  rw [beq_iff_eq]

/-- Nothing is less than itself, be it a number or not. -/
theorem not_lt_self (x : Float) : ¬ x < x := by
  intro h
  by_cases hx : ofFloat x = .nan
  · rw [ofFloat_eq, ofUnpacked_eq_nan_iff] at hx
    change decide (x.toModel < x.toModel) = true at h
    rw [decide_eq_true_iff] at h
    change (x.toModel.unpack.compare x.toModel.unpack == some .lt) = true at h
    generalize x.toModel.unpack = u at hx h
    cases u <;> cases hx
    cases h
  · exact absurd ((lt_iff_rank_lt hx hx).mp h) (lt_irrefl _)

/-- Without its sign, a pattern that is a number is its own magnitude. -/
theorem rank_ofFields {negative : Bool} {exponent fraction : Nat}
    (h : ofFields negative exponent fraction ≠ .nan) :
    rank (ofFields negative exponent fraction) =
      signed negative (2 ^ 52 * exponent + fraction) := by
  unfold ofFields at h ⊢
  split
  · rename_i he
    rw [if_pos he] at h
    split
    · rename_i hf
      rw [rank, top, he, hf, Nat.add_zero]
    · rename_i hf
      rw [if_neg hf] at h
      exact absurd rfl h
  · split
    · rename_i he
      rw [rank, magnitude, he]
      rfl
    · rw [rank, magnitude]
      congr 1
      omega

/-- What a pattern without its sign counts. -/
theorem rank_ofBits {bits : UInt64} (h : ofBits bits ≠ .nan) :
    rank (ofBits bits) = signed (decide (2 ^ 63 ≤ bits.toNat)) (bits.toNat % 2 ^ 63) := by
  have hfields : ofBits bits = ofFields (decide (2 ^ 63 ≤ bits.toNat))
    (bits.toNat / 2 ^ 52 % 2 ^ 11) (bits.toNat % 2 ^ 52) := rfl
  rw [hfields] at h ⊢
  rw [rank_ofFields h]
  congr 1
  omega

/-- Patterns that rank tells apart are told apart by it. -/
theorem eq_of_rank_eq {x y : Float} (hx : Proper x) (hy : Proper y)
    (h : rank (ofFloat x) = rank (ofFloat y)) : x = y := by
  have hne : ∀ {z : Float}, Proper z → z.toBits.toNat ≠ 2 ^ 63 := by
    intro z hz hbits
    apply hz.2
    have hfields : ofFloat z = ofFields (decide (2 ^ 63 ≤ z.toBits.toNat))
      (z.toBits.toNat / 2 ^ 52 % 2 ^ 11) (z.toBits.toNat % 2 ^ 52) := rfl
    rw [hfields, hbits]
    decide
  have hbits : x.toBits.toNat = y.toBits.toNat := by
    have hx' := hne hx
    have hy' := hne hy
    have hlt := x.toBits.toNat_lt
    have hlt' := y.toBits.toNat_lt
    unfold ofFloat at h
    rw [rank_ofBits hx.1, rank_ofBits hy.1] at h
    by_cases hn : 2 ^ 63 ≤ x.toBits.toNat <;> by_cases hn' : 2 ^ 63 ≤ y.toBits.toNat <;>
      simp only [hn, hn', decide_true, decide_false, signed_true, signed_false] at h <;> omega
  obtain ⟨⟨bits, valid⟩⟩ := x
  obtain ⟨⟨bits', valid'⟩⟩ := y
  cases UInt64.toNat_inj.mp hbits
  rfl

/-! ## The larger of two numbers -/

theorem isNaN_eq_false {x : Float} (h : ofFloat x ≠ .nan) : x.isNaN = false := by
  rw [ofFloat_eq, ne_eq, ofUnpacked_eq_nan_iff, Bool.not_eq_true] at h
  exact h

/-- The larger of two numbers is one of them, and none of them is larger. -/
theorem larger_spec {x y : Float} (hx : Proper x) (hy : Proper y) :
    Proper (larger x y) ∧
      rank (ofFloat (larger x y)) = max (rank (ofFloat x)) (rank (ofFloat y)) := by
  unfold larger
  rw [isNaN_eq_false hx.1, if_neg Bool.false_ne_true]
  split
  · rename_i hlt
    rw [lt_iff_rank_lt hx.1 hy.1] at hlt
    exact ⟨hy, (max_eq_right hlt.le).symm⟩
  · rename_i hnot
    rw [lt_iff_rank_lt hx.1 hy.1] at hnot
    exact ⟨hx, (max_eq_left (not_lt.mp hnot)).symm⟩

/-- The larger of two numbers is one of them, also where both are zeros. -/
theorem larger_cases {x y : Float} (hx : ofFloat x ≠ .nan) (hy : ofFloat y ≠ .nan) :
    (larger x y = x ∧ rank (ofFloat y) ≤ rank (ofFloat x)) ∨
      (larger x y = y ∧ rank (ofFloat x) ≤ rank (ofFloat y)) := by
  unfold larger
  rw [isNaN_eq_false hx, if_neg Bool.false_ne_true]
  split
  · rename_i hlt
    exact Or.inr ⟨rfl, ((lt_iff_rank_lt hx hy).mp hlt).le⟩
  · rename_i hnot
    rw [lt_iff_rank_lt hx hy] at hnot
    exact Or.inl ⟨rfl, not_lt.mp hnot⟩

/-- **The largest of many numbers** is one of them, and none of them is larger. -/
theorem foldl_larger_spec {a : Float} {xs : List Float} (ha : ofFloat a ≠ .nan)
    (hxs : ∀ x ∈ xs, ofFloat x ≠ .nan) :
    xs.foldl larger a ∈ a :: xs ∧
      ∀ x ∈ a :: xs, rank (ofFloat x) ≤ rank (ofFloat (xs.foldl larger a)) := by
  induction xs generalizing a with
  | nil => exact ⟨List.mem_singleton.mpr rfl, fun x hx => by rw [List.mem_singleton.mp hx]; rfl⟩
  | cons y ys ih =>
    obtain ⟨hy, hys⟩ := List.forall_mem_cons.mp hxs
    rw [List.foldl_cons]
    -- The fold goes on with one of the two, and what it leaves behind is not larger.
    rcases larger_cases ha hy with ⟨hfirst, hle⟩ | ⟨hfirst, hle⟩
    · rw [hfirst]
      obtain ⟨hmem, hall⟩ := ih ha hys
      obtain ⟨hstart, hlater⟩ := List.forall_mem_cons.mp hall
      refine ⟨?_, List.forall_mem_cons.mpr ⟨hstart, List.forall_mem_cons.mpr ⟨?_, hlater⟩⟩⟩
      · rcases List.mem_cons.mp hmem with hhere | hthere
        · rw [hhere]
          exact List.mem_cons_self ..
        · exact List.mem_cons_of_mem _ (List.mem_cons_of_mem _ hthere)
      · exact hle.trans hstart
    · rw [hfirst]
      obtain ⟨hmem, hall⟩ := ih hy hys
      obtain ⟨hstart, hlater⟩ := List.forall_mem_cons.mp hall
      exact ⟨List.mem_cons_of_mem _ hmem,
        List.forall_mem_cons.mpr ⟨hle.trans hstart, List.forall_mem_cons.mpr ⟨hstart, hlater⟩⟩⟩

/-- Where some number is as large as the second start, the first start makes no difference. -/
theorem foldl_larger_eq {a b x : Float} {xs : List Float} (ha : Proper a) (hb : Proper b)
    (hxs : ∀ x ∈ xs, Proper x) (hx : x ∈ xs) (hab : rank (ofFloat a) ≤ rank (ofFloat b))
    (hbx : rank (ofFloat b) ≤ rank (ofFloat x)) : xs.foldl larger a = xs.foldl larger b := by
  induction xs generalizing a b with
  | nil => cases hx
  | cons y ys ih =>
    obtain ⟨hy, hys⟩ := List.forall_mem_cons.mp hxs
    obtain ⟨hproper, hrank⟩ := larger_spec ha hy
    obtain ⟨hproper', hrank'⟩ := larger_spec hb hy
    rw [List.foldl_cons, List.foldl_cons]
    by_cases hle : rank (ofFloat b) ≤ rank (ofFloat y)
    · -- From here on both continue with the same number.
      have hsame : larger a y = larger b y := by
        apply eq_of_rank_eq hproper hproper'
        rw [hrank, hrank', max_eq_right hle, max_eq_right (hab.trans hle)]
      rw [hsame]
    · have hlt := not_le.mp hle
      have hlater : x ∈ ys := by
        rcases List.mem_cons.mp hx with rfl | hlater
        · exact absurd hbx hle
        · exact hlater
      apply ih hproper hproper' hys hlater
      · rw [hrank, hrank']
        exact max_le_max_right _ hab
      · rw [hrank', max_eq_left hlt.le]
        exact hbx

end Exact
end Binary64
end HubDispatch
