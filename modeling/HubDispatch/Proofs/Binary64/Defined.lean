import HubDispatch.Proofs.Binary64.Monotone

/-!
# Results that are numbers

Rounding gives a number, be it zero or an infinity, and putting it together does not make anything
else of it (`packed_eq_nan_iff`). So a number that is multiplied or divided by one that is neither
zero nor an infinity leaves a number (`ofFloat_mul_ne_nan`, `ofFloat_div_ne_nan`). Every decimal
number is such a product or quotient with a power of ten, or is rounded at once: all of them are
numbers (`ofFloat_ofScientific_ne_nan`).
-/

namespace HubDispatch
namespace Binary64
namespace Exact

open Float.Model (UnpackedFloat Format)
open Float.Model.UnpackedFloat

variable {x y : Float} {u : UnpackedFloat}

/-- **Putting a number together** leaves it a number. -/
theorem packed_eq_nan_iff : packed u = .nan ↔ u = .notANumber := by
  cases u with
  | notANumber => exact iff_of_true (by decide) rfl
  | infinity s => simp [packed_infinity]
  | zero s => simpa using (standsAt_packed_zero s).ne_nan
  | finite s m q hm =>
    refine iff_of_false ?_ (by simp)
    -- All bits of the exponent are set in an infinity alone.
    have hfields (exponent : BitVec 11) (fraction : BitVec 52) (h : exponent.toNat ≠ 2047) :
        ofUnpacked (unpack Format.binary64 (packComponents Format.binary64 s exponent fraction)) ≠
          .nan := by
      rw [ofUnpacked_packComponents, ofFields, if_neg h]
      split <;> simp
    unfold packed pack
    dsimp only
    split
    · have hinfinity := packed_infinity s
      rw [packed, pack] at hinfinity
      rw [hinfinity]
      simp
    · rename_i hrange
      have hbits : 2 ^ Format.binary64.exponentBits = 2048 := rfl
      rw [hbits] at hrange
      split
      · refine hfields _ _ ?_
        rw [BitVec.toNat_ofNat]
        omega
      · exact hfields _ _ (by decide)

theorem ofFloat_pack (u : UnpackedFloat) : ofFloat ⟨Float.Model.pack u⟩ = packed u := by
  rw [ofFloat_eq]
  rfl

/-! ## Operations -/

theorem roundWithAccuracy_ne_notANumber (s : Sign) (m : Nat) (e : Int) (accuracy : Accuracy) :
    roundWithAccuracy Format.binary64 s m e accuracy ≠ .notANumber := by
  unfold roundWithAccuracy
  dsimp only
  split <;> nofun

theorem ofFloat_div (x y : Float) :
    ofFloat (x / y) =
      packed (UnpackedFloat.div Format.binary64 x.toModel.unpack y.toModel.unpack) := by
  rw [ofFloat_eq, toModel_div]
  rfl

theorem unpack_eq_notANumber_iff : x.toModel.unpack = .notANumber ↔ ofFloat x = .nan := by
  rw [← packed_unpack, packed_eq_nan_iff]

theorem ofFloat_div_ne_nan {k : Nat} {r : Int} {hk : 0 < k}
    (hy : y.toModel.unpack = .finite .positive k r hk) (hx : ofFloat x ≠ .nan) :
    ofFloat (x / y) ≠ .nan := by
  rw [Ne, ← unpack_eq_notANumber_iff] at hx
  rw [ofFloat_div, hy, Ne, packed_eq_nan_iff]
  cases hparts : x.toModel.unpack with
  | notANumber => exact absurd hparts hx
  | infinity s | zero s => nofun
  | finite s m q hm => exact roundWithAccuracy_ne_notANumber _ _ _ _

/-- What is not a number cannot be divided by. -/
theorem ofFloat_div_of_nan (h : ofFloat y = .nan) : ofFloat (x / y) = .nan := by
  rw [ofFloat_div, unpack_eq_notANumber_iff.mpr h, packed_eq_nan_iff]
  cases x.toModel.unpack <;> rfl

theorem ofFloat_mul_of_nan (h : ofFloat x = .nan) : ofFloat (x * y) = .nan := by
  rw [ofFloat_mul, unpack_eq_notANumber_iff.mpr h, packed_eq_nan_iff]
  rfl

/-- With the other sign, what is not a number stays so, and nothing else becomes it. -/
theorem ofFloat_neg_eq_nan_iff : ofFloat (-x) = .nan ↔ ofFloat x = .nan := by
  have hneg : ofFloat (-x) = packed x.toModel.unpack.neg := ofFloat_pack _
  rw [hneg, packed_eq_nan_iff, ← unpack_eq_notANumber_iff]
  cases x.toModel.unpack <;> simp [UnpackedFloat.neg]

/-! ## Decimal numbers -/

theorem ofFloat_toFloat_ne_nan (n : UInt64) : ofFloat n.toFloat ≠ .nan := by
  have hmodel : ofFloat n.toFloat = packed (UnpackedFloat.ofNat Format.binary64 n.toNat) :=
    ofFloat_pack _
  rw [hmodel, Ne, packed_eq_nan_iff]
  unfold UnpackedFloat.ofNat UnpackedFloat.ofInt UnpackedFloat.normalize UnpackedFloat.round
  split
  · exact roundWithAccuracy_ne_notANumber _ _ _ _
  · nofun
  · exact roundWithAccuracy_ne_notANumber _ _ _ _

/-- Above zero, and not an infinity. -/
def isPositive : UnpackedFloat → Bool
  | .finite .positive _ _ _ => true
  | _ => false

theorem exists_of_isPositive (h : isPositive u = true) :
    ∃ k r hk, u = .finite .positive k r hk := by
  unfold isPositive at h
  split at h
  · exact ⟨_, _, _, rfl⟩
  · cases h

theorem isPositive_powersOfTen :
    ∀ x ∈ Float.exactlyRepresentablePowersOfTen.toList, isPositive x.toModel.unpack = true := by
  decide +kernel

theorem ofScientific_ne_notANumber (m : Nat) (e : Int) :
    UnpackedFloat.ofScientific Format.binary64 m e ≠ .notANumber := by
  unfold UnpackedFloat.ofScientific
  split
  · nofun
  · split
    · nofun
    · split
      · nofun
      · split <;> exact roundWithAccuracy_ne_notANumber _ _ _ _

/-- **A decimal number is a number.** -/
theorem ofFloat_ofScientific_ne_nan (m : Nat) (small : Bool) (e : Nat) :
    ofFloat (Float.ofScientific m small e) ≠ .nan := by
  unfold Float.ofScientific
  dsimp only
  split
  · rename_i h
    obtain ⟨k, r, hk, hpower⟩ := exists_of_isPositive
      (isPositive_powersOfTen _ (Array.getElem_mem_toList (Nat.lt_succ_of_le h.2)))
    split
    · exact ofFloat_div_ne_nan hpower (ofFloat_toFloat_ne_nan _)
    · exact ofFloat_mul_ne_nan hpower (ofFloat_toFloat_ne_nan _)
  · rw [Float.Model.ofScientific, ofFloat_pack, Ne, packed_eq_nan_iff]
    exact ofScientific_ne_notANumber _ _

end Exact
end Binary64
end HubDispatch
