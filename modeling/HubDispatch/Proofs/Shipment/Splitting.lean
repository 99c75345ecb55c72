import HubDispatch.Shipment.Splitting
import Mathlib.Algebra.Ring.Nat

/-!
# Chunks of demand

The chunks of a demand hold exactly that demand (`sum_splitDemand`). All but the last are full
(`dropLast_splitDemand`), and where there is demand at all none is empty and none too heavy
(`mem_splitDemand`): the full chunks hold a multiple of the capacity that stays below the demand by
at least one kilogram and at most a full load.
-/

namespace HubDispatch

variable {capacity weight : Nat}

theorem fullChunks_mul_le (capacity weight : Nat) :
    fullChunks capacity weight * capacity ≤ weight :=
  Nat.le_trans (Nat.div_mul_le_self _ _) (Nat.sub_le _ _)

theorem fullChunks_mul_lt (hw : 0 < weight) : fullChunks capacity weight * capacity < weight := by
  have := Nat.div_mul_le_self (weight - 1) capacity
  unfold fullChunks
  omega

/-- The full chunks leave at most one load. -/
theorem le_fullChunks_mul_add (hc : 0 < capacity) (weight : Nat) :
    weight ≤ fullChunks capacity weight * capacity + capacity := by
  have := Nat.div_add_mod (weight - 1) capacity
  have := Nat.mod_lt (weight - 1) hc
  have := Nat.mul_comm capacity ((weight - 1) / capacity)
  unfold fullChunks
  omega

/-- **No demand is lost or made up.** -/
@[simp] theorem sum_splitDemand (capacity weight : Nat) :
    (splitDemand capacity weight).sum = weight := by
  have := fullChunks_mul_le capacity weight
  simp only [splitDemand, List.sum_append_nat, List.sum_replicate_nat, List.sum_singleton]
  omega

/-- **All chunks but the last are full.** -/
@[simp] theorem dropLast_splitDemand (capacity weight : Nat) :
    (splitDemand capacity weight).dropLast =
      List.replicate (fullChunks capacity weight) capacity := by
  simp [splitDemand]

/-- **No chunk is empty or too heavy.** -/
theorem mem_splitDemand (hc : 0 < capacity) (hw : 0 < weight) {chunk : Nat}
    (h : chunk ∈ splitDemand capacity weight) : 1 ≤ chunk ∧ chunk ≤ capacity := by
  rcases List.mem_append.mp h with h | h
  · rw [List.eq_of_mem_replicate h]
    exact ⟨hc, Nat.le_refl _⟩
  · rw [List.mem_singleton.mp h]
    have : fullChunks capacity weight * capacity < weight := fullChunks_mul_lt hw
    have := le_fullChunks_mul_add hc weight
    omega

end HubDispatch
