/-!
# Splitting demand

Demand beyond the capacity of a vehicle is cut into full chunks and a last one that holds the rest.
The last chunk is never empty unless there is no demand at all.
-/

namespace HubDispatch

/-- How many full chunks stand before the last. -/
def fullChunks (capacity weight : Nat) : Nat := (weight - 1) / capacity

/-- Chunks of at most `capacity`, full ones first. -/
def splitDemand (capacity weight : Nat) : List Nat :=
  List.replicate (fullChunks capacity weight) capacity ++
    [weight - fullChunks capacity weight * capacity]

theorem splitDemand_of_le {capacity weight : Nat} (h : weight ≤ capacity) :
    splitDemand capacity weight = [weight] := by
  have : fullChunks capacity weight = 0 := by
    unfold fullChunks
    rcases Nat.eq_zero_or_pos weight with rfl | hw
    · simp
    · exact Nat.div_eq_of_lt (by omega)
  simp [splitDemand, this]

theorem splitDemand_of_lt {capacity weight : Nat} (hc : 0 < capacity) (h : capacity < weight) :
    splitDemand capacity weight = capacity :: splitDemand capacity (weight - capacity) := by
  have : fullChunks capacity weight = fullChunks capacity (weight - capacity) + 1 := by
    unfold fullChunks
    rw [← Nat.add_div_right _ hc]
    congr 1
    omega
  simp only [splitDemand, this, List.replicate_succ, List.cons_append, List.cons.injEq, true_and]
  rw [Nat.add_mul, Nat.one_mul, Nat.sub_sub, Nat.add_comm]

end HubDispatch
