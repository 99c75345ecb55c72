import HubDispatch.Proofs.Shipment.Splitting
import Mathlib.Algebra.Order.BigOperators.Group.List
import Mathlib.Algebra.Order.Ring.Int
import Mathlib.Data.Nat.Cast.Order.Ring

/-!
# The fewest chunks

Demand is cut in a loop on 32-bit words: as long as more than a load is left, a full chunk is cut
off (`Cut`). The loop ends, because every turn leaves less (`Cut.exists_of_pos`), and what it takes
away is always there, so its words are the numbers of `splitDemand` (`Cut.map_toNat`).

The full chunks leave something over. Fewer parts than there are chunks, none of them above the
capacity, therefore fall short of the demand (`length_splitDemand_le`).
-/

namespace HubDispatch

/-- The loop on words. From `left` it cuts the chunks listed: a full one at every turn, and at the
end all that is left. -/
inductive Cut (capacity : UInt32) : UInt32 → List UInt32 → Prop
  | last {left : UInt32} (within : left ≤ capacity) : Cut capacity left [left]
  | full {left : UInt32} {chunks : List UInt32} (above : capacity < left)
      (rest : Cut capacity (left - capacity) chunks) : Cut capacity left (capacity :: chunks)

namespace Cut

variable {capacity weight : UInt32} {chunks chunks' : List UInt32}

/-- **The words are the numbers**: no turn takes away more than is left. -/
theorem map_toNat (hc : 0 < capacity) (h : Cut capacity weight chunks) :
    chunks.map UInt32.toNat = splitDemand capacity.toNat weight.toNat := by
  induction h with
  | last within => exact (splitDemand_of_le (UInt32.le_iff_toNat_le.mp within)).symm
  | full above _ ih =>
    rw [List.map_cons, ih, UInt32.toNat_sub_of_le _ _ (UInt32.le_of_lt above),
      ← splitDemand_of_lt (UInt32.lt_iff_toNat_lt.mp hc) (UInt32.lt_iff_toNat_lt.mp above)]

/-- **The loop ends.** -/
theorem exists_of_pos (hc : 0 < capacity) (weight : UInt32) :
    ∃ chunks, Cut capacity weight chunks := by
  -- By what is left: a load is not nothing, so a turn leaves less.
  induction hn : weight.toNat using Nat.strongRecOn generalizing weight with
  | ind n ih =>
    by_cases hwithin : weight ≤ capacity
    · exact ⟨_, last hwithin⟩
    · have habove := UInt32.not_le.mp hwithin
      have hpos : 0 < capacity.toNat := UInt32.lt_iff_toNat_lt.mp hc
      have hlt : capacity.toNat < weight.toNat := UInt32.lt_iff_toNat_lt.mp habove
      have hleft := UInt32.toNat_sub_of_le _ _ (UInt32.le_of_lt habove)
      obtain ⟨chunks, hchunks⟩ := ih _ (by omega) (weight - capacity) hleft
      exact ⟨_, full habove hchunks⟩

theorem unique (hc : 0 < capacity) (h : Cut capacity weight chunks)
    (h' : Cut capacity weight chunks') : chunks' = chunks := by
  have hinj : Function.Injective UInt32.toNat := fun _ _ => UInt32.toNat_inj.mp
  exact List.map_injective_iff.mpr hinj ((h'.map_toNat hc).trans (h.map_toNat hc).symm)

end Cut

section Parts

variable {capacity weight : Nat} {R : Type} [Semiring R] [PartialOrder R] [IsStrictOrderedRing R]

theorem length_splitDemand (capacity weight : Nat) :
    (splitDemand capacity weight).length = fullChunks capacity weight + 1 := by
  simp [splitDemand]

/-- **No parts within the capacity are fewer**, be they whole or not, negative or not. -/
theorem length_splitDemand_le (hw : 0 < weight) {parts : List R}
    (hparts : ∀ part ∈ parts, part ≤ (capacity : R)) (hsum : parts.sum = (weight : R)) :
    (splitDemand capacity weight).length ≤ parts.length := by
  have hroom : weight ≤ parts.length * capacity := by
    have hle : parts.sum ≤ parts.length • (capacity : R) := parts.sum_le_card_nsmul _ hparts
    rw [hsum, nsmul_eq_mul, ← Nat.cast_mul] at hle
    exact Nat.cast_le.mp hle
  have hfull : fullChunks capacity weight * capacity < weight := fullChunks_mul_lt hw
  rw [length_splitDemand]
  exact Nat.lt_of_mul_lt_mul_right (hfull.trans_le hroom)

end Parts

/-- **Demand is split exactly and into the fewest chunks.** For every demand and every capacity,
both words above zero, the loop ends, and in one way only. Its chunks are those of `splitDemand`:
none is empty or above the capacity, all but the last are full, and as numbers they sum to the
demand. Numbers of any kind that are at most the capacity and sum to the demand are at least as
many. -/
theorem splitDemand_fewest {capacity weight : UInt32} (hc : 0 < capacity) (hw : 0 < weight) :
    ∃ chunks, Cut capacity weight chunks ∧ (∀ other, Cut capacity weight other → other = chunks) ∧
      chunks.map UInt32.toNat = splitDemand capacity.toNat weight.toNat ∧
      (∀ chunk ∈ chunks, 1 ≤ chunk ∧ chunk ≤ capacity) ∧
      (∀ chunk ∈ chunks.dropLast, chunk = capacity) ∧
      (chunks.map UInt32.toNat).sum = weight.toNat ∧
      ∀ (R : Type) [Semiring R] [PartialOrder R] [IsStrictOrderedRing R] (parts : List R),
        (∀ part ∈ parts, part ≤ (capacity.toNat : R)) → parts.sum = (weight.toNat : R) →
          chunks.length ≤ parts.length := by
  have hc' : 0 < capacity.toNat := UInt32.lt_iff_toNat_lt.mp hc
  have hw' : 0 < weight.toNat := UInt32.lt_iff_toNat_lt.mp hw
  obtain ⟨chunks, hchunks⟩ := Cut.exists_of_pos hc weight
  have hnumbers := hchunks.map_toNat hc
  refine ⟨chunks, hchunks, fun _ => hchunks.unique hc, hnumbers, ?_, ?_, ?_, ?_⟩
  · intro chunk hchunk
    have hmem := List.mem_map_of_mem (f := UInt32.toNat) hchunk
    rw [hnumbers] at hmem
    exact mem_splitDemand hc' hw' hmem
  · intro chunk hchunk
    have hmem := List.mem_map_of_mem (f := UInt32.toNat) hchunk
    rw [List.map_dropLast, hnumbers, dropLast_splitDemand] at hmem
    exact UInt32.toNat_inj.mp (List.eq_of_mem_replicate hmem)
  · rw [hnumbers, sum_splitDemand]
  · intro R _ _ _ parts hparts hsum
    rw [← List.length_map UInt32.toNat, hnumbers]
    exact length_splitDemand_le hw' hparts hsum

/-- The greatest word in loads of just less than half of it: two full chunks and one kilogram, and
no two integers within the load would do, a negative one among them or not. -/
theorem splitDemand_fewest_word :
    (0 : UInt32) < 2147483647 ∧ (0 : UInt32) < 4294967295 ∧
      splitDemand 2147483647 4294967295 = [2147483647, 2147483647, 1] ∧
      ∀ parts : List Int, (∀ part ∈ parts, part ≤ 2147483647) → parts.sum = 4294967295 →
        3 ≤ parts.length := by
  have hc : (0 : UInt32) < 2147483647 := by decide
  have hw : (0 : UInt32) < 4294967295 := by decide
  obtain ⟨chunks, -, -, hnumbers, -, -, -, hfewest⟩ := splitDemand_fewest hc hw
  have hsplit : splitDemand 2147483647 4294967295 = [2147483647, 2147483647, 1] := by
    decide +kernel
  have hlength : chunks.length = 3 := by
    rw [← List.length_map UInt32.toNat, hnumbers]
    exact congrArg List.length hsplit
  refine ⟨hc, hw, hsplit, fun parts hparts hsum => ?_⟩
  rw [← hlength]
  exact hfewest Int parts hparts hsum

end HubDispatch
