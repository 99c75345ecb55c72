import HubDispatch.Network.Demand
import HubDispatch.Proofs.Outcome

/-!
# Cells of a demand matrix

The cells that carry freight are exactly those off the diagonal that are not zero (`mem_nonzero`),
each listed once and in row-major order (`pairwise_before_nonzero`). The demand of a cluster is a
square with a row and a column for every member (`isSquare_of_forCluster`).
-/

namespace HubDispatch

/-- `a` stands in an earlier row than `b`, or further to the left in the same one. -/
def DemandCell.Before (a b : DemandCell) : Prop :=
  a.origin < b.origin ∨ a.origin = b.origin ∧ a.destination < b.destination

namespace DemandMatrix

variable {m : DemandMatrix} {n i j w : Nat}

/-- The matrix has `n` rows of `n` cells. -/
structure IsSquare (m : DemandMatrix) (n : Nat) : Prop where
  length_rows : m.rows.length = n
  length_row : ∀ row ∈ m.rows, row.length = n

/-- The weight at a position. -/
def cell? (m : DemandMatrix) (i j : Nat) : Option Nat := m.rows[i]?.bind (·[j]?)

theorem IsSquare.lt_of_cell (h : m.IsSquare n) (hw : m.cell? i j = some w) : i < n ∧ j < n := by
  obtain ⟨row, hrow, hcell⟩ := Option.bind_eq_some_iff.mp hw
  obtain ⟨hi, rfl⟩ := List.getElem?_eq_some_iff.mp hrow
  obtain ⟨hj, -⟩ := List.getElem?_eq_some_iff.mp hcell
  rw [h.length_row _ (List.getElem_mem hi)] at hj
  exact ⟨h.length_rows ▸ hi, hj⟩

/-- **The cells that carry freight** are those off the diagonal that are not zero. -/
theorem mem_nonzero {c : DemandCell} :
    c ∈ m.nonzero ↔
      c.origin ≠ c.destination ∧ c.weight ≠ 0 ∧
        m.cell? c.origin c.destination = some c.weight := by
  unfold nonzero
  simp only [List.mem_flatMap, List.mem_filterMap, Prod.exists, List.mk_mem_zipIdx_iff_getElem?,
    cell?, Option.bind_eq_some_iff]
  constructor
  · rintro ⟨row, i, hrow, w, j, hw, hc⟩
    obtain ⟨⟨hne, h0⟩, ⟨⟩⟩ := Option.ite_none_right_eq_some.mp hc
    exact ⟨hne, h0, row, hrow, hw⟩
  · rintro ⟨hij, hw, row, hrow, hcell⟩
    exact ⟨row, c.origin, hrow, c.weight, c.destination, hcell, by simp [hij, hw]⟩

/-- Numbering a list numbers it upwards. -/
theorem pairwise_zipIdx {α : Type} (xs : List α) : xs.zipIdx.Pairwise fun a b => a.2 < b.2 := by
  rw [← List.pairwise_map (f := Prod.snd) (R := (· < ·)), List.zipIdx_map_snd]
  exact List.pairwise_lt_range'

/-- **The cells that carry freight are listed row by row.** -/
theorem pairwise_before_nonzero (m : DemandMatrix) : m.nonzero.Pairwise DemandCell.Before := by
  unfold nonzero
  refine List.pairwise_flatMap.mpr ⟨?_, (pairwise_zipIdx _).imp ?_⟩
  · rintro ⟨row, i⟩ -
    refine List.pairwise_filterMap.mpr ((pairwise_zipIdx _).imp ?_)
    intro a b hab c hc d hd
    obtain ⟨-, ⟨⟩⟩ := Option.ite_none_right_eq_some.mp hc
    obtain ⟨-, ⟨⟩⟩ := Option.ite_none_right_eq_some.mp hd
    exact Or.inr ⟨rfl, hab⟩
  · intro a b hab c hc d hd
    obtain ⟨_, -, hc⟩ := List.mem_filterMap.mp hc
    obtain ⟨_, -, hd⟩ := List.mem_filterMap.mp hd
    obtain ⟨-, ⟨⟩⟩ := Option.ite_none_right_eq_some.mp hc
    obtain ⟨-, ⟨⟩⟩ := Option.ite_none_right_eq_some.mp hd
    exact Or.inl hab

theorem nodup_nonzero (m : DemandMatrix) : m.nonzero.Nodup :=
  (pairwise_before_nonzero m).imp fun {a b} h he => by
    subst he
    rcases h with h | h
    · exact Nat.lt_irrefl _ h
    · exact Nat.lt_irrefl _ h.2

/-- At each position off the diagonal there is one cell that carries freight, or none. -/
theorem filter_nonzero (hij : i ≠ j) (hw : m.cell? i j = some w) :
    m.nonzero.filter (fun c => c.origin = i ∧ c.destination = j) =
      if w = 0 then [] else [⟨i, j, w⟩] := by
  -- The position decides the cell, and no cell is listed twice: the filter keeps it or nothing.
  have hat : ∀ c ∈ m.nonzero, (c.origin = i ∧ c.destination = j) ↔ c = ⟨i, j, w⟩ := by
    intro c hc
    constructor
    · rintro ⟨rfl, rfl⟩
      have hcell := (mem_nonzero.mp hc).2.2
      rw [hw] at hcell
      cases c
      cases hcell
      rfl
    · rintro rfl
      exact ⟨rfl, rfl⟩
  rw [List.filter_congr (fun c hc => decide_eq_decide.mpr (hat c hc)), List.filter_eq,
    List.Nodup.count (nodup_nonzero m)]
  by_cases h0 : w = 0
  · rw [if_pos h0, if_neg fun hm => (mem_nonzero.mp hm).2.1 h0]
    rfl
  · rw [if_neg h0, if_pos (mem_nonzero.mpr ⟨hij, h0, hw⟩)]
    rfl

/-! ## The demand of a cluster -/

theorem length_row (hub : Nat) (exchanges : List (Nat × Nat)) (i sent : Nat) :
    (row hub exchanges i sent).length = exchanges.length := by
  simp [row]

/-- **The demand of a cluster has a row and a column for every member.** -/
theorem isSquare_of_forCluster {plan : SalesPlan Float} {cluster : Cluster} {minimum : Float}
    (h : forCluster plan cluster minimum = .ok m) : m.IsSquare cluster.members.length := by
  obtain ⟨ex, hex, hm⟩ := bind_eq_ok_iff.mp h
  cases hm
  have hlen : ex.length = cluster.members.length := by
    rw [length_of_mapM hex, List.length_zipIdx]
  refine ⟨by simp [hlen], fun r hr => ?_⟩
  obtain ⟨⟨⟨gets, sent⟩, i⟩, -, rfl⟩ := List.mem_map.mp hr
  rw [length_row, hlen]

end DemandMatrix
end HubDispatch
