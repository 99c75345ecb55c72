import HubDispatch.Proofs.Network.Demand
import HubDispatch.Proofs.Network.Membership

/-!
# Freight goes by the hub

The demand of a cluster is filled from one pair of numbers for each member: what it gets and what it
sends. The row of the hub has what the members get, the column of the hub what they send, and there
is nothing anywhere else (`exists_exchanges_of_forCluster`). So a cell off the diagonal with freight
is in the row of the hub or in its column (`hub_of_cell`), and each branch has its two numbers there
(`cells_of_branch`), wherever in the list of members the hub stands.
-/

namespace HubDispatch
namespace DemandMatrix

variable {plan : SalesPlan Float} {cluster : Cluster} {minimum : Float} {m : DemandMatrix}
  {i j w : Nat} {code : LocationCode}

/-- Every position has a pair of numbers, and off the hub it is the exchange of the member there. -/
theorem exchange_of_exchanges {ex : List (Nat × Nat)}
    (h : exchanges plan cluster minimum = .ok ex) (hi : cluster.members[i]? = some code) :
    ∃ e, ex[i]? = some e ∧ (i ≠ cluster.hubIndex → exchange plan minimum code = .ok e) := by
  have hex := mapM_eq_ok_iff.mp h
  obtain ⟨hlt, rfl⟩ := List.getElem?_eq_some_iff.mp hi
  have hlt' : i < cluster.members.zipIdx.length := by rwa [List.length_zipIdx]
  have hlt'' : i < ex.length := hex.length_eq ▸ hlt'
  have hat := hex.get hlt' hlt''
  refine ⟨ex[i], List.getElem?_eq_getElem hlt'', fun hne => ?_⟩
  simpa [hne] using hat

/-- **What stands where**: in the row of the hub what the members get, in its column what they send,
and nothing anywhere else. -/
theorem exists_exchanges_of_forCluster (h : forCluster plan cluster minimum = .ok m) :
    ∃ ex, exchanges plan cluster minimum = .ok ex ∧
      ∀ {i j : Nat} {a b : Nat × Nat}, ex[i]? = some a → ex[j]? = some b →
        m.cell? i j = some (if i = cluster.hubIndex then b.1 else
          if j = cluster.hubIndex then a.2 else 0) := by
  obtain ⟨ex, hex, hm⟩ := bind_eq_ok_iff.mp h
  cases hm
  refine ⟨ex, hex, fun {i j a b} ha hb => ?_⟩
  simp [cell?, row, ha, hb]

/-- **Freight is planned from the hub or to the hub**, and never between branches. -/
theorem hub_of_cell (h : forCluster plan cluster minimum = .ok m) (hij : i ≠ j)
    (hw : m.cell? i j = some w) (h0 : w ≠ 0) :
    i = cluster.hubIndex ∧ j ≠ cluster.hubIndex ∨ i ≠ cluster.hubIndex ∧ j = cluster.hubIndex := by
  obtain ⟨ex, hex, hcell⟩ := exists_exchanges_of_forCluster h
  obtain ⟨hi, hj⟩ := (isSquare_of_forCluster h).lt_of_cell hw
  obtain ⟨a, ha, -⟩ := exchange_of_exchanges hex (List.getElem?_eq_getElem hi)
  obtain ⟨b, hb, -⟩ := exchange_of_exchanges hex (List.getElem?_eq_getElem hj)
  rw [hcell ha hb, Option.some.injEq] at hw
  by_cases hhub : i = cluster.hubIndex
  · exact Or.inl ⟨hhub, fun hhub' => hij (hhub.trans hhub'.symm)⟩
  · rw [if_neg hhub] at hw
    by_cases hhub' : j = cluster.hubIndex
    · exact Or.inr ⟨hhub, hhub'⟩
    · rw [if_neg hhub'] at hw
      exact absurd hw.symm h0

/-- **What a branch gets and what it sends**, in the row and in the column of the hub. -/
theorem cells_of_branch (h : forCluster plan cluster minimum = .ok m)
    (hhub : cluster.hub ∈ cluster.members) (hi : cluster.members[i]? = some code)
    (hbranch : code ≠ cluster.hub) :
    ∃ gets sends, exchange plan minimum code = .ok (gets, sends) ∧
      m.cell? cluster.hubIndex i = some gets ∧ m.cell? i cluster.hubIndex = some sends := by
  have hne := Cluster.ne_hubIndex_of_ne hhub hi hbranch
  obtain ⟨ex, hex, hcell⟩ := exists_exchanges_of_forCluster h
  obtain ⟨a, ha, -⟩ := exchange_of_exchanges hex (Cluster.getElem?_hubIndex_of_mem hhub)
  obtain ⟨⟨gets, sends⟩, he, hexchange⟩ := exchange_of_exchanges hex hi
  refine ⟨gets, sends, hexchange hne, ?_, ?_⟩
  · rw [hcell ha he, if_pos rfl]
  · rw [hcell he ha, if_neg hne, if_pos rfl]

end DemandMatrix
end HubDispatch
