import HubDispatch.Network.SalesPlan

/-!
# Demand of a cluster

A square of whole kilograms by member position. The hub sends every branch what arrives there from
the whole network, and receives from it what leaves it; no freight is planned between branches.
-/

namespace HubDispatch

/-- Demand in kilograms by member position; rows are origins. -/
structure DemandMatrix where
  rows : List (List Nat)
  deriving DecidableEq, Repr

/-- A cell of a demand matrix that carries freight. -/
structure DemandCell where
  origin : Nat
  destination : Nat
  weight : Nat
  deriving DecidableEq, Repr

namespace DemandMatrix

/-- Kilograms without their fraction, at most what a count of 32 bits holds. -/
def kilograms (v : Float) : Nat := Binary64.toCount32 .towardZero v

/-- What a member gets from its hub and what it sends there. -/
def exchange (plan : SalesPlan Float) (minimum : Float) (member : LocationCode) :
    Except Fault (Nat × Nat) := do
  let inbound ← plan.totalInbound member minimum
  let outbound ← plan.totalOutbound member minimum
  return (kilograms inbound, kilograms outbound)

/-- The exchange of every member by position; none for the hub. -/
def exchanges (plan : SalesPlan Float) (cluster : Cluster) (minimum : Float) :
    Except Fault (List (Nat × Nat)) :=
  cluster.members.zipIdx.mapM fun (member, i) =>
    if i = cluster.hubIndex then .ok (0, 0) else exchange plan minimum member

/-- The row of member `i`: the hub's row holds what each member gets, any other what it sends. -/
def row (hub : Nat) (exchanges : List (Nat × Nat)) (i : Nat) (sent : Nat) : List Nat :=
  exchanges.zipIdx.map fun ((gets, _), j) =>
    if i = hub then gets else if j = hub then sent else 0

/-- The demand of a cluster. -/
def forCluster (plan : SalesPlan Float) (cluster : Cluster) (minimum : Float) :
    Except Fault DemandMatrix := do
  let exchanges ← exchanges plan cluster minimum
  return ⟨exchanges.zipIdx.map fun ((_, sent), i) => row cluster.hubIndex exchanges i sent⟩

/-- The cells off the diagonal that carry freight, row by row. -/
def nonzero (m : DemandMatrix) : List DemandCell :=
  m.rows.zipIdx.flatMap fun (row, i) =>
    row.zipIdx.filterMap fun (weight, j) =>
      if i ≠ j ∧ weight ≠ 0 then some ⟨i, j, weight⟩ else none

end DemandMatrix
end HubDispatch
