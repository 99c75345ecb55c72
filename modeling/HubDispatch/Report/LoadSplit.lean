import HubDispatch.Network.Model
import HubDispatch.Routing.Route

/-!
# Delivered weight by cluster

Freight delivered to a branch counts for the cluster of the branch. Freight delivered to a hub moves
on into the network: it is spread over the clusters as the origin's planned volume is, and stays
with the origin's own cluster if the origin has none.
-/

namespace HubDispatch
namespace Report

variable {V : Type} [NatCast V] [Add V]

/-- The position of the cluster that a code belongs to. -/
def clusterIndex (network : Network V) (code : LocationCode) : Except Fault Nat :=
  match network.clusters.findIdx? (·.contains code) with
  | some i => .ok i
  | none => .error (.unknownLocation code)

/-- The whole weight for the cluster at one position. -/
def wholeShare (network : Network V) (position weight : Nat) : List V :=
  network.clusters.zipIdx.map fun (_, i) => ((if i = position then weight else 0 : Nat) : V)

variable [Mul V] [Div V] [LT V] [DecidableLT V]

/-- What a delivery is worth to each cluster. -/
def shareOf (network : Network V) (s : Stop) : Except Fault (List V) := do
  if (network.cluster? s.shipment.destination).isNone then
    return wholeShare network (← clusterIndex network s.shipment.destination) s.weight
  else
    let volumes ← network.clusters.mapM (network.plan.totalToCluster s.shipment.origin)
    let total := volumes.foldl (· + ·) ((0 : Nat) : V)
    if ((0 : Nat) : V) < total then
      return volumes.map fun volume => (s.weight : V) * volume / total
    else
      return wholeShare network (← clusterIndex network s.shipment.origin) s.weight

/-- The deliveries among some stops. -/
def deliveries (stops : List Stop) : List Stop := stops.filter (·.kind = .delivery)

/-- The weight that a route delivers for each cluster, in the order of the clusters. -/
def loadSplit (network : Network V) (r : Route) : Except Fault (List V) :=
  (deliveries r.stops).foldlM
    (fun split s => return List.zipWith (· + ·) split (← shareOf network s))
    (network.clusters.map fun _ => ((0 : Nat) : V))

end Report
end HubDispatch
