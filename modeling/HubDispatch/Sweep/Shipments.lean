import HubDispatch.Sweep.Settings
import HubDispatch.Shipment.Basic
import HubDispatch.Shipment.Splitting

/-!
# Shipments and vehicles of a cluster

Every cell of the demand becomes one shipment, or several if no vehicle can carry it at once; the
parts are numbered from one, and each is ready for pickup later than the one before. The hub needs
no handling time. Freight from branch to branch lands the next day.

A destination may be relaxed: then freight from the hub can be delivered there on its whole day.
-/

namespace HubDispatch

/-- The ends of a demand cell, with their windows. -/
structure CellEnds where
  origin : LocationCode
  destination : LocationCode
  pickup : TimeWindow
  delivery : TimeWindow
  /-- The freight comes from the hub. -/
  fromHub : Bool
  /-- The freight goes to the hub. -/
  toHub : Bool

/-- The member at a position. -/
def Cluster.member (c : Cluster) (i : Nat) : Except Fault LocationCode :=
  match c.members[i]? with
  | some code => .ok code
  | none => .error (.outsideCluster i)

namespace CellEnds

/-- The ends of a cell. -/
def ofCell (cluster : Cluster) (windows : ClusterWindows) (cell : DemandCell) :
    Except Fault CellEnds := do
  let origin ← cluster.member cell.origin
  let destination ← cluster.member cell.destination
  let atOrigin ← windows.member cell.origin
  let atDestination ← windows.member cell.destination
  return {
    origin, destination
    pickup := atOrigin.pickup
    delivery := atDestination.delivery
    fromHub := cell.origin == cluster.hubIndex
    toHub := cell.destination == cluster.hubIndex }

/-- When freight is delivered, given the relaxed destinations. -/
def deliveryWindow (e : CellEnds) (relaxed : List LocationCode) (settings : SweepSettings) :
    TimeWindow :=
  if !e.fromHub && !e.toHub then e.delivery.shifted 24.0
  else if relaxed.contains e.destination then settings.bounds.fullBranchDay
  else e.delivery

/-- Handling time at the origin for part `k`, counted from zero. -/
def pickupService (e : CellEnds) (split : Bool) (k : Nat) (settings : SweepSettings) : Float :=
  if e.fromHub then 0.0
  else if split then settings.serviceHours + settings.splitPickupOffset * Float.ofNat k
  else settings.serviceHours

/-- Handling time at the destination. -/
def deliveryService (e : CellEnds) (settings : SweepSettings) : Float :=
  if e.toHub then 0.0 else settings.serviceHours

/-- The shipment of part `k` of a cell. -/
def shipment (e : CellEnds) (relaxed : List LocationCode) (settings : SweepSettings) (split : Bool)
    (k weight : Nat) : Shipment where
  reference := ⟨e.origin, e.destination, k + 1⟩
  weight := weight
  pickup := e.pickup
  delivery := e.deliveryWindow relaxed settings
  pickupService := e.pickupService split k settings
  deliveryService := e.deliveryService settings

/-- The shipments of a cell whose demand is cut into some chunks. -/
def shipments (e : CellEnds) (relaxed : List LocationCode) (settings : SweepSettings)
    (chunks : List Nat) : List Shipment :=
  chunks.zipIdx.map fun (weight, k) => e.shipment relaxed settings (1 < chunks.length) k weight

end CellEnds

/-- The shipments of one cell. -/
def shipmentsOfCell (cluster : Cluster) (windows : ClusterWindows) (relaxed : List LocationCode)
    (settings : SweepSettings) (capacity : Nat) (cell : DemandCell) :
    Except Fault (List Shipment) :=
  return (← CellEnds.ofCell cluster windows cell).shipments relaxed settings
    (splitDemand capacity cell.weight)

/-- The shipments of a cluster, cell by cell. -/
def shipmentsOf (cluster : Cluster) (demand : DemandMatrix) (windows : ClusterWindows)
    (relaxed : List LocationCode) (settings : SweepSettings) : Except Fault (List Shipment) :=
  match settings.maxCapacity? with
  | none => .error (.malformedInput "no fleet type is active")
  | some capacity =>
    List.flatten <$> demand.nonzero.mapM (shipmentsOfCell cluster windows relaxed settings capacity)

/-- The `n`-th vehicle of a type at a member. -/
def SweepSettings.vehicle (settings : SweepSettings) (home : LocationCode) (fleet : FleetType)
    (n : Nat) : Vehicle where
  id := fleet.name ++ "_" ++ Decimal.wholeText n ++ "-" ++ home
  fleet := fleet
  home := home
  earliestStart := settings.earliestStart
  returnToDepot := true

/-- The vehicles offered to a cluster: at every member some of every active type. -/
def vehiclesOf (cluster : Cluster) (settings : SweepSettings) : List Vehicle :=
  cluster.members.flatMap fun home =>
    settings.fleet.flatMap fun fleet =>
      (List.range settings.vehiclesPerType).map fun n => settings.vehicle home fleet (n + 1)

/-- The end of a reference that is not at the hub: the destination of freight from the hub, and else
the origin. -/
def Cluster.branchEnd (c : Cluster) (r : ShipmentRef) : LocationCode :=
  if c.isHub r.origin then r.destination else r.origin

/-- The branches at the ends of unassigned shipments, each where it comes first. -/
def infeasibleLocations (cluster : Cluster) (unassigned : List ShipmentRef) : List LocationCode :=
  (unassigned.map cluster.branchEnd).eraseDups

end HubDispatch
