import HubDispatch.Shipment.Basic
import HubDispatch.Fleet.Basic

/-!
# Routes

What one vehicle does: the pickups and deliveries it makes, in order, between leaving its depot and
its return.
-/

namespace HubDispatch

inductive StopKind where
  | pickup
  | delivery
  deriving DecidableEq, Repr

/-- The letter in timed routes. -/
def StopKind.tag : StopKind → Char
  | .pickup => 'P'
  | .delivery => 'D'

/-- One pickup or delivery, from arrival to departure. -/
structure Stop where
  kind : StopKind
  shipment : ShipmentRef
  weight : Nat
  arrival : Float
  departure : Float
  deriving DecidableEq, Repr

/-- Freight is picked up at its origin and delivered at its destination. -/
def Stop.location (s : Stop) : LocationCode :=
  match s.kind with
  | .pickup => s.shipment.origin
  | .delivery => s.shipment.destination

/-- The route of one vehicle. -/
structure Route where
  vehicle : String
  fleet : FleetType
  stops : List Stop
  /-- Departure from the depot, in hours. -/
  start : Float
  /-- Return to the depot or last activity, in hours. -/
  finish : Float
  deriving DecidableEq, Repr

end HubDispatch
