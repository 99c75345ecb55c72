import HubDispatch.Decimal.Text
import HubDispatch.Shipment.Reference

/-!
# Shipments

Freight that one vehicle takes from one location to another, each end within its window and with its
handling time. Times are hours since midnight of the planning day, and may lie before it or on a
later day.
-/

namespace HubDispatch

/-- From the earliest to the latest hour. -/
structure TimeWindow where
  earliest : Float
  latest : Float

namespace TimeWindow

/-- The window moved by some hours. -/
def shifted (w : TimeWindow) (hours : Float) : TimeWindow := ⟨w.earliest + hours, w.latest + hours⟩

def text (w : TimeWindow) : String :=
  "[" ++ Decimal.shortestText w.earliest ++ "," ++ Decimal.shortestText w.latest ++ "]"

end TimeWindow

/-- One movement of freight, in kilograms and hours. -/
structure Shipment where
  reference : ShipmentRef
  weight : Nat
  pickup : TimeWindow
  delivery : TimeWindow
  pickupService : Float
  deliveryService : Float

namespace Shipment

def origin (s : Shipment) : LocationCode := s.reference.origin

def destination (s : Shipment) : LocationCode := s.reference.destination

end Shipment
end HubDispatch
