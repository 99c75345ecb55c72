import HubDispatch.Sweep.Windows
import HubDispatch.Fleet.Basic

/-!
# Settings of a sweep

The bounds of the day, the fleet that every member is offered, and the handling times.
-/

namespace HubDispatch

structure SweepSettings where
  bounds : TimeBounds
  /-- The fleet types offered at every member. -/
  fleet : List FleetType
  vehiclesPerType : Nat
  /-- When every vehicle may start, in hours. -/
  earliestStart : Float
  /-- Handling time at a branch, in hours. -/
  serviceHours : Float
  /-- What a part of split demand waits longer at pickup than the part before it, in hours. -/
  splitPickupOffset : Float

namespace SweepSettings

/-- Ten vehicles of every standard type, an hour of handling, two hours between parts. -/
def standard : SweepSettings where
  bounds := .standard
  fleet := FleetType.standard
  vehiclesPerType := 10
  earliestStart := 0.0
  serviceHours := 1.0
  splitPickupOffset := 2.0

/-- The capacity that demand is split to fit; none without a fleet. -/
def maxCapacity? (s : SweepSettings) : Option Nat := (s.fleet.map FleetType.capacity).max?

end SweepSettings
end HubDispatch
