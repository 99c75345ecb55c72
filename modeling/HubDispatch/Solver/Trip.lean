import HubDispatch.Document.Solution
import HubDispatch.Travel.Matrices

/-!
# Trips

A trip is the order in which one vehicle makes its visits. Driven from the earliest start, every
visit begins on arrival or when its window opens, whichever is later, and lasts its handling time. A
trip is possible if every visit begins before its window closes, the load never exceeds the
capacity, and a vehicle that returns is home in time.
-/

namespace HubDispatch
namespace Solver

open Document (Task Job VehicleType)

/-- Travel in metres and seconds between positions. -/
structure Roads where
  size : Nat
  distances : List Int
  durations : List Int

namespace Roads

def ofMatrices (m : Matrices) : Roads := ⟨m.size, m.flatDistances, m.flatDurations⟩

/-- Metres from one position to another. -/
def metres (r : Roads) (i j : Nat) : Int := r.distances.getD (i * r.size + j) 0

/-- Seconds from one position to another. -/
def seconds (r : Roads) (i j : Nat) : Int := r.durations.getD (i * r.size + j) 0

end Roads

/-- A pickup or delivery of a job. -/
structure Visit where
  jobId : String
  kind : StopKind
  task : Task
  deriving DecidableEq, Repr

/-- What a visit does to the load. -/
def Visit.loadChange (v : Visit) : Int :=
  match v.kind with
  | .pickup => v.task.demand
  | .delivery => -(v.task.demand : Int)

def pickupOf (j : Job) : Visit := ⟨j.id, .pickup, j.pickup⟩

def deliveryOf (j : Job) : Visit := ⟨j.id, .delivery, j.delivery⟩

/-- A visit as it is made. -/
structure Made where
  visit : Visit
  arrival : Int
  departure : Int
  deriving DecidableEq, Repr

/-- The seconds that a vehicle waits for the window to open. -/
def Made.waiting (m : Made) : Int := max 0 (m.visit.task.earliest.seconds - m.arrival)

/-- The seconds by which the visit could begin later still. -/
def Made.slack (m : Made) : Int :=
  max 0 (m.visit.task.latest.seconds - m.arrival - m.waiting)

variable (roads : Roads)

/-- The visits as they are made after leaving a position at some second. -/
def drive : (position : Nat) → (time : Int) → List Visit → List Made
  | _, _, [] => []
  | position, time, v :: rest =>
    let arrival := time + roads.seconds position v.task.location
    let departure := max arrival v.task.earliest.seconds + v.task.duration
    ⟨v, arrival, departure⟩ :: drive v.task.location departure rest

/-- Every visit begins before its window closes. -/
def inTime (made : List Made) : Bool :=
  made.all fun m =>
    decide (max m.arrival m.visit.task.earliest.seconds ≤ m.visit.task.latest.seconds)

/-- From a load that fits on, every load fits. -/
def fits (capacity : Nat) : (load : Int) → List Visit → Bool
  | _, [] => true
  | load, v :: rest =>
    decide (load + v.loadChange ≤ capacity) && fits capacity (load + v.loadChange) rest

/-- Where and when the last visit is left. -/
def lastLeft (t : VehicleType) (start : Int) (made : List Made) : Nat × Int :=
  match made.getLast? with
  | some m => (m.visit.task.location, m.departure)
  | none => (t.start.location, start)

/-- When a vehicle that left at `start` is home; none for one that does not return. -/
def homeAt (t : VehicleType) (start : Int) (made : List Made) : Option Int :=
  t.finish.map fun finish =>
    let (position, time) := lastLeft t start made
    time + roads.seconds position finish.location

/-- A vehicle that returns is home in time. -/
def homeInTime (t : VehicleType) (start : Int) (made : List Made) : Bool :=
  match t.finish, homeAt roads t start made with
  | some finish, some time => decide (time ≤ finish.time.seconds)
  | _, _ => true

/-- The trip from the earliest start on. -/
def driven (t : VehicleType) (visits : List Visit) : List Made :=
  drive roads t.start.location t.start.time.seconds visits

/-- The vehicle can make these visits in this order. -/
def isPossible (t : VehicleType) (visits : List Visit) : Bool :=
  let made := driven roads t visits
  fits t.capacity 0 visits && inTime made && homeInTime roads t t.start.time.seconds made

/-- The positions of a trip from its start to its end. -/
def positions (t : VehicleType) (visits : List Visit) : List Nat :=
  t.start.location :: visits.map (·.task.location) ++ (t.finish.map (·.location)).toList

/-- What the legs through some positions cost. -/
def legsCost (t : VehicleType) : List Nat → Float
  | i :: j :: rest => Float.ofInt (roads.metres i j) * t.costPerMetre + legsCost t (j :: rest)
  | _ => 0.0

/-- What a trip costs; a vehicle that stays at home costs nothing. -/
def tripCost (t : VehicleType) (visits : List Visit) : Float :=
  if visits.isEmpty then 0.0 else legsCost roads t (positions t visits)

/-- Total waiting, and how far the departure could move without making anything late. -/
def shiftBounds (made : List Made) (homeSlack : Option Int) : Int × Option Int :=
  made.foldr
    (fun m (waiting, room) =>
      (waiting + m.waiting, some (m.waiting + (room.map (min m.slack)).getD m.slack)))
    (0, homeSlack)

/-- The departure of a trip: as late as it can be without anything ending later. -/
def departureOf (t : VehicleType) (visits : List Visit) : Int :=
  let made := driven roads t visits
  let homeSlack :=
    match t.finish, homeAt roads t t.start.time.seconds made with
    | some finish, some time => some (max 0 (finish.time.seconds - time))
    | _, _ => none
  let (waiting, room) := shiftBounds made homeSlack
  t.start.time.seconds + (room.map (min waiting)).getD waiting

end Solver
end HubDispatch
