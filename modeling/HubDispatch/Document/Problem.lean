import HubDispatch.Document.JobTable
import HubDispatch.Calendar.Instant
import HubDispatch.Journal

/-!
# The problem as a document

What a solver is given: a job with a pickup and a delivery for every shipment, and a vehicle type
for every fleet type and home that vehicles share. Times are timestamps, handling times whole
seconds, locations positions in the travel matrices.

A window that ends before it begins is just its beginning. Vehicles that return must be home a day
after the last delivery could end.
-/

namespace HubDispatch
namespace Document

/-- A point in time, as seconds after midnight of the planning day and as text. -/
structure Timestamp where
  seconds : Int
  text : String
  deriving DecidableEq, Repr

/-- The timestamp of an hour of the planning day. -/
def Timestamp.of (date : Date) (hours : Float) : Except Failure Timestamp :=
  match Instant.format date hours with
  | some text => .ok ⟨Instant.secondsOf hours, text⟩
  | none => .error ⟨[], .beyondCalendar⟩

/-- One end of a job. -/
structure Task where
  location : Nat
  /-- Handling time in seconds. -/
  duration : Int
  earliest : Timestamp
  latest : Timestamp
  demand : Nat
  deriving DecidableEq, Repr

/-- A shipment to be carried. -/
structure Job where
  id : String
  pickup : Task
  delivery : Task
  deriving DecidableEq, Repr

/-- Where a shift begins or ends, and when at the earliest or latest. -/
structure ShiftEnd where
  time : Timestamp
  location : Nat
  deriving DecidableEq, Repr

/-- Vehicles that are alike. -/
structure VehicleType where
  typeId : String
  vehicleIds : List String
  costPerMetre : Float
  start : ShiftEnd
  /-- Missing for vehicles that stay where they end. -/
  finish : Option ShiftEnd
  capacity : Nat

/-- All that a solver is given. -/
structure ProblemDocument where
  jobs : List Job
  vehicleTypes : List VehicleType

/-- The name of the one travel profile. -/
def profile : String := "car"

/-- When a window closes: not before it opens. -/
def closing (w : TimeWindow) : Float := if w.latest < w.earliest then w.earliest else w.latest

/-- What is noted of a window that ends before it begins. -/
def closingEntries (w : TimeWindow) (location : Nat) : List Entry :=
  if w.latest < w.earliest then
    [⟨.debug, "Collapsing inverted window " ++ w.text ++ " at location " ++
      Decimal.wholeText location⟩]
  else []

variable (p : Problem) (date : Date)

/-- A task at a location. -/
def taskAt (location : Nat) (service : Float) (w : TimeWindow) (weight : Nat) :
    Except Failure Task := do
  let earliest ← Timestamp.of date w.earliest
  let latest ← Timestamp.of date (closing w)
  return ⟨location, Instant.secondsOf service, earliest, latest, weight⟩

def pickupTask (s : Shipment) : Except Failure Task := do
  let location ← planned (p.locationIndex s.origin)
  taskAt date location s.pickupService s.pickup s.weight

def deliveryTask (s : Shipment) : Except Failure Task := do
  let location ← planned (p.locationIndex s.destination)
  taskAt date location s.deliveryService s.delivery s.weight

/-- The job of a shipment. -/
def job (s : Shipment) : Except Failure Job := do
  let pickup ← pickupTask p date s
  let delivery ← deliveryTask p date s
  let id ← planned s.reference.jobId
  return ⟨id, pickup, delivery⟩

/-- When the last delivery may end, in hours. -/
def lastDelivery : Float :=
  (p.shipments.map fun s => s.delivery.latest + s.deliveryService).foldl Binary64.larger 0.0

/-- When every vehicle that returns is home, in hours. -/
def horizon : Float := lastDelivery p + 24.0

/-- Vehicles of one type id, of which there is at least one. -/
structure VehicleGroup where
  first : Vehicle
  rest : List Vehicle

namespace VehicleGroup

def typeId (g : VehicleGroup) : String := g.first.typeId

def vehicles (g : VehicleGroup) : List Vehicle := g.first :: g.rest

/-- A vehicle put into the group of its type id. Groups stand in the order of their type ids. -/
def insert (v : Vehicle) : List VehicleGroup → List VehicleGroup
  | [] => [⟨v, []⟩]
  | g :: groups =>
    if v.typeId = g.typeId then ⟨g.first, g.rest ++ [v]⟩ :: groups
    else if v.typeId < g.typeId then ⟨v, []⟩ :: g :: groups
    else g :: insert v groups

/-- Vehicles by type id. -/
def ofVehicles (vehicles : List Vehicle) : List VehicleGroup :=
  vehicles.foldl (fun groups v => insert v groups) []

end VehicleGroup

/-- The vehicle type of a group. -/
def vehicleType (g : VehicleGroup) : Except Failure VehicleType := do
  let home ← planned (p.locationIndex g.first.home)
  let start ← Timestamp.of date g.first.earliestStart
  let finish ←
    if g.first.returnToDepot then do
      let time ← Timestamp.of date (horizon p)
      pure (some ⟨time, home⟩)
    else pure none
  return {
    typeId := g.typeId
    vehicleIds := g.vehicles.map (·.id)
    costPerMetre := g.first.fleet.costPerKilometre / 1000.0
    start := ⟨start, home⟩
    finish
    capacity := g.first.fleet.capacity }

/-- The document of a problem on a planning day. -/
def ofProblem : Except Failure ProblemDocument := do
  let jobs ← p.shipments.mapM (job p date)
  let types ← (VehicleGroup.ofVehicles p.vehicles).mapM (vehicleType p date)
  return ⟨jobs, types⟩

/-- What is noted of a window at a location, if the problem has the location. -/
def taskEntries (code : LocationCode) (w : TimeWindow) : List Entry :=
  match p.locationIndex code with
  | .ok i => closingEntries w i
  | .error _ => []

/-- What is noted while the job of a shipment is built. -/
def jobEntries (s : Shipment) : List Entry :=
  taskEntries p s.origin s.pickup ++
    if (pickupTask p date s).isOk then taskEntries p s.destination s.delivery else []

/-- What is noted while jobs are built, up to the first that fails. -/
def jobsEntries : List Shipment → List Entry
  | [] => []
  | s :: rest => jobEntries p date s ++ if (job p date s).isOk then jobsEntries rest else []

/-- What is noted while a document is built. -/
def entries : List Entry := jobsEntries p date p.shipments

end Document
end HubDispatch
