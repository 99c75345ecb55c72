import HubDispatch.Document.Problem
import HubDispatch.Routing.Solution

/-!
# The solution as a document

What a solver gives back: a tour for every vehicle it uses, with stops and the activities at them,
and the jobs it left. `toSolution` takes it back into routes and references of the problem it was
given for. An id that the problem does not know, or a time that cannot be read, is a fault: then the
document belongs to another problem.
-/

namespace HubDispatch
namespace Document

/-- When something begins and ends, as timestamps. -/
structure Schedule where
  arrival : String
  departure : String
  deriving DecidableEq, Repr

/-- What is done at a stop, with times of its own if several things are done there. -/
structure Activity where
  jobId : String
  kind : String
  time : Option Schedule
  deriving DecidableEq, Repr

/-- A stop of a tour. -/
structure TourStop where
  schedule : Schedule
  activities : List Activity
  deriving DecidableEq, Repr

/-- What one vehicle does. -/
structure Tour where
  vehicleId : String
  stops : List TourStop
  deriving DecidableEq, Repr

/-- Why a job was left. -/
structure Reason where
  code : String
  description : String
  deriving DecidableEq, Repr

/-- A job that was left. -/
structure UnassignedJob where
  jobId : String
  reasons : List Reason
  deriving DecidableEq, Repr

/-- All that a solver gives back. -/
structure SolutionDocument where
  cost : Float
  tours : List Tour
  unassigned : List UnassignedJob

/-- What a reason code says. -/
def Reason.meaning (code : String) : String :=
  match code with
  | "NO_VEHICLE_SHIFT_TIME" => "shift time exceeded"
  | "CAPACITY_CONSTRAINT" => "vehicle capacity exceeded"
  | "TIME_WINDOW_CONSTRAINT" => "time window violated"
  | "REACHABLE_CONSTRAINT" => "location not reachable"
  | "MAX_DISTANCE_CONSTRAINT" => "max distance exceeded"
  | "MAX_DURATION_CONSTRAINT" => "max duration exceeded"
  | "MAX_TRAVEL_TIME_CONSTRAINT" => "max travel time exceeded"
  | other => other

/-- The meaning of the code, and the description if there is one. -/
def Reason.text (r : Reason) : String :=
  if r.description.isEmpty then Reason.meaning r.code
  else Reason.meaning r.code ++ " (" ++ r.description ++ ")"

/-- All reasons in one line. -/
def reasonsText (reasons : List Reason) : String :=
  if reasons.isEmpty then "unknown reason" else String.intercalate ", " (reasons.map Reason.text)

/-- The stop that an activity of this kind makes; none for any other activity. -/
def stopKind? (kind : String) : Option StopKind :=
  match kind with
  | "pickup" => some .pickup
  | "delivery" => some .delivery
  | _ => none

variable (p : Problem) (jobs : JobTable) (date : Date)

/-- The hour of a timestamp. -/
def hour (stamp : String) : Except Fault Float :=
  match Instant.read? date stamp with
  | some hours => .ok hours
  | none => .error (.malformedInput ("bad solution timestamp '" ++ stamp ++ "'"))

/-- The stop of an activity, at its own times or at those of the tour's stop. -/
def stopOf (schedule : Schedule) (kind : StopKind) (a : Activity) : Except Fault Stop := do
  let shipment ← jobs.resolve p a.jobId
  let times := a.time.getD schedule
  let arrival ← hour date times.arrival
  let departure ← hour date times.departure
  return ⟨kind, shipment.reference, shipment.weight, arrival, departure⟩

/-- The pickups and deliveries among some activities. -/
def stopsOf (schedule : Schedule) : List Activity → Except Fault (List Stop)
  | [] => .ok []
  | a :: rest =>
    match stopKind? a.kind with
    | none => stopsOf schedule rest
    | some kind => do
      let stop ← stopOf p jobs date schedule kind a
      let stops ← stopsOf schedule rest
      return stop :: stops

/-- The route of a tour. It starts when its first stop is left and ends when its last is reached; a
tour without stops stays at the earliest start of its vehicle. -/
def routeOf (t : Tour) : Except Fault Route := do
  let vehicle ←
    match p.vehicle? t.vehicleId with
    | some v => Except.ok v
    | none => .error (.malformedInput ("unknown vehicle '" ++ t.vehicleId ++ "' in solution"))
  let stops ← t.stops.mapM fun s => stopsOf p jobs date s.schedule s.activities
  let start ←
    match t.stops.head? with
    | some s => hour date s.schedule.departure
    | none => .ok vehicle.earliestStart
  let finish ←
    match t.stops.getLast? with
    | some s => hour date s.schedule.arrival
    | none => .ok start
  return ⟨vehicle.id, vehicle.fleet, stops.flatten, start, finish⟩

/-- The solution that a document describes. -/
def toSolution (d : SolutionDocument) : Except Fault Solution := do
  let routes ← d.tours.mapM (routeOf p jobs date)
  let unassigned ← d.unassigned.mapM fun u => do return (← jobs.resolve p u.jobId).reference
  return ⟨.ofFloat d.cost, routes, unassigned⟩

/-- What is noted of the jobs left, up to the first that is unknown. -/
def unassignedEntries : List UnassignedJob → List Entry
  | [] => []
  | u :: rest =>
    match jobs.resolve p u.jobId with
    | .error _ => []
    | .ok s => ⟨.warn, "Unassigned " ++ s.reference.text ++ ": " ++ reasonsText u.reasons⟩ ::
      unassignedEntries rest

/-- What is noted while a document is taken back. -/
def solutionEntries (d : SolutionDocument) : List Entry :=
  if (d.tours.mapM (routeOf p jobs date)).isOk then unassignedEntries p jobs d.unassigned else []

end Document
end HubDispatch
