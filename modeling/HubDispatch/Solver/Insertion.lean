import HubDispatch.Solver.Trip

/-!
# Cheapest insertion

Jobs are taken one after the other. Each goes where it costs least: into the trip of a vehicle
already used if there is a possible place, and else to a fresh vehicle. A job without a possible
place is left. Of equally cheap places the first counts.
-/

namespace HubDispatch
namespace Solver

open Document (Job VehicleType ProblemDocument)

/-- A vehicle in use. -/
structure Trip where
  vehicleType : VehicleType
  vehicleId : String
  visits : List Visit

/-- Trips, vehicles still at home, and jobs left. -/
structure Dispatch where
  trips : List Trip
  idle : List (VehicleType × List String)
  left : List Job

/-- All ways to put an item into a list, with what stands behind it. -/
def splits : List α → List (List α × List α)
  | [] => [([], [])]
  | x :: xs => ([], x :: xs) :: (splits xs).map fun (before, after) => (x :: before, after)

/-- The visits with a job added, its pickup before its delivery. -/
def insertions (j : Job) (visits : List Visit) : List (List Visit) :=
  (splits visits).flatMap fun (before, after) =>
    (splits after).map fun (between, behind) =>
      before ++ pickupOf j :: between ++ deliveryOf j :: behind

/-- The cheapest of some options, the first of equally cheap ones. -/
def cheapestOf (cost : α → Float) : List α → Option α
  | [] => none
  | x :: xs =>
    match cheapestOf cost xs with
    | none => some x
    | some y => if cost y < cost x then some y else some x

variable (roads : Roads)

/-- The ways to add a job to a trip: what it costs more, and the trip then. -/
def additions (j : Job) (t : Trip) : List (Float × Trip) :=
  let before := tripCost roads t.vehicleType t.visits
  ((insertions j t.visits).filter (isPossible roads t.vehicleType)).map fun visits =>
    (tripCost roads t.vehicleType visits - before, { t with visits })

/-- A job added to a vehicle in use. -/
def addToUsed (j : Job) (d : Dispatch) : Option Dispatch :=
  let options := d.trips.zipIdx.flatMap fun (t, i) => (additions roads j t).map fun o => (i, o)
  (cheapestOf (·.2.1) options).map fun (i, _, trip) => { d with trips := d.trips.set i trip }

/-- A job given to a vehicle that was still at home. -/
def addToIdle (j : Job) (d : Dispatch) : Option Dispatch :=
  let options := d.idle.zipIdx.flatMap fun ((vehicleType, ids), i) =>
    match ids with
    | [] => []
    | id :: rest => (additions roads j ⟨vehicleType, id, []⟩).map fun o => (i, rest, o)
  (cheapestOf (·.2.2.1) options).map fun (i, rest, _, trip) =>
    { d with
      trips := d.trips ++ [trip]
      idle := d.idle.modify i fun (vehicleType, _) => (vehicleType, rest) }

/-- One job more. -/
def place (d : Dispatch) (j : Job) : Dispatch :=
  match addToUsed roads j d with
  | some d => d
  | none =>
    match addToIdle roads j d with
    | some d => d
    | none => { d with left := d.left ++ [j] }

/-- All jobs of a document. -/
def dispatch (document : ProblemDocument) : Dispatch :=
  document.jobs.foldl (place roads)
    ⟨[], document.vehicleTypes.map fun t => (t, t.vehicleIds), []⟩

end Solver
end HubDispatch
