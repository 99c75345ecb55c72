import HubDispatch.Document.Admission
import HubDispatch.Routing.Solution
import HubDispatch.Solver.Insertion

/-!
# The planning optimizer

Hands a problem over as a document, dispatches its jobs, and takes the answer back as a document. A
problem without shipments needs no search, and a search without a generation or without a second
finds nothing.
-/

namespace HubDispatch

/-- How long a search may take. -/
structure SolverSettings where
  maxTimeSeconds : Nat
  maxGenerations : Nat
  deriving DecidableEq, Repr

namespace SolverSettings

def standard : SolverSettings := ⟨30, 3000⟩

/-- For smoke runs over large networks. -/
def instant : SolverSettings := ⟨2, 200⟩

/-- For interactive use. -/
def fast : SolverSettings := ⟨5, 500⟩

/-- For runs over night. -/
def quality : SolverSettings := ⟨60, 10000⟩

end SolverSettings

namespace Solver

open Document (Activity Schedule SolutionDocument TourStop Timestamp VehicleType)

/-- Something done at a position, from one second to another. -/
structure Doing where
  position : Nat
  jobId : String
  kind : String
  arrival : Int
  begins : Int
  ends : Int

/-- What a vehicle does from leaving home to its return. -/
def doings (roads : Roads) (t : Trip) : List Doing :=
  let v := t.vehicleType
  let start := departureOf roads v t.visits
  let made := drive roads v.start.location start t.visits
  let leave : Doing := ⟨v.start.location, "departure", "departure", start, start, start⟩
  let visits := made.map fun m =>
    { position := m.visit.task.location
      jobId := m.visit.jobId
      kind := match m.visit.kind with | .pickup => "pickup" | .delivery => "delivery"
      arrival := m.arrival
      begins := m.arrival + m.waiting
      ends := m.departure : Doing }
  let back :=
    match v.finish, homeAt roads v start made with
    | some finish, some time => [⟨finish.location, "arrival", "arrival", time, time, time⟩]
    | _, _ => []
  leave :: visits ++ back

/-- Doings at one position without a drive between them, put together. -/
def together : List Doing → List (List Doing)
  | [] => []
  | d :: rest =>
    match together rest with
    | (e :: es) :: groups =>
      if d.position = e.position then (d :: e :: es) :: groups else [d] :: (e :: es) :: groups
    | groups => [d] :: groups

variable (date : Date)

/-- A second of the planning day as a timestamp. -/
def stamp (second : Int) : Except Failure String :=
  match Instant.formatSeconds date second with
  | some text => .ok (String.ofList text)
  | none => .error ⟨[], .beyondCalendar⟩

/-- A doing as an activity; only where there are several it has times of its own. -/
def activityOf (alone : Bool) (d : Doing) : Except Failure Activity := do
  if alone then return ⟨d.jobId, d.kind, none⟩
  else return ⟨d.jobId, d.kind, some ⟨← stamp date d.begins, ← stamp date d.ends⟩⟩

/-- A stop of a tour. -/
def stopOf (first : Doing) (rest : List Doing) : Except Failure TourStop := do
  let arrival ← stamp date first.arrival
  let departure ← stamp date (rest.getLast?.getD first).ends
  return ⟨⟨arrival, departure⟩, ← (first :: rest).mapM (activityOf date rest.isEmpty)⟩

/-- A tour of a document. -/
def tourOf (roads : Roads) (t : Trip) : Except Failure Document.Tour := do
  let stops ← (together (doings roads t)).mapM fun group =>
    match group with
    | [] => pure none
    | first :: rest => some <$> stopOf date first rest
  return ⟨t.vehicleId, stops.filterMap id⟩

/-- The document of a dispatch. -/
def documentOf (roads : Roads) (d : Dispatch) : Except Failure SolutionDocument := do
  let tours ← d.trips.mapM (tourOf date roads)
  return {
    cost := (d.trips.map fun t => tripCost roads t.vehicleType t.visits).foldl (· + ·) 0.0
    tours
    unassigned := d.left.map fun j => ⟨j.id, []⟩ }

/-- The answer of the planning optimizer. -/
def solve (settings : SolverSettings) (p : Problem) : Except Failure (List Solution) := do
  if p.isEmpty then return [Solution.empty]
  let jobs ← planned (JobTable.ofProblem p)
  let document ← Document.ofProblem p date
  document.examine p.matrices.size
  if settings.maxGenerations = 0 ∨ settings.maxTimeSeconds = 0 then
    throw ⟨["Failed to solve VRP with vrp-pragmatic"], .other "cannot find any solution"⟩
  let roads := Roads.ofMatrices p.matrices
  let answer ← documentOf date roads (dispatch roads document)
  return [← planned (Document.toSolution p jobs date answer)]

/-- What is noted while a problem is answered. -/
def solveEntries (p : Problem) : List Entry :=
  if p.isEmpty then [⟨.debug, "No shipments to optimize, returning empty solution"⟩]
  else if (JobTable.ofProblem p).isOk then Document.entries p date
  else []

/-- The optimizer that plans for a day. It remembers nothing. -/
def planner (σ : Type) (settings : SolverSettings) : Optimizer σ where
  name := "vrp-pragmatic"
  solve p s := (⟨solveEntries date p, solve date settings p⟩, s)

end Solver
end HubDispatch
