import HubDispatch.Document.Problem

/-!
# Admission of a document

What a solver looks at before it searches. A load must be a signed integer of 32 bits. Then
everything is objected to at once, jobs first, then vehicles, then the travel matrices: windows and
shifts that end before they begin or whose years do not have four digits, handling that takes less
than no time, vehicle ids given twice, and matrices for another number of locations than are used.
At last there must be a vehicle.
-/

namespace HubDispatch
namespace Document

/-- What a solver objects to, with the ids it concerns. -/
inductive Objection where
  | jobWindows (jobs : List String)
  | handlingTimes (jobs : List String)
  | vehicleIds (vehicles : List String)
  | shiftTimes (types : List String)
  /-- The last location used, and the number of locations that the matrices are for. -/
  | matrixSize (last size : Nat)
  deriving DecidableEq, Repr

namespace Objection

open Decimal (wholeText)

def code : Objection → String
  | .jobWindows _ => "E1103"
  | .handlingTimes _ => "E1106"
  | .vehicleIds _ => "E1301"
  | .shiftTimes _ => "E1302"
  | .matrixSize .. => "E1504"

/-- What is wrong. -/
def trouble : Objection → String
  | .jobWindows _ => "invalid time windows in jobs"
  | .handlingTimes _ => "job has negative duration"
  | .vehicleIds _ => "duplicated vehicle ids"
  | .shiftTimes _ => "invalid start or end times in vehicle shift"
  | .matrixSize .. => "amount of locations does not match matrix dimension"

/-- Ids with commas between. -/
def listed (ids : List String) : String := String.intercalate ", " ids

/-- What to do about it. -/
def advice : Objection → String
  | .jobWindows jobs => "fix time windows in jobs with ids: '" ++ listed jobs ++ "'"
  | .handlingTimes jobs => "fix negative duration in jobs with ids: '" ++ listed jobs ++ "'"
  | .vehicleIds vehicles => "remove duplicated vehicle ids: " ++ listed vehicles
  | .shiftTimes types =>
    "ensure that start and end time conform shift rules, vehicle type ids: '" ++ listed types ++ "'"
  | .matrixSize last size =>
    "check matrix size: max location index '" ++ wholeText last ++
      "' + 1 should be equal to matrix size ('" ++ wholeText size ++ "')"

def message (o : Objection) : String :=
  o.code ++ ", cause: '" ++ o.trouble ++ "', action: '" ++ o.advice ++ "'."

end Objection

/-- The year has four digits: any other is written with a sign. -/
def Timestamp.hasPlainYear (t : Timestamp) : Bool :=
  match t.text.toList with
  | c :: _ => c.isDigit
  | [] => false

/-- Both times can be read, and the second is not before the first. -/
def isSpan (first last : Timestamp) : Bool :=
  first.hasPlainYear && last.hasPlainYear && decide (first.seconds ≤ last.seconds)

/-- Both ends of a job. -/
def Job.tasks (j : Job) : List Task := [j.pickup, j.delivery]

/-- A shift without an end is only its start. -/
def VehicleType.hasSpan (t : VehicleType) : Bool :=
  isSpan t.start.time ((t.finish.map (·.time)).getD t.start.time)

/-- The items that occur more than once, each once, in ascending order. -/
def repeated (items : List String) : List String :=
  let sorted := items.mergeSort fun a b => decide (a ≤ b)
  ((sorted.zip sorted.tail).filterMap fun (a, b) => if a = b then some a else none).eraseReps

namespace ProblemDocument

variable (d : ProblemDocument)

/-- The locations that jobs and vehicles use. -/
def locations : List Nat :=
  d.jobs.flatMap (fun j => j.tasks.map (·.location)) ++
    d.vehicleTypes.flatMap fun t => t.start.location :: (t.finish.map (·.location)).toList

/-- The number of locations that matrices for the document must have. -/
def span : Nat := (d.locations.map (· + 1)).foldl max 0

/-- The ids of the jobs with a task of some kind. -/
def jobsWith (p : Task → Bool) : List String := (d.jobs.filter (·.tasks.any p)).map (·.id)

/-- All that there is to object to in a document with matrices of some size. -/
def objections (size : Nat) : List Objection :=
  let windows := d.jobsWith fun t => !isSpan t.earliest t.latest
  let handling := d.jobsWith fun t => decide (t.duration < 0)
  let vehicles := repeated (d.vehicleTypes.flatMap (·.vehicleIds))
  let shifts := (d.vehicleTypes.filter fun t => !t.hasSpan).map (·.typeId)
  (if windows.isEmpty then [] else [.jobWindows windows]) ++
    (if handling.isEmpty then [] else [.handlingTimes handling]) ++
    (if vehicles.isEmpty then [] else [.vehicleIds vehicles]) ++
    (if shifts.isEmpty then [] else [.shiftTimes shifts]) ++
    (if d.span = size then [] else [.matrixSize (d.span - 1) size])

/-- The largest load that a solver knows. -/
def largestLoad : Nat := 2 ^ 31 - 1

/-- The first load that is too large. -/
def overload? : Option Nat := (d.jobs.map (·.delivery.demand)).find? (largestLoad < ·)

/-- Whether the document can be searched with matrices of some size. -/
def examine (size : Nat) : Except Failure Unit := do
  if let some load := d.overload? then
    throw ⟨["Failed to deserialize pragmatic problem"], .other
      ("invalid value: integer \x60" ++ Decimal.wholeText load ++ "\x60, expected i32")⟩
  let objections := d.objections size
  if !objections.isEmpty then
    throw ⟨["Failed to build core problem from pragmatic format"],
      .other (String.intercalate "\n" (objections.map (·.message)))⟩
  if d.vehicleTypes.isEmpty then throw ⟨[], .noVehicle⟩

end ProblemDocument
end Document
end HubDispatch
