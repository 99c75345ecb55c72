import HubDispatch.CommandLine.Program
import Std.Time.DateTime.Timestamp

/-!
# The program in its surroundings

Files are those of the system, the variables those it sets, and today is the day of its clock.
-/

namespace HubDispatch

/-- What the system says of a failed operation. -/
def troubleOf (e : IO.Error) : String :=
  match e with
  | .noFileOrDirectory .. => FileTrouble.noSuchFile.message
  | .alreadyExists .. => FileTrouble.fileExists.message
  | .inappropriateType .. => FileTrouble.isADirectory.message
  | e => toString e

/-- An operation whose failure is a reason. -/
def attempt (operation : IO α) : IO (Except String α) := do
  try return .ok (← operation)
  catch e => return .error (troubleOf e)

instance : Storage IO where
  read name := do
    match ← attempt (IO.FS.readBinFile name) with
    | .ok bytes => return .ok bytes.data.toList
    | .error reason => return .error (.cannotOpen reason)
  makeDirectory name := attempt (if name.isEmpty then pure () else IO.FS.createDirAll name)
  create name := attempt (IO.FS.writeBinFile name .empty)
  append name bytes :=
    IO.FS.withFile name .append fun handle => handle.write ⟨bytes.toArray⟩

/-- The names that the program looks up. -/
def variableNames : List String := [
  "SALES_PLAN_CSV", "LOCATIONS_CSV", "TATS_CSV", "OUTPUT_DIR", "FLEET_TYPES", "PLANNING_DATE",
  "SOLVER_MAX_TIME_SECONDS", "SOLVER_MAX_GENERATIONS", "MIN_WEIGHT_KG", "AVG_SPEED_KMPH",
  "VEHICLES_PER_TYPE", "LOGS_DIR"]

/-- Those of them that are set. -/
def systemVariables : IO EnvironmentFile.Environment :=
  variableNames.filterMapM fun name => do return (← IO.getEnv name).map fun value => (name, value)

/-- The day of the clock, in universal time. -/
def currentDay : IO Date := do
  let now ← Std.Time.Timestamp.now
  return Date.ofDays (now.toSecondsSinceUnixEpoch.val / Instant.secondsPerDay)

end HubDispatch

/-- A run of the program on the files and variables of the system. -/
def main (arguments : List String) : IO UInt32 := do
  let finish ←
    HubDispatch.Program.run (← HubDispatch.systemVariables) (← HubDispatch.currentDay) arguments
  IO.print finish.output
  IO.eprint finish.errors
  return finish.code.toUInt32
