import HubDispatch.Calendar.Reading
import HubDispatch.Solver.Planner
import HubDispatch.Sweep.Settings

/-!
# Settings of the program

What the program is told through its variables: where its tables are and where its reports go, the
fleet, the planning day, and how hard to search. Every variable but the three tables has a default.
The first variable in the order below that cannot be used is reported.
-/

namespace HubDispatch

structure Settings where
  salesPlanTable : String
  locationTable : String
  travelTable : String
  outputDirectory : String
  /-- Freight of a branch without planned volume, in kilograms. -/
  minimumWeight : Float
  /-- For travel rows without a time, in kilometres per hour. -/
  averageSpeed : Float
  vehiclesPerType : Nat
  fleet : List FleetType
  /-- The day whose midnight is hour zero; without one, today. -/
  planningDate : Option Date
  solver : SolverSettings

namespace Settings

/-- The value of a variable, if it is set. -/
abbrev Variables := String → Option String

variable (get : Variables)

/-- A variable that must be set. -/
def required (name : String) : Except Failure String :=
  match get name with
  | some value => .ok value
  | none => .error (.because (name ++ " must be set"))

/-- A number in a variable, without the blanks around it. -/
def number (read : List Char → Except Decimal.ReadFault α) (name : String) (default : α) :
    Except Failure α :=
  match get name with
  | none => .ok default
  | some value =>
    match read (Text.trimChars value.toList) with
    | .ok n => .ok n
    | .error fault =>
      .error (.because (name ++ " has invalid value '" ++ value ++ "': " ++ fault.message))

/-- The items between commas, apart from blank ones. -/
def fleetItems (value : String) : List String :=
  ((value.toList.splitOn ',').map String.ofList).filter fun item =>
    !(Text.trimChars item.toList).isEmpty

/-- The fleet types that the items of a list spell, of which there must be one. -/
def readFleet (value : String) : Except Failure (List FleetType) := do
  let fleet ← (fleetItems value).mapM fun item =>
    (FleetType.ofText item).mapError fun fault => Failure.because ("FLEET_TYPES: " ++ fault)
  if fleet.isEmpty then throw (.because "FLEET_TYPES must name at least one fleet type")
  return fleet

/-- The planning day in a variable. -/
def readDate (value : String) : Except Failure Date :=
  match Date.read (Text.trimChars value.toList) with
  | .ok date => .ok date
  | .error fault =>
    .error ⟨["PLANNING_DATE must be YYYY-MM-DD, got '" ++ value ++ "'"], .other fault.message⟩

/-- What no number excludes by itself: a speed that is not above zero, and an empty fleet. -/
def check (s : Settings) : Except Failure Settings :=
  if s.averageSpeed ≤ 0.0 then
    .error (.because ("AVG_SPEED_KMPH must be positive (current: " ++
      Decimal.shortestText s.averageSpeed ++ ")"))
  else if s.vehiclesPerType = 0 then .error (.because "VEHICLES_PER_TYPE must be at least 1")
  else .ok s

/-- The settings that some variables give. -/
def ofVariables : Except Failure Settings := do
  let salesPlanTable ← required get "SALES_PLAN_CSV"
  let locationTable ← required get "LOCATIONS_CSV"
  let travelTable ← required get "TATS_CSV"
  let outputDirectory := (get "OUTPUT_DIR").getD "output"
  let fleet ←
    match get "FLEET_TYPES" with
    | some value => readFleet value
    | none => .ok FleetType.standard
  let planningDate ← (get "PLANNING_DATE").mapM readDate
  let seconds ← number get (Decimal.readCount Binary64.count32Max) "SOLVER_MAX_TIME_SECONDS"
    SolverSettings.standard.maxTimeSeconds
  let generations ← number get (Decimal.readCount Binary64.count64Max) "SOLVER_MAX_GENERATIONS"
    SolverSettings.standard.maxGenerations
  let minimumWeight ← number get Decimal.readFloat "MIN_WEIGHT_KG" 100.0
  let averageSpeed ← number get Decimal.readFloat "AVG_SPEED_KMPH" 30.0
  let vehiclesPerType ← number get (Decimal.readCount Binary64.count64Max) "VEHICLES_PER_TYPE"
    SweepSettings.standard.vehiclesPerType
  check {
    salesPlanTable, locationTable, travelTable, outputDirectory, minimumWeight, averageSpeed,
    vehiclesPerType, fleet, planningDate, solver := ⟨seconds, generations⟩ }

/-- The settings of every sweep. -/
def sweep (s : Settings) : SweepSettings :=
  { SweepSettings.standard with fleet := s.fleet, vehiclesPerType := s.vehiclesPerType }

end Settings
end HubDispatch
