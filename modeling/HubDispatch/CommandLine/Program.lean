import HubDispatch.CommandLine.EnvironmentFile
import HubDispatch.CommandLine.Help
import HubDispatch.CommandLine.Settings
import HubDispatch.CommandLine.Storage
import HubDispatch.Report.Basic
import HubDispatch.Sweep.Run

/-!
# The program

Reads the settings and the tables, and then either shows the clusters with their windows and demand,
or sweeps them and writes a report for each. A report exists from the moment its sweep begins, and
keeps what was written if the sweep fails.
-/

namespace HubDispatch
namespace Program

open Decimal (wholeText shortestText)

/-- How a run of the program ends. -/
structure Finish where
  code : Nat
  output : String
  errors : String

/-- What the program prints before it ends, and how it ends. -/
abbrev Printed (m : Type → Type) : Type → Type := ExceptT Failure (StateT String m)

variable {m : Type → Type} [Monad m]

def print (text : String) : Printed m Unit := modify (· ++ text)

/-- A file operation whose failure gets a context. -/
def required (context : String) (operation : m (Except String α)) : Printed m α := do
  match ← (operation : StateT String m (Except String α)) with
  | .ok x => return x
  | .error reason => throw ⟨[context], .other reason⟩

/-- A table of a file: its rows, from its bytes or from the reason why it cannot be read although it
is there. -/
def readTable [Storage m] (what path : String)
    (rows : Except String (List UInt8) → Except Failure α) : Printed m α := do
  let context := "Failed to read " ++ what ++ " " ++ path
  match ← (Storage.read path : m (Except ReadTrouble (List UInt8))) with
  | .error (.cannotOpen reason) => throw ⟨["Failed to open " ++ path], .other reason⟩
  | .error (.cannotRead reason) => within context (rows (.error reason))
  | .ok bytes => within context (rows (.ok bytes))

/-- The rows of a sales plan; one that cannot be read is a failure. -/
def salesRows (content : Except String (List UInt8)) : Except Failure (List (SalesRow Float)) := do
  (SalesRow.readTable (← content.mapError .because)).result

/-- The rows of a table with columns; one that cannot be read has none. -/
def rowsOf (read : List UInt8 → Delimited.Rows Delimited.Fault α)
    (content : Except String (List UInt8)) : Except Failure (List α) :=
  tabled (read (content.toOption.getD [])).result

/-- The network of the tables. -/
def readNetwork [Storage m] (s : Settings) : Printed m (Network Float) := do
  let rows ← readTable "sales plan" s.salesPlanTable salesRows
  let locations ← readTable "locations" s.locationTable (rowsOf Location.readTable)
  within "Failed to build network model" (planned (Network.ofRows rows locations s.minimumWeight))

/-- The clusters to look at: the one with the given hub, or all. -/
def selectClusters (network : Network Float) : Option String → Except Failure (List Cluster)
  | none => .ok network.clusters
  | some hub =>
    match network.cluster? hub with
    | some cluster => .ok [cluster]
    | none => .error (.because ("No cluster is headed by '" ++ hub ++ "'"))

/-- One line on a member. -/
def memberLine (member : LocationCode) (windows : MemberWindows) (demand : List Nat) : String :=
  "  " ++ Text.padRight 10 member ++ " pickup " ++ Text.padRight 10 windows.pickup.text ++
    " delivery " ++ Text.padRight 10 windows.delivery.text ++ " demand " ++
    Text.wholeList demand ++ "\n"

/-- What there is to say of a cluster. -/
def clusterText (bounds : TimeBounds) (cluster : Cluster) (windows : ClusterWindows)
    (demand : DemandMatrix) : String :=
  "Cluster " ++ cluster.hub ++ " (" ++ wholeText cluster.size ++ " members)\n" ++
    "Dispatch sweep: " ++ shortestText bounds.hubLower ++ "..=" ++
    shortestText windows.latestBranchCutoff ++ "\n" ++
    String.join ((cluster.members.zip (windows.members.zip demand.rows)).map
      fun (member, windows, demand) => memberLine member windows demand)

/-- The clusters shown. -/
def inspect [Storage m] (s : Settings) (hub : Option String) : Printed m Unit := do
  let network ← readNetwork s
  for cluster in ← selectClusters network hub do
    let demand ← planned (network.demand cluster)
    let cutoffs ← planned (network.cutoffs cluster)
    print (clusterText s.sweep.bounds cluster (.derive cluster cutoffs s.sweep.bounds) demand)

/-- The sweep of a cluster into a report, which also a failing sweep leaves behind. -/
def sweepInto [Storage m] (sweeper : Sweeper Report) (directory : String) (cluster : Cluster) :
    Printed m Unit := do
  let path := Report.path directory cluster.hub
  required ("Failed to create output directory " ++ directory) (Storage.makeDirectory directory)
  required ("Failed to create report " ++ path) (Storage.create path)
  let outcome := sweeper.sweep cluster (fun it r => r.add it) (.start cluster sweeper.network)
  (Storage.append path outcome.state.close.sunk : m Unit)
  within ("Sweep failed for cluster " ++ cluster.hub) outcome.result

/-- The clusters swept. -/
def plan [Storage m] (s : Settings) (today : Date) (hub : Option String) (preset : Option Preset)
    (directory : Option String) : Printed m Unit := do
  let network ← readNetwork s
  let rows ← readTable "travel times" s.travelTable (rowsOf TravelRow.readTable)
  let solver := (preset.map Preset.settings).getD s.solver
  let sweeper : Sweeper Report := {
    network
    costs := (TravelTable.ofRows rows s.averageSpeed).provider
    optimizer := Solver.planner (s.planningDate.getD today) Report solver
    settings := s.sweep }
  for cluster in ← selectClusters network hub do
    sweepInto sweeper (directory.getD s.outputDirectory) cluster

/-- The program under some variables. -/
def perform [Storage m] (get : Settings.Variables) (today : Date) (command : Command) :
    Printed m Unit := do
  let settings ← Settings.ofVariables get
  match command with
  | .plan hub preset directory => plan settings today hub preset directory
  | .inspect hub => inspect settings hub

/-- The variables of an environment and of the file `.env`, if there is one. -/
def environmentWith [Storage m] (environment : EnvironmentFile.Environment) :
    m EnvironmentFile.Environment := do
  match ← (Storage.read ".env" : m (Except ReadTrouble (List UInt8))) with
  | .error _ => return environment
  | .ok bytes => return EnvironmentFile.load environment ((Delimited.text? bytes).getD "")

/-- The directory for logs, which every run makes first. That it cannot be made is no failure. -/
def logDirectory (environment : EnvironmentFile.Environment) : String :=
  (environment.lookup "LOGS_DIR").getD "./logs"

/-- A run of the program. Help ends well, refused arguments with code 2, and a failure with code 1
and a report of it. -/
def run [Storage m] (environment : EnvironmentFile.Environment) (today : Date)
    (arguments : List String) : m Finish := do
  let _ ← (Storage.makeDirectory (logDirectory environment) : m (Except String Unit))
  match Arguments.read arguments with
  | .error (.displayHelp topic) => return ⟨0, topic.text, ""⟩
  | .error _ => return ⟨2, "", "error: the arguments are not understood\n"⟩
  | .ok command =>
    let environment ← environmentWith environment
    let action : Printed m Unit :=
      perform (fun name => List.lookup name environment) today (command.getD (.plan none none none))
    let (result, output) ← (action.run).run ""
    match result with
    | .ok () => return ⟨0, output, ""⟩
    | .error failure => return ⟨1, output, failure.report⟩

end Program
end HubDispatch
