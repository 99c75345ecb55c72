import HubDispatch.CommandLine.Arguments

/-!
# Help

What the program says of itself and of its commands.
-/

namespace HubDispatch
namespace Arguments

def programHelp : List String := [
  "Regional hub dispatch planner",
  "",
  "Usage: regional-dispatch [COMMAND]",
  "",
  "Commands:",
  "  plan     Sweep dispatch times and write per-cluster reports (default if no subcommand given)",
  "  inspect  Print clusters, demand and windows without solving",
  "  help     Print this message or the help of the given subcommand(s)",
  "",
  "Options:",
  "  -h, --help  Print help"]

def planHelp : List String := [
  "Sweep dispatch times and write per-cluster reports (default if no subcommand given)",
  "",
  "Usage: regional-dispatch plan [OPTIONS]",
  "",
  "Options:",
  "      --cluster <CLUSTER>        Only plan the cluster headed by this hub",
  "      --solver <SOLVER>          Solver effort preset [possible values: instant, fast, default, quality]",
  "      --output-dir <OUTPUT_DIR>  Override OUTPUT_DIR",
  "  -h, --help                     Print help"]

def inspectHelp : List String := [
  "Print clusters, demand and windows without solving",
  "",
  "Usage: regional-dispatch inspect [OPTIONS]",
  "",
  "Options:",
  "      --cluster <CLUSTER>  Only inspect the cluster headed by this hub",
  "  -h, --help               Print help"]

def helpHelp : List String := [
  "Print this message or the help of the given subcommand(s)",
  "",
  "Usage: regional-dispatch help [COMMAND]...",
  "",
  "Arguments:",
  "  [COMMAND]...  Print help for the subcommand(s)"]

/-- The help on a topic. -/
def Topic.text (t : Topic) : String :=
  let lines :=
    match t with
    | .program => programHelp
    | .plan => planHelp
    | .inspect => inspectHelp
    | .help => helpHelp
  String.join (lines.map (· ++ "\n"))

end Arguments
end HubDispatch
