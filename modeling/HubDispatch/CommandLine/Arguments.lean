import HubDispatch.Solver.Planner

/-!
# Arguments of the command line

Without a command the program plans. `plan` and `inspect` take their options in any order, as
`--name value` or `--name=value`, each at most once. A value cannot look like an option, except for
the lone hyphen.

An option is settled when the next one begins or the arguments end: only then is its value looked
at. So an unknown argument behind a bad value is what is reported.
-/

namespace HubDispatch

/-- How thoroughly to search. -/
inductive Preset where
  | instant
  | fast
  | standard
  | quality
  deriving DecidableEq, Repr

namespace Preset

def name : Preset → String
  | .instant => "instant"
  | .fast => "fast"
  | .standard => "default"
  | .quality => "quality"

def all : List Preset := [.instant, .fast, .standard, .quality]

def settings : Preset → SolverSettings
  | .instant => .instant
  | .fast => .fast
  | .standard => .standard
  | .quality => .quality

end Preset

/-- What the program is asked to do. -/
inductive Command where
  | plan (cluster : Option String) (solver : Option Preset) (outputDirectory : Option String)
  | inspect (cluster : Option String)
  deriving DecidableEq, Repr

namespace Arguments

/-- What help is about. -/
inductive Topic where
  | program
  | plan
  | inspect
  | help
  deriving DecidableEq, Repr

/-- Why the arguments are no command. -/
inductive Refusal where
  | invalidValue
  | unknownArgument
  | invalidSubcommand
  | argumentConflict
  | tooManyValues
  /-- Help was asked for. -/
  | displayHelp (topic : Topic)
  deriving DecidableEq, Repr

/-- The options of the commands. -/
inductive Flag where
  | cluster
  | solver
  | outputDirectory
  deriving DecidableEq, Repr

def Flag.name : Flag → String
  | .cluster => "cluster"
  | .solver => "solver"
  | .outputDirectory => "output-dir"

/-- A command with options. -/
structure Form where
  topic : Topic
  flags : List Flag

def planForm : Form := ⟨.plan, [.cluster, .solver, .outputDirectory]⟩

def inspectForm : Form := ⟨.inspect, [.cluster]⟩

/-- The options read so far. -/
structure Reading where
  values : List (Flag × String)
  /-- The option that is not settled yet, and its value if there is one. -/
  pending : Option (Flag × Option String)
  /-- Two hyphens have come: nothing after them is an option. -/
  onlyValues : Bool

/-- Whether a value can be given to an option. -/
def accepts (flag : Flag) (value : String) : Bool :=
  match flag with
  | .cluster => true
  | .solver => Preset.all.any (·.name == value)
  | .outputDirectory => !value.isEmpty

/-- The pending option settled. -/
def settle (r : Reading) : Except Refusal Reading :=
  match r.pending with
  | none => .ok r
  | some (_, none) => .error .invalidValue
  | some (flag, some value) =>
    if (r.values.lookup flag).isSome then .error .argumentConflict
    else if accepts flag value then
      .ok { r with values := r.values ++ [(flag, value)], pending := none }
    else .error .invalidValue

/-- Help takes no value; the option before it is settled first. -/
def help (form : Form) (attached : Option String) (r : Reading) : Except Refusal Reading := do
  if attached.isSome then throw .tooManyValues
  let _ ← settle r
  throw (.displayHelp form.topic)

/-- An option by its long name, with a value if one is attached. -/
def longOption (form : Form) (name : String) (attached : Option String) (r : Reading) :
    Except Refusal Reading :=
  if name = "help" then help form attached r
  else
    match form.flags.find? (·.name == name) with
    | none => .error .unknownArgument
    | some flag => do
      let r ← settle r
      let r := { r with pending := some (flag, attached) }
      if attached.isSome then settle r else return r

/-- The name of a long option and the value attached to it. -/
def splitLong (cs : List Char) : String × Option String :=
  match Text.splitOnce ['='] cs with
  | some (name, value) => (String.ofList name, some (String.ofList value))
  | none => (String.ofList cs, none)

/-- One argument of a command more. -/
def step (form : Form) (r : Reading) (argument : String) : Except Refusal Reading :=
  if r.onlyValues then .error .unknownArgument
  else
    match argument.toList with
    | ['-', '-'] => .ok { r with onlyValues := true }
    | '-' :: '-' :: name =>
      let (name, attached) := splitLong name
      longOption form name attached r
    | '-' :: letter :: _ =>
      if letter = 'h' then help form none r else .error .unknownArgument
    | _ =>
      match r.pending with
      | some (flag, none) => .ok { r with pending := some (flag, some argument) }
      | _ => .error .unknownArgument

/-- The options of a command. -/
def readForm (form : Form) (arguments : List String) : Except Refusal Reading := do
  settle (← arguments.foldlM (step form) ⟨[], none, false⟩)

/-- The preset of a name. -/
def preset? (name : String) : Option Preset := Preset.all.find? (·.name == name)

def readPlan (arguments : List String) : Except Refusal Command := do
  let r ← readForm planForm arguments
  return .plan (r.values.lookup .cluster) ((r.values.lookup .solver).bind preset?)
    (r.values.lookup .outputDirectory)

def readInspect (arguments : List String) : Except Refusal Command := do
  let r ← readForm inspectForm arguments
  return .inspect (r.values.lookup .cluster)

/-- What help is asked for behind the command `help`. -/
def readHelp : List String → Refusal
  | [] => .displayHelp .program
  | ["plan"] => .displayHelp .plan
  | ["inspect"] => .displayHelp .inspect
  | ["help"] => .displayHelp .help
  | _ => .invalidSubcommand

/-- Behind two hyphens even a command is no command. -/
def readValues : List String → Except Refusal (Option Command)
  | [] => .ok none
  | name :: _ =>
    if ["plan", "inspect", "help"].contains name then .error .unknownArgument
    else .error .invalidSubcommand

/-- The command that the arguments spell; none without arguments. -/
def read : List String → Except Refusal (Option Command)
  | [] => .ok none
  | "plan" :: rest => some <$> readPlan rest
  | "inspect" :: rest => some <$> readInspect rest
  | "help" :: rest => .error (readHelp rest)
  | "--" :: rest => readValues rest
  | argument :: _ =>
    match argument.toList with
    | '-' :: '-' :: name =>
      let (name, attached) := splitLong name
      if name = "help" then
        .error (if attached.isSome then .tooManyValues else .displayHelp .program)
      else .error .unknownArgument
    | '-' :: letter :: _ =>
      .error (if letter = 'h' then .displayHelp .program else .unknownArgument)
    | _ => .error .invalidSubcommand

end Arguments
end HubDispatch
