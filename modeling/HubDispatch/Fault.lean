import HubDispatch.Delimited.Columns

/-!
# Faults and failures

A `Fault` is what is wrong with the network or a plan. A `Failure` is why a piece of work was given
up: a cause, which need not be a fault of planning, and the contexts put around it, outermost first.
-/

namespace HubDispatch

/-- The opaque code of a hub or branch. -/
abbrev LocationCode := String

/-- What is wrong with the network, with a shipment or with a plan. -/
inductive Fault where
  | missingDemand (origin destination : LocationCode)
  | missingCoordinate (location : LocationCode)
  | missingTravelData (origin destination : LocationCode)
  | unknownLocation (location : LocationCode)
  | malformedInput (reason : String)
  | invalidShipmentRef (text : String)
  | noSolution
  /-- A position of a demand matrix that is no position of the cluster. -/
  | outsideCluster (index : Nat)
  deriving DecidableEq, Repr

def Fault.message : Fault → String
  | .missingDemand origin destination =>
    "no demand recorded for " ++ origin ++ " -> " ++ destination
  | .missingCoordinate location => "location '" ++ location ++ "' has no coordinates"
  | .missingTravelData origin destination =>
    "no travel data for " ++ origin ++ " -> " ++ destination
  | .unknownLocation location => "unknown location '" ++ location ++ "'"
  | .malformedInput reason => "malformed input: " ++ reason
  | .invalidShipmentRef text => "invalid shipment reference '" ++ text ++ "'"
  | .noSolution => "optimizer returned no solution"
  | .outsideCluster index => "position " ++ Decimal.wholeText index ++ " lies outside the cluster"

/-- What made a piece of work impossible. -/
inductive Cause where
  | planning (fault : Fault)
  | table (fault : Delimited.Fault)
  /-- A time outside the calendar. -/
  | beyondCalendar
  /-- No vehicle to plan with. -/
  | noVehicle
  | other (reason : String)
  deriving DecidableEq, Repr

def Cause.message : Cause → String
  | .planning fault => fault.message
  | .table fault => fault.message
  | .beyondCalendar => "time outside the calendar"
  | .noVehicle => "no vehicle to plan with"
  | .other reason => reason

/-- Why a piece of work was given up. -/
structure Failure where
  contexts : List String
  cause : Cause
  deriving DecidableEq, Repr

namespace Failure

/-- A fault of planning without context. -/
def ofFault (fault : Fault) : Failure := ⟨[], .planning fault⟩

/-- A reason that is no fault of planning. -/
def because (reason : String) : Failure := ⟨[], .other reason⟩

/-- The same failure seen from further out. -/
def within (context : String) (f : Failure) : Failure :=
  { f with contexts := context :: f.contexts }

/-- Contexts and cause, outermost first. -/
def chain (f : Failure) : List String := f.contexts ++ [f.cause.message]

/-- Contexts and cause in one line. -/
def oneLine (f : Failure) : String := String.intercalate ": " f.chain

/-- A text whose later lines stand under its first. -/
def hanging (indent : Nat) (s : String) : String :=
  String.intercalate ("\n" ++ Text.padLeft indent "") (s.splitOn "\n")

/-- A cause under its number, or alone. -/
def causeLine : Option Nat → String → String
  | some n, cause => Text.padLeft 5 (Decimal.wholeText n) ++ ": " ++ hanging 7 cause ++ "\n"
  | none, cause => "    " ++ hanging 4 cause ++ "\n"

/-- What stands under the outermost text; several causes are numbered. -/
def causeLines : List String → String
  | [] => ""
  | [cause] => "\nCaused by:\n" ++ causeLine none cause
  | causes =>
    "\nCaused by:\n" ++ String.join (causes.zipIdx.map fun (cause, n) => causeLine (some n) cause)

/-- The report for a terminal: the outermost text, and what caused it. -/
def report (f : Failure) : String :=
  "Error: " ++ f.chain.headD "" ++ "\n" ++ causeLines f.chain.tail

end Failure

/-- An outcome whose fault is a failure without context. -/
def planned (x : Except Fault α) : Except Failure α := x.mapError Failure.ofFault

/-- An outcome whose fault of a table is a failure without context. -/
def tabled (x : Except Delimited.Fault α) : Except Failure α := x.mapError fun f => ⟨[], .table f⟩

/-- An outcome with a context around its failure. -/
def within (context : String) (x : Except Failure α) : Except Failure α :=
  x.mapError (Failure.within context)

end HubDispatch
