import HubDispatch.Travel.Table

/-!
# Distance and time matrices

Whole metres and whole seconds between any two of a list of locations, in the order of the list.
Halves go away from zero, and what no count of 64 bits holds goes to the nearer end of its range.
-/

namespace HubDispatch

/-- Metres and seconds by position; rows are origins. -/
structure Matrices where
  distances : List (List Nat)
  durations : List (List Nat)
  deriving DecidableEq, Repr

namespace Matrices

/-- No locations at all. -/
def empty : Matrices := ⟨[], []⟩

def size (m : Matrices) : Nat := m.distances.length

def metres (kilometres : Float) : Nat := Binary64.toCount64 .halfAway (kilometres * 1000.0)

def seconds (hours : Float) : Nat := Binary64.toCount64 .halfAway (hours * 3600.0)

/-- Metres and seconds from one location to another; the distance is asked for first. -/
def cell (costs : CostProvider) (origin destination : Location) : Except Fault (Nat × Nat) := do
  let kilometres ← costs.distance origin destination
  let hours ← costs.duration origin destination
  return (metres kilometres, seconds hours)

/-- The cells of every ordered pair, row by row. -/
def cells (costs : CostProvider) (locations : List Location) :
    Except Fault (List (List (Nat × Nat))) :=
  locations.mapM fun origin => locations.mapM fun destination => cell costs origin destination

/-- The matrices of a list of locations. -/
def ofProvider (costs : CostProvider) (locations : List Location) : Except Fault Matrices := do
  let cells ← cells costs locations
  return ⟨cells.map (·.map (·.1)), cells.map (·.map (·.2))⟩

/-- A matrix row by row, each count as the signed integer with the same bits. -/
def flat (rows : List (List Nat)) : List Int := rows.flatten.map Binary64.wrapSigned

def flatDistances (m : Matrices) : List Int := flat m.distances

def flatDurations (m : Matrices) : List Int := flat m.durations

end Matrices
end HubDispatch
