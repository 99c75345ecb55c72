import HubDispatch.Network.Tables

/-!
# Travel between locations

A `CostProvider` answers for the distance and the time from one location to another, or says why it
cannot. The travel table is one: the last row recorded for a pair of ids decides, a row without a
time is driven at average speed, and only a location to itself needs no row. Nothing is ever
estimated from coordinates, but a location without them is not travelled to.
-/

namespace HubDispatch

/-- Distances in kilometres and times in hours between locations. -/
structure CostProvider where
  name : String
  distance : (origin destination : Location) → Except Fault Float
  duration : (origin destination : Location) → Except Fault Float

/-- Distance and time of one pair. -/
structure Leg where
  kilometres : Float
  hours : Float

/-- Legs by the ids of their ends. -/
structure TravelTable where
  legs : List ((Int × Int) × Leg)

namespace TravelTable

/-- The leg of a row: its own time, or its distance at average speed. -/
def legOf (speed : Float) (row : TravelRow) : Leg where
  kilometres := row.kilometres
  hours :=
    match row.millis with
    | some ms => Float.ofInt ms / Float.ofInt millisPerHour
    | none => row.kilometres / speed

/-- The table of some rows. -/
def ofRows (rows : List TravelRow) (speed : Float) : TravelTable :=
  ⟨rows.map fun row => ((row.origin, row.destination), legOf speed row)⟩

/-- The last leg recorded for a pair of ids. -/
def leg? (t : TravelTable) (origin destination : Int) : Option Leg :=
  (t.legs.findRev? fun entry => entry.1 == (origin, destination)).map (·.2)

/-- Both ends must have coordinates; the origin is looked at first. -/
def ensureCoordinates (origin destination : Location) : Except Fault Unit :=
  if origin.coordinates.isNone then .error (.missingCoordinate origin.code)
  else if destination.coordinates.isNone then .error (.missingCoordinate destination.code)
  else .ok ()

/-- The leg from one location to another. -/
def leg (t : TravelTable) (origin destination : Location) : Except Fault Leg := do
  ensureCoordinates origin destination
  match t.leg? origin.id destination.id with
  | some leg => return leg
  | none =>
    if origin.id = destination.id then return ⟨0.0, 0.0⟩
    else throw (.missingTravelData origin.code destination.code)

/-- The table as a provider of costs. -/
def provider (t : TravelTable) : CostProvider where
  name := "tat-table"
  distance origin destination := (·.kilometres) <$> t.leg origin destination
  duration origin destination := (·.hours) <$> t.leg origin destination

/-- What is noted once the table stands. -/
def entry (t : TravelTable) : Entry :=
  let pairs := (t.legs.map (·.1)).eraseDups
  ⟨.debug, "Travel table holds " ++ Decimal.wholeText pairs.length ++ " pairs"⟩

end TravelTable
end HubDispatch
