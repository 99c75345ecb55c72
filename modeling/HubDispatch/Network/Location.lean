import HubDispatch.Fault

/-!
# Locations

The reference record of a hub or branch: the number the travel table knows it by, its coordinates if
they are known, and its daily cutoffs in whole hours since the reference midnight.
-/

namespace HubDispatch

/-- Degrees of latitude and longitude. -/
structure Coordinates where
  lat : Float
  lng : Float

/-- When outbound freight is ready at a location, and by when inbound freight must be there. -/
structure Cutoffs where
  outbound : Int
  inbound : Int
  deriving DecidableEq, Repr

def millisPerHour : Int := 3600000

/-- Cutoffs in milliseconds lose the part of an hour, toward zero. -/
def Cutoffs.ofMillis (outbound inbound : Int) : Cutoffs :=
  ⟨outbound.tdiv millisPerHour, inbound.tdiv millisPerHour⟩

/-- What is known of a location. -/
structure Location where
  id : Int
  name : String
  code : LocationCode
  coordinates : Option Coordinates
  cutoffs : Cutoffs

end HubDispatch
