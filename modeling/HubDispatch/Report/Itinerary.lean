import HubDispatch.Report.Hours
import HubDispatch.Routing.Route

/-!
# Itineraries

A route is written in two ways. The compact form lists the locations visited, one after the other.
The timed form lists what is done at each: equal entries count once, and entries next to each other
at one location share it. A last stop that is left together with the one before it adds nothing to
the timed form.
-/

namespace HubDispatch
namespace Report

/-- Without repetitions next to each other. -/
def collapse [BEq α] : List α → List α
  | [] => []
  | x :: xs =>
    match collapse xs with
    | [] => [x]
    | y :: ys => if x == y then y :: ys else x :: y :: ys

/-- The locations that a route visits. -/
def compactLocations (r : Route) : List LocationCode := collapse (r.stops.map Stop.location)

/-- Parts of an itinerary in brackets. -/
def itineraryText (parts : List String) : String := "[" ++ String.intercalate "-" parts ++ "]"

/-- The locations of a route in one text. -/
def compactRoute (r : Route) : String := itineraryText (compactLocations r)

/-- All routes in one text. -/
def networkText (routes : List Route) : String :=
  "[" ++ String.intercalate ", " (routes.map compactRoute) ++ "]"

/-- The stops of the timed form. -/
def keptStops (stops : List Stop) : List Stop :=
  match stops.reverse with
  | last :: previous :: _ =>
    if previous.departure == last.departure then stops.dropLast else stops
  | _ => stops

/-- What is done at a stop, and when. -/
def activityText (s : Stop) : String :=
  String.ofList [s.kind.tag, ':'] ++ hoursText s.arrival ++ "-" ++ hoursText s.departure

/-- Where a stop is, and what is done there. -/
def token (s : Stop) : LocationCode × String := (s.location, activityText s)

/-- A location and what is done there without leaving it. -/
structure Visit where
  location : LocationCode
  activities : List String
  deriving DecidableEq, Repr

/-- Entries next to each other at one location, put together. -/
def visitsOf : List (LocationCode × String) → List Visit
  | [] => []
  | (location, activity) :: rest =>
    match visitsOf rest with
    | [] => [⟨location, [activity]⟩]
    | v :: visits =>
      if v.location = location then ⟨location, activity :: v.activities⟩ :: visits
      else ⟨location, [activity]⟩ :: v :: visits

/-- The visits of a route. -/
def timedVisits (r : Route) : List Visit := visitsOf ((keptStops r.stops).map token).eraseDups

def Visit.text (v : Visit) : String :=
  v.location ++ "(" ++ String.intercalate "," v.activities ++ ")"

/-- The visits of a route in one text. -/
def timedRoute (r : Route) : String := itineraryText ((timedVisits r).map Visit.text)

end Report
end HubDispatch
