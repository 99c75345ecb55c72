import HubDispatch.Report.Itinerary
import HubDispatch.Report.LoadSplit
import HubDispatch.Sweep.Work
import HubDispatch.Delimited.Columns

/-!
# Records of a report

The report of a cluster has a record for every vehicle that an iteration uses and then one for the
iteration itself. A vehicle's record has a flag for every member of the cluster and a load for every
cluster of the network, behind the twelve columns that all reports share.
-/

namespace HubDispatch
namespace Report

open Decimal (wholeText fixedText)

def fixedColumns : List String := [
  "Cluster", "Iteration", "Network", "Cost", "Vehicles_Required", "Vehicle_Capacity_In_Tonnes",
  "Route", "Time_Route", "Dispatch_Time_From_Hub", "Arrival_Time_At_Hub", "Round_Trip_Duration",
  "Infeasible_Shipments"]

/-- The names of all columns. -/
def header (cluster : Cluster) (network : Network Float) : List String :=
  fixedColumns ++ cluster.members.map (· ++ "_Delivery_Day") ++ network.clusters.map (·.hub)

/-- What a report says of one route. -/
structure RouteSummary where
  vehicle : String
  fleet : FleetType
  route : String
  timeRoute : String
  /-- Return to the depot, in hours. -/
  arrival : Float
  /-- From the dispatch time to the return, in hours. -/
  roundTrip : Float
  loadSplit : List Float

/-- The summary of a route that belongs to a dispatch time. -/
def summarize (network : Network Float) (dispatchTime : Float) (r : Route) :
    Except Fault RouteSummary := do
  let loadSplit ← loadSplit network r
  return {
    vehicle := r.vehicle
    fleet := r.fleet
    route := compactRoute r
    timeRoute := timedRoute r
    arrival := r.finish
    roundTrip := r.finish - dispatchTime
    loadSplit }

/-- Whether freight for a member had to be given another day. -/
def flag (infeasible : List LocationCode) (member : LocationCode) : String :=
  if infeasible.contains member then "1" else "0"

/-- The record of one route. -/
def vehicleRecord (cluster : Cluster) (it : Iteration) (s : RouteSummary) : List String :=
  [cluster.hub, wholeText it.index, "-", fixedText 2 it.solution.cost.toFloat,
    wholeText it.solution.vehicleCount,
    fixedText 1 (Float.ofNat s.fleet.capacity / 1000.0), s.route, s.timeRoute,
    hoursText it.dispatchTime, hoursText s.arrival, hoursText s.roundTrip,
    wholeText it.unresolved] ++
  cluster.members.map (flag it.infeasible) ++ s.loadSplit.map (fixedText 1)

/-- The records of the routes of an iteration, up to the first route without a summary. -/
def vehicleRecords (cluster : Cluster) (network : Network Float) (it : Iteration) :
    Delimited.Rows Fault (List String) :=
  Delimited.decodeAll
    (fun r => return some (vehicleRecord cluster it (← summarize network it.dispatchTime r)))
    it.solution.routes

/-- The record of an iteration as a whole. -/
def networkRecord (it : Iteration) : List String := ["", "", networkText it.solution.routes]

end Report
end HubDispatch
