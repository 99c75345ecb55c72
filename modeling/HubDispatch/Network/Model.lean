import HubDispatch.Network.Demand

/-!
# The network

Clusters, sales plan and locations together, as every sweep consults them. A network is only built
when every member of every cluster has a location record; of two records with one code the last
counts.
-/

namespace HubDispatch

/-- What is planned for. -/
structure Network (V : Type) where
  clusters : List Cluster
  plan : SalesPlan V
  locations : List Location
  /-- Freight of a branch without planned volume, in kilograms. -/
  minimum : V

namespace Network

variable {V : Type}

/-- The record of a code among some records. -/
def locate? (locations : List Location) (code : LocationCode) : Option Location :=
  locations.findRev? (·.code == code)

/-- The record of a code, which must be known. -/
def locate (locations : List Location) (code : LocationCode) : Except Fault Location :=
  match locate? locations code with
  | some location => .ok location
  | none => .error (.unknownLocation code)

/-- A network from its parts. -/
def assemble (clusters : List Cluster) (plan : SalesPlan V) (locations : List Location)
    (minimum : V) : Except Fault (Network V) := do
  for cluster in clusters do
    for member in cluster.members do
      let _ ← locate locations member
  return ⟨clusters, plan, locations, minimum⟩

/-- A network from the rows of the sales plan and the location records. -/
def ofRows [NatCast V] [Mul V] (rows : List (SalesRow V)) (locations : List Location)
    (minimum : V) : Except Fault (Network V) := do
  let clusters ← Cluster.ofRows rows
  let plan ← SalesPlan.ofRows rows
  assemble clusters plan locations minimum

/-- What is noted once a network stands. -/
def readyEntry (n : Network V) : Entry :=
  ⟨.info, "Network model ready: " ++ Decimal.wholeText n.clusters.length ++ " clusters, " ++
    Decimal.wholeText n.plan.nodes.length ++ " nodes"⟩

/-- What is noted while a network is built from parts. -/
def assembleEntries (n : Except Fault (Network V)) : List Entry :=
  match n with
  | .ok n => [n.readyEntry]
  | .error _ => []

/-- What is noted while a network is built from rows. -/
def ofRowsEntries [NatCast V] [Mul V] (rows : List (SalesRow V)) (locations : List Location)
    (minimum : V) : List Entry :=
  match Cluster.ofRows rows with
  | .ok clusters =>
    Cluster.builtEntry clusters rows :: assembleEntries (ofRows rows locations minimum)
  | .error _ => []

/-- The first cluster with the given hub. -/
def cluster? (n : Network V) (hub : LocationCode) : Option Cluster :=
  n.clusters.find? (·.hub == hub)

/-- The record of a code. -/
def location (n : Network V) (code : LocationCode) : Except Fault Location :=
  locate n.locations code

/-- The records of the members, in their order. -/
def memberLocations (n : Network V) (cluster : Cluster) : Except Fault (List Location) :=
  cluster.members.mapM n.location

/-- The cutoffs of the members, in their order. -/
def cutoffs (n : Network V) (cluster : Cluster) : Except Fault (List Cutoffs) :=
  return (← n.memberLocations cluster).map (·.cutoffs)

/-- The demand of a cluster. -/
def demand (n : Network Float) (cluster : Cluster) : Except Fault DemandMatrix :=
  DemandMatrix.forCluster n.plan cluster n.minimum

end Network
end HubDispatch
