import HubDispatch.Network.Cluster

/-!
# The sales plan

Directed volumes between the nodes of the network, in kilograms. A pair that is not listed is
unknown, which is not the same as no volume; a pair listed twice has its last volume.

Totals are sums in the order of the nodes or members. The kind of number is left open: planning
counts in binary64 numbers, and what holds in exact arithmetic is said of rational ones.
-/

namespace HubDispatch

/-- Volumes between the nodes of a network. -/
structure SalesPlan (V : Type) where
  nodes : List LocationCode
  volumes : List ((LocationCode × LocationCode) × V)

namespace SalesPlan

variable {V : Type}

/-- Sales volumes are in thousands of kilograms. -/
def unitKilograms : Nat := 1000

section Lookup

/-- The volume from an origin to a destination. -/
def volume? (plan : SalesPlan V) (origin destination : LocationCode) : Option V :=
  (plan.volumes.findRev? fun entry => entry.1 == (origin, destination)).map (·.2)

/-- The volume from an origin to a destination, which must be known. -/
def volume (plan : SalesPlan V) (origin destination : LocationCode) : Except Fault V :=
  match plan.volume? origin destination with
  | some v => .ok v
  | none => .error (.missingDemand origin destination)

end Lookup

variable [NatCast V]

/-- The volumes of one row, which needs one for every node. -/
def rowVolumes [Mul V] (nodes : List LocationCode) (row : SalesRow V) :
    Except Fault (List ((LocationCode × LocationCode) × V)) :=
  if row.volumes.length = nodes.length then
    .ok ((nodes.zip row.volumes).map fun (destination, v) =>
      ((row.location, destination), v * (unitKilograms : V)))
  else
    .error (.malformedInput ("row '" ++ row.location ++ "' has " ++
      Decimal.wholeText row.volumes.length ++ " volume columns, expected " ++
      Decimal.wholeText nodes.length))

/-- The plan of some rows: column `i` of every row is the volume toward the location of row `i`. -/
def ofRows [Mul V] (rows : List (SalesRow V)) : Except Fault (SalesPlan V) := do
  let nodes := rows.map (·.location)
  let volumes ← rows.mapM (rowVolumes nodes)
  return ⟨nodes, volumes.flatten⟩

variable [Add V]

/-- The sum from the left of quantities that must all be known. -/
def sumOf (quantity : α → Except Fault V) (xs : List α) : Except Fault V :=
  xs.foldlM (fun total x => return total + (← quantity x)) ((0 : Nat) : V)

/-- What a cluster gets from or sends to a place with no planned volume, so that it stays served. -/
def atLeast [LT V] [DecidableLT V] (minimum total : V) : V :=
  if ((0 : Nat) : V) < total then total else minimum

/-- The nodes other than `node`, as often as the plan lists them. -/
def others (plan : SalesPlan V) (node : LocationCode) : List LocationCode :=
  plan.nodes.filter (· != node)

/-- All that leaves a node for other nodes, or the minimum. -/
def totalOutbound [LT V] [DecidableLT V] (plan : SalesPlan V) (node : LocationCode) (minimum : V) :
    Except Fault V :=
  (atLeast minimum ·) <$> sumOf (plan.volume node ·) (plan.others node)

/-- All that arrives at a node from other nodes, or the minimum. -/
def totalInbound [LT V] [DecidableLT V] (plan : SalesPlan V) (node : LocationCode) (minimum : V) :
    Except Fault V :=
  (atLeast minimum ·) <$> sumOf (plan.volume · node) (plan.others node)

/-- The volume from a node to all members of a cluster. -/
def totalToCluster (plan : SalesPlan V) (node : LocationCode) (cluster : Cluster) :
    Except Fault V :=
  sumOf (plan.volume node ·) cluster.members

end SalesPlan
end HubDispatch
