import HubDispatch.Routing.Problem

/-!
# Job ids of a problem

A solver knows the shipments of a problem by their job ids. The table leads from an id to the
position of its shipment; it exists only if every reference can stand in an id and no two ids are
the same.
-/

namespace HubDispatch

/-- Job ids with the positions of their shipments. -/
abbrev JobTable := List (String × Nat)

namespace JobTable

/-- The table with the shipments from position `i` on. -/
def extend (table : JobTable) (i : Nat) : List Shipment → Except Fault JobTable
  | [] => .ok table
  | s :: rest =>
    match s.reference.jobId with
    | .error fault => .error fault
    | .ok id =>
      if (table.lookup id).isSome then .error (.invalidShipmentRef id)
      else extend (table ++ [(id, i)]) (i + 1) rest

/-- The job table of a problem. -/
def ofProblem (p : Problem) : Except Fault JobTable := extend [] 0 p.shipments

/-- The shipment that an id stands for. -/
def resolve (table : JobTable) (p : Problem) (id : String) : Except Fault Shipment :=
  match (table.lookup id).bind (p.shipments[·]?) with
  | some s => .ok s
  | none => .error (.invalidShipmentRef id)

end JobTable
end HubDispatch
