import HubDispatch.Network.Location
import HubDispatch.Journal

/-!
# Clusters

A row of the sales plan belongs to the cluster opened by the last labelled row above it or by
itself. The label names the hub, which must be one of the members; a code repeated within a cluster
counts once, and no code belongs to two clusters.
-/

namespace HubDispatch

/-- One row of the sales plan: a label if it opens a cluster, a location, and the volume from there
to the location of every row, in thousands of kilograms. -/
structure SalesRow (V : Type) where
  head : Option LocationCode
  location : LocationCode
  volumes : List V

/-- A blank label is none. -/
def SalesRow.labelled (label : Option String) (location : LocationCode) (volumes : List V) :
    SalesRow V where
  head := (label.map Text.trim).filter (!·.isEmpty)
  location := location
  volumes := volumes

/-- A hub and its members, the hub among them. -/
structure Cluster where
  hub : LocationCode
  members : List LocationCode
  deriving DecidableEq, Repr

namespace Cluster

/-- The position of a code among the members. -/
def indexOf? (c : Cluster) (code : LocationCode) : Option Nat := c.members.idxOf? code

/-- The position of the hub; the first if the hub is no member. -/
def hubIndex (c : Cluster) : Nat := (c.indexOf? c.hub).getD 0

def contains (c : Cluster) (code : LocationCode) : Bool := c.members.contains code

def isHub (c : Cluster) (code : LocationCode) : Bool := c.hub == code

def size (c : Cluster) : Nat := c.members.length

end Cluster

/-- The label and the location codes of a stretch of rows that one label opens. -/
structure Segment where
  head : LocationCode
  codes : List LocationCode
  deriving DecidableEq, Repr

namespace Cluster

variable {V : Type}

/-- The codes in front of the first label, and the segments from there on. -/
def segments : List (SalesRow V) → List LocationCode × List Segment
  | [] => ([], [])
  | row :: rows =>
    let (loose, later) := segments rows
    match row.head with
    | none => (row.location :: loose, later)
    | some head => ([], ⟨head, row.location :: loose⟩ :: later)

/-- The cluster of a segment, whose label must be one of its codes. -/
def ofSegment (s : Segment) : Except Fault Cluster :=
  if s.codes.contains s.head then .ok ⟨s.head, s.codes.eraseDups⟩
  else .error (.malformedInput ("cluster head '" ++ s.head ++ "' is not one of its own members"))

/-- Every member with the hub of its cluster. -/
def memberships (clusters : List Cluster) : List (LocationCode × LocationCode) :=
  clusters.flatMap fun c => c.members.map fun m => (m, c.hub)

/-- The first code that comes again names both its hubs. -/
def checkOwners : (owned rest : List (LocationCode × LocationCode)) → Except Fault Unit
  | _, [] => .ok ()
  | owned, (member, hub) :: rest =>
    match owned.lookup member with
    | some first =>
      .error (.malformedInput
        ("location '" ++ member ++ "' belongs to clusters '" ++ first ++ "' and '" ++ hub ++ "'"))
    | none => checkOwners ((member, hub) :: owned) rest

/-- The clusters of a sales plan, in the order of their labels. -/
def ofRows (rows : List (SalesRow V)) : Except Fault (List Cluster) := do
  let (loose, segments) := segments rows
  if let first :: _ := loose then
    throw (.malformedInput ("row 0 ('" ++ first ++ "') precedes the first cluster head"))
  let clusters ← segments.mapM ofSegment
  checkOwners [] (memberships clusters)
  return clusters

/-- What is noted once the clusters of some rows are known. -/
def builtEntry (clusters : List Cluster) (rows : List (SalesRow V)) : Entry :=
  ⟨.debug, "Built " ++ Decimal.wholeText clusters.length ++ " clusters from " ++
    Decimal.wholeText rows.length ++ " rows"⟩

end Cluster
end HubDispatch
