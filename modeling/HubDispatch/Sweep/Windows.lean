import HubDispatch.Network.Model
import HubDispatch.Shipment.Basic

/-!
# Windows of a cluster

A branch hands out freight from an hour after its outbound cutoff, and takes freight in until its
inbound cutoff. The hub takes freight in from its inbound cutoff, and hands it out from the dispatch
time until the latest inbound cutoff of a branch, which is also the last dispatch time worth trying.
-/

namespace HubDispatch

/-- The hours that bound the day of a branch and of a hub. -/
structure TimeBounds where
  branchLower : Float
  branchUpper : Float
  hubLower : Float
  hubUpper : Float

namespace TimeBounds

/-- A day for branches, a day and a half for hubs. -/
def standard : TimeBounds := ⟨0.0, 24.0, 0.0, 36.0⟩

/-- The whole day of a branch. -/
def fullBranchDay (b : TimeBounds) : TimeWindow := ⟨b.branchLower, b.branchUpper⟩

end TimeBounds

/-- When freight is picked up and delivered at a member. -/
structure MemberWindows where
  pickup : TimeWindow
  delivery : TimeWindow

/-- The windows of every member of a cluster, in member order. -/
structure ClusterWindows where
  members : List MemberWindows
  hubIndex : Nat
  /-- The latest delivery hour of a branch, and not before the hub opens. -/
  latestBranchCutoff : Float

namespace ClusterWindows

/-- The windows of a branch. -/
def branch (bounds : TimeBounds) (c : Cutoffs) : MemberWindows where
  pickup := ⟨Float.ofInt c.outbound + 1.0, bounds.branchUpper⟩
  delivery := ⟨bounds.branchLower, Float.ofInt c.inbound⟩

/-- The windows of the hub, for a dispatch time and the latest cutoff of a branch. -/
def hub (bounds : TimeBounds) (dispatch latest : Float) (c : Cutoffs) : MemberWindows where
  pickup := ⟨dispatch, latest⟩
  delivery := ⟨Float.ofInt c.inbound, bounds.hubUpper⟩

/-- The inbound cutoffs of all members but the one at position `hub`. -/
def branchCutoffs (hub : Nat) (cutoffs : List Cutoffs) : List Float :=
  cutoffs.zipIdx.filterMap fun (c, i) => if i = hub then none else some (Float.ofInt c.inbound)

/-- The windows that follow from the cutoffs of the members. Until a dispatch time is set, the hub
hands out freight from its lower bound. -/
def derive (cluster : Cluster) (cutoffs : List Cutoffs) (bounds : TimeBounds) : ClusterWindows :=
  let latest := (branchCutoffs cluster.hubIndex cutoffs).foldl Binary64.larger bounds.hubLower
  { members := cutoffs.zipIdx.map fun (c, i) =>
      if i = cluster.hubIndex then hub bounds bounds.hubLower latest c else branch bounds c
    hubIndex := cluster.hubIndex
    latestBranchCutoff := latest }

/-- The same windows with the hub handing out freight from `dispatch` on. -/
def withDispatchTime (w : ClusterWindows) (dispatch : Float) : ClusterWindows :=
  { w with
    members := w.members.modify w.hubIndex fun m =>
      { m with pickup := ⟨dispatch, w.latestBranchCutoff⟩ } }

/-- The windows of the hub in words; nothing without a hub. -/
def hubText (w : ClusterWindows) : String :=
  match w.members[w.hubIndex]? with
  | some hub => " hub pickup " ++ hub.pickup.text ++ " hub delivery " ++ hub.delivery.text
  | none => ""

/-- The windows of the member at a position. -/
def member (w : ClusterWindows) (i : Nat) : Except Fault MemberWindows :=
  match w.members[i]? with
  | some m => .ok m
  | none => .error (.outsideCluster i)

end ClusterWindows
end HubDispatch
