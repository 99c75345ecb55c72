import HubDispatch.Proofs.Network.Membership
import HubDispatch.Proofs.Sweep.Conservation
import HubDispatch.Proofs.Sweep.Plan

/-!
# Relaxation

Putting a problem again with the branches that could not be served relaxed changes nothing but the
delivery windows of freight from the hub to these branches. Two things make it so. Relaxation enters
a shipment only through its delivery window, and freight between branches does not look at it. And
the hub itself is never relaxed: every shipment has different ends, so an unassigned one never
leaves the hub as its other end (`hub_notMem_infeasible`).
-/

namespace HubDispatch

/-- The shipment, to be delivered at any time of the `day` if it goes from `hub` to one of the
`places`. -/
def Shipment.relaxed (hub : LocationCode) (places : List LocationCode) (day : TimeWindow)
    (s : Shipment) : Shipment :=
  { s with delivery := if s.origin = hub ∧ s.destination ∈ places then day else s.delivery }

/-- Freight for a place that is not relaxed stays as it is. -/
theorem Shipment.relaxed_of_notMem {hub : LocationCode} {places : List LocationCode}
    {day : TimeWindow} {s : Shipment} (h : s.destination ∉ places) :
    s.relaxed hub places day = s := by
  rw [relaxed, if_neg fun hand => h hand.2]

section Blocks

variable {cluster : Cluster} {windows : ClusterWindows} {cell : DemandCell} {e : CellEnds}
  {places : List LocationCode} {settings : SweepSettings} {capacity : Nat}

/-- Relaxing places other than the hub opens the windows of freight from the hub to them. -/
theorem CellEnds.At.deliveryWindow_eq (he : CellEnds.At cluster windows cell e)
    (hc : cluster.WellFormed) (hhub : cluster.hub ∉ places) :
    e.deliveryWindow places settings =
      if e.origin = cluster.hub ∧ e.destination ∈ places then settings.bounds.fullBranchDay
      else e.deliveryWindow [] settings := by
  have hfrom : e.fromHub = true ↔ e.origin = cluster.hub := by
    rw [he.fromHub, beq_iff_eq, hc.getElem?_eq_hub_iff he.origin]
  have hto : e.toHub = true ↔ e.destination = cluster.hub := by
    rw [he.toHub, beq_iff_eq, hc.getElem?_eq_hub_iff he.destination]
  unfold CellEnds.deliveryWindow
  cases hf : e.fromHub with
  | true => simp [hfrom.mp hf]
  | false =>
    have horigin : e.origin ≠ cluster.hub := fun h => by simp [hfrom.mpr h] at hf
    cases ht : e.toHub with
    | true =>
      -- The only other freight that relaxation could reach, were the hub relaxed.
      have hnot : e.destination ∉ places := by rwa [hto.mp ht]
      simp [horigin, hnot]
    | false => simp [horigin]

/-- Relaxation enters a shipment only through its delivery window. -/
theorem CellEnds.At.relaxed_shipment (he : CellEnds.At cluster windows cell e)
    (hc : cluster.WellFormed) (hhub : cluster.hub ∉ places) (split : Bool) (k weight : Nat) :
    (e.shipment [] settings split k weight).relaxed cluster.hub places
        settings.bounds.fullBranchDay =
      e.shipment places settings split k weight :=
  congrArg (fun w => { e.shipment [] settings split k weight with delivery := w })
    (he.deliveryWindow_eq hc hhub).symm

/-- A relaxed block is the block of the first epoch, each shipment relaxed. -/
theorem IsBlock.relaxed (hc : cluster.WellFormed) (hhub : cluster.hub ∉ places)
    {block : List Shipment} (h : IsBlock cluster windows [] settings capacity cell block) :
    IsBlock cluster windows places settings capacity cell
      (block.map (Shipment.relaxed cluster.hub places settings.bounds.fullBranchDay)) := by
  obtain ⟨e, he, rfl⟩ := h
  refine ⟨e, he, ?_⟩
  unfold CellEnds.shipments
  rw [List.map_map]
  exact List.map_congr_left fun ⟨weight, k⟩ _ => he.relaxed_shipment hc hhub _ k weight

end Blocks

/-- **The shipments of the second epoch** are those of the first, each relaxed. -/
theorem shipmentsOf_relaxed {cluster : Cluster} {demand : DemandMatrix} {windows : ClusterWindows}
    {places : List LocationCode} {settings : SweepSettings} {shipments : List Shipment}
    (hc : cluster.WellFormed) (hhub : cluster.hub ∉ places)
    (h : shipmentsOf cluster demand windows [] settings = .ok shipments) :
    shipmentsOf cluster demand windows places settings =
      .ok (shipments.map
        (Shipment.relaxed cluster.hub places settings.bounds.fullBranchDay)) := by
  obtain ⟨capacity, blocks, hcap, hblocks, rfl⟩ := exists_blocks_of_shipmentsOf h
  refine (shipmentsOf_eq_ok_iff hcap).mpr ⟨blocks.map (List.map _), ?_, List.map_flatten.symm⟩
  exact List.forall₂_map_right_iff.mpr (hblocks.imp fun _ _ hb => hb.relaxed hc hhub)

/-- Every shipment has different ends. -/
theorem ends_ne_of_mem_shipmentsOf {cluster : Cluster} {demand : DemandMatrix}
    {windows : ClusterWindows} {places : List LocationCode} {settings : SweepSettings}
    {shipments : List Shipment} (hc : cluster.WellFormed)
    (h : shipmentsOf cluster demand windows places settings = .ok shipments) {s : Shipment}
    (hs : s ∈ shipments) : s.origin ≠ s.destination := by
  obtain ⟨capacity, blocks, -, hblocks, rfl⟩ := exists_blocks_of_shipmentsOf h
  obtain ⟨cell, hcell, block, hblock, hs⟩ := exists_block_of_mem_flatten hblocks hs
  obtain ⟨ho, hd⟩ := hblock.ends hs
  exact fun he => (DemandMatrix.mem_nonzero.mp hcell).1 ((eq_iff_of_nodup hc.nodup ho hd).mp he)

/-- **The hub is never relaxed.** -/
theorem hub_notMem_infeasible {cluster : Cluster} {unassigned : List ShipmentRef}
    (h : ∀ r ∈ unassigned, r.origin ≠ r.destination) :
    cluster.hub ∉ infeasibleLocations cluster unassigned := by
  rw [infeasibleLocations, List.mem_eraseDups, List.mem_map]
  rintro ⟨r, hr, he⟩
  unfold Cluster.branchEnd Cluster.isHub at he
  split at he
  · rename_i horigin
    exact h r hr ((beq_iff_eq.mp horigin).symm.trans he.symm)
  · rename_i horigin
    exact horigin (beq_iff_eq.mpr he.symm)

/-- **The second epoch puts the problem of the first with the unserved branches relaxed.** Vehicles,
locations and matrices are the same, and so are the shipments up to the delivery windows of freight
from the hub to these branches; what goes to the hub is not touched at all. -/
theorem problem_infeasible {rows : List (SalesRow Float)} {locations : List Location}
    {minimum : Float} {network : Network Float} {cluster : Cluster} {costs : CostProvider}
    {settings : SweepSettings} {plan : SweepPlan}
    (hnetwork : Network.ofRows rows locations minimum = .ok network)
    (hcluster : cluster ∈ network.clusters) (hfleet : settings.fleet ≠ [])
    (hplan : SweepPlan.make network costs settings cluster = .ok plan) (i : Nat) :
    ∃ first, plan.problem i [] = .ok first ∧
      ∀ unassigned, (∀ r ∈ unassigned, r ∈ first.shipments.map (·.reference)) →
        plan.problem i (infeasibleLocations cluster unassigned) =
          .ok { first with
            shipments := first.shipments.map (Shipment.relaxed cluster.hub
              (infeasibleLocations cluster unassigned) settings.bounds.fullBranchDay) } ∧
        ∀ s ∈ first.shipments, s.destination = cluster.hub →
          s.relaxed cluster.hub (infeasibleLocations cluster unassigned)
            settings.bounds.fullBranchDay = s := by
  have hc := Network.wellFormed_of_mem_clusters hnetwork hcluster
  have hisFor := SweepPlan.make_eq_ok_iff.mp hplan
  have hpc := hisFor.cluster_eq
  have hps := hisFor.settings_eq
  obtain ⟨first, hfirst⟩ := SweepPlan.exists_problem hisFor.fits (by rwa [hps]) i []
  refine ⟨first, hfirst, fun unassigned hun => ?_⟩
  obtain ⟨shipments, hs, rfl⟩ := SweepPlan.problem_eq_ok_iff.mp hfirst
  rw [hpc, hps] at hs
  have hhub : cluster.hub ∉ infeasibleLocations cluster unassigned := by
    refine hub_notMem_infeasible fun r hr => ?_
    obtain ⟨s, hmem, rfl⟩ := List.mem_map.mp (hun r hr)
    exact ends_ne_of_mem_shipmentsOf hc hs hmem
  refine ⟨SweepPlan.problem_eq_ok_iff.mpr ⟨_, ?_, rfl⟩, fun s _ hd => ?_⟩
  · rw [hpc, hps]
    exact shipmentsOf_relaxed hc hhub hs
  · exact Shipment.relaxed_of_notMem (hd ▸ hhub)

/-- The sales of a hub with two branches, in thousands of kilograms. -/
def twoBranches : List (SalesRow Float) :=
  [⟨some "H", "H", [0.0, 0.5, 0.25]⟩, ⟨none, "X", [0.125, 0.0, 0.0]⟩, ⟨none, "Y", [1.0, 0.0, 0.0]⟩]

/-- Their locations. -/
def twoBranchLocations : List Location :=
  [⟨1, "Hub", "H", none, ⟨3, 20⟩⟩, ⟨2, "North", "X", none, ⟨6, 14⟩⟩,
    ⟨3, "South", "Y", none, ⟨5, 12⟩⟩]

/-- The same way from everywhere to everywhere. -/
def evenCosts : CostProvider := ⟨"even", fun _ _ => .ok 60.0, fun _ _ => .ok 2.0⟩

/-- All freight is left behind in the fourth hour, and both branches are relaxed. -/
theorem problem_infeasible_two_branches :
    ∃ network plan first, Network.ofRows twoBranches twoBranchLocations 100.0 = .ok network ∧
      SweepPlan.make network evenCosts .standard ⟨"H", ["H", "X", "Y"]⟩ = .ok plan ∧
      plan.problem 3 [] = .ok first ∧
      first.shipments.map (·.reference) =
        [⟨"H", "X", 1⟩, ⟨"H", "Y", 1⟩, ⟨"X", "H", 1⟩, ⟨"Y", "H", 1⟩] ∧
      plan.problem 3 ["X", "Y"] = .ok { first with
        shipments := first.shipments.map (Shipment.relaxed "H" ["X", "Y"] ⟨0.0, 24.0⟩) } := by
  have hreferences :
      ((Network.ofRows twoBranches twoBranchLocations 100.0).toOption.bind fun network =>
        (SweepPlan.make network evenCosts .standard ⟨"H", ["H", "X", "Y"]⟩).toOption.bind
          fun plan => (plan.problem 3 []).toOption.map (·.shipments.map (·.reference))) =
        some [⟨"H", "X", 1⟩, ⟨"H", "Y", 1⟩, ⟨"X", "H", 1⟩, ⟨"Y", "H", 1⟩] := by
    decide +kernel
  obtain ⟨network, hnetwork, hcluster, plan, hplan⟩ : ∃ network,
      Network.ofRows twoBranches twoBranchLocations 100.0 = .ok network ∧
      ⟨"H", ["H", "X", "Y"]⟩ ∈ network.clusters ∧
      ∃ plan, SweepPlan.make network evenCosts .standard ⟨"H", ["H", "X", "Y"]⟩ = .ok plan :=
    ⟨_, rfl, by decide, _, rfl⟩
  obtain ⟨first, hfirst, hsecond⟩ := problem_infeasible hnetwork hcluster (by decide) hplan 3
  simp only [hnetwork, hplan, hfirst, Except.toOption, Option.bind_some, Option.map_some,
    Option.some.injEq] at hreferences
  refine ⟨network, plan, first, hnetwork, hplan, hfirst, hreferences, ?_⟩
  exact (hsecond _ fun r hr => hreferences ▸ hr).1

end HubDispatch
