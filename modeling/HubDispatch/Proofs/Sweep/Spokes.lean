import HubDispatch.Proofs.Network.HubAndSpoke
import HubDispatch.Proofs.Sweep.Conservation

/-!
# Spokes

Every shipment of a cluster goes along a spoke: from the hub to a branch or from a branch to the
hub, and takes no handling time at the hub (`Spoke`). The demand is made so by the position of the
hub among the members, the ends of a shipment are codes, and in a cluster without repetitions one
stands for the other.

A reference to such a shipment therefore has a single branch at its ends. This is the end that
`Cluster.branchEnd` picks, though it picks the origin of whatever does not come from the hub without
looking at the destination. So the unserved places of any list of references are branches, each
once, where the list has it first (`IsBranchList`).
-/

namespace HubDispatch

/-- The shipment has its other end at a branch, and needs no handling at the hub. -/
inductive Spoke (cluster : Cluster) (s : Shipment) : Prop
  | outward (origin : s.origin = cluster.hub) (member : s.destination ∈ cluster.members)
      (branch : s.destination ≠ cluster.hub) (service : s.pickupService = 0.0)
  | inward (member : s.origin ∈ cluster.members) (branch : s.origin ≠ cluster.hub)
      (destination : s.destination = cluster.hub) (service : s.deliveryService = 0.0)

/-- The place is an end of the shipment. -/
def ShipmentRef.EndsAt (r : ShipmentRef) (place : LocationCode) : Prop :=
  r.origin = place ∨ r.destination = place

instance (r : ShipmentRef) (place : LocationCode) : Decidable (r.EndsAt place) :=
  inferInstanceAs (Decidable (_ ∨ _))

/-- The places are the branches at the ends of some references, each once and in the order in which
the references come to them. -/
structure IsBranchList (cluster : Cluster) (refs : List ShipmentRef) (places : List LocationCode) :
    Prop where
  distinct : places.Nodup
  mem_iff : ∀ place, place ∈ places ↔
    place ∈ cluster.members ∧ place ≠ cluster.hub ∧ ∃ r ∈ refs, r.EndsAt place
  ordered : places.Pairwise fun a b =>
    refs.findIdx (·.EndsAt a) < refs.findIdx (·.EndsAt b)

/-! ## Shipments -/

section Shipments

variable {cluster : Cluster} {windows : ClusterWindows} {relaxed : List LocationCode}
  {settings : SweepSettings} {capacity : Nat} {cell : DemandCell} {block : List Shipment}

/-- There is no handling at the end of a shipment where the hub is. -/
theorem IsBlock.hub_service (h : IsBlock cluster windows relaxed settings capacity cell block)
    {s : Shipment} (hs : s ∈ block) :
    (cell.origin = cluster.hubIndex → s.pickupService = 0.0) ∧
      (cell.destination = cluster.hubIndex → s.deliveryService = 0.0) := by
  obtain ⟨e, he, rfl⟩ := h
  obtain ⟨⟨weight, k⟩, -, rfl⟩ := List.mem_map.mp hs
  constructor
  · intro hhub
    have hfrom : e.fromHub = true := by rw [he.fromHub, hhub, beq_self_eq_true]
    exact if_pos hfrom
  · intro hhub
    have hto : e.toHub = true := by rw [he.toHub, hhub, beq_self_eq_true]
    exact if_pos hto

/-- **Every shipment is a spoke.** -/
theorem spoke_of_mem_shipmentsOf {plan : SalesPlan Float} {minimum : Float} {demand : DemandMatrix}
    {shipments : List Shipment} (hc : cluster.WellFormed)
    (hdemand : DemandMatrix.forCluster plan cluster minimum = .ok demand)
    (h : shipmentsOf cluster demand windows relaxed settings = .ok shipments)
    {s : Shipment} (hs : s ∈ shipments) : Spoke cluster s := by
  obtain ⟨capacity, blocks, -, hblocks, rfl⟩ := exists_blocks_of_shipmentsOf h
  obtain ⟨cell, hcell, block, hblock, hs⟩ := exists_block_of_mem_flatten hblocks hs
  obtain ⟨hne, h0, hw⟩ := DemandMatrix.mem_nonzero.mp hcell
  obtain ⟨horigin, hdestination⟩ := hblock.ends hs
  obtain ⟨hpickup, hdelivery⟩ := hblock.hub_service hs
  have hfrom := hc.getElem?_eq_hub_iff horigin
  have hto := hc.getElem?_eq_hub_iff hdestination
  rcases DemandMatrix.hub_of_cell hdemand hne hw h0 with ⟨hhub, hbranch⟩ | ⟨hbranch, hhub⟩
  · exact .outward (hfrom.mpr hhub) (List.mem_of_getElem? hdestination) (hto.not.mpr hbranch)
      (hpickup hhub)
  · exact .inward (List.mem_of_getElem? horigin) (hfrom.not.mpr hbranch) (hto.mpr hhub)
      (hdelivery hhub)

end Shipments

/-! ## References -/

theorem findIdx_congr {α : Type} {p q : α → Bool} {xs : List α} (h : ∀ x ∈ xs, p x = q x) :
    xs.findIdx p = xs.findIdx q := by
  induction xs with
  | nil => rfl
  | cons x xs ih =>
    obtain ⟨hx, hxs⟩ := List.forall_mem_cons.mp h
    rw [List.findIdx_cons, List.findIdx_cons, hx, ih hxs]

section References

variable {cluster : Cluster} {s : Shipment} {place : LocationCode} {r : ShipmentRef}
  {refs : List ShipmentRef}

theorem Cluster.branchEnd_of_eq (h : r.origin = cluster.hub) :
    cluster.branchEnd r = r.destination :=
  if_pos (beq_iff_eq.mpr h.symm)

theorem Cluster.branchEnd_of_ne (h : r.origin ≠ cluster.hub) : cluster.branchEnd r = r.origin :=
  if_neg fun hhub => h (beq_iff_eq.mp hhub).symm

/-- The end that is picked is a branch. -/
theorem Spoke.branchEnd_mem (h : Spoke cluster s) :
    cluster.branchEnd s.reference ∈ cluster.members ∧
      cluster.branchEnd s.reference ≠ cluster.hub := by
  cases h with
  | outward origin member branch _ =>
    rw [Cluster.branchEnd_of_eq origin]
    exact ⟨member, branch⟩
  | inward member branch _ _ =>
    rw [Cluster.branchEnd_of_ne branch]
    exact ⟨member, branch⟩

/-- It is the only branch at the ends. -/
theorem Spoke.branchEnd_eq_iff (h : Spoke cluster s) (hplace : place ≠ cluster.hub) :
    cluster.branchEnd s.reference = place ↔ s.reference.EndsAt place := by
  cases h with
  | outward origin _ _ _ =>
    rw [Cluster.branchEnd_of_eq origin]
    exact (or_iff_right fun h => hplace (h.symm.trans origin)).symm
  | inward _ branch destination _ =>
    rw [Cluster.branchEnd_of_ne branch]
    exact (or_iff_left fun h => hplace (h.symm.trans destination)).symm

/-- **The unserved places are the branches of the references.** -/
theorem isBranchList_infeasibleLocations
    (hrefs : ∀ r ∈ refs, ∃ s, Spoke cluster s ∧ s.reference = r) :
    IsBranchList cluster refs (infeasibleLocations cluster refs) := by
  have hbranch : ∀ place ∈ infeasibleLocations cluster refs,
      place ∈ cluster.members ∧ place ≠ cluster.hub := by
    intro place hplace
    obtain ⟨r, hr, rfl⟩ := List.mem_map.mp (List.mem_eraseDups.mp hplace)
    obtain ⟨s, hs, rfl⟩ := hrefs r hr
    exact hs.branchEnd_mem
  have hends : ∀ place, place ≠ cluster.hub → ∀ r ∈ refs,
      cluster.branchEnd r = place ↔ r.EndsAt place := by
    intro place hplace r hr
    obtain ⟨s, hs, rfl⟩ := hrefs r hr
    exact hs.branchEnd_eq_iff hplace
  refine ⟨nodup_eraseDups _, fun place => ⟨fun hplace => ?_, ?_⟩, ?_⟩
  · obtain ⟨hmember, hne⟩ := hbranch place hplace
    obtain ⟨r, hr, he⟩ := List.mem_map.mp (List.mem_eraseDups.mp hplace)
    exact ⟨hmember, hne, r, hr, (hends place hne r hr).mp he⟩
  · rintro ⟨-, hne, r, hr, he⟩
    exact List.mem_eraseDups.mpr (List.mem_map.mpr ⟨r, hr, (hends place hne r hr).mpr he⟩)
  · have hidx : ∀ place ∈ infeasibleLocations cluster refs,
        (refs.map cluster.branchEnd).idxOf place = refs.findIdx (·.EndsAt place) := by
      intro place hplace
      rw [List.idxOf, List.findIdx_map]
      refine findIdx_congr fun r hr => ?_
      exact decide_eq_decide.mpr (hends place (hbranch place hplace).2 r hr)
    refine (pairwise_idxOf_eraseDups _).imp_of_mem fun ha hb hlt => ?_
    rwa [hidx _ ha, hidx _ hb] at hlt

end References

/-- **Shipments are hub-and-spoke, and only branches are unserved.** In a cluster without
repetitions, wherever its hub stands in it, shipments can be built from its demand if a fleet is
active and every member has windows. Each goes between the hub and a branch and takes no time at the
hub, and the unserved places of any references to them, in any order, are the branches at their
ends. -/
theorem shipmentsOf_spokes {plan : SalesPlan Float} {cluster : Cluster} {minimum : Float}
    {demand : DemandMatrix} {settings : SweepSettings} (hc : cluster.WellFormed)
    (hdemand : DemandMatrix.forCluster plan cluster minimum = .ok demand)
    (hfleet : settings.fleet ≠ []) (windows : ClusterWindows) (relaxed : List LocationCode) :
    (windows.members.length = cluster.members.length →
      ∃ shipments, shipmentsOf cluster demand windows relaxed settings = .ok shipments) ∧
    ∀ shipments, shipmentsOf cluster demand windows relaxed settings = .ok shipments →
      (∀ s ∈ shipments, Spoke cluster s) ∧
        ∀ unassigned, (∀ r ∈ unassigned, r ∈ shipments.map (·.reference)) →
          IsBranchList cluster unassigned (infeasibleLocations cluster unassigned) := by
  constructor
  · intro hwindows
    exact exists_shipmentsOf (DemandMatrix.isSquare_of_forCluster hdemand) hwindows hfleet relaxed
  · intro shipments h
    have hspokes : ∀ s ∈ shipments, Spoke cluster s := fun s hs =>
      spoke_of_mem_shipmentsOf hc hdemand h hs
    refine ⟨hspokes, fun unassigned hun => isBranchList_infeasibleLocations fun r hr => ?_⟩
    obtain ⟨s, hs, he⟩ := List.mem_map.mp (hun r hr)
    exact ⟨s, hspokes s hs, he⟩

/-- The sales of a hub that stands between its branches. -/
def hubInside : List (SalesRow Float) :=
  [⟨some "H", "X", [0.0, 12.0, 0.0]⟩, ⟨none, "H", [0.5, 0.0, 0.25]⟩, ⟨none, "Y", [0.0, 0.125, 0.0]⟩]

/-- Five references to four shipments have two branches at their ends. -/
theorem shipmentsOf_spokes_inside :
    let cluster : Cluster := ⟨"H", ["X", "H", "Y"]⟩
    let windows := ClusterWindows.derive cluster [⟨6, 14⟩, ⟨3, 20⟩, ⟨5, 12⟩] .standard
    let unassigned : List ShipmentRef :=
      [⟨"Y", "H", 1⟩, ⟨"X", "H", 2⟩, ⟨"H", "Y", 1⟩, ⟨"Y", "H", 1⟩, ⟨"X", "H", 1⟩]
    ∃ plan demand shipments, SalesPlan.ofRows hubInside = .ok plan ∧ cluster.WellFormed ∧
      DemandMatrix.forCluster plan cluster 100.0 = .ok demand ∧
      shipmentsOf cluster demand windows [] .standard = .ok shipments ∧
      shipments.map (·.reference) =
        [⟨"X", "H", 1⟩, ⟨"X", "H", 2⟩, ⟨"H", "X", 1⟩, ⟨"H", "Y", 1⟩, ⟨"Y", "H", 1⟩] ∧
      (∀ s ∈ shipments, Spoke cluster s) ∧
      IsBranchList cluster unassigned ["Y", "X"] := by
  intro cluster windows unassigned
  have hc : cluster.WellFormed := ⟨by decide, by decide⟩
  obtain ⟨plan, hplan, demand, hdemand⟩ : ∃ plan, SalesPlan.ofRows hubInside = .ok plan ∧
      ∃ demand, DemandMatrix.forCluster plan cluster 100.0 = .ok demand := ⟨_, rfl, _, rfl⟩
  have hfleet : SweepSettings.standard.fleet ≠ [] := by decide
  obtain ⟨hexists, hall⟩ := shipmentsOf_spokes hc hdemand hfleet windows []
  obtain ⟨shipments, hshipments⟩ := hexists rfl
  have hreferences :
      ((SalesPlan.ofRows hubInside).toOption.bind fun plan =>
        (DemandMatrix.forCluster plan cluster 100.0).toOption.bind fun demand =>
          (shipmentsOf cluster demand windows [] .standard).toOption.map (·.map (·.reference))) =
        some [⟨"X", "H", 1⟩, ⟨"X", "H", 2⟩, ⟨"H", "X", 1⟩, ⟨"H", "Y", 1⟩, ⟨"Y", "H", 1⟩] := by
    decide +kernel
  simp only [hplan, hdemand, hshipments, Except.toOption, Option.bind_some, Option.map_some,
    Option.some.injEq] at hreferences
  obtain ⟨hspokes, hbranches⟩ := hall shipments hshipments
  have hun : ∀ r ∈ unassigned, r ∈ shipments.map (·.reference) := by
    rw [hreferences]
    decide
  exact ⟨plan, demand, shipments, hplan, hc, hdemand, hshipments, hreferences, hspokes,
    hbranches unassigned hun⟩

end HubDispatch
