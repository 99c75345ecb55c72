import HubDispatch.Sweep.Shipments
import HubDispatch.Proofs.Network.Demand
import HubDispatch.Proofs.Shipment.Splitting

/-!
# Building shipments

The shipments of a cluster are the blocks of its cells one after another (`shipmentsOf_eq_ok_iff`).
A block is a cell's demand cut to the largest capacity of the fleet, at the ends of the cell
(`CellEnds.At`), which do not depend on what is relaxed. Nothing can fail where a fleet is active,
the demand is a square of the cluster's size and every member has windows (`exists_shipmentsOf`).
-/

namespace HubDispatch

namespace SweepSettings

variable {settings : SweepSettings} {capacity : Nat}

theorem maxCapacity?_eq_some_iff :
    settings.maxCapacity? = some capacity ↔
      capacity ∈ settings.fleet.map FleetType.capacity ∧
        ∀ t ∈ settings.fleet, t.capacity ≤ capacity := by
  rw [maxCapacity?, List.max?_eq_some_iff]
  simp

theorem exists_maxCapacity? (h : settings.fleet ≠ []) : ∃ c, settings.maxCapacity? = some c := by
  cases hc : settings.maxCapacity? with
  | some c => exact ⟨c, rfl⟩
  | none => exact absurd (by simpa [maxCapacity?] using hc) h

theorem maxCapacity?_eq_none_iff : settings.maxCapacity? = none ↔ settings.fleet = [] := by
  simp [maxCapacity?]

theorem maxCapacity?_pos (h : settings.maxCapacity? = some capacity) : 0 < capacity := by
  obtain ⟨hmem, -⟩ := maxCapacity?_eq_some_iff.mp h
  obtain ⟨t, -, rfl⟩ := List.mem_map.mp hmem
  cases t <;> decide

end SweepSettings

namespace ClusterWindows

@[simp] theorem length_derive (cluster : Cluster) (cutoffs : List Cutoffs) (bounds : TimeBounds) :
    (derive cluster cutoffs bounds).members.length = cutoffs.length := by
  simp [derive]

@[simp] theorem length_withDispatchTime (w : ClusterWindows) (dispatch : Float) :
    (w.withDispatchTime dispatch).members.length = w.members.length := by
  simp [withDispatchTime]

theorem member_eq_ok_iff {w : ClusterWindows} {i : Nat} {m : MemberWindows} :
    w.member i = .ok m ↔ w.members[i]? = some m := by
  unfold member
  cases w.members[i]? <;> simp

end ClusterWindows

theorem Cluster.member_eq_ok_iff {c : Cluster} {i : Nat} {code : LocationCode} :
    c.member i = .ok code ↔ c.members[i]? = some code := by
  unfold member
  cases c.members[i]? <;> simp

namespace CellEnds

variable {cluster : Cluster} {windows : ClusterWindows} {cell : DemandCell} {e : CellEnds}

/-- `e` has the codes and windows that the positions of a cell stand for. -/
structure At (cluster : Cluster) (windows : ClusterWindows) (cell : DemandCell) (e : CellEnds) :
    Prop where
  origin : cluster.members[cell.origin]? = some e.origin
  destination : cluster.members[cell.destination]? = some e.destination
  pickup : windows.members[cell.origin]?.map (·.pickup) = some e.pickup
  delivery : windows.members[cell.destination]?.map (·.delivery) = some e.delivery
  fromHub : e.fromHub = (cell.origin == cluster.hubIndex)
  toHub : e.toHub = (cell.destination == cluster.hubIndex)

theorem ofCell_eq_ok_iff : ofCell cluster windows cell = .ok e ↔ At cluster windows cell e := by
  unfold ofCell
  simp only [bind_eq_ok_iff, Cluster.member_eq_ok_iff, ClusterWindows.member_eq_ok_iff]
  constructor
  · rintro ⟨o, ho, d, hd, mo, hmo, md, hmd, he⟩
    cases he
    exact ⟨ho, hd, by simp [hmo], by simp [hmd], rfl, rfl⟩
  · rintro ⟨ho, hd, hmo, hmd, hf, ht⟩
    obtain ⟨mo, hmo, hpickup⟩ := Option.map_eq_some_iff.mp hmo
    obtain ⟨md, hmd, hdelivery⟩ := Option.map_eq_some_iff.mp hmd
    refine ⟨_, ho, _, hd, mo, hmo, md, hmd, ?_⟩
    rw [hpickup, hdelivery, ← hf, ← ht]
    rfl

theorem exists_at (hi : cell.origin < cluster.members.length)
    (hj : cell.destination < cluster.members.length)
    (hw : windows.members.length = cluster.members.length) :
    ∃ e, At cluster windows cell e := by
  have hi' : cell.origin < windows.members.length := hw ▸ hi
  have hj' : cell.destination < windows.members.length := hw ▸ hj
  exact ⟨⟨cluster.members[cell.origin], cluster.members[cell.destination],
    windows.members[cell.origin].pickup, windows.members[cell.destination].delivery, _, _⟩,
    List.getElem?_eq_getElem hi, List.getElem?_eq_getElem hj, by simp [hi'], by simp [hj'],
    rfl, rfl⟩

end CellEnds

section Blocks

variable {cluster : Cluster} {demand : DemandMatrix} {windows : ClusterWindows}
  {relaxed : List LocationCode} {settings : SweepSettings} {capacity : Nat}

/-- `block` holds the shipments of a cell. -/
def IsBlock (cluster : Cluster) (windows : ClusterWindows) (relaxed : List LocationCode)
    (settings : SweepSettings) (capacity : Nat) (cell : DemandCell) (block : List Shipment) :
    Prop :=
  ∃ e, CellEnds.At cluster windows cell e ∧
    block = e.shipments relaxed settings (splitDemand capacity cell.weight)

/-- **Shipments are built block by block.** -/
theorem shipmentsOf_eq_ok_iff (hc : settings.maxCapacity? = some capacity)
    {shipments : List Shipment} :
    shipmentsOf cluster demand windows relaxed settings = .ok shipments ↔
      ∃ blocks, List.Forall₂ (IsBlock cluster windows relaxed settings capacity) demand.nonzero
        blocks ∧ blocks.flatten = shipments := by
  simp only [shipmentsOf, hc, map_eq_ok_iff, mapM_eq_ok_iff]
  have hblock : ∀ cell block, shipmentsOfCell cluster windows relaxed settings capacity cell =
      .ok block ↔ IsBlock cluster windows relaxed settings capacity cell block := by
    intro cell block
    unfold shipmentsOfCell IsBlock
    simp only [bind_eq_ok_iff, CellEnds.ofCell_eq_ok_iff]
    constructor
    · rintro ⟨e, he, hb⟩
      cases hb
      exact ⟨e, he, rfl⟩
    · rintro ⟨e, he, rfl⟩
      exact ⟨e, he, rfl⟩
  simp only [hblock]

/-- Without an active fleet there is no capacity to split demand by. -/
theorem shipmentsOf_of_no_fleet (h : settings.fleet = []) :
    shipmentsOf cluster demand windows relaxed settings =
      .error (.malformedInput "no fleet type is active") := by
  rw [shipmentsOf, SweepSettings.maxCapacity?_eq_none_iff.mpr h]

/-- Shipments that were built are blocks for some capacity. -/
theorem exists_blocks_of_shipmentsOf {shipments : List Shipment}
    (h : shipmentsOf cluster demand windows relaxed settings = .ok shipments) :
    ∃ capacity blocks, settings.maxCapacity? = some capacity ∧
      List.Forall₂ (IsBlock cluster windows relaxed settings capacity) demand.nonzero blocks ∧
      blocks.flatten = shipments := by
  cases hc : settings.maxCapacity? with
  | none =>
    rw [shipmentsOf_of_no_fleet (SweepSettings.maxCapacity?_eq_none_iff.mp hc)] at h
    cases h
  | some capacity =>
    obtain ⟨blocks, hblocks, hflatten⟩ := (shipmentsOf_eq_ok_iff hc).mp h
    exact ⟨capacity, blocks, rfl, hblocks, hflatten⟩

/-- **Shipments can be built** for a square demand of the cluster's size with windows for every
member, once a fleet is active. -/
theorem exists_shipmentsOf (hdemand : demand.IsSquare cluster.members.length)
    (hwindows : windows.members.length = cluster.members.length) (hfleet : settings.fleet ≠ [])
    (relaxed : List LocationCode) :
    ∃ shipments, shipmentsOf cluster demand windows relaxed settings = .ok shipments := by
  obtain ⟨capacity, hc⟩ := SweepSettings.exists_maxCapacity? hfleet
  have hblocks : ∀ cell ∈ demand.nonzero,
      ∃ block, shipmentsOfCell cluster windows relaxed settings capacity cell = .ok block := by
    intro cell hm
    obtain ⟨hi, hj⟩ := hdemand.lt_of_cell (DemandMatrix.mem_nonzero.mp hm).2.2
    obtain ⟨e, he⟩ := CellEnds.exists_at hi hj hwindows
    exact ⟨_, bind_eq_ok_iff.mpr ⟨e, CellEnds.ofCell_eq_ok_iff.mpr he, rfl⟩⟩
  obtain ⟨blocks, hb⟩ := mapM_ok_of_forall_ok hblocks
  refine ⟨blocks.flatten, ?_⟩
  simp only [shipmentsOf, hc]
  exact map_eq_ok_iff.mpr ⟨blocks, hb, rfl⟩

end Blocks
end HubDispatch
