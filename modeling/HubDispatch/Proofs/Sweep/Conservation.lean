import HubDispatch.Proofs.Network.Membership
import HubDispatch.Proofs.Sweep.Building
import Mathlib.Algebra.Ring.Nat

/-!
# Conservation of demand

What the shipments of a cluster owe to its demand (`Conserves`): every cell off the diagonal is
shipped in full, in numbered parts of which all but the last fill the largest vehicle; nothing else
is shipped; the shipments follow the demand row by row. All of it is read off the blocks: a block
belongs to one cell, the cells with freight are listed once and in order, and in a cluster without
repetitions different positions have different codes.
-/

namespace HubDispatch

section BlocksEndToEnd

variable {α β : Type} {R : α → List β → Prop} {xs : List α} {blocks : List (List β)}

theorem exists_block_of_mem_flatten (h : List.Forall₂ R xs blocks) {y : β}
    (hy : y ∈ blocks.flatten) : ∃ x ∈ xs, ∃ block, R x block ∧ y ∈ block := by
  induction h with
  | nil => cases hy
  | cons hr _ ih =>
    rw [List.flatten_cons, List.mem_append] at hy
    rcases hy with hy | hy
    · exact ⟨_, List.mem_cons_self .., _, hr, hy⟩
    · obtain ⟨x, hx, block, hr, hy⟩ := ih hy
      exact ⟨x, List.mem_cons_of_mem _ hx, block, hr, hy⟩

/-- A choice among the elements of the blocks that is a choice of whole blocks. -/
theorem filter_flatten_of_forall₂ {p : β → Bool} {q : α → Bool} (h : List.Forall₂ R xs blocks)
    (hpq : ∀ x block, x ∈ xs → R x block → ∀ y ∈ block, p y = q x) :
    ∃ chosen, List.Forall₂ R (xs.filter q) chosen ∧ blocks.flatten.filter p = chosen.flatten := by
  induction h with
  | nil => exact ⟨[], .nil, rfl⟩
  | @cons x block xs blocks hr _ ih =>
    obtain ⟨chosen, hc, heq⟩ := ih fun x b hx => hpq x b (List.mem_cons_of_mem _ hx)
    have hx := hpq x block (List.mem_cons_self ..) hr
    rw [List.flatten_cons, List.filter_append, heq]
    cases hq : q x with
    | true =>
      refine ⟨block :: chosen, ?_, ?_⟩
      · rw [List.filter_cons_of_pos hq]
        exact .cons hr hc
      · rw [List.filter_eq_self.mpr fun y hy => (hx y hy).trans hq, List.flatten_cons]
    | false =>
      refine ⟨chosen, ?_, ?_⟩
      · rw [List.filter_cons_of_neg (by simp [hq])]
        exact hc
      · rw [List.filter_eq_nil_iff.mpr fun y hy => by simp [hx y hy, hq], List.nil_append]

/-- Blocks in order, each in order itself, are in order end to end. -/
theorem pairwise_flatten_of_forall₂ {S : α → α → Prop} {T : β → β → Prop}
    (h : List.Forall₂ R xs blocks) (hxs : xs.Pairwise S)
    (hwithin : ∀ x block, R x block → block.Pairwise T)
    (hacross : ∀ x x' block block', R x block → R x' block' → S x x' →
      ∀ y ∈ block, ∀ y' ∈ block', T y y') : blocks.flatten.Pairwise T := by
  induction h with
  | nil => exact .nil
  | @cons x block xs blocks hr hrest ih =>
    obtain ⟨hfirst, hxs⟩ := List.pairwise_cons.mp hxs
    rw [List.flatten_cons, List.pairwise_append]
    refine ⟨hwithin x block hr, ih hxs, fun y hy y' hy' => ?_⟩
    obtain ⟨x', hx', block', hr', hy'⟩ := exists_block_of_mem_flatten hrest hy'
    exact hacross x x' block block' hr hr' (hfirst x' hx') y hy y' hy'

end BlocksEndToEnd

namespace CellEnds

variable (e : CellEnds) (relaxed : List LocationCode) (settings : SweepSettings)

@[simp] theorem length_shipments (chunks : List Nat) :
    (e.shipments relaxed settings chunks).length = chunks.length := by
  simp [shipments]

@[simp] theorem map_weight_shipments (chunks : List Nat) :
    (e.shipments relaxed settings chunks).map (·.weight) = chunks := by
  unfold shipments
  rw [List.map_map]
  exact List.zipIdx_map_fst 0 chunks

@[simp] theorem map_sequence_shipments (chunks : List Nat) :
    (e.shipments relaxed settings chunks).map (·.reference.sequence) =
      List.range' 1 chunks.length := by
  unfold shipments
  rw [List.map_map]
  change chunks.zipIdx.map ((· + 1) ∘ Prod.snd) = _
  rw [← List.map_map, List.zipIdx_map_snd,
    show (fun k => k + 1) = (1 + ·) from funext fun k => Nat.add_comm k 1]
  exact List.map_add_range' 0 chunks.length 1

theorem ends_of_mem_shipments {chunks : List Nat} {s : Shipment}
    (h : s ∈ e.shipments relaxed settings chunks) :
    s.origin = e.origin ∧ s.destination = e.destination := by
  obtain ⟨⟨weight, k⟩, -, rfl⟩ := List.mem_map.mp h
  exact ⟨rfl, rfl⟩

end CellEnds

/-- `parts` carry the weight of a cell: full loads and a last part, numbered from one. -/
structure Parts (capacity weight : Nat) (parts : List Shipment) : Prop where
  sum : (parts.map (·.weight)).sum = weight
  full : ∀ s ∈ parts.dropLast, s.weight = capacity
  numbered : parts.map (·.reference.sequence) = List.range' 1 parts.length

namespace IsBlock

variable {cluster : Cluster} {windows : ClusterWindows} {relaxed : List LocationCode}
  {settings : SweepSettings} {capacity : Nat} {cell : DemandCell} {block : List Shipment}

theorem parts (h : IsBlock cluster windows relaxed settings capacity cell block) :
    Parts capacity cell.weight block := by
  obtain ⟨e, -, rfl⟩ := h
  have hweights := e.map_weight_shipments relaxed settings (splitDemand capacity cell.weight)
  refine ⟨by rw [hweights, sum_splitDemand], fun s hs => ?_, ?_⟩
  · have hmem := List.mem_map_of_mem (f := (·.weight)) hs
    rw [List.map_dropLast, hweights, dropLast_splitDemand] at hmem
    exact List.eq_of_mem_replicate hmem
  · rw [e.map_sequence_shipments, e.length_shipments]

theorem ends (h : IsBlock cluster windows relaxed settings capacity cell block) {s : Shipment}
    (hs : s ∈ block) : cluster.members[cell.origin]? = some s.origin ∧
      cluster.members[cell.destination]? = some s.destination := by
  obtain ⟨e, he, rfl⟩ := h
  obtain ⟨ho, hd⟩ := e.ends_of_mem_shipments relaxed settings hs
  rw [ho, hd]
  exact ⟨he.origin, he.destination⟩

theorem weight_bounds (h : IsBlock cluster windows relaxed settings capacity cell block)
    (hc : 0 < capacity) (hw : 0 < cell.weight) {s : Shipment} (hs : s ∈ block) :
    1 ≤ s.weight ∧ s.weight ≤ capacity := by
  obtain ⟨e, -, rfl⟩ := h
  have hmem := List.mem_map_of_mem (f := (·.weight)) hs
  rw [e.map_weight_shipments] at hmem
  exact mem_splitDemand hc hw hmem

end IsBlock

/-- The shipments from one code to another. -/
def shipmentsBetween (shipments : List Shipment) (origin destination : LocationCode) :
    List Shipment :=
  shipments.filter fun s => s.origin = origin ∧ s.destination = destination

/-- `s` precedes `t` row by row: in the order of their origins among the members, then of their
destinations, then of their numbers. -/
def Cluster.Precedes (c : Cluster) (s t : Shipment) : Prop :=
  c.members.idxOf s.origin < c.members.idxOf t.origin ∨
    c.members.idxOf s.origin = c.members.idxOf t.origin ∧
      (c.members.idxOf s.destination < c.members.idxOf t.destination ∨
        c.members.idxOf s.destination = c.members.idxOf t.destination ∧
          s.reference.sequence < t.reference.sequence)

/-- The shipments carry the demand of a cluster, and nothing else. -/
structure Conserves (cluster : Cluster) (demand : DemandMatrix) (capacity : Nat)
    (shipments : List Shipment) : Prop where
  /-- Each cell off the diagonal goes from its row's member to its column's. -/
  cell : ∀ i j origin destination weight, i ≠ j → cluster.members[i]? = some origin →
    cluster.members[j]? = some destination → demand.cell? i j = some weight →
      Parts capacity weight (shipmentsBetween shipments origin destination)
  /-- No shipment is empty or too heavy. -/
  weight_bounds : ∀ s ∈ shipments, 1 ≤ s.weight ∧ s.weight ≤ capacity
  /-- Every shipment comes from a cell off the diagonal that is not zero. -/
  from_cell : ∀ s ∈ shipments, ∃ i j weight, i ≠ j ∧ weight ≠ 0 ∧
    demand.cell? i j = some weight ∧ cluster.members[i]? = some s.origin ∧
      cluster.members[j]? = some s.destination
  /-- Shipments follow the demand row by row. -/
  row_major : shipments.Pairwise cluster.Precedes
  /-- No two shipments have one reference. -/
  distinct : (shipments.map (·.reference)).Nodup

section Conservation

variable {cluster : Cluster} {demand : DemandMatrix} {windows : ClusterWindows}
  {relaxed : List LocationCode} {settings : SweepSettings} {capacity : Nat}
  {blocks : List (List Shipment)}

/-- What goes from one code to another is the block of their cell, if that is not zero. -/
theorem parts_of_blocks (hnodup : cluster.members.Nodup)
    (h : List.Forall₂ (IsBlock cluster windows relaxed settings capacity) demand.nonzero blocks)
    {i j : Nat} {origin destination : LocationCode} {weight : Nat} (hij : i ≠ j)
    (hi : cluster.members[i]? = some origin) (hj : cluster.members[j]? = some destination)
    (hw : demand.cell? i j = some weight) :
    Parts capacity weight (shipmentsBetween blocks.flatten origin destination) := by
  -- Different positions hold different codes, so shipments are told apart by their cells.
  obtain ⟨chosen, hchosen, heq⟩ := filter_flatten_of_forall₂ h
    (p := fun s => s.origin = origin ∧ s.destination = destination)
    (q := fun c => c.origin = i ∧ c.destination = j) (by
      intro c block _ hblock s hs
      obtain ⟨ho, hd⟩ := hblock.ends hs
      exact decide_eq_decide.mpr
        (and_congr (eq_iff_of_nodup hnodup ho hi) (eq_iff_of_nodup hnodup hd hj)))
  rw [shipmentsBetween, heq]
  rw [DemandMatrix.filter_nonzero hij hw] at hchosen
  split at hchosen
  · rename_i h0
    cases hchosen
    exact ⟨h0.symm, fun s hs => absurd hs List.not_mem_nil, rfl⟩
  · obtain _ | ⟨hblock, hnil⟩ := hchosen
    cases hnil
    rw [List.flatten_singleton]
    exact hblock.parts

/-- Blocks follow the demand row by row. -/
theorem pairwise_precedes_of_blocks (hnodup : cluster.members.Nodup)
    (h : List.Forall₂ (IsBlock cluster windows relaxed settings capacity) demand.nonzero blocks) :
    blocks.flatten.Pairwise cluster.Precedes := by
  have hidx : ∀ {k : Nat} {code : LocationCode}, cluster.members[k]? = some code →
      cluster.members.idxOf code = k := by
    intro k code hk
    obtain ⟨hlt, rfl⟩ := List.getElem?_eq_some_iff.mp hk
    exact hnodup.idxOf_getElem k hlt
  -- Within a block the numbers decide, and between blocks their cells do.
  refine pairwise_flatten_of_forall₂ h demand.pairwise_before_nonzero ?_ ?_
  · intro c block hblock
    have hnumbers := hblock.parts.numbered ▸ List.pairwise_lt_range' 1
    refine (List.pairwise_map.mp hnumbers).imp_of_mem fun hs ht hlt => ?_
    obtain ⟨hso, hsd⟩ := hblock.ends hs
    obtain ⟨hto, htd⟩ := hblock.ends ht
    exact Or.inr ⟨(hidx hso).trans (hidx hto).symm, Or.inr ⟨(hidx hsd).trans (hidx htd).symm, hlt⟩⟩
  · intro c c' block block' hblock hblock' hbefore s hs t ht
    obtain ⟨hso, hsd⟩ := hblock.ends hs
    obtain ⟨hto, htd⟩ := hblock'.ends ht
    rw [Cluster.Precedes, hidx hso, hidx hsd, hidx hto, hidx htd]
    rcases hbefore with hrow | ⟨hrow, hcolumn⟩
    · exact Or.inl hrow
    · exact Or.inr ⟨hrow, Or.inl hcolumn⟩

theorem Cluster.Precedes.reference_ne {c : Cluster} {s t : Shipment} (h : c.Precedes s t) :
    s.reference ≠ t.reference := by
  intro he
  have ho : s.origin = t.origin := congrArg ShipmentRef.origin he
  have hd : s.destination = t.destination := congrArg ShipmentRef.destination he
  have hn : s.reference.sequence = t.reference.sequence := congrArg ShipmentRef.sequence he
  rw [Cluster.Precedes, ho, hd, hn] at h
  omega

/-- **Shipments carry the demand.** For a cluster without repetitions, a square demand of its size
and windows for all members, shipments can be built, and they conserve the demand. -/
theorem shipmentsOf_conserves (hnodup : cluster.members.Nodup)
    (hdemand : demand.IsSquare cluster.members.length)
    (hwindows : windows.members.length = cluster.members.length)
    (hmem : capacity ∈ settings.fleet.map FleetType.capacity)
    (hmax : ∀ t ∈ settings.fleet, t.capacity ≤ capacity) (relaxed : List LocationCode) :
    ∃ shipments, shipmentsOf cluster demand windows relaxed settings = .ok shipments ∧
      Conserves cluster demand capacity shipments := by
  have hc : settings.maxCapacity? = some capacity :=
    SweepSettings.maxCapacity?_eq_some_iff.mpr ⟨hmem, hmax⟩
  have hfleet : settings.fleet ≠ [] := by
    rintro hnil
    rw [hnil] at hmem
    cases hmem
  obtain ⟨shipments, hs⟩ := exists_shipmentsOf hdemand hwindows hfleet relaxed
  obtain ⟨blocks, hblocks, rfl⟩ := (shipmentsOf_eq_ok_iff hc).mp hs
  have hprecedes := pairwise_precedes_of_blocks hnodup hblocks
  refine ⟨_, hs, ?_, fun s hs => ?_, fun s hs => ?_, hprecedes, ?_⟩
  · exact fun i j origin destination weight => parts_of_blocks hnodup hblocks
  · obtain ⟨cell, hcell, block, hblock, hs⟩ := exists_block_of_mem_flatten hblocks hs
    exact hblock.weight_bounds (SweepSettings.maxCapacity?_pos hc)
      (Nat.pos_of_ne_zero (DemandMatrix.mem_nonzero.mp hcell).2.1) hs
  · obtain ⟨cell, hcell, block, hblock, hs⟩ := exists_block_of_mem_flatten hblocks hs
    obtain ⟨hne, h0, hw⟩ := DemandMatrix.mem_nonzero.mp hcell
    exact ⟨cell.origin, cell.destination, cell.weight, hne, h0, hw, hblock.ends hs⟩
  · exact List.pairwise_map.mpr (hprecedes.imp Cluster.Precedes.reference_ne)

/-- A hub between its branches, with cells of more than one load, of exactly one load, and between
branches. -/
theorem shipmentsOf_conserves_three :
    let cluster : Cluster := ⟨"H", ["X", "H", "Y"]⟩
    let demand : DemandMatrix := ⟨[[0, 23500, 40], [10000, 7, 0], [0, 20000, 0]]⟩
    let windows := ClusterWindows.derive cluster [⟨6, 14⟩, ⟨3, 20⟩, ⟨5, 12⟩] .standard
    cluster.members.Nodup ∧ demand.IsSquare 3 ∧
      ∃ shipments, shipmentsOf cluster demand windows ["Y"] .standard = .ok shipments ∧
        Conserves cluster demand 10000 shipments := by
  have hnodup : (["X", "H", "Y"] : List LocationCode).Nodup := by decide
  have hsquare : (⟨[[0, 23500, 40], [10000, 7, 0], [0, 20000, 0]]⟩ : DemandMatrix).IsSquare 3 :=
    ⟨rfl, by decide⟩
  exact ⟨hnodup, hsquare,
    shipmentsOf_conserves hnodup hsquare rfl (by decide) (by decide) ["Y"]⟩

end Conservation
end HubDispatch
