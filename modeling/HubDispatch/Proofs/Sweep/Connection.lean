import HubDispatch.Proofs.Binary64.Truncation
import HubDispatch.Proofs.Network.Completeness
import HubDispatch.Proofs.Network.HubAndSpoke
import HubDispatch.Proofs.Sweep.Conservation

/-!
# Which branches stay connected

A branch for which nothing is planned gets the minimum, and sends it, so that it stays connected.
The minimum stands in for a total that is not positive, and it does so before the total is cut to
whole kilograms. A total between zero and one kilogram is positive, so nothing stands in for it, and
nothing is left of it (`kilograms_atLeast_ne_zero_iff`). Such a branch has an empty cell, and empty
cells are not shipped.

So with a minimum of at least one kilogram, freight goes to a branch exactly if what is planned to
arrive there is no fraction of a kilogram, and from it likewise (`forCluster_connects_iff`).
-/

namespace HubDispatch

/-! ## Totals -/

namespace SalesPlan

/-- All that arrives at a node from other nodes. -/
def arriving (plan : SalesPlan Float) (node : LocationCode) : Except Fault Float :=
  sumOf (plan.volume · node) (plan.others node)

/-- All that leaves a node for other nodes. -/
def leaving (plan : SalesPlan Float) (node : LocationCode) : Except Fault Float :=
  sumOf (plan.volume node ·) (plan.others node)

end SalesPlan

/-- Some freight, but less than a kilogram. -/
def IsFraction (total : Float) : Prop := 0.0 < total ∧ total < 1.0

namespace DemandMatrix

variable {plan : SalesPlan Float} {cluster : Cluster} {minimum total : Float} {m : DemandMatrix}
  {i gets sends : Nat} {code : LocationCode}

/-- A number has whole kilograms exactly if it is at least one. -/
theorem kilograms_ne_zero_iff : kilograms total ≠ 0 ↔ 1.0 ≤ total :=
  Binary64.Exact.toCount32_ne_zero_iff

/-- **The minimum does not stand in for a fraction**, of which nothing is left. -/
theorem kilograms_atLeast_ne_zero_iff (hminimum : 1.0 ≤ minimum) :
    kilograms (SalesPlan.atLeast minimum total) ≠ 0 ↔ ¬ IsFraction total := by
  rw [kilograms_ne_zero_iff]
  by_cases hpos : 0.0 < total
  · have htotal : SalesPlan.atLeast minimum total = total := if_pos hpos
    have hnumber : Binary64.Exact.ofFloat total ≠ .nan := (Binary64.Exact.ne_nan_of_lt hpos).2
    rw [htotal, IsFraction, and_iff_right hpos,
      ← Binary64.Exact.not_le_iff_lt (by decide +kernel) hnumber, not_not]
  · have hstands : SalesPlan.atLeast minimum total = minimum := if_neg hpos
    rw [hstands]
    exact iff_of_true hminimum fun hfraction => hpos hfraction.1

/-- What a member gets and what it sends come from its two totals. -/
theorem exchange_eq_ok_iff :
    exchange plan minimum code = .ok (gets, sends) ↔
      ∃ arriving leaving, plan.arriving code = .ok arriving ∧ plan.leaving code = .ok leaving ∧
        kilograms (SalesPlan.atLeast minimum arriving) = gets ∧
        kilograms (SalesPlan.atLeast minimum leaving) = sends := by
  simp only [exchange, SalesPlan.totalInbound, SalesPlan.totalOutbound, bind_eq_ok_iff,
    map_eq_ok_iff]
  constructor
  · rintro ⟨_, ⟨arriving, harriving, rfl⟩, _, ⟨leaving, hleaving, rfl⟩, he⟩
    cases he
    exact ⟨arriving, leaving, harriving, hleaving, rfl, rfl⟩
  · rintro ⟨arriving, leaving, harriving, hleaving, rfl, rfl⟩
    exact ⟨_, ⟨arriving, harriving, rfl⟩, _, ⟨leaving, hleaving, rfl⟩, rfl⟩

end DemandMatrix

/-! ## Shipments -/

section Shipments

variable {cluster : Cluster} {demand : DemandMatrix} {windows : ClusterWindows}
  {relaxed : List LocationCode} {settings : SweepSettings} {capacity : Nat} {cell : DemandCell}
  {block shipments : List Shipment} {origin destination : LocationCode}

/-- A cell with freight has a shipment. -/
theorem IsBlock.ne_nil (h : IsBlock cluster windows relaxed settings capacity cell block)
    (hw : cell.weight ≠ 0) : block ≠ [] := by
  rintro rfl
  exact hw h.parts.sum.symm

/-- **Something is shipped** from one code to another exactly if a cell with freight has them at its
ends. -/
theorem exists_shipment_iff
    (h : shipmentsOf cluster demand windows relaxed settings = .ok shipments) :
    (∃ s ∈ shipments, s.origin = origin ∧ s.destination = destination) ↔
      ∃ cell ∈ demand.nonzero, cluster.members[cell.origin]? = some origin ∧
        cluster.members[cell.destination]? = some destination := by
  obtain ⟨capacity, blocks, -, hblocks, rfl⟩ := exists_blocks_of_shipmentsOf h
  constructor
  · rintro ⟨s, hs, rfl, rfl⟩
    obtain ⟨cell, hcell, block, hblock, hs⟩ := exists_block_of_mem_flatten hblocks hs
    exact ⟨cell, hcell, hblock.ends hs⟩
  · rintro ⟨cell, hcell, horigin, hdestination⟩
    obtain ⟨block, hmem, (hblock : IsBlock cluster windows relaxed settings capacity cell block)⟩
      := exists_of_mem_right hblocks.flip hcell
    obtain ⟨s, hs⟩ := List.exists_mem_of_ne_nil _
      (hblock.ne_nil (DemandMatrix.mem_nonzero.mp hcell).2.1)
    obtain ⟨ho, hd⟩ := hblock.ends hs
    rw [ho, Option.some.injEq] at horigin
    rw [hd, Option.some.injEq] at hdestination
    exact ⟨s, List.mem_flatten.mpr ⟨block, hmem, hs⟩, horigin, hdestination⟩

/-- **To and from a branch** something is shipped exactly if its two cells are not zero. -/
theorem exists_shipment_branch_iff {plan : SalesPlan Float} {minimum : Float}
    {branch : LocationCode} {i gets sends : Nat}
    (hdemand : DemandMatrix.forCluster plan cluster minimum = .ok demand)
    (hhub : cluster.hub ∈ cluster.members) (hi : cluster.members[i]? = some branch)
    (hbranch : branch ≠ cluster.hub)
    (hexchange : DemandMatrix.exchange plan minimum branch = .ok (gets, sends))
    (h : shipmentsOf cluster demand windows relaxed settings = .ok shipments) :
    ((∃ s ∈ shipments, s.origin = cluster.hub ∧ s.destination = branch) ↔ gets ≠ 0) ∧
      ((∃ s ∈ shipments, s.origin = branch ∧ s.destination = cluster.hub) ↔ sends ≠ 0) := by
  have hat := Cluster.getElem?_hubIndex_of_mem hhub
  -- The branch may stand at several positions; the numbers are the same at each.
  have hoff : ∀ {j : Nat}, cluster.members[j]? = some branch → j ≠ cluster.hubIndex := fun hj =>
    Cluster.ne_hubIndex_of_ne hhub hj hbranch
  have hcells : ∀ {j : Nat}, cluster.members[j]? = some branch →
      demand.cell? cluster.hubIndex j = some gets ∧
        demand.cell? j cluster.hubIndex = some sends := by
    intro j hj
    obtain ⟨gets', sends', hsame, hgets, hsends⟩ :=
      DemandMatrix.cells_of_branch hdemand hhub hj hbranch
    cases hexchange.symm.trans hsame
    exact ⟨hgets, hsends⟩
  rw [exists_shipment_iff h, exists_shipment_iff h]
  constructor
  · constructor
    · rintro ⟨cell, hcell, -, hdestination⟩
      obtain ⟨hne, h0, hw⟩ := DemandMatrix.mem_nonzero.mp hcell
      rcases DemandMatrix.hub_of_cell hdemand hne hw h0 with ⟨horigin, -⟩ | ⟨-, hto⟩
      · rw [horigin, (hcells hdestination).1, Option.some.injEq] at hw
        rwa [hw]
      · exact absurd hto (hoff hdestination)
    · intro h0
      exact ⟨⟨cluster.hubIndex, i, gets⟩,
        DemandMatrix.mem_nonzero.mpr ⟨(hoff hi).symm, h0, (hcells hi).1⟩, hat, hi⟩
  · constructor
    · rintro ⟨cell, hcell, horigin, -⟩
      obtain ⟨hne, h0, hw⟩ := DemandMatrix.mem_nonzero.mp hcell
      rcases DemandMatrix.hub_of_cell hdemand hne hw h0 with ⟨hfrom, -⟩ | ⟨-, hto⟩
      · exact absurd hfrom (hoff horigin)
      · rw [hto, (hcells horigin).2, Option.some.injEq] at hw
        rwa [hw]
    · intro h0
      exact ⟨⟨i, cluster.hubIndex, sends⟩,
        DemandMatrix.mem_nonzero.mpr ⟨hoff hi, h0, (hcells hi).2⟩, hi, hat⟩

end Shipments

/-- **Which branches stay connected.** For a complete plan, a cluster of its nodes and a minimum of
at least one kilogram there is a demand. Its two cells for a branch are not zero, and shipments go
to the branch and come from it, exactly if the total in this direction is not a fraction of a
kilogram. -/
theorem forCluster_connects_iff {plan : SalesPlan Float} {cluster : Cluster} {minimum : Float}
    (hplan : plan.Complete) (hmembers : ∀ m ∈ cluster.members, m ∈ plan.nodes)
    (hhub : cluster.hub ∈ cluster.members) (hminimum : 1.0 ≤ minimum) :
    ∃ demand, DemandMatrix.forCluster plan cluster minimum = .ok demand ∧
      ∀ i branch, cluster.members[i]? = some branch → branch ≠ cluster.hub →
        ∃ arriving leaving gets sends,
          plan.arriving branch = .ok arriving ∧ plan.leaving branch = .ok leaving ∧
          demand.cell? cluster.hubIndex i = some gets ∧
          demand.cell? i cluster.hubIndex = some sends ∧
          (gets ≠ 0 ↔ ¬ IsFraction arriving) ∧ (sends ≠ 0 ↔ ¬ IsFraction leaving) ∧
          ∀ windows relaxed settings, windows.members.length = cluster.members.length →
            settings.fleet ≠ [] →
            ∃ shipments, shipmentsOf cluster demand windows relaxed settings = .ok shipments ∧
              ((∃ s ∈ shipments, s.origin = cluster.hub ∧ s.destination = branch) ↔
                ¬ IsFraction arriving) ∧
              ((∃ s ∈ shipments, s.origin = branch ∧ s.destination = cluster.hub) ↔
                ¬ IsFraction leaving) := by
  obtain ⟨demand, hdemand⟩ := DemandMatrix.exists_forCluster hplan hmembers minimum
  refine ⟨demand, hdemand, fun i branch hi hbranch => ?_⟩
  obtain ⟨gets, sends, hexchange, hgets, hsends⟩ :=
    DemandMatrix.cells_of_branch hdemand hhub hi hbranch
  obtain ⟨arriving, leaving, harriving, hleaving, rfl, rfl⟩ :=
    DemandMatrix.exchange_eq_ok_iff.mp hexchange
  have hwhole : ∀ total, DemandMatrix.kilograms (SalesPlan.atLeast minimum total) ≠ 0 ↔
      ¬ IsFraction total := fun _ => DemandMatrix.kilograms_atLeast_ne_zero_iff hminimum
  refine ⟨arriving, leaving, _, _, harriving, hleaving, hgets, hsends, hwhole _, hwhole _,
    fun windows relaxed settings hwindows hfleet => ?_⟩
  obtain ⟨shipments, hshipments⟩ := exists_shipmentsOf
    (DemandMatrix.isSquare_of_forCluster hdemand) hwindows hfleet relaxed
  obtain ⟨hgoes, hcomes⟩ :=
    exists_shipment_branch_iff hdemand hhub hi hbranch hexchange hshipments
  exact ⟨shipments, hshipments, hgoes.trans (hwhole _), hcomes.trans (hwhole _)⟩

/-- A hub that sends its branch some kilograms and gets nothing back. -/
def oneWay (kilograms : Float) : SalesPlan Float :=
  ⟨["H", "X"], [(("H", "H"), 0.0), (("H", "X"), kilograms), (("X", "H"), 0.0), (("X", "X"), 0.0)]⟩

theorem complete_oneWay (kilograms : Float) : (oneWay kilograms).Complete := by
  intro a ha b hb
  have hpair : ∀ {c : LocationCode}, c ∈ (oneWay kilograms).nodes → c = "H" ∨ c = "X" := by
    simp [oneWay]
  rcases hpair ha with rfl | rfl
  · rcases hpair hb with rfl | rfl
    · exact ⟨_, rfl⟩
    · exact ⟨_, rfl⟩
  · rcases hpair hb with rfl | rfl
    · exact ⟨_, rfl⟩
    · exact ⟨_, rfl⟩

/-- One kilogram and a half is shipped as one, and the minimum comes back. -/
theorem forCluster_connects_whole :
    let cluster : Cluster := ⟨"H", ["H", "X"]⟩
    let demand : DemandMatrix := ⟨[[0, 1], [100, 0]]⟩
    let windows := ClusterWindows.derive cluster [⟨3, 20⟩, ⟨6, 14⟩] .standard
    DemandMatrix.forCluster (oneWay 1.5) cluster 100.0 = .ok demand ∧
      ∃ shipments, shipmentsOf cluster demand windows [] .standard = .ok shipments ∧
        (∃ s ∈ shipments, s.origin = "H" ∧ s.destination = "X") ∧
        ∃ s ∈ shipments, s.origin = "X" ∧ s.destination = "H" := by
  intro cluster demand windows
  have hmembers : ∀ m ∈ cluster.members, m ∈ (oneWay 1.5).nodes := by decide
  have hhub : cluster.hub ∈ cluster.members := by decide
  have hminimum : (1.0 : Float) ≤ 100.0 := by decide +kernel
  have hdemand : DemandMatrix.forCluster (oneWay 1.5) cluster 100.0 = .ok demand := by
    decide +kernel
  obtain ⟨demand', hdemand', hbranches⟩ :=
    forCluster_connects_iff (complete_oneWay 1.5) hmembers hhub hminimum
  obtain rfl : demand = demand' := Except.ok.inj (hdemand.symm.trans hdemand')
  obtain ⟨_, _, gets, sends, -, -, hgets, hsends, hto, hfrom, hbuilt⟩ :=
    hbranches 1 "X" rfl (by decide)
  obtain ⟨shipments, hshipments, hgoes, hcomes⟩ := hbuilt windows [] .standard rfl (by decide)
  obtain rfl : 1 = gets := Option.some.inj hgets
  obtain rfl : 100 = sends := Option.some.inj hsends
  exact ⟨hdemand, shipments, hshipments, hgoes.mpr (hto.mp (by decide)),
    hcomes.mpr (hfrom.mp (by decide))⟩

/-- **Half a kilogram.** The minimum of a hundred does not stand in for it: the branch has an empty
cell, and nothing is shipped to it. -/
theorem forCluster_drops_half :
    let cluster : Cluster := ⟨"H", ["H", "X"]⟩
    let demand : DemandMatrix := ⟨[[0, 0], [100, 0]]⟩
    let windows := ClusterWindows.derive cluster [⟨3, 20⟩, ⟨6, 14⟩] .standard
    (oneWay 0.5).Complete ∧
      (∀ entry ∈ (oneWay 0.5).volumes, entry.2.isFinite = true ∧ 0.0 ≤ entry.2) ∧
      DemandMatrix.forCluster (oneWay 0.5) cluster 100.0 = .ok demand ∧
      ∃ shipments, shipmentsOf cluster demand windows [] .standard = .ok shipments ∧
        ¬ ∃ s ∈ shipments, s.origin = "H" ∧ s.destination = "X" := by
  intro cluster demand windows
  refine ⟨complete_oneWay 0.5, by decide +kernel, by decide +kernel, _, rfl, ?_⟩
  decide +kernel

end HubDispatch
