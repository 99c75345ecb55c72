import HubDispatch.Proofs.Network.Partition

/-!
# Complete networks

A network that comes from rows knows all that is asked of it later on: the volume from every member
of a cluster to every other, and the record of every member (`complete_of_ofRows`). Rows with a
volume for every row give a plan for all ordered pairs of their codes, the members are among these
codes because clusters leave no code out, and records were looked up when the network was built.
Sums over members and over nodes therefore always exist, and so do the demand of a cluster, the
locations of its members and their cutoffs.
-/

namespace HubDispatch

namespace SalesPlan

variable {V : Type} {plan : SalesPlan V} {a b : LocationCode} {v : V}

theorem volume_eq_ok_iff : plan.volume a b = .ok v ↔ plan.volume? a b = some v := by
  unfold volume
  cases plan.volume? a b <;> simp

/-- A known volume is one that was listed. -/
theorem mem_volumes_of_volume (h : plan.volume a b = .ok v) : ((a, b), v) ∈ plan.volumes := by
  obtain ⟨⟨pair, w⟩, hfind, rfl⟩ := Option.map_eq_some_iff.mp (volume_eq_ok_iff.mp h)
  rw [List.findRev?_eq_find?_reverse] at hfind
  have hpair := List.find?_some hfind
  obtain rfl : pair = (a, b) := beq_iff_eq.mp hpair
  exact List.mem_reverse.mp (List.mem_of_find?_eq_some hfind)

/-- A listed pair has a known volume, if not the one listed here. -/
theorem exists_volume_of_mem (h : ((a, b), v) ∈ plan.volumes) : ∃ w, plan.volume a b = .ok w := by
  have hfound : (plan.volumes.findRev? fun entry => entry.1 == (a, b)).isSome := by
    rw [List.findRev?_eq_find?_reverse, List.find?_isSome]
    exact ⟨_, List.mem_reverse.mpr h, beq_self_eq_true _⟩
  obtain ⟨entry, hentry⟩ := Option.isSome_iff_exists.mp hfound
  exact ⟨entry.2, volume_eq_ok_iff.mpr (by rw [volume?, hentry, Option.map_some])⟩

/-- The volume is known from every node to every node. -/
def Complete (plan : SalesPlan V) : Prop :=
  ∀ a ∈ plan.nodes, ∀ b ∈ plan.nodes, ∃ v, plan.volume a b = .ok v

section Rows

variable [NatCast V] [Mul V] {rows : List (SalesRow V)} {nodes : List LocationCode}

/-- The volumes of a row with their pairs, in kilograms. -/
def rowEntries (nodes : List LocationCode) (row : SalesRow V) :
    List ((LocationCode × LocationCode) × V) :=
  (nodes.zip row.volumes).map fun (destination, v) =>
    ((row.location, destination), v * (unitKilograms : V))

/-- A plan is made from rows that have one volume for every row, and lists all of these. -/
theorem ofRows_eq_ok_iff :
    ofRows rows = .ok plan ↔ (∀ row ∈ rows, row.volumes.length = rows.length) ∧
      (⟨rows.map (·.location), rows.flatMap (rowEntries (rows.map (·.location)))⟩ : SalesPlan V) =
        plan := by
  have hrow : ∀ (row : SalesRow V) entries, rowVolumes (rows.map (·.location)) row = .ok entries ↔
      row.volumes.length = rows.length ∧ rowEntries (rows.map (·.location)) row = entries := by
    intro row entries
    unfold rowVolumes
    rw [List.length_map]
    split
    · rename_i hlen
      simp [hlen, rowEntries]
    · rename_i hlen
      simp [hlen]
  unfold ofRows
  simp only [bind_eq_ok_iff, mapM_eq_ok_map_iff fun row _ entries => hrow row entries]
  constructor
  · rintro ⟨_, ⟨hlen, rfl⟩, he⟩
    exact ⟨hlen, Except.ok.inj he⟩
  · rintro ⟨hlen, rfl⟩
    exact ⟨_, ⟨hlen, rfl⟩, rfl⟩

theorem nodes_of_ofRows (h : ofRows rows = .ok plan) : plan.nodes = rows.map (·.location) := by
  obtain ⟨-, rfl⟩ := ofRows_eq_ok_iff.mp h
  rfl

/-- Every volume of the plan is a volume of some row, in kilograms. -/
theorem exists_row_of_volume (h : ofRows rows = .ok plan) (hv : plan.volume a b = .ok v) :
    ∃ row ∈ rows, ∃ w ∈ row.volumes, v = w * (unitKilograms : V) := by
  obtain ⟨-, rfl⟩ := ofRows_eq_ok_iff.mp h
  obtain ⟨row, hrow, hmem⟩ := List.mem_flatMap.mp (mem_volumes_of_volume hv)
  obtain ⟨⟨destination, w⟩, hzip, he⟩ := List.mem_map.mp hmem
  cases he
  exact ⟨row, hrow, w, (List.of_mem_zip hzip).2, rfl⟩

/-- **A plan that comes from rows is complete.** -/
theorem complete_of_ofRows (h : ofRows rows = .ok plan) : plan.Complete := by
  obtain ⟨hlen, rfl⟩ := ofRows_eq_ok_iff.mp h
  intro a ha b hb
  obtain ⟨row, hrow, rfl⟩ := List.mem_map.mp ha
  -- The column of `b` is there, for the row has as many volumes as there are nodes.
  obtain ⟨i, hi, rfl⟩ := List.getElem_of_mem hb
  have hzip : i < ((rows.map (·.location)).zip row.volumes).length := by
    rw [List.length_zip, hlen row hrow, List.length_map, Nat.min_self]
    simpa using hi
  have hvolume : i < row.volumes.length := by
    rw [List.length_zip] at hzip
    omega
  refine exists_volume_of_mem (v := row.volumes[i] * (unitKilograms : V)) ?_
  refine List.mem_flatMap.mpr ⟨row, hrow, List.mem_map.mpr ⟨_, List.getElem_mem hzip, ?_⟩⟩
  rw [List.getElem_zip]

end Rows

section Sums

variable [NatCast V] [Add V] {cluster : Cluster}

/-- A sum of known quantities is known. -/
theorem exists_sumOf {α : Type} {quantity : α → Except Fault V} {xs : List α}
    (h : ∀ x ∈ xs, ∃ v, quantity x = .ok v) : ∃ total, sumOf quantity xs = .ok total := by
  obtain ⟨vs, hvs⟩ := mapM_ok_of_forall_ok h
  exact ⟨_, foldlM_eq_ok_iff.mpr ⟨vs, mapM_eq_ok_iff.mp hvs, rfl⟩⟩

theorem Complete.exists_totalToCluster (h : plan.Complete) (ha : a ∈ plan.nodes)
    (hmembers : ∀ m ∈ cluster.members, m ∈ plan.nodes) :
    ∃ total, plan.totalToCluster a cluster = .ok total :=
  exists_sumOf fun m hm => h a ha m (hmembers m hm)

variable [LT V] [DecidableLT V]

theorem Complete.exists_totalOutbound (h : plan.Complete) (ha : a ∈ plan.nodes) (minimum : V) :
    ∃ total, plan.totalOutbound a minimum = .ok total := by
  have hvolumes : ∀ b ∈ plan.others a, ∃ v, plan.volume a b = .ok v :=
    fun b hb => h a ha b (List.mem_filter.mp hb).1
  obtain ⟨total, htotal⟩ := exists_sumOf hvolumes
  exact ⟨_, map_eq_ok_iff.mpr ⟨total, htotal, rfl⟩⟩

theorem Complete.exists_totalInbound (h : plan.Complete) (ha : a ∈ plan.nodes) (minimum : V) :
    ∃ total, plan.totalInbound a minimum = .ok total := by
  have hvolumes : ∀ b ∈ plan.others a, ∃ v, plan.volume b a = .ok v :=
    fun b hb => h b (List.mem_filter.mp hb).1 a ha
  obtain ⟨total, htotal⟩ := exists_sumOf hvolumes
  exact ⟨_, map_eq_ok_iff.mpr ⟨total, htotal, rfl⟩⟩

end Sums

/-- The members of the clusters of some rows are nodes of their plan. -/
theorem mem_nodes_of_ofRows [NatCast V] [Mul V] {rows : List (SalesRow V)} {clusters : List Cluster}
    (hclusters : Cluster.ofRows rows = .ok clusters) (hplan : ofRows rows = .ok plan) :
    ∀ c ∈ clusters, ∀ m ∈ c.members, m ∈ plan.nodes := by
  intro c hc m hm
  rw [nodes_of_ofRows hplan, ← List.mem_eraseDups, ← Cluster.flatMap_members_of_ofRows hclusters]
  exact List.mem_flatMap.mpr ⟨c, hc, hm⟩

end SalesPlan

/-- **A cluster of nodes of a complete plan has a demand.** -/
theorem DemandMatrix.exists_forCluster {plan : SalesPlan Float} {cluster : Cluster}
    (h : plan.Complete) (hmembers : ∀ m ∈ cluster.members, m ∈ plan.nodes) (minimum : Float) :
    ∃ demand, forCluster plan cluster minimum = .ok demand := by
  have hexchange : ∀ m ∈ cluster.members, ∃ e, exchange plan minimum m = .ok e := by
    intro m hm
    obtain ⟨inbound, hin⟩ := h.exists_totalInbound (hmembers m hm) minimum
    obtain ⟨outbound, hout⟩ := h.exists_totalOutbound (hmembers m hm) minimum
    exact ⟨_, bind_eq_ok_iff.mpr ⟨inbound, hin, bind_eq_ok_iff.mpr ⟨outbound, hout, rfl⟩⟩⟩
  obtain ⟨ex, hex⟩ : ∃ ex, exchanges plan cluster minimum = .ok ex := by
    refine mapM_ok_of_forall_ok fun ⟨m, i⟩ hm => ?_
    dsimp only
    split
    · exact ⟨_, rfl⟩
    · exact hexchange m (List.fst_mem_of_mem_zipIdx hm)
  exact ⟨_, bind_eq_ok_iff.mpr ⟨ex, hex, rfl⟩⟩

namespace Network

variable {V : Type} {network : Network V}

/-- All that is asked of the network is known. -/
structure Complete (network : Network V) : Prop where
  plan : network.plan.Complete
  mem_nodes : ∀ c ∈ network.clusters, ∀ m ∈ c.members, m ∈ network.plan.nodes
  located : ∀ c ∈ network.clusters, ∀ m ∈ c.members, ∃ l, network.location m = .ok l

/-- **A network that comes from rows is complete.** -/
theorem complete_of_ofRows [NatCast V] [Mul V] {rows : List (SalesRow V)}
    {locations : List Location} {minimum : V}
    (h : ofRows rows locations minimum = .ok network) : network.Complete := by
  obtain ⟨hclusters, hplan, hlocated, -, -⟩ := ofRows_eq_ok_iff.mp h
  exact ⟨SalesPlan.complete_of_ofRows hplan, SalesPlan.mem_nodes_of_ofRows hclusters hplan,
    hlocated⟩

section Members

variable {c : Cluster}

theorem Complete.exists_memberLocations (h : network.Complete) (hc : c ∈ network.clusters) :
    ∃ locations, network.memberLocations c = .ok locations ∧
      locations.length = c.members.length := by
  obtain ⟨locations, hl⟩ := mapM_ok_of_forall_ok (h.located c hc)
  exact ⟨locations, hl, length_of_mapM hl⟩

theorem Complete.exists_cutoffs (h : network.Complete) (hc : c ∈ network.clusters) :
    ∃ cutoffs, network.cutoffs c = .ok cutoffs ∧ cutoffs.length = c.members.length := by
  obtain ⟨locations, hl, hlen⟩ := h.exists_memberLocations hc
  exact ⟨_, bind_eq_ok_iff.mpr ⟨locations, hl, rfl⟩, by rw [List.length_map, hlen]⟩

end Members

theorem Complete.exists_demand {network : Network Float} (h : network.Complete) {c : Cluster}
    (hc : c ∈ network.clusters) :
    ∃ demand, network.demand c = .ok demand ∧ demand.IsSquare c.members.length := by
  obtain ⟨demand, hd⟩ := DemandMatrix.exists_forCluster h.plan (h.mem_nodes c hc) network.minimum
  exact ⟨demand, hd, DemandMatrix.isSquare_of_forCluster hd⟩

end Network
end HubDispatch
