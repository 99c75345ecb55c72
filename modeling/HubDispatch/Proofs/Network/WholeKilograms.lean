import HubDispatch.Proofs.Decimal.Thousandths
import HubDispatch.Proofs.Network.Totals
import HubDispatch.Proofs.Sweep.Connection
import Mathlib.Algebra.BigOperators.Ring.Finset

/-!
# Kilograms that are lost

Volumes are decimals in thousands of kilograms. With at most three digits behind the point they are
whole kilograms, and so is what is planned for a branch in exact arithmetic.

The kilograms of a volume are computed as a product, and those of a branch as a sum of products.
Both are near to the whole number, but they may be below it, and then cutting the fraction off loses
a kilogram. It is one kilogram at most, and it is lost exactly if the sum is below the whole number
(`forCluster_whole_iff`).
-/

namespace HubDispatch

open Binary64.Exact (Counts Covers)

/-! ## Rows of decimals -/

/-- The rows differ at most in their volumes, and these are related column by column. -/
structure SalesRow.Related {V W : Type} (R : V → W → Prop) (row : SalesRow V) (other : SalesRow W) :
    Prop where
  head_eq : other.head = row.head
  location_eq : other.location = row.location
  volumes : List.Forall₂ R row.volumes other.volumes

namespace SalesPlan

section Related

variable {V W : Type} [NatCast V] [Mul V] [NatCast W] [Mul W] {R S : V → W → Prop}
  {rows : List (SalesRow V)} {others : List (SalesRow W)} {plan : SalesPlan V}
  {nodes : List LocationCode}

theorem rowEntries_related
    (hscale : ∀ v w, R v w → S (v * (unitKilograms : V)) (w * (unitKilograms : W)))
    {row : SalesRow V} {other : SalesRow W} (h : row.Related R other) :
    List.Forall₂ (fun entry entry' => entry'.1 = entry.1 ∧ S entry.2 entry'.2)
      (rowEntries nodes row) (rowEntries nodes other) := by
  obtain ⟨-, hlocation, hvolumes⟩ := h
  unfold rowEntries
  rw [hlocation, List.forall₂_map_left_iff, List.forall₂_map_right_iff]
  generalize row.volumes = vs at hvolumes
  generalize other.volumes = ws at hvolumes
  induction hvolumes generalizing nodes with
  | nil =>
    rw [List.zip_nil_right, List.zip_nil_right]
    exact .nil
  | cons hvw _ ih =>
    cases nodes with
    | nil => exact .nil
    | cons node nodes => exact .cons ⟨rfl, hscale _ _ hvw⟩ ih

/-- Rows with related volumes make plans with related volumes. -/
theorem exists_related_of_ofRows
    (hscale : ∀ v w, R v w → S (v * (unitKilograms : V)) (w * (unitKilograms : W)))
    (hrows : List.Forall₂ (SalesRow.Related R) rows others) (hplan : ofRows rows = .ok plan) :
    ∃ other, ofRows others = .ok other ∧ plan.Related S other := by
  have hshape : List.Forall₂ SalesRow.SameShape rows others :=
    hrows.imp fun _ _ h => ⟨h.head_eq, h.location_eq, h.volumes.length_eq.symm⟩
  obtain ⟨other, hother⟩ := exists_ofRows_of_sameShape hshape hplan
  refine ⟨other, hother, ?_⟩
  obtain ⟨-, rfl⟩ := ofRows_eq_ok_iff.mp hplan
  obtain ⟨-, rfl⟩ := ofRows_eq_ok_iff.mp hother
  have hnodes : others.map (·.location) = rows.map (·.location) := by
    rw [← List.forall₂_eq_eq_eq, List.forall₂_map_left_iff, List.forall₂_map_right_iff]
    exact hrows.flip.imp fun _ _ h => h.location_eq
  refine ⟨hnodes, ?_⟩
  rw [hnodes]
  exact List.rel_flatMap hrows fun _ _ h => rowEntries_related hscale h

end Related

/-! ## Totals -/

section Totals

variable {direction : Direction} {node : LocationCode} {plan : SalesPlan Float}
  {exact : SalesPlan ℚ}

/-- All that is planned between a node and the other nodes, toward the node or away from it. -/
def summed (plan : SalesPlan Float) (direction : Direction) (node : LocationCode) :
    Except Fault Float :=
  sumOf (plan.volumeAlong direction node) (plan.others node)

/-- The quantity is a whole number of kilograms, and computed as a number near to it. -/
def Kilograms (v : Float) (q : ℚ) : Prop :=
  ∃ n : Nat, q = n ∧ (n < 2 ^ 32 → Counts 1 v n)

/-- Codes that are listed once are counted once. -/
theorem counted_eq_once (h : exact.nodes.Nodup) (direction : Direction) (node : LocationCode) :
    exact.counted direction node = exact.once direction node := by
  refine Finset.sum_congr rfl fun other hother => ?_
  have hlisted := List.mem_toFinset.mp (Finset.mem_of_mem_erase hother)
  rw [List.count_eq_one_of_mem h hlisted, one_nsmul]

/-- The volumes between a node and the others, each with its whole kilograms. -/
theorem exists_kilograms (hplan : plan.Complete) (hrelated : plan.Related Kilograms exact)
    (hnode : node ∈ plan.nodes) (direction : Direction) :
    ∃ vs : List (Float × Nat), List.Forall₂ (fun other v =>
      plan.volumeAlong direction node other = .ok v.1 ∧ exact.flow direction node other = v.2 ∧
        (v.2 < 2 ^ 32 → Counts 1 v.1 v.2)) (plan.others node) vs := by
  refine exists_forall₂_iff.mpr fun other hother => ?_
  obtain ⟨v, hv⟩ := hplan.exists_volumeAlong hnode (List.mem_filter.mp hother).1 direction
  obtain ⟨q, hq, n, rfl, hcounts⟩ := hrelated.volumeAlong hv
  exact ⟨(v, n), hv, flow_of_volumeAlong hq, hcounts⟩

/-- **The total of a node** is a whole number of kilograms, and summed up it is near to it. -/
theorem exists_summed (hplan : plan.Complete) (hrelated : plan.Related Kilograms exact)
    (hcodes : plan.nodes.Nodup) (hnode : node ∈ plan.nodes) (direction : Direction) :
    ∃ whole : Nat, exact.once direction node = whole ∧ (whole < 2 ^ 32 →
      ∃ total, plan.summed direction node = .ok total ∧ Counts 2 total whole ∧
        ((∀ other ∈ plan.others node, ∀ v, plan.volumeAlong direction node other = .ok v →
          Covers v (exact.flow direction node other)) → Covers total whole)) := by
  obtain ⟨vs, hvs⟩ := exists_kilograms hplan hrelated hnode direction
  have hflows : (plan.others node).map (exact.flow direction node) =
      vs.map fun v => ((v.2 : Nat) : ℚ) := by
    rw [← List.forall₂_eq_eq_eq, List.forall₂_map_left_iff, List.forall₂_map_right_iff]
    exact hvs.imp fun _ _ h => h.2.1
  have hothers : exact.others node = plan.others node := by
    rw [others, others, hrelated.nodes_eq]
  refine ⟨(vs.map Prod.snd).sum, ?_, fun hwhole => ?_⟩
  · rw [← counted_eq_once (hrelated.nodes_eq ▸ hcodes), ← sum_others_eq_counted, hothers, hflows,
      Nat.cast_list_sum, List.map_map]
    rfl
  · have hmembers : ∀ v ∈ vs, v.2 < 2 ^ 32 := by
      intro v hv
      exact (List.le_sum_of_mem (List.mem_map_of_mem hv)).trans_lt hwhole
    have hparts : List.Forall₂ (Counts 1) (vs.map Prod.fst) (vs.map Prod.snd) := by
      rw [List.forall₂_map_left_iff, List.forall₂_map_right_iff, List.forall₂_same]
      intro v hv
      obtain ⟨other, -, -, -, hcounts⟩ := exists_of_mem_right hvs hv
      exact hcounts (hmembers v hv)
    have hstart := Binary64.Exact.counts_zero
    obtain ⟨hcounts, hcovers⟩ := hstart.1.foldl hparts (by rwa [Nat.zero_add])
    rw [Nat.zero_add] at hcounts hcovers
    refine ⟨_, ?_, hcounts, fun hall => hcovers hstart.2 ?_⟩
    · refine foldlM_eq_ok_iff.mpr ⟨vs.map Prod.fst, ?_, rfl⟩
      rw [List.forall₂_map_right_iff]
      exact hvs.imp fun _ _ h => h.1
    · rw [List.forall₂_map_left_iff, List.forall₂_map_right_iff, List.forall₂_same]
      intro v hv
      obtain ⟨other, hother, hvolume, hflow, -⟩ := exists_of_mem_right hvs hv
      exact hflow ▸ hall other hother v.1 hvolume

end Totals
end SalesPlan

/-! ## Cells -/

namespace DemandMatrix

variable {rows : List (SalesRow Float)} {plan : SalesPlan Float} {cluster : Cluster}
  {minimum : Float} {demand : DemandMatrix} {branch : LocationCode} {i : Nat}

/-- The cell of a branch in one direction, the hub at the other end. -/
def cellAlong? (demand : DemandMatrix) (direction : Direction) (hub branch : Nat) : Option Nat :=
  match direction with
  | .inbound => demand.cell? hub branch
  | .outbound => demand.cell? branch hub

/-- In either direction a branch has the whole kilograms of what is summed up for it. -/
theorem cellAlong_of_branch (hdemand : forCluster plan cluster minimum = .ok demand)
    (hhub : cluster.hub ∈ cluster.members) (hi : cluster.members[i]? = some branch)
    (hbranch : branch ≠ cluster.hub) {direction : Direction} {total : Float}
    (htotal : plan.summed direction branch = .ok total) :
    demand.cellAlong? direction cluster.hubIndex i =
      some (kilograms (SalesPlan.atLeast minimum total)) := by
  obtain ⟨gets, sends, hexchange, hgets, hsends⟩ := cells_of_branch hdemand hhub hi hbranch
  obtain ⟨arriving, leaving, harriving, hleaving, rfl, rfl⟩ := exchange_eq_ok_iff.mp hexchange
  cases direction with
  | inbound =>
    cases harriving.symm.trans htotal
    exact hgets
  | outbound =>
    cases hleaving.symm.trans htotal
    exact hsends

/-- Where something is planned, the minimum does not stand in for it, and of whole kilograms one is
lost at most. -/
theorem kilograms_of_counts (minimum : Float) {total : Float} {whole : Nat}
    (h : Counts 2 total whole) (hpos : 0 < whole) (hwhole : whole < 2 ^ 32) :
    (kilograms (SalesPlan.atLeast minimum total) = whole ∨
        kilograms (SalesPlan.atLeast minimum total) + 1 = whole) ∧
      (kilograms (SalesPlan.atLeast minimum total) = whole ↔ Covers total whole) := by
  have hstays : SalesPlan.atLeast minimum total = total := if_pos (h.pos hpos hwhole)
  rw [hstays]
  exact h.toCount32 hpos hwhole

/-- **When whole kilograms survive.** Rows with distinct codes that make clusters and a plan, their
volumes read from decimals with at most three digits behind the point, have a demand for every
cluster. What is planned for a branch in exact arithmetic is a whole number of kilograms in either
direction. If it is not zero and a count of 32 bits holds it, the cell of the branch in this
direction has this number or one kilogram less, and has it exactly if the sum that is computed is
not below it. No kilogram is lost where no computed volume is below its whole kilograms. -/
theorem forCluster_whole_iff {decimals : List (SalesRow ℚ)} {clusters : List Cluster}
    (hrows : List.Forall₂ (SalesRow.Related Decimal.ReadFrom) rows decimals)
    (hcodes : (rows.map (·.location)).Nodup) (hclusters : Cluster.ofRows rows = .ok clusters)
    (hplan : SalesPlan.ofRows rows = .ok plan) (hcluster : cluster ∈ clusters) (minimum : Float) :
    ∃ exact demand, SalesPlan.ofRows decimals = .ok exact ∧
      forCluster plan cluster minimum = .ok demand ∧
      ∀ i branch, cluster.members[i]? = some branch → branch ≠ cluster.hub → ∀ direction,
        ∃ whole : Nat, exact.once direction branch = whole ∧
          (0 < whole → whole ≤ Binary64.count32Max →
            ∃ total cell, plan.summed direction branch = .ok total ∧
              demand.cellAlong? direction cluster.hubIndex i = some cell ∧
              (cell = whole ∨ cell + 1 = whole) ∧ (cell = whole ↔ Covers total whole) ∧
              ((∀ other ∈ plan.others branch, ∀ v,
                plan.volumeAlong direction branch other = .ok v →
                  Covers v (exact.flow direction branch other)) → cell = whole)) := by
  have hcomplete := SalesPlan.complete_of_ofRows hplan
  have hnodes := SalesPlan.nodes_of_ofRows hplan
  have hmembers := SalesPlan.mem_nodes_of_ofRows hclusters hplan cluster hcluster
  have hhub := (Cluster.wellFormed_of_mem_ofRows hclusters hcluster).hub_mem
  have hscale : ∀ v q, Decimal.ReadFrom v q →
      SalesPlan.Kilograms (v * (SalesPlan.unitKilograms : Float)) (q * SalesPlan.unitKilograms) :=
    fun v q h => h.thousandfold
  obtain ⟨exact, hexact, hrelated⟩ := SalesPlan.exists_related_of_ofRows hscale hrows hplan
  obtain ⟨demand, hdemand⟩ := exists_forCluster hcomplete hmembers minimum
  refine ⟨exact, demand, hexact, hdemand, fun i branch hi hbranch direction => ?_⟩
  have hnode := hmembers branch (List.mem_of_getElem? hi)
  obtain ⟨whole, honce, hsummed⟩ :=
    SalesPlan.exists_summed hcomplete hrelated (hnodes ▸ hcodes) hnode direction
  refine ⟨whole, honce, fun hpos hfits => ?_⟩
  have hwhole : whole < 2 ^ 32 := Nat.lt_of_le_of_lt hfits (by decide)
  obtain ⟨total, htotal, hcounts, hcovers⟩ := hsummed hwhole
  obtain ⟨hlost, hkept⟩ := kilograms_of_counts minimum hcounts hpos hwhole
  exact ⟨total, _, htotal, cellAlong_of_branch hdemand hhub hi hbranch htotal, hlost, hkept,
    fun hall => hkept.mpr (hcovers hall)⟩

/-- A hub with one branch, and the kilograms that the branch gets and sends: volumes are written
with three digits behind the point. -/
def oneBranch (gets sends : Nat) : List (SalesRow Float) :=
  [⟨some "H", "H", [Decimal.nearest false 0 (-3), Decimal.nearest false gets (-3)]⟩,
    ⟨none, "X", [Decimal.nearest false sends (-3), Decimal.nearest false 0 (-3)]⟩]

/-- The same with rational numbers. -/
def oneBranchExactly (gets sends : Nat) : List (SalesRow ℚ) :=
  [⟨some "H", "H", [0, gets / 1000]⟩, ⟨none, "X", [sends / 1000, 0]⟩]

theorem related_oneBranch (gets sends : Nat) :
    List.Forall₂ (SalesRow.Related Decimal.ReadFrom) (oneBranch gets sends)
      (oneBranchExactly gets sends) := by
  have hread : ∀ n : Nat, Decimal.ReadFrom (Decimal.nearest false n (-3)) (n / 1000) := by
    intro n
    exact ⟨n, 3, by decide, rfl, by norm_num⟩
  have hzero : Decimal.ReadFrom (Decimal.nearest false 0 (-3)) 0 := by simpa using hread 0
  exact .cons ⟨rfl, rfl, .cons hzero (.cons (hread gets) .nil)⟩
    (.cons ⟨rfl, rfl, .cons (hread sends) (.cons hzero .nil)⟩ .nil)

/-- A ton and a quarter arrives as it is. -/
theorem forCluster_whole_quarter :
    List.Forall₂ (SalesRow.Related Decimal.ReadFrom) (oneBranch 1250 2500)
        (oneBranchExactly 1250 2500) ∧
      ((oneBranch 1250 2500).map (·.location)).Nodup ∧
      Cluster.ofRows (oneBranch 1250 2500) = .ok [⟨"H", ["H", "X"]⟩] ∧
      ∃ plan demand, SalesPlan.ofRows (oneBranch 1250 2500) = .ok plan ∧
        forCluster plan ⟨"H", ["H", "X"]⟩ 100.0 = .ok demand ∧
        demand.cellAlong? .inbound 0 1 = some 1250 := by
  have hrows := related_oneBranch 1250 2500
  have hcodes : ((oneBranch 1250 2500).map (·.location)).Nodup := by decide
  have hclusters : Cluster.ofRows (oneBranch 1250 2500) = .ok [⟨"H", ["H", "X"]⟩] := rfl
  obtain ⟨plan, hplan, htotal⟩ : ∃ plan, SalesPlan.ofRows (oneBranch 1250 2500) = .ok plan ∧
      plan.summed .inbound "X" = .ok 1250.0 := ⟨_, rfl, by decide +kernel⟩
  obtain ⟨exact, hexact, honce⟩ : ∃ exact,
      SalesPlan.ofRows (oneBranchExactly 1250 2500) = .ok exact ∧
        exact.once .inbound "X" = (1250 : Nat) := ⟨_, rfl, by decide +kernel⟩
  obtain ⟨exact', demand, hexact', hdemand, hcells⟩ := forCluster_whole_iff hrows hcodes hclusters
    hplan (List.mem_singleton_self _) 100.0
  cases hexact.symm.trans hexact'
  obtain ⟨whole, hwhole, hcell⟩ := hcells 1 "X" rfl (by decide) .inbound
  obtain rfl : 1250 = whole := Nat.cast_injective (honce.symm.trans hwhole)
  obtain ⟨total, cell, htotal', hat, -, hkept, -⟩ := hcell (by decide) (by decide)
  cases htotal.symm.trans htotal'
  have hcovers : Covers 1250.0 (1250 : Nat) := ⟨1250, by decide +kernel, by decide +kernel⟩
  exact ⟨hrows, hcodes, hclusters, plan, demand, hplan, hdemand, hkept.mpr hcovers ▸ hat⟩

/-- **A kilogram that is lost.** The volume is read from the decimal 1.005. That is 1005 kilograms,
but the product with a thousand is below, and the cell of the branch has 1004. -/
theorem forCluster_loses_kilogram :
    Decimal.readFloat "1.005".toList = .ok (Decimal.nearest false 1005 (-3)) ∧
      List.Forall₂ (SalesRow.Related Decimal.ReadFrom) (oneBranch 1005 2000)
        (oneBranchExactly 1005 2000) ∧
      ((oneBranch 1005 2000).map (·.location)).Nodup ∧
      Cluster.ofRows (oneBranch 1005 2000) = .ok [⟨"H", ["H", "X"]⟩] ∧
      ∃ plan exact demand, SalesPlan.ofRows (oneBranch 1005 2000) = .ok plan ∧
        SalesPlan.ofRows (oneBranchExactly 1005 2000) = .ok exact ∧
        forCluster plan ⟨"H", ["H", "X"]⟩ 100.0 = .ok demand ∧
        exact.once .inbound "X" = 1005 ∧ demand.cellAlong? .inbound 0 1 = some 1004 := by
  obtain ⟨plan, hplan, demand, hdemand, hcell⟩ : ∃ plan,
      SalesPlan.ofRows (oneBranch 1005 2000) = .ok plan ∧
        ∃ demand, forCluster plan ⟨"H", ["H", "X"]⟩ 100.0 = .ok demand ∧
          demand.cellAlong? .inbound 0 1 = some 1004 :=
    ⟨_, rfl, _, rfl, by decide +kernel⟩
  obtain ⟨exact, hexact, honce⟩ : ∃ exact,
      SalesPlan.ofRows (oneBranchExactly 1005 2000) = .ok exact ∧
        exact.once .inbound "X" = 1005 := ⟨_, rfl, by decide +kernel⟩
  exact ⟨by decide +kernel, related_oneBranch 1005 2000, by decide, rfl, plan, exact, demand, hplan,
    hexact, hdemand, honce, hcell⟩

end DemandMatrix
end HubDispatch
