import HubDispatch.Proofs.Network.Completeness
import HubDispatch.Proofs.Sweep.Relaxation
import HubDispatch.Proofs.Sweep.Windows

/-!
# What the full branch day holds

Relaxation does not widen the delivery window of a branch, it replaces it by the whole day of the
branch. The window begins with the day and ends with the inbound cutoff, so the day holds it as long
as the cutoff comes within the day. Cutoffs are not checked against anything: one that comes later
makes the relaxed window the smaller one (`fullBranchDay_contains_iff`).
-/

namespace HubDispatch

open Binary64 (Exact)

/-- The window opens no later than another one and closes no earlier. -/
def TimeWindow.Contains (w v : TimeWindow) : Prop :=
  ¬ v.earliest < w.earliest ∧ ¬ w.latest < v.latest

theorem TimeWindow.contains_self (w : TimeWindow) : w.Contains w :=
  ⟨Exact.not_lt_self _, Exact.not_lt_self _⟩

/-- Whether an hour comes after the end of the branch day can be said of the whole number. -/
theorem upper_lt_ofInt_iff {hour : Int} :
    TimeBounds.standard.branchUpper < Float.ofInt hour ↔ 24 < hour := by
  have hupper : TimeBounds.standard.branchUpper = Float.ofInt 24 := by
    refine Exact.eq_of_rank_eq ?_ (Exact.proper_ofInt 24) ?_
    · exact ⟨by decide +kernel, by decide +kernel⟩
    · decide +kernel
  rw [hupper]
  exact Exact.ofInt_lt_iff_of_left (by decide) (by decide)

/-- **The full day holds the window of a branch** if its inbound cutoff comes within the day. -/
theorem fullBranchDay_contains_iff {c : Cutoffs} :
    TimeBounds.standard.fullBranchDay.Contains
        (ClusterWindows.branch TimeBounds.standard c).delivery ↔ c.inbound ≤ 24 := by
  have hopens : ¬ TimeBounds.standard.branchLower < TimeBounds.standard.branchLower :=
    Exact.not_lt_self _
  have hcloses : ¬ TimeBounds.standard.branchUpper < Float.ofInt c.inbound ↔ c.inbound ≤ 24 := by
    rw [upper_lt_ofInt_iff, not_lt]
  exact (and_iff_right hopens).trans hcloses

section Delivery

variable {cluster : Cluster} {cutoffs : List Cutoffs} {settings : SweepSettings}
  {demand : DemandMatrix} {dispatch : Float} {shipments : List Shipment}

/-- Freight from the hub to a branch is delivered within the window of the branch's cutoffs. -/
theorem delivery_of_mem_shipmentsOf (hc : cluster.WellFormed)
    (hlength : cutoffs.length = cluster.members.length)
    (h : shipmentsOf cluster demand ((ClusterWindows.derive cluster cutoffs
      settings.bounds).withDispatchTime dispatch) [] settings = .ok shipments)
    {s : Shipment} (hs : s ∈ shipments) (hfrom : s.origin = cluster.hub)
    (hto : s.destination ≠ cluster.hub) :
    ∃ (i : Nat) (c : Cutoffs), cluster.members[i]? = some s.destination ∧ cutoffs[i]? = some c ∧
      s.delivery = (ClusterWindows.branch settings.bounds c).delivery := by
  obtain ⟨capacity, blocks, -, hblocks, rfl⟩ := exists_blocks_of_shipmentsOf h
  obtain ⟨cell, -, block, ⟨e, he, rfl⟩, hs⟩ := exists_block_of_mem_flatten hblocks hs
  obtain ⟨⟨weight, k⟩, -, rfl⟩ := List.mem_map.mp hs
  have hposition : cell.destination ≠ cluster.hubIndex :=
    (hc.getElem?_eq_hub_iff he.destination).not.mp hto
  have hfromHub : e.fromHub = true := by
    rw [he.fromHub, beq_iff_eq]
    exact (hc.getElem?_eq_hub_iff he.origin).mp hfrom
  obtain ⟨hlt, -⟩ := List.getElem?_eq_some_iff.mp he.destination
  have hcutoffs := List.getElem?_eq_getElem (hlength ▸ hlt)
  refine ⟨cell.destination, _, he.destination, hcutoffs, ?_⟩
  have hwindow := he.delivery
  rw [ClusterWindows.getElem?_of_branch hcutoffs hposition, Option.map_some,
    Option.some.injEq] at hwindow
  rw [hwindow]
  simp [CellEnds.shipment, CellEnds.deliveryWindow, hfromHub]

end Delivery

/-- The cutoffs of a cluster are those of the records of its members. -/
theorem Network.location_of_cutoffs {V : Type} {network : Network V} {cluster : Cluster}
    {cutoffs : List Cutoffs} (h : network.cutoffs cluster = .ok cutoffs) {i : Nat}
    {code : LocationCode} {c : Cutoffs} (hcode : cluster.members[i]? = some code)
    (hc : cutoffs[i]? = some c) : ∃ l, network.location code = .ok l ∧ l.cutoffs = c := by
  obtain ⟨locations, hl, hmap⟩ := bind_eq_ok_iff.mp h
  obtain rfl := Except.ok.inj hmap
  rw [List.getElem?_map] at hc
  obtain ⟨l, hget, hcut⟩ := Option.map_eq_some_iff.mp hc
  obtain ⟨hlt, rfl⟩ := List.getElem?_eq_some_iff.mp hcode
  obtain ⟨hlt', rfl⟩ := List.getElem?_eq_some_iff.mp hget
  exact ⟨_, (mapM_eq_ok_iff.mp hl).get hlt hlt', hcut⟩

/-- **When relaxation does not tighten.** In a network that comes from rows, with the standard
bounds of the day, each shipment built with some branches relaxed can be delivered whenever it can
be delivered otherwise, unless it goes from the hub to a relaxed branch whose inbound cutoff comes
after the end of the branch day. -/
theorem relaxed_contains_iff {rows : List (SalesRow Float)} {locations : List Location}
    {minimum : Float} {network : Network Float} {cluster : Cluster} {settings : SweepSettings}
    (hnetwork : Network.ofRows rows locations minimum = .ok network)
    (hcluster : cluster ∈ network.clusters) (hbounds : settings.bounds = .standard) :
    ∃ cutoffs, network.cutoffs cluster = .ok cutoffs ∧
      ∀ demand dispatch places shipments, cluster.hub ∉ places →
        shipmentsOf cluster demand ((ClusterWindows.derive cluster cutoffs
          settings.bounds).withDispatchTime dispatch) [] settings = .ok shipments →
        ∃ relaxed, shipmentsOf cluster demand ((ClusterWindows.derive cluster cutoffs
            settings.bounds).withDispatchTime dispatch) places settings = .ok relaxed ∧
          List.Forall₂ (fun s r => r.reference = s.reference ∧
            (r.delivery.Contains s.delivery ↔ (s.origin = cluster.hub → s.destination ∈ places →
              ∃ l, network.location s.destination = .ok l ∧ l.cutoffs.inbound ≤ 24)))
            shipments relaxed := by
  have hc := Network.wellFormed_of_mem_clusters hnetwork hcluster
  obtain ⟨cutoffs, hcutoffs, hlength⟩ :=
    (Network.complete_of_ofRows hnetwork).exists_cutoffs hcluster
  refine ⟨cutoffs, hcutoffs, fun demand dispatch places shipments hhub h => ?_⟩
  refine ⟨_, shipmentsOf_relaxed hc hhub h, ?_⟩
  rw [List.forall₂_map_right_iff, List.forall₂_same]
  intro s hs
  refine ⟨rfl, ?_⟩
  -- Only freight from the hub to a relaxed branch has another window than before.
  by_cases hfreight : s.origin = cluster.hub ∧ s.destination ∈ places
  · obtain ⟨hfrom, hto⟩ := hfreight
    have hbranch : s.destination ≠ cluster.hub := fun he => hhub (he ▸ hto)
    obtain ⟨i, c, hcode, hcut, hdelivery⟩ :=
      delivery_of_mem_shipmentsOf hc hlength h hs hfrom hbranch
    obtain ⟨l, hl, rfl⟩ := Network.location_of_cutoffs hcutoffs hcode hcut
    have hwindow : (s.relaxed cluster.hub places settings.bounds.fullBranchDay).delivery =
        TimeBounds.standard.fullBranchDay := by
      rw [← hbounds]
      exact if_pos ⟨hfrom, hto⟩
    rw [hwindow, hdelivery, hbounds, fullBranchDay_contains_iff]
    constructor
    · intro hday _ _
      exact ⟨l, hl, hday⟩
    · intro hday
      obtain ⟨l', hl', hday⟩ := hday hfrom hto
      rw [hl] at hl'
      cases hl'
      exact hday
  · have hwindow : (s.relaxed cluster.hub places settings.bounds.fullBranchDay).delivery =
        s.delivery := if_neg hfreight
    rw [hwindow]
    constructor
    · intro _ hfrom hto
      exact absurd ⟨hfrom, hto⟩ hfreight
    · intro _
      exact s.delivery.contains_self

/-- The freight of the two branches when the hub hands out freight from five on, with some of them
relaxed. -/
def freightAtFive (cutoffs : List Cutoffs) (places : List LocationCode) :
    Except Fault (List Shipment) :=
  shipmentsOf ⟨"H", ["H", "X", "Y"]⟩ ⟨[[0, 500, 250], [125, 0, 0], [1000, 0, 0]]⟩
    ((ClusterWindows.derive ⟨"H", ["H", "X", "Y"]⟩ cutoffs .standard).withDispatchTime 5.0) places
    .standard

/-- Both branches close within the day, and relaxation widens the windows of both. -/
theorem relaxed_contains_two_branches :
    ∃ network first relaxed, Network.ofRows twoBranches twoBranchLocations 100.0 = .ok network ∧
      ⟨"H", ["H", "X", "Y"]⟩ ∈ network.clusters ∧
      SweepSettings.standard.bounds = .standard ∧ "H" ∉ ["X", "Y"] ∧
      network.cutoffs ⟨"H", ["H", "X", "Y"]⟩ = .ok [⟨3, 20⟩, ⟨6, 14⟩, ⟨5, 12⟩] ∧
      freightAtFive [⟨3, 20⟩, ⟨6, 14⟩, ⟨5, 12⟩] [] = .ok first ∧
      freightAtFive [⟨3, 20⟩, ⟨6, 14⟩, ⟨5, 12⟩] ["X", "Y"] = .ok relaxed ∧
      first.map (·.reference) = [⟨"H", "X", 1⟩, ⟨"H", "Y", 1⟩, ⟨"X", "H", 1⟩, ⟨"Y", "H", 1⟩] ∧
      List.Forall₂ (fun s r => r.reference = s.reference ∧ r.delivery.Contains s.delivery)
        first relaxed := by
  obtain ⟨network, hnetwork, hcluster, hcutoffs, hday⟩ : ∃ network,
      Network.ofRows twoBranches twoBranchLocations 100.0 = .ok network ∧
      ⟨"H", ["H", "X", "Y"]⟩ ∈ network.clusters ∧
      network.cutoffs ⟨"H", ["H", "X", "Y"]⟩ = .ok [⟨3, 20⟩, ⟨6, 14⟩, ⟨5, 12⟩] ∧
      ∀ code ∈ ["X", "Y"], ∃ l, network.location code = .ok l ∧ l.cutoffs.inbound ≤ 24 := by
    refine ⟨_, rfl, by decide, rfl, fun code hcode => ?_⟩
    rcases List.mem_pair.mp hcode with rfl | rfl
    · exact ⟨_, rfl, by decide⟩
    · exact ⟨_, rfl, by decide⟩
  have hevaluated : List.map Shipment.reference <$>
      freightAtFive [⟨3, 20⟩, ⟨6, 14⟩, ⟨5, 12⟩] [] =
        .ok [⟨"H", "X", 1⟩, ⟨"H", "Y", 1⟩, ⟨"X", "H", 1⟩, ⟨"Y", "H", 1⟩] := by decide +kernel
  obtain ⟨first, hfirst, hreferences⟩ := map_eq_ok_iff.mp hevaluated
  have hbounds : SweepSettings.standard.bounds = .standard := rfl
  obtain ⟨cutoffs, hcutoffs', hall⟩ := relaxed_contains_iff hnetwork hcluster hbounds
  obtain rfl := Except.ok.inj (hcutoffs.symm.trans hcutoffs')
  obtain ⟨relaxed, hrelaxed, hpairs⟩ := hall _ _ ["X", "Y"] first (by decide) hfirst
  refine ⟨network, first, relaxed, hnetwork, hcluster, hbounds, by decide, hcutoffs, hfirst,
    hrelaxed, hreferences, hpairs.imp fun s r hpair => ?_⟩
  exact ⟨hpair.1, hpair.2.mpr fun _ hto => hday _ hto⟩

/-- The locations of the two branches, the first of which takes freight in until the next day. -/
def lateLocations : List Location :=
  [⟨1, "Hub", "H", none, ⟨3, 20⟩⟩, ⟨2, "North", "X", none, ⟨6, 30⟩⟩,
    ⟨3, "South", "Y", none, ⟨5, 12⟩⟩]

/-- Relaxation takes six hours from the branch that closes the next day. -/
theorem relaxed_tightens :
    ∃ network first relaxed s r, Network.ofRows twoBranches lateLocations 100.0 = .ok network ∧
      ⟨"H", ["H", "X", "Y"]⟩ ∈ network.clusters ∧
      network.cutoffs ⟨"H", ["H", "X", "Y"]⟩ = .ok [⟨3, 20⟩, ⟨6, 30⟩, ⟨5, 12⟩] ∧
      network.demand ⟨"H", ["H", "X", "Y"]⟩ =
        .ok ⟨[[0, 500, 250], [125, 0, 0], [1000, 0, 0]]⟩ ∧
      freightAtFive [⟨3, 20⟩, ⟨6, 30⟩, ⟨5, 12⟩] [] = .ok first ∧
      freightAtFive [⟨3, 20⟩, ⟨6, 30⟩, ⟨5, 12⟩] ["X"] = .ok relaxed ∧
      first[0]? = some s ∧ relaxed[0]? = some r ∧ r.reference = s.reference ∧
      Exact.ofFloat s.delivery.latest = .finite false (15 * 2 ^ 49) (-48) ∧
      Exact.ofFloat r.delivery.latest = .finite false (3 * 2 ^ 51) (-48) ∧
      ¬ r.delivery.Contains s.delivery := by
  obtain ⟨network, hnetwork, hcluster, hcutoffs, hdemand⟩ : ∃ network,
      Network.ofRows twoBranches lateLocations 100.0 = .ok network ∧
      ⟨"H", ["H", "X", "Y"]⟩ ∈ network.clusters ∧
      network.cutoffs ⟨"H", ["H", "X", "Y"]⟩ = .ok [⟨3, 20⟩, ⟨6, 30⟩, ⟨5, 12⟩] ∧
      network.demand ⟨"H", ["H", "X", "Y"]⟩ =
        .ok ⟨[[0, 500, 250], [125, 0, 0], [1000, 0, 0]]⟩ :=
    ⟨_, rfl, by decide, rfl, by decide +kernel⟩
  have hevaluated : (do
      let first ← freightAtFive [⟨3, 20⟩, ⟨6, 30⟩, ⟨5, 12⟩] []
      let relaxed ← freightAtFive [⟨3, 20⟩, ⟨6, 30⟩, ⟨5, 12⟩] ["X"]
      return first[0]?.bind fun s : Shipment => relaxed[0]?.map fun r : Shipment =>
        (decide (r.reference = s.reference), Exact.ofFloat s.delivery.latest,
          Exact.ofFloat r.delivery.latest, decide (r.delivery.latest < s.delivery.latest)) :
        Except Fault (Option (Bool × Exact × Exact × Bool))) =
      .ok (some (true, .finite false (15 * 2 ^ 49) (-48), .finite false (3 * 2 ^ 51) (-48),
        true)) := by
    decide +kernel
  obtain ⟨first, hfirst, hevaluated⟩ := bind_eq_ok_iff.mp hevaluated
  obtain ⟨relaxed, hrelaxed, hevaluated⟩ := bind_eq_ok_iff.mp hevaluated
  obtain ⟨s, hs, hpair⟩ := Option.bind_eq_some_iff.mp (Except.ok.inj hevaluated)
  obtain ⟨r, hr, hpair⟩ := Option.map_eq_some_iff.mp hpair
  simp only [Prod.mk.injEq, decide_eq_true_eq] at hpair
  obtain ⟨hreference, hthirty, htwentyFour, hless⟩ := hpair
  exact ⟨network, first, relaxed, s, r, hnetwork, hcluster, hcutoffs, hdemand, hfirst, hrelaxed,
    hs, hr, hreference, hthirty, htwentyFour, fun hcontains => hcontains.2 hless⟩

end HubDispatch
