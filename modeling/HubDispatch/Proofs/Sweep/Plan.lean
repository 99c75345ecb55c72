import HubDispatch.Sweep.Run
import HubDispatch.Proofs.Sweep.Building

/-!
# Plans of a sweep

A plan that could be made fits its cluster: its demand is a square of the cluster's size and every
member has windows (`IsFor.fits`). Once a fleet is active, every problem of such a plan can
therefore be put, whatever is relaxed (`exists_problem`).
-/

namespace HubDispatch
namespace SweepPlan

variable {p : SweepPlan} {i : Nat} {relaxed : List LocationCode}

/-- What the plan of a cluster consists of: the demand and the travel matrices of its members, and
the windows that follow from their cutoffs. -/
structure IsFor (p : SweepPlan) (network : Network Float) (costs : CostProvider)
    (settings : SweepSettings) (cluster : Cluster) : Prop where
  cluster_eq : p.cluster = cluster
  settings_eq : p.settings = settings
  demand : network.demand cluster = .ok p.demand
  windows : ∃ cutoffs, network.cutoffs cluster = .ok cutoffs ∧
    p.windows = .derive cluster cutoffs settings.bounds
  matrices : ∃ locations, network.memberLocations cluster = .ok locations ∧
    Matrices.ofProvider costs locations = .ok p.matrices

/-- Demand and windows have the size of the cluster. -/
structure Fits (p : SweepPlan) : Prop where
  demand : p.demand.IsSquare p.cluster.members.length
  windows : p.windows.members.length = p.cluster.members.length

section Make

variable {network : Network Float} {costs : CostProvider} {settings : SweepSettings}
  {cluster : Cluster}

theorem make_eq_ok_iff :
    make network costs settings cluster = .ok p ↔ p.IsFor network costs settings cluster := by
  unfold make
  simp only [bind_eq_ok_iff, planned_eq_ok_iff, within_eq_ok_iff]
  constructor
  · rintro ⟨cutoffs, hcutoffs, demand, hd, locations, hl, matrices, hm, hp⟩
    cases hp
    exact ⟨rfl, rfl, hd, ⟨cutoffs, hcutoffs, rfl⟩, locations, hl, hm⟩
  · rintro ⟨rfl, rfl, hd, ⟨cutoffs, hcutoffs, hw⟩, locations, hl, hm⟩
    refine ⟨cutoffs, hcutoffs, _, hd, locations, hl, _, hm, ?_⟩
    rw [← hw]
    rfl

theorem length_of_cutoffs {cutoffs : List Cutoffs} (h : network.cutoffs cluster = .ok cutoffs) :
    cutoffs.length = cluster.members.length := by
  obtain ⟨locations, hl, hc⟩ := bind_eq_ok_iff.mp h
  cases hc
  rw [List.length_map]
  exact length_of_mapM hl

/-- **A plan fits the cluster that it is made for.** -/
theorem IsFor.fits (h : p.IsFor network costs settings cluster) : p.Fits := by
  obtain ⟨hc, -, hd, ⟨cutoffs, hcutoffs, hw⟩, -⟩ := h
  refine ⟨?_, ?_⟩
  · rw [hc]
    exact DemandMatrix.isSquare_of_forCluster hd
  · rw [hw, hc, ClusterWindows.length_derive]
    exact length_of_cutoffs hcutoffs

/-- The windows of a plan are those of the cutoffs in the network. -/
theorem IsFor.windows_eq (h : p.IsFor network costs settings cluster) {cutoffs : List Cutoffs}
    (hcutoffs : network.cutoffs cluster = .ok cutoffs) :
    p.windows = .derive cluster cutoffs settings.bounds := by
  obtain ⟨cutoffs', hcutoffs', hwindows⟩ := h.windows
  rw [hwindows, Except.ok.inj (hcutoffs'.symm.trans hcutoffs)]

end Make

/-- A problem is its shipments, with what stays the same in a sweep. -/
theorem problem_eq_ok_iff {problem : Problem} :
    p.problem i relaxed = .ok problem ↔
      ∃ shipments, shipmentsOf p.cluster p.demand (p.windowsAt i) relaxed p.settings =
          .ok shipments ∧
        problem = ⟨shipments, vehiclesOf p.cluster p.settings, p.cluster.members, p.matrices⟩ := by
  unfold SweepPlan.problem
  rw [bind_eq_ok_iff]
  constructor
  · rintro ⟨shipments, hs, hp⟩
    cases hp
    exact ⟨shipments, hs, rfl⟩
  · rintro ⟨shipments, hs, rfl⟩
    exact ⟨shipments, hs, rfl⟩

/-- **Every problem of a plan can be put** once a fleet is active. -/
theorem exists_problem (h : p.Fits) (hfleet : p.settings.fleet ≠ []) (i : Nat)
    (relaxed : List LocationCode) : ∃ problem, p.problem i relaxed = .ok problem := by
  have hw : (p.windowsAt i).members.length = p.cluster.members.length :=
    (ClusterWindows.length_withDispatchTime ..).trans h.windows
  obtain ⟨shipments, hs⟩ := exists_shipmentsOf h.demand hw hfleet relaxed
  exact ⟨_, problem_eq_ok_iff.mpr ⟨shipments, hs, rfl⟩⟩

end SweepPlan
end HubDispatch
