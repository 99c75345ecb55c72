import HubDispatch.Proofs.Network.Completeness
import HubDispatch.Proofs.Sweep.Protocol

/-!
# Why a sweep fails

A network that comes from rows gives a sweep everything it needs: cutoffs, demand and locations of
the cluster, and with an active fleet every problem can be put. What is left to fail lies outside
the network. Either the travel costs are not to be had, and nothing is exchanged at all, or the last
exchange says what went wrong (`EndsIn`): the optimizer gave up, it had no candidate, or the
receiver refused a result.

The second part is read off the protocol of the sweep. Its only failures are those of epochs and of
the receiver, and an epoch for which there is a fleet fails with its question.
-/

namespace HubDispatch

/-- The exchanges end in one that did not go well, with the failure that comes of it. -/
inductive EndsIn : List Exchange → Failure → Prop
  /-- The optimizer gave up. -/
  | unanswered (earlier : List Exchange) (context : String) {problem : Problem}
    {failure : Failure} :
    EndsIn (earlier ++ [.asked problem (.error failure)]) (failure.within context)
  /-- The optimizer had no candidate. -/
  | noCandidate (earlier : List Exchange) {problem : Problem} :
    EndsIn (earlier ++ [.asked problem (.ok [])]) (.ofFault .noSolution)
  /-- The receiver refused a result. -/
  | refused (earlier : List Exchange) {result : Iteration} {failure : Failure} :
    EndsIn (earlier ++ [.received result (.error failure)]) failure

theorem EndsIn.append {talk : List Exchange} {failure : Failure} (before : List Exchange)
    (h : EndsIn talk failure) : EndsIn (before ++ talk) failure := by
  cases h with
  | unanswered earlier context =>
    rw [← List.append_assoc]
    exact .unanswered _ context
  | noCandidate earlier =>
    rw [← List.append_assoc]
    exact .noCandidate _
  | refused earlier =>
    rw [← List.append_assoc]
    exact .refused _

namespace SweepPlan

variable {p : SweepPlan} {i n : Nat} {t : Int} {relaxed : List LocationCode}
  {talk : List Exchange} {failure : Failure}

/-- A verdict is a failure when the optimizer failed or had no candidate. -/
theorem verdict_eq_error_iff {context : String} {answer : Except Failure (List Solution)} :
    verdict context answer = .error failure ↔
      (∃ inner, answer = .error inner ∧ failure = inner.within context) ∨
        answer = .ok [] ∧ failure = .ofFault .noSolution := by
  rcases answer with inner | _ | ⟨s, rest⟩
  · simp [verdict, eq_comm]
  · simp [verdict, planned, Solution.bestOf, Except.mapError, eq_comm]
  · simp [verdict, planned, Solution.bestOf, Except.mapError]

/-- An epoch fails with its question, once a fleet is active. -/
theorem Epoch.endsIn (hfleet : p.settings.fleet ≠ [])
    (h : p.Epoch i n t relaxed talk (.error failure)) : EndsIn talk failure := by
  generalize hresult : Except.error failure = result at h
  cases h with
  | noFleet hnone => exact absurd hnone hfleet
  | asked hputs =>
    rcases verdict_eq_error_iff.mp hresult.symm with ⟨inner, rfl, rfl⟩ | ⟨rfl, rfl⟩
    · exact .unanswered [] _
    · exact .noCandidate []

theorem Candidate.endsIn (hfleet : p.settings.fleet ≠ [])
    (h : p.Candidate i t talk (.error failure)) : EndsIn talk failure := by
  cases h with
  | failed hfirst => exact hfirst.endsIn hfleet
  | failedRelaxed hfirst hleft hsecond => exact (hsecond.endsIn hfleet).append _

/-- **A sweep that fails fails in its last exchange**, once a fleet is active. -/
theorem Protocol.endsIn {hours : List Int} (hfleet : p.settings.fleet ≠ [])
    (h : p.Protocol i hours talk (.error failure)) : EndsIn talk failure := by
  -- On the hours: all but the last of them went well.
  generalize hresult : Except.error failure = result at h
  induction h with
  | finished => cases hresult
  | taken hcandidate hrest ih =>
    rw [← List.singleton_append, ← List.append_assoc]
    exact (ih hresult).append _
  | refused hcandidate =>
    cases hresult
    exact .refused _
  | abandoned hcandidate =>
    cases hresult
    exact hcandidate.endsIn hfleet

/-- Where cutoffs, demand and locations are known, only travel costs can be missing. -/
theorem make_eq_error {network : Network Float} {costs : CostProvider} {settings : SweepSettings}
    {cluster : Cluster} {cutoffs : List Cutoffs} {demand : DemandMatrix} {places : List Location}
    (hcutoffs : network.cutoffs cluster = .ok cutoffs)
    (hdemand : network.demand cluster = .ok demand)
    (hplaces : network.memberLocations cluster = .ok places)
    (h : make network costs settings cluster = .error failure) :
    ∃ fault, Matrices.ofProvider costs places = .error fault ∧
      failure = (Failure.ofFault fault).within
        ("Failed to build cost matrix for cluster " ++ cluster.hub) := by
  cases hmatrices : Matrices.ofProvider costs places with
  | error fault =>
    rw [make, hcutoffs, hdemand, hplaces] at h
    change (within _ (planned (Matrices.ofProvider costs places)) >>= _) = _ at h
    rw [hmatrices] at h
    exact ⟨fault, rfl, (Except.error.inj h).symm⟩
  | ok matrices =>
    -- Nothing is missing, so there is a plan.
    obtain ⟨plan, hplan⟩ : ∃ plan, make network costs settings cluster = .ok plan :=
      ⟨⟨cluster, settings, demand, matrices, .derive cluster cutoffs settings.bounds⟩,
        make_eq_ok_iff.mpr ⟨rfl, rfl, hdemand, ⟨cutoffs, hcutoffs, rfl⟩, places, hplaces,
          hmatrices⟩⟩
    rw [hplan] at h
    cases h

end SweepPlan

namespace Sweeper

variable {σ : Type} {s : Sweeper σ} {cluster : Cluster} {plan : SweepPlan}
  (receive : Iteration → σ → Except Failure Unit × σ)

/-- A sweep without a plan exchanges nothing. -/
theorem runs_of_make_eq_error {failure : Failure} (memory : σ)
    (h : SweepPlan.make s.network s.costs s.settings cluster = .error failure) :
    Runs s.optimizer receive (s.sweep cluster receive) memory [] (.error failure) memory := by
  unfold sweep
  rw [h]
  exact .bind_error _ (.lift _)

/-- A sweep with a plan keeps to the protocol of its hours. -/
theorem keeps_of_make_eq_ok
    (h : SweepPlan.make s.network s.costs s.settings cluster = .ok plan) :
    Keeps s.optimizer receive (s.sweep cluster receive) (plan.Protocol 0 plan.hours) := by
  intro memory
  obtain ⟨talk, result, m', hruns, hprotocol⟩ := SweepPlan.keeps_candidates s.optimizer receive
    (SweepPlan.make_eq_ok_iff.mp h).fits plan.candidateCount 0 memory
  refine ⟨talk, result, m', ?_, ?_⟩
  · unfold sweep
    rw [h]
    exact .bind (.lift _) (.note_bind hruns)
  · rw [SweepPlan.hours, List.range_eq_range']
    exact hprotocol

/-- **A network that comes from rows cannot make a sweep fail.** With an active fleet, what a sweep
of one of its clusters needs is there and has the size of the cluster, and its shipments can be
built for every dispatch time and whatever is relaxed. A sweep that fails could not have the travel
costs, or ends in an exchange that did not go well. -/
theorem sweep_fails_from_outside {rows : List (SalesRow Float)} {locations : List Location}
    {minimum : Float} {network : Network Float} {settings : SweepSettings}
    (hnetwork : Network.ofRows rows locations minimum = .ok network)
    (hcluster : cluster ∈ network.clusters) (hfleet : settings.fleet ≠ []) :
    ∃ cutoffs demand places,
      (network.cutoffs cluster = .ok cutoffs ∧ cutoffs.length = cluster.size) ∧
      (network.demand cluster = .ok demand ∧ demand.IsSquare cluster.size) ∧
      (network.memberLocations cluster = .ok places ∧ places.length = cluster.size) ∧
      (∀ dispatch relaxed, ∃ shipments, shipmentsOf cluster demand
        ((ClusterWindows.derive cluster cutoffs settings.bounds).withDispatchTime dispatch) relaxed
        settings = .ok shipments) ∧
      ∀ (σ : Type) (costs : CostProvider) (optimizer : Optimizer σ)
        (receive : Iteration → σ → Except Failure Unit × σ) (memory : σ) (failure : Failure),
        let run := (⟨network, costs, optimizer, settings⟩ : Sweeper σ).sweep cluster receive memory
        let talk := exchanges optimizer receive run.events memory
        run.result = .error failure →
          (∃ fault, Matrices.ofProvider costs places = .error fault ∧ talk = [] ∧
            failure = (Failure.ofFault fault).within
              ("Failed to build cost matrix for cluster " ++ cluster.hub)) ∨
          EndsIn talk failure := by
  have hcomplete := Network.complete_of_ofRows hnetwork
  obtain ⟨cutoffs, hcutoffs, hlen⟩ := hcomplete.exists_cutoffs hcluster
  obtain ⟨demand, hdemand, hsquare⟩ := hcomplete.exists_demand hcluster
  obtain ⟨places, hplaces, hlen'⟩ := hcomplete.exists_memberLocations hcluster
  refine ⟨cutoffs, demand, places, ⟨hcutoffs, hlen⟩, ⟨hdemand, hsquare⟩, ⟨hplaces, hlen'⟩,
    fun dispatch relaxed => ?_, ?_⟩
  · refine exists_shipmentsOf hsquare ?_ hfleet relaxed
    rw [ClusterWindows.length_withDispatchTime, ClusterWindows.length_derive, hlen]
  · intro σ costs optimizer receive memory failure run talk hfail
    cases hplan : SweepPlan.make network costs settings cluster with
    | error reason =>
      have hruns := runs_of_make_eq_error (s := ⟨network, costs, optimizer, settings⟩) receive
        memory hplan
      obtain rfl : reason = failure := Except.error.inj (hruns.result_eq.symm.trans hfail)
      obtain ⟨fault, hfault, hreason⟩ :=
        SweepPlan.make_eq_error hcutoffs hdemand hplaces hplan
      exact Or.inl ⟨fault, hfault, hruns.talk_eq, hreason⟩
    | ok plan =>
      obtain ⟨talk', result, m', hruns, hprotocol⟩ :=
        keeps_of_make_eq_ok (s := ⟨network, costs, optimizer, settings⟩) receive hplan memory
      obtain rfl : result = .error failure := hruns.result_eq.symm.trans hfail
      have hactive : plan.settings.fleet ≠ [] := by
        rwa [(SweepPlan.make_eq_ok_iff.mp hplan).settings_eq]
      have htalk : talk = talk' := hruns.talk_eq
      exact Or.inr (htalk ▸ hprotocol.endsIn hactive)

/-- A branch with two rows. Its hub is swept with an optimizer that never has a candidate. -/
def repeatedBranch : List (SalesRow Float) :=
  [⟨some "H", "H", [0.0, 0.5, 0.5]⟩, ⟨none, "X", [0.25, 0.0, 0.0]⟩, ⟨none, "X", [0.125, 0.0, 0.0]⟩]

theorem sweep_fails_from_outside_without_candidate :
    ∃ network, Network.ofRows repeatedBranch
        [⟨1, "Hub", "H", none, ⟨3, 20⟩⟩, ⟨2, "North", "X", none, ⟨6, 14⟩⟩] 100.0 = .ok network ∧
      ⟨"H", ["H", "X"]⟩ ∈ network.clusters ∧ SweepSettings.standard.fleet ≠ [] ∧
      let optimizer : Optimizer Unit := ⟨"mute", fun _ m => (⟨[], .ok []⟩, m)⟩
      let receive := fun (_ : Iteration) (m : Unit) => ((.ok (), m) : Except Failure Unit × Unit)
      let run := (⟨network, ⟨"even", fun _ _ => .ok 60.0, fun _ _ => .ok 2.0⟩, optimizer,
        .standard⟩ : Sweeper Unit).sweep ⟨"H", ["H", "X"]⟩ receive ()
      run.result = .error (.ofFault .noSolution) ∧
        EndsIn (exchanges optimizer receive run.events ()) (.ofFault .noSolution) := by
  obtain ⟨network, hnetwork, hcluster, hresult⟩ : ∃ network, Network.ofRows repeatedBranch
        [⟨1, "Hub", "H", none, ⟨3, 20⟩⟩, ⟨2, "North", "X", none, ⟨6, 14⟩⟩] 100.0 = .ok network ∧
      ⟨"H", ["H", "X"]⟩ ∈ network.clusters ∧
      ((⟨network, ⟨"even", fun _ _ => .ok 60.0, fun _ _ => .ok 2.0⟩,
        ⟨"mute", fun _ m => (⟨[], .ok []⟩, m)⟩, .standard⟩ : Sweeper Unit).sweep ⟨"H", ["H", "X"]⟩
          (fun _ m => (.ok (), m)) ()).result = .error (.ofFault .noSolution) :=
    ⟨_, rfl, by decide, by decide +kernel⟩
  have hfleet : SweepSettings.standard.fleet ≠ [] := by decide
  refine ⟨network, hnetwork, hcluster, hfleet, hresult, ?_⟩
  obtain ⟨_, _, _, -, -, -, -, hblame⟩ := sweep_fails_from_outside hnetwork hcluster hfleet
  rcases hblame Unit _ _ _ () _ hresult with ⟨_, -, -, hreason⟩ | hends
  · cases hreason
  · exact hends

end Sweeper
end HubDispatch
