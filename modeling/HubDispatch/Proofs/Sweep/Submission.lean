import HubDispatch.Proofs.Sweep.Failure
import HubDispatch.Proofs.Travel.Matrices

/-!
# What a sweep submits

Every problem that a sweep submits is that of one of its hours, with some destinations relaxed. It
has the matrices of the plan and lists the members of the cluster, in the order in which their
records were put to the cost provider. A member is thus found at the row and the column of its own
record (`hasCosts_of_ofProvider`), also in a cluster that repeats members: the first of equal codes
has the same record as the others.
-/

namespace HubDispatch

/-- A question among the events is a question among the exchanges. -/
theorem asked_mem_exchanges {σ : Type} (optimizer : Optimizer σ)
    (receive : Iteration → σ → Except Failure Unit × σ) {events : List Event} {problem : Problem}
    (h : Event.asked problem ∈ events) (m : σ) :
    ∃ answer, Exchange.asked problem answer ∈ exchanges optimizer receive events m := by
  induction events generalizing m with
  | nil => cases h
  | cons event events ih =>
    rcases List.mem_cons.mp h with rfl | hlater
    · exact ⟨_, List.mem_cons_self ..⟩
    · cases event with
      | noted entry => exact ih hlater m
      | asked other =>
        obtain ⟨answer, hmem⟩ := ih hlater (optimizer.solve other m).2
        exact ⟨answer, List.mem_cons_of_mem _ hmem⟩
      | received result =>
        obtain ⟨answer, hmem⟩ := ih hlater (receive result m).2
        exact ⟨answer, List.mem_cons_of_mem _ hmem⟩

namespace SweepPlan

variable {p : SweepPlan} {i n : Nat} {t : Int} {relaxed : List LocationCode}
  {talk : List Exchange} {problem : Problem} {answer : Except Failure (List Solution)}

theorem Epoch.puts {result : Except Failure Solution} (h : p.Epoch i n t relaxed talk result)
    (hmem : Exchange.asked problem answer ∈ talk) : p.Puts t relaxed problem := by
  cases h with
  | noFleet => cases hmem
  | asked hputs =>
    cases List.mem_singleton.mp hmem
    exact hputs

theorem Candidate.puts {result : Except Failure Iteration} (h : p.Candidate i t talk result)
    (hmem : Exchange.asked problem answer ∈ talk) : ∃ relaxed, p.Puts t relaxed problem := by
  cases h with
  | failed hfirst => exact ⟨_, hfirst.puts hmem⟩
  | served hfirst => exact ⟨_, hfirst.puts hmem⟩
  | failedRelaxed hfirst _ hsecond =>
    rcases List.mem_append.mp hmem with hmem | hmem
    · exact ⟨_, hfirst.puts hmem⟩
    · exact ⟨_, hsecond.puts hmem⟩
  | relaxed hfirst _ hsecond =>
    rcases List.mem_append.mp hmem with hmem | hmem
    · exact ⟨_, hfirst.puts hmem⟩
    · exact ⟨_, hsecond.puts hmem⟩

/-- **Every question of a sweep** is the problem of one of its hours. -/
theorem Protocol.puts {hours : List Int} {outcome : Except Failure Unit}
    (h : p.Protocol i hours talk outcome) (hmem : Exchange.asked problem answer ∈ talk) :
    ∃ t ∈ hours, ∃ relaxed, p.Puts t relaxed problem := by
  induction h with
  | finished => cases hmem
  | taken hcandidate _ ih =>
    rcases List.mem_append.mp hmem with hmem | hmem
    · exact ⟨_, List.mem_cons_self .., hcandidate.puts hmem⟩
    · rcases List.mem_cons.mp hmem with hreceived | hmem
      · cases hreceived
      · obtain ⟨t, ht, hputs⟩ := ih hmem
        exact ⟨t, List.mem_cons_of_mem _ ht, hputs⟩
  | refused hcandidate =>
    rcases List.mem_append.mp hmem with hmem | hmem
    · exact ⟨_, List.mem_cons_self .., hcandidate.puts hmem⟩
    · cases List.mem_singleton.mp hmem
  | abandoned hcandidate => exact ⟨_, List.mem_cons_self .., hcandidate.puts hmem⟩

end SweepPlan

/-- Between two locations of the problem the matrices have what the provider answers for their
records, in this direction: whole metres and whole seconds, at the row of the one and the column of
the other. -/
def Problem.HasCosts (p : Problem) (network : Network Float) (costs : CostProvider)
    (a b : LocationCode) : Prop :=
  ∃ i j origin destination kilometres hours,
    p.locationIndex a = .ok i ∧ p.locationIndex b = .ok j ∧
      network.location a = .ok origin ∧ network.location b = .ok destination ∧
      costs.distance origin destination = .ok kilometres ∧
      costs.duration origin destination = .ok hours ∧
      p.matrices.flatDistances[i * p.locations.length + j]? =
        some (Binary64.wrapSigned (Binary64.toCount64 .halfAway (kilometres * 1000.0))) ∧
      p.matrices.flatDurations[i * p.locations.length + j]? =
        some (Binary64.wrapSigned (Binary64.toCount64 .halfAway (hours * 3600.0)))

namespace Sweeper

variable {σ : Type} {s : Sweeper σ} {cluster : Cluster}

/-- A problem that a sweep submits is put by its plan. -/
theorem exists_puts_of_asked {receive : Iteration → σ → Except Failure Unit × σ} {memory : σ}
    {problem : Problem} (h : Event.asked problem ∈ (s.sweep cluster receive memory).events) :
    ∃ plan : SweepPlan, plan.IsFor s.network s.costs s.settings cluster ∧
      ∃ t ∈ plan.hours, ∃ relaxed, plan.Puts t relaxed problem := by
  obtain ⟨answer, hmem⟩ := asked_mem_exchanges s.optimizer receive h memory
  cases hplan : SweepPlan.make s.network s.costs s.settings cluster with
  | error failure =>
    have hruns := runs_of_make_eq_error receive memory hplan
    rw [hruns.talk_eq] at hmem
    cases hmem
  | ok plan =>
    obtain ⟨talk, result, m', hruns, hprotocol⟩ := keeps_of_make_eq_ok receive hplan memory
    rw [hruns.talk_eq] at hmem
    exact ⟨plan, SweepPlan.make_eq_ok_iff.mp hplan, hprotocol.puts hmem⟩

/-- A problem on the members of a cluster with the matrices of their records has their costs. -/
theorem hasCosts_of_ofProvider {network : Network Float} {costs : CostProvider}
    {places : List Location} {problem : Problem} {a b : LocationCode}
    (hplaces : problem.locations.mapM network.location = .ok places)
    (hmatrices : Matrices.ofProvider costs places = .ok problem.matrices)
    (ha : a ∈ problem.locations) (hb : b ∈ problem.locations) :
    problem.HasCosts network costs a b := by
  obtain ⟨i, hi⟩ := Problem.exists_locationIndex_iff.mpr ha
  obtain ⟨j, hj⟩ := Problem.exists_locationIndex_iff.mpr hb
  have hrecords := mapM_eq_ok_iff.mp hplaces
  -- The record of a member stands where the member stands.
  have hrecord : ∀ {code k}, problem.locationIndex code = .ok k →
      ∃ place, network.location code = .ok place ∧ places[k]? = some place := by
    intro code k hk
    obtain ⟨hlt, rfl⟩ := List.getElem?_eq_some_iff.mp (Problem.getElem?_of_locationIndex hk)
    have hlt' : k < places.length := hrecords.length_eq ▸ hlt
    exact ⟨places[k], hrecords.get hlt hlt', List.getElem?_eq_getElem hlt'⟩
  obtain ⟨origin, horigin, hrow⟩ := hrecord hi
  obtain ⟨destination, hdestination, hcolumn⟩ := hrecord hj
  obtain ⟨kilometres, hours, hk, hh, hmetres, hseconds⟩ :=
    Matrices.entry_of_ofProvider hmatrices hrow hcolumn
  rw [← hrecords.length_eq] at hmetres hseconds
  exact ⟨i, j, origin, destination, kilometres, hours, hi, hj, horigin, hdestination, hk, hh,
    hmetres, hseconds⟩

/-- **Travel costs reach the optimizer at the right place.** Where the matrices of a cluster can be
had, both lists have an entry for every ordered pair of members, and in every problem that the sweep
submits the entry of a pair is what the provider answers for it. -/
theorem sweep_submits_costs (receive : Iteration → σ → Except Failure Unit × σ) (memory : σ)
    {places : List Location} {matrices : Matrices}
    (hplaces : s.network.memberLocations cluster = .ok places)
    (hmatrices : Matrices.ofProvider s.costs places = .ok matrices) :
    (matrices.flatDistances.length = cluster.size * cluster.size ∧
      matrices.flatDurations.length = cluster.size * cluster.size) ∧
      ∀ problem, Event.asked problem ∈ (s.sweep cluster receive memory).events →
        problem.matrices = matrices ∧ problem.locations = cluster.members ∧
          ∀ a ∈ cluster.members, ∀ b ∈ cluster.members, problem.HasCosts s.network s.costs a b := by
  have hsize : places.length = cluster.size := length_of_mapM hplaces
  refine ⟨hsize ▸ Matrices.length_of_ofProvider hmatrices, fun problem hasked => ?_⟩
  obtain ⟨answer, hmem⟩ := asked_mem_exchanges s.optimizer receive hasked memory
  cases hplan : SweepPlan.make s.network s.costs s.settings cluster with
  | error failure =>
    have hruns := runs_of_make_eq_error receive memory hplan
    rw [hruns.talk_eq] at hmem
    cases hmem
  | ok plan =>
    obtain ⟨talk, result, m', hruns, hprotocol⟩ := keeps_of_make_eq_ok receive hplan memory
    rw [hruns.talk_eq] at hmem
    obtain ⟨t, -, relaxed, shipments, -, rfl⟩ := hprotocol.puts hmem
    obtain ⟨hcluster, -, -, -, places', hplaces', hmatrices'⟩ := SweepPlan.make_eq_ok_iff.mp hplan
    obtain rfl : places = places' := Except.ok.inj (hplaces.symm.trans hplaces')
    obtain rfl : matrices = plan.matrices := Except.ok.inj (hmatrices.symm.trans hmatrices')
    subst hcluster
    exact ⟨rfl, rfl, fun a ha b hb => hasCosts_of_ofProvider hplaces hmatrices ha hb⟩

/-- A hub above a branch: the way up is longer than the way down, and takes longer still. The hub
opens with its only hour, and the optimizer leaves nothing behind. -/
def uphill : Sweeper Unit where
  network := ⟨[⟨"H", ["X", "H"]⟩], ⟨["X", "H"],
      [(("H", "X"), 500.0), (("X", "H"), 0.0), (("H", "H"), 0.0), (("X", "X"), 0.0)]⟩,
    [⟨1, "Hub", "H", none, ⟨3, 20⟩⟩, ⟨2, "North", "X", none, ⟨6, 14⟩⟩], 100.0⟩
  costs := ⟨"by height", fun origin destination =>
      .ok (if origin.id < destination.id then 1.5 else 2.0),
    fun origin destination => .ok (if origin.id < destination.id then 0.25 else 1.0)⟩
  optimizer := ⟨"content", fun _ m => (⟨[], .ok [.empty]⟩, m)⟩
  settings := { SweepSettings.standard with
    bounds := { TimeBounds.standard with hubLower := 14.0 } }

theorem sweep_submits_costs_uphill :
    ∃ places matrices problem,
      uphill.network.memberLocations ⟨"H", ["X", "H"]⟩ = .ok places ∧
      Matrices.ofProvider uphill.costs places = .ok matrices ∧
      Event.asked problem ∈ (uphill.sweep ⟨"H", ["X", "H"]⟩ (fun _ m => (.ok (), m)) ()).events ∧
      (problem.matrices.flatDistances = [2000, 2000, 1500, 2000] ∧
        problem.matrices.flatDurations = [3600, 3600, 900, 3600]) ∧
      problem.HasCosts uphill.network uphill.costs "H" "X" ∧
      problem.HasCosts uphill.network uphill.costs "X" "H" := by
  obtain ⟨places, matrices, hplaces, hmatrices, hflat⟩ : ∃ places matrices,
      uphill.network.memberLocations ⟨"H", ["X", "H"]⟩ = .ok places ∧
      Matrices.ofProvider uphill.costs places = .ok matrices ∧
      (matrices.flatDistances = [2000, 2000, 1500, 2000] ∧
        matrices.flatDurations = [3600, 3600, 900, 3600]) :=
    ⟨_, _, rfl, rfl, by decide +kernel⟩
  have hany : ((uphill.sweep ⟨"H", ["X", "H"]⟩ (fun _ m => (.ok (), m)) ()).events.any fun event =>
      match event with
      | .asked _ => true
      | _ => false) = true := by decide +kernel
  obtain ⟨problem, hasked⟩ : ∃ problem, Event.asked problem ∈
      (uphill.sweep ⟨"H", ["X", "H"]⟩ (fun _ m => (.ok (), m)) ()).events := by
    obtain ⟨event, hmem, hevent⟩ := List.any_eq_true.mp hany
    cases event with
    | asked problem => exact ⟨problem, hmem⟩
    | noted entry => cases hevent
    | received result => cases hevent
  obtain ⟨-, hsubmitted⟩ := sweep_submits_costs (fun _ m => (.ok (), m)) () hplaces hmatrices
  obtain ⟨hsame, -, hcosts⟩ := hsubmitted problem hasked
  refine ⟨places, matrices, problem, hplaces, hmatrices, hasked, ?_, ?_, ?_⟩
  · rw [hsame]
    exact hflat
  · exact hcosts "H" (by decide) "X" (by decide)
  · exact hcosts "X" (by decide) "H" (by decide)

end Sweeper
end HubDispatch
