import HubDispatch.Proofs.Sweep.Failure
import HubDispatch.Proofs.Sweep.Relaxation
import HubDispatch.Proofs.Sweep.SharedHours
import HubDispatch.Proofs.Sweep.Windows

/-!
# Where a sweep begins

Two sweeps of a cluster whose hub opens at different whole hours have plans that agree
(`SweepPlan.IsFor.agree`) and the same last hour, as long as a branch takes freight in until the
later opening. The later sweep then tries the hours of the earlier one from its own opening on, so
it reports the same results for them: nothing of the hours before is left.

Openings and dispatch times are binary64 numbers. An opening has to be a whole number that a 64-bit
integer can hold; and beyond `2 ^ 53` the hour before the opening may have the same dispatch time as
the opening itself.
-/

namespace HubDispatch

open Binary64 (Exact int64Min int64Max)

section Settings

variable {cluster : Cluster} {demand : DemandMatrix} {windows : ClusterWindows}
  {relaxed : List LocationCode} {settings : SweepSettings} {opening : Float}

/-- The opening of the hub enters shipments only through the windows. -/
theorem shipmentsOf_openingAt :
    shipmentsOf cluster demand windows relaxed (settings.openingAt opening) =
      shipmentsOf cluster demand windows relaxed settings := rfl

theorem vehiclesOf_openingAt :
    vehiclesOf cluster (settings.openingAt opening) = vehiclesOf cluster settings := rfl

end Settings

namespace SweepPlan

variable {network : Network Float} {costs : CostProvider} {settings : SweepSettings}
  {cluster : Cluster} {cutoffs : List Cutoffs} {i : Nat} {c : Cutoffs} {a b : Int}
  {p q : SweepPlan}

/-- What a plan needs does not depend on when the hub opens. -/
theorem IsFor.exists_openingAt {opening : Float}
    (h : p.IsFor network costs (settings.openingAt opening) cluster) (opening' : Float) :
    ∃ q : SweepPlan, q.IsFor network costs (settings.openingAt opening') cluster := by
  obtain ⟨-, -, hdemand, ⟨cutoffs, hcutoffs, -⟩, places, hplaces, hmatrices⟩ := h
  exact ⟨⟨cluster, settings.openingAt opening', p.demand, p.matrices, .derive cluster cutoffs _⟩,
    rfl, rfl, hdemand, ⟨cutoffs, hcutoffs, rfl⟩, places, hplaces, hmatrices⟩

/-- **Plans agree** whichever of two hours the hub opens at, if a branch takes freight in until the
later of them. -/
theorem IsFor.agree (hp : p.IsFor network costs (settings.openingAt (Float.ofInt a)) cluster)
    (hq : q.IsFor network costs (settings.openingAt (Float.ofInt b)) cluster)
    (hcutoffs : network.cutoffs cluster = .ok cutoffs) (hc : cutoffs[i]? = some c)
    (hi : i ≠ cluster.hubIndex) (hab : a ≤ b) (hbc : b ≤ c.inbound) : p.Agree q := by
  have hdemand : q.demand = p.demand := Except.ok.inj (hq.demand.symm.trans hp.demand)
  have hmatrices : q.matrices = p.matrices := by
    obtain ⟨places, hplaces, hm⟩ := hp.matrices
    obtain ⟨places', hplaces', hm'⟩ := hq.matrices
    obtain rfl := Except.ok.inj (hplaces.symm.trans hplaces')
    exact Except.ok.inj (hm'.symm.trans hm)
  have hwindows : ∀ dispatch, q.windows.withDispatchTime dispatch =
      p.windows.withDispatchTime dispatch := by
    intro dispatch
    rw [hp.windows_eq hcutoffs, hq.windows_eq hcutoffs]
    exact (ClusterWindows.windows_eq hab hc hi hbc dispatch).symm
  refine ⟨hq.cluster_eq.trans hp.cluster_eq.symm, fun t relaxed problem => ?_⟩
  unfold Puts
  simp only [hp.cluster_eq, hq.cluster_eq, hp.settings_eq, hq.settings_eq, hdemand, hmatrices,
    hwindows, shipmentsOf_openingAt, vehiclesOf_openingAt]

/-- A sweep begins with the hour at which the hub opens. -/
theorem IsFor.firstHour_eq
    (h : p.IsFor network costs (settings.openingAt (Float.ofInt a)) cluster)
    (ha : (Exact.ofFloat (Float.ofInt a)).value? = some (a : ℚ)) (hlow : int64Min ≤ a)
    (hhigh : a ≤ int64Max) : p.firstHour = a := by
  have hopening : p.settings.bounds.hubLower = Float.ofInt a := by
    rw [h.settings_eq]
    rfl
  unfold firstHour Binary64.toInt64
  rw [hopening, Exact.toInt_up ha, Int.ceil_intCast, Exact.clamp_of_mem hlow hhigh]

theorem IsFor.lastHour_eq (hp : p.IsFor network costs (settings.openingAt (Float.ofInt a)) cluster)
    (hq : q.IsFor network costs (settings.openingAt (Float.ofInt b)) cluster)
    (hcutoffs : network.cutoffs cluster = .ok cutoffs) (hc : cutoffs[i]? = some c)
    (hi : i ≠ cluster.hubIndex) (hab : a ≤ b) (hbc : b ≤ c.inbound) :
    q.lastHour = p.lastHour := by
  have hlatest : q.windows.latestBranchCutoff = p.windows.latestBranchCutoff := by
    rw [hp.windows_eq hcutoffs, hq.windows_eq hcutoffs]
    exact (ClusterWindows.latest_eq hab hc hi hbc).symm
  unfold lastHour
  rw [hlatest]

theorem getElem?_hours_eq_some_iff {k : Nat} {t : Int} :
    p.hours[k]? = some t ↔ k < p.candidateCount ∧ p.firstHour + k = t := by
  unfold hours
  rw [List.getElem?_map, Option.map_eq_some_iff]
  constructor
  · rintro ⟨k', hk, rfl⟩
    obtain ⟨hlt, rfl⟩ := List.getElem?_eq_some_iff.mp hk
    rw [List.length_range] at hlt
    exact ⟨hlt, by rw [List.getElem_range]⟩
  · rintro ⟨hlt, rfl⟩
    exact ⟨k, List.getElem?_range hlt, rfl⟩

/-- A sweep that begins later and ends with the same hour tries the rest of the hours. -/
theorem hours_eq_drop {d : Nat} (hfirst : q.firstHour = p.firstHour + d)
    (hlast : q.lastHour = p.lastHour) : q.hours = p.hours.drop d := by
  have hcount : q.candidateCount = p.candidateCount - d := by
    unfold candidateCount
    omega
  apply List.ext_getElem?
  intro k
  apply Option.ext
  intro t
  rw [List.getElem?_drop, getElem?_hours_eq_some_iff, getElem?_hours_eq_some_iff]
  omega

end SweepPlan

/-- What is picked out of a list is all from a position on, if it is picked out exactly from there
on. -/
theorem drop_eq_filter {α : Type} {keep : α → Bool} {xs : List α} {d : Nat}
    (h : ∀ k x, xs[k]? = some x → (keep x = true ↔ d ≤ k)) : xs.drop d = xs.filter keep := by
  have hbefore : (xs.take d).filter keep = [] := by
    rw [List.filter_eq_nil_iff]
    intro x hx hkeep
    obtain ⟨k, hk⟩ := List.mem_iff_getElem?.mp hx
    rw [List.getElem?_take] at hk
    by_cases hlt : k < d
    · rw [if_pos hlt] at hk
      have hle := (h k x hk).mp hkeep
      omega
    · rw [if_neg hlt] at hk
      cases hk
  have hafter : (xs.drop d).filter keep = xs.drop d := by
    rw [List.filter_eq_self]
    intro x hx
    obtain ⟨k, hk⟩ := List.mem_iff_getElem?.mp hx
    rw [List.getElem?_drop] at hk
    exact (h (d + k) x hk).mpr (Nat.le_add_right d k)
  calc xs.drop d = (xs.take d).filter keep ++ (xs.drop d).filter keep := by
        rw [hbefore, hafter, List.nil_append]
    _ = xs.filter keep := by rw [← List.filter_append, List.take_append_drop]

namespace SweepPlan.Protocol

variable {p : SweepPlan} {talk : List Exchange} {outcome : Except Failure Unit}

/-- The results of a sweep have the numbers and the dispatch times of its hours. -/
theorem numbered (h : p.Protocol 0 p.hours talk outcome) {k : Nat} {r : Iteration}
    (hr : (results talk)[k]? = some r) :
    r.index = k ∧ r.dispatchTime = Float.ofInt (p.firstHour + k) := by
  obtain ⟨hindex, t, ht, hdispatch⟩ := h.getElem?_results hr
  rw [Nat.zero_add] at hindex
  obtain ⟨-, rfl⟩ := getElem?_hours_eq_some_iff.mp ht
  exact ⟨hindex, hdispatch⟩

/-- The results from an hour of at most 53 bits on are those that do not dispatch before it. -/
theorem drop_eq_filter_dispatchTime (h : p.Protocol 0 p.hours talk outcome) {b : Int}
    (hfirst : p.firstHour ≤ b) (hlow : -2 ^ 53 < b) (hhigh : b ≤ 2 ^ 53) :
    (results talk).drop (b - p.firstHour).toNat =
      (results talk).filter fun r => ¬ r.dispatchTime < Float.ofInt b := by
  apply drop_eq_filter
  intro k r hr
  rw [decide_eq_true_iff, (h.numbered hr).2, Exact.ofInt_lt_iff_of_right hlow hhigh]
  omega

end SweepPlan.Protocol

namespace Sweeper

variable {σ : Type} {s : Sweeper σ} {cluster : Cluster}
  {receive : Iteration → σ → Except Failure Unit × σ} {memory : σ}

/-- A sweep that comes to its end has a plan. -/
theorem exists_plan (h : (s.sweep cluster receive memory).result = .ok ()) :
    ∃ plan : SweepPlan, plan.IsFor s.network s.costs s.settings cluster := by
  cases hplan : SweepPlan.make s.network s.costs s.settings cluster with
  | ok plan => exact ⟨plan, SweepPlan.make_eq_ok_iff.mp hplan⟩
  | error failure =>
    have hruns := runs_of_make_eq_error receive memory hplan
    cases hruns.result_eq.symm.trans h

/-- What a sweep with a plan exchanges with optimizer and receiver keeps the protocol. -/
theorem protocol_exchanges (receive : Iteration → σ → Except Failure Unit × σ) (memory : σ)
    {plan : SweepPlan} (hplan : plan.IsFor s.network s.costs s.settings cluster) :
    plan.Protocol 0 plan.hours
      (exchanges s.optimizer receive (s.sweep cluster receive memory).events memory)
      (s.sweep cluster receive memory).result := by
  obtain ⟨talk, result, m', hruns, hprotocol⟩ :=
    keeps_of_make_eq_ok receive (SweepPlan.make_eq_ok_iff.mpr hplan) memory
  rw [hruns.talk_eq, hruns.result_eq]
  exact hprotocol

/-- A sweep repeats the end of one whose plan agrees with its own, if its hours are the rest of
those hours. -/
theorem repeats_of_agree {u : Sweeper σ} {receive' : Iteration → σ → Except Failure Unit × σ}
    {memory' : σ} {p q : SweepPlan} {d : Nat} {f : Problem → Except Failure (List Solution)}
    (hp : p.IsFor s.network s.costs s.settings cluster)
    (hq : q.IsFor u.network u.costs u.settings cluster) (hagree : p.Agree q)
    (hhours : q.hours = p.hours.drop d)
    (hf : ∀ problem m, (s.optimizer.solve problem m).1.result = f problem)
    (hf' : ∀ problem m, (u.optimizer.solve problem m).1.result = f problem)
    (hcompletes : (s.sweep cluster receive memory).result = .ok ())
    (haccepted : Accepted
      (exchanges u.optimizer receive' (u.sweep cluster receive' memory').events memory')) :
    (u.sweep cluster receive' memory').result = .ok () ∧
      reported (u.sweep cluster receive' memory').events =
        ((reported (s.sweep cluster receive memory).events).drop d).map
          fun r => { r with index := r.index - d } := by
  have hearly := protocol_exchanges receive memory hp
  have hlate := protocol_exchanges receive' memory' hq
  rw [hcompletes] at hearly
  rw [hhours] at hlate
  obtain ⟨hends, hrepeats⟩ := hearly.repeats hagree (answeredBy_exchanges hf _ _) hlate
    (answeredBy_exchanges hf' _ _) haccepted
  rw [results_exchanges, results_exchanges] at hrepeats
  exact ⟨hends, hrepeats⟩

/-- **Candidates do not depend on where the sweep begins.** The optimizer looks at nothing but the
problem, a branch takes freight in until the later of two openings of the hub, and the sweep from
the earlier one comes to its end. Then the sweep from the later one does so, too, if its receiver
refuses none of the results that it is handed. It reports what the earlier one reports for the hours
from its own opening on, each with a number smaller by the hours between. Within 53 bits these are
the results that do not dispatch before the opening. -/
theorem sweep_openingAt {network : Network Float} {costs : CostProvider}
    {optimizer : Optimizer σ} {settings : SweepSettings} {cutoffs : List Cutoffs} {i : Nat}
    {c : Cutoffs} {a b : Int} (receive receive' : Iteration → σ → Except Failure Unit × σ)
    (memory memory' : σ)
    (hpure : ∀ problem m m',
      (optimizer.solve problem m).1.result = (optimizer.solve problem m').1.result)
    (ha : (Exact.ofFloat (Float.ofInt a)).value? = some (a : ℚ))
    (hb : (Exact.ofFloat (Float.ofInt b)).value? = some (b : ℚ))
    (hlow : int64Min ≤ a) (hab : a ≤ b) (hhigh : b ≤ int64Max)
    (hcutoffs : network.cutoffs cluster = .ok cutoffs) (hc : cutoffs[i]? = some c)
    (hi : i ≠ cluster.hubIndex) (hbc : b ≤ c.inbound) :
    let sweepFrom := fun opening : Int =>
      (⟨network, costs, optimizer, settings.openingAt (Float.ofInt opening)⟩ : Sweeper σ).sweep
        cluster
    let early := sweepFrom a receive memory
    let late := sweepFrom b receive' memory'
    early.result = .ok () → Accepted (exchanges optimizer receive' late.events memory') →
      late.result = .ok () ∧
      reported late.events = ((reported early.events).drop (b - a).toNat).map
        (fun r => { r with index := r.index - (b - a).toNat }) ∧
      (∀ (k : Nat) (r : Iteration), (reported early.events)[k]? = some r →
        r.index = k ∧ r.dispatchTime = Float.ofInt (a + k)) ∧
      (-2 ^ 53 < b → b ≤ 2 ^ 53 → (reported early.events).drop (b - a).toNat =
        (reported early.events).filter fun r => ¬ r.dispatchTime < Float.ofInt b) := by
  intro sweepFrom early late hcompletes haccepted
  obtain ⟨p, hp⟩ : ∃ p : SweepPlan,
      p.IsFor network costs (settings.openingAt (Float.ofInt a)) cluster := exists_plan hcompletes
  obtain ⟨q, hq⟩ := hp.exists_openingAt (Float.ofInt b)
  have hfirst := hp.firstHour_eq ha hlow (hab.trans hhigh)
  have hhours : q.hours = p.hours.drop (b - a).toNat := by
    refine SweepPlan.hours_eq_drop ?_ (hp.lastHour_eq hq hcutoffs hc hi hab hbc)
    rw [hfirst, hq.firstHour_eq hb (hlow.trans hab) hhigh]
    omega
  -- The answers are the same for both, whatever the memories.
  have hanswers : ∀ problem m, (optimizer.solve problem m).1.result =
      (optimizer.solve problem memory).1.result := fun problem m => hpure problem m memory
  obtain ⟨hends, hrepeats⟩ := repeats_of_agree
    (s := ⟨network, costs, optimizer, settings.openingAt (Float.ofInt a)⟩)
    (u := ⟨network, costs, optimizer, settings.openingAt (Float.ofInt b)⟩) hp hq
    (hp.agree hq hcutoffs hc hi hab hbc) hhours hanswers hanswers hcompletes haccepted
  have hearly := protocol_exchanges
    (s := ⟨network, costs, optimizer, settings.openingAt (Float.ofInt a)⟩) receive memory hp
  refine ⟨hends, hrepeats, ?_, ?_⟩
  · intro k r hr
    rw [← results_exchanges] at hr
    rw [← hfirst]
    exact hearly.numbered hr
  · intro hlow' hhigh'
    rw [← results_exchanges, ← hfirst]
    exact hearly.drop_eq_filter_dispatchTime (hfirst ▸ hab) hlow' hhigh'

/-- A hub with a branch that takes freight in until `inbound`. The optimizer counts its questions
and leaves everything behind. -/
def pair (inbound opening : Int) : Sweeper Nat where
  network := ⟨[⟨"H", ["H", "X"]⟩], ⟨["H", "X"],
      [(("H", "X"), 500.0), (("X", "H"), 250.0), (("H", "H"), 0.0), (("X", "X"), 0.0)]⟩,
    [⟨1, "Hub", "H", none, ⟨3, 20⟩⟩, ⟨2, "North", "X", none, ⟨6, inbound⟩⟩], 100.0⟩
  costs := evenCosts
  optimizer := ⟨"idle", fun problem n =>
    (⟨[], .ok [⟨.ofFloat 0.0, [], problem.shipments.map (·.reference)⟩]⟩, n + 1)⟩
  settings := SweepSettings.standard.openingAt (Float.ofInt opening)

/-- Its sweep, with a receiver that takes everything. -/
def pairSweep (inbound opening : Int) : Outcome Nat Unit :=
  (pair inbound opening).sweep ⟨"H", ["H", "X"]⟩ (fun _ n => (.ok (), n)) 0

theorem sweep_openingAt_pair :
    ((pair 14 12).network.cutoffs ⟨"H", ["H", "X"]⟩ = .ok [⟨3, 20⟩, ⟨6, 14⟩] ∧
      (pairSweep 14 12).result = .ok () ∧ (reported (pairSweep 14 12).events).length = 3) ∧
      (pairSweep 14 13).result = .ok () ∧
      reported (pairSweep 14 13).events =
        ((reported (pairSweep 14 12).events).filter fun r =>
          ¬ r.dispatchTime < Float.ofInt 13).map fun r => { r with index := r.index - 1 } := by
  have hcutoffs : (pair 14 12).network.cutoffs ⟨"H", ["H", "X"]⟩ = .ok [⟨3, 20⟩, ⟨6, 14⟩] := rfl
  have hresult : (pairSweep 14 12).result = .ok () := by decide +kernel
  have hlength : (reported (pairSweep 14 12).events).length = 3 := by decide +kernel
  have htwelve : (Exact.ofFloat (Float.ofInt 12)).value? = some ((12 : Int) : ℚ) := by
    have hread : Exact.ofFloat (Float.ofInt 12) = .finite false (3 * 2 ^ 51) (-49) := by
      decide +kernel
    rw [hread, Exact.value?]
    norm_num [Exact.signed]
  have hthirteen : (Exact.ofFloat (Float.ofInt 13)).value? = some ((13 : Int) : ℚ) := by
    have hread : Exact.ofFloat (Float.ofInt 13) = .finite false (13 * 2 ^ 49) (-49) := by
      decide +kernel
    rw [hread, Exact.value?]
    norm_num [Exact.signed]
  obtain ⟨hlate, hrepeats, -, hfilter⟩ := sweep_openingAt (fun _ n => (.ok (), n))
    (fun _ n => (.ok (), n)) 0 0 (fun _ _ _ => rfl) htwelve hthirteen (by decide) (by decide)
    (by decide) hcutoffs (i := 1) rfl (by decide) (by decide) hresult
    (accepted_exchanges (fun _ _ => rfl) _ _)
  refine ⟨⟨hcutoffs, hresult, hlength⟩, hlate, ?_⟩
  exact hrepeats.trans (congrArg (List.map _) (hfilter (by decide) (by decide)))

/-- Beyond `2 ^ 53` the hour before the opening dispatches at the opening, too. And two openings
before the least 64-bit integer begin with the same hour. -/
theorem sweep_openingAt_beyond :
    let early := pairSweep (2 ^ 53 + 4) (2 ^ 53 + 2)
    let late := pairSweep (2 ^ 53 + 4) (2 ^ 53 + 4)
    let early' := pairSweep int64Min (-2 ^ 64)
    let late' := pairSweep int64Min (-2 ^ 64 + 2 ^ 12)
    ((Exact.ofFloat (Float.ofInt (2 ^ 53 + 2)) = .finite false (2 ^ 52 + 1) 1 ∧
      Exact.ofFloat (Float.ofInt (2 ^ 53 + 4)) = .finite false (2 ^ 52 + 2) 1) ∧
      (pair (2 ^ 53 + 4) (2 ^ 53 + 2)).network.cutoffs ⟨"H", ["H", "X"]⟩ =
        .ok [⟨3, 20⟩, ⟨6, 2 ^ 53 + 4⟩] ∧
      early.result = .ok () ∧ late.result = .ok () ∧
      reported late.events ≠ ((reported early.events).filter fun r =>
        ¬ r.dispatchTime < Float.ofInt (2 ^ 53 + 4)).map fun r => { r with index := r.index - 2 }) ∧
      (Exact.ofFloat (Float.ofInt (-2 ^ 64)) = .finite true (2 ^ 52) 12 ∧
        Exact.ofFloat (Float.ofInt (-2 ^ 64 + 2 ^ 12)) = .finite true (2 ^ 53 - 2) 11) ∧
      (early'.result = .ok () ∧ (reported early'.events).map (·.index) = [0]) ∧
      late'.result = .ok () ∧ (reported late'.events).map (·.index) = [0] := by
  intro early late early' late'
  have hreads : Exact.ofFloat (Float.ofInt (2 ^ 53 + 2)) = .finite false (2 ^ 52 + 1) 1 ∧
      Exact.ofFloat (Float.ofInt (2 ^ 53 + 4)) = .finite false (2 ^ 52 + 2) 1 := by
    decide +kernel
  have hearly : early.result = .ok () ∧ ((reported early.events).filter fun r =>
      ¬ r.dispatchTime < Float.ofInt (2 ^ 53 + 4)).length = 2 := by decide +kernel
  have hlate : late.result = .ok () ∧ (reported late.events).length = 1 := by decide +kernel
  have hsame : (early'.result = .ok () ∧ (reported early'.events).map (·.index) = [0]) ∧
      late'.result = .ok () ∧ (reported late'.events).map (·.index) = [0] := by decide +kernel
  refine ⟨⟨hreads, rfl, hearly.1, hlate.1, fun heq => ?_⟩, ?_, hsame⟩
  · have hlength := congrArg List.length heq
    rw [List.length_map, hearly.2, hlate.2] at hlength
    omega
  · decide +kernel

end Sweeper
end HubDispatch
