import HubDispatch.Proofs.Binary64.Value
import HubDispatch.Proofs.Sweep.Exchange
import HubDispatch.Proofs.Sweep.Plan

/-!
# The protocol of a sweep

What a sweep may exchange with its optimizer and its receiver is a language of three layers. An
epoch is one question (`SweepPlan.Epoch`). A candidate is one epoch, or two if the first left
shipments behind (`SweepPlan.Candidate`). A sweep is a candidate and a result handed on for every
hour, until one of them fails (`SweepPlan.Protocol`).

Every sweep keeps to it, whatever the optimizer and the receiver remember and answer. The proof
follows the layers; the memory is threaded by `Runs`, so that each layer needs nothing of the one
below but the shape of its exchanges.
-/

namespace HubDispatch

open Binary64 (Exact int64Min int64Max)

/-- Only if nothing was left behind is there no branch to relax. -/
theorem infeasibleLocations_eq_nil_iff {cluster : Cluster} {unassigned : List ShipmentRef} :
    infeasibleLocations cluster unassigned = [] ↔ unassigned = [] := by
  cases unassigned with
  | nil => simp [infeasibleLocations]
  | cons r rest => simp [infeasibleLocations, List.eraseDups_cons]

namespace SweepPlan

variable (p : SweepPlan)

/-! ## The dispatch times -/

/-- The dispatch times in the order in which they are tried. -/
def hours : List Int := (List.range p.candidateCount).map fun (i : Nat) => p.firstHour + i

variable {p} in
theorem mem_hours {t : Int} : t ∈ p.hours ↔ p.firstHour ≤ t ∧ t ≤ p.lastHour := by
  unfold hours candidateCount
  rw [List.mem_map]
  constructor
  · rintro ⟨i, hi, rfl⟩
    rw [List.mem_range] at hi
    omega
  · rintro ⟨hfirst, hlast⟩
    refine ⟨(t - p.firstHour).toNat, ?_, by omega⟩
    rw [List.mem_range]
    omega

theorem pairwise_hours : p.hours.Pairwise (· < ·) := by
  refine List.pairwise_map.mpr (List.pairwise_lt_range.imp fun hlt => ?_)
  omega

/-! ## The language -/

/-- The problem of a dispatch time: the shipments of the cluster when the hub hands out freight from
`t` on and some destinations are relaxed, with what stays the same in a sweep. -/
def Puts (t : Int) (relaxed : List LocationCode) (problem : Problem) : Prop :=
  ∃ shipments, shipmentsOf p.cluster p.demand (p.windows.withDispatchTime (Float.ofInt t)) relaxed
      p.settings = .ok shipments ∧
    problem = ⟨shipments, vehiclesOf p.cluster p.settings, p.cluster.members, p.matrices⟩

/-- What an answer of the optimizer comes to: the best of its candidates. Its failure gets the
context, and no candidate at all is a failure, too. -/
def verdict (context : String) : Except Failure (List Solution) → Except Failure Solution
  | .error failure => .error (failure.within context)
  | .ok candidates => planned (Solution.bestOf candidates)

/-- Epoch `n` of the `i`-th candidate is one question, unless there is no fleet to ask about. -/
inductive Epoch (i n : Nat) (t : Int) (relaxed : List LocationCode) :
    List Exchange → Except Failure Solution → Prop
  | noFleet (hfleet : p.settings.fleet = []) :
    Epoch i n t relaxed [] (.error (.ofFault (.malformedInput "no fleet type is active")))
  | asked {problem : Problem} {answer : Except Failure (List Solution)}
    (hputs : p.Puts t relaxed problem) :
    Epoch i n t relaxed [.asked problem answer] (verdict (p.askContext i n) answer)

/-- A candidate has a second epoch exactly if the first left shipments behind, and never a third.
The branches it reports are those of the first epoch. -/
inductive Candidate (i : Nat) (t : Int) : List Exchange → Except Failure Iteration → Prop
  | failed {talk : List Exchange} {failure : Failure}
    (hfirst : p.Epoch i 0 t [] talk (.error failure)) : Candidate i t talk (.error failure)
  | served {talk : List Exchange} {best : Solution} (hfirst : p.Epoch i 0 t [] talk (.ok best))
    (hall : best.unassigned = []) : Candidate i t talk (.ok ⟨i, Float.ofInt t, best, [], 0⟩)
  | failedRelaxed {talk talk' : List Exchange} {first : Solution} {failure : Failure}
    (hfirst : p.Epoch i 0 t [] talk (.ok first)) (hleft : first.unassigned ≠ [])
    (hsecond : p.Epoch i 1 t (infeasibleLocations p.cluster first.unassigned) talk'
      (.error failure)) : Candidate i t (talk ++ talk') (.error failure)
  | relaxed {talk talk' : List Exchange} {first last : Solution}
    (hfirst : p.Epoch i 0 t [] talk (.ok first)) (hleft : first.unassigned ≠ [])
    (hsecond : p.Epoch i 1 t (infeasibleLocations p.cluster first.unassigned) talk' (.ok last)) :
    Candidate i t (talk ++ talk') (.ok ⟨i, Float.ofInt t, last,
      infeasibleLocations p.cluster first.unassigned, last.unassigned.length⟩)

/-- The sweep over some hours, of which the first is that of the `i`-th candidate. The first failure
ends it. -/
inductive Protocol : Nat → List Int → List Exchange → Except Failure Unit → Prop
  | finished {i : Nat} : Protocol i [] [] (.ok ())
  | taken {i : Nat} {t : Int} {hours : List Int} {talk talk' : List Exchange} {result : Iteration}
    {outcome : Except Failure Unit} (hcandidate : p.Candidate i t talk (.ok result))
    (hrest : Protocol (i + 1) hours talk' outcome) :
    Protocol i (t :: hours) (talk ++ .received result (.ok ()) :: talk') outcome
  | refused {i : Nat} {t : Int} {hours : List Int} {talk : List Exchange} {result : Iteration}
    {failure : Failure} (hcandidate : p.Candidate i t talk (.ok result)) :
    Protocol i (t :: hours) (talk ++ [.received result (.error failure)]) (.error failure)
  | abandoned {i : Nat} {t : Int} {hours : List Int} {talk : List Exchange} {failure : Failure}
    (hcandidate : p.Candidate i t talk (.error failure)) :
    Protocol i (t :: hours) talk (.error failure)

/-! ## Sweeps keep to it -/

section Keeping

variable {p} {σ : Type} (optimizer : Optimizer σ)
  (receive : Iteration → σ → Except Failure Unit × σ)

/-- The only fault that can keep the problem of a fitting plan from being put. -/
theorem problem_of_no_fleet (hfleet : p.settings.fleet = []) (i : Nat)
    (relaxed : List LocationCode) :
    p.problem i relaxed = .error (.malformedInput "no fleet type is active") := by
  unfold SweepPlan.problem
  rw [shipmentsOf_of_no_fleet hfleet]
  rfl

/-- A question and its verdict, whatever is noted about it. -/
theorem runs_verdict (context : String) (problem : Problem) (text : Solution → String) (m : σ) :
    ∃ answer m', Runs optimizer receive
      (do
        let candidates ← Work.ask optimizer context problem
        let best ← Work.lift (planned (Solution.bestOf candidates))
        Work.note .info (text best)
        return best)
      m [.asked problem answer] (verdict context answer) m' := by
  obtain ⟨answer, m', hask⟩ : ∃ answer m', Runs optimizer receive
      (Work.ask optimizer context problem) m [.asked problem answer] (within context answer) m' :=
    ⟨_, _, .ask context problem⟩
  refine ⟨answer, m', ?_⟩
  cases answer with
  | error failure => exact .bind_error _ hask
  | ok candidates =>
    refine .bind_quiet hask ?_
    change Runs _ _ _ _ _ (planned (Solution.bestOf candidates)) _
    cases hbest : planned (Solution.bestOf candidates) with
    | error failure => exact .bind_error _ (.lift _)
    | ok best => exact .bind_quiet (.lift _) (.note_bind (.pure best))

/-- An epoch is one question, unless there is no fleet. -/
theorem keeps_epoch (hfits : p.Fits) (i n : Nat) (relaxed : List LocationCode) :
    Keeps optimizer receive (p.epoch optimizer i n relaxed)
      (p.Epoch i n (p.firstHour + i) relaxed) := by
  intro m
  unfold SweepPlan.epoch
  by_cases hfleet : p.settings.fleet = []
  · rw [problem_of_no_fleet hfleet]
    exact ⟨_, _, _, .bind_error _ (.lift _), .noFleet hfleet⟩
  · obtain ⟨problem, hproblem⟩ := exists_problem hfits hfleet i relaxed
    obtain ⟨answer, m', hruns⟩ := runs_verdict optimizer receive (p.askContext i n) problem
      (epochText i n problem) m
    rw [hproblem]
    exact ⟨_, _, m', .bind (.lift _) hruns, .asked (problem_eq_ok_iff.mp hproblem)⟩

/-- A candidate is one epoch or two. -/
theorem keeps_candidate (hfits : p.Fits) (i : Nat) :
    Keeps optimizer receive (p.candidate optimizer i) (p.Candidate i (p.firstHour + i)) := by
  intro m
  unfold SweepPlan.candidate
  obtain ⟨talk, result, m', hfirst, hepoch⟩ := keeps_epoch optimizer receive hfits i 0 [] m
  cases result with
  | error failure => exact ⟨_, _, _, .note_bind (.bind_error _ hfirst), .failed hepoch⟩
  | ok first =>
    -- The code asks for branches to relax; there are some exactly if something was left behind.
    by_cases hall : first.unassigned = []
    · have hnone : infeasibleLocations p.cluster first.unassigned = [] :=
        infeasibleLocations_eq_nil_iff.mpr hall
      have hzero : first.unassigned.length = 0 := List.length_eq_zero_iff.mpr hall
      refine ⟨_, _, m', .note_bind (.bind_quiet hfirst ?_), .served hepoch hall⟩
      simp only [hnone, List.isEmpty_nil, if_true]
      refine .bind_quiet (.pure first) ?_
      rw [hzero]
      exact .pure _
    · obtain ⟨talk', result', m'', hsecond, hepoch'⟩ := keeps_epoch optimizer receive hfits i 1
        (infeasibleLocations p.cluster first.unassigned) m'
      have hsome : (infeasibleLocations p.cluster first.unassigned).isEmpty = false := by
        rw [List.isEmpty_eq_false_iff]
        exact fun hnil => hall (infeasibleLocations_eq_nil_iff.mp hnil)
      cases result' with
      | error failure =>
        refine ⟨_, _, m'', .note_bind (.bind hfirst ?_), .failedRelaxed hepoch hall hepoch'⟩
        simp only [hsome, Bool.false_eq_true, if_false]
        exact .note_bind (.bind_error _ hsecond)
      | ok last =>
        refine ⟨_, _, m'', .note_bind (.bind hfirst ?_), .relaxed hepoch hall hepoch'⟩
        simp only [hsome, Bool.false_eq_true, if_false]
        exact .note_bind (.bind_quiet hsecond (.pure _))

/-- The candidates from the `i`-th on keep to the protocol of their hours. -/
theorem keeps_candidates (hfits : p.Fits) (n i : Nat) :
    Keeps optimizer receive (p.candidates optimizer receive n i)
      (p.Protocol i ((List.range' i n).map fun (k : Nat) => p.firstHour + k)) := by
  -- On the number of candidates left; each begins with the memory that the one before leaves.
  induction n generalizing i with
  | zero => exact fun m => ⟨_, _, m, .pure (), .finished⟩
  | succ n ih =>
    intro m
    unfold SweepPlan.candidates
    rw [List.range'_succ, List.map_cons]
    obtain ⟨talk, result, m', hruns, hcandidate⟩ := keeps_candidate optimizer receive hfits i m
    cases result with
    | error failure => exact ⟨_, _, m', .bind_error _ hruns, .abandoned hcandidate⟩
    | ok result =>
      have hhand : Runs optimizer receive (Work.handOn receive result) m'
          [.received result (receive result m').1] (receive result m').1 (receive result m').2 :=
        .handOn result
      cases hanswer : (receive result m').1 with
      | error failure =>
        rw [hanswer] at hhand
        exact ⟨_, _, _, .bind hruns (.bind_error _ hhand), .refused hcandidate⟩
      | ok u =>
        rw [hanswer] at hhand
        obtain ⟨talk', outcome, m'', hrest, hprotocol⟩ := ih (i + 1) (receive result m').2
        exact ⟨_, _, m'', .bind hruns (.bind hhand hrest), .taken hcandidate hprotocol⟩

end Keeping
end SweepPlan

/-- **A sweep keeps to its protocol**, whatever its optimizer and its receiver remember and answer:
nothing but their exchanges moves the memory on. The hours run from the lower bound of the hub,
rounded up, to the latest cutoff of a branch, rounded down, both as 64-bit integers. Without a plan
nothing is exchanged at all. -/
theorem Sweeper.sweep_protocol {σ : Type} (s : Sweeper σ) (cluster : Cluster)
    (receive : Iteration → σ → Except Failure Unit × σ) (memory : σ) :
    let run := s.sweep cluster receive memory
    let talk := exchanges s.optimizer receive run.events memory
    run.state = memoryAfter s.optimizer receive run.events memory ∧
    match SweepPlan.make s.network s.costs s.settings cluster with
    | .error failure => talk = [] ∧ run.result = .error failure
    | .ok plan =>
      plan.IsFor s.network s.costs s.settings cluster ∧
        plan.Protocol 0 plan.hours talk run.result ∧ plan.hours.Pairwise (· < ·) ∧
        (∀ t, t ∈ plan.hours ↔ plan.firstHour ≤ t ∧ t ≤ plan.lastHour) ∧
        (∀ v, (Exact.ofFloat s.settings.bounds.hubLower).value? = some v →
          plan.firstHour = Exact.clamp int64Min int64Max ⌈v⌉) ∧
        ∀ v, (Exact.ofFloat plan.windows.latestBranchCutoff).value? = some v →
          plan.lastHour = Exact.clamp int64Min int64Max ⌊v⌋ := by
  intro run talk
  cases hplan : SweepPlan.make s.network s.costs s.settings cluster with
  | error failure =>
    have hruns : Runs s.optimizer receive (s.sweep cluster receive) memory [] (.error failure)
        memory := by
      unfold Sweeper.sweep
      rw [hplan]
      exact .bind_error _ (.lift _)
    exact ⟨hruns.state_eq.trans hruns.memory_eq.symm, hruns.talk_eq, hruns.result_eq⟩
  | ok plan =>
    have hisFor := SweepPlan.make_eq_ok_iff.mp hplan
    obtain ⟨talk', result, m', hcandidates, hprotocol⟩ := SweepPlan.keeps_candidates s.optimizer
      receive hisFor.fits plan.candidateCount 0 memory
    have hruns : Runs s.optimizer receive (s.sweep cluster receive) memory talk' result m' := by
      unfold Sweeper.sweep
      rw [hplan]
      exact .bind (.lift _) (.note_bind hcandidates)
    refine ⟨hruns.state_eq.trans hruns.memory_eq.symm, hisFor, ?_, plan.pairwise_hours,
      fun t => SweepPlan.mem_hours, fun v hv => ?_, fun v hv => Exact.toInt_down hv⟩
    · rw [show talk = talk' from hruns.talk_eq, show run.result = result from hruns.result_eq,
        SweepPlan.hours, List.range_eq_range']
      exact hprotocol
    · rw [← hisFor.settings_eq] at hv
      exact Exact.toInt_up hv

/-- A hub without branches that opens at `opening`. There is nothing to carry, and the optimizer
always says so. -/
def loneHub (opening : Float) (fleet : List FleetType) (kilometres : Except Fault Float) :
    Sweeper Unit where
  network := ⟨[⟨"H", ["H"]⟩], ⟨["H"], []⟩, [⟨1, "Hub", "H", none, ⟨6, 14⟩⟩], 100.0⟩
  costs := ⟨"same everywhere", fun _ _ => kilometres, fun _ _ => .ok 0.0⟩
  optimizer := ⟨"idle", fun _ m => (⟨[], .ok [.empty]⟩, m)⟩
  settings := { SweepSettings.standard with
    bounds := { TimeBounds.standard with hubLower := opening }
    fleet }

/-- Not every hour between the bounds brings a question: without a fleet none does, nor without
travel costs. And a hub that opens at `2 ^ 64` is swept at `2 ^ 63` instead. -/
theorem sweep_loneHub :
    let talk := fun s : Sweeper Unit => exchanges s.optimizer (fun _ m => (.ok (), m))
      (s.sweep ⟨"H", ["H"]⟩ (fun _ m => (.ok (), m)) ()).events ()
    let unequipped := loneHub 1.0 [] (.ok 0.0)
    let unmapped := loneHub 1.0 FleetType.standard (.error (.missingCoordinate "H"))
    let late := loneHub (Float.ofNat (2 ^ 64)) FleetType.standard (.ok 0.0)
    ((SweepPlan.make unequipped.network unequipped.costs unequipped.settings ⟨"H", ["H"]⟩).map
        SweepPlan.hours = .ok [1] ∧ talk unequipped = []) ∧ talk unmapped = [] ∧
      Exact.ofFloat late.settings.bounds.hubLower = .finite false (2 ^ 52) 12 ∧
      ∃ problem answer result,
        talk late = [.asked problem answer, .received result (.ok ())] ∧
          Exact.ofFloat result.dispatchTime = .finite false (2 ^ 52) 11 := by
  refine ⟨⟨rfl, rfl⟩, rfl, rfl, ?_⟩
  exact ⟨_, _, _, rfl, rfl⟩

end HubDispatch
