import HubDispatch.Sweep.Shipments
import HubDispatch.Sweep.Work
import HubDispatch.Travel.Matrices
import HubDispatch.Text.Quoted

/-!
# The sweep of a cluster

Every whole hour from the lower bound of the hub to the latest cutoff of a branch is tried as the
time at which the hub begins to dispatch. Each candidate is put to the optimizer in at most two
epochs: the second comes only if the first left shipments unassigned, and relaxes the delivery
windows of the branches concerned. Its results are handed on at once, and the first failure ends the
sweep.
-/

namespace HubDispatch

open Decimal (wholeText intText shortestText fixedText)

/-- All that stays the same while a cluster is swept. -/
structure SweepPlan where
  cluster : Cluster
  settings : SweepSettings
  demand : DemandMatrix
  matrices : Matrices
  /-- The windows before a dispatch time is set. -/
  windows : ClusterWindows

namespace SweepPlan

/-- The plan of a cluster of a network. -/
def make (network : Network Float) (costs : CostProvider) (settings : SweepSettings)
    (cluster : Cluster) : Except Failure SweepPlan := do
  let cutoffs ← planned (network.cutoffs cluster)
  let demand ← planned (network.demand cluster)
  let locations ← planned (network.memberLocations cluster)
  let matrices ← within ("Failed to build cost matrix for cluster " ++ cluster.hub)
    (planned (Matrices.ofProvider costs locations))
  return {
    cluster, settings, demand, matrices
    windows := .derive cluster cutoffs settings.bounds }

/-- The first dispatch time. -/
def firstHour (p : SweepPlan) : Int := Binary64.toInt64 .up p.settings.bounds.hubLower

/-- The last dispatch time. -/
def lastHour (p : SweepPlan) : Int := Binary64.toInt64 .down p.windows.latestBranchCutoff

/-- How many dispatch times are tried. -/
def candidateCount (p : SweepPlan) : Nat := (p.lastHour - p.firstHour + 1).toNat

/-- The `i`-th dispatch time. -/
def dispatchTime (p : SweepPlan) (i : Nat) : Float := Float.ofInt (p.firstHour + i)

/-- The windows of the `i`-th dispatch time. -/
def windowsAt (p : SweepPlan) (i : Nat) : ClusterWindows :=
  p.windows.withDispatchTime (p.dispatchTime i)

/-- The problem of the `i`-th dispatch time with some destinations relaxed. -/
def problem (p : SweepPlan) (i : Nat) (relaxed : List LocationCode) : Except Fault Problem := do
  let shipments ← shipmentsOf p.cluster p.demand (p.windowsAt i) relaxed p.settings
  return {
    shipments
    vehicles := vehiclesOf p.cluster p.settings
    locations := p.cluster.members
    matrices := p.matrices }

/-- How the sweep is announced. -/
def announcement (p : SweepPlan) (optimizer costs : String) : String :=
  "Sweeping cluster " ++ p.cluster.hub ++ " (" ++ wholeText p.cluster.size ++
    " members) over dispatch times " ++ intText p.firstHour ++ "..=" ++ intText p.lastHour ++
    " with " ++ optimizer ++ " via " ++ costs

/-- How the `i`-th dispatch time is announced. -/
def candidateText (p : SweepPlan) (i : Nat) : String :=
  "Iteration " ++ wholeText i ++ ": dispatch " ++ shortestText (p.dispatchTime i) ++
    (p.windowsAt i).hubText

/-- What an epoch came to. -/
def epochText (i epoch : Nat) (problem : Problem) (s : Solution) : String :=
  "Iteration " ++ wholeText i ++ " epoch " ++ wholeText epoch ++ ": " ++
    wholeText problem.shipments.length ++ " shipments, " ++ wholeText s.vehicleCount ++
    " vehicles, " ++ wholeText s.unassigned.length ++ " unassigned, cost " ++
    fixedText 1 s.cost.toFloat

/-- Where an optimizer failed. -/
def askContext (p : SweepPlan) (i epoch : Nat) : String :=
  "Optimizer failed for cluster " ++ p.cluster.hub ++ " at dispatch time " ++
    shortestText (p.dispatchTime i) ++ " (epoch " ++ wholeText epoch ++ ")"

variable {σ : Type}

/-- One call of the optimizer, and the best of its candidates. -/
def epoch (p : SweepPlan) (optimizer : Optimizer σ) (i n : Nat) (relaxed : List LocationCode) :
    Work σ Solution := do
  let problem ← Work.lift (planned (p.problem i relaxed))
  let candidates ← Work.ask optimizer (p.askContext i n) problem
  let best ← Work.lift (planned (Solution.bestOf candidates))
  Work.note .info (epochText i n problem best)
  return best

/-- The result of the `i`-th dispatch time: of the first epoch, or of the second if the first left
shipments behind. -/
def candidate (p : SweepPlan) (optimizer : Optimizer σ) (i : Nat) : Work σ Iteration := do
  Work.note .debug (p.candidateText i)
  let first ← p.epoch optimizer i 0 []
  let infeasible := infeasibleLocations p.cluster first.unassigned
  let last ←
    if infeasible.isEmpty then pure first
    else do
      Work.note .warn ("Iteration " ++ wholeText i ++ ": relaxing delivery windows at " ++
        Text.quotedList infeasible)
      p.epoch optimizer i 1 infeasible
  return ⟨i, p.dispatchTime i, last, infeasible, last.unassigned.length⟩

/-- The `i`-th dispatch time and `n - 1` more after it. -/
def candidates (p : SweepPlan) (optimizer : Optimizer σ)
    (receive : Iteration → σ → Except Failure Unit × σ) : (n i : Nat) → Work σ Unit
  | 0, _ => pure ()
  | n + 1, i => do
    let result ← p.candidate optimizer i
    Work.handOn receive result
    candidates p optimizer receive n (i + 1)

end SweepPlan

/-- What a sweep works with. -/
structure Sweeper (σ : Type) where
  network : Network Float
  costs : CostProvider
  optimizer : Optimizer σ
  settings : SweepSettings

/-- The sweep of a cluster: each result goes to `receive` as soon as it is there. -/
def Sweeper.sweep {σ : Type} (s : Sweeper σ) (cluster : Cluster)
    (receive : Iteration → σ → Except Failure Unit × σ) : Work σ Unit := do
  let plan ← Work.lift (SweepPlan.make s.network s.costs s.settings cluster)
  Work.note .info (plan.announcement s.optimizer.name s.costs.name)
  plan.candidates s.optimizer receive plan.candidateCount 0

end HubDispatch
