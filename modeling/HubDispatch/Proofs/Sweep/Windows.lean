import HubDispatch.Sweep.Settings
import HubDispatch.Proofs.Binary64.Whole

/-!
# Windows for a dispatch time

Once a dispatch time is set, nothing is left of the hour at which the hub opens but what it adds to
the latest cutoff (`withDispatchTime_derive`). It adds nothing where a branch takes freight in until
then or later: the latest cutoff is that of a branch in any case (`latest_eq`). So sweeps that begin
at different hours have the same windows for the hours that they share (`windows_eq`).
-/

namespace HubDispatch

open Binary64 (Exact larger)

/-- The same bounds with the hub opening at another hour. -/
def TimeBounds.openingAt (b : TimeBounds) (opening : Float) : TimeBounds :=
  { b with hubLower := opening }

/-- The same settings with the hub opening at another hour. -/
def SweepSettings.openingAt (s : SweepSettings) (opening : Float) : SweepSettings :=
  { s with bounds := s.bounds.openingAt opening }

namespace ClusterWindows

variable {cluster : Cluster} {cutoffs : List Cutoffs} {bounds : TimeBounds}

/-- What the hub opens with is replaced by the dispatch time. -/
theorem withDispatchTime_derive (cluster : Cluster) (cutoffs : List Cutoffs) (bounds : TimeBounds)
    (dispatch : Float) :
    (derive cluster cutoffs bounds).withDispatchTime dispatch =
      { members := cutoffs.zipIdx.map fun (c, i) =>
          if i = cluster.hubIndex then
            hub bounds dispatch (derive cluster cutoffs bounds).latestBranchCutoff c
          else branch bounds c
        hubIndex := cluster.hubIndex
        latestBranchCutoff := (derive cluster cutoffs bounds).latestBranchCutoff } := by
  unfold withDispatchTime
  congr 1
  -- Position by position: only that of the hub is touched.
  apply List.ext_getElem?
  intro i
  rw [List.getElem?_modify]
  simp only [derive, List.getElem?_map, List.getElem?_zipIdx, Nat.zero_add]
  cases cutoffs[i]? with
  | none => rfl
  | some c =>
    by_cases hi : cluster.hubIndex = i
    · simp [hi, hub]
    · have hi' : ¬ i = cluster.hubIndex := fun h => hi h.symm
      simp [hi, hi']

/-- A branch has the windows of its cutoffs, whatever the dispatch time. -/
theorem getElem?_of_branch {i : Nat} {c : Cutoffs} (hc : cutoffs[i]? = some c)
    (hi : i ≠ cluster.hubIndex) (dispatch : Float) :
    ((derive cluster cutoffs bounds).withDispatchTime dispatch).members[i]? =
      some (branch bounds c) := by
  rw [withDispatchTime_derive]
  simp only [List.getElem?_map, List.getElem?_zipIdx, Nat.zero_add, hc, Option.map_some]
  rw [if_neg hi]

theorem proper_of_mem_branchCutoffs {hub : Nat} {x : Float} (hx : x ∈ branchCutoffs hub cutoffs) :
    Exact.Proper x := by
  obtain ⟨⟨c, i⟩, -, hsome⟩ := List.mem_filterMap.mp hx
  change (if i = hub then none else some (Float.ofInt c.inbound)) = some x at hsome
  by_cases hi : i = hub
  · rw [if_pos hi] at hsome
    cases hsome
  · rw [if_neg hi] at hsome
    cases hsome
    exact Exact.proper_ofInt _

theorem mem_branchCutoffs {hub i : Nat} {c : Cutoffs} (hc : cutoffs[i]? = some c) (hi : i ≠ hub) :
    Float.ofInt c.inbound ∈ branchCutoffs hub cutoffs := by
  refine List.mem_filterMap.mpr ⟨(c, i), ?_, ?_⟩
  · exact List.mem_zipIdx_iff_getElem?.mpr hc
  · exact if_neg hi

/-- **The latest cutoff is that of a branch**, if a branch takes freight in until the hub opens or
later. -/
theorem latest_eq {a b : Int} {i : Nat} {c : Cutoffs} (hab : a ≤ b) (hc : cutoffs[i]? = some c)
    (hi : i ≠ cluster.hubIndex) (hbc : b ≤ c.inbound) :
    (derive cluster cutoffs (bounds.openingAt (Float.ofInt a))).latestBranchCutoff =
      (derive cluster cutoffs (bounds.openingAt (Float.ofInt b))).latestBranchCutoff :=
  Exact.foldl_larger_eq (Exact.proper_ofInt a) (Exact.proper_ofInt b)
    (fun _ => proper_of_mem_branchCutoffs) (mem_branchCutoffs hc hi) (Exact.rank_ofInt_mono hab)
    (Exact.rank_ofInt_mono hbc)

/-- **The windows of a dispatch time** are the same, whichever of two hours the hub opens at. -/
theorem windows_eq {a b : Int} {i : Nat} {c : Cutoffs} (hab : a ≤ b) (hc : cutoffs[i]? = some c)
    (hi : i ≠ cluster.hubIndex) (hbc : b ≤ c.inbound) (dispatch : Float) :
    (derive cluster cutoffs (bounds.openingAt (Float.ofInt a))).withDispatchTime dispatch =
      (derive cluster cutoffs (bounds.openingAt (Float.ofInt b))).withDispatchTime dispatch := by
  rw [withDispatchTime_derive, withDispatchTime_derive, latest_eq hab hc hi hbc]
  rfl

end ClusterWindows
end HubDispatch
