import HubDispatch.Proofs.Binary64.Sums
import HubDispatch.Proofs.Sweep.Relaxation
import HubDispatch.Proofs.Sweep.Submission
import HubDispatch.Proofs.Sweep.Windows

/-!
# Windows that follow the cutoffs

Between whole hours nothing is rounded, so windows and cutoffs can be compared as whole numbers. The
last dispatch time is the latest of the hour at which the hub opens and of the hours until which
branches take freight in (`IsLatest`); the inbound cutoff of the hub itself has no part in it
(`branchCutoffs_set`). Each time that is set replaces the one before, so it does not matter which
times were set earlier (`withDispatchTime_foldl`).

The hours of a sweep begin where the hub opens and end with that last time. The window in which the
hub hands out freight is thus never inverted, neither in the windows of an hour nor in a shipment
that is submitted.
-/

namespace HubDispatch

open Binary64 (int64Min int64Max)
open Binary64.Exact (IsWhole isWhole_ofInt foldl_larger_spec not_le_iff_lt)

/-! ## Whole hours -/

/-- A whole number of hours, of fewer than 54 bits. -/
def WholeHour (x : Float) : Prop := ∃ z : Int, z.natAbs < 2 ^ 53 ∧ IsWhole x z

/-- All bounds of the day are whole hours. -/
structure TimeBounds.Whole (b : TimeBounds) : Prop where
  branchLower : WholeHour b.branchLower
  branchUpper : WholeHour b.branchUpper
  hubLower : WholeHour b.hubLower
  hubUpper : WholeHour b.hubUpper

/-- A time in milliseconds that 64 bits can hold. -/
def InMillis (ms : Int) : Prop := int64Min ≤ ms ∧ ms ≤ int64Max

instance (ms : Int) : Decidable (InMillis ms) :=
  inferInstanceAs (Decidable (int64Min ≤ ms ∧ ms ≤ int64Max))

/-- The cutoffs come from times in milliseconds. -/
def Cutoffs.Recorded (c : Cutoffs) : Prop :=
  ∃ outbound inbound, InMillis outbound ∧ InMillis inbound ∧ c = .ofMillis outbound inbound

theorem natAbs_tdiv_millisPerHour_lt {ms : Int} (h : InMillis ms) :
    (ms.tdiv millisPerHour).natAbs < 2 ^ 42 := by
  obtain ⟨hlo, hhi⟩ := h
  have hms : ms.natAbs ≤ 2 ^ 63 := by
    unfold int64Min at hlo
    unfold int64Max at hhi
    omega
  have hhour : millisPerHour.natAbs = 3600000 := rfl
  have hquotient : (ms.tdiv millisPerHour).natAbs = ms.natAbs / 3600000 := by
    rw [← hhour]
    exact Int.natAbs_tdiv ..
  omega

/-- Whole hours of recorded cutoffs are far from 53 bits. -/
theorem Cutoffs.Recorded.natAbs_lt {c : Cutoffs} (h : c.Recorded) :
    c.outbound.natAbs < 2 ^ 42 ∧ c.inbound.natAbs < 2 ^ 42 := by
  obtain ⟨outbound, inbound, hout, hin, rfl⟩ := h
  exact ⟨natAbs_tdiv_millisPerHour_lt hout, natAbs_tdiv_millisPerHour_lt hin⟩

theorem isWhole_one : IsWhole 1.0 1 := isWhole_ofInt (z := 1) (by decide)

theorem wholeHour_ofInt {z : Int} (hz : z.natAbs < 2 ^ 53) : WholeHour (Float.ofInt z) :=
  ⟨z, hz, isWhole_ofInt hz⟩

/-! ## The last dispatch time -/

/-- The latest of the hour at which the hub opens and the inbound cutoffs of the branches, which are
the members at other positions than that of the hub. -/
structure IsLatest (opening : Float) (hub : Nat) (cutoffs : List Cutoffs) (latest : Int) :
    Prop where
  opens : ∀ first, IsWhole opening first → first ≤ latest
  inbound : ∀ (i : Nat) (c : Cutoffs), cutoffs[i]? = some c → i ≠ hub → c.inbound ≤ latest
  reached : IsWhole opening latest ∨
    ∃ (i : Nat) (c : Cutoffs), cutoffs[i]? = some c ∧ i ≠ hub ∧ c.inbound = latest

namespace ClusterWindows

variable {cluster : Cluster} {cutoffs : List Cutoffs} {bounds : TimeBounds}

theorem mem_branchCutoffs_iff {hub : Nat} {x : Float} :
    x ∈ branchCutoffs hub cutoffs ↔
      ∃ (i : Nat) (c : Cutoffs), cutoffs[i]? = some c ∧ i ≠ hub ∧ Float.ofInt c.inbound = x := by
  constructor
  · intro hx
    obtain ⟨⟨c, i⟩, hmem, hsome⟩ := List.mem_filterMap.mp hx
    change (if i = hub then none else some (Float.ofInt c.inbound)) = some x at hsome
    by_cases hi : i = hub
    · rw [if_pos hi] at hsome
      cases hsome
    · rw [if_neg hi, Option.some.injEq] at hsome
      exact ⟨i, c, List.mem_zipIdx_iff_getElem?.mp hmem, hi, hsome⟩
  · rintro ⟨i, c, hc, hi, rfl⟩
    exact mem_branchCutoffs hc hi

/-- The cutoff of the hub makes no difference. -/
theorem branchCutoffs_set (hub : Nat) (cutoffs : List Cutoffs) (c : Cutoffs) :
    branchCutoffs hub (cutoffs.set hub c) = branchCutoffs hub cutoffs := by
  -- Positions are counted from any number on, so that the induction reaches the rest of the list.
  have hfrom : ∀ n k, ((cutoffs.set k c).zipIdx n).filterMap
        (fun entry => if entry.2 = n + k then none else some (Float.ofInt entry.1.inbound)) =
      (cutoffs.zipIdx n).filterMap
        (fun entry => if entry.2 = n + k then none else some (Float.ofInt entry.1.inbound)) := by
    induction cutoffs with
    | nil => intro n k; rfl
    | cons first rest ih =>
      intro n k
      cases k with
      | zero => simp
      | succ k =>
        have hrest := ih (n + 1) k
        rw [Nat.add_right_comm, Nat.add_assoc] at hrest
        rw [List.set_cons_succ, List.zipIdx_cons, List.zipIdx_cons, List.filterMap_cons,
          List.filterMap_cons, hrest]
  have hzero := hfrom 0 hub
  rw [Nat.zero_add] at hzero
  exact hzero

theorem isWhole_inbound (hrecorded : ∀ c ∈ cutoffs, c.Recorded) {i : Nat} {c : Cutoffs}
    (hc : cutoffs[i]? = some c) :
    c.inbound.natAbs < 2 ^ 53 ∧ IsWhole (Float.ofInt c.inbound) c.inbound := by
  have hsmall := (hrecorded c (List.mem_of_getElem? hc)).natAbs_lt.2
  have hbits : c.inbound.natAbs < 2 ^ 53 := by omega
  exact ⟨hbits, isWhole_ofInt hbits⟩

/-- **The last dispatch time** is the latest hour. -/
theorem exists_isLatest (cluster : Cluster) (hrecorded : ∀ c ∈ cutoffs, c.Recorded)
    (hopening : WholeHour bounds.hubLower) :
    ∃ latest, latest.natAbs < 2 ^ 53 ∧
      IsWhole (derive cluster cutoffs bounds).latestBranchCutoff latest ∧
      IsLatest bounds.hubLower cluster.hubIndex cutoffs latest := by
  obtain ⟨first, hbits, hfirst⟩ := hopening
  have hnumbers : ∀ x ∈ branchCutoffs cluster.hubIndex cutoffs, Binary64.Exact.ofFloat x ≠ .nan :=
    fun x hx => (proper_of_mem_branchCutoffs hx).1
  obtain ⟨hmem, hall⟩ := foldl_larger_spec hfirst.ne_nan hnumbers
  obtain ⟨hstart, hcutoffs⟩ := List.forall_mem_cons.mp hall
  -- Whichever of the hours it is, no other one is larger.
  have hlatest : ∀ {latest : Int},
      IsWhole (derive cluster cutoffs bounds).latestBranchCutoff latest →
        (∀ z, IsWhole bounds.hubLower z → z ≤ latest) ∧
          ∀ (i : Nat) (c : Cutoffs), cutoffs[i]? = some c → i ≠ cluster.hubIndex →
            c.inbound ≤ latest := by
    intro latest hx
    refine ⟨fun z hz => hz.le_of_rank_le hx hstart, fun i c hc hi => ?_⟩
    exact (isWhole_inbound hrecorded hc).2.le_of_rank_le hx (hcutoffs _ (mem_branchCutoffs hc hi))
  rcases List.mem_cons.mp hmem with hopens | hmem
  · have hwhole : IsWhole (derive cluster cutoffs bounds).latestBranchCutoff first := by
      rw [derive, hopens]
      exact hfirst
    obtain ⟨hopen, hinbound⟩ := hlatest hwhole
    exact ⟨first, hbits, hwhole, hopen, hinbound, Or.inl hfirst⟩
  · obtain ⟨i, c, hc, hi, hsame⟩ := mem_branchCutoffs_iff.mp hmem
    obtain ⟨hbits, hinbound⟩ := isWhole_inbound hrecorded hc
    have hwhole : IsWhole (derive cluster cutoffs bounds).latestBranchCutoff c.inbound := by
      rw [derive, ← hsame]
      exact hinbound
    obtain ⟨hopen, hinbound⟩ := hlatest hwhole
    exact ⟨c.inbound, hbits, hwhole, hopen, hinbound, Or.inr ⟨i, c, hc, hi, rfl⟩⟩

/-! ## The windows of a dispatch time -/

/-- Only the dispatch time that is set last counts. -/
theorem withDispatchTime_withDispatchTime (w : ClusterWindows) (a b : Float) :
    (w.withDispatchTime a).withDispatchTime b = w.withDispatchTime b := by
  unfold withDispatchTime
  rw [List.modify_modify_eq]
  rfl

theorem withDispatchTime_foldl (w : ClusterWindows) (earlier : List Float) (dispatch : Float) :
    (earlier.foldl withDispatchTime w).withDispatchTime dispatch = w.withDispatchTime dispatch := by
  induction earlier generalizing w with
  | nil => rfl
  | cons first later ih =>
    rw [List.foldl_cons, ih, withDispatchTime_withDispatchTime]

/-- The hub has the windows of its cutoffs and of the dispatch time. -/
theorem getElem?_of_hub (bounds : TimeBounds) {c : Cutoffs}
    (hc : cutoffs[cluster.hubIndex]? = some c) (dispatch : Float) :
    ((derive cluster cutoffs bounds).withDispatchTime dispatch).members[cluster.hubIndex]? =
      some (hub bounds dispatch (derive cluster cutoffs bounds).latestBranchCutoff c) := by
  rw [withDispatchTime_derive]
  simp only [List.getElem?_map, List.getElem?_zipIdx, Nat.zero_add, hc, Option.map_some, if_true]

end ClusterWindows

/-- A branch hands out freight from an hour after its outbound cutoff, and takes freight in until
its inbound cutoff. -/
structure MemberWindows.IsBranch (m : MemberWindows) (bounds : TimeBounds) (c : Cutoffs) :
    Prop where
  pickupOpens : IsWhole m.pickup.earliest (c.outbound + 1)
  pickupCloses : m.pickup.latest = bounds.branchUpper
  deliveryOpens : m.delivery.earliest = bounds.branchLower
  deliveryCloses : IsWhole m.delivery.latest c.inbound

/-- The hub hands out freight from the dispatch time until the latest hour, and takes freight in
from its inbound cutoff. -/
structure MemberWindows.IsHub (m : MemberWindows) (bounds : TimeBounds) (c : Cutoffs)
    (dispatch : Float) (latest : Int) : Prop where
  pickupOpens : m.pickup.earliest = dispatch
  pickupCloses : IsWhole m.pickup.latest latest
  deliveryOpens : IsWhole m.delivery.earliest c.inbound
  deliveryCloses : m.delivery.latest = bounds.hubUpper

/-- Every member has the windows of its cutoffs, and the hub at position `hub` hands out freight
from `dispatch` until `latest`. -/
structure ClusterWindows.Follow (w : ClusterWindows) (bounds : TimeBounds) (hub : Nat)
    (cutoffs : List Cutoffs) (dispatch : Float) (latest : Int) : Prop where
  size : w.members.length = cutoffs.length
  last : IsWhole w.latestBranchCutoff latest
  atHub : ∀ c, cutoffs[hub]? = some c →
    ∃ m, w.members[hub]? = some m ∧ m.IsHub bounds c dispatch latest
  atBranch : ∀ (i : Nat) (c : Cutoffs), cutoffs[i]? = some c → i ≠ hub →
    ∃ m, w.members[i]? = some m ∧ m.IsBranch bounds c

/-- The window in which the hub hands out freight from the whole hour `t`: not before it opens, not
after the latest hour, and not inverted. -/
structure TimeWindow.IsDispatch (w : TimeWindow) (bounds : TimeBounds) (latest t : Int) :
    Prop where
  opens : IsWhole w.earliest t
  closes : IsWhole w.latest latest
  afterOpening : ∀ first, IsWhole bounds.hubLower first → first ≤ t
  inTime : t ≤ latest
  ordered : ¬ w.latest < w.earliest

namespace ClusterWindows

variable {cluster : Cluster} {cutoffs : List Cutoffs} {bounds : TimeBounds}

/-- **Windows follow the cutoffs.** -/
theorem follow_derive (hrecorded : ∀ c ∈ cutoffs, c.Recorded) {latest : Int}
    (hlast : IsWhole (derive cluster cutoffs bounds).latestBranchCutoff latest) (dispatch : Float) :
    ((derive cluster cutoffs bounds).withDispatchTime dispatch).Follow bounds cluster.hubIndex
      cutoffs dispatch latest := by
  refine ⟨?_, hlast, fun c hc => ⟨_, getElem?_of_hub _ hc dispatch, ?_⟩,
    fun i c hc hi => ⟨_, getElem?_of_branch hc hi dispatch, ?_⟩⟩
  · rw [length_withDispatchTime, length_derive]
  · exact ⟨rfl, hlast, (isWhole_inbound hrecorded hc).2, rfl⟩
  · have hsmall := (hrecorded c (List.mem_of_getElem? hc)).natAbs_lt.1
    exact ⟨(isWhole_ofInt (by omega)).add isWhole_one (by omega), rfl, rfl,
      (isWhole_inbound hrecorded hc).2⟩

end ClusterWindows

/-! ## The hours of a sweep -/

section Sweep

variable {network : Network Float} {costs : CostProvider} {settings : SweepSettings}
  {cluster : Cluster} {cutoffs : List Cutoffs} {plan : SweepPlan}

/-- Whole hours are rounded to themselves. -/
theorem toInt64_of_isWhole {x : Float} {z : Int} (h : IsWhole x z) (hz : z.natAbs < 2 ^ 53) :
    Binary64.toInt64 .up x = z ∧ Binary64.toInt64 .down x = z := by
  have hrange : Binary64.Exact.clamp int64Min int64Max z = z := by
    apply Binary64.Exact.clamp_of_mem
    · unfold int64Min
      omega
    · unfold int64Max
      omega
  unfold Binary64.toInt64
  rw [Binary64.Exact.toInt_up h, Binary64.Exact.toInt_down h, Int.ceil_intCast, Int.floor_intCast,
    hrange]
  exact ⟨rfl, rfl⟩

/-- **The hub hands out freight in order**, at every hour of a sweep. -/
theorem SweepPlan.IsFor.isDispatch (h : plan.IsFor network costs settings cluster)
    (hcutoffs : network.cutoffs cluster = .ok cutoffs) {latest t : Int}
    (hbits : latest.natAbs < 2 ^ 53)
    (hlast : IsWhole (ClusterWindows.derive cluster cutoffs settings.bounds).latestBranchCutoff
      latest)
    (hopening : WholeHour settings.bounds.hubLower) (ht : t ∈ plan.hours) :
    TimeWindow.IsDispatch ⟨Float.ofInt t, plan.windows.latestBranchCutoff⟩ settings.bounds latest
      t := by
  obtain ⟨first, hfew, hfirst⟩ := hopening
  have hlatest : IsWhole plan.windows.latestBranchCutoff latest := by
    rw [h.windows_eq hcutoffs]
    exact hlast
  obtain ⟨hfrom, huntil⟩ := SweepPlan.mem_hours.mp ht
  rw [SweepPlan.firstHour, h.settings_eq, (toInt64_of_isWhole hfirst hfew).1] at hfrom
  rw [SweepPlan.lastHour, (toInt64_of_isWhole hlatest hbits).2] at huntil
  have hwhole : IsWhole (Float.ofInt t) t := isWhole_ofInt (by omega)
  refine ⟨hwhole, hlatest, fun z hz => ?_, huntil, fun hlt => ?_⟩
  · rw [hz.unique hfirst]
    exact hfrom
  · exact (not_le_iff_lt hwhole.ne_nan hlatest.ne_nan).mpr hlt ((hwhole.le_iff hlatest).mpr huntil)

/-- Freight from the hub is picked up in the window of the hub. -/
theorem pickup_of_mem_shipmentsOf {demand : DemandMatrix} {windows : ClusterWindows}
    {relaxed : List LocationCode} {shipments : List Shipment} (hc : cluster.WellFormed)
    (h : shipmentsOf cluster demand windows relaxed settings = .ok shipments) {s : Shipment}
    (hs : s ∈ shipments) (hfrom : s.origin = cluster.hub) :
    windows.members[cluster.hubIndex]?.map (·.pickup) = some s.pickup := by
  obtain ⟨capacity, blocks, -, hblocks, rfl⟩ := exists_blocks_of_shipmentsOf h
  obtain ⟨cell, -, block, ⟨e, he, rfl⟩, hs⟩ := exists_block_of_mem_flatten hblocks hs
  obtain ⟨⟨weight, k⟩, -, rfl⟩ := List.mem_map.mp hs
  rw [← (hc.getElem?_eq_hub_iff he.origin).mp hfrom]
  exact he.pickup

end Sweep

/-- **Windows follow the cutoffs, and dispatch windows are in order.** The hub stands at some
position, and there is a latest hour: no earlier than the hub opens and than any branch takes
freight in, and one of these hours. Whatever dispatch times are set one after another, the members
have the windows of their cutoffs and the hub that of the last time until the latest hour; the same
windows as if no other time had been set. The hub's own cutoff makes no difference to the latest
hour.

All hours of a sweep lie between the opening of the hub and the latest hour. At each of them, the
window in which the hub hands out freight is in order; so is the window of freight from the hub in
every problem that is submitted. -/
theorem windows_follow_cutoffs {cluster : Cluster} {cutoffs : List Cutoffs} {bounds : TimeBounds}
    (hhub : cluster.hub ∈ cluster.members) (hlength : cutoffs.length = cluster.members.length)
    (hrecorded : ∀ c ∈ cutoffs, c.Recorded) (hbounds : bounds.Whole) :
    ∃ (hub : Nat) (latest : Int), cluster.members[hub]? = some cluster.hub ∧
      IsLatest bounds.hubLower hub cutoffs latest ∧
      (∀ (earlier : List Float) (dispatch : Float),
        ClusterWindows.Follow ((earlier ++ [dispatch]).foldl ClusterWindows.withDispatchTime
          (.derive cluster cutoffs bounds)) bounds hub cutoffs dispatch latest ∧
        (earlier ++ [dispatch]).foldl ClusterWindows.withDispatchTime
          (.derive cluster cutoffs bounds) =
            (ClusterWindows.derive cluster cutoffs bounds).withDispatchTime dispatch) ∧
      (∀ c, (ClusterWindows.derive cluster (cutoffs.set hub c) bounds).latestBranchCutoff =
        (ClusterWindows.derive cluster cutoffs bounds).latestBranchCutoff) ∧
      ∀ {σ : Type} (s : Sweeper σ), s.settings.bounds = bounds →
        s.network.cutoffs cluster = .ok cutoffs →
          (∀ plan, SweepPlan.make s.network s.costs s.settings cluster = .ok plan →
            ∀ i < plan.candidateCount, ∃ m t, (plan.windowsAt i).members[hub]? = some m ∧
              plan.dispatchTime i = m.pickup.earliest ∧ m.pickup.IsDispatch bounds latest t) ∧
          (cluster.members.Nodup → ∀ receive memory problem,
            Event.asked problem ∈ (s.sweep cluster receive memory).events →
              ∃ t, ∀ shipment ∈ problem.shipments, shipment.origin = cluster.hub →
                shipment.pickup.IsDispatch bounds latest t) := by
  obtain ⟨latest, hbits, hlast, hlatest⟩ :=
    ClusterWindows.exists_isLatest cluster hrecorded hbounds.hubLower
  have hposition := Cluster.getElem?_hubIndex_of_mem hhub
  obtain ⟨hlt, -⟩ := List.getElem?_eq_some_iff.mp hposition
  have hhubCutoffs := List.getElem?_eq_getElem (hlength ▸ hlt : cluster.hubIndex < cutoffs.length)
  refine ⟨cluster.hubIndex, latest, hposition, hlatest, fun earlier dispatch => ?_, fun c => ?_,
    fun s hsettings hnetwork => ⟨fun plan hplan i hi => ?_, fun hnodup receive memory problem
      hasked => ?_⟩⟩
  · have hsame : (earlier ++ [dispatch]).foldl ClusterWindows.withDispatchTime
        (.derive cluster cutoffs bounds) =
          (ClusterWindows.derive cluster cutoffs bounds).withDispatchTime dispatch := by
      rw [List.foldl_append]
      exact ClusterWindows.withDispatchTime_foldl _ earlier dispatch
    rw [hsame]
    exact ⟨ClusterWindows.follow_derive hrecorded hlast dispatch, rfl⟩
  · change (ClusterWindows.branchCutoffs _ _).foldl _ _ = (ClusterWindows.branchCutoffs _ _).foldl _ _
    rw [ClusterWindows.branchCutoffs_set]
  · subst hsettings
    have hplan := SweepPlan.make_eq_ok_iff.mp hplan
    have hhour : plan.firstHour + i ∈ plan.hours := List.mem_map_of_mem (List.mem_range.mpr hi)
    have hdispatch := hplan.isDispatch hnetwork hbits hlast hbounds.hubLower hhour
    have hmember := ClusterWindows.getElem?_of_hub s.settings.bounds hhubCutoffs
      (plan.dispatchTime i)
    rw [← hplan.windows_eq hnetwork] at hmember
    exact ⟨_, plan.firstHour + i, hmember, rfl, hdispatch⟩
  · subst hsettings
    obtain ⟨plan, hplan, t, ht, relaxed, shipments, hshipments, rfl⟩ :=
      Sweeper.exists_puts_of_asked hasked
    have hdispatch := hplan.isDispatch hnetwork hbits hlast hbounds.hubLower ht
    refine ⟨t, fun shipment hmem horigin => ?_⟩
    rw [hplan.cluster_eq, hplan.windows_eq hnetwork] at hshipments
    rw [hplan.windows_eq hnetwork] at hdispatch
    have hpickup := pickup_of_mem_shipmentsOf ⟨hnodup, hhub⟩ hshipments hmem horigin
    rw [ClusterWindows.getElem?_of_hub _ hhubCutoffs, Option.map_some, Option.some.injEq] at hpickup
    rw [← hpickup]
    exact hdispatch

/-- The sweep of `uphill` has one hour: the hub opens at 14, and its branch takes freight in until
then. That the hub itself takes freight in from 20 on makes no difference. -/
theorem windows_follow_cutoffs_uphill :
    "H" ∈ ["X", "H"] ∧
      (∀ c ∈ [Cutoffs.ofMillis 23399999 50400000, .ofMillis 10800000 72000001], c.Recorded) ∧
      Sweeper.uphill.settings.bounds.Whole ∧
      IsLatest 14.0 1 [⟨6, 14⟩, ⟨3, 20⟩] 14 ∧
      (ClusterWindows.Follow ([3.5, 16.0, 15.0].foldl ClusterWindows.withDispatchTime
        (.derive ⟨"H", ["X", "H"]⟩ [⟨6, 14⟩, ⟨3, 20⟩] Sweeper.uphill.settings.bounds))
          Sweeper.uphill.settings.bounds 1 [⟨6, 14⟩, ⟨3, 20⟩] 15.0 14) ∧
      ∃ problem, Event.asked problem ∈ (Sweeper.uphill.sweep ⟨"H", ["X", "H"]⟩
          (fun _ m => (.ok (), m)) ()).events ∧
        ∃ shipment ∈ problem.shipments, shipment.origin = "H" ∧
          shipment.pickup.IsDispatch Sweeper.uphill.settings.bounds 14 14 := by
  have hrecorded : ∀ c ∈ [Cutoffs.ofMillis 23399999 50400000, .ofMillis 10800000 72000001],
      c.Recorded := by
    have hmillis : ∀ ms ∈ [23399999, 50400000, 10800000, 72000001], InMillis ms := by decide
    simp only [List.forall_mem_cons, List.not_mem_nil, false_imp_iff, implies_true, and_true]
      at hmillis ⊢
    obtain ⟨hout, hin, hout', hin'⟩ := hmillis
    exact ⟨⟨_, _, hout, hin, rfl⟩, _, _, hout', hin', rfl⟩
  have hbounds : Sweeper.uphill.settings.bounds.Whole :=
    ⟨wholeHour_ofInt (z := 0) (by decide), wholeHour_ofInt (z := 24) (by decide),
      wholeHour_ofInt (z := 14) (by decide), wholeHour_ofInt (z := 36) (by decide)⟩
  have hopening : IsWhole Sweeper.uphill.settings.bounds.hubLower 14 := isWhole_ofInt (z := 14)
    (by decide)
  have hhub : (⟨"H", ["X", "H"]⟩ : Cluster).hub ∈ (⟨"H", ["X", "H"]⟩ : Cluster).members := by
    decide
  obtain ⟨hub, latest, hposition, hlatest, hfollow, -, hsweep⟩ :=
    windows_follow_cutoffs hhub rfl hrecorded hbounds
  obtain rfl : hub = 1 := by
    match hub, hposition with
    | 1, _ => rfl
  have hcutoffs : [Cutoffs.ofMillis 23399999 50400000, .ofMillis 10800000 72000001] =
      [⟨6, 14⟩, ⟨3, 20⟩] := by decide
  rw [hcutoffs] at hlatest hfollow hsweep
  obtain rfl : latest = 14 := by
    rcases hlatest.reached with hopens | ⟨i, c, hc, hi, rfl⟩
    · exact hopens.unique hopening
    · match i, hc, hi with
      | 0, hc, _ => exact congrArg Cutoffs.inbound (Option.some.inj hc).symm
      | 1, _, hi => exact absurd rfl hi
      | _ + 2, hc, _ => cases hc
  obtain ⟨-, hsubmitted⟩ := hsweep Sweeper.uphill rfl rfl
  have hany : ((Sweeper.uphill.sweep ⟨"H", ["X", "H"]⟩ (fun _ m => (.ok (), m)) ()).events.any
      fun event =>
        match event with
        | .asked problem => problem.shipments.any (·.origin == "H")
        | _ => false) = true := by decide +kernel
  obtain ⟨event, hasked, hevent⟩ := List.any_eq_true.mp hany
  cases event with
  | noted entry | received result => cases hevent
  | asked problem =>
    obtain ⟨shipment, hmem, horigin⟩ := List.any_eq_true.mp hevent
    have horigin := beq_iff_eq.mp horigin
    obtain ⟨t, hdispatch⟩ := hsubmitted (by decide) _ _ problem hasked
    have hwindow := hdispatch shipment hmem horigin
    obtain rfl : t = 14 := le_antisymm hwindow.inTime (hwindow.afterOpening 14 hopening)
    exact ⟨by decide, hrecorded, hbounds, hlatest, (hfollow [3.5, 16.0] 15.0).1, problem, hasked,
      shipment, hmem, horigin, hwindow⟩

end HubDispatch
