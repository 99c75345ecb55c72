import HubDispatch.Proofs.Network.ExactRows
import HubDispatch.Report.LoadSplit
import Mathlib.Algebra.BigOperators.Group.List.Basic
import Mathlib.Algebra.BigOperators.Ring.List
import Mathlib.Algebra.Order.BigOperators.Group.List
import Mathlib.Data.List.Induction
import Mathlib.Tactic.FieldSimp

/-!
# Delivered weight balances

A delivery is attributed in one of three ways (`Attributed`), and whichever it is, its share has an
entry for every cluster. In exact arithmetic the entries of a share sum to the weight of the
delivery, and none is negative unless a planned volume is (`IsShare`). The split of a route puts the
shares of its deliveries together entry by entry, in an order that does not matter there. So it sums
to the delivered weight, every delivery adds its own share to what the others come to, and one to a
branch only moves the entry of its cluster (`Balanced`).

Every lookup on the way succeeds because the network comes from rows: it is complete, and a code
that is a member at all is a member of one cluster only.
-/

namespace HubDispatch
namespace Report

section Shares

variable {V : Type} {network : Network V} {code : LocationCode} {i : Nat}

theorem owns_of_clusterIndex (h : clusterIndex network code = .ok i) : network.Owns i code := by
  unfold clusterIndex at h
  split at h
  · rename_i k hk
    cases h
    obtain ⟨hlt, hcontains, -⟩ := List.findIdx?_eq_some_iff_getElem.mp hk
    exact ⟨_, List.getElem?_eq_getElem hlt, List.contains_iff_mem.mp hcontains⟩
  · cases h

theorem exists_clusterIndex (h : ∃ c ∈ network.clusters, code ∈ c.members) :
    ∃ k, clusterIndex network code = .ok k := by
  obtain ⟨c, hc, hcode⟩ := h
  have hfound : (network.clusters.findIdx? (·.contains code)).isSome := by
    rw [List.findIdx?_isSome, List.any_eq_true]
    exact ⟨c, hc, List.contains_iff_mem.mpr hcode⟩
  obtain ⟨k, hk⟩ := Option.isSome_iff_exists.mp hfound
  exact ⟨k, by rw [clusterIndex, hk]⟩

variable [NatCast V]

theorem length_wholeShare (network : Network V) (position weight : Nat) :
    (wholeShare network position weight).length = network.clusters.length := by
  simp [wholeShare]

variable [Add V]

/-- The sum of shares, entry by entry, from the first on. -/
def gather (network : Network V) (shares : List (List V)) : List V :=
  shares.foldl (List.zipWith (· + ·)) (network.clusters.map fun _ => ((0 : Nat) : V))

theorem gather_append_singleton (shares : List (List V)) (share : List V) :
    gather network (shares ++ [share]) = List.zipWith (· + ·) (gather network shares) share := by
  rw [gather, List.foldl_append]
  rfl

theorem length_gather {shares : List (List V)}
    (h : ∀ share ∈ shares, share.length = network.clusters.length) :
    (gather network shares).length = network.clusters.length := by
  refine List.foldlRecOn (motive := fun split : List V => split.length = network.clusters.length)
    shares _ (List.length_map _) fun split hsplit share hshare => ?_
  rw [List.length_zipWith, hsplit, h share hshare, Nat.min_self]

variable [Mul V] [Div V] [LT V] {s : Stop} {share : List V}

/-- How a delivery is attributed to the clusters. -/
inductive Attributed (network : Network V) (s : Stop) : List V → Prop where
  /-- To a branch: all of it counts for the cluster of the branch. -/
  | branch (position : Nat) (hub : network.cluster? s.shipment.destination = none)
    (found : clusterIndex network s.shipment.destination = .ok position) :
    Attributed network s (wholeShare network position s.weight)
  /-- To a hub: it is spread as the planned volume of the origin is. -/
  | spread (volumes : List V) (hub : network.cluster? s.shipment.destination ≠ none)
    (known : network.clusters.mapM (network.plan.totalToCluster s.shipment.origin) = .ok volumes)
    (planned : ((0 : Nat) : V) < volumes.foldl (· + ·) ((0 : Nat) : V)) :
    Attributed network s
      (volumes.map fun v => (s.weight : V) * v / volumes.foldl (· + ·) ((0 : Nat) : V))
  /-- To a hub, from an origin without planned volume: it stays with the cluster of the origin. -/
  | kept (volumes : List V) (position : Nat)
    (hub : network.cluster? s.shipment.destination ≠ none)
    (known : network.clusters.mapM (network.plan.totalToCluster s.shipment.origin) = .ok volumes)
    (unplanned : ¬((0 : Nat) : V) < volumes.foldl (· + ·) ((0 : Nat) : V))
    (found : clusterIndex network s.shipment.origin = .ok position) :
    Attributed network s (wholeShare network position s.weight)

theorem Attributed.length_eq (h : Attributed network s share) :
    share.length = network.clusters.length := by
  cases h with
  | branch position _ _ => exact length_wholeShare network position s.weight
  | spread volumes _ known _ => rw [List.length_map, length_of_mapM known]
  | kept _ position _ _ _ _ => exact length_wholeShare network position s.weight

theorem length_eq_of_mem {stops : List Stop} {shares : List (List V)}
    (h : List.Forall₂ (Attributed network) stops shares) :
    ∀ share ∈ shares, share.length = network.clusters.length := by
  intro share hmem
  obtain ⟨s, -, hs⟩ := exists_of_mem_right h hmem
  exact hs.length_eq

variable [DecidableLT V]

theorem shareOf_eq_ok_iff : shareOf network s = .ok share ↔ Attributed network s share := by
  unfold shareOf
  by_cases hhub : network.cluster? s.shipment.destination = none
  · simp only [hhub, Option.isNone_none, if_true, bind_eq_ok_iff]
    constructor
    · rintro ⟨k, hk, he⟩
      cases he
      exact .branch k hhub hk
    · rintro (⟨k, -, hk⟩ | ⟨_, hne, -, -⟩ | ⟨_, _, hne, -, -, -⟩)
      · exact ⟨k, hk, rfl⟩
      · exact absurd hhub hne
      · exact absurd hhub hne
  · simp only [Option.isNone_iff_eq_none, hhub, if_false, bind_eq_ok_iff]
    constructor
    · rintro ⟨volumes, hvolumes, h⟩
      split at h
      · rename_i hplanned
        cases h
        exact .spread volumes hhub hvolumes hplanned
      · rename_i hplanned
        obtain ⟨k, hk, he⟩ := bind_eq_ok_iff.mp h
        cases he
        exact .kept volumes k hhub hvolumes hplanned hk
    · rintro (⟨_, hnone, -⟩ | ⟨volumes, -, hvolumes, hplanned⟩ |
        ⟨volumes, k, -, hvolumes, hplanned, hk⟩)
      · exact absurd hnone hhub
      · exact ⟨volumes, hvolumes, by rw [if_pos hplanned]; rfl⟩
      · refine ⟨volumes, hvolumes, ?_⟩
        rw [if_neg hplanned]
        exact bind_eq_ok_iff.mpr ⟨k, hk, rfl⟩

/-- The delivery goes from a member of a cluster to a member of a cluster. -/
structure NamesMembers (network : Network V) (s : Stop) : Prop where
  origin : ∃ c ∈ network.clusters, s.shipment.origin ∈ c.members
  destination : ∃ c ∈ network.clusters, s.shipment.destination ∈ c.members

/-- **Every delivery between members is attributed.** -/
theorem exists_attributed (h : network.Complete) (hs : NamesMembers network s) :
    ∃ share, Attributed network s share := by
  by_cases hhub : network.cluster? s.shipment.destination = none
  · obtain ⟨k, hk⟩ := exists_clusterIndex hs.destination
    exact ⟨_, .branch k hhub hk⟩
  · -- The plan is complete on members, so the volume to every cluster is known.
    obtain ⟨d, hd, horigin⟩ := hs.origin
    obtain ⟨volumes, hvolumes⟩ := mapM_ok_of_forall_ok fun c hc =>
      h.plan.exists_totalToCluster (h.mem_nodes d hd _ horigin) (h.mem_nodes c hc)
    by_cases hplanned : ((0 : Nat) : V) < volumes.foldl (· + ·) ((0 : Nat) : V)
    · exact ⟨_, .spread volumes hhub hvolumes hplanned⟩
    · obtain ⟨k, hk⟩ := exists_clusterIndex hs.origin
      exact ⟨_, .kept volumes k hhub hvolumes hplanned hk⟩

theorem loadSplit_eq_ok_iff {r : Route} {split : List V} :
    loadSplit network r = .ok split ↔
      ∃ shares, List.Forall₂ (Attributed network) (deliveries r.stops) shares ∧
        gather network shares = split := by
  unfold loadSplit gather
  rw [foldlM_eq_ok_iff]
  simp only [shareOf_eq_ok_iff]

theorem length_of_loadSplit {r : Route} {split : List V} (h : loadSplit network r = .ok split) :
    split.length = network.clusters.length := by
  obtain ⟨shares, hshares, rfl⟩ := loadSplit_eq_ok_iff.mp h
  exact length_gather (length_eq_of_mem hshares)

theorem exists_loadSplit {r : Route} (h : network.Complete)
    (hr : ∀ s ∈ deliveries r.stops, NamesMembers network s) :
    ∃ split, loadSplit network r = .ok split := by
  obtain ⟨shares, hshares⟩ := exists_forall₂_iff.mpr fun s hs => exists_attributed h (hr s hs)
  exact ⟨_, loadSplit_eq_ok_iff.mpr ⟨shares, hshares, rfl⟩⟩

end Shares

/-! ## Exact arithmetic -/

section Exact

variable {network : Network ℚ} {s : Stop} {share : List ℚ} {position : Nat}

theorem sum_wholeShare (h : position < network.clusters.length) (weight : Nat) :
    (wholeShare network position weight).sum = weight := by
  have hpositions : wholeShare network position weight = (List.range network.clusters.length).map
      fun i => if i = position then (weight : ℚ) else 0 := by
    rw [List.range_eq_range', ← List.zipIdx_map_snd, List.map_map]
    simp [wholeShare, Function.comp_def]
  rw [hpositions, List.sum_map_ite_eq, List.nodup_range.count, if_pos (List.mem_range.mpr h)]
  simp

theorem nonneg_of_mem_wholeShare (weight : Nat) {x : ℚ}
    (h : x ∈ wholeShare network position weight) : 0 ≤ x := by
  obtain ⟨_, -, rfl⟩ := List.mem_map.mp h
  exact Nat.cast_nonneg _

theorem sum_spread {volumes : List ℚ} (h : volumes.sum ≠ 0) (weight : ℚ) :
    (volumes.map fun v => weight * v / volumes.sum).sum = weight := by
  simp only [div_eq_mul_inv]
  rw [List.sum_map_mul_right, List.sum_map_mul_left, List.map_id']
  field_simp

/-- What every share of a delivery keeps. -/
structure IsShare (network : Network ℚ) (s : Stop) (share : List ℚ) : Prop where
  length_eq : share.length = network.clusters.length
  sum_eq : share.sum = s.weight
  nonneg : network.plan.Nonneg → ∀ x ∈ share, 0 ≤ x

/-- **A share gives away the weight of its delivery.** -/
theorem Attributed.isShare (h : Attributed network s share) : IsShare network s share := by
  refine ⟨h.length_eq, ?_, fun hplan x hx => ?_⟩
  · cases h with
    | branch position _ found => exact sum_wholeShare (owns_of_clusterIndex found).lt s.weight
    | spread volumes _ _ planned =>
      rw [Nat.cast_zero, ← List.sum_eq_foldl] at planned ⊢
      exact sum_spread planned.ne' s.weight
    | kept _ position _ _ _ found => exact sum_wholeShare (owns_of_clusterIndex found).lt s.weight
  · cases h with
    | branch position _ _ => exact nonneg_of_mem_wholeShare s.weight hx
    | spread volumes _ known planned =>
      obtain ⟨v, hv, rfl⟩ := List.mem_map.mp hx
      obtain ⟨c, -, hc⟩ := exists_of_mem_right (mapM_eq_ok_iff.mp known) hv
      rw [Nat.cast_zero] at planned
      exact div_nonneg (mul_nonneg (Nat.cast_nonneg _) (hplan.totalToCluster hc)) planned.le
    | kept _ position _ _ _ _ => exact nonneg_of_mem_wholeShare s.weight hx

/-! ## The split of a route -/

theorem sum_gather {shares : List (List ℚ)}
    (h : ∀ share ∈ shares, share.length = network.clusters.length) :
    (gather network shares).sum = (shares.map List.sum).sum := by
  -- From the end, for the last share is the last to be added.
  induction shares using List.reverseRecOn with
  | nil => simp [gather]
  | append_singleton shares share ih =>
    obtain ⟨hshares, hshare⟩ := List.forall_mem_append.mp h
    have hlen : (gather network shares).length = share.length := by
      rw [length_gather hshares, hshare share (List.mem_singleton_self share)]
    rw [gather_append_singleton, ← List.sum_add_sum_eq_sum_zipWith_of_length_eq _ _ hlen,
      ih hshares, List.map_append, List.sum_append, List.map_singleton, List.sum_singleton]

theorem nonneg_of_mem_gather {shares : List (List ℚ)}
    (h : ∀ share ∈ shares, ∀ x ∈ share, 0 ≤ x) : ∀ x ∈ gather network shares, 0 ≤ x := by
  refine List.foldlRecOn (motive := fun split : List ℚ => ∀ x ∈ split, 0 ≤ x) shares _ ?_ ?_
  · intro x hx
    obtain ⟨_, -, rfl⟩ := List.mem_map.mp hx
    exact Nat.cast_nonneg 0
  · intro split hsplit share hshare x hx
    obtain ⟨i, hi, rfl⟩ := List.getElem_of_mem hx
    rw [List.getElem_zipWith]
    exact add_nonneg (hsplit _ (List.getElem_mem _)) (h share hshare _ (List.getElem_mem _))

/-- A share may as well be added last. -/
theorem gather_middle (first second : List (List ℚ)) :
    gather network (first ++ share :: second) =
      List.zipWith (· + ·) (gather network (first ++ second)) share := by
  -- Addition entry by entry inherits that the order does not matter, also for lists that differ in
  -- length.
  have : RightCommutative (List.zipWith ((· + ·) : ℚ → ℚ → ℚ)) := by
    refine ⟨fun a b c => List.ext_getElem ?_ fun i _ _ => ?_⟩
    · simp only [List.length_zipWith, Nat.min_right_comm]
    · simp only [List.getElem_zipWith, add_right_comm]
  have hperm : List.Perm (first ++ share :: second) (first ++ second ++ [share]) :=
    List.perm_middle.trans (List.perm_append_singleton share (first ++ second)).symm
  rw [gather, hperm.foldl_eq, ← gather, gather_append_singleton]

theorem zipWith_wholeShare {split : List ℚ} (h : split.length = network.clusters.length)
    (position weight : Nat) :
    List.zipWith (· + ·) split (wholeShare network position weight) =
      split.modify position (· + (weight : ℚ)) := by
  refine List.ext_getElem ?_ fun i _ _ => ?_
  · rw [List.length_zipWith, length_wholeShare, h, Nat.min_self, List.length_modify, h]
  · rw [List.getElem_zipWith, List.getElem_modify]
    by_cases hi : i = position
    · simp [wholeShare, hi]
    · simp [wholeShare, hi, Ne.symm hi]

/-- What the split of a route keeps. -/
structure Balanced (network : Network ℚ) (r : Route) (split : List ℚ) : Prop where
  /-- One entry for every cluster. -/
  length_eq : split.length = network.clusters.length
  /-- The entries sum to the delivered weight. -/
  sum_eq : split.sum = ((deliveries r.stops).map fun s => (s.weight : ℚ)).sum
  /-- Every delivery adds a share of its own to what the others come to, entry by entry. -/
  additive : ∀ before s after, r.stops = before ++ s :: after → s.kind = .delivery →
    ∃ rest share, loadSplit network { r with stops := before ++ after } = .ok rest ∧
      Attributed network s share ∧ split = List.zipWith (· + ·) rest share
  /-- A delivery to a code that is no hub adds its weight to the entry of the one cluster that the
  code is a member of, and nothing to the other entries. -/
  branch : ∀ before s after, r.stops = before ++ s :: after → s.kind = .delivery →
    (∀ c ∈ network.clusters, c.hub ≠ s.shipment.destination) →
    ∃ position, (∀ j, network.Owns j s.shipment.destination ↔ j = position) ∧
      ∃ rest, loadSplit network { r with stops := before ++ after } = .ok rest ∧
        split = rest.modify position (· + (s.weight : ℚ))
  /-- No entry is negative unless a planned volume is. -/
  nonneg : network.plan.Nonneg → ∀ x ∈ split, 0 ≤ x

theorem map_sum_of_attributed {stops : List Stop} {shares : List (List ℚ)}
    (h : List.Forall₂ (Attributed network) stops shares) :
    shares.map List.sum = stops.map fun s => (s.weight : ℚ) := by
  induction h with
  | nil => rfl
  | cons hshare _ ih => rw [List.map_cons, List.map_cons, ih, hshare.isShare.sum_eq]

theorem deliveries_middle {before after : List Stop} (h : s.kind = .delivery) :
    deliveries (before ++ s :: after) = deliveries before ++ s :: deliveries after := by
  simp [deliveries, h]

/-- A delivery adds its share to what the other deliveries come to. -/
theorem exists_rest_of_delivery {r : Route} {split : List ℚ} {before after : List Stop}
    (h : loadSplit network r = .ok split) (hstops : r.stops = before ++ s :: after)
    (hkind : s.kind = .delivery) :
    ∃ rest share, loadSplit network { r with stops := before ++ after } = .ok rest ∧
      Attributed network s share ∧ split = List.zipWith (· + ·) rest share := by
  obtain ⟨shares, hshares, rfl⟩ := loadSplit_eq_ok_iff.mp h
  rw [hstops, deliveries_middle hkind, forall₂_append_left_iff] at hshares
  obtain ⟨first, _, hfirst, _ | ⟨hshare, hsecond⟩, rfl⟩ := hshares
  rename_i share second
  have hrest : List.Forall₂ (Attributed network) (deliveries (before ++ after))
      (first ++ second) := by
    rw [deliveries, List.filter_append]
    exact forall₂_append_left_iff.mpr ⟨first, second, hfirst, hsecond, rfl⟩
  exact ⟨_, share, loadSplit_eq_ok_iff.mpr ⟨_, hrest, rfl⟩, hshare, gather_middle first second⟩

/-- **A delivery to a branch** only moves the entry of the cluster of the branch. -/
theorem exists_rest_of_branch {r : Route} {split : List ℚ} {before after : List Stop}
    (hnodup : (network.clusters.flatMap (·.members)).Nodup) (h : loadSplit network r = .ok split)
    (hstops : r.stops = before ++ s :: after) (hkind : s.kind = .delivery)
    (hbranch : ∀ c ∈ network.clusters, c.hub ≠ s.shipment.destination) :
    ∃ position, (∀ j, network.Owns j s.shipment.destination ↔ j = position) ∧
      ∃ rest, loadSplit network { r with stops := before ++ after } = .ok rest ∧
        split = rest.modify position (· + (s.weight : ℚ)) := by
  obtain ⟨rest, share, hrest, hshare, rfl⟩ := exists_rest_of_delivery h hstops hkind
  -- Without a hub at the destination only the first way of attribution is left.
  have hnohub : network.cluster? s.shipment.destination = none :=
    List.find?_eq_none.mpr fun c hc => by simpa using hbranch c hc
  cases hshare with
  | branch position _ found =>
    have howns := owns_of_clusterIndex found
    refine ⟨position, fun j => ⟨fun hj => hj.eq hnodup howns, fun hj => hj ▸ howns⟩, rest, hrest,
      zipWith_wholeShare (length_of_loadSplit hrest) position s.weight⟩
  | spread _ hub _ _ => exact absurd hnohub hub
  | kept _ _ hub _ _ _ => exact absurd hnohub hub

theorem balanced_of_loadSplit {r : Route} {split : List ℚ}
    (hnodup : (network.clusters.flatMap (·.members)).Nodup) (h : loadSplit network r = .ok split) :
    Balanced network r split where
  length_eq := length_of_loadSplit h
  sum_eq := by
    obtain ⟨shares, hshares, rfl⟩ := loadSplit_eq_ok_iff.mp h
    rw [sum_gather (length_eq_of_mem hshares), map_sum_of_attributed hshares]
  additive _ _ _ := exists_rest_of_delivery h
  branch _ _ _ := exists_rest_of_branch hnodup h
  nonneg hplan := by
    obtain ⟨shares, hshares, rfl⟩ := loadSplit_eq_ok_iff.mp h
    refine nonneg_of_mem_gather fun share hmem => ?_
    obtain ⟨s, -, hs⟩ := exists_of_mem_right hshares hmem
    exact hs.isShare.nonneg hplan

end Exact

/-- **The load split balances.** In a network from rows with finite volumes the weight of every
route between members is split over the clusters, and in exact arithmetic the split is balanced. -/
theorem loadSplit_balances {rows : List (SalesRow Float)} {locations : List Location}
    {minimum : Float} {network : Network Float} {r : Route}
    (hnetwork : Network.ofRows rows locations minimum = .ok network)
    (hfinite : ∀ row ∈ rows, row.Finite)
    (hr : ∀ s ∈ deliveries r.stops, NamesMembers network s) :
    (∃ split, loadSplit network r = .ok split ∧ split.length = network.clusters.length) ∧
      ∃ exactRows, List.Forall₂ SalesRow.Reads rows exactRows ∧
        ∀ least : ℚ, ∃ exact, Network.ofRows exactRows locations least = .ok exact ∧
          exact.clusters = network.clusters ∧
          ∃ split, loadSplit exact r = .ok split ∧ Balanced exact r split := by
  obtain ⟨split, hsplit⟩ := exists_loadSplit (Network.complete_of_ofRows hnetwork) hr
  refine ⟨⟨split, hsplit, length_of_loadSplit hsplit⟩, ?_⟩
  obtain ⟨exactRows, hreads⟩ :=
    exists_forall₂_iff.mpr fun row hrow => (hfinite row hrow).exists_reads
  have hshape : List.Forall₂ SalesRow.SameShape rows exactRows :=
    hreads.imp fun _ _ h => h.sameShape
  -- Which minimum the rational network has does not matter: no load is split by it.
  refine ⟨exactRows, hreads, fun least => ?_⟩
  obtain ⟨exact, hexact, hclusters⟩ := Network.exists_ofRows_of_sameShape hshape hnetwork least
  have hr' : ∀ s ∈ deliveries r.stops, NamesMembers exact s := by
    intro s hs
    obtain ⟨horigin, hdestination⟩ := hr s hs
    exact ⟨hclusters ▸ horigin, hclusters ▸ hdestination⟩
  obtain ⟨split, hsplit⟩ := exists_loadSplit (Network.complete_of_ofRows hexact) hr'
  have hnodup := Cluster.nodup_members_of_ofRows (Network.ofRows_eq_ok_iff.mp hexact).1
  exact ⟨exact, hexact, hclusters, split, hsplit, balanced_of_loadSplit hnodup hsplit⟩

/-- Two clusters with a branch each. Only one branch sends anything. -/
def twoClusters : List (SalesRow Float) :=
  [⟨some "H", "H", [0.0, 0.0, 0.0, 0.0]⟩, ⟨none, "X", [0.5, 0.0, 1.0, 0.5]⟩,
    ⟨some "G", "G", [0.0, 0.0, 0.0, 0.0]⟩, ⟨none, "Z", [0.0, 0.0, 0.0, 0.0]⟩]

def fourPlaces : List Location :=
  [⟨1, "Hub", "H", none, ⟨3, 20⟩⟩, ⟨2, "North", "X", none, ⟨6, 14⟩⟩,
    ⟨3, "Gate", "G", none, ⟨3, 20⟩⟩, ⟨4, "South", "Z", none, ⟨6, 14⟩⟩]

/-- A delivery to a hub that is spread, one to a branch, and one to a hub that is not spread. -/
def threeDeliveries : Route :=
  ⟨"14_Feet_1-H", .feet14, [⟨.delivery, ⟨"X", "H", 1⟩, 100, 6.0, 6.0⟩,
    ⟨.delivery, ⟨"H", "Z", 1⟩, 40, 8.0, 9.0⟩, ⟨.delivery, ⟨"Z", "H", 1⟩, 60, 12.0, 12.0⟩],
    5.0, 12.0⟩

example : (do
    let network ← Network.ofRows twoClusters fourPlaces 100.0
    loadSplit network threeDeliveries) = .ok [25.0, 175.0] := by decide +kernel

theorem loadSplit_balances_two_clusters :
    ∃ network, Network.ofRows twoClusters fourPlaces 100.0 = .ok network ∧
      (∀ row ∈ twoClusters, row.Finite) ∧
      (∀ s ∈ deliveries threeDeliveries.stops, NamesMembers network s) ∧
      (∃ split, loadSplit network threeDeliveries = .ok split ∧ split.length = 2) ∧
      ∃ exactRows, List.Forall₂ SalesRow.Reads twoClusters exactRows ∧
        ∃ exact, Network.ofRows exactRows fourPlaces (100 : ℚ) = .ok exact ∧
          ∃ split, loadSplit exact threeDeliveries = .ok split ∧
            Balanced exact threeDeliveries split ∧ split.sum = 200 ∧ ∀ x ∈ split, 0 ≤ x := by
  obtain ⟨network, hnetwork⟩ :
      ∃ network, Network.ofRows twoClusters fourPlaces 100.0 = .ok network := ⟨_, rfl⟩
  have hclusters : network.clusters = [⟨"H", ["H", "X"]⟩, ⟨"G", ["G", "Z"]⟩] := by
    have h := (Network.ofRows_eq_ok_iff.mp hnetwork).1
    exact Except.ok.inj (h.symm.trans (by decide))
  have hfinite : ∀ row ∈ twoClusters, row.Finite := by
    unfold SalesRow.Finite
    decide +kernel
  have hr : ∀ s ∈ deliveries threeDeliveries.stops, NamesMembers network s := by
    have hnamed : ∀ s ∈ deliveries threeDeliveries.stops,
        (∃ c ∈ [(⟨"H", ["H", "X"]⟩ : Cluster), ⟨"G", ["G", "Z"]⟩],
          s.shipment.origin ∈ c.members) ∧
        ∃ c ∈ [(⟨"H", ["H", "X"]⟩ : Cluster), ⟨"G", ["G", "Z"]⟩],
          s.shipment.destination ∈ c.members := by
      decide +kernel
    intro s hs
    obtain ⟨horigin, hdestination⟩ := hnamed s hs
    exact ⟨hclusters ▸ horigin, hclusters ▸ hdestination⟩
  obtain ⟨⟨split, hsplit, hlen⟩, exactRows, hreads, hexact⟩ :=
    loadSplit_balances hnetwork hfinite hr
  obtain ⟨exact, hofRows, -, balanced, hbalanced, h⟩ := hexact 100
  refine ⟨network, hnetwork, hfinite, hr, ⟨split, hsplit, by rw [hlen, hclusters]; rfl⟩, exactRows,
    hreads, exact, hofRows, balanced, hbalanced, h, ?_, h.nonneg ?_⟩
  · rw [h.sum_eq]
    decide +kernel
  · have hplan := (Network.ofRows_eq_ok_iff.mp hofRows).2.1
    refine SalesPlan.nonneg_of_ofRows hplan fun row hrow v hv => ?_
    have hvalues : ∀ row ∈ twoClusters, ∀ v ∈ row.volumes,
        ∀ q ∈ (Binary64.Exact.ofFloat v).value?, 0 ≤ q := by
      decide +kernel
    obtain ⟨read, hmem, hread⟩ := exists_of_mem_right hreads hrow
    obtain ⟨x, hx, hq⟩ := exists_of_mem_right hread.volumes hv
    exact hvalues read hmem x hx v hq

end Report
end HubDispatch
