import HubDispatch.Proofs.Network.Demand
import HubDispatch.Proofs.Network.Membership
import Mathlib.Data.List.Pairwise

/-!
# Clusters partition the codes

Every labelled row opens a stretch of rows that ends before the next labelled one (`stretch`). Rows
are `Grouped` when they begin with a label, every label is a code of its own stretch, and no code
stands in two stretches. These rows, and no others, make clusters: one for every label, with the
codes of its stretch, so that the clusters together list every code of the rows once, where it comes
first (`ofRows_partition`).

The recursion that cuts the rows is compared with the stretches once (`segments_eq`). The owners are
then checked on the members of all clusters end to end, and these repeat no code exactly if no two
stretches share one.
-/

namespace HubDispatch

namespace Cluster

variable {V : Type} {rows : List (SalesRow V)} {clusters : List Cluster}

/-! ## Stretches -/

/-- The codes from the row at position `i` on, up to the next labelled row or the end. -/
def stretch (rows : List (SalesRow V)) (i : Nat) : List LocationCode :=
  match rows.drop i with
  | [] => []
  | row :: later => row.location :: (later.takeWhile (·.head.isNone)).map (·.location)

/-- The labels in their order, each with the position of its row. -/
def labels (rows : List (SalesRow V)) : List (Nat × LocationCode) :=
  rows.zipIdx.filterMap fun a => a.1.head.map (a.2, ·)

/-- Labels stand one below the other. -/
theorem pairwise_labels (rows : List (SalesRow V)) :
    (labels rows).Pairwise fun a b => a.1 < b.1 := by
  refine List.pairwise_filterMap.mpr ((DemandMatrix.pairwise_zipIdx rows).imp ?_)
  intro a b hab x hx y hy
  obtain ⟨_, -, rfl⟩ := Option.map_eq_some_iff.mp hx
  obtain ⟨_, -, rfl⟩ := Option.map_eq_some_iff.mp hy
  exact hab

theorem labels_cons (row : SalesRow V) (rows : List (SalesRow V)) :
    labels (row :: rows) =
      (row.head.map (0, ·)).toList ++ (labels rows).map fun a => (a.1 + 1, a.2) := by
  have hshift : ((labels rows).map fun a => (a.1 + 1, a.2)) =
      (rows.zipIdx 1).filterMap fun a => a.1.head.map (a.2, ·) := by
    rw [labels, List.map_filterMap, List.zipIdx_succ, List.filterMap_map]
    congr 1
    funext a
    simp [Option.map_map, Function.comp_def]
  rw [labels, List.zipIdx_cons, List.filterMap_cons, hshift]
  cases row.head <;> rfl

/-- Cutting the rows gives the codes in front of the first label, and the stretch of every label. -/
theorem segments_eq (rows : List (SalesRow V)) :
    segments rows = ((rows.takeWhile (·.head.isNone)).map (·.location),
      (labels rows).map fun a => ⟨a.2, stretch rows a.1⟩) := by
  induction rows with
  | nil => rfl
  | cons row rows ih =>
    -- The stretches of the later labels do not see the new row.
    have hlater : ((labels rows).map fun a => (a.1 + 1, a.2)).map
        (fun a => (⟨a.2, stretch (row :: rows) a.1⟩ : Segment)) =
          (labels rows).map fun a => ⟨a.2, stretch rows a.1⟩ := by
      rw [List.map_map]
      rfl
    rw [segments, ih, labels_cons]
    cases hhead : row.head with
    | none => simp [hhead, ← hlater]
    | some head => simp [hhead, stretch]

/-- No code is lost when rows are cut. -/
theorem map_location_eq (rows : List (SalesRow V)) :
    rows.map (·.location) = (segments rows).1 ++ (segments rows).2.flatMap (·.codes) := by
  induction rows with
  | nil => rfl
  | cons row rows ih =>
    rw [List.map_cons, ih, segments]
    cases row.head <;> simp

/-! ## Owners -/

theorem memberships_fst (clusters : List Cluster) :
    (memberships clusters).map Prod.fst = clusters.flatMap (·.members) := by
  unfold memberships
  rw [List.map_flatMap]
  simp [Function.comp_def]

/-- Owners are accepted when no member comes twice and none has been owned before. -/
theorem checkOwners_eq_ok_iff {owned rest : List (LocationCode × LocationCode)} :
    checkOwners owned rest = .ok () ↔
      (rest.map Prod.fst).Nodup ∧ ∀ m ∈ rest, owned.lookup m.1 = none := by
  induction rest generalizing owned with
  | nil => simp [checkOwners]
  | cons m rest ih =>
    obtain ⟨member, hub⟩ := m
    rw [checkOwners]
    cases hfirst : owned.lookup member with
    | some first =>
      refine iff_of_false (by simp) fun h => ?_
      have := h.2 (member, hub) (List.mem_cons_self ..)
      rw [hfirst] at this
      cases this
    | none =>
      simp only [ih, List.lookup_cons, List.map_cons, List.nodup_cons, List.forall_mem_cons, hfirst]
      constructor
      · rintro ⟨hnodup, hnew⟩
        refine ⟨⟨fun hmem => ?_, hnodup⟩, trivial, fun m hm => ?_⟩
        · obtain ⟨m, hm, rfl⟩ := List.mem_map.mp hmem
          simpa using hnew m hm
        · have := hnew m hm
          split at this
          · cases this
          · exact this
      · rintro ⟨⟨hnew, hnodup⟩, -, hold⟩
        refine ⟨hnodup, fun m hm => ?_⟩
        have hne : (m.1 == member) = false :=
          beq_eq_false_iff_ne.mpr fun he => hnew (he ▸ List.mem_map_of_mem hm)
        rw [hne]
        exact hold m hm

/-! ## Grouped rows -/

/-- The rows can be cut into clusters. -/
structure Grouped (rows : List (SalesRow V)) : Prop where
  /-- The first row, if there is one, is labelled. -/
  opened : ∀ row ∈ rows.head?, row.head.isSome
  /-- Every label is a code of its own stretch. -/
  labelled : ∀ a ∈ labels rows, a.2 ∈ stretch rows a.1
  /-- No code stands in the stretches of two labels. -/
  apart : ∀ a ∈ labels rows, ∀ b ∈ labels rows, a.1 ≠ b.1 →
    List.Disjoint (stretch rows a.1) (stretch rows b.1)

/-- The clusters are the stretches of the rows. They share no member, leave no code out, and are
found by their hubs. -/
structure Partition (rows : List (SalesRow V)) (clusters : List Cluster) : Prop where
  /-- One cluster for every label, in their order. -/
  clusters_eq : clusters = (labels rows).map fun a => ⟨a.2, (stretch rows a.1).eraseDups⟩
  nodup : (clusters.flatMap (·.members)).Nodup
  /-- The members end to end are the codes of all rows, each where it comes first. -/
  members_eq : clusters.flatMap (·.members) = (rows.map (·.location)).eraseDups
  nodup_hubs : (clusters.map (·.hub)).Nodup
  getElem?_hubIndex : ∀ c ∈ clusters, c.members[c.hubIndex]? = some c.hub
  cluster?_hub : ∀ network : Network V, network.clusters = clusters →
    ∀ c ∈ clusters, network.cluster? c.hub = some c

theorem takeWhile_eq_nil_iff :
    rows.takeWhile (·.head.isNone) = [] ↔ ∀ row ∈ rows.head?, row.head.isSome := by
  cases rows with
  | nil => simp
  | cons row rows => cases h : row.head <;> simp [h]

/-- The stretches of different labels share no code exactly if no code repeats in the clusters end
to end. -/
theorem nodup_flatMap_stretch_iff :
    ((labels rows).flatMap fun a => (stretch rows a.1).eraseDups).Nodup ↔
      (labels rows).Pairwise fun a b => List.Disjoint (stretch rows a.1) (stretch rows b.1) := by
  rw [List.nodup_flatMap, and_iff_right fun a _ => nodup_eraseDups _]
  refine List.Pairwise.iff fun a b => ?_
  simp [List.Disjoint, List.mem_eraseDups]

theorem pairwise_stretch_iff :
    ((labels rows).Pairwise fun a b => List.Disjoint (stretch rows a.1) (stretch rows b.1)) ↔
      ∀ a ∈ labels rows, ∀ b ∈ labels rows, a.1 ≠ b.1 →
        List.Disjoint (stretch rows a.1) (stretch rows b.1) := by
  constructor
  · intro h a ha b hb hab
    have : Std.Symm fun a b : Nat × LocationCode =>
        List.Disjoint (stretch rows a.1) (stretch rows b.1) := ⟨fun _ _ h _ hb ha => h ha hb⟩
    exact h.forall ha hb fun he => hab (he ▸ rfl)
  · intro h
    refine (pairwise_labels rows).imp_of_mem fun ha hb hlt => ?_
    exact h _ ha _ hb (Nat.ne_of_lt hlt)

/-- **Which rows make clusters, and which clusters they make.** -/
theorem ofRows_eq_ok_iff_grouped :
    ofRows rows = .ok clusters ↔
      Grouped rows ∧ clusters = (labels rows).map fun a => ⟨a.2, (stretch rows a.1).eraseDups⟩ := by
  have hbuilt : ((labels rows).map fun a => (⟨a.2, stretch rows a.1⟩ : Segment)).mapM ofSegment =
      .ok clusters ↔ (∀ a ∈ labels rows, a.2 ∈ stretch rows a.1) ∧
        clusters = (labels rows).map fun a => ⟨a.2, (stretch rows a.1).eraseDups⟩ := by
    rw [mapM_eq_ok_map_iff fun s _ c => ofSegment_eq_ok_iff, List.forall_mem_map, List.map_map,
      eq_comm (b := clusters)]
    rfl
  rw [ofRows_eq_ok_iff, segments_eq, hbuilt, checkOwners_eq_ok_iff, memberships_fst,
    List.map_eq_nil_iff, takeWhile_eq_nil_iff]
  constructor
  · rintro ⟨hopened, ⟨hlabelled, rfl⟩, hnodup, -⟩
    rw [List.flatMap_map, nodup_flatMap_stretch_iff, pairwise_stretch_iff] at hnodup
    exact ⟨⟨hopened, hlabelled, hnodup⟩, rfl⟩
  · rintro ⟨⟨hopened, hlabelled, hapart⟩, rfl⟩
    refine ⟨hopened, ⟨hlabelled, rfl⟩, ?_, fun _ _ => rfl⟩
    rw [List.flatMap_map, nodup_flatMap_stretch_iff, pairwise_stretch_iff]
    exact hapart

/-- Clusters that share no member, each with its hub among its members, have different hubs. -/
theorem nodup_hubs_of_nodup_members (h : (clusters.flatMap (·.members)).Nodup)
    (hhub : ∀ c ∈ clusters, c.hub ∈ c.members) : (clusters.map (·.hub)).Nodup := by
  refine List.pairwise_map.mpr ((List.nodup_flatMap.mp h).2.imp_of_mem fun ha hb hab he => ?_)
  exact hab (hhub _ ha) (he ▸ hhub _ hb)

/-- Where no two clusters have one hub, each is found by its own. -/
theorem find?_hub_eq_some (h : (clusters.map (·.hub)).Nodup) {c : Cluster} (hc : c ∈ clusters) :
    clusters.find? (·.hub == c.hub) = some c := by
  induction clusters with
  | nil => cases hc
  | cons d clusters ih =>
    obtain ⟨hd, hnodup⟩ := List.nodup_cons.mp h
    rcases List.mem_cons.mp hc with rfl | hc
    · simp
    · have hne : d.hub ≠ c.hub := fun he => hd (List.mem_map.mpr ⟨c, hc, he.symm⟩)
      simpa [List.find?_cons, hne] using ih hnodup hc

/-- **The members of all clusters end to end** are the codes of all rows, each where it comes
first. -/
theorem flatMap_members_of_ofRows (h : ofRows rows = .ok clusters) :
    clusters.flatMap (·.members) = (rows.map (·.location)).eraseDups := by
  obtain ⟨hgrouped, rfl⟩ := ofRows_eq_ok_iff_grouped.mp h
  have hcodes : rows.map (·.location) = (labels rows).flatMap fun a => stretch rows a.1 := by
    rw [map_location_eq, segments_eq, takeWhile_eq_nil_iff.mpr hgrouped.opened, List.map_nil,
      List.nil_append, List.flatMap_map]
  rw [hcodes, eraseDups_flatMap (pairwise_stretch_iff.mpr hgrouped.apart), List.flatMap_map]

/-- Two clusters share no member, and a cluster lists none twice. -/
theorem nodup_members_of_ofRows (h : ofRows rows = .ok clusters) :
    (clusters.flatMap (·.members)).Nodup :=
  flatMap_members_of_ofRows h ▸ nodup_eraseDups _

/-- **The clusters of a sales plan partition its codes**, and exactly grouped rows have clusters:
rows that begin with a label, with every label among the codes of its stretch and no code in two
stretches. -/
theorem ofRows_partition (rows : List (SalesRow V)) :
    ((∃ clusters, ofRows rows = .ok clusters) ↔ Grouped rows) ∧
      ∀ clusters, ofRows rows = .ok clusters → Partition rows clusters := by
  refine ⟨?_, fun clusters h => ?_⟩
  · simp only [ofRows_eq_ok_iff_grouped, exists_and_left, exists_eq, and_true]
  · have hwell := fun c hc => wellFormed_of_mem_ofRows h (c := c) hc
    have hnodup := nodup_members_of_ofRows h
    have hhubs := nodup_hubs_of_nodup_members hnodup fun c hc => (hwell c hc).hub_mem
    refine ⟨(ofRows_eq_ok_iff_grouped.mp h).2, hnodup, flatMap_members_of_ofRows h, hhubs,
      fun c hc => (hwell c hc).getElem?_hubIndex, ?_⟩
    rintro network rfl c hc
    exact find?_hub_eq_some hhubs hc

/-- Two labels. The first hub does not come first in its stretch, where a branch comes twice. -/
def twoStretches : List (SalesRow Nat) :=
  [⟨some "H", "X", []⟩, ⟨none, "H", []⟩, ⟨none, "X", []⟩, ⟨none, "Y", []⟩, ⟨some "G", "G", []⟩]

theorem ofRows_partition_two_stretches :
    ofRows twoStretches = .ok [⟨"H", ["X", "H", "Y"]⟩, ⟨"G", ["G"]⟩] ∧ Grouped twoStretches ∧
      Partition twoStretches [⟨"H", ["X", "H", "Y"]⟩, ⟨"G", ["G"]⟩] := by
  have h : ofRows twoStretches = .ok [⟨"H", ["X", "H", "Y"]⟩, ⟨"G", ["G"]⟩] := by decide
  exact ⟨h, (ofRows_partition _).1.mp ⟨_, h⟩, (ofRows_partition _).2 _ h⟩

end Cluster

/-! ## Owners by position -/

namespace Network

variable {V : Type} {network : Network V} {code : LocationCode} {i j : Nat}

/-- The code is a member of the cluster at position `i`. -/
def Owns (network : Network V) (i : Nat) (code : LocationCode) : Prop :=
  ∃ c, network.clusters[i]? = some c ∧ code ∈ c.members

theorem Owns.lt (h : network.Owns i code) : i < network.clusters.length := by
  obtain ⟨c, hc, -⟩ := h
  exact (List.getElem?_eq_some_iff.mp hc).1

/-- No code is a member of two clusters. -/
theorem Owns.eq (h : network.Owns i code) (hnodup : (network.clusters.flatMap (·.members)).Nodup)
    (h' : network.Owns j code) : i = j := by
  obtain ⟨c, hc, hcode⟩ := h
  obtain ⟨d, hd, hcode'⟩ := h'
  have hapart := List.pairwise_iff_getElem.mp (List.nodup_flatMap.mp hnodup).2
  obtain ⟨hi, rfl⟩ := List.getElem?_eq_some_iff.mp hc
  obtain ⟨hj, rfl⟩ := List.getElem?_eq_some_iff.mp hd
  rcases Nat.lt_trichotomy i j with hlt | heq | hlt
  · exact absurd hcode' (hapart i j hi hj hlt hcode)
  · exact heq
  · exact absurd hcode (hapart j i hj hi hlt hcode')

end Network
end HubDispatch
