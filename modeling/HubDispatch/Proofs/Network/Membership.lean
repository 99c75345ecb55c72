import HubDispatch.Network.Model
import HubDispatch.Proofs.FirstOccurrences
import HubDispatch.Proofs.Outcome

/-!
# Members of a cluster

A cluster that comes from the rows of a sales plan lists every member once and its hub among them
(`wellFormed_of_mem_ofRows`). In such a cluster positions and codes stand for each other, and the
position of the hub is that of its code (`getElem?_eq_hub_iff`).
-/

namespace HubDispatch

/-- In a list without repetitions positions and elements stand for each other. -/
theorem eq_iff_of_nodup {α : Type} {xs : List α} (h : xs.Nodup) {i j : Nat} {a b : α}
    (hi : xs[i]? = some a) (hj : xs[j]? = some b) : a = b ↔ i = j := by
  obtain ⟨hlt, -⟩ := List.getElem?_eq_some_iff.mp hi
  rw [← List.getElem?_inj hlt h, hi, hj, Option.some.injEq]

namespace Cluster

variable {V : Type}

/-- Every member stands once in the list, and the hub is one of them. -/
structure WellFormed (c : Cluster) : Prop where
  nodup : c.members.Nodup
  hub_mem : c.hub ∈ c.members

theorem ofSegment_eq_ok_iff {s : Segment} {c : Cluster} :
    ofSegment s = .ok c ↔ s.head ∈ s.codes ∧ ⟨s.head, s.codes.eraseDups⟩ = c := by
  unfold ofSegment
  split
  · rename_i hmem
    simp [List.contains_iff_mem.mp hmem]
  · rename_i hmem
    simp [List.contains_iff_mem.not.mp hmem]

theorem wellFormed_of_ofSegment {s : Segment} {c : Cluster} (h : ofSegment s = .ok c) :
    c.WellFormed := by
  obtain ⟨hmem, rfl⟩ := ofSegment_eq_ok_iff.mp h
  exact ⟨nodup_eraseDups _, List.mem_eraseDups.mpr hmem⟩

/-- Rows make clusters when none stands before the first label, every segment makes one, and no
member is owned twice. -/
theorem ofRows_eq_ok_iff {rows : List (SalesRow V)} {clusters : List Cluster} :
    ofRows rows = .ok clusters ↔
      (segments rows).1 = [] ∧ (segments rows).2.mapM ofSegment = .ok clusters ∧
        checkOwners [] (memberships clusters) = .ok () := by
  unfold ofRows
  obtain ⟨loose, later⟩ := segments rows
  cases loose with
  | cons code loose =>
    refine ⟨fun h => ?_, fun h => absurd h.1 (List.cons_ne_nil _ _)⟩
    obtain ⟨_, h, -⟩ := bind_eq_ok_iff.mp h
    cases h
  | nil =>
    simp only [bind_eq_ok_iff, true_and]
    constructor
    · rintro ⟨built, hbuilt, ⟨⟩, hcheck, h⟩
      cases h
      exact ⟨hbuilt, hcheck⟩
    · exact fun ⟨hbuilt, hcheck⟩ => ⟨clusters, hbuilt, (), hcheck, rfl⟩

/-- **The clusters of a sales plan are well formed.** -/
theorem wellFormed_of_mem_ofRows {rows : List (SalesRow V)} {clusters : List Cluster}
    (h : ofRows rows = .ok clusters) {c : Cluster} (hc : c ∈ clusters) : c.WellFormed := by
  obtain ⟨-, hbuilt, -⟩ := ofRows_eq_ok_iff.mp h
  obtain ⟨s, -, hs⟩ := exists_of_mem_right (mapM_eq_ok_iff.mp hbuilt) hc
  exact wellFormed_of_ofSegment hs

/-- The hub stands at its position once it is a member at all. -/
theorem getElem?_hubIndex_of_mem {c : Cluster} (h : c.hub ∈ c.members) :
    c.members[c.hubIndex]? = some c.hub := by
  obtain ⟨i, hi⟩ := Option.isSome_iff_exists.mp (List.isSome_idxOf?.mpr h)
  obtain ⟨hlt, heq, -⟩ := List.idxOf?_eq_some_iff.mp hi
  rw [hubIndex, indexOf?, hi, Option.getD_some, List.getElem?_eq_getElem hlt, heq]

/-- No other code is found there. -/
theorem ne_hubIndex_of_ne {c : Cluster} {i : Nat} {code : LocationCode} (h : c.hub ∈ c.members)
    (hi : c.members[i]? = some code) (hne : code ≠ c.hub) : i ≠ c.hubIndex := by
  rintro rfl
  exact hne (Option.some.inj (hi.symm.trans (getElem?_hubIndex_of_mem h)))

namespace WellFormed

variable {c : Cluster} {i : Nat} {code : LocationCode}

theorem getElem?_hubIndex (h : c.WellFormed) : c.members[c.hubIndex]? = some c.hub :=
  getElem?_hubIndex_of_mem h.hub_mem

/-- A member is the hub exactly at the position of the hub. -/
theorem getElem?_eq_hub_iff (h : c.WellFormed) (hi : c.members[i]? = some code) :
    code = c.hub ↔ i = c.hubIndex :=
  eq_iff_of_nodup h.nodup hi h.getElem?_hubIndex

end WellFormed
end Cluster

namespace Network

variable {V : Type}

theorem assemble_eq_ok_iff {clusters : List Cluster} {plan : SalesPlan V}
    {locations : List Location} {minimum : V} {network : Network V} :
    assemble clusters plan locations minimum = .ok network ↔
      (∀ c ∈ clusters, ∀ m ∈ c.members, ∃ l, locate locations m = .ok l) ∧
        ⟨clusters, plan, locations, minimum⟩ = network := by
  unfold assemble
  rw [bind_eq_ok_iff]
  simp only [forIn_eq_ok_iff, exists_const]
  exact and_congr_right fun _ => ⟨Except.ok.inj, congrArg _⟩

variable [NatCast V] [Mul V]

/-- A network is built from rows when these make clusters and a plan, and every member of every
cluster has a location record. -/
theorem ofRows_eq_ok_iff {rows : List (SalesRow V)} {locations : List Location} {minimum : V}
    {network : Network V} :
    ofRows rows locations minimum = .ok network ↔
      Cluster.ofRows rows = .ok network.clusters ∧ SalesPlan.ofRows rows = .ok network.plan ∧
        (∀ c ∈ network.clusters, ∀ m ∈ c.members, ∃ l, network.location m = .ok l) ∧
        network.locations = locations ∧ network.minimum = minimum := by
  unfold ofRows
  simp only [bind_eq_ok_iff, assemble_eq_ok_iff]
  constructor
  · rintro ⟨clusters, hclusters, plan, hplan, hlocated, rfl⟩
    exact ⟨hclusters, hplan, hlocated, rfl, rfl⟩
  · rintro ⟨hclusters, hplan, hlocated, rfl, rfl⟩
    exact ⟨_, hclusters, _, hplan, hlocated, rfl⟩

theorem wellFormed_of_mem_clusters {rows : List (SalesRow V)} {locations : List Location}
    {minimum : V} {network : Network V} (h : ofRows rows locations minimum = .ok network)
    {c : Cluster} (hc : c ∈ network.clusters) : c.WellFormed :=
  Cluster.wellFormed_of_mem_ofRows (ofRows_eq_ok_iff.mp h).1 hc

end Network
end HubDispatch
