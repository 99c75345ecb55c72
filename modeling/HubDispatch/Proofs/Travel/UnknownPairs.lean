import HubDispatch.Proofs.Network.Completeness
import HubDispatch.Proofs.Travel.Matrices

/-!
# Pairs without travel data

A way for which the travel table has no row has no cost, except from a location to itself, which is
free. The table tells locations apart by their numbers, though, and the network by their codes; the
numbers come with the location records, and nothing keeps two records of different codes from having
one number. Such locations count as one: a way between them needs no row either.

So there are matrices of some locations exactly if all have coordinates and each pair has a row or
one number (`exists_matrices_iff`). It follows when a pair without a row may be relied on to be
noticed: exactly if no two members of the cluster share a number (`unknown_pairs_fail_iff`).
-/

namespace HubDispatch

/-- Some row of the travel table is for the way from `a` to `b`. -/
def HasRow (travel : List TravelRow) (a b : Location) : Prop :=
  ∃ row ∈ travel, row.origin = a.id ∧ row.destination = b.id

/-- It is known where the location is. -/
def Location.Located (l : Location) : Prop := l.coordinates ≠ none

namespace TravelTable

variable {t : TravelTable} {travel : List TravelRow} {speed : Float} {a b : Location}

theorem leg?_ofRows_eq_none_iff :
    (ofRows travel speed).leg? a.id b.id = none ↔ ¬ HasRow travel a b := by
  rw [leg?, Option.map_eq_none_iff, List.findRev?_eq_find?_reverse, List.find?_eq_none]
  simp only [List.mem_reverse, ofRows, List.forall_mem_map, beq_iff_eq, Prod.mk.injEq, HasRow,
    not_exists, not_and]

theorem ensureCoordinates_eq_ok_iff {u : Unit} :
    ensureCoordinates a b = .ok u ↔ a.Located ∧ b.Located := by
  unfold ensureCoordinates Location.Located
  cases a.coordinates <;> cases b.coordinates <;> simp

/-- **Ways that have a leg**: both ends are located, and the table has an entry for the way, or it
has none and the ends have one number. -/
theorem leg_eq_ok_iff {leg : Leg} :
    t.leg a b = .ok leg ↔ (a.Located ∧ b.Located) ∧
      (t.leg? a.id b.id = some leg ∨
        t.leg? a.id b.id = none ∧ a.id = b.id ∧ leg = ⟨0.0, 0.0⟩) := by
  rw [TravelTable.leg, bind_eq_ok_iff]
  simp only [ensureCoordinates_eq_ok_iff, exists_const]
  refine and_congr_right fun _ => ?_
  cases t.leg? a.id b.id with
  | some known => simp [pure, Except.pure]
  | none =>
    by_cases hid : a.id = b.id
    · simp [hid, pure, Except.pure, eq_comm]
    · simp [hid]

theorem exists_leg_iff :
    (∃ leg, (ofRows travel speed).leg a b = .ok leg) ↔
      (a.Located ∧ b.Located) ∧ (HasRow travel a b ∨ a.id = b.id) := by
  simp only [leg_eq_ok_iff, exists_and_left]
  refine and_congr_right fun _ => ?_
  by_cases hrow : HasRow travel a b
  · obtain ⟨leg, hleg⟩ : ∃ leg, (ofRows travel speed).leg? a.id b.id = some leg :=
      Option.ne_none_iff_exists'.mp fun hnone => leg?_ofRows_eq_none_iff.mp hnone hrow
    exact iff_of_true ⟨leg, Or.inl hleg⟩ (Or.inl hrow)
  · rw [leg?_ofRows_eq_none_iff.mpr hrow]
    constructor
    · rintro ⟨_, h | ⟨-, hid, -⟩⟩
      · cases h
      · exact Or.inr hid
    · rintro (h | hid)
      · exact absurd h hrow
      · exact ⟨_, Or.inr ⟨rfl, hid, rfl⟩⟩

/-- Both costs of a way are those of its leg. -/
theorem exists_cell_iff :
    (∃ c, Matrices.cell t.provider a b = .ok c) ↔ ∃ leg, t.leg a b = .ok leg := by
  simp only [Matrices.cell_eq_ok_iff, provider, map_eq_ok_iff]
  constructor
  · rintro ⟨_, _, _, ⟨leg, hleg, -⟩, -⟩
    exact ⟨leg, hleg⟩
  · rintro ⟨leg, hleg⟩
    exact ⟨_, _, _, ⟨leg, hleg, rfl⟩, ⟨leg, hleg, rfl⟩, rfl⟩

/-- **Where there are matrices.** -/
theorem exists_matrices_iff {places : List Location} :
    (∃ m, Matrices.ofProvider (ofRows travel speed).provider places = .ok m) ↔
      ∀ a ∈ places, ∀ b ∈ places, (a.Located ∧ b.Located) ∧ (HasRow travel a b ∨ a.id = b.id) := by
  simp only [Matrices.exists_ofProvider_iff, exists_cell_iff, exists_leg_iff]

/-- **A cost without a row** is nothing, and is given between located ends of one number. -/
theorem cost_iff_of_not_hasRow (hrow : ¬ HasRow travel a b) {cost : Float} :
    (ofRows travel speed).provider.distance a b = .ok cost ∨
        (ofRows travel speed).provider.duration a b = .ok cost ↔
      (a.Located ∧ b.Located) ∧ a.id = b.id ∧ cost = 0.0 := by
  have hleg : ∀ leg, (ofRows travel speed).leg a b = .ok leg ↔
      (a.Located ∧ b.Located) ∧ a.id = b.id ∧ leg = ⟨0.0, 0.0⟩ := by
    intro leg
    rw [leg_eq_ok_iff, leg?_ofRows_eq_none_iff.mpr hrow]
    simp only [reduceCtorEq, false_or, true_and]
  simp only [provider, map_eq_ok_iff, hleg]
  constructor
  · rintro (⟨_, ⟨hlocated, hid, rfl⟩, rfl⟩ | ⟨_, ⟨hlocated, hid, rfl⟩, rfl⟩)
    · exact ⟨hlocated, hid, rfl⟩
    · exact ⟨hlocated, hid, rfl⟩
  · rintro ⟨hlocated, hid, rfl⟩
    exact Or.inl ⟨_, ⟨hlocated, hid, rfl⟩, rfl⟩

end TravelTable

/-! ## What a missing row does -/

/-- Whatever the travel table: if it has no row from one of the places to another of a different
code, there are no matrices. -/
def FailsOnUnknown (places : List Location) : Prop :=
  ∀ travel speed, ∀ a ∈ places, ∀ b ∈ places, a.code ≠ b.code → ¬ HasRow travel a b →
    ∃ fault, Matrices.ofProvider (TravelTable.ofRows travel speed).provider places = .error fault

/-- Whatever the travel table: a cost for which it has no row is only given from one of the places
to itself, and is nothing. -/
def FreeOnlyToSelf (places : List Location) : Prop :=
  ∀ travel speed, ∀ a ∈ places, ∀ b ∈ places, ¬ HasRow travel a b → ∀ cost,
    (TravelTable.ofRows travel speed).provider.distance a b = .ok cost ∨
      (TravelTable.ofRows travel speed).provider.duration a b = .ok cost →
    a.code = b.code ∧ cost = 0.0

/-- No two places that are located have different codes and one number. -/
def NumbersApart (places : List Location) : Prop :=
  ∀ a ∈ places, ∀ b ∈ places, a.Located → b.Located → a.id = b.id → a.code = b.code

/-- A row for every way between two places of different numbers. -/
def rowsBetween (places : List Location) : List TravelRow :=
  places.flatMap fun a => (places.filter (·.id ≠ a.id)).map fun b => ⟨a.id, b.id, 1.0, none⟩

section Places

variable {places : List Location} {a b : Location}

theorem hasRow_rowsBetween_iff (ha : a ∈ places) (hb : b ∈ places) :
    HasRow (rowsBetween places) a b ↔ a.id ≠ b.id := by
  simp only [HasRow, rowsBetween, List.mem_flatMap, List.mem_map, List.mem_filter,
    decide_eq_true_eq]
  constructor
  · rintro ⟨_, ⟨a', -, b', ⟨-, hne⟩, rfl⟩, hfrom, hto⟩ hid
    exact hne (hto.trans (hid.symm.trans hfrom.symm))
  · intro hne
    exact ⟨_, ⟨a, ha, b, ⟨hb, hne.symm⟩, rfl⟩, rfl, rfl⟩

theorem numbersApart_of_nodup (h : (places.map (·.id)).Nodup) : NumbersApart places := by
  intro a ha b hb _ _ hid
  rw [List.inj_on_of_nodup_map h ha hb hid]

theorem freeOnlyToSelf_iff : FreeOnlyToSelf places ↔ NumbersApart places := by
  constructor
  · intro hfree a ha b hb hlocated hlocated' hid
    have hrow : ¬ HasRow [] a b := by
      rintro ⟨_, ⟨⟩, -⟩
    have hcost : (TravelTable.ofRows [] 1.0).provider.distance a b = .ok 0.0 ∨
        (TravelTable.ofRows [] 1.0).provider.duration a b = .ok 0.0 :=
      (TravelTable.cost_iff_of_not_hasRow hrow).mpr ⟨⟨hlocated, hlocated'⟩, hid, rfl⟩
    exact (hfree [] 1.0 a ha b hb hrow _ hcost).1
  · intro hapart travel speed a ha b hb hrow cost hcost
    obtain ⟨⟨hlocated, hlocated'⟩, hid, hzero⟩ := (TravelTable.cost_iff_of_not_hasRow hrow).mp hcost
    exact ⟨hapart a ha b hb hlocated hlocated' hid, hzero⟩

theorem failsOnUnknown_iff :
    FailsOnUnknown places ↔ NumbersApart places ∨ ∃ l ∈ places, ¬ l.Located := by
  constructor
  · intro hfails
    by_cases hlocated : ∃ l ∈ places, ¬ l.Located
    · exact Or.inr hlocated
    · refine Or.inl fun a ha b hb _ _ hid => ?_
      by_contra hcode
      -- Rows for all ways but those between places of one number are enough for matrices.
      have hmatrices : ∃ m, Matrices.ofProvider
          (TravelTable.ofRows (rowsBetween places) 1.0).provider places = .ok m := by
        refine TravelTable.exists_matrices_iff.mpr fun a' ha' b' hb' => ⟨⟨?_, ?_⟩, ?_⟩
        · exact by_contra fun h => hlocated ⟨a', ha', h⟩
        · exact by_contra fun h => hlocated ⟨b', hb', h⟩
        · rw [hasRow_rowsBetween_iff ha' hb']
          exact ne_or_eq a'.id b'.id
      have hrow : ¬ HasRow (rowsBetween places) a b := fun h =>
        (hasRow_rowsBetween_iff ha hb).mp h hid
      obtain ⟨_, hok⟩ := hmatrices
      obtain ⟨_, herror⟩ := hfails _ 1.0 a ha b hb hcode hrow
      rw [hok] at herror
      cases herror
  · intro hplaces travel speed a ha b hb hcode hrow
    cases hm : Matrices.ofProvider (TravelTable.ofRows travel speed).provider places with
    | error fault => exact ⟨fault, rfl⟩
    | ok m =>
      exfalso
      have hall := TravelTable.exists_matrices_iff.mp ⟨m, hm⟩
      rcases hplaces with hapart | ⟨l, hl, hnowhere⟩
      · obtain ⟨⟨hlocated, hlocated'⟩, h | hid⟩ := hall a ha b hb
        · exact hrow h
        · exact hcode (hapart a ha b hb hlocated hlocated' hid)
      · exact hnowhere (hall l hl l hl).1.1

end Places

/-! ## In a network -/

namespace Network

variable {V : Type} {network : Network V} {cluster : Cluster}

/-- The record of a code has the code. -/
theorem code_of_location {code : LocationCode} {l : Location} (h : network.location code = .ok l) :
    l.code = code := by
  unfold location locate at h
  cases hfound : locate? network.locations code with
  | none =>
    rw [hfound] at h
    cases h
  | some found =>
    rw [hfound] at h
    cases h
    rw [locate?, List.findRev?_eq_find?_reverse] at hfound
    have hcode := List.find?_some hfound
    exact beq_iff_eq.mp hcode

theorem codes_of_memberLocations {places : List Location}
    (h : network.memberLocations cluster = .ok places) :
    places.map (·.code) = cluster.members := by
  have hcodes : List.Forall₂ Eq cluster.members (places.map (·.code)) :=
    List.forall₂_map_right_iff.mpr
      ((mapM_eq_ok_iff.mp h).imp fun _ _ hl => (code_of_location hl).symm)
  rw [List.forall₂_eq_eq_eq] at hcodes
  exact hcodes.symm

end Network

/-- **When a missing row is noticed.** The locations of a cluster of a network that comes from rows
are known. That matrices fail for want of a row between members of different codes may be relied on
exactly if no two members that are located share a number, or if some member is not located and they
always fail; that only the way from a member to itself is free without a row, exactly if no two
members that are located share a number. -/
theorem unknown_pairs_fail_iff {V : Type} [NatCast V] [Mul V] {rows : List (SalesRow V)}
    {locations : List Location} {minimum : V} {network : Network V} {cluster : Cluster}
    (hnetwork : Network.ofRows rows locations minimum = .ok network)
    (hcluster : cluster ∈ network.clusters) :
    ∃ places, network.memberLocations cluster = .ok places ∧
      places.map (·.code) = cluster.members ∧
      (FailsOnUnknown places ↔ NumbersApart places ∨ ∃ l ∈ places, ¬ l.Located) ∧
      (FreeOnlyToSelf places ↔ NumbersApart places) := by
  obtain ⟨places, hplaces, -⟩ :=
    (Network.complete_of_ofRows hnetwork).exists_memberLocations hcluster
  exact ⟨places, hplaces, Network.codes_of_memberLocations hplaces, failsOnUnknown_iff,
    freeOnlyToSelf_iff⟩

/-- A hub with two branches. -/
def hubXY : List (SalesRow Float) :=
  [⟨some "H", "H", [0.0, 0.5, 0.25]⟩, ⟨none, "X", [0.25, 0.0, 0.0]⟩,
    ⟨none, "Y", [0.5, 0.0, 0.0]⟩]

/-- A location of some number that has coordinates. -/
def locatedAt (id : Int) (code : LocationCode) : Location :=
  ⟨id, code, code, some ⟨30.0, 76.0⟩, ⟨6, 20⟩⟩

/-- The members, with the number of the last left open. -/
def placesXY (last : Int) : List Location :=
  [locatedAt 1 "H", locatedAt 2 "X", locatedAt last "Y"]

/-- Rows between the hub and two branches, but none between the branches. -/
def toAndFromHub : List TravelRow :=
  [⟨1, 2, 60.0, none⟩, ⟨2, 1, 60.0, none⟩, ⟨1, 3, 90.0, none⟩, ⟨3, 1, 90.0, none⟩]

/-- With a number for each member, the first way without a row is named. -/
theorem unknown_pairs_fail_three :
    ∃ network, Network.ofRows hubXY (placesXY 3) 100.0 = .ok network ∧
      network.clusters = [⟨"H", ["H", "X", "Y"]⟩] ∧
      network.memberLocations ⟨"H", ["H", "X", "Y"]⟩ = .ok (placesXY 3) ∧
      FailsOnUnknown (placesXY 3) ∧ FreeOnlyToSelf (placesXY 3) ∧
      Matrices.ofProvider (TravelTable.ofRows toAndFromHub 30.0).provider (placesXY 3) =
        .error (.missingTravelData "X" "Y") := by
  obtain ⟨network, hnetwork, hclusters, hplaces⟩ : ∃ network,
      Network.ofRows hubXY (placesXY 3) 100.0 = .ok network ∧
        network.clusters = [⟨"H", ["H", "X", "Y"]⟩] ∧
        network.memberLocations ⟨"H", ["H", "X", "Y"]⟩ = .ok (placesXY 3) := ⟨_, rfl, rfl, rfl⟩
  obtain ⟨places, hknown, -, hfails, hfree⟩ :=
    unknown_pairs_fail_iff hnetwork (hclusters ▸ List.mem_singleton_self _)
  obtain rfl : placesXY 3 = places := Except.ok.inj (hplaces.symm.trans hknown)
  have hapart : NumbersApart (placesXY 3) := numbersApart_of_nodup (by decide)
  exact ⟨network, hnetwork, hclusters, hplaces, hfails.mpr (Or.inl hapart), hfree.mpr hapart, rfl⟩

/-- **Two branches with one number.** There is no row from one to the other, and yet there are
matrices, in which the way between them is free. -/
theorem unknown_pair_free :
    ∃ network, Network.ofRows hubXY (placesXY 2) 100.0 = .ok network ∧
      network.clusters = [⟨"H", ["H", "X", "Y"]⟩] ∧
      network.memberLocations ⟨"H", ["H", "X", "Y"]⟩ = .ok (placesXY 2) ∧
      ¬ HasRow toAndFromHub (locatedAt 2 "X") (locatedAt 2 "Y") ∧
      Matrices.ofProvider (TravelTable.ofRows toAndFromHub 30.0).provider (placesXY 2) =
        .ok ⟨[[0, 60000, 60000], [60000, 0, 0], [60000, 0, 0]],
          [[0, 7200, 7200], [7200, 0, 0], [7200, 0, 0]]⟩ ∧
      ¬ FailsOnUnknown (placesXY 2) ∧ ¬ FreeOnlyToSelf (placesXY 2) := by
  have hrow : ¬ HasRow toAndFromHub (locatedAt 2 "X") (locatedAt 2 "Y") := by
    simp [HasRow, toAndFromHub, locatedAt]
  have hmatrices : Matrices.ofProvider (TravelTable.ofRows toAndFromHub 30.0).provider
      (placesXY 2) = .ok ⟨[[0, 60000, 60000], [60000, 0, 0], [60000, 0, 0]],
        [[0, 7200, 7200], [7200, 0, 0], [7200, 0, 0]]⟩ := by
    decide +kernel
  have hX : locatedAt 2 "X" ∈ placesXY 2 := by simp [placesXY]
  have hY : locatedAt 2 "Y" ∈ placesXY 2 := by simp [placesXY]
  have hcodes : (locatedAt 2 "X").code ≠ (locatedAt 2 "Y").code := by decide
  refine ⟨_, rfl, rfl, rfl, hrow, hmatrices, fun hfails => ?_, fun hfree => ?_⟩
  · obtain ⟨fault, hfault⟩ := hfails toAndFromHub 30.0 _ hX _ hY hcodes hrow
    rw [hmatrices] at hfault
    cases hfault
  · have hapart := freeOnlyToSelf_iff.mp hfree
    exact hcodes (hapart _ hX _ hY (Option.some_ne_none _) (Option.some_ne_none _) rfl)

end HubDispatch
