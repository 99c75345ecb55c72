import HubDispatch.Proofs.Travel.UnknownPairs

/-!
# What a way costs, and why it may cost nothing that is known

The travel table may record a way more than once, and then the last row for it counts (`LastRow`).
Distance and time of a way are both read off this row; a row without a time is driven at the average
speed. Without a row only a location and itself, or another of its number, have a cost, which is
nothing (`Costs`). What stands against a cost is looked for in a fixed order: the place of the
origin, the place of the destination, the row (`NoCost`). One of the two applies to every way, and
never both (`leg_eq_ok_iff_costs`, `leg_eq_error_iff`).

Matrices ask for every ordered pair, row by row. So there are matrices exactly if every location has
a place and every way between different numbers a row, they hold the costs of every pair, and
otherwise the first pair without cost says what is missing (`ofProvider_costs`).
-/

namespace HubDispatch

/-- The last row of the travel table for the way from `a` to `b`. -/
def LastRow (travel : List TravelRow) (a b : Location) (row : TravelRow) : Prop :=
  ∃ before after, travel = before ++ row :: after ∧
    (row.origin = a.id ∧ row.destination = b.id) ∧ ¬ HasRow after a b

/-- Kilometres and hours from `a` to `b`. -/
inductive Costs (travel : List TravelRow) (speed : Float) (a b : Location) : Float → Float → Prop
  /-- The last row has a time. -/
  | timed {row : TravelRow} {ms : Int} (last : LastRow travel a b row)
      (time : row.millis = some ms) :
      Costs travel speed a b row.kilometres (Float.ofInt ms / 3600000.0)
  /-- The last row has no time. -/
  | driven {row : TravelRow} (last : LastRow travel a b row) (untimed : row.millis = none) :
      Costs travel speed a b row.kilometres (row.kilometres / speed)
  /-- No row is needed. -/
  | nothing (noRow : ¬ HasRow travel a b) (same : a.id = b.id) : Costs travel speed a b 0.0 0.0

/-- Why the way from `a` to `b` has no cost. -/
inductive NoCost (travel : List TravelRow) (a b : Location) : Fault → Prop
  /-- It is not known where the origin is. -/
  | origin (unknown : ¬ a.Located) : NoCost travel a b (.missingCoordinate a.code)
  /-- It is known where the origin is, but not where the destination is. -/
  | destination (known : a.Located) (unknown : ¬ b.Located) :
      NoCost travel a b (.missingCoordinate b.code)
  /-- Both places are known, and a row would be needed. -/
  | row (known : a.Located ∧ b.Located) (noRow : ¬ HasRow travel a b) (apart : a.id ≠ b.id) :
      NoCost travel a b (.missingTravelData a.code b.code)

namespace TravelTable

variable {t : TravelTable} {travel : List TravelRow} {speed : Float} {a b : Location}
  {places : List Location} {fault : Fault}

/-! ## One way -/

/-- **The last row for a way decides.** -/
theorem leg?_ofRows_eq_some_iff {leg : Leg} :
    (ofRows travel speed).leg? a.id b.id = some leg ↔
      ∃ row, LastRow travel a b row ∧ legOf speed row = leg := by
  have hfind : (ofRows travel speed).leg? a.id b.id =
      (travel.reverse.find? fun row => (row.origin, row.destination) == (a.id, b.id)).map
        (legOf speed) := by
    rw [leg?, List.findRev?_eq_find?_reverse, ofRows, ← List.map_reverse, List.find?_map,
      Option.map_map]
    rfl
  rw [hfind, Option.map_eq_some_iff]
  refine exists_congr fun row => and_congr_left fun _ => ?_
  rw [List.find?_eq_some_iff_append, LastRow, beq_iff_eq, Prod.mk.injEq]
  constructor
  · rintro ⟨hends, later, earlier, hsplit, hlater⟩
    refine ⟨earlier.reverse, later.reverse, ?_, hends, ?_⟩
    · rw [← List.reverse_reverse travel, hsplit, List.reverse_append, List.reverse_cons,
        List.append_assoc, List.singleton_append]
    · rintro ⟨other, hother, hsame⟩
      have hnot := hlater other (List.mem_reverse.mp hother)
      rw [Bool.not_eq_true', beq_eq_false_iff_ne] at hnot
      exact hnot (Prod.ext hsame.1 hsame.2)
  · rintro ⟨before, after, rfl, hends, hafter⟩
    refine ⟨hends, after.reverse, before.reverse, ?_, fun other hother => ?_⟩
    · rw [List.reverse_append, List.reverse_cons, List.append_assoc, List.singleton_append]
    · rw [Bool.not_eq_true', beq_eq_false_iff_ne]
      intro hsame
      exact hafter ⟨other, List.mem_reverse.mp hother, (Prod.mk.inj hsame).1, (Prod.mk.inj hsame).2⟩

/-- What a row says of its way. -/
theorem costs_legOf {row : TravelRow} (h : LastRow travel a b row) :
    Costs travel speed a b (legOf speed row).kilometres (legOf speed row).hours := by
  cases hms : row.millis with
  | none =>
    have hhours : (legOf speed row).hours = row.kilometres / speed := by rw [legOf, hms]
    rw [hhours]
    exact .driven h hms
  | some ms =>
    have hhours : (legOf speed row).hours = Float.ofInt ms / 3600000.0 := by
      rw [legOf, hms]
      rfl
    rw [hhours]
    exact .timed h hms

/-- **The cost of a way** is that of its leg, which needs to know where both ends are. -/
theorem leg_eq_ok_iff_costs {leg : Leg} :
    (ofRows travel speed).leg a b = .ok leg ↔
      (a.Located ∧ b.Located) ∧ Costs travel speed a b leg.kilometres leg.hours := by
  rw [leg_eq_ok_iff, leg?_ofRows_eq_some_iff, leg?_ofRows_eq_none_iff]
  refine and_congr_right fun _ => ?_
  constructor
  · rintro (⟨row, hlast, rfl⟩ | ⟨hrow, hid, rfl⟩)
    · exact costs_legOf hlast
    · exact .nothing hrow hid
  · intro hcosts
    obtain ⟨kilometres, hours⟩ := leg
    cases hcosts with
    | timed hlast htime =>
      refine Or.inl ⟨_, hlast, ?_⟩
      rw [legOf, htime]
      rfl
    | driven hlast huntimed =>
      refine Or.inl ⟨_, hlast, ?_⟩
      rw [legOf, huntimed]
      rfl
    | nothing hrow hid => exact Or.inr ⟨hrow, hid, rfl⟩

/-- The origin is looked at before the destination. -/
theorem ensureCoordinates_eq_error_iff :
    ensureCoordinates a b = .error fault ↔
      ¬ a.Located ∧ .missingCoordinate a.code = fault ∨
        a.Located ∧ ¬ b.Located ∧ .missingCoordinate b.code = fault := by
  unfold ensureCoordinates Location.Located
  cases a.coordinates <;> cases b.coordinates <;> simp

/-- Between known places only a row can be missing. -/
theorem leg_eq_error_iff_of_located (hlocated : a.Located ∧ b.Located) :
    t.leg a b = .error fault ↔
      t.leg? a.id b.id = none ∧ a.id ≠ b.id ∧ .missingTravelData a.code b.code = fault := by
  have hok : ensureCoordinates a b = .ok () := ensureCoordinates_eq_ok_iff.mpr hlocated
  rw [TravelTable.leg, hok]
  cases t.leg? a.id b.id with
  | some leg =>
    show Except.ok leg = Except.error fault ↔ _
    constructor
    · intro h
      cases h
    · rintro ⟨h, -⟩
      cases h
  | none =>
    show (if a.id = b.id then Except.ok (Leg.mk 0.0 0.0) else Except.error _) = .error fault ↔ _
    by_cases hid : a.id = b.id
    · rw [if_pos hid]
      constructor
      · intro h
        cases h
      · rintro ⟨-, hapart, -⟩
        exact absurd hid hapart
    · rw [if_neg hid, Except.error.injEq, eq_self_iff_true, true_and, and_iff_right hid]

/-- **What a way without a leg is missing.** -/
theorem leg_eq_error_iff :
    (ofRows travel speed).leg a b = .error fault ↔ NoCost travel a b fault := by
  by_cases hlocated : a.Located ∧ b.Located
  · rw [leg_eq_error_iff_of_located hlocated, leg?_ofRows_eq_none_iff]
    constructor
    · rintro ⟨hrow, hid, rfl⟩
      exact .row hlocated hrow hid
    · rintro (hunknown | ⟨-, hunknown⟩ | ⟨-, hrow, hid⟩)
      · exact absurd hlocated.1 hunknown
      · exact absurd hlocated.2 hunknown
      · exact ⟨hrow, hid, rfl⟩
  · have hnot : ∀ {P : Unit → Prop}, ¬ ∃ u, ensureCoordinates a b = .ok u ∧ P u := by
      rintro P ⟨u, hok, -⟩
      exact hlocated (ensureCoordinates_eq_ok_iff.mp hok)
    rw [TravelTable.leg, bind_eq_error_iff, or_iff_left hnot, ensureCoordinates_eq_error_iff]
    constructor
    · rintro (⟨hunknown, rfl⟩ | ⟨hknown, hunknown, rfl⟩)
      · exact .origin hunknown
      · exact .destination hknown hunknown
    · rintro (hunknown | ⟨hknown, hunknown⟩ | ⟨hknown, -, -⟩)
      · exact Or.inl ⟨hunknown, rfl⟩
      · exact Or.inr ⟨hknown, hunknown, rfl⟩
      · exact absurd hknown hlocated

/-- The costs of a way are both those of its leg, or both fail as it does. -/
theorem cell_eq_error_iff :
    Matrices.cell t.provider a b = .error fault ↔ t.leg a b = .error fault := by
  rw [Matrices.cell, bind_eq_error_iff]
  simp only [bind_eq_error_iff, provider, map_eq_error_iff, map_eq_ok_iff]
  constructor
  · rintro (hfault | ⟨_, ⟨leg, hleg, -⟩, hfault | ⟨_, -, hdone⟩⟩)
    · exact hfault
    · exact hfault
    · cases hdone
  · intro hfault
    exact Or.inl hfault

/-- A way that has no leg is missing something, and no other way is. -/
theorem exists_leg_iff_no_fault :
    (∃ leg, (ofRows travel speed).leg a b = .ok leg) ↔ ∀ fault, ¬ NoCost travel a b fault := by
  have hfaults : ∀ fault, (ofRows travel speed).leg a b = .error fault ↔
      NoCost travel a b fault := fun _ => leg_eq_error_iff
  simp only [← hfaults]
  cases (ofRows travel speed).leg a b <;> simp

/-! ## All ways -/

/-- Row by row, the first way between two of the places that has no cost, and why it has none. -/
def FirstNoCost (travel : List TravelRow) (places : List Location) (fault : Fault) : Prop :=
  ∃ (i j : Nat) (a b : Location), places[i]? = some a ∧ places[j]? = some b ∧
    NoCost travel a b fault ∧
    ∀ (i' j' : Nat) (a' b' : Location), places[i']? = some a' → places[j']? = some b' →
      i' < i ∨ i' = i ∧ j' < j → ∀ fault', ¬ NoCost travel a' b' fault'

/-- **When travel costs can be told, what they are, and why they cannot.** There are matrices of
some places exactly if it is known where each of them is and the table has a row for every way
between different numbers. They have the costs of each way where the way stands, in whole metres and
seconds. Without matrices, the fault is that of the first way without cost. -/
theorem ofProvider_ofRows (travel : List TravelRow) (speed : Float) (places : List Location) :
    ((∃ m, Matrices.ofProvider (ofRows travel speed).provider places = .ok m) ↔
      (∀ l ∈ places, l.Located) ∧
        ∀ a ∈ places, ∀ b ∈ places, a.id ≠ b.id → HasRow travel a b) ∧
    (∀ m, Matrices.ofProvider (ofRows travel speed).provider places = .ok m →
      ∀ (i j : Nat) (a b : Location), places[i]? = some a → places[j]? = some b →
        ∃ kilometres hours, Costs travel speed a b kilometres hours ∧
          (ofRows travel speed).provider.distance a b = .ok kilometres ∧
          (ofRows travel speed).provider.duration a b = .ok hours ∧
          m.distances[i]?.bind (·[j]?) = some (Matrices.metres kilometres) ∧
          m.durations[i]?.bind (·[j]?) = some (Matrices.seconds hours)) ∧
    ∀ fault, Matrices.ofProvider (ofRows travel speed).provider places = .error fault ↔
      FirstNoCost travel places fault := by
  refine ⟨?_, fun m hm i j a b ha hb => ?_, fun fault => ?_⟩
  · rw [exists_matrices_iff]
    constructor
    · intro hall
      refine ⟨fun l hl => (hall l hl l hl).1.1, fun a ha b hb hapart => ?_⟩
      exact (hall a ha b hb).2.resolve_right hapart
    · rintro ⟨hlocated, hrows⟩ a ha b hb
      refine ⟨⟨hlocated a ha, hlocated b hb⟩, ?_⟩
      by_cases hid : a.id = b.id
      · exact Or.inr hid
      · exact Or.inl (hrows a ha b hb hid)
  · obtain ⟨kilometres, hours, hk, hh, hdistance, hduration⟩ :=
      Matrices.cell_of_ofProvider hm ha hb
    obtain ⟨leg, hleg, rfl⟩ := map_eq_ok_iff.mp hk
    obtain ⟨leg', hleg', rfl⟩ := map_eq_ok_iff.mp hh
    obtain rfl : leg = leg' := Except.ok.inj (hleg.symm.trans hleg')
    exact ⟨_, _, (leg_eq_ok_iff_costs.mp hleg).2, hk, hh, hdistance, hduration⟩
  · rw [Matrices.ofProvider_eq_error_iff, FirstNoCost]
    simp only [cell_eq_error_iff, leg_eq_error_iff, exists_cell_iff, exists_leg_iff_no_fault]

/-- Both ways between two locations, each recorded twice. -/
def recordedTwice : List TravelRow :=
  [⟨1, 2, 60.0, some 7200000⟩, ⟨2, 1, 45.0, none⟩, ⟨1, 2, 30.0, none⟩, ⟨2, 1, 40.0, some 5400000⟩]

/-- The last row gives both distance and time, be it with a time or without one. A location that
has neither a place nor a row is reported for its place, on the way from the first location. -/
theorem ofProvider_ofRows_recordedTwice :
    ∃ m, Matrices.ofProvider (ofRows recordedTwice 30.0).provider
        [locatedAt 1 "H", locatedAt 2 "X"] = .ok m ∧
      m = ⟨[[0, 30000], [40000, 0]], [[0, 3600], [5400, 0]]⟩ ∧
      (∃ kilometres hours, Costs recordedTwice 30.0 (locatedAt 2 "X") (locatedAt 1 "H")
        kilometres hours ∧ Matrices.metres kilometres = 40000 ∧ Matrices.seconds hours = 5400) ∧
      FirstNoCost recordedTwice [locatedAt 1 "H", locatedAt 2 "X", ⟨3, "Y", "Y", none, ⟨6, 20⟩⟩]
        (.missingCoordinate "Y") := by
  have hmade : Matrices.ofProvider (ofRows recordedTwice 30.0).provider
      [locatedAt 1 "H", locatedAt 2 "X"] =
        .ok ⟨[[0, 30000], [40000, 0]], [[0, 3600], [5400, 0]]⟩ := by
    decide +kernel
  obtain ⟨-, hcosts, -⟩ := ofProvider_ofRows recordedTwice 30.0 [locatedAt 1 "H", locatedAt 2 "X"]
  obtain ⟨kilometres, hours, hway, -, -, hdistance, hduration⟩ :=
    hcosts _ hmade 1 0 (locatedAt 2 "X") (locatedAt 1 "H") rfl rfl
  refine ⟨_, hmade, rfl, ⟨kilometres, hours, hway, ?_, ?_⟩, ?_⟩
  · exact (Option.some.inj hdistance).symm
  · exact (Option.some.inj hduration).symm
  · exact ((ofProvider_ofRows recordedTwice 30.0 _).2.2 _).mp rfl

end TravelTable
end HubDispatch
