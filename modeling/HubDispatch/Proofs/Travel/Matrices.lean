import HubDispatch.Travel.Matrices
import HubDispatch.Proofs.Outcome

/-!
# Where travel costs stand

Matrices are filled row by row, and a row is what is travelled from one location to all in turn, so
the cell of a pair is the answer of the provider for exactly this direction (`cell_of_ofProvider`).
Put end to end, the rows of `n` locations have the entry from the `i`-th to the `j`-th at
`i * n + j` (`entry_of_ofProvider`): they have one length, which is all that matters for where an
entry is found (`getElem?_flatten`). Where a pair has no answer there are no matrices, and the first
such pair, row by row, says why (`ofProvider_eq_error_iff`).
-/

namespace HubDispatch

/-- Of lists of one length put end to end, the `i`-th begins at `i` times the length. -/
theorem getElem?_flatten {α : Type} {rows : List (List α)} {n i j : Nat}
    (h : ∀ row ∈ rows, row.length = n) (hj : j < n) :
    rows.flatten[i * n + j]? = rows[i]?.bind (·[j]?) := by
  induction rows generalizing i with
  | nil => simp
  | cons row rows ih =>
    obtain ⟨hrow, hrows⟩ := List.forall_mem_cons.mp h
    rw [List.flatten_cons]
    cases i with
    | zero =>
      rw [Nat.zero_mul, Nat.zero_add, List.getElem?_append_left (hrow ▸ hj)]
      rfl
    | succ i =>
      have hpast : row.length ≤ (i + 1) * n + j := by
        rw [hrow, Nat.succ_mul]
        omega
      have hrest : (i + 1) * n + j - row.length = i * n + j := by
        rw [hrow, Nat.succ_mul]
        omega
      rw [List.getElem?_append_right hpast, hrest, ih hrows, List.getElem?_cons_succ]

theorem length_flatten {α : Type} {rows : List (List α)} {n : Nat}
    (h : ∀ row ∈ rows, row.length = n) : rows.flatten.length = rows.length * n := by
  induction rows with
  | nil => simp
  | cons row rows ih =>
    obtain ⟨hrow, hrows⟩ := List.forall_mem_cons.mp h
    rw [List.flatten_cons, List.length_append, ih hrows, hrow, List.length_cons, Nat.succ_mul,
      Nat.add_comm]

namespace Matrices

variable {costs : CostProvider} {places : List Location} {m : Matrices}

theorem cell_eq_ok_iff {origin destination : Location} {c : Nat × Nat} :
    cell costs origin destination = .ok c ↔
      ∃ kilometres hours, costs.distance origin destination = .ok kilometres ∧
        costs.duration origin destination = .ok hours ∧ (metres kilometres, seconds hours) = c := by
  simp only [cell, bind_eq_ok_iff]
  constructor
  · rintro ⟨kilometres, hk, hours, hh, hc⟩
    exact ⟨kilometres, hours, hk, hh, Except.ok.inj hc⟩
  · rintro ⟨kilometres, hours, hk, hh, rfl⟩
    exact ⟨kilometres, hk, hours, hh, rfl⟩

/-- Matrices are two tables of one square of cells. -/
theorem ofProvider_eq_ok_iff :
    ofProvider costs places = .ok m ↔
      ∃ rows, List.Forall₂ (fun origin row =>
          List.Forall₂ (fun destination c => cell costs origin destination = .ok c) places row)
          places rows ∧
        m = ⟨rows.map (·.map (·.1)), rows.map (·.map (·.2))⟩ := by
  simp only [ofProvider, cells, bind_eq_ok_iff (x := List.mapM _ _), mapM_eq_ok_iff]
  constructor
  · rintro ⟨rows, hrows, hm⟩
    exact ⟨rows, hrows, (Except.ok.inj hm).symm⟩
  · rintro ⟨rows, hrows, rfl⟩
    exact ⟨rows, hrows, rfl⟩

/-- **There are matrices** exactly if there is a cell for every ordered pair. -/
theorem exists_ofProvider_iff :
    (∃ m, ofProvider costs places = .ok m) ↔
      ∀ a ∈ places, ∀ b ∈ places, ∃ c, cell costs a b = .ok c := by
  have hrow : ∀ a, (∃ row, List.Forall₂ (fun b c => cell costs a b = .ok c) places row) ↔
      ∀ b ∈ places, ∃ c, cell costs a b = .ok c := fun _ => exists_forall₂_iff
  simp only [ofProvider_eq_ok_iff, ← hrow]
  rw [← exists_forall₂_iff]
  constructor
  · rintro ⟨_, rows, hrows, -⟩
    exact ⟨rows, hrows⟩
  · rintro ⟨rows, hrows⟩
    exact ⟨_, rows, hrows, rfl⟩

theorem length_of_mem_part {rows : List (List (Nat × Nat))} {n : Nat} (part : Nat × Nat → Nat)
    (h : ∀ row ∈ rows, row.length = n) : ∀ row ∈ rows.map (·.map part), row.length = n := by
  intro _ hmem
  obtain ⟨row, hrow, rfl⟩ := List.mem_map.mp hmem
  rw [List.length_map]
  exact h row hrow

/-- In a square of cells, every row is as long as the list of locations. -/
theorem length_of_mem_rows {rows : List (List (Nat × Nat))}
    (h : List.Forall₂ (fun origin row =>
      List.Forall₂ (fun destination c => cell costs origin destination = .ok c) places row)
      places rows) : ∀ row ∈ rows, row.length = places.length := by
  intro row hrow
  obtain ⟨origin, -, hcells⟩ := exists_of_mem_right h hrow
  exact hcells.length_eq.symm

/-- Both tables are as wide as the list of locations. -/
theorem length_of_mem_ofProvider (h : ofProvider costs places = .ok m) :
    (∀ row ∈ m.distances, row.length = places.length) ∧
      ∀ row ∈ m.durations, row.length = places.length := by
  obtain ⟨rows, hrows, rfl⟩ := ofProvider_eq_ok_iff.mp h
  have hlengths := length_of_mem_rows hrows
  exact ⟨length_of_mem_part _ hlengths, length_of_mem_part _ hlengths⟩

/-- Both tables have an entry for every ordered pair of locations. -/
theorem length_of_ofProvider (h : ofProvider costs places = .ok m) :
    m.flatDistances.length = places.length * places.length ∧
      m.flatDurations.length = places.length * places.length := by
  obtain ⟨hdistances, hdurations⟩ := length_of_mem_ofProvider h
  obtain ⟨rows, hrows, rfl⟩ := ofProvider_eq_ok_iff.mp h
  have hcount : rows.length = places.length := hrows.length_eq.symm
  rw [flatDistances, flatDurations, flat, flat, List.length_map, List.length_map,
    length_flatten hdistances, length_flatten hdurations, List.length_map, List.length_map, hcount]
  exact ⟨rfl, rfl⟩

/-- **Each cell is the answer for its pair**, from the row to the column. -/
theorem cell_of_ofProvider (h : ofProvider costs places = .ok m) {i j : Nat}
    {origin destination : Location} (hi : places[i]? = some origin)
    (hj : places[j]? = some destination) :
    ∃ kilometres hours, costs.distance origin destination = .ok kilometres ∧
      costs.duration origin destination = .ok hours ∧
      m.distances[i]?.bind (·[j]?) = some (metres kilometres) ∧
      m.durations[i]?.bind (·[j]?) = some (seconds hours) := by
  obtain ⟨rows, hrows, rfl⟩ := ofProvider_eq_ok_iff.mp h
  obtain ⟨hlt, rfl⟩ := List.getElem?_eq_some_iff.mp hi
  obtain ⟨hlt', rfl⟩ := List.getElem?_eq_some_iff.mp hj
  -- The cell of the pair, by its row and its column.
  have hrow : i < rows.length := hrows.length_eq ▸ hlt
  have hcells := hrows.get hlt hrow
  have hcolumn : j < rows[i].length := hcells.length_eq ▸ hlt'
  have hcell : cell costs places[i] places[j] = .ok rows[i][j] := hcells.get hlt' hcolumn
  obtain ⟨kilometres, hours, hk, hh, hc⟩ := cell_eq_ok_iff.mp hcell
  have hpart : ∀ part : Nat × Nat → Nat,
      (rows.map (·.map part))[i]?.bind (·[j]?) = some (part rows[i][j]) := by
    intro part
    rw [List.getElem?_map, List.getElem?_eq_getElem hrow, Option.map_some, Option.bind_some,
      List.getElem?_map, List.getElem?_eq_getElem hcolumn, Option.map_some]
  refine ⟨kilometres, hours, hk, hh, ?_, ?_⟩
  · rw [hpart, ← hc]
  · rw [hpart, ← hc]

/-- **Each entry is that of its cell.** -/
theorem entry_of_ofProvider (h : ofProvider costs places = .ok m) {i j : Nat}
    {origin destination : Location} (hi : places[i]? = some origin)
    (hj : places[j]? = some destination) :
    ∃ kilometres hours, costs.distance origin destination = .ok kilometres ∧
      costs.duration origin destination = .ok hours ∧
      m.flatDistances[i * places.length + j]? = some (Binary64.wrapSigned (metres kilometres)) ∧
      m.flatDurations[i * places.length + j]? = some (Binary64.wrapSigned (seconds hours)) := by
  obtain ⟨kilometres, hours, hk, hh, hdistance, hduration⟩ := cell_of_ofProvider h hi hj
  obtain ⟨hdistances, hdurations⟩ := length_of_mem_ofProvider h
  have hj' : j < places.length := (List.getElem?_eq_some_iff.mp hj).1
  refine ⟨kilometres, hours, hk, hh, ?_, ?_⟩
  · rw [flatDistances, flat, List.getElem?_map, getElem?_flatten hdistances hj', hdistance,
      Option.map_some]
  · rw [flatDurations, flat, List.getElem?_map, getElem?_flatten hdurations hj', hduration,
      Option.map_some]

/-- **The fault of matrices** is that of the first pair, row by row, that has no cell. -/
theorem ofProvider_eq_error_iff {fault : Fault} :
    ofProvider costs places = .error fault ↔
      ∃ (i j : Nat) (a b : Location), places[i]? = some a ∧ places[j]? = some b ∧
        cell costs a b = .error fault ∧
        ∀ (i' j' : Nat) (a' b' : Location), places[i']? = some a' → places[j']? = some b' →
          i' < i ∨ i' = i ∧ j' < j → ∃ c, cell costs a' b' = .ok c := by
  have hrow : ∀ a, (∃ row, places.mapM (cell costs a) = .ok row) ↔
      ∀ b ∈ places, ∃ c, cell costs a b = .ok c := by
    intro a
    simp only [mapM_eq_ok_iff]
    exact exists_forall₂_iff
  have hcells : ofProvider costs places = .error fault ↔ cells costs places = .error fault := by
    rw [ofProvider, bind_eq_error_iff, or_iff_left]
    rintro ⟨_, -, hdone⟩
    cases hdone
  rw [hcells, cells, mapM_eq_error_iff]
  simp only [hrow]
  constructor
  · rintro ⟨i, a, ha, hfault, habove⟩
    obtain ⟨j, b, hb, hfault, hbefore⟩ := mapM_eq_error_iff.mp hfault
    refine ⟨i, j, a, b, ha, hb, hfault, fun i' j' a' b' ha' hb' hearlier => ?_⟩
    rcases hearlier with hlt | ⟨rfl, hlt⟩
    · exact habove i' hlt a' ha' b' (List.mem_of_getElem? hb')
    · obtain rfl : a = a' := Option.some.inj (ha.symm.trans ha')
      exact hbefore j' hlt b' hb'
  · rintro ⟨i, j, a, b, ha, hb, hfault, hearlier⟩
    refine ⟨i, a, ha, mapM_eq_error_iff.mpr ⟨j, b, hb, hfault, fun j' hlt b' hb' => ?_⟩, ?_⟩
    · exact hearlier i j' a b' ha hb' (Or.inr ⟨rfl, hlt⟩)
    · intro i' hlt a' ha' b' hb'
      obtain ⟨j', hj'⟩ := List.mem_iff_getElem?.mp hb'
      exact hearlier i' j' a' b' ha' hj' (Or.inl hlt)

end Matrices
end HubDispatch
