import HubDispatch.Proofs.Binary64.Truncation
import HubDispatch.Proofs.Binary64.Monotone
import HubDispatch.Proofs.Travel.Costs

/-!
# Costs as signed integers

Metres and seconds are counted with 64 bits, and what is too large for them is the largest count.
The solver is given the signed integers with the same bits, so counts from `2 ^ 63` on become
negative. These are the costs of ways whose metres or seconds are at least that number
(`le_toCount64_iff`), and the largest count, which stands for the longest ways, becomes `-1`.

A matrix is passed on faithfully, without negative entries and in the order of its counts, exactly
if no way is that long (`faithful_iff`).
-/

namespace HubDispatch

open Binary64 (toCount64 wrapSigned count64Max)

/-! ## Counts with 64 bits -/

namespace Binary64

/-- The least number that 64-bit signed integers do not reach. -/
def signedLimit : Float := 9223372036854775808.0

/-- No number lies between the limit and the one before it. -/
theorem rank_signedLimit :
    Exact.rank (Exact.ofFloat signedLimit) =
      Exact.rank (Exact.ofFloat 9223372036854774784.0) + 1 := by decide +kernel

/-- **Counts beyond signed integers** are those of numbers from the limit on. -/
theorem le_toCount64_iff {x : Float} :
    2 ^ 63 ≤ toCount64 .halfAway x ↔ signedLimit ≤ x := by
  have hlimit : Exact.ofFloat signedLimit ≠ .nan := by decide +kernel
  have hcount : (Exact.ofFloat signedLimit).toInt .halfAway 0 count64Max = 2 ^ 63 := by
    decide +kernel
  have hmono : ∀ {a b : Exact}, a.Canonical → b.Canonical → a ≠ .nan → b ≠ .nan →
      a.rank ≤ b.rank → a.toInt .halfAway 0 count64Max ≤ b.toInt .halfAway 0 count64Max :=
    fun ha hb ha' hb' => Exact.toInt_mono .halfAway (by decide) (by decide) ha hb ha' hb'
  unfold toCount64
  constructor
  · intro hlarge
    by_contra hnot
    by_cases hx : Exact.ofFloat x = .nan
    · rw [hx, Exact.toInt] at hlarge
      omega
    · -- Then it is at most the number before the limit, which is counted below it.
      have hbefore : Exact.ofFloat 9223372036854774784.0 ≠ .nan := by decide +kernel
      have hcount' : (Exact.ofFloat 9223372036854774784.0).toInt .halfAway 0 count64Max =
          2 ^ 63 - 1024 := by decide +kernel
      rw [Exact.le_iff_rank_le hlimit hx, rank_signedLimit] at hnot
      have hle := hmono (Exact.canonical_ofFloat x) (Exact.canonical_ofFloat _) hx hbefore
        (by omega)
      omega
  · intro hle
    obtain ⟨-, hx⟩ := Exact.ne_nan_of_le hle
    rw [Exact.le_iff_rank_le hlimit hx] at hle
    have hcounts := hmono (Exact.canonical_ofFloat _) (Exact.canonical_ofFloat x) hlimit hx hle
    omega

theorem toCount64_le (rule : Rounding) (x : Float) : toCount64 rule x ≤ count64Max := by
  have hmem : 0 ≤ (Exact.ofFloat x).toInt rule 0 count64Max ∧
      (Exact.ofFloat x).toInt rule 0 count64Max ≤ count64Max :=
    Exact.toInt_mem le_rfl (by decide) _
  unfold toCount64
  omega

/-- Below `2 ^ 63` the bits mean the same with and without a sign. -/
theorem wrapSigned_of_lt {n : Nat} (h : n < 2 ^ 63) : wrapSigned n = n :=
  Int.bmod_eq_of_le_mul_two (by omega) (by omega)

/-- From there on, they mean `2 ^ 64` less. -/
theorem wrapSigned_of_le {n : Nat} (h : 2 ^ 63 ≤ n) (h' : n ≤ count64Max) :
    wrapSigned n = n - 2 ^ 64 := by
  unfold count64Max at h'
  unfold wrapSigned
  have hsame : ((n : Int) - (2 ^ 64 : Nat)).bmod (2 ^ 64) = (n : Int).bmod (2 ^ 64) :=
    Int.sub_bmod_right ..
  rw [← hsame]
  exact Int.bmod_eq_of_le_mul_two (by omega) (by omega)

theorem wrapSigned_neg_iff {n : Nat} (h : n ≤ count64Max) : wrapSigned n < 0 ↔ 2 ^ 63 ≤ n := by
  by_cases hlarge : 2 ^ 63 ≤ n
  · rw [wrapSigned_of_le hlarge h]
    unfold count64Max at h
    omega
  · rw [wrapSigned_of_lt (not_le.mp hlarge)]
    omega

end Binary64

/-! ## Matrices -/

namespace Matrices

open Binary64 (signedLimit)

/-- What the solver is given of a matrix: no entry is negative, and a larger count has no smaller
entry. -/
structure Faithful (rows : List (List Nat)) (entries : List Int) : Prop where
  nonneg : ∀ entry ∈ entries, 0 ≤ entry
  ordered : ∀ (k k' count count' : Nat) (entry entry' : Int),
    rows.flatten[k]? = some count → rows.flatten[k']? = some count' →
      entries[k]? = some entry → entries[k']? = some entry' → count ≤ count' → entry ≤ entry'

theorem faithful_flat_iff {rows : List (List Nat)} (h : ∀ n ∈ rows.flatten, n ≤ count64Max) :
    Faithful rows (flat rows) ↔ ∀ n ∈ rows.flatten, ¬ 2 ^ 63 ≤ n := by
  constructor
  · rintro ⟨hnonneg, -⟩ n hn hlarge
    have hentry := hnonneg (wrapSigned n) (List.mem_map_of_mem hn)
    exact absurd ((Binary64.wrapSigned_neg_iff (h n hn)).mpr hlarge) (not_lt.mpr hentry)
  · intro hsmall
    have hsame : ∀ {k : Nat} {n : Nat} {entry : Int}, rows.flatten[k]? = some n →
        (flat rows)[k]? = some entry → entry = n := by
      intro k n entry hn hentry
      rw [flat, List.getElem?_map, hn, Option.map_some, Option.some.injEq] at hentry
      rw [← hentry, Binary64.wrapSigned_of_lt (not_le.mp (hsmall n (List.mem_of_getElem? hn)))]
    refine ⟨fun entry hentry => ?_, fun k k' n n' entry entry' hn hn' hentry hentry' hle => ?_⟩
    · obtain ⟨n, hn, rfl⟩ := List.mem_map.mp hentry
      rw [Binary64.wrapSigned_of_lt (not_le.mp (hsmall n hn))]
      exact Int.natCast_nonneg n
    · rw [hsame hn hentry, hsame hn' hentry']
      exact Int.ofNat_le.mpr hle

variable {costs : CostProvider} {places : List Location} {m : Matrices}

/-- The counts of a table are those of the cells of ordered pairs. -/
theorem mem_part_iff {rows : List (List (Nat × Nat))} (part : Nat × Nat → Nat)
    (h : List.Forall₂ (fun a row => List.Forall₂ (fun b c => cell costs a b = .ok c) places row)
      places rows) {n : Nat} :
    n ∈ (rows.map (·.map part)).flatten ↔
      ∃ a ∈ places, ∃ b ∈ places, ∃ c, cell costs a b = .ok c ∧ part c = n := by
  rw [List.mem_flatten]
  constructor
  · rintro ⟨_, hrow, hn⟩
    obtain ⟨row, hmem, rfl⟩ := List.mem_map.mp hrow
    obtain ⟨c, hc, rfl⟩ := List.mem_map.mp hn
    obtain ⟨a, ha, hcells⟩ := exists_of_mem_right h hmem
    obtain ⟨b, hb, hcell⟩ := exists_of_mem_right hcells hc
    exact ⟨a, ha, b, hb, c, hcell, rfl⟩
  · rintro ⟨a, ha, b, hb, c, hcell, rfl⟩
    obtain ⟨row, hrow, hcells⟩ := exists_of_mem_right h.flip ha
    obtain ⟨c', hc', hcell'⟩ := exists_of_mem_right hcells.flip hb
    obtain rfl : c = c' := Except.ok.inj (hcell.symm.trans hcell')
    exact ⟨_, List.mem_map_of_mem hrow, List.mem_map_of_mem hc'⟩

/-- Both tables are passed on faithfully unless a cell reaches `2 ^ 63`. -/
theorem faithful_ofProvider_iff (h : ofProvider costs places = .ok m) :
    (Faithful m.distances m.flatDistances ↔ ∀ a ∈ places, ∀ b ∈ places, ∀ kilometres hours,
      costs.distance a b = .ok kilometres → costs.duration a b = .ok hours →
        ¬ signedLimit ≤ kilometres * 1000.0) ∧
    (Faithful m.durations m.flatDurations ↔ ∀ a ∈ places, ∀ b ∈ places, ∀ kilometres hours,
      costs.distance a b = .ok kilometres → costs.duration a b = .ok hours →
        ¬ signedLimit ≤ hours * 3600.0) := by
  obtain ⟨rows, hrows, rfl⟩ := ofProvider_eq_ok_iff.mp h
  have hcells : ∀ (part : Nat × Nat → Nat) {P : Nat → Prop},
      (∀ n ∈ (rows.map (·.map part)).flatten, P n) ↔ ∀ a ∈ places, ∀ b ∈ places,
        ∀ kilometres hours, costs.distance a b = .ok kilometres → costs.duration a b = .ok hours →
          P (part (metres kilometres, seconds hours)) := by
    intro part P
    simp only [mem_part_iff part hrows, cell_eq_ok_iff]
    constructor
    · intro hall a ha b hb kilometres hours hk hh
      exact hall _ ⟨a, ha, b, hb, _, ⟨kilometres, hours, hk, hh, rfl⟩, rfl⟩
    · rintro hall n ⟨a, ha, b, hb, c, ⟨kilometres, hours, hk, hh, rfl⟩, rfl⟩
      exact hall a ha b hb kilometres hours hk hh
  unfold flatDistances flatDurations
  constructor
  · rw [faithful_flat_iff ((hcells _).mpr fun _ _ _ _ _ _ _ _ => Binary64.toCount64_le _ _), hcells]
    simp only [metres, Binary64.le_toCount64_iff]
  · rw [faithful_flat_iff ((hcells _).mpr fun _ _ _ _ _ _ _ _ => Binary64.toCount64_le _ _), hcells]
    simp only [seconds, Binary64.le_toCount64_iff]

end Matrices

namespace TravelTable

open Matrices (Faithful)
open Binary64 (signedLimit)

variable {travel : List TravelRow} {speed : Float} {places : List Location} {m : Matrices}
  {a b : Location} {kilometres hours : Float}

/-- Between located places, the provider answers with the costs of the way. -/
theorem provider_eq_ok_iff (ha : a.Located) (hb : b.Located) :
    (ofRows travel speed).provider.distance a b = .ok kilometres ∧
        (ofRows travel speed).provider.duration a b = .ok hours ↔
      Costs travel speed a b kilometres hours := by
  have hlocated : Costs travel speed a b kilometres hours ↔
      (ofRows travel speed).leg a b = .ok ⟨kilometres, hours⟩ := by
    rw [leg_eq_ok_iff_costs, and_iff_right ⟨ha, hb⟩]
  rw [hlocated]
  constructor
  · rintro ⟨hk, hh⟩
    obtain ⟨leg, hleg, rfl⟩ := map_eq_ok_iff.mp hk
    obtain ⟨leg', hleg', rfl⟩ := map_eq_ok_iff.mp hh
    obtain rfl : leg = leg' := Except.ok.inj (hleg.symm.trans hleg')
    exact hleg
  · intro hleg
    exact ⟨map_eq_ok_iff.mpr ⟨_, hleg, rfl⟩, map_eq_ok_iff.mpr ⟨_, hleg, rfl⟩⟩

/-- **When the solver sees no negative cost.** Where there are matrices of a travel table, distances
are passed on without negative entries and in their order exactly if no way between the places comes
to `2 ^ 63` metres; times likewise, if none comes to `2 ^ 63` seconds. An entry is negative exactly
if its own way does. -/
theorem entries_faithful_iff
    (h : Matrices.ofProvider (ofRows travel speed).provider places = .ok m) :
    (Faithful m.distances m.flatDistances ↔ ∀ a ∈ places, ∀ b ∈ places, ∀ kilometres hours,
      Costs travel speed a b kilometres hours → ¬ signedLimit ≤ kilometres * 1000.0) ∧
    (Faithful m.durations m.flatDurations ↔ ∀ a ∈ places, ∀ b ∈ places, ∀ kilometres hours,
      Costs travel speed a b kilometres hours → ¬ signedLimit ≤ hours * 3600.0) ∧
    ∀ (i j : Nat) (a b : Location), places[i]? = some a → places[j]? = some b →
      ∀ kilometres hours, Costs travel speed a b kilometres hours →
        ∃ distance duration, m.flatDistances[i * places.length + j]? = some distance ∧
          m.flatDurations[i * places.length + j]? = some duration ∧
          (distance < 0 ↔ signedLimit ≤ kilometres * 1000.0) ∧
          (duration < 0 ↔ signedLimit ≤ hours * 3600.0) := by
  obtain ⟨hdistances, hdurations⟩ := Matrices.faithful_ofProvider_iff h
  have hlocated : ∀ l ∈ places, l.Located := fun l hl =>
    (exists_matrices_iff.mp ⟨m, h⟩ l hl l hl).1.1
  have hcosts : ∀ {P : Float → Float → Prop}, (∀ a ∈ places, ∀ b ∈ places, ∀ kilometres hours,
      (ofRows travel speed).provider.distance a b = .ok kilometres →
        (ofRows travel speed).provider.duration a b = .ok hours → P kilometres hours) ↔
      ∀ a ∈ places, ∀ b ∈ places, ∀ kilometres hours, Costs travel speed a b kilometres hours →
        P kilometres hours := by
    intro P
    refine forall₂_congr fun a ha => forall₂_congr fun b hb => forall₂_congr fun k t => ?_
    rw [← provider_eq_ok_iff (hlocated a ha) (hlocated b hb), and_imp]
  refine ⟨hdistances.trans hcosts, hdurations.trans hcosts, ?_⟩
  intro i j a b ha hb kilometres hours hway
  obtain ⟨hk, hh⟩ := (provider_eq_ok_iff (hlocated a (List.mem_of_getElem? ha))
    (hlocated b (List.mem_of_getElem? hb))).mpr hway
  obtain ⟨kilometres', hours', hk', hh', hdistance, hduration⟩ :=
    Matrices.entry_of_ofProvider h ha hb
  obtain rfl : kilometres = kilometres' := Except.ok.inj (hk.symm.trans hk')
  obtain rfl : hours = hours' := Except.ok.inj (hh.symm.trans hh')
  have hentry : ∀ x : Float,
      Binary64.wrapSigned (Binary64.toCount64 .halfAway x) < 0 ↔ signedLimit ≤ x := fun x => by
    rw [Binary64.wrapSigned_neg_iff (Binary64.toCount64_le _ _), Binary64.le_toCount64_iff]
  exact ⟨_, _, hdistance, hduration, hentry _, hentry _⟩

/-- Nothing but what the rows say is driven. -/
theorem kilometres_of_costs (h : Costs travel speed a b kilometres hours) :
    kilometres = 0.0 ∨ ∃ row ∈ travel, row.kilometres = kilometres := by
  cases h with
  | timed last =>
    obtain ⟨before, after, rfl, -⟩ := last
    exact Or.inr ⟨_, List.mem_append_right before (List.mem_cons_self ..), rfl⟩
  | driven last =>
    obtain ⟨before, after, rfl, -⟩ := last
    exact Or.inr ⟨_, List.mem_append_right before (List.mem_cons_self ..), rfl⟩
  | nothing => exact Or.inl rfl

/-- A way of about a thousand light years, driven at half a kilometre an hour, and the way back. -/
def slowDrive : List TravelRow := [⟨1, 2, 9.2e15, none⟩, ⟨2, 1, 60.0, some 7200000⟩]

/-- Its metres fit, and its seconds do not. -/
theorem entries_faithful_slowDrive :
    ∃ m, Matrices.ofProvider (ofRows slowDrive 0.5).provider
        [locatedAt 1 "H", locatedAt 2 "X"] = .ok m ∧
      Faithful m.distances m.flatDistances ∧ ¬ Faithful m.durations m.flatDurations ∧
      m.flatDistances = [0, 9200000000000000000, 60000, 0] ∧ m.flatDurations = [0, -1, 7200, 0] := by
  have hmade : Matrices.ofProvider (ofRows slowDrive 0.5).provider
      [locatedAt 1 "H", locatedAt 2 "X"] =
        .ok ⟨[[0, 9200000000000000000], [60000, 0]], [[0, count64Max], [7200, 0]]⟩ := by
    decide +kernel
  obtain ⟨hdistances, hdurations, -⟩ := entries_faithful_iff hmade
  have hlast : LastRow slowDrive (locatedAt 1 "H") (locatedAt 2 "X") ⟨1, 2, 9.2e15, none⟩ := by
    refine ⟨[], [⟨2, 1, 60.0, some 7200000⟩], rfl, ⟨rfl, rfl⟩, ?_⟩
    rintro ⟨row, hrow, horigin, -⟩
    obtain rfl := List.mem_singleton.mp hrow
    exact absurd horigin (by decide)
  refine ⟨_, hmade, hdistances.mpr ?_, fun hfaithful => ?_, by decide, by decide⟩
  · intro a _ b _ kilometres hours hway
    rcases kilometres_of_costs hway with rfl | ⟨row, hrow, rfl⟩
    · decide +kernel
    · have hshort : ∀ row ∈ slowDrive, ¬ signedLimit ≤ row.kilometres * 1000.0 := by
        decide +kernel
      exact hshort row hrow
  · exact hdurations.mp hfaithful (locatedAt 1 "H") (by simp) (locatedAt 2 "X") (by simp) _ _
      (.driven hlast rfl) (by decide +kernel)

/-- A travel table as it is read from a file. -/
def farTable : List UInt8 :=
  "from_id,to_id,distance_km,tat_ms\n1,2,1e16,\n2,1,60,7200000\n".toUTF8.toList

/-- **The solver can be given a negative distance**, from a table that is read without a fault, and
the longest way then has the smallest entry. -/
theorem entries_negative_far :
    ∃ travel m, (TravelRow.readTable farTable).result = .ok travel ∧ (0.0 : Float) < 30.0 ∧
      Matrices.ofProvider (ofRows travel 30.0).provider [locatedAt 1 "H", locatedAt 2 "X"] =
        .ok m ∧
      m.distances.flatten = [0, 10000000000000000000, 60000, 0] ∧
      m.flatDistances = [0, -8446744073709551616, 60000, 0] ∧
      ¬ Faithful m.distances m.flatDistances := by
  have hcomputed : ((TravelRow.readTable farTable).result.toOption.bind fun travel =>
      (Matrices.ofProvider (ofRows travel 30.0).provider
        [locatedAt 1 "H", locatedAt 2 "X"]).toOption) =
      some ⟨[[0, 10000000000000000000], [60000, 0]], [[0, 1200000000000000000], [7200, 0]]⟩ := by
    decide +kernel
  have hok : ∀ {ε α : Type} {x : Except ε α} {result : α}, x.toOption = some result →
      x = .ok result := by
    rintro ε α (fault | result) _ ⟨⟩
    rfl
  obtain ⟨travel, htravel, hmade⟩ := Option.bind_eq_some_iff.mp hcomputed
  refine ⟨travel, _, hok htravel, by decide +kernel, hok hmade, rfl, by decide, ?_⟩
  rintro ⟨hnonneg, -⟩
  exact absurd (hnonneg (-8446744073709551616) (by decide)) (by decide)

end TravelTable
end HubDispatch
