import HubDispatch.Proofs.CommandLine.Acceptance
import HubDispatch.Proofs.Decimal.Spelling
import HubDispatch.Proofs.Sweep.Building
import HubDispatch.Proofs.Sweep.Pool
import HubDispatch.Travel.Matrices
import Mathlib.Order.Bounds.Basic

/-!
# Settings that a sweep can use

Variables that are accepted give a fleet with a largest capacity, and a vehicle of that capacity
for every member of a cluster. The speed is only asked not to be at most zero. What is not a number
is not at most zero either, and there is a spelling of it: the speed is above zero exactly if its
variable has none of these spellings (`ofVariables_usable_iff`).

A speed that is not a number is never noticed. What is driven at it takes no time
(`seconds_of_nan_speed`).
-/

namespace HubDispatch

open Binary64 (Exact)
open Decimal (SpellsNaN)

/-- There is a vehicle of every type of the fleet at every member. -/
theorem exists_mem_vehiclesOf {cluster : Cluster} {settings : SweepSettings} {home : LocationCode}
    {t : FleetType} (hhome : home ∈ cluster.members) (ht : t ∈ settings.fleet)
    (hpos : 0 < settings.vehiclesPerType) :
    ∃ v ∈ vehiclesOf cluster settings, v.home = home ∧ v.fleet = t := by
  refine ⟨settings.vehicle home t 1, ?_, rfl, rfl⟩
  have hfirst : settings.vehicle home t 1 ∈ settings.group home t :=
    List.mem_map.mpr ⟨0, List.mem_range.mpr hpos, rfl⟩
  rw [vehiclesOf_eq]
  exact List.mem_flatMap.mpr ⟨home, hhome, List.mem_flatMap.mpr ⟨t, ht, hfirst⟩⟩

/-- What is driven at a speed that is not a number takes no time. -/
theorem seconds_of_nan_speed {speed : Float} {row : TravelRow}
    (hspeed : Exact.ofFloat speed = .nan) (hrow : row.millis = none) :
    Matrices.seconds (TravelTable.legOf speed row).hours = 0 := by
  have hhours : (TravelTable.legOf speed row).hours = row.kilometres / speed := by
    rw [TravelTable.legOf, hrow]
  rw [hhours, Matrices.seconds, Binary64.toCount64,
    Exact.ofFloat_mul_of_nan (Exact.ofFloat_div_of_nan hspeed)]
  rfl

theorem SweepSettings.isGreatest_maxCapacity {settings : SweepSettings} {c : Nat}
    (h : settings.maxCapacity? = some c) :
    IsGreatest {c | ∃ t ∈ settings.fleet, t.capacity = c} c := by
  obtain ⟨hmem, hle⟩ := maxCapacity?_eq_some_iff.mp h
  refine ⟨List.mem_map.mp hmem, ?_⟩
  rintro _ ⟨t, ht, rfl⟩
  exact hle t ht

namespace Settings

variable {get : Variables} {settings : Settings} {α : Type}

/-- A number is the default, or what its variable spells. -/
theorem number_eq_ok_iff {read : List Char → Except Decimal.ReadFault α} {name : String}
    {default n : α} :
    number get read name default = .ok n ↔
      (get name = none ∧ default = n) ∨
        ∃ value, get name = some value ∧ read (Text.trimChars value.toList) = .ok n := by
  unfold number
  cases hget : get name with
  | none => simp
  | some value => cases hread : read (Text.trimChars value.toList) <;> simp [hread]

/-- **When an accepted speed is above zero.** -/
theorem averageSpeed_pos_iff (h : ofVariables get = .ok settings) :
    0.0 < settings.averageSpeed ↔
      ∀ value, get "AVG_SPEED_KMPH" = some value → ¬ SpellsNaN (Text.trimChars value.toList) := by
  obtain ⟨-, ⟨hspeed, hnot⟩, -⟩ := parts_of_ofVariables h
  have hzero : Exact.ofFloat 0.0 ≠ .nan := by decide +kernel
  have hpos : 0.0 < settings.averageSpeed ↔ Exact.ofFloat settings.averageSpeed ≠ .nan := by
    constructor
    · intro hlt
      exact (Exact.ne_nan_of_lt hlt).2
    · intro hnumber
      exact (Exact.not_le_iff_lt hnumber hzero).mp hnot
  rw [hpos]
  rcases number_eq_ok_iff.mp hspeed with ⟨hget, hdefault⟩ | ⟨value, hget, hread⟩
  · rw [hget, ← hdefault]
    exact iff_of_true (by decide +kernel) nofun
  · rw [hget, Ne, Decimal.ofFloat_eq_nan_iff hread]
    simp

/-- **What accepted variables are good for.** There is a vehicle of each type and a fleet, demand is
cut to the largest capacity of the fleet, and at every member of a cluster there is a vehicle that
carries as much. The speed is above zero exactly if its variable does not spell not-a-number. -/
theorem ofVariables_usable_iff (h : ofVariables get = .ok settings) :
    (0.0 < settings.averageSpeed ↔
        ∀ value, get "AVG_SPEED_KMPH" = some value →
          ¬ SpellsNaN (Text.trimChars value.toList)) ∧
      1 ≤ settings.vehiclesPerType ∧ settings.fleet ≠ [] ∧
      ∃ c, settings.sweep.maxCapacity? = some c ∧
        IsGreatest {c | ∃ t ∈ settings.fleet, t.capacity = c} c ∧
        ∀ cluster, ∀ home ∈ cluster.members,
          ∃ v ∈ vehiclesOf cluster settings.sweep, v.home = home ∧ v.fleet.capacity = c := by
  have haccepted := accepted_of_ofVariables h
  refine ⟨averageSpeed_pos_iff h, haccepted.vehicles_pos, haccepted.fleet_ne_nil, ?_⟩
  obtain ⟨c, hc⟩ : ∃ c, settings.sweep.maxCapacity? = some c :=
    SweepSettings.exists_maxCapacity? haccepted.fleet_ne_nil
  have hgreatest := SweepSettings.isGreatest_maxCapacity hc
  refine ⟨c, hc, hgreatest, fun cluster home hhome => ?_⟩
  obtain ⟨t, ht, htc⟩ := hgreatest.1
  obtain ⟨v, hv, hvhome, hvt⟩ := exists_mem_vehiclesOf hhome ht haccepted.vehicles_pos
  exact ⟨v, hv, hvhome, by rw [hvt, htc]⟩

/-- The tables, a speed, and two types of vehicles. -/
def variablesDrivenAt (speed : String) : Variables := fun name =>
  [("SALES_PLAN_CSV", "sales.csv"), ("LOCATIONS_CSV", "locations.csv"), ("TATS_CSV", "tats.csv"),
    ("FLEET_TYPES", "14ft,32ft"), ("AVG_SPEED_KMPH", speed)].lookup name

/-- An infinite speed is above zero. -/
theorem ofVariables_usable_infinite :
    ∃ settings, ofVariables (variablesDrivenAt " Infinity ") = .ok settings ∧
      0.0 < settings.averageSpeed ∧ ∃ c, settings.sweep.maxCapacity? = some c ∧
        ∃ v ∈ vehiclesOf ⟨"H", ["H", "X"]⟩ settings.sweep, v.home = "X" ∧ v.fleet.capacity = c := by
  obtain ⟨settings, hsettings⟩ : ∃ settings,
      ofVariables (variablesDrivenAt " Infinity ") = .ok settings := ⟨_, rfl⟩
  obtain ⟨hspeed, -, -, c, hc, -, hvehicles⟩ := ofVariables_usable_iff hsettings
  refine ⟨settings, hsettings, hspeed.mpr ?_, c, hc, hvehicles ⟨"H", ["H", "X"]⟩ "X" (by simp)⟩
  intro value hvalue
  obtain rfl : " Infinity " = value := Option.some.inj hvalue
  decide

/-- **A speed that is not a number is accepted**, and sixty kilometres are driven in no time. -/
theorem ofVariables_speed_nan :
    ∃ settings, ofVariables (variablesDrivenAt "nan") = .ok settings ∧
      ¬ 0.0 < settings.averageSpeed ∧
      Matrices.seconds (TravelTable.legOf settings.averageSpeed ⟨1, 2, 60.0, none⟩).hours = 0 := by
  obtain ⟨settings, hsettings⟩ : ∃ settings,
      ofVariables (variablesDrivenAt "nan") = .ok settings := ⟨_, rfl⟩
  have hspeed : Exact.ofFloat settings.averageSpeed = .nan := by
    obtain ⟨-, ⟨hread, -⟩, -⟩ := parts_of_ofVariables hsettings
    rcases number_eq_ok_iff.mp hread with ⟨hget, -⟩ | ⟨value, hget, hread⟩
    · cases hget
    · obtain rfl : "nan" = value := Option.some.inj hget
      exact (Decimal.ofFloat_eq_nan_iff hread).mpr (by decide)
  refine ⟨settings, hsettings, fun hpos => ?_, seconds_of_nan_speed hspeed rfl⟩
  exact (Exact.ne_nan_of_lt hpos).2 hspeed

end Settings
end HubDispatch
