import HubDispatch.CommandLine.Settings
import HubDispatch.Proofs.Outcome
import Mathlib.Data.List.Nodup

/-!
# Settings that are accepted

What can be relied on once the variables have given settings (`Accepted`). The fleet is what the
items of its variable spell, item by item and repetitions included, or the standard fleet where the
variable is not set; and there is at least one vehicle of each type.
-/

namespace HubDispatch
namespace Settings

variable {get : Variables} {settings : Settings} {fleet : List FleetType} {value : String}

theorem ofText_eq_ok_iff_mapError {item : String} {t : FleetType} :
    (FleetType.ofText item).mapError (fun fault => Failure.because ("FLEET_TYPES: " ++ fault)) =
      .ok t ↔ FleetType.ofText item = .ok t := by
  cases FleetType.ofText item <;> simp [Except.mapError]

/-- **A fleet is read item by item**, and there must be an item. -/
theorem readFleet_eq_ok_iff :
    readFleet value = .ok fleet ↔
      List.Forall₂ (fun item t => FleetType.ofText item = .ok t) (fleetItems value) fleet ∧
        fleet ≠ [] := by
  unfold readFleet
  simp only [bind_eq_ok_iff, mapM_eq_ok_iff, ofText_eq_ok_iff_mapError]
  constructor
  · rintro ⟨read, hread, h⟩
    cases read with
    | nil => cases h
    | cons t read =>
      cases h
      exact ⟨hread, List.cons_ne_nil _ _⟩
  · rintro ⟨hread, hne⟩
    refine ⟨fleet, hread, ?_⟩
    cases fleet with
    | nil => exact absurd rfl hne
    | cons t fleet => rfl

/-- What the settings of accepted variables guarantee. -/
structure Accepted (get : Variables) (settings : Settings) : Prop where
  /-- Without the variable, the fleet is the standard one. -/
  standard : get "FLEET_TYPES" = none → settings.fleet = FleetType.standard
  /-- With the variable, the fleet has the type that each of its items spells. -/
  spelled : ∀ value, get "FLEET_TYPES" = some value →
    List.Forall₂ (fun item t => FleetType.ofText item = .ok t) (fleetItems value) settings.fleet
  fleet_ne_nil : settings.fleet ≠ []
  vehicles_pos : 0 < settings.vehiclesPerType

theorem check_eq_ok_iff {checked : Settings} :
    settings.check = .ok checked ↔
      ¬ settings.averageSpeed ≤ 0.0 ∧ settings.vehiclesPerType ≠ 0 ∧ settings = checked := by
  unfold check
  split
  · rename_i hspeed
    simp [hspeed]
  · rename_i hspeed
    split
    · rename_i hvehicles
      simp [hvehicles]
    · rename_i hvehicles
      simp [hspeed, hvehicles]

/-- Of all that is read from the variables, the fleet, the speed and the number of vehicles. -/
theorem parts_of_ofVariables (h : ofVariables get = .ok settings) :
    (match get "FLEET_TYPES" with
      | some value => readFleet value
      | none => .ok FleetType.standard) = .ok settings.fleet ∧
      (number get Decimal.readFloat "AVG_SPEED_KMPH" 30.0 = .ok settings.averageSpeed ∧
        ¬ settings.averageSpeed ≤ 0.0) ∧ settings.vehiclesPerType ≠ 0 := by
  unfold ofVariables at h
  -- The steps behind the fleet are the same whether its variable is set or not.
  cases hget : get "FLEET_TYPES" <;>
  · simp only [hget, bind_eq_ok_iff, check_eq_ok_iff] at h
    obtain ⟨_, -, _, -, _, -, fleet, hfleet, _, -, _, -, _, -, _, -, speed, hspeed, vehicles, -,
      hpositive, hvehicles, rfl⟩ := h
    exact ⟨hfleet, ⟨hspeed, hpositive⟩, hvehicles⟩

/-- **Variables that are accepted** give settings that can be relied on. -/
theorem accepted_of_ofVariables (h : ofVariables get = .ok settings) : Accepted get settings := by
  obtain ⟨hfleet, -, hvehicles⟩ := parts_of_ofVariables h
  refine ⟨fun hget => ?_, fun value hget => ?_, fun hnil => ?_, Nat.pos_of_ne_zero hvehicles⟩
  · rw [hget] at hfleet
    exact (Except.ok.inj hfleet).symm
  · rw [hget] at hfleet
    exact (readFleet_eq_ok_iff.mp hfleet).1
  · rw [hnil] at hfleet
    cases hget : get "FLEET_TYPES" with
    | none =>
      rw [hget] at hfleet
      cases hfleet
    | some value =>
      rw [hget] at hfleet
      exact (readFleet_eq_ok_iff.mp hfleet).2 rfl

/-- The fleet repeats a type exactly if two items spell the same type. -/
theorem Accepted.nodup_fleet_iff (h : Accepted get settings) :
    settings.fleet.Nodup ↔
      ∀ value, get "FLEET_TYPES" = some value →
        ((fleetItems value).map FleetType.ofText).Nodup := by
  cases hget : get "FLEET_TYPES" with
  | none =>
    rw [h.standard hget]
    exact iff_of_true (by decide) nofun
  | some value =>
    have hspelled : (fleetItems value).map FleetType.ofText = settings.fleet.map .ok := by
      rw [← List.forall₂_eq_eq_eq, List.forall₂_map_left_iff, List.forall₂_map_right_iff]
      exact h.spelled value hget
    have hok : Function.Injective (Except.ok : FleetType → Except String FleetType) := by
      intro t u htu
      exact Except.ok.inj htu
    simp only [Option.some.injEq, forall_eq', hspelled, List.nodup_map_iff hok]

end Settings
end HubDispatch
