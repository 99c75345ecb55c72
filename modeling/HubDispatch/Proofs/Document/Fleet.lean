import HubDispatch.Proofs.Document.Problem
import HubDispatch.Proofs.Sweep.Pool

/-!
# The vehicle types of a document

Vehicles are put one by one into groups that stand in the order of their type ids. A vehicle joins
the group of its type id or opens one where it belongs (`cases_of_mem_insert`), so at every time the
groups hold the vehicles put in so far, each group those of its type id in their order (`Sorts`).

A type id stands for one fleet type and one home. What a vehicle type says of its vehicles is read
off the first of them, and capacity, cost and home are the same for all, for they come from fleet
type and home (`VehicleType.IsFor`). When the vehicles leave home is another matter. For vehicles
that are offered to a cluster it is the same for all of them, and their ids tell fleet types and
homes apart as well; so the first vehicle with a listed id is one of the listed kind, though a fleet
with a repeated type has several vehicles of that id (`ofProblem_vehicleTypes`).
-/

namespace HubDispatch
namespace Document

namespace VehicleGroup

variable {v : Vehicle} {g : VehicleGroup} {groups : List VehicleGroup} {vehicles : List Vehicle}

/-- Groups in the order of their type ids, no two of one type id. -/
def Ascending (groups : List VehicleGroup) : Prop :=
  groups.Pairwise fun g h => g.typeId < h.typeId

/-! ## One vehicle -/

/-- **What a vehicle that is put in changes.** Groups of other type ids stay as they are. The group
of its own holds it behind what it held before, or is opened for it if there was none. -/
theorem cases_of_mem_insert (hgroups : Ascending groups) (h : g ∈ insert v groups) :
    g ∈ groups ∧ g.typeId ≠ v.typeId ∨
      (∃ old ∈ groups, old.typeId = v.typeId ∧ ⟨old.first, old.rest ++ [v]⟩ = g) ∨
      (∀ old ∈ groups, old.typeId ≠ v.typeId) ∧ ⟨v, []⟩ = g := by
  induction groups with
  | nil =>
    obtain rfl := List.mem_singleton.mp h
    exact Or.inr (Or.inr ⟨nofun, rfl⟩)
  | cons head groups ih =>
    obtain ⟨hhead, hgroups⟩ := List.pairwise_cons.mp hgroups
    rw [insert] at h
    split at h
    · rename_i hsame
      rcases List.mem_cons.mp h with rfl | h
      · exact Or.inr (Or.inl ⟨head, List.mem_cons_self .., hsame.symm, rfl⟩)
      · refine Or.inl ⟨List.mem_cons_of_mem _ h, fun he => ?_⟩
        have hlt := hhead g h
        rw [he, hsame] at hlt
        exact String.lt_irrefl _ hlt
    · rename_i hother
      split at h
      · rename_i hbefore
        have hnone : ∀ old ∈ head :: groups, old.typeId ≠ v.typeId := by
          intro old hold he
          rcases List.mem_cons.mp hold with rfl | hold
          · exact hother he.symm
          · have hlt := String.lt_trans hbefore (hhead old hold)
            rw [he] at hlt
            exact String.lt_irrefl _ hlt
        rcases List.mem_cons.mp h with rfl | h
        · exact Or.inr (Or.inr ⟨hnone, rfl⟩)
        · exact Or.inl ⟨h, hnone g h⟩
      · rcases List.mem_cons.mp h with rfl | h
        · exact Or.inl ⟨List.mem_cons_self .., fun he => hother he.symm⟩
        · rcases ih hgroups h with ⟨hg, hne⟩ | ⟨old, hold, hsame, rfl⟩ | ⟨hnone, rfl⟩
          · exact Or.inl ⟨List.mem_cons_of_mem _ hg, hne⟩
          · exact Or.inr (Or.inl ⟨old, List.mem_cons_of_mem _ hold, hsame, rfl⟩)
          · refine Or.inr (Or.inr ⟨List.forall_mem_cons.mpr ⟨?_, hnone⟩, rfl⟩)
            exact fun he => hother he.symm

/-- The groups keep their order. -/
theorem ascending_insert (hgroups : Ascending groups) (v : Vehicle) :
    Ascending (insert v groups) := by
  induction groups with
  | nil => exact List.pairwise_singleton _ _
  | cons head groups ih =>
    obtain ⟨hhead, htail⟩ := List.pairwise_cons.mp hgroups
    rw [insert]
    split
    · exact List.pairwise_cons.mpr ⟨hhead, htail⟩
    · rename_i hother
      split
      · rename_i hbefore
        refine List.pairwise_cons.mpr ⟨?_, hgroups⟩
        intro old hold
        rcases List.mem_cons.mp hold with rfl | hold
        · exact hbefore
        · exact String.lt_trans hbefore (hhead old hold)
      · rename_i hnot
        -- Neither the same nor before, so behind.
        have hbehind : head.typeId < v.typeId := by
          by_contra hle
          exact hother (String.le_antisymm (String.not_lt.mp hle) (String.not_lt.mp hnot))
        refine List.pairwise_cons.mpr ⟨fun g hg => ?_, ih htail⟩
        rcases exists_typeId_insert_iff.mp ⟨g, hg, rfl⟩ with hnew | ⟨old, hold, hsame⟩
        · rw [← hnew]
          exact hbehind
        · rw [← hsame]
          exact hhead old hold

/-- No vehicle is lost, and none comes twice. -/
theorem flatMap_vehicles_insert_perm (v : Vehicle) (groups : List VehicleGroup) :
    ((insert v groups).flatMap VehicleGroup.vehicles).Perm
      (groups.flatMap VehicleGroup.vehicles ++ [v]) := by
  induction groups with
  | nil => exact List.Perm.refl _
  | cons head groups ih =>
    rw [insert]
    split
    · have hjoined : (⟨head.first, head.rest ++ [v]⟩ : VehicleGroup).vehicles =
          head.vehicles ++ [v] := rfl
      rw [List.flatMap_cons, List.flatMap_cons, hjoined, List.append_assoc, List.append_assoc]
      exact List.perm_append_comm.append_left _
    · split
      · exact (List.perm_append_singleton v _).symm
      · rw [List.flatMap_cons, List.flatMap_cons, List.append_assoc]
        exact ih.append_left _

/-! ## All vehicles -/

/-- The groups hold the vehicles, each group those of its type id in their order. -/
structure Sorts (vehicles : List Vehicle) (groups : List VehicleGroup) : Prop where
  ascending : Ascending groups
  exists_group : ∀ v ∈ vehicles, ∃ g ∈ groups, g.typeId = v.typeId
  vehicles_eq : ∀ g ∈ groups, g.vehicles = vehicles.filter (·.typeId = g.typeId)

/-- One more vehicle is sorted in. -/
theorem Sorts.insert (h : Sorts vehicles groups) (v : Vehicle) :
    Sorts (vehicles ++ [v]) (insert v groups) := by
  refine ⟨ascending_insert h.ascending v, fun w hw => ?_, fun g hg => ?_⟩
  · rcases List.mem_append.mp hw with hw | hw
    · exact exists_typeId_insert_iff.mpr (Or.inr (h.exists_group w hw))
    · obtain rfl := List.mem_singleton.mp hw
      exact exists_typeId_insert_iff.mpr (Or.inl rfl)
  · rw [List.filter_append]
    rcases cases_of_mem_insert h.ascending hg with ⟨hold, hne⟩ | ⟨old, hold, hsame, rfl⟩ |
      ⟨hnone, rfl⟩
    · rw [h.vehicles_eq g hold, List.filter_singleton, decide_eq_false hne.symm]
      simp
    · have hjoined : (⟨old.first, old.rest ++ [v]⟩ : VehicleGroup).vehicles =
          old.vehicles ++ [v] := rfl
      have hkept : (⟨old.first, old.rest ++ [v]⟩ : VehicleGroup).typeId = old.typeId := rfl
      rw [hjoined, hkept, h.vehicles_eq old hold, List.filter_singleton, decide_eq_true hsame.symm]
      simp
    · -- A group is opened only if none of the vehicles before is of its type id.
      have hfirst : vehicles.filter (·.typeId = v.typeId) = [] := by
        refine List.filter_eq_nil_iff.mpr fun w hw he => ?_
        obtain ⟨g, hg, hid⟩ := h.exists_group w hw
        exact hnone g hg (hid.trans (of_decide_eq_true he))
      have hopened : (⟨v, []⟩ : VehicleGroup).typeId = v.typeId := rfl
      rw [hopened, hfirst, List.filter_singleton, decide_eq_true rfl]
      rfl

/-- **The groups of some vehicles** hold them by type id. -/
theorem sorts_ofVehicles (vehicles : List Vehicle) : Sorts vehicles (ofVehicles vehicles) := by
  induction vehicles using List.reverseRecOn with
  | nil => exact ⟨List.Pairwise.nil, nofun, nofun⟩
  | append_singleton vehicles v ih =>
    rw [ofVehicles_append_singleton]
    exact ih.insert v

theorem flatMap_vehicles_ofVehicles_perm (vehicles : List Vehicle) :
    ((ofVehicles vehicles).flatMap VehicleGroup.vehicles).Perm vehicles := by
  induction vehicles using List.reverseRecOn with
  | nil => exact List.Perm.nil
  | append_singleton vehicles v ih =>
    rw [ofVehicles_append_singleton]
    exact (flatMap_vehicles_insert_perm v _).trans (ih.append_right [v])

end VehicleGroup

/-! ## Vehicle types -/

variable {p : Problem} {date : Date} {d : ProblemDocument}

/-- The type lists the vehicles of one fleet type and one home, in the order of the problem, and
says of them what is known from fleet type and home. -/
structure VehicleType.IsFor (p : Problem) (fleet : FleetType) (home : LocationCode)
    (t : VehicleType) : Prop where
  typeId : t.typeId = fleet.name ++ "@" ++ home
  vehicleIds : t.vehicleIds =
    (p.vehicles.filter fun v => v.fleet = fleet ∧ v.home = home).map (·.id)
  capacity : t.capacity = fleet.capacity
  costPerMetre : t.costPerMetre = fleet.costPerKilometre / 1000.0
  start : p.locationIndex home = .ok t.start.location

/-- The shift of the type is that of the vehicle: it begins when the vehicle may leave home, and
ends at home a day after the last delivery, if the vehicle returns at all. -/
structure VehicleType.HasShiftOf (p : Problem) (date : Date) (v : Vehicle) (t : VehicleType) :
    Prop where
  start : Timestamp.of date v.earliestStart = .ok t.start.time
  finish : if v.returnToDepot then ∃ time, Timestamp.of date (horizon p) = .ok time ∧
    t.finish = some ⟨time, t.start.location⟩ else t.finish = none

/-- What the vehicle type of a group says is read off its first vehicle. -/
theorem of_vehicleType {g : VehicleGroup} {t : VehicleType} (h : vehicleType p date g = .ok t) :
    t.typeId = g.typeId ∧ t.vehicleIds = g.vehicles.map (·.id) ∧
      t.capacity = g.first.fleet.capacity ∧
      t.costPerMetre = g.first.fleet.costPerKilometre / 1000.0 ∧
      p.locationIndex g.first.home = .ok t.start.location ∧ t.HasShiftOf p date g.first := by
  simp only [vehicleType, bind_eq_ok_iff (x := planned _), bind_eq_ok_iff (x := Timestamp.of _ _),
    planned_eq_ok_iff] at h
  obtain ⟨i, hi, start, hstart, h⟩ := h
  cases hreturns : g.first.returnToDepot with
  | false =>
    rw [hreturns] at h
    cases h
    refine ⟨rfl, rfl, rfl, rfl, hi, hstart, ?_⟩
    rw [hreturns]
    rfl
  | true =>
    rw [hreturns] at h
    obtain ⟨time, htime, h⟩ := bind_eq_ok_iff.mp h
    cases h
    refine ⟨rfl, rfl, rfl, rfl, hi, hstart, ?_⟩
    rw [hreturns]
    exact ⟨time, htime, rfl⟩

/-- The group of a vehicle makes a type for fleet type and home of that vehicle. -/
theorem isFor_of_vehicleType {g : VehicleGroup} {t : VehicleType}
    (hg : g ∈ VehicleGroup.ofVehicles p.vehicles) (h : vehicleType p date g = .ok t) :
    t.IsFor p g.first.fleet g.first.home := by
  obtain ⟨hid, hvehicles, hcapacity, hcost, hstart, -⟩ := of_vehicleType h
  refine ⟨hid, ?_, hcapacity, hcost, hstart⟩
  rw [hvehicles, (VehicleGroup.sorts_ofVehicles p.vehicles).vehicles_eq g hg]
  refine congrArg (List.map _) (List.filter_congr fun v _ => decide_eq_decide.mpr ?_)
  exact Vehicle.typeId_eq_iff

/-- The types stand in the order of their ids, each for one fleet type and one home; every vehicle
stands under that of its own, and under no other. -/
structure Partitions (p : Problem) (types : List VehicleType) : Prop where
  ascending : types.Pairwise fun t u => t.typeId < u.typeId
  isFor : ∀ t ∈ types, ∃ fleet home, t.IsFor p fleet home
  exists_isFor : ∀ v ∈ p.vehicles, ∃ t ∈ types, t.IsFor p v.fleet v.home
  perm : (types.flatMap (·.vehicleIds)).Perm (p.vehicles.map (·.id))

/-- **The types of a document** are a partition of the vehicles. -/
theorem partitions_of_ofProblem (h : ofProblem p date = .ok d) : Partitions p d.vehicleTypes := by
  obtain ⟨-, hmade⟩ := ofProblem_eq_ok_iff.mp h
  have hsorts := VehicleGroup.sorts_ofVehicles p.vehicles
  refine ⟨?_, fun t ht => ?_, fun v hv => ?_, ?_⟩
  · have hids : (VehicleGroup.ofVehicles p.vehicles).map VehicleGroup.typeId =
        d.vehicleTypes.map (·.typeId) := by
      rw [← List.forall₂_eq_eq_eq, List.forall₂_map_left_iff, List.forall₂_map_right_iff]
      exact hmade.imp fun g t ht => (of_vehicleType ht).1.symm
    have hascending := List.pairwise_map.mpr hsorts.ascending
    rw [hids] at hascending
    exact List.pairwise_map.mp hascending
  · obtain ⟨g, hg, ht⟩ := exists_of_mem_right hmade ht
    exact ⟨_, _, isFor_of_vehicleType hg ht⟩
  · obtain ⟨g, hg, hid⟩ := hsorts.exists_group v hv
    obtain ⟨t, ht, hgt⟩ := exists_of_mem_right hmade.flip hg
    obtain ⟨hfleet, hhome⟩ := Vehicle.typeId_eq_iff.mp hid
    rw [← hfleet, ← hhome]
    exact ⟨t, ht, isFor_of_vehicleType hg hgt⟩
  · have hlists : (VehicleGroup.ofVehicles p.vehicles).map (fun g => g.vehicles.map (·.id)) =
        d.vehicleTypes.map (·.vehicleIds) := by
      rw [← List.forall₂_eq_eq_eq, List.forall₂_map_left_iff, List.forall₂_map_right_iff]
      exact hmade.imp fun g t ht => (of_vehicleType ht).2.1.symm
    rw [List.flatMap_def, ← hlists, ← List.flatMap_def, ← List.map_flatMap]
    exact (VehicleGroup.flatMap_vehicles_ofVehicles_perm p.vehicles).map _

/-! ## Vehicles that are offered to a cluster -/

section Offer

variable {cluster : Cluster} {settings : SweepSettings} {v w : Vehicle}

theorem exists_vehicle_of_mem_vehiclesOf (h : v ∈ vehiclesOf cluster settings) :
    ∃ n, v = settings.vehicle v.home v.fleet n := by
  simp only [vehiclesOf_eq, SweepSettings.group, List.mem_flatMap, List.mem_map] at h
  obtain ⟨home, -, fleet, -, n, -, rfl⟩ := h
  exact ⟨n + 1, rfl⟩

/-- Offered vehicles of one id are the same. -/
theorem eq_of_id_eq (hv : v ∈ vehiclesOf cluster settings) (hw : w ∈ vehiclesOf cluster settings)
    (h : v.id = w.id) : v = w := by
  obtain ⟨n, hv⟩ := exists_vehicle_of_mem_vehiclesOf hv
  obtain ⟨m, hw⟩ := exists_vehicle_of_mem_vehiclesOf hw
  rw [hv, hw, SweepSettings.vehicle_id_eq_iff] at h
  obtain ⟨hfleet, rfl, hhome⟩ := h
  rw [hv, hw, hfleet, hhome]

/-- They all leave home at the same time, and return. -/
theorem hasShiftOf_of_mem_vehiclesOf {t : VehicleType} (hv : v ∈ vehiclesOf cluster settings)
    (hw : w ∈ vehiclesOf cluster settings) (h : t.HasShiftOf p date v) : t.HasShiftOf p date w := by
  obtain ⟨n, hv⟩ := exists_vehicle_of_mem_vehiclesOf hv
  obtain ⟨m, hw⟩ := exists_vehicle_of_mem_vehiclesOf hw
  have hstart : v.earliestStart = w.earliestStart := by rw [hv, hw]; rfl
  have hreturn : v.returnToDepot = w.returnToDepot := by rw [hv, hw]; rfl
  refine ⟨?_, ?_⟩
  · rw [← hstart]
    exact h.start
  · rw [← hreturn]
    exact h.finish

/-- The vehicle with an offered id is the one that was offered. -/
theorem vehicle?_id (hvehicles : p.vehicles = vehiclesOf cluster settings) (hv : v ∈ p.vehicles) :
    p.vehicle? v.id = some v := by
  obtain ⟨w, hw⟩ : ∃ w, p.vehicle? v.id = some w := by
    rw [← Option.isSome_iff_exists, Problem.vehicle?, List.find?_isSome]
    exact ⟨v, hv, beq_self_eq_true v.id⟩
  have hfound : p.vehicles.find? (fun w => w.id == v.id) = some w := hw
  have hid := List.find?_some hfound
  have hmem : w ∈ p.vehicles := List.mem_of_find?_eq_some hfound
  rw [hw, eq_of_id_eq (hvehicles ▸ hmem) (hvehicles ▸ hv) (eq_of_beq hid)]

end Offer

/-- **The vehicle types of a document.** They partition the vehicles of the problem by fleet type
and home. If these are the vehicles that are offered to a cluster, each type has the shift of every
vehicle in it, and whatever vehicle an id of a type leads to is of the fleet type and at the home
that the type is for. -/
theorem ofProblem_vehicleTypes (h : ofProblem p date = .ok d) :
    Partitions p d.vehicleTypes ∧
      ∀ cluster settings, p.vehicles = vehiclesOf cluster settings →
        ∀ t ∈ d.vehicleTypes, ∀ fleet home, t.IsFor p fleet home →
          (∀ v ∈ p.vehicles, v.fleet = fleet → v.home = home → t.HasShiftOf p date v) ∧
            ∀ id ∈ t.vehicleIds, ∃ v, p.vehicle? id = some v ∧ v.fleet = fleet ∧ v.home = home := by
  refine ⟨partitions_of_ofProblem h, fun cluster settings hvehicles t ht fleet home hfor => ?_⟩
  obtain ⟨-, hmade⟩ := ofProblem_eq_ok_iff.mp h
  obtain ⟨g, hg, htype⟩ := exists_of_mem_right hmade ht
  obtain ⟨-, -, -, -, -, hshift⟩ := of_vehicleType htype
  have hfirst : g.first ∈ vehiclesOf cluster settings :=
    hvehicles ▸ VehicleGroup.first_mem hg
  refine ⟨fun v hv _ _ => hasShiftOf_of_mem_vehiclesOf hfirst (hvehicles ▸ hv) hshift, ?_⟩
  intro id hid
  rw [hfor.vehicleIds] at hid
  obtain ⟨v, hv, rfl⟩ := List.mem_map.mp hid
  obtain ⟨hv, hkind⟩ := List.mem_filter.mp hv
  exact ⟨v, vehicle?_id hvehicles hv, of_decide_eq_true hkind⟩

/-- Freight to a branch, for a fleet that has its only type twice. -/
def doubledFleet : Problem where
  shipments := [⟨⟨"H", "X", 1⟩, 40, ⟨5.0, 14.0⟩, ⟨0.0, 14.0⟩, 0.0, 1.0⟩]
  vehicles := vehiclesOf ⟨"H", ["H", "X"]⟩
    { SweepSettings.standard with fleet := [.feet14, .feet14], vehiclesPerType := 2 }
  locations := ["X", "H"]
  matrices := .empty

/-- Two types of four vehicles each, that have two ids; the second id at the branch leads to a
vehicle at the branch. -/
theorem ofProblem_vehicleTypes_doubledFleet :
    ∃ d, ofProblem doubledFleet ⟨2026, 1, 26⟩ = .ok d ∧
      d.vehicleTypes.map (fun t => (t.typeId, t.vehicleIds)) =
        [("14_Feet@H", ["14_Feet_1-H", "14_Feet_2-H", "14_Feet_1-H", "14_Feet_2-H"]),
          ("14_Feet@X", ["14_Feet_1-X", "14_Feet_2-X", "14_Feet_1-X", "14_Feet_2-X"])] ∧
      Partitions doubledFleet d.vehicleTypes ∧
      ∃ t ∈ d.vehicleTypes, t.IsFor doubledFleet .feet14 "X" ∧
        (∀ v ∈ doubledFleet.vehicles, v.fleet = .feet14 → v.home = "X" →
          t.HasShiftOf doubledFleet ⟨2026, 1, 26⟩ v) ∧
        ∃ v, doubledFleet.vehicle? "14_Feet_2-X" = some v ∧ v.fleet = .feet14 ∧ v.home = "X" := by
  have hmade : (ofProblem doubledFleet ⟨2026, 1, 26⟩).map
      (fun d => d.vehicleTypes.map fun t => (t.typeId, t.vehicleIds)) = .ok
        [("14_Feet@H", ["14_Feet_1-H", "14_Feet_2-H", "14_Feet_1-H", "14_Feet_2-H"]),
          ("14_Feet@X", ["14_Feet_1-X", "14_Feet_2-X", "14_Feet_1-X", "14_Feet_2-X"])] := by
    decide +kernel
  cases hd : ofProblem doubledFleet ⟨2026, 1, 26⟩ with
  | error failure =>
    rw [hd] at hmade
    cases hmade
  | ok d =>
    rw [hd] at hmade
    obtain ⟨hpartitions, hoffer⟩ := ofProblem_vehicleTypes hd
    obtain ⟨t, ht, hfor⟩ := hpartitions.exists_isFor ⟨"14_Feet_2-X", .feet14, "X", 0.0, true⟩
      (List.mem_of_getElem? (i := 5) rfl)
    obtain ⟨hshift, hlookup⟩ := hoffer _ _ rfl t ht _ _ hfor
    refine ⟨d, rfl, Except.ok.inj hmade, hpartitions, t, ht, hfor, hshift, hlookup _ ?_⟩
    rw [hfor.vehicleIds]
    decide +kernel

end Document
end HubDispatch
