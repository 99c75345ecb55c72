import HubDispatch.Proofs.CommandLine.Acceptance
import HubDispatch.Proofs.Fleet.Names
import HubDispatch.Proofs.Network.Membership

/-!
# The pool of vehicles

An optimizer uses every vehicle at most once and knows it by its id alone. A cluster is offered a
group of vehicles for every member and every item of the fleet, numbered from one within the group.
Ids tell member, type and number apart, so vehicles can only be confused between groups of one type
at one member. There are two such groups exactly if the fleet has the type twice: then their ids are
the same, and the member has twice as many vehicles of the type as were asked for.

Nothing keeps the list of types in a variable from spelling a type twice, for each has several
spellings. The offer therefore is a pool (`IsPool`) exactly if this does not happen
(`vehiclesOf_isPool_iff`).
-/

namespace HubDispatch

/-- Of lists put end to end for the elements of a list, `p` holds only in those for `a`. -/
theorem countP_flatMap_of_eq_zero {α β : Type} [DecidableEq α] {p : β → Bool} {f : α → List β}
    {a : α} {xs : List α} (hother : ∀ x, x ≠ a → (f x).countP p = 0) :
    (xs.flatMap f).countP p = xs.count a * (f a).countP p := by
  induction xs with
  | nil => simp
  | cons x xs ih =>
    rw [List.flatMap_cons, List.countP_append, ih]
    by_cases hx : x = a
    · rw [hx, List.count_cons_self, Nat.add_mul, Nat.one_mul, Nat.add_comm]
    · rw [hother x hx, List.count_cons_of_ne hx, Nat.zero_add]

/-- The vehicles can be told apart by their ids, and every member has as many of every active type
as the settings ask for. -/
structure IsPool (cluster : Cluster) (settings : SweepSettings) (vehicles : List Vehicle) :
    Prop where
  distinct : (vehicles.map (·.id)).Nodup
  complete : ∀ home ∈ cluster.members, ∀ t ∈ settings.fleet,
    vehicles.countP (fun v => v.home = home ∧ v.fleet = t) = settings.vehiclesPerType

section Groups

variable {cluster : Cluster} {settings : SweepSettings} {home home' : LocationCode}
  {t u : FleetType}

/-- The vehicles that one item of the fleet brings to a member. -/
def SweepSettings.group (settings : SweepSettings) (home : LocationCode) (t : FleetType) :
    List Vehicle :=
  (List.range settings.vehiclesPerType).map fun n => settings.vehicle home t (n + 1)

/-- The offer, group by group. -/
theorem vehiclesOf_eq (cluster : Cluster) (settings : SweepSettings) :
    vehiclesOf cluster settings =
      cluster.members.flatMap fun home => settings.fleet.flatMap (settings.group home) := rfl

theorem home_and_fleet_of_mem_group {v : Vehicle} (h : v ∈ settings.group home t) :
    v.home = home ∧ v.fleet = t := by
  obtain ⟨n, -, rfl⟩ := List.mem_map.mp h
  exact ⟨rfl, rfl⟩

/-! ## How many there are -/

theorem countP_group_of_ne (h : t ≠ u) :
    (settings.group home t).countP (fun v => v.home = home ∧ v.fleet = u) = 0 := by
  rw [List.countP_eq_zero]
  intro v hv hat
  exact h ((home_and_fleet_of_mem_group hv).2.symm.trans (of_decide_eq_true hat).2)

theorem countP_group_self :
    (settings.group home t).countP (fun v => v.home = home ∧ v.fleet = t) =
      settings.vehiclesPerType := by
  have hall : ∀ v ∈ settings.group home t,
      decide (v.home = home ∧ v.fleet = t) = true := by
    intro v hv
    exact decide_eq_true (home_and_fleet_of_mem_group hv)
  rw [List.countP_eq_length.mpr hall, SweepSettings.group, List.length_map, List.length_range]

/-- **A member has a group of a type for every time that the fleet has the type.** -/
theorem countP_vehiclesOf (hnodup : cluster.members.Nodup) (hhome : home ∈ cluster.members)
    (t : FleetType) :
    (vehiclesOf cluster settings).countP (fun v => v.home = home ∧ v.fleet = t) =
      settings.fleet.count t * settings.vehiclesPerType := by
  have hthere : (settings.fleet.flatMap (settings.group home)).countP
      (fun v => v.home = home ∧ v.fleet = t) =
        settings.fleet.count t * settings.vehiclesPerType := by
    rw [countP_flatMap_of_eq_zero fun u hu => countP_group_of_ne hu, countP_group_self]
  have helsewhere : ∀ home', home' ≠ home →
      (settings.fleet.flatMap (settings.group home')).countP
        (fun v => v.home = home ∧ v.fleet = t) = 0 := by
    intro home' hne
    rw [List.countP_eq_zero]
    intro v hv hat
    obtain ⟨u, -, hv⟩ := List.mem_flatMap.mp hv
    exact hne ((home_and_fleet_of_mem_group hv).1.symm.trans (of_decide_eq_true hat).1)
  rw [vehiclesOf_eq, countP_flatMap_of_eq_zero helsewhere, hthere,
    List.count_eq_one_of_mem hnodup hhome, Nat.one_mul]

/-! ## Their ids -/

/-- The ids of a group. -/
def SweepSettings.groupIds (settings : SweepSettings) (home : LocationCode) (t : FleetType) :
    List String :=
  (settings.group home t).map (·.id)

theorem mem_groupIds_iff {id : String} :
    id ∈ settings.groupIds home t ↔
      ∃ n, n < settings.vehiclesPerType ∧ (settings.vehicle home t (n + 1)).id = id := by
  simp [SweepSettings.groupIds, SweepSettings.group]

theorem nodup_groupIds : (settings.groupIds home t).Nodup := by
  rw [SweepSettings.groupIds, SweepSettings.group, List.map_map]
  refine List.nodup_range.map fun n m h => ?_
  obtain ⟨-, hnumber, -⟩ := SweepSettings.vehicle_id_eq_iff.mp h
  exact Nat.succ.inj hnumber

/-- **Groups share an id** only if they are of one type at one member, and then they do. -/
theorem disjoint_groupIds_iff (hpos : 0 < settings.vehiclesPerType) :
    (settings.groupIds home t).Disjoint (settings.groupIds home' u) ↔ home ≠ home' ∨ t ≠ u := by
  constructor
  · intro hdisjoint
    by_contra hsame
    rw [not_or, not_not, not_not] at hsame
    obtain ⟨rfl, rfl⟩ := hsame
    have hfirst : (settings.vehicle home t 1).id ∈ settings.groupIds home t :=
      mem_groupIds_iff.mpr ⟨0, hpos, rfl⟩
    exact hdisjoint hfirst hfirst
  · intro hne id hid hid'
    obtain ⟨n, -, rfl⟩ := mem_groupIds_iff.mp hid
    obtain ⟨m, -, hsame⟩ := mem_groupIds_iff.mp hid'
    obtain ⟨hfleet, -, hhome⟩ := SweepSettings.vehicle_id_eq_iff.mp hsame
    rcases hne with hne | hne
    · exact hne hhome.symm
    · exact hne hfleet.symm

theorem map_id_vehiclesOf (cluster : Cluster) (settings : SweepSettings) :
    (vehiclesOf cluster settings).map (·.id) =
      cluster.members.flatMap fun home => settings.fleet.flatMap (settings.groupIds home) := by
  rw [vehiclesOf_eq, List.map_flatMap]
  simp only [List.map_flatMap]
  rfl

/-- **The ids are distinct exactly if the fleet has no type twice.** -/
theorem nodup_ids_vehiclesOf_iff (hnodup : cluster.members.Nodup) (hne : cluster.members ≠ [])
    (hpos : 0 < settings.vehiclesPerType) :
    ((vehiclesOf cluster settings).map (·.id)).Nodup ↔ settings.fleet.Nodup := by
  rw [map_id_vehiclesOf, List.nodup_flatMap]
  constructor
  · rintro ⟨hthere, -⟩
    obtain ⟨home, hhome⟩ := List.exists_mem_of_ne_nil _ hne
    obtain ⟨-, hapart⟩ := List.nodup_flatMap.mp (hthere home hhome)
    refine hapart.imp fun {t u} hdisjoint => ?_
    rcases (disjoint_groupIds_iff hpos).mp hdisjoint with hhomes | htypes
    · exact absurd rfl hhomes
    · exact htypes
  · intro hfleet
    refine ⟨fun home _ => ?_, hnodup.imp fun {home home'} hhomes id hid hid' => ?_⟩
    · refine List.nodup_flatMap.mpr ⟨fun t _ => nodup_groupIds, hfleet.imp fun htypes => ?_⟩
      exact (disjoint_groupIds_iff hpos).mpr (Or.inr htypes)
    · obtain ⟨t, -, hid⟩ := List.mem_flatMap.mp hid
      obtain ⟨u, -, hid'⟩ := List.mem_flatMap.mp hid'
      exact (disjoint_groupIds_iff hpos).mpr (Or.inl hhomes) hid hid'

/-- **The offer is a pool exactly if the fleet has no type twice.** -/
theorem isPool_vehiclesOf_iff (hc : cluster.WellFormed) (hpos : 0 < settings.vehiclesPerType) :
    IsPool cluster settings (vehiclesOf cluster settings) ↔ settings.fleet.Nodup := by
  have hids := nodup_ids_vehiclesOf_iff hc.nodup (List.ne_nil_of_mem hc.hub_mem) hpos
  constructor
  · intro hpool
    exact hids.mp hpool.distinct
  · intro hfleet
    refine ⟨hids.mpr hfleet, fun home hhome t ht => ?_⟩
    rw [countP_vehiclesOf hc.nodup hhome, List.count_eq_one_of_mem hfleet ht, Nat.one_mul]

end Groups

/-- **When the offer is a pool.** For variables that are accepted and a cluster that comes from
rows, the vehicles have distinct ids and the right number of each type at each member exactly if no
two items of the list of fleet types spell the same type. Whatever they spell, a member has as many
vehicles of a type as were asked for, once for every item that spells it. -/
theorem vehiclesOf_isPool_iff {V : Type} {get : Settings.Variables} {settings : Settings}
    {rows : List (SalesRow V)} {clusters : List Cluster} {cluster : Cluster}
    (hsettings : Settings.ofVariables get = .ok settings)
    (hclusters : Cluster.ofRows rows = .ok clusters) (hcluster : cluster ∈ clusters) :
    (IsPool cluster settings.sweep (vehiclesOf cluster settings.sweep) ↔
      ∀ value, get "FLEET_TYPES" = some value →
        ((Settings.fleetItems value).map FleetType.ofText).Nodup) ∧
      ∀ home ∈ cluster.members, ∀ t,
        (vehiclesOf cluster settings.sweep).countP (fun v => v.home = home ∧ v.fleet = t) =
          settings.fleet.count t * settings.vehiclesPerType := by
  have haccepted := Settings.accepted_of_ofVariables hsettings
  have hc := Cluster.wellFormed_of_mem_ofRows hclusters hcluster
  have hpos : 0 < settings.sweep.vehiclesPerType := haccepted.vehicles_pos
  refine ⟨?_, fun home hhome t => countP_vehiclesOf hc.nodup hhome t⟩
  rw [isPool_vehiclesOf_iff hc hpos, ← haccepted.nodup_fleet_iff]
  rfl

/-- The tables and a list of fleet types, with two vehicles of each type. -/
def variablesWith (fleet : String) : Settings.Variables := fun name =>
  [("SALES_PLAN_CSV", "sales.csv"), ("LOCATIONS_CSV", "locations.csv"), ("TATS_CSV", "tats.csv"),
    ("FLEET_TYPES", fleet), ("VEHICLES_PER_TYPE", "2")].lookup name

/-- A hub and a branch. -/
def hubAndBranch : List (SalesRow Float) :=
  [⟨some "H", "H", [0.0, 0.5]⟩, ⟨none, "X-1", [0.25, 0.0]⟩]

/-- Two types, each spelled in another way. -/
theorem vehiclesOf_isPool_two_types :
    ∃ settings, Settings.ofVariables (variablesWith " 14_feet,, 32FT") = .ok settings ∧
      Cluster.ofRows hubAndBranch = .ok [⟨"H", ["H", "X-1"]⟩] ∧
      settings.fleet = [.feet14, .feet32] ∧
      IsPool ⟨"H", ["H", "X-1"]⟩ settings.sweep
        (vehiclesOf ⟨"H", ["H", "X-1"]⟩ settings.sweep) := by
  obtain ⟨settings, hsettings, hfleet⟩ : ∃ settings,
      Settings.ofVariables (variablesWith " 14_feet,, 32FT") = .ok settings ∧
        settings.fleet = [.feet14, .feet32] := ⟨_, rfl, rfl⟩
  have hclusters : Cluster.ofRows hubAndBranch = .ok [⟨"H", ["H", "X-1"]⟩] := by rfl
  refine ⟨settings, hsettings, hclusters, hfleet, ?_⟩
  refine (vehiclesOf_isPool_iff hsettings hclusters (List.mem_singleton_self _)).1.mpr ?_
  intro value hvalue
  obtain rfl : " 14_feet,, 32FT" = value := Option.some.inj hvalue
  have hitems : (Settings.fleetItems " 14_feet,, 32FT").map FleetType.ofText =
      [.ok .feet14, .ok .feet32] := by rfl
  rw [hitems]
  simp

/-- **One type in two spellings.** The list is accepted, every id is given twice, and there are four
vehicles of the type at a member where two were asked for. -/
theorem vehiclesOf_one_type_twice :
    ∃ settings, Settings.ofVariables (variablesWith "14_Feet,14ft") = .ok settings ∧
      Cluster.ofRows hubAndBranch = .ok [⟨"H", ["H", "X-1"]⟩] ∧
      settings.vehiclesPerType = 2 ∧
      (vehiclesOf ⟨"H", ["H", "X-1"]⟩ settings.sweep).map (·.id) =
        ["14_Feet_1-H", "14_Feet_2-H", "14_Feet_1-H", "14_Feet_2-H",
          "14_Feet_1-X-1", "14_Feet_2-X-1", "14_Feet_1-X-1", "14_Feet_2-X-1"] ∧
      (vehiclesOf ⟨"H", ["H", "X-1"]⟩ settings.sweep).countP
        (fun v => v.home = "H" ∧ v.fleet = .feet14) = 4 ∧
      ¬ IsPool ⟨"H", ["H", "X-1"]⟩ settings.sweep
        (vehiclesOf ⟨"H", ["H", "X-1"]⟩ settings.sweep) := by
  obtain ⟨settings, hsettings, hvehicles, hids, hcount⟩ : ∃ settings,
      Settings.ofVariables (variablesWith "14_Feet,14ft") = .ok settings ∧
        settings.vehiclesPerType = 2 ∧
        (vehiclesOf ⟨"H", ["H", "X-1"]⟩ settings.sweep).map (·.id) =
          ["14_Feet_1-H", "14_Feet_2-H", "14_Feet_1-H", "14_Feet_2-H",
            "14_Feet_1-X-1", "14_Feet_2-X-1", "14_Feet_1-X-1", "14_Feet_2-X-1"] ∧
        (vehiclesOf ⟨"H", ["H", "X-1"]⟩ settings.sweep).countP
          (fun v => v.home = "H" ∧ v.fleet = .feet14) = 4 := ⟨_, rfl, rfl, rfl, rfl⟩
  refine ⟨settings, hsettings, rfl, hvehicles, hids, hcount, fun hpool => ?_⟩
  have hdistinct := hpool.distinct
  rw [hids] at hdistinct
  exact absurd hdistinct (by decide)

end HubDispatch
