import HubDispatch.Document.Problem
import HubDispatch.Proofs.Document.JobTable
import HubDispatch.Proofs.Fleet.Names
import HubDispatch.Proofs.Shipment.JobId
import Mathlib.Data.List.Induction

/-!
# What the document of a problem says

A document and a job table are made of the same problem, each on its own. A job of the document is
known by its id and its demand, a location by its position in the list of the problem. Taken
together with the table they agree: the id of the `i`-th job leads to the `i`-th shipment, and its
ends lie where those of the shipment lie (`Job.Carries`).

Apart from timestamps, which the calendar must have (`Dated`), a document needs that the problem
knows the locations it uses (`Placed`) and that references can stand in job ids (`Encodable`). The
only vehicle of a type that is looked up is the first. That the others are at home where it is
follows from their type id, which ends in their home (`Vehicle.typeId_eq_iff`).
-/

namespace HubDispatch

namespace Document

/-! ## Groups of vehicles -/

namespace VehicleGroup

/-- A vehicle that is put in brings its type id and takes none away. -/
theorem exists_typeId_insert_iff {v : Vehicle} {groups : List VehicleGroup} {id : String} :
    (∃ g ∈ insert v groups, g.typeId = id) ↔ v.typeId = id ∨ ∃ g ∈ groups, g.typeId = id := by
  -- A new group has the type id of its vehicle, and a group keeps its first vehicle.
  have hnew : ∀ rest, typeId ⟨v, rest⟩ = v.typeId := fun _ => rfl
  have hkept : ∀ (g : VehicleGroup) rest, typeId ⟨g.first, rest⟩ = g.typeId := fun _ _ => rfl
  induction groups with
  | nil => simp only [insert, List.mem_singleton, exists_eq_left, hnew, List.not_mem_nil, false_and,
      exists_false, or_false]
  | cons g groups ih =>
    rw [insert]
    split
    · rename_i hsame
      simp only [List.exists_mem_cons_iff, hkept, hsame]
      rw [← or_assoc, or_self]
    · split
      · simp only [List.exists_mem_cons_iff, hnew]
      · simp only [List.exists_mem_cons_iff, ih]
        exact or_left_comm

theorem first_of_mem_insert {v : Vehicle} {groups : List VehicleGroup} {g : VehicleGroup}
    (h : g ∈ insert v groups) : g.first = v ∨ ∃ old ∈ groups, old.first = g.first := by
  induction groups with
  | nil =>
    obtain rfl := List.mem_singleton.mp h
    exact Or.inl rfl
  | cons head groups ih =>
    rw [insert] at h
    split at h
    · rcases List.mem_cons.mp h with rfl | h
      · exact Or.inr ⟨head, List.mem_cons_self .., rfl⟩
      · exact Or.inr ⟨g, List.mem_cons_of_mem _ h, rfl⟩
    · split at h
      · rcases List.mem_cons.mp h with rfl | h
        · exact Or.inl rfl
        · exact Or.inr ⟨g, h, rfl⟩
      · rcases List.mem_cons.mp h with rfl | h
        · exact Or.inr ⟨g, List.mem_cons_self .., rfl⟩
        · rcases ih h with hnew | ⟨old, hold, hfirst⟩
          · exact Or.inl hnew
          · exact Or.inr ⟨old, List.mem_cons_of_mem _ hold, hfirst⟩

theorem ofVehicles_append_singleton (vehicles : List Vehicle) (v : Vehicle) :
    ofVehicles (vehicles ++ [v]) = insert v (ofVehicles vehicles) := by
  rw [ofVehicles, List.foldl_append]
  rfl

/-- The type ids of the groups are those of the vehicles. -/
theorem exists_typeId_iff {vehicles : List Vehicle} {id : String} :
    (∃ g ∈ ofVehicles vehicles, g.typeId = id) ↔ ∃ v ∈ vehicles, v.typeId = id := by
  -- Vehicles are put in from the left, so the last is the last one put in.
  induction vehicles using List.reverseRecOn with
  | nil => simp [ofVehicles]
  | append_singleton vehicles v ih =>
    rw [ofVehicles_append_singleton, exists_typeId_insert_iff, ih]
    simp only [List.mem_append, List.mem_singleton]
    constructor
    · rintro (h | ⟨w, hw, h⟩)
      · exact ⟨v, Or.inr rfl, h⟩
      · exact ⟨w, Or.inl hw, h⟩
    · rintro ⟨w, hw | rfl, h⟩
      · exact Or.inr ⟨w, hw, h⟩
      · exact Or.inl h

theorem first_mem {vehicles : List Vehicle} {g : VehicleGroup} (h : g ∈ ofVehicles vehicles) :
    g.first ∈ vehicles := by
  induction vehicles using List.reverseRecOn generalizing g with
  | nil => cases h
  | append_singleton vehicles v ih =>
    rw [ofVehicles_append_singleton] at h
    rw [List.mem_append, List.mem_singleton]
    rcases first_of_mem_insert h with hnew | ⟨old, hold, hfirst⟩
    · exact Or.inr hnew
    · rw [← hfirst]
      exact Or.inl (ih hold)

/-- The first vehicles of the groups are at home wherever a vehicle is. -/
theorem forall_home_iff {vehicles : List Vehicle} {P : LocationCode → Prop} :
    (∀ g ∈ ofVehicles vehicles, P g.first.home) ↔ ∀ v ∈ vehicles, P v.home := by
  constructor
  · intro h v hv
    obtain ⟨g, hg, hid⟩ := exists_typeId_iff.mpr ⟨v, hv, rfl⟩
    have hhome : g.first.home = v.home := (Vehicle.typeId_eq_iff.mp hid).2
    rw [← hhome]
    exact h g hg
  · intro h g hg
    exact h g.first (first_mem hg)

end VehicleGroup

/-! ## What a document needs -/

/-- The calendar has a timestamp for the hour. -/
def Stamped (date : Date) (hours : Float) : Prop := ∃ text, Instant.format date hours = some text

/-- The calendar has every timestamp that the document of a problem shows: the ends of all windows,
and for each type of vehicles their start and, if they return, the time by which they are home. -/
structure Dated (p : Problem) (date : Date) : Prop where
  pickup : ∀ s ∈ p.shipments, Stamped date s.pickup.earliest ∧ Stamped date (closing s.pickup)
  delivery : ∀ s ∈ p.shipments, Stamped date s.delivery.earliest ∧ Stamped date (closing s.delivery)
  start : ∀ g ∈ VehicleGroup.ofVehicles p.vehicles, Stamped date g.first.earliestStart
  finish : ∀ g ∈ VehicleGroup.ofVehicles p.vehicles, g.first.returnToDepot = true →
    Stamped date (horizon p)

/-- The problem has every location that a shipment or a vehicle needs. -/
structure Placed (p : Problem) : Prop where
  origin : ∀ s ∈ p.shipments, s.origin ∈ p.locations
  destination : ∀ s ∈ p.shipments, s.destination ∈ p.locations
  home : ∀ v ∈ p.vehicles, v.home ∈ p.locations

/-- Both codes of every reference can stand in a job id. -/
def Encodable (p : Problem) : Prop :=
  ∀ s ∈ p.shipments, ShipmentRef.isEncodable s.reference.origin = true ∧
    ShipmentRef.isEncodable s.reference.destination = true

/-- The job is the shipment at position `i`: its id leads there, and its ends are those of the
shipment, with its weight at both. -/
structure Job.Carries (p : Problem) (jobs : JobTable) (i : Nat) (s : Shipment) (j : Job) :
    Prop where
  resolved : jobs.lookup j.id = some i
  origin : p.locations[j.pickup.location]? = some s.origin
  destination : p.locations[j.delivery.location]? = some s.destination
  collected : j.pickup.demand = s.weight
  delivered : j.delivery.demand = s.weight

variable {p : Problem} {date : Date} {s : Shipment}

/-! ## From the inside out -/

theorem exists_timestamp_iff {hours : Float} :
    (∃ stamp, Timestamp.of date hours = .ok stamp) ↔ Stamped date hours := by
  unfold Timestamp.of Stamped
  cases Instant.format date hours <;> simp

/-- A task at the location with a code. -/
def taskFor (p : Problem) (date : Date) (code : LocationCode) (service : Float) (w : TimeWindow)
    (weight : Nat) : Except Failure Task := do
  let location ← planned (p.locationIndex code)
  taskAt date location service w weight

section Task

variable {code : LocationCode} {w : TimeWindow}

theorem exists_taskFor_iff (service : Float) (weight : Nat) :
    (∃ t, taskFor p date code service w weight = .ok t) ↔
      code ∈ p.locations ∧ Stamped date w.earliest ∧ Stamped date (closing w) := by
  simp only [taskFor, taskAt, bind_eq_ok_iff, planned_eq_ok_iff, ← Problem.exists_locationIndex_iff,
    ← exists_timestamp_iff]
  constructor
  · rintro ⟨t, i, hi, earliest, he, latest, hl, -⟩
    exact ⟨⟨i, hi⟩, ⟨earliest, he⟩, ⟨latest, hl⟩⟩
  · rintro ⟨⟨i, hi⟩, ⟨earliest, he⟩, ⟨latest, hl⟩⟩
    exact ⟨_, i, hi, earliest, he, latest, hl, rfl⟩

theorem location_and_demand_of_taskFor {service : Float} {weight : Nat} {t : Task}
    (h : taskFor p date code service w weight = .ok t) :
    p.locations[t.location]? = some code ∧ t.demand = weight := by
  simp only [taskFor, taskAt, bind_eq_ok_iff, planned_eq_ok_iff] at h
  obtain ⟨i, hi, earliest, -, latest, -, ht⟩ := h
  cases ht
  exact ⟨Problem.getElem?_of_locationIndex hi, rfl⟩

end Task

/-- A job is two tasks and an id. -/
theorem job_eq_ok_iff {j : Job} :
    job p date s = .ok j ↔
      taskFor p date s.origin s.pickupService s.pickup s.weight = .ok j.pickup ∧
        taskFor p date s.destination s.deliveryService s.delivery s.weight = .ok j.delivery ∧
        s.reference.jobId = .ok j.id := by
  simp only [job, bind_eq_ok_iff (x := pickupTask p date s),
    bind_eq_ok_iff (x := deliveryTask p date s), bind_eq_ok_iff (x := planned s.reference.jobId),
    planned_eq_ok_iff]
  constructor
  · rintro ⟨pickup, hpickup, delivery, hdelivery, id, hid, hj⟩
    cases hj
    exact ⟨hpickup, hdelivery, hid⟩
  · rintro ⟨hpickup, hdelivery, hid⟩
    exact ⟨_, hpickup, _, hdelivery, _, hid, rfl⟩

theorem exists_jobId_iff {r : ShipmentRef} :
    (∃ id, r.jobId = .ok id) ↔
      ShipmentRef.isEncodable r.origin = true ∧ ShipmentRef.isEncodable r.destination = true := by
  simp only [ShipmentRef.jobId_eq_ok_iff, ShipmentRef.isEncodable_iff]
  constructor
  · rintro ⟨id, ho, hd, -⟩
    exact ⟨ho, hd⟩
  · rintro ⟨ho, hd⟩
    exact ⟨_, ho, hd, rfl⟩

theorem exists_job_iff :
    (∃ j, job p date s = .ok j) ↔
      (s.origin ∈ p.locations ∧ Stamped date s.pickup.earliest ∧ Stamped date (closing s.pickup)) ∧
        (s.destination ∈ p.locations ∧ Stamped date s.delivery.earliest ∧
          Stamped date (closing s.delivery)) ∧
        ShipmentRef.isEncodable s.reference.origin = true ∧
        ShipmentRef.isEncodable s.reference.destination = true := by
  simp only [job_eq_ok_iff]
  rw [← exists_taskFor_iff s.pickupService s.weight,
    ← exists_taskFor_iff s.deliveryService s.weight, ← exists_jobId_iff]
  constructor
  · rintro ⟨j, hpickup, hdelivery, hid⟩
    exact ⟨⟨_, hpickup⟩, ⟨_, hdelivery⟩, ⟨_, hid⟩⟩
  · rintro ⟨⟨pickup, hpickup⟩, ⟨delivery, hdelivery⟩, ⟨id, hid⟩⟩
    exact ⟨⟨id, pickup, delivery⟩, hpickup, hdelivery, hid⟩

theorem exists_vehicleType_iff {g : VehicleGroup} :
    (∃ t, vehicleType p date g = .ok t) ↔
      g.first.home ∈ p.locations ∧ Stamped date g.first.earliestStart ∧
        (g.first.returnToDepot = true → Stamped date (horizon p)) := by
  rw [← Problem.exists_locationIndex_iff, ← exists_timestamp_iff, ← exists_timestamp_iff,
    vehicleType]
  simp only [bind_eq_ok_iff (x := planned _), bind_eq_ok_iff (x := Timestamp.of _ _),
    planned_eq_ok_iff]
  cases g.first.returnToDepot with
  | false =>
    constructor
    · rintro ⟨t, i, hi, start, hstart, -⟩
      exact ⟨⟨i, hi⟩, ⟨start, hstart⟩, nofun⟩
    · rintro ⟨⟨i, hi⟩, ⟨start, hstart⟩, -⟩
      exact ⟨_, i, hi, start, hstart, rfl⟩
  | true =>
    constructor
    · rintro ⟨t, i, hi, start, hstart, ht⟩
      obtain ⟨time, htime, -⟩ := bind_eq_ok_iff.mp ht
      exact ⟨⟨i, hi⟩, ⟨start, hstart⟩, fun _ => ⟨time, htime⟩⟩
    · rintro ⟨⟨i, hi⟩, ⟨start, hstart⟩, hfinish⟩
      obtain ⟨time, htime⟩ := hfinish rfl
      exact ⟨_, i, hi, start, hstart, bind_eq_ok_iff.mpr ⟨time, htime, rfl⟩⟩

/-- A document is a job for every shipment and a type for every group of vehicles. -/
theorem ofProblem_eq_ok_iff {d : ProblemDocument} :
    ofProblem p date = .ok d ↔
      List.Forall₂ (fun s j => job p date s = .ok j) p.shipments d.jobs ∧
        List.Forall₂ (fun g t => vehicleType p date g = .ok t)
          (VehicleGroup.ofVehicles p.vehicles) d.vehicleTypes := by
  simp only [ofProblem, bind_eq_ok_iff (x := List.mapM _ _), mapM_eq_ok_iff]
  constructor
  · rintro ⟨jobs, hjobs, types, htypes, hd⟩
    cases hd
    exact ⟨hjobs, htypes⟩
  · rintro ⟨hjobs, htypes⟩
    exact ⟨_, hjobs, _, htypes, rfl⟩

theorem exists_ofProblem_iff :
    (∃ d, ofProblem p date = .ok d) ↔ Dated p date ∧ Placed p ∧ Encodable p := by
  have hparts : (∃ d, ofProblem p date = .ok d) ↔ (∀ s ∈ p.shipments, ∃ j, job p date s = .ok j) ∧
      ∀ g ∈ VehicleGroup.ofVehicles p.vehicles, ∃ t, vehicleType p date g = .ok t := by
    simp only [ofProblem_eq_ok_iff, ← exists_forall₂_iff]
    constructor
    · rintro ⟨d, hjobs, htypes⟩
      exact ⟨⟨_, hjobs⟩, ⟨_, htypes⟩⟩
    · rintro ⟨⟨jobs, hjobs⟩, ⟨types, htypes⟩⟩
      exact ⟨⟨jobs, types⟩, hjobs, htypes⟩
  simp only [hparts, exists_job_iff, exists_vehicleType_iff]
  constructor
  · rintro ⟨hjobs, htypes⟩
    refine ⟨⟨fun s hs => (hjobs s hs).1.2, fun s hs => (hjobs s hs).2.1.2,
      fun g hg => (htypes g hg).2.1, fun g hg => (htypes g hg).2.2⟩,
      ⟨fun s hs => (hjobs s hs).1.1, fun s hs => (hjobs s hs).2.1.1, ?_⟩,
      fun s hs => (hjobs s hs).2.2⟩
    exact VehicleGroup.forall_home_iff.mp fun g hg => (htypes g hg).1
  · rintro ⟨hdated, hplaced, hencodable⟩
    have hhome := VehicleGroup.forall_home_iff.mpr hplaced.home
    refine ⟨fun s hs => ?_, fun g hg => ?_⟩
    · exact ⟨⟨hplaced.origin s hs, hdated.pickup s hs⟩,
        ⟨hplaced.destination s hs, hdated.delivery s hs⟩, hencodable s hs⟩
    · exact ⟨hhome g hg, hdated.start g hg, hdated.finish g hg⟩

/-- The job of a shipment carries it, from the position at which the table has its id. -/
theorem carries_of_job {jobs : JobTable} {i : Nat} {j : Job} (h : job p date s = .ok j)
    (hlookup : jobs.lookup j.id = some i) : j.Carries p jobs i s := by
  obtain ⟨hpickup, hdelivery, -⟩ := job_eq_ok_iff.mp h
  obtain ⟨horigin, hcollected⟩ := location_and_demand_of_taskFor hpickup
  obtain ⟨hdestination, hdelivered⟩ := location_and_demand_of_taskFor hdelivery
  exact ⟨hlookup, horigin, hdestination, hcollected, hdelivered⟩

/-- **A document and a job table describe one problem.** There is a document exactly if the calendar
has its timestamps, the problem has the locations it uses, and references can stand in job ids. If
there is a job table as well, the jobs of the document are the shipments in their order, and the
table leads from the id of each to its position. -/
theorem ofProblem_describes (p : Problem) (date : Date) :
    ((∃ d, ofProblem p date = .ok d) ↔ Dated p date ∧ Placed p ∧ Encodable p) ∧
      ∀ d jobs, ofProblem p date = .ok d → JobTable.ofProblem p = .ok jobs →
        d.jobs.length = p.shipments.length ∧
          ∀ i s, p.shipments[i]? = some s →
            ∃ j, d.jobs[i]? = some j ∧ Job.Carries p jobs i s j := by
  refine ⟨exists_ofProblem_iff, fun d jobs hd hjobs => ?_⟩
  obtain ⟨hmade, -⟩ := ofProblem_eq_ok_iff.mp hd
  obtain ⟨ids, hids, hnodup, rfl⟩ := JobTable.ofProblem_eq_ok_iff.mp hjobs
  refine ⟨hmade.length_eq.symm, fun i s hs => ?_⟩
  obtain ⟨hlt, rfl⟩ := List.getElem?_eq_some_iff.mp hs
  have hlt' : i < d.jobs.length := hmade.length_eq ▸ hlt
  have hlt'' : i < ids.length := hids.length_eq ▸ hlt
  have hjob : job p date p.shipments[i] = .ok d.jobs[i] := hmade.get hlt hlt'
  have hid : p.shipments[i].reference.jobId = .ok ids[i] := hids.get hlt hlt''
  refine ⟨_, List.getElem?_eq_getElem hlt', carries_of_job hjob ?_⟩
  -- Job and table took the id from the same reference.
  have hsame : d.jobs[i].id = ids[i] :=
    Except.ok.inj ((job_eq_ok_iff.mp hjob).2.2.symm.trans hid)
  rw [hsame]
  exact (JobTable.lookup_zipIdx_eq_some_iff hnodup).mpr
    ⟨i, List.getElem?_eq_getElem hlt'', (Nat.zero_add i).symm⟩

/-- Two parts to a branch and freight back, with the branch listed twice. -/
def partsAndBack : Problem where
  shipments := [⟨⟨"H", "X", 1⟩, 40, ⟨5.0, 14.0⟩, ⟨0.0, 14.0⟩, 0.0, 1.0⟩,
    ⟨⟨"H", "X", 2⟩, 25, ⟨5.0, 14.0⟩, ⟨0.0, 14.0⟩, 0.0, 1.0⟩,
    ⟨⟨"X", "H", 1⟩, 30, ⟨25.0, 24.0⟩, ⟨3.0, 36.0⟩, 1.0, 0.0⟩]
  vehicles := [⟨"14_Feet_1-X", .feet14, "X", 0.0, false⟩, ⟨"14_Feet_1-H", .feet14, "H", 0.0, true⟩,
    ⟨"14_Feet_2-X", .feet14, "X", 2.0, true⟩]
  locations := ["X", "H", "X"]
  matrices := .empty

theorem ofProblem_describes_partsAndBack :
    ∃ d, ofProblem partsAndBack ⟨2026, 1, 26⟩ = .ok d ∧
      JobTable.ofProblem partsAndBack = .ok [("H - X, ShipmentNo:1", 0), ("H - X, ShipmentNo:2", 1),
        ("X - H, ShipmentNo:1", 2)] ∧
      (Dated partsAndBack ⟨2026, 1, 26⟩ ∧ Placed partsAndBack ∧ Encodable partsAndBack) ∧
      d.jobs.length = 3 ∧
      ∃ j, d.jobs[2]? = some j ∧
        Job.Carries partsAndBack [("H - X, ShipmentNo:1", 0), ("H - X, ShipmentNo:2", 1),
          ("X - H, ShipmentNo:1", 2)] 2
          ⟨⟨"X", "H", 1⟩, 30, ⟨25.0, 24.0⟩, ⟨3.0, 36.0⟩, 1.0, 0.0⟩ j := by
  have hmade : (ofProblem partsAndBack ⟨2026, 1, 26⟩).isOk = true := by decide +kernel
  have hjobs : JobTable.ofProblem partsAndBack = .ok [("H - X, ShipmentNo:1", 0),
      ("H - X, ShipmentNo:2", 1), ("X - H, ShipmentNo:1", 2)] := by decide +kernel
  obtain ⟨hneeds, hagree⟩ := ofProblem_describes partsAndBack ⟨2026, 1, 26⟩
  cases hd : ofProblem partsAndBack ⟨2026, 1, 26⟩ with
  | error failure =>
    rw [hd] at hmade
    cases hmade
  | ok d =>
    obtain ⟨hlength, hcarries⟩ := hagree d _ hd hjobs
    obtain ⟨j, hj, hcarry⟩ := hcarries 2 _ rfl
    exact ⟨d, rfl, hjobs, hneeds.mp ⟨d, hd⟩, hlength, j, hj, hcarry⟩

end Document
end HubDispatch
