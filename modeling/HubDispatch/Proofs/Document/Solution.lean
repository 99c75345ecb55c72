import HubDispatch.Document.Solution
import HubDispatch.Proofs.Document.JobTable

/-!
# What a solution document describes

A tour reports pickups and deliveries among other activities, at stops with any number of them:
those of type `pickup` and those of type `delivery`. Put end to end these are its handlings, each
with the times that count: its own, or else those of the stop. Taking a document back turns every
tour into the route of its vehicle with exactly one stop for every handling, in order, and every job
left into the reference of its shipment (`SolutionDocument.Describes`). It succeeds exactly for a
document that is `Understood`: its vehicles and jobs are those of the problem, and the timestamps
that count can be read.

The traversals are turned into relations from the inside out: a stop, the stops of a tour's stop, a
tour, the document. Whether they succeed is then a question about single handlings.
-/

namespace HubDispatch

section EndToEnd

variable {α β γ : Type} {R : α → β → Prop}

/-- What is related to blocks end to end is made of parts related to the blocks. -/
theorem forall₂_flatMap_left_iff {f : γ → List α} {zs : List γ} {ys : List β} :
    List.Forall₂ R (zs.flatMap f) ys ↔
      ∃ parts, List.Forall₂ (fun z part => List.Forall₂ R (f z) part) zs parts ∧
        parts.flatten = ys := by
  induction zs generalizing ys with
  | nil => simp [eq_comm]
  | cons z zs ih =>
    rw [List.flatMap_cons, forall₂_append_left_iff]
    constructor
    · rintro ⟨first, second, hfirst, hsecond, rfl⟩
      obtain ⟨parts, hparts, rfl⟩ := ih.mp hsecond
      exact ⟨first :: parts, .cons hfirst hparts, rfl⟩
    · rintro ⟨_, _ | ⟨hfirst, hparts⟩, rfl⟩
      exact ⟨_, _, hfirst, ih.mpr ⟨_, hparts, rfl⟩, rfl⟩

end EndToEnd

/-- The vehicle has the id, and none before it has. -/
def Problem.IsFirst (p : Problem) (id : String) (v : Vehicle) : Prop :=
  v.id = id ∧ ∃ before after, p.vehicles = before ++ v :: after ∧ ∀ w ∈ before, w.id ≠ id

theorem Problem.vehicle?_eq_some_iff {p : Problem} {id : String} {v : Vehicle} :
    p.vehicle? id = some v ↔ p.IsFirst id v := by
  simp [vehicle?, IsFirst, List.find?_eq_some_iff_append]

namespace Document

/-- A pickup or delivery that a tour reports: the job it names and the times that count. -/
structure Handling where
  kind : StopKind
  jobId : String
  times : Schedule
  deriving DecidableEq, Repr

/-- The pickups and deliveries among the activities at a stop. -/
def handlingsOf (schedule : Schedule) (activities : List Activity) : List Handling :=
  activities.filterMap fun a =>
    if a.kind = "pickup" then some ⟨.pickup, a.jobId, a.time.getD schedule⟩
    else if a.kind = "delivery" then some ⟨.delivery, a.jobId, a.time.getD schedule⟩
    else none

/-- The pickups and deliveries of a tour, in the order of the document. -/
def Tour.handlings (t : Tour) : List Handling :=
  t.stops.flatMap fun s => handlingsOf s.schedule s.activities

section Meaning

variable (p : Problem) (date : Date)

/-- The timestamp can be read. -/
def Readable (stamp : String) : Prop := ∃ hours, Instant.read? date stamp = some hours

/-- The stop is the handling, of the only shipment with the job id that it names. -/
structure Handling.Makes (h : Handling) (s : Stop) : Prop where
  kind_eq : s.kind = h.kind
  named : ∃ i shipment, p.NamesAt h.jobId i shipment ∧ s.shipment = shipment.reference ∧
    s.weight = shipment.weight
  arrival : Instant.read? date h.times.arrival = some s.arrival
  departure : Instant.read? date h.times.departure = some s.departure

/-- The route is the tour: of the first vehicle with its id, with one stop for every handling. -/
structure Tour.Makes (t : Tour) (r : Route) : Prop where
  vehicle : ∃ v, p.IsFirst t.vehicleId v ∧ r.vehicle = v.id ∧ r.fleet = v.fleet ∧
    (t.stops = [] → r.start = v.earliestStart)
  stops : List.Forall₂ (Handling.Makes p date) t.handlings r.stops
  start : ∀ s ∈ t.stops.head?, Instant.read? date s.schedule.departure = some r.start
  finish : ∀ s ∈ t.stops.getLast?, Instant.read? date s.schedule.arrival = some r.finish
  idle : t.stops = [] → r.finish = r.start

/-- The solution is the document: one route for every tour, and the references of the jobs left. -/
structure SolutionDocument.Describes (d : SolutionDocument) (solution : Solution) : Prop where
  cost_eq : solution.cost = .ofFloat d.cost
  routes : List.Forall₂ (Tour.Makes p date) d.tours solution.routes
  unassigned : List.Forall₂ (fun u r => ∃ i s, p.NamesAt u.jobId i s ∧ r = s.reference)
    d.unassigned solution.unassigned

/-- The document speaks of vehicles and jobs of the problem, at times that can be read. -/
structure SolutionDocument.Understood (d : SolutionDocument) : Prop where
  vehicle : ∀ t ∈ d.tours, ∃ v ∈ p.vehicles, v.id = t.vehicleId
  job : ∀ t ∈ d.tours, ∀ h ∈ t.handlings, ∃ s ∈ p.shipments, s.reference.jobId = .ok h.jobId
  unassigned : ∀ u ∈ d.unassigned, ∃ s ∈ p.shipments, s.reference.jobId = .ok u.jobId
  times : ∀ t ∈ d.tours, ∀ h ∈ t.handlings,
    Readable date h.times.arrival ∧ Readable date h.times.departure
  start : ∀ t ∈ d.tours, ∀ s ∈ t.stops.head?, Readable date s.schedule.departure
  finish : ∀ t ∈ d.tours, ∀ s ∈ t.stops.getLast?, Readable date s.schedule.arrival

end Meaning

variable {p : Problem} {jobs : JobTable} {date : Date}

/-! ## Reading it off -/

theorem hour_eq_ok_iff {stamp : String} {hours : Float} :
    hour date stamp = .ok hours ↔ Instant.read? date stamp = some hours := by
  unfold hour
  cases Instant.read? date stamp <;> simp

theorem stopOf_eq_ok_iff (hjobs : JobTable.ofProblem p = .ok jobs) {schedule : Schedule}
    {kind : StopKind} {a : Activity} {s : Stop} :
    stopOf p jobs date schedule kind a = .ok s ↔
      Handling.Makes p date ⟨kind, a.jobId, a.time.getD schedule⟩ s := by
  unfold stopOf
  simp only [bind_eq_ok_iff, JobTable.resolve_eq_ok_iff hjobs, hour_eq_ok_iff]
  constructor
  · rintro ⟨shipment, ⟨i, hnames⟩, arrival, ha, departure, hd, he⟩
    cases he
    exact ⟨rfl, ⟨i, shipment, hnames, rfl, rfl⟩, ha, hd⟩
  · rintro ⟨rfl, ⟨i, shipment, hnames, hr, hw⟩, ha, hd⟩
    refine ⟨shipment, ⟨i, hnames⟩, _, ha, _, hd, ?_⟩
    rw [← hr, ← hw]
    rfl

/-- Only two types of activities make a stop. -/
theorem stopKind?_eq (kind : String) :
    stopKind? kind =
      if kind = "pickup" then some .pickup else if kind = "delivery" then some .delivery
      else none := by
  unfold stopKind?
  split <;> simp_all

theorem handlingsOf_cons (schedule : Schedule) (a : Activity) (rest : List Activity) :
    handlingsOf schedule (a :: rest) =
      ((stopKind? a.kind).map fun kind => ⟨kind, a.jobId, a.time.getD schedule⟩).toList ++
        handlingsOf schedule rest := by
  rw [stopKind?_eq, handlingsOf, List.filterMap_cons]
  by_cases hpickup : a.kind = "pickup"
  · rw [if_pos hpickup, if_pos hpickup]
    rfl
  · rw [if_neg hpickup, if_neg hpickup]
    by_cases hdelivery : a.kind = "delivery"
    · rw [if_pos hdelivery, if_pos hdelivery]
      rfl
    · rw [if_neg hdelivery, if_neg hdelivery]
      rfl

/-- **One stop for every handling** of a stop, and none for other activities. -/
theorem stopsOf_eq_ok_iff (hjobs : JobTable.ofProblem p = .ok jobs) {schedule : Schedule}
    {activities : List Activity} {stops : List Stop} :
    stopsOf p jobs date schedule activities = .ok stops ↔
      List.Forall₂ (Handling.Makes p date) (handlingsOf schedule activities) stops := by
  induction activities generalizing stops with
  | nil => cases stops <;> simp [stopsOf, handlingsOf]
  | cons a rest ih =>
    rw [stopsOf, handlingsOf_cons]
    cases stopKind? a.kind with
    | none => exact ih
    | some kind =>
      simp only [bind_eq_ok_iff, stopOf_eq_ok_iff hjobs, ih, Option.map_some, Option.toList_some,
        List.singleton_append]
      constructor
      · rintro ⟨stop, hstop, stops, hstops, he⟩
        cases he
        exact .cons hstop hstops
      · rintro (_ | ⟨hstop, hstops⟩)
        exact ⟨_, hstop, _, hstops, rfl⟩

/-- The stops of a whole tour. -/
theorem mapM_stopsOf_eq_ok_iff (hjobs : JobTable.ofProblem p = .ok jobs) {t : Tour}
    {stops : List Stop} :
    (∃ parts, (t.stops.mapM fun s => stopsOf p jobs date s.schedule s.activities) = .ok parts ∧
      parts.flatten = stops) ↔ List.Forall₂ (Handling.Makes p date) t.handlings stops := by
  simp only [mapM_eq_ok_iff, stopsOf_eq_ok_iff hjobs]
  exact forall₂_flatMap_left_iff.symm

/-- The hour of a timestamp, and another one where there is none. -/
def hourOr (date : Date) (stamp? : Option String) (idle : Float) : Except Fault Float :=
  match stamp? with
  | some stamp => hour date stamp
  | none => .ok idle

theorem hourOr_eq_ok_iff {stamp? : Option String} {idle hours : Float} :
    hourOr date stamp? idle = .ok hours ↔
      (∀ stamp ∈ stamp?, Instant.read? date stamp = some hours) ∧
        (stamp? = none → hours = idle) := by
  cases stamp? with
  | none => simp [hourOr, eq_comm]
  | some stamp => simp [hourOr, hour_eq_ok_iff]

/-- The route of a tour part by part: vehicle, stops, start, finish. -/
theorem routeOf_eq (t : Tour) :
    routeOf p jobs date t =
      match p.vehicle? t.vehicleId with
      | none => .error (.malformedInput ("unknown vehicle '" ++ t.vehicleId ++ "' in solution"))
      | some v => do
        let parts ← t.stops.mapM fun s => stopsOf p jobs date s.schedule s.activities
        let start ← hourOr date (t.stops.head?.map (·.schedule.departure)) v.earliestStart
        let finish ← hourOr date (t.stops.getLast?.map (·.schedule.arrival)) start
        return ⟨v.id, v.fleet, parts.flatten, start, finish⟩ := by
  unfold routeOf
  cases p.vehicle? t.vehicleId with
  | none => rfl
  | some v => cases t.stops.head? <;> cases t.stops.getLast? <;> rfl

/-- **A tour becomes the route of its vehicle.** -/
theorem routeOf_eq_ok_iff (hjobs : JobTable.ofProblem p = .ok jobs) {t : Tour} {r : Route} :
    routeOf p jobs date t = .ok r ↔ Tour.Makes p date t r := by
  rw [routeOf_eq]
  cases hv : p.vehicle? t.vehicleId with
  | none =>
    refine iff_of_false (by simp) ?_
    rintro ⟨⟨v, hfirst, -⟩, -⟩
    cases hv.symm.trans (Problem.vehicle?_eq_some_iff.mpr hfirst)
  | some v =>
    -- Both ends of the tour are asked for as stops, not as their timestamps.
    simp only [bind_eq_ok_iff, hourOr_eq_ok_iff, Option.mem_def, Option.map_eq_some_iff,
      forall_exists_index, and_imp, forall_apply_eq_imp_iff₂, Option.map_eq_none_iff,
      List.head?_eq_none_iff, List.getLast?_eq_none_iff]
    constructor
    · rintro ⟨parts, hparts, start, ⟨hstart, hidle⟩, finish, ⟨hfinish, hidle'⟩, he⟩
      cases he
      refine ⟨⟨v, Problem.vehicle?_eq_some_iff.mp hv, rfl, rfl, hidle⟩, ?_, hstart, hfinish,
        hidle'⟩
      exact (mapM_stopsOf_eq_ok_iff hjobs).mp ⟨parts, hparts, rfl⟩
    · rintro ⟨⟨w, hw, hid, hfleet, hidle⟩, hstops, hstart, hfinish, hidle'⟩
      obtain rfl := Option.some.inj (hv.symm.trans (Problem.vehicle?_eq_some_iff.mpr hw))
      obtain ⟨parts, hparts, hflat⟩ := (mapM_stopsOf_eq_ok_iff hjobs).mpr hstops
      refine ⟨parts, hparts, r.start, ⟨hstart, hidle⟩, r.finish, ⟨hfinish, hidle'⟩, ?_⟩
      rw [hflat, ← hid, ← hfleet]
      rfl

theorem reference_eq_ok_iff (hjobs : JobTable.ofProblem p = .ok jobs) {id : String}
    {r : ShipmentRef} :
    (do return (← jobs.resolve p id).reference : Except Fault ShipmentRef) = .ok r ↔
      ∃ i s, p.NamesAt id i s ∧ r = s.reference := by
  simp only [bind_eq_ok_iff, JobTable.resolve_eq_ok_iff hjobs]
  constructor
  · rintro ⟨s, ⟨i, hnames⟩, he⟩
    exact ⟨i, s, hnames, (Except.ok.inj he).symm⟩
  · rintro ⟨i, s, hnames, rfl⟩
    exact ⟨s, ⟨i, hnames⟩, rfl⟩

/-- **A document is taken back as the solution that it describes.** -/
theorem toSolution_eq_ok_iff (hjobs : JobTable.ofProblem p = .ok jobs) {d : SolutionDocument}
    {solution : Solution} :
    toSolution p jobs date d = .ok solution ↔ d.Describes p date solution := by
  unfold toSolution
  simp only [bind_eq_ok_iff (x := d.tours.mapM _), bind_eq_ok_iff (x := d.unassigned.mapM _),
    mapM_eq_ok_iff, routeOf_eq_ok_iff hjobs, reference_eq_ok_iff hjobs]
  constructor
  · rintro ⟨routes, hroutes, left, hleft, he⟩
    cases he
    exact ⟨rfl, hroutes, hleft⟩
  · rintro ⟨hcost, hroutes, hleft⟩
    refine ⟨_, hroutes, _, hleft, ?_⟩
    rw [← hcost]
    rfl

/-! ## What is understood -/

theorem Handling.exists_makes_iff (hjobs : JobTable.ofProblem p = .ok jobs) {h : Handling} :
    (∃ s, h.Makes p date s) ↔ (∃ s ∈ p.shipments, s.reference.jobId = .ok h.jobId) ∧
      Readable date h.times.arrival ∧ Readable date h.times.departure := by
  rw [← JobTable.exists_namesAt_iff hjobs]
  constructor
  · rintro ⟨s, -, ⟨i, shipment, hnames, -, -⟩, ha, hd⟩
    exact ⟨⟨i, shipment, hnames⟩, ⟨_, ha⟩, ⟨_, hd⟩⟩
  · rintro ⟨⟨i, shipment, hnames⟩, ⟨arrival, ha⟩, ⟨departure, hd⟩⟩
    exact ⟨⟨h.kind, shipment.reference, shipment.weight, arrival, departure⟩, rfl,
      ⟨i, shipment, hnames, rfl, rfl⟩, ha, hd⟩

/-- A route can start or finish at the timestamp of a stop that can be read, or without one at any
hour. -/
theorem exists_hour {stop? : Option TourStop} {stamp : TourStop → String}
    (h : ∀ s ∈ stop?, Readable date (stamp s)) (idle : Float) :
    ∃ hours, (∀ s ∈ stop?, Instant.read? date (stamp s) = some hours) ∧
      (stop? = none → hours = idle) := by
  cases stop? with
  | none => exact ⟨idle, by simp⟩
  | some s =>
    obtain ⟨hours, hread⟩ := h s rfl
    exact ⟨hours, by simp [hread]⟩

theorem Tour.exists_makes_iff (hjobs : JobTable.ofProblem p = .ok jobs) {t : Tour} :
    (∃ r, t.Makes p date r) ↔ (∃ v ∈ p.vehicles, v.id = t.vehicleId) ∧
      (∀ h ∈ t.handlings, (∃ s ∈ p.shipments, s.reference.jobId = .ok h.jobId) ∧
        Readable date h.times.arrival ∧ Readable date h.times.departure) ∧
      (∀ s ∈ t.stops.head?, Readable date s.schedule.departure) ∧
      ∀ s ∈ t.stops.getLast?, Readable date s.schedule.arrival := by
  have hvehicle : (∃ v ∈ p.vehicles, v.id = t.vehicleId) ↔ ∃ v, p.IsFirst t.vehicleId v := by
    simp only [← Problem.vehicle?_eq_some_iff]
    rw [← Option.isSome_iff_exists, Problem.vehicle?, List.find?_isSome]
    simp
  -- A list of stops exists exactly if there is one for every handling.
  simp only [hvehicle, ← Handling.exists_makes_iff hjobs, ← exists_forall₂_iff]
  constructor
  · rintro ⟨r, ⟨v, hv, -⟩, hstops, hstart, hfinish, -⟩
    exact ⟨⟨v, hv⟩, ⟨_, hstops⟩, fun s hs => ⟨_, hstart s hs⟩, fun s hs => ⟨_, hfinish s hs⟩⟩
  · rintro ⟨⟨v, hv⟩, ⟨stops, hstops⟩, hstart, hfinish⟩
    obtain ⟨start, hs, hidle⟩ := exists_hour hstart v.earliestStart
    obtain ⟨finish, hf, hidle'⟩ := exists_hour hfinish start
    rw [List.head?_eq_none_iff] at hidle
    rw [List.getLast?_eq_none_iff] at hidle'
    exact ⟨⟨v.id, v.fleet, stops, start, finish⟩, ⟨v, hv, rfl, rfl, hidle⟩, hstops, hs, hf, hidle'⟩

theorem SolutionDocument.exists_describes_iff (hjobs : JobTable.ofProblem p = .ok jobs)
    {d : SolutionDocument} : (∃ solution, d.Describes p date solution) ↔ d.Understood p date := by
  have htours : (∃ routes, List.Forall₂ (Tour.Makes p date) d.tours routes) ↔ _ :=
    exists_forall₂_iff.trans (forall₂_congr fun t _ => Tour.exists_makes_iff hjobs)
  have hleft : (∃ rs, List.Forall₂ (fun (u : UnassignedJob) r =>
      ∃ i s, p.NamesAt u.jobId i s ∧ r = s.reference) d.unassigned rs) ↔
      ∀ u ∈ d.unassigned, ∃ s ∈ p.shipments, s.reference.jobId = .ok u.jobId := by
    refine exists_forall₂_iff.trans (forall₂_congr fun u _ => ?_)
    rw [← JobTable.exists_namesAt_iff hjobs]
    exact ⟨fun ⟨_, i, s, hnames, _⟩ => ⟨i, s, hnames⟩, fun ⟨i, s, hnames⟩ => ⟨_, i, s, hnames, rfl⟩⟩
  constructor
  · rintro ⟨solution, -, hroutes, hun⟩
    have hall := htours.mp ⟨_, hroutes⟩
    exact ⟨fun t ht => (hall t ht).1, fun t ht h hh => ((hall t ht).2.1 h hh).1,
      hleft.mp ⟨_, hun⟩, fun t ht h hh => ((hall t ht).2.1 h hh).2,
      fun t ht => (hall t ht).2.2.1, fun t ht => (hall t ht).2.2.2⟩
  · rintro ⟨hvehicle, hjob, hun, htimes, hstart, hfinish⟩
    obtain ⟨routes, hroutes⟩ := htours.mpr fun t ht =>
      ⟨hvehicle t ht, fun h hh => ⟨hjob t ht h hh, htimes t ht h hh⟩, hstart t ht, hfinish t ht⟩
    obtain ⟨left, hleft⟩ := hleft.mpr hun
    exact ⟨⟨.ofFloat d.cost, routes, left⟩, rfl, hroutes, hleft⟩

/-- **Taking a document back loses and invents nothing.** With the job table of the problem it
succeeds exactly for a document that is understood, and then gives the solution that the document
describes. -/
theorem toSolution_faithful (hjobs : JobTable.ofProblem p = .ok jobs) (date : Date)
    (d : SolutionDocument) :
    ((∃ solution, toSolution p jobs date d = .ok solution) ↔ d.Understood p date) ∧
      ∀ solution, toSolution p jobs date d = .ok solution ↔ d.Describes p date solution := by
  refine ⟨?_, fun solution => toSolution_eq_ok_iff hjobs⟩
  simp only [toSolution_eq_ok_iff hjobs]
  exact SolutionDocument.exists_describes_iff hjobs

/-- Freight to a branch and back, with a vehicle at the hub. -/
def outAndBack : Problem where
  shipments := [⟨⟨"H", "X", 1⟩, 40, ⟨5.0, 14.0⟩, ⟨0.0, 14.0⟩, 0.0, 1.0⟩,
    ⟨⟨"X", "H", 1⟩, 30, ⟨7.0, 24.0⟩, ⟨3.0, 36.0⟩, 1.0, 0.0⟩]
  vehicles := [⟨"14_Feet_1-H", .feet14, "H", 0.0, true⟩]
  locations := ["H", "X"]
  matrices := .empty

/-- A tour that delivers to the branch, where the vehicle waits after its work, and leaves the way
back undone. -/
def oneWay : SolutionDocument where
  cost := 1.0
  tours := [⟨"14_Feet_1-H", [
    ⟨⟨"2026-01-26T05:00:00Z", "2026-01-26T05:00:00Z"⟩,
      [⟨"departure", "departure", none⟩, ⟨"H - X, ShipmentNo:1", "pickup", none⟩]⟩,
    ⟨⟨"2026-01-26T07:00:00Z", "2026-01-26T09:00:00Z"⟩,
      [⟨"H - X, ShipmentNo:1", "delivery",
        some ⟨"2026-01-26T07:00:00Z", "2026-01-26T08:00:00Z"⟩⟩]⟩]⟩]
  unassigned := [⟨"X - H, ShipmentNo:1", []⟩]

/-- What it describes: freight is picked up and delivered at the times that count, and the route
ends where the vehicle comes to its last stop. -/
def oneWayRoute : Solution where
  cost := .ofFloat 1.0
  routes := [⟨"14_Feet_1-H", .feet14, [⟨.pickup, ⟨"H", "X", 1⟩, 40, 5.0, 5.0⟩,
    ⟨.delivery, ⟨"H", "X", 1⟩, 40, 7.0, 8.0⟩], 5.0, 7.0⟩]
  unassigned := [⟨"X", "H", 1⟩]

theorem toSolution_faithful_one_way :
    JobTable.ofProblem outAndBack =
        .ok [("H - X, ShipmentNo:1", 0), ("X - H, ShipmentNo:1", 1)] ∧
      oneWay.Understood outAndBack ⟨2026, 1, 26⟩ ∧
      toSolution outAndBack [("H - X, ShipmentNo:1", 0), ("X - H, ShipmentNo:1", 1)]
        ⟨2026, 1, 26⟩ oneWay = .ok oneWayRoute ∧
      oneWay.Describes outAndBack ⟨2026, 1, 26⟩ oneWayRoute := by
  have hjobs : JobTable.ofProblem outAndBack =
      .ok [("H - X, ShipmentNo:1", 0), ("X - H, ShipmentNo:1", 1)] := by decide +kernel
  have hsolution : toSolution outAndBack
      [("H - X, ShipmentNo:1", 0), ("X - H, ShipmentNo:1", 1)] ⟨2026, 1, 26⟩ oneWay =
        .ok oneWayRoute := by decide +kernel
  obtain ⟨hunderstood, hdescribes⟩ := toSolution_faithful hjobs ⟨2026, 1, 26⟩ oneWay
  exact ⟨hjobs, hunderstood.mp ⟨_, hsolution⟩, hsolution, (hdescribes _).mp hsolution⟩

end Document
end HubDispatch
