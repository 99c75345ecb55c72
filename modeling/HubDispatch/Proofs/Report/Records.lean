import HubDispatch.Proofs.Decimal.FixedPlaces
import HubDispatch.Proofs.Delimited.Writing
import HubDispatch.Proofs.Report.LoadSplit
import HubDispatch.Proofs.Report.Places
import HubDispatch.Report.Basic

/-!
# Records under their header

The record of a vehicle is put together from three lists: the fields that all reports share, a flag
for every member, and a load for every cluster of the network. The header is put together from three
lists of the same lengths, for a load split has an entry for every cluster. So every flag and every
load stands under its own column, a load with one place behind the point (`IsVehicleRecord`).

An iteration adds the records of its routes, and then one of its own with the places of all routes,
if all routes have a summary. Otherwise it adds the records of the routes before the first without
one (`Adds`). That is what one iteration does to a report, whatever came before (`add_adds`), and so
a report holds its header and then what each of its iterations added, and counts the vehicles among
that (`report_holds`).
-/

namespace HubDispatch

namespace Delimited

variable {ε α β γ : Type}

/-- Rows that are made of what is got for each item go as far as all of it can be got. -/
theorem rows_of_decodeAll (get : β → Except ε γ) (make : γ → α) (xs : List β) :
    let rows := decodeAll (fun x => return some (make (← get x))) xs
    rows.fault? = none ∧ List.Forall₂ (fun x row => ∃ s, get x = .ok s ∧ row = make s) xs rows.rows ∨
      ∃ before x after fault, xs = before ++ x :: after ∧ get x = .error fault ∧
        rows.fault? = some fault ∧
        List.Forall₂ (fun x row => ∃ s, get x = .ok s ∧ row = make s) before rows.rows := by
  induction xs with
  | nil => exact Or.inl ⟨rfl, .nil⟩
  | cons x xs ih =>
    cases hx : get x with
    | error fault =>
      have hrows : decodeAll (fun x => return some (make (← get x))) (x :: xs) =
          ⟨[], some fault⟩ := by
        simp [decodeAll, hx, bind, Except.bind]
      rw [hrows]
      exact Or.inr ⟨[], x, xs, fault, rfl, hx, rfl, .nil⟩
    | ok s =>
      have hrows : decodeAll (fun x => return some (make (← get x))) (x :: xs) =
          ⟨make s :: (decodeAll (fun x => return some (make (← get x))) xs).rows,
            (decodeAll (fun x => return some (make (← get x))) xs).fault?⟩ := by
        simp [decodeAll, hx, bind, Except.bind, pure, Except.pure]
      rw [hrows]
      rcases ih with ⟨hnone, hall⟩ | ⟨before, y, after, fault, hsplit, hy, hfault, hbefore⟩
      · exact Or.inl ⟨hnone, .cons ⟨s, hx, rfl⟩ hall⟩
      · refine Or.inr ⟨x :: before, y, after, fault, ?_, hy, hfault, .cons ⟨s, hx, rfl⟩ hbefore⟩
        rw [hsplit, List.cons_append]

end Delimited

namespace Report

open Decimal (Renders fixedText)
open Delimited (Holds recordBytes)

/-! ## Records -/

section Records

variable {cluster : Cluster} {network : Network Float} {it : Iteration} {route : Route}

/-- The record tells of the route, and every flag and load stands under the column that is named for
it. -/
structure IsVehicleRecord (cluster : Cluster) (network : Network Float) (it : Iteration)
    (route : Route) (record : List String) : Prop where
  summary : ∃ s, summarize network it.dispatchTime route = .ok s ∧
    record = vehicleRecord cluster it s
  length_eq : record.length = (header cluster network).length
  /-- Under the column of a member: whether the iteration could not serve it. -/
  flag : ∀ i member, cluster.members[i]? = some member →
    (header cluster network)[fixedColumns.length + i]? = some (member ++ "_Delivery_Day") ∧
      ∃ field, record[fixedColumns.length + i]? = some field ∧
        (field = "1" ↔ member ∈ it.infeasible) ∧ (field = "0" ↔ member ∉ it.infeasible)
  /-- Under the column of a cluster: its entry in the load split of the route. -/
  load : ∃ split, loadSplit network route = .ok split ∧ ∀ k c, network.clusters[k]? = some c →
    (header cluster network)[fixedColumns.length + cluster.members.length + k]? = some c.hub ∧
      ∃ entry field, split[k]? = some entry ∧
        record[fixedColumns.length + cluster.members.length + k]? = some field ∧
        Renders 1 entry field

theorem summarize_eq_ok_iff {dispatchTime : Float} {s : RouteSummary} :
    summarize network dispatchTime route = .ok s ↔
      ∃ split, loadSplit network route = .ok split ∧
        s = ⟨route.vehicle, route.fleet, compactRoute route, timedRoute route, route.finish,
          route.finish - dispatchTime, split⟩ := by
  unfold summarize
  rw [bind_eq_ok_iff]
  refine exists_congr fun split => and_congr_right fun _ => ?_
  simp [pure, Except.pure, eq_comm]

theorem getElem?_behind {α : Type} (front back : List α) {n : Nat} (h : front.length = n) (i : Nat) :
    (front ++ back)[n + i]? = back[i]? := by
  rw [List.getElem?_append_right (by omega), ← h, Nat.add_sub_cancel_left]

/-- **Every field of a vehicle's record stands under its column.** -/
theorem isVehicleRecord_of_summarize {s : RouteSummary}
    (h : summarize network it.dispatchTime route = .ok s) :
    IsVehicleRecord cluster network it route (vehicleRecord cluster it s) := by
  obtain ⟨split, hsplit, hs⟩ := summarize_eq_ok_iff.mp h
  have hlen := length_of_loadSplit hsplit
  have hloads : s.loadSplit = split := by rw [hs]
  -- Header and record have the same three parts.
  obtain ⟨front, hfront, hrecord⟩ : ∃ front, front.length = fixedColumns.length ∧
      vehicleRecord cluster it s = front ++ cluster.members.map (Report.flag it.infeasible) ++
        split.map (fixedText 1) := by
    rw [← hloads]
    refine ⟨_, ?_, rfl⟩
    rfl
  constructor
  case summary => exact ⟨s, h, rfl⟩
  case length_eq => simp [hrecord, header, hfront, hlen]
  case flag =>
    intro i member hmember
    have hi := (List.getElem?_eq_some_iff.mp hmember).1
    constructor
    · rw [header, List.append_assoc, getElem?_behind _ _ rfl, List.getElem?_append_left (by simpa),
        List.getElem?_map, hmember]
      rfl
    · refine ⟨Report.flag it.infeasible member, ?_, ?_⟩
      · rw [hrecord, List.append_assoc, getElem?_behind _ _ hfront,
          List.getElem?_append_left (by simpa), List.getElem?_map, hmember]
        rfl
      · by_cases hin : member ∈ it.infeasible <;> simp [Report.flag, hin]
  case load =>
    refine ⟨split, hsplit, fun k c hc => ⟨?_, ?_⟩⟩
    · rw [header, getElem?_behind _ _ (by simp), List.getElem?_map, hc]
      rfl
    · have hk : k < split.length := by
        rw [hlen]
        exact (List.getElem?_eq_some_iff.mp hc).1
      refine ⟨split[k], fixedText 1 split[k], List.getElem?_eq_getElem hk, ?_,
        (Decimal.renders_iff Nat.one_pos).mpr rfl⟩
      rw [hrecord, getElem?_behind _ _ (by simp [hfront]), List.getElem?_map,
        List.getElem?_eq_getElem hk]
      rfl

/-- The records of vehicles are those of all routes, or of the routes before one without a
summary. -/
theorem vehicleRecords_spec (cluster : Cluster) (network : Network Float) (it : Iteration) :
    (vehicleRecords cluster network it).fault? = none ∧
        List.Forall₂ (IsVehicleRecord cluster network it) it.solution.routes
          (vehicleRecords cluster network it).rows ∨
      ∃ before route after fault, it.solution.routes = before ++ route :: after ∧
        summarize network it.dispatchTime route = .error fault ∧
        (vehicleRecords cluster network it).fault? = some fault ∧
        List.Forall₂ (IsVehicleRecord cluster network it) before
          (vehicleRecords cluster network it).rows := by
  have hrecord : ∀ route record,
      (∃ s, summarize network it.dispatchTime route = .ok s ∧
        record = vehicleRecord cluster it s) →
      IsVehicleRecord cluster network it route record := by
    rintro route _ ⟨s, hs, rfl⟩
    exact isVehicleRecord_of_summarize hs
  rcases Delimited.rows_of_decodeAll (summarize network it.dispatchTime)
      (vehicleRecord cluster it) it.solution.routes with
    ⟨hnone, hall⟩ | ⟨before, route, after, fault, hroutes, hunknown, hfault, hbefore⟩
  · exact Or.inl ⟨hnone, hall.imp hrecord⟩
  · exact Or.inr ⟨before, route, after, fault, hroutes, hunknown, hfault, hbefore.imp hrecord⟩

/-- What an iteration adds to a report with some answer: records of vehicles, and what comes behind
them. -/
inductive Adds (cluster : Cluster) (network : Network Float) (it : Iteration) :
    Except Failure Unit → (vehicles closing : List (List String)) → Prop
  /-- One record for every route, in their order, and one with the places of all of them. -/
  | complete {vehicles : List (List String)}
      (records : List.Forall₂ (IsVehicleRecord cluster network it) it.solution.routes vehicles) :
      Adds cluster network it (.ok ()) vehicles [["", "", "[" ++ ", ".intercalate
        (it.solution.routes.map fun r => "[" ++ "-".intercalate (placesOf r.stops) ++ "]") ++ "]"]]
  /-- One record for every route before the one that has no summary. -/
  | stopped {vehicles : List (List String)} (before : List Route) (route : Route)
      (after : List Route) (fault : Fault) (routes : it.solution.routes = before ++ route :: after)
      (records : List.Forall₂ (IsVehicleRecord cluster network it) before vehicles)
      (unknown : summarize network it.dispatchTime route = .error fault) :
      Adds cluster network it (.error (.ofFault fault)) vehicles []

theorem Adds.ne_nil {answer : Except Failure Unit} {vehicles closing : List (List String)}
    (h : Adds cluster network it answer vehicles closing) :
    ∀ record ∈ vehicles ++ closing, record ≠ [] := by
  have hvehicles {routes : List Route}
      (hrecords : List.Forall₂ (IsVehicleRecord cluster network it) routes vehicles) :
      ∀ record ∈ vehicles, record ≠ [] := by
    intro record hmem hnil
    obtain ⟨route, -, hrecord⟩ := exists_of_mem_right hrecords hmem
    have hlen := hrecord.length_eq
    simp [hnil, header, fixedColumns] at hlen
  intro record hmem
  cases h with
  | complete hrecords =>
    rcases List.mem_append.mp hmem with hmem | hmem
    · exact hvehicles hrecords record hmem
    · rw [List.mem_singleton.mp hmem]
      exact List.cons_ne_nil _ _
  | stopped before route after fault _ hrecords _ =>
    rw [List.append_nil] at hmem
    exact hvehicles hrecords record hmem

end Records

/-! ## Reports -/

section Reports

variable {r r' : Report} {it : Iteration}

theorem sunk_close (r : Report) : r.close.sunk = r.buffer.bytes :=
  Delimited.Buffer.written_flush

/-- The report after an iteration has the same cluster and network, what the iteration adds, and
counts the vehicles among that. -/
structure Extends (r r' : Report) (vehicles closing : List (List String)) : Prop where
  cluster : r'.cluster = r.cluster
  network : r'.network = r.network
  rows : r'.rows = r.rows + vehicles.length
  text : r'.close.sunk = r.close.sunk ++ (vehicles ++ closing).flatMap recordBytes

/-- **One iteration.** -/
theorem add_adds (r : Report) (it : Iteration) :
    ∃ vehicles closing, Adds r.cluster r.network it (r.add it).1 vehicles closing ∧
      Extends r (r.add it).2 vehicles closing := by
  refine ⟨(vehicleRecords r.cluster r.network it).rows,
    if (vehicleRecords r.cluster r.network it).fault?.isNone then [networkRecord it] else [], ?_⟩
  rcases vehicleRecords_spec r.cluster r.network it with
    ⟨hnone, hall⟩ | ⟨before, route, after, fault, hroutes, hunknown, hfault, hbefore⟩
  · rw [add, hnone, networkRecord, networkText_eq]
    refine ⟨.complete hall, rfl, rfl, rfl, ?_⟩
    rw [sunk_close, sunk_close]
    simp [Delimited.Buffer.bytes_foldl_writeRecord]
  · rw [add, hfault]
    refine ⟨.stopped before route after fault hroutes hbefore hunknown, rfl, rfl, rfl, ?_⟩
    rw [sunk_close, sunk_close]
    simp [Delimited.Buffer.bytes_foldl_writeRecord]

/-- Taking the iterations of the log one after the other, with the answers that it shows, leads from
one report to another. -/
inductive Takes : Report → List (Iteration × Except Failure Unit) → Report → Prop
  | nil (r : Report) : Takes r [] r
  | cons {r r' r'' : Report} {it : Iteration} {answer : Except Failure Unit}
      {log : List (Iteration × Except Failure Unit)} (first : r.add it = (answer, r'))
      (rest : Takes r' log r'') : Takes r ((it, answer) :: log) r''

/-- What an entry of a log added to a report. -/
def AddsPart (cluster : Cluster) (network : Network Float)
    (entry : Iteration × Except Failure Unit) (part : List (List String) × List (List String)) :
    Prop :=
  Adds cluster network entry.1 entry.2 part.1 part.2

/-- **A run.** -/
theorem Takes.exists_parts {log : List (Iteration × Except Failure Unit)} (h : Takes r log r') :
    ∃ parts, List.Forall₂ (AddsPart r.cluster r.network) log parts ∧
      r'.rows = r.rows + (parts.map (·.1.length)).sum ∧
      r'.close.sunk = r.close.sunk ++ (parts.flatMap fun p => p.1 ++ p.2).flatMap recordBytes := by
  induction h with
  | nil r => exact ⟨[], .nil, by simp, by simp⟩
  | @cons r r' r'' it answer log hfirst _ ih =>
    obtain ⟨vehicles, closing, hadds, hextends⟩ := add_adds r it
    rw [hfirst] at hadds hextends
    obtain ⟨parts, hparts, hrows, htext⟩ := ih
    rw [hextends.cluster, hextends.network] at hparts
    refine ⟨(vehicles, closing) :: parts, .cons hadds hparts, ?_, ?_⟩
    · rw [hrows, hextends.rows, List.map_cons, List.sum_cons, Nat.add_assoc]
    · rw [htext, hextends.text, List.append_assoc, ← List.flatMap_append, List.flatMap_cons]

/-- **A report holds its header and what its iterations added**, and can be read in no other way,
whether they went through or were stopped: every record of a vehicle stands under the header field
by field, in the order of the routes, and the report counts these records. A single iteration adds
its part to any report. -/
theorem report_holds (cluster : Cluster) (network : Network Float) :
    (∀ log r, Takes (start cluster network) log r →
      ∃ parts, List.Forall₂ (AddsPart cluster network) log parts ∧
        (∀ records, Holds r.close.sunk records ↔
          records = header cluster network :: parts.flatMap fun p => p.1 ++ p.2) ∧
        r.rows = (parts.map (·.1.length)).sum) ∧
      ∀ r : Report, r.cluster = cluster → r.network = network → ∀ it,
        ∃ vehicles closing, Adds cluster network it (r.add it).1 vehicles closing ∧
          Extends r (r.add it).2 vehicles closing := by
  constructor
  · intro log r h
    obtain ⟨parts, hparts, hrows, htext⟩ := h.exists_parts
    have hholds : Holds r.close.sunk
        (header cluster network :: parts.flatMap fun p => p.1 ++ p.2) := by
      constructor
      case nonempty =>
        refine List.forall_mem_cons.mpr ⟨by simp [header, fixedColumns], fun record hmem => ?_⟩
        obtain ⟨part, hpart, hmem⟩ := List.mem_flatMap.mp hmem
        obtain ⟨entry, -, hadds⟩ := exists_of_mem_right hparts hpart
        exact hadds.ne_nil record hmem
      case bytes =>
        have hstart : (start cluster network).close.sunk =
            recordBytes (header cluster network) := by
          rw [sunk_close, start, Delimited.Buffer.bytes_writeRecord, Delimited.Buffer.bytes_empty,
            List.nil_append]
        rw [htext, hstart, List.flatMap_cons]
    refine ⟨parts, hparts, fun records => ?_, by rw [hrows]; exact Nat.zero_add _⟩
    constructor
    · intro h
      exact h.unique hholds
    · rintro rfl
      exact hholds
  · rintro r rfl rfl it
    exact add_adds r it

/-- A delivery to a place that no cluster has. -/
def strayDelivery : Route :=
  ⟨"14_Feet_2-H", .feet14, [⟨.delivery, ⟨"H", "Q", 1⟩, 10, 8.0, 9.0⟩], 5.0, 12.0⟩

/-- An iteration with some routes, in which the branch of the first cluster was not served. -/
def iterationWith (index : Nat) (routes : List Route) : Iteration :=
  ⟨index, 5.0, ⟨.ofFloat 12.5, routes, []⟩, ["X"], 1⟩

/-- The record of the three deliveries under the number of an iteration with some vehicles. -/
def recordOfThree (index vehicles : String) : List String :=
  ["H", index, "-", "12.50", vehicles, "2.5", "[H-Z-H]",
    "[H(D:6.00-6.00)-Z(D:8.00-9.00)-H(D:12.00-12.00)]", "5.00", "12.00", "7.00", "1", "0", "1",
    "25.0", "175.0"]

/-- The records of one iteration that goes through, and of one that is stopped at its second
route. -/
def twoIterations : List (List String) :=
  [fixedColumns ++ ["H_Delivery_Day", "X_Delivery_Day", "H", "G"], recordOfThree "0" "1",
    ["", "", "[[H-Z-H]]"], recordOfThree "1" "3"]

theorem report_holds_stopped :
    ∃ network failure r, Network.ofRows twoClusters fourPlaces 100.0 = .ok network ∧
      Takes (start ⟨"H", ["H", "X"]⟩ network)
        [(iterationWith 0 [threeDeliveries], .ok ()),
          (iterationWith 1 [threeDeliveries, strayDelivery, threeDeliveries], .error failure)] r ∧
      r.rows = 2 ∧ Holds r.close.sunk twoIterations ∧
      ∃ parts, List.Forall₂ (AddsPart ⟨"H", ["H", "X"]⟩ network)
          [(iterationWith 0 [threeDeliveries], .ok ()),
            (iterationWith 1 [threeDeliveries, strayDelivery, threeDeliveries], .error failure)]
          parts ∧
        twoIterations =
          header ⟨"H", ["H", "X"]⟩ network :: parts.flatMap fun p => p.1 ++ p.2 := by
  have hcomputed : ((Network.ofRows twoClusters fourPlaces 100.0).map fun network =>
      let first := (start ⟨"H", ["H", "X"]⟩ network).add (iterationWith 0 [threeDeliveries])
      let second := first.2.add (iterationWith 1 [threeDeliveries, strayDelivery, threeDeliveries])
      (first.1.isOk, second.1.isOk, second.2.rows, second.2.close.sunk)).toOption =
        some (true, false, 2, twoIterations.flatMap recordBytes) := by
    decide +kernel
  obtain ⟨network, hnetwork⟩ :
      ∃ network, Network.ofRows twoClusters fourPlaces 100.0 = .ok network := ⟨_, rfl⟩
  rw [hnetwork] at hcomputed
  have hanswers := Option.some.inj hcomputed
  cases hfirst : (start ⟨"H", ["H", "X"]⟩ network).add (iterationWith 0 [threeDeliveries]) with
  | mk answer r =>
  cases hsecond : r.add (iterationWith 1 [threeDeliveries, strayDelivery, threeDeliveries]) with
  | mk answer' r' =>
  simp only [hfirst, hsecond, Prod.mk.injEq] at hanswers
  obtain ⟨hok, hstopped, hrows, hbytes⟩ := hanswers
  cases answer with
  | error _ => cases hok
  | ok _ =>
    cases answer' with
    | ok _ => cases hstopped
    | error failure =>
      have htakes := Takes.cons hfirst (.cons hsecond (.nil r'))
      have htwo : Holds r'.close.sunk twoIterations := ⟨by decide, hbytes⟩
      obtain ⟨parts, hparts, hholds, -⟩ := (report_holds _ _).1 _ _ htakes
      exact ⟨network, failure, r', hnetwork, htakes, hrows, htwo, parts, hparts,
        (hholds _).mp htwo⟩

end Reports

end Report
end HubDispatch
