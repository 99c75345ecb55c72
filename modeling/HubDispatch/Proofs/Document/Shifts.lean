import HubDispatch.Proofs.Calendar.Seconds
import HubDispatch.Proofs.Document.Problem

/-!
# Ends of shifts

Vehicles that return must be home a day after the last delivery can end. What counts as the last is
reckoned from the windows of the shipments (`reckonedEnds`), each with its own closing. The document
does not show these windows as they are: one that closes before it opens is shown as its opening,
and so a delivery in it can end later than is reckoned. A day is left after every delivery exactly
if no such delivery ends later than all that are reckoned with (`leavesADay_iff`).
-/

namespace HubDispatch

open Binary64.Exact (rank foldl_larger_spec le_iff_rank_le)
open Instant (ComesTo SumsTo Agree secondsOf secondsPerDay reach)

/-- The window and the handling time of a delivery are whole seconds. -/
structure Shipment.Delivers (s : Shipment) (opens closes takes : Int) : Prop where
  earliest : ComesTo s.delivery.earliest opens
  latest : ComesTo s.delivery.latest closes
  service : ComesTo s.deliveryService takes

namespace Document

variable {p : Problem} {date : Date} {s : Shipment} {d : ProblemDocument}
  {opens closes takes : Int}

/-- All deliveries are in whole seconds. -/
def InWholeSeconds (p : Problem) : Prop :=
  ∀ s ∈ p.shipments, ∃ opens closes takes, s.Delivers opens closes takes

/-- The ends of deliveries by the closing of their windows, and midnight. -/
def reckonedEnds (p : Problem) : Set Int :=
  insert 0 {n | ∃ s ∈ p.shipments, ∃ opens closes takes : Int,
    s.Delivers opens closes takes ∧ closes + takes = n}

/-- Every shift ends a day or more after any delivery, done within its window, can end. -/
def LeavesADay (d : ProblemDocument) : Prop :=
  ∀ t ∈ d.vehicleTypes, ∀ finish, t.finish = some finish → ∀ j ∈ d.jobs,
    j.delivery.latest.seconds + j.delivery.duration + secondsPerDay ≤ finish.time.seconds

/-! ## The horizon -/

/-- The hours from which the last delivery is chosen. -/
def endHours (p : Problem) : List Float :=
  0.0 :: p.shipments.map fun s => s.delivery.latest + s.deliveryService

/-- Every end that is reckoned with is among the hours. -/
theorem exists_hours_of_mem {n : Int} (h : n ∈ reckonedEnds p) : ∃ x ∈ endHours p, SumsTo x n := by
  rcases Set.mem_insert_iff.mp h with rfl | ⟨s, hs, opens, closes, takes, hdelivers, rfl⟩
  · exact ⟨0.0, List.mem_cons_self .., Instant.sumsTo_zero⟩
  · exact ⟨_, List.mem_cons_of_mem _ (List.mem_map_of_mem hs),
      hdelivers.latest.add hdelivers.service⟩

theorem exists_mem_of_hours {x : Float} (hwhole : InWholeSeconds p) (h : x ∈ endHours p) :
    ∃ n ∈ reckonedEnds p, SumsTo x n := by
  rcases List.mem_cons.mp h with rfl | h
  · exact ⟨0, Set.mem_insert .., Instant.sumsTo_zero⟩
  · obtain ⟨s, hs, rfl⟩ := List.mem_map.mp h
    obtain ⟨opens, closes, takes, hdelivers⟩ := hwhole s hs
    exact ⟨closes + takes, Set.mem_insert_of_mem _ ⟨s, hs, opens, closes, takes, hdelivers, rfl⟩,
      hdelivers.latest.add hdelivers.service⟩

/-- The last delivery is one of the hours, and none of them is later. -/
theorem lastDelivery_spec (hwhole : InWholeSeconds p) :
    lastDelivery p ∈ endHours p ∧
      ∀ x ∈ endHours p, rank (Binary64.Exact.ofFloat x) ≤
        rank (Binary64.Exact.ofFloat (lastDelivery p)) := by
  have hne : ∀ x ∈ endHours p, Binary64.Exact.ofFloat x ≠ .nan := by
    intro x hx
    obtain ⟨n, -, hn⟩ := exists_mem_of_hours hwhole hx
    exact hn.ne_nan
  exact foldl_larger_spec (hne _ (List.mem_cons_self ..))
    fun x hx => hne x (List.mem_cons_of_mem _ hx)

/-- **The horizon** is a day after the greatest end that is reckoned with. -/
theorem exists_isGreatest_horizon (hwhole : InWholeSeconds p)
    (hrange : (secondsOf (horizon p)).natAbs ≤ 2 ^ 44) :
    ∃ last, IsGreatest (reckonedEnds p) last ∧ secondsOf (horizon p) = last + secondsPerDay := by
  obtain ⟨hmem, hgreatest⟩ := lastDelivery_spec hwhole
  obtain ⟨last, hlast, hsums⟩ := exists_mem_of_hours hwhole hmem
  have hday : secondsOf (horizon p) = last + secondsPerDay :=
    hsums.secondsOf_add_day (hgreatest _ (List.mem_cons_self ..)) hrange
  refine ⟨last, ⟨hlast, fun n hn => ?_⟩, hday⟩
  -- The end itself is within reach, and no other hour comes to more seconds.
  obtain ⟨x, hx, hn⟩ := exists_hours_of_mem hn
  have hle : secondsOf x ≤ secondsOf (lastDelivery p) := by
    apply Instant.secondsOf_mono
    exact (le_iff_rank_le hn.ne_nan hsums.ne_nan).mpr (hgreatest x hx)
  have hagree := hn.agree
  have hagree' := hsums.agree
  rw [hday] at hrange
  unfold Agree reach at hagree hagree'
  unfold secondsPerDay at hrange
  omega

/-! ## Deliveries -/

theorem timestamp_eq_ok_iff {hours : Float} {stamp : Timestamp} :
    Timestamp.of date hours = .ok stamp ↔
      Instant.format date hours = some stamp.text ∧ stamp.seconds = secondsOf hours := by
  unfold Timestamp.of
  cases Instant.format date hours with
  | none => simp
  | some text =>
    cases stamp
    simp [eq_comm, and_comm]

/-- A window is closed at the later of its two ends. -/
theorem comesTo_closing {w : TimeWindow} (hearliest : ComesTo w.earliest opens)
    (hlatest : ComesTo w.latest closes) : ComesTo (closing w) (max opens closes) := by
  unfold closing
  by_cases hlt : w.latest < w.earliest
  · rw [if_pos hlt, max_eq_left (hlatest.le_of_lt hearliest hlt)]
    exact hearliest
  · rw [if_neg hlt, max_eq_right (hlatest.le_of_not_lt hearliest hlt)]
    exact hlatest

theorem delivery_of_job {j : Job} (hdate : date.isValid = true) (hjob : job p date s = .ok j)
    (hdelivers : s.Delivers opens closes takes) :
    j.delivery.latest.seconds = max opens closes ∧ (max opens closes).natAbs ≤ 2 ^ 44 ∧
      Agree j.delivery.duration takes := by
  obtain ⟨-, hdelivery, -⟩ := job_eq_ok_iff.mp hjob
  simp only [taskFor, taskAt, bind_eq_ok_iff] at hdelivery
  obtain ⟨location, -, earliest, -, latest, hlatest, htask⟩ := hdelivery
  obtain ⟨htext, hseconds⟩ := timestamp_eq_ok_iff.mp hlatest
  have hrange := Instant.natAbs_secondsOf_le hdate htext
  have hagree := (comesTo_closing hdelivers.earliest hdelivers.latest).agree
  have hservice := hdelivers.service.agree
  rw [← Except.ok.inj htask]
  refine ⟨?_, ?_, hservice⟩
  · rw [hseconds]
    unfold Agree reach at hagree
    omega
  · unfold Agree reach at hagree
    omega

/-- The shift of vehicles that return ends at the horizon. -/
theorem finish_of_vehicleType {g : VehicleGroup} {t : VehicleType} {finish : ShiftEnd}
    (h : vehicleType p date g = .ok t) (hfinish : t.finish = some finish) :
    Timestamp.of date (horizon p) = .ok finish.time := by
  simp only [vehicleType, bind_eq_ok_iff (x := planned _),
    bind_eq_ok_iff (x := Timestamp.of _ _)] at h
  obtain ⟨home, -, start, -, h⟩ := h
  cases hreturn : g.first.returnToDepot with
  | false =>
    rw [hreturn] at h
    rw [← Except.ok.inj h] at hfinish
    cases hfinish
  | true =>
    rw [hreturn] at h
    obtain ⟨time, htime, ht⟩ := bind_eq_ok_iff.mp h
    rw [← Except.ok.inj ht] at hfinish
    rw [← Option.some.inj hfinish]
    exact htime

/-- A delivery whose window stays as it is ends in time. One that is shown at its opening ends in
time exactly if its handling, from there on, does. -/
theorem end_le_iff {last duration : Int} (hrange : (max opens closes).natAbs ≤ 2 ^ 44)
    (hduration : Agree duration takes) (hzero : 0 ≤ last) (hlast : last ≤ 2 ^ 44)
    (hends : closes + takes ≤ last) :
    max opens closes + duration ≤ last ↔ (closes < opens → opens + takes ≤ last) := by
  unfold Agree reach at hduration
  omega

/-- **The end of a shift** is a day after the greatest end that is reckoned with. -/
theorem exists_isGreatest_finish (hdate : date.isValid = true) (hwhole : InWholeSeconds p)
    (hd : ofProblem p date = .ok d) {t : VehicleType} (ht : t ∈ d.vehicleTypes)
    {finish : ShiftEnd} (hfinish : t.finish = some finish) :
    ∃ last ≤ 2 ^ 44, IsGreatest (reckonedEnds p) last ∧
      finish.time.seconds = last + secondsPerDay := by
  obtain ⟨-, htypes⟩ := ofProblem_eq_ok_iff.mp hd
  obtain ⟨g, -, hg⟩ := exists_of_mem_right htypes ht
  obtain ⟨htext, hseconds⟩ := timestamp_eq_ok_iff.mp (finish_of_vehicleType hg hfinish)
  have hrange := Instant.natAbs_secondsOf_le hdate htext
  obtain ⟨last, hgreatest, hlast⟩ := exists_isGreatest_horizon hwhole hrange
  refine ⟨last, ?_, hgreatest, hseconds.trans hlast⟩
  rw [hlast, secondsPerDay] at hrange
  omega

/-- One shift end leaves a day after every delivery exactly if every delivery that is shown at its
opening ends no later than one that is reckoned with. -/
theorem leavesADay_of_finish_iff (hdate : date.isValid = true) (hwhole : InWholeSeconds p)
    (hd : ofProblem p date = .ok d) {t : VehicleType} (ht : t ∈ d.vehicleTypes)
    {finish : ShiftEnd} (hfinish : t.finish = some finish) :
    (∀ j ∈ d.jobs, j.delivery.latest.seconds + j.delivery.duration + secondsPerDay ≤
        finish.time.seconds) ↔
      ∀ s ∈ p.shipments, ∀ opens closes takes, s.Delivers opens closes takes → closes < opens →
        ∃ n ∈ reckonedEnds p, opens + takes ≤ n := by
  obtain ⟨last, hlast, hgreatest, hseconds⟩ :=
    exists_isGreatest_finish hdate hwhole hd ht hfinish
  obtain ⟨hjobs, -⟩ := ofProblem_eq_ok_iff.mp hd
  have hzero : 0 ≤ last := hgreatest.2 (Set.mem_insert ..)
  -- Job by job, the end is that of a delivery.
  have hdelivery : ∀ {s j opens closes takes}, s ∈ p.shipments → job p date s = .ok j →
      s.Delivers opens closes takes →
      (j.delivery.latest.seconds + j.delivery.duration + secondsPerDay ≤ finish.time.seconds ↔
        (closes < opens → opens + takes ≤ last)) := by
    intro s j opens closes takes hs hj hdelivers
    obtain ⟨hlatest, hrange, hduration⟩ := delivery_of_job hdate hj hdelivers
    have hends : closes + takes ≤ last := hgreatest.2 (Set.mem_insert_of_mem _
      ⟨s, hs, opens, closes, takes, hdelivers, rfl⟩)
    rw [hlatest, hseconds, Int.add_le_add_iff_right]
    exact end_le_iff hrange hduration hzero hlast hends
  constructor
  · intro hleaves s hs opens closes takes hdelivers hlt
    obtain ⟨j, hj, hjob⟩ := exists_of_mem_right hjobs.flip hs
    exact ⟨last, hgreatest.1, (hdelivery hs hjob hdelivers).mp (hleaves j hj) hlt⟩
  · intro hends j hj
    obtain ⟨s, hs, hjob⟩ := exists_of_mem_right hjobs hj
    obtain ⟨opens, closes, takes, hdelivers⟩ := hwhole s hs
    refine (hdelivery hs hjob hdelivers).mpr fun hlt => ?_
    obtain ⟨n, hn, hle⟩ := hends s hs opens closes takes hdelivers hlt
    exact hle.trans (hgreatest.2 hn)

/-- **Coming home a day after the last delivery.** For deliveries of whole seconds, every shift of a
document ends a day after the greatest end that is reckoned with. So vehicles that return have a day
left after every delivery exactly if every window that closes before it opens belongs to a delivery
that, begun when it opens, ends no later than one of those. -/
theorem leavesADay_iff (hdate : date.isValid = true) (hwhole : InWholeSeconds p)
    (hd : ofProblem p date = .ok d) :
    (∀ t ∈ d.vehicleTypes, ∀ finish, t.finish = some finish →
      ∃ last, IsGreatest (reckonedEnds p) last ∧ finish.time.seconds = last + secondsPerDay) ∧
      (LeavesADay d ↔ (∀ t ∈ d.vehicleTypes, t.finish = none) ∨
        ∀ s ∈ p.shipments, ∀ opens closes takes, s.Delivers opens closes takes → closes < opens →
          ∃ n ∈ reckonedEnds p, opens + takes ≤ n) := by
  refine ⟨fun t ht finish hfinish => ?_, ?_⟩
  · obtain ⟨last, -, hlast⟩ := exists_isGreatest_finish hdate hwhole hd ht hfinish
    exact ⟨last, hlast⟩
  · constructor
    · intro hleaves
      by_cases hnone : ∀ t ∈ d.vehicleTypes, t.finish = none
      · exact Or.inl hnone
      · push Not at hnone
        obtain ⟨t, ht, hsome⟩ := hnone
        obtain ⟨finish, hfinish⟩ := Option.ne_none_iff_exists'.mp hsome
        exact Or.inr ((leavesADay_of_finish_iff hdate hwhole hd ht hfinish).mp
          (hleaves t ht finish hfinish))
    · rintro (hnone | hends) t ht finish hfinish
      · rw [hnone t ht] at hfinish
        cases hfinish
      · exact (leavesADay_of_finish_iff hdate hwhole hd ht hfinish).mpr hends

/-- A delivery that takes an hour. Its window opens at eight in the evening and closes at five. -/
def inTheEvening : Shipment := ⟨⟨"H", "X", 1⟩, 100, ⟨5.0, 14.0⟩, ⟨20.0, 5.0⟩, 0.0, 1.0⟩

/-- Freight back, until noon of the next day. -/
def nextDay : Shipment := ⟨⟨"X", "H", 1⟩, 30, ⟨4.0, 24.0⟩, ⟨3.0, 36.0⟩, 1.0, 1.0⟩

/-- A vehicle that returns, and what else is to be carried than in the evening. -/
def evening (others : List Shipment) : Problem where
  shipments := inTheEvening :: others
  vehicles := [⟨"14_Feet_1-H", .feet14, "H", 0.0, true⟩]
  locations := ["H", "X"]
  matrices := .empty

theorem delivers_inTheEvening : inTheEvening.Delivers 72000 18000 3600 :=
  ⟨Instant.comesTo_ofInt (n := 20) (by decide), Instant.comesTo_ofInt (n := 5) (by decide),
    Instant.comesTo_ofInt (n := 1) (by decide)⟩

theorem delivers_nextDay : nextDay.Delivers 10800 129600 3600 :=
  ⟨Instant.comesTo_ofInt (n := 3) (by decide), Instant.comesTo_ofInt (n := 36) (by decide),
    Instant.comesTo_ofInt (n := 1) (by decide)⟩

/-- Freight that is back at one in the afternoon of the next day lets the shift end late enough. -/
theorem leavesADay_iff_nextDay :
    (⟨2026, 1, 26⟩ : Date).isValid = true ∧
      InWholeSeconds (evening [nextDay]) ∧
      ∃ d, ofProblem (evening [nextDay]) ⟨2026, 1, 26⟩ = .ok d ∧
        (d.vehicleTypes.map fun t => t.finish.map (·.time.seconds)) = [some 219600] ∧
        LeavesADay d := by
  have hdate : (⟨2026, 1, 26⟩ : Date).isValid = true := by decide
  have hmade : ((ofProblem (evening [nextDay]) ⟨2026, 1, 26⟩).toOption.map fun d =>
      d.vehicleTypes.map fun t => t.finish.map (·.time.seconds)) = some [some 219600] := by
    decide +kernel
  have hwhole : InWholeSeconds (evening [nextDay]) := by
    intro s hs
    rcases List.mem_cons.mp hs with rfl | hs
    · exact ⟨_, _, _, delivers_inTheEvening⟩
    · obtain rfl := List.mem_singleton.mp hs
      exact ⟨_, _, _, delivers_nextDay⟩
  have hlast : 129600 + 3600 ∈ reckonedEnds (evening [nextDay]) :=
    Set.mem_insert_of_mem _ ⟨nextDay, List.mem_cons_of_mem _ (List.mem_singleton.mpr rfl), _, _, _,
      delivers_nextDay, rfl⟩
  cases hd : ofProblem (evening [nextDay]) ⟨2026, 1, 26⟩ with
  | error failure =>
    rw [hd] at hmade
    cases hmade
  | ok d =>
    rw [hd] at hmade
    refine ⟨hdate, hwhole, d, rfl, Option.some.inj hmade, ?_⟩
    refine (leavesADay_iff hdate hwhole hd).2.mpr (Or.inr ?_)
    intro s hs opens closes takes hdelivers hlt
    refine ⟨_, hlast, ?_⟩
    rcases List.mem_cons.mp hs with rfl | hs
    · have hopens := hdelivers.earliest.unique delivers_inTheEvening.earliest
      have htakes := hdelivers.service.unique delivers_inTheEvening.service
      omega
    · obtain rfl := List.mem_singleton.mp hs
      have hopens := hdelivers.earliest.unique delivers_nextDay.earliest
      have hcloses := hdelivers.latest.unique delivers_nextDay.latest
      omega

/-- The delivery alone is reckoned to end at six in the morning, an hour after its window closes,
and the shift ends a day after that. It is shown from eight in the evening on, and ends fifteen
hours later. -/
theorem evening_leaves_no_day :
    (⟨2026, 1, 26⟩ : Date).isValid = true ∧
      (∀ s ∈ (evening []).shipments, s.Delivers 72000 18000 3600) ∧
      ∃ d, ofProblem (evening []) ⟨2026, 1, 26⟩ = .ok d ∧ ¬ LeavesADay d := by
  refine ⟨by decide, ?_, ?_⟩
  · intro s hs
    obtain rfl := List.mem_singleton.mp hs
    exact delivers_inTheEvening
  · have hmade : ((ofProblem (evening []) ⟨2026, 1, 26⟩).toOption.map fun d =>
        (d.vehicleTypes.map fun t => t.finish.map (·.time.seconds),
          d.jobs.map fun j => (j.delivery.latest.seconds, j.delivery.duration))) =
        some ([some 108000], [(72000, 3600)]) := by
      decide +kernel
    cases hd : ofProblem (evening []) ⟨2026, 1, 26⟩ with
    | error failure =>
      rw [hd] at hmade
      cases hmade
    | ok d =>
      rw [hd] at hmade
      obtain ⟨hshifts, hdeliveries⟩ := Prod.mk.inj (Option.some.inj hmade)
      refine ⟨d, rfl, fun hleaves => ?_⟩
      obtain ⟨t, ht, hfinish⟩ := List.mem_map.mp (hshifts ▸ List.mem_singleton.mpr rfl)
      obtain ⟨j, hj, hdelivery⟩ := List.mem_map.mp (hdeliveries ▸ List.mem_singleton.mpr rfl)
      obtain ⟨finish, hfinish, hseconds⟩ := Option.map_eq_some_iff.mp hfinish
      obtain ⟨hlatest, hduration⟩ := Prod.mk.inj hdelivery
      have hend := hleaves t ht finish hfinish j hj
      rw [hlatest, hduration, hseconds, secondsPerDay] at hend
      omega

end Document
end HubDispatch
