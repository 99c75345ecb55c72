import HubDispatch.Proofs.FirstOccurrences
import HubDispatch.Report.Itinerary
import Mathlib.Data.List.Chain

/-!
# The visits of an itinerary

A timed itinerary is cut into visits: something is done at each, and two visits next to each other
are at different locations (`Separate`). There is one way of cutting a list of entries so
(`visitsOf_eq_iff`).

What is cut are not the entries of all stops. The last stop may be left out (`IsKept`), and an entry
(`entryOf`) counts where it comes first (`FirstsOf`), so that visits that lie apart can come to
stand next to each other and are then one. Since the cut comes after this, the visits still tell the
kept stops in the only way there is (`timedRoute_tells`).
-/

namespace HubDispatch
namespace Report

/-! ## Cutting entries into visits -/

/-- The entries that a visit puts together. -/
def Visit.entries (v : Visit) : List (LocationCode × String) := v.activities.map (v.location, ·)

/-- Something is done at every visit, and one after the other the visits are at different
locations. -/
structure Separate (visits : List Visit) : Prop where
  active : ∀ v ∈ visits, v.activities ≠ []
  apart : visits.IsChain fun v w => v.location ≠ w.location

theorem Separate.tail {v : Visit} {visits : List Visit} (h : Separate (v :: visits)) :
    Separate visits where
  active w hw := h.active w (List.mem_cons_of_mem v hw)
  apart := h.apart.tail

section Cut

variable {place : LocationCode} {activity : String} {entries : List (LocationCode × String)}
  {v : Visit} {visits : List Visit}

theorem visitsOf_cons_nil (h : visitsOf entries = []) :
    visitsOf ((place, activity) :: entries) = [⟨place, [activity]⟩] := by
  rw [visitsOf, h]

/-- An entry at the location of the visit after it belongs to this visit. -/
theorem visitsOf_cons_same (h : visitsOf entries = v :: visits) (hv : v.location = place) :
    visitsOf ((place, activity) :: entries) = ⟨place, activity :: v.activities⟩ :: visits := by
  rw [visitsOf, h]
  exact if_pos hv

/-- An entry at another location is a visit of its own. -/
theorem visitsOf_cons_other (h : visitsOf entries = v :: visits) (hv : v.location ≠ place) :
    visitsOf ((place, activity) :: entries) = ⟨place, [activity]⟩ :: v :: visits := by
  rw [visitsOf, h]
  exact if_neg hv

theorem separate_visitsOf (entries : List (LocationCode × String)) :
    Separate (visitsOf entries) := by
  induction entries with
  | nil => exact ⟨List.forall_mem_nil _, .nil⟩
  | cons e entries ih =>
    obtain ⟨place, activity⟩ := e
    cases hrest : visitsOf entries with
    | nil =>
      rw [visitsOf_cons_nil hrest]
      exact ⟨by simp, List.isChain_singleton _⟩
    | cons v visits =>
      rw [hrest] at ih
      by_cases hv : v.location = place
      · rw [visitsOf_cons_same hrest hv]
        refine ⟨List.forall_mem_cons.mpr ⟨List.cons_ne_nil _ _, ih.tail.active⟩, ?_⟩
        rw [List.isChain_cons]
        refine ⟨fun w hw => ?_, ih.tail.apart⟩
        exact hv ▸ (List.isChain_cons.mp ih.apart).1 w hw
      · rw [visitsOf_cons_other hrest hv]
        refine ⟨List.forall_mem_cons.mpr ⟨List.cons_ne_nil _ _, ih.active⟩, ?_⟩
        rw [List.isChain_cons_cons]
        exact ⟨Ne.symm hv, ih.apart⟩

theorem flatMap_entries_visitsOf (entries : List (LocationCode × String)) :
    (visitsOf entries).flatMap Visit.entries = entries := by
  induction entries with
  | nil => rfl
  | cons e entries ih =>
    obtain ⟨place, activity⟩ := e
    cases hrest : visitsOf entries with
    | nil =>
      rw [visitsOf_cons_nil hrest, ← ih, hrest]
      rfl
    | cons v visits =>
      rw [hrest] at ih
      by_cases hv : v.location = place
      · rw [visitsOf_cons_same hrest hv, ← ih]
        subst hv
        rfl
      · rw [visitsOf_cons_other hrest hv, ← ih]
        rfl

/-- The entries of a visit are put together again, if another location comes after them. -/
theorem visitsOf_entries_append (hactive : v.activities ≠ []) (hcut : visitsOf entries = visits)
    (hapart : ∀ w ∈ visits.head?, v.location ≠ w.location) :
    visitsOf (v.entries ++ entries) = v :: visits := by
  obtain ⟨place, activities⟩ := v
  induction activities with
  | nil => exact absurd rfl hactive
  | cons activity activities ih =>
    by_cases hmore : activities = []
    · subst hmore
      cases visits with
      | nil => exact visitsOf_cons_nil hcut
      | cons w visits => exact visitsOf_cons_other hcut (Ne.symm (hapart w rfl))
    · exact visitsOf_cons_same (ih hmore hapart) rfl

theorem visitsOf_flatMap_entries (h : Separate visits) :
    visitsOf (visits.flatMap Visit.entries) = visits := by
  induction visits with
  | nil => rfl
  | cons v visits ih =>
    rw [List.flatMap_cons]
    exact visitsOf_entries_append (h.active v List.mem_cons_self) (ih h.tail)
      (List.isChain_cons.mp h.apart).1

/-- **There is one way of cutting entries into separate visits.** -/
theorem visitsOf_eq_iff :
    visitsOf entries = visits ↔ Separate visits ∧ visits.flatMap Visit.entries = entries := by
  constructor
  · rintro rfl
    exact ⟨separate_visitsOf entries, flatMap_entries_visitsOf entries⟩
  · rintro ⟨hseparate, rfl⟩
    exact visitsOf_flatMap_entries hseparate

end Cut

/-! ## The stops of the timed form -/

/-- There are two stops at the end that are left at the same time. -/
def LeavesTogether (stops : List Stop) : Prop :=
  ∃ before previous last, stops = before ++ [previous, last] ∧
    (previous.departure == last.departure) = true

/-- All stops, but not the last of two that are left together. -/
structure IsKept (stops kept : List Stop) : Prop where
  together : LeavesTogether stops → kept = stops.dropLast
  apart : ¬ LeavesTogether stops → kept = stops

theorem keptStops_append_pair (before : List Stop) (previous last : Stop) :
    keptStops (before ++ [previous, last]) =
      if previous.departure == last.departure then before ++ [previous]
      else before ++ [previous, last] := by
  have hreverse : (before ++ [previous, last]).reverse = last :: previous :: before.reverse := by
    simp
  have hdrop : (before ++ [previous, last]).dropLast = before ++ [previous] := by
    rw [List.dropLast_append_of_ne_nil (List.cons_ne_nil _ _)]
    rfl
  rw [keptStops, hreverse]
  dsimp only
  rw [hdrop]

theorem isKept_keptStops (stops : List Stop) : IsKept stops (keptStops stops) := by
  constructor
  · rintro ⟨before, previous, last, rfl, htogether⟩
    rw [keptStops_append_pair, if_pos htogether,
      List.dropLast_append_of_ne_nil (List.cons_ne_nil _ _)]
    rfl
  · intro hapart
    cases hreverse : stops.reverse with
    | nil => rw [keptStops, hreverse]
    | cons last rest =>
      cases rest with
      | nil => rw [keptStops, hreverse]
      | cons previous rest =>
        have hstops : stops = rest.reverse ++ [previous, last] := by
          rw [← List.reverse_reverse stops, hreverse]
          simp
        have hne : ¬ (previous.departure == last.departure) = true := fun h =>
          hapart ⟨_, _, _, hstops, h⟩
        rw [hstops, keptStops_append_pair, if_neg hne]

/-! ## The timed form -/

/-- What is told of a stop: a pickup at the origin of its freight, or a delivery at the destination,
from arrival to departure. -/
def entryOf (s : Stop) : LocationCode × String :=
  let times := hoursText s.arrival ++ "-" ++ hoursText s.departure
  match s.kind with
  | .pickup => (s.shipment.origin, "P:" ++ times)
  | .delivery => (s.shipment.destination, "D:" ++ times)

theorem token_eq (s : Stop) : token s = entryOf s := by
  unfold token entryOf Stop.location activityText
  simp only [String.append_assoc]
  cases s.kind <;> rfl

/-- The visits tell some stops: with the entries of the stops, each once and where it comes first,
and cut where the location changes. -/
structure Tells (visits : List Visit) (stops : List Stop) : Prop extends Separate visits where
  firsts : FirstsOf (visits.flatMap Visit.entries) (stops.map entryOf)

/-- Visits that tell some stops are those of their entries without repetitions. -/
theorem tells_iff {visits : List Visit} {stops : List Stop} :
    Tells visits stops ↔ visitsOf (stops.map token).eraseDups = visits := by
  rw [List.map_congr_left fun s _ => token_eq s, visitsOf_eq_iff, ← firstsOf_iff]
  constructor
  · intro h
    exact ⟨h.toSeparate, h.firsts⟩
  · rintro ⟨hseparate, hfirsts⟩
    exact ⟨hseparate, hfirsts⟩

/-- **The timed form tells the stops.** The visits that it lists are the only ones that tell all
stops of the route, but for a last one that is left together with the one before it. -/
theorem timedRoute_tells (r : Route) :
    ∃ kept visits, IsKept r.stops kept ∧ Tells visits kept ∧
      (∀ others, Tells others kept → others = visits) ∧
      timedRoute r = "[" ++ "-".intercalate (visits.map fun v =>
        v.location ++ "(" ++ ",".intercalate v.activities ++ ")") ++ "]" := by
  refine ⟨keptStops r.stops, timedVisits r, isKept_keptStops r.stops, tells_iff.mpr rfl, ?_, rfl⟩
  intro others hothers
  exact (tells_iff.mp hothers).symm

-- The second visit to `A` comes to stand next to the first one, and the last stop is left out.
example : timedRoute ⟨"14_Feet_1-H", .feet14,
    [⟨.pickup, ⟨"B", "H", 1⟩, 40, 5.0, 5.5⟩, ⟨.pickup, ⟨"A", "H", 1⟩, 40, 6.0, 6.5⟩,
      ⟨.pickup, ⟨"B", "H", 2⟩, 40, 5.0, 5.5⟩, ⟨.delivery, ⟨"H", "A", 1⟩, 20, 7.0, 8.0⟩,
      ⟨.delivery, ⟨"B", "H", 1⟩, 40, 8.0, 8.0⟩], 5.0, 8.0⟩ =
    "[B(P:5.00-5.30)-A(P:6.00-6.30,D:7.00-8.00)]" := by decide +kernel

end Report
end HubDispatch
