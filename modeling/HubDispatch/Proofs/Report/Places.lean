import HubDispatch.Proofs.Report.Hours
import HubDispatch.Proofs.Report.Visits
import Mathlib.Data.List.Destutter

/-!
# The places of an itinerary

The compact form of a route drops a location that repeats the one before it, so its text is that of
the remaining places (`compactRoute_eq`). The timed form drops entries that were made before,
wherever that was, and so it may drop a whole stay at a location: one that says nothing that was not
said before. Apart from this the two forms visit the same places.

Both go through a list and take a further place if it is not the last one taken (`goTo`). Going
through the stays from the end, a stay that says something new brings its place to both forms, and
one that does not brings it to the compact form alone (`collapse_eraseDups_eq_iff`).

An entry names its minutes. Where the times of a route never go back, an entry can therefore be
repeated only within one minute (`exists_minute_of_token_eq`). The two forms differ where a vehicle
comes back to a location before the minute is over, and they visit the same locations even then
(`timedVisits_locations`).
-/

namespace HubDispatch
namespace Report

/-! ## Places without repetitions next to each other -/

section Collapse

variable {x y : LocationCode} {xs ys : List LocationCode}

/-- One place more, if it is not the last one already. -/
def goTo (places : List LocationCode) (x : LocationCode) : List LocationCode :=
  if places.getLast? = some x then places else places ++ [x]

theorem collapse_cons_of_nil (h : collapse xs = []) : collapse (x :: xs) = [x] := by
  rw [collapse, h]

theorem collapse_cons_of_cons (h : collapse xs = y :: ys) :
    collapse (x :: xs) = if x = y then y :: ys else x :: y :: ys := by
  rw [collapse, h]
  exact if_congr beq_iff_eq rfl rfl

/-- Both ways of leaving repetitions out begin with the first place, also where it is repeated. -/
theorem exists_collapse_cons (x : LocationCode) (xs : List LocationCode) :
    ∃ rest, collapse (x :: xs) = x :: rest ∧ xs.destutter' (· ≠ ·) x = x :: rest := by
  induction xs generalizing x with
  | nil => exact ⟨[], rfl, rfl⟩
  | cons y ys ih =>
    obtain ⟨rest, hcollapse, hdestutter⟩ := ih y
    rw [collapse_cons_of_cons hcollapse]
    by_cases hxy : x = y
    · subst hxy
      rw [if_pos rfl, List.destutter'_cons_neg _ (not_not.mpr rfl)]
      exact ⟨rest, rfl, hdestutter⟩
    · rw [if_neg hxy, List.destutter'_cons_pos _ hxy, hdestutter]
      exact ⟨y :: rest, rfl, rfl⟩

theorem collapse_eq_destutter (xs : List LocationCode) : collapse xs = xs.destutter (· ≠ ·) := by
  cases xs with
  | nil => rfl
  | cons x xs =>
    obtain ⟨rest, hcollapse, hdestutter⟩ := exists_collapse_cons x xs
    exact hcollapse.trans hdestutter.symm

theorem getLast?_goTo (places : List LocationCode) (x : LocationCode) :
    (goTo places x).getLast? = some x := by
  unfold goTo
  split
  · assumption
  · exact List.getLast?_concat

/-- Whoever has come to a place does not go there again. -/
theorem goTo_goTo (places : List LocationCode) (x : LocationCode) :
    goTo (goTo places x) x = goTo places x := by
  rw [goTo, if_pos (getLast?_goTo places x)]

/-- From the end, places are gone to one after the other. -/
theorem collapse_append_singleton (xs : List LocationCode) (x : LocationCode) :
    collapse (xs ++ [x]) = goTo (collapse xs) x := by
  induction xs with
  | nil => rfl
  | cons a xs ih =>
    rw [List.cons_append]
    cases hrest : collapse xs with
    | nil =>
      rw [hrest] at ih
      rw [collapse_cons_of_nil hrest, collapse_cons_of_cons ih]
      by_cases hax : a = x
      · rw [if_pos hax, goTo, if_pos (by rw [hax]; rfl), hax]
      · rw [if_neg hax, goTo, if_neg (by simpa using hax)]
        rfl
    | cons y ys =>
      rw [hrest] at ih
      have hlast : ∀ z, (z :: y :: ys).getLast? = (y :: ys).getLast? := fun z =>
        List.getLast?_cons_cons
      by_cases hx : (y :: ys).getLast? = some x
      · rw [goTo, if_pos hx] at ih
        rw [collapse_cons_of_cons hrest, collapse_cons_of_cons ih, goTo]
        by_cases hay : a = y
        · rw [if_pos hay, if_pos hx]
        · rw [if_neg hay, hlast a, if_pos hx]
      · rw [goTo, if_neg hx, List.cons_append] at ih
        rw [collapse_cons_of_cons hrest, collapse_cons_of_cons ih, goTo]
        by_cases hay : a = y
        · rw [if_pos hay, if_pos hay, if_neg hx]
          rfl
        · rw [if_neg hay, if_neg hay, hlast a, if_neg hx]
          rfl

/-- Staying at a place is coming to it once. -/
theorem collapse_append_replicate (xs : List LocationCode) (x : LocationCode) (n : Nat) :
    collapse (xs ++ List.replicate (n + 1) x) = goTo (collapse xs) x := by
  induction n with
  | zero => exact collapse_append_singleton xs x
  | succ n ih =>
    rw [List.replicate_succ', ← List.append_assoc, collapse_append_singleton, ih, goTo_goTo]

/-- Places come first in the same order. -/
theorem eraseDups_collapse (xs : List LocationCode) : (collapse xs).eraseDups = xs.eraseDups := by
  induction xs using List.reverseRecOn with
  | nil => rfl
  | append_singleton xs x ih =>
    have hmem : x ∈ collapse xs ↔ x ∈ xs := by
      rw [← List.mem_eraseDups, ih, List.mem_eraseDups]
    rw [collapse_append_singleton, eraseDups_append_singleton, ← ih, goTo]
    by_cases hlast : (collapse xs).getLast? = some x
    · rw [if_pos hlast, if_pos (hmem.mp (List.mem_of_getLast? hlast))]
    · rw [if_neg hlast, eraseDups_append_singleton]
      simp only [hmem]

theorem map_location_visitsOf (entries : List (LocationCode × String)) :
    (visitsOf entries).map Visit.location = collapse (entries.map Prod.fst) := by
  induction entries with
  | nil => rfl
  | cons e entries ih =>
    obtain ⟨place, activity⟩ := e
    cases hrest : visitsOf entries with
    | nil =>
      rw [hrest] at ih
      rw [visitsOf_cons_nil hrest]
      exact (collapse_cons_of_nil ih.symm).symm
    | cons v visits =>
      rw [hrest] at ih
      have hcollapse := collapse_cons_of_cons (x := place) ih.symm
      rw [List.map_cons, hcollapse]
      by_cases hv : v.location = place
      · rw [visitsOf_cons_same hrest hv, if_pos hv.symm, List.map_cons, hv]
      · rw [visitsOf_cons_other hrest hv, if_neg (Ne.symm hv)]
        rfl

end Collapse

/-! ## The compact form -/

/-- The places of some stops, one after the other: a pickup is at the origin of its freight and a
delivery at the destination. -/
def placesOf (stops : List Stop) : List LocationCode :=
  (stops.map fun s =>
    match s.kind with
    | .pickup => s.shipment.origin
    | .delivery => s.shipment.destination).destutter (· ≠ ·)

theorem compactRoute_eq (r : Route) :
    compactRoute r = "[" ++ "-".intercalate (placesOf r.stops) ++ "]" := by
  rw [compactRoute, compactLocations, collapse_eq_destutter]
  rfl

/-- **The routes of an iteration in one text.** -/
theorem networkText_eq (routes : List Route) :
    networkText routes = "[" ++ ", ".intercalate
      (routes.map fun r => "[" ++ "-".intercalate (placesOf r.stops) ++ "]") ++ "]" := by
  rw [networkText, List.map_congr_left fun r _ => compactRoute_eq r]

/-! ## Stays that say something new -/

/-- The visit has an entry that none of the earlier ones has. -/
def SaysMore (before : List Visit) (v : Visit) : Prop :=
  ∃ e ∈ v.entries, e ∉ before.flatMap Visit.entries

/-- Every visit says more than the ones before it. -/
def EachSaysMore (visits : List Visit) : Prop :=
  ∀ before v after, visits = before ++ v :: after → SaysMore before v

theorem eachSaysMore_append_singleton {visits : List Visit} {v : Visit} :
    EachSaysMore (visits ++ [v]) ↔ EachSaysMore visits ∧ SaysMore visits v := by
  constructor
  · intro h
    refine ⟨fun before w after heq => ?_, h visits v [] rfl⟩
    refine h before w (after ++ [v]) ?_
    rw [heq, List.append_assoc, List.cons_append]
  · rintro ⟨hvisits, hv⟩ before w after heq
    rcases List.eq_nil_or_concat after with rfl | ⟨after, u, rfl⟩
    · obtain ⟨rfl, hlast⟩ := List.append_inj' heq rfl
      obtain rfl : v = w := List.singleton_inj.mp hlast
      exact hv
    · rw [List.concat_eq_append, ← List.cons_append, ← List.append_assoc] at heq
      obtain ⟨rfl, -⟩ := List.append_inj' heq rfl
      exact hvisits before w after rfl

theorem location_of_mem_entries {v : Visit} {e : LocationCode × String} (h : e ∈ v.entries) :
    e.1 = v.location := by
  obtain ⟨activity, -, rfl⟩ := List.mem_map.mp h
  rfl

section Stays

variable {before visits : List Visit} {v : Visit}

/-- A visit that says something new is gone to, whatever else of it is dropped. -/
theorem collapse_append_of_saysMore (h : SaysMore before v) :
    collapse ((before.flatMap Visit.entries ++ v.entries).eraseDups.map Prod.fst) =
      goTo (collapse ((before.flatMap Visit.entries).eraseDups.map Prod.fst)) v.location := by
  obtain ⟨e, he, hnew⟩ := h
  rw [List.eraseDups_append, List.map_append]
  generalize hrest : (v.entries.removeAll (before.flatMap Visit.entries)).eraseDups = rest
  have hmem : e ∈ rest := by
    rw [← hrest, List.mem_eraseDups, mem_removeAll]
    exact ⟨he, hnew⟩
  have hplace : ∀ p ∈ rest.map Prod.fst, p = v.location := by
    intro p hp
    obtain ⟨d, hd, rfl⟩ := List.mem_map.mp hp
    rw [← hrest, List.mem_eraseDups, mem_removeAll] at hd
    exact location_of_mem_entries hd.1
  obtain ⟨n, hn⟩ := Nat.exists_eq_succ_of_ne_zero (List.length_pos_of_mem hmem).ne'
  have hreplicate : rest.map Prod.fst = List.replicate (n + 1) v.location :=
    List.eq_replicate_iff.mpr ⟨by rw [List.length_map, hn], hplace⟩
  rw [hreplicate, collapse_append_replicate]

/-- A visit that does not is dropped. -/
theorem eraseDups_append_of_not_saysMore (h : ¬ SaysMore before v) :
    (before.flatMap Visit.entries ++ v.entries).eraseDups =
      (before.flatMap Visit.entries).eraseDups := by
  have hnone : v.entries.removeAll (before.flatMap Visit.entries) = [] := by
    rw [List.eq_nil_iff_forall_not_mem]
    intro e he
    obtain ⟨he, hnew⟩ := mem_removeAll.mp he
    exact h ⟨e, he, hnew⟩
  rw [List.eraseDups_append, hnone]
  exact List.append_nil _

/-- A further place is taken exactly if the places before it were. -/
theorem goTo_eq_append_iff {places expected : List LocationCode} {x : LocationCode}
    (hlength : places.length ≤ expected.length) (hlast : expected.getLast? ≠ some x) :
    goTo places x = expected ++ [x] ↔ places = expected := by
  constructor
  · intro h
    by_cases hx : places.getLast? = some x
    · rw [goTo, if_pos hx] at h
      have hlength' := congrArg List.length h
      rw [List.length_append, List.length_singleton] at hlength'
      omega
    · rw [goTo, if_neg hx] at h
      exact List.append_cancel_right h
  · rintro rfl
    exact if_neg hlast

theorem length_goTo_le (places : List LocationCode) (x : LocationCode) :
    (goTo places x).length ≤ places.length + 1 := by
  unfold goTo
  split
  · omega
  · rw [List.length_append, List.length_singleton]

/-- **Visits keep their places** when repeated entries are dropped, if each says something new, and
otherwise there are fewer of them. -/
theorem collapse_eraseDups_eq_iff (h : Separate visits) :
    (collapse ((visits.flatMap Visit.entries).eraseDups.map Prod.fst)).length ≤ visits.length ∧
      (collapse ((visits.flatMap Visit.entries).eraseDups.map Prod.fst) =
        visits.map Visit.location ↔ EachSaysMore visits) := by
  induction visits using List.reverseRecOn with
  | nil =>
    refine ⟨le_refl _, iff_of_true rfl ?_⟩
    intro before v after heq
    simp at heq
  | append_singleton visits v ih =>
    obtain ⟨hinit, -, hnext⟩ := List.isChain_append.mp h.apart
    obtain ⟨hlength, hiff⟩ :=
      ih ⟨fun u hu => h.active u (List.mem_append_left _ hu), hinit⟩
    rw [List.flatMap_append, List.flatMap_singleton, List.length_append, List.length_singleton,
      List.map_append, List.map_singleton, eachSaysMore_append_singleton]
    by_cases hv : SaysMore visits v
    · have hlast : (visits.map Visit.location).getLast? ≠ some v.location := by
        rw [List.getLast?_map]
        intro hlast
        obtain ⟨u, hu, hplace⟩ := Option.map_eq_some_iff.mp hlast
        exact hnext u hu v rfl hplace
      rw [collapse_append_of_saysMore hv, and_iff_left hv, ← hiff]
      refine ⟨(length_goTo_le _ _).trans (Nat.succ_le_succ hlength), goTo_eq_append_iff ?_ hlast⟩
      rw [List.length_map]
      exact hlength
    · rw [eraseDups_append_of_not_saysMore hv]
      refine ⟨hlength.trans (Nat.le_succ _), iff_of_false (fun heq => ?_) fun hand => hv hand.2⟩
      rw [heq, List.length_append, List.length_map, List.length_singleton] at hlength
      omega

end Stays

/-! ## Times that do not go back -/

/-- The times of some stops, one after the other. -/
def times (stops : List Stop) : List Float := stops.flatMap fun s => [s.arrival, s.departure]

theorem pairwise_minutes {stops : List Stop} (h : (times stops).IsChain (· ≤ ·)) :
    ((times stops).map minutesOf).Pairwise (· ≤ ·) := by
  rw [← List.isChain_iff_pairwise, List.isChain_map]
  exact h.imp fun _ _ => minutesOf_mono

/-- An entry names the minutes of its times. -/
theorem minutesOf_eq_of_token_eq {s t : Stop} (h : token s = token t) :
    minutesOf s.arrival = minutesOf t.arrival ∧ minutesOf s.departure = minutesOf t.departure := by
  have hlist := congrArg (fun e : LocationCode × String => e.2.toList) h
  have hparts : ∀ u : Stop, (activityText u).toList = [u.kind.tag, ':'] ++
      ((hoursText u.arrival).toList ++ ('-' :: (hoursText u.departure).toList)) := by
    intro u
    simp [activityText]
  change (activityText s).toList = (activityText t).toList at hlist
  rw [hparts, hparts] at hlist
  obtain ⟨-, htimes⟩ := List.append_inj hlist rfl
  obtain ⟨harrival, hrest⟩ := hoursText_append_inj htimes
  have hdeparture := String.toList_injective (List.cons.inj hrest).2
  exact ⟨harrival, hoursText_eq_iff.mp hdeparture⟩

theorem times_append (before after : List Stop) :
    times (before ++ after) = times before ++ times after := List.flatMap_append

theorem times_cons (s : Stop) (stops : List Stop) :
    times (s :: stops) = s.arrival :: s.departure :: times stops := rfl

theorem mem_times {s : Stop} {stops : List Stop} (h : s ∈ stops) :
    s.arrival ∈ times stops ∧ s.departure ∈ times stops := by
  constructor
  · exact List.mem_flatMap.mpr ⟨s, h, List.mem_cons_self⟩
  · exact List.mem_flatMap.mpr ⟨s, h, List.mem_cons_of_mem _ List.mem_cons_self⟩

/-- **An entry is repeated only within one minute.** All that is done from the one stop to the other
is done in it. -/
theorem exists_minute_of_token_eq {before between after : List Stop} {s t : Stop}
    (h : (times (before ++ s :: between ++ t :: after)).IsChain (· ≤ ·))
    (htoken : token s = token t) :
    ∃ minute, ∀ u ∈ s :: between ++ [t],
      minutesOf u.arrival = minute ∧ minutesOf u.departure = minute := by
  obtain ⟨harrival, hdeparture⟩ := minutesOf_eq_of_token_eq htoken
  have hsorted := pairwise_minutes h
  rw [List.append_assoc, times_append, List.cons_append, times_cons, times_append, times_cons,
    List.map_append, List.map_cons, List.map_cons, List.map_append, List.map_cons,
    List.map_cons] at hsorted
  obtain ⟨-, hsorted, -⟩ := List.pairwise_append.mp hsorted
  obtain ⟨hfirst, hsorted⟩ := List.pairwise_cons.mp hsorted
  obtain ⟨hleft, hsorted⟩ := List.pairwise_cons.mp hsorted
  obtain ⟨-, -, hbetween⟩ := List.pairwise_append.mp hsorted
  have hstay : minutesOf s.arrival ≤ minutesOf s.departure := hfirst _ List.mem_cons_self
  have hreturn : minutesOf s.departure ≤ minutesOf t.arrival :=
    hleft _ (List.mem_append_right _ List.mem_cons_self)
  -- Every time between the two is held between the minute of the one and that of the other.
  have hheld : ∀ x ∈ times between, minutesOf x = minutesOf s.arrival := by
    intro x hx
    have hx := List.mem_map_of_mem (f := minutesOf) hx
    have hlo := hfirst _ (List.mem_cons_of_mem _ (List.mem_append_left _ hx))
    have hhi := hbetween _ hx _ List.mem_cons_self
    omega
  refine ⟨minutesOf s.arrival, fun u hu => ?_⟩
  rcases List.mem_append.mp hu with hu | hu
  · rcases List.mem_cons.mp hu with rfl | hu
    · exact ⟨rfl, by omega⟩
    · exact ⟨hheld _ (mem_times hu).1, hheld _ (mem_times hu).2⟩
  · obtain rfl := List.mem_singleton.mp hu
    exact ⟨harrival.symm, by omega⟩

/-! ## Both forms -/

/-- Two stops at the end that are left together are at one location. -/
def LeavesOnePlace (stops : List Stop) : Prop :=
  ∀ before previous last, stops = before ++ [previous, last] →
    (previous.departure == last.departure) = true → previous.location = last.location

/-- What is done at one location after the other, before repeated entries are dropped. -/
def stays (r : Route) : List Visit := visitsOf ((keptStops r.stops).map token)

/-- A last stop at the location of the one before it is not missed. -/
theorem collapse_keptStops {stops : List Stop} (h : LeavesOnePlace stops) :
    collapse ((keptStops stops).map Stop.location) = collapse (stops.map Stop.location) := by
  obtain ⟨htogether, hapart⟩ := isKept_keptStops stops
  by_cases hlast : LeavesTogether stops
  · rw [htogether hlast]
    obtain ⟨before, previous, last, rfl, hsame⟩ := hlast
    have hplace := h before previous last rfl hsame
    have hsplit : (before ++ [previous, last]) = (before ++ [previous]) ++ [last] := by simp
    rw [hsplit, List.dropLast_concat]
    simp only [List.map_append, List.map_singleton, collapse_append_singleton, hplace, goTo_goTo]
  · rw [hapart hlast]

theorem map_location_stays {r : Route} (h : LeavesOnePlace r.stops) :
    (stays r).map Visit.location = compactLocations r := by
  have htoken : Prod.fst ∘ token = Stop.location := rfl
  rw [stays, map_location_visitsOf, List.map_map, htoken, collapse_keptStops h, compactLocations]

/-- **The compact and the timed form visit the same places**, in the order in which these come
first. They visit them equally often exactly if every stay says something new, and where a stop says
what an earlier one said, all between the two is done in one minute. -/
theorem timedVisits_locations {r : Route} (htimes : (times r.stops).IsChain (· ≤ ·))
    (hlast : LeavesOnePlace r.stops) :
    (∀ s ∈ r.stops, s.location ∈ (timedVisits r).map Visit.location) ∧
      ((timedVisits r).map Visit.location).eraseDups = (compactLocations r).eraseDups ∧
      ((timedVisits r).map Visit.location = compactLocations r ↔ EachSaysMore (stays r)) ∧
      ∀ before s between t after, r.stops = before ++ s :: between ++ t :: after →
        token s = token t → ∃ minute, ∀ u ∈ s :: between ++ [t],
          minutesOf u.arrival = minute ∧ minutesOf u.departure = minute := by
  have hstays := map_location_stays hlast
  have hsame : ((timedVisits r).map Visit.location).eraseDups = (compactLocations r).eraseDups := by
    rw [timedVisits, map_location_visitsOf, eraseDups_collapse, eraseDups_map_eraseDups, ← hstays,
      stays, map_location_visitsOf, eraseDups_collapse]
  refine ⟨?_, hsame, ?_, ?_⟩
  · intro s hs
    rw [← List.mem_eraseDups, hsame, compactLocations, eraseDups_collapse, List.mem_eraseDups]
    exact List.mem_map_of_mem hs
  · rw [timedVisits, map_location_visitsOf, ← hstays]
    have hiff := (collapse_eraseDups_eq_iff (separate_visitsOf ((keptStops r.stops).map token))).2
    rw [flatMap_entries_visitsOf] at hiff
    exact hiff
  · rintro before s between t after heq htoken
    rw [heq] at htimes
    exact exists_minute_of_token_eq htimes htoken

/-- Two deliveries to one place after the other, where the second takes no time. -/
def twoAtHub : Route :=
  ⟨"14_Feet_1-H", .feet14, [⟨.pickup, ⟨"X", "H", 1⟩, 30, 5.0, 6.0⟩,
    ⟨.pickup, ⟨"Y", "H", 1⟩, 40, 7.0, 8.0⟩, ⟨.delivery, ⟨"X", "H", 1⟩, 30, 10.0, 11.0⟩,
    ⟨.delivery, ⟨"Y", "H", 1⟩, 40, 11.0, 11.0⟩], 4.0, 11.0⟩

theorem timedVisits_locations_two_at_hub :
    (times twoAtHub.stops).IsChain (· ≤ ·) ∧ LeavesOnePlace twoAtHub.stops ∧
      "H" ∈ (timedVisits twoAtHub).map Visit.location ∧
      (timedVisits twoAtHub).map Visit.location = compactLocations twoAtHub ∧
      EachSaysMore (stays twoAtHub) := by
  have htimes : (times twoAtHub.stops).IsChain (· ≤ ·) := by decide +kernel
  have hlast : LeavesOnePlace twoAtHub.stops := by
    intro before previous last h _
    change [_, _] ++ [_, _] = _ at h
    obtain ⟨-, hpair⟩ := List.append_inj' h rfl
    obtain ⟨rfl, hone⟩ := List.cons.inj hpair
    obtain rfl := List.singleton_inj.mp hone
    rfl
  obtain ⟨hvisited, -, hequal, -⟩ := timedVisits_locations htimes hlast
  have hsame : (timedVisits twoAtHub).map Visit.location = compactLocations twoAtHub := by
    decide +kernel
  refine ⟨htimes, hlast, hvisited ⟨.delivery, ⟨"X", "H", 1⟩, 30, 10.0, 11.0⟩ ?_, hsame,
    hequal.mp hsame⟩
  exact .tail _ (.tail _ (.head _))

/-- From the hub to a branch and back within a minute. -/
def backWithinMinute : Route :=
  ⟨"14_Feet_1-H", .feet14, [⟨.pickup, ⟨"H", "X", 1⟩, 30, 5.0, 5.0⟩,
    ⟨.delivery, ⟨"H", "X", 1⟩, 30, 5.0, 5.0⟩, ⟨.pickup, ⟨"H", "Y", 1⟩, 40, 5.0, 5.0⟩,
    ⟨.delivery, ⟨"H", "Y", 1⟩, 40, 6.0, 7.0⟩], 5.0, 7.0⟩

/-- Two places that are left at the same time. -/
def leavesBothAtSix : Route :=
  ⟨"14_Feet_1-H", .feet14, [⟨.pickup, ⟨"X", "H", 1⟩, 30, 5.0, 6.0⟩,
    ⟨.delivery, ⟨"X", "H", 1⟩, 30, 6.0, 6.0⟩], 5.0, 6.0⟩

/-- The second stay at the hub is not in the timed form, and neither is a last stop elsewhere that
is left together with the one before it. -/
theorem timedVisits_misses_stays :
    ((times backWithinMinute.stops).IsChain (· ≤ ·) ∧
      compactLocations backWithinMinute = ["H", "X", "H", "Y"] ∧
      (timedVisits backWithinMinute).map Visit.location = ["H", "X", "Y"]) ∧
    (times leavesBothAtSix.stops).IsChain (· ≤ ·) ∧
      compactLocations leavesBothAtSix = ["X", "H"] ∧
      (timedVisits leavesBothAtSix).map Visit.location = ["X"] := by
  decide +kernel

end Report
end HubDispatch
