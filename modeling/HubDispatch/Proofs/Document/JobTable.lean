import HubDispatch.Document.JobTable
import HubDispatch.Proofs.Outcome

/-!
# The job table of a problem

The table of a problem lists the job ids of its shipments by position, and it exists when no two of
them are the same (`ofProblem_eq_ok_iff`). An id therefore leads to the one shipment that has it
(`resolve_eq_ok_iff`), and to none if no shipment has it.
-/

namespace HubDispatch

/-- The shipment at position `i` is the only one of the problem with the job id. -/
structure Problem.NamesAt (p : Problem) (id : String) (i : Nat) (s : Shipment) : Prop where
  shipment : p.shipments[i]? = some s
  jobId : s.reference.jobId = .ok id
  unique : ∀ j t, p.shipments[j]? = some t → t.reference.jobId = .ok id → j = i

namespace JobTable

variable {p : Problem} {jobs : JobTable} {id : String}

/-- A shipment enters the table under its id, which must be new. -/
theorem extend_cons_eq_ok_iff {table result : JobTable} {i : Nat} {s : Shipment}
    {rest : List Shipment} :
    extend table i (s :: rest) = .ok result ↔
      ∃ id, s.reference.jobId = .ok id ∧ table.lookup id = none ∧
        extend (table ++ [(id, i)]) (i + 1) rest = .ok result := by
  rw [extend]
  cases s.reference.jobId with
  | error fault => simp
  | ok id =>
    dsimp only
    split
    · rename_i hold
      refine iff_of_false (by simp) ?_
      rintro ⟨_, ⟨⟩, hnew, -⟩
      rw [hnew] at hold
      cases hold
    · rename_i hnew
      have hnew : table.lookup id = none := Option.not_isSome_iff_eq_none.mp hnew
      refine ⟨fun h => ⟨id, rfl, hnew, h⟩, ?_⟩
      rintro ⟨_, ⟨⟩, -, h⟩
      exact h

/-- An entry at the end is found by its id where that is new. -/
theorem lookup_concat_eq_none_iff {table : JobTable} {i : Nat} {other : String} :
    (table ++ [(id, i)]).lookup other = none ↔ table.lookup other = none ∧ other ≠ id := by
  simp only [List.lookup_eq_none_iff, List.forall_mem_append, List.forall_mem_singleton,
    bne_iff_ne]

/-- A table is extended by the ids of the shipments, all new and all different. -/
theorem extend_eq_ok_iff {table result : JobTable} {i : Nat} {shipments : List Shipment} :
    extend table i shipments = .ok result ↔
      ∃ ids, List.Forall₂ (fun s id => s.reference.jobId = .ok id) shipments ids ∧ ids.Nodup ∧
        (∀ id ∈ ids, table.lookup id = none) ∧ table ++ ids.zipIdx i = result := by
  -- On the shipments, for every table before them: each step leaves a longer one.
  induction shipments generalizing table i with
  | nil => simp [extend]
  | cons s rest ih =>
    simp only [extend_cons_eq_ok_iff, ih, lookup_concat_eq_none_iff]
    constructor
    · rintro ⟨id, hid, hold, ids, hids, hnodup, hnew, rfl⟩
      refine ⟨id :: ids, .cons hid hids, ?_, ?_, by simp [List.zipIdx_cons]⟩
      · exact List.nodup_cons.mpr ⟨fun hm => (hnew id hm).2 rfl, hnodup⟩
      · exact List.forall_mem_cons.mpr ⟨hold, fun other hm => (hnew other hm).1⟩
    · rintro ⟨_, _ | @⟨_, id, _, ids, hid, hids⟩, hnodup, hnew, rfl⟩
      obtain ⟨hfresh, hnodup⟩ := List.nodup_cons.mp hnodup
      obtain ⟨hold, hnew⟩ := List.forall_mem_cons.mp hnew
      refine ⟨id, hid, hold, ids, hids, hnodup, fun other hm => ⟨hnew other hm, ?_⟩, ?_⟩
      · exact fun he => hfresh (he ▸ hm)
      · simp [List.zipIdx_cons]

/-- **The table of a problem** lists the ids of its shipments, which must differ, by position. -/
theorem ofProblem_eq_ok_iff :
    ofProblem p = .ok jobs ↔
      ∃ ids, List.Forall₂ (fun s id => s.reference.jobId = .ok id) p.shipments ids ∧ ids.Nodup ∧
        ids.zipIdx = jobs := by
  unfold ofProblem
  rw [extend_eq_ok_iff]
  simp

/-- Numbered ids are found by their numbers. -/
theorem lookup_zipIdx_eq_some_iff {ids : List String} (h : ids.Nodup) {k n : Nat} :
    (ids.zipIdx k).lookup id = some n ↔ ∃ i, ids[i]? = some id ∧ n = k + i := by
  induction ids generalizing k with
  | nil => simp
  | cons first ids ih =>
    obtain ⟨hfirst, hids⟩ := List.nodup_cons.mp h
    rw [List.zipIdx_cons, List.lookup_cons]
    by_cases he : id = first
    · subst he
      simp only [beq_self_eq_true, Option.some.injEq]
      constructor
      · rintro rfl
        exact ⟨0, rfl, rfl⟩
      · rintro ⟨_ | i, hi, rfl⟩
        · rfl
        · rw [List.getElem?_cons_succ] at hi
          exact absurd (List.mem_of_getElem? hi) hfirst
    · rw [beq_eq_false_iff_ne.mpr he, ih hids]
      constructor
      · rintro ⟨i, hi, rfl⟩
        exact ⟨i + 1, hi, by omega⟩
      · rintro ⟨_ | i, hi, rfl⟩
        · exact absurd (Option.some.inj hi).symm he
        · exact ⟨i, hi, by omega⟩

/-- Where the ids of a problem differ, a position and an id name a shipment exactly if the id
stands at the position. -/
theorem namesAt_iff {ids : List String}
    (hids : List.Forall₂ (fun s id => s.reference.jobId = .ok id) p.shipments ids)
    (hnodup : ids.Nodup) {i : Nat} {s : Shipment} :
    p.NamesAt id i s ↔ p.shipments[i]? = some s ∧ ids[i]? = some id := by
  -- Having an id and having it listed at one's position are the same.
  have hat : ∀ (j : Nat) (t : Shipment), p.shipments[j]? = some t →
      (t.reference.jobId = .ok id ↔ ids[j]? = some id) := by
    intro j t ht
    obtain ⟨hj, rfl⟩ := List.getElem?_eq_some_iff.mp ht
    have hj' : j < ids.length := hids.length_eq ▸ hj
    have hid : p.shipments[j].reference.jobId = .ok ids[j] := hids.get hj hj'
    rw [hid, List.getElem?_eq_getElem hj', Except.ok.injEq, Option.some.injEq]
  constructor
  · rintro ⟨hs, hid, -⟩
    exact ⟨hs, (hat i s hs).mp hid⟩
  · rintro ⟨hs, hi⟩
    refine ⟨hs, (hat i s hs).mpr hi, fun j t ht hj => ?_⟩
    obtain ⟨hlt, -⟩ := List.getElem?_eq_some_iff.mp hi
    refine (List.getElem?_inj hlt hnodup).mp (hi.trans ?_) |>.symm
    exact ((hat j t ht).mp hj).symm

/-- **An id leads to the one shipment that has it.** -/
theorem resolve_eq_ok_iff (h : ofProblem p = .ok jobs) {s : Shipment} :
    jobs.resolve p id = .ok s ↔ ∃ i, p.NamesAt id i s := by
  obtain ⟨ids, hids, hnodup, rfl⟩ := ofProblem_eq_ok_iff.mp h
  have hfound : (ids.zipIdx.lookup id).bind (p.shipments[·]?) = some s ↔
      ∃ i : Nat, ids[i]? = some id ∧ p.shipments[i]? = some s := by
    simp [Option.bind_eq_some_iff, lookup_zipIdx_eq_some_iff hnodup]
  have hnames : (∃ i, p.NamesAt id i s) ↔ ∃ i : Nat, ids[i]? = some id ∧ p.shipments[i]? = some s :=
    exists_congr fun i => (namesAt_iff hids hnodup).trans and_comm
  rw [hnames, ← hfound, resolve]
  cases (ids.zipIdx.lookup id).bind (p.shipments[·]?) <;> simp

/-- An id is known exactly if a shipment of the problem has it. -/
theorem exists_namesAt_iff (h : ofProblem p = .ok jobs) :
    (∃ i s, p.NamesAt id i s) ↔ ∃ s ∈ p.shipments, s.reference.jobId = .ok id := by
  obtain ⟨ids, hids, hnodup, -⟩ := ofProblem_eq_ok_iff.mp h
  constructor
  · rintro ⟨i, s, hnames⟩
    exact ⟨s, List.mem_of_getElem? hnames.shipment, hnames.jobId⟩
  · rintro ⟨s, hs, hid⟩
    obtain ⟨i, hi, rfl⟩ := List.getElem_of_mem hs
    have hi' : i < ids.length := hids.length_eq ▸ hi
    have hat : p.shipments[i].reference.jobId = .ok ids[i] := hids.get hi hi'
    obtain rfl : ids[i] = id := Except.ok.inj (hat.symm.trans hid)
    exact ⟨i, _, (namesAt_iff hids hnodup).mpr
      ⟨List.getElem?_eq_getElem hi, List.getElem?_eq_getElem hi'⟩⟩

end JobTable
end HubDispatch
