import HubDispatch.Proofs.Document.Problem

/-!
# When a problem has a job table

Shipments enter the table in their order, and the first that cannot ends the work. It cannot where
one of its codes cannot stand in a job id, or where a shipment before it has the same id
(`Refused`). A table that has come as far as some position therefore holds just the ids in front of
it, and looking an id up there is looking for an earlier shipment (`exists_lookup_iff`).

So a problem has a table exactly if no shipment is refused, the table leads from the ids of the
shipments to their positions and from nothing else, and the fault that is reported otherwise is that
of the first shipment that is refused (`ofProblem_jobTable`).
-/

namespace HubDispatch

/-- A reference without job id is reported by the first of its codes that cannot stand in one. -/
theorem ShipmentRef.jobId_eq_error_iff {r : ShipmentRef} {fault : Fault} :
    r.jobId = .error fault ↔
      isEncodable r.origin = false ∧ .invalidShipmentRef r.origin = fault ∨
        isEncodable r.origin = true ∧ isEncodable r.destination = false ∧
          .invalidShipmentRef r.destination = fault := by
  rw [jobId]
  cases isEncodable r.origin <;> cases isEncodable r.destination <;> simp

namespace JobTable

variable {p : Problem} {i : Nat} {fault : Fault} {id : String}

/-- Why the shipment at position `i` cannot enter the table of those before it. -/
inductive Refused (p : Problem) (i : Nat) : Fault → Prop where
  /-- Its origin cannot stand in a job id. -/
  | origin {s : Shipment} (at_i : p.shipments[i]? = some s)
      (barred : ShipmentRef.isEncodable s.origin = false) :
      Refused p i (.invalidShipmentRef s.origin)
  /-- Its origin can stand in a job id, its destination cannot. -/
  | destination {s : Shipment} (at_i : p.shipments[i]? = some s)
      (allowed : ShipmentRef.isEncodable s.origin = true)
      (barred : ShipmentRef.isEncodable s.destination = false) :
      Refused p i (.invalidShipmentRef s.destination)
  /-- A shipment before it has the same job id. -/
  | repeated {s t : Shipment} {j : Nat} {id : String} (at_i : p.shipments[i]? = some s)
      (jobId : s.reference.jobId = .ok id) (earlier : j < i) (at_j : p.shipments[j]? = some t)
      (same : t.reference.jobId = .ok id) : Refused p i (.invalidShipmentRef id)

/-- A shipment is refused because it has no job id, or because its id is taken. -/
theorem refused_iff :
    Refused p i fault ↔ ∃ s, p.shipments[i]? = some s ∧
      (s.reference.jobId = .error fault ∨ ∃ id, s.reference.jobId = .ok id ∧
        .invalidShipmentRef id = fault ∧
        ∃ j t, j < i ∧ p.shipments[j]? = some t ∧ t.reference.jobId = .ok id) := by
  constructor
  · rintro (⟨hs, hbarred⟩ | ⟨hs, hallowed, hbarred⟩ | ⟨hs, hid, hlt, ht, hsame⟩)
    · exact ⟨_, hs, Or.inl (ShipmentRef.jobId_eq_error_iff.mpr (Or.inl ⟨hbarred, rfl⟩))⟩
    · exact ⟨_, hs, Or.inl (ShipmentRef.jobId_eq_error_iff.mpr
        (Or.inr ⟨hallowed, hbarred, rfl⟩))⟩
    · exact ⟨_, hs, Or.inr ⟨_, hid, rfl, _, _, hlt, ht, hsame⟩⟩
  · rintro ⟨s, hs, hnone | ⟨id, hid, rfl, j, t, hlt, ht, hsame⟩⟩
    · rcases ShipmentRef.jobId_eq_error_iff.mp hnone with ⟨hbarred, rfl⟩ | ⟨hallowed, hbarred, rfl⟩
      · exact .origin hs hbarred
      · exact .destination hs hallowed hbarred
    · exact .repeated hs hid hlt ht hsame

/-! ## Tables -/

/-- The job ids of shipments are their texts, where all codes can stand in one. -/
theorem forall₂_jobId_iff {shipments : List Shipment} {ids : List String} :
    List.Forall₂ (fun s id => s.reference.jobId = .ok id) shipments ids ↔
      (∀ s ∈ shipments, ShipmentRef.isEncodable s.origin = true ∧
        ShipmentRef.isEncodable s.destination = true) ∧
        shipments.map (·.reference.text) = ids := by
  rw [← mapM_eq_ok_iff]
  refine mapM_eq_ok_map_iff fun s _ id => ?_
  rw [ShipmentRef.jobId_eq_ok_iff, ← ShipmentRef.isEncodable_iff, ← ShipmentRef.isEncodable_iff,
    and_assoc]
  rfl

/-- In a table of shipments, an id is found if it is that of a shipment. -/
theorem exists_lookup_iff {shipments : List Shipment} {table : JobTable}
    (h : extend [] 0 shipments = .ok table) :
    (table.lookup id).isSome = true ↔ ∃ s ∈ shipments, s.reference.jobId = .ok id := by
  obtain ⟨ids, hids, hnodup, -, rfl⟩ := extend_eq_ok_iff.mp h
  rw [List.nil_append, Option.isSome_iff_exists]
  simp only [lookup_zipIdx_eq_some_iff hnodup]
  constructor
  · rintro ⟨-, n, hn, -⟩
    exact exists_of_mem_right hids (List.mem_of_getElem? hn)
  · rintro ⟨s, hs, hid⟩
    obtain ⟨other, hother, hsame⟩ := exists_of_mem_right hids.flip hs
    obtain rfl : other = id := Except.ok.inj (hsame.symm.trans hid)
    obtain ⟨n, hlt, hn⟩ := List.getElem_of_mem hother
    exact ⟨_, n, by rw [List.getElem?_eq_getElem hlt, hn], rfl⟩

/-- The work ends at a shipment without id or with an id that is in the table, or behind it. -/
theorem extend_cons_eq_error_iff {table : JobTable} {s : Shipment} {rest : List Shipment} :
    extend table i (s :: rest) = .error fault ↔
      (s.reference.jobId = .error fault ∨ ∃ id, s.reference.jobId = .ok id ∧
        .invalidShipmentRef id = fault ∧ (table.lookup id).isSome = true) ∨
        ∃ id, s.reference.jobId = .ok id ∧ table.lookup id = none ∧
          extend (table ++ [(id, i)]) (i + 1) rest = .error fault := by
  rw [extend]
  cases s.reference.jobId with
  | error f => simp
  | ok id =>
    simp only [Except.ok.injEq, reduceCtorEq, false_or, exists_eq_left']
    cases table.lookup id <;> simp

/-- **Where the work ends**: some shipments have entered, and the next one has no id or an id that
is in the table by then. -/
theorem extend_eq_error_iff {table : JobTable} {shipments : List Shipment} :
    extend table i shipments = .error fault ↔
      ∃ before s after reached, shipments = before ++ s :: after ∧
        extend table i before = .ok reached ∧
        (s.reference.jobId = .error fault ∨ ∃ id, s.reference.jobId = .ok id ∧
          .invalidShipmentRef id = fault ∧ (reached.lookup id).isSome = true) := by
  induction shipments generalizing table i with
  | nil => simp [extend]
  | cons first rest ih =>
    rw [extend_cons_eq_error_iff]
    constructor
    · rintro (hwhy | ⟨id, hid, hnew, hrest⟩)
      · exact ⟨[], first, rest, table, rfl, rfl, hwhy⟩
      · obtain ⟨before, s, after, reached, rfl, hbefore, hwhy⟩ := ih.mp hrest
        exact ⟨first :: before, s, after, reached, rfl,
          extend_cons_eq_ok_iff.mpr ⟨id, hid, hnew, hbefore⟩, hwhy⟩
    · rintro ⟨_ | ⟨_, before⟩, s, after, reached, hsplit, hbefore, hwhy⟩
      · -- The first shipment is the one that cannot enter.
        cases hsplit
        cases hbefore
        exact Or.inl hwhy
      · cases hsplit
        obtain ⟨id, hid, hnew, hbefore⟩ := extend_cons_eq_ok_iff.mp hbefore
        exact Or.inr ⟨id, hid, hnew, ih.mpr ⟨before, s, after, reached, rfl, hbefore, hwhy⟩⟩

/-- Shipments have a table exactly if they have job ids and no two of them the same. -/
theorem exists_extend_iff {shipments : List Shipment} :
    (∃ table, extend [] 0 shipments = .ok table) ↔
      (∀ s ∈ shipments, ShipmentRef.isEncodable s.origin = true ∧
        ShipmentRef.isEncodable s.destination = true) ∧
        (shipments.map (·.reference.text)).Nodup := by
  simp only [extend_eq_ok_iff, forall₂_jobId_iff]
  constructor
  · rintro ⟨-, ids, ⟨hcodes, rfl⟩, hnodup, -⟩
    exact ⟨hcodes, hnodup⟩
  · rintro ⟨hcodes, hnodup⟩
    exact ⟨_, _, ⟨hcodes, rfl⟩, hnodup, fun _ _ => rfl, rfl⟩

/-- The shipment behind those that have entered is refused if it has no id or an id of theirs. -/
theorem refused_iff_of_reached {reached : JobTable} {s : Shipment}
    (h : extend [] 0 (p.shipments.take i) = .ok reached) (hs : p.shipments[i]? = some s) :
    Refused p i fault ↔ s.reference.jobId = .error fault ∨ ∃ id, s.reference.jobId = .ok id ∧
      .invalidShipmentRef id = fault ∧ (reached.lookup id).isSome = true := by
  have htaken : ∀ id, (∃ j t, j < i ∧ p.shipments[j]? = some t ∧ t.reference.jobId = .ok id) ↔
      (reached.lookup id).isSome = true := by
    intro id
    rw [exists_lookup_iff h]
    constructor
    · rintro ⟨j, t, hj, ht, hid⟩
      refine ⟨t, List.mem_of_getElem? (i := j) ?_, hid⟩
      rw [List.getElem?_take_of_lt hj, ht]
    · rintro ⟨t, ht, hid⟩
      obtain ⟨j, ht⟩ := List.mem_iff_getElem?.mp ht
      rw [List.getElem?_take] at ht
      obtain ⟨hj, ht⟩ := Option.ite_none_right_eq_some.mp ht
      exact ⟨j, t, hj, ht, hid⟩
  rw [refused_iff]
  simp only [hs, Option.some.injEq, exists_eq_left', htaken]

/-- The work ends among the first `n` shipments at one that is refused behind others that have
entered. -/
theorem extend_take_eq_error_iff {n : Nat} :
    extend [] 0 (p.shipments.take n) = .error fault ↔
      ∃ i < n, Refused p i fault ∧ ∃ reached, extend [] 0 (p.shipments.take i) = .ok reached := by
  rw [extend_eq_error_iff]
  constructor
  · rintro ⟨before, s, after, reached, hsplit, hreached, hwhy⟩
    have hs : (p.shipments.take n)[before.length]? = some s := by
      rw [hsplit, List.getElem?_append_right (Nat.le_refl _), Nat.sub_self, List.getElem?_cons_zero]
    rw [List.getElem?_take] at hs
    obtain ⟨hlt, hs⟩ := Option.ite_none_right_eq_some.mp hs
    have hbefore : p.shipments.take before.length = before := by
      rw [← Nat.min_eq_left (Nat.le_of_lt hlt), ← List.take_take, hsplit, List.take_left]
    rw [← hbefore] at hreached
    exact ⟨before.length, hlt, (refused_iff_of_reached hreached hs).mpr hwhy, reached, hreached⟩
  · rintro ⟨i, hi, hrefused, reached, hreached⟩
    obtain ⟨s, hs, -⟩ := refused_iff.mp hrefused
    obtain ⟨hlt, rfl⟩ := List.getElem?_eq_some_iff.mp hs
    refine ⟨p.shipments.take i, p.shipments[i], (p.shipments.take n).drop (i + 1), reached, ?_,
      hreached, (refused_iff_of_reached hreached hs).mp hrefused⟩
    have hlt' : i < (p.shipments.take n).length := by
      rw [List.length_take]
      omega
    rw [← List.getElem_take (h := hlt'), ← List.drop_eq_getElem_cons hlt',
      ← Nat.min_eq_left (Nat.le_of_lt hi), ← List.take_take,
      Nat.min_eq_left (Nat.le_of_lt hi), List.take_append_drop]

/-- **The first shipments have a table exactly if none of them is refused.** -/
theorem exists_extend_take_iff {n : Nat} :
    (∃ table, extend [] 0 (p.shipments.take n) = .ok table) ↔
      ∀ i < n, ∀ fault, ¬ Refused p i fault := by
  -- By how many they are: what ends the work at a later one is that the earlier ones have entered.
  induction n using Nat.strongRecOn with
  | ind n ih =>
    constructor
    · rintro ⟨table, htable⟩ i hi
      induction i using Nat.strongRecOn with
      | ind i earlier =>
        intro fault hrefused
        have hreached := (ih i hi).mpr fun j hj => earlier j hj (Nat.lt_trans hj hi)
        cases htable.symm.trans (extend_take_eq_error_iff.mpr ⟨i, hi, hrefused, hreached⟩)
    · intro hnone
      cases htable : extend [] 0 (p.shipments.take n) with
      | ok table => exact ⟨table, rfl⟩
      | error fault =>
        obtain ⟨i, hi, hrefused, -⟩ := extend_take_eq_error_iff.mp htable
        exact absurd hrefused (hnone i hi fault)

/-- **When a problem has a job table, and what is reported otherwise.** There is a table exactly if
all codes can stand in job ids and no two ids are the same. It leads from each id to the position of
the shipment that has it, and from no other text. Without table, the fault is that of the first
shipment that is refused: of its origin, else of its destination, else its id, which an earlier
shipment has. -/
theorem ofProblem_jobTable (p : Problem) :
    ((∃ jobs, ofProblem p = .ok jobs) ↔
      (∀ s ∈ p.shipments, ShipmentRef.isEncodable s.origin = true ∧
        ShipmentRef.isEncodable s.destination = true) ∧
        (p.shipments.map (·.reference.text)).Nodup) ∧
      (∀ jobs, ofProblem p = .ok jobs → ∀ id i, jobs.lookup id = some i ↔
        ∃ s, p.shipments[i]? = some s ∧ s.reference.jobId = .ok id) ∧
      ∀ fault, ofProblem p = .error fault ↔
        ∃ i, Refused p i fault ∧ ∀ j < i, ∀ other, ¬ Refused p j other := by
  refine ⟨exists_extend_iff, fun jobs hjobs id i => ?_, fun fault => ?_⟩
  · obtain ⟨ids, hids, hnodup, rfl⟩ := ofProblem_eq_ok_iff.mp hjobs
    simp only [lookup_zipIdx_eq_some_iff hnodup, Nat.zero_add, exists_eq_right']
    constructor
    · intro hid
      obtain ⟨hlt, rfl⟩ := List.getElem?_eq_some_iff.mp hid
      have hlt' : i < p.shipments.length := hids.length_eq ▸ hlt
      exact ⟨_, List.getElem?_eq_getElem hlt', hids.get hlt' hlt⟩
    · rintro ⟨s, hs, hid⟩
      obtain ⟨hlt, rfl⟩ := List.getElem?_eq_some_iff.mp hs
      have hlt' : i < ids.length := hids.length_eq ▸ hlt
      have hsame : p.shipments[i].reference.jobId = .ok ids[i] := hids.get hlt hlt'
      rw [List.getElem?_eq_getElem hlt', Except.ok.inj (hsame.symm.trans hid)]
  · have hall : ofProblem p = extend [] 0 (p.shipments.take p.shipments.length) := by
      rw [List.take_length, ofProblem]
    rw [hall, extend_take_eq_error_iff]
    constructor
    · rintro ⟨i, -, hrefused, hreached⟩
      exact ⟨i, hrefused, exists_extend_take_iff.mp hreached⟩
    · rintro ⟨i, hrefused, hfirst⟩
      obtain ⟨s, hs, -⟩ := refused_iff.mp hrefused
      obtain ⟨hlt, -⟩ := List.getElem?_eq_some_iff.mp hs
      exact ⟨i, hlt, hrefused, exists_extend_take_iff.mpr hfirst⟩

/-- Freight to two branches, the second part of one under the number of the first, and then a code
that no id can hold. -/
def numberTwice : Problem where
  shipments := [⟨⟨"H", "X", 1⟩, 40, ⟨5.0, 14.0⟩, ⟨0.0, 14.0⟩, 0.0, 1.0⟩,
    ⟨⟨"H", "Y", 1⟩, 25, ⟨5.0, 14.0⟩, ⟨0.0, 14.0⟩, 0.0, 1.0⟩,
    ⟨⟨"H", "X", 1⟩, 30, ⟨5.0, 14.0⟩, ⟨0.0, 14.0⟩, 0.0, 1.0⟩,
    ⟨⟨"H", "Z,", 1⟩, 30, ⟨5.0, 14.0⟩, ⟨0.0, 14.0⟩, 0.0, 1.0⟩]
  vehicles := []
  locations := []
  matrices := .empty

theorem ofProblem_jobTable_number_twice :
    ofProblem numberTwice = .error (.invalidShipmentRef "H - X, ShipmentNo:1") ∧
      (∃ i, Refused numberTwice i (.invalidShipmentRef "H - X, ShipmentNo:1") ∧
        ∀ j < i, ∀ other, ¬ Refused numberTwice j other) ∧
      ∃ jobs, ofProblem Document.partsAndBack = .ok jobs ∧
        jobs.lookup "X - H, ShipmentNo:1" = some 2 := by
  have hrefused : ofProblem numberTwice = .error (.invalidShipmentRef "H - X, ShipmentNo:1") := by
    decide +kernel
  obtain ⟨jobs, hjobs⟩ := (ofProblem_jobTable Document.partsAndBack).1.mpr (by decide +kernel)
  refine ⟨hrefused, ((ofProblem_jobTable numberTwice).2.2 _).mp hrefused, jobs, hjobs, ?_⟩
  exact ((ofProblem_jobTable Document.partsAndBack).2.1 jobs hjobs _ 2).mpr ⟨_, rfl, rfl⟩

end JobTable
end HubDispatch
