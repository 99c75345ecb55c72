import HubDispatch.Proofs.Sweep.Protocol

/-!
# Sweeps that share hours

Two sweeps may try the same hour as different candidates: one has come to it after other hours, the
other begins with it. If the optimizer's answers depend on nothing but the problem (`AnsweredBy`)
and both plans put the same problems (`SweepPlan.Agree`), the hour has the same result for both, up
to its number. This goes through the layers of the protocol, from the epoch to the sweep
(`Protocol.follows`).

A sweep that came to its end did so from each of its hours on (`Protocol.drop`). Together: a later
sweep repeats the end of an earlier one.
-/

namespace HubDispatch

/-! ## What was answered and reported -/

/-- Every answer of the optimizer is the one that `f` has for the problem. -/
def AnsweredBy (f : Problem → Except Failure (List Solution)) (talk : List Exchange) : Prop :=
  ∀ problem answer, Exchange.asked problem answer ∈ talk → answer = f problem

/-- The receiver refused no result. -/
def Accepted (talk : List Exchange) : Prop :=
  ∀ result answer, Exchange.received result answer ∈ talk → answer = .ok ()

/-- The results among the exchanges. -/
def results (talk : List Exchange) : List Iteration :=
  talk.filterMap fun exchange =>
    match exchange with
    | .received result _ => some result
    | .asked _ _ => none

/-- The results among the events. -/
def reported (events : List Event) : List Iteration :=
  events.filterMap fun event =>
    match event with
    | .received result => some result
    | _ => none

theorem results_append (talk talk' : List Exchange) :
    results (talk ++ talk') = results talk ++ results talk' :=
  List.filterMap_append

section Reading

variable {σ : Type} {optimizer : Optimizer σ}
  {receive : Iteration → σ → Except Failure Unit × σ}

theorem results_exchanges (events : List Event) (m : σ) :
    results (exchanges optimizer receive events m) = reported events := by
  induction events generalizing m with
  | nil => rfl
  | cons event events ih =>
    cases event with
    | noted entry => exact ih m
    | asked problem => exact ih (optimizer.solve problem m).2
    | received result => exact congrArg (result :: ·) (ih (receive result m).2)

/-- Every answer was given from some memory. -/
theorem exists_memory_of_mem_exchanges {exchange : Exchange} {events : List Event} {m : σ}
    (h : exchange ∈ exchanges optimizer receive events m) :
    ∃ m', match exchange with
      | .asked problem answer => (optimizer.solve problem m').1.result = answer
      | .received result answer => (receive result m').1 = answer := by
  induction events generalizing m with
  | nil => cases h
  | cons event events ih =>
    cases event with
    | noted entry => exact ih h
    | asked problem =>
      rcases List.mem_cons.mp h with rfl | hlater
      · exact ⟨m, rfl⟩
      · exact ih hlater
    | received result =>
      rcases List.mem_cons.mp h with rfl | hlater
      · exact ⟨m, rfl⟩
      · exact ih hlater

theorem answeredBy_exchanges {f : Problem → Except Failure (List Solution)}
    (h : ∀ problem m, (optimizer.solve problem m).1.result = f problem) (events : List Event)
    (m : σ) : AnsweredBy f (exchanges optimizer receive events m) := by
  intro problem answer hmem
  obtain ⟨m', hanswer⟩ := exists_memory_of_mem_exchanges hmem
  exact hanswer.symm.trans (h problem m')

theorem accepted_exchanges (h : ∀ result m, (receive result m).1 = .ok ()) (events : List Event)
    (m : σ) : Accepted (exchanges optimizer receive events m) := by
  intro result answer hmem
  obtain ⟨m', hanswer⟩ := exists_memory_of_mem_exchanges hmem
  exact hanswer.symm.trans (h result m')

end Reading

section Parts

variable {f : Problem → Except Failure (List Solution)} {part talk : List Exchange}

theorem later_subset (before later : List Exchange) (exchange : Exchange) :
    later ⊆ before ++ exchange :: later :=
  List.subset_append_of_subset_right _ (List.subset_cons_self ..)

theorem AnsweredBy.of_subset (h : AnsweredBy f talk) (hpart : part ⊆ talk) : AnsweredBy f part :=
  fun problem answer hmem => h problem answer (hpart hmem)

theorem Accepted.of_subset (h : Accepted talk) (hpart : part ⊆ talk) : Accepted part :=
  fun result answer hmem => h result answer (hpart hmem)

end Parts

namespace SweepPlan

/-- Both plans put the same problems for every hour. -/
structure Agree (p q : SweepPlan) : Prop where
  cluster_eq : q.cluster = p.cluster
  puts_iff : ∀ t relaxed problem, q.Puts t relaxed problem ↔ p.Puts t relaxed problem

variable {p q : SweepPlan} {i j n : Nat} {t : Int} {relaxed : List LocationCode}
  {talk talk' : List Exchange} {f : Problem → Except Failure (List Solution)}

/-- There is only one problem to put. -/
theorem Puts.unique {problem problem' : Problem} (h : p.Puts t relaxed problem)
    (h' : p.Puts t relaxed problem') : problem' = problem := by
  obtain ⟨shipments, hs, rfl⟩ := h
  obtain ⟨shipments', hs', rfl⟩ := h'
  rw [Except.ok.inj (hs'.symm.trans hs)]

theorem Puts.fleet_ne_nil {problem : Problem} (h : p.Puts t relaxed problem) :
    p.settings.fleet ≠ [] := by
  intro hnone
  obtain ⟨shipments, hs, -⟩ := h
  rw [shipmentsOf_of_no_fleet hnone] at hs
  cases hs

theorem verdict_eq_ok_iff {context : String} {answer : Except Failure (List Solution)}
    {best : Solution} :
    verdict context answer = .ok best ↔
      ∃ candidates, answer = .ok candidates ∧ Solution.bestOf candidates = .ok best := by
  cases answer with
  | error failure => simp [verdict]
  | ok candidates => simp [verdict, planned_eq_ok_iff]

/-! ## The same hour in two sweeps -/

/-- An epoch that came to a solution asked for it. -/
theorem Epoch.exists_of_ok {best : Solution} (h : p.Epoch i n t relaxed talk (.ok best)) :
    ∃ problem candidates, p.Puts t relaxed problem ∧ talk = [.asked problem (.ok candidates)] ∧
      Solution.bestOf candidates = .ok best := by
  generalize hresult : Except.ok best = result at h
  cases h with
  | noFleet => cases hresult
  | asked hputs =>
    obtain ⟨candidates, rfl, hbest⟩ := verdict_eq_ok_iff.mp hresult.symm
    exact ⟨_, candidates, hputs, rfl, hbest⟩

/-- An epoch that came to a solution comes to the same one wherever it is tried. -/
theorem Epoch.follows {best : Solution} {result : Except Failure Solution} (hagree : p.Agree q)
    (h : p.Epoch i n t relaxed talk (.ok best)) (hf : AnsweredBy f talk)
    (h' : q.Epoch j n t relaxed talk' result) (hf' : AnsweredBy f talk') : result = .ok best := by
  obtain ⟨problem, candidates, hputs, rfl, hbest⟩ := h.exists_of_ok
  cases h' with
  | noFleet hnone => exact absurd hnone ((hagree.puts_iff _ _ _).mpr hputs).fleet_ne_nil
  | @asked problem' answer hputs' =>
    obtain rfl := hputs.unique ((hagree.puts_iff _ _ _).mp hputs')
    have hsame : answer = .ok candidates := (hf' _ _ (List.mem_singleton_self _)).trans
      (hf _ _ (List.mem_singleton_self _)).symm
    exact verdict_eq_ok_iff.mpr ⟨candidates, hsame, hbest⟩

/-- A candidate that came to a result comes to the same one under another number. -/
theorem Candidate.follows {r : Iteration} {result : Except Failure Iteration}
    (hagree : p.Agree q) (h : p.Candidate i t talk (.ok r)) (hf : AnsweredBy f talk)
    (h' : q.Candidate j t talk' result) (hf' : AnsweredBy f talk') :
    result = .ok { r with index := j } := by
  -- Both begin with the same first epoch, so either both have a second one or none has.
  cases h with
  | served hfirst hall =>
    cases h' with
    | failed hfirst' => cases hfirst.follows hagree hf hfirst' hf'
    | served hfirst' hall' =>
      cases hfirst.follows hagree hf hfirst' hf'
      rfl
    | failedRelaxed hfirst' hleft' hsecond' =>
      cases hfirst.follows hagree hf hfirst' (hf'.of_subset (List.subset_append_left ..))
      exact absurd hall hleft'
    | relaxed hfirst' hleft' hsecond' =>
      cases hfirst.follows hagree hf hfirst' (hf'.of_subset (List.subset_append_left ..))
      exact absurd hall hleft'
  | relaxed hfirst hleft hsecond =>
    have hf₁ := hf.of_subset (List.subset_append_left ..)
    have hf₂ := hf.of_subset (List.subset_append_right ..)
    cases h' with
    | failed hfirst' => cases hfirst.follows hagree hf₁ hfirst' hf'
    | served hfirst' hall' =>
      cases hfirst.follows hagree hf₁ hfirst' hf'
      exact absurd hall' hleft
    | failedRelaxed hfirst' hleft' hsecond' =>
      cases hfirst.follows hagree hf₁ hfirst' (hf'.of_subset (List.subset_append_left ..))
      rw [hagree.cluster_eq] at hsecond'
      cases hsecond.follows hagree hf₂ hsecond' (hf'.of_subset (List.subset_append_right ..))
    | relaxed hfirst' hleft' hsecond' =>
      cases hfirst.follows hagree hf₁ hfirst' (hf'.of_subset (List.subset_append_left ..))
      rw [hagree.cluster_eq] at hsecond' ⊢
      cases hsecond.follows hagree hf₂ hsecond' (hf'.of_subset (List.subset_append_right ..))
      rfl

/-! ## What a sweep reports -/

theorem Epoch.results_eq {result : Except Failure Solution}
    (h : p.Epoch i n t relaxed talk result) : results talk = [] := by
  cases h with
  | noFleet => rfl
  | asked => rfl

/-- A candidate hands nothing on itself. -/
theorem Candidate.results_eq {result : Except Failure Iteration}
    (h : p.Candidate i t talk result) : results talk = [] := by
  cases h with
  | failed hfirst => exact hfirst.results_eq
  | served hfirst => exact hfirst.results_eq
  | failedRelaxed hfirst _ hsecond =>
    rw [results_append, hfirst.results_eq, hsecond.results_eq, List.append_nil]
  | relaxed hfirst _ hsecond =>
    rw [results_append, hfirst.results_eq, hsecond.results_eq, List.append_nil]

/-- A candidate and what it hands on. -/
theorem Candidate.results_append_received {result : Except Failure Iteration} {r : Iteration}
    {answer : Except Failure Unit} (h : p.Candidate i t talk result) (later : List Exchange) :
    results (talk ++ .received r answer :: later) = r :: results later := by
  rw [results_append, h.results_eq]
  rfl

/-- A result has the number of its candidate and its dispatch time. -/
theorem Candidate.eq_of_ok {r : Iteration} (h : p.Candidate i t talk (.ok r)) :
    r.index = i ∧ r.dispatchTime = Float.ofInt t := by
  cases h with
  | served => exact ⟨rfl, rfl⟩
  | relaxed => exact ⟨rfl, rfl⟩

variable {hours : List Int} {outcome : Except Failure Unit}

/-- **The results of a sweep** are those of its hours, numbered in their order. -/
theorem Protocol.getElem?_results (h : p.Protocol i hours talk outcome) {k : Nat} {r : Iteration}
    (hr : (results talk)[k]? = some r) :
    r.index = i + k ∧ ∃ t, hours[k]? = some t ∧ r.dispatchTime = Float.ofInt t := by
  induction h generalizing k with
  | finished => cases hr
  | taken hcandidate _ ih =>
    rw [hcandidate.results_append_received] at hr
    cases k with
    | zero =>
      cases hr
      exact ⟨hcandidate.eq_of_ok.1, _, rfl, hcandidate.eq_of_ok.2⟩
    | succ k =>
      obtain ⟨hindex, hhour⟩ := ih hr
      exact ⟨by omega, hhour⟩
  | refused hcandidate =>
    rw [hcandidate.results_append_received] at hr
    cases k with
    | zero =>
      cases hr
      exact ⟨hcandidate.eq_of_ok.1, _, rfl, hcandidate.eq_of_ok.2⟩
    | succ k => cases hr
  | abandoned hcandidate =>
    rw [hcandidate.results_eq] at hr
    cases hr

/-- **A sweep that came to its end** did so from each of its hours on. -/
theorem Protocol.drop (h : p.Protocol i hours talk (.ok ())) (d : Nat) :
    ∃ rest, p.Protocol (i + d) (hours.drop d) rest (.ok ()) ∧ rest ⊆ talk ∧
      results rest = (results talk).drop d := by
  -- On the number of hours left out, each with the one result it handed on.
  induction d generalizing i hours talk with
  | zero => exact ⟨talk, h, List.Subset.refl _, rfl⟩
  | succ d ih =>
    cases h with
    | finished => exact ⟨[], .finished, List.Subset.refl _, rfl⟩
    | taken hcandidate hrest =>
      obtain ⟨rest, hprotocol, hsubset, hresults⟩ := ih hrest
      rw [Nat.add_right_comm, Nat.add_assoc] at hprotocol
      refine ⟨rest, hprotocol, List.Subset.trans hsubset (later_subset ..), ?_⟩
      rw [hcandidate.results_append_received, hresults, List.drop_succ_cons]

/-- **The same hours in two sweeps.** A sweep that comes to hours at which another one came to its
end, and whose receiver refuses nothing, comes to its end as well, with the same results under its
own numbers. -/
theorem Protocol.follows {d : Nat} (hagree : p.Agree q)
    (h : p.Protocol (j + d) hours talk (.ok ())) (hf : AnsweredBy f talk)
    (h' : q.Protocol j hours talk' outcome) (hf' : AnsweredBy f talk')
    (haccepted : Accepted talk') :
    outcome = .ok () ∧
      results talk' = (results talk).map fun r => { r with index := r.index - d } := by
  -- On the hours; both sweeps take one of them at a time.
  generalize hi : j + d = i at h
  generalize hend : Except.ok () = ending at h
  induction h generalizing j talk' with
  | finished =>
    cases h'
    exact ⟨rfl, rfl⟩
  | taken hcandidate hrest ih =>
    subst hi
    have hlater := hf.of_subset (later_subset ..)
    have hf := hf.of_subset (List.subset_append_left ..)
    cases h' with
    | taken hcandidate' hrest' =>
      cases hcandidate.follows hagree hf hcandidate'
        (hf'.of_subset (List.subset_append_left ..))
      obtain ⟨hend', hresults⟩ := ih hlater hrest' (hf'.of_subset (later_subset ..))
        (haccepted.of_subset (later_subset ..)) (by omega) hend
      refine ⟨hend', ?_⟩
      rw [hcandidate.results_append_received, hcandidate'.results_append_received, hresults,
        List.map_cons, hcandidate.eq_of_ok.1, Nat.add_sub_cancel]
    | refused hcandidate' =>
      cases haccepted _ _ (List.mem_append_right _ (List.mem_singleton_self _))
    | abandoned hcandidate' => cases hcandidate.follows hagree hf hcandidate' hf'
  | refused => cases hend
  | abandoned => cases hend

/-- **A later sweep repeats the end of an earlier one**, if its hours are the rest of the hours of a
sweep that came to its end. -/
theorem Protocol.repeats {d : Nat} (hagree : p.Agree q)
    (h : p.Protocol 0 hours talk (.ok ())) (hf : AnsweredBy f talk)
    (h' : q.Protocol 0 (hours.drop d) talk' outcome) (hf' : AnsweredBy f talk')
    (haccepted : Accepted talk') :
    outcome = .ok () ∧
      results talk' = ((results talk).drop d).map fun r => { r with index := r.index - d } := by
  obtain ⟨rest, hrest, hsubset, hresults⟩ := h.drop d
  rw [← hresults]
  exact hrest.follows hagree (hf.of_subset hsubset) h' hf' haccepted

end SweepPlan
end HubDispatch
