import HubDispatch.Proofs.Binary64.TotalOrder
import HubDispatch.Routing.Solution

/-!
# The cheapest candidate

An optimizer gives its candidates in no particular order, and the cheapest is taken. Costs are
compared by the total order on patterns, in which nothing is on a par with anything else. So the
cost that is taken is the same in every order of the candidates, and so is the solution, unless two
of them have one cost: then the first of these is taken (`IsFirstCheapest`).

Of what is before a first cheapest one nothing is as cheap, so there is only one
(`IsFirstCheapest.unique`), and the loop finds it (`cheapest_isFirst`). Nothing of this depends on
what costs are, only on their order being total.
-/

namespace HubDispatch

open Binary64 (TotalOrder)

/-- The key of a cost is less exactly if the other cost does not come first, or on a par. -/
theorem Cost.key_lt_iff {c d : Cost} : c.key < d.key ↔ ¬ TotalOrder d.bits c.bits := by
  rw [Binary64.totalOrder_iff]
  exact not_le.symm

namespace Solution

/-- The first candidate whose cost is least in the total order. -/
structure IsFirstCheapest (best : Solution) (candidates : List Solution) : Prop where
  least : ∀ s ∈ candidates, TotalOrder best.cost.bits s.cost.bits
  first : ∃ before after, candidates = before ++ best :: after ∧
    ∀ s ∈ before, ¬ TotalOrder s.cost.bits best.cost.bits

variable {best best' : Solution} {candidates other : List Solution}

namespace IsFirstCheapest

theorem mem (h : IsFirstCheapest best candidates) : best ∈ candidates := by
  obtain ⟨before, after, rfl, -⟩ := h.first
  exact List.mem_append_right _ List.mem_cons_self

/-- The least cost of a list is one, in whatever order it is listed. -/
theorem cost_eq (h : IsFirstCheapest best candidates) (h' : IsFirstCheapest best' other)
    (hperm : candidates.Perm other) : best.cost = best'.cost := by
  have hle := h.least best' (hperm.mem_iff.mpr h'.mem)
  have hge := h'.least best (hperm.mem_iff.mp h.mem)
  exact congrArg Cost.mk (hle.antisymm hge)

/-- **There is one first cheapest candidate.** -/
theorem unique (h : IsFirstCheapest best candidates) (h' : IsFirstCheapest best' candidates) :
    best = best' := by
  obtain ⟨before, after, hsplit, hbefore⟩ := h.first
  obtain ⟨before', after', hsplit', hbefore'⟩ := h'.first
  rcases List.append_eq_append_iff.mp (hsplit.symm.trans hsplit') with
    ⟨between, hb, ha⟩ | ⟨between, hb, ha⟩
  · cases between with
    | nil => exact (List.cons.inj ha).1
    | cons s between =>
      obtain ⟨rfl, -⟩ := List.cons.inj ha
      exact absurd (h.least best' h'.mem) (hbefore' best (by simp [hb]))
  · cases between with
    | nil => exact (List.cons.inj ha).1.symm
    | cons s between =>
      obtain ⟨rfl, -⟩ := List.cons.inj ha
      exact absurd (h'.least best h.mem) (hbefore best' (by simp [hb]))

/-- Where costs are different, the cheapest solution is one in whatever order it is listed. -/
theorem eq_of_nodup (h : IsFirstCheapest best candidates) (h' : IsFirstCheapest best' other)
    (hperm : candidates.Perm other) (hnodup : (candidates.map (·.cost)).Nodup) : best = best' :=
  List.inj_on_of_nodup_map hnodup h.mem (hperm.mem_iff.mpr h'.mem) (h.cost_eq h' hperm)

end IsFirstCheapest

/-- **The loop finds the first cheapest one.** -/
theorem cheapest_isFirst (best : Solution) (rest : List Solution) :
    IsFirstCheapest (cheapest best rest) (best :: rest) := by
  induction rest generalizing best with
  | nil =>
    refine ⟨fun s hs => ?_, [], [], rfl, by simp⟩
    rw [List.mem_singleton.mp hs]
    exact .same rfl
  | cons s rest ih =>
    rw [cheapest]
    split
    case isTrue hlt =>
      have hnot := Cost.key_lt_iff.mp hlt
      have hle := (TotalOrder.total s.cost.bits best.cost.bits).resolve_right hnot
      have hrest := ih s
      have hs := hrest.least s List.mem_cons_self
      obtain ⟨before, after, hsplit, hbefore⟩ := hrest.first
      constructor
      case least => exact List.forall_mem_cons.mpr ⟨hs.trans hle, hrest.least⟩
      case first =>
        refine ⟨best :: before, after, by rw [hsplit, List.cons_append], ?_⟩
        exact List.forall_mem_cons.mpr ⟨fun h => hnot (h.trans hs), hbefore⟩
    case isFalse hge =>
      have hle : TotalOrder best.cost.bits s.cost.bits := by
        by_contra hnot
        exact hge (Cost.key_lt_iff.mpr hnot)
      have hrest := ih best
      obtain ⟨hbest, hafter⟩ := List.forall_mem_cons.mp hrest.least
      obtain ⟨before, after, hsplit, hbefore⟩ := hrest.first
      constructor
      case least =>
        exact List.forall_mem_cons.mpr ⟨hbest, List.forall_mem_cons.mpr ⟨hbest.trans hle, hafter⟩⟩
      case first =>
        cases before with
        | nil =>
          obtain ⟨hhead, -⟩ := List.cons.inj hsplit
          exact ⟨[], s :: rest, by rw [← hhead, List.nil_append], by simp⟩
        | cons b before =>
          -- The one taken comes later, so it is cheaper than `best`, and with it than `s`.
          obtain ⟨rfl, htail⟩ := List.cons.inj hsplit
          obtain ⟨hb, hbefore⟩ := List.forall_mem_cons.mp hbefore
          refine ⟨best :: s :: before, after, congrArg (best :: s :: ·) htail, ?_⟩
          refine List.forall_mem_cons.mpr ⟨hb, List.forall_mem_cons.mpr ⟨?_, hbefore⟩⟩
          exact fun h => hb (hle.trans h)

theorem bestOf_eq_error_iff (fault : Fault) :
    bestOf candidates = .error fault ↔ candidates = [] ∧ fault = .noSolution := by
  cases candidates with
  | nil => simp [bestOf, eq_comm]
  | cons s rest => simp [bestOf]

theorem bestOf_eq_ok_iff :
    bestOf candidates = .ok best ↔ IsFirstCheapest best candidates := by
  cases candidates with
  | nil =>
    refine iff_of_false nofun fun h => ?_
    exact List.not_mem_nil h.mem
  | cons s rest =>
    constructor
    · intro h
      rw [← Except.ok.inj h]
      exact cheapest_isFirst s rest
    · intro h
      exact congrArg Except.ok ((cheapest_isFirst s rest).unique h)

/-- **The choice is that of the first cheapest candidate, whatever their order.** There is no choice
exactly if there is no candidate. Listing the candidates in another order gives a solution of the
same cost, bit by bit, and the same solution if no two costs have the same pattern. -/
theorem bestOf_cheapest (candidates : List Solution) :
    (∀ fault, bestOf candidates = .error fault ↔ candidates = [] ∧ fault = .noSolution) ∧
      (∀ best, bestOf candidates = .ok best ↔ IsFirstCheapest best candidates) ∧
      ∀ other, candidates.Perm other → ∀ best, bestOf candidates = .ok best →
        ∃ best', bestOf other = .ok best' ∧ best.cost = best'.cost ∧
          ((candidates.map (·.cost)).Nodup → best = best') := by
  refine ⟨bestOf_eq_error_iff, fun _ => bestOf_eq_ok_iff, fun other hperm best h => ?_⟩
  have hbest := bestOf_eq_ok_iff.mp h
  cases other with
  | nil => exact absurd (hperm.mem_iff.mp hbest.mem) List.not_mem_nil
  | cons s rest =>
    have hbest' := cheapest_isFirst s rest
    exact ⟨cheapest s rest, rfl, hbest.cost_eq hbest' hperm, hbest.eq_of_nodup hbest' hperm⟩

/-- A solution that only has a cost. -/
def ofCost (bits : UInt64) : Solution := ⟨⟨bits⟩, [], []⟩

/-- Zero, the negative zero, not-a-number of both signs and both infinities. -/
def strangeCosts : List Solution :=
  [ofCost 0x0000000000000000, ofCost 0x8000000000000000, ofCost 0x7ff8000000000000,
    ofCost 0xfff8000000000000, ofCost 0x7ff0000000000000, ofCost 0xfff0000000000000]

/-- Among strange costs not-a-number with a negative sign is taken from either end. -/
theorem bestOf_cheapest_strange :
    strangeCosts.Perm strangeCosts.reverse ∧
      bestOf strangeCosts = .ok (ofCost 0xfff8000000000000) ∧
      (strangeCosts.map (·.cost)).Nodup ∧
      bestOf strangeCosts.reverse = .ok (ofCost 0xfff8000000000000) := by
  have hperm : strangeCosts.Perm strangeCosts.reverse := (List.reverse_perm _).symm
  have hbest : bestOf strangeCosts = .ok (ofCost 0xfff8000000000000) := by rfl
  have hnodup : (strangeCosts.map (·.cost)).Nodup := by decide
  obtain ⟨best', hbest', -, heq⟩ := (bestOf_cheapest strangeCosts).2.2 _ hperm _ hbest
  exact ⟨hperm, hbest, hnodup, by rw [hbest', ← heq hnodup]⟩

end Solution
end HubDispatch
