import Mathlib.Data.List.Induction
import Mathlib.Data.List.Nodup
import Mathlib.Data.List.Pairwise
import Mathlib.Data.List.Sort

/-!
# First occurrences

The codes of a cluster, the places that are left unserved and the entries of an itinerary are all
found by going through a list and dropping what came before. Such a list is determined by what it
holds: every element of the other list, once, in the order in which they come first there
(`FirstsOf`, `firstsOf_iff`).
-/

namespace HubDispatch

variable {α : Type}

/-- Dropping the repetitions of a list leaves none. -/
theorem nodup_eraseDups [BEq α] [LawfulBEq α] (xs : List α) : xs.eraseDups.Nodup := by
  -- By length, for what is left after the first element is not its tail but a filter of it.
  induction hn : xs.length using Nat.strongRecOn generalizing xs with
  | ind n ih =>
    cases xs with
    | nil => exact List.nodup_nil
    | cons x xs =>
      rw [List.eraseDups_cons, List.nodup_cons]
      constructor
      · rw [List.mem_eraseDups, List.mem_filter]
        simp
      · refine ih _ ?_ _ rfl
        rw [← hn, List.length_cons]
        exact Nat.lt_succ_of_le (List.length_filter_le ..)

/-- Lists that share nothing keep their first occurrences when they are put end to end. -/
theorem eraseDups_flatMap {β : Type} [BEq β] [LawfulBEq β] {f : α → List β} {xs : List α}
    (h : xs.Pairwise fun x y => List.Disjoint (f x) (f y)) :
    (xs.flatMap f).eraseDups = xs.flatMap fun x => (f x).eraseDups := by
  induction xs with
  | nil => rfl
  | cons x xs ih =>
    obtain ⟨hx, hxs⟩ := List.pairwise_cons.mp h
    have hrest : (xs.flatMap f).removeAll (f x) = xs.flatMap f := by
      refine List.filter_eq_self.mpr fun y hy => ?_
      obtain ⟨z, hz, hyz⟩ := List.mem_flatMap.mp hy
      simpa using fun hmem => hx z hz hmem hyz
    rw [List.flatMap_cons, List.flatMap_cons, List.eraseDups_append, hrest, ih hxs]

section Order

variable [BEq α] [LawfulBEq α]

theorem mem_removeAll {x : α} {xs ys : List α} : x ∈ xs.removeAll ys ↔ x ∈ xs ∧ x ∉ ys := by
  simp [List.removeAll]

/-- An element at the end is kept if it is new. -/
theorem eraseDups_append_singleton (xs : List α) (x : α) :
    (xs ++ [x]).eraseDups = if x ∈ xs then xs.eraseDups else xs.eraseDups ++ [x] := by
  rw [List.eraseDups_append]
  by_cases hx : x ∈ xs
  · rw [if_pos hx, List.removeAll, List.filter_cons_of_neg (by simp [hx])]
    exact List.append_nil _
  · rw [if_neg hx, List.removeAll, List.filter_cons_of_pos (by simp [hx])]
    rfl

/-- Dropping repetitions keeps the elements in the order in which they come first. -/
theorem pairwise_idxOf_eraseDups (xs : List α) :
    xs.eraseDups.Pairwise fun a b => xs.idxOf a < xs.idxOf b := by
  -- From the end, where an element that is new comes after all the others.
  induction xs using List.reverseRecOn with
  | nil => exact .nil
  | append_singleton xs x ih =>
    have hbefore : ∀ a ∈ xs.eraseDups, (xs ++ [x]).idxOf a = xs.idxOf a := fun a ha =>
      List.idxOf_append_of_mem (List.mem_eraseDups.mp ha)
    have hold : xs.eraseDups.Pairwise fun a b => (xs ++ [x]).idxOf a < (xs ++ [x]).idxOf b := by
      refine ih.imp_of_mem fun ha hb hlt => ?_
      rwa [hbefore _ ha, hbefore _ hb]
    rw [eraseDups_append_singleton]
    by_cases hx : x ∈ xs
    · rwa [if_pos hx]
    · rw [if_neg hx, List.pairwise_append]
      refine ⟨hold, List.pairwise_singleton _ _, fun a ha b hb => ?_⟩
      obtain rfl := List.mem_singleton.mp hb
      rw [hbefore a ha, List.idxOf_append_of_notMem hx]
      exact Nat.lt_of_lt_of_le (List.idxOf_lt_length_of_mem (List.mem_eraseDups.mp ha))
        (Nat.le_add_right ..)

/-- The elements of `xs`, each once and in the order in which they come first. -/
structure FirstsOf (ys xs : List α) : Prop where
  distinct : ys.Nodup
  mem_iff : ∀ x, x ∈ ys ↔ x ∈ xs
  ordered : ys.Pairwise fun a b => xs.idxOf a < xs.idxOf b

theorem firstsOf_eraseDups (xs : List α) : FirstsOf xs.eraseDups xs where
  distinct := nodup_eraseDups xs
  mem_iff _ := List.mem_eraseDups
  ordered := pairwise_idxOf_eraseDups xs

omit [LawfulBEq α] in
theorem FirstsOf.unique {xs ys zs : List α} (hy : FirstsOf ys xs) (hz : FirstsOf zs xs) :
    ys = zs := by
  have hperm : ys.Perm zs := by
    refine (List.perm_ext_iff_of_nodup hy.distinct hz.distinct).mpr fun x => ?_
    rw [hy.mem_iff, hz.mem_iff]
  refine hperm.eq_of_pairwise (fun a b _ _ hab hba => ?_) hy.ordered hz.ordered
  exact absurd (Nat.lt_trans hab hba) (Nat.lt_irrefl _)

/-- **Dropping repetitions leaves the first occurrences, and nothing else has all of them.** -/
theorem firstsOf_iff {xs ys : List α} : FirstsOf ys xs ↔ ys = xs.eraseDups := by
  constructor
  · intro h
    exact h.unique (firstsOf_eraseDups xs)
  · rintro rfl
    exact firstsOf_eraseDups xs

/-- What two equal elements are brought to is equal: their repetitions may be dropped before. -/
theorem eraseDups_map_eraseDups {β : Type} [BEq β] [LawfulBEq β] (f : α → β) (xs : List α) :
    (xs.eraseDups.map f).eraseDups = (xs.map f).eraseDups := by
  induction xs using List.reverseRecOn with
  | nil => rfl
  | append_singleton xs x ih =>
    rw [eraseDups_append_singleton, List.map_append, List.map_singleton, eraseDups_append_singleton]
    by_cases hx : x ∈ xs
    · rw [if_pos hx, if_pos (List.mem_map_of_mem hx), ih]
    · have hmem : f x ∈ xs.eraseDups.map f ↔ f x ∈ xs.map f := by
        rw [← List.mem_eraseDups, ih, List.mem_eraseDups]
      rw [if_neg hx, List.map_append, List.map_singleton, eraseDups_append_singleton, ih]
      simp only [hmem]

end Order

end HubDispatch
