import HubDispatch.Fault
import Mathlib.Data.List.Forall2

/-!
# Outcomes

How a computation that may fail comes to a result: a composed one through the results of its parts,
a traversal through the results of its elements, position by position (`mapM_eq_ok_iff`), and what
is summed up in a traversal through the same results (`foldlM_eq_ok_iff`). Results and elements are
then related lists, and a few facts about these stand in front of the traversals. A traversal that
comes to no result fails as the first of its elements does (`mapM_eq_error_iff`).
-/

namespace HubDispatch

variable {ε α β : Type}

theorem bind_eq_ok_iff {x : Except ε α} {f : α → Except ε β} {b : β} :
    x >>= f = .ok b ↔ ∃ a, x = .ok a ∧ f a = .ok b := by
  cases x with
  | error e => simp [bind, Except.bind]
  | ok a => simp [bind, Except.bind]

theorem map_eq_ok_iff {x : Except ε α} {f : α → β} {b : β} :
    f <$> x = .ok b ↔ ∃ a, x = .ok a ∧ f a = b := by
  cases x with
  | error e => simp [Functor.map, Except.map]
  | ok a => simp [Functor.map, Except.map]

theorem map_eq_error_iff {x : Except ε α} {f : α → β} {e : ε} :
    f <$> x = .error e ↔ x = .error e := by
  cases x <;> simp [Functor.map, Except.map]

theorem bind_eq_error_iff {x : Except ε α} {f : α → Except ε β} {e : ε} :
    x >>= f = .error e ↔ x = .error e ∨ ∃ a, x = .ok a ∧ f a = .error e := by
  cases x with
  | error e' => simp [bind, Except.bind]
  | ok a => simp [bind, Except.bind]

theorem planned_eq_ok_iff {x : Except Fault α} {a : α} : planned x = .ok a ↔ x = .ok a := by
  cases x <;> simp [planned, Except.mapError]

theorem within_eq_ok_iff {context : String} {x : Except Failure α} {a : α} :
    within context x = .ok a ↔ x = .ok a := by
  cases x <;> simp [within, Except.mapError]

section Relation

variable {R : α → β → Prop} {xs xs' : List α} {ys : List β}

/-- Every element is related to something exactly if the list is, position by position. -/
theorem exists_forall₂_iff :
    (∃ ys, List.Forall₂ R xs ys) ↔ ∀ x ∈ xs, ∃ y, R x y := by
  induction xs with
  | nil => simp
  | cons x xs ih =>
    rw [List.forall_mem_cons, ← ih]
    constructor
    · rintro ⟨_, _ | ⟨hy, hys⟩⟩
      exact ⟨⟨_, hy⟩, _, hys⟩
    · rintro ⟨⟨y, hy⟩, ys, hys⟩
      exact ⟨y :: ys, .cons hy hys⟩

theorem exists_of_mem_right (h : List.Forall₂ R xs ys) {y : β} (hy : y ∈ ys) : ∃ x ∈ xs, R x y := by
  induction h with
  | nil => cases hy
  | cons hxy _ ih =>
    rcases List.mem_cons.mp hy with rfl | hy
    · exact ⟨_, List.mem_cons_self .., hxy⟩
    · obtain ⟨x, hx, hxy⟩ := ih hy
      exact ⟨x, List.mem_cons_of_mem _ hx, hxy⟩

theorem forall₂_append_left_iff :
    List.Forall₂ R (xs ++ xs') ys ↔
      ∃ first second, List.Forall₂ R xs first ∧ List.Forall₂ R xs' second ∧
        first ++ second = ys := by
  induction xs generalizing ys with
  | nil => simp
  | cons x xs ih =>
    rw [List.cons_append]
    constructor
    · rintro (_ | ⟨hy, hrest⟩)
      obtain ⟨first, second, hfirst, hsecond, rfl⟩ := ih.mp hrest
      exact ⟨_ :: first, second, .cons hy hfirst, hsecond, rfl⟩
    · rintro ⟨_, second, _ | ⟨hy, hfirst⟩, hsecond, rfl⟩
      exact .cons hy (ih.mpr ⟨_, second, hfirst, hsecond, rfl⟩)

end Relation

section Traversal

variable {f : α → Except ε β} {xs : List α} {ys : List β}

/-- A traversal succeeds with the results of its elements in their order. -/
theorem mapM_eq_ok_iff : xs.mapM f = .ok ys ↔ List.Forall₂ (fun x y => f x = .ok y) xs ys := by
  induction xs generalizing ys with
  | nil => cases ys <;> simp [pure, Except.pure]
  | cons x xs ih =>
    rw [List.mapM_cons, bind_eq_ok_iff]
    constructor
    · rintro ⟨y, hy, hrest⟩
      obtain ⟨ys', hys, he⟩ := bind_eq_ok_iff.mp hrest
      cases he
      exact .cons hy (ih.mp hys)
    · rintro (_ | ⟨hy, hys⟩)
      exact ⟨_, hy, bind_eq_ok_iff.mpr ⟨_, ih.mpr hys, rfl⟩⟩

theorem length_of_mapM (h : xs.mapM f = .ok ys) : ys.length = xs.length :=
  (mapM_eq_ok_iff.mp h).length_eq.symm

theorem mapM_ok_of_forall_ok (h : ∀ x ∈ xs, ∃ y, f x = .ok y) : ∃ ys, xs.mapM f = .ok ys := by
  obtain ⟨ys, hys⟩ := exists_forall₂_iff.mpr h
  exact ⟨ys, mapM_eq_ok_iff.mpr hys⟩

/-- **A traversal fails** with the fault of the first element that has one. -/
theorem mapM_eq_error_iff {e : ε} :
    xs.mapM f = .error e ↔ ∃ (i : Nat) (x : α), xs[i]? = some x ∧ f x = .error e ∧
      ∀ j < i, ∀ y, xs[j]? = some y → ∃ z, f y = .ok z := by
  induction xs with
  | nil => simp [pure, Except.pure]
  | cons first rest ih =>
    rw [List.mapM_cons, bind_eq_error_iff]
    constructor
    · rintro (hfirst | ⟨z, hz, hrest⟩)
      · exact ⟨0, first, rfl, hfirst, fun j hj => absurd hj (Nat.not_lt_zero j)⟩
      · rw [bind_eq_error_iff, ih] at hrest
        obtain ⟨i, x, hx, hfault, hbefore⟩ | ⟨_, -, hdone⟩ := hrest
        · refine ⟨i + 1, x, hx, hfault, fun j hj y hy => ?_⟩
          cases j with
          | zero =>
            cases hy
            exact ⟨z, hz⟩
          | succ j => exact hbefore j (Nat.lt_of_succ_lt_succ hj) y hy
        · cases hdone
    · rintro ⟨i, x, hx, hfault, hbefore⟩
      cases i with
      | zero =>
        cases hx
        exact Or.inl hfault
      | succ i =>
        obtain ⟨z, hz⟩ := hbefore 0 (Nat.succ_pos i) first rfl
        refine Or.inr ⟨z, hz, bind_eq_error_iff.mpr (Or.inl (ih.mpr ⟨i, x, hx, hfault, ?_⟩))⟩
        exact fun j hj y hy => hbefore (j + 1) (Nat.succ_lt_succ hj) y hy

/-- A traversal whose elements all come to `g` where they succeed at all, namely on `P`. -/
theorem mapM_eq_ok_map_iff {P : α → Prop} {g : α → β}
    (h : ∀ x ∈ xs, ∀ y, f x = .ok y ↔ P x ∧ g x = y) :
    xs.mapM f = .ok ys ↔ (∀ x ∈ xs, P x) ∧ xs.map g = ys := by
  induction xs generalizing ys with
  | nil => cases ys <;> simp [pure, Except.pure]
  | cons x xs ih =>
    obtain ⟨hx, hxs⟩ := List.forall_mem_cons.mp h
    have ih : ∀ ys', xs.mapM f = .ok ys' ↔ (∀ x ∈ xs, P x) ∧ xs.map g = ys' := fun _ => ih hxs
    simp only [List.mapM_cons, bind_eq_ok_iff, hx, ih, List.forall_mem_cons, List.map_cons]
    constructor
    · rintro ⟨_, ⟨hP, rfl⟩, _, ⟨hPs, rfl⟩, he⟩
      cases he
      exact ⟨⟨hP, hPs⟩, rfl⟩
    · rintro ⟨⟨hP, hPs⟩, rfl⟩
      exact ⟨_, ⟨hP, rfl⟩, _, ⟨hPs, rfl⟩, rfl⟩

/-- A loop that only looks succeeds when everything it looks at is there. -/
theorem forIn_eq_ok_iff {u : PUnit} :
    (forIn xs PUnit.unit fun x _ => do
        let _ ← f x
        pure (ForInStep.yield PUnit.unit)) = .ok u ↔ ∀ x ∈ xs, ∃ y, f x = .ok y := by
  induction xs with
  | nil => simp [pure, Except.pure]
  | cons x xs ih =>
    rw [List.forIn_cons, bind_eq_ok_iff, List.forall_mem_cons, ← ih]
    constructor
    · rintro ⟨step, hstep, hrest⟩
      obtain ⟨y, hy, he⟩ := bind_eq_ok_iff.mp hstep
      cases he
      exact ⟨⟨y, hy⟩, hrest⟩
    · rintro ⟨⟨y, hy⟩, hrest⟩
      exact ⟨_, bind_eq_ok_iff.mpr ⟨y, hy, rfl⟩, hrest⟩

/-- What is put together from the results of the elements. -/
theorem foldlM_eq_ok_iff {γ : Type} {combine : γ → β → γ} {start total : γ} :
    xs.foldlM (fun acc x => return combine acc (← f x)) start = .ok total ↔
      ∃ ys, List.Forall₂ (fun x y => f x = .ok y) xs ys ∧ ys.foldl combine start = total := by
  induction xs generalizing start with
  | nil => simp [pure, Except.pure]
  | cons x xs ih =>
    rw [List.foldlM_cons, bind_eq_ok_iff]
    constructor
    · rintro ⟨acc, hacc, hrest⟩
      obtain ⟨y, hy, he⟩ := bind_eq_ok_iff.mp hacc
      cases he
      obtain ⟨ys, hys, htotal⟩ := ih.mp hrest
      exact ⟨y :: ys, .cons hy hys, htotal⟩
    · rintro ⟨_, _ | ⟨hy, hys⟩, htotal⟩
      exact ⟨_, bind_eq_ok_iff.mpr ⟨_, hy, rfl⟩, ih.mpr ⟨_, hys, htotal⟩⟩

end Traversal
end HubDispatch
