import HubDispatch.Text.Blank

/-!
# The first occurrence of a mark

`Text.splitOnce` cuts a text at the first occurrence of a mark: the text is what stands before it,
the mark, and what stands after it, and no occurrence begins earlier (`splitOnce_eq_some_iff`).
It finds nothing exactly where the mark does not occur (`splitOnce_eq_none_iff`).

A mark may also occur across the seam between what stands before it and the mark itself. For a mark
whose first character does not stand before it this cannot be (`splitOnce_append_of_notMem`).
-/

namespace HubDispatch
namespace Text

variable {mark before after cs : List Char}

theorem splitOnce_cons (c : Char) (cs : List Char) :
    splitOnce mark (c :: cs) =
      if mark <+: c :: cs then some ([], (c :: cs).drop mark.length)
      else (splitOnce mark cs).map fun p => (c :: p.1, p.2) := by
  rw [splitOnce]
  by_cases h : mark <+: c :: cs
  · rw [if_pos (List.isPrefixOf_iff_prefix.mpr h), if_pos h]
  · rw [if_neg (fun hp => h (List.isPrefixOf_iff_prefix.mp hp)), if_neg h]

/-- The parts and the mark between them are the text. -/
theorem append_of_splitOnce (h : splitOnce mark cs = some (before, after)) :
    before ++ mark ++ after = cs := by
  induction cs generalizing before with
  | nil =>
    unfold splitOnce at h
    split at h
    · rename_i hm
      cases h
      simp [List.isEmpty_iff.mp hm]
    · cases h
  | cons c cs ih =>
    rw [splitOnce_cons] at h
    split at h
    · rename_i hp
      cases h
      simpa using List.prefix_iff_eq_append.mp hp
    · obtain ⟨⟨b, a⟩, hs, he⟩ := Option.map_eq_some_iff.mp h
      cases he
      simp [← ih hs]

/-- A mark that occurs is found, and not later than there. -/
theorem exists_splitOnce (h : before ++ mark ++ after = cs) :
    ∃ b a, splitOnce mark cs = some (b, a) ∧ b.length ≤ before.length := by
  induction cs generalizing before with
  | nil =>
    simp only [List.append_eq_nil_iff] at h
    obtain ⟨⟨rfl, rfl⟩, -⟩ := h
    exact ⟨[], [], rfl, Nat.le_refl _⟩
  | cons c cs ih =>
    rw [splitOnce_cons]
    by_cases hp : mark <+: c :: cs
    · exact ⟨[], _, if_pos hp, Nat.zero_le _⟩
    · -- No mark begins here, so the given occurrence lies in the tail, one character nearer.
      cases before with
      | nil => exact absurd ⟨after, by simpa using h⟩ hp
      | cons d before =>
        simp only [List.cons_append, List.cons.injEq] at h
        obtain ⟨b, a, hs, hle⟩ := ih h.2
        exact ⟨c :: b, a, by simp [hp, hs], by simpa using hle⟩

/-- **The first occurrence.** The text is cut at an occurrence of the mark before which no other
begins. -/
theorem splitOnce_eq_some_iff :
    splitOnce mark cs = some (before, after) ↔
      before ++ mark ++ after = cs ∧
        ∀ b a, b ++ mark ++ a = cs → before.length ≤ b.length := by
  constructor
  · intro h
    refine ⟨append_of_splitOnce h, fun b a hba => ?_⟩
    obtain ⟨b', a', hs, hle⟩ := exists_splitOnce hba
    rw [h] at hs
    cases hs
    exact hle
  · rintro ⟨heq, hfirst⟩
    obtain ⟨b, a, hs, hle⟩ := exists_splitOnce heq
    have hcut := append_of_splitOnce hs
    have hlen : before.length = b.length := Nat.le_antisymm (hfirst b a hcut) hle
    rw [← heq, List.append_assoc, List.append_assoc] at hcut
    obtain ⟨hb, ha⟩ := List.append_inj hcut hlen.symm
    rw [hs, hb, List.append_cancel_left ha]

theorem splitOnce_eq_none_iff : splitOnce mark cs = none ↔ ¬ mark <:+: cs := by
  constructor
  · rintro h ⟨b, a, heq⟩
    obtain ⟨_, _, hs, _⟩ := exists_splitOnce heq
    rw [h] at hs
    cases hs
  · intro h
    cases hs : splitOnce mark cs with
    | none => rfl
    | some p => exact absurd ⟨p.1, p.2, append_of_splitOnce hs⟩ h

theorem occurs_iff : occurs mark cs = true ↔ mark <:+: cs := by
  rw [occurs, Option.isSome_iff_ne_none, ne_eq, splitOnce_eq_none_iff, Classical.not_not]

/-- What lies left of an occurrence that begins before `before` ends: a text that the mark and the
end of `before` share. -/
theorem overlap_of_lt {b a : List Char} (h : b ++ mark ++ a = before ++ mark ++ after)
    (hlt : b.length < before.length) :
    ∃ q, q ≠ [] ∧ before = b ++ q ∧ mark ++ a = q ++ mark ++ after := by
  rw [List.append_assoc, List.append_assoc] at h
  obtain ⟨q, hb, hq⟩ | ⟨q, hb, hq⟩ := List.append_eq_append_iff.mp h
  · refine ⟨q, ?_, hb, by rw [hq, List.append_assoc]⟩
    rintro rfl
    simp [hb] at hlt
  · rw [hb, List.length_append] at hlt
    omega

/-- A mark whose first character does not stand before it is found where it was put. -/
theorem splitOnce_append_of_notMem {c : Char} (h : c ∉ before) :
    splitOnce (c :: mark) (before ++ (c :: mark) ++ after) = some (before, after) := by
  refine splitOnce_eq_some_iff.mpr ⟨rfl, fun b a hba => Nat.le_of_not_lt fun hlt => ?_⟩
  obtain ⟨q, hne, hb, hq⟩ := overlap_of_lt hba hlt
  cases q with
  | nil => exact hne rfl
  | cons d q =>
    have hd : c = d := (List.cons.inj hq).1
    exact h (by rw [hb, hd]; simp)

end Text
end HubDispatch
