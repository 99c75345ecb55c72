import HubDispatch.Decimal.Reading
import HubDispatch.Proofs.Binary64.Defined

/-!
# Texts that spell no number

Among the texts that are read as binary64 numbers there are some that spell not-a-number: the word
for it in any letter case, with a sign or without (`SpellsNaN`). Digits never come to it, however
many there are and whatever the exponent, so these are the only ones (`ofFloat_eq_nan_iff`).
-/

namespace HubDispatch
namespace Decimal

open Binary64 (Exact)

variable {cs : List Char} {x : Float}

/-- The text is the word for not-a-number, in any letter case and maybe after a sign. -/
def SpellsNaN (cs : List Char) : Prop :=
  cs.map Char.toLower ∈ ["nan".toList, "+nan".toList, "-nan".toList]

instance (cs : List Char) : Decidable (SpellsNaN cs) := inferInstanceAs (Decidable (_ ∈ _))

/-- Only letters become letters. -/
theorem eq_of_toLower_eq {c sign : Char} (hsign : sign = '+' ∨ sign = '-')
    (h : c.toLower = sign) : c = sign := by
  unfold Char.toLower at h
  split at h
  · rename_i hupper
    have hval := congrArg Char.val h
    rcases hsign with rfl | rfl <;> simp [UInt32.ext_iff, UInt32.le_iff_toNat_le] at hval hupper <;>
      omega
  · exact h

/-- Behind a sign there is the word alone. -/
theorem spellsNaN_cons_iff {sign : Char} {rest : List Char} (h : sign = '+' ∨ sign = '-') :
    SpellsNaN (sign :: rest) ↔ rest.map Char.toLower = "nan".toList := by
  rcases h with rfl | rfl <;> simp [SpellsNaN]

/-- Without a sign there is the word alone. -/
theorem spellsNaN_iff (hplus : ∀ rest, cs ≠ '+' :: rest) (hminus : ∀ rest, cs ≠ '-' :: rest) :
    SpellsNaN cs ↔ cs.map Char.toLower = "nan".toList := by
  have hsigned {sign : Char} (hsign : sign = '+' ∨ sign = '-') (hne : ∀ rest, cs ≠ sign :: rest) :
      cs.map Char.toLower ≠ sign :: "nan".toList := by
    intro hmap
    obtain ⟨c, rest, rfl, hc, -⟩ := List.map_eq_cons_iff.mp hmap
    exact hne rest (by rw [eq_of_toLower_eq hsign hc])
  have hplus' := hsigned (Or.inl rfl) hplus
  have hminus' := hsigned (Or.inr rfl) hminus
  simp only [SpellsNaN, List.mem_cons, List.not_mem_nil, or_false]
  exact ⟨fun h => (h.resolve_right fun h => h.elim hplus' hminus'), Or.inl⟩

theorem nearest_ne_nan (negative : Bool) (m : Nat) (e : Int) :
    Exact.ofFloat (nearest negative m e) ≠ .nan := by
  have hzero : Exact.ofFloat 0.0 ≠ .nan := by decide +kernel
  have hinfinity : Exact.ofFloat (1.0 / 0.0) ≠ .nan := by decide +kernel
  unfold nearest
  dsimp only
  generalize hmagnitude : (if m = 0 ∨ e + _ < -400 then (0.0 : Float) else _) = magnitude
  have hne : Exact.ofFloat magnitude ≠ .nan := by
    rw [← hmagnitude]
    split
    · exact hzero
    · split
      · exact hinfinity
      · split <;> exact Exact.ofFloat_ofScientific_ne_nan _ _ _
  split
  · rwa [Ne, Exact.ofFloat_neg_eq_nan_iff]
  · exact hne

/-- What is read behind the sign. -/
def readAfterSign (negative : Bool) (rest : List Char) : Except ReadFault Float :=
  let word := rest.map Char.toLower
  if word = "inf".toList ∨ word = "infinity".toList then
    .ok (if negative then -1.0 / 0.0 else 1.0 / 0.0)
  else if word = "nan".toList then .ok (0.0 / 0.0)
  else
    match readMagnitude? rest with
    | some (m, e) => .ok (nearest negative m e)
    | none => .error .invalidFloat

theorem eq_nan_iff_of_readAfterSign {negative : Bool} {rest : List Char}
    (h : readAfterSign negative rest = .ok x) :
    Exact.ofFloat x = .nan ↔ rest.map Char.toLower = "nan".toList := by
  unfold readAfterSign at h
  dsimp only at h
  split at h
  · rename_i hword
    rw [← Except.ok.inj h]
    refine iff_of_false ?_ fun hnan => ?_
    · cases negative <;> decide +kernel
    · rw [hnan] at hword
      exact absurd hword (by decide)
  · split at h
    · rename_i hnan
      rw [← Except.ok.inj h]
      exact iff_of_true (by decide +kernel) hnan
    · rename_i hnan
      split at h
      · rw [← Except.ok.inj h]
        exact iff_of_false (nearest_ne_nan _ _ _) hnan
      · cases h

/-- **What is read is a number**, unless the text spells that it is not. -/
theorem ofFloat_eq_nan_iff (h : readFloat cs = .ok x) :
    Exact.ofFloat x = .nan ↔ SpellsNaN cs := by
  unfold readFloat at h
  dsimp only at h
  split at h
  · cases h
  · split at h
    · change readAfterSign false _ = .ok x at h
      rw [eq_nan_iff_of_readAfterSign h, spellsNaN_cons_iff (Or.inl rfl)]
    · change readAfterSign true _ = .ok x at h
      rw [eq_nan_iff_of_readAfterSign h, spellsNaN_cons_iff (Or.inr rfl)]
    · rename_i hplus hminus
      change readAfterSign false cs = .ok x at h
      rw [eq_nan_iff_of_readAfterSign h, spellsNaN_iff hplus hminus]

end Decimal
end HubDispatch
