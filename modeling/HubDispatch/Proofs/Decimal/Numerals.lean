import HubDispatch.Proofs.Decimal.Counts
import Mathlib.Data.List.Basic
import Mathlib.Data.List.Induction

/-!
# Numerals

A numeral has at least one character, all of them digits, and begins with a zero only if there is
nothing else (`IsNumeral`). Every number is written as a numeral (`isNumeral_digits`), and a numeral
is what the number it spells is written as (`digits_digitsValue`), so there is one for each number.

With zeros in front a number fills a given width, and the digits that fill it are in turn given by
the number that they spell (`padZeros_digitsValue`).
-/

namespace HubDispatch
namespace Decimal

variable {cs : List Char} {c : Char} {n : Nat}

/-- Digits without superfluous zeros in front. -/
structure IsNumeral (cs : List Char) : Prop where
  ne_nil : cs ≠ []
  isDigit_of_mem : ∀ c ∈ cs, c.isDigit = true
  zero_alone : cs.head? = some '0' → cs = ['0']

theorem digitChar_of_isDigit (h : c.isDigit = true) : Nat.digitChar (c.toNat - 48) = c := by
  obtain ⟨hlo, hhi⟩ := (isDigit_iff c).mp h
  have hall : ∀ d : Fin 10, Nat.digitChar (48 + (d : Nat) - 48) = Char.ofNat (48 + d) := by decide
  obtain ⟨d, hd⟩ : ∃ d : Fin 10, c.toNat = 48 + d := ⟨⟨c.toNat - 48, by omega⟩, by dsimp; omega⟩
  rw [hd, hall d, ← hd, Char.ofNat_toNat]

theorem digitsValue_append_singleton (cs : List Char) (c : Char) :
    digitsValue (cs ++ [c]) = 10 * digitsValue cs + (c.toNat - 48) := by
  rw [digitsValue, Nat.ofDigitChars_append, Nat.ofDigitChars_cons, Nat.ofDigitChars_nil]
  rfl

/-- Only zero begins with a zero. -/
theorem eq_zero_of_head?_digits (h : (digits n).head? = some '0') : n = 0 := by
  induction n using Nat.strongRecOn with
  | ind n ih =>
    by_cases hlt : n < 10
    · have hall : ∀ d : Fin 10, Nat.digitChar d = '0' → (d : Nat) = 0 := by decide
      rw [digits, Nat.toDigits_of_lt_base hlt, List.head?_cons, Option.some_inj] at h
      exact hall ⟨n, hlt⟩ h
    · -- The first digit is that of a tenth of the number, which is not zero.
      have hhead : (digits (n / 10)).head? = some '0' := by
        rw [digits, Nat.toDigits_of_base_le (by decide) (Nat.le_of_not_lt hlt),
          List.head?_append_of_ne_nil _ Nat.toDigits_ne_nil] at h
        exact h
      have := ih (n / 10) (by omega) hhead
      omega

/-- **A number is written as a numeral.** -/
theorem isNumeral_digits (n : Nat) : IsNumeral (digits n) where
  ne_nil := Nat.toDigits_ne_nil
  isDigit_of_mem := fun _ => isDigit_of_mem_digits
  zero_alone := by
    intro h
    rw [eq_zero_of_head?_digits h]
    rfl

/-- **A numeral is what its number is written as.** -/
theorem digits_digitsValue (h : IsNumeral cs) : digits (digitsValue cs) = cs := by
  induction cs using List.reverseRecOn with
  | nil => exact absurd rfl h.ne_nil
  | append_singleton cs c ih =>
    obtain ⟨hdigits, hc⟩ := List.forall_mem_append.mp h.isDigit_of_mem
    have hlast : c.isDigit = true := hc c (List.mem_singleton_self c)
    have hlt : c.toNat - 48 < 10 := by
      have := (isDigit_iff c).mp hlast
      omega
    have hone : digits (c.toNat - 48) = [c] := by
      rw [digits, Nat.toDigits_of_lt_base hlt, digitChar_of_isDigit hlast]
    rw [digitsValue_append_singleton]
    by_cases hnil : cs = []
    · rw [hnil]
      simpa [digitsValue] using hone
    · -- Digits before the last one cannot begin with a zero, for that would stand alone.
      have hhead : cs.head? ≠ some '0' := by
        intro hzero
        have hwhole := h.zero_alone (by rw [List.head?_append_of_ne_nil _ hnil, hzero])
        have hlength := congrArg List.length hwhole
        simp [hnil] at hlength
      have hbefore := ih ⟨hnil, hdigits, fun hzero => absurd hzero hhead⟩
      have hpos : 0 < digitsValue cs := by
        refine Nat.pos_of_ne_zero fun hzero => hhead ?_
        rw [← hbefore, hzero]
        rfl
      rw [digits, ← Nat.toDigits_append_toDigits (by decide) hpos hlt]
      exact congrArg₂ (· ++ ·) hbefore hone

/-! ## Digits of a given width -/

theorem digitsValue_append (cs ds : List Char) :
    digitsValue (cs ++ ds) = 10 ^ ds.length * digitsValue cs + digitsValue ds := by
  rw [digitsValue, Nat.ofDigitChars_append, Nat.ofDigitChars_eq_ofDigitChars_zero]
  rfl

theorem digitsValue_lt (h : ∀ c ∈ cs, c.isDigit = true) :
    digitsValue cs < 10 ^ cs.length := by
  induction cs using List.reverseRecOn with
  | nil => decide
  | append_singleton cs c ih =>
    obtain ⟨hdigits, hc⟩ := List.forall_mem_append.mp h
    have hlast := (isDigit_iff c).mp (hc c (List.mem_singleton_self c))
    have hbefore := ih hdigits
    rw [digitsValue_append_singleton, List.length_append, List.length_singleton, Nat.pow_succ]
    omega

/-- Digits are given by their number and by how many they are. -/
theorem padZeros_digitsValue (hne : cs ≠ []) (h : ∀ c ∈ cs, c.isDigit = true) :
    padZeros cs.length (digits (digitsValue cs)) = cs := by
  induction cs with
  | nil => exact absurd rfl hne
  | cons c cs ih =>
    obtain ⟨hc, hdigits⟩ := List.forall_mem_cons.mp h
    by_cases hzero : c = '0' ∧ cs ≠ []
    · -- The zero in front is one of those that fill the width.
      obtain ⟨rfl, hnil⟩ := hzero
      have hrest := ih hnil hdigits
      have hvalue : digitsValue ('0' :: cs) = digitsValue cs := by
        rw [digitsValue, Nat.ofDigitChars_cons]
        rfl
      have hfits : (digits (digitsValue cs)).length ≤ cs.length := by
        have hlength := congrArg List.length hrest
        rw [padZeros, List.length_append, List.length_replicate] at hlength
        omega
      rw [padZeros] at hrest
      rw [hvalue, padZeros, List.length_cons, Nat.succ_sub hfits, List.replicate_succ,
        List.cons_append, hrest]
    · have hnumeral : IsNumeral (c :: cs) := by
        refine ⟨hne, h, fun hhead => ?_⟩
        obtain rfl : c = '0' := Option.some.inj hhead
        rw [Classical.not_not.mp fun hnil => hzero ⟨rfl, hnil⟩]
      rw [digits_digitsValue hnumeral, padZeros, Nat.sub_self]
      rfl

end Decimal
end HubDispatch
