import HubDispatch.Decimal.Reading
import HubDispatch.Decimal.Text

/-!
# Counts are read as they are written

A run of characters is read as a count exactly when all of them are digits and the number they spell
stays within the limit (`readDigits_eq_ok_iff`): the value only grows along the text, so no digit
leaves the range unless the whole number does. The digits of a count are therefore read back
(`readCount_digits`), and different counts have different digits (`digits_injective`).
-/

namespace HubDispatch
namespace Decimal

variable {limit n v : Nat} {beyond : ReadFault} {cs : List Char}

theorem isDigit_iff (c : Char) : c.isDigit = true ↔ 48 ≤ c.toNat ∧ c.toNat ≤ 57 := by
  simp only [Char.isDigit, Bool.and_eq_true, decide_eq_true_eq, ge_iff_le, UInt32.le_iff_toNat_le]
  rfl

/-- Among the characters that may stand for a value, only the ten digits are below ten. -/
theorem digitValue?_ten (c : Char) :
    digitValue? 10 c = if c.isDigit then some (c.toNat - 48) else none := by
  unfold digitValue?
  by_cases hd : c.isDigit
  · have := (isDigit_iff c).mp hd
    simp only [hd, if_true]
    rw [if_pos (by omega)]
  · simp only [hd, Bool.false_eq_true, if_false]
    refine if_neg ?_
    simp only [Char.le_def, UInt32.le_iff_toNat_le]
    change ¬ (if 97 ≤ c.toNat ∧ c.toNat ≤ 122 then c.toNat - 87
      else if 65 ≤ c.toNat ∧ c.toNat ≤ 90 then c.toNat - 55 else 10) < 10
    split
    · omega
    · split <;> omega

theorem le_ofDigitChars (cs : List Char) (v : Nat) : v ≤ Nat.ofDigitChars 10 cs v := by
  rw [Nat.ofDigitChars_eq_ofDigitChars_zero]
  exact Nat.le_trans (Nat.le_mul_of_pos_left v (Nat.pow_pos (by decide))) (Nat.le_add_right _ _)

/-- Digits are read exactly when the number they spell stays within the limit. -/
theorem readDigits_eq_ok_iff (hv : v ≤ limit) :
    readDigits 10 limit beyond cs v = .ok n ↔
      (∀ c ∈ cs, c.isDigit = true) ∧ Nat.ofDigitChars 10 cs v = n ∧ n ≤ limit := by
  induction cs generalizing v with
  | nil =>
    simp only [readDigits, Except.ok.injEq, List.not_mem_nil, false_implies, implies_true,
      Nat.ofDigitChars_nil, true_and]
    exact ⟨fun h => ⟨h, h ▸ hv⟩, fun h => h.1⟩
  | cons c cs ih =>
    rw [readDigits, digitValue?_ten, Nat.ofDigitChars_cons, List.forall_mem_cons]
    by_cases hd : c.isDigit
    · simp only [hd, if_true, true_and, Nat.mul_comm v 10]
      change (if limit < 10 * v + (c.toNat - 48) then _ else _) = _ ↔
        _ ∧ Nat.ofDigitChars 10 cs (10 * v + (c.toNat - 48)) = n ∧ _
      split
      · -- Beyond the limit already, and the digits to come make it no smaller.
        rename_i hlt
        have := le_ofDigitChars cs (10 * v + (c.toNat - 48))
        simp only [reduceCtorEq, false_iff]
        rintro ⟨-, rfl, hle⟩
        omega
      · exact ih (by omega)
    · simp [hd]

theorem digits_injective {m n : Nat} (h : digits m = digits n) : m = n := by
  rw [← Nat.ofDigitChars_toDigits (b := 10) (n := m) (by decide) (by decide),
    ← Nat.ofDigitChars_toDigits (b := 10) (n := n) (by decide) (by decide)]
  exact congrArg (Nat.ofDigitChars 10 · 0) h

theorem isDigit_of_mem_digits {c : Char} (h : c ∈ digits n) : c.isDigit = true :=
  Nat.isDigit_of_mem_toDigits (by decide) (by decide) h

theorem readDigits_digits (h : n ≤ limit) : readDigits 10 limit beyond (digits n) 0 = .ok n :=
  (readDigits_eq_ok_iff (Nat.zero_le _)).mpr
    ⟨fun _ => isDigit_of_mem_digits, Nat.ofDigitChars_toDigits (by decide) (by decide), h⟩

/-- **The digits of a count are read back.** -/
theorem readCount_digits (h : n ≤ limit) : readCount limit (digits n) = .ok n := by
  have hplus : '+' ∉ digits n := fun hm => absurd (isDigit_of_mem_digits hm) (by decide)
  have hread : readDigits 10 limit .tooLarge (digits n) 0 = .ok n := readDigits_digits h
  rw [← hread]
  cases hd : digits n with
  | nil => exact absurd hd Nat.toDigits_ne_nil
  | cons c cs =>
    rw [hd, List.mem_cons, not_or] at hplus
    unfold readCount
    split
    · rename_i heq; cases heq
    · rename_i heq; cases heq; exact absurd rfl hplus.1
    · rename_i heq; cases heq; exact absurd rfl hplus.1
    · rfl

/-- A count that is read stays within the limit. -/
theorem le_of_readCount (h : readCount limit cs = .ok n) : n ≤ limit := by
  unfold readCount at h
  split at h
  · cases h
  · cases h
  · exact ((readDigits_eq_ok_iff (Nat.zero_le _)).mp h).2.2
  · exact ((readDigits_eq_ok_iff (Nat.zero_le _)).mp h).2.2

/-! ## Leading zeros -/

theorem length_padZeros {width : Nat} (hw : 0 < width) (hn : n < 10 ^ width) :
    (padZeros width (digits n)).length = width := by
  have hlength : (digits n).length ≤ width := (Nat.length_toDigits_le_iff (by decide) hw).mpr hn
  rw [padZeros, List.length_append, List.length_replicate]
  omega

theorem isDigit_of_mem_padZeros {width : Nat} {c : Char} (h : c ∈ padZeros width (digits n)) :
    c.isDigit = true := by
  rcases List.mem_append.mp h with hzero | hdigit
  · rw [List.eq_of_mem_replicate hzero]
    rfl
  · exact isDigit_of_mem_digits hdigit

/-- Zeros in front do not change the number. -/
theorem ofDigitChars_padZeros (width n : Nat) :
    Nat.ofDigitChars 10 (padZeros width (digits n)) 0 = n := by
  rw [padZeros, Nat.ofDigitChars_append, Nat.ofDigitChars_replicate_zero, Nat.mul_zero]
  exact Nat.ofDigitChars_toDigits (by decide) (by decide)

end Decimal
end HubDispatch
