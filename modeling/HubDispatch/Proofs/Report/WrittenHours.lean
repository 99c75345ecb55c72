import HubDispatch.Decimal.Reading
import HubDispatch.Proofs.Decimal.Numerals
import HubDispatch.Proofs.Text.FirstMark
import HubDispatch.Report.Hours

/-!
# Hours as they are written

Which texts stand for hours is said here on their characters alone: a sign or none, a numeral, a
point, and two digits below sixty (`WrittenHours`). The first point is the only one, so there is one
way to take such a text apart (`WrittenHours.text_inj`), and it comes to a number of minutes. Sign
and minutes in turn determine the text (`WrittenHours.eq_ofMinutes_iff`).

Reports write minutes as such a text (`minutesText_eq_text`), all but the least 64-bit integer: its
magnitude has no place among these integers, and what stands for it has two more signs.
-/

namespace HubDispatch
namespace Report

open Binary64 (int64Min int64Max)
open Binary64.Exact (signed)
open Decimal (IsNumeral digits digitsValue padZeros)

/-- Hours as they can be written. -/
structure WrittenHours where
  negative : Bool
  whole : List Char
  minutes : List Char
  isNumeral_whole : IsNumeral whole
  length_minutes : minutes.length = 2
  isDigit_of_mem_minutes : ∀ c ∈ minutes, c.isDigit = true
  minutes_lt : digitsValue minutes < 60

namespace WrittenHours

variable {t u : WrittenHours} {m : Int}

/-- What stands before the point. -/
def front (t : WrittenHours) : List Char := (if t.negative then ['-'] else []) ++ t.whole

def text (t : WrittenHours) : String := String.ofList (t.front ++ ['.'] ++ t.minutes)

/-- The minutes that the digits come to, with the sign. -/
def inMinutes (t : WrittenHours) : Int :=
  signed t.negative (60 * digitsValue t.whole + digitsValue t.minutes)

/-- Minutes as they are written. -/
def ofMinutes (m : Int) : WrittenHours where
  negative := decide (m < 0)
  whole := digits (m.natAbs / 60)
  minutes := padZeros 2 (digits (m.natAbs % 60))
  isNumeral_whole := Decimal.isNumeral_digits _
  length_minutes := by
    have hrest : m.natAbs % 60 < 10 ^ 2 := Nat.lt_trans (Nat.mod_lt _ (by decide)) (by decide)
    exact Decimal.length_padZeros (by decide) hrest
  isDigit_of_mem_minutes := fun _ => Decimal.isDigit_of_mem_padZeros
  minutes_lt := by
    rw [digitsValue, Decimal.ofDigitChars_padZeros]
    exact Nat.mod_lt _ (by decide)

/-! ## Taking a text apart -/

theorem notMem_whole {c : Char} (hc : c.isDigit = false) (t : WrittenHours) : c ∉ t.whole := by
  intro hmem
  rw [t.isNumeral_whole.isDigit_of_mem c hmem] at hc
  cases hc

theorem point_notMem_front (t : WrittenHours) : '.' ∉ t.front := by
  intro hmem
  rcases List.mem_append.mp hmem with hsign | hdigit
  · split at hsign <;> simp at hsign
  · exact notMem_whole rfl t hdigit

/-- The first point is the one behind the hours. -/
theorem splitOnce_text (t : WrittenHours) :
    Text.splitOnce ['.'] t.text.toList = some (t.front, t.minutes) := by
  rw [text, String.toList_ofList]
  exact Text.splitOnce_append_of_notMem t.point_notMem_front

/-- A sign and digits are told apart. -/
theorem front_inj (h : t.front = u.front) : t.negative = u.negative ∧ t.whole = u.whole := by
  have hminus : ∀ v : WrittenHours, '-' ∉ v.whole := notMem_whole rfl
  unfold front at h
  cases ht : t.negative <;> cases hu : u.negative <;> rw [ht, hu] at h
  · exact ⟨rfl, h⟩
  · have hmem : '-' ∈ t.whole := by
      rw [show t.whole = '-' :: u.whole from h]
      exact List.mem_cons_self
    exact absurd hmem (hminus t)
  · have hmem : '-' ∈ u.whole := by
      rw [← show '-' :: t.whole = u.whole from h]
      exact List.mem_cons_self
    exact absurd hmem (hminus u)
  · exact ⟨rfl, List.append_cancel_left h⟩

/-- **A text is taken apart in one way.** -/
theorem text_inj (h : t.text = u.text) : t = u := by
  have hcut := t.splitOnce_text
  rw [h, u.splitOnce_text, Option.some_inj, Prod.mk.injEq] at hcut
  obtain ⟨hfront, hminutes⟩ := hcut
  obtain ⟨hnegative, hwhole⟩ := front_inj hfront
  cases t
  cases u
  cases hnegative
  cases hwhole
  cases hminutes
  rfl

/-! ## Minutes written and read -/

theorem inMinutes_ofMinutes (m : Int) : (ofMinutes m).inMinutes = m := by
  have hwhole : digitsValue (ofMinutes m).whole = m.natAbs / 60 :=
    Nat.ofDigitChars_toDigits (by decide) (by decide)
  have hminutes : digitsValue (ofMinutes m).minutes = m.natAbs % 60 :=
    Decimal.ofDigitChars_padZeros _ _
  have hsign : (ofMinutes m).negative = true ↔ m < 0 := decide_eq_true_iff
  rw [inMinutes, hwhole, hminutes, Nat.div_add_mod, signed]
  by_cases hm : m < 0
  · rw [if_pos (hsign.mpr hm)]
    omega
  · rw [if_neg (mt hsign.mp hm)]
    omega

/-- Sign and minutes determine what is written. -/
theorem eq_ofMinutes_iff :
    t = ofMinutes m ↔ (t.negative = true ↔ m < 0) ∧ t.inMinutes = m := by
  constructor
  · rintro rfl
    exact ⟨decide_eq_true_iff, inMinutes_ofMinutes m⟩
  · rintro ⟨hsign, hm⟩
    have hnegative : t.negative = decide (m < 0) := by
      rw [Bool.eq_iff_iff, hsign, decide_eq_true_iff]
    have hsize : m.natAbs = 60 * digitsValue t.whole + digitsValue t.minutes := by
      rw [← hm, inMinutes, signed]
      split <;> omega
    have hlt := t.minutes_lt
    have hwhole : digits (m.natAbs / 60) = t.whole := by
      rw [show m.natAbs / 60 = digitsValue t.whole by omega]
      exact Decimal.digits_digitsValue t.isNumeral_whole
    have hminutes : padZeros 2 (digits (m.natAbs % 60)) = t.minutes := by
      have hne : t.minutes ≠ [] := List.ne_nil_of_length_pos (by rw [t.length_minutes]; decide)
      rw [show m.natAbs % 60 = digitsValue t.minutes by omega, ← t.length_minutes]
      exact Decimal.padZeros_digitsValue hne t.isDigit_of_mem_minutes
    cases t
    simp only [ofMinutes, mk.injEq]
    exact ⟨hnegative, hwhole.symm, hminutes.symm⟩

end WrittenHours

/-! ## Minutes in reports -/

/-- Two digits make up the minutes of an hour. -/
theorem toList_twoPlaces {n : Nat} (hn : n < 60) :
    (twoPlaces n).toList = padZeros 2 (digits n) := by
  have hall : ∀ k : Fin 60, (twoPlaces (k : Nat)).toList = padZeros 2 (digits k) := by decide
  exact hall ⟨n, hn⟩

theorem wrapSigned_natAbs {m : Int} (hlo : int64Min < m) (hhi : m ≤ int64Max) :
    Binary64.wrapSigned m.natAbs = m.natAbs := by
  unfold int64Min at hlo
  unfold int64Max at hhi
  unfold Binary64.wrapSigned
  rw [Int.bmod_eq_of_le (by omega) (by omega)]

/-- **Minutes are written** with a sign if they are negative, then the whole hours, a point and the
minutes of the hour. -/
theorem minutesText_eq_text {m : Int} (hlo : int64Min < m) (hhi : m ≤ int64Max) :
    minutesText m = (WrittenHours.ofMinutes m).text := by
  have hhours : (Decimal.intText ((m.natAbs : Int).tdiv 60)).toList = digits (m.natAbs / 60) :=
    String.toList_ofList
  have hminutes : (twoPlaces ((m.natAbs : Int).tmod 60)).toList =
      padZeros 2 (digits (m.natAbs % 60)) := toList_twoPlaces (Nat.mod_lt _ (by decide))
  have hpoint : ".".toList = ['.'] := rfl
  have hsign : (if m < 0 then "-" else "").toList = if decide (m < 0) then ['-'] else [] := by
    by_cases hm : m < 0
    · rw [if_pos hm, if_pos (decide_eq_true hm)]
      rfl
    · rw [if_neg hm, if_neg (by simpa using hm)]
      rfl
  rw [← String.toList_inj, minutesText, WrittenHours.text, String.toList_ofList,
    wrapSigned_natAbs hlo hhi, String.toList_append, String.toList_append, String.toList_append,
    hsign, hhours, hpoint, hminutes]
  rfl

/-- The least 64-bit integer has two signs more. -/
theorem minutesText_int64Min : minutesText int64Min = "--153722867280912930.-8" := by decide

/-- One of them stands where only digits can. -/
theorem WrittenHours.text_ne_int64Min (t : WrittenHours) : t.text ≠ minutesText int64Min := by
  intro h
  have hcut := t.splitOnce_text
  have hleast : Text.splitOnce ['.'] (minutesText int64Min).toList =
      some ("--153722867280912930".toList, ['-', '8']) := by
    rw [minutesText_int64Min]
    decide
  rw [h, hleast, Option.some_inj, Prod.mk.injEq] at hcut
  have hsign := t.isDigit_of_mem_minutes '-' (by rw [← hcut.2]; exact List.mem_cons_self)
  revert hsign
  decide

end Report
end HubDispatch
