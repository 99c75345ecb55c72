import HubDispatch.Proofs.Binary64.Rounding
import HubDispatch.Proofs.Binary64.Value
import HubDispatch.Proofs.Decimal.Numerals
import Mathlib.Tactic.Linarith

/-!
# Numbers with a fixed number of places

What it means that a text shows a number with some places behind the point is said here without the
rounding that is computed. The text is a decimal with that many digits behind the point, the sign is
that of the number, and the units of the last place come nearest to its value, with a half going to
the even neighbour (`Renders`). What is no number and what is infinite have words of their own.

There is one such decimal. The nearest whole number is unique (`IsNearest.unique`) and is the one
that rounding computes (`isNearest_magnitude`); sign and units determine the decimal
(`PlacedDecimal.eq_ofUnits`), which is what is written (`withPoint_eq`). So a number has one text,
and that is the one it is given (`renders_iff`).
-/

namespace HubDispatch
namespace Decimal

open Binary64 (Exact Rounding)

/-! ## The nearest whole number -/

section Nearest

variable {v : ℚ} {k n : Nat}

/-- The whole number is at most a half away from `v`, and even if it is just a half away. -/
structure IsNearest (v : ℚ) (n : Nat) : Prop where
  near : |v - n| ≤ 1 / 2
  even : |v - n| = 1 / 2 → Even n

theorem IsNearest.le (hk : IsNearest v k) (hn : IsNearest v n) : n ≤ k := by
  by_contra hlt
  -- Both are as near as a half, so one is next to the other, and one of them is odd.
  have hnext : (k : ℚ) + 1 ≤ n := by exact_mod_cast not_le.mp hlt
  have hk' := abs_le.mp hk.near
  have hn' := abs_le.mp hn.near
  have hbetween : v = k + 1 / 2 := by linarith
  have hnext' : (n : ℚ) = (k + 1 : Nat) := by
    push_cast
    linarith
  have hkeven : Even k := hk.even (by rw [hbetween, add_sub_cancel_left, abs_of_pos one_half_pos])
  have hneven : Even n := by
    refine hn.even ?_
    rw [hbetween, hnext', Nat.cast_add, Nat.cast_one, add_sub_add_left_eq_sub, abs_sub_comm]
    norm_num
  rw [Nat.cast_inj] at hnext'
  rw [hnext', Nat.even_add_one] at hneven
  exact hneven hkeven

theorem IsNearest.unique (hk : IsNearest v k) (hn : IsNearest v n) : k = n :=
  Nat.le_antisymm (hn.le hk) (hk.le hn)

/-- **Rounding finds the nearest whole number.** -/
theorem isNearest_magnitude (num : Nat) {den : Nat} (hden : 0 < den) :
    IsNearest ((num : ℚ) / den) (Rounding.halfEven.magnitude false num den) := by
  have hpos : (0 : ℚ) < den := Nat.cast_pos.mpr hden
  have hdistance (k : Nat) : |(num : ℚ) / den - k| = |(num : ℚ) - k * den| / den := by
    rw [div_sub' hpos.ne', abs_div, abs_of_pos hpos, mul_comm]
  constructor
  case near =>
    obtain ⟨habove, hbelow⟩ := Exact.halfEven_near num hden
    have habove' : 2 * ((Rounding.halfEven.magnitude false num den : ℚ) * den) ≤ 2 * num + den := by
      exact_mod_cast habove
    have hbelow' : 2 * (num : ℚ) ≤ 2 * (Rounding.halfEven.magnitude false num den * den) + den := by
      exact_mod_cast hbelow
    rw [hdistance, div_le_iff₀ hpos, abs_le]
    constructor <;> linarith
  case even =>
    intro htie
    refine Nat.even_iff.mpr (Exact.halfEven_mod_two hden ?_)
    rw [hdistance, div_eq_iff hpos.ne', abs_eq (by positivity)] at htie
    rcases htie with hbelow | habove
    · left
      have : 2 * (num : ℚ) = 2 * (Rounding.halfEven.magnitude false num den * den) + den := by
        linarith
      exact_mod_cast this
    · right
      have : 2 * ((Rounding.halfEven.magnitude false num den : ℚ) * den) = 2 * num + den := by
        linarith
      exact_mod_cast this

end Nearest

/-! ## Decimals -/

/-- A number with a sign, a numeral before the point and some digits behind it. -/
structure PlacedDecimal (places : Nat) where
  negative : Bool
  whole : List Char
  fraction : List Char
  isNumeral_whole : IsNumeral whole
  length_fraction : fraction.length = places
  isDigit_of_mem_fraction : ∀ c ∈ fraction, c.isDigit = true

namespace PlacedDecimal

variable {places : Nat}

def text (t : PlacedDecimal places) : String :=
  String.ofList ((if t.negative then ['-'] else []) ++ t.whole ++ ['.'] ++ t.fraction)

/-- How many units of the last place the digits come to. -/
def units (t : PlacedDecimal places) : Nat :=
  10 ^ places * digitsValue t.whole + digitsValue t.fraction

/-- Units of the last place as they are written. -/
def ofUnits (negative : Bool) (hplaces : 0 < places) (n : Nat) : PlacedDecimal places where
  negative := negative
  whole := digits (n / 10 ^ places)
  fraction := padZeros places (digits (n % 10 ^ places))
  isNumeral_whole := isNumeral_digits _
  length_fraction := length_padZeros hplaces (Nat.mod_lt _ (Nat.pow_pos (by decide)))
  isDigit_of_mem_fraction := fun _ => isDigit_of_mem_padZeros

theorem units_ofUnits (negative : Bool) (hplaces : 0 < places) (n : Nat) :
    (ofUnits negative hplaces n).units = n := by
  have hwhole : digitsValue (ofUnits negative hplaces n).whole = n / 10 ^ places :=
    Nat.ofDigitChars_toDigits (by decide) (by decide)
  have hfraction : digitsValue (ofUnits negative hplaces n).fraction = n % 10 ^ places :=
    ofDigitChars_padZeros _ _
  rw [units, hwhole, hfraction, Nat.div_add_mod]

/-- **Sign and units determine the decimal.** -/
theorem eq_ofUnits (hplaces : 0 < places) (t : PlacedDecimal places) :
    t = ofUnits t.negative hplaces t.units := by
  have hlt := digitsValue_lt t.isDigit_of_mem_fraction
  rw [t.length_fraction] at hlt
  have hwhole : digits (t.units / 10 ^ places) = t.whole := by
    rw [units, Nat.mul_add_div (Nat.zero_lt_of_lt hlt), Nat.div_eq_of_lt hlt, Nat.add_zero]
    exact digits_digitsValue t.isNumeral_whole
  have hfraction : padZeros places (digits (t.units % 10 ^ places)) = t.fraction := by
    have hne : t.fraction ≠ [] := by
      apply List.ne_nil_of_length_pos
      rwa [t.length_fraction]
    have hpadded := padZeros_digitsValue hne t.isDigit_of_mem_fraction
    rw [t.length_fraction] at hpadded
    rw [units, Nat.mul_add_mod, Nat.mod_eq_of_lt hlt, hpadded]
  cases t
  simp only [ofUnits, mk.injEq]
  exact ⟨trivial, hwhole.symm, hfraction.symm⟩

end PlacedDecimal

/-- Digits of a number, cut before the last places. -/
theorem padZeros_digits {places : Nat} (hplaces : 0 < places) (n : Nat) :
    padZeros (places + 1) (digits n) =
      digits (n / 10 ^ places) ++ padZeros places (digits (n % 10 ^ places)) := by
  set cs := digits (n / 10 ^ places) ++ padZeros places (digits (n % 10 ^ places)) with hcs
  have hlength : (padZeros places (digits (n % 10 ^ places))).length = places :=
    length_padZeros hplaces (Nat.mod_lt _ (Nat.pow_pos (by decide)))
  have hdigits : ∀ c ∈ cs, c.isDigit = true :=
    List.forall_mem_append.mpr ⟨fun _ => isDigit_of_mem_digits, fun _ => isDigit_of_mem_padZeros⟩
  have hne : digits (n / 10 ^ places) ≠ [] := Nat.toDigits_ne_nil
  have hvalue : digitsValue cs = n := by
    rw [hcs, digitsValue_append, hlength, digitsValue, digitsValue, ofDigitChars_padZeros]
    rw [digits, Nat.ofDigitChars_toDigits (by decide) (by decide), Nat.div_add_mod]
  by_cases hzero : n / 10 ^ places = 0
  · -- One zero stands before the point, and all is filled up to this width.
    have hwidth : cs.length = places + 1 := by
      rw [hcs, List.length_append, hlength, hzero, Nat.add_comm]
      rfl
    rw [← hwidth, ← hvalue]
    exact padZeros_digitsValue (by simp [hcs, hne]) hdigits
  · -- The digits before the point begin with another digit than zero, so nothing is filled.
    have hnumeral : IsNumeral cs := by
      refine ⟨by simp [hcs, hne], hdigits, fun hhead => ?_⟩
      rw [hcs, List.head?_append_of_ne_nil _ hne] at hhead
      exact absurd (eq_zero_of_head?_digits hhead) hzero
    have hwidth : places + 1 ≤ cs.length := by
      have := List.length_pos_of_ne_nil hne
      rw [hcs, List.length_append, hlength]
      omega
    rw [← hvalue, digits_digitsValue hnumeral, padZeros, Nat.sub_eq_zero_of_le hwidth]
    rfl

/-- **A scaled number is written with the point before the last places.** -/
theorem withPoint_eq {places : Nat} (hplaces : 0 < places) (n : Nat) :
    withPoint places n =
      digits (n / 10 ^ places) ++ ['.'] ++ padZeros places (digits (n % 10 ^ places)) := by
  have hlength : (padZeros places (digits (n % 10 ^ places))).length = places :=
    length_padZeros hplaces (Nat.mod_lt _ (Nat.pow_pos (by decide)))
  unfold withPoint
  cases places with
  | zero => cases hplaces
  | succ p =>
    dsimp only
    rw [padZeros_digits hplaces, List.length_append, hlength, Nat.add_sub_cancel, List.take_left,
      List.drop_left, List.append_assoc]
    rfl

/-! ## Numbers as they are written -/

/-- The text shows the number with some places behind the point, as a decimal of the same sign that
comes nearest to it. What is no number and what is infinite have words of their own. -/
inductive Renders (places : Nat) (x : Float) : String → Prop
  | nan (h : Exact.ofFloat x = .nan) : Renders places x "NaN"
  | infinite (h : Exact.ofFloat x = .infinite false) : Renders places x "inf"
  | negInfinite (h : Exact.ofFloat x = .infinite true) : Renders places x "-inf"
  | finite (t : PlacedDecimal places) {m : Nat} {q : Int}
      (h : Exact.ofFloat x = .finite t.negative m q)
      (nearest : IsNearest ((m : ℚ) * 2 ^ q * 10 ^ places) t.units) : Renders places x t.text

variable {places : Nat} {x : Float} {text : String}

theorem isNearest_scaled (places m : Nat) (q : Int) :
    IsNearest ((m : ℚ) * 2 ^ q * 10 ^ places) (Rounding.halfEven.magnitude false
      (Exact.numerator m q * 10 ^ places) (Exact.denominator q)) := by
  have hvalue : (m : ℚ) * 2 ^ q = (Exact.numerator m q : ℚ) / Exact.denominator q := by
    simpa [Exact.signed] using Exact.signed_mul_two_zpow false m q
  have hscaled : (m : ℚ) * 2 ^ q * 10 ^ places =
      (Exact.numerator m q * 10 ^ places : Nat) / (Exact.denominator q : ℚ) := by
    rw [hvalue, Nat.cast_mul, Nat.cast_pow, Nat.cast_ofNat, div_mul_eq_mul_div]
  rw [hscaled]
  exact isNearest_magnitude _ (Exact.denominator_pos q)

/-- What is given to a finite number is a decimal of its sign. -/
theorem fixedText_of_finite (hplaces : 0 < places) {negative : Bool} {m : Nat} {q : Int}
    (h : Exact.ofFloat x = .finite negative m q) :
    fixedText places x = (PlacedDecimal.ofUnits negative hplaces (Rounding.halfEven.magnitude false
      (Exact.numerator m q * 10 ^ places) (Exact.denominator q))).text := by
  rw [fixedText, signedText, h, PlacedDecimal.text]
  dsimp only
  rw [withPoint_eq hplaces]
  cases negative <;> rfl

/-- **A number has one text with some places behind the point**, and that is the one it is given. -/
theorem renders_iff (hplaces : 0 < places) :
    Renders places x text ↔ text = fixedText places x := by
  constructor
  · rintro (h | h | h | ⟨t, h, hnearest⟩)
    · rw [fixedText, signedText, h]
    · rw [fixedText, signedText, h]
      rfl
    · rw [fixedText, signedText, h]
      rfl
    · rw [fixedText_of_finite hplaces h, ← hnearest.unique (isNearest_scaled _ _ _),
        ← t.eq_ofUnits hplaces]
  · rintro rfl
    cases h : Exact.ofFloat x with
    | nan =>
      rw [fixedText, signedText, h]
      exact .nan h
    | infinite negative =>
      rw [fixedText, signedText, h]
      cases negative with
      | false => exact .infinite h
      | true => exact .negInfinite h
    | finite negative m q =>
      rw [fixedText_of_finite hplaces h]
      refine .finite _ h ?_
      rw [PlacedDecimal.units_ofUnits]
      exact isNearest_scaled places m q

-- A half goes to the even neighbour, and what is rounded to zero keeps its sign.
example : fixedText 1 0.25 = "0.2" ∧ fixedText 1 (-0.04) = "-0.0" := by decide +kernel

end Decimal
end HubDispatch
