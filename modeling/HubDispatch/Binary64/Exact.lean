/-!
# Exact values of binary64 numbers

A binary64 pattern is not a number, an infinity, or a sign together with a product `m · 2 ^ q`.
`Exact` is that reading. Every conversion from hours, kilograms and kilometres to whole numbers is
computed on it in exact arithmetic, so that rounding happens once and by a named rule.

`toInt` brings a value to a whole number and then into a range: a value beyond an end of the range
becomes that end, and what is not a number becomes zero.

`orderKey` is the total order on patterns: negative before positive, not-a-number of either sign
outermost, and `-0.0` just before `0.0`. Different patterns have different keys
(`orderKey_injective`).
-/

namespace HubDispatch
namespace Binary64

/-- Powers of whole numbers are those of the core library, also where Mathlib brings its own. -/
@[default_instance 100000]
instance (priority := 100000) instPowOfNatPow {α : Type} [NatPow α] : Pow α Nat := instPowNat

/-- How a value between two whole numbers is brought to one of them. -/
inductive Rounding where
  /-- The whole number below. -/
  | down
  /-- The whole number above. -/
  | up
  /-- The whole number nearer to zero. -/
  | towardZero
  /-- The nearest; a half goes away from zero. -/
  | halfAway
  /-- The nearest; a half goes to the even neighbour. -/
  | halfEven
  deriving DecidableEq, Repr

/-- The magnitude that `num / den` with the given sign is brought to. -/
def Rounding.magnitude (rule : Rounding) (negative : Bool) (num den : Nat) : Nat :=
  let whole := num / den
  let rest := num % den
  let raised : Bool :=
    match rule with
    | .down => negative && rest != 0
    | .up => !negative && rest != 0
    | .towardZero => false
    | .halfAway => decide (den ≤ 2 * rest)
    | .halfEven => decide (den < 2 * rest) || (den == 2 * rest && whole % 2 == 1)
  if raised then whole + 1 else whole

/-- What a binary64 pattern stands for. -/
inductive Exact where
  /-- Not a number. -/
  | nan
  /-- An infinity with its sign. -/
  | infinite (negative : Bool)
  /-- `± m · 2 ^ q`. -/
  | finite (negative : Bool) (m : Nat) (q : Int)
  deriving DecidableEq, Repr

namespace Exact

/-- Sign in the top bit, eleven bits of exponent, fifty-two of fraction. -/
def ofBits (bits : UInt64) : Exact :=
  let pattern := bits.toNat
  let negative := decide (2 ^ 63 ≤ pattern)
  let exponent : Nat := pattern / 2 ^ 52 % 2 ^ 11
  let fraction : Nat := pattern % 2 ^ 52
  if exponent = 2047 then
    if fraction = 0 then .infinite negative else .nan
  else if exponent = 0 then
    .finite negative fraction (-1074)
  else
    .finite negative (2 ^ 52 + fraction) ((exponent : Int) - 1075)

/-- The exact value of a number. -/
def ofFloat (x : Float) : Exact := ofBits x.toBits

/-- `n` if it lies between `lo` and `hi`, and else the end that it passes. -/
def clamp (lo hi n : Int) : Int := max lo (min hi n)

/-- The numerator of `m · 2 ^ q`. -/
def numerator (m : Nat) (q : Int) : Nat := m * 2 ^ q.toNat

/-- The denominator of `m · 2 ^ q`. -/
def denominator (q : Int) : Nat := 2 ^ (-q).toNat

/-- A whole number with the given sign. -/
def signed (negative : Bool) (n : Nat) : Int := if negative then -(n : Int) else n

/-- The whole number that `rule` gives, brought into `lo .. hi`. -/
def toInt (rule : Rounding) (lo hi : Int) : Exact → Int
  | .nan => 0
  | .infinite negative => if negative then lo else hi
  | .finite negative m q =>
    clamp lo hi (signed negative (rule.magnitude negative (numerator m q) (denominator q)))

theorem clamp_mem {lo hi n : Int} (h : lo ≤ hi) : lo ≤ clamp lo hi n ∧ clamp lo hi n ≤ hi := by
  unfold clamp
  omega

theorem clamp_of_mem {lo hi n : Int} (h₁ : lo ≤ n) (h₂ : n ≤ hi) : clamp lo hi n = n := by
  unfold clamp
  omega

/-- A conversion never leaves a range that holds zero. -/
theorem toInt_mem {rule : Rounding} {lo hi : Int} (h₁ : lo ≤ 0) (h₂ : 0 ≤ hi) (x : Exact) :
    lo ≤ x.toInt rule lo hi ∧ x.toInt rule lo hi ≤ hi := by
  cases x with
  | nan => exact ⟨h₁, h₂⟩
  | infinite negative => cases negative <;> simp [toInt] <;> omega
  | finite negative m q => exact clamp_mem (by omega)

end Exact

/-- The least 64-bit signed integer. -/
def int64Min : Int := -2 ^ 63

/-- The greatest 64-bit signed integer. -/
def int64Max : Int := 2 ^ 63 - 1

/-- The greatest 32-bit count. -/
def count32Max : Nat := 2 ^ 32 - 1

/-- The greatest 64-bit count. -/
def count64Max : Nat := 2 ^ 64 - 1

/-- A number as a 64-bit signed integer. -/
def toInt64 (rule : Rounding) (x : Float) : Int :=
  (Exact.ofFloat x).toInt rule int64Min int64Max

/-- A number as a 32-bit count. -/
def toCount32 (rule : Rounding) (x : Float) : Nat :=
  ((Exact.ofFloat x).toInt rule 0 count32Max).toNat

/-- A number as a 64-bit count. -/
def toCount64 (rule : Rounding) (x : Float) : Nat :=
  ((Exact.ofFloat x).toInt rule 0 count64Max).toNat

/-- The 64-bit signed integer with the same bits as a 64-bit count. -/
def wrapSigned (n : Nat) : Int := Int.bmod n (2 ^ 64)

/-- Where a pattern stands in the total order. -/
def orderKey (bits : UInt64) : Int :=
  if bits.toNat < 2 ^ 63 then bits.toNat else 2 ^ 63 - 1 - (bits.toNat : Int)

theorem orderKey_injective {a b : UInt64} (h : orderKey a = orderKey b) : a = b := by
  have ha := a.toNat_lt
  have hb := b.toNat_lt
  unfold orderKey at h
  apply UInt64.toNat_inj.1
  split at h <;> split at h <;> omega

/-- Counts as binary64 numbers, to the nearest and with a half to the even neighbour. -/
instance instNatCastFloat : NatCast Float where
  natCast := Float.ofNat

/-- The larger of two numbers; what is not a number loses against any number on its right. -/
def larger (a b : Float) : Float :=
  if a.isNaN then b else if a < b then b else a

end Binary64
end HubDispatch
