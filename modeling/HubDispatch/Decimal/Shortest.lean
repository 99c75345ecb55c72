import HubDispatch.Binary64.Exact

/-!
# The shortest decimal that reads back

Around `m · 2 ^ q` lies an interval of reals that round to it, its ends included exactly if `m` is
even. Among the multiples of a power of ten that lie in this interval, `shortest` takes one of the
greatest power for which there is any; of two such neighbours the nearer, of two equally near the
upper. That power leaves the fewest digits.
-/

namespace HubDispatch
namespace Decimal

/-- The decimal `digits · 10 ^ scale`. -/
structure Scaled where
  digits : Nat
  scale : Int
  deriving DecidableEq, Repr

/-- The interval of reals that round to `m · 2 ^ q`, in units of `2 ^ (q - 2)`. -/
structure Interval where
  low : Nat
  value : Nat
  high : Nat
  closed : Bool

/-- Below a power of two the next number is half as far away, except at the bottom of the range. -/
def Interval.of (m : Nat) (q : Int) : Interval where
  low := if m = 2 ^ 52 ∧ q > -1074 then 4 * m - 1 else 4 * m - 2
  value := 4 * m
  high := 4 * m + 2
  closed := m % 2 == 0

/-- Whether `n / den` lies in the interval scaled by `unit`. -/
def Interval.holds (i : Interval) (unit n : Nat) : Bool :=
  if i.closed then decide (i.low * unit ≤ n ∧ n ≤ i.high * unit)
  else decide (i.low * unit < n ∧ n < i.high * unit)

/-- The multiple of `10 ^ scale` that lies in the interval around `m · 2 ^ q`, if there is one. -/
def onGrid (m : Nat) (q scale : Int) : Option Nat :=
  let i := Interval.of m q
  let unit := 2 ^ (q - 2).toNat * 10 ^ (-scale).toNat
  let step := 2 ^ (2 - q).toNat * 10 ^ scale.toNat
  let below := i.value * unit / step
  let above := below + 1
  match i.holds unit (below * step), i.holds unit (above * step) with
  | true, true =>
    if i.value * unit - below * step < above * step - i.value * unit then some below else some above
  | true, false => some below
  | false, true => some above
  | false, false => none

/-- The first grid with a hit, from `10 ^ scale` downwards. -/
def search (m : Nat) (q : Int) : Nat → Int → Scaled
  | 0, scale => ⟨0, scale⟩
  | steps + 1, scale =>
    match onGrid m q scale with
    | some digits => ⟨digits, scale⟩
    | none => search m q steps (scale - 1)

/-- A power of ten above `m · 2 ^ q` for every `m < 2 ^ 53`. -/
def ceiling (q : Int) : Int := (q + 53) * 30103 / 100000 + 1

/-- The shortest decimal that reads back as `m · 2 ^ q`. Seventeen digits always suffice, and the
smallest numbers lie sixteen powers of ten below the ceiling, so forty grids are enough. -/
def shortest (m : Nat) (q : Int) : Scaled :=
  if m = 0 then ⟨0, 0⟩ else search m q 40 (ceiling q)

end Decimal
end HubDispatch
