import HubDispatch.Binary64.Exact

/-!
# Reading numbers

Whole numbers are read digit by digit from the left, so the first fault in the text decides: a
character that is no digit, or the digit at which the value leaves its range.

Binary64 numbers have an optional sign and then `inf`, `infinity` or `nan` in any letter case, or
digits with at most one point and at least one digit, and an optional exponent. The value is the
nearest binary64 number.
-/

namespace HubDispatch
namespace Decimal

/-- Why a text is no number of the wanted kind. -/
inductive ReadFault where
  | emptyInteger
  | invalidDigit
  | tooLarge
  | tooSmall
  | emptyFloat
  | invalidFloat
  deriving DecidableEq, Repr

def ReadFault.message : ReadFault → String
  | .emptyInteger => "cannot parse integer from empty string"
  | .invalidDigit => "invalid digit found in string"
  | .tooLarge => "number too large to fit in target type"
  | .tooSmall => "number too small to fit in target type"
  | .emptyFloat => "cannot parse float from empty string"
  | .invalidFloat => "invalid float literal"

/-- The value of a digit below `radix`; letters of either case follow the ten digits. -/
def digitValue? (radix : Nat) (c : Char) : Option Nat :=
  let value :=
    if c.isDigit then c.toNat - 48
    else if 'a' ≤ c ∧ c ≤ 'z' then c.toNat - 87
    else if 'A' ≤ c ∧ c ≤ 'Z' then c.toNat - 55
    else radix
  if value < radix then some value else none

/-- Digits after a value read so far, with the fault to report beyond `limit`. -/
def readDigits (radix limit : Nat) (beyond : ReadFault) : List Char → Nat → Except ReadFault Nat
  | [], value => .ok value
  | c :: rest, value =>
    match digitValue? radix c with
    | none => .error .invalidDigit
    | some d =>
      let next := value * radix + d
      if limit < next then .error beyond else readDigits radix limit beyond rest next

/-- A count up to `limit`, with an optional plus sign. -/
def readCount (limit : Nat) : List Char → Except ReadFault Nat
  | [] => .error .emptyInteger
  | ['+'] => .error .invalidDigit
  | '+' :: rest => readDigits 10 limit .tooLarge rest 0
  | cs => readDigits 10 limit .tooLarge cs 0

/-- A 64-bit signed integer in the given radix, with an optional sign. -/
def readSigned (radix : Nat) : List Char → Except ReadFault Int
  | [] => .error .emptyInteger
  | [c] => (readDigits radix (2 ^ 63 - 1) .tooLarge [c] 0).map Int.ofNat
  | '+' :: rest => (readDigits radix (2 ^ 63 - 1) .tooLarge rest 0).map Int.ofNat
  | '-' :: rest => (readDigits radix (2 ^ 63) .tooSmall rest 0).map fun n => -(n : Int)
  | cs => (readDigits radix (2 ^ 63 - 1) .tooLarge cs 0).map Int.ofNat

/-- The binary64 number nearest to `± m · 10 ^ e`. Below `10 ^ -400` everything rounds to zero and
above `10 ^ 400` to infinity, whatever the exponent. -/
def nearest (negative : Bool) (m : Nat) (e : Int) : Float :=
  let size : Int := (Nat.toDigits 10 m).length
  let magnitude : Float :=
    if m = 0 ∨ e + size < -400 then 0.0
    else if 400 < e + size then 1.0 / 0.0
    else if 0 ≤ e then Float.ofScientific (m * 10 ^ e.toNat) false 0
    else Float.ofScientific m true (-e).toNat
  if negative then -magnitude else magnitude

/-- The value of a list of decimal digits. -/
def digitsValue (cs : List Char) : Nat := Nat.ofDigitChars 10 cs 0

/-- An exponent: an optional sign and at least one digit. -/
def readExponent? (cs : List Char) : Option Int :=
  let (negative, rest) :=
    match cs with
    | '+' :: rest => (false, rest)
    | '-' :: rest => (true, rest)
    | cs => (false, cs)
  if rest.isEmpty || !rest.all Char.isDigit then none
  else some (Binary64.Exact.signed negative (digitsValue rest))

/-- What follows the sign: digits, a point, digits, an exponent. -/
def readMagnitude? (cs : List Char) : Option (Nat × Int) :=
  let whole := cs.takeWhile Char.isDigit
  let (fraction, rest) :=
    match cs.dropWhile Char.isDigit with
    | '.' :: rest => (rest.takeWhile Char.isDigit, rest.dropWhile Char.isDigit)
    | rest => ([], rest)
  let exponent? : Option Int :=
    match rest with
    | [] => some 0
    | c :: rest => if c = 'e' ∨ c = 'E' then readExponent? rest else none
  if whole.isEmpty && fraction.isEmpty then none
  else exponent?.map fun e => (digitsValue (whole ++ fraction), e - fraction.length)

/-- A binary64 number. -/
def readFloat (cs : List Char) : Except ReadFault Float :=
  let (negative, rest) :=
    match cs with
    | '+' :: rest => (false, rest)
    | '-' :: rest => (true, rest)
    | cs => (false, cs)
  let word := rest.map Char.toLower
  if cs.isEmpty then .error .emptyFloat
  else if word = "inf".toList ∨ word = "infinity".toList then
    .ok (if negative then -1.0 / 0.0 else 1.0 / 0.0)
  else if word = "nan".toList then .ok (0.0 / 0.0)
  else
    match readMagnitude? rest with
    | some (m, e) => .ok (nearest negative m e)
    | none => .error .invalidFloat

end Decimal
end HubDispatch
