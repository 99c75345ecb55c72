import HubDispatch.Decimal.Shortest

/-!
# Decimal text

Numbers are always written positionally, never with an exponent. `shortestText` writes the fewest
digits that read back and no point for a whole number; `fixedText` writes a given number of places,
rounding the exact value with a half going to the even neighbour. Both keep the sign of zero.
-/

namespace HubDispatch
namespace Decimal

open Binary64 (Exact Rounding)

/-- The digits of a whole number. -/
def digits (n : Nat) : List Char := Nat.toDigits 10 n

/-- The text of a whole number. -/
def wholeText (n : Nat) : String := String.ofList (digits n)

/-- The text of an integer. -/
def intText : Int → String
  | .ofNat n => wholeText n
  | .negSucc n => "-" ++ wholeText (n + 1)

/-- Zeros in front, up to the given width. -/
def padZeros (width : Nat) (cs : List Char) : List Char :=
  List.replicate (width - cs.length) '0' ++ cs

/-- `n / 10 ^ places` with every place written. -/
def withPoint (places n : Nat) : List Char :=
  let cs := padZeros (places + 1) (digits n)
  match places with
  | 0 => cs
  | _ => cs.take (cs.length - places) ++ '.' :: cs.drop (cs.length - places)

/-- A scaled decimal without an exponent. -/
def positional (d : Scaled) : List Char :=
  if d.digits = 0 then ['0']
  else if 0 ≤ d.scale then digits d.digits ++ List.replicate d.scale.toNat '0'
  else withPoint (-d.scale).toNat d.digits

/-- A sign where the number has one, and then the text of the magnitude. -/
def signedText (magnitude : Nat → Int → List Char) (x : Float) : String :=
  match Exact.ofFloat x with
  | .nan => "NaN"
  | .infinite negative => if negative then "-inf" else "inf"
  | .finite negative m q =>
    String.ofList (if negative then '-' :: magnitude m q else magnitude m q)

/-- The fewest digits that read back as the number. -/
def shortestText (x : Float) : String :=
  signedText (fun m q => positional (shortest m q)) x

/-- The number with `places` digits after the point. -/
def fixedText (places : Nat) (x : Float) : String :=
  let scaled (m : Nat) (q : Int) : Nat :=
    Rounding.halfEven.magnitude false (Exact.numerator m q * 10 ^ places) (Exact.denominator q)
  signedText (fun m q => withPoint places (scaled m q)) x

end Decimal
end HubDispatch
