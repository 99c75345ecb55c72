import HubDispatch.Calendar.Date
import HubDispatch.Text.Blank
import HubDispatch.Binary64.Exact

/-!
# Reading dates

A date is written as year, month and day with hyphens between. Blanks may stand before each number.
A year with a sign has any number of digits, one without at most four; month and day have at most
two. The first fault from the left is reported, and a date that does not exist last.
-/

namespace HubDispatch
namespace Date

/-- Why a text is no date. -/
inductive ReadFault where
  | tooShort
  | invalid
  | outOfRange
  | tooLong
  deriving DecidableEq, Repr

def ReadFault.message : ReadFault → String
  | .tooShort => "premature end of input"
  | .invalid => "input contains invalid characters"
  | .outOfRange => "input is out of range"
  | .tooLong => "trailing input"

/-- Further digits of a number, at most `room` of them. -/
def readMore : (room : Nat) → Nat → List Char → Except ReadFault (Nat × List Char)
  | 0, value, cs => .ok (value, cs)
  | _ + 1, value, [] => .ok (value, [])
  | room + 1, value, c :: cs =>
    if c.isDigit then
      let next := value * 10 + (c.toNat - 48)
      if Binary64.int64Max.toNat < next then .error .outOfRange else readMore room next cs
    else .ok (value, c :: cs)

/-- A number of at least one digit and at most `width`. -/
def readNumber (width : Nat) (cs : List Char) : Except ReadFault (Nat × List Char) :=
  match cs with
  | [] => .error .tooShort
  | c :: _ => if c.isDigit then readMore width 0 cs else .error .invalid

/-- A year. -/
def readYear (cs : List Char) : Except ReadFault (Int × List Char) := do
  let (year, rest) ←
    match cs.dropWhile Text.isBlank with
    | '-' :: rest => do
      let (n, rest) ← readNumber rest.length rest
      pure (-(n : Int), rest)
    | '+' :: rest => do
      let (n, rest) ← readNumber rest.length rest
      pure ((n : Int), rest)
    | cs => do
      let (n, rest) ← readNumber 4 cs
      pure ((n : Int), rest)
  if year < -2 ^ 31 ∨ 2 ^ 31 ≤ year then throw .outOfRange
  return (year, rest)

/-- A month or a day. -/
def readPart (limit : Nat) (cs : List Char) : Except ReadFault (Nat × List Char) := do
  let (n, rest) ← readNumber 2 (cs.dropWhile Text.isBlank)
  if n = 0 ∨ limit < n then throw .outOfRange
  return (n, rest)

def readHyphen : List Char → Except ReadFault (List Char)
  | [] => .error .tooShort
  | c :: cs => if c = '-' then .ok cs else .error .invalid

/-- A date. -/
def read (cs : List Char) : Except ReadFault Date := do
  let (year, cs) ← readYear cs
  let (month, cs) ← readPart 12 (← readHyphen cs)
  let (day, cs) ← readPart 31 (← readHyphen cs)
  if !cs.isEmpty then throw .tooLong
  let date : Date := ⟨year, month, day⟩
  if date.isValid then return date else throw .outOfRange

end Date
end HubDispatch
