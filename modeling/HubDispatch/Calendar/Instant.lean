import HubDispatch.Calendar.Date
import HubDispatch.Decimal.Text

/-!
# Instants

Hours since midnight of a planning day, written as timestamps of RFC 3339 in universal time, and
read back from any timestamp of that form: with a `T`, a `t` or a blank before the time of day, a
fraction of a second, a leap second, or an offset from universal time. Seconds are whole: hours are
rounded to the nearest when written, and a fraction is cut off, toward the planning midnight, when
read.
-/

namespace HubDispatch
namespace Instant

open Decimal (digits padZeros)

def secondsPerDay : Int := 86400

/-- Hours as whole seconds. -/
def secondsOf (hours : Float) : Int := Binary64.toInt64 .halfAway (hours * 3600.0)

/-- The longest time that can be added to a date, in seconds. -/
def longest : Int := (2 ^ 63 - 1) / 1000

/-- A number with leading zeros. -/
def padded (width n : Nat) : List Char := padZeros width (digits n)

/-- A year of four digits; years that need more, or lie before year zero, have a sign. -/
def yearText (y : Int) : List Char :=
  if 0 ≤ y ∧ y ≤ 9999 then padded 4 y.toNat
  else (if y < 0 then '-' else '+') :: padded 4 y.natAbs

/-- A date as year, month and day. -/
def dateText (d : Date) : List Char :=
  yearText d.year ++ '-' :: padded 2 d.month ++ '-' :: padded 2 d.day

/-- A time of day in seconds as hours, minutes and seconds. -/
def timeText (seconds : Nat) : List Char :=
  padded 2 (seconds / 3600) ++ ':' :: padded 2 (seconds / 60 % 60) ++ ':' :: padded 2 (seconds % 60)

/-- The timestamp some seconds after midnight of a date, if the calendar has one. -/
def formatSeconds (date : Date) (seconds : Int) : Option (List Char) :=
  let day := Date.ofDays (date.toDays + seconds / secondsPerDay)
  if seconds.natAbs ≤ longest.natAbs ∧ Date.firstYear ≤ day.year ∧ day.year ≤ Date.lastYear then
    some (dateText day ++ 'T' :: timeText (seconds % secondsPerDay).toNat ++ ['Z'])
  else none

/-- The timestamp some hours after midnight of a date, if the calendar has one. -/
def format (date : Date) (hours : Float) : Option String :=
  (formatSeconds date (secondsOf hours)).map String.ofList

/-- Exactly `n` digits. -/
def readDigits? : (n : Nat) → List Char → (value : Nat) → Option (Nat × List Char)
  | 0, cs, value => some (value, cs)
  | n + 1, c :: cs, value =>
    if c.isDigit then readDigits? n cs (value * 10 + (c.toNat - 48)) else none
  | _ + 1, [], _ => none

/-- A number of `n` digits that does not exceed `limit`. -/
def readNumber? (n limit : Nat) (cs : List Char) : Option (Nat × List Char) :=
  (readDigits? n cs 0).filter fun (value, _) => decide (value ≤ limit)

/-- One of some characters. -/
def skip? (allowed : List Char) : List Char → Option (List Char)
  | c :: cs => if allowed.contains c then some cs else none
  | [] => none

/-- A fraction of a second in nanoseconds; digits after the ninth do not count. -/
def readFraction? (cs : List Char) : Option (Nat × List Char) :=
  match cs with
  | '.' :: rest =>
    let places := rest.takeWhile Char.isDigit
    if places.isEmpty then none
    else some (Nat.ofDigitChars 10 (places ++ List.replicate 9 '0' |>.take 9) 0,
      rest.dropWhile Char.isDigit)
  | _ => some (0, cs)

/-- An offset from universal time in seconds, less than a day; nothing may follow it. -/
def readOffset? : List Char → Option Int
  | ['Z'] => some 0
  | ['z'] => some 0
  | c :: cs => do
    let negative ← if c = '+' then some false else if c = '-' ∨ c = '−' then some true else none
    let (hours, cs) ← readNumber? 2 23 cs
    let cs ← skip? [':'] cs
    let (minutes, cs) ← readNumber? 2 59 cs
    if cs.isEmpty then some (Binary64.Exact.signed negative (hours * 3600 + minutes * 60)) else none
  | [] => none

/-- The nanoseconds from the first of January 1970 to a timestamp. -/
def readNanoseconds? (cs : List Char) : Option Int := do
  let (year, cs) ← readNumber? 4 9999 cs
  let cs ← skip? ['-'] cs
  let (month, cs) ← readNumber? 2 12 cs
  let cs ← skip? ['-'] cs
  let (day, cs) ← readNumber? 2 31 cs
  let date : Date := ⟨year, month, day⟩
  let cs ← skip? ['T', 't', ' '] cs
  let (hour, cs) ← readNumber? 2 23 cs
  let cs ← skip? [':'] cs
  let (minute, cs) ← readNumber? 2 59 cs
  let cs ← skip? [':'] cs
  let (second, cs) ← readNumber? 2 60 cs
  let (fraction, cs) ← readFraction? cs
  let offset ← readOffset? cs
  if date.isValid then
    let seconds := date.toDays * secondsPerDay + (hour * 3600 + minute * 60 + second : Nat) - offset
    some (seconds * 10 ^ 9 + fraction)
  else none

/-- The whole seconds from midnight of a date to a timestamp. -/
def readSeconds? (date : Date) (cs : List Char) : Option Int :=
  (readNanoseconds? cs).map fun n => (n - date.toDays * secondsPerDay * 10 ^ 9).tdiv (10 ^ 9)

/-- The hours from midnight of a date to a timestamp. -/
def read? (date : Date) (s : String) : Option Float :=
  (readSeconds? date s.toList).map fun n => Float.ofInt n / 3600.0

end Instant
end HubDispatch
