import HubDispatch.Decimal.Text

/-!
# Hours in reports

Hours are written as `H.MM`, rounded to the minute, with a minus sign in front of a negative time.
-/

namespace HubDispatch
namespace Report

/-- Hours as whole minutes; a half minute goes away from zero. -/
def minutesOf (hours : Float) : Int := Binary64.toInt64 .halfAway (hours * 60.0)

/-- At least two characters, with a zero in front. -/
def twoPlaces (n : Int) : String :=
  if 0 ≤ n ∧ n < 10 then "0" ++ Decimal.intText n else Decimal.intText n

/-- Minutes as hours and minutes. The magnitude is a 64-bit signed integer, in which only that of
the least integer has no place. -/
def minutesText (m : Int) : String :=
  let size := Binary64.wrapSigned m.natAbs
  (if m < 0 then "-" else "") ++ Decimal.intText (size.tdiv 60) ++ "." ++ twoPlaces (size.tmod 60)

/-- Hours as they stand in reports. -/
def hoursText (hours : Float) : String := minutesText (minutesOf hours)

end Report
end HubDispatch
