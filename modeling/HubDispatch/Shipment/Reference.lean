import HubDispatch.Fault

/-!
# Shipment references

A shipment is known by its origin, its destination and its place among the parts of their demand,
counted from one. As a job id it reads `A - B, ShipmentNo:3`. Codes that hold a mark of this form
are refused, so that `ofText` reads a job id back; a mark that only arises where a code meets the
next mark is not seen.
-/

namespace HubDispatch

/-- Which shipment is meant. -/
structure ShipmentRef where
  origin : LocationCode
  destination : LocationCode
  sequence : Nat
  deriving DecidableEq, Repr

namespace ShipmentRef

/-- Between origin and destination. -/
def dash : String := " - "

/-- In front of the sequence number. -/
def numberMark : String := ", ShipmentNo:"

/-- The reference as a text, whatever its codes. -/
def text (r : ShipmentRef) : String :=
  r.origin ++ dash ++ r.destination ++ numberMark ++ Decimal.wholeText r.sequence

/-- The code can stand in a job id: it is not empty, no blank stands at either end, and it holds
neither a comma nor the dash between blanks. -/
def isEncodable (code : LocationCode) : Bool :=
  !code.isEmpty && Text.trimChars code.toList == code.toList && !code.toList.contains ',' &&
    !Text.occurs dash.toList code.toList

/-- The reference as a job id; the first code that cannot stand in one is reported. -/
def jobId (r : ShipmentRef) : Except Fault String :=
  if !isEncodable r.origin then .error (.invalidShipmentRef r.origin)
  else if !isEncodable r.destination then .error (.invalidShipmentRef r.destination)
  else .ok r.text

/-- The reference that some characters spell. -/
def ofChars? (cs : List Char) : Option ShipmentRef := do
  let (codes, number) ← Text.splitOnce numberMark.toList cs
  let (origin, destination) ← Text.splitOnce dash.toList codes
  let sequence ← (Decimal.readCount Binary64.count64Max number).toOption
  let r : ShipmentRef := ⟨String.ofList origin, String.ofList destination, sequence⟩
  if isEncodable r.origin && isEncodable r.destination then some r else none

/-- The reference that a text spells. -/
def ofText (s : String) : Except Fault ShipmentRef :=
  match ofChars? s.toList with
  | some r => .ok r
  | none => .error (.invalidShipmentRef s)

end ShipmentRef
end HubDispatch
