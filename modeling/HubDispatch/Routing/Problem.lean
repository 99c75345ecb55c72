import HubDispatch.Routing.Route
import HubDispatch.Travel.Matrices

/-!
# Routing problems

The shipments of a cluster, the vehicles that may carry them, and the travel matrices by position in
a list of locations. Every vehicle is used at most once.

The matrix position of a location is where it stands first in the list of the problem. So a position
leads back to the location, whatever is repeated, and every location of the list has one.
-/

namespace HubDispatch

/-- What an optimizer is asked. -/
structure Problem where
  shipments : List Shipment
  vehicles : List Vehicle
  locations : List LocationCode
  matrices : Matrices

namespace Problem

/-- The matrix position of a location. -/
def locationIndex (p : Problem) (code : LocationCode) : Except Fault Nat :=
  match p.locations.idxOf? code with
  | some i => .ok i
  | none => .error (.unknownLocation code)

/-- The first vehicle with an id. -/
def vehicle? (p : Problem) (id : String) : Option Vehicle := p.vehicles.find? (·.id == id)

def isEmpty (p : Problem) : Bool := p.shipments.isEmpty

variable {p : Problem} {code : LocationCode} {i : Nat}

theorem locationIndex_eq_ok_iff :
    p.locationIndex code = .ok i ↔ p.locations.idxOf? code = some i := by
  unfold locationIndex
  cases p.locations.idxOf? code <;> simp

/-- A position leads back to its location. -/
theorem getElem?_of_locationIndex (h : p.locationIndex code = .ok i) :
    p.locations[i]? = some code := by
  have hfirst := List.idxOf?_eq_some_iff.mp (locationIndex_eq_ok_iff.mp h)
  obtain ⟨hlt, heq, -⟩ := hfirst
  rw [List.getElem?_eq_getElem hlt, heq]

/-- Exactly the locations of the problem have a position. -/
theorem exists_locationIndex_iff : (∃ i, p.locationIndex code = .ok i) ↔ code ∈ p.locations := by
  simp only [locationIndex_eq_ok_iff]
  rw [← Option.isSome_iff_exists, List.isSome_idxOf?]

end Problem
end HubDispatch
