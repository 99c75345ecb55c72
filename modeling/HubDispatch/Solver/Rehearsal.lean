import HubDispatch.Routing.Solution

/-!
# Optimizers for rehearsals

Two optimizers that answer without searching. The direct one gives every shipment a vehicle of its
own; the scripted one reads its answers off a list. They stand in for a solver where a sweep is
tested: the program has no use for them, and nothing is proved of them.
-/

namespace HubDispatch

/-- The same optimizer with a second memory beside its own. -/
def Optimizer.beside (τ : Type) (o : Optimizer σ) : Optimizer (σ × τ) where
  name := o.name
  solve p s :=
    let (reply, state) := o.solve p s.1
    (reply, (state, s.2))

namespace Rehearsal

/-- What a direct optimizer accepts. -/
structure DirectSettings where
  /-- Shipments whose delivery window closes before this hour are left. -/
  rejectBefore : Float
  /-- Every call fails. -/
  fails : Bool

/-- Driving time between any two stops, in hours. -/
def drivingHours : Float := 2.0

/-- The route of a vehicle that carries one shipment. -/
def directRoute (s : Shipment) (v : Vehicle) : Route :=
  let start := s.pickup.earliest
  let loaded := start + s.pickupService
  let unloaded := loaded + drivingHours + s.deliveryService
  { vehicle := v.id
    fleet := v.fleet
    stops := [⟨.pickup, s.reference, s.weight, start, loaded⟩,
      ⟨.delivery, s.reference, s.weight, loaded + drivingHours, unloaded⟩]
    start := start
    finish := unloaded + drivingHours }

/-- The routes so far that begin at a location. -/
def beginningAt (code : LocationCode) (routes : List Route) : Nat :=
  (routes.filter fun r => (r.stops.head?.map Stop.location) == some code).length

/-- The first vehicle of a location that has no route yet. -/
def nextVehicle? (p : Problem) (code : LocationCode) (routes : List Route) : Option Vehicle :=
  (p.vehicles.filter (·.home == code))[beginningAt code routes]?

/-- One shipment more, if there is a vehicle for it. -/
def addDirect (d : DirectSettings) (p : Problem) (cost : Float) (soFar : Solution) (s : Shipment) :
    Except Failure (Float × Solution) :=
  if s.delivery.latest < d.rejectBefore then
    .ok (cost, { soFar with unassigned := soFar.unassigned ++ [s.reference] })
  else
    match nextVehicle? p s.origin soFar.routes with
    | none => .error (.because "fleet exhausted")
    | some v => .ok (cost + 100.0, { soFar with routes := soFar.routes ++ [directRoute s v] })

/-- A costlier copy of the answer, and the answer. -/
def solveDirect (d : DirectSettings) (p : Problem) : Except Failure (List Solution) := do
  if d.fails then throw (.because "solver exploded")
  let (cost, answer) ← p.shipments.foldlM
    (fun (cost, soFar) s => addDirect d p cost soFar s) (0.0, Solution.empty)
  return [{ answer with cost := .ofFloat (cost + 1.0) }, { answer with cost := .ofFloat cost }]

/-- The direct optimizer. -/
def direct (σ : Type) (d : DirectSettings) : Optimizer σ where
  name := "fake"
  solve p s := (⟨[], solveDirect d p⟩, s)

/-- The scripted optimizer. It remembers how often it was asked; a missing answer is a failure, and
behind the last there is nothing. -/
def scripted (answers : List (Option (List Solution))) : Optimizer Nat where
  name := "script"
  solve _ n :=
    let result :=
      match answers[n]? with
      | some (some solutions) => .ok solutions
      | some none => .error (.because "scripted failure")
      | none => .ok []
    (⟨[], result⟩, n + 1)

end Rehearsal
end HubDispatch
