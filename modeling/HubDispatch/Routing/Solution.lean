import HubDispatch.Journal
import HubDispatch.Routing.Problem

/-!
# Solutions

A solution has a cost, a route for every vehicle it uses, and the shipments it leaves behind. Of
several candidates the cheapest is taken, and the first of equally cheap ones.

Costs are compared by the total order on binary64 patterns, which also tells the two zeros and the
signs of what is not a number apart. A `Cost` therefore is its pattern.

An optimizer answers a routing problem with candidate solutions in no particular order. Shipments
that it cannot serve are left unassigned; it fails only if it cannot answer at all. It may remember
what it was asked: an answer is a step of a machine with states `σ`.
-/

namespace HubDispatch

/-- The cost of a solution, as a binary64 pattern. -/
structure Cost where
  bits : UInt64
  deriving DecidableEq, Repr

namespace Cost

def ofFloat (x : Float) : Cost := ⟨x.toBits⟩

def toFloat (c : Cost) : Float := Float.ofBits c.bits

/-- Where the cost stands in the total order. -/
def key (c : Cost) : Int := Binary64.orderKey c.bits

end Cost

/-- How the shipments of a problem are carried. -/
structure Solution where
  cost : Cost
  routes : List Route
  unassigned : List ShipmentRef
  deriving DecidableEq, Repr

namespace Solution

/-- Nothing to carry. -/
def empty : Solution := ⟨.ofFloat 0.0, [], []⟩

def vehicleCount (s : Solution) : Nat := s.routes.length

/-- The cheapest solution after a first one that is known to be cheapest so far. -/
def cheapest (best : Solution) : List Solution → Solution
  | [] => best
  | s :: rest => cheapest (if s.cost.key < best.cost.key then s else best) rest

/-- The cheapest candidate. -/
def bestOf : List Solution → Except Fault Solution
  | [] => .error .noSolution
  | s :: rest => .ok (cheapest s rest)

end Solution

/-- What an optimizer says to one problem, and what it noted meanwhile. -/
structure Reply where
  entries : List Entry
  result : Except Failure (List Solution)

/-- An optimizer with memory `σ`. -/
structure Optimizer (σ : Type) where
  name : String
  solve : Problem → σ → Reply × σ

end HubDispatch
