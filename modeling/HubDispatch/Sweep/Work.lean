import HubDispatch.Routing.Solution

/-!
# Work with a record of what happened

A sweep notes what it does, asks an optimizer, and hands on its results. `Work` is a computation of
this kind: from the memory of optimizer and receiver it leads to a list of events in their order, a
result or a failure, and the memory afterwards. After a failure nothing more happens.
-/

namespace HubDispatch

/-- The result of one dispatch time. -/
structure Iteration where
  /-- Which candidate it is, counted from zero. -/
  index : Nat
  dispatchTime : Float
  /-- The best solution of the last epoch. -/
  solution : Solution
  /-- The branches that the first epoch could not serve. -/
  infeasible : List LocationCode
  /-- How many shipments the last epoch left unassigned. -/
  unresolved : Nat

/-- What happens in a sweep. -/
inductive Event where
  | noted (entry : Entry)
  /-- The optimizer was asked. -/
  | asked (problem : Problem)
  /-- A result was handed on. -/
  | received (result : Iteration)

/-- Where work has led. -/
structure Outcome (σ α : Type) where
  events : List Event
  result : Except Failure α
  state : σ

/-- Work that changes a memory `σ` and yields an `α`. -/
def Work (σ α : Type) : Type := σ → Outcome σ α

namespace Work

variable {σ α β : Type}

protected def pure (x : α) : Work σ α := fun s => ⟨[], .ok x, s⟩

protected def bind (w : Work σ α) (f : α → Work σ β) : Work σ β := fun s =>
  let first := w s
  match first.result with
  | .error failure => ⟨first.events, .error failure, first.state⟩
  | .ok x =>
    let second := f x first.state
    ⟨first.events ++ second.events, second.result, second.state⟩

instance : Monad (Work σ) where
  pure := Work.pure
  bind := Work.bind

/-- A computation that touches no memory. -/
def lift (x : Except Failure α) : Work σ α := fun s => ⟨[], x, s⟩

def note (level : Level) (text : String) : Work σ Unit := fun s =>
  ⟨[.noted ⟨level, text⟩], .ok (), s⟩

/-- Candidates from an optimizer. A failure gets the context. -/
def ask (optimizer : Optimizer σ) (context : String) (problem : Problem) :
    Work σ (List Solution) := fun s =>
  let (reply, state) := optimizer.solve problem s
  ⟨.asked problem :: reply.entries.map .noted, within context reply.result, state⟩

/-- A result handed to a receiver, who may refuse to go on. -/
def handOn (receive : Iteration → σ → Except Failure Unit × σ) (result : Iteration) :
    Work σ Unit := fun s =>
  let (answer, state) := receive result s
  ⟨[.received result], answer, state⟩

end Work
end HubDispatch
