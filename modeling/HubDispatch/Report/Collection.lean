import HubDispatch.Report.Basic
import HubDispatch.Sweep.Run

/-!
# Collecting a sweep

The results of a sweep are written to a report and kept, until a given number of them is there. This
is the receiver of a sweep that is tested; that of the program is the report alone.
-/

namespace HubDispatch

/-- A report and the results it was given. -/
structure Collection where
  report : Report
  results : List Iteration
  /-- How many results are wanted; without a number, all. -/
  wanted : Option Nat

namespace Collection

/-- One result more. It is kept even if the report cannot take all of it. -/
def receive (it : Iteration) (c : Collection) : Except Failure Unit × Collection :=
  if c.wanted = some c.results.length then (.error (.because "stopped by caller"), c)
  else
    let (answer, report) := c.report.add it
    (answer, { c with report, results := c.results ++ [it] })

end Collection

/-- The sweep of a cluster into a collection. -/
def Sweeper.collect (s : Sweeper (σ × Collection)) (cluster : Cluster) :
    Work (σ × Collection) Unit :=
  s.sweep cluster fun it (memory, c) =>
    let (answer, c) := c.receive it
    (answer, (memory, c))

end HubDispatch
