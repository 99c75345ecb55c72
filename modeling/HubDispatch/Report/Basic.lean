import HubDispatch.Report.Record
import HubDispatch.Delimited.Writer

/-!
# The report of a cluster

A report takes the results of a sweep one by one. What an iteration adds reaches the sink at the end
of the iteration; if one of its routes has no summary, the records before it stay in the buffer and
reach the sink with whatever comes later.
-/

namespace HubDispatch

/-- The name of the report of a hub in a directory. -/
def Report.path (directory hub : String) : String :=
  let name := "RegionalOutput-" ++ hub ++ ".csv"
  if directory.isEmpty || directory.endsWith "/" then directory ++ name
  else directory ++ "/" ++ name

/-- A report under way. -/
structure Report where
  cluster : Cluster
  network : Network Float
  /-- How many vehicle records it has. -/
  rows : Nat
  buffer : Delimited.Buffer

namespace Report

/-- A report with its header. -/
def start (cluster : Cluster) (network : Network Float) : Report where
  cluster := cluster
  network := network
  rows := 0
  buffer := Delimited.Buffer.empty.writeRecord (header cluster network)

/-- One iteration more. -/
def add (r : Report) (it : Iteration) : Except Failure Unit × Report :=
  let vehicles := vehicleRecords r.cluster r.network it
  let buffer := vehicles.rows.foldl Delimited.Buffer.writeRecord r.buffer
  let rows := r.rows + vehicles.rows.length
  match vehicles.fault? with
  | some fault => (.error (.ofFault fault), { r with rows, buffer })
  | none => (.ok (), { r with rows, buffer := (buffer.writeRecord (networkRecord it)).flush })

/-- The report when nothing more comes. -/
def close (r : Report) : Report := { r with buffer := r.buffer.flush }

/-- The text that has reached the sink. -/
def sunk (r : Report) : List UInt8 := r.buffer.written

end Report
end HubDispatch
