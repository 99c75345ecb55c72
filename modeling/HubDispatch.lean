import HubDispatch.Binary64.Exact
import HubDispatch.Calendar.Date
import HubDispatch.Calendar.Instant
import HubDispatch.Calendar.Reading
import HubDispatch.CommandLine.Arguments
import HubDispatch.CommandLine.EnvironmentFile
import HubDispatch.CommandLine.FileTree
import HubDispatch.CommandLine.Help
import HubDispatch.CommandLine.Program
import HubDispatch.CommandLine.Settings
import HubDispatch.CommandLine.Storage
import HubDispatch.Decimal.Reading
import HubDispatch.Decimal.Shortest
import HubDispatch.Decimal.Text
import HubDispatch.Delimited.Columns
import HubDispatch.Delimited.Reader
import HubDispatch.Delimited.Writer
import HubDispatch.Document.Admission
import HubDispatch.Document.JobTable
import HubDispatch.Document.Problem
import HubDispatch.Document.Solution
import HubDispatch.Fault
import HubDispatch.Fleet.Basic
import HubDispatch.Journal
import HubDispatch.Main
import HubDispatch.Network.Cluster
import HubDispatch.Network.Demand
import HubDispatch.Network.Location
import HubDispatch.Network.Model
import HubDispatch.Network.SalesPlan
import HubDispatch.Network.Tables
import HubDispatch.Report.Basic
import HubDispatch.Report.Collection
import HubDispatch.Report.Hours
import HubDispatch.Report.Itinerary
import HubDispatch.Report.LoadSplit
import HubDispatch.Report.Record
import HubDispatch.Routing.Problem
import HubDispatch.Routing.Route
import HubDispatch.Routing.Solution
import HubDispatch.Shipment.Basic
import HubDispatch.Shipment.Reference
import HubDispatch.Shipment.Splitting
import HubDispatch.Solver.Insertion
import HubDispatch.Solver.Planner
import HubDispatch.Solver.Rehearsal
import HubDispatch.Solver.Trip
import HubDispatch.Sweep.Run
import HubDispatch.Sweep.Settings
import HubDispatch.Sweep.Shipments
import HubDispatch.Sweep.Windows
import HubDispatch.Sweep.Work
import HubDispatch.Text.Blank
import HubDispatch.Text.CharacterClass
import HubDispatch.Text.Quoted
import HubDispatch.Travel.Matrices
import HubDispatch.Travel.Table
import HubDispatch.Proofs.Decimal.Counts
import HubDispatch.Proofs.Shipment.JobId
import HubDispatch.Proofs.Network.Membership
import HubDispatch.Proofs.Network.Demand
import HubDispatch.Proofs.Shipment.Splitting
import HubDispatch.Proofs.Sweep.Building
import HubDispatch.Proofs.Sweep.Conservation
import HubDispatch.Proofs.Sweep.Plan
import HubDispatch.Proofs.Sweep.Relaxation
import HubDispatch.Proofs.Binary64.Value
import HubDispatch.Proofs.Sweep.Exchange
import HubDispatch.Proofs.Sweep.Protocol
import HubDispatch.Proofs.Network.Partition
import HubDispatch.Proofs.Network.Completeness
import HubDispatch.Proofs.Document.JobTable
import HubDispatch.Proofs.Document.Solution
import HubDispatch.Proofs.Sweep.Failure
import HubDispatch.Proofs.Network.ExactRows
import HubDispatch.Proofs.Report.LoadSplit
import HubDispatch.Proofs.Document.Problem
import HubDispatch.Proofs.Sweep.Submission
import HubDispatch.Proofs.Travel.Matrices
import HubDispatch.Proofs.Binary64.Order
import HubDispatch.Proofs.Binary64.Whole
import HubDispatch.Proofs.Sweep.Windows
import HubDispatch.Proofs.Sweep.FullDay
import HubDispatch.Proofs.Sweep.SharedHours
import HubDispatch.Proofs.Sweep.Opening
import HubDispatch.Proofs.CommandLine.Acceptance
import HubDispatch.Proofs.Sweep.Pool
import HubDispatch.Proofs.Travel.UnknownPairs
import HubDispatch.Proofs.Network.HubAndSpoke
import HubDispatch.Proofs.Sweep.Spokes
import HubDispatch.Proofs.Binary64.Truncation
import HubDispatch.Proofs.Sweep.Connection
import HubDispatch.Proofs.Fleet.Names
import HubDispatch.Proofs.Document.JobTableFaults
import HubDispatch.Proofs.Document.Fleet
import HubDispatch.Proofs.Network.Totals
import HubDispatch.Proofs.Binary64.Rounding
import HubDispatch.Proofs.Binary64.Arithmetic
import HubDispatch.Proofs.Decimal.Thousandths
import HubDispatch.Proofs.Network.WholeKilograms
import HubDispatch.Proofs.Calendar.Days
import HubDispatch.Proofs.Calendar.Timestamp
import HubDispatch.Proofs.Report.Visits
import HubDispatch.Proofs.Binary64.Monotone
import HubDispatch.Proofs.Report.Hours
import HubDispatch.Proofs.Report.Places
import HubDispatch.Proofs.Travel.Costs
import HubDispatch.Proofs.Binary64.Sums
import HubDispatch.Proofs.Sweep.CutoffWindows
import HubDispatch.Proofs.Travel.SignedCosts
import HubDispatch.Proofs.Calendar.Seconds
import HubDispatch.Proofs.Document.Shifts
import HubDispatch.Proofs.Shipment.FewestChunks
import HubDispatch.Proofs.Binary64.TotalOrder
import HubDispatch.Proofs.Routing.Cheapest
import HubDispatch.Proofs.Binary64.Defined
import HubDispatch.Proofs.Decimal.Spelling
import HubDispatch.Proofs.CommandLine.Usable
import HubDispatch.Proofs.Delimited.Writing
import HubDispatch.Proofs.Report.Records
import HubDispatch.Proofs.Decimal.Numerals
import HubDispatch.Proofs.Decimal.FixedPlaces
import HubDispatch.Proofs.Report.WrittenHours
import HubDispatch.Proofs.Fleet.Spellings
