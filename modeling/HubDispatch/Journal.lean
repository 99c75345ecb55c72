/-!
# Journal entries

What is noted about work while it goes on. Entries never influence an outcome, and the output of
the program is told without them. A sweep records its entries among its events, and an optimizer
beside its answer; what other operations note is a function next to each (`Network.ofRowsEntries`,
`Location.entries`, `TravelTable.entry`, `Document.solutionEntries`), which only tests of the
journal call.
-/

namespace HubDispatch

/-- How much an entry matters. -/
inductive Level where
  | debug
  | info
  | warn
  deriving DecidableEq, Repr

def Level.label : Level → String
  | .debug => "DEBUG"
  | .info => "INFO"
  | .warn => "WARN"

/-- One line of the journal. -/
structure Entry where
  level : Level
  text : String
  deriving DecidableEq, Repr

/-- The entry as it is written. -/
def Entry.line (e : Entry) : String := e.level.label ++ " " ++ e.text

end HubDispatch
