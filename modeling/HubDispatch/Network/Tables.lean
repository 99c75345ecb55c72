import HubDispatch.Network.Model

/-!
# The tables of a network

The sales plan has a label, a location and a volume for every node in each row, whatever its header
says. The location and travel tables name their columns. A location without both coordinates is
read, and noted; it fails only where a distance from or to it is needed.
-/

namespace HubDispatch

/-- A row of the travel table: a distance, and a time if one is recorded. -/
structure TravelRow where
  origin : Int
  destination : Int
  kilometres : Float
  millis : Option Int

namespace SalesRow

open Decimal (wholeText)

/-- The volume in a cell; an empty cell is none. -/
def readVolume (n : Nat) (location : LocationCode) (cell : String) : Except Fault Float :=
  if cell.isEmpty then .ok 0.0
  else
    match Decimal.readFloat cell.toList with
    | .ok v => .ok v
    | .error _ =>
      .error (.malformedInput ("row " ++ wholeText n ++ " ('" ++ location ++
        "') has non-numeric volume '" ++ cell ++ "'"))

/-- The `n`-th row from its fields; a row of empty fields is none. -/
def ofFields (n : Nat) (fields : List String) : Except Fault (Option (SalesRow Float)) :=
  if fields.all String.isEmpty then .ok none
  else
    match fields with
    | head :: location :: cells =>
      if location.isEmpty then noLocation
      else return some (.labelled (some head) location (← cells.mapM (readVolume n location)))
    | _ => noLocation
where
  noLocation : Except Fault (Option (SalesRow Float)) :=
    .error (.malformedInput ("row " ++ wholeText n ++ " has no location code"))

/-- A row from a record. The first record after the header is read together with it, so its texts
are placed at the start of the table. -/
def ofRecord (r : Delimited.Record) : Except Failure (Option (SalesRow Float)) := do
  let place := if r.start.record = 1 then ⟨0, 1, 0⟩ else r.start
  let fields ← tabled (Delimited.Record.textsFrom place 0 r.fields)
  planned (ofFields r.start.record fields)

/-- The rows of a sales plan. -/
def readTable (bytes : List UInt8) : Delimited.Rows Failure (SalesRow Float) :=
  Delimited.decodeAll ofRecord (Delimited.records bytes).tail

end SalesRow

open Delimited (Column ColumnSet RowFault)

/-- The value of a column that must not be missing. -/
def require (column : String) : Option α → Except RowFault α
  | some x => .ok x
  | none => .error (.missing column)

/-- A location row under construction. -/
structure LocationDraft where
  id : Option Int
  name : Option String
  code : Option String
  lat : Option Float
  lng : Option Float
  outbound : Option Int
  inbound : Option Int

namespace Location

/-- Both coordinates, or none. -/
def coordinatesOf (d : LocationDraft) : Option Coordinates :=
  match d.lat, d.lng with
  | some lat, some lng => some ⟨lat, lng⟩
  | _, _ => none

/-- The columns of the location table. -/
def columns : ColumnSet LocationDraft Location where
  rowName := "CsvLocationRow"
  columns := [
    ⟨"id", ["location_id"], false,
      fun s d => return { d with id := some (← Delimited.readInteger s) }⟩,
    ⟨"name", ["location_name"], false, fun s d => return { d with name := some s }⟩,
    ⟨"code", ["location_code"], false, fun s d => return { d with code := some s }⟩,
    ⟨"lat", ["latitude"], true,
      fun s d => return { d with lat := some (← Decimal.readFloat s.toList) }⟩,
    ⟨"lng", ["longitude"], true,
      fun s d => return { d with lng := some (← Decimal.readFloat s.toList) }⟩,
    ⟨"outbound_cutoff_ms", ["outbound_cutoff"], false,
      fun s d => return { d with outbound := some (← Delimited.readInteger s) }⟩,
    ⟨"inbound_cutoff_ms", ["inbound_cutoff"], false,
      fun s d => return { d with inbound := some (← Delimited.readInteger s) }⟩]
  needed := 7
  empty := ⟨none, none, none, none, none, none, none⟩
  complete d := do
    let id ← require "id" d.id
    let name ← require "name" d.name
    let code ← require "code" d.code
    let outbound ← require "outbound_cutoff_ms" d.outbound
    let inbound ← require "inbound_cutoff_ms" d.inbound
    return ⟨id, name, code, coordinatesOf d, .ofMillis outbound inbound⟩

/-- The rows of a location table, all as wide as its header. -/
def readTable (bytes : List UInt8) : Delimited.Rows Delimited.Fault Location :=
  columns.read true bytes

/-- What is noted of the locations read. -/
def entries (locations : List Location) : List Entry :=
  locations.filterMap fun l =>
    if l.coordinates.isNone then some ⟨.warn, "Location " ++ l.code ++ " has no coordinates"⟩
    else none

end Location

/-- A travel row under construction. -/
structure TravelDraft where
  origin : Option Int
  destination : Option Int
  kilometres : Option Float
  millis : Option Int

namespace TravelRow

/-- The columns of the travel table. -/
def columns : ColumnSet TravelDraft TravelRow where
  rowName := "TatRow"
  columns := [
    ⟨"from_id", [], false, fun s d => return { d with origin := some (← Delimited.readInteger s) }⟩,
    ⟨"to_id", [], false,
      fun s d => return { d with destination := some (← Delimited.readInteger s) }⟩,
    ⟨"distance_km", [], false,
      fun s d => return { d with kilometres := some (← Decimal.readFloat s.toList) }⟩,
    ⟨"tat_ms", [], true, fun s d => return { d with millis := some (← Delimited.readInteger s) }⟩]
  needed := 3
  empty := ⟨none, none, none, none⟩
  complete d := do
    let origin ← require "from_id" d.origin
    let destination ← require "to_id" d.destination
    let kilometres ← require "distance_km" d.kilometres
    return ⟨origin, destination, kilometres, d.millis⟩

/-- The rows of a travel table, of any width. -/
def readTable (bytes : List UInt8) : Delimited.Rows Delimited.Fault TravelRow :=
  columns.read false bytes

end TravelRow
end HubDispatch
