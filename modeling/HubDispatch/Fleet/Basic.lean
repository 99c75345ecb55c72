import HubDispatch.Fault

/-!
# The fleet

Vehicles come in six body lengths, each with a capacity and a running cost. A type is written as its
length in feet, such as `14_Feet`; `14ft` and `14` are understood as well, in any letter case.
-/

namespace HubDispatch

/-- A vehicle class by body length in feet. -/
inductive FleetType where
  | feet14
  | feet17
  | feet20
  | feet22
  | feet24
  | feet32
  deriving DecidableEq, Repr

namespace FleetType

def all : List FleetType := [.feet14, .feet17, .feet20, .feet22, .feet24, .feet32]

/-- The fleet when nothing is configured; the vehicles of 24 feet are kept out. -/
def standard : List FleetType := [.feet14, .feet17, .feet20, .feet22, .feet32]

/-- Body length in feet. -/
def feet : FleetType → Nat
  | .feet14 => 14
  | .feet17 => 17
  | .feet20 => 20
  | .feet22 => 22
  | .feet24 => 24
  | .feet32 => 32

/-- Capacity in kilograms. -/
def capacity : FleetType → Nat
  | .feet14 => 2500
  | .feet17 => 3000
  | .feet20 => 4000
  | .feet22 => 5000
  | .feet24 => 6000
  | .feet32 => 10000

def costPerKilometre : FleetType → Float
  | .feet14 => 15.0
  | .feet17 => 17.0
  | .feet20 => 20.0
  | .feet22 => 22.0
  | .feet24 => 24.0
  | .feet32 => 32.0

def name (t : FleetType) : String := Decimal.wholeText t.feet ++ "_Feet"

/-- The text without any repetition of a mark in front. Each removal shortens the text, so its
length bounds their number. -/
def dropMarks (mark : List Char) : Nat → List Char → List Char
  | 0, cs => cs
  | steps + 1, cs =>
    if mark.isPrefixOf cs then dropMarks mark steps (cs.drop mark.length) else cs

/-- The text without any repetition of a mark at its end. -/
def withoutEnding (mark : List Char) (cs : List Char) : List Char :=
  (dropMarks mark.reverse cs.length cs.reverse).reverse

/-- The type that some characters spell: what is left of them without the endings is two bytes long
and begins its name. -/
def ofChars? (cs : List Char) : Option FleetType :=
  let lower := (Text.trimChars cs).map Char.toLower
  let length := withoutEnding "ft".toList (withoutEnding "_feet".toList lower)
  all.find? fun t => length.isPrefixOf t.name.toList && (String.ofList length).utf8ByteSize == 2

/-- The type that a text spells, or what to say of it. -/
def ofText (s : String) : Except String FleetType :=
  match ofChars? s.toList with
  | some t => .ok t
  | none => .error ("unknown fleet type '" ++ s ++ "'")

end FleetType

/-- One vehicle of a finite fleet. -/
structure Vehicle where
  id : String
  fleet : FleetType
  home : LocationCode
  /-- When it may leave home at the earliest, in hours. -/
  earliestStart : Float
  returnToDepot : Bool

/-- Vehicles of one fleet type and one home are interchangeable. -/
def Vehicle.typeId (v : Vehicle) : String := v.fleet.name ++ "@" ++ v.home

end HubDispatch
