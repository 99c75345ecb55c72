import HubDispatch.Text.Blank

/-!
# Reading comma-separated tables

A table is a sequence of records, a record a sequence of fields between commas. A record ends at a
line feed, a carriage return or both; an empty line is no record. A field that opens with a double
quote runs to the closing quote, whatever stands between, and a doubled quote inside it stands for
one; what follows the closing quote is appended, and an unterminated quote runs to the end. A quote
inside an unquoted field stands for itself. A byte order mark in front of the table is dropped.

Every record knows its number and where reading stood when it began, so that a fault can name the
place.
-/

namespace HubDispatch
namespace Delimited

/-- Where a record begins: its number from zero, the line from one and the byte from zero. -/
structure Position where
  record : Nat
  line : Nat
  byte : Nat
  deriving DecidableEq, Repr

/-- One record of a table, its fields still undecoded. -/
structure Record where
  start : Position
  fields : List (List UInt8)
  deriving DecidableEq, Repr

/-- What the next byte is part of. -/
inductive State where
  | recordStart
  | fieldStart
  | plain
  | quoted
  | quoteSeen
  deriving DecidableEq, Repr

/-- A table read up to some byte. Lists under construction are in reverse. -/
structure Scan where
  state : State
  field : List UInt8
  fields : List (List UInt8)
  start : Position
  line : Nat
  byte : Nat
  records : List Record

/-- White space of ASCII. -/
def isAsciiBlank (b : UInt8) : Bool := b == 9 || b == 10 || b == 12 || b == 13 || b == 32

namespace Scan

/-- Nothing read yet, but `skipped` bytes in front of the table. -/
def initial (skipped : Nat) : Scan :=
  ⟨.recordStart, [], [], ⟨0, 1, 0⟩, 1, skipped, []⟩

/-- The byte belongs to the open field. -/
def push (s : Scan) (state : State) (b : UInt8) : Scan :=
  { s with state, field := b :: s.field }

/-- The open field is complete. -/
def closeField (s : Scan) : Scan :=
  { s with
    state := .fieldStart
    field := []
    fields := Text.trimWith isAsciiBlank s.field.reverse :: s.fields }

/-- The open field and with it the record are complete; the next record starts here. -/
def closeRecord (s : Scan) : Scan :=
  let t := s.closeField
  { t with
    state := .recordStart
    fields := []
    start := ⟨s.start.record + 1, s.line, s.byte⟩
    records := ⟨s.start, t.fields.reverse⟩ :: s.records }

/-- A byte outside quotes. -/
def plainByte (s : Scan) (b : UInt8) : Scan :=
  if b == 44 then s.closeField
  else if b == 10 || b == 13 then s.closeRecord
  else s.push .plain b

/-- One byte further. -/
def step (s : Scan) (b : UInt8) : Scan :=
  let s := { s with byte := s.byte + 1, line := if b == 10 then s.line + 1 else s.line }
  match s.state with
  | .recordStart =>
    if b == 10 || b == 13 then s
    else if b == 34 then { s with state := .quoted }
    else s.plainByte b
  | .fieldStart => if b == 34 then { s with state := .quoted } else s.plainByte b
  | .plain => s.plainByte b
  | .quoted => if b == 34 then { s with state := .quoteSeen } else s.push .quoted b
  | .quoteSeen => if b == 34 then s.push .quoted b else s.plainByte b

/-- The records of a table read to its end; an unfinished record counts. -/
def finish (s : Scan) : List Record :=
  match s.state with
  | .recordStart => s.records.reverse
  | _ => s.closeRecord.records.reverse

end Scan

/-- The records of a table. -/
def records (bytes : List UInt8) : List Record :=
  match bytes with
  | 0xEF :: 0xBB :: 0xBF :: rest => (rest.foldl Scan.step (Scan.initial 3)).finish
  | _ => (bytes.foldl Scan.step (Scan.initial 0)).finish

/-- The text that a list of bytes spells, if it is well-formed UTF-8. -/
def text? (bytes : List UInt8) : Option String := String.fromUTF8? (ByteArray.mk bytes.toArray)

/-- The length of the longest prefix that is well-formed UTF-8. -/
def validUpTo (bytes : List UInt8) : Nat :=
  ((List.range (bytes.length + 1)).findRev? fun n => (text? (bytes.take n)).isSome).getD 0

end Delimited
end HubDispatch
