/-!
# Writing comma-separated tables

A field is quoted exactly if it holds a comma, a double quote, a line feed or a carriage return;
quotes inside it are doubled. Every record ends with a line feed.

Bytes are collected in a buffer of fixed size before they reach their sink. What must not be torn
apart is an atom: a single byte, or the two bytes of a doubled quote. An atom that no longer fits
first sends what is pending on its way.
-/

namespace HubDispatch
namespace Delimited

/-- A byte, or the two of a doubled quote. -/
abbrev Atom := List UInt8

def needsQuotes (field : String) : Bool :=
  field.toList.any fun c => c == ',' || c == '"' || c == '\n' || c == '\r'

/-- The bytes of a text one by one. -/
def plainAtoms (field : String) : List Atom := field.toUTF8.data.toList.map fun b => [b]

/-- A field as it is written. -/
def fieldAtoms (field : String) : List Atom :=
  if needsQuotes field then
    [[34]] ++ (field.toUTF8.data.toList.map fun b => if b == 34 then [34, 34] else [b]) ++ [[34]]
  else plainAtoms field

/-- A record as it is written. -/
def recordAtoms (fields : List String) : List Atom :=
  List.intercalate [[44]] (fields.map fieldAtoms) ++ [[10]]

/-- The capacity of a buffer in bytes. -/
def bufferSize : Nat := 8192

/-- Bytes on their way to a sink. Both lists are in reverse. -/
structure Buffer where
  pending : List UInt8
  pendingCount : Nat
  sink : List UInt8

namespace Buffer

def empty : Buffer := ⟨[], 0, []⟩

/-- All that is pending reaches the sink. -/
def flush (b : Buffer) : Buffer := ⟨[], 0, b.pending ++ b.sink⟩

/-- One atom more. -/
def push (b : Buffer) (atom : Atom) : Buffer :=
  let b := if bufferSize < b.pendingCount + atom.length then b.flush else b
  { b with pending := atom.reverse ++ b.pending, pendingCount := b.pendingCount + atom.length }

/-- One record more. -/
def writeRecord (b : Buffer) (fields : List String) : Buffer := (recordAtoms fields).foldl push b

/-- The bytes of the sink, in their order. -/
def written (b : Buffer) : List UInt8 := b.sink.reverse

end Buffer
end Delimited
end HubDispatch
