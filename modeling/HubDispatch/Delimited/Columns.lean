import HubDispatch.Delimited.Reader
import HubDispatch.Decimal.Reading
import HubDispatch.Decimal.Text

/-!
# Columns of a table

The first record of a table names its columns. A row is decoded by walking the header from left to
right, so the leftmost fault is the one reported: a column given twice under any of its names, a row
that ends before a known column, a field that is no number. Unknown columns are passed over. Only
after the last column are the ones that never came looked for, in the order of their declaration.
Under a header that cannot be read the fields come in the order of the columns, however many more
there are.

`ColumnSet` says what a table is made of: each `Column` stores its field into a draft of the row,
and `complete` turns the draft into the row or names what is missing.
-/

namespace HubDispatch
namespace Delimited

open Decimal (ReadFault wholeText)

/-- Why the fields of a record are no row. -/
inductive RowFault where
  | value (reason : ReadFault)
  | missing (column : String)
  | duplicate (column : String)
  | endOfRow
  /-- Too few fields to fill the columns in their order. -/
  | tooShort (found : Nat) (rowName : String) (width : Nat)
  deriving DecidableEq, Repr

def RowFault.message : RowFault → String
  | .value reason => reason.message
  | .missing column => "missing field \x60" ++ column ++ "\x60"
  | .duplicate column => "duplicate field \x60" ++ column ++ "\x60"
  | .endOfRow => "expected field, but got end of row"
  | .tooShort found rowName width =>
    "invalid length " ++ wholeText found ++ ", expected struct " ++ rowName ++ " with " ++
      wholeText width ++ " elements"

/-- Why a table cannot be read. -/
inductive Fault where
  /-- A record with another number of fields than the header. -/
  | unequalLengths (place : Position) (expected found : Nat)
  /-- A field that is not UTF-8 from some byte on. -/
  | notText (place : Position) (field validUpTo : Nat)
  /-- A record that is no row, with the field at fault where there is one. -/
  | badRow (place : Position) (field : Option Nat) (reason : RowFault)
  deriving DecidableEq, Repr

namespace Fault

/-- A place, in the wording of faults in a row. -/
def placeText (place : Position) : String :=
  "record " ++ wholeText place.record ++ " (line: " ++ wholeText place.line ++ ", byte: " ++
    wholeText place.byte ++ ")"

/-- What is wrong with a row. -/
def badRowReason (field : Option Nat) (reason : RowFault) : String :=
  match field with
  | some n => "field " ++ wholeText n ++ ": " ++ reason.message
  | none => reason.message

def message : Fault → String
  | .unequalLengths place expected found =>
    "CSV error: " ++ placeText place ++ ": found record with " ++ wholeText found ++
      " fields, but the previous record has " ++ wholeText expected ++ " fields"
  | .notText place field validUpTo =>
    "CSV parse error: record " ++ wholeText place.record ++ " (line " ++ wholeText place.line ++
      ", field: " ++ wholeText field ++ ", byte: " ++ wholeText place.byte ++
      "): invalid utf-8: invalid UTF-8 in field " ++ wholeText field ++ " near byte index " ++
      wholeText validUpTo
  | .badRow place field reason =>
    "CSV deserialize error: " ++ placeText place ++ ": " ++ badRowReason field reason

end Fault

/-- The fields of a record as trimmed texts, up to the first that is not UTF-8. -/
def Record.textsFrom (place : Position) : Nat → List (List UInt8) → Except Fault (List String)
  | _, [] => .ok []
  | n, field :: rest =>
    match text? field with
    | none => .error (.notText place n (validUpTo field))
    | some s => (textsFrom place (n + 1) rest).map (Text.trim s :: ·)

/-- The fields of a record as trimmed texts. -/
def Record.texts (r : Record) : Except Fault (List String) := textsFrom r.start 0 r.fields

/-- A signed integer, hexadecimal after `0x`. -/
def readInteger (s : String) : Except ReadFault Int :=
  match s.toList with
  | '0' :: 'x' :: rest => Decimal.readSigned 16 rest
  | cs => Decimal.readSigned 10 cs

/-- A column of a table whose rows are drafted in `ρ`. -/
structure Column (ρ : Type) where
  /-- The name that faults use. -/
  name : String
  /-- Other names that the header may use. -/
  aliases : List String
  /-- An empty or absent field leaves the draft as it is. -/
  optional : Bool
  /-- The field put into the draft. -/
  store : String → ρ → Except ReadFault ρ

/-- The header names this column. -/
def Column.answersTo (c : Column ρ) (label : String) : Bool :=
  c.name == label || c.aliases.contains label

/-- The columns of a table, an empty draft, and what makes a draft a row. -/
structure ColumnSet (ρ α : Type) where
  /-- What faults call a row. -/
  rowName : String
  columns : List (Column ρ)
  /-- The fields that a row has at least when no header names them. -/
  needed : Nat
  empty : ρ
  complete : ρ → Except RowFault α

namespace ColumnSet

variable {ρ α : Type} (t : ColumnSet ρ α)

/-- The draft after the columns of a header from position `n` on. `seen` holds the names of the
columns met before. A place without a number is a fault of no single field. -/
def fill : (header fields : List String) → (n : Nat) → (seen : List String) → ρ →
    Except (Option Nat × RowFault) ρ
  | [], _, _, _, draft => .ok draft
  | label :: header, fields, n, seen, draft =>
    match t.columns.find? (·.answersTo label) with
    | none =>
      if fields.isEmpty then .error (none, .endOfRow)
      else fill header fields.tail (n + 1) seen draft
    | some column =>
      if seen.contains column.name then .error (none, .duplicate column.name)
      else
        match fields with
        | [] =>
          if column.optional then fill header [] (n + 1) (column.name :: seen) draft
          else .error (none, .endOfRow)
        | field :: rest =>
          if column.optional && field.isEmpty then
            fill header rest (n + 1) (column.name :: seen) draft
          else
            match column.store field draft with
            | .error reason => .error (some n, .value reason)
            | .ok draft => fill header rest (n + 1) (column.name :: seen) draft

/-- The draft after fields in the order of some columns, the first of them at position `n`. -/
def fillInOrder : List (Column ρ) → (fields : List String) → (n : Nat) → ρ →
    Except (Option Nat × RowFault) ρ
  | [], _, _, draft => .ok draft
  | _ :: _, [], n, draft =>
    if n < t.needed then .error (none, .tooShort n t.rowName t.columns.length) else .ok draft
  | column :: columns, field :: rest, n, draft =>
    if column.optional && field.isEmpty then fillInOrder columns rest (n + 1) draft
    else
      match column.store field draft with
      | .error reason => .error (some n, .value reason)
      | .ok draft => fillInOrder columns rest (n + 1) draft

/-- The draft that some fields fill, under a header if there is one. -/
def draft (header? : Option (List String)) (fields : List String) :
    Except (Option Nat × RowFault) ρ :=
  match header? with
  | some header => t.fill header fields 0 [] t.empty
  | none => t.fillInOrder t.columns fields 0 t.empty

/-- The row that a record holds. -/
def row (header? : Option (List String)) (place : Position) (fields : List String) :
    Except Fault α :=
  match t.draft header? fields with
  | .error (field, reason) => .error (.badRow place field reason)
  | .ok draft =>
    match t.complete draft with
    | .error reason => .error (.badRow place none reason)
    | .ok row => .ok row

end ColumnSet

/-- Rows decoded one by one, up to the first that cannot be. -/
structure Rows (ε α : Type) where
  rows : List α
  fault? : Option ε

/-- All rows, or the fault that stopped the reading. -/
def Rows.result (r : Rows ε α) : Except ε (List α) :=
  match r.fault? with
  | none => .ok r.rows
  | some fault => .error fault

/-- Every item decoded, up to the first fault; what decodes to nothing is passed over. -/
def decodeAll (decode : β → Except ε (Option α)) : List β → Rows ε α
  | [] => ⟨[], none⟩
  | x :: xs =>
    match decode x with
    | .error fault => ⟨[], some fault⟩
    | .ok none => decodeAll decode xs
    | .ok (some row) =>
      let rest := decodeAll decode xs
      ⟨row :: rest.rows, rest.fault?⟩

/-- The rows of a table with a header. With `strict`, every record has as many fields as the
header. -/
def ColumnSet.read (t : ColumnSet ρ α) (strict : Bool) (bytes : List UInt8) : Rows Fault α :=
  match records bytes with
  | [] => ⟨[], none⟩
  | header :: rest =>
    decodeAll (fun record =>
      if strict && record.fields.length != header.fields.length then
        .error (.unequalLengths record.start header.fields.length record.fields.length)
      else do
        let fields ← record.texts
        return some (← t.row header.texts.toOption record.start fields)) rest

end Delimited
end HubDispatch
