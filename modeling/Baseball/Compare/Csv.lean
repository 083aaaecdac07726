import Baseball.Text.Utf8

/-!
# Comma-separated tables

A table is read from bytes: fields are separated by commas and records end at a line end of any kind.
A field that starts with a quote runs to the next lone quote, line ends and commas included, and two
quotes in it stand for one; what follows the closing quote is read as it stands. Empty lines are no
records. The first record is the header, and every record is as long as the header.

## Main definitions

* `Csv.records` — the records of a text, as bytes
* `Csv.header`, `Csv.rows` — the first record and the others, as text
* `CsvTable` — a header and its rows
-/

namespace Baseball

/-- Why a table could not be read. The header is record 0. -/
inductive CsvError where
  /-- A record is not as long as the header. -/
  | unequalLengths (record expected length : Nat)
  /-- A field is not text after some bytes. -/
  | notText (record field validUpTo : Nat)
  /-- There is nothing to read. -/
  | missing
deriving DecidableEq

/-- A header and rows of the same length. -/
structure CsvTable where
  header : List String
  rows : List (List String)
deriving DecidableEq

namespace Csv

/-- Where a reader stands within a record. -/
inductive Place where
  /-- Before a record. -/
  | betweenRecords
  /-- Before a field. -/
  | fieldStart
  | inField
  | inQuotes
  /-- After a quote within quotes, which closes the field unless another follows. -/
  | afterQuote
deriving DecidableEq

/-- A field as bytes. -/
abbrev Field := List UInt8

/-- What was read so far; field, record and records are last first. -/
structure Reader where
  place : Place := .betweenRecords
  field : Field := []
  record : List Field := []
  records : List (List Field) := []

namespace Reader

/-- Reads a byte into the field. -/
def push (r : Reader) (place : Place) (b : UInt8) : Reader :=
  { r with place, field := b :: r.field }

/-- Closes the field. -/
def closeField (r : Reader) : Reader :=
  { r with place := .fieldStart, field := [], record := r.field.reverse :: r.record }

/-- Closes the field and the record. -/
def closeRecord (r : Reader) : Reader :=
  { place := .betweenRecords
    records := (r.field.reverse :: r.record).reverse :: r.records }

/-- Whether a byte ends a line. -/
def isLineEnd (b : UInt8) : Bool := b == 0x0A || b == 0x0D

/-- Reads a byte outside quotes: a comma closes the field, a line end the record. -/
def plain (r : Reader) (b : UInt8) : Reader :=
  if b == 0x2C then r.closeField else if isLineEnd b then r.closeRecord else r.push .inField b

/-- Reads the first byte of a field, which may be the quote that opens it. -/
def first (r : Reader) (b : UInt8) : Reader :=
  if b == 0x22 then { r with place := .inQuotes } else r.plain b

/-- Reads a byte. -/
def read (r : Reader) (b : UInt8) : Reader :=
  match r.place with
  | .betweenRecords => if isLineEnd b then r else r.first b
  | .fieldStart => r.first b
  | .inField => r.plain b
  | .inQuotes => if b == 0x22 then { r with place := .afterQuote } else r.push .inQuotes b
  | .afterQuote => if b == 0x22 then r.push .inQuotes b else r.plain b

/-- The records once everything is read. -/
def finish (r : Reader) : List (List Field) :=
  if r.place = .betweenRecords then r.records.reverse else r.closeRecord.records.reverse

end Reader

/-- The bytes without the mark that may stand at the start of a text. -/
def dropMark : List UInt8 → List UInt8
  | 0xEF :: 0xBB :: 0xBF :: rest => rest
  | bs => bs

/-- The records of a text. -/
def records (bs : List UInt8) : List (List Field) :=
  ((dropMark bs).foldl Reader.read {}).finish

/-- The text of a record, or the first field that is none. -/
def recordText (record : Nat) (fields : List Field) : Except CsvError (List String) :=
  fields.zipIdx.mapM fun (bs, i) =>
    match utf8Text bs with
    | .ok s => .ok s
    | .error n => .error (.notText record i n)

/-- The header: the first record, which is empty if there is none. -/
def header (records : List (List Field)) : Except CsvError (List String) :=
  recordText 0 (records.headD [])

/-- The records after the header. -/
def rows (records : List (List Field)) : Except CsvError (List (List String)) :=
  let width := (records.headD []).length
  (records.drop 1).zipIdx.mapM fun (fields, i) =>
    if fields.length = width then recordText (i + 1) fields
    else .error (.unequalLengths (i + 1) width fields.length)

end Csv

end Baseball
