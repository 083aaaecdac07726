import Baseball.Compare.Csv
import Baseball.Compare.Roles
import Baseball.Keyed
import Baseball.Text.Blank

/-!
# Comparing two tables

Two tables with the same header and equally many rows are compared cell by cell, blanks at the ends of
cells aside. A column in a group is compared only as part of it: the values of the group that are
neither empty nor `0` must be the same, in any order. Differences are collected by column or group, in
the order of their names.

## Main definitions

* `Layout` — the roles of the columns of one header
* `Layout.rowDifferences` — what differs between two rows
* `CompareReport` — the differences by column, with `CsvTable.compare`
* `compareCsv` — compares two texts
-/

namespace Baseball

/-! ### The outcome -/

/-- A row that differs in some column. -/
structure RowDifference where
  /-- The number of the row, the first after the header being 0. -/
  row : Nat
  context : String
  left : String
  right : String
deriving DecidableEq

/-- The rows that differ in one column or group. -/
structure CompareBlock where
  column : String
  rows : List RowDifference
deriving DecidableEq

/-- What came of a comparison. -/
structure CompareReport where
  leftLabel : String
  rightLabel : String
  /-- How many rows were compared. -/
  rowCount : Nat
  /-- The columns that differ, in the order of their names. -/
  blocks : List CompareBlock
deriving DecidableEq

namespace CompareReport

/-- Whether nothing differs. -/
def isClean (r : CompareReport) : Bool := r.blocks.isEmpty

/-- The block of a column. -/
def block? (r : CompareReport) (column : String) : Option CompareBlock :=
  r.blocks.find? fun b => b.column == column

/-- How many cells differ. -/
def differences (r : CompareReport) : Nat := (r.blocks.flatMap CompareBlock.rows).length

end CompareReport

/-- Why two tables could not be compared. -/
inductive CompareError where
  | csv (error : CsvError)
  | headersDiffer
  /-- The tables have different numbers of rows. -/
  | rowCounts (leftLabel : String) (left : Nat) (rightLabel : String) (right : Nat)
deriving DecidableEq

/-- The wording of a difference in shape. -/
def CompareError.message : CompareError → String
  | csv _ => ""
  | headersDiffer => "tables differ in shape: header rows differ"
  | rowCounts leftLabel left rightLabel right =>
    "tables differ in shape: " ++ leftLabel ++ " has " ++ left.repr ++ " rows, " ++ rightLabel
      ++ " has " ++ right.repr

/-! ### The columns -/

/-- A cell without the blanks at its ends, empty if the row is too short. -/
def cell (row : List String) (index : Nat) : String := (row[index]?.map trimBlank).getD ""

/-- Roles as places in one header. Columns that the header lacks have no place. -/
structure Layout where
  /-- The columns that are compared on their own. -/
  plain : List Nat
  /-- For a column, the column that it is compared under the condition of. -/
  conditional : List (Nat × Nat)
  multisets : List (String × List Nat)
  context : List Nat
deriving DecidableEq

namespace Layout

/-- The place of a column, the first if there are several of its name. -/
def place? (header : List String) (column : String) : Option Nat := header.idxOf? column

/-- Whether a column belongs to a group. -/
def isGrouped (groups : List (String × List Nat)) (index : Nat) : Bool :=
  groups.any fun g => g.2.contains index

/-- The roles of the columns of a header. -/
def ofRoles (roles : ColumnRoles) (header : List String) : Layout :=
  let multisets := roles.multisets.map fun g => (g.name, g.columns.filterMap (place? header))
  { plain :=
      (List.range header.length).filter fun i =>
        !isGrouped multisets i && !(header[i]?.any roles.ignored.contains)
    conditional :=
      roles.ignoredUnless.filterMap fun rule =>
        match place? header rule.column, place? header rule.condition with
        | some column, some condition => some (column, condition)
        | _, _ => none
    multisets
    context := roles.context.filterMap (place? header) }

/-- The column whose being blank excuses a column; of several rules the last counts. -/
def excuse? (l : Layout) (index : Nat) : Option Nat :=
  (l.conditional.reverse.find? fun rule => rule.1 == index).map Prod.snd

/-- Whether a column is left out in a pair of rows. -/
def isExcused (l : Layout) (index : Nat) (left right : List String) : Bool :=
  (l.excuse? index).any fun u => (cell left u).isEmpty && (cell right u).isEmpty

/-- What is shown with a row. -/
def contextText (l : Layout) (row : List String) : String :=
  " ".intercalate (l.context.map (cell row))

/-- The values of a group that count: neither empty nor `0`. -/
def groupValues (row : List String) (columns : List Nat) : List String :=
  (columns.map (cell row)).filter fun v => !v.isEmpty && v != "0"

/-- Whether two rows have the same values in a group, each equally often. -/
def sameValues (columns : List Nat) (left right : List String) : Bool :=
  (groupValues left columns).isPerm (groupValues right columns)

/-- The values of a group as they are shown. -/
def groupText (row : List String) (columns : List Nat) : String :=
  ",".intercalate (columns.map (cell row))

/-- Whether two rows differ in a column that is compared on its own. -/
def plainDiffers (l : Layout) (left right : List String) (index : Nat) : Bool :=
  cell left index != cell right index && !l.isExcused index left right

/-- What differs between two rows, by column or group: first the columns, then the groups. -/
def rowDifferences (l : Layout) (header : List String) (row : Nat) (left right : List String) :
    List (String × RowDifference) :=
  ((l.plain.filter (l.plainDiffers left right)).map fun i =>
    ((header[i]?).getD "",
      { row, context := l.contextText left, left := cell left i, right := cell right i }))
  ++ (l.multisets.filter fun g => !sameValues g.2 left right).map fun g =>
    (g.1,
      { row, context := l.contextText left, left := groupText left g.2
        right := groupText right g.2 })

end Layout

/-! ### The tables -/

/-- Collects differences by name. -/
def collect (ds : List (String × RowDifference)) : Keyed String (List RowDifference) :=
  ds.foldl (fun t d => t.upsert d.1 fun old => old.getD [] ++ [d.2]) ∅

namespace CsvTable

/-- Compares the rows of two tables. -/
def compareRows (roles : ColumnRoles) (header : List String) (left right : List (List String)) :
    CompareReport :=
  let layout := Layout.ofRoles roles header
  let differences :=
    (left.zip right).zipIdx.flatMap fun ((l, r), row) => layout.rowDifferences header row l r
  { leftLabel := roles.leftLabel
    rightLabel := roles.rightLabel
    rowCount := left.length
    blocks := (collect differences).entries.map fun (column, rows) => { column, rows } }

/-- Compares two tables, if they have the same header and equally many rows. -/
def compare (roles : ColumnRoles) (left right : CsvTable) : Except CompareError CompareReport :=
  if left.header = right.header then
    if left.rows.length = right.rows.length then
      .ok (compareRows roles left.header left.rows right.rows)
    else
      .error (.rowCounts roles.leftLabel left.rows.length roles.rightLabel right.rows.length)
  else .error .headersDiffer

end CsvTable

/-- Compares two texts. The headers are read and compared before any row is looked at. -/
def compareCsv (roles : ColumnRoles) (left right : List UInt8) :
    Except CompareError CompareReport := do
  let leftRecords := Csv.records left
  let rightRecords := Csv.records right
  let leftHeader ← (Csv.header leftRecords).mapError .csv
  let rightHeader ← (Csv.header rightRecords).mapError .csv
  if leftHeader = rightHeader then
    let leftRows ← (Csv.rows leftRecords).mapError .csv
    let rightRows ← (Csv.rows rightRecords).mapError .csv
    CsvTable.compare roles ⟨leftHeader, leftRows⟩ ⟨rightHeader, rightRows⟩
  else
    .error .headersDiffer

/-- Compares two files, none standing for one that is not there. Both must be there before either is
read. -/
def compareFiles (roles : ColumnRoles) (left? right? : Option (List UInt8)) :
    Except CompareError CompareReport :=
  match left?, right? with
  | some left, some right => compareCsv roles left right
  | _, _ => .error (.csv .missing)

end Baseball
