import Baseball.Table.Basic
import Baseball.Text.Blank

/-!
# Tables as text

The title and an empty line come first, then the headers and the rows, one line each. Columns are
one space apart, and no line ends in blanks. Writing stops where a cell is to be put into a field
that is wider than fields can be; the table then has no text.

## Main definitions

* `Table.textRow?` — one line
* `Table.toText?` — the whole table
-/

namespace Baseball.Table

/-- The cells of a row in the fields of their columns; cells beyond the last column are dropped. -/
def fields? (columns : List Column) (cells : List String) : Option (List String) :=
  (columns.zip cells).mapM fun (column, cell) => column.align.pad? column.width cell

/-- The line of a row of cells, without its newline. -/
def textRow? (columns : List Column) (cells : List String) : Option String :=
  (fields? columns cells).map fun fields => trimBlankEnd (" ".intercalate fields)

/-- The lines of a table. -/
def textLines? (t : Table) : Option (List String) := do
  let headers ← textRow? t.columns (t.columns.map Column.header)
  let rows ← t.rows.mapM (textRow? t.columns)
  return t.title :: "" :: headers :: rows

/-- A table as text. -/
def toText? (t : Table) : Option String := t.textLines?.map lines

end Baseball.Table
