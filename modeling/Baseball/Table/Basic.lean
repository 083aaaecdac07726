import Baseball.Text.Layout

/-!
# Tables of cells

A table has a title, columns with their widths and alignments, and rows of cells that are already
text. A cell that is wider than its column is not cut, and a row may have fewer cells than there
are columns.

## Main definitions

* `Column`, `Table`
* `Table.withColumns` — several columns of one width
-/

namespace Baseball

/-- A column of a table. -/
structure Column where
  header : String
  width : Nat
  align : Align
deriving DecidableEq, Inhabited

/-- A titled table of cells. -/
structure Table where
  title : String
  columns : List Column := []
  rows : List (List String) := []
deriving DecidableEq, Inhabited

namespace Table

/-- Adds a column on the right. -/
def withColumn (t : Table) (header : String) (width : Nat) (align : Align) : Table :=
  { t with columns := t.columns ++ [{ header, width, align }] }

/-- Adds a left-aligned column on the right. -/
def withLeft (t : Table) (header : String) (width : Nat) : Table := t.withColumn header width .left

/-- Adds right-aligned columns of one width on the right. -/
def withRights (t : Table) (headers : List String) (width : Nat) : Table :=
  headers.foldl (fun t header => t.withColumn header width .right) t

/-- Adds rows at the bottom. -/
def withRows (t : Table) (rows : List (List String)) : Table := { t with rows := t.rows ++ rows }

/-- How many rows a table has. -/
def size (t : Table) : Nat := t.rows.length

/-- Whether a table has no rows. -/
def isEmpty (t : Table) : Bool := t.rows.isEmpty

end Table

end Baseball
