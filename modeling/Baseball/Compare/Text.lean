import Baseball.Compare.Basic
import Baseball.Text.Layout

/-!
# Printed comparisons

Each column that differs is printed under its name with the rows in which it does.

## Main definitions

* `CompareReport.text`
-/

namespace Baseball.CompareReport

/-- The line of a row that differs. -/
def rowLine (r : CompareReport) (d : RowDifference) : String :=
  "  " ++ d.context ++ ": " ++ r.leftLabel ++ " '" ++ d.left ++ "' / " ++ r.rightLabel ++ " '"
    ++ d.right ++ "'"

/-- The lines of a column that differs. -/
def blockLines (r : CompareReport) (b : CompareBlock) : List String :=
  (b.column ++ " (" ++ b.rows.length.repr ++ " rows)") :: b.rows.map r.rowLine

/-- The printed report; blocks have an empty line between them. -/
def text (r : CompareReport) : String :=
  if r.isClean then lines ["no differences in " ++ r.rowCount.repr ++ " rows"]
  else lines ((r.blocks.map r.blockLines).intersperse [""]).flatten

end Baseball.CompareReport
