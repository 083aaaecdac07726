/-!
# Column roles

Which columns of a table are compared, and how: a column may be left out, left out where another
column is blank, or compared together with others as a collection in which order does not matter.

## Main definitions

* `ConditionalIgnore`, `MultisetGroup`
* `ColumnRoles` — the roles of the columns, with the usual ones as defaults
-/

namespace Baseball

/-- A column that is left out where the column `condition` is blank in both rows. -/
structure ConditionalIgnore where
  column : String
  condition : String
deriving DecidableEq

/-- Columns that are compared together, in any order. -/
structure MultisetGroup where
  /-- The name under which differences are reported. -/
  name : String
  columns : List String
deriving DecidableEq

/-- Names that differ in a number from 1 to `n`. -/
def numbered (before after : String) (n : Nat) : List String :=
  (List.range n).map fun i => before ++ (i + 1).repr ++ after

/-- The roles of the columns of two tables that are compared. The defaults are those of a table with
one row for each event of a game. -/
structure ColumnRoles where
  /-- What made the first table. -/
  leftLabel : String := "reference"
  /-- What made the second table. -/
  rightLabel : String := "candidate"
  /-- Columns that are not compared. -/
  ignored : List String := numbered "PR_RUN" "_FL" 3
  ignoredUnless : List ConditionalIgnore :=
    (List.range 3).map fun i =>
      { column := "RUN" ++ (i + 1).repr ++ "_RESP_PIT_ID"
        condition := "BASE" ++ (i + 1).repr ++ "_RUN_ID" }
  multisets : List MultisetGroup :=
    [{ name := "PO_FLD_CD", columns := numbered "PO" "_FLD_CD" 3 },
      { name := "ASS_FLD_CD", columns := numbered "ASS" "_FLD_CD" 5 }]
  /-- Columns that are shown with each row that differs. -/
  context : List String := ["GAME_ID", "INN_CT", "BAT_ID", "EVENT_TX"]
deriving DecidableEq

end Baseball
