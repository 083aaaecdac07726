import Baseball.Compare.Text
import Baseball.Json.Value

/-!
# Comparisons as JSON

The roles of columns are written with every field. When they are read, a missing field has its
default. What came of a comparison is written with its printed form.

## Main definitions

* `ColumnRoles.toJson`, `ColumnRoles.ofJson`
* `CompareReport.toJson`
-/

namespace Baseball

open Json

/-! ### Roles -/

/-- A conditional rule as an object. -/
def ConditionalIgnore.toJson (c : ConditionalIgnore) : Json :=
  .object [("column", .string c.column), ("unless", .string c.condition)]

/-- A conditional rule from a record of its fields. -/
def ConditionalIgnore.ofJson (j : Json) : Decoded ConditionalIgnore := do
  let fs ← j.toFields ["column", "unless"]
  let column ← field fs "column" toText
  let condition ← field fs "unless" toText
  return { column, condition }

/-- A group as an object. -/
def MultisetGroup.toJson (g : MultisetGroup) : Json :=
  .object [("name", .string g.name), ("columns", .ofList .string g.columns)]

/-- A group from a record of its fields. -/
def MultisetGroup.ofJson (j : Json) : Decoded MultisetGroup := do
  let fs ← j.toFields ["name", "columns"]
  let columns ← field fs "columns" (toList toText)
  let name ← field fs "name" toText
  return { name, columns }

namespace ColumnRoles

/-- Roles as an object. -/
def toJson (r : ColumnRoles) : Json :=
  .object [("left_label", .string r.leftLabel), ("right_label", .string r.rightLabel),
    ("ignore", .ofList .string r.ignored),
    ("ignore_unless", .ofList ConditionalIgnore.toJson r.ignoredUnless),
    ("multisets", .ofList MultisetGroup.toJson r.multisets),
    ("context", .ofList .string r.context)]

/-- Roles from a record of their fields. -/
def ofJson (j : Json) : Decoded ColumnRoles := do
  let usual : ColumnRoles := {}
  let fs ← j.toFields
    ["left_label", "right_label", "ignore", "ignore_unless", "multisets", "context"]
  let context ← fieldD fs "context" (toList toText) usual.context
  let ignored ← fieldD fs "ignore" (toList toText) usual.ignored
  let ignoredUnless ←
    fieldD fs "ignore_unless" (toList ConditionalIgnore.ofJson) usual.ignoredUnless
  let leftLabel ← fieldD fs "left_label" toText usual.leftLabel
  let multisets ← fieldD fs "multisets" (toList MultisetGroup.ofJson) usual.multisets
  let rightLabel ← fieldD fs "right_label" toText usual.rightLabel
  return { leftLabel, rightLabel, ignored, ignoredUnless, multisets, context }

end ColumnRoles

/-! ### The outcome -/

/-- A row that differs as an array. -/
def RowDifference.toJson (d : RowDifference) : Json :=
  .array [.ofNat d.row, .string d.context, .string d.left, .string d.right]

/-- A column that differs as an object. -/
def CompareBlock.toJson (b : CompareBlock) : Json :=
  .object [("column", .string b.column), ("rows", .ofList RowDifference.toJson b.rows)]

/-- What came of a comparison as an object, with the number of rows in which one of the columns
differs. -/
def CompareReport.toJson (r : CompareReport) (column? : Option String) : Json :=
  .object [("clean", .bool r.isClean), ("rows", .ofNat r.rowCount),
    ("differences", .ofNat r.differences), ("labels", .ofTexts [r.leftLabel, r.rightLabel]),
    ("blocks", .ofList CompareBlock.toJson r.blocks), ("text", .string r.text),
    ("block", .ofOption (fun b : CompareBlock => .ofNat b.rows.length)
      (column?.bind r.block?))]

end Baseball
