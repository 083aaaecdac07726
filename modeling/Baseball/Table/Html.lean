import Baseball.Table.Basic

/-!
# Tables as HTML

A table element with a caption, a row of headings and the rows of cells. Every heading and cell
names the side it is aligned to as its class. In text that comes from the table, an ampersand and
the two angle brackets are written as entities, so no cell can open or close an element.

## Main definitions

* `escapeHtml` — the entities
* `Table.toHtml` — the whole table
-/

namespace Baseball

/-- How a character is written between tags. -/
def escapeHtmlChar : Char → List Char
  | '&' => "&amp;".toList
  | '<' => "&lt;".toList
  | '>' => "&gt;".toList
  | c => [c]

/-- How a text is written between tags. -/
def escapeHtml (s : String) : String := .ofList (s.toList.flatMap escapeHtmlChar)

namespace Table

/-- The class of cells aligned to one side. -/
def alignClass : Align → String
  | .left => "left"
  | .right => "right"

/-- An element of a row: its tag, the alignment of its column, and its text. -/
def htmlCell (tag : String) (align : Align) (text : String) : String :=
  "<" ++ tag ++ " class=\"" ++ alignClass align ++ "\">" ++ escapeHtml text ++ "</" ++ tag ++ ">"

/-- A row of elements, one for each cell that has a column. -/
def htmlRow (tag : String) (columns : List Column) (cells : List String) : String :=
  "<tr>" ++ .join (List.zipWith (fun (c : Column) cell => htmlCell tag c.align cell) columns cells)
    ++ "</tr>"

/-- A table as HTML. -/
def toHtml (t : Table) : String :=
  lines (
    ["<table>", "<caption>" ++ escapeHtml t.title ++ "</caption>",
      htmlRow "th" t.columns (t.columns.map Column.header)]
    ++ t.rows.map (htmlRow "td" t.columns)
    ++ ["</table>"])

end Table

end Baseball
