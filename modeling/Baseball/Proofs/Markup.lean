import Baseball.Table.Html
import Mathlib.Data.List.Forall2

/-!
# What a table says in HTML

A table can be read back from its HTML, whatever its cells contain: the title, the headers with
their alignments, and of each row the cells that have a column. Nothing else is in it; widths and
cells beyond the last column are not written.

## The argument

Something is written so that it can be told from whatever follows it (`SelfDelimiting`). This is
true of an escaped character, since no other begins with an ampersand and none with an angle
bracket. It carries over from one thing to a list of them, if the list is closed by something with
which none of them can begin (`SelfDelimiting.list`). That is used three times: the characters of a
text are closed by an end tag, the cells of a row by the end of the row, and the rows by the end of
the table.

## Main definitions

* `SelfDelimiting` — what is written can be told from what follows
* `Table.Content`, `Table.content` — what is in the HTML of a table

## Main results

* `SelfDelimiting.list` — a closed list
* `Table.selfDelimiting_htmlCode` — a whole table
* `Table.toHtml_eq_iff` — which tables have the same HTML
-/

namespace Baseball

/-! ### Writing that can be told from what follows -/

section SelfDelimiting

variable {α β : Type} {write : α → List Char} {stop : List Char}

/-- **What is written can be told from whatever follows it.** -/
def SelfDelimiting (write : α → List Char) : Prop :=
  ∀ ⦃x y s t⦄, write x ++ s = write y ++ t → x = y ∧ s = t

/-- Nothing that is written begins as `stop` does, whatever follows. -/
def Stops (write : α → List Char) (stop : List Char) : Prop :=
  ∀ x s t, write x ++ s ≠ stop ++ t

theorem SelfDelimiting.injective (h : SelfDelimiting write) : Function.Injective write :=
  fun x y heq => (h (s := []) (t := []) (by rw [heq])).1

/-- A fixed text may stand before it. -/
theorem SelfDelimiting.after (h : SelfDelimiting write) (opening : List Char) :
    SelfDelimiting fun x => opening ++ write x := by
  intro x y s t heq
  rw [List.append_assoc, List.append_assoc] at heq
  exact h (List.append_cancel_left heq)

/-- One thing may be written after another. -/
theorem SelfDelimiting.pair {write' : β → List Char} (h : SelfDelimiting write)
    (h' : SelfDelimiting write') : SelfDelimiting fun p : α × β => write p.1 ++ write' p.2 := by
  rintro ⟨x, x'⟩ ⟨y, y'⟩ s t heq
  rw [List.append_assoc, List.append_assoc] at heq
  obtain ⟨rfl, hrest⟩ := h heq
  obtain ⟨rfl, rfl⟩ := h' hrest
  exact ⟨rfl, rfl⟩

/-- **A list** may be written, if it is closed by something with which none of its elements begins.
-/
theorem SelfDelimiting.list (h : SelfDelimiting write) (hstop : Stops write stop) :
    SelfDelimiting fun xs : List α => xs.flatMap write ++ stop := by
  intro xs
  induction xs with
  | nil =>
    intro ys s t heq
    cases ys with
    | nil => exact ⟨rfl, List.append_cancel_left heq⟩
    | cons y ys =>
      simp only [List.flatMap_nil, List.flatMap_cons, List.nil_append, List.append_assoc] at heq
      exact absurd heq.symm (hstop y _ s)
  | cons x xs ih =>
    intro ys s t heq
    cases ys with
    | nil =>
      simp only [List.flatMap_nil, List.flatMap_cons, List.nil_append, List.append_assoc] at heq
      exact absurd heq (hstop x _ t)
    | cons y ys =>
      simp only [List.flatMap_cons, List.append_assoc] at heq
      obtain ⟨rfl, hrest⟩ := h heq
      obtain ⟨rfl, rfl⟩ := ih (by simpa only [List.append_assoc] using hrest)
      exact ⟨rfl, rfl⟩

end SelfDelimiting

/-! ### Text between tags -/

/-- An escaped character begins with an ampersand only if it is an entity, and the entities differ.
-/
theorem selfDelimiting_escapeHtmlChar : SelfDelimiting escapeHtmlChar := by
  intro c d s t h
  unfold escapeHtmlChar at h
  split at h <;> split at h <;> simp at h <;> grind

/-- No escaped character begins a tag. -/
theorem stops_escapeHtmlChar (rest : List Char) : Stops escapeHtmlChar ('<' :: rest) := by
  intro c s t h
  unfold escapeHtmlChar at h
  split at h <;> simp_all

/-- A text can be told from the tag after it. -/
theorem selfDelimiting_escapeHtml (rest : List Char) :
    SelfDelimiting fun s : String => (escapeHtml s).toList ++ '<' :: rest := by
  intro x y s t h
  simp only [escapeHtml, String.toList_ofList] at h
  obtain ⟨hxy, hst⟩ := selfDelimiting_escapeHtmlChar.list (stops_escapeHtmlChar rest) h
  exact ⟨String.toList_inj.mp hxy, hst⟩

namespace Table

theorem selfDelimiting_alignClass (rest : List Char) :
    SelfDelimiting fun a => (alignClass a).toList ++ rest := by
  intro a b s t h
  cases a <;> cases b <;> simp_all [alignClass]

/-! ### Rows of cells -/

/-- How a cell is written in a row, with the alignment of its column. -/
def cellCode (tag : String) (cell : Align × String) : List Char :=
  (htmlCell tag cell.1 cell.2).toList

theorem cellCode_eq (tag : String) : cellCode tag = fun cell =>
    ("<" ++ tag ++ " class=\"").toList ++
      (((alignClass cell.1).toList ++ "\">".toList) ++
        ((escapeHtml cell.2).toList ++ '<' :: ("/" ++ tag ++ ">").toList)) := by
  funext cell
  simp [cellCode, htmlCell]

/-- A cell can be told from what follows it in its row. -/
theorem selfDelimiting_cellCode (tag : String) : SelfDelimiting (cellCode tag) := by
  rw [cellCode_eq]
  exact ((selfDelimiting_alignClass _).pair (selfDelimiting_escapeHtml _)).after _

/-- How a row of cells is written. -/
def rowCode (tag : String) (cells : List (Align × String)) : List Char :=
  "<tr>".toList ++ (cells.flatMap (cellCode tag) ++ "</tr>\n".toList)

/-- A cell begins with its tag, and the end of the row with a slash in the place of it. -/
theorem stops_cellCode {tag : String} {c : Char} {rest : List Char} (htag : tag.toList = c :: rest)
    (hc : c ≠ '/') : Stops (cellCode tag) "</tr>\n".toList := by
  intro cell s t h
  rw [cellCode_eq] at h
  simp [htag] at h
  exact hc h.1

theorem selfDelimiting_rowCode {tag : String} {c : Char} {rest : List Char}
    (htag : tag.toList = c :: rest) (hc : c ≠ '/') : SelfDelimiting (rowCode tag) :=
  ((selfDelimiting_cellCode tag).list (stops_cellCode htag hc)).after _

/-- A row begins with its tag, and the end of the table with a slash in the place of it. -/
theorem stops_rowCode (tag : String) : Stops (rowCode tag) "</table>\n".toList := by
  intro cells s t h
  simp [rowCode] at h

/-! ### Whole tables -/

/-- What is in the HTML of a table: the title, the headers, and the cells of the rows, each with the
alignment of its column. -/
abbrev Content : Type := (String × List (Align × String)) × List (List (Align × String))

/-- The cells of a row that have a column, with its alignment. -/
def aligned (columns : List Column) (cells : List String) : List (Align × String) :=
  List.zipWith (fun column cell => (column.align, cell)) columns cells

/-- What is in the HTML of a table. -/
def content (t : Table) : Content :=
  ((t.title, aligned t.columns (t.columns.map Column.header)), t.rows.map (aligned t.columns))

/-- How the content of a table is written. -/
def htmlCode (c : Content) : List Char :=
  "<table>\n<caption>".toList ++
    ((((escapeHtml c.1.1).toList ++ "</caption>\n".toList) ++ rowCode "th" c.1.2)
      ++ (c.2.flatMap (rowCode "td") ++ "</table>\n".toList))

/-- **A table can be told from what follows it.** -/
theorem selfDelimiting_htmlCode : SelfDelimiting htmlCode :=
  (((selfDelimiting_escapeHtml _).pair (selfDelimiting_rowCode rfl (by decide))).pair
    ((selfDelimiting_rowCode rfl (by decide)).list (stops_rowCode "td"))).after _

theorem toList_htmlRow (tag : String) (columns : List Column) (cells : List String) :
    (htmlRow tag columns cells).toList ++ ['\n'] = rowCode tag (aligned columns cells) := by
  have hcells : (List.zipWith (fun (c : Column) cell => htmlCell tag c.align cell) columns
      cells).flatMap String.toList = (aligned columns cells).flatMap (cellCode tag) := by
    rw [aligned, List.flatMap_def, List.flatMap_def, List.map_zipWith, List.map_zipWith]
    rfl
  simp only [htmlRow, String.toList_append, String.toList_join, hcells, rowCode, List.append_assoc]
  rfl

/-- The HTML of a table is its content, written. -/
theorem toList_toHtml (t : Table) : t.toHtml.toList = htmlCode t.content := by
  rw [toHtml, toList_lines, List.flatMap_append, List.flatMap_append]
  simp only [List.flatMap_cons, List.flatMap_nil, List.flatMap_map, List.append_nil,
    toList_htmlRow, content]
  unfold htmlCode
  simp [List.flatMap_map]

theorem aligned_headers (columns : List Column) :
    aligned columns (columns.map Column.header) = columns.map fun c => (c.align, c.header) := by
  rw [aligned, List.zipWith_map_right, List.zipWith_self]

/-- Under columns that are aligned in the same way, rows have the same cells as far as there are
columns, or else something in them differs. -/
theorem aligned_eq_iff {columns columns' : List Column} {cells cells' : List String}
    (h : columns.map Column.align = columns'.map Column.align) :
    aligned columns cells = aligned columns' cells' ↔
      cells.take columns.length = cells'.take columns'.length := by
  induction columns generalizing columns' cells cells' with
  | nil =>
    obtain rfl : columns' = [] := List.map_eq_nil_iff.mp h.symm
    simp [aligned]
  | cons column columns ih =>
    obtain ⟨column', columns', rfl, halign, hrest⟩ := List.map_eq_cons_iff.mp h.symm
    cases cells with
    | nil => cases cells' <;> simp [aligned]
    | cons cell cells =>
      cases cells' with
      | nil => simp [aligned]
      | cons cell' cells' => simpa [aligned, halign] using fun _ => ih hrest.symm

/-- Two lists have the same images if their elements do, one by one. -/
theorem map_eq_map_iff_forall₂ {α β γ : Type} {f : α → γ} {g : β → γ} {l : List α} {m : List β} :
    l.map f = m.map g ↔ List.Forall₂ (fun a b => f a = g b) l m := by
  rw [← List.forall₂_eq_eq_eq, List.forall₂_map_left_iff, List.forall₂_map_right_iff]

/-- **Which tables have the same HTML**: those of the same title, with the same headers and
alignments in order, and with as many rows, in which the same cells stand as far as there are
columns. -/
theorem toHtml_eq_iff (t u : Table) : t.toHtml = u.toHtml ↔
    t.title = u.title ∧
    t.columns.map (fun c => (c.align, c.header)) = u.columns.map (fun c => (c.align, c.header)) ∧
    t.rows.map (·.take t.columns.length) = u.rows.map (·.take u.columns.length) := by
  have hcontent : t.toHtml = u.toHtml ↔ t.content = u.content := by
    rw [← String.toList_inj, toList_toHtml, toList_toHtml, selfDelimiting_htmlCode.injective.eq_iff]
  rw [hcontent, content, content, Prod.mk.injEq, Prod.mk.injEq, aligned_headers, aligned_headers,
    and_assoc]
  refine and_congr_right fun _ => and_congr_right fun hcolumns => ?_
  have halign : t.columns.map Column.align = u.columns.map Column.align := by
    simpa [Function.comp_def] using congrArg (List.map Prod.fst) hcolumns
  simp only [map_eq_map_iff_forall₂, aligned_eq_iff halign]

end Table

end Baseball
