import Baseball.Table.Text
import Mathlib.Algebra.BigOperators.Group.List.Basic
import Mathlib.Algebra.Order.Ring.Nat
import Mathlib.Data.List.Forall2

/-!
# Tables in columns

A table as text is its title, an empty line, and one line for the headers and for each row. If the
headers and cells fit their columns, every cell stands where its column begins, whatever stands to
the left of it; and the blanks that are taken off at the end of a line are all that is missing
there.

## The argument

A line is its fields with a space between two of them, less the blanks at its end. In cells that
fit, the only blank is the space, so padding with spaces on the right puts back what was taken off
(`padChars_trimEnd`). What then stands there is one field after the other, each followed by a space
(`exists_padChars_joined`), and each as wide as its column, so it begins at the sum of the widths
before it and the spaces between them.

Nothing can be written into a field that is wider than `widthMax`. The line of headers has a field
in every column, so a table has a text exactly if no column is wider than that.

## Main definitions

* `Table.Fits` — cells that fit their columns
* `Table.offset` — where a column begins
* `Table.InColumns` — a line in which cells stand in their columns
* `Table.LaidOut` — a text with the lines of a table

## Main results

* `Table.inColumns_joined` — a line of cells that fit
* `Table.toText?_eq_some_iff`, `Table.isSome_toText?_iff` — which tables have a text, and which text
* `Table.toText?_laidOut` — a table of cells that fit
-/

namespace Baseball

/-! ### Blanks at the end -/

/-- What trimming takes off are blanks. -/
theorem exists_trimEnd_append (cs : List Char) :
    ∃ blanks, cs = trimEnd cs ++ blanks ∧ ∀ c ∈ blanks, isBlank c := by
  refine ⟨(cs.reverse.takeWhile isBlank).reverse, ?_, fun c hc => ?_⟩
  · rw [trimEnd, ← List.reverse_append, List.takeWhile_append_dropWhile, List.reverse_reverse]
  · exact List.all_eq_true.mp (List.all_takeWhile (l := cs.reverse)) c (List.mem_reverse.mp hc)

/-- Where the only blank is the space, padding puts back what trimming takes off. -/
theorem padChars_trimEnd {cs : List Char} {width : Nat} (h : ∀ c ∈ cs, isBlank c → c = ' ')
    (hwidth : cs.length ≤ width) :
    Align.left.padChars width (trimEnd cs) = Align.left.padChars width cs := by
  obtain ⟨blanks, heq, hblanks⟩ := exists_trimEnd_append cs
  have hspaces : blanks = .replicate blanks.length ' ' := by
    refine List.eq_replicate_of_mem fun c hc => h c ?_ (hblanks c hc)
    rw [heq]
    exact List.mem_append_right _ hc
  have hlength : cs.length = (trimEnd cs).length + blanks.length := by
    rw [← List.length_append, ← heq]
  have hfill : filler width (trimEnd cs) = blanks ++ filler width cs := by
    rw [hspaces, filler, filler, List.replicate_append_replicate]
    congr 1
    omega
  rw [Align.padChars, Align.padChars, hfill, ← List.append_assoc, ← heq]

/-! ### Lines of a text -/

/-- The lines of a text are found again at its newlines, with nothing after the last. -/
theorem splitOn_lines {ls : List String} (h : ∀ l ∈ ls, '\n' ∉ l.toList) :
    (lines ls).toList.splitOn '\n' = ls.map String.toList ++ [[]] := by
  rw [toList_lines]
  induction ls with
  | nil => rfl
  | cons l ls ih =>
    rw [List.flatMap_cons, List.append_assoc, List.singleton_append,
      List.splitOn_append_cons_self_of_not_mem (h l List.mem_cons_self),
      ih fun l' hl' => h l' (List.mem_cons_of_mem l hl')]
    rfl

/-! ### Fields with a space between two of them -/

section Intercalate

variable {α : Type} {sep : List α} {fields : List (List α)}

theorem intercalate_append_sep (sep : List α) (hne : fields ≠ []) :
    sep.intercalate fields ++ sep = fields.flatMap (· ++ sep) := by
  induction fields with
  | nil => contradiction
  | cons f fields ih =>
    cases fields with
    | nil => simp
    | cons g fields =>
      rw [List.intercalate_cons_cons, List.append_assoc, List.append_assoc, ih (by simp)]
      simp

/-- How long fields are with a separator between two of them. -/
theorem length_intercalate (x : α) (hne : fields ≠ []) :
    ([x].intercalate fields).length + 1 = (fields.map List.length).sum + fields.length := by
  have hflat (fields : List (List α)) : (fields.flatMap (· ++ [x])).length =
      (fields.map List.length).sum + fields.length := by
    induction fields with
    | nil => rfl
    | cons f fields ih =>
      rw [List.flatMap_cons, List.length_append, ih, List.length_append, List.length_singleton,
        List.map_cons, List.sum_cons, List.length_cons]
      omega
  rw [← hflat, ← intercalate_append_sep [x] hne, List.length_append, List.length_singleton]

/-- One field after the other begins at the sum of the lengths before it, a separator counted with
each. -/
theorem prefix_drop_flatMap {x : α} {f : List α} {k : Nat} (h : fields[k]? = some f)
    (rest : List α) : f ++ [x] <+:
      (fields.flatMap (· ++ [x]) ++ rest).drop (((fields.take k).map List.length).sum + k) := by
  induction fields generalizing k with
  | nil => cases h
  | cons g fields ih =>
    cases k with
    | zero =>
      obtain rfl : g = f := by simpa using h
      simp
    | succ k =>
      have hplace : (((g :: fields).take (k + 1)).map List.length).sum + (k + 1) =
          (g ++ [x]).length + (((fields.take k).map List.length).sum + k) := by
        simp
        omega
      rw [hplace, List.flatMap_cons, List.append_assoc, ← List.drop_drop, List.drop_left]
      exact ih (by simpa using h)

end Intercalate

namespace Table

variable {columns : List Column} {cells : List String} {line text : String} {t : Table}

/-! ### Fields -/

/-- Cells that fit their columns: no white space other than the space, and no more characters than
the column is wide. Nothing is asked of cells beyond the last column. -/
def Fits (columns : List Column) (cells : List String) : Prop :=
  ∀ p ∈ columns.zip cells,
    (∀ c ∈ p.2.toList, isBlank c → c = ' ') ∧ p.2.toList.length ≤ p.1.width

instance (columns : List Column) (cells : List String) : Decidable (Fits columns cells) :=
  -- the characters of the cell are gone through, and not all there are
  letI (cell : String) : Decidable (∀ c ∈ cell.toList, isBlank c → c = ' ') :=
    List.decidableBAll _ _
  inferInstanceAs (Decidable (∀ p ∈ columns.zip cells,
    (∀ c ∈ p.2.toList, isBlank c → c = ' ') ∧ p.2.toList.length ≤ p.1.width))

/-- The cells of a row in the fields of their columns. -/
def fieldsOf (columns : List Column) (cells : List String) : List (List Char) :=
  List.zipWith (fun (column : Column) cell => column.align.padChars column.width cell.toList)
    columns cells

theorem fieldsOf_cons (column : Column) (columns : List Column) (cell : String)
    (cells : List String) : fieldsOf (column :: columns) (cell :: cells) =
      column.align.padChars column.width cell.toList :: fieldsOf columns cells := rfl

theorem length_fieldsOf (columns : List Column) (cells : List String) :
    (fieldsOf columns cells).length = min columns.length cells.length :=
  List.length_zipWith

theorem fits_cons {column : Column} {cell : String} :
    Fits (column :: columns) (cell :: cells) ↔
      ((∀ c ∈ cell.toList, isBlank c → c = ' ') ∧ cell.toList.length ≤ column.width) ∧
        Fits columns cells := by
  simp only [Fits, List.zip_cons_cons, List.forall_mem_cons]

/-- A cell that fits fills its field exactly. -/
theorem map_length_fieldsOf (h : Fits columns cells) :
    (fieldsOf columns cells).map List.length = (columns.take cells.length).map Column.width := by
  induction columns generalizing cells with
  | nil => simp [fieldsOf]
  | cons column columns ih =>
    cases cells with
    | nil => rfl
    | cons cell cells =>
      obtain ⟨⟨-, hwidth⟩, hrest⟩ := fits_cons.mp h
      rw [fieldsOf_cons, List.map_cons, ih hrest, Align.length_padChars, Nat.max_eq_left hwidth]
      rfl

/-- The only blank in the fields of cells that fit is the space. -/
theorem eq_space_of_mem_fieldsOf (h : Fits columns cells) :
    ∀ f ∈ fieldsOf columns cells, ∀ c ∈ f, isBlank c → c = ' ' := by
  induction columns generalizing cells with
  | nil => simp [fieldsOf]
  | cons column columns ih =>
    cases cells with
    | nil => simp [fieldsOf]
    | cons cell cells =>
      obtain ⟨⟨hblank, -⟩, hrest⟩ := fits_cons.mp h
      rw [fieldsOf_cons]
      refine List.forall_mem_cons.mpr ⟨fun c hc hb => ?_, ih hrest⟩
      rcases Align.mem_padChars hc with hc | hc
      · exact hblank c hc hb
      · exact hc

/-! ### Lines -/

/-- Where a column begins in a line: after the columns before it, and a space after each of them. -/
def offset (columns : List Column) (k : Nat) : Nat :=
  ((columns.take k).map Column.width).sum + k

/-- **A line in which cells stand in their columns.** -/
structure InColumns (columns : List Column) (cells : List String) (line : List Char) : Prop where
  /-- If the line is padded on the right to the width of the columns or more, each cell that has a
  column stands where the column begins, padded on its side to the width of the column, and with a
  space after it. -/
  placed : ∀ {width k column cell}, offset columns columns.length ≤ width →
    columns[k]? = some column → cells[k]? = some cell →
    column.align.padChars column.width cell.toList ++ [' '] <+:
      (Align.left.padChars width line).drop (offset columns k)
  /-- Nothing stands beyond the last column that has a cell. -/
  ends : line.length ≤ offset columns (min columns.length cells.length) - 1
  /-- The line does not end in white space. -/
  bare : ∀ c ∈ line.getLast?, isBlank c = false

/-- The columns that have a cell begin where its field does. -/
theorem offset_eq (h : Fits columns cells) {k : Nat} (hk : k ≤ cells.length) :
    offset columns k = (((fieldsOf columns cells).take k).map List.length).sum + k := by
  rw [offset, List.map_take, List.map_take, map_length_fieldsOf h, List.map_take, List.take_take,
    Nat.min_eq_left hk]

theorem offset_min_le (columns : List Column) (k : Nat) :
    offset columns (min columns.length k) ≤ offset columns columns.length := by
  have hsum : ((columns.take (min columns.length k)).map Column.width).sum +
      ((columns.drop (min columns.length k)).map Column.width).sum =
        (columns.map Column.width).sum := by
    rw [← List.sum_append, ← List.map_append, List.take_append_drop]
  rw [offset, offset, List.take_length]
  omega

/-- The fields of a row, with a space between two of them. -/
def joined (columns : List Column) (cells : List String) : List Char :=
  [' '].intercalate (fieldsOf columns cells)

theorem length_joined (h : Fits columns cells) :
    (joined columns cells).length = offset columns (min columns.length cells.length) - 1 := by
  rw [offset_eq h (Nat.min_le_right ..), ← length_fieldsOf, List.take_length, joined]
  by_cases hne : fieldsOf columns cells = []
  · rw [hne]
    rfl
  · rw [← length_intercalate ' ' hne, Nat.add_sub_cancel]

theorem eq_space_of_mem_joined (h : Fits columns cells) :
    ∀ c ∈ joined columns cells, isBlank c → c = ' ' := by
  intro c hc hb
  by_cases hne : fieldsOf columns cells = []
  · rw [joined, hne] at hc
    cases hc
  · have hmem : c ∈ (fieldsOf columns cells).flatMap (· ++ [' ']) := by
      rw [← intercalate_append_sep _ hne]
      exact List.mem_append_left _ hc
    obtain ⟨f, hf, hc⟩ := List.mem_flatMap.mp hmem
    rcases List.mem_append.mp hc with hc | hc
    · exact eq_space_of_mem_fieldsOf h f hf c hc hb
    · exact List.mem_singleton.mp hc

/-- Padded on the right, the fields of a row stand one after the other, each with a space after
it. -/
theorem exists_padChars_joined (h : Fits columns cells) {width : Nat}
    (hwidth : offset columns columns.length ≤ width) : ∃ rest,
      Align.left.padChars width (joined columns cells) =
        (fieldsOf columns cells).flatMap (· ++ [' ']) ++ rest := by
  by_cases hne : fieldsOf columns cells = []
  · exact ⟨_, by rw [hne, List.flatMap_nil, List.nil_append]⟩
  · have hlength := length_intercalate ' ' hne
    have hroom : (joined columns cells).length + 1 ≤ width := by
      have hoffset := offset_eq h (Nat.min_le_right columns.length cells.length)
      rw [← length_fieldsOf, List.take_length, ← hlength, length_fieldsOf] at hoffset
      exact hoffset ▸ Nat.le_trans (offset_min_le columns cells.length) hwidth
    have hfill : filler width (joined columns cells) =
        [' '] ++ .replicate (width - (joined columns cells).length - 1) ' ' := by
      rw [filler, List.singleton_append, ← List.replicate_succ]
      congr 1
      omega
    refine ⟨.replicate (width - (joined columns cells).length - 1) ' ', ?_⟩
    rw [Align.padChars, hfill, ← List.append_assoc, joined, intercalate_append_sep _ hne]

/-- **A line of cells that fit** has them in their columns. -/
theorem inColumns_joined (h : Fits columns cells) :
    InColumns columns cells (trimEnd (joined columns cells)) where
  placed {width k column cell} hwidth hcolumn hcell := by
    have hk : k < columns.length ∧ k < cells.length :=
      ⟨(List.getElem?_eq_some_iff.mp hcolumn).1, (List.getElem?_eq_some_iff.mp hcell).1⟩
    have hfield : (fieldsOf columns cells)[k]? =
        some (column.align.padChars column.width cell.toList) := by
      rw [fieldsOf, List.getElem?_zipWith, hcolumn, hcell]
    have hroom : (joined columns cells).length ≤ width := by
      rw [length_joined h]
      exact Nat.le_trans (Nat.sub_le _ 1) (Nat.le_trans (offset_min_le columns cells.length) hwidth)
    obtain ⟨rest, hrest⟩ := exists_padChars_joined h hwidth
    rw [padChars_trimEnd (eq_space_of_mem_joined h) hroom, hrest, offset_eq h (Nat.le_of_lt hk.2)]
    exact prefix_drop_flatMap hfield rest
  ends := by
    obtain ⟨blanks, heq, -⟩ := exists_trimEnd_append (joined columns cells)
    rw [← length_joined h]
    conv_rhs => rw [heq, List.length_append]
    exact Nat.le_add_right ..
  bare c hc := by
    obtain ⟨hne, rfl⟩ := List.mem_getLast?_eq_getLast hc
    exact isBlank_getLast_trimEnd hne

/-! ### Which tables have a text -/

section MapM

variable {α β : Type} {f : α → Option β} {P : α → Prop} {g : α → β} {xs : List α} {ys : List β}

/-- Values may be taken together or one by one. -/
theorem mapM_eq_some_iff : xs.mapM f = some ys ↔ List.Forall₂ (fun x y => f x = some y) xs ys := by
  induction xs generalizing ys with
  | nil => cases ys <;> simp
  | cons x xs ih =>
    simp only [List.mapM_cons, Option.bind_eq_bind, Option.bind_eq_some_iff, ih, Option.pure_def,
      Option.some.injEq, List.forall₂_cons_left_iff]
    constructor
    · rintro ⟨y, hy, ys, hys, rfl⟩
      exact ⟨y, ys, hy, hys, rfl⟩
    · rintro ⟨y, ys, hy, hys, rfl⟩
      exact ⟨y, hy, ys, hys, rfl⟩

theorem forall₂_and_eq_iff :
    List.Forall₂ (fun x y => P x ∧ g x = y) xs ys ↔ (∀ x ∈ xs, P x) ∧ ys = xs.map g := by
  induction xs generalizing ys with
  | nil => simp
  | cons x xs ih =>
    rw [List.forall₂_cons_left_iff, List.forall_mem_cons, List.map_cons]
    simp only [ih]
    constructor
    · rintro ⟨_, _, ⟨hx, rfl⟩, ⟨hxs, rfl⟩, rfl⟩
      exact ⟨⟨hx, hxs⟩, rfl⟩
    · rintro ⟨⟨hx, hxs⟩, rfl⟩
      exact ⟨_, _, ⟨hx, rfl⟩, ⟨hxs, rfl⟩, rfl⟩

end MapM

theorem pad?_eq_some_iff {align : Align} {width : Nat} {s field : String} :
    align.pad? width s = some field ↔ width ≤ widthMax ∧ align.pad width s = field := by
  rw [Align.pad?]
  split <;> simp [*]

/-- A row has fields if none of them is too wide. -/
theorem fields?_eq_some_iff {fields : List String} : fields? columns cells = some fields ↔
    (∀ p ∈ columns.zip cells, p.1.width ≤ widthMax) ∧
      fields = (fieldsOf columns cells).map .ofList := by
  have hfields : (fieldsOf columns cells).map .ofList =
      (columns.zip cells).map fun p => p.1.align.pad p.1.width p.2 := by
    rw [fieldsOf, List.map_zipWith, List.zip, List.map_zipWith]
    rfl
  rw [fields?, mapM_eq_some_iff, hfields, ← forall₂_and_eq_iff]
  simp only [pad?_eq_some_iff]

/-- The line of a row: its fields with a space between two of them, less the blanks at the end. -/
def lineOf (columns : List Column) (cells : List String) : String :=
  .ofList (trimEnd (joined columns cells))

theorem textRow?_eq_some_iff : textRow? columns cells = some line ↔
    (∀ p ∈ columns.zip cells, p.1.width ≤ widthMax) ∧ lineOf columns cells = line := by
  have hline : trimBlankEnd (" ".intercalate ((fieldsOf columns cells).map .ofList)) =
      lineOf columns cells := by
    rw [trimBlankEnd, String.toList_intercalate, List.map_map, lineOf, joined]
    simp [Function.comp_def]
  simp only [textRow?, Option.map_eq_some_iff, fields?_eq_some_iff]
  constructor
  · rintro ⟨_, ⟨hwidth, rfl⟩, rfl⟩
    exact ⟨hwidth, hline.symm⟩
  · rintro ⟨hwidth, rfl⟩
    exact ⟨_, ⟨hwidth, rfl⟩, hline⟩

/-- The headers have a field in every column. -/
theorem forall_mem_zip_headers (columns : List Column) :
    (∀ p ∈ columns.zip (columns.map Column.header), p.1.width ≤ widthMax) ↔
      ∀ column ∈ columns, column.width ≤ widthMax := by
  rw [← List.map_prod_left_eq_zip, List.forall_mem_map]

/-- **The text of a table** is the title, an empty line, and the lines of the headers and the rows.
It exists if no column is too wide. -/
theorem toText?_eq_some_iff : t.toText? = some text ↔
    (∀ column ∈ t.columns, column.width ≤ widthMax) ∧
      lines (t.title :: "" :: lineOf t.columns (t.columns.map Column.header)
        :: t.rows.map (lineOf t.columns)) = text := by
  simp only [toText?, textLines?, Option.map_eq_some_iff, Option.bind_eq_bind,
    Option.bind_eq_some_iff, mapM_eq_some_iff, Option.pure_def, Option.some.injEq,
    textRow?_eq_some_iff, forall₂_and_eq_iff, forall_mem_zip_headers]
  constructor
  · rintro ⟨_, ⟨_, ⟨hwidth, rfl⟩, _, ⟨-, rfl⟩, rfl⟩, rfl⟩
    exact ⟨hwidth, rfl⟩
  · rintro ⟨hwidth, rfl⟩
    exact ⟨_, ⟨_, ⟨hwidth, rfl⟩, _, ⟨fun cells _ p hp => hwidth p.1 (List.of_mem_zip hp).1, rfl⟩,
      rfl⟩, rfl⟩

/-- **A table has a text** exactly if none of its columns is too wide. -/
theorem isSome_toText?_iff :
    t.toText?.isSome ↔ ∀ column ∈ t.columns, column.width ≤ widthMax := by
  simp only [Option.isSome_iff_exists, toText?_eq_some_iff, exists_and_left, exists_eq', and_true]

/-! ### Whole tables -/

/-- **A text with the lines of a table**: the title, an empty line, a line for the headers and one
for each row, each closed by a newline, with the headers and the cells in their columns. -/
def LaidOut (t : Table) (text : String) : Prop :=
  ∃ header rows, text.toList.splitOn '\n' = t.title.toList :: [] :: header :: rows ++ [[]] ∧
    InColumns t.columns (t.columns.map Column.header) header ∧
    List.Forall₂ (InColumns t.columns) t.rows rows

/-- A line of cells that fit has no newline in it. -/
theorem newline_notMem_lineOf (h : Fits columns cells) : '\n' ∉ (lineOf columns cells).toList := by
  rw [lineOf, String.toList_ofList]
  intro hmem
  obtain ⟨blanks, heq, -⟩ := exists_trimEnd_append (joined columns cells)
  have hjoined : '\n' ∈ joined columns cells := heq ▸ List.mem_append_left blanks hmem
  exact absurd (eq_space_of_mem_joined h _ hjoined (by decide)) (by decide)

/-- **A table of cells that fit**: it has a text exactly if none of its columns is too wide, and its
text has the headers and the cells in their columns. -/
theorem toText?_laidOut (t : Table) (htitle : '\n' ∉ t.title.toList)
    (hheaders : Fits t.columns (t.columns.map Column.header))
    (hrows : ∀ cells ∈ t.rows, Fits t.columns cells) :
    (t.toText?.isSome ↔ ∀ column ∈ t.columns, column.width ≤ widthMax) ∧
      ∀ text, t.toText? = some text → t.LaidOut text := by
  refine ⟨isSome_toText?_iff, fun text htext => ?_⟩
  obtain ⟨-, rfl⟩ := toText?_eq_some_iff.mp htext
  refine ⟨_, t.rows.map fun cells => trimEnd (joined t.columns cells), ?_,
    inColumns_joined hheaders, ?_⟩
  · rw [splitOn_lines]
    · simp [lineOf]
    · simp only [List.forall_mem_cons, List.forall_mem_map]
      exact ⟨htitle, by simp, newline_notMem_lineOf hheaders,
        fun cells hcells => newline_notMem_lineOf (hrows cells hcells)⟩
  · rw [List.forall₂_map_right_iff, List.forall₂_same]
    exact fun cells hcells => inColumns_joined (hrows cells hcells)

/-- A table in which the last row is ragged, another has a cell too many, with a newline in it, and
headers and cells end in spaces. -/
def ragged : Table where
  title := "ERA "
  columns := [⟨"Pitcher ", 9, .left⟩, ⟨"IP", 5, .right⟩, ⟨"", 2, .left⟩]
  rows := [["Søren", "12.1", "* "], ["松井 ", "0.2", "", "no\ncolumn"], ["Lee"], []]

theorem toText?_laidOut_ragged :
    ('\n' ∉ ragged.title.toList ∧ Fits ragged.columns (ragged.columns.map Column.header) ∧
      ∀ cells ∈ ragged.rows, Fits ragged.columns cells) ∧
    ∃ text, ragged.toText? = some text ∧ ragged.LaidOut text := by
  have htitle : '\n' ∉ ragged.title.toList := by decide +kernel
  have hheaders : Fits ragged.columns (ragged.columns.map Column.header) := by decide +kernel
  have hrows : ∀ cells ∈ ragged.rows, Fits ragged.columns cells := by decide +kernel
  obtain ⟨hsome, hlaid⟩ := toText?_laidOut ragged htitle hheaders hrows
  obtain ⟨text, htext⟩ := Option.isSome_iff_exists.mp (hsome.mpr (by decide))
  exact ⟨⟨htitle, hheaders, hrows⟩, text, htext, hlaid text htext⟩

/-- A table with one column, which is wider than a field can be. -/
def tooWide : Table where
  title := "t"
  columns := [⟨"a", 65536, .left⟩]

/-- The header fits its column, and the table has no text. -/
theorem no_text_tooWide :
    ('\n' ∉ tooWide.title.toList ∧ Fits tooWide.columns (tooWide.columns.map Column.header) ∧
      ∀ cells ∈ tooWide.rows, Fits tooWide.columns cells) ∧
    ¬∃ text, tooWide.toText? = some text ∧ tooWide.LaidOut text := by
  refine ⟨by decide +kernel, ?_⟩
  rintro ⟨text, htext, -⟩
  have hwidth := isSome_toText?_iff.mp (Option.isSome_of_eq_some htext)
  exact absurd (hwidth _ List.mem_cons_self) (by decide)

end Table

end Baseball
