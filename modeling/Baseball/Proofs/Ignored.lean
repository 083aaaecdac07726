import Baseball.Proofs.Deciding

/-!
# Columns that are ignored

What a column that is ignored has in its cells should not matter to a report, the context that is
shown with a row aside. It does not where the column stands on its own: it is not compared then. But
a group takes its columns without asking whether one of them is ignored. So a report depends on an
ignored column exactly if some group lists it, and exactly what stands under the names of these
groups does.

The statement is about two comparisons: of two tables, and of the same tables with anything written
into the cells of the column.

## Main definitions

* `CsvTable.ChangedIn` — a table with something else in the cells of one column
* `CompareReport.cells`, `cellsUnder` — the blocks of a report without the context, and one of them
* `ColumnRoles.BlindTo` — what is looked at in a report does not depend on a column

## Main results

* `ColumnRoles.foundUnder_allFound_of_alike` — what is found under a name in rows that are alike
* `ColumnRoles.blindTo_iff` — what depends on a column that is ignored
-/

namespace Baseball

open CsvTable

/-! ### Changing a column -/

namespace CsvTable

variable {header row : List String} {column other v : String}

/-- A table with something else in some cells of one column. -/
structure ChangedIn (column : String) (t t' : CsvTable) : Prop where
  header : t'.header = t.header
  rows : List.Forall₂ (fun row row' => ∃ v, row' = row.set (t.header.idxOf column) v) t.rows t'.rows

/-- Two rows that have the same values in all columns but one. -/
def Alike (header : List String) (column : String) (row row' : List String) : Prop :=
  ∀ other ≠ column, value header row' other = value header row other

theorem value_of_notMem (h : column ∉ header) : value header row column = "" := by
  have hnone : (header.zip row).lookup column = none := by
    refine List.lookup_eq_none_iff.mpr fun e he => ?_
    have hmem := (List.of_mem_zip he).1
    simp only [bne_iff_ne, ne_eq]
    rintro rfl
    exact h hmem
  rw [value, hnone]
  rfl

theorem value_eq_cell (h : column ∈ header) :
    value header row column = cell row (header.idxOf column) :=
  (Layout.cell_of_place (Layout.place?_of_mem h)).symm

/-- Writing into a cell changes no other column. -/
theorem alike_set (header row : List String) (column v : String) :
    Alike header column row (row.set (header.idxOf column) v) := by
  intro other hne
  by_cases hother : other ∈ header
  · have hplace : header.idxOf column ≠ header.idxOf other := fun hsame =>
      hne ((List.idxOf_inj hother).mp hsame.symm)
    rw [value_eq_cell hother, value_eq_cell hother, cell, List.getElem?_set_ne hplace, cell]
  · rw [value_of_notMem hother, value_of_notMem hother]

end CsvTable

/-! ### Comparisons that do not see a column -/

namespace ColumnRoles

variable {roles : ColumnRoles} {header l l' r r' : List String} {c column name : String}
  {rows rows' : List (List String × List String)}

/-- A comparison finds the same in rows that are alike. -/
structure Comparison.Overlooks (d : Comparison) (header : List String) (c : String) : Prop where
  differs : ∀ {l l' r r'}, Alike header c l l' → Alike header c r r' →
    d.differs l' r' = d.differs l r
  shown : ∀ {l l'}, Alike header c l l' → d.shown l' = d.shown l

theorem overlooks_ofColumn (hne : column ≠ c)
    (hcondition : ∀ rule ∈ roles.ignoredUnless, rule.condition ≠ c) :
    (roles.ofColumn header column).Overlooks header c where
  differs {l l' r r'} hl hr := by
    have hexcused : roles.Excused header l' r' column ↔ roles.Excused header l r column := by
      refine exists_congr fun rule => and_congr_right fun hrule => ?_
      rw [hl _ (hcondition rule hrule), hr _ (hcondition rule hrule)]
    rw [ofColumn, decide_eq_decide, ColumnDiffers, ColumnDiffers, hexcused, hl _ hne, hr _ hne]
  shown hl := hl _ hne

theorem valuesIn_of_alike {g : MultisetGroup} (hg : c ∉ g.columns) (hl : Alike header c l l') :
    g.valuesIn header l' = g.valuesIn header l := by
  refine List.map_congr_left fun column hcolumn => hl column ?_
  rintro rfl
  exact hg (List.mem_of_mem_filter hcolumn)

theorem overlooks_ofGroup {g : MultisetGroup} (hg : c ∉ g.columns) :
    (ofGroup header g).Overlooks header c where
  differs hl hr := by
    rw [ofGroup, decide_eq_decide, MultisetGroup.Differs, MultisetGroup.Differs,
      valuesIn_of_alike hg hl, valuesIn_of_alike hg hr]
  shown hl := congrArg (",".intercalate ·) (valuesIn_of_alike hg hl)

/-- **What overlooks an ignored column**: every comparison but those of the groups that list it. -/
theorem overlooks_of_mem (hignored : c ∈ roles.ignored)
    (hcondition : ∀ rule ∈ roles.ignoredUnless, rule.condition ≠ c)
    (hgroups : ∀ g ∈ roles.multisets, g.name = name → c ∉ g.columns) :
    ∀ d ∈ roles.comparisons header, d.name = name → d.Overlooks header c := by
  refine forall_mem_comparisons.mpr ⟨fun column hcolumn _ => ?_, fun g hg hname => ?_⟩
  · refine overlooks_ofColumn ?_ hcondition
    rintro rfl
    exact hcolumn.2.1 hignored
  · exact overlooks_ofGroup (hgroups g hg hname)

end ColumnRoles

/-! ### Reports without context -/

namespace Keyed

/-- Looking up in entries whose values were changed. -/
theorem lookup_map {κ ν μ : Type} [Ord κ] (f : ν → μ) (k : κ) (l : List (κ × ν)) :
    lookup k (l.map fun e => (e.1, f e.2)) = (lookup k l).map f := by
  induction l with
  | nil => rfl
  | cons e l ih =>
    rw [List.map_cons, lookup, lookup, ih]
    split <;> rfl

end Keyed

/-- What is reported of a row, the context aside. -/
def RowDifference.cells (d : RowDifference) : Nat × String × String := (d.row, d.left, d.right)

namespace CompareReport

/-- The blocks of a report without the context of their rows. -/
def cells (r : CompareReport) : List (String × List (Nat × String × String)) :=
  r.blocks.map fun b => (b.column, b.rows.map RowDifference.cells)

/-- What is reported under a name, without context. -/
def cellsUnder (r : CompareReport) (name : String) : List (Nat × String × String) :=
  (r.block? name).elim [] fun b => b.rows.map RowDifference.cells

theorem cellsUnder_of_cells_eq_nil {r : CompareReport} (h : r.cells = []) (name : String) :
    r.cellsUnder name = [] := by
  rw [cellsUnder, block?, List.map_eq_nil_iff.mp h]
  rfl

end CompareReport

namespace ColumnRoles

variable {roles : ColumnRoles} {header : List String} {c name : String}
  {rows rows' : List (List String × List String)}

/-- Lists that agree place by place give the same if they are gone through with the places. -/
theorem flatMap_zipIdx_of_forall₂ {α β : Type} {R : α → α → Prop} {f : α × Nat → List β}
    {l l' : List α} (h : List.Forall₂ R l l') (hf : ∀ a a' n, R a a' → f (a', n) = f (a, n))
    (n : Nat) : (l'.zipIdx n).flatMap f = (l.zipIdx n).flatMap f := by
  induction h generalizing n with
  | nil => rfl
  | cons ha _ ih =>
    rw [List.zipIdx_cons, List.zipIdx_cons, List.flatMap_cons, List.flatMap_cons, hf _ _ n ha, ih]

/-- Pairs of rows that are alike. -/
def PairsAlike (header : List String) (c : String) (x x' : List String × List String) : Prop :=
  Alike header c x.1 x'.1 ∧ Alike header c x.2 x'.2

/-- **What is found under a name** does not depend on a column that the comparisons of this name
overlook. -/
theorem foundUnder_allFound_of_alike
    (hoverlooks : ∀ d ∈ roles.comparisons header, d.name = name → d.Overlooks header c)
    (hrows : List.Forall₂ (PairsAlike header c) rows rows') :
    (foundUnder (roles.allFound header rows') name).map RowDifference.cells =
      (foundUnder (roles.allFound header rows) name).map RowDifference.cells := by
  rw [foundUnder_allFound, foundUnder_allFound, List.map_flatMap, List.map_flatMap]
  refine flatMap_zipIdx_of_forall₂ hrows (fun x x' n hx => ?_) 0
  have hnamed : ∀ d ∈ (roles.comparisons header).filter (·.name = name), d.Overlooks header c := by
    intro d hd
    obtain ⟨hmem, hname⟩ := List.mem_filter.mp hd
    exact hoverlooks d hmem (of_decide_eq_true hname)
  have hsame : ((roles.comparisons header).filter (·.name = name)).filter (·.differs x'.1 x'.2) =
      ((roles.comparisons header).filter (·.name = name)).filter (·.differs x.1 x.2) :=
    List.filter_congr fun d hd => (hnamed d hd).differs hx.1 hx.2
  rw [hsame, List.map_map, List.map_map]
  refine List.map_congr_left fun d hd => ?_
  have hd := hnamed d (List.mem_of_mem_filter hd)
  simp only [Function.comp_apply, found, RowDifference.cells, hd.shown hx.1, hd.shown hx.2]

theorem cellsUnder_eq {report : CompareReport} {ds : List (String × RowDifference)}
    (h : report.blocks = blocksOf ds) (name : String) :
    report.cellsUnder name = (foundUnder ds name).map RowDifference.cells :=
  CompareReport.elim_block? List.map_nil h name

/-- A report shows what was found under each of its names. -/
theorem lookup_entries_collect (ds : List (String × RowDifference)) (name : String) :
    Keyed.lookup name ((collect ds).entries.map fun e => (e.1, e.2.map RowDifference.cells)) =
      if (foundUnder ds name).map RowDifference.cells = [] then none
      else some ((foundUnder ds name).map RowDifference.cells) := by
  have hlookup : Keyed.lookup name (collect ds).entries = (collect ds).get? name := rfl
  rw [Keyed.lookup_map, hlookup, get?_collect]
  simp only [List.map_eq_nil_iff]
  split <;> rfl

/-- **Reports in which the same is found under each name** have the same blocks. -/
theorem cells_eq_of_foundUnder {report report' : CompareReport}
    {ds ds' : List (String × RowDifference)} (hds : report.blocks = blocksOf ds)
    (hds' : report'.blocks = blocksOf ds')
    (h : ∀ name, (foundUnder ds' name).map RowDifference.cells =
      (foundUnder ds name).map RowDifference.cells) : report'.cells = report.cells := by
  have hascending (ds : List (String × RowDifference)) :
      (((collect ds).entries.map fun e => (e.1, e.2.map RowDifference.cells)).map
        Prod.fst).Pairwise Before := by
    rw [List.map_map]
    exact (collect ds).ascending
  rw [CompareReport.cells, CompareReport.cells, hds, hds', blocksOf, blocksOf, List.map_map,
    List.map_map]
  refine Keyed.eq_of_lookup_eq (hascending ds') (hascending ds) fun name => ?_
  calc
    _ = _ := lookup_entries_collect ds' name
    _ = _ := by rw [h name]
    _ = _ := (lookup_entries_collect ds name).symm

end ColumnRoles

/-! ### What depends on an ignored column -/

namespace ColumnRoles

variable {roles : ColumnRoles} {header row : List String} {c name : String}

/-- **What is looked at in a report does not depend on a column**: two tables of one shape are
compared with the same outcome whatever is written into the cells of the column, in either table. -/
def BlindTo {α : Type} (roles : ColumnRoles) (header : List String) (c : String)
    (look : CompareReport → α) : Prop :=
  ∀ left right left' right' : CsvTable, left.header = header → right.header = header →
    left.rows.length = right.rows.length → left.ChangedIn c left' → right.ChangedIn c right' →
    ∃ report report', compare roles left right = .ok report ∧
      compare roles left' right' = .ok report' ∧ look report' = look report

theorem pairsAlike_zip {left right left' right' : List (List String)}
    (hl : List.Forall₂ (Alike header c) left left')
    (hr : List.Forall₂ (Alike header c) right right') :
    List.Forall₂ (PairsAlike header c) (left.zip right) (left'.zip right') := by
  induction hl generalizing right right' with
  | nil => exact .nil
  | cons ha _ ih =>
    cases hr with
    | nil => exact .nil
    | cons hb hr => exact .cons ⟨ha, hb⟩ (ih hr)

/-- The two comparisons of a table and of what it was changed to. -/
theorem exists_reports {left right left' right' : CsvTable} (hnames : header.Nodup)
    (hleft : left.header = header) (hright : right.header = header)
    (hlength : left.rows.length = right.rows.length) (hl : left.ChangedIn c left')
    (hr : right.ChangedIn c right') :
    ∃ report report' rows rows', compare roles left right = .ok report ∧
      compare roles left' right' = .ok report' ∧
      report.blocks = blocksOf ((roles.decided header).allFound header rows) ∧
      report'.blocks = blocksOf ((roles.decided header).allFound header rows') ∧
      List.Forall₂ (PairsAlike header c) rows rows' := by
  have halike {t t' : CsvTable} (ht : t.header = header) (h : t.ChangedIn c t') :
      List.Forall₂ (Alike header c) t.rows t'.rows := by
    refine h.rows.imp fun row row' hrow => ?_
    obtain ⟨v, rfl⟩ := hrow
    rw [ht]
    exact alike_set header row c v
  have hheader' : left'.header = right'.header := by rw [hl.header, hr.header, hleft, hright]
  have hlength' : left'.rows.length = right'.rows.length := by
    rw [← hl.rows.length_eq, ← hr.rows.length_eq, hlength]
  subst hleft
  refine ⟨_, _, _, _, compare_eq_ok hright.symm hlength, compare_eq_ok hheader' hlength',
    blocks_compareRows_decided hnames left.rows right.rows, ?_,
    pairsAlike_zip (halike rfl hl) (halike hright hr)⟩
  rw [hl.header]
  exact blocks_compareRows_decided hnames left'.rows right'.rows

theorem decided_condition_ne (hcondition : ∀ rule ∈ roles.ignoredUnless, rule.condition ≠ c) :
    ∀ rule ∈ (roles.decided header).ignoredUnless, rule.condition ≠ c := by
  intro rule hrule
  obtain ⟨column, -, hlast⟩ := List.mem_filterMap.mp hrule
  exact hcondition rule (of_deciding? hlast).1

/-- What is found under a name for which no group lists the column. -/
theorem foundUnder_decided {rows rows' : List (List String × List String)}
    (hignored : c ∈ roles.ignored) (hcondition : ∀ rule ∈ roles.ignoredUnless, rule.condition ≠ c)
    (hgroups : ∀ g ∈ roles.multisets, g.name = name → c ∉ g.columns)
    (hrows : List.Forall₂ (PairsAlike header c) rows rows') :
    (foundUnder ((roles.decided header).allFound header rows') name).map RowDifference.cells =
      (foundUnder ((roles.decided header).allFound header rows) name).map RowDifference.cells := by
  refine foundUnder_allFound_of_alike ?_ hrows
  exact overlooks_of_mem hignored (decided_condition_ne hcondition) hgroups

/-! ### Groups that list it -/

/-- Rows that are the same differ in nothing. -/
theorem not_differs_self (row : List String) :
    ∀ d ∈ roles.comparisons header, d.differs row row = false := by
  refine forall_mem_comparisons.mpr ⟨fun column _ => ?_, fun g _ => ?_⟩
  · exact decide_eq_false fun hdiffers => hdiffers.1 rfl
  · exact decide_eq_false fun hdiffers => hdiffers (List.Perm.refl _)

/-- A row without values, and the same row with a value in one column. -/
def emptyRow (header : List String) : List String := List.replicate header.length ""

def markedRow (header : List String) (c : String) : List String :=
  (emptyRow header).set (header.idxOf c) "1"

theorem value_emptyRow (column : String) : value header (emptyRow header) column = "" := by
  by_cases hcolumn : column ∈ header
  · rw [value_eq_cell hcolumn, cell, emptyRow, List.getElem?_replicate]
    split <;> decide +kernel
  · exact value_of_notMem hcolumn

theorem value_markedRow (hc : c ∈ header) : value header (markedRow header c) c = "1" := by
  have hlt : header.idxOf c < (emptyRow header).length := by
    rw [emptyRow, List.length_replicate]
    exact List.idxOf_lt_length_iff.mpr hc
  rw [value_eq_cell hc, cell, markedRow, List.getElem?_set_self hlt]
  decide +kernel

/-- A group sees what is written into a column that it lists. -/
theorem differs_markedRow (hc : c ∈ header) {g : MultisetGroup} (hg : c ∈ g.columns) :
    g.Differs header (markedRow header c) (emptyRow header) := by
  intro hperm
  have hmarked : "1" ∈ (g.valuesIn header (markedRow header c)).filter
      fun v => v ≠ "" ∧ v ≠ "0" := by
    refine List.mem_filter.mpr ⟨?_, by decide⟩
    rw [← value_markedRow hc]
    exact List.mem_map_of_mem (List.mem_filter.mpr ⟨hg, decide_eq_true hc⟩)
  obtain ⟨hempty, -⟩ := List.mem_filter.mp (hperm.mem_iff.mp hmarked)
  obtain ⟨column, -, hvalue⟩ := List.mem_map.mp hempty
  rw [value_emptyRow] at hvalue
  exact absurd hvalue (by decide)

/-- Nothing need be written into a column. -/
theorem changedIn_emptyRow (header : List String) (c : String) :
    (CsvTable.mk header [emptyRow header]).ChangedIn c ⟨header, [emptyRow header]⟩ where
  header := rfl
  rows := .cons ⟨"", (List.set_replicate_self ..).symm⟩ .nil

theorem changedIn_markedRow (header : List String) (c : String) :
    (CsvTable.mk header [emptyRow header]).ChangedIn c ⟨header, [markedRow header c]⟩ where
  header := rfl
  rows := .cons ⟨"1", rfl⟩ .nil

/-- **Two tables of empty rows** do not differ. -/
theorem blocks_emptyRow (hnames : header.Nodup) :
    (compareRows roles header [emptyRow header] [emptyRow header]).blocks = [] := by
  rw [blocks_compareRows_decided hnames, blocksOf_eq_nil_iff, allFound_eq_nil_iff]
  intro x hx d hd
  obtain rfl := List.mem_singleton.mp hx
  simp [not_differs_self _ d hd]

/-- **A value in a column that a group lists** is reported under the name of the group. -/
theorem cellsUnder_markedRow (hnames : header.Nodup) (hc : c ∈ header) {g : MultisetGroup}
    (hg : g ∈ roles.multisets) (hlists : c ∈ g.columns) :
    (compareRows roles header [markedRow header c] [emptyRow header]).cellsUnder g.name ≠ [] := by
  have hgroup : ofGroup header g ∈ (roles.decided header).comparisons header :=
    List.mem_append_right _ (List.mem_map_of_mem hg)
  have hdiffers : (ofGroup header g).differs (markedRow header c) (emptyRow header) = true :=
    decide_eq_true (differs_markedRow hc hlists)
  have hnamed : ofGroup header g ∈ (((roles.decided header).comparisons header).filter
      (·.name = g.name)).filter (·.differs (markedRow header c) (emptyRow header)) :=
    List.mem_filter.mpr ⟨List.mem_filter.mpr ⟨hgroup, decide_eq_true rfl⟩, hdiffers⟩
  have hpair : ((markedRow header c, emptyRow header), 0) ∈
      ([markedRow header c].zip [emptyRow header]).zipIdx := List.mem_singleton_self _
  rw [cellsUnder_eq (blocks_compareRows_decided hnames _ _), foundUnder_allFound]
  exact List.ne_nil_of_mem (List.mem_map_of_mem (List.mem_flatMap.mpr
    ⟨_, hpair, List.mem_map_of_mem hnamed⟩))

/-- **Blind to a column is only who does not look where a group that lists it reports**: under a
name that may be empty in a report without blocks and not in one that looks the same. -/
theorem BlindTo.notMem_columns {α : Type} {look : CompareReport → α}
    (hblind : roles.BlindTo header c look) (hnames : header.Nodup) (hc : c ∈ header)
    (hlook : ∀ r r' : CompareReport, r.blocks = [] → look r' = look r → r'.cellsUnder name = []) :
    ∀ g ∈ roles.multisets, g.name = name → c ∉ g.columns := by
  rintro g hg rfl hlists
  obtain ⟨report, report', hreport, hreport', hsame⟩ := hblind _ _ _ _ rfl rfl rfl
    (changedIn_markedRow header c) (changedIn_emptyRow header c)
  have hcompared (row : List String) :
      CsvTable.compare roles ⟨header, [row]⟩ ⟨header, [emptyRow header]⟩ =
        .ok (compareRows roles header [row] [emptyRow header]) := compare_eq_ok rfl rfl
  obtain rfl := Except.ok.inj ((hcompared _).symm.trans hreport)
  obtain rfl := Except.ok.inj ((hcompared _).symm.trans hreport')
  exact cellsUnder_markedRow hnames hc hg hlists (hlook _ _ (blocks_emptyRow hnames) hsame)

/-- **What depends on a column that is ignored.** If no rule asks whether the column is blank then
the blocks of a report do not depend on it, the context aside, exactly if no group lists it; and what
is reported under one name does not depend on it exactly if no group of this name lists it. -/
theorem blindTo_iff (roles : ColumnRoles) (header : List String) (c : String)
    (hnames : header.Nodup) (hc : c ∈ header) (hignored : c ∈ roles.ignored)
    (hcondition : ∀ rule ∈ roles.ignoredUnless, rule.condition ≠ c) :
    (roles.BlindTo header c CompareReport.cells ↔ ∀ g ∈ roles.multisets, c ∉ g.columns) ∧
      ∀ name, roles.BlindTo header c (·.cellsUnder name) ↔
        ∀ g ∈ roles.multisets, g.name = name → c ∉ g.columns := by
  have hclean {r : CompareReport} (h : r.blocks = []) : r.cells = [] := List.map_eq_nil_iff.mpr h
  constructor
  · constructor
    · intro hblind g hg
      refine hblind.notMem_columns hnames hc (fun r r' hblocks hsame => ?_) g hg rfl
      exact CompareReport.cellsUnder_of_cells_eq_nil (hsame.trans (hclean hblocks)) g.name
    · intro hgroups left right left' right' hleft hright hlength hl hr
      obtain ⟨report, report', rows, rows', hreport, hreport', hblocks, hblocks', hrows⟩ :=
        exists_reports hnames hleft hright hlength hl hr
      refine ⟨report, report', hreport, hreport', cells_eq_of_foundUnder hblocks hblocks' ?_⟩
      intro name
      exact foundUnder_decided hignored hcondition (fun g hg _ => hgroups g hg) hrows
  · intro name
    constructor
    · intro hblind
      refine hblind.notMem_columns hnames hc fun r r' hblocks hsame => ?_
      exact hsame.trans (CompareReport.cellsUnder_of_cells_eq_nil (hclean hblocks) name)
    · intro hgroups left right left' right' hleft hright hlength hl hr
      obtain ⟨report, report', rows, rows', hreport, hreport', hblocks, hblocks', hrows⟩ :=
        exists_reports hnames hleft hright hlength hl hr
      refine ⟨report, report', hreport, hreport', ?_⟩
      calc
        report'.cellsUnder name = _ := cellsUnder_eq hblocks' name
        _ = _ := foundUnder_decided hignored hcondition hgroups hrows
        _ = report.cellsUnder name := (cellsUnder_eq hblocks name).symm

/-- The second putout does not count, but it is one of the putouts. -/
def withoutSecond : ColumnRoles where
  ignored := ["PO2_FLD_CD"]
  ignoredUnless := []
  multisets := [⟨"PO_FLD_CD", ["PO1_FLD_CD", "PO2_FLD_CD"]⟩]
  context := []

/-- What stands under the name of the putouts depends on the second one, and the event does not. -/
theorem blindTo_iff_withoutSecond :
    ¬withoutSecond.BlindTo ["EVENT_CD", "PO1_FLD_CD", "PO2_FLD_CD"] "PO2_FLD_CD"
      (·.cellsUnder "PO_FLD_CD") ∧
    withoutSecond.BlindTo ["EVENT_CD", "PO1_FLD_CD", "PO2_FLD_CD"] "PO2_FLD_CD"
      (·.cellsUnder "EVENT_CD") := by
  obtain ⟨-, hunder⟩ := blindTo_iff withoutSecond ["EVENT_CD", "PO1_FLD_CD", "PO2_FLD_CD"]
    "PO2_FLD_CD" (by decide) (by decide) (by decide) (by decide)
  refine ⟨fun hblind => ?_, (hunder "EVENT_CD").mpr (by decide)⟩
  exact absurd ((hunder "PO_FLD_CD").mp hblind) (by decide)

/-- A play with a putout at first, and perhaps a second one. -/
def ofPutouts (second : String) : CsvTable where
  header := ["EVENT_CD", "PO1_FLD_CD", "PO2_FLD_CD"]
  rows := [["2", "3", second]]

/-- Nothing is reported of a table and itself, and with the second putout written into it there is a
block. -/
theorem ignored_reported_withoutSecond :
    (ofPutouts "").ChangedIn "PO2_FLD_CD" (ofPutouts "6") ∧
    ∃ report report', CsvTable.compare withoutSecond (ofPutouts "") (ofPutouts "") = .ok report ∧
      CsvTable.compare withoutSecond (ofPutouts "6") (ofPutouts "") = .ok report' ∧
      report.cells = [] ∧ report'.cells = [("PO_FLD_CD", [(0, "3,6", "3,")])] :=
  ⟨⟨rfl, .cons ⟨"6", rfl⟩ .nil⟩, _, _, rfl, rfl, by decide +kernel, by decide +kernel⟩

end ColumnRoles

end Baseball
