import Baseball.Proofs.Columns
import Baseball.Proofs.Gathering

/-!
# What a comparison reports

Differences between two tables are found row by row and collected under names. What stands under a
name in the end is whatever was found under it, in the order of the rows. If everything that is
compared has its own name, this is what one comparison has found, and so the report can be read
without the order in which it was made.

## Main definitions

* `foundUnder`, `blocksOf` — what was found under a name, and the blocks of some differences
* `ColumnRoles.allFound` — what is found in some pairs of rows
* `CompareReport.rowsOf` — the rows reported under a name
* `CompareReport.Tells` — what a report says of two tables

## Main results

* `mem_blocksOf_iff` — a block has what was found under its name, and was made if something was
* `ColumnRoles.blocks_compareRows` — the blocks of two tables are those of what is found
* `ColumnRoles.rows_allFound` — what is found under the name of a comparison
* `CsvTable.compare_tells` — comparing two tables of one shape gives a report that tells of them
-/

namespace Baseball

/-! ### Collecting -/

section Collecting

open Keyed

/-- What was found under a name. -/
def foundUnder (ds : List (String × RowDifference)) (name : String) : List RowDifference :=
  (ds.filter (·.1 = name)).map Prod.snd

/-- The blocks of some differences. -/
def blocksOf (ds : List (String × RowDifference)) : List CompareBlock :=
  (collect ds).entries.map fun (column, rows) => { column, rows }

variable {ds : List (String × RowDifference)} {name : String} {b : CompareBlock}

/-- Differences are gathered under their names. -/
theorem collect_eq_gather (ds : List (String × RowDifference)) :
    collect ds = gather (· ++ ·) (ds.map fun d => (d.1, [d.2])) := by
  rw [gather, List.foldl_map, collect]
  refine List.foldl_ext _ _ _ fun t d _ => ?_
  rw [contribute]
  congr 1
  funext old
  cases old <;> rfl

/-- What a name is bound to is what was found under it, if anything was. -/
theorem get?_collect (ds : List (String × RowDifference)) (name : String) :
    (collect ds).get? name =
      if foundUnder ds name = [] then none else some (foundUnder ds name) := by
  rw [collect_eq_gather, get?_gather, List.filter_map, List.map_map, ← joinAll_singletons,
    foundUnder, List.map_map]
  rfl

/-- **A block** has what was found under its name, and it was made if something was. -/
theorem mem_blocksOf_iff : b ∈ blocksOf ds ↔
    b.rows = foundUnder ds b.column ∧ b.rows ≠ [] := by
  have hentry : b ∈ blocksOf ds ↔ (b.column, b.rows) ∈ (collect ds).entries := by
    rw [blocksOf, List.mem_map]
    constructor
    · rintro ⟨e, he, rfl⟩
      exact he
    · exact fun h => ⟨_, h, rfl⟩
  rw [hentry, mem_entries_iff, get?_collect]
  constructor
  · intro h
    split at h
    · cases h
    · next hfound =>
      have hrows := Option.some.inj h
      exact ⟨hrows.symm, fun hnone => hfound (hrows.trans hnone)⟩
  · rintro ⟨hrows, hsome⟩
    rw [← hrows, if_neg hsome]

/-- The names of blocks rise strictly. -/
theorem ascending_blocksOf (ds : List (String × RowDifference)) :
    ((blocksOf ds).map CompareBlock.column).Pairwise Before := by
  rw [blocksOf, List.map_map]
  exact (collect ds).ascending

/-- Nothing that was found is lost, and nothing counted twice. -/
theorem length_rows_blocksOf (ds : List (String × RowDifference)) :
    ((blocksOf ds).flatMap CompareBlock.rows).length = ds.length := by
  have hentries := sum_entries_foldl (w := fun (_ : String) (rows : List RowDifference) =>
    rows.length) (fun _ _ _ => List.length_append) ∅ (ds.map fun d => (d.1, [d.2]))
  rw [List.length_flatMap, blocksOf, List.map_map, collect_eq_gather]
  refine hentries.trans ((zero_add _).trans ?_)
  simp [Function.comp_def]

theorem blocksOf_eq_nil_iff : blocksOf ds = [] ↔ ds = [] := by
  constructor
  · intro h
    have hlength := length_rows_blocksOf ds
    rw [h] at hlength
    exact List.eq_nil_of_length_eq_zero hlength.symm
  · rintro rfl
    rfl

end Collecting

/-! ### Reports -/

namespace CompareReport

/-- The rows that are reported under a name. -/
def rowsOf (r : CompareReport) (name : String) : List Nat :=
  (r.block? name).elim [] fun b => b.rows.map RowDifference.row

variable {r : CompareReport} {ds : List (String × RowDifference)}

/-- What is read off the block of a name is read off what was found under it. -/
theorem elim_block? {α : Type} {f : List RowDifference → List α} (hnil : f [] = [])
    (h : r.blocks = blocksOf ds) (name : String) :
    ((r.block? name).elim [] fun b => f b.rows) = f (foundUnder ds name) := by
  rcases hblock : r.block? name with _ | b
  · -- A block of this name would have been found.
    have hnone : foundUnder ds name = [] := by
      by_contra hsome
      rw [block?, List.find?_eq_none, h] at hblock
      exact hblock ⟨name, foundUnder ds name⟩ (mem_blocksOf_iff.mpr ⟨rfl, hsome⟩)
        (beq_self_eq_true name)
    rw [hnone, hnil]
    rfl
  · have hmem := List.mem_of_find?_eq_some hblock
    have hname : b.column = name := by simpa using List.find?_some hblock
    rw [h, mem_blocksOf_iff, hname] at hmem
    rw [Option.elim_some, hmem.1]

/-- The rows under a name are those in which something was found under it. -/
theorem rowsOf_eq (h : r.blocks = blocksOf ds) (name : String) :
    r.rowsOf name = (foundUnder ds name).map RowDifference.row :=
  elim_block? List.map_nil h name

end CompareReport

namespace ColumnRoles

variable {roles : ColumnRoles} {header : List String} {c : Comparison}

/-- **Everything that is compared has its own name** if the columns and the groups have, and no
group has the name of a column that is compared on its own. -/
theorem nodup_comparisons (hnames : header.Nodup)
    (hgroups : (roles.multisets.map MultisetGroup.name).Nodup)
    (hapart : ∀ g ∈ roles.multisets, ¬roles.Compares header g.name) :
    ((roles.comparisons header).map Comparison.name).Nodup := by
  rw [comparisons, List.map_append, List.map_map, List.map_map, List.nodup_append]
  refine ⟨?_, hgroups, ?_⟩
  · have hown : Comparison.name ∘ roles.ofColumn header = id := rfl
    rw [hown, List.map_id]
    exact hnames.filter _
  · intro name hname name' hname' hsame
    obtain ⟨column, hcolumn, rfl⟩ := List.mem_map.mp hname
    obtain ⟨g, hg, rfl⟩ := List.mem_map.mp hname'
    refine hapart g hg ?_
    rw [show g.name = column from hsame.symm]
    exact of_decide_eq_true (List.mem_filter.mp hcolumn).2

/-- If keys are different, a key stands for one element. -/
theorem filter_key {α β : Type} [DecidableEq β] {key : α → β} {l : List α} {a : α}
    (hnodup : (l.map key).Nodup) (ha : a ∈ l) : l.filter (key · = key a) = [a] := by
  induction l with
  | nil => cases ha
  | cons d l ih =>
    obtain ⟨hd, hl⟩ := List.nodup_cons.mp hnodup
    rcases List.mem_cons.mp ha with rfl | hmem
    · rw [List.filter_cons_of_pos (by simp)]
      refine congrArg _ (List.filter_eq_nil_iff.mpr fun e he hsame => hd ?_)
      rw [← of_decide_eq_true hsame]
      exact List.mem_map_of_mem he
    · have hne : key d ≠ key a := fun hsame => hd (hsame ▸ List.mem_map_of_mem hmem)
      rw [List.filter_cons_of_neg (by simpa using hne), ih hl hmem]

/-! ### Row by row -/

/-- What is found in a pair of rows with its number. -/
def found (roles : ColumnRoles) (header : List String) (x : (List String × List String) × Nat)
    (c : Comparison) : String × RowDifference :=
  (c.name, { row := x.2, context := (Layout.ofRoles roles header).contextText x.1.1
             left := c.shown x.1.1, right := c.shown x.1.2 })

/-- What is found in some pairs of rows. -/
def allFound (roles : ColumnRoles) (header : List String)
    (rows : List (List String × List String)) : List (String × RowDifference) :=
  rows.zipIdx.flatMap fun x =>
    ((roles.comparisons header).filter (·.differs x.1.1 x.1.2)).map (roles.found header x)

variable {rows : List (List String × List String)}

/-- **What two tables are compared by**: the blocks are those of what is found. -/
theorem blocks_compareRows (hnames : header.Nodup)
    (hrules : (roles.ignoredUnless.map ConditionalIgnore.column).Nodup)
    (left right : List (List String)) :
    (CsvTable.compareRows roles header left right).blocks =
      blocksOf (roles.allFound header (left.zip right)) := by
  rw [CsvTable.compareRows, blocksOf, allFound]
  simp only [Layout.rowDifferences_eq hnames hrules]
  rfl

/-- What is found under a name, row by row. -/
theorem foundUnder_allFound (roles : ColumnRoles) (header : List String)
    (rows : List (List String × List String)) (name : String) :
    foundUnder (roles.allFound header rows) name =
      rows.zipIdx.flatMap fun x =>
        (((roles.comparisons header).filter (·.name = name)).filter
          (·.differs x.1.1 x.1.2)).map fun c => (roles.found header x c).2 := by
  rw [foundUnder, allFound, List.filter_flatMap, List.map_flatMap]
  refine List.flatMap_congr fun x _ => ?_
  have hname : ((fun d : String × RowDifference => decide (d.1 = name)) ∘ roles.found header x) =
      fun d => decide (d.name = name) := rfl
  rw [List.filter_map, hname, List.filter_comm, List.map_map]
  rfl

/-- **Under the name of a comparison** the rows are found that differ in it. -/
theorem rows_allFound (hnodup : ((roles.comparisons header).map Comparison.name).Nodup)
    (hc : c ∈ roles.comparisons header) :
    (foundUnder (roles.allFound header rows) c.name).map RowDifference.row =
      rows.findIdxs fun x => c.differs x.1 x.2 := by
  rw [List.findIdxs_eq_filterMap_zipIdx, List.filterMap_eq_flatMap_toList, foundUnder_allFound,
    List.map_flatMap, filter_key hnodup hc]
  refine List.flatMap_congr fun x _ => ?_
  cases h : c.differs x.1.1 x.1.2 <;> simp [h, found]

/-- What is found is counted comparison by comparison. -/
theorem length_allFound (roles : ColumnRoles) (header : List String)
    (rows : List (List String × List String)) :
    (roles.allFound header rows).length =
      ((roles.comparisons header).map fun c => rows.countP fun x => c.differs x.1 x.2).sum := by
  rw [← sum_countP_comm, allFound, List.length_flatMap]
  simp only [List.length_map, ← List.countP_eq_length_filter]
  have hpairs : rows.zipIdx.map Prod.fst = rows := List.zipIdx_map_fst ..
  nth_rewrite 2 [← hpairs]
  rw [List.map_map]
  rfl

theorem allFound_eq_nil_iff : roles.allFound header rows = [] ↔
    ∀ x ∈ rows, ∀ c ∈ roles.comparisons header, ¬c.differs x.1 x.2 := by
  rw [← List.length_eq_zero_iff, length_allFound, List.sum_eq_zero_iff_forall_eq_nat]
  simp only [List.forall_mem_map, List.countP_eq_zero]
  exact forall₂_comm

/-- What is compared is a column on its own or a group. -/
theorem forall_mem_comparisons {P : Comparison → Prop} :
    (∀ c ∈ roles.comparisons header, P c) ↔
      (∀ column, roles.Compares header column → P (roles.ofColumn header column)) ∧
        ∀ g ∈ roles.multisets, P (ofGroup header g) := by
  have hcolumn (column : String) :
      column ∈ header.filter (fun column => roles.Compares header column) ↔
        roles.Compares header column := by
    rw [List.mem_filter, decide_eq_true_iff, and_iff_right_iff_imp]
    exact And.left
  simp only [comparisons, List.forall_mem_append, List.forall_mem_map, hcolumn]

/-- What is found stands under the name of a column or of a group. -/
theorem named_of_mem_allFound {d : String × RowDifference} (hd : d ∈ roles.allFound header rows) :
    roles.Compares header d.1 ∨ ∃ g ∈ roles.multisets, g.name = d.1 := by
  have hnamed : ∀ c ∈ roles.comparisons header,
      roles.Compares header c.name ∨ ∃ g ∈ roles.multisets, g.name = c.name :=
    forall_mem_comparisons.mpr ⟨fun _ h => .inl h, fun g hg => .inr ⟨g, hg, rfl⟩⟩
  obtain ⟨x, -, hd⟩ := List.mem_flatMap.mp hd
  obtain ⟨c, hc, rfl⟩ := List.mem_map.mp hd
  exact hnamed c (List.mem_filter.mp hc).1

end ColumnRoles

/-! ### What a report says -/

open ColumnRoles

/-- **A report tells of two tables**, given as pairs of rows: its blocks stand in the order of their
names; under the name of a column that is compared on its own, and of a group, are the rows that
differ in it; there is no other block and no empty one; it is clean if nothing differs; and it
counts every difference. -/
structure CompareReport.Tells (r : CompareReport) (roles : ColumnRoles) (header : List String)
    (rows : List (List String × List String)) : Prop where
  ascending : (r.blocks.map CompareBlock.column).Pairwise Before
  columns : ∀ column, roles.Compares header column →
    r.rowsOf column = rows.findIdxs fun x => roles.ColumnDiffers header x.1 x.2 column
  groups : ∀ g ∈ roles.multisets, r.rowsOf g.name = rows.findIdxs fun x => g.Differs header x.1 x.2
  named : ∀ b ∈ r.blocks, roles.Compares header b.column ∨ ∃ g ∈ roles.multisets, g.name = b.column
  nonempty : ∀ b ∈ r.blocks, b.rows ≠ []
  clean : r.isClean ↔ ∀ x ∈ rows,
    (∀ column, roles.Compares header column → ¬roles.ColumnDiffers header x.1 x.2 column) ∧
    ∀ g ∈ roles.multisets, ¬g.Differs header x.1 x.2
  differences : r.differences =
    ((header.filter fun column => roles.Compares header column).map fun column =>
      rows.countP fun x => roles.ColumnDiffers header x.1 x.2 column).sum +
    (roles.multisets.map fun g => rows.countP fun x => g.Differs header x.1 x.2).sum

namespace CsvTable

variable {roles : ColumnRoles} {header : List String}

/-- What the report on some rows tells. -/
theorem tells_compareRows (hnames : header.Nodup)
    (hrules : (roles.ignoredUnless.map ConditionalIgnore.column).Nodup)
    (hgroups : (roles.multisets.map MultisetGroup.name).Nodup)
    (hapart : ∀ g ∈ roles.multisets, ¬roles.Compares header g.name)
    (left right : List (List String)) :
    (compareRows roles header left right).Tells roles header (left.zip right) := by
  have hblocks := blocks_compareRows hnames hrules left right
  have hnodup := nodup_comparisons hnames hgroups hapart
  obtain ⟨hcolumns, hgrouped⟩ := forall_mem_comparisons.mp fun c hc =>
    (CompareReport.rowsOf_eq hblocks c.name).trans (rows_allFound hnodup hc)
  constructor
  case ascending =>
    rw [hblocks]
    exact ascending_blocksOf _
  case columns => exact hcolumns
  case groups => exact hgrouped
  case named =>
    intro b hb
    rw [hblocks, mem_blocksOf_iff] at hb
    obtain ⟨row, hrow⟩ := List.exists_mem_of_ne_nil _ hb.2
    rw [hb.1] at hrow
    obtain ⟨d, hd, -⟩ := List.mem_map.mp hrow
    obtain ⟨hfound, hname⟩ := List.mem_filter.mp hd
    rw [← of_decide_eq_true hname]
    exact named_of_mem_allFound hfound
  case nonempty =>
    intro b hb
    rw [hblocks, mem_blocksOf_iff] at hb
    exact hb.2
  case clean =>
    rw [CompareReport.isClean, hblocks, List.isEmpty_iff, blocksOf_eq_nil_iff, allFound_eq_nil_iff]
    simp only [forall_mem_comparisons, ofColumn, ofGroup, decide_eq_true_iff]
  case differences =>
    rw [CompareReport.differences, hblocks, length_rows_blocksOf, length_allFound, comparisons,
      List.map_append, List.sum_append, List.map_map, List.map_map]
    rfl

/-- **What comparing two tables reports.** Two tables of one shape are compared, and the report
tells of them, if no two columns have the same name, no two rules are for the same column, no two
groups have the same name, and no group has that of a column which is compared on its own. -/
theorem compare_tells (roles : ColumnRoles) (left right : CsvTable)
    (hheader : left.header = right.header) (hlength : left.rows.length = right.rows.length)
    (hnames : left.header.Nodup)
    (hrules : (roles.ignoredUnless.map ConditionalIgnore.column).Nodup)
    (hgroups : (roles.multisets.map MultisetGroup.name).Nodup)
    (hapart : ∀ g ∈ roles.multisets, ¬roles.Compares left.header g.name) :
    ∃ report, compare roles left right = .ok report ∧
      report.Tells roles left.header (left.rows.zip right.rows) := by
  refine ⟨_, ?_, tells_compareRows hnames hrules hgroups hapart left.rows right.rows⟩
  rw [compare, if_pos hheader, if_pos hlength]

/-- A table of events with runners on first and putouts. -/
def ofEvents (rows : List (List String)) : CsvTable where
  header := ["GAME_ID", "EVENT_CD", "BASE1_RUN_ID", "RUN1_RESP_PIT_ID", "PO1_FLD_CD", "PO2_FLD_CD"]
  rows

/-- In the first row nobody is on first, so the pitcher is excused, and the putouts only come in
another order. In the second row the event differs, the pitcher, and the putouts. -/
theorem compare_tells_ofEvents : ∃ report,
    compare {} (ofEvents [["G1", "3", "", "p1", "3", "6"], ["G1", "20", "r1", "p1", "3", "0"]])
      (ofEvents [["G1", " 3", "", "p2", "6", "3"], ["G1", "21", "r1", "p2", "", "4"]]) =
        .ok report ∧
    report.rowsOf "EVENT_CD" = [1] ∧ report.rowsOf "RUN1_RESP_PIT_ID" = [1] ∧
    report.rowsOf "PO_FLD_CD" = [1] ∧ report.rowsOf "GAME_ID" = [] ∧ report.differences = 3 := by
  obtain ⟨report, hreport, htells⟩ := compare_tells {}
    (ofEvents [["G1", "3", "", "p1", "3", "6"], ["G1", "20", "r1", "p1", "3", "0"]])
    (ofEvents [["G1", " 3", "", "p2", "6", "3"], ["G1", "21", "r1", "p2", "", "4"]]) rfl rfl
    (by decide +kernel) (by decide +kernel) (by decide +kernel) (by decide +kernel)
  refine ⟨report, hreport, ?_, ?_, ?_, ?_, ?_⟩
  · exact (htells.columns "EVENT_CD" (by decide +kernel)).trans (by decide +kernel)
  · exact (htells.columns "RUN1_RESP_PIT_ID" (by decide +kernel)).trans (by decide +kernel)
  · exact (htells.groups _ List.mem_cons_self).trans (by decide +kernel)
  · exact (htells.columns "GAME_ID" (by decide +kernel)).trans (by decide +kernel)
  · exact htells.differences.trans (by decide +kernel)

end CsvTable

end Baseball
