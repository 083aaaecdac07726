import Baseball.Proofs.Comparison

/-!
# Which of several rules decides

A rule leaves a column out where another one is blank. There may be several rules for one column,
and then one of them decides alone: of those that name a column which is there, the last. If its
column is blank the difference is left out, whatever the others say, and if it is not then no other
rule excuses it. So a comparison is the one that is made with the deciding rules only, and of these
no two are for the same column.

## Main definitions

* `ColumnRoles.deciding?`, `ColumnRoles.decided` — the rule that decides about a column, and the
  roles with deciding rules only
* `ColumnRoles.Overruled` — a column whose deciding rule does not excuse it
* `CompareReport.entriesAt` — what is reported under a name of one pair of rows

## Main results

* `Layout.excuse?_eq` — a layout has found the deciding rules
* `CsvTable.compareRows_decided` — the other rules might as well not be there
* `CsvTable.compare_entriesAt` — when a difference in a column is left out
-/

namespace Baseball

open CsvTable

namespace ColumnRoles

variable (roles : ColumnRoles) (header left right : List String) (column : String)

/-- **The rule that decides about a column**: of the rules for it that name a column which is there,
the last. -/
def deciding? : Option ConditionalIgnore :=
  (roles.ignoredUnless.filter fun rule =>
    rule.column = column ∧ rule.condition ∈ header).getLast?

/-- The same roles with the rules that decide about some column. -/
def decided : ColumnRoles :=
  { roles with ignoredUnless := header.filterMap (roles.deciding? header) }

/-- The deciding rule does not excuse the column in two rows. -/
def Overruled : Prop :=
  ∃ rule ∈ roles.deciding? header column,
    ¬(value header left rule.condition = "" ∧ value header right rule.condition = "")

instance : Decidable (roles.Overruled header left right column) :=
  inferInstanceAs (Decidable (∃ rule ∈ roles.deciding? header column, _))

variable {roles header left right column}

/-! ### The deciding rule -/

theorem of_deciding? {rule : ConditionalIgnore} (h : roles.deciding? header column = some rule) :
    rule ∈ roles.ignoredUnless ∧ rule.column = column ∧ rule.condition ∈ header := by
  simpa using List.mem_filter.mp (List.mem_of_getLast? h)

/-- If there is a rule then one decides. -/
theorem exists_deciding? {rule : ConditionalIgnore} (hrule : rule ∈ roles.ignoredUnless)
    (hcolumn : rule.column = column) (hcondition : rule.condition ∈ header) :
    ∃ rule, roles.deciding? header column = some rule := by
  have hmem : rule ∈ roles.ignoredUnless.filter fun rule =>
      rule.column = column ∧ rule.condition ∈ header :=
    List.mem_filter.mpr ⟨hrule, decide_eq_true ⟨hcolumn, hcondition⟩⟩
  exact Option.isSome_iff_exists.mp (List.getLast?_isSome.mpr (List.ne_nil_of_mem hmem))

/-- **The deciding rule excuses a column** if some rule does and it is not overruled. -/
theorem excused_and_not_overruled_iff :
    roles.Excused header left right column ∧ ¬roles.Overruled header left right column ↔
      ∃ rule ∈ roles.deciding? header column,
        value header left rule.condition = "" ∧ value header right rule.condition = "" := by
  constructor
  · rintro ⟨⟨rule, hrule, hcolumn, hcondition, -⟩, hnot⟩
    obtain ⟨last, hlast⟩ := exists_deciding? hrule hcolumn hcondition
    exact ⟨last, hlast, by_contra fun hfull => hnot ⟨last, hlast, hfull⟩⟩
  · rintro ⟨rule, hlast, hblank⟩
    obtain ⟨hrule, hcolumn, hcondition⟩ := of_deciding? hlast
    refine ⟨⟨rule, hrule, hcolumn, hcondition, hblank⟩, ?_⟩
    rintro ⟨rule', hlast', hfull⟩
    obtain rfl := Option.some.inj (hlast.symm.trans hlast')
    exact hfull hblank

/-! ### Deciding rules only -/

/-- No two deciding rules are for the same column. -/
theorem nodup_decided (hnames : header.Nodup) :
    ((roles.decided header).ignoredUnless.map ConditionalIgnore.column).Nodup := by
  rw [decided, List.map_filterMap]
  refine hnames.filterMap fun a b column ha hb => ?_
  have hof (c : String) (h : column ∈ (roles.deciding? header c).map ConditionalIgnore.column) :
      column = c := by
    obtain ⟨rule, hrule, rfl⟩ := Option.map_eq_some_iff.mp h
    exact (of_deciding? hrule).2.1
  exact (hof a ha).symm.trans (hof b hb)

/-- Deciding rules excuse a column if it is excused and not overruled. -/
theorem excused_decided_iff (hcolumn : column ∈ header) :
    (roles.decided header).Excused header left right column ↔
      roles.Excused header left right column ∧ ¬roles.Overruled header left right column := by
  rw [excused_and_not_overruled_iff]
  constructor
  · rintro ⟨rule, hrule, rfl, -, hblank⟩
    obtain ⟨column, -, hlast⟩ := List.mem_filterMap.mp hrule
    obtain rfl := (of_deciding? hlast).2.1
    exact ⟨rule, hlast, hblank⟩
  · rintro ⟨rule, hlast, hblank⟩
    exact ⟨rule, List.mem_filterMap.mpr ⟨column, hcolumn, hlast⟩, (of_deciding? hlast).2.1,
      (of_deciding? hlast).2.2, hblank⟩

end ColumnRoles

/-! ### Layouts -/

namespace Layout

variable {roles : ColumnRoles} {header left right : List String} {column : String} {i : Nat}

theorem place?_of_mem (h : column ∈ header) :
    place? header column = some (header.idxOf column) := by
  obtain ⟨i, hi⟩ := Option.ne_none_iff_exists'.mp (mt place_eq_none_iff.mp (not_not.mpr h))
  rw [List.idxOf_eq_getD_idxOf?, show header.idxOf? column = some i from hi, hi, Option.getD_some]

/-- The rules that a layout has for a place are those for its column that name one which is
there. -/
theorem map_filter_conditional (hnames : header.Nodup) (h : header[i]? = some column) :
    ((ofRoles roles header).conditional.filter fun c => c.1 == i).map Prod.snd =
      (roles.ignoredUnless.filter fun rule =>
        rule.column = column ∧ rule.condition ∈ header).map fun rule =>
          header.idxOf rule.condition := by
  have hplace (name : String) : place? header name = some i ↔ name = column := by
    rw [place_eq_some_iff hnames, h, Option.some.injEq, eq_comm]
  rw [ofRoles]
  dsimp only
  induction roles.ignoredUnless with
  | nil => rfl
  | cons rule rules ih =>
    by_cases hcondition : rule.condition ∈ header
    · have hfound := place?_of_mem hcondition
      by_cases hcolumn : rule.column = column
      · rw [List.filterMap_cons, (hplace rule.column).mpr hcolumn, hfound]
        dsimp only
        rw [List.filter_cons_of_pos (by simp), List.map_cons, ih,
          List.filter_cons_of_pos (by simp [hcolumn, hcondition]), List.map_cons]
      · rw [List.filter_cons_of_neg (by simp [hcolumn]), ← ih, List.filterMap_cons, hfound]
        rcases hother : place? header rule.column with _ | j
        · rfl
        · have hne : j ≠ i := fun hsame => hcolumn ((hplace rule.column).mp (hsame ▸ hother))
          dsimp only
          rw [List.filter_cons_of_neg (by simpa using hne)]
    · rw [List.filter_cons_of_neg (by simp [hcondition]), ← ih, List.filterMap_cons,
        place_eq_none_iff.mpr hcondition]
      rcases place? header rule.column with _ | j <;> rfl

/-- **The column that excuses a place** is the one that the deciding rule names. -/
theorem excuse?_eq (hnames : header.Nodup) (h : header[i]? = some column) :
    (ofRoles roles header).excuse? i =
      (roles.deciding? header column).map fun rule => header.idxOf rule.condition := by
  rw [excuse?, ← List.head?_filter, List.filter_reverse, List.head?_reverse, ← List.getLast?_map,
    map_filter_conditional hnames h, List.getLast?_map]
  rfl

/-- What a layout excuses is what the deciding rule excuses. -/
theorem isExcused_iff_decided (hnames : header.Nodup) (h : header[i]? = some column) :
    (ofRoles roles header).isExcused i left right = true ↔
      roles.Excused header left right column ∧ ¬roles.Overruled header left right column := by
  rw [ColumnRoles.excused_and_not_overruled_iff, isExcused, excuse?_eq hnames h, Option.any_map,
    Option.any_eq_true]
  refine exists_congr fun rule => and_congr_right fun hlast => ?_
  have hplace := place?_of_mem (ColumnRoles.of_deciding? hlast).2.2
  rw [cell_of_place hplace, cell_of_place hplace, Bool.and_eq_true,
    String.isEmpty_iff, String.isEmpty_iff]

/-- **The rules that do not decide** make no difference to two rows. -/
theorem rowDifferences_decided (hnames : header.Nodup) (row : Nat) (left right : List String) :
    (ofRoles (roles.decided header) header).rowDifferences header row left right =
      (ofRoles roles header).rowDifferences header row left right := by
  have hplain : (ofRoles (roles.decided header) header).plain.filter
        ((ofRoles (roles.decided header) header).plainDiffers left right) =
      (ofRoles roles header).plain.filter ((ofRoles roles header).plainDiffers left right) := by
    refine List.filter_congr fun i hi => ?_
    have hlt : i < header.length := List.mem_range.mp (List.mem_filter.mp hi).1
    have hcolumn := List.getElem?_eq_getElem hlt
    have hexcused : (ofRoles (roles.decided header) header).isExcused i left right =
        (ofRoles roles header).isExcused i left right := by
      rw [Bool.eq_iff_iff, isExcused_iff hnames (ColumnRoles.nodup_decided hnames) hcolumn,
        ColumnRoles.excused_decided_iff (List.getElem_mem hlt),
        isExcused_iff_decided hnames hcolumn]
    rw [plainDiffers, plainDiffers, hexcused]
  rw [rowDifferences, rowDifferences, hplain]
  rfl

end Layout

/-! ### Reports -/

namespace CompareReport

/-- What is reported under a name of one pair of rows. -/
def entriesAt (r : CompareReport) (name : String) (row : Nat) : List RowDifference :=
  (r.block? name).elim [] fun b => b.rows.filter (·.row = row)

end CompareReport

namespace ColumnRoles

variable {roles : ColumnRoles} {header l r : List String} {column : String}
  {rows : List (List String × List String)} {k : Nat}

/-- Members that contribute nothing may be left out. -/
theorem flatMap_filter {α β : Type} {l : List α} {p : α → Bool} {f : α → List β}
    (h : ∀ a ∈ l, p a = false → f a = []) : (l.filter p).flatMap f = l.flatMap f := by
  induction l with
  | nil => rfl
  | cons a l ih =>
    obtain ⟨ha, hl⟩ := List.forall_mem_cons.mp h
    rw [List.flatMap_cons, ← ih hl]
    cases hp : p a with
    | true => rw [List.filter_cons_of_pos hp, List.flatMap_cons]
    | false => rw [List.filter_cons_of_neg (by simp [hp]), ha hp, List.nil_append]

/-- What is found under a name in one pair of rows. -/
theorem filter_row_allFound (roles : ColumnRoles) (header : List String) (name : String)
    (hrow : rows[k]? = some (l, r)) :
    (foundUnder (roles.allFound header rows) name).filter (·.row = k) =
      (((roles.comparisons header).filter (·.name = name)).filter (·.differs l r)).map fun c =>
        (roles.found header ((l, r), k) c).2 := by
  have hkeys : (rows.zipIdx.map Prod.snd).Nodup := by
    rw [List.zipIdx_map_snd]
    exact List.nodup_range'
  have honly : rows.zipIdx.filter (·.2 = k) = [((l, r), k)] :=
    filter_key hkeys (List.mk_mem_zipIdx_iff_getElem?.mpr hrow)
  have hfound (x : (List String × List String) × Nat) (c : Comparison) :
      (roles.found header x c).2.row = x.2 := rfl
  rw [foundUnder_allFound, List.filter_flatMap, ← flatMap_filter (p := (·.2 = k)), honly,
    List.flatMap_singleton, List.filter_eq_self]
  · intro d hd
    obtain ⟨c, -, rfl⟩ := List.mem_map.mp hd
    exact decide_eq_true (hfound _ c)
  · intro x _ hx
    refine List.filter_eq_nil_iff.mpr fun d hd => ?_
    obtain ⟨c, -, rfl⟩ := List.mem_map.mp hd
    rw [hfound]
    simpa using hx

/-- The comparisons of the name of a column: its own and those of the groups of its name. -/
theorem filter_comparisons (hnames : header.Nodup) (hcolumn : roles.Compares header column) :
    (roles.comparisons header).filter (·.name = column) =
      roles.ofColumn header column ::
        (roles.multisets.filter (·.name = column)).map (ofGroup header) := by
  have hown : (header.filter fun column => roles.Compares header column).filter (· = column) =
      [column] := by
    have hdistinct : ((header.filter fun column => roles.Compares header column).map id).Nodup := by
      rw [List.map_id]
      exact hnames.filter _
    exact filter_key hdistinct (List.mem_filter.mpr ⟨hcolumn.1, decide_eq_true hcolumn⟩)
  rw [comparisons, List.filter_append, List.filter_map, List.filter_map]
  exact congrArg (List.map _ · ++ _) hown

/-- What the groups of a name find in a pair of rows. -/
def groupEntries (roles : ColumnRoles) (header : List String) (name : String)
    (x : (List String × List String) × Nat) : List RowDifference :=
  (roles.multisets.filter fun g => g.name = name ∧ g.Differs header x.1.1 x.1.2).map fun g =>
    (roles.found header x (ofGroup header g)).2

theorem groupEntries_eq (roles : ColumnRoles) (header : List String) (name : String)
    (x : (List String × List String) × Nat) :
    ((((roles.multisets.filter (·.name = name)).map (ofGroup header)).filter
      (·.differs x.1.1 x.1.2)).map fun c => (roles.found header x c).2) =
        roles.groupEntries header name x := by
  rw [List.filter_map, List.map_map, List.filter_filter, groupEntries]
  refine congrArg _ (List.filter_congr fun g _ => ?_)
  rw [Bool.decide_and, Bool.and_comm]
  rfl

end ColumnRoles

namespace CsvTable

open ColumnRoles

variable {roles : ColumnRoles} {header l r : List String} {column : String}
  {left right : List (List String)} {k : Nat}

/-- Two tables of one shape are compared row by row. -/
theorem compare_eq_ok {left right : CsvTable} (hheader : left.header = right.header)
    (hlength : left.rows.length = right.rows.length) :
    compare roles left right = .ok (compareRows roles left.header left.rows right.rows) := by
  rw [compare, if_pos hheader, if_pos hlength]

theorem compareRows_decided (hnames : header.Nodup) (left right : List (List String)) :
    compareRows (roles.decided header) header left right = compareRows roles header left right := by
  simp only [compareRows, Layout.rowDifferences_decided hnames]
  rfl

/-- The blocks of two tables, with deciding rules only. -/
theorem blocks_compareRows_decided (hnames : header.Nodup) (left right : List (List String)) :
    (compareRows roles header left right).blocks =
      blocksOf ((roles.decided header).allFound header (left.zip right)) := by
  rw [← compareRows_decided hnames, blocks_compareRows hnames (nodup_decided hnames)]

theorem entriesAt_compareRows (hnames : header.Nodup) (hl : left[k]? = some l)
    (hr : right[k]? = some r) (hcolumn : roles.Compares header column)
    (hdiffers : value header l column ≠ value header r column) :
    (compareRows roles header left right).entriesAt column k =
      (if roles.Excused header l r column ∧ ¬roles.Overruled header l r column then []
        else [(roles.found header ((l, r), k) (roles.ofColumn header column)).2]) ++
      roles.groupEntries header column ((l, r), k) := by
  have hrow : (left.zip right)[k]? = some (l, r) := by
    rw [List.getElem?_zip_eq_some]
    exact ⟨hl, hr⟩
  have hdecided : (roles.decided header).Compares header column := hcolumn
  have hreports : ((roles.decided header).ofColumn header column).differs l r =
      decide ¬(roles.Excused header l r column ∧ ¬roles.Overruled header l r column) := by
    rw [ofColumn, decide_eq_decide, ColumnDiffers, excused_decided_iff hcolumn.1]
    exact and_iff_right hdiffers
  rw [CompareReport.entriesAt, CompareReport.elim_block? List.filter_nil
      (blocks_compareRows_decided hnames left right),
    filter_row_allFound _ _ _ hrow, filter_comparisons hnames hdecided, List.filter_cons, hreports,
    ← groupEntries_eq]
  by_cases hspared : roles.Excused header l r column ∧ ¬roles.Overruled header l r column
  · rw [if_neg (by simpa using hspared), if_pos hspared]
    rfl
  · rw [if_pos (decide_eq_true hspared), if_neg hspared]
    rfl

/-- **When a difference is left out.** Two tables of one shape are compared, and in a pair of rows
with different values in a column that is compared on its own the report has under its name what the
groups of this name find, and the difference in the column itself unless it is left out: some rule
for the column excuses it, and the deciding rule does not overrule it. -/
theorem compare_entriesAt (roles : ColumnRoles) (left right : CsvTable)
    (hheader : left.header = right.header) (hlength : left.rows.length = right.rows.length)
    (hnames : left.header.Nodup) :
    ∃ report, compare roles left right = .ok report ∧
      ∀ k l r column, left.rows[k]? = some l → right.rows[k]? = some r →
        roles.Compares left.header column →
        value left.header l column ≠ value left.header r column →
        report.entriesAt column k =
          (if roles.Excused left.header l r column ∧ ¬roles.Overruled left.header l r column then []
            else [(roles.found left.header ((l, r), k) (roles.ofColumn left.header column)).2]) ++
          roles.groupEntries left.header column ((l, r), k) := by
  refine ⟨_, compare_eq_ok hheader hlength, ?_⟩
  intro k l r column hl hr hcolumn hdiffers
  exact entriesAt_compareRows hnames hl hr hcolumn hdiffers

/-- A pitcher does not count where nobody is on first, nor where nobody is on second. -/
def twoConditions : ColumnRoles where
  ignored := []
  ignoredUnless := [⟨"PITCHER", "FIRST"⟩, ⟨"PITCHER", "SECOND"⟩]
  multisets := []
  context := []

/-- A runner on second, and then a runner on first. -/
def ofPitcher (pitcher : String) : CsvTable where
  header := ["FIRST", "SECOND", "PITCHER"]
  rows := [["", "r1", pitcher], ["r1", "", pitcher]]

/-- With nobody on second the difference is left out, and with nobody on first it is not. -/
theorem compare_entriesAt_ofPitcher : ∃ report,
    compare twoConditions (ofPitcher "p1") (ofPitcher "p2") = .ok report ∧
    report.entriesAt "PITCHER" 0 = [⟨0, "", "p1", "p2"⟩] ∧ report.entriesAt "PITCHER" 1 = [] := by
  obtain ⟨report, hreport, hentries⟩ := compare_entriesAt twoConditions (ofPitcher "p1")
    (ofPitcher "p2") rfl rfl (by decide)
  refine ⟨report, hreport, ?_, ?_⟩
  · exact (hentries 0 _ _ "PITCHER" rfl rfl (by decide) (by decide +kernel)).trans
      (by decide +kernel)
  · exact (hentries 1 _ _ "PITCHER" rfl rfl (by decide) (by decide +kernel)).trans
      (by decide +kernel)

/-- The rule for first excuses the first row, and the difference is reported there all the same. -/
theorem excused_reported_ofPitcher : ∃ report,
    compare twoConditions (ofPitcher "p1") (ofPitcher "p2") = .ok report ∧
    twoConditions.Excused ["FIRST", "SECOND", "PITCHER"] ["", "r1", "p1"] ["", "r1", "p2"]
      "PITCHER" ∧
    report.rowsOf "PITCHER" = [0] := by
  refine ⟨_, rfl, by decide +kernel, by decide +kernel⟩

end CsvTable

end Baseball
