import Baseball.Compare.Basic
import Mathlib.Data.List.Nodup

/-!
# Columns by name

Roles are given to columns by name, and a layout has found the places of these names in a header. So
what a layout makes of two rows can be said by names again: which columns are compared on their own,
what excuses a difference, and which values of a group count. If no two columns have the same name
and no two rules are for the same column, the layout does just this.

## Main definitions

* `CsvTable.value` — the value of a row in a column
* `ColumnRoles.Compares` — the columns that are compared on their own
* `ColumnRoles.Excused`, `ColumnDiffers` — what excuses a difference, and where there is one
* `MultisetGroup.valuesIn`, `MultisetGroup.Differs` — the values of a group, and where they differ
* `ColumnRoles.comparisons` — everything that is compared

## Main results

* `Layout.cell_of_place` — what stands at the place of a column is its value
* `Layout.isExcused_iff` — a layout excuses what the rules excuse
* `Layout.rowDifferences_eq` — and finds between two rows whatever differs in a comparison
-/

namespace Baseball

/-! ### What is compared -/

/-- The value of a row in a column, blanks at its ends aside; it is empty if there is none. -/
def CsvTable.value (header row : List String) (column : String) : String :=
  (((header.zip row).lookup column).map trimBlank).getD ""

open CsvTable

namespace MultisetGroup

/-- The values of a row in a group, as far as its columns are there. -/
def valuesIn (g : MultisetGroup) (header row : List String) : List String :=
  (g.columns.filter (· ∈ header)).map (value header row)

/-- Two rows differ in a group if one has a value more often than the other. Empty values and zeros
do not count. -/
def Differs (g : MultisetGroup) (header left right : List String) : Prop :=
  ¬((g.valuesIn header left).filter fun v => v ≠ "" ∧ v ≠ "0").Perm
    ((g.valuesIn header right).filter fun v => v ≠ "" ∧ v ≠ "0")

instance (g : MultisetGroup) (header left right : List String) :
    Decidable (g.Differs header left right) := inferInstanceAs (Decidable (¬_))

end MultisetGroup

namespace ColumnRoles

variable (roles : ColumnRoles) (header left right : List String) (column : String)

/-- A column is compared on its own if it is there, and neither ignored nor in a group. -/
def Compares : Prop :=
  column ∈ header ∧ column ∉ roles.ignored ∧ ∀ g ∈ roles.multisets, column ∉ g.columns

/-- A column is excused in two rows by a rule for it, if the column that the rule names is there and
blank in both. -/
def Excused : Prop :=
  ∃ rule ∈ roles.ignoredUnless, rule.column = column ∧ rule.condition ∈ header ∧
    value header left rule.condition = "" ∧ value header right rule.condition = ""

/-- Two rows differ in a column if their values do and nothing excuses it. -/
def ColumnDiffers : Prop :=
  value header left column ≠ value header right column ∧ ¬roles.Excused header left right column

instance : Decidable (roles.Compares header column) := inferInstanceAs (Decidable (_ ∧ _))

instance : Decidable (roles.Excused header left right column) :=
  inferInstanceAs (Decidable (∃ rule ∈ _, _))

instance : Decidable (roles.ColumnDiffers header left right column) :=
  inferInstanceAs (Decidable (_ ∧ _))

/-- What is compared under a name, and what is shown of a row that differs. -/
structure Comparison where
  name : String
  differs : List String → List String → Bool
  shown : List String → String

/-- The comparison of a column on its own. -/
def ofColumn : Comparison where
  name := column
  differs left right := roles.ColumnDiffers header left right column
  shown row := value header row column

/-- The comparison of a group. -/
def ofGroup (g : MultisetGroup) : Comparison where
  name := g.name
  differs left right := g.Differs header left right
  shown row := ",".intercalate (g.valuesIn header row)

/-- Everything that is compared: the columns and then the groups. -/
def comparisons : List Comparison :=
  (header.filter fun column => roles.Compares header column).map (roles.ofColumn header) ++
    roles.multisets.map (ofGroup header)

end ColumnRoles

/-! ### Places -/

namespace Layout

variable {header row left right : List String} {column : String} {i u : Nat}

theorem getElem?_of_place (h : place? header column = some i) : header[i]? = some column := by
  obtain ⟨hi, hname, -⟩ := List.idxOf?_eq_some_iff.mp h
  exact List.getElem?_eq_some_iff.mpr ⟨hi, hname⟩

/-- If names are different each column is at its place. -/
theorem place_eq_some_iff (hnames : header.Nodup) :
    place? header column = some i ↔ header[i]? = some column := by
  refine ⟨getElem?_of_place, fun h => ?_⟩
  obtain ⟨hi, rfl⟩ := List.getElem?_eq_some_iff.mp h
  refine List.idxOf?_eq_some_iff.mpr ⟨hi, rfl, fun j hj hsame => ?_⟩
  exact Nat.ne_of_lt hj (hnames.getElem_inj_iff.mp hsame)

theorem place_eq_none_iff : place? header column = none ↔ column ∉ header :=
  List.idxOf?_eq_none_iff

/-- **What stands at the place of a column** is its value. -/
theorem cell_of_place (h : place? header column = some i) :
    cell row i = value header row column := by
  induction header generalizing row i with
  | nil => cases h
  | cons name header ih =>
    rw [place?, List.idxOf?_cons] at h
    by_cases hsame : name = column
    · rw [if_pos (beq_iff_eq.mpr hsame)] at h
      obtain rfl := Option.some.inj h
      cases row <;> simp [cell, value, hsame]
    · rw [if_neg (by simpa using hsame)] at h
      obtain ⟨j, hj, rfl⟩ := Option.map_eq_some_iff.mp h
      cases row with
      | nil => simp [cell, value]
      | cons v row =>
        have hvalue : value (name :: header) (v :: row) column = value header row column := by
          have hne : (column == name) = false := by simpa using Ne.symm hsame
          rw [value, value, List.zip_cons_cons, List.lookup_cons, hne]
        rw [hvalue, ← ih hj]
        simp [cell]

/-- The values of a group, place by place. -/
theorem map_cell_places (header row columns : List String) :
    (columns.filterMap (place? header)).map (cell row) =
      (columns.filter (· ∈ header)).map (value header row) := by
  induction columns with
  | nil => rfl
  | cons column columns ih =>
    rcases h : place? header column with _ | i
    · have habsent := place_eq_none_iff.mp h
      rw [List.filterMap_cons_none h, List.filter_cons_of_neg (by simpa using habsent), ih]
    · have hpresent : column ∈ header := List.mem_of_getElem? (getElem?_of_place h)
      rw [List.filterMap_cons_some h, List.filter_cons_of_pos (by simpa using hpresent),
        List.map_cons, List.map_cons, ih, cell_of_place h]

/-- A column belongs to the groups that name it. -/
theorem mem_places_iff (hnames : header.Nodup) (h : header[i]? = some column)
    (columns : List String) : i ∈ columns.filterMap (place? header) ↔ column ∈ columns := by
  rw [List.mem_filterMap]
  constructor
  · rintro ⟨other, hmem, hplace⟩
    obtain rfl : other = column := Option.some.inj ((getElem?_of_place hplace).symm.trans h)
    exact hmem
  · exact fun hmem => ⟨column, hmem, (place_eq_some_iff hnames).mpr h⟩

/-! ### Roles -/

variable {roles : ColumnRoles}

theorem mem_conditional_iff : (i, u) ∈ (ofRoles roles header).conditional ↔
    ∃ rule ∈ roles.ignoredUnless,
      place? header rule.column = some i ∧ place? header rule.condition = some u := by
  rw [ofRoles, List.mem_filterMap]
  refine exists_congr fun rule => and_congr_right fun _ => ?_
  cases place? header rule.column <;> cases place? header rule.condition <;> simp

/-- Of different rules one at most is for a column, so it does not matter which counts. -/
theorem excuse_eq_some_iff (hrules : (roles.ignoredUnless.map ConditionalIgnore.column).Nodup) :
    (ofRoles roles header).excuse? i = some u ↔ (i, u) ∈ (ofRoles roles header).conditional := by
  have hfound {u : Nat} (h : (ofRoles roles header).excuse? i = some u) :
      (i, u) ∈ (ofRoles roles header).conditional := by
    obtain ⟨⟨j, v⟩, hfind, rfl⟩ := Option.map_eq_some_iff.mp h
    obtain rfl : j = i := by simpa using List.find?_some hfind
    exact List.mem_reverse.mp (List.mem_of_find?_eq_some hfind)
  refine ⟨hfound, fun h => ?_⟩
  rcases hexcuse : (ofRoles roles header).excuse? i with _ | v
  · rw [excuse?, Option.map_eq_none_iff, List.find?_eq_none] at hexcuse
    exact absurd (beq_self_eq_true i) (hexcuse (i, u) (List.mem_reverse.mpr h))
  · obtain ⟨rule, hrule, hi, hu⟩ := mem_conditional_iff.mp h
    obtain ⟨rule', hrule', hi', hv⟩ := mem_conditional_iff.mp (hfound hexcuse)
    have hcolumn : rule'.column = rule.column :=
      Option.some.inj ((getElem?_of_place hi').symm.trans (getElem?_of_place hi))
    obtain rfl := List.inj_on_of_nodup_map hrules hrule' hrule hcolumn
    rw [← hv, hu]

/-- **What a layout excuses** is what the rules excuse. -/
theorem isExcused_iff (hnames : header.Nodup)
    (hrules : (roles.ignoredUnless.map ConditionalIgnore.column).Nodup)
    (h : header[i]? = some column) :
    (ofRoles roles header).isExcused i left right = true ↔
      roles.Excused header left right column := by
  have hblank (u : Nat) : ((cell left u).isEmpty && (cell right u).isEmpty) = true ↔
      cell left u = "" ∧ cell right u = "" := by
    rw [Bool.and_eq_true, String.isEmpty_iff, String.isEmpty_iff]
  simp only [isExcused, Option.any_eq_true, excuse_eq_some_iff hrules, mem_conditional_iff, hblank]
  constructor
  · rintro ⟨u, ⟨rule, hrule, hi, hu⟩, hleft, hright⟩
    refine ⟨rule, hrule, Option.some.inj ((getElem?_of_place hi).symm.trans h),
      List.mem_of_getElem? (getElem?_of_place hu), ?_, ?_⟩
    · rw [← cell_of_place hu, hleft]
    · rw [← cell_of_place hu, hright]
  · rintro ⟨rule, hrule, rfl, hcondition, hleft, hright⟩
    obtain ⟨u, hu⟩ :=
      Option.ne_none_iff_exists'.mp (mt place_eq_none_iff.mp (not_not.mpr hcondition))
    refine ⟨u, ⟨rule, hrule, (place_eq_some_iff hnames).mpr h, hu⟩, ?_, ?_⟩
    · rw [cell_of_place hu, hleft]
    · rw [cell_of_place hu, hright]

/-- The columns whose places are plain are compared on their own. -/
theorem plain_iff (hnames : header.Nodup) (h : header[i]? = some column) :
    (!isGrouped (ofRoles roles header).multisets i && !(header[i]?.any roles.ignored.contains)) =
      decide (roles.Compares header column) := by
  have hpresent : column ∈ header := List.mem_of_getElem? h
  rw [Bool.eq_iff_iff, Bool.and_eq_true, Bool.not_eq_true', Bool.not_eq_true', h,
    decide_eq_true_iff, isGrouped, List.any_eq_false]
  simp [ofRoles, mem_places_iff hnames h, ColumnRoles.Compares, hpresent, and_comm]

/-- Two rows differ at a plain place if they do in the column. -/
theorem plainDiffers_eq (hnames : header.Nodup)
    (hrules : (roles.ignoredUnless.map ConditionalIgnore.column).Nodup)
    (h : header[i]? = some column) :
    (ofRoles roles header).plainDiffers left right i =
      decide (roles.ColumnDiffers header left right column) := by
  have hplace := (place_eq_some_iff hnames).mpr h
  rw [Bool.eq_iff_iff, plainDiffers, Bool.and_eq_true, bne_iff_ne, Bool.not_eq_true',
    Bool.eq_false_iff, Ne, Ne, isExcused_iff hnames hrules h, cell_of_place hplace,
    cell_of_place hplace, decide_eq_true_iff, ColumnRoles.ColumnDiffers]

/-- Two rows differ in the places of a group if they do in the group. -/
theorem sameValues_eq (header : List String) (g : MultisetGroup) (left right : List String) :
    (!sameValues (g.columns.filterMap (place? header)) left right) =
      decide (g.Differs header left right) := by
  have hcounts (v : String) : (!v.isEmpty && v != "0") = decide (v ≠ "" ∧ v ≠ "0") := by
    rw [Bool.eq_iff_iff, Bool.and_eq_true, Bool.not_eq_true', Bool.eq_false_iff, Ne,
      String.isEmpty_iff, bne_iff_ne, decide_eq_true_iff]
  rw [sameValues, groupValues, groupValues, map_cell_places, map_cell_places, Bool.eq_iff_iff,
    Bool.not_eq_true', Bool.eq_false_iff, Ne, List.isPerm_iff, decide_eq_true_iff]
  simp only [hcounts, MultisetGroup.Differs, MultisetGroup.valuesIn]

/-! ### Differences -/

/-- A selection from a list, made place by place. -/
theorem filter_map_range {α β : Type} {l : List α} {p : Nat → Bool} {q : α → Bool} {f : Nat → β}
    {g : α → β} (hp : ∀ i a, l[i]? = some a → p i = q a) (hf : ∀ i a, l[i]? = some a → f i = g a) :
    ((List.range l.length).filter p).map f = (l.filter q).map g := by
  induction l generalizing p f with
  | nil => rfl
  | cons a l ih =>
    have hrest := ih (p := p ∘ Nat.succ) (f := f ∘ Nat.succ) (fun i => hp (i + 1))
      (fun i => hf (i + 1))
    rw [List.length_cons, List.range_succ_eq_map, List.filter_cons, List.filter_cons, hp 0 a rfl,
      List.filter_map]
    split
    · rw [List.map_cons, List.map_cons, hf 0 a rfl, List.map_map, hrest]
    · rw [List.map_map, hrest]

/-- **What a layout finds between two rows**: whatever differs in a comparison, under its name. -/
theorem rowDifferences_eq (hnames : header.Nodup)
    (hrules : (roles.ignoredUnless.map ConditionalIgnore.column).Nodup) (row : Nat)
    (left right : List String) :
    (ofRoles roles header).rowDifferences header row left right =
      ((roles.comparisons header).filter (·.differs left right)).map fun c =>
        (c.name, { row, context := (ofRoles roles header).contextText left, left := c.shown left
                   right := c.shown right }) := by
  rw [rowDifferences, ColumnRoles.comparisons, List.filter_append, List.map_append]
  congr 1
  · rw [List.filter_map, List.map_map, List.filter_filter, ofRoles, List.filter_filter]
    refine filter_map_range (fun i column h => ?_) (fun i column h => ?_)
    · exact congrArg₂ _ (plainDiffers_eq hnames hrules h) (plain_iff hnames h)
    · have hplace := (place_eq_some_iff hnames).mpr h
      rw [h, cell_of_place hplace, cell_of_place hplace]
      rfl
  · rw [ofRoles, List.filter_map, List.map_map, List.filter_map, List.map_map]
    have hsame : (fun g : String × List Nat => !sameValues g.2 left right) ∘
        (fun g : MultisetGroup => (g.name, g.columns.filterMap (place? header))) =
          (fun c : ColumnRoles.Comparison => c.differs left right) ∘ ColumnRoles.ofGroup header :=
      funext fun g => sameValues_eq header g left right
    rw [hsame]
    refine List.map_congr_left fun g _ => ?_
    simp only [Function.comp_apply, groupText, map_cell_places]
    rfl

end Layout

end Baseball
