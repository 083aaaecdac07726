/-!
# Tables kept in key order

A `Keyed κ ν` is a finite table: a list of entries whose keys rise strictly. A table is therefore
determined by what its keys are bound to, and two tables that answer every look-up alike are equal.
Scorebooks, registers, standings and the positions of a side are such tables, so "the same totals
in whatever order the games came" can be said with `=`.

## Main definitions

* `Keyed.get?` — the value at a key
* `Keyed.upsert` — change the value at one key, whether or not it is there
* `Keyed.erase`, `Keyed.filter` — leave entries out
* `Keyed.merge` — bring in another table, key by key
* `IdSet` — a set of identifiers, as the table that binds nothing to its members

## Main statements

* `Keyed.get?_upsert`, `Keyed.get?_erase` — each operation through the look-up view
* `Keyed.ext` — look-ups decide a table
-/

namespace Baseball

/-- Whether `a` comes strictly before `b`. -/
abbrev Before {κ : Type} [Ord κ] (a b : κ) : Prop := compare a b = .lt

/-- A finite table whose keys rise strictly. -/
structure Keyed (κ ν : Type) [Ord κ] where
  /-- The entries, first key first. -/
  entries : List (κ × ν)
  ascending : (entries.map Prod.fst).Pairwise Before

namespace Keyed

variable {κ ν : Type} [Ord κ]

/-! ### Looking up -/

/-- The value bound to `k` in a list of entries, the first of them if there were several. -/
def lookup (k : κ) : List (κ × ν) → Option ν
  | [] => none
  | (k', v) :: rest => if compare k k' = .eq then some v else lookup k rest

/-- The value bound to `k`. -/
def get? (t : Keyed κ ν) (k : κ) : Option ν := lookup k t.entries

/-- Whether `k` is bound. -/
def contains (t : Keyed κ ν) (k : κ) : Bool := (t.get? k).isSome

/-- The keys, first to last. -/
def keys (t : Keyed κ ν) : List κ := t.entries.map Prod.fst

/-- The values in the order of their keys. -/
def values (t : Keyed κ ν) : List ν := t.entries.map Prod.snd

/-- How many keys are bound. -/
def size (t : Keyed κ ν) : Nat := t.entries.length

/-- Whether no key is bound. -/
def isEmpty (t : Keyed κ ν) : Bool := t.entries.isEmpty

/-- The table that binds nothing. -/
def empty : Keyed κ ν := ⟨[], .nil⟩

instance : EmptyCollection (Keyed κ ν) := ⟨empty⟩

instance : Inhabited (Keyed κ ν) := ⟨∅⟩

instance [DecidableEq κ] [DecidableEq ν] : DecidableEq (Keyed κ ν) := fun s t =>
  if h : s.entries = t.entries then
    .isTrue (by cases s; cases t; cases h; rfl)
  else
    .isFalse fun e => h (by rw [e])

theorem lookup_eq_none_of_before {k : κ} {l : List (κ × ν)}
    (h : ∀ k' ∈ l.map Prod.fst, Before k k') : lookup k l = none := by
  induction l with
  | nil => rfl
  | cons e l ih =>
    have hk : Before k e.1 := h e.1 (by simp)
    have hl : lookup k l = none := ih fun k' hk' => h k' (by simp_all)
    simp [lookup, show compare k e.1 = .lt from hk, hl]

@[simp]
theorem get?_empty (k : κ) : (∅ : Keyed κ ν).get? k = none := rfl

/-! ### Changing one key -/

/-- Changes the value at `k` in rising entries, or puts it where it belongs. -/
def upsertIn (k : κ) (f : Option ν → ν) : List (κ × ν) → List (κ × ν)
  | [] => [(k, f none)]
  | (k', v) :: rest =>
    match compare k k' with
    | .lt => (k, f none) :: (k', v) :: rest
    | .eq => (k', f (some v)) :: rest
    | .gt => (k', v) :: upsertIn k f rest

theorem mem_keys_upsertIn {k j : κ} {f : Option ν → ν} {l : List (κ × ν)}
    (h : j ∈ (upsertIn k f l).map Prod.fst) : j = k ∨ j ∈ l.map Prod.fst := by
  induction l with
  | nil => exact .inl (by simpa [upsertIn] using h)
  | cons e l ih =>
    simp only [upsertIn] at h
    split at h <;> simp only [List.map_cons, List.mem_cons] at h ⊢
    · exact h
    · exact .inr h
    · rcases h with h | h
      · exact .inr (.inl h)
      · exact (ih h).imp_right .inr

section Ordered

variable [Std.TransOrd κ]

theorem ascending_upsertIn {k : κ} {f : Option ν → ν} {l : List (κ × ν)}
    (h : (l.map Prod.fst).Pairwise Before) : ((upsertIn k f l).map Prod.fst).Pairwise Before := by
  induction l with
  | nil => simp [upsertIn]
  | cons e l ih =>
    obtain ⟨head, tail⟩ := List.pairwise_cons.1 h
    simp only [upsertIn]
    split
    next hlt =>
      refine List.pairwise_cons.2 ⟨fun j hj => ?_, h⟩
      rcases List.mem_cons.1 hj with rfl | hj
      · exact hlt
      · exact Std.TransCmp.lt_trans hlt (head j hj)
    next heq => exact h
    next hgt =>
      refine List.pairwise_cons.2 ⟨fun j hj => ?_, ih tail⟩
      rcases mem_keys_upsertIn hj with rfl | hj
      · exact Std.OrientedCmp.gt_iff_lt.1 hgt
      · exact head j hj

/-- Binds `k` to `f` of what it was bound to. -/
def upsert (t : Keyed κ ν) (k : κ) (f : Option ν → ν) : Keyed κ ν :=
  ⟨upsertIn k f t.entries, ascending_upsertIn t.ascending⟩

/-- Binds `k` to `v`. -/
def insert (t : Keyed κ ν) (k : κ) (v : ν) : Keyed κ ν := t.upsert k fun _ => v

/-- The table of a list of entries; of several with one key the last counts. -/
def ofList (l : List (κ × ν)) : Keyed κ ν := l.foldl (fun t e => t.insert e.1 e.2) ∅

/-- Brings the entries of `s` into `t`, joining with `f` where a key is bound in both. -/
def merge (f : ν → ν → ν) (t s : Keyed κ ν) : Keyed κ ν :=
  s.entries.foldl (fun t e => t.upsert e.1 fun old => (old.map (f · e.2)).getD e.2) t

end Ordered

/-! ### Leaving entries out -/

/-- The entries that `keep` accepts. -/
def filter (t : Keyed κ ν) (keep : κ → ν → Bool) : Keyed κ ν where
  entries := t.entries.filter fun e => keep e.1 e.2
  ascending := t.ascending.sublist (List.filter_sublist.map Prod.fst)

/-- The table without `k`. -/
def erase (t : Keyed κ ν) (k : κ) : Keyed κ ν := t.filter fun k' _ => compare k k' != .eq

/-! ### Through the look-up view -/

theorem lookup_filter {k : κ} {keep : κ → ν → Bool} {l : List (κ × ν)}
    [Std.LawfulEqOrd κ] (h : (l.map Prod.fst).Pairwise Before) :
    lookup k (l.filter fun e => keep e.1 e.2) = (lookup k l).filter (keep k) := by
  induction l with
  | nil => rfl
  | cons e l ih =>
    obtain ⟨head, tail⟩ := List.pairwise_cons.1 h
    by_cases hk : compare k e.1 = .eq
    · obtain rfl : k = e.1 := Std.LawfulEqCmp.compare_eq_iff_eq.1 hk
      have hl : lookup e.1 (l.filter fun e => keep e.1 e.2) = none :=
        lookup_eq_none_of_before fun j hj => head j
          ((List.filter_sublist.map Prod.fst).subset hj)
      by_cases hf : keep e.1 e.2 <;> simp [lookup, Option.filter, hf, hl]
    · by_cases hf : keep e.1 e.2 <;> simp [lookup, hf, hk, ih tail]

section Lawful

variable [Std.LawfulEqOrd κ]

theorem get?_filter (t : Keyed κ ν) (keep : κ → ν → Bool) (k : κ) :
    (t.filter keep).get? k = (t.get? k).filter (keep k) :=
  lookup_filter t.ascending

theorem get?_erase [DecidableEq κ] (t : Keyed κ ν) (k j : κ) :
    (t.erase k).get? j = if j = k then none else t.get? j := by
  rw [erase, get?_filter]
  by_cases h : j = k
  · subst h
    cases t.get? j <;> simp [Option.filter]
  · have hne : compare k j ≠ .eq := fun hc => h (Std.LawfulEqCmp.compare_eq_iff_eq.1 hc).symm
    cases t.get? j <;> simp [Option.filter, h, hne]

variable [Std.TransOrd κ]

theorem lookup_upsertIn [DecidableEq κ] {k j : κ} {f : Option ν → ν} {l : List (κ × ν)}
    (h : (l.map Prod.fst).Pairwise Before) :
    lookup j (upsertIn k f l) = if j = k then some (f (lookup k l)) else lookup j l := by
  induction l with
  | nil => by_cases hj : j = k <;> simp [upsertIn, lookup, hj, Std.LawfulEqCmp.compare_eq_iff_eq]
  | cons e l ih =>
    obtain ⟨head, tail⟩ := List.pairwise_cons.1 h
    simp only [upsertIn]
    split
    next hlt =>
      have hk : lookup k (e :: l) = none := lookup_eq_none_of_before fun j hj => by
        rcases List.mem_cons.1 hj with rfl | hj
        · exact hlt
        · exact Std.TransCmp.lt_trans hlt (head j hj)
      rw [hk]
      by_cases hj : j = k <;> simp [lookup, hj, Std.LawfulEqCmp.compare_eq_iff_eq]
    next heq =>
      obtain rfl : k = e.1 := Std.LawfulEqCmp.compare_eq_iff_eq.1 heq
      by_cases hj : j = e.1 <;> simp [lookup, hj, Std.LawfulEqCmp.compare_eq_iff_eq]
    next hgt =>
      have hke : k ≠ e.1 := fun hk => by simp [hk] at hgt
      by_cases hj : j = k
      · subst hj
        simp [lookup, Std.LawfulEqCmp.compare_eq_iff_eq, hke, ih tail]
      · simp [lookup, hj, ih tail]

/-- **Changing a key** changes the answer there and nowhere else. -/
theorem get?_upsert [DecidableEq κ] (t : Keyed κ ν) (k j : κ) (f : Option ν → ν) :
    (t.upsert k f).get? j = if j = k then some (f (t.get? k)) else t.get? j :=
  lookup_upsertIn t.ascending

theorem get?_insert [DecidableEq κ] (t : Keyed κ ν) (k j : κ) (v : ν) :
    (t.insert k v).get? j = if j = k then some v else t.get? j :=
  get?_upsert t k j _

theorem contains_insert [DecidableEq κ] (t : Keyed κ ν) (k j : κ) (v : ν) :
    (t.insert k v).contains j = (decide (j = k) || t.contains j) := by
  rw [contains, get?_insert, contains]
  by_cases hj : j = k <;> simp [hj]

theorem eq_of_lookup_eq {l m : List (κ × ν)} (hl : (l.map Prod.fst).Pairwise Before)
    (hm : (m.map Prod.fst).Pairwise Before) (h : ∀ k, lookup k l = lookup k m) : l = m := by
  induction l generalizing m with
  | nil =>
    cases m with
    | nil => rfl
    | cons e m => simpa [lookup] using h e.1
  | cons d l ih =>
    cases m with
    | nil => simpa [lookup] using h d.1
    | cons e m =>
      obtain ⟨dhead, dtail⟩ := List.pairwise_cons.1 hl
      obtain ⟨ehead, etail⟩ := List.pairwise_cons.1 hm
      have hkey : d.1 = e.1 := by
        rcases hc : compare d.1 e.1 with _ | _ | _
        · have := h d.1
          rw [lookup_eq_none_of_before (l := e :: m) (fun j hj => by
            rcases List.mem_cons.1 hj with rfl | hj
            · exact hc
            · exact Std.TransCmp.lt_trans hc (ehead j hj))] at this
          simp [lookup] at this
        · exact Std.LawfulEqCmp.compare_eq_iff_eq.1 hc
        · have hc := Std.OrientedCmp.gt_iff_lt.1 hc
          have := h e.1
          rw [lookup_eq_none_of_before (l := d :: l) (fun j hj => by
            rcases List.mem_cons.1 hj with rfl | hj
            · exact hc
            · exact Std.TransCmp.lt_trans hc (dhead j hj))] at this
          simp [lookup] at this
      have hval : d.2 = e.2 := by simpa [lookup, hkey] using h d.1
      have hrest : l = m := ih dtail etail fun k => by
        by_cases hk : k = d.1
        · subst hk
          rw [lookup_eq_none_of_before dhead, lookup_eq_none_of_before (hkey ▸ ehead)]
        · have hd : compare k d.1 ≠ .eq := fun hc => hk (Std.LawfulEqCmp.compare_eq_iff_eq.1 hc)
          simpa [lookup, hd, ← hkey] using h k
      rw [show d = e from Prod.ext hkey hval, hrest]

/-- **Look-ups decide a table.** -/
@[ext]
theorem ext {s t : Keyed κ ν} (h : ∀ k, s.get? k = t.get? k) : s = t := by
  have he : s.entries = t.entries := eq_of_lookup_eq s.ascending t.ascending h
  cases s
  cases t
  cases he
  rfl

end Lawful

end Keyed

/-! ### Sets of identifiers -/

/-- A set of identifiers, listed in code point order. -/
abbrev IdSet := Keyed String Unit

namespace IdSet

/-- The members in order. -/
def toList (s : IdSet) : List String := s.keys

/-- The set of one identifier. -/
def singleton (id : String) : IdSet := Keyed.insert ∅ id ()

/-- The set of the members of a list. -/
def ofList (ids : List String) : IdSet := ids.foldl (Keyed.insert · · ()) ∅

/-- The identifiers in either set. -/
def union (s t : IdSet) : IdSet := Keyed.merge (fun _ _ => ()) s t

end IdSet

end Baseball
