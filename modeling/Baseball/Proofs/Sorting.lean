import Mathlib.Algebra.Order.Ring.Nat
import Mathlib.Data.Int.Order.Basic
import Mathlib.Data.List.Perm.Basic

/-!
# Sorted lists

What is sorted by a comparison depends on the order it came in only where different things compare
equal. In a list that is sorted by a whole number, the place, what stands before a member and what
stands level with it is known from its neighbours; counting says the same of the list as a whole.

## Main definitions

* `countAhead`, `countLevel` — how many of a list have a smaller place than a member, or its place

## Main results

* `pairwise_mergeSort_isLE`, `mergeSort_isLE_eq_of_perm` — sorting by a comparison
* `countLevel_pos_iff_getLast?`, `countLevel_pos_iff_head?` — whether some are level is seen at the end
  that is nearest
* `takeWhile_eq_filter` — those that are level stand together
* `countAhead_lt_of_getLast?_take`, `le_countAhead_of_mem_drop` — how many are ahead says who has room
-/

namespace Baseball

/-! ### Sorting by a comparison -/

theorem pairwise_mergeSort_isLE {α : Type} (cmp : α → α → Ordering) [Std.TransCmp cmp] (l : List α) :
    (l.mergeSort fun a b => (cmp a b).isLE).Pairwise fun a b => (cmp a b).isLE = true := by
  refine List.pairwise_mergeSort (fun a b c hab hbc => ?_) (fun a b => ?_) l
  · exact Std.TransCmp.isLE_trans hab hbc
  · rw [Bool.or_eq_true, ← Std.OrientedCmp.isGE_iff_isLE, ← Bool.or_eq_true]
    cases cmp b a <;> rfl

/-- Sorting forgets the order of what is sorted, if only equal things compare equal. -/
theorem mergeSort_isLE_eq_of_perm {α : Type} (cmp : α → α → Ordering) [Std.TransCmp cmp]
    {l m : List α} (h : l.Perm m) (heq : ∀ a ∈ l, ∀ b ∈ l, cmp a b = .eq → a = b) :
    (l.mergeSort fun a b => (cmp a b).isLE) = m.mergeSort fun a b => (cmp a b).isLE := by
  have hl := List.mergeSort_perm l fun a b => (cmp a b).isLE
  have hm := List.mergeSort_perm m fun a b => (cmp a b).isLE
  refine List.Perm.eq_of_pairwise (fun a b ha hb hab hba => ?_) (pairwise_mergeSort_isLE cmp l)
    (pairwise_mergeSort_isLE cmp m) (hl.trans (h.trans hm.symm))
  exact heq a (hl.mem_iff.1 ha) b (h.mem_iff.2 (hm.mem_iff.1 hb)) (Std.OrientedCmp.isLE_antisymm hab hba)

/-! ### Sorted by place -/

section Place

variable {α : Type} {place : α → Int}

/-- How many of a list have a smaller place than `c`. -/
def countAhead (place : α → Int) (cs : List α) (c : α) : Nat := cs.countP fun d => place d < place c

/-- How many of a list have the place of `c`. -/
def countLevel (place : α → Int) (cs : List α) (c : α) : Nat := cs.countP fun d => place d = place c

theorem countAhead_append (cs ds : List α) (c : α) :
    countAhead place (cs ++ ds) c = countAhead place cs c + countAhead place ds c :=
  List.countP_append

theorem countLevel_append (cs ds : List α) (c : α) :
    countLevel place (cs ++ ds) c = countLevel place cs c + countLevel place ds c :=
  List.countP_append

theorem countAhead_eq_zero {cs : List α} {c : α} (h : ∀ d ∈ cs, place c ≤ place d) :
    countAhead place cs c = 0 :=
  List.countP_eq_zero.2 fun d hd => by simpa using h d hd

theorem countAhead_eq_length {cs : List α} {c : α} (h : ∀ d ∈ cs, place d < place c) :
    countAhead place cs c = cs.length :=
  List.countP_eq_length.2 fun d hd => by simpa using h d hd

theorem countAhead_mono (cs : List α) {c d : α} (h : place c ≤ place d) :
    countAhead place cs c ≤ countAhead place cs d :=
  List.countP_mono_left fun e _ he => by
    simp only [decide_eq_true_eq] at he ⊢
    exact he.trans_le h

theorem countAhead_congr (cs : List α) {c d : α} (h : place c = place d) :
    countAhead place cs c = countAhead place cs d := by
  rw [countAhead, countAhead, h]

theorem countAhead_lt_length {cs : List α} {c : α} (h : c ∈ cs) :
    countAhead place cs c < cs.length := by
  refine lt_of_le_of_ne List.countP_le_length fun hall => ?_
  simpa using List.countP_eq_length.1 hall c h

theorem le_getLast? {cs : List α} (h : cs.Pairwise (place · ≤ place ·)) {last : α}
    (hlast : last ∈ cs.getLast?) {d : α} (hd : d ∈ cs) : place d ≤ place last := by
  obtain ⟨init, rfl⟩ := List.getLast?_eq_some_iff.1 hlast
  obtain hd | hd := List.mem_append.1 hd
  · exact (List.pairwise_append.1 h).2.2 d hd last (by simp)
  · rw [List.mem_singleton.1 hd]

theorem head?_le {cs : List α} (h : cs.Pairwise (place · ≤ place ·)) {first : α}
    (hfirst : first ∈ cs.head?) {d : α} (hd : d ∈ cs) : place first ≤ place d := by
  obtain ⟨rest, rfl⟩ := List.head?_eq_some_iff.1 hfirst
  obtain rfl | hd := List.mem_cons.1 hd
  · rfl
  · exact (List.pairwise_cons.1 h).1 d hd

/-- Of a sorted list that goes no further than `c`, some are level with `c` if the last is. -/
theorem countLevel_pos_iff_getLast? {cs : List α} {c : α} (h : cs.Pairwise (place · ≤ place ·))
    (hc : ∀ d ∈ cs, place d ≤ place c) :
    0 < countLevel place cs c ↔ ∃ d ∈ cs.getLast?, place d = place c := by
  rw [countLevel, List.countP_pos_iff]
  constructor
  · rintro ⟨d, hd, hdc⟩
    obtain ⟨last, hlast⟩ := Option.ne_none_iff_exists'.1
      (mt List.getLast?_eq_none_iff.1 (List.ne_nil_of_mem hd))
    refine ⟨last, hlast, le_antisymm (hc last (List.mem_of_getLast? hlast)) ?_⟩
    exact (of_decide_eq_true hdc).ge.trans (le_getLast? h hlast hd)
  · rintro ⟨d, hd, hdc⟩
    exact ⟨d, List.mem_of_getLast? hd, decide_eq_true hdc⟩

/-- Of a sorted list that begins no sooner than `c`, some are level with `c` if the first is. -/
theorem countLevel_pos_iff_head? {cs : List α} {c : α} (h : cs.Pairwise (place · ≤ place ·))
    (hc : ∀ d ∈ cs, place c ≤ place d) :
    0 < countLevel place cs c ↔ ∃ d ∈ cs.head?, place d = place c := by
  rw [countLevel, List.countP_pos_iff]
  constructor
  · rintro ⟨d, hd, hdc⟩
    obtain ⟨first, hfirst⟩ := Option.ne_none_iff_exists'.1
      (mt List.head?_eq_none_iff.1 (List.ne_nil_of_mem hd))
    refine ⟨first, hfirst, le_antisymm ?_ (hc first (List.mem_of_head? hfirst))⟩
    exact (head?_le h hfirst hd).trans (of_decide_eq_true hdc).le
  · rintro ⟨d, hd, hdc⟩
    exact ⟨d, List.mem_of_head? hd, decide_eq_true hdc⟩

/-- What has the first place of a sorted list stands together, at its head. -/
theorem takeWhile_eq_filter {cs : List α} {k : Int} {keep : α → Bool}
    (h : cs.Pairwise (place · ≤ place ·)) (hk : ∀ d ∈ cs, k ≤ place d)
    (hkeep : ∀ d ∈ cs, keep d = true ↔ place d = k) : cs.takeWhile keep = cs.filter keep := by
  induction cs with
  | nil => rfl
  | cons d rest ih =>
    obtain ⟨hd, hrest⟩ := List.pairwise_cons.1 h
    by_cases hdk : keep d = true
    · rw [List.takeWhile_cons_of_pos hdk, List.filter_cons_of_pos hdk,
        ih hrest (fun e he => hk e (.tail _ he)) fun e he => hkeep e (.tail _ he)]
    · have hlt : k < place d :=
        lt_of_le_of_ne (hk d (.head _)) (Ne.symm (mt (hkeep d (.head _)).2 hdk))
      rw [List.takeWhile_cons_of_neg hdk, eq_comm, List.filter_eq_nil_iff]
      exact fun e he hek => (hlt.trans_le (head?_le h rfl he)).ne' ((hkeep e he).1 hek)

/-! ### The first so many -/

section Take

variable {cs : List α} {limit : Nat} {last : α} (h : cs.Pairwise (place · ≤ place ·))
  (hlast : last ∈ (cs.take limit).getLast?)

include h hlast

theorem le_of_mem_take {c : α} (hc : c ∈ cs.take limit) : place c ≤ place last :=
  le_getLast? (h.sublist (List.take_sublist ..)) hlast hc

theorem le_of_mem_drop {d : α} (hd : d ∈ cs.drop limit) : place last ≤ place d := by
  rw [← List.take_append_drop limit cs] at h
  exact (List.pairwise_append.1 h).2.2 last (List.mem_of_getLast? hlast) d hd

/-- Those ahead of the last that has room have room, and it is not one of them. -/
theorem countAhead_lt_of_getLast?_take : countAhead place cs last < limit := by
  have hdrop : countAhead place (cs.drop limit) last = 0 :=
    countAhead_eq_zero fun d hd => le_of_mem_drop h hlast hd
  calc countAhead place cs last
      = countAhead place (cs.take limit ++ cs.drop limit) last := by rw [List.take_append_drop]
    _ = countAhead place (cs.take limit) last := by rw [countAhead_append, hdrop, Nat.add_zero]
    _ < (cs.take limit).length := countAhead_lt_length (List.mem_of_getLast? hlast)
    _ ≤ limit := List.length_take_le ..

/-- All that have room are ahead of one that is behind the last of them. -/
theorem le_countAhead_of_mem_drop {d : α} (hd : d ∈ cs.drop limit) (hlt : place last < place d) :
    limit ≤ countAhead place cs d := by
  have hfull : limit < cs.length := by
    have := List.length_pos_of_mem hd
    rw [List.length_drop] at this
    omega
  calc limit
      = (cs.take limit).length := by rw [List.length_take, Nat.min_eq_left hfull.le]
    _ = countAhead place (cs.take limit) d :=
        (countAhead_eq_length fun c hc => (le_of_mem_take h hlast hc).trans_lt hlt).symm
    _ ≤ countAhead place (cs.take limit ++ cs.drop limit) d := by
        rw [countAhead_append]
        exact Nat.le_add_right ..
    _ = countAhead place cs d := by rw [List.take_append_drop]

end Take

end Place

end Baseball
