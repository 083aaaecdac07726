import Baseball.Proofs.FloatOrder
import Baseball.Proofs.Sorting
import Baseball.Report.Leaders
import Mathlib.Data.List.Nodup

/-!
# Who is on a board, and at what rank

A board is made by sorting, cutting and numbering, each of which looks at neighbours only: the cut goes
on while a line is level with the last that had room, and a rank is passed on from the line before. What
a board means is said without any of this, by counting: a line is on the board if fewer lines than there
is room for are ahead of it, and its rank is one more than the lines ahead of it.

The two are brought together on a list that is sorted by place. There the lines ahead of one are the
ones before its level run, so a cut is a filter by the number of lines ahead (`cut_eq_filter`) and a
numbering is a map (`number_eq_map`). Since whoever is ahead of a line on the board has even fewer lines
ahead, counting on the board is counting among all lines (`countP_cut`).

Values are compared as numbers in what a board means and by their bit patterns where it is made. The two
agree on ordinary values only; a NaN would have a place and a rank, and a zero with a sign would stand
below the other zero and be level with it.

## Main definitions

* `Metric.better`, `Metric.isAhead`, `Metric.isLevel` — how values and lines compare as numbers
* `Leaderboard.eligible` — the lines that pass the qualifier and have a value
* `Leaderboard.Settled` — what a ranking says of a list of lines

## Main results

* `Leaderboard.cut_eq_filter`, `Leaderboard.number_eq_map` — the steps of the ranking by counting
* `Leaderboard.settled_rank` — the ranking of a list is settled, and not by the order of the list
-/

namespace Baseball

/-! ### Lines compared by a metric -/

namespace Metric

variable {L : Type}

/-- Whether a value is strictly better than another. -/
def better (m : Metric L) (x y : Float) : Bool := if m.fewerIsBetter then x < y else y < x

/-- Whether a line has a strictly better value than another. -/
def isAhead (m : Metric L) (l k : L) : Bool :=
  match m.value? l, m.value? k with
  | some x, some y => m.better x y
  | _, _ => false

/-- Whether a line has the same value as another. -/
def isLevel (m : Metric L) (l k : L) : Bool := decide (m.value? l = m.value? k)

theorem place_eq_place {m : Metric L} {x y : Float} : m.place x = m.place y ↔ x = y := by
  rw [place, place]
  split
  · exact orderKey_inj
  · rw [neg_inj, orderKey_inj]

theorem sameNumber_iff_place {m : Metric L} {x y : Float} (hx : Ordinary x) (hy : Ordinary y) :
    sameNumber x y = true ↔ m.place x = m.place y :=
  (sameNumber_iff hx hy).trans place_eq_place.symm

theorem place_lt_place {m : Metric L} {x y : Float} (hx : Ordinary x) (hy : Ordinary y) :
    m.place x < m.place y ↔ m.better x y = true := by
  rw [place, place, better]
  split
  · rw [orderKey_lt_orderKey hx hy, decide_eq_true_eq]
  · rw [neg_lt_neg_iff, orderKey_lt_orderKey hy hx, decide_eq_true_eq]

end Metric

namespace Leaderboard

variable {L : Type}

/-- Whether a line can be ranked: it passes the qualifier and has a value. -/
def eligible (board : Leaderboard L) (l : L) : Bool :=
  board.qualify?.all (· l) && (board.metric.value? l).isSome

/-- How many of the lines that can be ranked are ahead of a line. -/
def linesAhead (board : Leaderboard L) (ls : List L) (l : L) : Nat :=
  (ls.filter board.eligible).countP (board.metric.isAhead · l)

/-- How many of the lines that can be ranked have the value of a line. -/
def linesLevel (board : Leaderboard L) (ls : List L) (l : L) : Nat :=
  (ls.filter board.eligible).countP (board.metric.isLevel · l)

/-- What a ranking says of a list of lines. -/
structure Settled [StatLine L] (board : Leaderboard L) (ls : List L) (leaders : List (Leader L)) :
    Prop where
  /-- The lines on the board, each as often as it is listed, are those with fewer lines ahead of them
  than there is room for. -/
  lines : (leaders.map (·.line)).Perm
    ((ls.filter board.eligible).filter fun l => board.linesAhead ls l < board.limit)
  value : ∀ l ∈ leaders, board.metric.value? l.line = some l.value
  rank : ∀ l ∈ leaders, l.rank = 1 + board.linesAhead ls l.line
  /-- A line is level with itself, so two are level where another one is. -/
  tied : ∀ l ∈ leaders, l.tied = true ↔ 2 ≤ board.linesLevel ls l.line
  ordered : leaders.Pairwise fun a b => board.metric.better a.value b.value = true ∨
    a.value = b.value ∧ (compare (StatLine.key a.line) (StatLine.key b.line)).isLE = true

/-! ### Sorted candidates -/

/-- The place of a line with its value. -/
def placeOf (board : Leaderboard L) (c : Float × L) : Int := board.metric.place c.1

/-- Sorted by place, and by nothing but ordinary values. -/
structure Sorted (board : Leaderboard L) (cs : List (Float × L)) : Prop where
  pairwise : cs.Pairwise (board.placeOf · ≤ board.placeOf ·)
  ordinary : ∀ c ∈ cs, Ordinary c.1

/-- What is said of a line that is on a board with others. -/
def standing (board : Leaderboard L) (cs : List (Float × L)) (c : Float × L) : Leader L where
  rank := countAhead board.placeOf cs c + 1
  tied := decide (2 ≤ countLevel board.placeOf cs c)
  value := c.1
  line := c.2

variable {board : Leaderboard L}

/-! ### Numbering -/

/-- What `number` knows of the lines that it has numbered. -/
def seen (board : Leaderboard L) (cs done : List (Float × L)) : Option (Float × Nat) :=
  done.getLast?.map fun b => (b.1, (board.standing cs b).rank)

section Step

variable {done rest : List (Float × L)} {c : Float × L} (h : board.Sorted (done ++ c :: rest))

include h

theorem Sorted.before {d : Float × L} (hd : d ∈ done) : board.placeOf d ≤ board.placeOf c :=
  (List.pairwise_append.1 h.pairwise).2.2 d hd c (by simp)

theorem Sorted.after {d : Float × L} (hd : d ∈ rest) : board.placeOf c ≤ board.placeOf d :=
  (List.pairwise_cons.1 (List.pairwise_append.1 h.pairwise).2.1).1 d hd

theorem Sorted.pairwise_done : done.Pairwise (board.placeOf · ≤ board.placeOf ·) :=
  (List.pairwise_append.1 h.pairwise).1

theorem Sorted.pairwise_rest : rest.Pairwise (board.placeOf · ≤ board.placeOf ·) :=
  (List.pairwise_cons.1 (List.pairwise_append.1 h.pairwise).2.1).2

theorem Sorted.countAhead_rest : countAhead board.placeOf (c :: rest) c = 0 :=
  countAhead_eq_zero fun d hd => by
    obtain rfl | hd := List.mem_cons.1 hd
    · rfl
    · exact h.after hd

theorem Sorted.sameNumber_iff {d : Float × L} (hd : d ∈ done ++ c :: rest) :
    sameNumber d.1 c.1 = true ↔ board.placeOf d = board.placeOf c :=
  Metric.sameNumber_iff_place (h.ordinary d hd) (h.ordinary c (by simp))

theorem rank_step (cs : List (Float × L)) (hcs : cs = done ++ c :: rest) :
    ((board.seen cs done).filter (fun b => sameNumber b.1 c.1) |>.map Prod.snd).getD (done.length + 1) =
      (board.standing cs c).rank := by
  subst hcs
  have ahead : countAhead board.placeOf (done ++ c :: rest) c = countAhead board.placeOf done c := by
    rw [countAhead_append, h.countAhead_rest, Nat.add_zero]
  cases hlast : done.getLast? with
  | none =>
    rw [List.getLast?_eq_none_iff] at hlast
    subst hlast
    simp only [standing, ahead]
    rfl
  | some b =>
    have hb : b ∈ done := List.mem_of_getLast? hlast
    simp only [seen, hlast, Option.map_some, Option.filter_some]
    by_cases level : board.placeOf b = board.placeOf c
    · rw [if_pos ((h.sameNumber_iff (List.mem_append_left _ hb)).2 level)]
      exact congrArg (· + 1) (countAhead_congr _ level)
    · rw [if_neg (mt (h.sameNumber_iff (List.mem_append_left _ hb)).1 level)]
      have hlt : board.placeOf b < board.placeOf c := lt_of_le_of_ne (h.before hb) level
      have all : countAhead board.placeOf done c = done.length :=
        countAhead_eq_length fun d hd => (le_getLast? h.pairwise_done hlast hd).trans_lt hlt
      simp only [standing, ahead, all]
      rfl

theorem tied_step (cs : List (Float × L)) (hcs : cs = done ++ c :: rest) :
    (((board.seen cs done).filter fun b => sameNumber b.1 c.1).isSome ||
      rest.head?.any fun next => sameNumber next.1 c.1) = (board.standing cs c).tied := by
  subst hcs
  have before : ((board.seen (done ++ c :: rest) done).filter fun b => sameNumber b.1 c.1).isSome = true ↔
      0 < countLevel board.placeOf done c := by
    rw [countLevel_pos_iff_getLast? h.pairwise_done fun d hd => h.before hd]
    cases hlast : done.getLast? with
    | none => simp [seen, hlast]
    | some b =>
      have hb : b ∈ done := List.mem_of_getLast? hlast
      simp [seen, hlast, Option.filter_some, h.sameNumber_iff (List.mem_append_left _ hb)]
  have after : (rest.head?.any fun next => sameNumber next.1 c.1) = true ↔
      0 < countLevel board.placeOf rest c := by
    rw [countLevel_pos_iff_head? h.pairwise_rest fun d hd => h.after hd]
    cases hfirst : rest.head? with
    | none => simp
    | some d =>
      have hd : d ∈ rest := List.mem_of_head? hfirst
      simp [h.sameNumber_iff (show d ∈ done ++ c :: rest by simp [hd])]
  have total : countLevel board.placeOf (done ++ c :: rest) c =
      countLevel board.placeOf done c + (countLevel board.placeOf rest c + 1) := by
    rw [countLevel_append]
    exact congrArg _ (List.countP_cons_of_pos (decide_eq_true rfl))
  rw [Bool.eq_iff_iff, Bool.or_eq_true, before, after]
  simp only [standing, total, decide_eq_true_eq]
  omega

end Step

theorem number_eq_map {done cs : List (Float × L)} (h : board.Sorted (done ++ cs)) :
    number (board.seen (done ++ cs) done) done.length cs = cs.map (board.standing (done ++ cs)) := by
  induction cs generalizing done with
  | nil => rfl
  | cons c rest ih =>
    have next : number (some (c.1, (board.standing (done ++ c :: rest) c).rank)) (done.length + 1) rest =
        rest.map (board.standing (done ++ c :: rest)) := by
      simpa [seen] using @ih (done ++ [c]) (by simpa using h)
    rw [number, List.map_cons]
    simp only [rank_step h _ rfl, tied_step h _ rfl]
    rw [next]
    rfl

/-! ### Cutting -/

/-- **A cut keeps those with too few ahead of them to fill the board.** -/
theorem cut_eq_filter {cs : List (Float × L)} (h : board.Sorted cs) (limit : Nat) :
    cut limit cs = cs.filter fun c => countAhead board.placeOf cs c < limit := by
  rw [cut]
  cases hlast : (cs.take limit).getLast? with
  | none =>
    rw [eq_comm, List.filter_eq_nil_iff]
    intro c hc
    obtain hz | hnil := List.take_eq_nil_iff.1 (List.getLast?_eq_none_iff.1 hlast)
    · simp [hz]
    · simp [hnil] at hc
  | some last =>
    have room : (cs.take limit).filter (fun c => countAhead board.placeOf cs c < limit) = cs.take limit :=
      List.filter_eq_self.2 fun c hc => decide_eq_true <|
        (countAhead_mono cs (le_of_mem_take h.pairwise hlast hc)).trans_lt
          (countAhead_lt_of_getLast?_take h.pairwise hlast)
    have after (d : Float × L) (hd : d ∈ cs.drop limit) : board.placeOf last ≤ board.placeOf d :=
      le_of_mem_drop h.pairwise hlast hd
    have same (d : Float × L) (hd : d ∈ cs.drop limit) :
        sameNumber d.1 last.1 = true ↔ board.placeOf d = board.placeOf last :=
      Metric.sameNumber_iff_place (h.ordinary d (List.mem_of_mem_drop hd))
        (h.ordinary last (List.mem_of_mem_take (List.mem_of_getLast? hlast)))
    -- past the room, having too few ahead is being level with the last
    have level (d : Float × L) (hd : d ∈ cs.drop limit) :
        sameNumber d.1 last.1 = decide (countAhead board.placeOf cs d < limit) := by
      rw [Bool.eq_iff_iff, same d hd, decide_eq_true_eq]
      constructor
      · intro heq
        rw [countAhead_congr cs heq]
        exact countAhead_lt_of_getLast?_take h.pairwise hlast
      · intro hlt
        by_contra hne
        exact Nat.not_le.2 hlt (le_countAhead_of_mem_drop h.pairwise hlast hd
          (lt_of_le_of_ne (after d hd) (Ne.symm hne)))
    calc cs.take limit ++ (cs.drop limit).takeWhile (fun c => sameNumber c.1 last.1)
        = cs.take limit ++ (cs.drop limit).filter fun c => countAhead board.placeOf cs c < limit := by
          rw [takeWhile_eq_filter (h.pairwise.sublist (List.drop_sublist ..)) after same,
            List.filter_congr level]
      _ = (cs.take limit ++ cs.drop limit).filter fun c => countAhead board.placeOf cs c < limit := by
          rw [List.filter_append, room]
      _ = cs.filter fun c => countAhead board.placeOf cs c < limit := by rw [List.take_append_drop]

theorem Sorted.filter {cs : List (Float × L)} (h : board.Sorted cs) (keep : Float × L → Bool) :
    board.Sorted (cs.filter keep) :=
  ⟨h.pairwise.sublist List.filter_sublist, fun c hc => h.ordinary c (List.mem_of_mem_filter hc)⟩

/-- Whoever is no further than a line on the board is on the board. -/
theorem countP_cut {cs : List (Float × L)} (h : board.Sorted cs) {limit : Nat} {c : Float × L}
    (hc : c ∈ cut limit cs) {keep : Float × L → Bool}
    (hkeep : ∀ d, keep d = true → board.placeOf d ≤ board.placeOf c) :
    (cut limit cs).countP keep = cs.countP keep := by
  rw [cut_eq_filter h] at hc ⊢
  have hlt : countAhead board.placeOf cs c < limit := of_decide_eq_true (List.mem_filter.1 hc).2
  rw [List.countP_filter]
  refine List.countP_congr fun d _ => ?_
  rw [Bool.and_eq_true, decide_eq_true_eq, and_iff_left_iff_imp]
  exact fun hd => (countAhead_mono cs (hkeep d hd)).trans_lt hlt

/-- Standing is the same on the board as among all. -/
theorem standing_cut {cs : List (Float × L)} (h : board.Sorted cs) {limit : Nat} {c : Float × L}
    (hc : c ∈ cut limit cs) : board.standing (cut limit cs) c = board.standing cs c := by
  have ahead : countAhead board.placeOf (cut limit cs) c = countAhead board.placeOf cs c :=
    countP_cut h hc fun d hd => (of_decide_eq_true hd).le
  have level : countLevel board.placeOf (cut limit cs) c = countLevel board.placeOf cs c :=
    countP_cut h hc fun d hd => (of_decide_eq_true hd).le
  rw [standing, standing, ahead, level]

/-- **A numbered cut says of each line on it how it stands among all.** -/
theorem number_cut {cs : List (Float × L)} (h : board.Sorted cs) (limit : Nat) :
    number none 0 (cut limit cs) = (cut limit cs).map (board.standing cs) := by
  have hcut : board.Sorted ([] ++ cut limit cs) := by
    rw [List.nil_append, cut_eq_filter h]
    exact h.filter _
  exact (number_eq_map hcut).trans (List.map_congr_left fun c hc => standing_cut h hc)

/-- A board for three, with room for the fourth who is level with the third. -/
example : (number none 0 (cut 3 [(5, "p0"), (5, "p1"), (4, "p2"), (4, "p3"), (3, "p4")])).map
    (fun l => (l.rank, l.tied, l.line)) =
      [(1, true, "p0"), (1, true, "p1"), (3, true, "p2"), (3, true, "p3")] := by
  decide +kernel

/-! ### The candidates -/

variable {ls : List L}

theorem map_snd_candidates : (board.candidates ls).map Prod.snd = ls.filter board.eligible := by
  rw [candidates, List.map_filterMap, List.filterMap_filter, ← List.filterMap_eq_filter]
  refine List.filterMap_congr fun l _ => ?_
  rw [Option.guard, eligible]
  cases board.metric.value? l <;> cases board.qualify?.all (· l) <;> rfl

theorem mem_candidates {c : Float × L} (h : c ∈ board.candidates ls) :
    c.2 ∈ ls ∧ board.metric.value? c.2 = some c.1 := by
  obtain ⟨l, hl, hv⟩ := List.mem_filterMap.1 h
  obtain ⟨x, hx, rfl⟩ := Option.map_eq_some_iff.1 hv
  exact ⟨List.mem_of_mem_filter hl, hx⟩

theorem candidates_perm {ks : List L} (h : ls.Perm ks) :
    (board.candidates ls).Perm (board.candidates ks) :=
  (h.filter _).filterMap _

variable [StatLine L]

/-- Candidates are compared by place, and by key among equals. -/
def comparison (board : Leaderboard L) : Float × L → Float × L → Ordering :=
  compareLex (compareOn board.placeOf) (compareOn fun c => StatLine.key c.2)

instance : Std.TransCmp board.comparison :=
  inferInstanceAs (Std.TransCmp (compareLex (compareOn _) (compareOn _)))

theorem mayLead_iff {a b : Float × L} : board.mayLead a b = true ↔
    board.placeOf a < board.placeOf b ∨ board.placeOf a = board.placeOf b ∧
      (compare (StatLine.key a.2) (StatLine.key b.2)).isLE = true := by
  rw [← compare_lt_iff_lt, ← compare_eq_iff_eq (a := board.placeOf a)]
  exact Ordering.isLE_then_iff_or

theorem ordered_perm : (board.ordered ls).Perm (board.candidates ls) := List.mergeSort_perm ..

theorem pairwise_ordered : (board.ordered ls).Pairwise (board.mayLead · · = true) :=
  pairwise_mergeSort_isLE board.comparison _

theorem sorted_ordered (h : ∀ x ∈ ls.filterMap board.metric.value?, Ordinary x) :
    board.Sorted (board.ordered ls) where
  pairwise := pairwise_ordered.imp fun hab => (mayLead_iff.1 hab).elim le_of_lt fun heq => heq.1.le
  ordinary c hc := h c.1 (List.mem_filterMap.2 ⟨c.2, mem_candidates (ordered_perm.mem_iff.1 hc)⟩)

theorem linesAhead_eq (h : ∀ x ∈ ls.filterMap board.metric.value?, Ordinary x)
    {c : Float × L} (hc : c ∈ board.ordered ls) :
    board.linesAhead ls c.2 = countAhead board.placeOf (board.ordered ls) c := by
  rw [linesAhead, ← map_snd_candidates, List.countP_map, countAhead, ordered_perm.countP_eq]
  have hs := sorted_ordered h
  refine List.countP_congr fun d hd => ?_
  have hd' := ordered_perm.mem_iff.2 hd
  simp only [Function.comp_apply, Metric.isAhead, (mem_candidates hd).2,
    (mem_candidates (ordered_perm.mem_iff.1 hc)).2, decide_eq_true_eq]
  exact (Metric.place_lt_place (hs.ordinary d hd') (hs.ordinary c hc)).symm

theorem linesLevel_eq {c : Float × L} (hc : c ∈ board.ordered ls) :
    board.linesLevel ls c.2 = countLevel board.placeOf (board.ordered ls) c := by
  rw [linesLevel, ← map_snd_candidates, List.countP_map, countLevel, ordered_perm.countP_eq]
  refine List.countP_congr fun d hd => ?_
  simp only [Function.comp_apply, Metric.isLevel, (mem_candidates hd).2,
    (mem_candidates (ordered_perm.mem_iff.1 hc)).2, decide_eq_true_eq, Option.some.injEq]
  exact Metric.place_eq_place.symm

theorem rank_eq_map (h : ∀ x ∈ ls.filterMap board.metric.value?, Ordinary x) :
    board.rank ls =
      ((board.ordered ls).filter fun c => countAhead board.placeOf (board.ordered ls) c < board.limit).map
        (board.standing (board.ordered ls)) := by
  rw [rank, number_cut (sorted_ordered h), cut_eq_filter (sorted_ordered h)]

theorem settled_of_ordinary (h : ∀ x ∈ ls.filterMap board.metric.value?, Ordinary x) :
    board.Settled ls (board.rank ls) := by
  have hs := sorted_ordered h
  have mem {l : Leader L} (hl : l ∈ board.rank ls) :
      ∃ c ∈ board.ordered ls, l = board.standing (board.ordered ls) c := by
    rw [rank_eq_map h] at hl
    obtain ⟨c, hc, rfl⟩ := List.mem_map.1 hl
    exact ⟨c, List.mem_of_mem_filter hc, rfl⟩
  refine ⟨?_, fun l hl => ?_, fun l hl => ?_, fun l hl => ?_, ?_⟩
  · have hroom : ((board.ordered ls).filter fun c => board.linesAhead ls c.2 < board.limit) =
        (board.ordered ls).filter fun c => countAhead board.placeOf (board.ordered ls) c < board.limit :=
      List.filter_congr fun c hc => by rw [linesAhead_eq h hc]
    rw [rank_eq_map h, List.map_map, ← hroom, ← map_snd_candidates, List.filter_map]
    exact (ordered_perm.filter _).map _
  · obtain ⟨c, hc, rfl⟩ := mem hl
    exact (mem_candidates (ordered_perm.mem_iff.1 hc)).2
  · obtain ⟨c, hc, rfl⟩ := mem hl
    rw [standing, linesAhead_eq h hc, Nat.add_comm]
  · obtain ⟨c, hc, rfl⟩ := mem hl
    rw [standing, linesLevel_eq hc, decide_eq_true_eq]
  · rw [rank_eq_map h, List.pairwise_map]
    refine (pairwise_ordered.sublist List.filter_sublist).imp_of_mem fun {a b} ha hb hab => ?_
    refine (mayLead_iff.1 hab).imp (fun hlt => ?_) fun heq => ⟨Metric.place_eq_place.1 heq.1, heq.2⟩
    exact (Metric.place_lt_place (hs.ordinary a (List.mem_of_mem_filter ha))
      (hs.ordinary b (List.mem_of_mem_filter hb))).1 hlt

theorem rank_eq_of_perm {ks : List L} (h : ls.Perm ks)
    (hkeys : ((ls.filter board.eligible).map StatLine.key).Nodup) : board.rank ks = board.rank ls := by
  rw [← map_snd_candidates, List.map_map] at hkeys
  have hordered : board.ordered ls = board.ordered ks :=
    mergeSort_isLE_eq_of_perm board.comparison (candidates_perm h) fun a ha b hb heq =>
      List.inj_on_of_nodup_map hkeys ha hb
        (Std.LawfulEqCmp.compare_eq_iff_eq.1 (Ordering.then_eq_eq.1 heq).2)
  rw [rank, rank, hordered]

/-- **A ranking is settled by the lines and not by their order.** Where the values of the lines are
ordinary, the board has the lines that fewer are ahead of than there is room for, each with one more
than those ahead of it as its rank and marked as tied if another has its value, best first and by key
among equals; if no two of the lines that can be ranked have one key, any order of the same lines makes
the same board. -/
theorem settled_rank (board : Leaderboard L) (ls : List L)
    (h : ∀ x ∈ ls.filterMap board.metric.value?, Ordinary x) :
    board.Settled ls (board.rank ls) ∧
      (((ls.filter board.eligible).map StatLine.key).Nodup →
        ∀ ks, ls.Perm ks → board.rank ks = board.rank ls) :=
  ⟨settled_of_ordinary h, fun hkeys _ hks => rank_eq_of_perm hks hkeys⟩

/-- Five hitters, two of them level at the top and two across the cut of a board for three. -/
def fiveHitters : List BattingLine :=
  [("p4", 3), ("p2", 4), ("p0", 5), ("p3", 4), ("p1", 5)].map fun (player, hr) =>
    { player, team := "TM", counts := { hr } }

/-- A board for the three who hit most home runs. -/
def homeRunBoard : Leaderboard BattingLine where
  metric := .count "HR" (·.counts.hr)
  limit := 3

theorem settled_rank_fiveHitters :
    (∀ x ∈ fiveHitters.filterMap homeRunBoard.metric.value?, Ordinary x) ∧
      homeRunBoard.Settled fiveHitters (homeRunBoard.rank fiveHitters) ∧
      homeRunBoard.rank fiveHitters.reverse = homeRunBoard.rank fiveHitters := by
  have ordinary : ∀ x ∈ fiveHitters.filterMap homeRunBoard.metric.value?, Ordinary x := by
    decide +kernel
  have keys : ((fiveHitters.filter homeRunBoard.eligible).map StatLine.key).Nodup := by
    decide +kernel
  have settled := settled_rank homeRunBoard fiveHitters ordinary
  exact ⟨ordinary, settled.1, settled.2 keys _ (List.reverse_perm _).symm⟩

end Leaderboard

end Baseball
