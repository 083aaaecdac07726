import Baseball.Proofs.Sorting
import Baseball.Proofs.WonLost

/-!
# The running record in a game log

A game log writes a row for every game when it is seen, and in it the record of the team after all
its games that have been seen. The rows of a team are shown by date, and the games of a day by
number. The records in them are those of the rows: they do not change when the rows are sorted.

So what is shown is a running record only if there was nothing to sort. For the record of a row tells
how many games of the team had been seen: it tells the place that the row had before, and in a
running record also the place that it has now.

## Main definitions

* `GameLogRow.Running` — every row shows the outcomes up to it
* `GameLog.SeenInOrder` — the games of a team were seen by date and number

## Main results

* `GameLogRow.Running.eq_of_perm` — rows that can run in two orders do not exist
* `GameLog.Faithful.running_forTeam_iff` — what is shown runs if it did not have to be sorted
* `GameLog.pairwise_mayPrecede_iff` — the order of the rows is that of the games
* `GameLog.shown_addGames` — what is shown of a team, and when its record runs
-/

namespace Baseball

instance : Std.TransOrd Date :=
  inferInstanceAs (Std.TransCmp
    (compareLex (compareOn Date.year) (compareLex (compareOn Date.month) (compareOn Date.day))))

namespace GameLogRow

variable {rows rows' : List GameLogRow}

/-- **A running record**: every row shows how many games were won, lost and tied in the rows up to
it. -/
def Running (rows : List GameLogRow) : Prop :=
  ∀ earlier row later, rows = earlier ++ row :: later → row.record = wonLost (earlier ++ [row])

/-- In a running record a row shows as many games as there are rows up to it. -/
theorem Running.games_getElem (h : Running rows) {i : Nat} (hi : i < rows.length) :
    rows[i].wins + rows[i].losses + rows[i].ties = i + 1 := by
  have hsplit : rows = rows.take i ++ rows[i] :: rows.drop (i + 1) := by
    rw [← List.drop_eq_getElem_cons hi, List.take_append_drop]
  have hrecord := h _ _ _ hsplit
  have hlength := TeamRecord.length_eq_wonLost (rows.take i ++ [rows[i]])
  rw [← hrecord, List.length_append, List.length_take_of_le hi.le] at hlength
  exact hlength.symm

/-- **Rows run in one order only.** -/
theorem Running.eq_of_perm (h : Running rows) (h' : Running rows') (hperm : rows.Perm rows') :
    rows = rows' := by
  refine List.ext_getElem hperm.length_eq fun i hi hi' => ?_
  -- the row has a place in the other list, which its record tells to be the same
  obtain ⟨j, hj, hrow⟩ := List.getElem_of_mem (hperm.mem_iff.mp (List.getElem_mem hi))
  have hgames := h.games_getElem hi
  rw [← hrow, h'.games_getElem hj] at hgames
  obtain rfl : j = i := by omega
  exact hrow.symm

end GameLogRow

namespace GameLog

open GameLogRow

variable {log : GameLog} {team : String}

/-- **The games of a team were seen in order**, by date and by number. -/
def SeenInOrder (played : List (Game × BoxScore)) (team : String) : Prop :=
  (played.filter fun gb => Side.both.any fun side => (gb.2.team side).team == team).Pairwise
    fun x y => (compareLex (compareOn Game.date) (compareOn Game.number) x.1 y.1).isLE

instance (played : List (Game × BoxScore)) (team : String) : Decidable (SeenInOrder played team) :=
  inferInstanceAs (Decidable (List.Pairwise _ _))

/-! ### What is shown -/

/-- The rows of a team are shown in order, -/
theorem pairwise_forTeam (log : GameLog) (team : String) :
    (log.forTeam team).Pairwise fun a b => mayPrecede a b :=
  pairwise_mergeSort_isLE (compareLex (compareOn GameLogRow.date) (compareOn GameLogRow.number)) _

/-- and they are its rows. -/
theorem forTeam_perm (log : GameLog) (team : String) :
    (log.forTeam team).Perm (ofTeam log.rows team) :=
  List.mergeSort_perm ..

/-- The column of the records in a printed log. -/
theorem recordColumn_table (book : Scorebook) (log : GameLog) (team : String) :
    (log.table book team).rows.map (·[7]?) =
      (log.forTeam team).map fun row => some (recordText row) := by
  have hrows : (log.table book team).rows = [] ++ _ := rfl
  rw [hrows, List.nil_append, List.map_map]
  rfl

/-! ### When a record runs -/

/-- The rows of a faithful log run in the order in which the games were seen. -/
theorem Faithful.running_ofTeam (h : log.Faithful) (team : String) :
    Running (ofTeam log.rows team) :=
  fun _ _ _ hsplit => h.record_ofTeam hsplit

/-- **What is shown runs** exactly if it did not have to be sorted. -/
theorem Faithful.running_forTeam_iff (h : log.Faithful) (team : String) :
    Running (log.forTeam team) ↔ (ofTeam log.rows team).Pairwise fun a b => mayPrecede a b := by
  constructor
  · intro hrunning
    have hsame := hrunning.eq_of_perm (h.running_ofTeam team) (log.forTeam_perm team)
    rw [← hsame]
    exact log.pairwise_forTeam team
  · intro hsorted
    have hsame : log.forTeam team = ofTeam log.rows team := List.mergeSort_of_pairwise hsorted
    rw [hsame]
    exact h.running_ofTeam team

/-! ### Rows and games -/

/-- Whose a row is, and when its game was played. -/
def heading (row : GameLogRow) : String × Date × Nat := (row.team, row.date, row.number)

theorem map_heading_addGames (log : GameLog) (played : List (Game × BoxScore)) :
    (GameTally.addGames log played).rows.map heading = log.rows.map heading ++
      played.flatMap fun gb =>
        Side.both.map fun side => ((gb.2.team side).team, gb.1.date, gb.1.number) := by
  induction played generalizing log with
  | nil => exact (List.append_nil _).symm
  | cons gb played ih =>
    have hgame : (GameTally.addBox log gb.1 gb.2).rows.map heading = log.rows.map heading ++
        Side.both.map fun side => ((gb.2.team side).team, gb.1.date, gb.1.number) := by
      change ((log.rows ++ [_]) ++ [_]).map heading = _
      rw [List.map_append, List.map_append, List.append_assoc]
      rfl
    rw [List.flatMap_cons, ← List.append_assoc, ← hgame]
    exact ih _

/-- **The order of the rows of a team** is that of its games. -/
theorem pairwise_mayPrecede_iff (played : List (Game × BoxScore)) (team : String) :
    (ofTeam (GameTally.addGames ({} : GameLog) played).rows team).Pairwise
        (fun a b => mayPrecede a b) ↔
      SeenInOrder played team := by
  let before (x y : String × Date × Nat) : Prop :=
    (x.1 == team) = true → (y.1 == team) = true →
      (compareLex (compareOn Prod.fst) (compareOn Prod.snd) x.2 y.2).isLE = true
  have hrows : (ofTeam (GameTally.addGames ({} : GameLog) played).rows team).Pairwise
      (fun a b => mayPrecede a b) ↔
        ((GameTally.addGames ({} : GameLog) played).rows.map heading).Pairwise before := by
    rw [ofTeam, List.pairwise_filter, List.pairwise_map]
    rfl
  rw [hrows, map_heading_addGames, List.map_nil, List.nil_append, List.pairwise_flatMap,
    SeenInOrder, List.pairwise_filter]
  constructor
  · rintro ⟨-, hgames⟩
    refine hgames.imp fun {x y} hxy hx hy => ?_
    obtain ⟨side, hside, hx⟩ := List.any_eq_true.mp hx
    obtain ⟨side', hside', hy⟩ := List.any_eq_true.mp hy
    exact hxy _ (List.mem_map_of_mem hside) _ (List.mem_map_of_mem hside') hx hy
  · intro hgames
    refine ⟨fun gb _ => ?_, hgames.imp fun {x y} hxy => ?_⟩
    · -- both rows of a game are of its day
      refine List.pairwise_map.mpr (List.pairwise_of_forall fun _ _ _ _ => ?_)
      have hday : compareLex (compareOn Prod.fst) (compareOn Prod.snd) (gb.1.date, gb.1.number)
          (gb.1.date, gb.1.number) = .eq := Std.ReflCmp.compare_self
      exact hday ▸ rfl
    · intro a ha c hc hateam hcteam
      obtain ⟨side, hside, rfl⟩ := List.mem_map.mp ha
      obtain ⟨side', hside', rfl⟩ := List.mem_map.mp hc
      exact hxy (List.any_eq_true.mpr ⟨side, hside, hateam⟩)
        (List.any_eq_true.mpr ⟨side', hside', hcteam⟩)

/-- **What a log shows of a team**: its rows by date and number, each with its record when the game
was seen. So the column of records counts the games up to each row in the order in which they were
seen, and it counts the rows up to each row as they are shown exactly if the games were seen in
order. -/
theorem shown_addGames (played : List (Game × BoxScore)) (team : String) :
    let log := GameTally.addGames ({} : GameLog) played
    Running (ofTeam log.rows team) ∧
    (log.forTeam team).Perm (ofTeam log.rows team) ∧
    (log.forTeam team).Pairwise (fun a b => mayPrecede a b) ∧
    (∀ book, (log.table book team).rows.map (·[7]?) =
      (log.forTeam team).map fun row => some (recordText row)) ∧
    (Running (log.forTeam team) ↔ SeenInOrder played team) := by
  intro log
  have hfaithful : log.Faithful := faithful_empty.addGames played
  refine ⟨hfaithful.running_ofTeam team, log.forTeam_perm team, log.pairwise_forTeam team,
    fun book => recordColumn_table book log team, ?_⟩
  rw [hfaithful.running_forTeam_iff, pairwise_mayPrecede_iff]

/-- The visitors strike out in order, and the hosts hit a home run. -/
def lostOpener : Game where
  id := "G1"
  date := { year := 2024, month := 6, day := 1, isDate := by decide }
  visitor := "VIS"
  home := "HOM"
  starters := ⟨[⟨"v1", 1, .pitcher⟩, ⟨"v2", 2, .catcher⟩, ⟨"v3", 3, .firstBase⟩],
    [⟨"h1", 1, .pitcher⟩, ⟨"h2", 2, .catcher⟩]⟩
  events := [.play (.ofKind .strikeout), .play (.ofKind .strikeout), .play (.ofKind .strikeout),
    .play (.ofKind .homeRun)]

/-- The day after, the visitors hit one. -/
def wonSecond : Game :=
  { lostOpener with
    id := "G2"
    date := { year := 2024, month := 6, day := 2, isDate := by decide }
    events := [.play (.ofKind .homeRun)] }

/-- If the second game is seen first, the row of the opener, which was lost, is shown first and has a
win in it. -/
theorem shown_backwards : ∃ b₁ b₂ row₁ row₂, BoxScore.ofGame lostOpener = .ok b₁ ∧
    BoxScore.ofGame wonSecond = .ok b₂ ∧
    (GameTally.addGames ({} : GameLog) [(wonSecond, b₂), (lostOpener, b₁)]).forTeam "VIS" =
      [row₁, row₂] ∧
    row₁.outcome = .loss ∧ row₁.record = (1, 1, 0) ∧ row₂.record = (1, 0, 0) ∧
    ¬Running [row₁, row₂] := by
  have hrows : ((BoxScore.ofGame lostOpener).toOption.bind fun b₁ =>
      (BoxScore.ofGame wonSecond).toOption.map fun b₂ =>
        (ofTeam (GameTally.addGames ({} : GameLog) [(wonSecond, b₂), (lostOpener, b₁)]).rows
          "VIS").map fun row => (row.date, row.outcome, row.record)) =
      some [(wonSecond.date, .win, 1, 0, 0), (lostOpener.date, .loss, 1, 1, 0)] := by decide +kernel
  obtain ⟨b₁, hb₁, hrows⟩ := Option.bind_eq_some_iff.mp hrows
  obtain ⟨b₂, hb₂, hrows⟩ := Option.map_eq_some_iff.mp hrows
  obtain ⟨row₂, rest, hteam, hrow₂, hrest⟩ := List.map_eq_cons_iff.mp hrows
  obtain ⟨row₁, rest, rfl, hrow₁, hnil⟩ := List.map_eq_cons_iff.mp hrest
  obtain rfl := List.map_eq_nil_iff.mp hnil
  obtain ⟨hdate₂, -, hrecord₂⟩ := by simpa only [Prod.mk.injEq] using hrow₂
  obtain ⟨hdate₁, houtcome₁, hrecord₁⟩ := by simpa only [Prod.mk.injEq] using hrow₁
  have hbackwards : mayPrecede row₂ row₁ = false := by
    have hlater : compareOn GameLogRow.date row₂ row₁ = .gt := by
      rw [compareOn, hdate₁, hdate₂]
      decide
    rw [mayPrecede, compareLex, hlater]
    rfl
  refine ⟨b₁, b₂, row₁, row₂, toOption_eq_some_iff.mp hb₁, toOption_eq_some_iff.mp hb₂, ?_,
    houtcome₁, hrecord₁, hrecord₂, fun hrunning => ?_⟩
  · change (ofTeam _ "VIS").mergeSort mayPrecede = _
    rw [hteam]
    simp [List.mergeSort, List.MergeSort.Internal.splitInTwo, hbackwards]
  · have hfirst := hrunning [] row₁ [row₂] rfl
    rw [hrecord₁, List.nil_append, wonLost] at hfirst
    simp [houtcome₁] at hfirst

end GameLog

end Baseball
