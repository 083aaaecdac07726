import Baseball.Proofs.Totals

/-!
# Games won and lost

Every game makes a row of the log for each of its teams, and goes into the record of each. So a
record has to be what the team's rows count, and the row that was written last has to show it. And
because what one team wins the other loses, at its own site and by the same runs, the records of all
teams together balance.

Standings and the game log both keep records, by the same rule. They are followed at the same time,
one side of one game after the other.

## Main definitions

* `GameLog.rowsOf` — the rows of a team, in the order in which its games were seen
* `GameLogRow.counts` — what a row counts towards a record
* `RecordCounts.mirror` — what the opponents have of the same games
* `Standings.Matches` — records are what the rows of a log count
* `GameLog.Faithful` — rows show their own outcomes and the records after them
* `TeamRecord.IsOf`, `Standings.Balanced` — what is to hold of the records after a scan

## Main results

* `Standings.Matches.addSide`, `GameLog.Faithful.addSide` — one side of one game
* `Standings.mirror_total_addBox` — what all teams have, their opponents have
* `matches_addGames` — records and rows after some games
* `Season.records_match` — and after a scan
-/

namespace Baseball

/-! ### What one game counts -/

namespace GameLogRow

/-- The difference in runs. -/
def margin (row : GameLogRow) : Nat := ((row.runsFor : Int) - row.runsAgainst).natAbs

/-- What a row counts towards a record. -/
def counts (row : GameLogRow) : RecordCounts where
  hw := (row.home && row.outcome == .win).toNat
  hl := (row.home && row.outcome == .loss).toNat
  ht := (row.home && row.outcome == .tie).toNat
  rw := (!row.home && row.outcome == .win).toNat
  rl := (!row.home && row.outcome == .loss).toNat
  rt := (!row.home && row.outcome == .tie).toNat
  ow := (row.outcome == .win && row.margin == 1).toNat
  ol := (row.outcome == .loss && row.margin == 1).toNat
  xw := (row.outcome == .win && decide (9 < row.innings)).toNat
  xl := (row.outcome == .loss && decide (9 < row.innings)).toNat
  rs := row.runsFor
  ra := row.runsAgainst

/-- A game is decided by one run if the difference is one. -/
theorem margin_eq_one (row : GameLogRow) : (row.margin == 1) =
    (row.runsFor == row.runsAgainst + 1 || row.runsAgainst == row.runsFor + 1) := by
  rw [Bool.eq_iff_iff, Bool.or_eq_true, beq_iff_eq, beq_iff_eq, beq_iff_eq, margin]
  omega

/-- **What a row counts is what its game counts for the team.** -/
theorem counts_eq_ofGame {row : GameLogRow} {side : Side} (hhome : row.home = (side == .home))
    (houtcome : row.outcome = .of row.runsFor row.runsAgainst) :
    row.counts = .ofGame side row.runsFor row.runsAgainst row.innings := by
  rw [counts, margin_eq_one, hhome, houtcome]
  cases h : Outcome.of row.runsFor row.runsAgainst <;> cases side <;>
    simp only [RecordCounts.ofGame, h] <;> rfl

end GameLogRow

namespace RecordCounts

/-- What the opponents have of the same games: their losses are the wins, and they were on the road
where the team was at home. -/
def mirror : RecordCounts →+ RecordCounts where
  toFun c := {
    hw := c.rl, hl := c.rw, ht := c.rt, rw := c.hl, rl := c.hw, rt := c.ht
    ow := c.ol, ol := c.ow, xw := c.xl, xl := c.xw, rs := c.ra, ra := c.rs }
  map_zero' := rfl
  map_add' _ _ := rfl

/-- **A game from the other side.** -/
theorem mirror_ofGame (side : Side) (runsFor runsAgainst innings : Nat) :
    mirror (ofGame side runsFor runsAgainst innings) =
      ofGame side.opponent runsAgainst runsFor innings := by
  have hclose : (runsAgainst == runsFor + 1 || runsFor == runsAgainst + 1) =
      (runsFor == runsAgainst + 1 || runsAgainst == runsFor + 1) := Bool.or_comm ..
  have hswap := Outcome.of_swap runsFor runsAgainst
  cases h : Outcome.of runsFor runsAgainst <;> rw [h] at hswap <;> cases side <;>
    simp only [ofGame, h, hswap, Outcome.reverse, Side.opponent, hclose] <;> rfl

end RecordCounts

/-! ### Rows and records -/

namespace GameLogRow

/-- The rows of a team, in their order. -/
def ofTeam (rows : List GameLogRow) (team : String) : List GameLogRow :=
  rows.filter (·.team == team)

/-- How many games were won, lost and tied. -/
def wonLost (rows : List GameLogRow) : Nat × Nat × Nat :=
  (rows.countP (·.outcome == .win), rows.countP (·.outcome == .loss),
    rows.countP (·.outcome == .tie))

/-- The record that a row shows. -/
def record (row : GameLogRow) : Nat × Nat × Nat := (row.wins, row.losses, row.ties)

variable {rows : List GameLogRow} {team : String}

theorem sum_counts_concat (rows : List GameLogRow) (row : GameLogRow) (team : String) :
    ((ofTeam (rows ++ [row]) team).map counts).sum =
      ((ofTeam rows team).map counts).sum + if row.team = team then row.counts else 0 := by
  rw [ofTeam, List.filter_append, List.map_append, List.sum_append, ofTeam]
  refine congrArg (_ + ·) ?_
  by_cases h : row.team = team <;> simp [h]

/-- A number that adds up over games counts the rows that have one of it. -/
theorem apply_sum_counts (c : RecordCounts →+ Nat) {p : GameLogRow → Bool}
    (hp : ∀ row, c row.counts = (p row).toNat) (rows : List GameLogRow) :
    c (rows.map counts).sum = rows.countP p := by
  rw [map_list_sum, List.map_map]
  exact sum_map_eq_countP fun row _ => hp row

end GameLogRow

open GameLogRow

/-- **A record is that of some rows**: it counts them by site and outcome, and the close and the long
games among them; it adds up their runs; and the last of them shows it. -/
structure TeamRecord.IsOf (r : TeamRecord) (rows : List GameLogRow) : Prop where
  games : r.gamesPlayed = rows.length
  hw : r.counts.hw = rows.countP fun row => row.home && row.outcome == .win
  hl : r.counts.hl = rows.countP fun row => row.home && row.outcome == .loss
  ht : r.counts.ht = rows.countP fun row => row.home && row.outcome == .tie
  rw : r.counts.rw = rows.countP fun row => !row.home && row.outcome == .win
  rl : r.counts.rl = rows.countP fun row => !row.home && row.outcome == .loss
  rt : r.counts.rt = rows.countP fun row => !row.home && row.outcome == .tie
  ow : r.counts.ow = rows.countP fun row => row.outcome == .win && row.margin == 1
  ol : r.counts.ol = rows.countP fun row => row.outcome == .loss && row.margin == 1
  xw : r.counts.xw = rows.countP fun row => row.outcome == .win && decide (9 < row.innings)
  xl : r.counts.xl = rows.countP fun row => row.outcome == .loss && decide (9 < row.innings)
  rs : r.counts.rs = (rows.map GameLogRow.runsFor).sum
  ra : r.counts.ra = (rows.map GameLogRow.runsAgainst).sum
  last : ∀ row, rows.getLast? = some row → row.record = (r.wins, r.losses, r.ties)

namespace TeamRecord

variable {r : TeamRecord} {rows : List GameLogRow}

theorem toNat_and_add (home x : Bool) : (home && x).toNat + (!home && x).toNat = x.toNat := by
  cases home <;> simp

/-- Wins at home and on the road are the games won, and so for losses and ties. -/
theorem wonLost_of_counts (h : r.counts = (rows.map GameLogRow.counts).sum) :
    (r.wins, r.losses, r.ties) = wonLost rows := by
  have hwins := apply_sum_counts ⟨⟨fun c => c.hw + c.rw, rfl⟩, fun _ _ => add_add_add_comm ..⟩
    (fun row => toNat_and_add row.home (row.outcome == .win)) rows
  have hlosses := apply_sum_counts ⟨⟨fun c => c.hl + c.rl, rfl⟩, fun _ _ => add_add_add_comm ..⟩
    (fun row => toNat_and_add row.home (row.outcome == .loss)) rows
  have hties := apply_sum_counts ⟨⟨fun c => c.ht + c.rt, rfl⟩, fun _ _ => add_add_add_comm ..⟩
    (fun row => toNat_and_add row.home (row.outcome == .tie)) rows
  rw [wins, losses, ties, h, wonLost, ← hwins, ← hlosses, ← hties]
  rfl

/-- A game is won, lost or tied. -/
theorem length_eq_wonLost (rows : List GameLogRow) :
    rows.length = (wonLost rows).1 + (wonLost rows).2.1 + (wonLost rows).2.2 := by
  induction rows with
  | nil => rfl
  | cons row rows ih =>
    simp only [wonLost, List.countP_cons, List.length_cons] at ih ⊢
    rw [ih]
    cases row.outcome <;> simp <;> omega

/-- What the rows of a record come to, number by number. -/
theorem isOf_of_counts (h : r.counts = (rows.map GameLogRow.counts).sum)
    (hlast : ∀ row, rows.getLast? = some row → row.record = wonLost rows) : r.IsOf rows := by
  have hrecord := wonLost_of_counts h
  have hcount (c : RecordCounts →+ Nat) {p : GameLogRow → Bool}
      (hp : ∀ row, c row.counts = (p row).toNat) : c r.counts = rows.countP p := by
    rw [h, apply_sum_counts c hp]
  have hsum (c : RecordCounts →+ Nat) {f : GameLogRow → Nat} (hf : ∀ row, c row.counts = f row) :
      c r.counts = (rows.map f).sum := by
    rw [h, map_list_sum, List.map_map]
    exact congrArg List.sum (List.map_congr_left fun row _ => hf row)
  constructor
  case games =>
    rw [length_eq_wonLost, ← hrecord]
    rfl
  case hw => exact hcount ⟨⟨RecordCounts.hw, rfl⟩, fun _ _ => rfl⟩ fun _ => rfl
  case hl => exact hcount ⟨⟨RecordCounts.hl, rfl⟩, fun _ _ => rfl⟩ fun _ => rfl
  case ht => exact hcount ⟨⟨RecordCounts.ht, rfl⟩, fun _ _ => rfl⟩ fun _ => rfl
  case rw => exact hcount ⟨⟨RecordCounts.rw, rfl⟩, fun _ _ => rfl⟩ fun _ => rfl
  case rl => exact hcount ⟨⟨RecordCounts.rl, rfl⟩, fun _ _ => rfl⟩ fun _ => rfl
  case rt => exact hcount ⟨⟨RecordCounts.rt, rfl⟩, fun _ _ => rfl⟩ fun _ => rfl
  case ow => exact hcount ⟨⟨RecordCounts.ow, rfl⟩, fun _ _ => rfl⟩ fun _ => rfl
  case ol => exact hcount ⟨⟨RecordCounts.ol, rfl⟩, fun _ _ => rfl⟩ fun _ => rfl
  case xw => exact hcount ⟨⟨RecordCounts.xw, rfl⟩, fun _ _ => rfl⟩ fun _ => rfl
  case xl => exact hcount ⟨⟨RecordCounts.xl, rfl⟩, fun _ _ => rfl⟩ fun _ => rfl
  case rs => exact hsum ⟨⟨RecordCounts.rs, rfl⟩, fun _ _ => rfl⟩ fun _ => rfl
  case ra => exact hsum ⟨⟨RecordCounts.ra, rfl⟩, fun _ _ => rfl⟩ fun _ => rfl
  case last =>
    intro row hrow
    rw [hlast row hrow, hrecord]

end TeamRecord

/-! ### Records that match a log -/

/-- **Records match some rows**: a team has a record if it has a row, and it is what its rows
count. -/
structure Standings.Matches (s : Standings) (rows : List GameLogRow) : Prop where
  listed : ∀ row ∈ rows, (s.records.get? row.team).isSome
  counts : ∀ team, (s.records.get? team).elim 0 TeamRecord.counts =
    ((ofTeam rows team).map GameLogRow.counts).sum

/-- **A log is faithful**: its own records match its rows, and every row shows the games of its team
that were won, lost and tied up to it. -/
structure GameLog.Faithful (log : GameLog) : Prop where
  records : Standings.Matches ⟨log.records⟩ log.rows
  running : ∀ earlier row later, log.rows = earlier ++ row :: later →
    row.record = wonLost (ofTeam (earlier ++ [row]) row.team)

section OneSide

variable {s : Standings} {rows : List GameLogRow} {row : GameLogRow} {b : BoxScore} {side : Side}

/-- **One side of a game** keeps the records matched to the rows, if it makes such a row. -/
theorem Standings.Matches.addSide (h : s.Matches rows) (hteam : row.team = (b.team side).team)
    (hcounts : row.counts =
      .ofGame side (b.team side).runs (b.team side.opponent).runs b.innings) :
    (s.addSide b side).Matches (rows ++ [row]) := by
  have hget (team : String) : (s.addSide b side).records.get? team =
      if team = row.team then
        some (((s.records.get? row.team).getD { team := row.team }).addGame side (b.team side).runs
          (b.team side.opponent).runs b.innings)
      else s.records.get? team := by
    rw [Standings.addSide, ← hteam]
    exact Keyed.get?_upsert ..
  constructor
  case listed =>
    intro k hk
    rw [hget]
    split
    · rfl
    · next hne =>
      rcases List.mem_append.mp hk with hk | hk
      · exact h.listed k hk
      · exact absurd (congrArg GameLogRow.team (List.mem_singleton.mp hk)) hne
  case counts =>
    intro team
    rw [hget, sum_counts_concat, ← h.counts]
    by_cases hsame : team = row.team
    · subst hsame
      rw [if_pos rfl, if_pos rfl, hcounts]
      cases s.records.get? row.team <;> rfl
    · rw [if_neg hsame, if_neg (Ne.symm hsame), add_zero]

namespace GameLog

variable {log : GameLog}

/-- The log keeps its records as standings do. -/
theorem records_addSide (g : Game) (b : BoxScore) (log : GameLog) (side : Side) :
    (⟨(log.addSide g b side).records⟩ : Standings) = Standings.addSide b ⟨log.records⟩ side := by
  refine Standings.ext (Keyed.ext fun k => ?_)
  rw [GameLog.addSide, Standings.addSide, Keyed.get?_insert, Keyed.get?_upsert]

/-- **The row that a side makes.** -/
theorem exists_row_addSide (g : Game) (b : BoxScore) (log : GameLog) (side : Side) :
    ∃ row, (log.addSide g b side).rows = log.rows ++ [row] ∧ row.team = (b.team side).team ∧
      row.counts = .ofGame side (b.team side).runs (b.team side.opponent).runs b.innings ∧
      ∃ r, (log.addSide g b side).records.get? row.team = some r ∧
        row.record = (r.wins, r.losses, r.ties) := by
  refine ⟨_, rfl, rfl, GameLogRow.counts_eq_ofGame rfl rfl, _, ?_, rfl⟩
  exact (Keyed.get?_insert ..).trans (if_pos rfl)

/-- **One side of a game** keeps the log faithful. -/
theorem Faithful.addSide (h : log.Faithful) (g : Game) (b : BoxScore) (side : Side) :
    (log.addSide g b side).Faithful := by
  obtain ⟨row, hrows, hteam, hcounts, r, hr, hrecord⟩ := exists_row_addSide g b log side
  have hrecords : Standings.Matches ⟨(log.addSide g b side).records⟩ (log.rows ++ [row]) := by
    rw [records_addSide]
    exact h.records.addSide hteam hcounts
  constructor
  case records => rwa [hrows]
  case running =>
    intro earlier row' later hsplit
    rw [hrows] at hsplit
    -- The row in question is the new one, or it was there before.
    rcases List.eq_nil_or_concat later with rfl | ⟨later, x, rfl⟩
    · obtain ⟨rfl, hrow⟩ := List.append_inj' hsplit rfl
      obtain rfl := List.singleton_inj.mp hrow
      rw [hrecord]
      refine TeamRecord.wonLost_of_counts ?_
      rw [← hrecords.counts, hr]
      rfl
    · rw [List.concat_eq_append, ← List.cons_append, ← List.append_assoc] at hsplit
      exact h.running earlier row' later (List.append_inj' hsplit rfl).1

theorem faithful_empty : ({} : GameLog).Faithful where
  records := ⟨fun _ h => (nomatch h), fun _ => rfl⟩
  running earlier _ _ h := absurd h.symm (List.append_ne_nil_of_right_ne_nil earlier (by simp))

/-- **In a faithful log every row of a team** shows its games up to it. -/
theorem Faithful.record_ofTeam (h : log.Faithful) {team : String} {earlier later : List GameLogRow}
    {row : GameLogRow} (hsplit : ofTeam log.rows team = earlier ++ row :: later) :
    row.record = wonLost (earlier ++ [row]) := by
  obtain ⟨before, rest, hrows, rfl, hrest⟩ := List.filter_eq_append_iff.mp hsplit
  obtain ⟨between, after, rfl, hbetween, hteam, -⟩ := List.filter_eq_cons_iff.mp hrest
  obtain rfl : row.team = team := by simpa using hteam
  have hshown : ofTeam (before ++ between ++ [row]) row.team =
      before.filter (·.team == row.team) ++ [row] := by
    have hnone : between.filter (·.team == row.team) = [] := List.filter_eq_nil_iff.mpr hbetween
    rw [ofTeam, List.filter_append, List.filter_append, hnone, List.append_nil]
    simp
  rw [← hshown]
  exact h.running _ row after (by rw [hrows, List.append_assoc])

/-- In a faithful log the last row of a team shows all its games. -/
theorem Faithful.last (h : log.Faithful) {team : String} {row : GameLogRow}
    (hlast : (ofTeam log.rows team).getLast? = some row) :
    row.record = wonLost (ofTeam log.rows team) := by
  obtain ⟨before, hbefore⟩ := List.getLast?_eq_some_iff.mp hlast
  rw [hbefore]
  exact h.record_ofTeam hbefore

/-- **A game** keeps the log faithful, and so do several. -/
theorem Faithful.addBox (h : log.Faithful) (g : Game) (b : BoxScore) :
    (GameTally.addBox log g b).Faithful :=
  (h.addSide g b .visitor).addSide g b .home

theorem Faithful.addGames (h : log.Faithful) (played : List (Game × BoxScore)) :
    (GameTally.addGames log played).Faithful :=
  List.foldlRecOn played _ h fun _ hlog gb _ => hlog.addBox gb.1 gb.2

end GameLog

end OneSide

/-! ### Whole games -/

namespace Standings

/-- What all teams have together. -/
def total (s : Standings) : RecordCounts := (s.records.values.map TeamRecord.counts).sum

/-- **Records that balance**: what some teams have won at home others have lost on the road, and so
on, and what some have scored others have allowed. -/
structure Balanced (s : Standings) : Prop where
  homeWins : s.total.hw = s.total.rl
  homeLosses : s.total.hl = s.total.rw
  homeTies : s.total.ht = s.total.rt
  oneRun : s.total.ow = s.total.ol
  extraInnings : s.total.xw = s.total.xl
  runs : s.total.rs = s.total.ra

variable {s : Standings} {g : Game} {b : BoxScore}

/-- What all teams have is what their opponents have, so it balances. -/
theorem balanced_of_mirror (h : s.total.mirror = s.total) : s.Balanced where
  homeWins := (congrArg RecordCounts.hw h).symm
  homeLosses := (congrArg RecordCounts.hl h).symm
  homeTies := (congrArg RecordCounts.ht h).symm
  oneRun := (congrArg RecordCounts.ow h).symm
  extraInnings := (congrArg RecordCounts.xw h).symm
  runs := (congrArg RecordCounts.rs h).symm

/-- A game adds its counts for both teams. -/
theorem total_addBox (s : Standings) (g : Game) (b : BoxScore) :
    (GameTally.addBox s g b).total = s.total
      + (.ofGame .visitor (b.team .visitor).runs (b.team .home).runs b.innings
        + .ofGame .home (b.team .home).runs (b.team .visitor).runs b.innings) := by
  have hentries := Keyed.sum_entries_foldl (w := fun _ r => r.counts) (f := TeamRecord.merge)
    (fun _ _ _ => rfl) s.records (Side.both.map b.teamRecord)
  rw [total, total, Keyed.values, Keyed.values, List.map_map, List.map_map, records_addBox]
  refine hentries.trans (congrArg (_ + ·) ?_)
  have hown (side : Side) : (b.teamRecord side).2.counts =
      .ofGame side (b.team side).runs (b.team side.opponent).runs b.innings := zero_add _
  rw [Side.both, List.map_cons, List.map_cons, List.map_cons, List.map_cons, List.sum_cons,
    List.sum_cons, hown, hown]
  exact congrArg (_ + ·) (add_zero _)

theorem mirror_total_addBox (h : s.total.mirror = s.total) (g : Game) (b : BoxScore) :
    (GameTally.addBox s g b).total.mirror = (GameTally.addBox s g b).total := by
  rw [total_addBox, map_add, map_add, h, RecordCounts.mirror_ofGame, RecordCounts.mirror_ofGame,
    add_comm (RecordCounts.ofGame _ _ _ _)]
  rfl

/-- Teams listed before they have played have nothing. -/
theorem counts_forTeams {teams : List String} {team : String} {r : TeamRecord}
    (h : (forTeams teams).records.get? team = some r) : r.counts = 0 := by
  have hinserted (l : List String) (t : Keyed String TeamRecord)
      (ht : ∀ k r, t.get? k = some r → r.counts = 0) :
      ∀ k r, ((l.map fun team => (team, ({ team } : TeamRecord))).foldl
        (fun t e => t.insert e.1 e.2) t).get? k = some r → r.counts = 0 := by
    induction l generalizing t with
    | nil => exact ht
    | cons a l ih =>
      refine ih _ fun k r hr => ?_
      rw [Keyed.get?_insert] at hr
      split at hr
      · obtain rfl := Option.some.inj hr
        rfl
      · exact ht k r hr
  exact hinserted teams ∅ (fun k r hr => nomatch hr) team r h

theorem matches_forTeams (teams : List String) : (forTeams teams).Matches [] where
  listed _ h := nomatch h
  counts team := by
    cases h : (forTeams teams).records.get? team with
    | none => rfl
    | some r => exact counts_forTeams h

theorem total_forTeams (teams : List String) : (forTeams teams).total = 0 := by
  refine List.sum_eq_zero fun c hc => ?_
  obtain ⟨r, hr, rfl⟩ := List.mem_map.mp hc
  obtain ⟨e, he, rfl⟩ := List.mem_map.mp hr
  exact counts_forTeams (Keyed.get?_of_mem_entries he)

end Standings

/-- **Records and rows after some games.** -/
theorem matches_addGames {s : Standings} {log : GameLog} (hs : s.Matches log.rows)
    (hlog : log.Faithful) (hmirror : s.total.mirror = s.total)
    (played : List (Game × BoxScore)) :
    (GameTally.addGames s played).Matches (GameTally.addGames log played).rows ∧
      (GameTally.addGames log played).Faithful ∧ (GameTally.addGames s played).Balanced := by
  induction played generalizing s log with
  | nil => exact ⟨hs, hlog, Standings.balanced_of_mirror hmirror⟩
  | cons gb played ih =>
    refine ih ?_ ?_ (Standings.mirror_total_addBox hmirror gb.1 gb.2)
    · obtain ⟨row, hrows, hteam, hcounts, -⟩ :=
        GameLog.exists_row_addSide gb.1 gb.2 log .visitor
      obtain ⟨row', hrows', hteam', hcounts', -⟩ :=
        GameLog.exists_row_addSide gb.1 gb.2 (log.addSide gb.1 gb.2 .visitor) .home
      have hboth : (GameTally.addBox log gb.1 gb.2).rows = log.rows ++ [row] ++ [row'] := by
        rw [← hrows]
        exact hrows'
      rw [hboth]
      exact (hs.addSide hteam hcounts).addSide hteam' hcounts'
    · exact hlog.addBox gb.1 gb.2

namespace Season

variable {μ : Type}

/-- **Standings balance and match the game log.** After a scan that did not fail, standings that
were empty before, or listed some teams, balance; every team with a row in the log, which was empty,
has a record; and every record is that of the team's rows. -/
theorem records_match (s : Season Report μ) (book : Scorebook) (outcome : ScanOutcome)
    (standingsName logName : String) (teams : List String)
    (hscan : (s.scan book).2 = .ok outcome)
    (hstandings : ∃ u, s.find Report.standings? standingsName = .ok u ∧ u.tally = .forTeams teams)
    (hlog : ∃ u, s.find Report.gameLog? logName = .ok u ∧ u.tally = {}) :
    ∃ standings log,
      (∃ u, (s.scan book).1.find Report.standings? standingsName = .ok u ∧ u.tally = standings) ∧
      (∃ u, (s.scan book).1.find Report.gameLog? logName = .ok u ∧ u.tally = log) ∧
      standings.Balanced ∧ (∀ row ∈ log.rows, (standings.record? row.team).isSome) ∧
      ∀ team r, standings.record? team = some r → r.IsOf (ofTeam log.rows team) := by
  obtain ⟨u, hu, htally⟩ := hstandings
  obtain ⟨v, hv, hempty⟩ := hlog
  obtain ⟨u', boxes, hu', hboxes, hadded⟩ :=
    find_scan_tallied Report.kind_standings Report.standings?_eq_some hu hscan
  obtain ⟨v', boxes', hv', hboxes', hlogged⟩ :=
    find_scan_tallied Report.kind_gameLog Report.gameLog?_eq_some hv hscan
  obtain rfl := eq_of_forall₂_ofGame hboxes hboxes'
  rw [htally] at hadded
  rw [hempty] at hlogged
  have hmirror : (Standings.forTeams teams).total.mirror = (Standings.forTeams teams).total := by
    rw [Standings.total_forTeams, map_zero]
  obtain ⟨hmatches, hfaithful, hbalanced⟩ := matches_addGames (Standings.matches_forTeams teams)
    GameLog.faithful_empty hmirror (((s.selection book).take outcome.games).zip boxes)
  refine ⟨_, _, ⟨u', hu', hadded⟩, ⟨v', hv', hlogged⟩, hbalanced, hmatches.listed, ?_⟩
  intro team r hr
  refine TeamRecord.isOf_of_counts ?_ fun row hrow => hfaithful.last hrow
  rw [← hmatches.counts team, show (Standings.records _).get? team = some r from hr,
    Option.elim_some]

/-- Standings that list a team which will play and one which will not, and a log. -/
def forRecords : Season Report Unit where
  reports := [("standings", .standings { tally := .forTeams ["hosts", "idle"] }),
    ("log", .gameLog { tally := {} })]

/-- After two games the visitors have a record of both, although they were not listed, and the team
that did not play has a record of none. -/
theorem records_match_twoGames :
    ∃ standings log,
      (∃ u, (forRecords.scan { year := 1914, games := twoGames }).1.find Report.standings?
        "standings" = .ok u ∧ u.tally = standings) ∧
      (∃ u, (forRecords.scan { year := 1914, games := twoGames }).1.find Report.gameLog? "log" =
        .ok u ∧ u.tally = log) ∧
      standings.Balanced ∧
      (∃ r, standings.record? "visitors" = some r ∧ r.IsOf (ofTeam log.rows "visitors") ∧
        r.gamesPlayed = 2) ∧
      ∃ r, standings.record? "idle" = some r ∧ r.IsOf (ofTeam log.rows "idle") ∧
        r.gamesPlayed = 0 := by
  obtain ⟨standings, log, ⟨u, hu, rfl⟩, hlog, hbalanced, -, hrecords⟩ :=
    records_match forRecords { year := 1914, games := twoGames } (.complete 2) "standings" "log"
      ["hosts", "idle"] (by decide +kernel) ⟨_, rfl, rfl⟩ ⟨_, rfl, rfl⟩
  have hplayed : ((forRecords.scan { year := 1914, games := twoGames }).1.find Report.standings?
      "standings").toOption.map (fun u => ((u.tally.record? "visitors").map TeamRecord.gamesPlayed,
        (u.tally.record? "idle").map TeamRecord.gamesPlayed)) = some (some 2, some 0) := by
    decide +kernel
  rw [hu] at hplayed
  obtain ⟨hvisitors, hidle⟩ := Prod.mk.inj (Option.some.inj hplayed)
  obtain ⟨r, hr, hgames⟩ := Option.map_eq_some_iff.mp hvisitors
  obtain ⟨r', hr', hgames'⟩ := Option.map_eq_some_iff.mp hidle
  exact ⟨_, log, ⟨u, hu, rfl⟩, hlog, hbalanced, ⟨r, hr, hrecords _ r hr, hgames⟩,
    r', hr', hrecords _ r' hr', hgames'⟩

end Season

end Baseball
