import Baseball.Report.Tally
import Baseball.Scorebook
import Baseball.Table.Basic

/-!
# Team totals

The batting, pitching and fielding of whole teams. A team's line names no player.

## Main definitions

* `TeamTotals` — the three tables by team
* `TeamTotals.leagueBatting`, `leaguePitching` — all teams together
* `TeamTotals.battingTable`, `pitchingTable`, `fieldingTable`
-/

namespace Baseball

/-- Lines of whole teams, by team. -/
@[ext]
structure TeamTotals where
  batting : Keyed String BattingLine := ∅
  pitching : Keyed String PitchingLine := ∅
  fielding : Keyed String TeamFielding := ∅
deriving DecidableEq

namespace TeamTotals

/-- Merges the lines of a team's box into its totals, which begin empty. -/
def addTeam (t : TeamTotals) (box : TeamBox) : TeamTotals where
  batting := t.batting.upsert box.team fun old =>
    box.battingLines.foldl BattingLine.merge (old.getD { player := "", team := box.team })
  pitching := t.pitching.upsert box.team fun old =>
    box.pitchers.foldl PitchingLine.merge (old.getD { player := "", team := box.team })
  fielding := t.fielding.upsert box.team fun old =>
    (old.getD { team := box.team }).merge box.fielding

/-- Each game adds the boxes of both teams. -/
instance : GameTally TeamTotals where
  addBox t _ b := b.teams.toList.foldl addTeam t

/-- The teams in order. -/
def teams (t : TeamTotals) : List String := t.batting.keys

/-- The batting of all teams. -/
def leagueBatting (t : TeamTotals) : BattingLine :=
  t.batting.values.foldl BattingLine.merge { player := "", team := "" }

/-- The pitching of all teams. -/
def leaguePitching (t : TeamTotals) : PitchingLine :=
  t.pitching.values.foldl PitchingLine.merge { player := "", team := "" }

/-! ### Tables -/

/-- The printed batting of the teams. -/
def battingTable (book : Scorebook) (t : TeamTotals) : Table :=
  (({ title := "Team batting" } : Table).withLeft "Team" 24
    |>.withRights ["G", "AB", "R", "H", "2B", "3B", "HR", "RBI", "BB", "SO", "SB", "CS", "AVG",
        "OBP", "SLG"] 5).withRows <|
  t.batting.values.map fun l =>
    let c := l.counts
    book.teamName l.team
      :: [l.gamesPlayed, c.ab, c.r, c.h, c.b2, c.b3, c.hr, c.rbi, c.bb, c.so, c.sb, c.cs].map Nat.repr
      ++ [l.average, l.onBase, l.slugging].map (·.text Rate.defaultPlaces)

/-- The printed pitching of the teams. -/
def pitchingTable (book : Scorebook) (t : TeamTotals) : Table :=
  (({ title := "Team pitching" } : Table).withLeft "Team" 24
    |>.withRights ["G", "CG", "SHO", "SV"] 4
    |>.withRights ["IP"] 7
    |>.withRights ["H", "R", "ER", "HR", "BB", "SO"] 5
    |>.withRights ["ERA"] 6).withRows <|
  t.pitching.values.map fun l =>
    let c := l.counts
    book.teamName l.team
      :: [l.gamesPlayed, c.cg, c.sho, c.sv].map Nat.repr
      ++ [l.innings]
      ++ [c.h, c.r, c.er, c.hr, c.bb, c.so].map Nat.repr
      ++ [l.earnedRunAverage.text 2]

/-- The printed fielding of the teams. -/
def fieldingTable (book : Scorebook) (t : TeamTotals) : Table :=
  (({ title := "Team fielding" } : Table).withLeft "Team" 24
    |>.withRights ["G", "PO", "A", "E", "DP", "TP", "PB", "PCT"] 5).withRows <|
  t.fielding.values.map fun l =>
    let c := l.counts
    book.teamName l.team
      :: [l.gamesPlayed, c.po, c.a, c.e, c.dp, c.tp, c.pb].map Nat.repr
      ++ [l.fieldingPercentage.text Rate.defaultPlaces]

end TeamTotals

end Baseball
