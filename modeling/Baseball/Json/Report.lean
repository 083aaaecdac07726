import Baseball.Json.Game
import Baseball.Json.Line
import Baseball.Report.Dailies
import Baseball.Report.HomeRuns
import Baseball.Report.Leaders
import Baseball.Report.Standings
import Baseball.Report.Summary
import Baseball.Report.TeamTotals
import Baseball.Table.Text

/-!
# Reports as JSON

Rows of reports are written as arrays, in the order in which their cells are printed.

## Main definitions

* `TeamRecord.viewToJson` — a record with what follows from it
* `StandingsRow.toJson`, `GameLogRow.toJson`, `GameLine.toJson`, `HomeRun.toJson`
* `TeamTotals.teamToJson`, `TeamTotals.leagueToJson`
* `Leaderboard.toJson` — a board with its leaders and its printed form
-/

namespace Baseball

/-- A record with what follows from it. -/
def TeamRecord.viewToJson (r : TeamRecord) : Json :=
  .object [("record", r.toJson), ("w", .ofNat r.wins), ("l", .ofNat r.losses),
    ("t", .ofNat r.ties), ("games", .ofNat r.gamesPlayed), ("pct", r.winningPercentage.toJson),
    ("sort_pct", .real r.standing)]

/-- A row of the standings: the record, and the games behind. -/
def StandingsRow.toJson (row : StandingsRow) : Json :=
  .array [row.record.viewToJson, .real (.ofInt row.halfGamesBehind / 2)]

/-- A row of a game log. -/
def GameLogRow.toJson (row : GameLogRow) : Json :=
  .array [.string row.team, .string row.gameId, row.date.toJson, .ofNat row.number,
    .string row.opponent, .bool row.home, .ofNat row.runsFor, .ofNat row.runsAgainst,
    .string row.outcome.letter, .array [.ofNat row.wins, .ofNat row.losses, .ofNat row.ties],
    .ofNat row.innings, .ofText? row.decisions.winner?, .ofText? row.decisions.loser?,
    .ofText? row.decisions.save?]

/-- A line of a single game. -/
def GameLine.toJson {L : Type} (encode : L → Json) (row : GameLine L) : Json :=
  .array [.string row.gameId, row.date.toJson, .ofNat row.number, encode row.line]

/-- A home run. -/
def HomeRun.toJson (h : HomeRun) : Json :=
  .array [.string h.gameId, h.date.toJson, .string h.batter, .string h.team, .string h.pitcher,
    .string h.opponent, .ofNat h.inning, h.half.toJson, .ofNat h.runnersOn, .ofNat h.outs,
    .bool h.isGrandSlam]

/-- The batting, pitching and fielding of a team. -/
def TeamTotals.teamToJson (t : TeamTotals) (team : String) : Json :=
  .array [.ofOption BattingLine.toJson (t.batting.get? team),
    .ofOption PitchingLine.toJson (t.pitching.get? team),
    .ofOption TeamFielding.toJson (t.fielding.get? team)]

/-- The batting and pitching of all teams. -/
def TeamTotals.leagueToJson (t : TeamTotals) : Json :=
  .array [t.leagueBatting.toJson, t.leaguePitching.toJson]

section Leaders

variable {L : Type} [StatLine L]

/-- A line on a board: its rank, whether it is shared, the value, and whose it is. -/
def Leader.toJson (l : Leader L) : Json :=
  .array [.ofNat l.rank, .bool l.tied, .real l.value, .string (StatLine.player l.line),
    .string (StatLine.team l.line)]

/-- A board with its leaders among some lines and its printed form. -/
def Leaderboard.toJson (book : Scorebook) (board : Leaderboard L) (ls : List L) : Json :=
  .object [("leaders", .ofList Leader.toJson (board.rank ls)),
    ("text", .ofText? (board.table book ls).toText?), ("name", .string board.metric.name),
    ("fewer", .bool board.metric.fewerIsBetter), ("decimals", .ofNat board.metric.places),
    ("debug", .string board.summary)]

end Leaders

end Baseball
