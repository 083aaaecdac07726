import Baseball.Report.Dailies
import Baseball.Report.HomeRuns
import Baseball.Report.Register
import Baseball.Report.Standings
import Baseball.Report.TeamTotals

/-!
# Reports of all kinds

A season is watched by reports of different kinds at once. `Report` is any one of them, and is itself
an observer; the views `Report.batting?` and so on say whether a report is of a certain kind.

## Main definitions

* `Report` — one of eleven kinds of report
* `Report.observe` — does something to a report that can be done to every observer
-/

namespace Baseball

/-- A report of one of the kinds that seasons are scanned for. -/
inductive Report where
  | batting (report : Tallied (Register BattingLine))
  | pitching (report : Tallied (Register PitchingLine))
  | fielding (report : Tallied (Register FieldingLine))
  | totals (report : Tallied TeamTotals)
  | standings (report : Tallied Standings)
  | gameLog (report : Tallied GameLog)
  | battingLog (report : Tallied (GameLines BattingLine))
  | pitchingLog (report : Tallied (GameLines PitchingLine))
  | fieldingLog (report : Tallied (GameLines FieldingLine))
  | homeRuns (report : HomeRunLog)
  | boxScores (report : Scorer)

namespace Report

/-- Does to a report what can be done to every observer. -/
def observe (f : {ρ : Type} → [Observer ρ] → ρ → Attempt ρ) : Report → Attempt Report
  | batting r => (f r).map batting
  | pitching r => (f r).map pitching
  | fielding r => (f r).map fielding
  | totals r => (f r).map totals
  | standings r => (f r).map standings
  | gameLog r => (f r).map gameLog
  | battingLog r => (f r).map battingLog
  | pitchingLog r => (f r).map pitchingLog
  | fieldingLog r => (f r).map fieldingLog
  | homeRuns r => (f r).map homeRuns
  | boxScores r => (f r).map boxScores

instance : Observer Report where
  gameStarted r g s := r.observe fun r => Observer.gameStarted r g s
  playMade r g p s := r.observe fun r => Observer.playMade r g p s
  lineupChanged r g subs s := r.observe fun r => Observer.lineupChanged r g subs s
  gameEnded r g s := r.observe fun r => Observer.gameEnded r g s

/-! ### Views -/

/-- The batting register, if the report is one. -/
def batting? : Report → Option (Tallied (Register BattingLine))
  | batting r => some r
  | _ => none

/-- The pitching register, if the report is one. -/
def pitching? : Report → Option (Tallied (Register PitchingLine))
  | pitching r => some r
  | _ => none

/-- The fielding register, if the report is one. -/
def fielding? : Report → Option (Tallied (Register FieldingLine))
  | fielding r => some r
  | _ => none

/-- The team totals, if the report is one. -/
def totals? : Report → Option (Tallied TeamTotals)
  | totals r => some r
  | _ => none

/-- The standings, if the report is one. -/
def standings? : Report → Option (Tallied Standings)
  | standings r => some r
  | _ => none

/-- The game log, if the report is one. -/
def gameLog? : Report → Option (Tallied GameLog)
  | gameLog r => some r
  | _ => none

/-- The batting lines by game, if the report is one. -/
def battingLog? : Report → Option (Tallied (GameLines BattingLine))
  | battingLog r => some r
  | _ => none

/-- The pitching lines by game, if the report is one. -/
def pitchingLog? : Report → Option (Tallied (GameLines PitchingLine))
  | pitchingLog r => some r
  | _ => none

/-- The fielding lines by game, if the report is one. -/
def fieldingLog? : Report → Option (Tallied (GameLines FieldingLine))
  | fieldingLog r => some r
  | _ => none

/-- The home run log, if the report is one. -/
def homeRuns? : Report → Option HomeRunLog
  | homeRuns r => some r
  | _ => none

/-- The box scores, if the report is one. -/
def boxScores? : Report → Option Scorer
  | boxScores r => some r
  | _ => none

end Report

end Baseball
