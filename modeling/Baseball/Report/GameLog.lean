import Baseball.Line.Record
import Baseball.Report.Tally
import Baseball.Scorebook
import Baseball.Table.Basic

/-!
# Game logs

Every game of every team in the order in which the games were seen, with the team's record after it.

## Main definitions

* `GameLogRow`, `GameLog`
* `GameLog.forTeam` — one team's rows by date
* `GameLog.table` — one team's printed log
* `datedText` — a date, with the number of the game if it was one of a doubleheader
-/

namespace Baseball

/-- A date, with the number of the game in parentheses unless it is 0. -/
def datedText (date : Date) (number : Nat) : String :=
  if number = 0 then date.text else date.text ++ " (" ++ number.repr ++ ")"

/-- One game from the point of view of one team. -/
structure GameLogRow where
  team : String
  gameId : String
  date : Date
  number : Nat
  opponent : String
  home : Bool
  runsFor : Nat
  runsAgainst : Nat
  outcome : Outcome
  /-- The team's wins, losses and ties after this game. -/
  wins : Nat
  losses : Nat
  ties : Nat
  innings : Nat
  decisions : Decisions
deriving DecidableEq

/-- The games of all teams. -/
structure GameLog where
  rows : List GameLogRow := []
  /-- The record of each team after its last game. -/
  records : Keyed String TeamRecord := ∅
deriving DecidableEq

namespace GameLog

/-- Logs a game for one of its teams. -/
def addSide (g : Game) (b : BoxScore) (log : GameLog) (side : Side) : GameLog :=
  let own := b.team side
  let other := b.team side.opponent
  let record :=
    ((log.records.get? own.team).getD { team := own.team }).addGame side own.runs other.runs b.innings
  let row : GameLogRow :=
    { team := own.team
      gameId := g.id
      date := g.date
      number := g.number
      opponent := other.team
      home := side == .home
      runsFor := own.runs
      runsAgainst := other.runs
      outcome := .of own.runs other.runs
      wins := record.wins
      losses := record.losses
      ties := record.ties
      innings := b.innings
      decisions := g.decisions }
  { rows := log.rows ++ [row], records := log.records.insert own.team record }

/-- Each game is logged for both teams, the visitors first. -/
instance : GameTally GameLog where
  addBox log g b := Side.both.foldl (addSide g b) log

/-- Whether a row may stand before another: by date, and the games of a day by number. -/
def mayPrecede (a b : GameLogRow) : Bool :=
  (compareLex (compareOn GameLogRow.date) (compareOn GameLogRow.number) a b).isLE

/-- One team's rows by date; what date and number cannot tell apart stays in order. -/
def forTeam (log : GameLog) (team : String) : List GameLogRow :=
  (log.rows.filter fun row => row.team == team).mergeSort mayPrecede

/-- Wins and losses, and ties if there are any. -/
def recordText (row : GameLogRow) : String :=
  row.wins.repr ++ "-" ++ row.losses.repr ++ if 0 < row.ties then "-" ++ row.ties.repr else ""

/-- One team's printed log. -/
def table (book : Scorebook) (log : GameLog) (team : String) : Table :=
  let name (id? : Option String) : String := (id?.map book.fullName).getD ""
  (({ title := book.teamName team ++ " game log" } : Table)
    |>.withLeft "Date" 12
    |>.withLeft "" 2
    |>.withLeft "Opp" 24
    |>.withLeft "" 1
    |>.withRights ["R", "RA", "Inn"] 3
    |>.withRights ["Rec"] 8
    |>.withLeft "Win" 20
    |>.withLeft "Loss" 20
    |>.withLeft "Save" 20).withRows <|
  (log.forTeam team).map fun row =>
    [datedText row.date row.number, if row.home then "vs" else "at", book.teamName row.opponent,
      row.outcome.letter, row.runsFor.repr, row.runsAgainst.repr, row.innings.repr, recordText row,
      name row.decisions.winner?, name row.decisions.loser?, name row.decisions.save?]

end GameLog

end Baseball
