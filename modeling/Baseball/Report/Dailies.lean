import Baseball.Report.GameLog
import Baseball.Report.StatLine

/-!
# Lines by game

The lines of single games, one after the other. A log that keeps every line is a daily log; one that
keeps only the lines with some property is a log of notable performances.

## Main definitions

* `GameLine`, `GameLines`
* `GameLines.forPlayer` — one player's lines
* `GameLines.battingTable`, `GameLines.pitchingTable`
-/

namespace Baseball

/-- A line of a single game. -/
structure GameLine (L : Type) where
  gameId : String
  date : Date
  number : Nat
  line : L

/-- Lines of single games, in the order in which the games were seen. -/
structure GameLines (L : Type) where
  /-- Which lines are kept, all of them if nothing is said. -/
  keep? : Option (L → Bool) := none
  rows : List (GameLine L) := []

namespace GameLines

variable {L : Type} [StatLine L]

/-- Whether a line is kept. -/
def keeps (t : GameLines L) (l : L) : Bool := t.keep?.all (· l)

/-- Each game adds those of its lines that are kept. -/
instance : GameTally (GameLines L) where
  addBox t g b :=
    { t with
      rows := t.rows ++ ((StatLine.ofBox b).filter t.keeps).map fun line =>
        { gameId := g.id, date := g.date, number := g.number, line } }

/-- One player's lines. -/
def forPlayer (t : GameLines L) (player : String) : List (GameLine L) :=
  t.rows.filter fun row => StatLine.player row.line == player

/-- How many lines were kept. -/
def size (t : GameLines L) : Nat := t.rows.length

/-- Whether no line was kept. -/
def isEmpty (t : GameLines L) : Bool := t.rows.isEmpty

/-- A log's table before its columns of numbers. -/
def tableHead (title : String) : Table :=
  ({ title } : Table).withLeft "Date" 14 |>.withLeft "Player" 24 |>.withLeft "Tm" 4

/-- The cells of a row before its numbers. -/
def rowHead (book : Scorebook) (row : GameLine L) : List String :=
  [datedText row.date row.number, book.fullName (StatLine.player row.line), StatLine.team row.line]

/-- A printed log of batting lines. -/
def battingTable (book : Scorebook) (title : String) (t : GameLines BattingLine) : Table :=
  (tableHead title
    |>.withRights ["AB", "R", "H", "2B", "3B", "HR", "RBI", "BB", "SO", "SB"] 4).withRows <|
  t.rows.map fun row =>
    let c := row.line.counts
    rowHead book row ++ [c.ab, c.r, c.h, c.b2, c.b3, c.hr, c.rbi, c.bb, c.so, c.sb].map Nat.repr

/-- The letter of the first decision a line has. -/
def decisionLetter (c : PitchingCounts) : String :=
  if 0 < c.w then "W" else if 0 < c.l then "L" else if 0 < c.sv then "S" else ""

/-- A printed log of pitching lines. -/
def pitchingTable (book : Scorebook) (title : String) (t : GameLines PitchingLine) : Table :=
  (tableHead title
    |>.withLeft "Dec" 3
    |>.withRights ["IP"] 5
    |>.withRights ["H", "R", "ER", "BB", "SO", "HR"] 4).withRows <|
  t.rows.map fun row =>
    let c := row.line.counts
    rowHead book row ++ [decisionLetter c, row.line.innings]
      ++ [c.h, c.r, c.er, c.bb, c.so, c.hr].map Nat.repr

end GameLines

end Baseball
