import Baseball.BoxScore.Basic
import Baseball.Date.Text
import Baseball.Scorebook
import Baseball.Text.Layout

/-!
# Printed box scores

A box score is printed with the names of a scorebook: a heading, the linescore, the batting of each
team with its notes, and the pitching of each team, the visitors first. Pitchers who do not bat are
not listed among the batters.

## Main definitions

* `BoxScore.heading`, `BoxScore.linescoreLines`
* `BoxScore.battingSection` — the batters of a team, their totals and the notes
* `BoxScore.pitchingSection`
* `BoxScore.text` — the whole page

## Implementation notes

A batter's row and the row of totals are printed from the same six numbers, `BattingColumns`, so that
one can ask whether the rows add up. The at-bats of the totals are the team's own count.
-/

namespace Baseball.BoxScore

/-- The width of the names at the left of every row. -/
def nameWidth : Nat := 28

/-- A row of numbers at the right of fields of given widths. -/
def numberCells (cells : List (Nat × String)) : String :=
  .join (cells.map fun (width, s) => padLeft width s)

/-- A name, and numbers after it. -/
def namedRow (name : String) (cells : List (Nat × String)) : String :=
  padRight nameWidth name ++ numberCells cells

/-! ### Heading and linescore -/

/-- The teams and the day. -/
def heading (book : Scorebook) (b : BoxScore) : String :=
  book.teamName (b.team .visitor).team ++ " at " ++ book.teamName (b.team .home).team ++ ", "
    ++ b.date.longText ++ Game.numberSuffix b.number

/-- The columns to the right of the innings. -/
def summaryCells (r h e lob dp : String) : List (Nat × String) :=
  [(2, ""), (3, r), (3, h), (3, e), (4, lob), (3, dp)]

/-- What stands under an inning: the runs of a team that batted in it, and an `x` for a home side that
did not need to. -/
def inningCell (b : BoxScore) (side : Side) (inning : Nat) : String :=
  match (b.team side).linescore[inning]? with
  | some runs => runs.repr
  | none => if side = .home ∧ b.complete then "x" else ""

/-- The row of one side. -/
def linescoreRow (book : Scorebook) (b : BoxScore) (side : Side) : String :=
  let t := b.team side
  namedRow (book.teamName t.team)
    ((List.range b.innings).map (fun i => (3, b.inningCell side i))
      ++ summaryCells t.runs.repr t.hits.repr t.errors.repr t.leftOnBase.repr t.doublePlays.repr)

/-- The linescore. -/
def linescoreLines (book : Scorebook) (b : BoxScore) : List String :=
  namedRow ""
      ((List.range b.innings).map (fun i => (3, (i + 1).repr)) ++ summaryCells "R" "H" "E" "LOB" "DP")
    :: Side.both.map (linescoreRow book b)

/-! ### Batting -/

/-- The numbers of a batter's row. -/
structure BattingColumns where
  ab : Nat
  r : Nat
  h : Nat
  rbi : Nat
  bb : Nat
  so : Nat
deriving DecidableEq

/-- The numbers of a row from batting counts. -/
def BattingColumns.ofCounts (c : BattingCounts) : BattingColumns :=
  ⟨c.ab, c.r, c.h, c.rbi, c.bb, c.so⟩

/-- Cells of one width. -/
def cells (width : Nat) (texts : List String) : List (Nat × String) := texts.map (width, ·)

/-- A row of batting numbers. -/
def battingRow (label : String) (c : BattingColumns) : String :=
  namedRow label (cells 4 [c.ab.repr, c.r.repr, c.h.repr, c.rbi.repr, c.bb.repr, c.so.repr])

/-- The label of a batter: the slot for the first in it, his name and his positions. -/
def batterLabel (book : Scorebook) (turn : Nat) (s : Stint) : String :=
  (if turn = 0 then s.slot.val.repr ++ " " else "  ") ++ book.fullName s.line.player ++ ", "
    ++ "-".intercalate (s.positions.map Position.abbreviation)

/-- The stints that are printed, slot by slot, each with its place in the slot. -/
def printedStints (t : TeamBox) : List (Nat × Stint) :=
  ((List.range slotCount).drop 1).flatMap fun slot =>
    (t.slot slot).zipIdx.map fun (s, turn) => (turn, s)

/-- The counts of all batters of a team together. -/
def battingTotal (t : TeamBox) : BattingCounts :=
  t.battingLines.foldl (fun c l => c + l.counts) {}

/-- The numbers of the row of totals. -/
def totalColumns (t : TeamBox) : BattingColumns :=
  { BattingColumns.ofCounts (battingTotal t) with ab := t.atBats }

/-- Sums counts by player, players in order of first appearance; a count of 0 does not appear. -/
def tally (counts : List (String × Nat)) : List (String × Nat) :=
  (counts.filter (0 < ·.2)).foldl
    (fun ts (player, n) =>
      match modifyFirst? (·.1 == player) (fun (t : String × Nat) => (t.1, t.2 + n)) ts with
      | some ts => ts
      | none => ts ++ [(player, n)])
    []

/-- A note: the players with a count, and the count where it is more than one. -/
def caption (book : Scorebook) (label : String) (counts : List (String × Nat)) : Option String :=
  match tally counts with
  | [] => none
  | ts =>
    let names := ts.map fun (player, n) =>
      book.fullName player ++ if 1 < n then " " ++ n.repr else ""
    some (label ++ ": " ++ ", ".intercalate names ++ ".")

/-- The counts that have notes. -/
def notedCounts : List (String × (BattingCounts → Nat)) :=
  [("2B", (·.b2)), ("3B", (·.b3)), ("HR", (·.hr)), ("SH", (·.sh)), ("SF", (·.sf)),
    ("HBP", (·.hbp)), ("GDP", (·.gdp)), ("SB", (·.sb)), ("CS", (·.cs))]

/-- The notes below the batting of a team. -/
def captions (book : Scorebook) (t : TeamBox) : List String :=
  (notedCounts.map fun (label, count) =>
      caption book label (t.battingLines.map fun l => (l.player, count l.counts))).filterMap id
    ++ (caption book "E" (t.fielders.map fun l => (l.player, l.counts.e))).toList

/-- The batting of a team. -/
def battingSection (book : Scorebook) (t : TeamBox) : List String :=
  let notes := captions book t
  namedRow (book.teamName t.team) (cells 4 ["AB", "R", "H", "RBI", "BB", "SO"])
    :: (printedStints t).map (fun (turn, s) =>
        battingRow (batterLabel book turn s) (.ofCounts s.line.counts))
    ++ [battingRow "Totals" (totalColumns t)]
    ++ if notes.isEmpty then [] else "" :: notes

/-! ### Pitching -/

/-- The letters of the decisions a pitcher has. -/
def decisionLetters (d : Decisions) (player : String) : String :=
  .join ([(d.winner?, "W"), (d.loser?, "L"), (d.save?, "S")].map fun (pitcher?, letter) =>
    if pitcher? = some player then " (" ++ letter ++ ")" else "")

/-- A row of pitching numbers. -/
def pitchingRow (book : Scorebook) (d : Decisions) (l : PitchingLine) : String :=
  namedRow (book.fullName l.player ++ decisionLetters d l.player)
    ((5, l.innings) :: cells 4 [l.counts.h.repr, l.counts.r.repr, l.counts.er.repr,
      l.counts.bb.repr, l.counts.so.repr])

/-- The pitching of a team. -/
def pitchingSection (book : Scorebook) (d : Decisions) (t : TeamBox) : List String :=
  namedRow (book.teamName t.team) ((5, "IP") :: cells 4 ["H", "R", "ER", "BB", "SO"])
    :: t.pitchers.map (pitchingRow book d)

/-! ### The page -/

/-- The printed box score. -/
def text (book : Scorebook) (b : BoxScore) : String :=
  lines (
    heading book b :: "" :: linescoreLines book b
    ++ Side.both.flatMap (fun side => "" :: battingSection book (b.team side))
    ++ Side.both.flatMap (fun side => "" :: pitchingSection book b.decisions (b.team side)))

end Baseball.BoxScore
