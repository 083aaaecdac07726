import Baseball.Report.StatLine
import Baseball.Scorebook
import Baseball.Table.Basic

/-!
# Leaders

Lines are ranked by a metric, a number that may be undefined for a line. A board has room for a number
of lines, and for everybody who is level with the last of them.

## Main definitions

* `Metric` — a named number of a line, and which way is better
* `battingMetric?`, `pitchingMetric?`, `fieldingMetric?` — the metrics that have names
* `Leaderboard` — a metric, the room on the board, and who qualifies
* `Leaderboard.rank` — the lines on the board, with their ranks
* `Leaderboard.table`
-/

namespace Baseball

/-- A named statistic to rank lines by. -/
structure Metric (L : Type) where
  name : String
  /-- The value, none where it is undefined; such lines are not ranked. -/
  value? : L → Option Float
  fewerIsBetter : Bool
  /-- The decimal places it is printed with. -/
  places : Nat

namespace Metric

variable {L : Type}

/-- A statistic of which more is better. -/
def more (name : String) (value? : L → Option Float) (places : Nat) : Metric L :=
  ⟨name, value?, false, places⟩

/-- A statistic of which fewer is better. -/
def fewer (name : String) (value? : L → Option Float) (places : Nat) : Metric L :=
  ⟨name, value?, true, places⟩

/-- A count of which more is better. -/
def count (name : String) (n : L → Nat) : Metric L := more name (fun l => some (.ofNat (n l))) 0

/-- A rate of which more is better. -/
def rate (name : String) (r : L → Rate) (places : Nat) : Metric L := more name (fun l => (r l).value?) places

/-- The place of a value in the order of a board, smallest first. -/
def place (m : Metric L) (x : Float) : Int := if m.fewerIsBetter then orderKey x else -orderKey x

/-- A value as the board prints it. -/
def text (m : Metric L) (x : Float) : String := (Rate.of x 1).text m.places

end Metric

/-- The batting metrics. -/
def battingMetrics : List (Metric BattingLine) :=
  [.rate "AVG" (·.average) 3, .rate "OBP" (·.onBase) 3, .rate "SLG" (·.slugging) 3,
    .rate "OPS" (·.onBasePlusSlugging) 3, .count "G" (·.gamesPlayed), .count "AB" (·.counts.ab),
    .count "R" (·.counts.r), .count "H" (·.counts.h), .count "2B" (·.counts.b2),
    .count "3B" (·.counts.b3), .count "HR" (·.counts.hr), .count "TB" (·.counts.totalBases),
    .count "RBI" (·.counts.rbi), .count "BB" (·.counts.bb), .count "SO" (·.counts.so),
    .count "SB" (·.counts.sb)]

/-- The pitching metrics. -/
def pitchingMetrics : List (Metric PitchingLine) :=
  [.fewer "ERA" (·.earnedRunAverage.value?) 2, .fewer "WHIP" (·.baserunnersPerInning.value?) 2,
    .rate "PCT" (·.winningPercentage) 3, .count "G" (·.gamesPlayed), .count "GS" (·.counts.gs),
    .count "CG" (·.counts.cg), .count "SHO" (·.counts.sho), .count "W" (·.counts.w),
    .count "L" (·.counts.l), .count "SV" (·.counts.sv), .count "SO" (·.counts.so),
    .count "BB" (·.counts.bb)]

/-- The fielding metrics. -/
def fieldingMetrics : List (Metric FieldingLine) :=
  [.count "PO" (·.counts.po), .rate "PCT" (·.fieldingPercentage) 3, .rate "RF" (·.rangeFactor) 2,
    .fewer "E" (fun l => some (.ofNat l.counts.e)) 0]

/-- The batting metric with a name. -/
def battingMetric? (name : String) : Option (Metric BattingLine) :=
  battingMetrics.find? (·.name == name)

/-- The pitching metric with a name. -/
def pitchingMetric? (name : String) : Option (Metric PitchingLine) :=
  pitchingMetrics.find? (·.name == name)

/-- The fielding metric with a name. -/
def fieldingMetric? (name : String) : Option (Metric FieldingLine) :=
  fieldingMetrics.find? (·.name == name)

/-- A line on a board. -/
structure Leader (L : Type) where
  /-- One more than the lines that are strictly ahead. -/
  rank : Nat
  /-- Whether another line on the board has the same value. -/
  tied : Bool
  value : Float
  line : L

/-- A board that ranks lines. -/
structure Leaderboard (L : Type) where
  metric : Metric L
  /-- The room on the board. -/
  limit : Nat := 10
  /-- Which lines may be ranked, all if nothing is said. -/
  qualify? : Option (L → Bool) := none

namespace Leaderboard

variable {L : Type} [StatLine L]

/-- The lines that can be ranked, with their values. -/
def candidates (board : Leaderboard L) (ls : List L) : List (Float × L) :=
  (ls.filter fun l => board.qualify?.all (· l)).filterMap fun l =>
    (board.metric.value? l).map (·, l)

/-- Whether a line may stand above another: by value, and by key among equals. -/
def mayLead (board : Leaderboard L) (a b : Float × L) : Bool :=
  ((compare (board.metric.place a.1) (board.metric.place b.1)).then
    (compare (StatLine.key a.2) (StatLine.key b.2))).isLE

/-- The candidates, best first. -/
def ordered (board : Leaderboard L) (ls : List L) : List (Float × L) :=
  (board.candidates ls).mergeSort board.mayLead

/-- What of a sorted list fits on a board: as many as there is room for, and all that are level with
the last of them. -/
def cut (limit : Nat) (cs : List (Float × L)) : List (Float × L) :=
  match (cs.take limit).getLast? with
  | none => []
  | some last => cs.take limit ++ (cs.drop limit).takeWhile fun c => sameNumber c.1 last.1

/-- Numbers a sorted list: a line that is level with the one before it shares its rank. -/
def number (before? : Option (Float × Nat)) (index : Nat) : List (Float × L) → List (Leader L)
  | [] => []
  | (value, line) :: rest =>
    let level := before?.filter fun b => sameNumber b.1 value
    let rank := (level.map Prod.snd).getD (index + 1)
    let tied := level.isSome || rest.head?.any fun next => sameNumber next.1 value
    { rank, tied, value, line } :: number (some (value, rank)) (index + 1) rest

/-- The lines on the board, best first. -/
def rank (board : Leaderboard L) (ls : List L) : List (Leader L) :=
  number none 0 (cut board.limit (board.ordered ls))

/-- A rank, marked where it is shared. -/
def rankText (l : Leader L) : String := (if l.tied then "T" else "") ++ l.rank.repr

/-- The printed board. -/
def table (book : Scorebook) (board : Leaderboard L) (ls : List L) : Table :=
  (({ title := board.metric.name } : Table)
    |>.withRights ["Rk"] 4
    |>.withLeft "Player" 24
    |>.withLeft "Tm" 4
    |>.withRights [board.metric.name] 6).withRows <|
  (board.rank ls).map fun l =>
    [rankText l, book.fullName (StatLine.player l.line), StatLine.team l.line,
      board.metric.text l.value]

end Leaderboard

end Baseball
