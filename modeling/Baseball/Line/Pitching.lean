import Baseball.Decimal.Rate
import Baseball.Keyed

/-!
# Pitching lines

What one pitcher has done for one team, over a game or over many. Innings are kept as outs.

## Main definitions

* `PitchingCounts` — the counts, which add up count by count
* `PitchingLine` — whose they are, and over which games; `PitchingLine.merge` joins two lines
* `inningsText` — outs as innings and thirds
* `PitchingLine.earnedRunAverage`, `winningPercentage`, `baserunnersPerInning`
-/

namespace Baseball

/-- Pitching counts. -/
@[ext]
structure PitchingCounts where
  gs : Nat := 0
  /-- Complete games. -/
  cg : Nat := 0
  /-- Shutouts. -/
  sho : Nat := 0
  /-- Games finished in relief. -/
  gf : Nat := 0
  w : Nat := 0
  l : Nat := 0
  sv : Nat := 0
  outs : Nat := 0
  /-- Batters faced. -/
  bf : Nat := 0
  h : Nat := 0
  b2 : Nat := 0
  b3 : Nat := 0
  hr : Nat := 0
  r : Nat := 0
  er : Nat := 0
  bb : Nat := 0
  ibb : Nat := 0
  so : Nat := 0
  hb : Nat := 0
  wp : Nat := 0
  bk : Nat := 0
  sh : Nat := 0
  sf : Nat := 0
deriving DecidableEq, Inhabited

namespace PitchingCounts

/-- Counts add up count by count. -/
def add (a b : PitchingCounts) : PitchingCounts where
  gs := a.gs + b.gs
  cg := a.cg + b.cg
  sho := a.sho + b.sho
  gf := a.gf + b.gf
  w := a.w + b.w
  l := a.l + b.l
  sv := a.sv + b.sv
  outs := a.outs + b.outs
  bf := a.bf + b.bf
  h := a.h + b.h
  b2 := a.b2 + b.b2
  b3 := a.b3 + b.b3
  hr := a.hr + b.hr
  r := a.r + b.r
  er := a.er + b.er
  bb := a.bb + b.bb
  ibb := a.ibb + b.ibb
  so := a.so + b.so
  hb := a.hb + b.hb
  wp := a.wp + b.wp
  bk := a.bk + b.bk
  sh := a.sh + b.sh
  sf := a.sf + b.sf

instance : Add PitchingCounts := ⟨add⟩

/-- The counts by name. -/
def fields (c : PitchingCounts) : List (String × Nat) :=
  [("gs", c.gs), ("cg", c.cg), ("sho", c.sho), ("gf", c.gf), ("w", c.w), ("l", c.l), ("sv", c.sv),
    ("outs", c.outs), ("bf", c.bf), ("h", c.h), ("b2", c.b2), ("b3", c.b3), ("hr", c.hr),
    ("r", c.r), ("er", c.er), ("bb", c.bb), ("ibb", c.ibb), ("so", c.so), ("hb", c.hb),
    ("wp", c.wp), ("bk", c.bk), ("sh", c.sh), ("sf", c.sf)]

theorem add_comm (a b : PitchingCounts) : a + b = b + a :=
  PitchingCounts.ext (Nat.add_comm ..) (Nat.add_comm ..) (Nat.add_comm ..) (Nat.add_comm ..)
    (Nat.add_comm ..) (Nat.add_comm ..) (Nat.add_comm ..) (Nat.add_comm ..) (Nat.add_comm ..)
    (Nat.add_comm ..) (Nat.add_comm ..) (Nat.add_comm ..) (Nat.add_comm ..) (Nat.add_comm ..)
    (Nat.add_comm ..) (Nat.add_comm ..) (Nat.add_comm ..) (Nat.add_comm ..) (Nat.add_comm ..)
    (Nat.add_comm ..) (Nat.add_comm ..) (Nat.add_comm ..) (Nat.add_comm ..)

theorem add_assoc (a b c : PitchingCounts) : a + b + c = a + (b + c) :=
  PitchingCounts.ext (Nat.add_assoc ..) (Nat.add_assoc ..) (Nat.add_assoc ..) (Nat.add_assoc ..)
    (Nat.add_assoc ..) (Nat.add_assoc ..) (Nat.add_assoc ..) (Nat.add_assoc ..) (Nat.add_assoc ..)
    (Nat.add_assoc ..) (Nat.add_assoc ..) (Nat.add_assoc ..) (Nat.add_assoc ..) (Nat.add_assoc ..)
    (Nat.add_assoc ..) (Nat.add_assoc ..) (Nat.add_assoc ..) (Nat.add_assoc ..) (Nat.add_assoc ..)
    (Nat.add_assoc ..) (Nat.add_assoc ..) (Nat.add_assoc ..) (Nat.add_assoc ..)

end PitchingCounts

/-- Outs as innings pitched: whole innings, a point, and thirds of an inning. -/
def inningsText (outs : Nat) : String := (outs / 3).repr ++ "." ++ (outs % 3).repr

/-- The pitching of one player for one team over some games. -/
@[ext]
structure PitchingLine where
  player : String
  team : String
  games : IdSet := ∅
  counts : PitchingCounts := {}
deriving DecidableEq

namespace PitchingLine

/-- Joins two lines: the games of either, and the counts of both. The line keeps its own player and
team. -/
def merge (a b : PitchingLine) : PitchingLine :=
  { a with games := a.games.union b.games, counts := a.counts + b.counts }

/-- Adds counts to a line. -/
def credit (a : PitchingLine) (c : PitchingCounts) : PitchingLine :=
  { a with counts := a.counts + c }

/-- Games pitched. -/
def gamesPlayed (a : PitchingLine) : Nat := a.games.size

/-- Innings pitched. -/
def innings (a : PitchingLine) : String := inningsText a.counts.outs

/-- Earned runs in nine innings. -/
def earnedRunAverage (a : PitchingLine) : Rate :=
  .of (27 * .ofNat a.counts.er) (.ofNat a.counts.outs)

/-- Wins among decisions. -/
def winningPercentage (a : PitchingLine) : Rate :=
  .ofCounts a.counts.w (a.counts.w + a.counts.l)

/-- Walks and hits in an inning. -/
def baserunnersPerInning (a : PitchingLine) : Rate :=
  .of (3 * .ofNat (a.counts.bb + a.counts.h)) (.ofNat a.counts.outs)

end PitchingLine

end Baseball
