import Baseball.Decimal.Rate
import Baseball.Keyed

/-!
# Batting lines

What one player has done at bat for one team, over a game or over many. A line holds counts only;
every average is worked out from them when it is asked for.

## Main definitions

* `BattingCounts` — the counts, which add up count by count
* `BattingLine` — whose they are, and over which games; `BattingLine.merge` joins two lines
* `BattingLine.average`, `slugging`, `onBase`, `onBasePlusSlugging`
-/

namespace Baseball

/-- Batting counts. -/
@[ext]
structure BattingCounts where
  /-- Plate appearances. -/
  pa : Nat := 0
  /-- Official at-bats. -/
  ab : Nat := 0
  r : Nat := 0
  h : Nat := 0
  b2 : Nat := 0
  b3 : Nat := 0
  hr : Nat := 0
  rbi : Nat := 0
  bb : Nat := 0
  /-- Intentional walks, which are walks too. -/
  ibb : Nat := 0
  so : Nat := 0
  hbp : Nat := 0
  sh : Nat := 0
  sf : Nat := 0
  sb : Nat := 0
  cs : Nat := 0
  /-- Double plays grounded into. -/
  gdp : Nat := 0
deriving DecidableEq, Inhabited

namespace BattingCounts

/-- Counts add up count by count. -/
def add (a b : BattingCounts) : BattingCounts where
  pa := a.pa + b.pa
  ab := a.ab + b.ab
  r := a.r + b.r
  h := a.h + b.h
  b2 := a.b2 + b.b2
  b3 := a.b3 + b.b3
  hr := a.hr + b.hr
  rbi := a.rbi + b.rbi
  bb := a.bb + b.bb
  ibb := a.ibb + b.ibb
  so := a.so + b.so
  hbp := a.hbp + b.hbp
  sh := a.sh + b.sh
  sf := a.sf + b.sf
  sb := a.sb + b.sb
  cs := a.cs + b.cs
  gdp := a.gdp + b.gdp

instance : Add BattingCounts := ⟨add⟩

/-- The counts by name. -/
def fields (c : BattingCounts) : List (String × Nat) :=
  [("pa", c.pa), ("ab", c.ab), ("r", c.r), ("h", c.h), ("b2", c.b2), ("b3", c.b3), ("hr", c.hr),
    ("rbi", c.rbi), ("bb", c.bb), ("ibb", c.ibb), ("so", c.so), ("hbp", c.hbp), ("sh", c.sh),
    ("sf", c.sf), ("sb", c.sb), ("cs", c.cs), ("gdp", c.gdp)]

/-- Total bases: one for each hit, and one more for each base beyond the first. -/
def totalBases (c : BattingCounts) : Nat := c.h + c.b2 + 2 * c.b3 + 3 * c.hr

theorem add_comm (a b : BattingCounts) : a + b = b + a :=
  BattingCounts.ext (Nat.add_comm ..) (Nat.add_comm ..) (Nat.add_comm ..) (Nat.add_comm ..)
    (Nat.add_comm ..) (Nat.add_comm ..) (Nat.add_comm ..) (Nat.add_comm ..) (Nat.add_comm ..)
    (Nat.add_comm ..) (Nat.add_comm ..) (Nat.add_comm ..) (Nat.add_comm ..) (Nat.add_comm ..)
    (Nat.add_comm ..) (Nat.add_comm ..) (Nat.add_comm ..)

theorem add_assoc (a b c : BattingCounts) : a + b + c = a + (b + c) :=
  BattingCounts.ext (Nat.add_assoc ..) (Nat.add_assoc ..) (Nat.add_assoc ..) (Nat.add_assoc ..)
    (Nat.add_assoc ..) (Nat.add_assoc ..) (Nat.add_assoc ..) (Nat.add_assoc ..) (Nat.add_assoc ..)
    (Nat.add_assoc ..) (Nat.add_assoc ..) (Nat.add_assoc ..) (Nat.add_assoc ..) (Nat.add_assoc ..)
    (Nat.add_assoc ..) (Nat.add_assoc ..) (Nat.add_assoc ..)

end BattingCounts

/-- The batting of one player for one team over some games. -/
@[ext]
structure BattingLine where
  player : String
  team : String
  games : IdSet := ∅
  counts : BattingCounts := {}
deriving DecidableEq

namespace BattingLine

/-- Joins two lines: the games of either, and the counts of both. The line keeps its own player and
team. -/
def merge (a b : BattingLine) : BattingLine :=
  { a with games := a.games.union b.games, counts := a.counts + b.counts }

/-- Adds counts to a line. -/
def credit (a : BattingLine) (c : BattingCounts) : BattingLine := { a with counts := a.counts + c }

/-- Games played. -/
def gamesPlayed (a : BattingLine) : Nat := a.games.size

/-- Batting average. -/
def average (a : BattingLine) : Rate := .ofCounts a.counts.h a.counts.ab

/-- Slugging percentage. -/
def slugging (a : BattingLine) : Rate := .ofCounts a.counts.totalBases a.counts.ab

/-- On-base percentage. -/
def onBase (a : BattingLine) : Rate :=
  .ofCounts (a.counts.h + a.counts.bb + a.counts.hbp)
    (a.counts.ab + a.counts.bb + a.counts.hbp + a.counts.sf)

/-- On-base plus slugging, undefined where either part is. -/
def onBasePlusSlugging (a : BattingLine) : Rate :=
  match a.onBase.value?, a.slugging.value? with
  | some x, some y => .of (x + y) 1
  | _, _ => .undefined

end BattingLine

end Baseball
