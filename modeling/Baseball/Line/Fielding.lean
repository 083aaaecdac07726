import Baseball.Decimal.Rate
import Baseball.Keyed
import Baseball.Position

/-!
# Fielding lines

What one player has done at one position for one team, and what a whole team has done in the field.

## Main definitions

* `FieldingCounts`, `FieldingLine` — of a player at a position
* `TeamFieldingCounts`, `TeamFielding` — of a team
* `FieldingLine.fieldingPercentage`, `FieldingLine.rangeFactor`
-/

namespace Baseball

/-- Putouts and assists among chances accepted or missed. -/
def fieldingRate (po a e : Nat) : Rate := .ofCounts (po + a) (po + a + e)

/-! ### A player at a position -/

/-- Fielding counts of a player. -/
@[ext]
structure FieldingCounts where
  gs : Nat := 0
  /-- Outs made while the player was at the position. -/
  outs : Nat := 0
  /-- Balls in play that the player turned into outs. -/
  fieldedOuts : Nat := 0
  po : Nat := 0
  a : Nat := 0
  e : Nat := 0
  dp : Nat := 0
  tp : Nat := 0
  pb : Nat := 0
deriving DecidableEq, Inhabited

namespace FieldingCounts

/-- Counts add up count by count. -/
def add (c d : FieldingCounts) : FieldingCounts where
  gs := c.gs + d.gs
  outs := c.outs + d.outs
  fieldedOuts := c.fieldedOuts + d.fieldedOuts
  po := c.po + d.po
  a := c.a + d.a
  e := c.e + d.e
  dp := c.dp + d.dp
  tp := c.tp + d.tp
  pb := c.pb + d.pb

instance : Add FieldingCounts := ⟨add⟩

/-- The counts by name. -/
def fields (c : FieldingCounts) : List (String × Nat) :=
  [("gs", c.gs), ("outs", c.outs), ("fielded_outs", c.fieldedOuts), ("po", c.po), ("a", c.a),
    ("e", c.e), ("dp", c.dp), ("tp", c.tp), ("pb", c.pb)]

theorem add_comm (c d : FieldingCounts) : c + d = d + c :=
  FieldingCounts.ext (Nat.add_comm ..) (Nat.add_comm ..) (Nat.add_comm ..) (Nat.add_comm ..)
    (Nat.add_comm ..) (Nat.add_comm ..) (Nat.add_comm ..) (Nat.add_comm ..) (Nat.add_comm ..)

theorem add_assoc (b c d : FieldingCounts) : b + c + d = b + (c + d) :=
  FieldingCounts.ext (Nat.add_assoc ..) (Nat.add_assoc ..) (Nat.add_assoc ..) (Nat.add_assoc ..)
    (Nat.add_assoc ..) (Nat.add_assoc ..) (Nat.add_assoc ..) (Nat.add_assoc ..) (Nat.add_assoc ..)

end FieldingCounts

/-- The fielding of one player at one position for one team over some games. -/
@[ext]
structure FieldingLine where
  player : String
  team : String
  position : Position
  games : IdSet := ∅
  counts : FieldingCounts := {}
deriving DecidableEq

namespace FieldingLine

/-- Joins two lines: the games of either, and the counts of both. The line keeps its own player,
team and position. -/
def merge (a b : FieldingLine) : FieldingLine :=
  { a with games := a.games.union b.games, counts := a.counts + b.counts }

/-- Adds counts to a line. -/
def credit (a : FieldingLine) (c : FieldingCounts) : FieldingLine :=
  { a with counts := a.counts + c }

/-- Games at the position. -/
def gamesPlayed (a : FieldingLine) : Nat := a.games.size

/-- Chances accepted among all chances. -/
def fieldingPercentage (a : FieldingLine) : Rate :=
  fieldingRate a.counts.po a.counts.a a.counts.e

/-- Balls fielded into outs in nine innings at the position. -/
def rangeFactor (a : FieldingLine) : Rate :=
  .of (27 * .ofNat a.counts.fieldedOuts) (.ofNat a.counts.outs)

end FieldingLine

/-! ### A team -/

/-- Fielding counts of a team. -/
@[ext]
structure TeamFieldingCounts where
  outs : Nat := 0
  po : Nat := 0
  a : Nat := 0
  e : Nat := 0
  dp : Nat := 0
  tp : Nat := 0
  pb : Nat := 0
deriving DecidableEq, Inhabited

namespace TeamFieldingCounts

/-- Counts add up count by count. -/
def add (c d : TeamFieldingCounts) : TeamFieldingCounts where
  outs := c.outs + d.outs
  po := c.po + d.po
  a := c.a + d.a
  e := c.e + d.e
  dp := c.dp + d.dp
  tp := c.tp + d.tp
  pb := c.pb + d.pb

instance : Add TeamFieldingCounts := ⟨add⟩

/-- The counts by name. -/
def fields (c : TeamFieldingCounts) : List (String × Nat) :=
  [("outs", c.outs), ("po", c.po), ("a", c.a), ("e", c.e), ("dp", c.dp), ("tp", c.tp),
    ("pb", c.pb)]

theorem add_comm (c d : TeamFieldingCounts) : c + d = d + c :=
  TeamFieldingCounts.ext (Nat.add_comm ..) (Nat.add_comm ..) (Nat.add_comm ..) (Nat.add_comm ..)
    (Nat.add_comm ..) (Nat.add_comm ..) (Nat.add_comm ..)

theorem add_assoc (b c d : TeamFieldingCounts) : b + c + d = b + (c + d) :=
  TeamFieldingCounts.ext (Nat.add_assoc ..) (Nat.add_assoc ..) (Nat.add_assoc ..)
    (Nat.add_assoc ..) (Nat.add_assoc ..) (Nat.add_assoc ..) (Nat.add_assoc ..)

end TeamFieldingCounts

/-- The fielding of a team over some games. -/
@[ext]
structure TeamFielding where
  team : String
  games : IdSet := ∅
  counts : TeamFieldingCounts := {}
deriving DecidableEq

namespace TeamFielding

/-- Joins two totals: the games of either, and the counts of both. -/
def merge (a b : TeamFielding) : TeamFielding :=
  { a with games := a.games.union b.games, counts := a.counts + b.counts }

/-- Adds counts to a total. -/
def credit (a : TeamFielding) (c : TeamFieldingCounts) : TeamFielding :=
  { a with counts := a.counts + c }

/-- Games played. -/
def gamesPlayed (a : TeamFielding) : Nat := a.games.size

/-- Chances accepted among all chances. -/
def fieldingPercentage (a : TeamFielding) : Rate :=
  fieldingRate a.counts.po a.counts.a a.counts.e

end TeamFielding

end Baseball
