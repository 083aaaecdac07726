import Baseball.Play.Advance
import Baseball.Position
import Baseball.Side

/-!
# The situation of a game

Whoever keeps statistics of a game asks the same questions about it before every play: who bats, who
is on base and who is charged with him, who fields where, and what the score is. A `Situation`
answers them. It says nothing about where the answers come from.

## Main definitions

* `Situation` — the answers
* `Situation.battingSlot`, `Situation.batter?` — who is due up
-/

namespace Baseball

/-- The lineup slot that is due up after a number of completed plate appearances: the nine batting
slots take turns. -/
def dueUp (batters : Nat) : Nat := batters % 9 + 1

/-- What can be asked about a game at one point of it. -/
structure Situation where
  inning : Nat
  /-- The side at bat, the visitors in the top half. -/
  half : Side
  outs : Nat
  /-- The player in a lineup slot. -/
  playerAt? : Side → Nat → Option String
  /-- The position a player holds. -/
  positionOf? : Side → String → Option Position
  runner? : Base → Option String
  /-- The pitcher charged with the runner on a base. -/
  responsiblePitcher? : Base → Option String
  /-- The player at a position. -/
  fielder? : Side → Position → Option String
  score : Side → Nat
  hits : Side → Nat
  errors : Side → Nat
  leftOnBase : Side → Nat
  /-- Completed plate appearances. -/
  batters : Side → Nat
  /-- Whether the result can no longer change. -/
  isOver : Bool

namespace Situation

/-- The lineup slot due up for the side at bat. -/
def battingSlot (s : Situation) : Nat := dueUp (s.batters s.half)

/-- The player due up for the side at bat. -/
def batter? (s : Situation) : Option String := s.playerAt? s.half s.battingSlot

/-- How many bases are occupied. -/
def runnersOn (s : Situation) : Nat := Base.all.countP fun b => (s.runner? b).isSome

end Situation

end Baseball
