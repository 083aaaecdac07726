import Baseball.Line.Record
import Baseball.Report.StatLine

/-!
# Choosing lines and games

A choice of lines names a team, a player, or a number and its bounds; a choice of games names a number,
a team, or the days between which they were played. Whatever is not named is not looked at.

## Main definitions

* `NumberBounds` — a number of a line by its name, and what it may be
* `LineChoice` — with `LineChoice.accepts` and `LineChoice.acceptsRecord`
* `GameChoice` — with `GameChoice.accepts`
-/

namespace Baseball

/-! ### Lines -/

/-- A number of a line by its name, and what it may be. -/
structure NumberBounds where
  name : String
  least : Nat := 0
  most? : Option Nat := none
deriving DecidableEq

namespace NumberBounds

/-- The bounded one of some numbers; a number that is not there is 0. -/
def value (b : NumberBounds) (numbers : List (String × Nat)) : Nat :=
  (numbers.lookup b.name).getD 0

/-- Whether the number is within the bounds. -/
def accept (b : NumberBounds) (numbers : List (String × Nat)) : Bool :=
  b.least ≤ b.value numbers && b.most?.all (b.value numbers ≤ ·)

end NumberBounds

/-- Which lines are looked at. -/
structure LineChoice where
  team? : Option String := none
  player? : Option String := none
  bounds? : Option NumberBounds := none
deriving DecidableEq

namespace LineChoice

/-- Whether a line is chosen. -/
def accepts {L : Type} [StatLine L] (c : LineChoice) (l : L) : Bool :=
  c.team?.all (· == StatLine.team l) && c.player?.all (· == StatLine.player l)
    && c.bounds?.all (·.accept (StatLine.numbers l))

/-- Whether a record is chosen; it is no player's, and its numbers are its counts. -/
def acceptsRecord (c : LineChoice) (r : TeamRecord) : Bool :=
  c.team?.all (· == r.team) && c.player?.isNone
    && c.bounds?.all (·.accept r.counts.fields)

end LineChoice

/-! ### Games -/

/-- Which games are looked at. -/
structure GameChoice where
  number? : Option Nat := none
  team? : Option String := none
  /-- The first day. -/
  first? : Option Date := none
  /-- The last day. -/
  last? : Option Date := none
deriving DecidableEq

/-- Whether a game is chosen. -/
def GameChoice.accepts (c : GameChoice) (g : Game) : Bool :=
  c.number?.all (· == g.number) && c.team?.all (fun team => (g.sideOf? team).isSome)
    && c.first?.all (fun day => (compare day g.date).isLE)
    && c.last?.all fun day => (compare g.date day).isLE

end Baseball
