import Baseball.Game.Basic
import Baseball.Keyed

/-!
# Lineup, positions and fielders of a side

Three tables say who is in the game for a side: who stands in each lineup slot, which position each
player holds, and who fields each position. Seating a player updates the last two; a player who is
displaced from his slot loses his position and every post he held.

## Main definitions

* `Squad` — the three tables
* `Squad.seat`, `Squad.unseat` — a player takes a position, or leaves the game
* `Squad.takeSlot` — a player takes a lineup slot
* `Squad.ofStarters` — the squad that starts a game
-/

namespace Baseball

/-- Who is in the game for one side. -/
@[ext]
structure Squad where
  /-- The occupant of each lineup slot. -/
  lineup : Vector (Option String) slotCount
  /-- The position each player holds. -/
  positions : Keyed String Position
  /-- The occupant of each position, by `Position.index`. -/
  posts : Vector (Option String) 12
deriving DecidableEq

namespace Squad

/-- Nobody is in the game. -/
def empty : Squad := ⟨.replicate _ none, ∅, .replicate _ none⟩

instance : Inhabited Squad := ⟨empty⟩

/-- The player in a lineup slot; nobody stands in a slot that lineups do not have. -/
def playerAt? (q : Squad) (slot : Nat) : Option String := q.lineup[slot]?.join

/-- The position a player holds. -/
def positionOf? (q : Squad) (player : String) : Option Position := q.positions.get? player

/-- The player at a position. -/
def fielder? (q : Squad) (p : Position) : Option String := q.posts[p.index]

/-- Whether taking a position means filling a post: the nine fielders and the designated hitter
do, pinch hitters and pinch runners do not. -/
def hasPost (p : Position) : Bool := p.isFielding || p == .designatedHitter

/-- The posts after a player has left one of them, if it was his. -/
def leavePost (q : Squad) (player : String) (p : Position) : Squad :=
  if q.fielder? p = some player then { q with posts := q.posts.set p.index none } else q

/-- The squad after a player has taken a position and given up the one he held. -/
def seat (q : Squad) (player : String) (p : Position) : Squad :=
  let left :=
    match q.positionOf? player with
    | some old => q.leavePost player old
    | none => q
  { left with
    positions := q.positions.insert player p
    posts := if hasPost p then left.posts.set p.index (some player) else left.posts }

/-- The squad after a player has left the game. -/
def unseat (q : Squad) (player : String) : Squad :=
  { q with
    positions := q.positions.erase player
    posts := q.posts.map fun held => if held = some player then none else held }

/-- Writes a player into a lineup slot, if there is such a slot. -/
def takeSlot (q : Squad) (slot : Nat) (player : String) : Squad :=
  { q with lineup := q.lineup.setIfInBounds slot (some player) }

/-- Whoever stood in a slot and makes way for a substitute. -/
def displaced? (q : Squad) (sub : Substitution) : Option String :=
  (q.playerAt? sub.slot).filter (· != sub.player)

/-- The squad after a substitution. -/
def substitute (q : Squad) (sub : Substitution) : Squad :=
  let q' := q.takeSlot sub.slot sub.player
  let q' :=
    match q.displaced? sub with
    | some old => q'.unseat old
    | none => q'
  q'.seat sub.player sub.position

/-- A starter takes his place. -/
def enterStarter (q : Squad) (s : Starter) : Squad :=
  (q.takeSlot s.slot s.player).seat s.player s.position

/-- The squad that starts a game. -/
def ofStarters (starters : List Starter) : Squad := starters.foldl enterStarter empty

end Squad

end Baseball
