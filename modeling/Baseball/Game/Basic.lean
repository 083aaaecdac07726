import Baseball.Date.Text
import Baseball.Play.Basic
import Baseball.Side

/-!
# Games

A game is its two starting lineups, the list of its events in order, and the pitchers of record. An
event is a play, or a list of substitutions made between plays.

## Main definitions

* `Starter`, `Substitution`, `Event`, `Decisions`, `Game`
* `Game.team`, `Game.sideOf?` — the team of a side and the side of a team
* `Game.playerIds` — everybody who is entered
-/

namespace Baseball

/-- The number of lineup slots: 1 to 9 bat, and 0 holds a pitcher who does not. -/
def slotCount : Nat := 10

/-- A player in a starting lineup. -/
structure Starter where
  player : String
  slot : Nat
  position : Position
deriving DecidableEq, Inhabited

/-- A lineup change: the player takes a slot of one side, at a position. -/
structure Substitution where
  player : String
  side : Side
  slot : Nat
  position : Position
deriving DecidableEq, Inhabited

/-- An entry in the event list of a game. -/
inductive Event where
  | play (play : Play)
  /-- Substitutions only; no score, out or base changes hands. -/
  | noPlay (substitutions : List Substitution)
deriving DecidableEq, Inhabited

namespace Event

/-- The play of an event, if it is one. -/
def play? : Event → Option Play
  | play p => some p
  | noPlay _ => none

/-- The substitutions of an event, none for a play. -/
def substitutions : Event → List Substitution
  | play _ => []
  | noPlay subs => subs

end Event

/-- The pitchers of record, as the scorer entered them. -/
structure Decisions where
  winner? : Option String := none
  loser? : Option String := none
  save? : Option String := none
deriving DecidableEq, Inhabited

/-- The pitchers of record that were named: winner, loser and save in that order. -/
def Decisions.toList (d : Decisions) : List String :=
  [d.winner?, d.loser?, d.save?].filterMap id

/-- One game. -/
structure Game where
  id : String
  date : Date
  /-- 0 for a single game, 1 or 2 for the games of a doubleheader. -/
  number : Nat := 0
  visitor : String
  home : String
  starters : BySide (List Starter) := ⟨[], []⟩
  events : List Event := []
  decisions : Decisions := {}
deriving DecidableEq, Inhabited

namespace Game

/-- The team on a side. -/
def team (g : Game) : Side → String
  | .visitor => g.visitor
  | .home => g.home

/-- The side a team played on, the visitors' if it played on both. -/
def sideOf? (g : Game) (team : String) : Option Side :=
  Side.both.find? fun side => g.team side == team

/-- The starting pitcher of a side. -/
def startingPitcher? (g : Game) (side : Side) : Option String :=
  ((g.starters.get side).find? fun s => s.position == .pitcher).map Starter.player

/-- Whether the lineup of a side has a pitcher who does not bat. -/
def usesDesignatedHitter (g : Game) (side : Side) : Bool :=
  (g.starters.get side).any fun s => s.slot == 0

/-- Every substitution of a game, in event order. -/
def substitutions (g : Game) : List Substitution := g.events.flatMap Event.substitutions

/-- Everybody entered in a game: the starters, the visitors' first, then the substitutes in event
order. -/
def playerIds (g : Game) : List String :=
  g.starters.toList.flatten.map Starter.player ++ g.substitutions.map Substitution.player

/-- Adds a starter to the lineup of a side. -/
def withStarter (g : Game) (side : Side) (s : Starter) : Game :=
  { g with starters := g.starters.modify side (· ++ [s]) }

/-- Adds an event at the end. -/
def withEvent (g : Game) (event : Event) : Game := { g with events := g.events ++ [event] }

/-- What a heading adds to tell the games of a doubleheader apart. -/
def numberSuffix (g : Nat) : String :=
  match g with
  | 1 => " (game 1)"
  | 2 => " (game 2)"
  | _ => ""

end Game

end Baseball
