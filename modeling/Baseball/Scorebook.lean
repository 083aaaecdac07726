import Baseball.Game.Attempt
import Baseball.Game.Basic
import Baseball.Keyed

/-!
# Scorebooks

A scorebook holds the teams, players and games of one season. A game is entered only if everybody it
names is in the book.

## Main definitions

* `Team`, `Player`, `Scorebook`
* `Scorebook.unresolved?` — the first name in a game that the book does not know
* `Scorebook.addGame` — enters a game, or says why not
* `Scorebook.invalid?` — the first error among the games that stand in the book
* `Scorebook.sortName`, `fullName`, `teamName` — the names that reports print
-/

namespace Baseball

/-- A team. -/
structure Team where
  id : String
  city : String
  nickname : String
  /-- Empty for a team in no league. -/
  league : String := ""
deriving DecidableEq, Inhabited

/-- City and nickname. -/
def Team.name (t : Team) : String := t.city ++ " " ++ t.nickname

/-- A player. -/
structure Player where
  id : String
  firstName : String
  lastName : String
deriving DecidableEq, Inhabited

namespace Player

/-- The name that registers sort by: last name first. -/
def sortName (p : Player) : String := p.lastName ++ ", " ++ p.firstName

/-- The name that box scores print: first name first. -/
def fullName (p : Player) : String := p.firstName ++ " " ++ p.lastName

end Player

/-- The teams, players and games of one season. -/
structure Scorebook where
  year : Int
  teams : Keyed String Team := ∅
  players : Keyed String Player := ∅
  games : List Game := []
deriving DecidableEq, Inhabited

namespace Scorebook

/-- Adds or replaces a team. -/
def addTeam (book : Scorebook) (team : Team) : Scorebook :=
  { book with teams := book.teams.insert team.id team }

/-- Adds or replaces a player. -/
def addPlayer (book : Scorebook) (player : Player) : Scorebook :=
  { book with players := book.players.insert player.id player }

/-! ### Entering games -/

/-- The first of the two teams of a game that is not in the book, the visitors first. -/
def unresolvedTeam? (book : Scorebook) (game : Game) : Option String :=
  [game.visitor, game.home].find? fun id => !book.teams.contains id

/-- The first player of a game who is not in the book: those entered, then those of record. -/
def unresolvedPlayer? (book : Scorebook) (game : Game) : Option String :=
  (game.playerIds ++ game.decisions.toList).find? fun id => !book.players.contains id

/-- Why a game cannot be entered: a team or, if both are known, a player that the book lacks. -/
def unresolved? (book : Scorebook) (game : Game) : Option ScoringError :=
  match book.unresolvedTeam? game, book.unresolvedPlayer? game with
  | some team, _ => some (.unresolvedTeam game.id team)
  | none, some player => some (.unresolvedPlayer game.id player)
  | none, none => none

/-- Enters a game without looking at its names. -/
def pushGame (book : Scorebook) (game : Game) : Scorebook :=
  { book with games := book.games ++ [game] }

/-- Enters a game whose names the book knows; they are looked up before anything is changed. -/
def addGame (book : Scorebook) (game : Game) : Attempt Scorebook :=
  match book.unresolved? game with
  | some e => .fail book e
  | none => .ok (book.pushGame game)

/-- The first error among the games of a book. -/
def invalid? (book : Scorebook) : Option ScoringError := book.games.findSome? book.unresolved?

/-! ### Names -/

/-- The name a player is sorted by, his identifier if the book does not know him. -/
def sortName (book : Scorebook) (id : String) : String :=
  ((book.players.get? id).map Player.sortName).getD id

/-- The name a player is printed by, his identifier if the book does not know him. -/
def fullName (book : Scorebook) (id : String) : String :=
  ((book.players.get? id).map Player.fullName).getD id

/-- The name of a team, its identifier if the book does not know it. -/
def teamName (book : Scorebook) (id : String) : String :=
  ((book.teams.get? id).map Team.name).getD id

end Scorebook

end Baseball
