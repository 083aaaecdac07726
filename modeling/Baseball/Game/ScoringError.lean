import Baseball.Position

/-!
# What can go wrong in scoring a game

Every error names the game it arose in.

Among the causes is a count that overflows. Nothing is refused then and no error comes back: the
program stops. It is listed with the errors because it ends the work on a game where they do.

## Main definitions

* `Role` — what was looked for and not found
* `ScoringError` — the causes, with their wording in `ScoringError.message`
-/

namespace Baseball

/-- Somebody or something that a game needs at some point. -/
inductive Role where
  | batter
  | pitcher
  /-- The fielder at a position. -/
  | fielder (position : Position)
  /-- The pitcher charged with a runner. -/
  | responsiblePitcher
  | startingPitcher
  /-- A game that has been opened and not closed. -/
  | gameInProgress
  /-- The box score of a finished game. -/
  | boxScore
deriving DecidableEq

/-- How a role is named. -/
def Role.name : Role → String
  | batter => "batter"
  | pitcher => "pitcher"
  | fielder position => position.abbreviation
  | responsiblePitcher => "responsible pitcher"
  | startingPitcher => "starting pitcher"
  | gameInProgress => "game in progress"
  | boxScore => "box score"

/-- Why scoring a game, or entering it in a scorebook, was refused. -/
inductive ScoringError where
  /-- A player is credited who was never entered in the lineup. -/
  | unknownPlayer (game player : String)
  /-- Nobody fills a role at the point where he is needed. -/
  | missingOccupant (game : String) (role : Role)
  /-- A player was put into a slot that lineups do not have. -/
  | invalidSlot (game player : String) (slot : Nat)
  /-- A team is not in the scorebook. -/
  | unresolvedTeam (game team : String)
  /-- A player is not in the scorebook. -/
  | unresolvedPlayer (game player : String)
  /-- A count has no room for what is added to it, and the program stops. -/
  | overflow (game : String)
deriving DecidableEq

/-- The wording of an error. -/
def ScoringError.message : ScoringError → String
  | unknownPlayer game player =>
    "game " ++ game ++ ": player '" ++ player ++ "' was never entered in the lineup"
  | missingOccupant game role => "game " ++ game ++ ": no " ++ role.name ++ " in the current game state"
  | invalidSlot game player slot =>
    "game " ++ game ++ ": player '" ++ player ++ "' entered in invalid lineup slot " ++ slot.repr
  | unresolvedTeam game team => "game " ++ game ++ ": team '" ++ team ++ "' is not in the scorebook"
  | unresolvedPlayer game player =>
    "game " ++ game ++ ": player '" ++ player ++ "' is not in the scorebook"
  | overflow _ => "attempt to add with overflow"

end Baseball
