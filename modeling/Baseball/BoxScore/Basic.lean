import Baseball.BoxScore.TeamBox

/-!
# Box scores

A box score is the two team boxes of a game under its heading. It is opened with the starters,
everything that happens is entered on one side or the other, and it is closed with the final score,
the pitchers of record and the credit for finishing the game.

## Main definitions

* `BoxScore` — the box score of a game, finished or not
* `BoxScore.ofStarters` — the box score before the first event
* `BoxScore.enter` — the box score after a substitution
* `BoxScore.innings` — the longer of the two linescores
-/

namespace Baseball

/-- The box score of a game. -/
@[ext]
structure BoxScore where
  gameId : String
  date : Date
  number : Nat
  decisions : Decisions
  teams : BySide TeamBox
  /-- Whether the game was over where the box score was closed. -/
  complete : Bool := false
deriving DecidableEq

namespace BoxScore

/-- One side's half. -/
def team (b : BoxScore) (side : Side) : TeamBox := b.teams.get side

/-- Innings played: the longer of the two linescores. -/
def innings (b : BoxScore) : Nat :=
  max (b.team .visitor).linescore.length (b.team .home).linescore.length

/-- The batting lines of both teams, the visitors' first. -/
def battingLines (b : BoxScore) : List BattingLine := b.teams.toList.flatMap TeamBox.battingLines

/-- The pitching lines of both teams, the visitors' first. -/
def pitchingLines (b : BoxScore) : List PitchingLine := b.teams.toList.flatMap TeamBox.pitchers

/-- The fielding lines of both teams, the visitors' first. -/
def fieldingLines (b : BoxScore) : List FieldingLine := b.teams.toList.flatMap TeamBox.fielders

/-! ### Opening -/

/-- A starter comes in, and is credited with the start at his position. -/
def startFielder (gameId : String) (t : TeamBox) (s : Starter) : Except ScoringError TeamBox := do
  let t ← t.enter gameId s.player s.slot s.position
  return (t.creditFielding? s.player s.position { gs := 1 }).getD t

/-- Credits the first pitcher with the start. -/
def startPitcher (gameId : String) (t : TeamBox) : Except ScoringError TeamBox :=
  match t.pitchers with
  | [] => .error (.missingOccupant gameId .startingPitcher)
  | first :: rest =>
    .ok { t with pitchers := first.credit { gs := 1 } :: rest, currentPitcher := 0 }

/-- The box of one side before the first event. -/
def openSide (g : Game) (side : Side) : Except ScoringError TeamBox := do
  let t ← (g.starters.get side).foldlM (startFielder g.id) (.opened (g.team side) g.id)
  startPitcher g.id t

/-- The box score of a game before its first event. -/
def ofStarters (g : Game) : Except ScoringError BoxScore := do
  let visitor ← openSide g .visitor
  let home ← openSide g .home
  return {
    gameId := g.id
    date := g.date
    number := g.number
    decisions := g.decisions
    teams := ⟨visitor, home⟩ }

/-! ### Changing one side -/

/-- Works on one side. -/
def onSide (b : BoxScore) (side : Side) (f : TeamBox → Attempt TeamBox) : Attempt BoxScore :=
  (f (b.team side)).map fun t => { b with teams := b.teams.modify side fun _ => t }

/-- A substitute comes in. -/
def enter (gameId : String) (b : BoxScore) (sub : Substitution) : Attempt BoxScore :=
  b.onSide sub.side fun t =>
    match t.enter gameId sub.player sub.slot sub.position with
    | .ok t => .ok t
    | .error e => .fail t e

end BoxScore

end Baseball
