import Baseball.BoxScore.Posting

/-!
# Keeping the box score of a game

A scorer follows one game from its start to its end and keeps its box score. Closing a game takes it
off his hands even if it cannot be closed in order; a game that could not be opened leaves the one he
was keeping in place.

## Main definitions

* `Scorer` — the box score in progress and the finished ones
* `Scorer.openGame`, `Scorer.substitute`, `Scorer.play`, `Scorer.closeGame`
* `BoxScore.close` — the final score, the decisions and the credit for finishing the game
-/

namespace Baseball

namespace BoxScore

/-! ### Closing -/

/-- Copies the final score of one side. -/
def takeScore (s : Situation) (side : Side) (t : TeamBox) : TeamBox :=
  { t with
    runs := s.score side
    hits := s.hits side
    errors := s.errors side
    leftOnBase := s.leftOnBase side }

/-- Copies the final score of both sides. -/
def takeScores (b : BoxScore) (s : Situation) : BoxScore :=
  { b with teams := .ofFn fun side => takeScore s side (b.team side) }

/-- The side on which a pitcher has a line, the visitors if he has one on both. -/
def pitcherSide? (b : BoxScore) (pitcher : String) : Option Side :=
  Side.both.find? fun side => (b.team side).pitchers.any (·.player == pitcher)

/-- Credits a pitcher of record, if one was named. -/
def creditDecision (gameId : String) (b : BoxScore) (pitcher? : Option String)
    (c : PitchingCounts) : Except ScoringError BoxScore :=
  match pitcher? with
  | none => .ok b
  | some pitcher =>
    match b.pitcherSide? pitcher with
    | none => .error (.unknownPlayer gameId pitcher)
    | some side =>
      .ok { b with
        teams := b.teams.modify side fun t => (t.creditPitching? pitcher c).getD t }

/-- Credits the winner, the loser and the save, in that order. -/
def creditDecisions (gameId : String) (b : BoxScore) (d : Decisions) :
    Except ScoringError BoxScore := do
  let b ← b.creditDecision gameId d.winner? { w := 1 }
  let b ← b.creditDecision gameId d.loser? { l := 1 }
  b.creditDecision gameId d.save? { sv := 1 }

/-- What the pitcher on the mound at the end is credited with: a complete game if he is the one who
started, and a shutout if nobody scored on it; otherwise a game finished. -/
def finishCredit (finisher allowed : Nat) : PitchingCounts :=
  if finisher = 0 then { cg := 1, sho := (allowed == 0).toNat } else { gf := 1 }

/-- Credits the pitcher on the mound at the end. -/
def creditFinish (t : TeamBox) (allowed : Nat) : TeamBox :=
  { t with
    pitchers := t.pitchers.modify t.currentPitcher
      (·.credit (finishCredit t.currentPitcher allowed)) }

/-- Closes a box score at the end of a game. -/
def close (b : BoxScore) (g : Game) (s : Situation) : Except ScoringError BoxScore := do
  let b ← (b.takeScores s).creditDecisions g.id g.decisions
  return { b with
    teams := .ofFn fun side => creditFinish (b.team side) (b.team side.opponent).runs
    complete := s.isOver }

end BoxScore

/-! ### The scorer -/

/-- The box score in progress and the finished ones. -/
structure Scorer where
  current? : Option BoxScore := none
  /-- Finished box scores, in the order in which they were finished. -/
  finished : List BoxScore := []
deriving DecidableEq, Inhabited

namespace Scorer

/-- Opens a game; if its starters cannot be entered, the scorer keeps what he had. -/
def openGame (k : Scorer) (g : Game) : Attempt Scorer :=
  match BoxScore.ofStarters g with
  | .ok b => .ok { k with current? := some b }
  | .error e => .fail k e

/-- Works on the box score in progress. -/
def onCurrent (k : Scorer) (g : Game) (f : BoxScore → Attempt BoxScore) : Attempt Scorer :=
  match k.current? with
  | none => .fail k (.missingOccupant g.id .gameInProgress)
  | some b => (f b).map fun b => { k with current? := some b }

/-- Enters the substitutes of an event, up to the first who cannot be. -/
def substitute (k : Scorer) (g : Game) (subs : List Substitution) : Attempt Scorer :=
  k.onCurrent g fun b => Attempt.forEach (BoxScore.enter g.id) b subs

/-- Posts a play, up to the first credit that cannot be made. -/
def play (k : Scorer) (g : Game) (p : Play) (s : Situation) : Attempt Scorer :=
  k.onCurrent g fun b => b.postPlay g.id s p

/-- Closes the game in progress and hands over its box score. -/
def closeGame (k : Scorer) (g : Game) (s : Situation) : Scorer × Except ScoringError BoxScore :=
  match k.current? with
  | none => (k, .error (.missingOccupant g.id .gameInProgress))
  | some b => ({ k with current? := none }, b.close g s)

/-- Files a finished box score. -/
def file (k : Scorer) (b : BoxScore) : Scorer := { k with finished := k.finished ++ [b] }

end Scorer

end Baseball
