import Baseball.BoxScore.Scorer
import Baseball.Report.Observer

/-!
# Reports made from box scores

Most reports look at a game only when it is over, and then only at its box score. Such a tally is fed
by a scorer of its own, who keeps the box score while the game lasts.

## Main definitions

* `GameTally` — what a tally does with a finished box score
* `Tallied` — a tally with its scorer, which is an observer; so is a scorer on his own, who files what
  he has finished
* `BoxScore.ofGame` — the box score of a whole game
-/

namespace Baseball

/-- A scorer watches a game and files its box score. -/
instance : Observer Scorer where
  gameStarted k g _ := k.openGame g
  playMade k g p s := k.play g p s
  lineupChanged k g subs _ := k.substitute g subs
  gameEnded k g s :=
    match k.closeGame g s with
    | (k, .ok b) => .ok (k.file b)
    | (k, .error e) => .fail k e

/-- The box score of a game, replayed from its first event. -/
def BoxScore.ofGame (g : Game) : Except ScoringError BoxScore :=
  let a := watchGame g [({} : Scorer)]
  match a.error? with
  | some e => .error e
  | none =>
    match a.state.head?.bind (·.finished.getLast?) with
    | some b => .ok b
    | none => .error (.missingOccupant g.id .boxScore)

/-- What a tally does with the box score of a finished game. -/
class GameTally (τ : Type) where
  addBox : τ → Game → BoxScore → τ

/-- A tally with the scorer who feeds it. -/
structure Tallied (τ : Type) where
  scorer : Scorer := {}
  tally : τ

/-- The tally gets the box score of each game that was closed in order. -/
instance {τ : Type} [GameTally τ] : Observer (Tallied τ) where
  gameStarted t g _ := (t.scorer.openGame g).map fun scorer => { t with scorer }
  playMade t g p s := (t.scorer.play g p s).map fun scorer => { t with scorer }
  lineupChanged t g subs _ := (t.scorer.substitute g subs).map fun scorer => { t with scorer }
  gameEnded t g s :=
    match t.scorer.closeGame g s with
    | (scorer, .ok b) => .ok ⟨scorer, GameTally.addBox t.tally g b⟩
    | (scorer, .error e) => .fail { t with scorer } e

end Baseball
