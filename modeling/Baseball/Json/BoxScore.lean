import Baseball.BoxScore.Basic
import Baseball.Json.Game
import Baseball.Json.Line

/-!
# Box scores as JSON

A team box is written with its stints slot by slot, its lines and its counts, and with what follows
from them: double plays and the first and the present pitcher.

## Main definitions

* `TeamBox.toJson`, `BoxScore.toJson`
-/

namespace Baseball

/-- A stint as an object. -/
def Stint.toJson (s : Stint) : Json :=
  .object [("line", s.line.toJson), ("positions", .ofList Position.toJson s.positions)]

/-- A team box as an object. -/
def TeamBox.toJson (t : TeamBox) : Json :=
  .object [("team", .string t.team),
    ("slots", .ofList (fun s => .ofList Stint.toJson (t.slot s)) (List.range slotCount)),
    ("pitchers", .ofList PitchingLine.toJson t.pitchers),
    ("fielders", .ofList FieldingLine.toJson t.fielders), ("fielding", t.fielding.toJson),
    ("linescore", .ofList .ofNat t.linescore), ("at_bats", .ofNat t.atBats),
    ("earned_runs", .ofNat t.earnedRuns), ("runs", .ofNat t.runs), ("hits", .ofNat t.hits),
    ("errors", .ofNat t.errors), ("lob", .ofNat t.leftOnBase), ("dp", .ofNat t.doublePlays),
    ("starter", .ofText? (t.startingPitcher?.map PitchingLine.player)),
    ("current_pitcher", .ofText? (t.currentPitcher?.map PitchingLine.player))]

/-- A box score as an object. -/
def BoxScore.toJson (b : BoxScore) : Json :=
  .object [("id", .string b.gameId), ("date", b.date.toJson), ("number", .ofNat b.number),
    ("decisions", b.decisions.toJson), ("complete", .bool b.complete),
    ("innings", .ofNat b.innings), ("visitor", (b.team .visitor).toJson),
    ("home", (b.team .home).toJson)]

end Baseball
