import Baseball.Json.Game
import Baseball.Live.Replay

/-!
# Situations as JSON

The situation a replay stands at is written with the answers to every question about it. A situation
can also be spelled out: answers that are missing are nobody, 0 or no, a half that is missing or null
is the visitor's, and nobody's position is known.

## Main definitions

* `Replay.toJson` — the situation of a replay
* `Situation.ofJson` — a situation that is spelled out
-/

namespace Baseball

open Json

/-! ### Writing -/

/-- One side of a situation, with the positions of some players. -/
def Situation.sideToJson (s : Situation) (players : List String) (side : Side) : Json :=
  .object [("score", .ofNat (s.score side)), ("hits", .ofNat (s.hits side)),
    ("errors", .ofNat (s.errors side)), ("lob", .ofNat (s.leftOnBase side)),
    ("batters", .ofNat (s.batters side)),
    ("lineup", .ofList (fun slot => .ofText? (s.playerAt? side slot)) (List.range slotCount)),
    ("fielders", .ofList (fun p => .ofText? (s.fielder? side p)) Position.all),
    ("positions", .object (players.filterMap fun player =>
      (s.positionOf? side player).map fun p => (player, p.toJson)))]

/-- A situation as an object, with the positions of some players. -/
def Situation.toJson (s : Situation) (players : List String) : Json :=
  .object [("inning", .ofNat s.inning), ("half", s.half.toJson), ("outs", .ofNat s.outs),
    ("over", .bool s.isOver), ("slot", .ofNat s.battingSlot), ("batter", .ofText? s.batter?),
    ("bases", .ofList
      (fun b => .array [.ofText? (s.runner? b), .ofText? (s.responsiblePitcher? b)]) Base.all),
    ("sides", .ofList (s.sideToJson players) Side.both)]

/-- The situation of a replay, with the positions of everybody in the game. -/
def Replay.toJson (r : Replay) : Json := r.situation.toJson r.game.playerIds

/-! ### Reading -/

/-- Players by lineup slot from an array, null standing for nobody. -/
def lineupOfJson (j : Json) : Decoded (Nat → Option String) := do
  let players ← j.toList (toOption toText)
  return fun slot => (players[slot]?).join

/-- Players by base from an array of four, the first of which stands at the plate. -/
def runnersOfJson (j : Json) : Decoded (Base → Option String) := do
  match ← j.toList (toOption toText) with
  | [_, first, second, third] =>
    return fun
      | .first => first
      | .second => second
      | .third => third
  | _ => .error .mismatch

/-- Players by position from an object whose fields are named by the numbers of positions. -/
def fieldersOfJson (j : Json) : Decoded (Position → Option String) := do
  let posts ← (← j.objectFields).mapM fun (name, player) => do
    return (← numberOfName smallMax name, ← player.toText)
  return fun p => posts.lookup p.code

/-- A situation from a record of its answers. -/
def Situation.ofJson (j : Json) : Decoded Situation := do
  let fs ← j.toFields ["lineup", "runners", "pitchers", "fielders", "score", "hits", "errors", "lob",
    "batters", "inning", "half", "outs", "over"]
  let nobody {α : Type} (_ : α) : Option String := none
  let playerAt? ← fieldD fs "lineup" (BySide.ofJson lineupOfJson) ⟨nobody, nobody⟩
  let runner? ← fieldD fs "runners" runnersOfJson nobody
  let responsiblePitcher? ← fieldD fs "pitchers" runnersOfJson nobody
  let fielder? ← fieldD fs "fielders" (BySide.ofJson fieldersOfJson) ⟨nobody, nobody⟩
  let score ← fieldD fs "score" (BySide.ofJson toCount) ⟨0, 0⟩
  let hits ← fieldD fs "hits" (BySide.ofJson toCount) ⟨0, 0⟩
  let errors ← fieldD fs "errors" (BySide.ofJson toCount) ⟨0, 0⟩
  let leftOnBase ← fieldD fs "lob" (BySide.ofJson toCount) ⟨0, 0⟩
  let batters ← fieldD fs "batters" (BySide.ofJson toCount) ⟨0, 0⟩
  let inning ← fieldD fs "inning" toSmall 0
  let half ← fieldOr fs "half" Side.ofJson .visitor
  let outs ← fieldD fs "outs" toSmall 0
  let isOver ← fieldD fs "over" toBool false
  return {
    inning, half, outs, runner?, responsiblePitcher?, isOver
    playerAt? := playerAt?.get
    positionOf? := fun _ _ => none
    fielder? := fielder?.get
    score := score.get
    hits := hits.get
    errors := errors.get
    leftOnBase := leftOnBase.get
    batters := batters.get }

end Baseball
