import Baseball.Game.Basic
import Baseball.Json.Value

/-!
# Plays and events as JSON

Positions and destinations are written as their numbers, kinds and sides by name, and a play as an
object with its fields. An empty text and an absent fielder are left out when a play is written; when
it is read, most of its fields may be missing. If several of its numbers stand for no position, the
error is about the first in the order of the fields.

## Main definitions

* `Position.toJson`, `Position.ofJson`, and the same for `Destination`, `PlayKind`, `Side`
* `Play.toJson`, `Play.ofJson`
* `Substitution.toJson`, `Substitution.ofJson`, `Event.toJson`, `Event.ofJson`
-/

namespace Baseball

open Json

/-! ### Codes and names -/

/-- A position by its number. -/
def Position.toJson (p : Position) : Json := .ofNat p.code

/-- A position from its number. -/
def Position.ofJson (j : Json) : Decoded Position := do
  let code ← j.toSmall
  match Position.ofCode? code with
  | some p => .ok p
  | none => .error (.position code)

/-- A destination by its number. -/
def Destination.toJson (d : Destination) : Json := .ofNat d.code

/-- A destination from its number. -/
def Destination.ofJson (j : Json) : Decoded Destination := do
  let code ← j.toSmall
  match Destination.ofCode? code with
  | some d => .ok d
  | none => .error (.destination code)

/-- A kind by its name. -/
def PlayKind.toJson (k : PlayKind) : Json := .string k.name

/-- A kind from its name. -/
def PlayKind.ofJson (j : Json) : Decoded PlayKind := do
  .ofOption (PlayKind.ofName? (← j.toName))

/-- The written name of a side. -/
def Side.name : Side → String
  | visitor => "visitor"
  | home => "home"

/-- A side by its name. -/
def Side.toJson (s : Side) : Json := .string s.name

/-- A side from its name. -/
def Side.ofJson (j : Json) : Decoded Side := do
  let name ← j.toName
  .ofOption (Side.both.find? (·.name == name))

/-- A value for the plate and each base as an array of four. -/
def ByOrigin.toJson {α : Type} (encode : α → Json) (t : ByOrigin α) : Json :=
  .ofList encode t.toList

/-- A value for the plate and each base from an array of four. -/
def ByOrigin.ofJson {α : Type} (decode : Json → Decoded α) (j : Json) : Decoded (ByOrigin α) := do
  .ofOption (ByOrigin.ofList? (← j.toList decode))

/-! ### Plays -/

namespace Play

/-- The names of the fields of a play. -/
def fieldNames : List String :=
  ["kind", "text", "advance", "outs", "rbi", "at_bat", "batter_event", "sh", "sf", "gdp",
    "double_play", "triple_play", "wild_pitch", "passed_ball", "stolen_base", "caught_stealing",
    "errors", "putouts", "assists", "fielded_by"]

/-- A play as an object. -/
def toJson (p : Play) : Json :=
  .object (
    [("kind", p.kind.toJson)]
    ++ (if p.text.isEmpty then [] else [("text", .string p.text)])
    ++ [("advance", p.advance.toJson Destination.toJson), ("outs", .ofNat p.outs),
      ("rbi", .ofNat p.rbi), ("at_bat", .bool p.atBat), ("batter_event", .bool p.batterEvent),
      ("sh", .bool p.sacrificeHit), ("sf", .bool p.sacrificeFly),
      ("gdp", .bool p.groundedIntoDoublePlay), ("double_play", .bool p.doublePlay),
      ("triple_play", .bool p.triplePlay), ("wild_pitch", .bool p.wildPitch),
      ("passed_ball", .bool p.passedBall), ("stolen_base", p.stolenBase.toJson .bool),
      ("caught_stealing", p.caughtStealing.toJson .bool),
      ("errors", .ofList Position.toJson p.errors),
      ("putouts", .ofList Position.toJson p.putouts),
      ("assists", .ofList Position.toJson p.assists)]
    ++ optionalField "fielded_by" Position.toJson p.fieldedBy?)

/-- The names of the fields that hold positions. -/
def creditNames : List String := ["errors", "putouts", "assists", "fielded_by"]

/-- The positions in the fields that hold positions, in the order of the fields. -/
def creditsOfFields (fs : List (String × Json)) : Decoded (List (String × List Position)) :=
  (fs.filter fun f => creditNames.contains f.1).mapM fun (name, j) => do
    if name == "fielded_by" then
      return (name, (← j.toOption Position.ofJson).toList)
    else
      return (name, ← j.toList Position.ofJson)

/-- A play from a record of its fields. -/
def ofJson (j : Json) : Decoded Play := do
  let fs ← j.toFields fieldNames
  let advance ← field fs "advance" (ByOrigin.ofJson Destination.ofJson)
  let credits ← creditsOfFields fs
  let credited (name : String) : List Position := (credits.lookup name).getD []
  let atBat ← field fs "at_bat" toBool
  let batterEvent ← field fs "batter_event" toBool
  let caughtStealing ← fieldD fs "caught_stealing" (ByOrigin.ofJson toBool) (.replicate false)
  let doublePlay ← fieldD fs "double_play" toBool false
  let groundedIntoDoublePlay ← fieldD fs "gdp" toBool false
  let kind ← field fs "kind" PlayKind.ofJson
  let outs ← field fs "outs" toSmall
  let passedBall ← fieldD fs "passed_ball" toBool false
  let rbi ← field fs "rbi" toSmall
  let sacrificeFly ← fieldD fs "sf" toBool false
  let sacrificeHit ← fieldD fs "sh" toBool false
  let stolenBase ← fieldD fs "stolen_base" (ByOrigin.ofJson toBool) (.replicate false)
  let text ← fieldD fs "text" toText ""
  let triplePlay ← fieldD fs "triple_play" toBool false
  let wildPitch ← fieldD fs "wild_pitch" toBool false
  return {
    kind, text, advance, outs, rbi, atBat, batterEvent, sacrificeHit, sacrificeFly,
    groundedIntoDoublePlay, doublePlay, triplePlay, wildPitch, passedBall, stolenBase,
    caughtStealing
    errors := credited "errors"
    putouts := credited "putouts"
    assists := credited "assists"
    fieldedBy? := (credited "fielded_by").head? }

end Play

/-! ### Substitutions and events -/

/-- A substitution as an object. -/
def Substitution.toJson (s : Substitution) : Json :=
  .object [("player", .string s.player), ("side", s.side.toJson), ("slot", .ofNat s.slot),
    ("position", s.position.toJson)]

/-- A substitution from a record of its fields. -/
def Substitution.ofJson (j : Json) : Decoded Substitution := do
  let fs ← j.toFields ["player", "side", "slot", "position"]
  let player ← field fs "player" toText
  let position ← field fs "position" Position.ofJson
  let side ← field fs "side" Side.ofJson
  let slot ← field fs "slot" toSmall
  return { player, side, slot, position }

/-- An event as an object with one field, named for what it is. -/
def Event.toJson : Event → Json
  | .play p => .object [("play", p.toJson)]
  | .noPlay subs => .object [("no_play", .ofList Substitution.toJson subs)]

/-- An event from an object with one field. -/
def Event.ofJson : Json → Decoded Event
  | .object [("play", j)] => .play <$> Play.ofJson j
  | .object [("no_play", j)] => .noPlay <$> j.toList Substitution.ofJson
  | _ => .error .mismatch

end Baseball
