import Baseball.Json.Play

/-!
# Games as JSON

A game is written with every field; decisions that were not made are left out. When it is read, the
number and the decisions may be missing.

## Main definitions

* `Date.toJson`, `Date.ofJson`
* `Starter.toJson`, `Decisions.toJson`, `Game.toJson` and their readers
* `Game.openingOfFields` — a game before its first event
-/

namespace Baseball

open Json

/-- A date as text. -/
def Date.toJson (d : Date) : Json := .string d.text

/-- A date from text. -/
def Date.ofJson (j : Json) : Decoded Date := do
  .ofOption (Date.read? (← j.toText))

/-- A starter as an object. -/
def Starter.toJson (s : Starter) : Json :=
  .object [("player", .string s.player), ("slot", .ofNat s.slot), ("position", s.position.toJson)]

/-- A starter from a record of its fields. -/
def Starter.ofJson (j : Json) : Decoded Starter := do
  let fs ← j.toFields ["player", "slot", "position"]
  let player ← field fs "player" toText
  let position ← field fs "position" Position.ofJson
  let slot ← field fs "slot" toSmall
  return { player, slot, position }

/-- The decisions that were made as an object. -/
def Decisions.toJson (d : Decisions) : Json :=
  .object (optionalField "winner" .string d.winner? ++ optionalField "loser" .string d.loser?
    ++ optionalField "save" .string d.save?)

/-- Decisions from a record of their fields. -/
def Decisions.ofJson (j : Json) : Decoded Decisions := do
  let fs ← j.toFields ["winner", "loser", "save"]
  let loser? ← field? fs "loser" toText
  let save? ← field? fs "save" toText
  let winner? ← field? fs "winner" toText
  return { winner?, loser?, save? }

/-- A value for each side as an array of two. -/
def BySide.toJson {α : Type} (encode : α → Json) (t : BySide α) : Json := .ofList encode t.toList

/-- A value for each side from an array of two. -/
def BySide.ofJson {α : Type} (decode : Json → Decoded α) (j : Json) : Decoded (BySide α) := do
  match ← j.toList decode with
  | [visitor, home] => .ok ⟨visitor, home⟩
  | _ => .error .mismatch

namespace Game

/-- A game as an object. -/
def toJson (g : Game) : Json :=
  .object [("id", .string g.id), ("date", g.date.toJson), ("number", .ofNat g.number),
    ("visitor", .string g.visitor), ("home", .string g.home),
    ("starters", g.starters.toJson (.ofList Starter.toJson)),
    ("events", .ofList Event.toJson g.events), ("decisions", g.decisions.toJson)]

/-- The names of the fields of a game. -/
def fieldNames : List String :=
  ["id", "date", "number", "visitor", "home", "starters", "events", "decisions"]

/-- A game before its first event, from some fields. -/
def openingOfFields (fs : List (String × Json)) : Decoded Game := do
  let date ← field fs "date" Date.ofJson
  let decisions ← fieldD fs "decisions" Decisions.ofJson {}
  let home ← field fs "home" toText
  let id ← field fs "id" toText
  let number ← fieldD fs "number" toSmall 0
  let starters ← field fs "starters" (BySide.ofJson (toList Starter.ofJson))
  let visitor ← field fs "visitor" toText
  return { id, date, number, visitor, home, starters, decisions }

/-- A game from a record of its fields. An array has the starters before the events, and an object,
whose fields are in the order of their names, the events before the starters. -/
def ofJson (j : Json) : Decoded Game := do
  let fs ← j.toFields fieldNames
  match j with
  | .array _ =>
    let game ← openingOfFields fs
    return { game with events := ← field fs "events" (toList Event.ofJson) }
  | _ =>
    let events ← field fs "events" (toList Event.ofJson)
    return { ← openingOfFields fs with events }

end Game

end Baseball
