import Baseball.Json.Game
import Baseball.Scorebook

/-!
# Scorebooks as JSON

Teams and players are written as objects with their identifiers as keys.

## Main definitions

* `Team.toJson`, `Player.toJson`, `Scorebook.toJson` and their readers
-/

namespace Baseball

open Json

/-- A team as an object. -/
def Team.toJson (t : Team) : Json :=
  .object [("id", .string t.id), ("city", .string t.city), ("nickname", .string t.nickname),
    ("league", .string t.league)]

/-- A team from a record of its fields. -/
def Team.ofJson (j : Json) : Decoded Team := do
  let fs ← j.toFields ["id", "city", "nickname", "league"]
  let city ← field fs "city" toText
  let id ← field fs "id" toText
  let league ← fieldD fs "league" toText ""
  let nickname ← field fs "nickname" toText
  return { id, city, nickname, league }

/-- A player as an object. -/
def Player.toJson (p : Player) : Json :=
  .object [("id", .string p.id), ("first_name", .string p.firstName),
    ("last_name", .string p.lastName)]

/-- A player from a record of its fields. -/
def Player.ofJson (j : Json) : Decoded Player := do
  let fs ← j.toFields ["id", "first_name", "last_name"]
  let firstName ← field fs "first_name" toText
  let id ← field fs "id" toText
  let lastName ← field fs "last_name" toText
  return { id, firstName, lastName }

/-- A table by identifier as an object. -/
def Keyed.toJson {α : Type} (encode : α → Json) (t : Keyed String α) : Json :=
  .object (t.entries.map fun (key, x) => (key, encode x))

/-- A table by identifier from an object. -/
def Keyed.ofJson {α : Type} (decode : Json → Decoded α) : Json → Decoded (Keyed String α)
  | .object fields => do
    return .ofList (← fields.mapM fun (key, j) => do return (key, ← decode j))
  | _ => .error .mismatch

namespace Scorebook

/-- The bounds of the year of a scorebook. -/
def yearBounds : Int × Int := (-0x80000000, 0x7FFFFFFF)

/-- A scorebook as an object. -/
def toJson (book : Scorebook) : Json :=
  .object [("year", .int book.year), ("teams", book.teams.toJson Team.toJson),
    ("players", book.players.toJson Player.toJson), ("games", .ofList Game.toJson book.games)]

/-- A scorebook from a record of its fields. -/
def ofJson (j : Json) : Decoded Scorebook := do
  let fs ← j.toFields ["year", "teams", "players", "games"]
  let games ← field fs "games" (toList Game.ofJson)
  let players ← field fs "players" (Keyed.ofJson Player.ofJson)
  let teams ← field fs "teams" (Keyed.ofJson Team.ofJson)
  let year ← field fs "year" (toIntIn yearBounds.1 yearBounds.2)
  return { year, teams, players, games }

end Scorebook

end Baseball
