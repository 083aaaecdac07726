import Baseball.Json.Game
import Baseball.Report.Choice

/-!
# Choices from JSON

A choice is read from a record in which every field may be missing. What is not to be looked at may
also be null; a lower bound may not.

## Main definitions

* `LineChoice.ofJson`, `GameChoice.ofJson`
-/

namespace Baseball

open Json

/-- A choice of lines from a record of its fields. Bounds count only if a number is named. -/
def LineChoice.ofJson (j : Json) : Decoded LineChoice := do
  let fs ← j.toFields ["team", "player", "stat", "min", "max"]
  let team? ← field? fs "team" toText
  let player? ← field? fs "player" toText
  let name? ← field? fs "stat" toText
  let least ← fieldD fs "min" toCount 0
  let most? ← field? fs "max" toCount
  return { team?, player?, bounds? := name?.map fun name => { name, least, most? } }

/-- A choice of games from a record of its fields. -/
def GameChoice.ofJson (j : Json) : Decoded GameChoice := do
  let fs ← j.toFields ["number", "team", "from", "to"]
  let number? ← field? fs "number" toSmall
  let team? ← field? fs "team" toText
  let first? ← field? fs "from" Date.ofJson
  let last? ← field? fs "to" Date.ofJson
  return { number?, team?, first?, last? }

end Baseball
