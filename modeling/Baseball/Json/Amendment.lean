import Baseball.Json.Game
import Baseball.Play.Amendment

/-!
# Short forms of events

Plays can be written as a scorer makes them: the kind, and then the amendments to the conventional
play of that kind. An amendment is an array of its name and its arguments, or just the name. Events
that occur several times over can be written once.

## Main definitions

* `Play.Amendment.ofJson` — an amendment
* `Play.ofParts` — a play from its kind and its amendments
* `repeated` — a list a number of times over
* `Event.listOfJson` — the events that an entry of a list stands for
* `Game.ofShortJson` — a game whose events may be short forms
-/

namespace Baseball

open Json

/-! ### Amendments -/

/-- An origin from its number. -/
def Origin.ofJson (j : Json) : Decoded Origin := do
  let number ← j.toSize
  match Origin.ofNumber? number with
  | some o => .ok o
  | none => .error (.origin number)

/-- A name and the arguments after it. -/
def nameAndArguments : Json → Decoded (String × List Json)
  | .string name => .ok (name, [])
  | .array (.string name :: arguments) => .ok (name, arguments)
  | _ => .error .mismatch

/-- The amendment with a name, from its arguments. -/
def Play.Amendment.ofArguments : String → List Json → Decoded Play.Amendment
  | "advance", origin :: destination :: _ => do
    let destination ← Destination.ofJson destination
    return .advance (← Origin.ofJson origin) destination
  | "text", words :: _ => .text <$> words.toText
  | "outs", count :: _ => .outs <$> count.toSmall
  | "rbi", count :: _ => .rbi <$> count.toSmall
  | "sh", _ => .ok .sacrificeHit
  | "sf", _ => .ok .sacrificeFly
  | "gdp", _ => .ok .groundedIntoDoublePlay
  | "dp", _ => .ok .doublePlay
  | "tp", _ => .ok .triplePlay
  | "wp", _ => .ok .wildPitch
  | "pb", _ => .ok .passedBall
  | "sb", origin :: _ => .stolenBase <$> Origin.ofJson origin
  | "cs", origin :: _ => .caughtStealing <$> Origin.ofJson origin
  | "e", position :: _ => .error <$> Position.ofJson position
  | "po", position :: _ => .putout <$> Position.ofJson position
  | "a", position :: _ => .assist <$> Position.ofJson position
  | "by", position :: _ => .fieldedBy <$> Position.ofJson position
  | _, _ => .error .mismatch

/-- An amendment from its name and its arguments. -/
def Play.Amendment.ofJson (j : Json) : Decoded Play.Amendment := do
  let (name, arguments) ← nameAndArguments j
  ofArguments name arguments

/-- A play from its kind and its amendments. -/
def Play.ofParts (j : Json) : Decoded Play := do
  match ← j.items with
  | kind :: amendments =>
    let kind ← PlayKind.ofJson kind
    return (Play.ofKind kind).amendAll (← amendments.mapM Play.Amendment.ofJson)
  | [] => .error .mismatch

/-! ### Events -/

theorem Json.sizeOf_lt_of_get? {fields : List (String × Json)} {name : String} {j : Json}
    (h : get? fields name = some j) : sizeOf j < sizeOf (Json.object fields) := by
  obtain ⟨f, hf, rfl⟩ := Option.map_eq_some_iff.1 h
  have hmem := List.sizeOf_lt_of_mem (List.mem_of_find?_eq_some hf)
  have hsnd : sizeOf f = 1 + sizeOf f.1 + sizeOf f.2 := Prod.mk.sizeOf_spec f.1 f.2
  simp only [Json.object.sizeOf_spec]
  omega

/-- A list a number of times over. -/
def repeated {α : Type} (times : Nat) (xs : List α) : List α :=
  if xs.isEmpty then [] else (List.replicate times xs).flatten

/-- The events that an entry of a list stands for: a play in parts, several events a number of times
over, or one event. Events that occur no time at all are not looked at. -/
def Event.listOfJson : Json → Decoded (List Event)
  | .object fields =>
    match get? fields "build", get? fields "repeat", _ : get? fields "events" with
    | some parts, _, _ => (fun p => [.play p]) <$> Play.ofParts parts
    | none, some times, some (.array entries) => do
      match ← times.toCount with
      | 0 => return []
      | times =>
        let events ← entries.attach.mapM fun e => Event.listOfJson e.val
        return repeated times events.flatten
    | none, some _, _ => .error .mismatch
    | none, none, _ => (fun e => [e]) <$> Event.ofJson (.object fields)
  | j => (fun e => [e]) <$> Event.ofJson j
termination_by j => sizeOf j
decreasing_by
  have hentry := List.sizeOf_lt_of_mem e.property
  have hentries := Json.sizeOf_lt_of_get? ‹get? fields "events" = some _›
  simp only [Json.array.sizeOf_spec] at hentries
  omega

/-- A list of events from an array whose entries may be short forms. -/
def Event.listsOfJson (j : Json) : Decoded (List Event) :=
  List.flatten <$> j.toList Event.listOfJson

/-- A game, whose events may be short forms if it is an object. They are read last. -/
def Game.ofShortJson : Json → Decoded Game
  | .object fs => do
    let game ← Game.openingOfFields fs
    return { game with events := ← field fs "events" Event.listsOfJson }
  | j => Game.ofJson j

end Baseball
