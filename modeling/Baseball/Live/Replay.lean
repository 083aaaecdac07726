import Baseball.Live.State

/-!
# Replaying a game

A replay goes through the events of a game one by one and keeps the state of the game before the
event it stands at.

## Main definitions

* `Replay` — a game, how many of its events were applied, and the state they led to
* `Replay.current?` — the event about to be applied
* `Replay.step` — apply it and move on; at the end nothing happens
* `Replay.seekToEnd` — apply everything that is left
-/

namespace Baseball

/-- A place in a game, and the state of the game there. -/
structure Replay where
  game : Game
  /-- How many events were applied. -/
  cursor : Nat
  state : State
deriving DecidableEq

namespace Replay

/-- The replay of a game from its first event. -/
def ofGame (g : Game) : Replay := ⟨g, 0, .ofGame g⟩

/-- The replay of the same game from its first event. -/
def reset (r : Replay) : Replay := ofGame r.game

/-- The event about to be applied, none at the end. -/
def current? (r : Replay) : Option Event := r.game.events[r.cursor]?

/-- The answers that the game gives at this point. -/
def situation (r : Replay) : Situation := r.state.situation

/-- Applies the current event and moves past it. A failed event is not passed. -/
def step (r : Replay) : Attempt Replay :=
  match r.current? with
  | none => .ok r
  | some event =>
    ((r.state.applyEvent r.game.id event).map fun s => { r with state := s }).andThen fun r =>
      .ok { r with cursor := r.cursor + 1 }

/-- Applies all events that are left, up to the first that fails. -/
def seekToEnd (r : Replay) : Attempt Replay :=
  Attempt.forEach (fun r _ => r.step) r (r.game.events.drop r.cursor)

end Replay

end Baseball
