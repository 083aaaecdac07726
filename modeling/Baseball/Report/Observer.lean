import Baseball.Live.Replay

/-!
# Observers

An observer is told everything that happens in a game: that it starts, each play, each change of
lineup, and that it is over. It sees the situation before the event, and at the end the final one.
What it does may fail, and then keeps what it had noted by then.

Several observers watch a game together. They are told of each event one after the other, and the
first failure stops everything: the observers after it are not told, and the game goes no further.

## Main definitions

* `Observer` — what an observer does when he is told something
* `tellEach` — tells several observers, up to the first failure
* `Watch` — a replay and its observers, with `Watch.event` and `Watch.game`
* `watchGame` — lets several observers watch a game from its first event

## Main statements

* `error?_tellEach_eq_none`, `state_tellEach` — everybody is told exactly if nobody fails, and then
  each has done his own part, whoever else is there
-/

namespace Baseball

/-- What an observer does when he is told something. He does nothing unless something else is
said. -/
class Observer (ρ : Type) where
  /-- A game starts. -/
  gameStarted : ρ → Game → Situation → Attempt ρ := fun r _ _ => .ok r
  /-- A play is made. -/
  playMade : ρ → Game → Play → Situation → Attempt ρ := fun r _ _ _ => .ok r
  /-- A lineup changes. -/
  lineupChanged : ρ → Game → List Substitution → Situation → Attempt ρ := fun r _ _ _ => .ok r
  /-- A game is over. -/
  gameEnded : ρ → Game → Situation → Attempt ρ := fun r _ _ => .ok r

variable {ρ : Type}

/-- Tells several observers, up to the first failure. -/
def tellEach (tell : ρ → Attempt ρ) : List ρ → Attempt (List ρ)
  | [] => .ok []
  | r :: rs =>
    let a := tell r
    match a.error? with
    | some e => .fail (a.state :: rs) e
    | none => (tellEach tell rs).map (a.state :: ·)

/-- Everybody is told exactly if nobody fails. -/
theorem error?_tellEach_eq_none {tell : ρ → Attempt ρ} {rs : List ρ} :
    (tellEach tell rs).error? = none ↔ ∀ r ∈ rs, (tell r).error? = none := by
  induction rs with
  | nil => simp [tellEach]
  | cons r rs ih =>
    rcases h : (tell r).error? with _ | e
    · simpa [tellEach, h, Attempt.map] using ih
    · simp [tellEach, h]

/-- If nobody fails, everybody has done his part. -/
theorem state_tellEach {tell : ρ → Attempt ρ} {rs : List ρ}
    (h : (tellEach tell rs).error? = none) :
    (tellEach tell rs).state = rs.map fun r => (tell r).state := by
  induction rs with
  | nil => rfl
  | cons r rs ih =>
    rcases hr : (tell r).error? with _ | e
    · have hrs : (tellEach tell rs).error? = none := by simpa [tellEach, hr, Attempt.map] using h
      simp [tellEach, hr, Attempt.map, ih hrs]
    · simp [tellEach, hr] at h

/-- A replay and the observers who watch it. -/
structure Watch (ρ : Type) where
  replay : Replay
  observers : List ρ

namespace Watch

/-- Tells every observer something about the present situation. -/
def tell (w : Watch ρ) (f : ρ → Situation → Attempt ρ) : Attempt (Watch ρ) :=
  (tellEach (f · w.replay.situation) w.observers).map fun observers => { w with observers }

/-- Moves the replay on. -/
def step (w : Watch ρ) : Attempt (Watch ρ) :=
  w.replay.step.map fun replay => { w with replay }

variable [Observer ρ]

/-- Tells the observers of an event of a game. -/
def tellEvent (g : Game) (w : Watch ρ) (event : Event) : Attempt (Watch ρ) :=
  w.tell fun r s =>
    match event with
    | .play p => Observer.playMade r g p s
    | .noPlay subs => Observer.lineupChanged r g subs s

/-- Tells the observers of an event, and then lets it happen. -/
def event (g : Game) (w : Watch ρ) (event : Event) : Attempt (Watch ρ) :=
  (w.tellEvent g event).andThen step

/-- Goes through a game from its start to its end. The replay should stand at the start of the same
game. -/
def game (g : Game) (w : Watch ρ) : Attempt (Watch ρ) :=
  ((w.tell (Observer.gameStarted · g ·)).andThen
    fun w => Attempt.forEach (event g) w g.events).andThen
      fun w => w.tell (Observer.gameEnded · g ·)

end Watch

/-- Lets several observers watch a game from its first event. -/
def watchGame [Observer ρ] (g : Game) (observers : List ρ) : Attempt (List ρ) :=
  (Watch.game g ⟨.ofGame g, observers⟩).map Watch.observers

end Baseball
