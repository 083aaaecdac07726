import Baseball.Proofs.Innings
import Mathlib.Logic.Function.Iterate

/-!
# Steps that fail

A play needs a pitcher, and a batter if it ends a plate appearance. If the pitcher is missing,
nothing has been done by the time this is found out. The batter is looked for later, when the
runners have already been taken off their bases and are still to be put where the play sends them;
if he is missing they are gone.

So a step that fails leaves the place it was taken from, but for the runners, and those stay unless
it is the batter who is missing. A second attempt changes nothing any more: it fails for the same
reason, at the place where the first one failed.

A count that overflows is no such failure. It stops the program, and nobody is left to ask what has
changed.

## Main definitions

* `Replay.Visited` — the places that a replay comes to, whether or not its steps succeed

## Main results

* `Replay.Visited.state_step_of_error` — what a step that fails leaves behind
* `Replay.Visited.unchanged_iff` — when a step that fails changes no answer
* `Replay.step_iterate_of_error` — trying again
* `Replay.Visited.fits` — innings and outs can be counted wherever a replay comes to
-/

namespace Baseball

namespace State

variable {gameId : String} {s : State} {p : Play} {event : Event} {e : ScoringError}

theorem applyPlay_of_no_batter (hpitcher : s.pitcher?.isSome) (hp : p.batterEvent)
    (h : s.batter? = none) :
    s.applyPlay gameId p = .fail { s with bases := {} } (.missingOccupant gameId .batter) := by
  obtain ⟨pitcher, hpitcher⟩ := Option.isSome_iff_exists.mp hpitcher
  rw [applyPlay, hpitcher]
  dsimp only
  rw [if_pos hp, h]

/-- A play that has failed fails again, and changes nothing any more: the man is missing whoever is
on base, and a count that was full is as full as before. -/
theorem applyPlay_again (h : (s.applyPlay gameId p).error? = some e) :
    (s.applyPlay gameId p).state.applyPlay gameId p = s.applyPlay gameId p := by
  rcases applyPlay_cases gameId s p with ⟨-, hp⟩ | ⟨hpitcher, hends, hbatter, hp⟩ |
    ⟨-, -, ⟨-, hp⟩ | ⟨-, hp⟩⟩
  · rw [hp, Attempt.state_fail, hp]
  · have hpitcher' : ({ s with bases := {} } : State).pitcher?.isSome := hpitcher
    have hbatter' : ({ s with bases := {} } : State).batter? = none := hbatter
    rw [hp, Attempt.state_fail, applyPlay_of_no_batter hpitcher' hends hbatter']
  · rw [hp] at h
    cases h
  · rw [hp, Attempt.state_fail, hp]

end State

namespace Replay

variable {g : Game} {r : Replay} {e : ScoringError}

/-- **The places that a replay comes to** from the first event of a game, by steps and by going back
to the first event. A step that fails leads somewhere too. -/
inductive Visited (g : Game) : Replay → Prop
  | start : Visited g (ofGame g)
  | step {r : Replay} (before : Visited g r) : Visited g r.step.state
  | reset {r : Replay} (before : Visited g r) : Visited g r.reset

/-! ### One step -/

theorem step_of_none (h : r.current? = none) : r.step = .ok r := by
  rw [step, h]

/-- A step applies the event it stands at, and moves past it if that went well. -/
theorem step_of_some {event : Event} (h : r.current? = some event) :
    r.step =
      ⟨{ r with
          cursor := r.cursor + (r.state.applyEvent r.game.id event).error?.isNone.toNat
          state := (r.state.applyEvent r.game.id event).state },
        (r.state.applyEvent r.game.id event).error?⟩ := by
  rw [step, h]
  dsimp only
  rcases r.state.applyEvent r.game.id event with ⟨s, _ | e⟩ <;> rfl

/-- A replay stays with its game. -/
theorem game_step (r : Replay) : r.step.state.game = r.game := by
  rcases h : r.current? with _ | event
  · rw [step_of_none h]
    rfl
  · rw [step_of_some h]

theorem Visited.game (h : Visited g r) : r.game = g := by
  induction h with
  | start => rfl
  | step _ ih => rw [game_step, ih]
  | reset _ ih => exact ih

/-- Going through what is left of a game is a matter of steps. -/
theorem Visited.seekToEnd (hr : Visited g r) : Visited g r.seekToEnd.state :=
  Attempt.state_forEach hr fun _ _ _ before => before.step

/-! ### A step that fails -/

/-- A step stays at a play that fails, with the state that the play leaves behind. -/
theorem step_of_failed_play {p : Play} (hcur : r.current? = some (.play p))
    (h : (r.state.applyPlay r.game.id p).error? = some e) :
    r.step = (r.state.applyPlay r.game.id p).map fun s => { r with state := s } := by
  rw [step_of_some hcur, State.applyEvent, Attempt.map, h]
  rfl

/-- Only plays fail. -/
theorem failed_play_of_failed_step (h : r.step.error? = some e) :
    ∃ p, r.current? = some (.play p) ∧ (r.state.applyPlay r.game.id p).error? = some e := by
  rcases hcur : r.current? with _ | event
  · rw [step_of_none hcur] at h
    cases h
  · rw [step_of_some hcur] at h
    cases event with
    | noPlay subs => cases h
    | play p => exact ⟨p, rfl, h⟩

/-- **What a step that fails leaves behind.** The error tells who was missing: without a pitcher
everything is as it was, and without a batter the runners are gone. -/
theorem Visited.state_step_of_error (hr : Visited g r) (h : r.step.error? = some e)
    (he : e ≠ .overflow g.id) :
    (e = .missingOccupant g.id .pitcher ∧ r.step.state = r) ∨
      (e = .missingOccupant g.id .batter ∧
        r.step.state = { r with state := { r.state with bases := {} } }) := by
  obtain ⟨p, hcur, herr⟩ := failed_play_of_failed_step h
  rw [← hr.game] at he ⊢
  rw [step_of_failed_play hcur herr]
  rcases State.applyPlay_failed herr with ⟨hrole, hp⟩ | ⟨hrole, hp⟩ | ⟨hover, -⟩
  · exact .inl ⟨hrole, by rw [hp]; rfl⟩
  · exact .inr ⟨hrole, by rw [hp]; rfl⟩
  · exact absurd hover he

/-- A state that says nobody is on base has nobody on base. -/
theorem runner?_eq_none_iff : (∀ b, r.situation.runner? b = none) ↔ r.state.bases = {} := by
  constructor
  · intro h
    have hget (b : Base) : r.state.bases.get b = none := Option.map_eq_none_iff.mp (h b)
    exact Bases.ext (hget .first) (hget .second) (hget .third)
  · intro h b
    exact Option.map_eq_none_iff.mpr (by rw [h, Bases.get_empty])

/-- **When a step that fails changes no answer**: it was the pitcher who was missing, or nobody was
on base. In any case the event it stands at stays the same, and so does everything but the
runners. This is about the errors that a step returns; from an overflow it does not return. -/
theorem Visited.unchanged_iff (hr : Visited g r) (h : r.step.error? = some e)
    (he : e ≠ .overflow g.id) :
    (r.step.state.situation = r.situation ∧ r.step.state.current? = r.current? ↔
      e = .missingOccupant g.id .pitcher ∨ ∀ b, r.situation.runner? b = none) ∧
    r.step.state = { r with state := { r.state with bases := r.step.state.state.bases } } := by
  rcases hr.state_step_of_error h he with ⟨rfl, hstep⟩ | ⟨rfl, hstep⟩
  · rw [hstep]
    exact ⟨⟨fun _ => .inl rfl, fun _ => ⟨rfl, rfl⟩⟩, rfl⟩
  · refine ⟨⟨?_, ?_⟩, by rw [hstep]⟩
    · rintro ⟨hsame, -⟩
      refine .inr fun b => ?_
      rw [← hsame, hstep]
      exact Option.map_eq_none_iff.mpr (Bases.get_empty b)
    · rintro (hrole | hempty)
      · cases hrole
      · have hstay : r.step.state = r := by
          rw [hstep, ← runner?_eq_none_iff.mp hempty]
        rw [hstay]
        exact ⟨rfl, rfl⟩

/-! ### A lineup of one -/

/-- The only visitor in the lineup singles, and after him nobody is due up. -/
def oneBatter : Game where
  id := "one batter"
  date := default
  visitor := "visitors"
  home := "hosts"
  starters := ⟨[⟨"v1", 1, .centerField⟩], [⟨"h1", 1, .pitcher⟩]⟩
  events := [.play (.ofKind .single), .play (.ofKind .single)]

theorem unchanged_iff_oneBatter : ∃ r e, Visited oneBatter r ∧ r.step.error? = some e ∧
    e ≠ .overflow "one batter" ∧
    (r.step.state.situation = r.situation ∧ r.step.state.current? = r.current? ↔
      e = .missingOccupant "one batter" .pitcher ∨ ∀ b, r.situation.runner? b = none) ∧
    r.step.state = { r with state := { r.state with bases := r.step.state.state.bases } } := by
  have hvisited : Visited oneBatter (ofGame oneBatter).step.state := .step .start
  have herr : (ofGame oneBatter).step.state.step.error?
      = some (.missingOccupant "one batter" .batter) := by decide +kernel
  exact ⟨_, _, hvisited, herr, nofun, hvisited.unchanged_iff herr nofun⟩

/-- The runner on first is gone after a step that fails. -/
theorem runner_lost_oneBatter : ∃ r e, Visited oneBatter r ∧ r.step.error? = some e ∧
    r.situation.runner? .first = some "v1" ∧ r.step.state.situation.runner? .first = none := by
  refine ⟨_, .missingOccupant "one batter" .batter, .step .start, ?_, ?_, ?_⟩ <;> decide +kernel

/-! ### Trying again -/

/-- A step that has failed fails again for the same reason, and changes nothing any more. -/
theorem step_again (h : r.step.error? = some e) : r.step.state.step = r.step := by
  obtain ⟨p, hcur, herr⟩ := failed_play_of_failed_step h
  have hagain := State.applyPlay_again herr
  set left := (r.state.applyPlay r.game.id p).state
  have hplace : r.step.state = { r with state := left } :=
    congrArg Attempt.state (step_of_failed_play hcur herr)
  have hcur' : ({ r with state := left } : Replay).current? = some (.play p) := hcur
  rw [hplace, step_of_failed_play hcur' (hagain ▸ herr), step_of_failed_play hcur herr, hagain]

/-- **Trying again** is of no use: however often a failed step is repeated, it leads to the place
where it led at first. -/
theorem step_iterate_of_error (h : r.step.error? = some e) (n : ℕ) :
    (fun r : Replay => r.step.state)^[n + 1] r = r.step.state := by
  induction n with
  | zero => rfl
  | succ n ih =>
    rw [Function.iterate_succ_apply', ih, step_again h]

/-! ### Counting innings and outs -/

theorem fits_step (hr : r.state.Fits) : r.step.state.state.Fits := by
  rcases hcur : r.current? with _ | event
  · rwa [step_of_none hcur]
  · rw [step_of_some hcur]
    exact State.fits_applyEvent hr event

/-- **Innings and outs can be counted** wherever a replay comes to. -/
theorem Visited.fits (hr : Visited g r) : r.state.Fits := by
  induction hr with
  | start => exact State.fits_ofGame g
  | step _ ih => exact fits_step ih
  | @reset r _ _ => exact State.fits_ofGame r.game

end Replay

end Baseball
