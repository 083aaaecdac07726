import Baseball.Proofs.Innings
import Mathlib.Algebra.Order.Ring.Nat
import Mathlib.Logic.Function.Iterate

/-!
# When a game is over

The home side wins as soon as it leads in the ninth or later while it bats. Otherwise a game ends
between two innings, and so the visitors' half of the tenth or a later inning is over before it has
begun if the score is not level.

The outs of a half are those of its plays: a play with more outs than can be counted is not applied.

## Before the first play

That a half has not begun is nowhere recorded. A state takes it from there being no outs and nobody
on base, and this may be so again after plays: a half that was opened by a home run looks as if it
had not begun. `Replay.isOver_iff` says precisely when the answer is that of the rule, and
`Replay.isOver_soloHomeRun` is such a half.

## Main definitions

* `Replay.Reached` — a place in a game, with the plays made in the half since it began
* `State.Decided` — the rule
* `State.LooksUnopened` — a half that has begun and does not look like it

## Main results

* `Replay.Reached.halfSoFar` — what the state still knows of the plays of the half
* `Replay.isOver_iff` — a game is said to be over by the rule, or in a half that looks unopened
* `Replay.isOver_iff_decided_iff` — the rule is followed everywhere else
-/

namespace Baseball

namespace State

variable {s t : State} {ps : List Play}

/-- **The rule.** The home side leads in the ninth or later while it bats, or the visitors have not
begun their half of the tenth or a later inning and the score is not level. -/
def Decided (s : State) (ps : List Play) : Prop :=
  (s.half = .home ∧ 9 ≤ s.inning ∧ (s.side .visitor).score < (s.side .home).score) ∨
    (s.half = .visitor ∧ 10 ≤ s.inning ∧ (s.side .home).score ≠ (s.side .visitor).score ∧ ps = [])

/-- The visitors have begun their half of the tenth or a later inning, but nobody was put out so far
and nobody is on base; and the score is not level. -/
def LooksUnopened (s : State) (ps : List Play) : Prop :=
  s.half = .visitor ∧ 10 ≤ s.inning ∧ (s.side .home).score ≠ (s.side .visitor).score ∧ ps ≠ [] ∧
    (∀ p ∈ ps, p.outs = 0) ∧ s.bases = {}

/-- What a state knows of the plays of its half: their outs, and that the bases were empty before
the first of them. -/
structure HalfSoFar (s : State) (ps : List Play) : Prop where
  outs : s.outs = (ps.map Play.outs).sum
  bases : ps = [] → s.bases = {}

/-- A play that does not end the half adds its outs to those of the half. -/
theorem outs_afterPlay {p : Play} {batter? : Option Runner}
    (h : (s.afterPlay p batter?).half = s.half) :
    (s.afterPlay p batter?).outs = s.outs + p.outs := by
  rw [afterPlay] at h ⊢
  rcases settle_cases s (s.record p batter?) with ⟨-, hs⟩ | ⟨-, -, -, hs⟩ | ⟨-, -, hs⟩
  · rw [hs] at h
    exact absurd h (Side.opponent_ne s.half)
  · rw [hs]
    rfl
  · rw [hs, outs_record]

/-- A play that ends the half leaves no outs and nobody on base. -/
theorem halfSoFar_afterPlay_of_ne {p : Play} {batter? : Option Runner}
    (h : (s.afterPlay p batter?).half ≠ s.half) : (s.afterPlay p batter?).HalfSoFar [] := by
  rw [afterPlay] at h ⊢
  rcases settle_cases s (s.record p batter?) with ⟨-, hs⟩ | ⟨-, -, -, hs⟩ | ⟨-, -, hs⟩
  · rw [hs]
    exact ⟨rfl, fun _ => rfl⟩
  · rw [hs] at h
    exact absurd rfl h
  · rw [hs] at h
    exact absurd rfl h

theorem SameCount.halfSoFar (h : SameCount s t) (hs : s.HalfSoFar ps) : t.HalfSoFar ps where
  outs := h.outs.trans hs.outs
  bases hps := by
    have hempty : ∀ b, t.bases.get b = none := by
      intro b
      have hsome := h.isSome_get b
      rw [hs.bases hps, Bases.get_empty] at hsome
      exact Option.isNone_iff_eq_none.mp (by simpa using hsome)
    exact Bases.ext (hempty .first) (hempty .second) (hempty .third)

end State

namespace Replay

variable {g : Game} {r r' : Replay} {ps : List Play}

/-- The plays of the half in progress after a step, given those before it. -/
def halfPlays (r r' : Replay) (ps : List Play) : List Play :=
  if r'.state.half = r.state.half then ps ++ (r.current?.bind Event.play?).toList else []

/-- **The places that successful steps lead to**, with the plays made since the last half ended. -/
inductive Reached (g : Game) : Replay → List Play → Prop
  | start : Reached g (ofGame g) []
  | step {r r' : Replay} {ps : List Play} (before : Reached g r ps) (happened : r.step = .ok r') :
      Reached g r' (halfPlays r r' ps)

/-- A step succeeds at the end of a game, or by applying the event it stands at. -/
theorem step_eq_ok (h : r.step = .ok r') :
    (r.current? = none ∧ r' = r) ∨
      ∃ e s', r.current? = some e ∧ r.state.applyEvent r.game.id e = .ok s' ∧
        r' = { r with state := s', cursor := r.cursor + 1 } := by
  rw [step] at h
  rcases he : r.current? with _ | e
  · rw [he] at h
    exact .inl ⟨rfl, (Attempt.ok_inj.mp h).symm⟩
  · rw [he] at h
    obtain ⟨m, hm, hr⟩ := Attempt.andThen_eq_ok.mp h
    obtain ⟨s', hs, rfl⟩ := Attempt.map_eq_ok.mp hm
    exact .inr ⟨e, s', rfl, hs, (Attempt.ok_inj.mp hr).symm⟩

/-- **A step keeps** what the state knows of its half. -/
theorem halfSoFar_step (h : r.step = .ok r') (hr : r.state.HalfSoFar ps) :
    r'.state.HalfSoFar (halfPlays r r' ps) := by
  rcases step_eq_ok h with ⟨hcur, rfl⟩ | ⟨e, s', hcur, hs, rfl⟩
  · rw [halfPlays, if_pos rfl, hcur]
    simpa using hr
  · rw [halfPlays, hcur]
    cases e with
    | play p =>
      obtain ⟨-, -, -, rfl⟩ := State.applyPlay_eq_ok_iff.mp hs
      split
      · next hhalf =>
        constructor
        · rw [State.outs_afterPlay hhalf, hr.outs]
          simp [Event.play?]
        · intro hps
          simp [Event.play?] at hps
      · next hhalf => exact State.halfSoFar_afterPlay_of_ne hhalf
    | noPlay subs =>
      obtain rfl : subs.foldl State.substitute r.state = s' := (Attempt.eq_ok_iff.mp hs).2
      have hsame := State.SameCount.foldl_substitute r.state subs
      rw [if_pos hsame.half]
      simpa [Event.play?] using hsame.halfSoFar hr

theorem Reached.halfSoFar (h : Reached g r ps) : r.state.HalfSoFar ps := by
  induction h with
  | start => exact ⟨rfl, fun _ => rfl⟩
  | step _ happened ih => exact halfSoFar_step happened ih

/-- **When a game is said to be over**: exactly by the rule, and in a half that has begun and does
not look like it. -/
theorem isOver_iff (h : Reached g r ps) :
    r.state.isOver = true ↔ r.state.Decided ps ∨ r.state.LooksUnopened ps := by
  have hsofar := h.halfSoFar
  have houts : r.state.outs = 0 ↔ ∀ p ∈ ps, p.outs = 0 := by
    rw [hsofar.outs, List.sum_eq_zero_iff_forall_eq_nat, List.forall_mem_map]
  rw [State.isOver, State.Decided, State.LooksUnopened]
  rcases hhalf : r.state.half with _ | _
  · simp only [Bool.and_eq_true, decide_eq_true_eq, beq_iff_eq, bne_iff_ne, Bases.isEmpty_iff,
      houts]
    constructor
    · rintro ⟨⟨⟨hinning, hnone⟩, hbases⟩, hscore⟩
      by_cases hps : ps = []
      · exact .inl (.inr ⟨trivial, hinning, hscore, hps⟩)
      · exact .inr ⟨trivial, hinning, hscore, hps, hnone, hbases⟩
    · rintro ((⟨hhome, -⟩ | ⟨-, hinning, hscore, hps⟩) | ⟨-, hinning, hscore, -, hnone, hbases⟩)
      · cases hhome
      · refine ⟨⟨⟨hinning, ?_⟩, hsofar.bases hps⟩, hscore⟩
        rw [hps]
        exact fun _ hp => nomatch hp
      · exact ⟨⟨⟨hinning, hnone⟩, hbases⟩, hscore⟩
  · simp [State.isWalkOff, hhalf]

/-- A half that looks unopened is not one that the rule decides. -/
theorem not_decided_of_looksUnopened {s : State} (h : s.LooksUnopened ps) : ¬ s.Decided ps := by
  obtain ⟨hhalf, -, -, hps, -⟩ := h
  rintro (⟨hhome, -⟩ | ⟨-, -, -, hnil⟩)
  · cases hhalf.symm.trans hhome
  · exact hps hnil

/-! ### A half opened by a home run -/

/-- Nobody scores in nine innings, and the tenth is opened by a home run. -/
def soloHomeRun : Game where
  id := "solo"
  date := default
  visitor := "visitors"
  home := "hosts"
  starters := ⟨[⟨"v1", 1, .pitcher⟩], [⟨"h1", 1, .pitcher⟩]⟩
  events := .replicate 18 (.play { Play.ofKind .other with outs := 3 })
    ++ [.play (.ofKind .homeRun)]

/-- A place and the plays of its half after one more step. -/
def stepOn (x : Replay × List Play) : Replay × List Play :=
  (x.1.step.state, halfPlays x.1 x.1.step.state x.2)

theorem reached_stepOn (g : Game) (n : Nat)
    (h : ∀ k < n, (stepOn^[k] (ofGame g, [])).1.step.error? = none) :
    Reached g (stepOn^[n] (ofGame g, [])).1 (stepOn^[n] (ofGame g, [])).2 := by
  induction n with
  | zero => exact .start
  | succ n ih =>
    rw [Function.iterate_succ_apply']
    have before := ih fun k hk => h k (Nat.lt_succ_of_lt hk)
    exact before.step (Attempt.eq_ok_iff.mpr ⟨h n (Nat.lt_succ_self n), rfl⟩)

/-- **Where the rule is followed**: everywhere but in a half that looks unopened. -/
theorem isOver_iff_decided_iff (h : Reached g r ps) :
    (r.state.isOver = true ↔ r.state.Decided ps) ↔ ¬ r.state.LooksUnopened ps := by
  rw [isOver_iff h]
  constructor
  · intro hrule hlooks
    exact not_decided_of_looksUnopened hlooks (hrule.mp (.inr hlooks))
  · intro hnot
    exact ⟨fun hover => hover.resolve_right hnot, .inl⟩

theorem isOver_iff_decided_soloHomeRun : ∃ r ps, Reached soloHomeRun r ps ∧
    ((r.state.isOver = true ↔ r.state.Decided ps) ↔ ¬ r.state.LooksUnopened ps) := by
  have hreached := reached_stepOn soloHomeRun 19 (by decide +kernel)
  exact ⟨_, _, hreached, isOver_iff_decided_iff hreached⟩

/-- In the middle of the top of the tenth the game is said to be over, and by the rule it is not. -/
theorem isOver_soloHomeRun : ∃ r ps, Reached soloHomeRun r ps ∧ ps = [.ofKind .homeRun] ∧
    r.state.half = .visitor ∧ r.state.isOver = true ∧ ¬ r.state.Decided ps := by
  have hps : (stepOn^[19] (ofGame soloHomeRun, [])).2 = [.ofKind .homeRun] := by decide +kernel
  have hhalf : (stepOn^[19] (ofGame soloHomeRun, [])).1.state.half = .visitor := by decide +kernel
  have hreached := reached_stepOn soloHomeRun 19 (by decide +kernel)
  refine ⟨_, _, hreached, hps, hhalf, by decide +kernel, ?_⟩
  rw [hps]
  rintro (⟨hhome, -⟩ | ⟨-, -, -, hnil⟩)
  · cases hhalf.symm.trans hhome
  · cases hnil

end Replay

end Baseball
