import Baseball.Proofs.Scorekeeping
import Mathlib.Order.Interval.Finset.Nat

/-!
# The half-innings of a game

Numbered one after the other, a play is made in the half-inning of the play before it or in the next
one: a half is closed only by a play made in it, and substitutions close none. So the half-innings
in which somebody batted follow each other from the top of the first without a gap, and the innings
in which a side batted are the first ones of the game.

## Main definitions

* `State.halfNumber` — the half-innings in one count, the top of the first being 2
* `lastHalf` — the half-inning of the last play
* `Consecutive` — plays in half-innings that follow each other, and the half that goes on
* `inningsAtBat` — the innings in which a side batted

## Main results

* `Consecutive.afterPlay` — one more play keeps the half-innings consecutive
* `BoxScore.Kept.consecutive` — they are so wherever a game was kept
* `Consecutive.inningsAtBat_eq` — a side batted in the first innings of the game
-/

namespace Baseball

/-! ### One count of half-innings -/

/-- How far the half of a side comes behind the top of the same inning. -/
def Side.turn : Side → Nat
  | .visitor => 0
  | .home => 1

/-- The half-innings in one count: two to the inning, the top of the first being 2. -/
def State.halfNumber (s : State) : Nat := 2 * s.inning + s.half.turn

/-- The half-inning of the last play; before the first play it is the one before the top of the
first. -/
def lastHalf (qs : List (State × Play)) : Nat := (qs.getLast?.map (·.1.halfNumber)).getD 1

@[simp] theorem lastHalf_nil : lastHalf [] = 1 := rfl

@[simp] theorem lastHalf_concat (qs : List (State × Play)) (q : State × Play) :
    lastHalf (qs ++ [q]) = q.1.halfNumber := by
  rw [lastHalf, List.getLast?_concat]
  rfl

@[simp] theorem Side.turn_visitor : Side.visitor.turn = 0 := rfl

@[simp] theorem Side.turn_home : Side.home.turn = 1 := rfl

theorem Side.turn_le (side : Side) : side.turn ≤ 1 := by
  cases side <;> decide

namespace State

variable {s t : State}

/-- **A play leaves the half-inning as it is, or ends it.** -/
theorem halfNumber_afterPlay (s : State) (p : Play) (r : Option Runner) :
    (s.afterPlay p r).halfNumber = s.halfNumber ∨
      (s.afterPlay p r).halfNumber = s.halfNumber + 1 := by
  rw [afterPlay]
  rcases settle_cases s (s.record p r) with ⟨-, h⟩ | ⟨-, -, -, h⟩ | ⟨-, -, h⟩
  · right
    have hinning : (s.record p r).strand.inning = s.inning := rfl
    have hhalf : (s.record p r).strand.half = s.half := rfl
    rw [h, halfNumber, halfNumber, endHalf, hinning, hhalf]
    cases s.half with
    | visitor => rfl
    | home =>
      show 2 * (s.inning + 1) + 0 = 2 * s.inning + 1 + 1
      omega
  · exact .inl (by rw [h]; rfl)
  · exact .inl (by rw [h]; rfl)

theorem SameCount.halfNumber (h : SameCount s t) : t.halfNumber = s.halfNumber := by
  rw [State.halfNumber, State.halfNumber, h.inning, h.half]

end State

/-! ### No gap -/

section Consecutive

variable {qs : List (State × Play)} {s s' : State} {side : Side} {i : Nat}

/-- Plays in half-innings that follow each other from the top of the first to the last one of them,
and a state in that half-inning or at the start of the next one. -/
structure Consecutive (qs : List (State × Play)) (s : State) : Prop where
  mem_iff : ∀ k, (∃ q ∈ qs, q.1.halfNumber = k) ↔ 2 ≤ k ∧ k ≤ lastHalf qs
  two_le : 2 ≤ s.halfNumber
  next : s.halfNumber = lastHalf qs ∨ s.halfNumber = lastHalf qs + 1

theorem consecutive_start (g : Game) : Consecutive [] (.ofGame g) where
  mem_iff k := by
    rw [lastHalf_nil]
    constructor
    · rintro ⟨q, hq, -⟩
      cases hq
    · omega
  two_le := Nat.le_refl 2
  next := .inr rfl

/-- **One more play.** It is made in the half-inning that goes on, which is the last one or the
next. -/
theorem Consecutive.afterPlay (h : Consecutive qs s) (p : Play) (r : Option Runner) :
    Consecutive (qs ++ [(s, p)]) (s.afterPlay p r) := by
  have htwo := h.two_le
  have hnext := h.next
  have hafter := s.halfNumber_afterPlay p r
  refine ⟨fun k => ?_, by omega, by rwa [lastHalf_concat]⟩
  -- up to the last half-inning everything was played, and the one that goes on adds at most one more
  simp only [List.mem_append, List.mem_singleton, or_and_right, exists_or, exists_eq_left,
    h.mem_iff, lastHalf_concat]
  omega

theorem Consecutive.of_sameCount (h : Consecutive qs s) (hs : s.SameCount s') :
    Consecutive qs s' := by
  refine ⟨h.mem_iff, ?_, ?_⟩ <;> rw [hs.halfNumber]
  · exact h.two_le
  · exact h.next

/-- **No half-inning is left out** wherever a game was kept. -/
theorem BoxScore.Kept.consecutive {g : Game} {es : List Event} {b : BoxScore}
    (h : BoxScore.Kept g es s b) : Consecutive ((State.ofGame g).plays g.id es) s :=
  h.plays_induction (consecutive_start g) (fun hqs _ => hqs.afterPlay _ _) Consecutive.of_sameCount

/-! ### The innings of a side -/

/-- The innings in which a side batted. -/
def inningsAtBat (side : Side) (qs : List (State × Play)) : Finset Nat :=
  ((qs.filter fun q => side = q.1.half).map (·.1.inning)).toFinset

/-- A side batted in an inning if a play was made in its half. -/
theorem mem_inningsAtBat :
    i ∈ inningsAtBat side qs ↔ ∃ q ∈ qs, q.1.halfNumber = 2 * i + side.turn := by
  -- the number of a half-inning is even for the visitors and odd for the hosts
  have hnumber (s : State) : s.halfNumber = 2 * i + side.turn ↔ side = s.half ∧ s.inning = i := by
    rw [State.halfNumber]
    cases side <;> cases s.half <;> simp [Side.turn] <;> omega
  simp only [inningsAtBat, List.mem_toFinset, List.mem_map, List.mem_filter, decide_eq_true_eq,
    hnumber, and_assoc]

/-- **A side batted in the first innings of the game**: the visitors in every inning up to that of
the last play, the hosts in all of these except the last one if they did not bat in it. -/
theorem Consecutive.inningsAtBat_eq (h : Consecutive qs s) (side : Side) :
    inningsAtBat side qs = Finset.Icc 1 ((lastHalf qs - side.turn) / 2) := by
  ext i
  rw [mem_inningsAtBat, h.mem_iff, Finset.mem_Icc]
  have hturn := side.turn_le
  omega

end Consecutive

end Baseball
