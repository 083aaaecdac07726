import Baseball.Proofs.DoubleEntry

/-!
# The proof of a box score

A box score is proved by counting a side's men twice: everybody who came to bat has scored, was left
on base, or is out. The game counts those who bat, the runs and the men left on base; the outs are
taken from the opposing pitchers. Where a game stops in the middle of a half there may be runners
who are none of this yet.

## What it takes

The outs of a play are entered apart from what happened to the men, so they have to agree with it;
two men who are sent to one base leave one of them there; and a game that goes on after it was won
leaves the runners on base twice. Nothing else can go wrong.

## Main definitions

* `State.Consistent` — what has to be true of every play
* `State.aboard` — the runners who are still on their way

## Main results

* `BoxScore.proof_ofGame` — a box score proves
-/

namespace Baseball

namespace State

variable {s s' t : State} {p : Play} {side : Side}

/-- **A play that a box score can be proved over.** -/
structure Consistent (s : State) (p : Play) : Prop where
  /-- Its outs are the men of whom it says that they are out, -/
  outs : p.outs = (s.bases.movers p.batterEvent).countP fun o => p.advance.get o == .out
  /-- no two of its men end up on the same base, -/
  apart : (s.bases.destinations p.batterEvent p.advance).Nodup
  /-- and the home side has not won yet. -/
  undecided : s.isWalkOff = false

instance (s : State) (p : Play) : Decidable (s.Consistent p) :=
  decidable_of_iff
    ((p.outs = (s.bases.movers p.batterEvent).countP fun o => p.advance.get o == .out) ∧
      (s.bases.destinations p.batterEvent p.advance).Nodup ∧ s.isWalkOff = false)
    ⟨fun ⟨houts, hapart, hundecided⟩ => ⟨houts, hapart, hundecided⟩,
      fun h => ⟨h.outs, h.apart, h.undecided⟩⟩

/-- The runners of a side who may still score: those on base while it bats, unless the home side has
just won. -/
def aboard (s : State) (side : Side) : Nat :=
  if side = s.half ∧ s.isWalkOff = false then s.bases.count else 0

/-- The men of a side who came to bat are accounted for: they have scored, were left on base, are
still on their way, or are among the outs. -/
def Proves (s : State) (side : Side) (outs : Nat) : Prop :=
  (s.side side).batters =
    (s.side side).score + (s.side side).leftOnBase + outs + s.aboard side

/-! ### One event -/

theorem aboard_of_ne (h : side ≠ s.half) : s.aboard side = 0 := if_neg fun hboth => h hboth.1

theorem SameCount.aboard (h : SameCount s t) (side : Side) : t.aboard side = s.aboard side := by
  rw [State.aboard, State.aboard, h.half, h.isWalkOff, h.count_bases]

theorem SameCount.proves {outs : Nat} (h : SameCount s t) (hs : s.Proves side outs) :
    t.Proves side outs := by
  rw [Proves, h.counts side, h.aboard]
  exact hs

theorem isOver_of_home (h : s.half = .home) : s.isOver = s.isWalkOff := by
  rw [isOver, h]

theorem isWalkOff_of_visitor (h : s.half = .visitor) : s.isWalkOff = false := by
  rw [isWalkOff, h]
  rfl

theorem isEmpty_of_isOver_visitor (h : s.half = .visitor) (hover : s.isOver = true) :
    s.bases.isEmpty := by
  rw [isOver, h] at hover
  simp only [Bool.and_eq_true] at hover
  exact hover.1.2

theorem isWalkOff_strand (s : State) : s.strand.isWalkOff = s.isWalkOff := by
  have hscore (r : Side) : (s.strand.side r).score = (s.side r).score := by
    rw [side_strand]
    split <;> rfl
  rw [isWalkOff, hscore, hscore]
  rfl

/-- **The men on base are left there or still on their way**, and nobody is both. -/
theorem leftOnBase_add_aboard_settle {before after : State} (hhalf : after.half = before.half)
    (undecided : before.isWalkOff = false) :
    ((settle before after).side before.half).leftOnBase + (settle before after).aboard before.half =
      (after.side before.half).leftOnBase + after.bases.count := by
  have hstrand : (after.strand.side before.half).leftOnBase
      = (after.side before.half).leftOnBase + after.bases.count := by
    rw [side_strand, if_pos hhalf.symm]
  rcases settle_cases before after with ⟨-, h⟩ | ⟨-, -, hover, h⟩ | ⟨-, hover, h⟩
  -- three outs: the runners are stranded, and the side is no longer at bat
  · have hhalf' : after.strand.endHalf.half = before.half.opponent := by
      rw [← hhalf]
      rfl
    rw [h, side_endHalf, hstrand, aboard_of_ne, add_zero]
    rw [hhalf']
    exact (Side.opponent_ne _).symm
  -- the game ends here: in the bottom half by a walk-off, in the top half with nobody on base
  · rw [h, hstrand, aboard, isWalkOff_strand]
    rcases hside : after.half with _ | _
    · have hbases : after.strand.bases.count = after.bases.count := rfl
      rw [hbases, Bases.count_eq_zero_of_isEmpty (isEmpty_of_isOver_visitor hside hover), ite_self]
    · rw [← isOver_of_home hside, hover, if_neg fun hboth => nomatch hboth.2]
      rfl
  -- the half goes on: it was not won before, so it is not won now
  · have hnot : after.isWalkOff = false := by
      rcases hside : after.half with _ | _
      · exact isWalkOff_of_visitor hside
      · rw [isOver_of_home hside, isOver_of_home (hhalf.symm.trans hside), undecided] at hover
        exact hover.resolve_left Bool.false_ne_true
    rw [h, aboard, if_pos ⟨hhalf.symm, hnot⟩]

/-- The other side has no men on base, before the half is closed and after. -/
theorem leftOnBase_and_aboard_settle_of_ne (before : State) {after : State}
    (h : side ≠ after.half) :
    ((settle before after).side side).leftOnBase = (after.side side).leftOnBase ∧
      (settle before after).aboard side = 0 := by
  have hstrand : after.strand.side side = after.side side := by rw [side_strand, if_neg h]
  rcases settle_cases before after with ⟨-, hs⟩ | ⟨-, -, -, hs⟩ | ⟨-, -, hs⟩ <;> rw [hs]
  · have hbases : after.strand.endHalf.bases.count = 0 := rfl
    rw [side_endHalf, hstrand, aboard, hbases, ite_self]
    exact ⟨rfl, rfl⟩
  · rw [hstrand]
    exact ⟨rfl, aboard_of_ne h⟩
  · exact ⟨rfl, aboard_of_ne h⟩

/-- **A consistent play keeps the account of its side.** -/
theorem proves_afterPlay {outs : Nat} {batter? : Option Runner}
    (hbatter : batter?.isSome = p.batterEvent) (hp : s.Consistent p) (h : s.Proves side outs) :
    (s.afterPlay p batter?).Proves side (outs + if side = s.half then p.outs else 0) := by
  rw [Proves] at h ⊢
  rw [batters_afterPlay, score_afterPlay, hbatter]
  by_cases hside : side = s.half
  · subst hside
    have hmen := Bases.count_add_batter hbatter hp.apart
    have hleft := leftOnBase_add_aboard_settle (half_record s p batter?) hp.undecided
    have hsame : ((s.record p batter?).side s.half).leftOnBase = (s.side s.half).leftOnBase := by
      rw [side_record, if_pos rfl]
      rfl
    rw [aboard, if_pos ⟨rfl, hp.undecided⟩] at h
    rw [hsame, bases_record] at hleft
    rw [if_pos rfl, if_pos rfl, if_pos rfl, afterPlay, hp.outs]
    omega
  · have hsame : ((s.record p batter?).side side).leftOnBase = (s.side side).leftOnBase := by
      rw [side_record, if_neg hside]
    have hne : side ≠ (s.record p batter?).half := hside
    obtain ⟨hleft, haboard⟩ := leftOnBase_and_aboard_settle_of_ne s hne
    rw [aboard_of_ne hside] at h
    rw [if_neg hside, if_neg hside, if_neg hside, afterPlay, hleft, haboard, hsame]
    exact h

end State

namespace BoxScore

variable {g : Game} {b : BoxScore}

/-- **At every point of a game** the men of both sides are accounted for. -/
theorem Kept.proves {es : List Event} {s : State} (h : Kept g es s b)
    (hplays : ∀ q ∈ (State.ofGame g).plays g.id es, q.1.Consistent q.2) (side : Side) :
    s.Proves side (atBatSum side (fun _ p => p.outs) ((State.ofGame g).plays g.id es)) := by
  refine h.plays_induction (P := fun qs s => (∀ q ∈ qs, q.1.Consistent q.2) →
    s.Proves side (atBatSum side (fun _ p => p.outs) qs)) ?_ ?_ ?_ hplays
  · intro _
    have haboard : (State.ofGame g).aboard side = 0 := ite_self 0
    rw [State.Proves, State.side_ofGame, haboard]
    rfl
  · intro qs s p hqs hbatter hplays
    obtain ⟨hbefore, hp⟩ := List.forall_mem_append.mp hplays
    rw [atBatSum_append, atBatSum_singleton]
    exact State.proves_afterPlay hbatter (hp (s, p) List.mem_cons_self) (hqs hbefore)
  · intro qs s t hqs hsame hplays
    exact hsame.proves (hqs hplays)

/-- **The proof of a box score.** Everybody who came to bat for a side has scored, was left on base,
is out, or was on base when the game stopped. -/
theorem proof_ofGame (h : ofGame g = .ok b) (hplays : ∀ q ∈ g.plays, q.1.Consistent q.2)
    (side : Side) :
    (b.team side).battingTotals.pa =
      (b.team side).runs + (b.team side).leftOnBase + (b.team side.opponent).pitchingTotals.outs
        + g.finalState.aboard side := by
  obtain ⟨b₀, hkept, hclose⟩ := exists_kept_of_ofGame h
  have hproves := hkept.proves hplays side
  have hclosed := closed_close hclose side
  have houts : (b.team side.opponent).pitchingTotals.outs
      = atBatSum side (fun _ p => p.outs) g.plays :=
    pitchingTotals_ofGame PitchingCounts.outs rfl (fun _ _ => rfl) (fun _ => rfl) h side
  have hpa : (b.team side).battingTotals.pa = (g.finalState.side side).batters := by
    rw [batters_ofGame h, battingTotals_ofGame BattingCounts.pa rfl (fun _ _ => rfl) h]
    exact atBatSum_congr fun _ _ => State.pa_battingWorth
  rw [hpa, hclosed.runs, hclosed.leftOnBase, houts]
  exact hproves

theorem proof_shortGame : ∃ b, ofGame shortGame = .ok b ∧
    (∀ q ∈ shortGame.plays, q.1.Consistent q.2) ∧
    (b.team .visitor).battingTotals.pa =
      (b.team .visitor).runs + (b.team .visitor).leftOnBase + (b.team .home).pitchingTotals.outs
        + shortGame.finalState.aboard .visitor := by
  have hplays : ∀ q ∈ shortGame.plays, q.1.Consistent q.2 := by decide +kernel
  have hmade : (ofGame shortGame).toOption.isSome := by decide +kernel
  rcases hb : ofGame shortGame with e | b
  · rw [hb] at hmade
    cases hmade
  · exact ⟨b, rfl, hplays, proof_ofGame hb hplays .visitor⟩

end BoxScore

end Baseball
