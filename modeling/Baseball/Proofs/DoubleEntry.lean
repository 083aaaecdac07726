import Baseball.Proofs.Ledger

/-!
# Double entry

Batting is kept twice, once in the lines of those who bat and once in the lines of those who pitch
to them; beside both stand the linescore, the counts of the teams, and the score that the game
itself keeps. Each is entered under a condition of its own: a plate appearance that ends, an
official at-bat, an occupied base, a pitcher to be charged. In a box score that was made, they
agree.

## Main definitions

* `TeamBox.battingTotals`, `TeamBox.pitchingTotals` — the counts of all lines together
* `Play.Attributed` — a play that credits a batter and has one
* `BoxScore.DoubleEntry` — the books of one side agree with those of its opponent

## Main results

* `BoxScore.doubleEntry_ofGame` — in a box score that was made, they do
-/

namespace Baseball

/-! ### Totals -/

namespace TeamBox

/-- The batting counts of all lines together. -/
def battingTotals (t : TeamBox) : BattingCounts := (t.battingLines.map BattingLine.counts).sum

/-- The pitching counts of all lines together. -/
def pitchingTotals (t : TeamBox) : PitchingCounts := (t.pitchers.map PitchingLine.counts).sum

theorem battingTotals_eq_balance (t : TeamBox) : t.battingTotals = Account.batting.balance t := by
  have hperm := (t.stintsInOrder_perm.map fun s => s.line.counts).sum_eq
  rw [battingTotals, battingLines, List.map_map]
  exact hperm

theorem inPlay_pitchingTotals (t : TeamBox) :
    t.pitchingTotals.inPlay = Account.pitching.balance t := by
  have hsum (ls : List PitchingLine) : (ls.map PitchingLine.counts).sum.inPlay
      = (ls.map fun l => l.counts.inPlay).sum := by
    induction ls with
    | nil => rfl
    | cons l ls ih =>
      rw [List.map_cons, List.sum_cons, PitchingCounts.inPlay_add, ih, List.map_cons, List.sum_cons]
  exact hsum t.pitchers

end TeamBox

/-- A play that is credited to a batter concerns one: it ends a plate appearance or is an official
at-bat. -/
def Play.Attributed (p : Play) : Prop :=
  p.kind.isHit ∨ p.kind.isWalk ∨ p.kind = .strikeout ∨ p.kind = .hitByPitch ∨ p.sacrificeHit ∨
    p.sacrificeFly → p.batterEvent ∨ p.atBat

instance (p : Play) : Decidable p.Attributed := inferInstanceAs (Decidable (_ → _))

namespace State

variable {s : State} {p : Play}

/-- The runs that a play brings in which are earned to the pitcher but not to the team. -/
def teamUnearnedRuns (s : State) (p : Play) : Nat :=
  (s.bases.movers p.batterEvent).countP fun o => p.advance.get o == .scoredTeamUnearned

/-! ### One play -/

theorem pa_battingWorth : (s.battingWorth p).pa = p.batterEvent.toNat := by
  rw [battingWorth, BattingCounts.pa_add]
  have hcredit : p.battingCredit.pa = p.batterEvent.toNat := rfl
  rw [apply_ite BattingCounts.pa, hcredit]
  cases p.batterEvent <;> cases p.atBat <;> rfl

theorem ab_battingWorth : (s.battingWorth p).ab = p.atBat.toNat := by
  rw [battingWorth, BattingCounts.ab_add]
  have hcredit : p.battingCredit.ab = p.atBat.toNat := rfl
  rw [apply_ite BattingCounts.ab, hcredit]
  cases p.atBat <;> cases p.batterEvent <;> rfl

theorem r_battingWorth : (s.battingWorth p).r = s.runs p := by
  rw [battingWorth, BattingCounts.r_add]
  cases p.atBat <;> cases p.batterEvent <;> exact zero_add _

theorem er_pitchingWorth :
    (s.pitchingWorth p).er = (s.teamInField p).earnedRuns + s.teamUnearnedRuns p := by
  have hcredit : p.pitchingCredit.er = 0 := rfl
  rw [pitchingWorth, PitchingCounts.er_add, hcredit, zero_add, teamInField, teamUnearnedRuns]
  induction s.bases.movers p.batterEvent with
  | nil => rfl
  | cons o os ih =>
    simp only [List.countP_cons] at ih ⊢
    rw [ih]
    cases p.advance.get o <;> simp [Destination.isEarnedToPitcher, Destination.isEarnedToTeam] <;>
      omega

theorem er_pitchingWorth_le : (s.pitchingWorth p).er ≤ s.runs p := by
  have hcredit : p.pitchingCredit.er = 0 := rfl
  rw [pitchingWorth, PitchingCounts.er_add, hcredit, zero_add, runs]
  refine List.countP_mono_left fun o _ => ?_
  cases p.advance.get o <;> simp [Destination.isEarnedToPitcher, Destination.isRun]

/-- **What an attributed play gives the batters it charges to the pitchers.** -/
theorem charge_battingWorth (h : p.Attributed) :
    (s.battingWorth p).charge = (s.pitchingWorth p).faced := by
  have hcredit : p.battingCredit.charge = p.pitchingCredit.faced := rfl
  rw [battingWorth, pitchingWorth, BattingCounts.charge_add, PitchingCounts.faced_add, ← hcredit]
  refine congrArg (· + _) ?_
  split
  · rfl
  · next hconcerns =>
    rw [Bool.or_eq_true, not_or, Bool.not_eq_true, Bool.not_eq_true] at hconcerns
    obtain ⟨hevent, hatBat⟩ := hconcerns
    have hnone := mt h (by simp [hevent, hatBat])
    simp only [not_or, Bool.not_eq_true] at hnone
    obtain ⟨hhit, hwalk, hstrikeout, hhitByPitch, hsh, hsf⟩ := hnone
    have hkind (k : PlayKind) (hk : k.isHit || k.isWalk) : (p.kind == k) = false := by
      refine beq_eq_false_iff_ne.mpr fun heq => ?_
      rw [← heq, hhit, hwalk] at hk
      cases hk
    rw [BattingCounts.charge, Play.battingCredit, hevent, hhit, hwalk, hsh, hsf,
      hkind .double rfl, hkind .triple rfl, hkind .homeRun rfl, hkind .intentionalWalk rfl,
      beq_eq_false_iff_ne.mpr hstrikeout, beq_eq_false_iff_ne.mpr hhitByPitch]
    rfl

end State

/-! ### A whole game -/

namespace BoxScore

variable {g : Game} {b : BoxScore}

/-- What the batting lines come to is what the plays of the side at bat were worth to them. -/
theorem battingTotals_ofGame {M : Type} [AddCommMonoid M] (c : BattingCounts → M) (hzero : c 0 = 0)
    (hadd : ∀ x y, c (x + y) = c x + c y) (h : ofGame g = .ok b) (side : Side) :
    c (b.team side).battingTotals = atBatSum side (fun s p => c (s.battingWorth p)) g.plays := by
  obtain ⟨b₀, hkept, hclose⟩ := exists_kept_of_ofGame h
  rw [TeamBox.battingTotals_eq_balance, Account.balance_close hclose,
    hkept.balance_eq State.batting_offense fun _ => State.batting_defense, atBatSum_zero, add_zero,
    map_atBatSum c hzero hadd]
  rfl

/-- What the pitching lines come to, in counts that opening and closing do not enter, is what the
plays of the side at bat were worth to them. -/
theorem pitchingTotals_ofGame {M : Type} [AddCommMonoid M] (c : PitchingCounts → M)
    (hzero : c 0 = 0) (hadd : ∀ x y, c (x + y) = c x + c y) (hplay : ∀ x, c x.inPlay = c x)
    (h : ofGame g = .ok b) (side : Side) :
    c (b.team side.opponent).pitchingTotals
      = atBatSum side (fun s p => c (s.pitchingWorth p)) g.plays := by
  obtain ⟨b₀, hkept, hclose⟩ := exists_kept_of_ofGame h
  rw [← hplay, TeamBox.inPlay_pitchingTotals, Account.balance_close hclose,
    hkept.balance_eq (fun _ => State.pitching_offense) State.pitching_defense, atBatSum_zero, zero_add,
    Side.opponent_opponent, map_atBatSum c hzero hadd]
  rfl

/-- What a team has beside its lines is what the plays were worth, at bat and in the field. -/
theorem teamCount_ofGame {M : Type} [AddCommMonoid M] (c : TeamCounts → M) (hzero : c 0 = 0)
    (hadd : ∀ x y, c (x + y) = c x + c y) (h : ofGame g = .ok b) (side : Side) :
    c (Account.team.balance (b.team side)) =
      atBatSum side (fun s p => c (s.teamAtBat p)) g.plays
        + atBatSum side.opponent (fun s p => c (s.teamInField p)) g.plays := by
  obtain ⟨b₀, hkept, hclose⟩ := exists_kept_of_ofGame h
  rw [Account.balance_close hclose, hkept.balance_eq State.team_offense State.team_defense, hadd,
    map_atBatSum c hzero hadd, map_atBatSum c hzero hadd]
  rfl

theorem linescore_ofGame (h : ofGame g = .ok b) (side : Side) :
    (b.team side).linescore.sum = atBatSum side State.runs g.plays := by
  have hcount := teamCount_ofGame TeamCounts.runs rfl (fun _ _ => rfl) h side
  exact hcount.trans (congrArg (_ + ·) (atBatSum_zero ..))

theorem atBats_ofGame (h : ofGame g = .ok b) (side : Side) :
    (b.team side).atBats = atBatSum side (fun _ p => p.atBat.toNat) g.plays := by
  have hcount := teamCount_ofGame TeamCounts.atBats rfl (fun _ _ => rfl) h side
  exact hcount.trans (congrArg (_ + ·) (atBatSum_zero ..))

theorem earnedRuns_ofGame (h : ofGame g = .ok b) (side : Side) :
    (b.team side.opponent).earnedRuns
      = atBatSum side (fun s p => (s.teamInField p).earnedRuns) g.plays := by
  have hcount := teamCount_ofGame TeamCounts.earnedRuns rfl (fun _ _ => rfl) h side.opponent
  rw [Side.opponent_opponent] at hcount
  exact hcount.trans ((congrArg (· + _) (atBatSum_zero ..)).trans (zero_add _))

theorem fieldingOuts_ofGame (h : ofGame g = .ok b) (side : Side) :
    (b.team side.opponent).fielding.counts.outs = atBatSum side (fun _ p => p.outs) g.plays := by
  have hcount := teamCount_ofGame (fun c => c.fielding.outs) rfl (fun _ _ => rfl) h
    side.opponent
  rw [Side.opponent_opponent] at hcount
  exact hcount.trans ((congrArg (· + _) (atBatSum_zero ..)).trans (zero_add _))

theorem runs_ofGame (h : ofGame g = .ok b) (side : Side) :
    (b.team side).runs = atBatSum side State.runs g.plays := by
  obtain ⟨b₀, hkept, hclose⟩ := exists_kept_of_ofGame h
  rw [(closed_close hclose side).runs]
  refine hkept.count_eq (c := SideState.score) rfl (fun _ _ => rfl) fun s p hp => ?_
  rw [State.score_afterPlay, Bases.runs_eq_countP hp]
  rfl

theorem hits_ofGame (h : ofGame g = .ok b) (side : Side) :
    (b.team side).hits = atBatSum side (fun _ p => p.kind.isHit.toNat) g.plays := by
  obtain ⟨b₀, hkept, hclose⟩ := exists_kept_of_ofGame h
  rw [(closed_close hclose side).hits]
  exact hkept.count_eq (c := SideState.hits) rfl (fun _ _ => rfl)
    fun s p _ => State.hits_afterPlay ..

theorem batters_ofGame (h : ofGame g = .ok b) (side : Side) :
    (g.finalState.side side).batters = atBatSum side (fun _ p => p.batterEvent.toNat) g.plays := by
  obtain ⟨b₀, hkept, hclose⟩ := exists_kept_of_ofGame h
  refine hkept.count_eq (c := SideState.batters) rfl (fun _ _ => rfl) fun s p hp => ?_
  rw [State.batters_afterPlay, hp]

/-- **Double entry**: the books of one side agree with the books that its opponent keeps of it, and
with the game. -/
structure DoubleEntry (g : Game) (b : BoxScore) (side : Side) : Prop where
  /-- The runs are those of the score, -/
  score : (b.team side).runs = (g.finalState.side side).score
  /-- of the linescore, -/
  linescore : (b.team side).linescore.sum = (b.team side).runs
  /-- of the batters, -/
  battingRuns : (b.team side).battingTotals.r = (b.team side).runs
  /-- and of the opposing pitchers. -/
  pitchingRuns : (b.team side.opponent).pitchingTotals.r = (b.team side).runs
  /-- Runs earned to the pitchers are earned to their team, or scored as earned to pitchers only. -/
  earnedRuns : (b.team side.opponent).pitchingTotals.er =
    (b.team side.opponent).earnedRuns + atBatSum side State.teamUnearnedRuns g.plays
  earnedRuns_le : (b.team side.opponent).pitchingTotals.er
    ≤ (b.team side.opponent).pitchingTotals.r
  hits : (b.team side.opponent).pitchingTotals.h = (b.team side).hits
  atBats : (b.team side).battingTotals.ab = (b.team side).atBats
  /-- The plate appearances are those that the game has counted, -/
  plateAppearances : (b.team side).battingTotals.pa = (g.finalState.side side).batters
  /-- and those of the opposing pitchers. -/
  battersFaced : (b.team side.opponent).pitchingTotals.bf = (g.finalState.side side).batters
  outs : (b.team side.opponent).pitchingTotals.outs = (b.team side.opponent).fielding.counts.outs
  /-- If every play that is credited to a batter concerns one, all that batters are credited with
  and pitchers are charged with is the same. -/
  charges : (∀ q ∈ g.plays, q.2.Attributed) →
    (b.team side).battingTotals.charge = (b.team side.opponent).pitchingTotals.faced

/-- **The books of a box score balance.** -/
theorem doubleEntry_ofGame (h : ofGame g = .ok b) (side : Side) : DoubleEntry g b side := by
  obtain ⟨b₀, -, hclose⟩ := exists_kept_of_ofGame h
  have hruns := runs_ofGame h side
  have hpitchingRuns :
      (b.team side.opponent).pitchingTotals.r = atBatSum side State.runs g.plays := by
    rw [pitchingTotals_ofGame PitchingCounts.r rfl (fun _ _ => rfl) (fun _ => rfl) h]
    exact atBatSum_congr fun _ _ => zero_add _
  constructor
  case score => exact (closed_close hclose side).runs
  case linescore => rw [hruns, linescore_ofGame h]
  case battingRuns =>
    rw [hruns, battingTotals_ofGame BattingCounts.r rfl (fun _ _ => rfl) h]
    exact atBatSum_congr fun _ _ => State.r_battingWorth
  case pitchingRuns => rw [hruns, hpitchingRuns]
  case earnedRuns =>
    rw [pitchingTotals_ofGame PitchingCounts.er rfl (fun _ _ => rfl) (fun _ => rfl) h,
      earnedRuns_ofGame h, ← atBatSum_add]
    exact atBatSum_congr fun _ _ => State.er_pitchingWorth
  case earnedRuns_le =>
    rw [hpitchingRuns,
      pitchingTotals_ofGame PitchingCounts.er rfl (fun _ _ => rfl) (fun _ => rfl) h]
    exact atBatSum_le fun _ _ => State.er_pitchingWorth_le
  case hits =>
    rw [hits_ofGame h, pitchingTotals_ofGame PitchingCounts.h rfl (fun _ _ => rfl) (fun _ => rfl) h]
    exact atBatSum_congr fun _ _ => rfl
  case atBats =>
    rw [atBats_ofGame h, battingTotals_ofGame BattingCounts.ab rfl (fun _ _ => rfl) h]
    exact atBatSum_congr fun _ _ => State.ab_battingWorth
  case plateAppearances =>
    rw [batters_ofGame h, battingTotals_ofGame BattingCounts.pa rfl (fun _ _ => rfl) h]
    exact atBatSum_congr fun _ _ => State.pa_battingWorth
  case battersFaced =>
    rw [batters_ofGame h,
      pitchingTotals_ofGame PitchingCounts.bf rfl (fun _ _ => rfl) (fun _ => rfl) h]
    exact atBatSum_congr fun _ _ => rfl
  case outs =>
    rw [fieldingOuts_ofGame h,
      pitchingTotals_ofGame PitchingCounts.outs rfl (fun _ _ => rfl) (fun _ => rfl) h]
    exact atBatSum_congr fun _ _ => rfl
  case charges =>
    intro hattributed
    rw [battingTotals_ofGame BattingCounts.charge rfl BattingCounts.charge_add h,
      pitchingTotals_ofGame PitchingCounts.faced rfl PitchingCounts.faced_add (fun _ => rfl) h]
    exact atBatSum_congr fun q hq => State.charge_battingWorth (hattributed q hq)

/-- The visitors double, hit a home run that leaves the runner where he is, and strike out. -/
def shortGame : Game where
  id := "short"
  date := default
  visitor := "visitors"
  home := "hosts"
  starters := ⟨[⟨"v1", 1, .pitcher⟩, ⟨"v2", 2, .catcher⟩, ⟨"v3", 3, .firstBase⟩],
    [⟨"h1", 1, .pitcher⟩, ⟨"h2", 2, .catcher⟩]⟩
  events := [.play (.ofKind .double), .play (.ofKind .homeRun), .play (.ofKind .strikeout)]

theorem doubleEntry_shortGame : ∃ b, ofGame shortGame = .ok b ∧ DoubleEntry shortGame b .visitor ∧
    (b.team .visitor).battingTotals.charge = (b.team .home).pitchingTotals.faced := by
  have hmade : (ofGame shortGame).toOption.isSome := by decide +kernel
  rcases hb : ofGame shortGame with e | b
  · rw [hb] at hmade
    cases hmade
  · have hentry := doubleEntry_ofGame hb .visitor
    exact ⟨b, rfl, hentry, hentry.charges (by decide +kernel)⟩

end BoxScore

end Baseball
