import Baseball.Proofs.Account
import Baseball.Proofs.Scorekeeping
import Mathlib.Algebra.Order.BigOperators.Group.List

/-!
# What the plays of a game come to

A play that was made had a pitcher, and a batter if it concerns one, so nothing of its worth was
lost in a gap. `State.battingWorth` and its companions say what such a play is worth without asking
who was credited. Over a game these add up: a balance is a sum over the plays that the side made at
bat and the plays that its opponent made at bat, and so are the counts that the state of the game
keeps for itself.

## Main definitions

* `State.Manned` — the men a play needs are there
* `State.battingWorth`, `pitchingWorth`, `teamAtBat`, `teamInField` — what a play is worth
* `atBatSum` — a sum over the plays that a side made at bat

## Main results

* `BoxScore.Kept.balance_eq` — a balance is what the plays so far were worth
* `BoxScore.Kept.count_eq` — so are the counts of the state
-/

namespace Baseball

/-! ### Sums over plays -/

section AtBatSum

variable {M N : Type} [AddCommMonoid M] [AddCommMonoid N]

/-- The sum over the plays that a side made at bat. -/
def atBatSum (side : Side) (f : State → Play → M) (qs : List (State × Play)) : M :=
  (qs.map fun q => if side = q.1.half then f q.1 q.2 else 0).sum

@[simp] theorem atBatSum_nil (side : Side) (f : State → Play → M) : atBatSum side f [] = 0 := rfl

@[simp] theorem atBatSum_append (side : Side) (f : State → Play → M) (ps qs : List (State × Play)) :
    atBatSum side f (ps ++ qs) = atBatSum side f ps + atBatSum side f qs := by
  rw [atBatSum, atBatSum, atBatSum, List.map_append, List.sum_append]

@[simp] theorem atBatSum_singleton (side : Side) (f : State → Play → M) (s : State) (p : Play) :
    atBatSum side f [(s, p)] = if side = s.half then f s p else 0 := by
  rw [atBatSum, List.map_singleton, List.sum_singleton]

/-- A count that adds up may be taken of the sum or of every play. -/
theorem map_atBatSum (c : M → N) (hzero : c 0 = 0) (hadd : ∀ x y, c (x + y) = c x + c y)
    (side : Side) (f : State → Play → M) (qs : List (State × Play)) :
    c (atBatSum side f qs) = atBatSum side (fun s p => c (f s p)) qs := by
  induction qs with
  | nil => exact hzero
  | cons q qs ih =>
    have hhead := hadd (if side = q.1.half then f q.1 q.2 else 0) (atBatSum side f qs)
    rw [apply_ite c, hzero, ih] at hhead
    exact hhead

theorem atBatSum_add (side : Side) (f h : State → Play → M) (qs : List (State × Play)) :
    atBatSum side (fun s p => f s p + h s p) qs = atBatSum side f qs + atBatSum side h qs := by
  rw [atBatSum, atBatSum, atBatSum, ← List.sum_map_add]
  refine congrArg List.sum (List.map_congr_left fun q _ => ?_)
  split
  · rfl
  · exact (add_zero 0).symm

theorem atBatSum_congr {side : Side} {f h : State → Play → M} {qs : List (State × Play)}
    (hq : ∀ q ∈ qs, f q.1 q.2 = h q.1 q.2) : atBatSum side f qs = atBatSum side h qs := by
  refine congrArg List.sum (List.map_congr_left fun q hmem => ?_)
  rw [hq q hmem]

theorem atBatSum_le {side : Side} {f h : State → Play → Nat} {qs : List (State × Play)}
    (hq : ∀ q ∈ qs, f q.1 q.2 ≤ h q.1 q.2) : atBatSum side f qs ≤ atBatSum side h qs := by
  refine List.sum_le_sum fun q hmem => ?_
  split
  · exact hq q hmem
  · exact Nat.le_refl 0

/-- A sum that is bounded play by play reaches its bound only if every play does. -/
theorem atBatSum_eq_iff {side : Side} {f h : State → Play → Nat} {qs : List (State × Play)}
    (hq : ∀ q ∈ qs, f q.1 q.2 ≤ h q.1 q.2) :
    atBatSum side f qs = atBatSum side h qs ↔
      ∀ q ∈ qs, side = q.1.half → f q.1 q.2 = h q.1 q.2 := by
  induction qs with
  | nil => simp
  | cons q qs ih =>
    obtain ⟨hhead, htail⟩ := List.forall_mem_cons.mp hq
    rw [← List.singleton_append, atBatSum_append, atBatSum_append, atBatSum_singleton,
      atBatSum_singleton, List.singleton_append, List.forall_mem_cons, ← ih htail]
    by_cases hside : side = q.1.half
    · rw [if_pos hside, if_pos hside, add_eq_add_iff_eq_and_eq hhead (atBatSum_le htail)]
      simp [hside]
    · simp [hside]

theorem atBatSum_zero (side : Side) (qs : List (State × Play)) :
    atBatSum side (fun _ _ => (0 : M)) qs = 0 := by
  refine List.sum_eq_zero fun w hw => ?_
  obtain ⟨q, -, rfl⟩ := List.mem_map.mp hw
  exact ite_self 0

/-- Who is at bat decides to which of the two sides a play is counted. -/
theorem sum_atBatSum (P : Side → Prop) [DecidablePred P] (f : State → Play → M)
    (qs : List (State × Play)) :
    (if P .visitor then atBatSum .visitor f qs else 0)
        + (if P .home then atBatSum .home f qs else 0)
      = (qs.map fun q => if P q.1.half then f q.1 q.2 else 0).sum := by
  induction qs with
  | nil => simp
  | cons q qs ih =>
    rw [List.map_cons, List.sum_cons, ← ih, ← List.singleton_append, atBatSum_append,
      atBatSum_append, atBatSum_singleton, atBatSum_singleton]
    cases q.1.half <;> by_cases hv : P .visitor <;> by_cases hh : P .home <;>
      simp [hv, hh, add_assoc, add_left_comm]

end AtBatSum

/-- A sum that has one for each member which satisfies a condition counts these. -/
theorem sum_map_eq_countP {α : Type} {f : α → Nat} {c : α → Bool} {l : List α}
    (h : ∀ a ∈ l, f a = (c a).toNat) : (l.map f).sum = l.countP c := by
  induction l with
  | nil => rfl
  | cons a l ih =>
    obtain ⟨ha, hl⟩ := List.forall_mem_cons.mp h
    rw [List.map_cons, List.sum_cons, ha, ih hl, List.countP_cons, add_comm]
    cases c a <;> rfl

namespace State

variable {gameId : String} {s s' : State} {p : Play} {b b' : BoxScore} {pitcher? : Option String}

/-! ### Plays that were made -/

/-- The men a play needs are there: the batter if it concerns him, and the pitcher on the mound. -/
structure Manned (s : State) (p : Play) (pitcher? : Option String) : Prop where
  batter : p.batterEvent || p.atBat → s.batter?.isSome
  pitcher : pitcher?.isSome

/-- Postings that were all made have no gap among them. -/
theorem gap_notMem_of_postAll {ps : List Posting} (h : b.postAll gameId ps = .ok b') (role : Role) :
    .gap role ∉ ps := by
  induction ps generalizing b with
  | nil => exact List.not_mem_nil
  | cons x ps ih =>
    rw [BoxScore.postAll, Attempt.forEach_cons] at h
    obtain ⟨m, hm, hrest⟩ := Attempt.andThen_eq_ok.mp h
    intro hmem
    rcases List.mem_cons.mp hmem with rfl | hmem
    · cases (Attempt.eq_ok_iff.mp hm).1
    · exact ih hrest hmem

/-- **A play that was posted was manned.** -/
theorem manned_of_postPlay (h : b.postPlay gameId s.situation p = .ok b') :
    s.Manned p ((b.team s.fielding).currentPitcher?.map PitchingLine.player) := by
  have hgap := gap_notMem_of_postAll h
  have hpart (part : List Posting) (hpart : part ⊆ b.postings s.situation p) (role : Role) :
      .gap role ∉ part := fun hmem => hgap role (hpart hmem)
  constructor
  · intro hconcerns
    have hbatter := hpart (BoxScore.batterPostings s.situation p)
      (fun x hx => by simp [BoxScore.postings, hx]) .batter
    rw [BoxScore.batterPostings, if_pos hconcerns] at hbatter
    rcases hb : s.batter? with _ | batter
    · rw [show s.situation.batter? = none from hb] at hbatter
      exact absurd (List.mem_singleton_self _) hbatter
    · rfl
  · have hpitcher := hpart (BoxScore.pitcherPostings s.situation p
      ((b.team s.fielding).currentPitcher?.map PitchingLine.player))
      (fun x hx => by
        simp [BoxScore.postings, show s.situation.half.opponent = s.fielding from rfl, hx])
      .pitcher
    rcases hp : (b.team s.fielding).currentPitcher?.map PitchingLine.player with _ | pitcher
    · rw [hp] at hpitcher
      exact absurd (List.mem_singleton_self _) hpitcher
    · rfl

/-! ### What they are worth -/

/-- The runs that a play brings in. -/
def runs (s : State) (p : Play) : Nat :=
  (s.bases.movers p.batterEvent).countP fun o => (p.advance.get o).isRun

/-- What a play is worth to the batting lines of the side at bat. -/
def battingWorth (s : State) (p : Play) : BattingCounts :=
  (if p.batterEvent || p.atBat then p.battingCredit else 0) + {
    r := s.runs p
    sb := (s.bases.movers p.batterEvent).countP fun o => o != .plate && p.stolenBase.get o
    cs := (s.bases.movers p.batterEvent).countP fun o => o != .plate && p.caughtStealing.get o }

/-- What a play is worth to the pitching lines of the side in the field. -/
def pitchingWorth (s : State) (p : Play) : PitchingCounts :=
  p.pitchingCredit + {
    r := s.runs p
    er := (s.bases.movers p.batterEvent).countP fun o => (p.advance.get o).isEarnedToPitcher }

/-- What a play is worth to the counts of the team at bat. -/
def teamAtBat (s : State) (p : Play) : TeamCounts where
  runs := s.runs p
  atBats := p.atBat.toNat

/-- What a play is worth to the counts of the team in the field. -/
def teamInField (s : State) (p : Play) : TeamCounts where
  earnedRuns := (s.bases.movers p.batterEvent).countP fun o => (p.advance.get o).isEarnedToTeam
  fielding := p.teamFieldingCredit + p.teamFieldingExtras

theorem Manned.isSome_man? (h : s.Manned p pitcher?) (o : Origin) :
    (BoxScore.man? s.situation p o).isSome ↔ o ∈ s.bases.movers p.batterEvent := by
  cases o with
  | plate =>
    have hbatter : s.situation.batter? = s.batter? := rfl
    rw [BoxScore.man?, hbatter, Bases.movers, List.mem_filter]
    cases hb : p.batterEvent with
    | false => simp
    | true => simp [h.batter (by simp [hb])]
  | on base =>
    have hrunner : BoxScore.man? s.situation p (.on base) = (s.bases.get base).map Runner.player :=
      rfl
    rw [hrunner, Option.isSome_map, Bases.movers, List.mem_filter]
    simp

/-- Somebody is charged with every man whom a manned play moves. -/
theorem Manned.isSome_charged? (h : s.Manned p pitcher?) {o : Origin}
    (ho : o ∈ s.bases.movers p.batterEvent) :
    (BoxScore.charged? s.situation pitcher? o).isSome := by
  cases o with
  | plate => exact h.pitcher
  | on base =>
    have hpitcher : BoxScore.charged? s.situation pitcher? (.on base)
        = (s.bases.get base).map Runner.pitcher := rfl
    rw [hpitcher, Option.isSome_map]
    simpa [Bases.movers] using ho

/-- A sum over the men whom the box score sees is one over the men whom the play moves. -/
theorem Manned.sum_men {M : Type} [AddCommMonoid M] (h : s.Manned p pitcher?)
    {w : Origin → String → M} {f : Origin → M}
    (hw : ∀ o ∈ s.bases.movers p.batterEvent, ∀ man, w o man = f o) :
    (Origin.all.map fun o => (BoxScore.man? s.situation p o).elim 0 (w o)).sum
      = ((s.bases.movers p.batterEvent).map f).sum := by
  have hman (o : Origin) : (BoxScore.man? s.situation p o).elim 0 (w o) =
      if o ∈ s.bases.movers p.batterEvent then f o else 0 := by
    split
    · next ho =>
      obtain ⟨man, hm⟩ := Option.isSome_iff_exists.mp ((h.isSome_man? o).mpr ho)
      rw [hm, Option.elim_some, hw o ho]
    · next ho =>
      rw [Option.not_isSome_iff_eq_none.mp (mt (h.isSome_man? o).mp ho), Option.elim_none]
  have hmovers : Origin.all.filter (· ∈ s.bases.movers p.batterEvent)
      = s.bases.movers p.batterEvent := by
    refine List.filter_congr fun o _ => ?_
    simp [Bases.movers]
  simp only [hman]
  rw [List.sum_map_ite, hmovers, List.map_const', List.sum_replicate, nsmul_zero, add_zero]

section Nameless

variable {M : Type} [AddCommMonoid M] {A : Account M}

/-- What a manned play is worth to the side at bat, in an account that does not ask who bats. -/
theorem Manned.offense_eq (h : s.Manned p pitcher?) {w : BattingCounts → M}
    (hw : ∀ player c, A.worth (.batting player c) = w c) :
    A.offense s.situation p =
      A.worth (.bats s.inning)
        + (if p.batterEvent || p.atBat then
            (if p.atBat then A.worth .atBat else 0) + w p.battingCredit else 0)
        + ((s.bases.movers p.batterEvent).map fun o =>
            (if (p.advance.get o).isRun then A.worth (.run s.inning) + w { r := 1 } else 0)
              + ((if o != .plate && p.stolenBase.get o then w { sb := 1 } else 0)
                + if o != .plate && p.caughtStealing.get o then w { cs := 1 } else 0)).sum := by
  have hsum := h.sum_men (w := fun o man =>
    (if (p.advance.get o).isRun then
      A.worth (.run s.situation.inning) + A.worth (.batting man { r := 1 }) else 0)
      + A.total s.situation.half (BoxScore.runningPostings s.situation p man o))
    fun o _ man => by rw [hw, Account.total_half_runningPostings hw]
  rw [Account.offense, hsum]
  refine congrArg (· + _) (congrArg (_ + ·) ?_)
  split
  · next hconcerns =>
    obtain ⟨batter, hb⟩ := Option.isSome_iff_exists.mp (h.batter hconcerns)
    rw [show s.situation.batter? = some batter from hb, Option.elim_some, hw]
  · rfl

/-- What a manned play is worth to the side in the field, in an account that asks neither who
pitches nor who fields. -/
theorem Manned.defense_eq (h : s.Manned p pitcher?) {w : PitchingCounts → M}
    (hw : ∀ player c, A.worth (.pitching player c) = w c)
    (hline : ∀ player q c, A.worth (.fielding player q c) = 0) :
    A.defense s.situation p pitcher? =
      w p.pitchingCredit
        + (A.worth (.teamFielding p.teamFieldingCredit)
          + A.worth (.teamFielding p.teamFieldingExtras))
        + ((s.bases.movers p.batterEvent).map fun o =>
            if (p.advance.get o).isRun then
              w (Play.runCharge (p.advance.get o))
                + if (p.advance.get o).isEarnedToTeam then A.worth .earnedRun else 0
            else 0).sum := by
  have hsum := h.sum_men (w := fun o _ =>
    if (p.advance.get o).isRun then
      (BoxScore.charged? s.situation pitcher? o).elim 0 fun pitcher =>
        A.worth (.pitching pitcher (Play.runCharge (p.advance.get o)))
          + if (p.advance.get o).isEarnedToTeam then A.worth .earnedRun else 0
    else 0) fun o ho _ => by
      obtain ⟨charged, hc⟩ := Option.isSome_iff_exists.mp (h.isSome_charged? ho)
      rw [hc, Option.elim_some, hw]
  obtain ⟨pitcher, hpitcher⟩ := Option.isSome_iff_exists.mp h.pitcher
  rw [Account.defense, Account.total_opponent_fieldingPostings hline, hsum, hpitcher,
    Option.elim_some, hw]

end Nameless

/-! ### The three accounts -/

theorem batting_offense (h : s.Manned p pitcher?) :
    Account.batting.offense s.situation p = s.battingWorth p := by
  have hbats : Account.batting.worth (.bats s.inning) = 0 := rfl
  have hbatter : (if p.atBat then Account.batting.worth .atBat else (0 : BattingCounts))
      + p.battingCredit = p.battingCredit := by
    cases p.atBat <;> exact zero_add _
  rw [h.offense_eq fun _ _ => rfl, hbatter, hbats, zero_add, battingWorth, runs]
  refine congrArg ((if p.batterEvent || p.atBat then p.battingCredit else 0) + ·) ?_
  induction s.bases.movers p.batterEvent with
  | nil => rfl
  | cons o os ih =>
    rw [List.map_cons, List.sum_cons, ih, add_comm]
    simp only [List.countP_cons]
    cases (p.advance.get o).isRun <;> cases o != .plate && p.stolenBase.get o <;>
      cases o != .plate && p.caughtStealing.get o <;> rfl

theorem batting_defense : Account.batting.defense s.situation p pitcher? = 0 :=
  Account.defense_eq_zero (fun _ _ => rfl) rfl (fun _ _ _ => rfl) fun _ => rfl

theorem pitching_offense : Account.pitching.offense s.situation p = 0 :=
  Account.offense_eq_zero (fun _ => rfl) (fun _ => rfl) rfl fun _ _ => rfl

theorem pitching_defense (h : s.Manned p pitcher?) :
    Account.pitching.defense s.situation p pitcher? = s.pitchingWorth p := by
  rw [h.defense_eq (fun _ _ => rfl) fun _ _ _ => rfl, pitchingWorth, runs]
  refine congrArg₂ (· + ·) (add_zero _) ?_
  induction s.bases.movers p.batterEvent with
  | nil => rfl
  | cons o os ih =>
    rw [List.map_cons, List.sum_cons, ih, add_comm]
    simp only [List.countP_cons]
    cases p.advance.get o <;> rfl

theorem team_offense (h : s.Manned p pitcher?) :
    Account.team.offense s.situation p = s.teamAtBat p := by
  rw [h.offense_eq (w := fun _ => 0) fun _ _ => rfl]
  have hbatter : (if p.batterEvent || p.atBat then
      (if p.atBat then Account.team.worth .atBat else (0 : TeamCounts)) + 0 else 0)
        = { atBats := p.atBat.toNat } := by
    cases p.atBat <;> cases p.batterEvent <;> rfl
  have hruns (os : List Origin) : (os.map fun o =>
      (if (p.advance.get o).isRun then Account.team.worth (.run s.inning) + 0 else (0 : TeamCounts))
        + ((if o != .plate && p.stolenBase.get o then 0 else 0)
          + if o != .plate && p.caughtStealing.get o then 0 else 0)).sum
      = { runs := os.countP fun o => (p.advance.get o).isRun } := by
    induction os with
    | nil => rfl
    | cons o os ih =>
      rw [List.map_cons, List.sum_cons, ih, add_comm, ite_self, ite_self]
      simp only [List.countP_cons]
      cases (p.advance.get o).isRun <;> rfl
  rw [hbatter, hruns]
  exact TeamCounts.ext (zero_add _) (zero_add _) rfl rfl

theorem team_defense (h : s.Manned p pitcher?) :
    Account.team.defense s.situation p pitcher? = s.teamInField p := by
  rw [h.defense_eq (w := fun _ => 0) (fun _ _ => rfl) fun _ _ _ => rfl]
  have hruns (os : List Origin) : (os.map fun o =>
      if (p.advance.get o).isRun then
        0 + if (p.advance.get o).isEarnedToTeam then Account.team.worth .earnedRun else 0
      else (0 : TeamCounts)).sum
      = { earnedRuns := os.countP fun o => (p.advance.get o).isEarnedToTeam } := by
    induction os with
    | nil => rfl
    | cons o os ih =>
      rw [List.map_cons, List.sum_cons, ih, add_comm]
      simp only [List.countP_cons]
      cases p.advance.get o <;> rfl
  rw [hruns]
  exact TeamCounts.ext rfl rfl (zero_add _) ((add_zero _).trans (zero_add _))

end State

/-! ### Whole games -/

namespace BoxScore

variable {M : Type} [AddCommMonoid M] {A : Account M} {offense defense : State → Play → M}
  {g : Game} {es : List Event} {s : State} {b : BoxScore}

/-- **One play** is worth something to the side at bat and to the side in the field. -/
theorem balance_postPlay_eq {gameId : String} {p : Play} {b' : BoxScore}
    (h : b.postPlay gameId s.situation p = .ok b') (side : Side) :
    A.balance (b'.team side) = A.balance (b.team side) +
      ((if side = s.half then A.offense s.situation p else 0)
        + if side.opponent = s.half then
            A.defense s.situation p ((b.team s.fielding).currentPitcher?.map PitchingLine.player)
          else 0) := by
  rw [Account.balance_postPlay h]
  by_cases hside : side = s.half
  · subst hside
    have htotal := Account.total_postings_half (A := A) (s := s.situation) (p := p) b
    rw [show s.situation.half = s.half from rfl] at htotal
    rw [htotal, if_pos rfl, if_neg (Side.opponent_ne _), add_zero]
  · obtain rfl : side = s.fielding := State.ne_half_iff.mp hside
    have htotal := Account.total_postings_opponent (A := A) (s := s.situation) (p := p) b
    rw [show s.situation.half.opponent = s.fielding from rfl] at htotal
    have hback : s.fielding.opponent = s.half := Side.opponent_opponent _
    rw [htotal, if_neg hside, if_pos hback, zero_add]

/-- **A balance is what the plays so far were worth**, those at bat and those in the field, if the
worth of a play can be told from the state it is made in. -/
theorem Kept.balance_eq_of_plays
    (hplay : ∀ {es s b p b' s'}, Kept g es s b → b.postPlay g.id s.situation p = .ok b' →
      s.applyPlay g.id p = .ok s' → A.offense s.situation p = offense s p ∧
        A.defense s.situation p ((b.team s.fielding).currentPitcher?.map PitchingLine.player)
          = defense s p)
    (h : Kept g es s b) (side : Side) :
    A.balance (b.team side) =
      atBatSum side offense ((State.ofGame g).plays g.id es)
        + atBatSum side.opponent defense ((State.ofGame g).plays g.id es) := by
  induction h with
  | opened hopen => exact (Account.balance_ofStarters hopen side).trans (add_zero 0).symm
  | @event es s s' b b' e before noted happened ih =>
    rw [before.plays_concat, atBatSum_append, atBatSum_append]
    cases e with
    | play p =>
      obtain ⟨hoffense, hdefense⟩ := hplay before noted happened
      rw [balance_postPlay_eq noted, ih, hoffense, hdefense, State.plays, State.plays,
        atBatSum_singleton, atBatSum_singleton, add_add_add_comm]
    | noPlay subs =>
      rw [Account.balance_forEach_enter noted, ih, State.plays, State.plays, atBatSum_nil,
        atBatSum_nil, add_zero, add_zero]

/-- It can be told from the state for every play that was manned, in an account that does not ask
who pitched. -/
theorem Kept.balance_eq
    (hoffense : ∀ {s p pitcher?}, State.Manned s p pitcher? →
      A.offense s.situation p = offense s p)
    (hdefense : ∀ {s p pitcher?}, State.Manned s p pitcher? →
      A.defense s.situation p pitcher? = defense s p)
    (h : Kept g es s b) (side : Side) :
    A.balance (b.team side) =
      atBatSum side offense ((State.ofGame g).plays g.id es)
        + atBatSum side.opponent defense ((State.ofGame g).plays g.id es) := by
  refine h.balance_eq_of_plays (fun _ hpost _ => ?_) side
  have hmanned := State.manned_of_postPlay hpost
  exact ⟨hoffense hmanned, hdefense hmanned⟩

/-- What is true wherever a game was kept is true of the states in which its plays were made. -/
theorem Kept.forall_mem_plays {P : State → Prop} (hP : ∀ {es s b}, Kept g es s b → P s)
    (h : Kept g es s b) : ∀ q ∈ (State.ofGame g).plays g.id es, P q.1 := by
  intro q hq
  obtain ⟨_, _, _, _, -, hkept, -⟩ := h.exists_of_mem_plays q hq
  exact hP hkept

/-- **A count of the state is what the plays so far were worth to it**, those that the side made at
bat or those that it had in the field. -/
theorem Kept.count_eq {c : SideState → Nat} {worth : State → Play → Nat} {side batting : Side}
    (hempty : c {} = 0)
    (hsquad : ∀ t squad, c { t with squad } = c t)
    (hplay : ∀ s p, (s.newRunner? p).isSome = p.batterEvent →
      c ((s.afterPlay p (s.newRunner? p)).side side) =
        c (s.side side) + if batting = s.half then worth s p else 0)
    (h : Kept g es s b) :
    c (s.side side) = atBatSum batting worth ((State.ofGame g).plays g.id es) := by
  refine h.plays_induction (P := fun qs s => c (s.side side) = atBatSum batting worth qs) ?_ ?_ ?_
  · rw [State.side_ofGame, hsquad {}, hempty]
    rfl
  · intro qs s p hqs hbatter
    rw [hplay s p hbatter, hqs, atBatSum_append, atBatSum_singleton]
  · intro qs s t hqs hsame
    rw [hsame.counts side, hsquad, hqs]

end BoxScore

end Baseball
