import Baseball.Proofs.Headings
import Baseball.Proofs.Ledger

/-!
# The lines of single players

The accounts of a game add up the lines of a team and do not ask whose they are. Here every line is
weighed by whose it is, so that an account can be kept of one man alone. What a play is worth to
such an account depends on who bats, who is on the mound and who is charged with a run.

For this to say something about a line in a box score, the lines must be told apart by their
players, and belong to the team. Lines under their headings are: they are `TeamBox.Orderly`.

## Main definitions

* `Account.battingBy`, `Account.pitchingBy` — the batting and pitching lines, each weighed by its
  player
* `TeamBox.Orderly` — every line is of the team, and no pitcher has two

## Main results

* `Account.battingBy_offense`, `Account.pitchingBy_defense` — what a play is worth to them
* `BoxScore.orderly_ofGame` — the lines of a finished box score are in order
-/

namespace Baseball

namespace Account

open TeamBox

variable {M : Type} [AddCommMonoid M] {s : Situation} {p : Play} {pitcher? : Option String}

/-! ### Weighing lines -/

/-- The batting lines, each weighed by its player. -/
def battingBy (w : String → BattingCounts →+ M) : Account M where
  balance t := (t.stints.map fun s => w s.line.player s.line.counts).sum
  worth
    | .batting x c => w x c
    | _ => 0
  balance_opened _ _ := rfl
  balance_enter h := by
    obtain ⟨hs, rfl⟩ := enter_eq_ok_iff.mp h
    exact sum_stints_enterStint (w := fun x c => w x c) (fun x => map_zero (w x)) ..
  balance_post {_ e _ _} h := by
    cases e with
    | batting player c =>
      obtain ⟨stints, hm, rfl⟩ := post_batting_eq_ok_iff.mp h
      refine sum_modifyFirst? hm fun stint hstint => ?_
      rw [← beq_iff_eq.mp hstint]
      exact map_add (w stint.line.player) _ _
    | pitching player c =>
      obtain ⟨pitchers, -, rfl⟩ := post_pitching_eq_ok_iff.mp h
      exact (add_zero _).symm
    | fielding player p c =>
      obtain ⟨fielders, -, rfl⟩ := post_fielding_eq_ok_iff.mp h
      exact (add_zero _).symm
    | _ =>
      cases (Attempt.eq_ok_iff.mp h).2
      exact (add_zero _).symm
  balance_samePlay h := by rw [h.stints]

/-- The pitching lines, each weighed by its player; what is entered when the game is opened and
closed must weigh nothing. -/
def pitchingBy (w : String → PitchingCounts →+ M) (hw : ∀ x c, w x c.inPlay = w x c) :
    Account M where
  balance t := (t.pitchers.map fun l => w l.player l.counts).sum
  worth
    | .pitching x c => w x c
    | _ => 0
  balance_opened _ _ := rfl
  balance_enter h := by
    obtain ⟨hs, rfl⟩ := enter_eq_ok_iff.mp h
    split
    · exact sum_pitchers_enterPitcher (w := fun x c => w x c) (fun x => map_zero (w x)) ..
    · rfl
  balance_post {_ e _ _} h := by
    cases e with
    | batting player c =>
      obtain ⟨stints, -, rfl⟩ := post_batting_eq_ok_iff.mp h
      exact (add_zero _).symm
    | pitching player c =>
      obtain ⟨pitchers, hm, rfl⟩ := post_pitching_eq_ok_iff.mp h
      refine sum_modifyFirst? hm fun l hl => ?_
      rw [← beq_iff_eq.mp hl]
      exact map_add (w l.player) _ _
    | fielding player p c =>
      obtain ⟨fielders, -, rfl⟩ := post_fielding_eq_ok_iff.mp h
      exact (add_zero _).symm
    | _ =>
      cases (Attempt.eq_ok_iff.mp h).2
      exact (add_zero _).symm
  balance_samePlay {t u} h := by
    have hmap := congrArg (List.map fun l => w l.player l.counts) h.pitchers
    simpa only [List.map_map, Function.comp_def, PitchingLine.inPlay, hw] using
      congrArg List.sum hmap

/-- Weighs the counts of one player, and those of nobody else. -/
def ofPlayer {C : Type} [AddCommMonoid C] (x : String) (f : C →+ M) (y : String) : C →+ M :=
  if y = x then f else 0

theorem ofPlayer_apply {C : Type} [AddCommMonoid C] (x : String) (f : C →+ M) (y : String) (c : C) :
    ofPlayer x f y c = if y = x then f c else 0 := by
  rw [ofPlayer]
  split <;> rfl

theorem ofPlayer_inPlay {f : PitchingCounts →+ M} (h : ∀ c, f c.inPlay = f c) (x y : String)
    (c : PitchingCounts) : ofPlayer x f y c.inPlay = ofPlayer x f y c := by
  rw [ofPlayer_apply, ofPlayer_apply, h]

/-! ### What a play is worth -/

section Batting

variable {w : String → BattingCounts →+ M}

/-- What a play is worth to the batting lines, if steals weigh nothing: the batter's credit, and the
runs of those who score. -/
theorem battingBy_offense_of_steals (hsb : ∀ x, w x { sb := 1 } = 0)
    (hcs : ∀ x, w x { cs := 1 } = 0) :
    (battingBy w).offense s p =
      (if p.batterEvent || p.atBat then s.batter?.elim 0 fun x => w x p.battingCredit else 0)
        + (Origin.all.map fun o => (BoxScore.man? s p o).elim 0 fun x =>
            if (p.advance.get o).isRun then w x { r := 1 } else 0).sum := by
  have hbatter (x : String) : (if p.atBat then (battingBy w).worth .atBat else 0)
      + (battingBy w).worth (.batting x p.battingCredit) = w x p.battingCredit := by
    cases p.atBat <;> exact zero_add _
  have hrun (x : String) : (battingBy w).worth (.run s.inning)
      + (battingBy w).worth (.batting x { r := 1 }) = w x { r := 1 } := zero_add _
  have hrunning (x : String) (o : Origin) :
      (battingBy w).total s.half (BoxScore.runningPostings s p x o) = 0 := by
    refine total_eq_zero fun y hy => ?_
    cases o with
    | plate => cases hy
    | on base =>
      rw [runningPostings_on] at hy
      rcases List.mem_append.mp hy with hy | hy
      · split at hy
        · rw [List.mem_singleton.mp hy, on_half]
          exact hsb x
        · cases hy
      · split at hy
        · rw [List.mem_singleton.mp hy, on_half]
          exact hcs x
        · cases hy
  have hbats : (battingBy w).worth (.bats s.inning) = 0 := rfl
  rw [offense, hbats, zero_add]
  simp only [hbatter, hrun, hrunning, add_zero]

/-- If runs weigh nothing either, it is the batter's credit. -/
theorem battingBy_offense (hr : ∀ x, w x { r := 1 } = 0) (hsb : ∀ x, w x { sb := 1 } = 0)
    (hcs : ∀ x, w x { cs := 1 } = 0) :
    (battingBy w).offense s p =
      if p.batterEvent || p.atBat then s.batter?.elim 0 fun x => w x p.battingCredit else 0 := by
  have hruns : (Origin.all.map fun o => (BoxScore.man? s p o).elim 0 fun x =>
      if (p.advance.get o).isRun then w x { r := 1 } else 0).sum = 0 := by
    refine List.sum_eq_zero fun c hc => ?_
    obtain ⟨o, -, rfl⟩ := List.mem_map.mp hc
    simp only [hr, ite_self]
    cases BoxScore.man? s p o <;> rfl
  rw [battingBy_offense_of_steals hsb hcs, hruns, add_zero]

/-- The side in the field has no batting lines to credit. -/
theorem battingBy_defense : (battingBy w).defense s p pitcher? = 0 :=
  defense_eq_zero (fun _ _ => rfl) rfl (fun _ _ _ => rfl) fun _ => rfl

end Batting

section Pitching

variable {w : String → PitchingCounts →+ M} {hw : ∀ x c, w x c.inPlay = w x c}

/-- The side at bat has no pitching lines to credit. -/
theorem pitchingBy_offense : (pitchingBy w hw).offense s p = 0 :=
  offense_eq_zero (fun _ => rfl) (fun _ => rfl) rfl fun _ _ => rfl

/-- What a play is worth to the pitching lines: the credit of the pitcher on the mound, and what the
runs are worth to those who are charged with them. -/
theorem pitchingBy_defense :
    (pitchingBy w hw).defense s p pitcher? =
      (pitcher?.elim 0 fun x => w x p.pitchingCredit)
        + (Origin.all.map fun o => (BoxScore.man? s p o).elim 0 fun _ =>
            if (p.advance.get o).isRun then
              (BoxScore.charged? s pitcher? o).elim 0 fun x =>
                w x (Play.runCharge (p.advance.get o))
            else 0).sum := by
  have hrun (x : String) (d : Destination) :
      ((pitchingBy w hw).worth (.pitching x (Play.runCharge d))
        + if d.isEarnedToTeam then (pitchingBy w hw).worth .earnedRun else 0)
          = w x (Play.runCharge d) := by
    cases d.isEarnedToTeam <;> exact add_zero _
  have hteam (c d : TeamFieldingCounts) : (pitchingBy w hw).worth (.teamFielding c)
      + (pitchingBy w hw).worth (.teamFielding d) = 0 := add_zero 0
  rw [defense, total_opponent_fieldingPostings fun _ _ _ => rfl, hteam, add_zero]
  simp only [hrun]
  rfl

end Pitching

end Account

/-! ### Lines in order -/

namespace TeamBox

variable {gameId team : String} {t : TeamBox}

/-- **Lines in order**: every line is of the team, and no pitcher has two. -/
structure Orderly (team : String) (t : TeamBox) : Prop where
  batters : ∀ s ∈ t.stints, s.line.team = team
  pitchers : ∀ l ∈ t.pitchers, l.team = team
  nodup : t.pitcherNames.Nodup

/-- Lines under their headings are in order. -/
theorem Headed.orderly (h : t.Headed team gameId) : t.Orderly team :=
  ⟨fun s hs => (h.batting s hs).1, fun l hl => (h.pitching l hl).1, h.nodup_pitcherNames⟩

/-- Of the pitching lines, one is the player's. -/
theorem Orderly.sum_pitchers_ofPlayer {M : Type} [AddCommMonoid M] (ho : t.Orderly team)
    {l : PitchingLine} (hl : l ∈ t.pitchers) (f : PitchingCounts →+ M) :
    (t.pitchers.map fun k => Account.ofPlayer l.player f k.player k.counts).sum = f l.counts := by
  have hother (k : PitchingLine) (hne : k ≠ l) (hk : k ∈ t.pitchers) :
      Account.ofPlayer l.player f k.player k.counts = 0 := by
    rw [Account.ofPlayer_apply, if_neg]
    exact fun hsame => hne (List.inj_on_of_nodup_map ho.nodup hk hl hsame)
  rw [List.sum_map_eq_nsmul_single l _ hother, List.count_eq_one_of_mem ho.nodup.of_map hl,
    one_nsmul, Account.ofPlayer_apply, if_pos rfl]

end TeamBox

/-- **The lines of a finished box score are in order.** -/
theorem BoxScore.orderly_ofGame {g : Game} {b : BoxScore} (h : ofGame g = .ok b) (side : Side) :
    (b.team side).Orderly (g.team side) :=
  (headed_ofGame h side).orderly

end Baseball
