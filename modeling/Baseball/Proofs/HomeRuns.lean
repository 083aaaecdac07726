import Baseball.Proofs.DoubleEntry
import Baseball.Proofs.Gathering
import Baseball.Proofs.Mound
import Baseball.Proofs.Personal
import Baseball.Proofs.Scan

/-!
# Home runs, logged and counted

The log of home runs writes down who hit each and off whom, as the game has it when it happens. The
registers come to the same home runs by another way: the box score credits the batter and charges
the pitcher whom it has on the mound, and when the game is over the registers take its lines. A play
is credited to a batter only if it ends his plate appearance or is an at-bat, so a home run must be
one of these.

Everything is reduced to the plays of a game. A play is a home run of a batter, or off a pitcher, or
not; the entries of the log and the counts of the lines are counts of such plays.

## Main definitions

* `HomeRunLog.ofPlay?`, `Game.homeRuns` — the entries that a play and a game make

## Main results

* `HomeRunLog.homeRuns_of_watch` — what the log has after a game
* `BoxScore.sum_battingLines_hr`, `sum_pitchingLines_hr` — what a box score counts
* `Season.homeRuns_agree` — the log and the registers agree
-/

namespace Baseball

variable {g : Game} {gs : List Game} {gameId x team : String} {s s' : State} {p : Play}
  {es : List Event} {b : BoxScore}

/-! ### The log -/

namespace HomeRunLog

open Observer

/-- The entry that a play makes in the log, if it is a home run. -/
def ofPlay? (g : Game) (s : State) (p : Play) : Option HomeRun :=
  if p.kind = .homeRun then
    s.batter?.bind fun batter => s.pitcher?.map fun pitcher =>
      { gameId := g.id
        date := g.date
        batter
        team := g.team s.half
        pitcher
        opponent := g.team s.fielding
        inning := s.inning
        half := s.half
        runnersOn := s.situation.runnersOn
        outs := s.outs }
  else none

theorem play_eq_ok {log log' : HomeRunLog} (h : log.play g p s.situation = .ok log') :
    log'.homeRuns = log.homeRuns ++ (ofPlay? g s p).toList := by
  rw [play] at h
  rw [ofPlay?]
  by_cases hp : p.kind = .homeRun
  · rw [if_pos hp, Attempt.require_eq_ok] at h
    obtain ⟨batter, hbatter, h⟩ := h
    obtain ⟨pitcher, hpitcher, h⟩ := Attempt.require_eq_ok.mp h
    rw [if_pos hp, show s.batter? = some batter from hbatter,
      show s.pitcher? = some pitcher from hpitcher, ← Attempt.ok_inj.mp h]
    rfl
  · rw [if_neg hp] at h
    rw [if_neg hp, Attempt.ok_inj.mp h]
    exact (List.append_nil _).symm

/-- The log after some events. -/
theorem homeRuns_of_tellAll {log log' : HomeRunLog} (hrun : s.run g.id es = .ok s')
    (h : s.tellAll g.id (note g) log es = .ok log') :
    log'.homeRuns = log.homeRuns ++ (s.plays g.id es).filterMap fun q => ofPlay? g q.1 q.2 := by
  induction es generalizing s log with
  | nil =>
    obtain rfl : log = log' := Attempt.ok_inj.mp h
    exact (List.append_nil _).symm
  | cons e es ih =>
    rw [State.run, Attempt.forEach_cons] at hrun
    obtain ⟨m, happlied, hlater⟩ := Attempt.andThen_eq_ok.mp hrun
    obtain ⟨log₁, hnote, hnotes⟩ := Attempt.andThen_eq_ok.mp h
    obtain rfl : (s.applyEvent g.id e).state = m := (Attempt.eq_ok_iff.mp happlied).2
    rw [ih hlater hnotes]
    cases e with
    | play p =>
      have hplay : log.play g p s.situation = .ok log₁ := hnote
      rw [play_eq_ok hplay, List.append_assoc, State.plays, List.filterMap_cons]
      cases ofPlay? g s p <;> rfl
    | noPlay subs =>
      obtain rfl : log = log₁ := Attempt.ok_inj.mp hnote
      rfl

end HomeRunLog

/-- The home runs of a game. -/
def Game.homeRuns (g : Game) : List HomeRun :=
  g.plays.filterMap fun q => HomeRunLog.ofPlay? g q.1 q.2

/-- **The log after a game.** -/
theorem HomeRunLog.homeRuns_of_watch {log log' : HomeRunLog}
    (hrun : ∃ s, (State.ofGame g).run g.id g.events = .ok s)
    (h : Observer.watch g log = .ok log') : log'.homeRuns = log.homeRuns ++ g.homeRuns := by
  obtain ⟨s, hs⟩ := hrun
  obtain ⟨m, hfollow, hend⟩ := Attempt.andThen_eq_ok.mp h
  obtain ⟨m', hstart, htell⟩ := Attempt.andThen_eq_ok.mp hfollow
  obtain rfl : log = m' := Attempt.ok_inj.mp hstart
  obtain rfl : m = log' := Attempt.ok_inj.mp hend
  exact homeRuns_of_tellAll hs htell

theorem Report.embeds_homeRuns : Observer.Embeds Report.homeRuns where
  started _ _ _ := rfl
  noted _ _ _ e := by cases e <;> rfl
  ended _ _ _ := rfl

/-- The log after some games. -/
theorem Report.homeRuns_of_watchGames {log : HomeRunLog} {r' : Report}
    (h : watchGames [Report.homeRuns log] gs = .ok [r']) :
    ∃ log', r' = .homeRuns log' ∧ log'.homeRuns = log.homeRuns ++ gs.flatMap Game.homeRuns := by
  induction gs generalizing log with
  | nil =>
    obtain rfl : Report.homeRuns log = r' := by simpa using Attempt.ok_inj.mp h
    exact ⟨log, rfl, (List.append_nil _).symm⟩
  | cons g gs ih =>
    obtain ⟨m, hrun, hm, hrest⟩ := watchGames_singleton_cons_iff.mp h
    rw [embeds_homeRuns.watch, Attempt.map_eq_ok] at hm
    obtain ⟨log₁, hlog₁, rfl⟩ := hm
    obtain ⟨log', rfl, hlog'⟩ := ih hrest
    refine ⟨log', rfl, ?_⟩
    rw [hlog', HomeRunLog.homeRuns_of_watch hrun hlog₁, List.append_assoc, List.flatMap_cons]

/-! ### The box score -/

/-- A home run that a batter is credited with: it ends his plate appearance or is an at-bat. -/
def Game.CreditsHomeRuns (g : Game) : Prop :=
  ∀ q ∈ g.plays, q.2.kind = .homeRun → q.2.batterEvent || q.2.atBat

instance (g : Game) : Decidable g.CreditsHomeRuns := inferInstanceAs (Decidable (∀ q ∈ _, _))

namespace TeamBox

open Account

variable {t : TeamBox}

/-- The lines of a player and team, in the box of a team: none, if it is another team. -/
theorem sum_lines_eq {L C : Type} [StatLine L] [AddCommMonoid C] {ls : List L} {counts : L → C}
    (c : C →+ Nat) (hkey : ∀ l ∈ ls, StatLine.key l = ⟨StatLine.player l, team, none⟩)
    (x u : String) :
    (ls.map fun l => if StatLine.key l = ⟨x, u, none⟩ then c (counts l) else 0).sum =
      if team = u then
        (ls.map fun l => ofPlayer x c (StatLine.player l) (counts l)).sum else 0 := by
  have hline (l : L) (hl : l ∈ ls) :
      (if StatLine.key l = ⟨x, u, none⟩ then c (counts l) else 0) =
        if team = u then ofPlayer x c (StatLine.player l) (counts l) else 0 := by
    rw [hkey l hl, ofPlayer_apply]
    by_cases hteam : team = u <;> simp [hteam]
  rw [List.map_congr_left hline]
  split
  · rfl
  · rw [List.map_const', List.sum_replicate, nsmul_zero]

theorem Orderly.sum_battingLines (ho : t.Orderly team) (c : BattingCounts →+ Nat) (x u : String) :
    (t.battingLines.map fun l => if StatLine.key l = ⟨x, u, none⟩ then c l.counts else 0).sum =
      if team = u then (battingBy (ofPlayer x c)).balance t else 0 := by
  have hkey : ∀ l ∈ t.battingLines, StatLine.key l = ⟨StatLine.player l, team, none⟩ := by
    intro l hl
    obtain ⟨s, hs, rfl⟩ := List.mem_map.mp hl
    exact congrArg (LineKey.mk s.line.player · none)
      (ho.batters s (t.stintsInOrder_perm.mem_iff.mp hs))
  rw [sum_lines_eq c hkey, battingLines, List.map_map]
  exact congrArg (if team = u then · else 0) (t.stintsInOrder_perm.map _).sum_eq

theorem Orderly.sum_pitchingLines (ho : t.Orderly team) {c : PitchingCounts →+ Nat}
    (hc : ∀ d, c d.inPlay = c d) (x u : String) :
    (t.pitchers.map fun l => if StatLine.key l = ⟨x, u, none⟩ then c l.counts else 0).sum =
      if team = u then (pitchingBy (ofPlayer x c) (ofPlayer_inPlay hc x)).balance t else 0 :=
  sum_lines_eq c (fun l hl => congrArg (LineKey.mk l.player · none) (ho.pitchers l hl)) x u

end TeamBox

namespace BoxScore

open Account

/-! ### What a box score counts -/

/-- The home runs among batting counts. -/
def battingHr : BattingCounts →+ Nat := ⟨⟨BattingCounts.hr, rfl⟩, fun _ _ => rfl⟩

/-- The home runs among pitching counts. -/
def pitchingHr : PitchingCounts →+ Nat := ⟨⟨PitchingCounts.hr, rfl⟩, fun _ _ => rfl⟩

/-- Whether a play is a home run of a batter. -/
def hitBy (x : String) (s : State) (p : Play) : Nat :=
  (p.kind == .homeRun && s.batter? == some x).toNat

/-- Whether a play is a home run off a pitcher. -/
def hitOff (x : String) (s : State) (p : Play) : Nat :=
  (p.kind == .homeRun && s.pitcher? == some x).toNat

/-- A credit of one or none, weighed for one player. -/
theorem elim_ofPlayer {C : Type} [AddCommMonoid C] {c : C →+ Nat} {d : C} {k : Bool}
    (h : c d = k.toNat) (x : String) (player? : Option String) :
    (player?.elim 0 fun y => ofPlayer x c y d) = (k && player? == some x).toNat := by
  rcases player? with _ | y
  · rw [show ((none : Option String) == some x) = false from rfl, Bool.and_false]
    rfl
  · rw [Option.elim_some, ofPlayer_apply, h]
    by_cases hy : y = x
    · simp [hy]
    · have hne : (some y == some x) = false :=
        beq_eq_false_iff_ne.mpr fun h => hy (Option.some.inj h)
      rw [if_neg hy, hne, Bool.and_false]
      rfl

/-- The home runs in the lines of a batter. -/
theorem balance_battingHr (h : ofGame g = .ok b) (hcredits : g.CreditsHomeRuns) (x : String)
    (side : Side) :
    (battingBy (ofPlayer x battingHr)).balance (b.team side) = atBatSum side (hitBy x) g.plays := by
  have hzero {c : BattingCounts} (hc : c.hr = 0) (y : String) : ofPlayer x battingHr y c = 0 := by
    rw [ofPlayer_apply, show battingHr c = 0 from hc, ite_self]
  obtain ⟨b₀, hkept, hclose⟩ := exists_kept_of_ofGame h
  rw [balance_close hclose, hkept.balance_eq
    (fun _ => battingBy_offense (hzero rfl) (hzero rfl) (hzero rfl)) (fun _ => battingBy_defense),
    atBatSum_zero, add_zero]
  refine atBatSum_congr fun q hq => ?_
  rw [elim_ofPlayer (show battingHr q.2.battingCredit = (q.2.kind == .homeRun).toNat from rfl)]
  by_cases hkind : q.2.kind = .homeRun
  · exact if_pos (hcredits q hq hkind)
  · rw [hitBy, beq_eq_false_iff_ne.mpr hkind, Bool.false_and, Bool.false_and]
    exact ite_self 0

/-- Of what a play brings into the lines of a pitcher only his own credit can be a home run: runs are
charged without one. -/
theorem defense_pitchingHr (x : String) (σ : Situation) (p : Play) (pitcher? : Option String) :
    (pitchingBy (ofPlayer x pitchingHr) (ofPlayer_inPlay (fun _ => rfl) x)).defense σ p pitcher? =
      (p.kind == .homeRun && pitcher? == some x).toNat := by
  have hcharge (y : String) (d : Destination) :
      ofPlayer x pitchingHr y (Play.runCharge d) = 0 := by
    rw [ofPlayer_apply, show pitchingHr (Play.runCharge d) = 0 from rfl, ite_self]
  have hruns : (Origin.all.map fun o => (man? σ p o).elim 0 fun _ =>
      if (p.advance.get o).isRun then (charged? σ pitcher? o).elim 0 fun y =>
        ofPlayer x pitchingHr y (Play.runCharge (p.advance.get o)) else 0).sum = 0 := by
    refine List.sum_eq_zero fun n hn => ?_
    obtain ⟨o, -, rfl⟩ := List.mem_map.mp hn
    simp only [hcharge]
    cases man? σ p o <;> cases charged? σ pitcher? o <;> simp
  rw [pitchingBy_defense, hruns, add_zero]
  exact elim_ofPlayer rfl x pitcher?

/-- The home runs in the lines of a pitcher. -/
theorem balance_pitchingHr (h : ofGame g = .ok b) (hone : g.OnePitcher) (x : String)
    (side : Side) :
    (pitchingBy (ofPlayer x pitchingHr) (ofPlayer_inPlay (fun _ => rfl) x)).balance (b.team side) =
      atBatSum side.opponent (hitOff x) g.plays := by
  obtain ⟨b₀, hkept, hclose⟩ := exists_kept_of_ofGame h
  have hplay {es s b p b' s'} (before : Kept g es s b) (_ : b.postPlay g.id s.situation p = .ok b')
      (happlied : s.applyPlay g.id p = .ok s') :
      let a := pitchingBy (ofPlayer x pitchingHr) (ofPlayer_inPlay (fun _ => rfl) x)
      a.offense s.situation p = 0 ∧
        a.defense s.situation p ((b.team s.fielding).currentPitcher?.map PitchingLine.player) =
          hitOff x s p := by
    obtain ⟨hpitcher, -, -⟩ := State.applyPlay_eq_ok_iff.mp happlied
    obtain ⟨pitcher, hpitcher⟩ := Option.isSome_iff_exists.mp hpitcher
    -- The game has a pitcher, so he is the one on the mound.
    have hmound : (b.team s.fielding).currentPitcher?.map PitchingLine.player = s.pitcher? :=
      (before.mans hone s.fielding pitcher hpitcher).trans hpitcher.symm
    rw [hmound]
    exact ⟨pitchingBy_offense, defense_pitchingHr x s.situation p s.pitcher?⟩
  have hbalance := hkept.balance_eq_of_plays hplay side
  rw [atBatSum_zero, zero_add] at hbalance
  rw [balance_close hclose, hbalance]
  rfl

/-- The entries of a game that satisfy a condition are the plays that make such an entry. -/
theorem countP_homeRuns (c : HomeRun → Bool) :
    g.homeRuns.countP c =
      g.plays.countP fun q => ((HomeRunLog.ofPlay? g q.1 q.2).map c).getD false :=
  List.countP_filterMap

/-- Whenever a play was made somebody pitched, and somebody batted if it concerned him. -/
theorem Kept.pitched_batted (h : Kept g es s b) :
    ∀ q ∈ (State.ofGame g).plays g.id es,
      q.1.pitcher?.isSome ∧ (q.2.batterEvent || q.2.atBat → q.1.batter?.isSome) := by
  intro q hq
  obtain ⟨_, _, _, _, -, -, noted, happened⟩ := h.exists_of_mem_plays q hq
  exact ⟨(State.applyPlay_eq_ok_iff.mp happened).1, (State.manned_of_postPlay noted).batter⟩

theorem exists_hit_of_ofGame (h : ofGame g = .ok b) (hcredits : g.CreditsHomeRuns)
    {q : State × Play} (hq : q ∈ g.plays) (hkind : q.2.kind = .homeRun) :
    ∃ batter pitcher, q.1.batter? = some batter ∧ q.1.pitcher? = some pitcher := by
  obtain ⟨b₀, hkept, -⟩ := exists_kept_of_ofGame h
  obtain ⟨hpitcher, hbatter⟩ := hkept.pitched_batted q hq
  obtain ⟨pitcher, hpitcher⟩ := Option.isSome_iff_exists.mp hpitcher
  obtain ⟨batter, hbatter⟩ := Option.isSome_iff_exists.mp (hbatter (hcredits q hq hkind))
  exact ⟨batter, pitcher, hbatter, hpitcher⟩

/-- **The home runs of a batter**, as a box score counts them and as the log does. -/
theorem sum_battingLines_hr (h : ofGame g = .ok b) (hcredits : g.CreditsHomeRuns) (x u : String) :
    (b.battingLines.map fun l =>
        if StatLine.key l = ⟨x, u, none⟩ then l.counts.hr else 0).sum =
      g.homeRuns.countP fun h => h.batter == x && h.team == u := by
  have hside (side : Side) : ((b.team side).battingLines.map fun l =>
      if StatLine.key l = ⟨x, u, none⟩ then l.counts.hr else 0).sum =
        if g.team side = u then atBatSum side (hitBy x) g.plays else 0 := by
    rw [← balance_battingHr h hcredits x side]
    exact (orderly_ofGame h side).sum_battingLines battingHr x u
  have hteams : b.battingLines = (b.team .visitor).battingLines ++ (b.team .home).battingLines :=
    congrArg (_ ++ ·) (List.append_nil _)
  rw [hteams, List.map_append, List.sum_append, hside, hside, sum_atBatSum (g.team · = u),
    countP_homeRuns]
  refine sum_map_eq_countP fun q hq => ?_
  rw [hitBy, HomeRunLog.ofPlay?]
  by_cases hkind : q.2.kind = .homeRun
  · obtain ⟨batter, pitcher, hbatter, hpitcher⟩ := exists_hit_of_ofGame h hcredits hq hkind
    rw [if_pos hkind, hkind, hbatter, hpitcher]
    by_cases hteam : g.team q.1.half = u
    · simp [hteam]
    · simp [hteam, beq_eq_false_iff_ne.mpr hteam]
  · simp [hkind]

/-- **The home runs off a pitcher**, as a box score counts them and as the log does. -/
theorem sum_pitchingLines_hr (h : ofGame g = .ok b) (hone : g.OnePitcher)
    (hcredits : g.CreditsHomeRuns) (x u : String) :
    (b.pitchingLines.map fun l =>
        if StatLine.key l = ⟨x, u, none⟩ then l.counts.hr else 0).sum =
      g.homeRuns.countP fun h => h.pitcher == x && h.opponent == u := by
  have hside (side : Side) : ((b.team side).pitchers.map fun l =>
      if StatLine.key l = ⟨x, u, none⟩ then l.counts.hr else 0).sum =
        if g.team side = u then atBatSum side.opponent (hitOff x) g.plays else 0 := by
    rw [← balance_pitchingHr h hone x side]
    exact (orderly_ofGame h side).sum_pitchingLines (c := pitchingHr) (fun _ => rfl) x u
  have hteams : b.pitchingLines = (b.team .visitor).pitchers ++ (b.team .home).pitchers :=
    congrArg (_ ++ ·) (List.append_nil _)
  rw [hteams, List.map_append, List.sum_append, hside, hside, add_comm]
  refine (sum_atBatSum (g.team ·.opponent = u) (hitOff x) g.plays).trans ?_
  rw [countP_homeRuns]
  refine sum_map_eq_countP fun q hq => ?_
  rw [hitOff, HomeRunLog.ofPlay?]
  by_cases hkind : q.2.kind = .homeRun
  · obtain ⟨batter, pitcher, hbatter, hpitcher⟩ := exists_hit_of_ofGame h hcredits hq hkind
    rw [if_pos hkind, hkind, hbatter, hpitcher]
    have hfielding : g.team q.1.half.opponent = g.team q.1.fielding := rfl
    by_cases hteam : g.team q.1.fielding = u
    · simp [hfielding, hteam]
    · simp [hfielding, hteam, beq_eq_false_iff_ne.mpr hteam]
  · simp [hkind]

end BoxScore

/-! ### Seasons -/

/-- What the lines of all box scores count is what the log has of all games. -/
theorem sum_flatMap_eq_countP {L : Type} {lines : BoxScore → List L} {w : L → Nat}
    {c : HomeRun → Bool} {boxes : List BoxScore}
    (hboxes : List.Forall₂ (fun g b => BoxScore.ofGame g = .ok b) gs boxes)
    (hgame : ∀ g ∈ gs, ∀ b, BoxScore.ofGame g = .ok b →
      ((lines b).map w).sum = g.homeRuns.countP c) :
    ((boxes.flatMap lines).map w).sum = (gs.flatMap Game.homeRuns).countP c := by
  induction hboxes with
  | nil => rfl
  | @cons g b gs boxes hb _ ih =>
    obtain ⟨hhead, htail⟩ := List.forall_mem_cons.mp hgame
    rw [List.flatMap_cons, List.map_append, List.sum_append, hhead b hb, ih htail,
      List.flatMap_cons, List.countP_append]

/-- What a fresh register has counted after some games, if each of their box scores counts what the
log has of the game. -/
theorem Register.elim_get?_addGames {L : Type} [StatLine L] {w : L → Nat}
    (hw : ∀ a b, w (StatLine.merge a b) = w a + w b) {k : LineKey} {c : HomeRun → Bool}
    {boxes : List BoxScore} (hboxes : List.Forall₂ (fun g b => BoxScore.ofGame g = .ok b) gs boxes)
    (hgame : ∀ g ∈ gs, ∀ b, BoxScore.ofGame g = .ok b →
      ((StatLine.ofBox b).map fun l => if StatLine.key l = k then w l else 0).sum =
        g.homeRuns.countP c) :
    ((GameTally.addGames ({} : Register L) (gs.zip boxes)).get? k).elim 0 w =
      (gs.flatMap Game.homeRuns).countP c := by
  rw [addGames_eq, List.map_snd_zip hboxes.length_eq.ge]
  exact (sum_get?_ofList hw _ k).trans (sum_flatMap_eq_countP hboxes hgame)

namespace Season

/-- **The log of home runs agrees with the registers.** In a game with one starting pitcher a side,
whoever the game has as a pitcher is on the mound. So after a scan into fresh reports, over such
games in which every home run is credited to a batter, a batter has as many home runs for a team in
the register as in the log, and so has a pitcher off whom they were hit. -/
theorem homeRuns_agree :
    (∀ (g : Game) (es : List Event) (s : State) (b : BoxScore), g.OnePitcher →
      BoxScore.Kept g es s b → ∀ side pitcher,
        s.situation.fielder? side .pitcher = some pitcher →
          (b.team side).currentPitcher?.map PitchingLine.player = some pitcher) ∧
    ∀ (μ : Type) (s : Season Report μ) (book : Scorebook) (outcome : ScanOutcome)
      (logName battingName pitchingName : String),
      (s.scan book).2 = .ok outcome →
      (∀ g ∈ (s.selection book).take outcome.games, g.OnePitcher ∧ g.CreditsHomeRuns) →
      s.find Report.homeRuns? logName = .ok {} →
      s.find Report.batting? battingName = .ok { tally := {} } →
      s.find Report.pitching? pitchingName = .ok { tally := {} } →
      ∃ log batting pitching, (s.scan book).1.find Report.homeRuns? logName = .ok log ∧
        (s.scan book).1.find Report.batting? battingName = .ok batting ∧
        (s.scan book).1.find Report.pitching? pitchingName = .ok pitching ∧
        ∀ player team,
          log.homeRuns.countP (fun h => h.batter == player && h.team == team) =
            (batting.tally.get? ⟨player, team, none⟩).elim 0 (·.counts.hr) ∧
          log.homeRuns.countP (fun h => h.pitcher == player && h.opponent == team) =
            (pitching.tally.get? ⟨player, team, none⟩).elim 0 (·.counts.hr) := by
  refine ⟨fun g es s b hone hkept side pitcher h => hkept.mans hone side pitcher h, ?_⟩
  intro μ s book outcome logName battingName pitchingName hscan hgames hlog hbatting hpitching
  obtain ⟨log, hfoundLog, hhit⟩ : ∃ log, (s.scan book).1.find Report.homeRuns? logName = .ok log ∧
      log.homeRuns = ((s.selection book).take outcome.games).flatMap Game.homeRuns := by
    obtain ⟨r, r', hr, hwatch, hfound⟩ := find_scan hlog hscan
    obtain rfl : r = .homeRuns {} := by cases r <;> cases hr; rfl
    obtain ⟨log, rfl, hhit⟩ := Report.homeRuns_of_watchGames hwatch
    exact ⟨log, hfound log rfl, hhit⟩
  obtain ⟨batting, batted, hfoundBatting, hbatted, hbattingTally⟩ :=
    find_scan_tallied Report.kind_batting Report.batting?_eq_some hbatting hscan
  obtain ⟨pitching, pitched, hfoundPitching, hpitched, hpitchingTally⟩ :=
    find_scan_tallied Report.kind_pitching Report.pitching?_eq_some hpitching hscan
  refine ⟨log, batting, pitching, hfoundLog, hfoundBatting, hfoundPitching,
    fun player team => ⟨?_, ?_⟩⟩
  · rw [hhit, hbattingTally]
    refine (Register.elim_get?_addGames (fun _ _ => rfl) hbatted fun g hg b hb => ?_).symm
    exact BoxScore.sum_battingLines_hr hb (hgames g hg).2 player team
  · rw [hhit, hpitchingTally]
    refine (Register.elim_get?_addGames (fun _ _ => rfl) hpitched fun g hg b hb => ?_).symm
    exact BoxScore.sum_pitchingLines_hr hb (hgames g hg).1 (hgames g hg).2 player team

/-- Three fresh reports on home runs. -/
def onHomeRuns : Season Report Unit where
  reports := [("log", .homeRuns {}), ("batting", .batting { tally := {} }),
    ("pitching", .pitching { tally := {} })]

/-- A book with one game, in which the pitcher is changed. -/
def relievedBook : Scorebook where
  year := 1914
  games := [BoxScore.relievedGame]

/-- The starter is on the mound when the game is opened, and the home run is off the pitcher who
came in for him. -/
theorem homeRuns_agree_relievedBook :
    (∃ b, BoxScore.ofStarters BoxScore.relievedGame = .ok b ∧
      (b.team .home).currentPitcher?.map PitchingLine.player = some "h1") ∧
    ∃ batting pitching,
      (onHomeRuns.scan relievedBook).1.find Report.batting? "batting" = .ok batting ∧
      (onHomeRuns.scan relievedBook).1.find Report.pitching? "pitching" = .ok pitching ∧
      (batting.tally.get? ⟨"v3", "visitors", none⟩).elim 0 (·.counts.hr) = 1 ∧
      (pitching.tally.get? ⟨"h9", "hosts", none⟩).elim 0 (·.counts.hr) = 1 := by
  obtain ⟨hmound, hseason⟩ := homeRuns_agree
  have hopened : (BoxScore.ofStarters BoxScore.relievedGame).toOption.isSome := by decide +kernel
  have hgames : ∀ g ∈ (onHomeRuns.selection relievedBook).take 1,
      g.OnePitcher ∧ g.CreditsHomeRuns := by decide +kernel
  constructor
  · obtain ⟨b, hb⟩ := Option.isSome_iff_exists.mp hopened
    have hb := toOption_eq_some_iff.mp hb
    exact ⟨b, hb, hmound _ [] _ b (by decide +kernel) (.opened hb) .home "h1" (by decide +kernel)⟩
  · obtain ⟨log, batting, pitching, hlog, hbatting, hpitching, hagree⟩ :=
      hseason Unit onHomeRuns relievedBook (.complete 1) "log" "batting" "pitching"
        (by decide +kernel) hgames rfl rfl rfl
    have hlogged : ((onHomeRuns.scan relievedBook).1.find Report.homeRuns? "log").toOption.map
        (fun log => (log.homeRuns.countP fun h => h.batter == "v3" && h.team == "visitors",
          log.homeRuns.countP fun h => h.pitcher == "h9" && h.opponent == "hosts"))
          = some (1, 1) := by decide +kernel
    rw [hlog] at hlogged
    obtain ⟨hbatter, hpitcher⟩ := Prod.mk.inj (Option.some.inj hlogged)
    exact ⟨batting, pitching, hbatting, hpitching, (hagree "v3" "visitors").1.symm.trans hbatter,
      (hagree "h9" "hosts").2.symm.trans hpitcher⟩

end Season

end Baseball
