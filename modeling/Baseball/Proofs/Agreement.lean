import Baseball.Proofs.Fielding
import Baseball.Proofs.Totals

/-!
# Registers, totals and standings agree

A line of a box score is counted twice in a season: in the register of its kind, under its player,
team and position, and in the totals of its team. The counts that a team has of its own in the
field, and the runs that the game gave it, come a third way. They are told apart by keys that cut
across each other: a player may be traded and play several positions, and a team has many players.

Both ways are reduced to the sides of the games. What the lines of a register weigh is what the
lines weigh that it was made of, and these stand in the box of their own team.

## Main definitions

* `Register.ofTeam` — the lines of a team
* `SeasonTotals.AgreeFor`, `AgreeForLeague` — what five reports say of a team, or of all, is the
  same

## Main results

* `sum_ofTeam` — a sum over the lines of a team is one over its sides
* `teamLine_eq`, `leagueLine_eq` — what the line of a team, or of all teams, comes to
* `Season.totals_agree` — what fresh reports hold after a scan agrees
-/

namespace Baseball

/-- The lines of a team. -/
def Register.ofTeam {L : Type} [StatLine L] (r : Register L) (team : String) : List L :=
  r.toList.filter (StatLine.team · == team)

section Sums

open Keyed

variable {M ν L : Type} [AddCommMonoid M]

/-! Values come from the parts of some whole, each of them of one team. -/

variable {α : Type} {parts : List α} {teamOf : α → String} {team : String}

/-- What a team has gathered, part by part. -/
theorem apply_get?_gather {f : ν → ν → ν} {c : ν → M} (hc : ∀ a b, c (f a b) = c a + c b)
    {value : α → ν} {v : ν}
    (h : (gather f (parts.map fun x => (teamOf x, value x))).get? team = some v) :
    c v = (parts.map fun x => if teamOf x = team then c (value x) else 0).sum := by
  have hsum := sum_foldl_contribute hc ∅ (parts.map fun x => (teamOf x, value x)) team
  rw [get?_empty, Option.elim_none, zero_add, List.map_map] at hsum
  rw [gather] at h
  rw [h, Option.elim_some] at hsum
  exact hsum

variable [StatLine L] [LawfulStatLine L] {w : L → M} {lines : α → List L}

/-- **The lines of a team** weigh what they weigh in its parts, if they stand in these. -/
theorem sum_ofTeam (hw : ∀ a b, w (StatLine.merge a b) = w a + w b)
    (hlines : ∀ x ∈ parts, ∀ l ∈ lines x, StatLine.team l = teamOf x) (team : String) :
    (((Register.ofList (parts.flatMap lines)).ofTeam team).map w).sum =
      (parts.map fun x => if teamOf x = team then ((lines x).map w).sum else 0).sum := by
  refine (Register.sum_toList_ofList hw (·.team == team) (parts.flatMap lines)).trans ?_
  rw [List.filter_flatMap, sum_map_flatMap]
  refine congrArg List.sum (List.map_congr_left fun x hx => ?_)
  split
  · next hteam =>
    have hall : ((lines x).filter fun l => (StatLine.key l).team == team) = lines x :=
      List.filter_eq_self.mpr fun l hl => beq_iff_eq.mpr ((hlines x hx l hl).trans hteam)
    rw [hall]
  · next hteam =>
    have hnone : ((lines x).filter fun l => (StatLine.key l).team == team) = [] :=
      List.filter_eq_nil_iff.mpr fun l hl hsame =>
        hteam ((hlines x hx l hl).symm.trans (beq_iff_eq.mp hsame))
    rw [hnone]
    rfl

variable {empty : String → L}

/-- **What the line of a team weighs**, its lines in the register weigh. -/
theorem teamLine_eq (hw : ∀ a b, w (StatLine.merge a b) = w a + w b) (hempty : ∀ u, w (empty u) = 0)
    (hlines : ∀ x ∈ parts, ∀ l ∈ lines x, StatLine.team l = teamOf x) {l : L}
    (h : (gather StatLine.merge (parts.map fun x =>
      (teamOf x, (lines x).foldl StatLine.merge (empty (teamOf x))))).get? team = some l) :
    w l = (((Register.ofList (parts.flatMap lines)).ofTeam team).map w).sum := by
  rw [sum_ofTeam hw hlines, apply_get?_gather hw h]
  simp only [map_foldl_join hw, hempty, zero_add]

/-- **What the line of all teams weighs**, all lines of the register weigh. -/
theorem leagueLine_eq (hw : ∀ a b, w (StatLine.merge a b) = w a + w b)
    (hempty : ∀ u, w (empty u) = 0) :
    w ((gather StatLine.merge (parts.map fun x =>
      (teamOf x, (lines x).foldl StatLine.merge (empty (teamOf x))))).values.foldl
        StatLine.merge (empty "")) =
      ((Register.ofList (parts.flatMap lines)).toList.map w).sum := by
  have hregister := Register.sum_toList_ofList hw (fun _ => true) (parts.flatMap lines)
  rw [List.filter_true, List.filter_true] at hregister
  have hteams := sum_entries_foldl (fun _ => hw) (∅ : Keyed String L)
    (parts.map fun x => (teamOf x, (lines x).foldl StatLine.merge (empty (teamOf x))))
  rw [map_foldl_join hw, hempty, zero_add, hregister, values, List.map_map]
  refine hteams.trans ((zero_add _).trans ?_)
  rw [List.map_map, sum_map_flatMap]
  simp only [Function.comp_def, map_foldl_join hw, hempty, zero_add]

end Sums

/-! ### What the five reports say of a team -/

namespace SeasonTotals

open Keyed

/-- **The five reports agree on a team**: its batting and its pitching are what its lines in the
registers come to, over the games of any of them; its chances in the field are those of its
fielders; and the runs it has scored and allowed are those of its batting and its pitching. -/
structure AgreeFor (t : SeasonTotals) (team : String) : Prop where
  batting : ∃ l, t.teams.batting.get? team = some l ∧
    l.counts = ((t.batting.ofTeam team).map BattingLine.counts).sum ∧
    l.games = ((t.batting.ofTeam team).map BattingLine.games).foldl IdSet.union ∅
  pitching : ∃ l, t.teams.pitching.get? team = some l ∧
    l.counts = ((t.pitching.ofTeam team).map PitchingLine.counts).sum ∧
    l.games = ((t.pitching.ofTeam team).map PitchingLine.games).foldl IdSet.union ∅
  fielding : ∃ l, t.teams.fielding.get? team = some l ∧
    l.counts.po = ((t.fielding.ofTeam team).map fun k => k.counts.po).sum ∧
    l.counts.a = ((t.fielding.ofTeam team).map fun k => k.counts.a).sum ∧
    l.counts.e = ((t.fielding.ofTeam team).map fun k => k.counts.e).sum ∧
    l.counts.pb = ((t.fielding.ofTeam team).map fun k => k.counts.pb).sum
  record : ∃ r batting pitching, t.standings.record? team = some r ∧
    t.teams.batting.get? team = some batting ∧ t.teams.pitching.get? team = some pitching ∧
    r.counts.rs = batting.counts.r ∧ r.counts.ra = pitching.counts.r

/-- The sides of some games, game by game. -/
def sides (boxes : List BoxScore) : List (BoxScore × Side) :=
  boxes.flatMap fun b => Side.both.map (b, ·)

/-- The box of a side. -/
def boxOf (x : BoxScore × Side) : TeamBox := x.1.team x.2

variable {boxes : List BoxScore} {gs : List Game} {team : String}

/-- Totals of some box scores, side by side. -/
theorem ofBoxes_eq (boxes : List BoxScore) : ofBoxes boxes = {
    batting := .ofList ((sides boxes).flatMap fun x => (boxOf x).battingLines)
    pitching := .ofList ((sides boxes).flatMap fun x => (boxOf x).pitchers)
    fielding := .ofList ((sides boxes).flatMap fun x => (boxOf x).fielders)
    teams := {
      batting := gather BattingLine.merge ((sides boxes).map fun x => (boxOf x).teamBatting)
      pitching := gather PitchingLine.merge ((sides boxes).map fun x => (boxOf x).teamPitching)
      fielding := gather TeamFielding.merge ((sides boxes).map fun x => (boxOf x).teamFielding) }
    standings := ⟨gather TeamRecord.merge ((sides boxes).map fun x => x.1.teamRecord x.2)⟩ } := by
  simp only [sides, List.map_flatMap, List.flatMap_assoc]
  rfl

/-! ### They agree -/

theorem counts_teamBatting (t : TeamBox) : t.teamBatting.2.counts = t.battingTotals :=
  (map_foldl_join (fun _ _ => rfl) ({ player := "", team := t.team } : BattingLine)
    t.battingLines).trans (zero_add _)

theorem counts_teamPitching (t : TeamBox) : t.teamPitching.2.counts = t.pitchingTotals :=
  (map_foldl_join (fun _ _ => rfl) ({ player := "", team := t.team } : PitchingLine)
    t.pitchers).trans (zero_add _)

section Made

variable (hmade : ∀ b ∈ boxes, ∃ g, BoxScore.ofGame g = .ok b)
include hmade

theorem exists_game_of_mem_sides {x : BoxScore × Side} (hx : x ∈ sides boxes) :
    ∃ g, BoxScore.ofGame g = .ok x.1 := by
  obtain ⟨b, hb, hx⟩ := List.mem_flatMap.mp hx
  obtain ⟨side, -, rfl⟩ := List.mem_map.mp hx
  exact hmade b hb

/-- The lines in the box of a side are of its team. -/
theorem headed_boxOf {x : BoxScore × Side} (hx : x ∈ sides boxes) :
    ∃ gameId, (boxOf x).Headed (boxOf x).team gameId := by
  obtain ⟨g, hg⟩ := exists_game_of_mem_sides hmade hx
  have hheaded := BoxScore.headed_ofGame hg x.2
  exact ⟨g.id, hheaded.named.symm ▸ hheaded⟩

/-- Lines that boxes have under their headings are of the team of their box. -/
theorem team_of_headed {L : Type} [StatLine L] {lines : TeamBox → List L}
    (hlines : ∀ {t : TeamBox} {team gameId : String}, t.Headed team gameId →
      ∀ l ∈ lines t, StatLine.team l = team) :
    ∀ x ∈ sides boxes, ∀ l ∈ lines (boxOf x), StatLine.team l = (boxOf x).team := by
  intro x hx
  obtain ⟨gameId, hheaded⟩ := headed_boxOf hmade hx
  exact hlines hheaded

section Lines

variable {M : Type} [AddCommMonoid M]

/-- What is added up of the batting of a team is added up of its lines. -/
theorem batting_eq {w : BattingLine → M} (hw : ∀ a b, w (a.merge b) = w a + w b)
    (hempty : ∀ u, w { player := "", team := u } = 0) {l : BattingLine}
    (h : (ofBoxes boxes).teams.batting.get? team = some l) :
    w l = (((ofBoxes boxes).batting.ofTeam team).map w).sum := by
  rw [ofBoxes_eq] at h ⊢
  exact teamLine_eq hw hempty (team_of_headed hmade fun hb l hl => (hb.battingLines l hl).1) h

/-- What is added up of the pitching of a team is added up of its lines. -/
theorem pitching_eq {w : PitchingLine → M} (hw : ∀ a b, w (a.merge b) = w a + w b)
    (hempty : ∀ u, w { player := "", team := u } = 0) {l : PitchingLine}
    (h : (ofBoxes boxes).teams.pitching.get? team = some l) :
    w l = (((ofBoxes boxes).pitching.ofTeam team).map w).sum := by
  rw [ofBoxes_eq] at h ⊢
  exact teamLine_eq hw hempty (team_of_headed hmade fun hb l hl => (hb.pitching l hl).1) h

end Lines

/-- The chances of a team are those of its lines. -/
theorem chances_eq (c : TeamFieldingCounts →+ Nat) {l : TeamFielding}
    (h : (ofBoxes boxes).teams.fielding.get? team = some l) :
    c l.counts.chances =
      (((ofBoxes boxes).fielding.ofTeam team).map fun k => c k.counts.chances).sum := by
  rw [ofBoxes_eq] at h ⊢
  have hteam := apply_get?_gather (f := TeamFielding.merge)
    (c := fun k : TeamFielding => c k.counts.chances)
    (fun a b => map_add c a.counts.chances b.counts.chances) h
  have hlines := sum_ofTeam (w := fun k : FieldingLine => c k.counts.chances)
    (fun a b => map_add c a.counts.chances b.counts.chances)
    (team_of_headed hmade fun hb l hl => (hb.fielding l hl).1) team
  -- In every game, the chances of a side are those of its fielders.
  have hfielded (x : BoxScore × Side) (hx : x ∈ sides boxes) :
      c (boxOf x).teamFielding.2.counts.chances =
        ((boxOf x).fielders.map fun k => c k.counts.chances).sum := by
    obtain ⟨g, hg⟩ := exists_game_of_mem_sides hmade hx
    have hchances := congrArg c (BoxScore.chances_ofGame hg x.2)
    rw [map_list_sum, List.map_map] at hchances
    have hown : (boxOf x).teamFielding.2.counts = (boxOf x).fielding.counts := zero_add _
    rw [hown]
    exact hchances.symm
  rw [hteam, hlines]
  refine congrArg List.sum (List.map_congr_left fun x hx => ?_)
  exact congrArg (fun n => if (boxOf x).team = team then n else 0) (hfielded x hx)

/-- The runs of a team's record are those of its batting and its pitching. -/
theorem runs_eq {batting : BattingLine} {pitching : PitchingLine} {r : TeamRecord}
    (hbatting : (ofBoxes boxes).teams.batting.get? team = some batting)
    (hpitching : (ofBoxes boxes).teams.pitching.get? team = some pitching)
    (hrecord : (ofBoxes boxes).standings.record? team = some r) :
    r.counts.rs = batting.counts.r ∧ r.counts.ra = pitching.counts.r := by
  rw [ofBoxes_eq] at hbatting hpitching hrecord
  have hr := apply_get?_gather (c := fun l : BattingLine => l.counts.r) (fun _ _ => rfl) hbatting
  have ha := apply_get?_gather (c := fun l : PitchingLine => l.counts.r) (fun _ _ => rfl) hpitching
  have hrs := apply_get?_gather (c := fun r : TeamRecord => r.counts.rs) (fun _ _ => rfl) hrecord
  have hra := apply_get?_gather (c := fun r : TeamRecord => r.counts.ra) (fun _ _ => rfl) hrecord
  -- In every game, the runs of a side are those of its batters and of the pitchers it faced.
  have hscored (x : BoxScore × Side) (hx : x ∈ sides boxes) :
      (x.1.teamRecord x.2).2.counts.rs = (boxOf x).teamBatting.2.counts.r := by
    obtain ⟨g, hg⟩ := exists_game_of_mem_sides hmade hx
    have hbatted := (BoxScore.doubleEntry_ofGame hg x.2).battingRuns
    rw [counts_teamBatting, boxOf, hbatted]
    exact (zero_add _).trans (RecordCounts.rs_ofGame ..)
  have hallowed (x : BoxScore × Side) (hx : x ∈ sides boxes) :
      (x.1.teamRecord x.2).2.counts.ra = (boxOf x).teamPitching.2.counts.r := by
    obtain ⟨g, hg⟩ := exists_game_of_mem_sides hmade hx
    have hpitched := (BoxScore.doubleEntry_ofGame hg x.2.opponent).pitchingRuns
    rw [Side.opponent_opponent] at hpitched
    rw [counts_teamPitching, boxOf, hpitched]
    exact (zero_add _).trans (RecordCounts.ra_ofGame ..)
  rw [hr, ha, hrs, hra]
  constructor
  · refine congrArg List.sum (List.map_congr_left fun x hx => ?_)
    exact congrArg (fun n => if (boxOf x).team = team then n else 0) (hscored x hx)
  · refine congrArg List.sum (List.map_congr_left fun x hx => ?_)
    exact congrArg (fun n => if (boxOf x).team = team then n else 0) (hallowed x hx)

/-- **The five reports agree** on every team that played. -/
theorem agreeFor_ofBoxes (hteam : team ∈ (sides boxes).map fun x => (boxOf x).team) :
    (ofBoxes boxes).AgreeFor team := by
  have hbound {ν : Type} (f : ν → ν → ν) (value : BoxScore × Side → ν) :
      ∃ v, (gather f ((sides boxes).map fun x => ((boxOf x).team, value x))).get? team = some v := by
    refine Keyed.exists_get?_gather ?_
    rwa [List.map_map]
  obtain ⟨batting, hbatting⟩ : ∃ l, (ofBoxes boxes).teams.batting.get? team = some l := by
    rw [ofBoxes_eq]
    exact hbound BattingLine.merge fun x => (boxOf x).teamBatting.2
  obtain ⟨pitching, hpitching⟩ : ∃ l, (ofBoxes boxes).teams.pitching.get? team = some l := by
    rw [ofBoxes_eq]
    exact hbound PitchingLine.merge fun x => (boxOf x).teamPitching.2
  obtain ⟨fielding, hfielding⟩ : ∃ l, (ofBoxes boxes).teams.fielding.get? team = some l := by
    rw [ofBoxes_eq]
    exact hbound TeamFielding.merge fun x => (boxOf x).teamFielding.2
  obtain ⟨r, hrecord⟩ : ∃ r, (ofBoxes boxes).standings.record? team = some r := by
    rw [ofBoxes_eq]
    exact hbound TeamRecord.merge fun x => (x.1.teamRecord x.2).2
  constructor
  case batting =>
    refine ⟨batting, hbatting, batting_eq hmade (fun _ _ => rfl) (fun _ => rfl) hbatting, ?_⟩
    rw [← IdSet.sum_eq_foldl]
    exact batting_eq hmade (fun _ _ => rfl) (fun _ => rfl) hbatting
  case pitching =>
    refine ⟨pitching, hpitching, pitching_eq hmade (fun _ _ => rfl) (fun _ => rfl) hpitching, ?_⟩
    rw [← IdSet.sum_eq_foldl]
    exact pitching_eq hmade (fun _ _ => rfl) (fun _ => rfl) hpitching
  case fielding =>
    exact ⟨fielding, hfielding,
      chances_eq hmade ⟨⟨TeamFieldingCounts.po, rfl⟩, fun _ _ => rfl⟩ hfielding,
      chances_eq hmade ⟨⟨TeamFieldingCounts.a, rfl⟩, fun _ _ => rfl⟩ hfielding,
      chances_eq hmade ⟨⟨TeamFieldingCounts.e, rfl⟩, fun _ _ => rfl⟩ hfielding,
      chances_eq hmade ⟨⟨TeamFieldingCounts.pb, rfl⟩, fun _ _ => rfl⟩ hfielding⟩
  case record =>
    exact ⟨r, batting, pitching, hrecord, hbatting, hpitching,
      runs_eq hmade hbatting hpitching hrecord⟩

end Made

section League

variable {M : Type} [AddCommMonoid M]

/-- What is added up of the batting of all teams is added up of all lines. -/
theorem leagueBatting_eq {w : BattingLine → M} (hw : ∀ a b, w (a.merge b) = w a + w b)
    (hempty : ∀ u, w { player := "", team := u } = 0) (boxes : List BoxScore) :
    w (ofBoxes boxes).teams.leagueBatting = ((ofBoxes boxes).batting.toList.map w).sum := by
  rw [ofBoxes_eq]
  exact leagueLine_eq hw hempty

/-- What is added up of the pitching of all teams is added up of all lines. -/
theorem leaguePitching_eq {w : PitchingLine → M} (hw : ∀ a b, w (a.merge b) = w a + w b)
    (hempty : ∀ u, w { player := "", team := u } = 0) (boxes : List BoxScore) :
    w (ofBoxes boxes).teams.leaguePitching = ((ofBoxes boxes).pitching.toList.map w).sum := by
  rw [ofBoxes_eq]
  exact leagueLine_eq hw hempty

/-- **They agree on all teams together**: the batting and the pitching of the league are what all
lines of the registers come to. -/
structure AgreeForLeague (t : SeasonTotals) : Prop where
  battingCounts : t.teams.leagueBatting.counts = (t.batting.toList.map BattingLine.counts).sum
  battingGames : t.teams.leagueBatting.games =
    (t.batting.toList.map BattingLine.games).foldl IdSet.union ∅
  pitchingCounts : t.teams.leaguePitching.counts = (t.pitching.toList.map PitchingLine.counts).sum
  pitchingGames : t.teams.leaguePitching.games =
    (t.pitching.toList.map PitchingLine.games).foldl IdSet.union ∅

theorem agreeForLeague_ofBoxes (boxes : List BoxScore) : (ofBoxes boxes).AgreeForLeague where
  battingCounts := leagueBatting_eq (fun _ _ => rfl) (fun _ => rfl) boxes
  battingGames := by
    rw [← IdSet.sum_eq_foldl]
    exact leagueBatting_eq (fun _ _ => rfl) (fun _ => rfl) boxes
  pitchingCounts := leaguePitching_eq (fun _ _ => rfl) (fun _ => rfl) boxes
  pitchingGames := by
    rw [← IdSet.sum_eq_foldl]
    exact leaguePitching_eq (fun _ _ => rfl) (fun _ => rfl) boxes

end League

end SeasonTotals

namespace Season

variable {μ : Type}

/-- **Registers, totals and standings agree.** After a scan that did not fail into five fresh
reports, these agree on every team that played in a game the scan came to, and on the league. -/
theorem totals_agree (s : Season Report μ) (book : Scorebook) (outcome : ScanOutcome)
    (names : TotalsNames) (hscan : (s.scan book).2 = .ok outcome) (hfresh : s.Holds names {}) :
    ∃ t, (s.scan book).1.Holds names t ∧ t.AgreeForLeague ∧
      ∀ g ∈ (s.selection book).take outcome.games, ∀ side, t.AgreeFor (g.team side) := by
  obtain ⟨hmade, hholds⟩ := hfresh.scan hscan rfl
  refine ⟨_, hholds, SeasonTotals.agreeForLeague_ofBoxes _, fun g hg side => ?_⟩
  obtain ⟨b, hb⟩ := hmade g hg
  refine SeasonTotals.agreeFor_ofBoxes ?_ ?_
  · intro c hc
    obtain ⟨k, -, hk⟩ := List.mem_filterMap.mp hc
    exact ⟨k, toOption_eq_some_iff.mp hk⟩
  · have hmem : b ∈ ((s.selection book).take outcome.games).filterMap
        fun g => (BoxScore.ofGame g).toOption :=
      List.mem_filterMap.mpr ⟨g, hg, toOption_eq_some_iff.mpr hb⟩
    refine List.mem_map.mpr ⟨(b, side), ?_, (BoxScore.headed_ofGame hb side).named⟩
    exact List.mem_flatMap.mpr ⟨b, hmem, List.mem_map_of_mem (Side.mem_both side)⟩

/-- They agree on both teams after two games, in one of which the hosts changed their pitcher. -/
theorem totals_agree_twoGames : ∃ t,
    (forTotals.scan { year := 1914, games := twoGames }).1.Holds
      ⟨"batting", "pitching", "fielding", "teams", "standings"⟩ t ∧
    t.AgreeFor "visitors" ∧ t.AgreeFor "hosts" := by
  obtain ⟨t, ht, -, hteams⟩ := totals_agree forTotals { year := 1914, games := twoGames }
    (.complete 2) ⟨"batting", "pitching", "fielding", "teams", "standings"⟩ (by decide +kernel)
    ⟨⟨_, rfl, rfl⟩, ⟨_, rfl, rfl⟩, ⟨_, rfl, rfl⟩, ⟨_, rfl, rfl⟩, ⟨_, rfl, rfl⟩⟩
  have hshort : BoxScore.shortGame ∈
      (forTotals.selection { year := 1914, games := twoGames }).take 2 := by decide +kernel
  exact ⟨t, ht, hteams _ hshort .visitor, hteams _ hshort .home⟩

end Season

end Baseball
