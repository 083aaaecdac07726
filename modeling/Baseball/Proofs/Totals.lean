import Baseball.Proofs.DoubleEntry
import Baseball.Proofs.Gathering
import Baseball.Proofs.Mound
import Baseball.Proofs.Scan

/-!
# Totals of a season

Five reports add up a season: the registers of batting, pitching and fielding, the totals of the
teams, and the standings. Each takes the box score of a game apart into lines under keys and brings
them into its tables. So what it has in the end can be said without a scan: it is the table of all
lines of all box scores. From this form the order of the games and their division into groups can be
read off, whatever players, teams and positions the games share.

A team's line begins empty and the lines of a box are merged into it one by one. Since merging is
associative this is the same as to merge them among themselves first, which makes a team's line in a
game a value like the others.

## Main definitions

* `SeasonTotals` — what the five reports hold
* `SeasonTotals.combine` — totals of two groups of games, joined line by line
* `SeasonTotals.ofBoxes` — the tables of all lines of some box scores
* `Season.Scanned` — the totals to which a scan of some games comes

## Main results

* `SeasonTotals.ofBoxes_append`, `ofBoxes_perm` — groups of games, and another order
* `Season.scanned_iff` — the totals that a scan leaves
* `Season.totals_independent` — they depend neither on the order nor on the grouping of the games
-/

namespace Baseball

/-! ### Lines of teams -/

theorem BattingLine.merge_empty (l : BattingLine) (player team : String) :
    l.merge { player, team } = l := rfl

theorem PitchingLine.merge_empty (l : PitchingLine) (player team : String) :
    l.merge { player, team } = l := rfl

theorem TeamFielding.merge_assoc (a b c : TeamFielding) :
    (a.merge b).merge c = a.merge (b.merge c) :=
  TeamFielding.ext rfl (IdSet.union_assoc ..) (TeamFieldingCounts.add_assoc ..)

theorem TeamFielding.merge_comm {a b : TeamFielding} (h : a.team = b.team) :
    a.merge b = b.merge a :=
  TeamFielding.ext h (IdSet.union_comm ..) (TeamFieldingCounts.add_comm ..)

theorem TeamRecord.merge_assoc (a b c : TeamRecord) : (a.merge b).merge c = a.merge (b.merge c) :=
  TeamRecord.ext rfl (RecordCounts.add_assoc ..)

theorem TeamRecord.merge_comm {a b : TeamRecord} (h : a.team = b.team) : a.merge b = b.merge a :=
  TeamRecord.ext h (RecordCounts.add_comm ..)

instance : Std.Associative BattingLine.merge := ⟨LawfulStatLine.merge_assoc⟩

instance : Std.Associative PitchingLine.merge := ⟨LawfulStatLine.merge_assoc⟩

instance : Std.Associative TeamFielding.merge := ⟨TeamFielding.merge_assoc⟩

instance : Std.Associative TeamRecord.merge := ⟨TeamRecord.merge_assoc⟩

namespace TeamBox

/-- The batting of a team in a game, as one line under the team. -/
def teamBatting (t : TeamBox) : String × BattingLine :=
  (t.team, t.battingLines.foldl BattingLine.merge { player := "", team := t.team })

/-- The pitching of a team in a game. -/
def teamPitching (t : TeamBox) : String × PitchingLine :=
  (t.team, t.pitchers.foldl PitchingLine.merge { player := "", team := t.team })

/-- The fielding of a team in a game. -/
def teamFielding (t : TeamBox) : String × TeamFielding :=
  (t.team, [t.fielding].foldl TeamFielding.merge { team := t.team })

end TeamBox

/-- The record of a team after one game. -/
def BoxScore.teamRecord (b : BoxScore) (side : Side) : String × TeamRecord :=
  let team := (b.team side).team
  (team, ({ team } : TeamRecord).addGame side (b.team side).runs (b.team side.opponent).runs
    b.innings)

section Contributions

open Keyed

/-- Lines that are merged one by one into a line that begins empty are merged among themselves
first. -/
theorem Keyed.upsert_foldl {ν : Type} {f : ν → ν → ν} [Std.Associative f] (t : Keyed String ν)
    (k : String) {e : ν} (he : ∀ v, f v e = v) (vs : List ν) :
    t.upsert k (fun old => vs.foldl f (old.getD e)) = t.contribute f (k, vs.foldl f e) := by
  refine congrArg (t.upsert k) (funext fun old => ?_)
  cases old with
  | none => rfl
  | some v =>
    have hassoc : vs.foldl f (f v e) = f v (vs.foldl f e) := List.foldl_assoc
    rw [he] at hassoc
    exact hassoc

/-- A table of a tally to which every box score contributes has the contributions of all. -/
theorem GameTally.addGames_table {τ κ ν : Type} [GameTally τ] [Ord κ] [Std.TransOrd κ]
    {f : ν → ν → ν} {table : τ → Keyed κ ν} {entries : BoxScore → List (κ × ν)}
    (hbox : ∀ t g b, table (addBox t g b) = (entries b).foldl (contribute f) (table t)) (t : τ)
    (played : List (Game × BoxScore)) :
    table (addGames t played) =
      ((played.map Prod.snd).flatMap entries).foldl (contribute f) (table t) := by
  induction played generalizing t with
  | nil => rfl
  | cons gb played ih =>
    rw [List.map_cons, List.flatMap_cons, List.foldl_append, ← hbox t gb.1]
    exact ih _

variable (t : TeamTotals) (g : Game) (b : BoxScore)

theorem TeamTotals.batting_addBox : (GameTally.addBox t g b).batting =
    (b.teams.toList.map TeamBox.teamBatting).foldl (contribute BattingLine.merge) t.batting := by
  rw [List.foldl_map]
  refine (List.foldl_hom TeamTotals.batting fun t box => ?_).symm
  exact (upsert_foldl _ _ (fun l => l.merge_empty "" box.team) _).symm

theorem TeamTotals.pitching_addBox : (GameTally.addBox t g b).pitching =
    (b.teams.toList.map TeamBox.teamPitching).foldl (contribute PitchingLine.merge) t.pitching := by
  rw [List.foldl_map]
  refine (List.foldl_hom TeamTotals.pitching fun t box => ?_).symm
  exact (upsert_foldl _ _ (fun l => l.merge_empty "" box.team) _).symm

theorem TeamTotals.fielding_addBox : (GameTally.addBox t g b).fielding =
    (b.teams.toList.map TeamBox.teamFielding).foldl (contribute TeamFielding.merge) t.fielding := by
  rw [List.foldl_map]
  refine (List.foldl_hom TeamTotals.fielding fun t box => ?_).symm
  exact (upsert_foldl _ _ (fun _ => rfl) [box.fielding]).symm

theorem Standings.records_addBox (s : Standings) (g : Game) (b : BoxScore) :
    (GameTally.addBox s g b).records =
      (Side.both.map b.teamRecord).foldl (contribute TeamRecord.merge) s.records := by
  rw [List.foldl_map]
  refine (List.foldl_hom Standings.records fun s side => ?_).symm
  exact (upsert_foldl (f := TeamRecord.merge) _ _ (fun _ => rfl)
    [⟨(b.team side).team,
      .ofGame side (b.team side).runs (b.team side.opponent).runs b.innings⟩]).symm

end Contributions

/-! ### Totals -/

/-- What the five reports hold that add up a season. -/
@[ext]
structure SeasonTotals where
  batting : Register BattingLine := {}
  pitching : Register PitchingLine := {}
  fielding : Register FieldingLine := {}
  teams : TeamTotals := {}
  standings : Standings := {}

namespace SeasonTotals

open Keyed

variable {as bs : List BoxScore}

/-- Totals of two groups of games: the lines of the second are added to the registers of the first,
and the lines and records of its teams are merged in. -/
def combine (t u : SeasonTotals) : SeasonTotals where
  batting := t.batting.addAll u.batting.toList
  pitching := t.pitching.addAll u.pitching.toList
  fielding := t.fielding.addAll u.fielding.toList
  teams := {
    batting := t.teams.batting.merge BattingLine.merge u.teams.batting
    pitching := t.teams.pitching.merge PitchingLine.merge u.teams.pitching
    fielding := t.teams.fielding.merge TeamFielding.merge u.teams.fielding }
  standings := ⟨t.standings.records.merge TeamRecord.merge u.standings.records⟩

/-- The tables of all lines of some box scores. -/
def ofBoxes (boxes : List BoxScore) : SeasonTotals where
  batting := .ofList (boxes.flatMap BoxScore.battingLines)
  pitching := .ofList (boxes.flatMap BoxScore.pitchingLines)
  fielding := .ofList (boxes.flatMap BoxScore.fieldingLines)
  teams := {
    batting := gather BattingLine.merge
      (boxes.flatMap fun b => b.teams.toList.map TeamBox.teamBatting)
    pitching := gather PitchingLine.merge
      (boxes.flatMap fun b => b.teams.toList.map TeamBox.teamPitching)
    fielding := gather TeamFielding.merge
      (boxes.flatMap fun b => b.teams.toList.map TeamBox.teamFielding) }
  standings := ⟨gather TeamRecord.merge (boxes.flatMap fun b => Side.both.map b.teamRecord)⟩

/-- **Groups of games.** -/
theorem ofBoxes_append (as bs : List BoxScore) :
    ofBoxes (as ++ bs) = (ofBoxes as).combine (ofBoxes bs) := by
  simp only [ofBoxes, List.flatMap_append, Register.ofList_append, gather_append]
  rfl

theorem ofBoxes_flatten (groups : List (List BoxScore)) :
    ofBoxes groups.flatten = (groups.map ofBoxes).foldl combine {} := by
  have hgroups (as : List BoxScore) : ofBoxes (as ++ groups.flatten) =
      (groups.map ofBoxes).foldl combine (ofBoxes as) := by
    induction groups generalizing as with
    | nil => exact congrArg ofBoxes (List.append_nil as)
    | cons bs groups ih =>
      rw [List.flatten_cons, ← List.append_assoc, ih, List.map_cons, List.foldl_cons,
        ofBoxes_append]
  exact hgroups []

/-- What the box scores contribute to a table may come in another order, if contributions under one
key can be joined either way. -/
theorem gather_flatMap_perm {ν : Type} {f : ν → ν → ν} [Std.Associative f] {P : String × ν → Prop}
    (entries : BoxScore → List (String × ν)) (hP : ∀ b, ∀ e ∈ entries b, P e)
    (hcomm : ∀ d e, P d → P e → d.1 = e.1 → f d.2 e.2 = f e.2 d.2) (h : as.Perm bs) :
    gather f (as.flatMap entries) = gather f (bs.flatMap entries) := by
  have hall {e : String × ν} (he : e ∈ as.flatMap entries) : P e := by
    obtain ⟨b, -, hb⟩ := List.mem_flatMap.mp he
    exact hP b e hb
  exact gather_perm (fun d hd e he => hcomm d e (hall hd) (hall he)) (h.flatMap_right entries)

/-- What is merged into a line has the key of that line. -/
theorem key_foldl_merge {L : Type} [StatLine L] [LawfulStatLine L] (l : L) (ls : List L) :
    StatLine.key (ls.foldl StatLine.merge l) = StatLine.key l := by
  induction ls generalizing l with
  | nil => rfl
  | cons k ls ih => exact (ih _).trans (LawfulStatLine.key_merge l k)

/-- **Another order of games.** -/
theorem ofBoxes_perm (h : as.Perm bs) : ofBoxes as = ofBoxes bs := by
  -- Each contribution is a line of its team, and lines of one team can be merged either way.
  have hbatting := gather_flatMap_perm (f := BattingLine.merge)
    (P := fun e => StatLine.key e.2 = ⟨"", e.1, none⟩)
    (fun b => b.teams.toList.map TeamBox.teamBatting)
    (fun _ => List.forall_mem_map.mpr fun box _ => key_foldl_merge _ box.battingLines)
    (fun _ _ hd he hk => LawfulStatLine.merge_comm (hd.trans (hk ▸ he.symm))) h
  have hpitching := gather_flatMap_perm (f := PitchingLine.merge)
    (P := fun e => StatLine.key e.2 = ⟨"", e.1, none⟩)
    (fun b => b.teams.toList.map TeamBox.teamPitching)
    (fun _ => List.forall_mem_map.mpr fun box _ => key_foldl_merge _ box.pitchers)
    (fun _ _ hd he hk => LawfulStatLine.merge_comm (hd.trans (hk ▸ he.symm))) h
  have hfielding := gather_flatMap_perm (f := TeamFielding.merge) (P := fun e => e.2.team = e.1)
    (fun b => b.teams.toList.map TeamBox.teamFielding)
    (fun _ => List.forall_mem_map.mpr fun _ _ => rfl)
    (fun _ _ hd he hk => TeamFielding.merge_comm (hd.trans (hk ▸ he.symm))) h
  have hrecords := gather_flatMap_perm (f := TeamRecord.merge) (P := fun e => e.2.team = e.1)
    (fun b => Side.both.map b.teamRecord)
    (fun _ => List.forall_mem_map.mpr fun _ _ => rfl)
    (fun _ _ hd he hk => TeamRecord.merge_comm (hd.trans (hk ▸ he.symm))) h
  rw [ofBoxes, ofBoxes, hbatting, hpitching, hfielding, hrecords,
    Register.ofList_perm (h.flatMap_right BoxScore.battingLines),
    Register.ofList_perm (h.flatMap_right BoxScore.pitchingLines),
    Register.ofList_perm (h.flatMap_right BoxScore.fieldingLines)]

/-- The totals of some games. -/
def ofGames (gs : List Game) : SeasonTotals :=
  ofBoxes (gs.filterMap fun g => (BoxScore.ofGame g).toOption)

end SeasonTotals

/-! ### Scans -/

/-- The names under which five reports are registered. -/
structure TotalsNames where
  batting : String
  pitching : String
  fielding : String
  teams : String
  standings : String

namespace Season

variable {μ : Type} {s : Season Report μ} {book : Scorebook} {outcome : ScanOutcome}
  {names : TotalsNames} {t u : SeasonTotals} {gs : List Game}

/-- The reports of a season under some names hold these totals. -/
structure Holds (s : Season Report μ) (names : TotalsNames) (t : SeasonTotals) : Prop where
  batting : ∃ u, s.find Report.batting? names.batting = .ok u ∧ u.tally = t.batting
  pitching : ∃ u, s.find Report.pitching? names.pitching = .ok u ∧ u.tally = t.pitching
  fielding : ∃ u, s.find Report.fielding? names.fielding = .ok u ∧ u.tally = t.fielding
  teams : ∃ u, s.find Report.totals? names.teams = .ok u ∧ u.tally = t.teams
  standings : ∃ u, s.find Report.standings? names.standings = .ok u ∧ u.tally = t.standings

/-- **The totals to which a scan of some games comes.** Some season was scanned and did not fail;
the scan came to exactly these games, whatever chose them; and five reports that were fresh before
it, whatever other reports there were, hold these totals after it. -/
def Scanned (gs : List Game) (t : SeasonTotals) : Prop :=
  ∃ (μ : Type) (s : Season Report μ) (book : Scorebook) (outcome : ScanOutcome)
    (names : TotalsNames), (s.scan book).2 = .ok outcome ∧
      (s.selection book).take outcome.games = gs ∧ s.Holds names {} ∧ (s.scan book).1.Holds names t

theorem tally_unique {α : Type} {view : Report → Option (Tallied α)} {name : String} {a b : α}
    (ha : ∃ u, s.find view name = .ok u ∧ u.tally = a)
    (hb : ∃ u, s.find view name = .ok u ∧ u.tally = b) : a = b := by
  obtain ⟨u, hu, rfl⟩ := ha
  obtain ⟨v, hv, rfl⟩ := hb
  rw [Except.ok.inj (hu.symm.trans hv)]

theorem Holds.unique (ht : s.Holds names t) (hu : s.Holds names u) : t = u :=
  SeasonTotals.ext (tally_unique ht.batting hu.batting) (tally_unique ht.pitching hu.pitching)
    (tally_unique ht.fielding hu.fielding) (tally_unique ht.teams hu.teams)
    (tally_unique ht.standings hu.standings)

/-- The box scores of games that all have one. -/
theorem filterMap_of_forall₂ {boxes : List BoxScore}
    (h : List.Forall₂ (fun g b => BoxScore.ofGame g = .ok b) gs boxes) :
    (∀ g ∈ gs, ∃ b, BoxScore.ofGame g = .ok b) ∧
      (gs.zip boxes).map Prod.snd = gs.filterMap fun g => (BoxScore.ofGame g).toOption := by
  induction h with
  | nil => exact ⟨fun _ hg => (nomatch hg), rfl⟩
  | @cons g b gs boxes hb _ ih =>
    refine ⟨List.forall_mem_cons.mpr ⟨⟨b, hb⟩, ih.1⟩, ?_⟩
    have hoption : (BoxScore.ofGame g).toOption = some b := toOption_eq_some_iff.mpr hb
    rw [List.zip_cons_cons, List.map_cons, ih.2, List.filterMap_cons, hoption]

/-- What a fresh tally has after a scan. -/
theorem exists_tally_scan {α : Type} [GameTally α] {c : Tallied α → Report}
    {kind : α → Report.Tally} {view : Report → Option (Tallied α)} {name : String} {a : α}
    (hkind : Report.Kind c kind) (hview : ∀ {r u}, view r = some u ↔ r = c u)
    (hscan : (s.scan book).2 = .ok outcome) (hgs : (s.selection book).take outcome.games = gs)
    (h : ∃ u, s.find view name = .ok u ∧ u.tally = a) :
    (∀ g ∈ gs, ∃ b, BoxScore.ofGame g = .ok b) ∧ ∃ played : List (Game × BoxScore),
      played.map Prod.snd = gs.filterMap (fun g => (BoxScore.ofGame g).toOption) ∧
        ∃ u, (s.scan book).1.find view name = .ok u ∧ u.tally = GameTally.addGames a played := by
  obtain ⟨u, hfind, rfl⟩ := h
  obtain ⟨u', boxes, hfound, hboxes, htally⟩ := find_scan_tallied hkind hview hfind hscan
  rw [hgs] at hboxes htally
  obtain ⟨hmade, hplayed⟩ := filterMap_of_forall₂ hboxes
  exact ⟨hmade, _, hplayed, u', hfound, htally⟩

/-- What a fresh register has after a scan: the lines of all box scores. -/
theorem exists_register_scan {L : Type} [StatLine L] {c : Tallied (Register L) → Report}
    {kind : Register L → Report.Tally} {view : Report → Option (Tallied (Register L))}
    {name : String} (hkind : Report.Kind c kind) (hview : ∀ {r u}, view r = some u ↔ r = c u)
    (hscan : (s.scan book).2 = .ok outcome) (hgs : (s.selection book).take outcome.games = gs)
    (h : ∃ u, s.find view name = .ok u ∧ u.tally = {}) :
    ∃ u, (s.scan book).1.find view name = .ok u ∧ u.tally = .ofList
      ((gs.filterMap fun g => (BoxScore.ofGame g).toOption).flatMap StatLine.ofBox) := by
  obtain ⟨-, played, hplayed, u, hfound, htally⟩ := exists_tally_scan hkind hview hscan hgs h
  refine ⟨u, hfound, ?_⟩
  rw [htally, Register.addGames_eq, hplayed]
  rfl

/-- **What five fresh reports hold after a scan.** -/
theorem Holds.scan (h : s.Holds names {}) (hscan : (s.scan book).2 = .ok outcome)
    (hgs : (s.selection book).take outcome.games = gs) :
    (∀ g ∈ gs, ∃ b, BoxScore.ofGame g = .ok b) ∧ (s.scan book).1.Holds names (.ofGames gs) := by
  obtain ⟨hmade, played, hplayed, teams, hteams, hteamsTally⟩ :=
    exists_tally_scan Report.kind_totals Report.totals?_eq_some hscan hgs h.teams
  obtain ⟨-, played', hplayed', standings, hstandings, hstandingsTally⟩ :=
    exists_tally_scan Report.kind_standings Report.standings?_eq_some hscan hgs h.standings
  refine ⟨hmade, ?_⟩
  constructor
  case batting =>
    exact exists_register_scan Report.kind_batting Report.batting?_eq_some hscan hgs h.batting
  case pitching =>
    exact exists_register_scan Report.kind_pitching Report.pitching?_eq_some hscan hgs h.pitching
  case fielding =>
    exact exists_register_scan Report.kind_fielding Report.fielding?_eq_some hscan hgs h.fielding
  case teams =>
    refine ⟨teams, hteams, ?_⟩
    rw [hteamsTally, SeasonTotals.ofGames, ← hplayed]
    exact TeamTotals.ext (GameTally.addGames_table TeamTotals.batting_addBox {} played)
      (GameTally.addGames_table TeamTotals.pitching_addBox {} played)
      (GameTally.addGames_table TeamTotals.fielding_addBox {} played)
  case standings =>
    refine ⟨standings, hstandings, ?_⟩
    rw [hstandingsTally, SeasonTotals.ofGames, ← hplayed']
    exact Standings.ext (GameTally.addGames_table Standings.records_addBox {} played')

/-- A season with the five reports, all fresh. -/
def forTotals : Season Report Unit where
  reports := [("batting", .batting { tally := {} }), ("pitching", .pitching { tally := {} }),
    ("fielding", .fielding { tally := {} }), ("teams", .totals { tally := {} }),
    ("standings", .standings { tally := {} })]

/-- **The totals that a scan leaves**, and when there is a scan. -/
theorem scanned_iff :
    Scanned gs t ↔ (∀ g ∈ gs, ∃ b, BoxScore.ofGame g = .ok b) ∧ t = .ofGames gs := by
  constructor
  · rintro ⟨μ, s, book, outcome, names, hscan, hgs, hfresh, hholds⟩
    obtain ⟨hmade, hscanned⟩ := hfresh.scan hscan hgs
    exact ⟨hmade, hholds.unique hscanned⟩
  · rintro ⟨hmade, rfl⟩
    let book : Scorebook := { year := 0, games := gs }
    have hselection : forTotals.selection book = gs := List.filter_eq_self.mpr fun _ _ => rfl
    have hfresh : forTotals.Holds ⟨"batting", "pitching", "fielding", "teams", "standings"⟩ {} :=
      ⟨⟨_, rfl, rfl⟩, ⟨_, rfl, rfl⟩, ⟨_, rfl, rfl⟩, ⟨_, rfl, rfl⟩, ⟨_, rfl, rfl⟩⟩
    have htally : ∀ r ∈ forTotals.reports.map Prod.snd, r.tally?.isSome := by
      simp [forTotals, Report.tally?]
    obtain ⟨rs, hrs⟩ := Report.exists_watchGames htally hmade
    have hscan : (forTotals.scan book).2 = .ok (.complete gs.length) := by
      rw [scan, hselection]
      exact scanFrom_complete rfl hrs 0 gs.length
    have htake : (forTotals.selection book).take gs.length = gs := by
      rw [hselection, List.take_length]
    exact ⟨Unit, forTotals, book, _, _, hscan, htake, hfresh, (hfresh.scan hscan htake).2⟩

/-- Scans of several groups of games. -/
theorem forall₂_scanned_iff {groups : List (List Game)} {ts : List SeasonTotals} :
    List.Forall₂ Scanned groups ts ↔
      (∀ g ∈ groups.flatten, ∃ b, BoxScore.ofGame g = .ok b) ∧ ts = groups.map .ofGames := by
  induction groups generalizing ts with
  | nil => simp
  | cons gs groups ih =>
    rw [List.forall₂_cons_left_iff]
    simp only [ih, scanned_iff, List.flatten_cons, List.forall_mem_append, List.map_cons]
    constructor
    · rintro ⟨t, ts, ⟨hgs, rfl⟩, ⟨hgroups, rfl⟩, rfl⟩
      exact ⟨⟨hgs, hgroups⟩, rfl⟩
    · rintro ⟨⟨hgs, hgroups⟩, rfl⟩
      exact ⟨_, _, ⟨hgs, rfl⟩, ⟨hgroups, rfl⟩, rfl⟩

/-- **Totals depend neither on the order nor on the grouping of the games.** If each of some games
can be scanned, so can all of them, in any order, and every scan comes to the same totals; and
however the games are divided into groups, the groups can be scanned, and the totals of the groups
combine to the same totals. -/
theorem totals_independent (hgs : ∀ g ∈ gs, ∃ t, Scanned [g] t) :
    ∃ t, (∀ gs', gs.Perm gs' → ∀ t', Scanned gs' t' ↔ t' = t) ∧
      ∀ groups : List (List Game), groups.flatten.Perm gs →
        (∃ ts, List.Forall₂ Scanned groups ts) ∧
        ∀ ts, List.Forall₂ Scanned groups ts → ts.foldl SeasonTotals.combine {} = t := by
  have hmade : ∀ g ∈ gs, ∃ b, BoxScore.ofGame g = .ok b := by
    intro g hg
    obtain ⟨t, ht⟩ := hgs g hg
    exact (scanned_iff.mp ht).1 g (List.mem_singleton_self g)
  refine ⟨.ofGames gs, fun gs' hperm t' => ?_, fun groups hperm => ?_⟩
  · have hmade' : ∀ g ∈ gs', ∃ b, BoxScore.ofGame g = .ok b :=
      fun g hg => hmade g (hperm.mem_iff.mpr hg)
    have htotals : SeasonTotals.ofGames gs = .ofGames gs' :=
      SeasonTotals.ofBoxes_perm (hperm.filterMap _)
    rw [scanned_iff, htotals]
    exact ⟨And.right, fun h => ⟨hmade', h⟩⟩
  · have hmade' : ∀ g ∈ groups.flatten, ∃ b, BoxScore.ofGame g = .ok b :=
      fun g hg => hmade g (hperm.mem_iff.mp hg)
    refine ⟨⟨_, forall₂_scanned_iff.mpr ⟨hmade', rfl⟩⟩, fun ts hts => ?_⟩
    obtain ⟨-, rfl⟩ := forall₂_scanned_iff.mp hts
    have hgroups : groups.map SeasonTotals.ofGames = (groups.map fun gs =>
        gs.filterMap fun g => (BoxScore.ofGame g).toOption).map .ofBoxes := by
      rw [List.map_map]
      rfl
    rw [hgroups, ← SeasonTotals.ofBoxes_flatten, ← List.filterMap_flatten]
    exact SeasonTotals.ofBoxes_perm (hperm.filterMap _)

/-- Two games of the same teams and players. -/
def twoGames : List Game := [BoxScore.shortGame, BoxScore.relievedGame]

/-- They come to the same totals forwards, backwards and one by one, and a batter who played in both
has one line. -/
theorem totals_independent_twoGames : ∃ t, Scanned twoGames t ∧ Scanned twoGames.reverse t ∧
    (t.batting.get? ⟨"v1", "visitors", none⟩).map (·.games.toList) = some ["relieved", "short"] ∧
    ∃ ts, List.Forall₂ Scanned (twoGames.map ([·])) ts ∧ ts.foldl SeasonTotals.combine {} = t := by
  have hmade : ∀ g ∈ twoGames, ∃ b, BoxScore.ofGame g = .ok b := by
    have hsome : ∀ g ∈ twoGames, (BoxScore.ofGame g).toOption.isSome := by decide +kernel
    intro g hg
    obtain ⟨b, hb⟩ := Option.isSome_iff_exists.mp (hsome g hg)
    exact ⟨b, toOption_eq_some_iff.mp hb⟩
  have hscanned : ∀ g ∈ twoGames, ∃ t, Scanned [g] t := fun g hg =>
    ⟨_, scanned_iff.mpr ⟨List.forall_mem_singleton.mpr (hmade g hg), rfl⟩⟩
  obtain ⟨t, horder, hgroups⟩ := totals_independent hscanned
  have ht : Scanned twoGames t := (horder _ (.refl _) t).mpr rfl
  have hgames : ((SeasonTotals.ofGames twoGames).batting.get?
      ⟨"v1", "visitors", none⟩).map (·.games.toList) = some ["relieved", "short"] := by
    decide +kernel
  obtain ⟨⟨ts, hts⟩, hcombine⟩ := hgroups (twoGames.map ([·])) (.refl _)
  refine ⟨t, ht, (horder _ twoGames.reverse_perm.symm t).mpr rfl, ?_, ts, hts, hcombine ts hts⟩
  rw [(scanned_iff.mp ht).2]
  exact hgames

end Season

end Baseball
