import Baseball.Proofs.Headings
import Baseball.Proofs.Totals

/-!
# Registers and daily logs

A daily log has every line of every game; a register has merged them, player by player and team by
team. So the register can be read off the log, and a log of performances is a selection from it. And
if no two games have the same identifier, the games of a line of the register are the rows it was
merged from: a line covers the one game it was made in, and nobody has two lines for a team in a
game.

## Main definitions

* `GameLines.rowsFor` — the rows of a player with a team
* `StatLine.PerGame` — lines that cover the game they were made in, and no other
* `GameLines.FoldsTo` — a register is the fold of a daily log, of which other logs are a part
* `Season.HoldsLines` — a season has these reports of one kind of lines

## Main results

* `StatLine.perGame_batting`, `StatLine.perGame_pitching` — batting and pitching lines are such
* `StatLine.PerGame.foldsTo_addGames` — what fresh reports have after some games
* `Season.registers_fold_dailies` — and after a scan
-/

namespace Baseball

/-! ### Lines of single games -/

namespace StatLine

variable {L : Type} [StatLine L]

/-- **Lines of single games**: they are kept by player and team, joining joins their games, and in a
box score each covers just the game, and nobody has two for a team unless a team plays itself. -/
structure PerGame (games : L → IdSet) : Prop where
  key : ∀ l : L, StatLine.key l = ⟨StatLine.player l, StatLine.team l, none⟩
  merge : ∀ a b : L, games (StatLine.merge a b) = (games a).union (games b)
  own : ∀ {g : Game} {b : BoxScore}, BoxScore.ofGame g = .ok b →
    ∀ l ∈ StatLine.ofBox b, games l = .singleton g.id
  once : ∀ {g : Game} {b : BoxScore}, BoxScore.ofGame g = .ok b → g.visitor ≠ g.home →
    ((StatLine.ofBox b).map (StatLine.key (L := L))).Nodup

/-- The keys of the lines of two teams. -/
theorem nodup_keys {lines lines' : List L} {team team' : String}
    (hteam : ∀ l ∈ lines, StatLine.team l = team) (hteam' : ∀ l ∈ lines', StatLine.team l = team')
    (hne : team ≠ team') (hnodup : (lines.map StatLine.player).Nodup)
    (hnodup' : (lines'.map StatLine.player).Nodup) :
    ((lines ++ lines').map StatLine.key).Nodup := by
  have hkeys {ls : List L} (h : (ls.map StatLine.player).Nodup) : (ls.map StatLine.key).Nodup := by
    have hplayers : (ls.map StatLine.key).map LineKey.player = ls.map StatLine.player :=
      List.map_map
    exact .of_map LineKey.player (hplayers ▸ h)
  rw [List.map_append, List.nodup_append]
  refine ⟨hkeys hnodup, hkeys hnodup', fun k hk k' hk' hsame => hne ?_⟩
  obtain ⟨l, hl, rfl⟩ := List.mem_map.mp hk
  obtain ⟨l', hl', rfl⟩ := List.mem_map.mp hk'
  rw [← hteam l hl, ← hteam' l' hl', StatLine.team, StatLine.team, hsame]

/-- **Lines that are in boxes under their headings** are lines of single games: in a box each is of
its team and of the game, and nobody has two. -/
theorem perGame_of_headed {games : L → IdSet} {lines : TeamBox → List L}
    (hkey : ∀ l : L, StatLine.key l = ⟨StatLine.player l, StatLine.team l, none⟩)
    (hmerge : ∀ a b : L, games (StatLine.merge a b) = (games a).union (games b))
    (hbox : ∀ b : BoxScore, StatLine.ofBox b = Side.both.flatMap fun side => lines (b.team side))
    (hlines : ∀ {t : TeamBox} {team gameId : String}, t.Headed team gameId →
      (∀ l ∈ lines t, StatLine.team l = team ∧ games l = .singleton gameId) ∧
      ((lines t).map StatLine.player).Nodup) : PerGame games where
  key := hkey
  merge := hmerge
  own {g b} h l hl := by
    rw [hbox] at hl
    obtain ⟨side, -, hl⟩ := List.mem_flatMap.mp hl
    exact ((hlines (BoxScore.headed_ofGame h side)).1 l hl).2
  once {g b} h hne := by
    obtain ⟨hv, hnodup⟩ := hlines (BoxScore.headed_ofGame h .visitor)
    obtain ⟨hh, hnodup'⟩ := hlines (BoxScore.headed_ofGame h .home)
    have hboth : StatLine.ofBox b = lines (b.team .visitor) ++ lines (b.team .home) :=
      (hbox b).trans (congrArg (_ ++ ·) (List.append_nil _))
    rw [hboth]
    exact nodup_keys (fun l hl => (hv l hl).1) (fun l hl => (hh l hl).1) hne hnodup hnodup'

theorem perGame_batting : PerGame BattingLine.games :=
  perGame_of_headed (fun _ => rfl) (fun _ _ => rfl) (fun _ => rfl) fun h =>
    ⟨h.battingLines, h.nodup_battingLines⟩

theorem perGame_pitching : PerGame PitchingLine.games :=
  perGame_of_headed (fun _ => rfl) (fun _ _ => rfl) (fun _ => rfl) fun h =>
    ⟨h.pitching, h.nodup_pitcherNames⟩

end StatLine

/-! ### Rows of daily logs -/

namespace GameLines

open StatLine Keyed

variable {L : Type} [StatLine L] {games : L → IdSet} {g : Game} {b : BoxScore}
  {played : List (Game × BoxScore)} {player team : String}

/-- The rows that a game makes. -/
def rowsOfGame (gb : Game × BoxScore) : List (GameLine L) :=
  (StatLine.ofBox gb.2).map fun line =>
    { gameId := gb.1.id, date := gb.1.date, number := gb.1.number, line }

/-- **A log after some games** has the rows of each that it keeps. -/
theorem rows_addGames (t : GameLines L) (played : List (Game × BoxScore)) :
    (GameTally.addGames t played).rows =
      t.rows ++ (played.flatMap rowsOfGame).filter (t.keeps ·.line) := by
  induction played generalizing t with
  | nil => exact (List.append_nil _).symm
  | cons gb played ih =>
    have hbox : (GameTally.addBox t gb.1 gb.2).rows =
        t.rows ++ (rowsOfGame gb).filter (t.keeps ·.line) := by
      rw [rowsOfGame, List.filter_map]
      rfl
    refine (ih (GameTally.addBox t gb.1 gb.2)).trans ?_
    rw [hbox, List.flatMap_cons, List.filter_append, List.append_assoc]
    rfl

theorem map_line_rows (played : List (Game × BoxScore)) :
    (played.flatMap rowsOfGame).map GameLine.line =
      (played.map Prod.snd).flatMap (StatLine.ofBox (L := L)) := by
  rw [List.map_flatMap, List.flatMap_map]
  refine List.flatMap_congr fun gb _ => ?_
  rw [rowsOfGame, List.map_map]
  exact List.map_id _

/-- The rows of a player with a team. -/
def rowsFor (t : GameLines L) (player team : String) : List (GameLine L) :=
  t.rows.filter fun row => StatLine.player row.line == player && StatLine.team row.line == team

/-- **A register is the fold of a daily log**: it has a line for a player with a team if the log has
a row, and the line is what the lines of all such rows are when merged. If the games have different
identifiers and nobody played against himself, the games of a line are its rows, each of another
game. A log of performances has the rows that were selected for it. -/
structure FoldsTo (gamesPlayed : L → Nat) (gs : List Game) (keep : L → Bool)
    (register : Register L) (dailies performances : GameLines L) : Prop where
  listed : ∀ player team, (register.get? ⟨player, team, none⟩).isSome ↔
    ∃ row ∈ dailies.rows, StatLine.player row.line = player ∧ StatLine.team row.line = team
  line : ∀ player team, register.get? ⟨player, team, none⟩ =
    joinAll StatLine.merge ((dailies.rowsFor player team).map GameLine.line)
  selected : performances.rows = dailies.rows.filter (keep ·.line)
  games : (gs.map Game.id).Nodup → (∀ g ∈ gs, g.visitor ≠ g.home) →
    ∀ player team l, register.get? ⟨player, team, none⟩ = some l →
      gamesPlayed l = (dailies.rowsFor player team).length ∧
      ((dailies.rowsFor player team).map GameLine.gameId).Nodup

/-- Whoever has rows has a line, which covers as many games. -/
theorem FoldsTo.exists_line {gamesPlayed : L → Nat} {gs : List Game} {keep : L → Bool}
    {register : Register L} {dailies performances : GameLines L}
    (h : FoldsTo gamesPlayed gs keep register dailies performances) (hids : (gs.map Game.id).Nodup)
    (hne : ∀ g ∈ gs, g.visitor ≠ g.home) {n : Nat}
    (hrows : (dailies.rowsFor player team).length = n + 1) :
    ∃ l, register.get? ⟨player, team, none⟩ = some l ∧ gamesPlayed l = n + 1 := by
  have hsome : (register.get? ⟨player, team, none⟩).isSome := by
    rw [h.line, isSome_joinAll, Ne, List.map_eq_nil_iff]
    exact List.ne_nil_of_length_eq_add_one hrows
  obtain ⟨l, hl⟩ := Option.isSome_iff_exists.mp hsome
  exact ⟨l, hl, (h.games hids hne player team l hl).1.trans hrows⟩

end GameLines

namespace StatLine.PerGame

open GameLines Keyed

variable {L : Type} [StatLine L] {games : L → IdSet} {gs : List Game} {boxes : List BoxScore}
  {player team : String}

theorem key_eq_iff (h : PerGame games) (l : L) : StatLine.key l = ⟨player, team, none⟩ ↔
    StatLine.player l = player ∧ StatLine.team l = team := by
  rw [h.key, LineKey.ext_iff]
  simp

/-- The rows of a player with a team are those with their key. -/
theorem rowsFor_eq (h : PerGame games) (t : GameLines L) (player team : String) :
    t.rowsFor player team = t.rows.filter (StatLine.key ·.line = ⟨player, team, none⟩) := by
  refine List.filter_congr fun row _ => ?_
  rw [Bool.eq_iff_iff, Bool.and_eq_true, beq_iff_eq, beq_iff_eq, decide_eq_true_iff, h.key_eq_iff]

/-- One game makes at most one row with a key. -/
theorem sublist_ids (h : PerGame games) {gb : Game × BoxScore}
    (hbox : BoxScore.ofGame gb.1 = .ok gb.2) (hne : gb.1.visitor ≠ gb.1.home) (k : LineKey) :
    (((rowsOfGame gb).filter fun row : GameLine L => StatLine.key row.line = k).map
      GameLine.gameId).Sublist [gb.1.id] := by
  have hids : ((rowsOfGame gb).filter fun row : GameLine L => StatLine.key row.line = k).map
      GameLine.gameId =
        List.replicate ((StatLine.ofBox gb.2).countP fun l : L => StatLine.key l = k) gb.1.id := by
    rw [rowsOfGame, List.filter_map, List.map_map, List.countP_eq_length_filter]
    exact List.map_const' ..
  have hone := List.nodup_iff_count_le_one.mp (h.once hbox hne) k
  rw [List.count, List.countP_map] at hone
  rw [hids, ← List.replicate_one, List.replicate_sublist_replicate]
  exact hone

/-- The games that the rows with a key were made in are some of those played, in order. -/
theorem ids_sublist (h : PerGame games)
    (hboxes : List.Forall₂ (fun g b => BoxScore.ofGame g = .ok b) gs boxes)
    (hne : ∀ g ∈ gs, g.visitor ≠ g.home) (k : LineKey) :
    ((((gs.zip boxes).flatMap rowsOfGame).filter
      fun row : GameLine L => StatLine.key row.line = k).map GameLine.gameId).Sublist
        (gs.map Game.id) := by
  induction hboxes with
  | nil => exact .slnil
  | @cons g b gs boxes hbox _ ih =>
    obtain ⟨hg, hgs⟩ := List.forall_mem_cons.mp hne
    rw [List.zip_cons_cons, List.flatMap_cons, List.filter_append, List.map_append]
    have hgame := h.sublist_ids (show BoxScore.ofGame (g, b).1 = .ok b from hbox) hg k
    exact hgame.append (ih hgs)

/-- The line of a row is of the game that the row is of. -/
theorem games_line (h : PerGame games)
    (hboxes : List.Forall₂ (fun g b => BoxScore.ofGame g = .ok b) gs boxes) {row : GameLine L}
    (hrow : row ∈ (gs.zip boxes).flatMap rowsOfGame) :
    games row.line = .singleton row.gameId := by
  obtain ⟨⟨g, b⟩, hgb, hrow⟩ := List.mem_flatMap.mp hrow
  obtain ⟨l, hl, rfl⟩ := List.mem_map.mp hrow
  exact h.own (List.forall₂_zip hboxes hgb) l hl

/-- A line that was merged from rows of different games covers as many games as there are rows. -/
theorem size_games (h : PerGame games) {rows : List (GameLine L)}
    (hown : ∀ row ∈ rows, games row.line = .singleton row.gameId)
    (hids : (rows.map GameLine.gameId).Nodup) {l : L}
    (hl : joinAll StatLine.merge (rows.map GameLine.line) = some l) :
    (games l).size = rows.length := by
  have hsingletons : rows.map (games ∘ GameLine.line) =
      (rows.map GameLine.gameId).map IdSet.singleton := by
    rw [List.map_map]
    exact List.map_congr_left hown
  rw [apply_of_joinAll h.merge hl, List.map_map, hsingletons, IdSet.size_sum_singletons hids,
    List.length_map]

/-- **What fresh reports have after some games.** -/
theorem foldsTo_addGames (h : PerGame games)
    (hboxes : List.Forall₂ (fun g b => BoxScore.ofGame g = .ok b) gs boxes) (keep : L → Bool) :
    FoldsTo (fun l => (games l).size) gs keep (GameTally.addGames {} (gs.zip boxes))
      (GameTally.addGames {} (gs.zip boxes))
      (GameTally.addGames { keep? := some keep } (gs.zip boxes)) := by
  have hrows : (GameTally.addGames ({} : GameLines L) (gs.zip boxes)).rows =
      (gs.zip boxes).flatMap rowsOfGame :=
    (rows_addGames ..).trans (List.filter_true _)
  have hline (player team : String) :
      (GameTally.addGames ({} : Register L) (gs.zip boxes)).get? ⟨player, team, none⟩ =
        joinAll StatLine.merge (((GameTally.addGames ({} : GameLines L) (gs.zip boxes)).rowsFor
          player team).map GameLine.line) := by
    rw [Register.addGames_eq, ← map_line_rows, ← hrows, h.rowsFor_eq]
    refine (Register.get?_ofList ..).trans (congrArg _ ?_)
    rw [List.filter_map]
    rfl
  constructor
  case line => exact hline
  case listed =>
    intro player team
    rw [hline, isSome_joinAll, Ne, List.map_eq_nil_iff, rowsFor, List.filter_eq_nil_iff]
    simp
  case selected =>
    rw [hrows]
    exact rows_addGames ..
  case games =>
    intro hids hne player team l hl
    have hnodup : (((GameTally.addGames ({} : GameLines L) (gs.zip boxes)).rowsFor player team).map
        GameLine.gameId).Nodup := by
      rw [h.rowsFor_eq, hrows]
      exact hids.sublist (h.ids_sublist hboxes hne _)
    refine ⟨h.size_games (fun row hrow => h.games_line hboxes ?_) hnodup (hline .. ▸ hl), hnodup⟩
    rw [← hrows]
    exact (List.mem_filter.mp hrow).1

end StatLine.PerGame

namespace Season

variable {μ : Type}

/-- The names of a register, of a daily log, and of a log of performances. -/
structure LineNames where
  register : String
  dailies : String
  performances : String

section Lines

variable {L : Type}

/-- A season has a register and two logs under their names, and this is in them. -/
structure HoldsLines (s : Season Report μ) (asRegister : Report → Option (Tallied (Register L)))
    (asLog : Report → Option (Tallied (GameLines L))) (names : LineNames) (register : Register L)
    (dailies performances : GameLines L) : Prop where
  register : ∃ u, s.find asRegister names.register = .ok u ∧ u.tally = register
  dailies : ∃ u, s.find asLog names.dailies = .ok u ∧ u.tally = dailies
  performances : ∃ u, s.find asLog names.performances = .ok u ∧ u.tally = performances

variable [StatLine L] {games : L → IdSet} {s : Season Report μ} {book : Scorebook}
  {outcome : ScanOutcome} {asRegister : Report → Option (Tallied (Register L))}
  {asLog : Report → Option (Tallied (GameLines L))} {c : Tallied (Register L) → Report}
  {c' : Tallied (GameLines L) → Report} {kind : Register L → Report.Tally}
  {kind' : GameLines L → Report.Tally} {names : LineNames} {keep : L → Bool}

/-- What a scan leaves in three fresh reports of lines of one kind. -/
theorem HoldsLines.scan (hgames : StatLine.PerGame games) (hkind : Report.Kind c kind)
    (hkind' : Report.Kind c' kind') (hview : ∀ {r u}, asRegister r = some u ↔ r = c u)
    (hview' : ∀ {r u}, asLog r = some u ↔ r = c' u)
    (h : s.HoldsLines asRegister asLog names {} {} { keep? := some keep })
    (hscan : (s.scan book).2 = .ok outcome) :
    ∃ register dailies performances,
      (s.scan book).1.HoldsLines asRegister asLog names register dailies performances ∧
      GameLines.FoldsTo (fun l => (games l).size) ((s.selection book).take outcome.games) keep
        register dailies performances := by
  obtain ⟨register, hregister, hempty⟩ := h.register
  obtain ⟨dailies, hdailies, hempty'⟩ := h.dailies
  obtain ⟨performances, hperformances, hempty''⟩ := h.performances
  obtain ⟨register', boxes, hfound, hboxes, htally⟩ :=
    find_scan_tallied hkind hview hregister hscan
  obtain ⟨dailies', boxes', hfound', hboxes', htally'⟩ :=
    find_scan_tallied hkind' hview' hdailies hscan
  obtain ⟨performances', boxes'', hfound'', hboxes'', htally''⟩ :=
    find_scan_tallied hkind' hview' hperformances hscan
  obtain rfl := eq_of_forall₂_ofGame hboxes hboxes'
  obtain rfl := eq_of_forall₂_ofGame hboxes hboxes''
  rw [hempty] at htally
  rw [hempty'] at htally'
  rw [hempty''] at htally''
  exact ⟨_, _, _, ⟨⟨_, hfound, htally⟩, ⟨_, hfound', htally'⟩, ⟨_, hfound'', htally''⟩⟩,
    hgames.foldsTo_addGames hboxes keep⟩

end Lines

/-- **Registers are the fold of daily logs.** After a scan that did not fail, a fresh register of
batting or of pitching is what the rows of a fresh daily log come to when merged, and a fresh log of
performances has the rows that it was to keep. -/
theorem registers_fold_dailies (s : Season Report μ) (book : Scorebook) (outcome : ScanOutcome)
    (names : LineNames) (hscan : (s.scan book).2 = .ok outcome) :
    (∀ keep, s.HoldsLines Report.batting? Report.battingLog? names {} {} { keep? := some keep } →
      ∃ register dailies performances, (s.scan book).1.HoldsLines Report.batting?
          Report.battingLog? names register dailies performances ∧
        GameLines.FoldsTo BattingLine.gamesPlayed ((s.selection book).take outcome.games) keep
          register dailies performances) ∧
    ∀ keep, s.HoldsLines Report.pitching? Report.pitchingLog? names {} {} { keep? := some keep } →
      ∃ register dailies performances, (s.scan book).1.HoldsLines Report.pitching?
          Report.pitchingLog? names register dailies performances ∧
        GameLines.FoldsTo PitchingLine.gamesPlayed ((s.selection book).take outcome.games) keep
          register dailies performances :=
  ⟨fun _ h => h.scan StatLine.perGame_batting Report.kind_batting Report.kind_battingLog
      Report.batting?_eq_some Report.battingLog?_eq_some hscan,
    fun _ h => h.scan StatLine.perGame_pitching Report.kind_pitching Report.kind_pitchingLog
      Report.pitching?_eq_some Report.pitchingLog?_eq_some hscan⟩

/-- The lines of batters and pitchers, with the games in which somebody hit a home run or pitched to
four batters. -/
def forLines : Season Report Unit where
  reports := [("batting", .batting { tally := {} }), ("pitching", .pitching { tally := {} }),
    ("batters", .battingLog { tally := {} }), ("pitchers", .pitchingLog { tally := {} }),
    ("sluggers", .battingLog { tally := { keep? := some fun l => 0 < l.counts.hr } }),
    ("workhorses", .pitchingLog { tally := { keep? := some fun l => 4 ≤ l.counts.bf } })]

/-- A batter and a pitcher who were in both of two games have two rows each, and two games in the
registers. -/
theorem registers_fold_dailies_twoGames :
    (∃ register dailies performances,
      (forLines.scan { year := 1914, games := twoGames }).1.HoldsLines Report.batting?
        Report.battingLog? ⟨"batting", "batters", "sluggers"⟩ register dailies performances ∧
      ∃ l, register.get? ⟨"v1", "visitors", none⟩ = some l ∧ l.gamesPlayed = 2 ∧
        (dailies.rowsFor "v1" "visitors").length = 2) ∧
    ∃ register dailies performances,
      (forLines.scan { year := 1914, games := twoGames }).1.HoldsLines Report.pitching?
        Report.pitchingLog? ⟨"pitching", "pitchers", "workhorses"⟩ register dailies performances ∧
      ∃ l, register.get? ⟨"h1", "hosts", none⟩ = some l ∧ l.gamesPlayed = 2 ∧
        (dailies.rowsFor "h1" "hosts").length = 2 := by
  have hscan : (forLines.scan { year := 1914, games := twoGames }).2 = .ok (.complete 2) := by
    decide +kernel
  have hids : (((forLines.selection { year := 1914, games := twoGames }).take 2).map
      Game.id).Nodup := by decide +kernel
  have hne : ∀ g ∈ (forLines.selection { year := 1914, games := twoGames }).take 2,
      g.visitor ≠ g.home := by decide +kernel
  constructor
  · obtain ⟨register, dailies, performances, hholds, hfolds⟩ :=
      (registers_fold_dailies forLines _ _ ⟨"batting", "batters", "sluggers"⟩ hscan).1 _
        ⟨⟨_, rfl, rfl⟩, ⟨_, rfl, rfl⟩, ⟨_, rfl, rfl⟩⟩
    have hrows : ((forLines.scan { year := 1914, games := twoGames }).1.find Report.battingLog?
        "batters").toOption.map (fun u => (u.tally.rowsFor "v1" "visitors").length) = some 2 := by
      decide +kernel
    obtain ⟨u, hu, rfl⟩ := hholds.dailies
    rw [hu] at hrows
    have hlength := Option.some.inj hrows
    obtain ⟨l, hl, hgames⟩ := hfolds.exists_line hids hne hlength
    exact ⟨register, _, performances, hholds, l, hl, hgames, hlength⟩
  · obtain ⟨register, dailies, performances, hholds, hfolds⟩ :=
      (registers_fold_dailies forLines _ _ ⟨"pitching", "pitchers", "workhorses"⟩ hscan).2 _
        ⟨⟨_, rfl, rfl⟩, ⟨_, rfl, rfl⟩, ⟨_, rfl, rfl⟩⟩
    have hrows : ((forLines.scan { year := 1914, games := twoGames }).1.find Report.pitchingLog?
        "pitchers").toOption.map (fun u => (u.tally.rowsFor "h1" "hosts").length) = some 2 := by
      decide +kernel
    obtain ⟨u, hu, rfl⟩ := hholds.dailies
    rw [hu] at hrows
    have hlength := Option.some.inj hrows
    obtain ⟨l, hl, hgames⟩ := hfolds.exists_line hids hne hlength
    exact ⟨register, _, performances, hholds, l, hl, hgames, hlength⟩

end Season

end Baseball
