import Baseball.Proofs.Together
import Baseball.Report.Any

/-!
# What reports make of games

All kinds of reports but the home run log are made from box scores. What such a report has made of
the games that are over is its tally, and the scorer inside it, who may be in the middle of a game,
is no part of that. A report's tally changes at one moment only, when a game is over and its box
score could be closed.

## Games that break off

A game may break off anywhere, and reports that were told of an event before it broke off have gone
further than the others. At the end of a game they cannot differ: its box score can be closed by
every report that keeps one or by none. So no game is counted by some reports and not by others.

## Main definitions

* `Report.Tally`, `Report.tally?` — what a report has made of the games that are over
* `GameTally.addGames` — a tally after some games more, with their box scores

## Main results

* `Report.exists_keepsBox`, `Report.tally?_watch` — a report with a tally keeps a box score, and
  adds it to the tally
* `Report.map_tally?_watchGame_of_error` — a game that breaks off changes no tally
-/

namespace Baseball

/-- A tally after some games more, with their box scores. -/
def GameTally.addGames {τ : Type} [GameTally τ] (t : τ) (played : List (Game × BoxScore)) : τ :=
  played.foldl (fun t gb => GameTally.addBox t gb.1 gb.2) t

/-- A register gets the lines of all box scores. -/
theorem Register.addGames_eq {L : Type} [StatLine L] (r : Register L)
    (played : List (Game × BoxScore)) :
    GameTally.addGames r played = r.addAll ((played.map Prod.snd).flatMap StatLine.ofBox) := by
  induction played generalizing r with
  | nil => rfl
  | cons gb played ih =>
    rw [List.map_cons, List.flatMap_cons]
    exact (ih _).trans List.foldl_append.symm

namespace Report

open Observer

/-- What a report made from box scores has made of the games that are over. -/
inductive Tally where
  | batting (register : Register BattingLine)
  | pitching (register : Register PitchingLine)
  | fielding (register : Register FieldingLine)
  | totals (totals : TeamTotals)
  | standings (standings : Standings)
  | gameLog (log : GameLog)
  | battingLog (lines : GameLines BattingLine)
  | pitchingLog (lines : GameLines PitchingLine)
  | fieldingLog (lines : GameLines FieldingLine)
  | boxScores (finished : List BoxScore)

/-- Each tally takes the box score of a game in its own way; box scores themselves are filed. -/
instance : GameTally Tally where
  addBox t g b :=
    match t with
    | .batting t => .batting (GameTally.addBox t g b)
    | .pitching t => .pitching (GameTally.addBox t g b)
    | .fielding t => .fielding (GameTally.addBox t g b)
    | .totals t => .totals (GameTally.addBox t g b)
    | .standings t => .standings (GameTally.addBox t g b)
    | .gameLog t => .gameLog (GameTally.addBox t g b)
    | .battingLog t => .battingLog (GameTally.addBox t g b)
    | .pitchingLog t => .pitchingLog (GameTally.addBox t g b)
    | .fieldingLog t => .fieldingLog (GameTally.addBox t g b)
    | .boxScores finished => .boxScores (finished ++ [b])

/-- The tally of a report, if it is made from box scores. -/
def tally? : Report → Option Tally
  | .batting r => some (.batting r.tally)
  | .pitching r => some (.pitching r.tally)
  | .fielding r => some (.fielding r.tally)
  | .totals r => some (.totals r.tally)
  | .standings r => some (.standings r.tally)
  | .gameLog r => some (.gameLog r.tally)
  | .battingLog r => some (.battingLog r.tally)
  | .pitchingLog r => some (.pitchingLog r.tally)
  | .fieldingLog r => some (.fieldingLog r.tally)
  | .homeRuns _ => none
  | .boxScores k => some (.boxScores k.finished)

variable {g : Game} {r r' : Report} {t : Tally} {σ : Situation} {e : Event} {rs : List Report}

/-! ### The kinds of reports -/

/-- A kind of report that is a tally with its scorer, among all reports. -/
structure Kind {α : Type} [GameTally α] (c : Tallied α → Report) (view : α → Tally) : Prop where
  observe : ∀ (f : {ρ : Type} → [Observer ρ] → ρ → Attempt ρ) (u : Tallied α),
    (c u).observe f = (f u).map c
  tally? : ∀ u, (c u).tally? = some (view u.tally)
  addBox : ∀ a g b, view (GameTally.addBox a g b) = GameTally.addBox (view a) g b

theorem kind_batting : Kind batting .batting := ⟨fun _ _ => rfl, fun _ => rfl, fun _ _ _ => rfl⟩

theorem kind_pitching : Kind pitching .pitching := ⟨fun _ _ => rfl, fun _ => rfl, fun _ _ _ => rfl⟩

theorem kind_fielding : Kind fielding .fielding := ⟨fun _ _ => rfl, fun _ => rfl, fun _ _ _ => rfl⟩

theorem kind_totals : Kind totals .totals := ⟨fun _ _ => rfl, fun _ => rfl, fun _ _ _ => rfl⟩

theorem kind_standings : Kind standings .standings :=
  ⟨fun _ _ => rfl, fun _ => rfl, fun _ _ _ => rfl⟩

theorem kind_gameLog : Kind gameLog .gameLog := ⟨fun _ _ => rfl, fun _ => rfl, fun _ _ _ => rfl⟩

theorem kind_battingLog : Kind battingLog .battingLog :=
  ⟨fun _ _ => rfl, fun _ => rfl, fun _ _ _ => rfl⟩

theorem kind_pitchingLog : Kind pitchingLog .pitchingLog :=
  ⟨fun _ _ => rfl, fun _ => rfl, fun _ _ _ => rfl⟩

theorem batting?_eq_some {u : Tallied (Register BattingLine)} :
    r.batting? = some u ↔ r = .batting u := by
  cases r <;> simp [batting?]

theorem pitching?_eq_some {u : Tallied (Register PitchingLine)} :
    r.pitching? = some u ↔ r = .pitching u := by
  cases r <;> simp [pitching?]

theorem fielding?_eq_some {u : Tallied (Register FieldingLine)} :
    r.fielding? = some u ↔ r = .fielding u := by
  cases r <;> simp [fielding?]

theorem totals?_eq_some {u : Tallied TeamTotals} : r.totals? = some u ↔ r = .totals u := by
  cases r <;> simp [totals?]

theorem standings?_eq_some {u : Tallied Standings} : r.standings? = some u ↔ r = .standings u := by
  cases r <;> simp [standings?]

theorem gameLog?_eq_some {u : Tallied GameLog} : r.gameLog? = some u ↔ r = .gameLog u := by
  cases r <;> simp [gameLog?]

theorem battingLog?_eq_some {u : Tallied (GameLines BattingLine)} :
    r.battingLog? = some u ↔ r = .battingLog u := by
  cases r <;> simp [battingLog?]

theorem pitchingLog?_eq_some {u : Tallied (GameLines PitchingLine)} :
    r.pitchingLog? = some u ↔ r = .pitchingLog u := by
  cases r <;> simp [pitchingLog?]

/-- A report is a tally with its scorer, a scorer, or a home run log. -/
theorem kind_induction {P : Report → Prop}
    (tallied : ∀ {α : Type} [GameTally α] {c : Tallied α → Report} {view : α → Tally},
      Kind c view → ∀ u, P (c u))
    (scorer : ∀ k, P (.boxScores k)) (log : ∀ l, P (.homeRuns l)) (r : Report) : P r := by
  cases r with
  | batting u => exact tallied kind_batting u
  | pitching u => exact tallied kind_pitching u
  | fielding u => exact tallied kind_fielding u
  | totals u => exact tallied kind_totals u
  | standings u => exact tallied kind_standings u
  | gameLog u => exact tallied kind_gameLog u
  | battingLog u => exact tallied kind_battingLog u
  | pitchingLog u => exact tallied kind_pitchingLog u
  | fieldingLog u => exact tallied ⟨fun _ _ => rfl, fun _ => rfl, fun _ _ _ => rfl⟩ u
  | homeRuns l => exact log l
  | boxScores k => exact scorer k

section Kind

variable {α : Type} [GameTally α] {c : Tallied α → Report} {view : α → Tally}

theorem Kind.embeds (h : Kind c view) : Embeds c where
  started u g s := h.observe (fun u => gameStarted u g s) u
  noted g u s e := by
    cases e with
    | play p => exact h.observe (fun u => playMade u g p s) u
    | noPlay subs => exact h.observe (fun u => lineupChanged u g subs s) u
  ended u g s := h.observe (fun u => gameEnded u g s) u

end Kind

theorem embeds_boxScores : Embeds boxScores where
  started _ _ _ := rfl
  noted _ _ _ e := by cases e <;> rfl
  ended _ _ _ := rfl

/-- **A report with a tally keeps a box score**, and adds it to the tally when it is finished. -/
theorem exists_keepsBox (g : Game) (h : r.tally? = some t) :
    ∃ keeping made, KeepsBox g r keeping made ∧
      ∀ b, (made b).tally? = some (GameTally.addBox t g b) := by
  induction r using kind_induction with
  | tallied hkind u =>
    obtain rfl : _ = t := Option.some.inj ((hkind.tally? u).symm.trans h)
    refine ⟨_, _, (keepsBox_tallied g u).embed hkind.embeds, fun b => ?_⟩
    rw [Function.comp_apply, hkind.tally?, hkind.addBox]
  | scorer k =>
    obtain rfl : _ = t := Option.some.inj h
    exact ⟨_, _, (keepsBox_scorer g k).embed embeds_boxScores, fun b => rfl⟩
  | log l => cases h

/-- A home run log has nothing to do when a game is over. -/
theorem gameEnded_of_tally?_eq_none (h : r.tally? = none) : gameEnded r g σ = .ok r := by
  induction r using kind_induction with
  | tallied hkind u => cases (hkind.tally? u).symm.trans h
  | scorer k => cases h
  | log l => rfl

/-! ### When a tally changes -/

/-- The start of a game changes no tally. -/
theorem tally?_gameStarted (r : Report) (g : Game) (σ : Situation) :
    (gameStarted r g σ).state.tally? = r.tally? := by
  induction r using kind_induction with
  | tallied hkind u =>
    rw [hkind.embeds.started]
    exact (hkind.tally? _).trans (hkind.tally? u).symm
  | scorer k =>
    rw [embeds_boxScores.started]
    simp only [gameStarted, Scorer.openGame]
    cases BoxScore.ofStarters g <;> rfl
  | log l => rfl

/-- No event of a game changes a tally. -/
theorem tally?_note (r : Report) (g : Game) (σ : Situation) (e : Event) :
    (note g r σ e).state.tally? = r.tally? := by
  induction r using kind_induction with
  | tallied hkind u =>
    rw [hkind.embeds.noted]
    refine (hkind.tally? _).trans ((hkind.tally? u).trans ?_).symm
    cases e <;> rfl
  | scorer k =>
    rw [embeds_boxScores.noted]
    cases e <;> simp only [note, playMade, lineupChanged, Scorer.play, Scorer.substitute,
      Scorer.onCurrent] <;> cases k.current? <;> rfl
  | log l =>
    cases e with
    | play p => rfl
    | noPlay subs => rfl

theorem finished_closeGame (k : Scorer) (g : Game) (σ : Situation) :
    (k.closeGame g σ).1.finished = k.finished := by
  rw [Scorer.closeGame]
  split <;> rfl

/-- The end of a game changes no tally if the box score cannot be closed. -/
theorem tally?_gameEnded_of_error {error : ScoringError}
    (h : (gameEnded r g σ).error? = some error) :
    (gameEnded r g σ).state.tally? = r.tally? := by
  induction r using kind_induction with
  | tallied hkind u =>
    have htally : (gameEnded u g σ).state.tally = u.tally := by
      rw [hkind.embeds.ended, Attempt.error?_map] at h
      rcases hclose : u.scorer.closeGame g σ with ⟨k, e | b⟩
      · simp [gameEnded, hclose]
      · simp [gameEnded, hclose] at h
    rw [hkind.embeds.ended, hkind.tally? u, ← htally]
    exact hkind.tally? _
  | scorer k =>
    have hfinished : (gameEnded k g σ).state.finished = k.finished := by
      rw [embeds_boxScores.ended, Attempt.error?_map] at h
      rw [← finished_closeGame k g σ]
      rcases hclose : k.closeGame g σ with ⟨k', e | b⟩
      · simp [gameEnded, hclose]
      · simp [gameEnded, hclose] at h
    rw [embeds_boxScores.ended, tally?, ← hfinished]
    rfl
  | log l => rfl

/-! ### Whole games -/

/-- What a report with a tally has made of a game: its tally has the box score of the game. -/
theorem tally?_watch (hrun : ∃ s, (State.ofGame g).run g.id g.events = .ok s)
    (h : watch g r = .ok r') (ht : r.tally? = some t) :
    ∃ b, BoxScore.ofGame g = .ok b ∧ r'.tally? = some (GameTally.addBox t g b) := by
  obtain ⟨keeping, made, hkeeps, hmade⟩ := exists_keepsBox g ht
  obtain ⟨b, hb, rfl⟩ := (hkeeps.watch_eq_ok_iff hrun).mp h
  exact ⟨b, hb, hmade b⟩

theorem map_tally?_tellEach {tell : Report → Attempt Report} {rs : List Report}
    (h : ∀ r ∈ rs, (tell r).state.tally? = r.tally?) :
    (tellEach tell rs).state.map tally? = rs.map tally? := by
  induction rs with
  | nil => rfl
  | cons r rs ih =>
    obtain ⟨hr, hrs⟩ := List.forall_mem_cons.mp h
    rw [tellEach]
    split
    · rw [Attempt.state_fail, List.map_cons, List.map_cons, hr]
    · have hrest := ih hrs
      simp only [Attempt.map, List.map_cons, hr, hrest]

/-- While a game goes on it changes no tally. -/
theorem map_tally?_observers (g : Game) (rs : List Report) :
    ((Watch.tell ⟨.ofGame g, rs⟩ (gameStarted · g ·)).andThen
      (Attempt.forEach (Watch.event g) · g.events)).state.observers.map tally?
        = rs.map tally? := by
  have hstart : (Watch.tell ⟨.ofGame g, rs⟩ (gameStarted · g ·)).state.observers.map tally?
      = rs.map tally? :=
    map_tally?_tellEach fun r _ => tally?_gameStarted r g _
  rw [Attempt.andThen]
  split
  · refine Attempt.state_forEach
      (P := fun w : Watch Report => w.observers.map tally? = rs.map tally?) hstart ?_
    intro w e _ hw
    have htell : (w.tellEvent g e).state.observers.map tally? = rs.map tally? := by
      rw [← hw]
      cases e with
      | play p => exact map_tally?_tellEach fun r _ => tally?_note r g _ (.play p)
      | noPlay subs => exact map_tally?_tellEach fun r _ => tally?_note r g _ (.noPlay subs)
    rw [Watch.event, Attempt.andThen]
    split
    · exact htell
    · exact htell
  · exact hstart

/-- At the end of a game all reports that keep a box score have the same one to close, so they are
told of it all or none. -/
theorem error?_gameEnded_eq_none_iff {s : State} (hs : (State.ofGame g).run g.id g.events = .ok s)
    (hr : follow g r = .ok r') (ht : r.tally? = some t) :
    (gameEnded r' g s.situation).error? = none ↔ ∃ b, BoxScore.ofGame g = .ok b := by
  obtain ⟨keeping, made, hkeeps, -⟩ := exists_keepsBox g ht
  have hlast : lastState g = s := congrArg Attempt.state hs
  have hwatch : watch g r = gameEnded r' g s.situation := by
    rw [watch, hr, Attempt.andThen_ok, hlast]
  have hmade {r₂ : Report} : watch g r = .ok r₂ ↔ _ := hkeeps.watch_eq_ok_iff ⟨s, hs⟩
  rw [← hwatch]
  constructor
  · intro h
    obtain ⟨b, hb, -⟩ := hmade.mp (Attempt.eq_ok_iff.mpr ⟨h, rfl⟩)
    exact ⟨b, hb⟩
  · rintro ⟨b, hb⟩
    exact (Attempt.eq_ok_iff.mp (hmade.mpr ⟨b, hb, rfl⟩)).1

/-- **A game that breaks off changes no tally.** It may break off while it goes on, when no tally
changes. At its end those who keep a box score are told of it all or none. -/
theorem map_tally?_watchGame_of_error {error : ScoringError}
    (h : (watchGame g rs).error? = some error) :
    (watchGame g rs).state.map tally? = rs.map tally? := by
  rcases Attempt.eq_ok_or_error ((Watch.tell ⟨.ofGame g, rs⟩ (gameStarted · g ·)).andThen
      (Attempt.forEach (Watch.event g) · g.events)) with ⟨w, hw⟩ | ⟨early, hearly⟩
  · obtain ⟨s, rs₁, hs, hfollow, rfl⟩ := Watch.follow_eq_ok_iff.mp hw
    have hrs₁ : rs₁.map tally? = rs.map tally? := by
      have hobservers := map_tally?_observers g rs
      rwa [hw] at hobservers
    have hended : watchGame g rs = tellEach (gameEnded · g s.situation) rs₁ := by
      rw [watchGame, Watch.game, hw]
      rfl
    have htold {r₁ : Report} (hr₁ : r₁ ∈ rs₁) {t : Tally} (ht : r₁.tally? = some t) :
        (gameEnded r₁ g s.situation).error? = none ↔ ∃ b, BoxScore.ofGame g = .ok b := by
      obtain ⟨hok, rfl⟩ := tellEach_eq_ok_iff.mp hfollow
      obtain ⟨r, hr, rfl⟩ := List.mem_map.mp hr₁
      rw [List.map_map, List.map_inj_left] at hrs₁
      exact error?_gameEnded_eq_none_iff hs (Attempt.eq_ok_iff.mpr ⟨hok r hr, rfl⟩)
        ((hrs₁ r hr).symm.trans ht)
    have hnoBox : ¬∃ b, BoxScore.ofGame g = .ok b := by
      intro hbox
      have hall : (tellEach (gameEnded · g s.situation) rs₁).error? = none := by
        refine error?_tellEach_eq_none.mpr fun r₁ hr₁ => ?_
        rcases ht : r₁.tally? with _ | t
        · rw [gameEnded_of_tally?_eq_none ht, Attempt.error?_ok]
        · exact (htold hr₁ ht).mpr hbox
      rw [hended, hall] at h
      cases h
    rw [hended, ← hrs₁]
    refine map_tally?_tellEach fun r₁ hr₁ => ?_
    rcases ht : r₁.tally? with _ | t
    · rw [gameEnded_of_tally?_eq_none ht, Attempt.state_ok, ht]
    · rcases herr : (gameEnded r₁ g s.situation).error? with _ | e
      · exact absurd ((htold hr₁ ht).mp herr) hnoBox
      · rw [tally?_gameEnded_of_error herr, ht]
  · rw [watchGame, Watch.game, Attempt.andThen, hearly]
    exact map_tally?_observers g rs

end Report

end Baseball
