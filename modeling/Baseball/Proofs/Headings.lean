import Baseball.Proofs.BoxScore
import Baseball.Proofs.Scorekeeping
import Mathlib.Data.List.Nodup

/-!
# The headings of lines

Every line of a team box stands under a heading: whose it is, for which team, and in which games.
Lines are made when somebody comes in, and a heading is never changed. So all lines of a box are of
its team and of the game, and of one kind nobody has two.

## The contract

What is to hold of a team box throughout a game has to hold of the box before anybody is entered,
and to be kept by whoever comes in, by every credit, made or refused, and by what is entered when
the game is opened and closed. `TeamBox.Lasting` says this once; `Lasting.note`, `Lasting.kept` and
`Lasting.ofGame` draw the conclusion.

## Main definitions

* `TeamBox.Lasting` — a property of the boxes of a game that nothing in the game takes away
* `TeamBox.Headed` — every line is of the team and of the game, and nobody has two of one kind

## Main results

* `BoxScore.Kept.team_induction` — what is true of one side along a game, and of who has come in
* `TeamBox.lasting_headed`, `BoxScore.headed_ofGame` — so are the lines of every box score
-/

namespace Baseball

/-! ### The team of a box -/

namespace BoxScore

open TeamBox

variable {g : Game} {gameId : String} {b b' : BoxScore} {s : Situation}

/-- Closing does not change whose box it is. -/
theorem team_close (h : b.close g s = .ok b') (side : Side) :
    (b'.team side).team = (b.team side).team := by
  obtain ⟨b₁, hd, hteam⟩ := close_eq_ok h
  have hdecided : (b₁.team side).team = (b.team side).team := by
    refine creditDecisions_induction (P := fun c => (c.team side).team = (b.team side).team)
      (fun hc hcredit hb => ?_) hd (by rw [team_takeScores, takeScore])
    obtain ⟨pitchers, hp, -⟩ := exists_creditDecision hc hcredit side
    rw [hp]
    exact hb
  rw [hteam]
  exact hdecided

/-! ### One side along a game -/

/-- **One side along a game**: what holds of its opened box, and is kept by everybody who comes in and
by every credit of a play, holds wherever the game was kept. It may speak of those who have come in
so far, on both sides. -/
theorem Kept.team_induction {P : List Substitution → TeamBox → Prop} {side : Side}
    (hopened : ∀ {t}, openSide g side = .ok t → P [] t)
    (henter : ∀ {done sub t t'}, P done t → sub.side = side →
      TeamBox.enter t g.id sub.player sub.slot sub.position = .ok t' → P (done ++ [sub]) t')
    (hother : ∀ {done sub t}, P done t → sub.side ≠ side → P (done ++ [sub]) t)
    (hpost : ∀ {done t b σ p e}, .credit side e ∈ postings b σ p → P done t →
      P done (TeamBox.post g.id t e).state)
    {es : List Event} {s : State} (h : Kept g es s b) :
    P (es.flatMap Event.substitutions) (b.team side) := by
  induction h with
  | opened hopen => exact hopened (ofStarters_eq_ok hopen side)
  | @event es s s' b b' e before noted happened ih =>
    rw [List.flatMap_append, List.flatMap_singleton]
    cases e with
    | play p =>
      rw [Event.substitutions, List.append_nil, ← (Attempt.eq_ok_iff.mp noted).2]
      exact postPlay_induction ih hpost
    | noPlay subs => exact forEach_enter_induction henter hother _ ih noted

end BoxScore

namespace TeamBox

/-! ### What lasts -/

/-- **A property of the boxes of a game that nothing in the game takes away.** -/
structure Lasting (g : Game) (P : Side → TeamBox → Prop) : Prop where
  opened : ∀ side, P side (.opened (g.team side) g.id)
  enter : ∀ {side t t' player slot p}, P side t → TeamBox.enter t g.id player slot p = .ok t' →
    P side t'
  post : ∀ {side t} entry, P side t → P side (TeamBox.post g.id t entry).state
  samePlay : ∀ {side t u}, P side t → SamePlay t u → u.team = t.team → P side u

section Lasting

open BoxScore

variable {g : Game} {P : Side → TeamBox → Prop} {b : BoxScore} {es : List Event} {s : State}

theorem Lasting.ofStarters (hP : Lasting g P) (h : BoxScore.ofStarters g = .ok b) (side : Side) :
    P side (b.team side) := by
  obtain ⟨u, hstarters, hpitcher⟩ := openSide_eq_ok (ofStarters_eq_ok h side)
  have hu : P side u := foldlM_startFielder_induction (P := fun _ t => P side t)
    (fun ht henter => hP.enter ht henter) (fun ht hsame => hP.samePlay ht hsame rfl)
    [] (hP.opened side) hstarters
  refine hP.samePlay hu (samePlay_startPitcher hpitcher) ?_
  obtain ⟨first, rest, -, heq⟩ := startPitcher_eq_ok hpitcher
  rw [heq]

/-- An event keeps it, whether it can be noted or not. -/
theorem Lasting.note (hP : Lasting g P) (h : ∀ side, P side (b.team side)) (σ : Situation)
    (e : Event) (side : Side) : P side ((b.note g.id σ e).state.team side) := by
  revert side
  cases e with
  | play p => exact fun side => postPlay_induction (h side) fun _ ht => hP.post _ ht
  | noPlay subs =>
    refine Attempt.state_forEach (P := fun b : BoxScore => ∀ side, P side (b.team side)) h ?_
    intro b sub _ hb side
    rcases team_enter_cases b g.id sub side with hkept | ⟨hside, hin⟩
    · rw [hkept]
      exact hb side
    · rw [hside]
      exact hP.enter (hb sub.side) hin

theorem Lasting.kept (hP : Lasting g P) (h : Kept g es s b) : ∀ side, P side (b.team side) := by
  induction h with
  | opened hopen => exact hP.ofStarters hopen
  | event _ noted _ ih => exact (Attempt.eq_ok_iff.mp noted).2 ▸ hP.note ih _ _

/-- **It holds of both boxes of a box score that was made.** -/
theorem Lasting.ofGame (hP : Lasting g P) (h : BoxScore.ofGame g = .ok b) (side : Side) :
    P side (b.team side) := by
  obtain ⟨b₀, hkept, hclose⟩ := exists_kept_of_ofGame h
  exact hP.samePlay (hP.kept hkept side) (closed_close hclose side).samePlay
    (team_close hclose side)

end Lasting

/-! ### Headings -/

variable {team gameId player : String} {slot : Nat} {p : Position} {t t' : TeamBox}

/-- **Lines under their headings**: every line is of the team and of the game; a player has one stint
and one pitching line, and one fielding line at a position. -/
structure Headed (team gameId : String) (t : TeamBox) : Prop where
  named : t.team = team
  batting : ∀ s ∈ t.stints, s.line.team = team ∧ s.line.games = .singleton gameId
  pitching : ∀ l ∈ t.pitchers, l.team = team ∧ l.games = .singleton gameId
  fielding : ∀ l ∈ t.fielders, l.team = team ∧ l.games = .singleton gameId
  nodup_batters : t.batters.Nodup
  nodup_pitcherNames : t.pitcherNames.Nodup
  nodup_fieldingPosts : t.fieldingPosts.Nodup

theorem headed_opened (team gameId : String) : (TeamBox.opened team gameId).Headed team gameId :=
  ⟨rfl, fun _ h => (nomatch h), fun _ h => (nomatch h), fun _ h => (nomatch h), List.nodup_nil,
    List.nodup_nil, List.nodup_nil⟩

/-- The batting lines as a box lists them are those of its stints. -/
theorem Headed.battingLines (h : t.Headed team gameId) :
    ∀ l ∈ t.battingLines, l.team = team ∧ l.games = .singleton gameId := by
  intro l hl
  obtain ⟨s, hs, rfl⟩ := List.mem_map.mp hl
  exact h.batting s (t.stintsInOrder_perm.mem_iff.mp hs)

/-- Nobody has two batting lines. -/
theorem Headed.nodup_battingLines (h : t.Headed team gameId) :
    (t.battingLines.map BattingLine.player).Nodup := by
  rw [TeamBox.battingLines, List.map_map]
  exact (t.stintsInOrder_perm.map _).nodup_iff.mpr h.nodup_batters

/-- What is asked of all lines holds of lines that are in this respect the same. -/
theorem forall_of_map_eq {α β : Type} {k : α → β} {P : β → Prop} {l l' : List α}
    (h : l'.map k = l.map k) (hP : ∀ x ∈ l, P (k x)) : ∀ x ∈ l', P (k x) := by
  rw [← List.forall_mem_map] at hP ⊢
  rwa [h]

/-- Two boxes whose lines are under the same headings, in the same places. -/
structure SameHeadings (t u : TeamBox) : Prop where
  named : u.team = t.team
  batting : u.stints.map (fun s => (s.line.player, s.line.team, s.line.games)) =
    t.stints.map fun s => (s.line.player, s.line.team, s.line.games)
  pitching : u.pitchers.map (fun l => (l.player, l.team, l.games)) =
    t.pitchers.map fun l => (l.player, l.team, l.games)
  fielding : u.fielders.map (fun l => ((l.player, l.position), l.team, l.games)) =
    t.fielders.map fun l => ((l.player, l.position), l.team, l.games)

theorem SameHeadings.refl (t : TeamBox) : SameHeadings t t := ⟨rfl, rfl, rfl, rfl⟩

theorem Headed.of_sameHeadings (h : t.Headed team gameId) (hs : SameHeadings t t') :
    t'.Headed team gameId := by
  have hbatters := congrArg (List.map Prod.fst) hs.batting
  have hpitchers := congrArg (List.map Prod.fst) hs.pitching
  have hposts := congrArg (List.map Prod.fst) hs.fielding
  simp only [List.map_map] at hbatters hpitchers hposts
  exact {
    named := hs.named.trans h.named
    batting := forall_of_map_eq (P := fun k => k.2.1 = team ∧ k.2.2 = .singleton gameId) hs.batting
      h.batting
    pitching := forall_of_map_eq (P := fun k => k.2.1 = team ∧ k.2.2 = .singleton gameId)
      hs.pitching h.pitching
    fielding := forall_of_map_eq (P := fun k => k.2.1 = team ∧ k.2.2 = .singleton gameId)
      hs.fielding h.fielding
    nodup_batters := (show t'.batters = t.batters from hbatters) ▸ h.nodup_batters
    nodup_pitcherNames :=
      (show t'.pitcherNames = t.pitcherNames from hpitchers) ▸ h.nodup_pitcherNames
    nodup_fieldingPosts :=
      (show t'.fieldingPosts = t.fieldingPosts from hposts) ▸ h.nodup_fieldingPosts }

/-- A credit changes no heading, whether it is made or refused. -/
theorem sameHeadings_post (t : TeamBox) (gameId : String) (e : Entry) :
    SameHeadings t (t.post gameId e).state where
  named := (team_currentPitcher_post t gameId e).1
  batting := map_stints_post t gameId e fun _ _ => rfl
  pitching := map_pitchers_post t gameId fun _ _ _ _ => rfl
  fielding := map_fielders_post t gameId e fun _ _ => rfl

theorem SamePlay.sameHeadings {u : TeamBox} (h : SamePlay t u) (hteam : u.team = t.team) :
    SameHeadings t u where
  named := hteam
  batting := by rw [h.stints]
  pitching := by
    have hmap := congrArg (List.map fun l : PitchingLine => (l.player, l.team, l.games)) h.pitchers
    rwa [List.map_map, List.map_map] at hmap
  fielding := by
    have hmap := congrArg
      (List.map fun l : FieldingLine => ((l.player, l.position), l.team, l.games)) h.fielders
    rwa [List.map_map, List.map_map] at hmap

/-! ### Coming in -/

/-- A player who comes in at a position in the field and has no line there gets one without
counts. -/
theorem fielders_enterFielder_cases (t : TeamBox) (gameId player : String) (p : Position) :
    (t.enterFielder gameId player p).fielders = t.fielders ∨
      (player, p) ∉ t.fieldingPosts ∧ (t.enterFielder gameId player p).fielders = t.fielders ++
        [{ player, team := t.team, position := p, games := .singleton gameId }] := by
  rw [enterFielder]
  split
  · next h =>
    rw [Bool.and_eq_true, Bool.not_eq_true', ← Bool.not_eq_true, hasFielding_iff] at h
    exact .inr ⟨h.2, rfl⟩
  · exact .inl rfl

/-- A player who comes in to pitch and has no pitching line gets one without counts. -/
theorem pitchers_enterPitcher_cases (t : TeamBox) (gameId player : String) :
    (t.enterPitcher gameId player).pitchers = t.pitchers ∨
      player ∉ t.pitcherNames ∧ (t.enterPitcher gameId player).pitchers = t.pitchers ++
        [{ player, team := t.team, games := .singleton gameId }] := by
  rw [enterPitcher]
  split
  · exact .inl rfl
  · next h =>
    refine .inr ⟨fun hmem => ?_, rfl⟩
    obtain ⟨l, hl, rfl⟩ := List.mem_map.mp hmem
    have hno := List.findIdx?_eq_none_iff.mp h l hl
    simp at hno

/-- A list without repetitions stays one if something new is put at its end. -/
theorem nodup_map_append {α β : Type} {k : α → β} {l : List α} {x : α} (h : (l.map k).Nodup)
    (hx : k x ∉ l.map k) : ((l ++ [x]).map k).Nodup := by
  rw [List.map_append, List.map_singleton, ← List.concat_eq_append]
  exact h.concat hx

/-- Nobody has two stints because somebody comes in. -/
theorem nodup_batters_enter (h : t.batters.Nodup) (hin : t.enter gameId player slot p = .ok t') :
    t'.batters.Nodup := by
  obtain ⟨hs, rfl⟩ := enter_eq_ok_iff.mp hin
  rcases stints_enterStint_cases t gameId player ⟨slot, hs⟩ p with hold | ⟨hnew, happend⟩
  · have hnames := map_modifyFirst? hold (k := fun s => s.line.player) fun s => by
      rw [addPosition_line]
    rw [batters, hnames]
    exact h
  · rw [batters, happend]
    exact nodup_map_append h hnew

/-- Nor has anybody two fielding lines at one position. -/
theorem nodup_fieldingPosts_enter (h : t.fieldingPosts.Nodup)
    (hin : t.enter gameId player slot p = .ok t') : t'.fieldingPosts.Nodup := by
  obtain ⟨hs, rfl⟩ := enter_eq_ok_iff.mp hin
  rcases fielders_enterFielder_cases t gameId player p with hold | ⟨hnew, happend⟩
  · rw [fieldingPosts, hold]
    exact h
  · rw [fieldingPosts, happend]
    exact nodup_map_append h hnew

/-- Nor has anybody two pitching lines. -/
theorem nodup_pitcherNames_enter (h : t.pitcherNames.Nodup)
    (hin : t.enter gameId player slot p = .ok t') : t'.pitcherNames.Nodup := by
  obtain ⟨hs, rfl⟩ := enter_eq_ok_iff.mp hin
  by_cases hp : p = .pitcher
  · simp only [pitcherNames, if_pos hp]
    rcases pitchers_enterPitcher_cases t gameId player with hold | ⟨hnew, happend⟩
    · rw [hold]
      exact h
    · rw [happend]
      exact nodup_map_append h hnew
  · simp only [pitcherNames, if_neg hp]
    exact h

/-- Whoever comes in puts his lines under headings of his team and the game. -/
theorem Headed.enter (h : t.Headed team gameId) (hin : t.enter gameId player slot p = .ok t') :
    t'.Headed team gameId := by
  have hbatters := nodup_batters_enter h.nodup_batters hin
  have hpitchers := nodup_pitcherNames_enter h.nodup_pitcherNames hin
  have hposts := nodup_fieldingPosts_enter h.nodup_fieldingPosts hin
  obtain ⟨hs, rfl⟩ := enter_eq_ok_iff.mp hin
  obtain rfl := h.named
  refine ⟨rfl, ?_, ?_, ?_, hbatters, hpitchers, hposts⟩
  · rcases stints_enterStint_cases t gameId player ⟨slot, hs⟩ p with hold | ⟨-, happend⟩
    · exact forall_of_map_eq (P := fun l => l.team = t.team ∧ l.games = .singleton gameId)
        (map_modifyFirst? hold (k := Stint.line) fun s => addPosition_line s p) h.batting
    · rw [happend]
      exact List.forall_mem_append.mpr ⟨h.batting, List.forall_mem_singleton.mpr ⟨rfl, rfl⟩⟩
  · split
    · rcases pitchers_enterPitcher_cases t gameId player with hold | ⟨-, happend⟩
      · rw [hold]
        exact h.pitching
      · rw [happend]
        exact List.forall_mem_append.mpr ⟨h.pitching, List.forall_mem_singleton.mpr ⟨rfl, rfl⟩⟩
    · exact h.pitching
  · rcases fielders_enterFielder_cases t gameId player p with hold | ⟨-, happend⟩
    · rw [hold]
      exact h.fielding
    · rw [happend]
      exact List.forall_mem_append.mpr ⟨h.fielding, List.forall_mem_singleton.mpr ⟨rfl, rfl⟩⟩

/-- **Headings last.** -/
theorem lasting_headed (g : Game) : Lasting g fun side t => t.Headed (g.team side) g.id where
  opened side := headed_opened (g.team side) g.id
  enter h hin := h.enter hin
  post entry h := h.of_sameHeadings (sameHeadings_post _ g.id entry)
  samePlay h hsame hteam := h.of_sameHeadings (hsame.sameHeadings hteam)

end TeamBox

/-- **The lines of a finished box score** are of their teams and of the game, and of one kind nobody
has two. -/
theorem BoxScore.headed_ofGame {g : Game} {b : BoxScore} (h : ofGame g = .ok b) (side : Side) :
    (b.team side).Headed (g.team side) g.id :=
  (TeamBox.lasting_headed g).ofGame h side

end Baseball
