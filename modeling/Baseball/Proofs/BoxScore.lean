import Baseball.Proofs.TeamBox
import Mathlib.Data.List.TakeWhile

/-!
# What happens to a box score

A box score is opened with the starters, changed on one side at a time, and closed under the final
score. None of this enters a play: opening and closing add starts, finishes and decisions, and a
substitute only comes in.

## Main definitions

* `BoxScore.Closed` — a side as it is closed: what plays have entered, under the final score

## Main results

* `BoxScore.enter_eq_ok`, `error?_enter` — a substitute comes in, or is refused
* `BoxScore.error?_forEach_enter_eq_none_iff` — when all of several substitutes come in
* `BoxScore.postPlay_induction`, `state_forEach_enter_induction` — what a side keeps
* `BoxScore.openSide_induction`, `ofStarters_ne_error` — opening, and why it may fail
* `BoxScore.closed_close`, `close_eq_error` — closing, and why it may fail
-/

namespace Baseball

namespace BoxScore

open TeamBox

variable {g : Game} {gameId : String} {side : Side} {t t' : TeamBox} {b b' : BoxScore}
  {s : Situation}

/-! ### One side -/

/-- Work on one side leaves the other as it was. -/
theorem team_state_onSide (b : BoxScore) (r side : Side) (f : TeamBox → Attempt TeamBox) :
    (b.onSide r f).state.team side = if side = r then (f (b.team r)).state else b.team side :=
  BySide.get_modify ..

theorem onSide_eq_ok {r : Side} {f : TeamBox → Attempt TeamBox} (h : b.onSide r f = .ok b') :
    f (b.team r) = .ok (b'.team r) ∧ ∀ side, side ≠ r → b'.team side = b.team side := by
  have herror : (f (b.team r)).error? = none := (Attempt.eq_ok_iff.mp h).1
  obtain rfl : (b.onSide r f).state = b' := (Attempt.eq_ok_iff.mp h).2
  constructor
  · rw [Attempt.eq_ok_iff, team_state_onSide, if_pos rfl]
    exact ⟨herror, rfl⟩
  · intro side hne
    rw [team_state_onSide, if_neg hne]

/-! ### Substitutes -/

theorem enter_of_ok {sub : Substitution}
    (h : (b.team sub.side).enter gameId sub.player sub.slot sub.position = .ok t) :
    b.enter gameId sub = .ok { b with teams := b.teams.modify sub.side fun _ => t } := by
  rw [BoxScore.enter, onSide, h, Attempt.map_ok]

theorem enter_of_error {sub : Substitution} {e : ScoringError}
    (h : (b.team sub.side).enter gameId sub.player sub.slot sub.position = .error e) :
    b.enter gameId sub =
      .fail { b with teams := b.teams.modify sub.side fun _ => b.team sub.side } e := by
  rw [BoxScore.enter, onSide, h]
  rfl

theorem team_modify (b : BoxScore) (r side : Side) (t : TeamBox) :
    ({ b with teams := b.teams.modify r fun _ => t } : BoxScore).team side =
      if side = r then t else b.team side :=
  BySide.get_modify ..

/-- What an attempt to enter a substitute leaves of a side: the box with him, or the box it was. -/
theorem team_enter_cases (b : BoxScore) (gameId : String) (sub : Substitution) (side : Side) :
    (b.enter gameId sub).state.team side = b.team side ∨
      side = sub.side ∧ (b.team sub.side).enter gameId sub.player sub.slot sub.position
        = .ok ((b.enter gameId sub).state.team sub.side) := by
  rcases h : (b.team sub.side).enter gameId sub.player sub.slot sub.position with e | t
  · left
    rw [enter_of_error h, Attempt.state_fail, team_modify]
    split
    · next hside => rw [hside]
    · rfl
  · rw [enter_of_ok h, Attempt.state_ok, team_modify, team_modify, if_pos rfl]
    by_cases hside : side = sub.side
    · exact .inr ⟨hside, rfl⟩
    · exact .inl (if_neg hside)

/-- A substitute comes in on his side, and nothing happens on the other. -/
theorem enter_eq_ok {sub : Substitution} (h : b.enter gameId sub = .ok b') :
    (b.team sub.side).enter gameId sub.player sub.slot sub.position = .ok (b'.team sub.side) ∧
      ∀ side, side ≠ sub.side → b'.team side = b.team side := by
  rcases ht : (b.team sub.side).enter gameId sub.player sub.slot sub.position with e | t
  · rw [enter_of_error ht] at h
    cases (Attempt.eq_ok_iff.mp h).1
  · rw [enter_of_ok ht] at h
    obtain rfl := Attempt.ok_inj.mp h
    constructor
    · rw [team_modify, if_pos rfl]
    · intro side hne
      rw [team_modify, if_neg hne]

/-- Whoever has a slot that lineups have comes in. -/
theorem exists_enter_eq_ok (b : BoxScore) (gameId : String) {sub : Substitution}
    (hslot : sub.slot < slotCount) : ∃ b', b.enter gameId sub = .ok b' := by
  have hin : (b.team sub.side).enter gameId sub.player sub.slot sub.position = .ok _ :=
    enter_eq_ok_iff.mpr ⟨hslot, rfl⟩
  exact ⟨_, enter_of_ok hin⟩

/-- Whoever has another slot is refused, and nothing happens. -/
theorem exists_enter_eq_fail (b : BoxScore) (gameId : String) {sub : Substitution}
    (hslot : ¬sub.slot < slotCount) :
    ∃ b', b.enter gameId sub = .fail b' (.invalidSlot gameId sub.player sub.slot) ∧
      ∀ side, b'.team side = b.team side := by
  have hout : (b.team sub.side).enter gameId sub.player sub.slot sub.position =
      .error (.invalidSlot gameId sub.player sub.slot) := by
    rw [TeamBox.enter, dif_neg hslot]
  refine ⟨_, enter_of_error hout, fun side => ?_⟩
  rw [team_modify]
  split
  · next hside => rw [hside]
  · rfl

/-- A substitute is refused only because lineups do not have his slot. -/
theorem error?_enter {sub : Substitution} {e : ScoringError}
    (h : (b.enter gameId sub).error? = some e) : e = .invalidSlot gameId sub.player sub.slot := by
  by_cases hslot : sub.slot < slotCount
  · obtain ⟨b', hb'⟩ := exists_enter_eq_ok b gameId hslot
    rw [hb'] at h
    cases h
  · obtain ⟨b', hb', -⟩ := exists_enter_eq_fail b gameId hslot
    rw [hb'] at h
    cases h
    rfl

/-- **All substitutes come in** exactly if lineups have the slots of all of them. -/
theorem error?_forEach_enter_eq_none_iff {subs : List Substitution} :
    (Attempt.forEach (enter gameId) b subs).error? = none ↔ ∀ sub ∈ subs, sub.slot < slotCount := by
  induction subs generalizing b with
  | nil => simp
  | cons sub subs ih =>
    rw [Attempt.forEach_cons, List.forall_mem_cons]
    by_cases hslot : sub.slot < slotCount
    · obtain ⟨b', hb'⟩ := exists_enter_eq_ok b gameId hslot
      rw [hb', Attempt.andThen_ok, ih, and_iff_right hslot]
    · obtain ⟨b', hb', -⟩ := exists_enter_eq_fail b gameId hslot
      simp [hb', hslot]

/-! ### What a side keeps -/

/-- What a credit to a side keeps holds of the side after one posting, made or not. -/
theorem postOne_induction {P : TeamBox → Prop} {x : Posting} (h : P (b.team side))
    (hpost : ∀ {e}, x = .credit side e → P ((b.team side).post gameId e).state) :
    P ((b.post gameId x).state.team side) := by
  cases x with
  | gap role => exact h
  | credit r e =>
    rw [BoxScore.post, team_state_onSide]
    split
    · next hr =>
      subst hr
      exact hpost rfl
    · exact h

/-- What every credit of a play to a side keeps holds of the side after the play, whether all of it
could be posted or not. -/
theorem postPlay_induction {P : TeamBox → Prop} {σ : Situation} {p : Play} (h : P (b.team side))
    (hpost : ∀ {t e}, .credit side e ∈ b.postings σ p → P t → P (t.post gameId e).state) :
    P ((b.postPlay gameId σ p).state.team side) :=
  Attempt.state_forEach (P := fun b : BoxScore => P (b.team side)) h fun _ _ hx hb =>
    postOne_induction hb fun he => hpost (he ▸ hx) hb

/-- What holds of a side and those who have come in so far holds after more have tried to, up to the
first whose slot lineups do not have, if each of them keeps it. -/
theorem state_forEach_enter_induction {P : List Substitution → TeamBox → Prop}
    (henter : ∀ {done sub t t'}, P done t → sub.side = side →
      TeamBox.enter t gameId sub.player sub.slot sub.position = .ok t' → P (done ++ [sub]) t')
    (hother : ∀ {done sub t}, P done t → sub.side ≠ side → P (done ++ [sub]) t)
    (done subs : List Substitution) (hb : P done (b.team side)) :
    P (done ++ subs.takeWhile (·.slot < slotCount))
      ((Attempt.forEach (enter gameId) b subs).state.team side) := by
  induction subs generalizing b done with
  | nil => rwa [List.takeWhile_nil, List.append_nil]
  | cons sub subs ih =>
    by_cases hslot : sub.slot < slotCount
    · obtain ⟨b', hb'⟩ := exists_enter_eq_ok b gameId hslot
      obtain ⟨hin, hsame⟩ := enter_eq_ok hb'
      rw [Attempt.forEach_cons, hb', Attempt.andThen_ok, List.takeWhile_cons, if_pos (by simpa),
        List.append_cons]
      refine ih _ ?_
      by_cases hside : sub.side = side
      · subst hside
        exact henter hb rfl hin
      · rw [hsame side (Ne.symm hside)]
        exact hother hb hside
    · obtain ⟨b', hb', hsame⟩ := exists_enter_eq_fail b gameId hslot
      rw [Attempt.forEach_cons, hb', Attempt.andThen_fail, Attempt.state_fail, hsame,
        List.takeWhile_cons, if_neg (by simpa using hslot), List.append_nil]
      exact hb

/-- The same if all of them have come in. -/
theorem forEach_enter_induction {P : List Substitution → TeamBox → Prop}
    (henter : ∀ {done sub t t'}, P done t → sub.side = side →
      TeamBox.enter t gameId sub.player sub.slot sub.position = .ok t' → P (done ++ [sub]) t')
    (hother : ∀ {done sub t}, P done t → sub.side ≠ side → P (done ++ [sub]) t)
    (done : List Substitution) {subs : List Substitution} (hb : P done (b.team side))
    (h : Attempt.forEach (enter gameId) b subs = .ok b') : P (done ++ subs) (b'.team side) := by
  obtain ⟨hfinished, rfl⟩ := Attempt.eq_ok_iff.mp h
  have hall : subs.takeWhile (·.slot < slotCount) = subs :=
    List.takeWhile_eq_self_iff.mpr fun sub hsub =>
      decide_eq_true (error?_forEach_enter_eq_none_iff.mp hfinished sub hsub)
  have hstate := state_forEach_enter_induction henter hother done subs hb
  rwa [hall] at hstate

/-! ### Opening -/

/-- A starter comes in, and the credit for his start, in a fielding line, is not a play's. -/
theorem startFielder_eq_ok {starter : Starter} (h : startFielder gameId t starter = .ok t') :
    ∃ u fielders, t.enter gameId starter.player starter.slot starter.position = .ok u ∧
      SamePlay u { u with fielders } ∧ t' = { u with fielders } := by
  rw [startFielder] at h
  rcases hu : t.enter gameId starter.player starter.slot starter.position with e | u
  · simp [hu, bind, Except.bind] at h
  · obtain rfl : _ = t' := by simpa [hu, bind, Except.bind, pure, Except.pure] using h
    obtain ⟨fielders, hfielders⟩ :=
      exists_creditFielding?_getD u starter.player starter.position { gs := 1 }
    refine ⟨u, fielders, rfl, ?_, hfielders⟩
    rw [← hfielders]
    exact samePlay_creditFielding? rfl

/-- The first pitcher is credited with the start, and is on the mound. -/
theorem startPitcher_eq_ok (h : startPitcher gameId t = .ok t') :
    ∃ first rest, t.pitchers = first :: rest ∧
      t' = { t with pitchers := first.credit { gs := 1 } :: rest, currentPitcher := 0 } := by
  rw [startPitcher] at h
  split at h
  · cases h
  · next first rest hp =>
    cases h
    exact ⟨first, rest, hp, rfl⟩

theorem samePlay_startPitcher (h : startPitcher gameId t = .ok t') : SamePlay t t' := by
  obtain ⟨first, rest, hp, rfl⟩ := startPitcher_eq_ok h
  refine ⟨rfl, ?_, rfl, rfl, rfl, rfl, rfl⟩
  rw [hp, List.map_cons, List.map_cons, PitchingLine.inPlay_credit rfl]

/-- **Opening** a side: its starters come in one after the other. -/
theorem openSide_eq_ok (h : openSide g side = .ok t) :
    ∃ u, (g.starters.get side).foldlM (startFielder g.id) (.opened (g.team side) g.id) = .ok u ∧
      startPitcher g.id u = .ok t := by
  rw [openSide] at h
  rcases hu : (g.starters.get side).foldlM (startFielder g.id) (.opened (g.team side) g.id)
    with e | u
  · simp [hu, bind, Except.bind] at h
  · exact ⟨u, rfl, by simpa [hu, bind, Except.bind] using h⟩

/-- What is kept by a starter who comes in, and by the credit in a fielding line for his start, holds
after all of them if it held before. -/
theorem foldlM_startFielder_induction {P : List Starter → TeamBox → Prop}
    (henter : ∀ {done starter t u}, P done t →
      t.enter gameId starter.player starter.slot starter.position = .ok u → P (done ++ [starter]) u)
    (hcredit : ∀ {done t fielders}, P done t → SamePlay t { t with fielders } →
      P done { t with fielders })
    (done : List Starter) {rest : List Starter} {u : TeamBox} (ht : P done t)
    (hu : rest.foldlM (startFielder gameId) t = .ok u) : P (done ++ rest) u := by
  induction rest generalizing done t with
  | nil =>
    cases hu
    rwa [List.append_nil]
  | cons starter rest ih =>
    rw [List.foldlM_cons] at hu
    rcases hv : startFielder gameId t starter with e | v
    · rw [hv] at hu
      cases hu
    · rw [hv] at hu
      obtain ⟨w, fielders, hw, hsame, rfl⟩ := startFielder_eq_ok hv
      rw [List.append_cons]
      exact ih _ (hcredit (henter ht hw) hsame) hu

/-- What holds of a side before its starters come in, and is kept by each of them and by the credits
for their starts, holds of it once it is opened. -/
theorem openSide_induction {P : List Starter → TeamBox → Prop} (h : openSide g side = .ok t)
    (hopened : P [] (.opened (g.team side) g.id))
    (henter : ∀ {done starter t u}, P done t →
      t.enter g.id starter.player starter.slot starter.position = .ok u → P (done ++ [starter]) u)
    (hcredit : ∀ {done t u}, P done t → SamePlay t u → P done u) :
    P (g.starters.get side) t := by
  obtain ⟨u, hstarters, hpitcher⟩ := openSide_eq_ok h
  have hu := foldlM_startFielder_induction (P := P) henter (fun ht hsame => hcredit ht hsame)
    [] hopened hstarters
  exact hcredit hu (samePlay_startPitcher hpitcher)

theorem ofStarters_eq_ok (h : ofStarters g = .ok b) (side : Side) :
    openSide g side = .ok (b.team side) := by
  rw [ofStarters] at h
  rcases hv : openSide g .visitor with e | visitor
  · simp [hv, bind, Except.bind] at h
  · rcases hh : openSide g .home with e | home
    · simp [hv, hh, bind, Except.bind] at h
    · obtain rfl : _ = b := by simpa [hv, hh, bind, Except.bind, pure, Except.pure] using h
      cases side
      · exact hv
      · exact hh

theorem startFielder_ne_error (gameId : String) (t : TeamBox) (starter : Starter)
    (id player : String) : startFielder gameId t starter ≠ .error (.unknownPlayer id player) := by
  intro h
  rw [startFielder, TeamBox.enter] at h
  split at h
  · cases h
  · cases h

theorem foldlM_startFielder_ne_error (gameId : String) (starters : List Starter) (t : TeamBox)
    (id player : String) :
    starters.foldlM (startFielder gameId) t ≠ .error (.unknownPlayer id player) := by
  induction starters generalizing t with
  | nil =>
    intro h
    cases h
  | cons starter starters ih =>
    intro h
    rw [List.foldlM_cons] at h
    rcases hv : startFielder gameId t starter with e | v
    · rw [hv] at h
      cases h
      exact startFielder_ne_error gameId t starter id player hv
    · rw [hv] at h
      exact ih v h

theorem startPitcher_ne_error (gameId : String) (t : TeamBox) (id player : String) :
    startPitcher gameId t ≠ .error (.unknownPlayer id player) := by
  intro h
  rw [startPitcher] at h
  split at h
  · cases h
  · cases h

theorem openSide_ne_error (g : Game) (side : Side) (id player : String) :
    openSide g side ≠ .error (.unknownPlayer id player) := by
  intro h
  rw [openSide] at h
  rcases hu : (g.starters.get side).foldlM (startFielder g.id) (.opened (g.team side) g.id)
    with e | u
  · rw [hu] at h
    cases h
    exact foldlM_startFielder_ne_error g.id _ _ id player hu
  · rw [hu] at h
    exact startPitcher_ne_error g.id u id player h

/-- A game that cannot be opened lacks a lineup slot or a pitcher. -/
theorem ofStarters_ne_error (g : Game) (id player : String) :
    ofStarters g ≠ .error (.unknownPlayer id player) := by
  intro h
  rw [ofStarters] at h
  rcases hv : openSide g .visitor with e | visitor
  · obtain rfl : e = _ := by simpa [hv, bind, Except.bind] using h
    exact openSide_ne_error g .visitor id player hv
  · rcases hh : openSide g .home with e | home
    · obtain rfl : e = _ := by simpa [hv, hh, bind, Except.bind] using h
      exact openSide_ne_error g .home id player hh
    · simp [hv, hh, bind, Except.bind, pure, Except.pure] at h

/-! ### Closing -/

/-- What closing a game leaves of one side: what plays have entered, under the final score. -/
structure Closed (s : Situation) (side : Side) (t u : TeamBox) : Prop where
  samePlay : SamePlay t u
  runs : u.runs = s.score side
  hits : u.hits = s.hits side
  errors : u.errors = s.errors side
  leftOnBase : u.leftOnBase = s.leftOnBase side

theorem team_takeScores (b : BoxScore) (s : Situation) (side : Side) :
    (b.takeScores s).team side = takeScore s side (b.team side) :=
  BySide.get_ofFn ..

theorem closed_takeScores (b : BoxScore) (s : Situation) (side : Side) :
    Closed s side (b.team side) ((b.takeScores s).team side) := by
  rw [team_takeScores]
  exact ⟨⟨rfl, rfl, rfl, rfl, rfl, rfl, rfl⟩, rfl, rfl, rfl, rfl⟩

/-- A pitcher of record is credited in his line, which no play has a part in. -/
theorem exists_creditDecision {pitcher? : Option String} {c : PitchingCounts} (hc : c.inPlay = 0)
    (h : b.creditDecision gameId pitcher? c = .ok b') (side : Side) :
    ∃ pitchers, b'.team side = { b.team side with pitchers } ∧
      SamePlay (b.team side) (b'.team side) := by
  rcases pitcher? with _ | pitcher
  · cases h
    exact ⟨_, rfl, .refl _⟩
  · rw [creditDecision] at h
    rcases hr : b.pitcherSide? pitcher with _ | r
    · simp [hr] at h
    · simp only [hr] at h
      cases h
      rw [team, BySide.get_modify]
      split
      · obtain ⟨pitchers, hp⟩ := exists_creditPitching?_getD (b.team side) pitcher c
        exact ⟨pitchers, hp, samePlay_creditPitching? hc⟩
      · exact ⟨_, rfl, .refl _⟩

theorem closed_creditDecision {pitcher? : Option String} {c : PitchingCounts} (hc : c.inPlay = 0)
    (h : b.creditDecision gameId pitcher? c = .ok b') (hb : Closed s side t (b.team side)) :
    Closed s side t (b'.team side) := by
  obtain ⟨pitchers, hp, hplay⟩ := exists_creditDecision hc h side
  rw [hp] at hplay ⊢
  exact ⟨hb.samePlay.trans hplay, hb.runs, hb.hits, hb.errors, hb.leftOnBase⟩

/-- The decisions are credited one after the other. -/
theorem creditDecisions_eq_ok {d : Decisions} (h : b.creditDecisions gameId d = .ok b') :
    ∃ b₁ b₂, b.creditDecision gameId d.winner? { w := 1 } = .ok b₁ ∧
      b₁.creditDecision gameId d.loser? { l := 1 } = .ok b₂ ∧
      b₂.creditDecision gameId d.save? { sv := 1 } = .ok b' := by
  rw [creditDecisions] at h
  rcases hw : b.creditDecision gameId d.winner? { w := 1 } with e | b₁
  · simp [hw, bind, Except.bind] at h
  · rcases hl : b₁.creditDecision gameId d.loser? { l := 1 } with e | b₂
    · simp [hw, hl, bind, Except.bind] at h
    · exact ⟨b₁, b₂, rfl, hl, by simpa [hw, hl, bind, Except.bind] using h⟩

/-- What crediting a pitcher of record keeps holds after all decisions if it held before. -/
theorem creditDecisions_induction {P : BoxScore → Prop} {d : Decisions}
    (hcredit : ∀ {b b' pitcher? c}, PitchingCounts.inPlay c = 0 →
      creditDecision gameId b pitcher? c = .ok b' → P b → P b')
    (h : b.creditDecisions gameId d = .ok b') (hb : P b) : P b' := by
  obtain ⟨b₁, b₂, hwin, hloss, hsave⟩ := creditDecisions_eq_ok h
  exact hcredit rfl hsave (hcredit rfl hloss (hcredit rfl hwin hb))

theorem closed_creditDecisions {d : Decisions} (h : b.creditDecisions gameId d = .ok b')
    (hb : Closed s side t (b.team side)) : Closed s side t (b'.team side) :=
  creditDecisions_induction (P := fun b => Closed s side t (b.team side)) closed_creditDecision h hb

theorem samePlay_creditFinish (t : TeamBox) (allowed : Nat) :
    SamePlay t (creditFinish t allowed) := by
  refine ⟨rfl, ?_, rfl, rfl, rfl, rfl, rfl⟩
  have hc : (finishCredit t.currentPitcher allowed).inPlay = 0 := by
    rw [finishCredit]
    split <;> rfl
  refine List.ext_getElem? fun i => ?_
  rw [List.getElem?_map, List.getElem?_map, creditFinish, List.getElem?_modify]
  rcases t.pitchers[i]? with _ | l
  · rfl
  · by_cases hi : t.currentPitcher = i
    · subst hi
      simp [PitchingLine.inPlay_credit hc]
    · simp [hi]

/-- A closed box score has the final score, then the decisions, then the credit for finishing. -/
theorem close_eq_ok (h : b.close g s = .ok b') :
    ∃ b₁, (b.takeScores s).creditDecisions g.id g.decisions = .ok b₁ ∧
      ∀ side, b'.team side = creditFinish (b₁.team side) (b₁.team side.opponent).runs := by
  rw [close] at h
  rcases hd : (b.takeScores s).creditDecisions g.id g.decisions with e | b₁
  · simp [hd, bind, Except.bind] at h
  · obtain rfl : _ = b' := by simpa [hd, bind, Except.bind, pure, Except.pure] using h
    exact ⟨b₁, rfl, fun side => BySide.get_ofFn ..⟩

/-- **Closing** keeps what plays have entered, and puts it under the final score. -/
theorem closed_close {final : Situation} (h : b.close g final = .ok b') (side : Side) :
    Closed final side (b.team side) (b'.team side) := by
  obtain ⟨b₁, hd, hteam⟩ := close_eq_ok h
  have hb := closed_creditDecisions hd (closed_takeScores b final side)
  rw [hteam]
  exact ⟨hb.samePlay.trans (samePlay_creditFinish ..), hb.runs, hb.hits, hb.errors, hb.leftOnBase⟩

theorem pitcherSide?_eq_none_iff {pitcher : String} :
    b.pitcherSide? pitcher = none ↔ ∀ side, pitcher ∉ (b.team side).pitcherNames := by
  have hany (side : Side) : (b.team side).pitchers.any (·.player == pitcher) ↔
      pitcher ∈ (b.team side).pitcherNames := by
    simp [pitcherNames]
  rw [pitcherSide?, List.find?_eq_none]
  constructor
  · intro h side hx
    exact h side (Side.mem_both side) ((hany side).mpr hx)
  · intro h side _ hx
    exact h side ((hany side).mp hx)

/-- A pitcher of record who cannot be credited has no line on either side. -/
theorem creditDecision_eq_error {pitcher? : Option String} {c : PitchingCounts} {e : ScoringError}
    (h : b.creditDecision gameId pitcher? c = .error e) :
    ∃ x, pitcher? = some x ∧ e = .unknownPlayer gameId x ∧
      ∀ side, x ∉ (b.team side).pitcherNames := by
  rcases pitcher? with _ | pitcher
  · cases h
  · rw [creditDecision] at h
    rcases hr : b.pitcherSide? pitcher with _ | r
    · simp only [hr] at h
      cases h
      exact ⟨pitcher, rfl, rfl, pitcherSide?_eq_none_iff.mp hr⟩
    · simp [hr] at h

theorem sameNames_creditDecision {pitcher? : Option String} {c : PitchingCounts}
    (hc : c.inPlay = 0) (h : b.creditDecision gameId pitcher? c = .ok b') (side : Side) :
    SameNames (b.team side) (b'.team side) := by
  obtain ⟨-, -, hplay⟩ := exists_creditDecision hc h side
  exact hplay.sameNames

/-- Whichever decision cannot be credited, its pitcher had no line before any of them was. -/
theorem creditDecisions_eq_error {d : Decisions} {e : ScoringError}
    (h : b.creditDecisions gameId d = .error e) :
    ∃ x ∈ d.toList, e = .unknownPlayer gameId x ∧ ∀ side, x ∉ (b.team side).pitcherNames := by
  rw [creditDecisions] at h
  rcases hw : b.creditDecision gameId d.winner? { w := 1 } with e₁ | b₁
  · rw [hw] at h
    cases h
    obtain ⟨x, hx, heq, hnoLine⟩ := creditDecision_eq_error hw
    exact ⟨x, by simp [Decisions.toList, hx], heq, hnoLine⟩
  have hwinner (side : Side) := sameNames_creditDecision rfl hw side
  rw [hw] at h
  simp only [bind, Except.bind] at h
  rcases hl : b₁.creditDecision gameId d.loser? { l := 1 } with e₂ | b₂
  · rw [hl] at h
    cases h
    obtain ⟨x, hx, heq, hnoLine⟩ := creditDecision_eq_error hl
    refine ⟨x, by simp [Decisions.toList, hx], heq, fun side => ?_⟩
    rw [← (hwinner side).pitchers]
    exact hnoLine side
  have hloser (side : Side) := (hwinner side).trans (sameNames_creditDecision rfl hl side)
  rw [hl] at h
  obtain ⟨x, hx, heq, hnoLine⟩ := creditDecision_eq_error h
  refine ⟨x, by simp [Decisions.toList, hx], heq, fun side => ?_⟩
  rw [← (hloser side).pitchers]
  exact hnoLine side

/-- **A game that cannot be closed** has a pitcher of record without a pitching line. -/
theorem close_eq_error {e : ScoringError} (h : b.close g s = .error e) :
    ∃ x ∈ g.decisions.toList, e = .unknownPlayer g.id x ∧
      ∀ side, x ∉ (b.team side).pitcherNames := by
  rw [close] at h
  rcases hd : (b.takeScores s).creditDecisions g.id g.decisions with e₁ | b₁
  · rw [hd] at h
    cases h
    obtain ⟨x, hx, heq, hnoLine⟩ := creditDecisions_eq_error hd
    refine ⟨x, hx, heq, fun side => ?_⟩
    rw [← (closed_takeScores b s side).samePlay.sameNames.pitchers]
    exact hnoLine side
  · rw [hd] at h
    cases h

end BoxScore

end Baseball
