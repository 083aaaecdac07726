import Baseball.Proofs.Innings
import Baseball.Proofs.Known
import Baseball.Proofs.Roster
import Baseball.Proofs.Scorekeeping

/-!
# Everybody is known

The game takes the men it names from squads and bases, where they come and go; the box score looks
them up among lines that are only ever added. Both are told of a substitution, at different moments,
and a pinch runner changes a name on the bases by itself. Still nobody is ever named who has no
line.

## What it takes

A pinch runner takes over from the man he displaces on whatever base that man stands, and nothing
says that the man is on his side. So the two sides must not share a player.

## Main definitions

* `Game.entered`, `Game.Apart` — who is entered for a side, and that nobody is entered for both
* `BoxScore.Follows` — the box knows the squads, and the men on the bases

## Main results

* `BoxScore.Follows.afterPlay`, `Follows.substitute` — every event keeps a box score following
* `BoxScore.Kept.follows` — so it follows a game to its end
* `BoxScore.known_throughout` — and only a pitcher of record may be unknown
-/

namespace Baseball

/-! ### The assumptions -/

/-- The players who are entered for a side, as starters or as substitutes. -/
def Game.entered (g : Game) (side : Side) : List String :=
  (g.starters.get side).map Starter.player
    ++ (g.substitutions.filter (·.side = side)).map Substitution.player

theorem Game.mem_entered_of_substitution {g : Game} {sub : Substitution}
    (h : sub ∈ g.substitutions) : sub.player ∈ g.entered sub.side := by
  refine List.mem_append_right _ (List.mem_map.mpr ⟨sub, ?_, rfl⟩)
  exact List.mem_filter.mpr ⟨h, decide_eq_true rfl⟩

/-- The two sides share no player. -/
def Game.Apart (g : Game) : Prop := (g.entered .visitor).Disjoint (g.entered .home)

theorem Game.Apart.eq {g : Game} (h : g.Apart) {x : String} {side r : Side}
    (hside : x ∈ g.entered side) (hr : x ∈ g.entered r) : side = r := by
  cases side with
  | visitor =>
    cases r with
    | visitor => rfl
    | home => exact absurd hr (h hside)
  | home =>
    cases r with
    | visitor => exact absurd hside (h hr)
    | home => rfl

/-- A game all of whose plays name fielders at positions in the field. -/
def Game.InField (g : Game) : Prop := ∀ p, .play p ∈ g.events → p.InField

namespace BoxScore

open TeamBox

variable {g : Game} {gameId : String} {s : State} {σ : Situation} {p : Play} {b b' : BoxScore}
  {sub : Substitution} {es : List Event}

/-! ### Following a game -/

/-- **A box score follows a game**: it knows the squads and the men on base, and everybody who has a
stint in it was entered for the side. -/
structure Follows (g : Game) (s : State) (b : BoxScore) : Prop where
  squads : ∀ side, (b.team side).Knows (s.side side).squad
  runners : ∀ {base r}, s.bases.get base = some r → r.player ∈ (b.team s.half).batters
  pitchers : ∀ {base r}, s.bases.get base = some r → r.pitcher ∈ (b.team s.fielding).pitcherNames
  entered : ∀ {side x}, x ∈ (b.team side).batters → x ∈ g.entered side

/-- Then it knows everybody whom the game may name. -/
theorem Follows.knows (hf : Follows g s b) : b.Knows s.situation where
  batter hx := (hf.squads s.half).lineup hx
  runner {base x} hx := by
    obtain ⟨r, hr, rfl⟩ := Option.map_eq_some_iff.mp hx
    exact hf.runners hr
  responsiblePitcher {base x} hx := by
    obtain ⟨r, hr, rfl⟩ := Option.map_eq_some_iff.mp hx
    exact hf.pitchers hr
  fielder {side q x} hq hx := (hf.squads side).fielder hq hx

theorem follows_ofStarters (h : ofStarters g = .ok b) : Follows g (.ofGame g) b where
  squads side := by
    rw [State.side_ofGame]
    exact knows_openSide (ofStarters_eq_ok h side)
  runners {base r} hr := by
    cases (Bases.get_empty base).symm.trans hr
  pitchers {base r} hr := by
    cases (Bases.get_empty base).symm.trans hr
  entered {side x} hx := List.mem_append_left _ (batters_openSide (ofStarters_eq_ok h side) x hx)

/-- Posting a play tells the box nothing about who is in the game. -/
theorem Follows.of_sameNames (hf : Follows g s b)
    (h : ∀ side, SameNames (b.team side) (b'.team side)) : Follows g s b' where
  squads side := (hf.squads side).of_sameNames (h side)
  runners hr := by
    rw [(h s.half).batters]
    exact hf.runners hr
  pitchers hr := by
    rw [(h s.fielding).pitchers]
    exact hf.pitchers hr
  entered {side x} hx := by
    rw [(h side).batters] at hx
    exact hf.entered hx

/-- A play puts nobody on base but the batter and the men who were there. -/
theorem Follows.man_of_advance (hf : Follows g s b) {base : Base} {r : Runner}
    (hr : (s.bases.advance (s.newRunner? p) p.advance).get base = some r) :
    r.player ∈ (b.team s.half).batters ∧ r.pitcher ∈ (b.team s.fielding).pitcherNames := by
  rcases Bases.man_of_get_advance hr with hnew | ⟨c, hold⟩
  · rw [State.newRunner?] at hnew
    split at hnew
    · obtain ⟨batter, hbatter, hmap⟩ := Option.bind_eq_some_iff.mp hnew
      obtain ⟨pitcher, hpitcher, rfl⟩ := Option.map_eq_some_iff.mp hmap
      exact ⟨(hf.squads s.half).lineup hbatter, (hf.squads s.fielding).pitcher hpitcher⟩
    · cases hnew
  · exact ⟨hf.runners hold, hf.pitchers hold⟩

/-- After it the bases are empty, or the same side is at bat. -/
theorem Follows.man_afterPlay (hf : Follows g s b) {base : Base} {r : Runner}
    (hr : (s.afterPlay p (s.newRunner? p)).bases.get base = some r) :
    r.player ∈ (b.team (s.afterPlay p (s.newRunner? p)).half).batters ∧
      r.pitcher ∈ (b.team (s.afterPlay p (s.newRunner? p)).fielding).pitcherNames := by
  rcases s.bases_afterPlay_cases p (s.newRunner? p) with hempty | ⟨hbases, hhalf⟩
  · rw [hempty, Bases.get_empty] at hr
    cases hr
  · rw [hbases] at hr
    rw [State.fielding, hhalf]
    exact hf.man_of_advance hr

/-- **A play keeps a box score following**: it names nobody new. -/
theorem Follows.afterPlay (hf : Follows g s b) : Follows g (s.afterPlay p (s.newRunner? p)) b where
  squads side := by
    rw [State.squad_afterPlay]
    exact hf.squads side
  runners hr := (hf.man_afterPlay hr).1
  pitchers hr := (hf.man_afterPlay hr).2
  entered := hf.entered

theorem namesIn_enterOne (b : BoxScore) (gameId : String) (sub : Substitution) (side : Side) :
    NamesIn (b.team side) ((b.enter gameId sub).state.team side) := by
  rcases team_enter_cases b gameId sub side with hsame | ⟨rfl, henter⟩
  · rw [hsame]
    exact .refl _
  · exact namesIn_enter henter

/-- A box score with more names knows as much. -/
theorem Knows.of_namesIn (hk : b.Knows σ) (h : ∀ side, NamesIn (b.team side) (b'.team side)) :
    b'.Knows σ where
  batter hx := (h σ.half).batters (hk.batter hx)
  runner hx := (h σ.half).batters (hk.runner hx)
  responsiblePitcher hx := (h σ.half.opponent).pitchers (hk.responsiblePitcher hx)
  fielder {side _ _} hq hx := (h side).posts (hk.fielder hq hx)

/-- **Where a substitute stands.** A man on base is somebody who was on base, or a pinch runner for
him; and that is the other side's man only if the sides share a player. -/
theorem Follows.player_of_basesAfter (hf : Follows g s b) (hapart : g.Apart)
    (hin : ∀ side, NamesIn (b.team side) (b'.team side))
    (hsub : sub.player ∈ (b'.team sub.side).batters) {base : Base} {r : Runner}
    (hr : (s.basesAfter sub).get base = some r) :
    r.player ∈ (b'.team s.half).batters ∧ r.pitcher ∈ (b'.team s.fielding).pitcherNames := by
  have hstay {r : Runner} (h : s.bases.get base = some r) :
      r.player ∈ (b'.team s.half).batters ∧ r.pitcher ∈ (b'.team s.fielding).pitcherNames :=
    ⟨(hin s.half).batters (hf.runners h), (hin s.fielding).pitchers (hf.pitchers h)⟩
  rw [State.basesAfter] at hr
  split at hr
  · next old hold =>
    split at hr
    · rw [Bases.get_rename] at hr
      obtain ⟨r₀, hr₀, rfl⟩ := Option.map_eq_some_iff.mp hr
      split
      · next hname =>
        have hslot : (s.side sub.side).squad.playerAt? sub.slot = some old :=
          (Option.filter_eq_some_iff.mp hold).1
        have hside : sub.side = s.half :=
          hapart.eq (hf.entered ((hf.squads sub.side).lineup hslot))
            (hname ▸ hf.entered (hf.runners hr₀))
        exact ⟨hside ▸ hsub, (hstay hr₀).2⟩
      · exact hstay hr₀
    · exact hstay hr
  · exact hstay hr

/-- **A substitution keeps a box score following**: the box takes the substitute in before the game
does. -/
theorem Follows.substitute (hf : Follows g s b) (hapart : g.Apart) (hsub : sub ∈ g.substitutions)
    (h : b.enter gameId sub = .ok b') : Follows g (s.substitute sub) b' := by
  obtain ⟨henter, hother⟩ := enter_eq_ok h
  have hin (side : Side) : NamesIn (b.team side) (b'.team side) :=
    (Attempt.eq_ok_iff.mp h).2 ▸ namesIn_enterOne b gameId sub side
  have hplayer : sub.player ∈ (b'.team sub.side).batters :=
    (mem_batters_enter henter).mpr (.inr rfl)
  constructor
  case squads =>
    intro side
    rw [State.side_substitute]
    split
    · next hside =>
      rw [hside]
      exact (hf.squads sub.side).enter (Squad.gains_substitute _ sub) henter
    · next hside =>
      rw [hother side hside]
      exact hf.squads side
  case runners =>
    intro base r hr
    exact (hf.player_of_basesAfter hapart hin hplayer hr).1
  case pitchers =>
    intro base r hr
    exact (hf.player_of_basesAfter hapart hin hplayer hr).2
  case entered =>
    intro side x hx
    by_cases hside : side = sub.side
    · subst hside
      rcases (mem_batters_enter henter).mp hx with hold | rfl
      · exact hf.entered hold
      · exact Game.mem_entered_of_substitution hsub
    · rw [hother side hside] at hx
      exact hf.entered hx

theorem Follows.substitutes {subs : List Substitution} (hf : Follows g s b) (hapart : g.Apart)
    (hsubs : ∀ sub ∈ subs, sub ∈ g.substitutions)
    (h : Attempt.forEach (enter gameId) b subs = .ok b') :
    Follows g (subs.foldl State.substitute s) b' := by
  induction subs generalizing s b with
  | nil =>
    obtain rfl : b = b' := (Attempt.eq_ok_iff.mp h).2
    exact hf
  | cons sub subs ih =>
    obtain ⟨m, hm, hrest⟩ := Attempt.andThen_eq_ok.mp h
    exact ih (hf.substitute hapart (hsubs sub List.mem_cons_self) hm)
      (fun x hx => hsubs x (List.mem_cons_of_mem sub hx)) hrest

/-- **At every point of a game the box score follows it.** -/
theorem Kept.follows (hapart : g.Apart) (h : Kept g es s b) (hes : es <+: g.events) :
    Follows g s b := by
  induction h with
  | opened hopen => exact follows_ofStarters hopen
  | @event es s s' b b' e before noted happened ih =>
    have hf := ih ((List.prefix_append es [e]).trans hes)
    cases e with
    | play p =>
      obtain ⟨-, -, -, rfl⟩ := State.applyPlay_eq_ok_iff.mp happened
      have hb : (b.postPlay g.id s.situation p).state = b' := (Attempt.eq_ok_iff.mp noted).2
      have hsame (side : Side) : SameNames (b.team side) (b'.team side) :=
        hb ▸ sameNames_postPlay b g.id s.situation p side
      exact hf.afterPlay.of_sameNames hsame
    | noPlay subs =>
      obtain rfl : subs.foldl State.substitute s = s' := (Attempt.eq_ok_iff.mp happened).2
      refine hf.substitutes hapart (fun sub hsub => ?_) noted
      have he : Event.noPlay subs ∈ g.events :=
        hes.subset (List.mem_append_right _ List.mem_cons_self)
      exact List.mem_flatMap.mpr ⟨_, he, hsub⟩

/-! ### Errors -/

theorem namesIn_note (b : BoxScore) (gameId : String) (σ : Situation) (e : Event) (side : Side) :
    NamesIn (b.team side) ((b.note gameId σ e).state.team side) := by
  cases e with
  | play p => exact (sameNames_postPlay b gameId σ p side).namesIn
  | noPlay subs =>
    exact Attempt.state_forEach (P := fun b' => NamesIn (b.team side) (b'.team side)) (.refl _)
      fun b' sub _ h => h.trans (namesIn_enterOne b' gameId sub side)

/-- An event never meets a player who is unknown. -/
theorem Knows.error?_note_ne (hk : b.Knows σ) {e : Event} (he : ∀ p, e = .play p → p.InField)
    (id player : String) : (b.note gameId σ e).error? ≠ some (.unknownPlayer id player) := by
  intro herr
  cases e with
  | play p => exact hk.error?_postPlay_ne (he p rfl) id player herr
  | noPlay subs =>
    obtain ⟨b', -, sub, -, herr⟩ := Attempt.error?_forEach_eq_some (P := fun _ => True) trivial
      (fun _ _ _ _ => trivial) herr
    cases error?_enter herr

/-- **Everybody is known throughout a game.** -/
theorem known_throughout (hapart : g.Apart) (hfield : g.InField) :
    (∀ es s b, es <+: g.events → Kept g es s b →
      b.Knows s.situation ∧
      (∀ e, (b.note g.id s.situation e).state.Knows s.situation) ∧
      ∀ p, p.InField → ∀ id x,
        (b.postPlay g.id s.situation p).error? ≠ some (.unknownPlayer id x)) ∧
    ∀ id x, ofGame g = .error (.unknownPlayer id x) →
      id = g.id ∧ x ∈ g.decisions.toList ∧
        ∃ s b, Kept g g.events s b ∧ ∀ side, x ∉ (b.team side).pitcherNames := by
  have hknows {es s b} (hes : es <+: g.events) (h : Kept g es s b) : b.Knows s.situation :=
    (h.follows hapart hes).knows
  constructor
  · intro es s b hes h
    refine ⟨hknows hes h, fun e => ?_, fun p hp => (hknows hes h).error?_postPlay_ne hp⟩
    exact (hknows hes h).of_namesIn (namesIn_note b g.id s.situation e)
  · intro id x herr
    rcases ofGame_cases g with ⟨error, hopen, hmade⟩ | ⟨error, hbreak, hmade⟩ | ⟨s, b, hkept, hmade⟩
    · obtain rfl : error = .unknownPlayer id x := Except.error.inj (hmade.symm.trans herr)
      exact absurd hopen (ofStarters_ne_error g id x)
    · obtain rfl : error = .unknownPlayer id x := Except.error.inj (hmade.symm.trans herr)
      obtain ⟨es, e, s, b, hes, hkept, hnoted | happened⟩ := hbreak
      · have hk := hknows ((List.prefix_append es [e]).trans hes) hkept
        refine absurd hnoted (hk.error?_note_ne (fun p hp => hfield p ?_) id x)
        exact hp ▸ hes.subset (List.mem_append_right _ List.mem_cons_self)
      · cases e with
        | play p =>
          rcases State.applyPlay_failed happened with ⟨hcause, -⟩ | ⟨hcause, -⟩ | ⟨hcause, -⟩ <;>
            cases hcause
        | noPlay subs => cases happened
    · obtain ⟨y, hy, heq, hnoLine⟩ := close_eq_error (hmade.symm.trans herr)
      obtain ⟨rfl, rfl⟩ : id = g.id ∧ x = y := by simpa using heq
      exact ⟨rfl, hy, s, b, hkept, hnoLine⟩

/-- A game won, as its scorer has it, by somebody who did not pitch. -/
def strangerWins : Game where
  id := "stranger"
  date := default
  visitor := "visitors"
  home := "hosts"
  starters := ⟨[⟨"v1", 1, .pitcher⟩, ⟨"v2", 2, .catcher⟩], [⟨"h1", 1, .pitcher⟩]⟩
  events := [.play (.ofKind .single), .noPlay [⟨"v3", .visitor, 1, .pinchRunner⟩]]
  decisions := { winner? := some "v2" }

theorem known_throughout_strangerWins : strangerWins.Apart ∧ strangerWins.InField ∧
    ∃ s b, Kept strangerWins strangerWins.events s b ∧ b.Knows s.situation ∧
      ∀ side, "v2" ∉ (b.team side).pitcherNames := by
  have hapart : strangerWins.Apart := by
    have hvisitor : ∀ x ∈ strangerWins.entered .visitor, x ∉ strangerWins.entered .home := by
      decide +kernel
    exact fun x hx hy => hvisitor x hx hy
  have hfield : strangerWins.InField := by
    intro p hp
    obtain rfl : p = .ofKind .single := by simpa [strangerWins] using hp
    decide
  obtain ⟨hpoints, herrors⟩ := known_throughout hapart hfield
  obtain ⟨-, -, s, b, hkept, hnoLine⟩ := herrors "stranger" "v2" rfl
  exact ⟨hapart, hfield, s, b, hkept, (hpoints _ s b (List.prefix_refl _) hkept).1, hnoLine⟩

end BoxScore

end Baseball
