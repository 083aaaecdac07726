import Baseball.Proofs.Known
import Baseball.Proofs.Roster
import Baseball.Proofs.Scorekeeping
import Baseball.Proofs.Innings

/-!
# Who is on the mound

The game and the box score both know the pitcher of a side, and neither asks the other. The game
looks at the post of the pitcher in its table of fielders; the box score keeps a place in its list
of pitchers. Somebody who comes in as the pitcher takes the post and the place. Somebody who comes
in elsewhere may vacate the post, by leaving it or by displacing the pitcher, but the place stays.
So the post may be empty; if it is not, the two agree.

They would not agree from the start if two men were listed as starting pitchers: the game would have
the second, and the box score the first.

## Main definitions

* `TeamBox.onMound?` — the pitcher on the mound, as the box score has it
* `TeamBox.Mans` — whoever holds the post of the pitcher is on the mound
* `Game.OnePitcher` — each side lists one starting pitcher

## Main results

* `BoxScore.Kept.mans` — the game and the box score agree on the pitcher, at every point of a game
-/

namespace Baseball

/-- Each side lists exactly one starter at the position of the pitcher. -/
def Game.OnePitcher (g : Game) : Prop :=
  ∀ side, (g.starters.get side).countP (·.position == .pitcher) = 1

instance (g : Game) : Decidable g.OnePitcher :=
  decidable_of_iff
    (∀ side ∈ Side.both, (g.starters.get side).countP (·.position == .pitcher) = 1)
    ⟨fun h side => h side (Side.mem_both side), fun h side _ => h side⟩

namespace TeamBox

variable {gameId player x : String} {slot : Nat} {p : Position} {t t' : TeamBox} {q q' : Squad}

/-! ### The box score's pitcher -/

/-- The pitcher on the mound. -/
def onMound? (t : TeamBox) : Option String := t.currentPitcher?.map PitchingLine.player

theorem onMound?_eq (t : TeamBox) : t.onMound? = t.pitcherNames[t.currentPitcher]? := by
  rw [onMound?, currentPitcher?, pitcherNames, List.getElem?_map]

theorem onMound?_enterPitcher (t : TeamBox) (gameId player : String) :
    (t.enterPitcher gameId player).onMound? = some player := by
  rw [enterPitcher, onMound?, currentPitcher?]
  split
  · next index h =>
    obtain ⟨hlt, hname, -⟩ := List.findIdx?_eq_some_iff_getElem.mp h
    rw [List.getElem?_eq_getElem hlt, Option.map_some]
    exact congrArg some (by simpa using hname)
  · rw [List.getElem?_concat_length, Option.map_some]

/-- Whoever comes in as the pitcher is on the mound; nobody else's coming changes who is. -/
theorem onMound?_enter (h : t.enter gameId player slot p = .ok t') :
    t'.onMound? = if p = .pitcher then some player else t.onMound? := by
  obtain ⟨hs, rfl⟩ := enter_eq_ok_iff.mp h
  by_cases hp : p = .pitcher
  · simp only [if_pos hp]
    exact onMound?_enterPitcher t gameId player
  · simp only [if_neg hp]
    rfl

/-- A credit does not change who is on the mound. -/
theorem onMound?_post (t : TeamBox) (gameId : String) (e : Entry) :
    (t.post gameId e).state.onMound? = t.onMound? := by
  rw [onMound?_eq, onMound?_eq, (sameNames_post t gameId e).pitchers,
    (team_currentPitcher_post t gameId e).2]

/-! ### Agreement -/

/-- **Whoever holds the post of the pitcher is on the mound.** -/
def Mans (t : TeamBox) (q : Squad) : Prop :=
  ∀ x, q.fielder? .pitcher = some x → t.onMound? = some x

/-- Somebody comes in, and takes the post if he is the pitcher. -/
theorem Mans.enter (hm : t.Mans q) (hq : q.Gains q' player p)
    (hpost : p = .pitcher → q'.fielder? .pitcher = some player)
    (h : t.enter gameId player slot p = .ok t') : t'.Mans q' := by
  intro x hx
  rw [onMound?_enter h]
  by_cases hp : p = .pitcher
  · rw [if_pos hp]
    exact (hpost hp).symm.trans hx
  · rw [if_neg hp]
    rcases hq.fielder? hx with ⟨-, hpitcher⟩ | hold
    · exact absurd hpitcher.symm hp
    · exact hm x hold

end TeamBox

/-! ### The game's pitcher -/

namespace Squad

theorem fielder?_seat_self (q : Squad) (player : String) {p : Position} (hp : hasPost p) :
    (q.seat player p).fielder? p = some player := by
  rw [fielder?_seat, if_pos ⟨rfl, hp⟩]

/-- A starter takes his post. -/
theorem fielder?_enterStarter (q : Squad) {s : Starter} (h : s.position = .pitcher) :
    (q.enterStarter s).fielder? .pitcher = some s.player := by
  rw [enterStarter, h]
  exact fielder?_seat_self _ _ rfl

/-- A substitute takes his post, whoever made way for him. -/
theorem fielder?_relief (q : Squad) {sub : Substitution} (h : sub.position = .pitcher) :
    (q.substitute sub).fielder? .pitcher = some sub.player := by
  rw [substitute, h]
  exact fielder?_seat_self _ _ rfl

end Squad

namespace BoxScore

open TeamBox

variable {g : Game} {gameId : String} {side : Side} {t u : TeamBox} {b b' : BoxScore} {s : State}
  {es : List Event} {e : Event} {sub : Substitution}

/-! ### Opening -/

theorem length_pitchers_enter {player : String} {slot : Nat} {p : Position}
    (h : t.enter gameId player slot p = .ok u) :
    u.pitchers.length ≤ t.pitchers.length + if p == .pitcher then 1 else 0 := by
  obtain ⟨hs, rfl⟩ := enter_eq_ok_iff.mp h
  by_cases hp : p = .pitcher
  · simp only [hp, if_pos, beq_self_eq_true]
    rw [enterPitcher]
    split
    · exact Nat.le_add_right _ _
    · rw [List.length_append, List.length_singleton]
  · simp only [if_neg hp]
    exact Nat.le_add_right _ _

theorem mans_empty (team gameId : String) : (TeamBox.opened team gameId).Mans (.ofStarters []) :=
  fun _ hx => absurd ((knows_empty (.opened team gameId)).pitcher hx) List.not_mem_nil

/-- While the starters come in, whoever holds the post is on the mound, and at most as many have a
pitching line as are listed at the position. -/
theorem mans_startFielders {starters : List Starter} {team : String}
    (h : starters.foldlM (startFielder gameId) (.opened team gameId) = .ok u) :
    u.Mans (.ofStarters starters) ∧
      u.pitchers.length ≤ starters.countP (·.position == .pitcher) := by
  refine foldlM_startFielder_induction
    (P := fun done t => t.Mans (.ofStarters done) ∧
      t.pitchers.length ≤ done.countP (·.position == .pitcher)) ?_ (fun ht _ => ht)
    [] ⟨mans_empty team gameId, Nat.zero_le _⟩ h
  rintro done starter t u ⟨hm, hlength⟩ henter
  constructor
  · rw [Squad.ofStarters, List.foldl_append]
    exact hm.enter (Squad.gains_enterStarter _ starter) (Squad.fielder?_enterStarter _) henter
  · rw [List.countP_append, List.countP_singleton]
    exact (length_pitchers_enter henter).trans (Nat.add_le_add_right hlength _)

/-- **An opened box** has the starting pitcher on the mound, if there is one starting pitcher. -/
theorem mans_openSide (hone : (g.starters.get side).countP (·.position == .pitcher) = 1)
    (h : openSide g side = .ok t) : t.Mans (.ofStarters (g.starters.get side)) := by
  obtain ⟨u, hstarters, hpitcher⟩ := openSide_eq_ok h
  obtain ⟨hm, hlength⟩ := mans_startFielders hstarters
  obtain ⟨first, rest, hp, rfl⟩ := startPitcher_eq_ok hpitcher
  intro x hx
  have hmound := hm x hx
  have hcurrent : u.currentPitcher = 0 := by
    rw [onMound?, currentPitcher?] at hmound
    obtain ⟨l, hl, -⟩ := Option.map_eq_some_iff.mp hmound
    have hlt := (List.getElem?_eq_some_iff.mp hl).1
    omega
  rw [onMound?, currentPitcher?, hcurrent, hp] at hmound
  exact hmound

/-! ### Whole games -/

/-- A play changes nobody's place on the mound. -/
theorem onMound?_postPlay (b : BoxScore) (gameId : String) (σ : Situation) (p : Play)
    (side : Side) :
    ((b.postPlay gameId σ p).state.team side).onMound? = (b.team side).onMound? :=
  postPlay_induction (P := fun t => t.onMound? = (b.team side).onMound?) rfl
    fun _ ht => (onMound?_post ..).trans ht

theorem mans_substitute (hm : ∀ side, (b.team side).Mans (s.side side).squad)
    (h : b.enter gameId sub = .ok b') (side : Side) :
    (b'.team side).Mans ((s.substitute sub).side side).squad := by
  obtain ⟨henter, hother⟩ := enter_eq_ok h
  rw [State.side_substitute]
  split
  · next hside =>
    subst hside
    exact (hm sub.side).enter (Squad.gains_substitute _ sub) (Squad.fielder?_relief _) henter
  · next hside =>
    rw [hother side hside]
    exact hm side

theorem mans_foldl_substitute {subs : List Substitution}
    (hm : ∀ side, (b.team side).Mans (s.side side).squad)
    (h : Attempt.forEach (enter gameId) b subs = .ok b') (side : Side) :
    (b'.team side).Mans ((subs.foldl State.substitute s).side side).squad := by
  induction subs generalizing s b with
  | nil =>
    obtain rfl : b = b' := (Attempt.eq_ok_iff.mp h).2
    exact hm side
  | cons sub subs ih =>
    obtain ⟨m, hm', hrest⟩ := Attempt.andThen_eq_ok.mp h
    exact ih (mans_substitute hm hm') hrest

/-- **The game and the box score agree on the pitcher**: at every point of a game, whoever holds the
post of the pitcher for a side is on the mound. -/
theorem Kept.mans (hone : g.OnePitcher) (h : Kept g es s b) (side : Side) :
    (b.team side).Mans (s.side side).squad := by
  induction h generalizing side with
  | opened hopen =>
    rw [State.side_ofGame]
    exact mans_openSide (hone side) (ofStarters_eq_ok hopen side)
  | @event es s s' b b' e before noted happened ih =>
    cases e with
    | play p =>
      obtain ⟨-, -, -, rfl⟩ := State.applyPlay_eq_ok_iff.mp happened
      have hb : (b.postPlay g.id s.situation p).state = b' := (Attempt.eq_ok_iff.mp noted).2
      intro x hx
      rw [State.squad_afterPlay] at hx
      rw [← hb, onMound?_postPlay]
      exact ih side x hx
    | noPlay subs =>
      obtain rfl : subs.foldl State.substitute s = s' := (Attempt.eq_ok_iff.mp happened).2
      exact mans_foldl_substitute ih noted side

/-- A game with one pitching change, made with a runner on second, for whom another runs from then
on. He scores on a double, and the man who hit it on a home run. -/
def relievedGame : Game where
  id := "relieved"
  date := default
  visitor := "visitors"
  home := "hosts"
  starters := ⟨[⟨"v1", 1, .catcher⟩, ⟨"v2", 2, .firstBase⟩, ⟨"v3", 3, .pitcher⟩],
    [⟨"h1", 1, .pitcher⟩, ⟨"h2", 2, .catcher⟩]⟩
  events := [.play (.ofKind .double),
    .noPlay [⟨"v9", .visitor, 1, .pinchRunner⟩, ⟨"h9", .home, 1, .pitcher⟩],
    .play { Play.ofKind .double with advance := ⟨.safe .second, .out, .scoredUnearned, .out⟩ },
    .play { Play.ofKind .homeRun with advance := ⟨.scored, .out, .scoredTeamUnearned, .out⟩ }]

end BoxScore

end Baseball
