import Baseball.Proofs.Finishing
import Mathlib.Data.List.Induction

/-!
# The shape of a team box

Who played where is said three times in a team box: in the positions that a stint lists, in the
fielding lines, and in the list of pitchers with a place in it for the one on the mound. Nothing
ties these together but the way in which somebody comes in, at the start of a game or later, and as
often as he likes. Credits look lines up by these names, so they have to be found, and to be the
only ones.

## The argument

Coming in adds the player and his position to what the stints list, and the line that this asks for
if there is none (`Shaped.enter`); a credit changes no name and no position (`Shaped.post`). So the
box that was opened is in shape, and stays so whatever the scorer is told. A call that he refuses
half way leaves what it has entered by then, which are the substitutes before the first whose slot
lineups do not have (`BoxScore.state_forEach_enter_induction`).

## Main definitions

* `TeamBox.listed` — the players and the positions that the stints list
* `TeamBox.Shaped` — the lines that these ask for, each of them once
* `Scorer.Call`, `Scorer.follow` — what a scorer is told during a game, and the scorer after it
* `Scorer.Call.entered` — the substitutes who come in by a call

## Main results

* `TeamBox.Shaped.enter` — whoever comes in leaves a box in shape
* `Scorer.follow_induction` — what holds of both sides of a game whatever the scorer is told
* `Scorer.shaped_follow` — the boxes are in shape, and who is on the mound
-/

namespace Baseball

namespace Stint

variable {x : String × Position}

/-- The player, with each position that his stint lists. -/
def posts (s : Stint) : List (String × Position) := s.positions.map (s.line.player, ·)

theorem mem_posts_addPosition (s : Stint) (p : Position) :
    x ∈ (s.addPosition p).posts ↔ x ∈ s.posts ∨ x = (s.line.player, p) := by
  rw [addPosition]
  split
  · next hp =>
    constructor
    · exact .inl
    · rintro (hx | rfl)
      · exact hx
      · exact List.mem_map_of_mem hp
  · rw [posts, List.map_append, List.mem_append, List.map_singleton, List.mem_singleton]
    rfl

/-- A position is added only if it is not listed yet. -/
theorem nodup_positions_addPosition {s : Stint} (h : s.positions ≠ [] ∧ s.positions.Nodup)
    (p : Position) : (s.addPosition p).positions ≠ [] ∧ (s.addPosition p).positions.Nodup := by
  rw [addPosition]
  split
  · exact h
  · next hp =>
    refine ⟨List.append_ne_nil_of_right_ne_nil _ (List.cons_ne_nil p []), ?_⟩
    rw [← List.concat_eq_append]
    exact h.2.concat hp

end Stint

namespace TeamBox

variable {gameId player : String} {slot : Nat} {p : Position} {t t' u : TeamBox}
  {x : String × Position}

/-! ### The positions that stints list -/

/-- The players with a stint, each with the positions it lists, slot by slot. -/
def listed (t : TeamBox) : List (String × Position) := t.stintsInOrder.flatMap Stint.posts

theorem mem_stintsInOrder {s : Stint} : s ∈ t.stintsInOrder ↔ s ∈ t.stints :=
  t.stintsInOrder_perm.mem_iff

theorem mem_listed : x ∈ t.listed ↔ x ∈ t.stints.flatMap Stint.posts :=
  (t.stintsInOrder_perm.flatMap_right _).mem_iff

/-- Whoever comes in is listed at his position. -/
theorem mem_listed_enter (h : t.enter gameId player slot p = .ok t') :
    x ∈ t'.listed ↔ x ∈ t.listed ∨ x = (player, p) := by
  obtain ⟨hs, rfl⟩ := enter_eq_ok_iff.mp h
  rw [mem_listed, mem_listed]
  rcases stints_enterStint_cases t gameId player ⟨slot, hs⟩ p with hold | ⟨-, happend⟩
  · obtain ⟨before, s, after, hstints, hplayer, hchanged⟩ := modifyFirst?_eq_some hold
    obtain rfl : s.line.player = player := by simpa using hplayer
    simp only [hstints, hchanged, List.flatMap_append, List.flatMap_cons, List.mem_append,
      Stint.mem_posts_addPosition]
    rw [or_right_comm (a := x ∈ s.posts), ← or_assoc]
  · rw [happend, List.flatMap_append, List.mem_append, List.flatMap_singleton, Stint.posts,
      List.map_singleton, List.mem_singleton]

/-- The stints list positions, and none of them twice, whoever comes in. -/
theorem positions_enter (h : ∀ s ∈ t.stints, s.positions ≠ [] ∧ s.positions.Nodup)
    (hin : t.enter gameId player slot p = .ok t') :
    ∀ s ∈ t'.stints, s.positions ≠ [] ∧ s.positions.Nodup := by
  obtain ⟨hs, rfl⟩ := enter_eq_ok_iff.mp hin
  rcases stints_enterStint_cases t gameId player ⟨slot, hs⟩ p with hold | ⟨-, happend⟩
  · obtain ⟨before, s, after, hstints, -, hchanged⟩ := modifyFirst?_eq_some hold
    rw [hstints, List.forall_mem_append, List.forall_mem_cons] at h
    rw [hchanged, List.forall_mem_append, List.forall_mem_cons]
    exact ⟨h.1, Stint.nodup_positions_addPosition h.2.1 p, h.2.2⟩
  · rw [happend]
    exact List.forall_mem_append.mpr ⟨h, List.forall_mem_singleton.mpr ⟨List.cons_ne_nil p [],
      List.nodup_singleton p⟩⟩

/-! ### The shape -/

/-- **A team box in shape.** -/
structure Shaped (t : TeamBox) : Prop where
  /-- In all slots together, nobody has two stints. -/
  nodup_players : (t.stintsInOrder.map fun s => s.line.player).Nodup
  /-- A stint lists a position, and none twice. -/
  positions : ∀ s ∈ t.stintsInOrder, s.positions ≠ [] ∧ s.positions.Nodup
  /-- Nobody has two fielding lines at one position. -/
  nodup_fieldingPosts : t.fieldingPosts.Nodup
  /-- A player has a fielding line exactly at the positions in the field that his stint lists. -/
  mem_fieldingPosts : ∀ x, x ∈ t.fieldingPosts ↔ x ∈ t.listed ∧ x.2.isFielding
  /-- Nobody has two pitching lines. -/
  nodup_pitcherNames : t.pitcherNames.Nodup
  /-- A player has a pitching line exactly if his stint lists the position of the pitcher. -/
  mem_pitcherNames : ∀ player, player ∈ t.pitcherNames ↔ (player, .pitcher) ∈ t.listed

theorem nodup_players_iff :
    (t.stintsInOrder.map fun s => s.line.player).Nodup ↔ t.batters.Nodup :=
  (t.stintsInOrder_perm.map _).nodup_iff

theorem shaped_opened (team gameId : String) : (TeamBox.opened team gameId).Shaped where
  nodup_players := nodup_players_iff.mpr List.nodup_nil
  positions _ hs := nomatch mem_stintsInOrder.mp hs
  nodup_fieldingPosts := List.nodup_nil
  mem_fieldingPosts x := by simp [fieldingPosts, mem_listed, opened]
  nodup_pitcherNames := List.nodup_nil
  mem_pitcherNames player := by simp [pitcherNames, mem_listed, opened]

/-- **Whoever comes in** leaves a box in shape, be it the first time or again. -/
theorem Shaped.enter (h : t.Shaped) (hin : t.enter gameId player slot p = .ok t') :
    t'.Shaped where
  nodup_players := by
    rw [nodup_players_iff]
    exact nodup_batters_enter (nodup_players_iff.mp h.nodup_players) hin
  positions := by
    simp only [mem_stintsInOrder]
    exact positions_enter (fun s hs => h.positions s (mem_stintsInOrder.mpr hs)) hin
  nodup_fieldingPosts := nodup_fieldingPosts_enter h.nodup_fieldingPosts hin
  mem_fieldingPosts x := by
    rw [mem_fieldingPosts_enter hin, mem_listed_enter hin, h.mem_fieldingPosts, or_and_right]
    refine or_congr_right (and_congr_right ?_)
    rintro rfl
    exact Iff.rfl
  nodup_pitcherNames := nodup_pitcherNames_enter h.nodup_pitcherNames hin
  mem_pitcherNames x := by
    rw [mem_pitcherNames_enter hin, mem_listed_enter hin, h.mem_pitcherNames, Prod.mk.injEq,
      eq_comm (a := Position.pitcher)]

/-- What the shape depends on: the names of the lines, and what the stints list. -/
theorem Shaped.of_same (h : t.Shaped) (hnames : SameNames t u)
    (hstints : u.stints.map (fun s => (s.line.player, s.positions)) =
      t.stints.map fun s => (s.line.player, s.positions)) : u.Shaped := by
  have hlisted (x : String × Position) : x ∈ u.listed ↔ x ∈ t.listed := by
    have hposts : u.stints.flatMap Stint.posts = t.stints.flatMap Stint.posts := by
      have hmap := congrArg (List.flatMap fun y => y.2.map (y.1, ·)) hstints
      rwa [List.flatMap_map, List.flatMap_map] at hmap
    rw [mem_listed, mem_listed, hposts]
  exact {
    nodup_players := by
      rw [nodup_players_iff, hnames.batters, ← nodup_players_iff]
      exact h.nodup_players
    positions := by
      simp only [mem_stintsInOrder]
      refine forall_of_map_eq (P := fun y => y.2 ≠ [] ∧ y.2.Nodup) hstints fun s hs => ?_
      exact h.positions s (mem_stintsInOrder.mpr hs)
    nodup_fieldingPosts := hnames.posts.symm ▸ h.nodup_fieldingPosts
    mem_fieldingPosts x := by rw [hnames.posts, hlisted, h.mem_fieldingPosts]
    nodup_pitcherNames := hnames.pitchers.symm ▸ h.nodup_pitcherNames
    mem_pitcherNames x := by rw [hnames.pitchers, hlisted, h.mem_pitcherNames] }

/-- A credit leaves a box in shape, whether it is made or refused. -/
theorem Shaped.post (h : t.Shaped) (gameId : String) (e : Entry) :
    (t.post gameId e).state.Shaped :=
  h.of_same (sameNames_post t gameId e) (map_stints_post t gameId e fun _ _ => rfl)

theorem Shaped.samePlay (h : t.Shaped) (hsame : SamePlay t u) : u.Shaped :=
  h.of_same hsame.sameNames (by rw [hsame.stints])

end TeamBox

namespace BoxScore

open TeamBox

/-- An opened box is in shape. -/
theorem shaped_openSide {g : Game} {side : Side} {t : TeamBox} (h : openSide g side = .ok t) :
    t.Shaped :=
  openSide_induction (P := fun _ t => t.Shaped) h (shaped_opened _ _) (fun ht hin => ht.enter hin)
    fun ht hsame => ht.samePlay hsame

end BoxScore

namespace Scorer

/-! ### What a scorer is told -/

/-- What a scorer is told during a game. Each time he is handed the game as well, which may be
another one. -/
inductive Call where
  | substitute (game : Game) (subs : List Substitution)
  | play (game : Game) (play : Play) (situation : Situation)

/-- What is left after a call. -/
def call (k : Scorer) : Call → Attempt Scorer
  | .substitute g subs => k.substitute g subs
  | .play g p s => k.play g p s

/-- The scorer after several calls, whether they were refused or not. -/
def follow (k : Scorer) (calls : List Call) : Scorer :=
  calls.foldl (fun k c => (k.call c).state) k

/-- The substitutes who come in by a call: those before the first whose slot lineups do not have. -/
def Call.entered : Call → List Substitution
  | .substitute _ subs => subs.takeWhile (·.slot < slotCount)
  | .play .. => []

open BoxScore TeamBox

variable {g : Game} {k k' : Scorer} {side : Side} {b : BoxScore}

theorem openGame_eq_ok (h : k.openGame g = .ok k') :
    ∃ b, k'.current? = some b ∧ ∀ side, openSide g side = .ok (b.team side) := by
  rw [openGame] at h
  split at h
  · next b hb =>
    obtain rfl := Attempt.ok_inj.mp h
    exact ⟨b, rfl, ofStarters_eq_ok hb⟩
  · cases (Attempt.eq_ok_iff.mp h).1

section Induction

variable {P : Side → List Substitution → TeamBox → Prop}
  (henter : ∀ {side done sub gameId t t'}, P side done t → sub.side = side →
    TeamBox.enter t gameId sub.player sub.slot sub.position = .ok t' → P side (done ++ [sub]) t')
  (hother : ∀ {side done sub t}, P side done t → sub.side ≠ side → P side (done ++ [sub]) t)
  (hpost : ∀ {side done t gameId e}, P side done t → P side done (TeamBox.post gameId t e).state)

include henter hother hpost

/-- One call, finished or refused. -/
theorem call_induction {done : List Substitution} (hk : k.current? = some b)
    (hb : ∀ side, P side done (b.team side)) (c : Call) :
    ∃ b', (k.call c).state.current? = some b' ∧
      ∀ side, P side (done ++ c.entered) (b'.team side) := by
  cases c with
  | substitute game subs =>
    rw [call, substitute, onCurrent, hk]
    exact ⟨_, rfl, fun side => state_forEach_enter_induction (P := P side) henter hother done subs
      (hb side)⟩
  | play game p s =>
    rw [call, play, onCurrent, hk, Call.entered, List.append_nil]
    exact ⟨_, rfl, fun side => postPlay_induction (P := P side done) (hb side) fun _ ht => hpost ht⟩

/-- **Both sides of a game, whatever the scorer is told**: what holds of their opened boxes, and is
kept by everybody who comes in and by every credit, holds after any calls. It may speak of those who
have come in so far. -/
theorem follow_induction (hopened : ∀ {side t}, openSide g side = .ok t → P side [] t)
    (h : k.openGame g = .ok k') (calls : List Call) :
    ∃ b, (k'.follow calls).current? = some b ∧
      ∀ side, P side (calls.flatMap Call.entered) (b.team side) := by
  induction calls using List.reverseRecOn with
  | nil =>
    obtain ⟨b, hb, hsides⟩ := openGame_eq_ok h
    exact ⟨b, hb, fun side => hopened (hsides side)⟩
  | append_singleton calls c ih =>
    obtain ⟨b, hb, hsides⟩ := ih
    rw [follow, List.foldl_append, List.flatMap_append, List.flatMap_singleton]
    exact call_induction henter hother hpost hb hsides c

end Induction

/-! ### The shape of the boxes -/

/-- What calls keep of a side: its box is in shape, its starting pitcher was listed, and on the
mound is whoever came in last as the pitcher. -/
theorem shaped_onMound?_follow (h : k.openGame g = .ok k') (calls : List Call) :
    ∃ b, (k'.follow calls).current? = some b ∧ ∀ side,
      (b.team side).Shaped ∧ (g.startingPitcher? side).isSome ∧ (b.team side).onMound? =
        Game.pitcherOf side (g.startingPitcher? side) (calls.flatMap Call.entered) := by
  refine follow_induction (P := fun side done t => t.Shaped ∧ (g.startingPitcher? side).isSome ∧
    t.onMound? = Game.pitcherOf side (g.startingPitcher? side) done) ?_ ?_ ?_ ?_ h calls
  · rintro side done sub gameId t t' ⟨hshaped, hstarter, hmound⟩ hside hin
    refine ⟨hshaped.enter hin, hstarter, ?_⟩
    rw [onMound?_enter hin, hmound, pitcherOf_append]
    simp [hside]
  · rintro side done sub t ⟨hshaped, hstarter, hmound⟩ hside
    rw [pitcherOf_append, if_neg fun h => hside h.1]
    exact ⟨hshaped, hstarter, hmound⟩
  · rintro side done t gameId e ⟨hshaped, hstarter, hmound⟩
    exact ⟨hshaped.post gameId e, hstarter, (onMound?_post ..).trans hmound⟩
  · intro side t hopen
    obtain ⟨hstarter, hpitched⟩ := pitched_openSide hopen
    exact ⟨shaped_openSide hopen, hstarter, hpitched.last⟩

/-- **The boxes of a game are in shape**, whatever the scorer has been told since it was opened, and
has refused. A side has a pitcher, and on the mound is whoever came in last as the pitcher by a
substitution, or the first starter at the position if there was none. -/
theorem shaped_follow (h : k.openGame g = .ok k') (calls : List Call) :
    ∃ b, (k'.follow calls).current? = some b ∧ ∀ side,
      (b.team side).Shaped ∧ (b.team side).pitchers ≠ [] ∧
      ∃ pitcher, (b.team side).onMound? = some pitcher ∧
        Game.pitcherOf side (g.startingPitcher? side) (calls.flatMap Call.entered) =
          some pitcher := by
  obtain ⟨b, hb, hsides⟩ := shaped_onMound?_follow h calls
  refine ⟨b, hb, fun side => ?_⟩
  obtain ⟨hshaped, hstarter, hmound⟩ := hsides side
  obtain ⟨pitcher, hpitcher⟩ := Option.isSome_iff_exists.mp
    (isSome_pitcherOf hstarter (calls.flatMap Call.entered))
  refine ⟨hshaped, ?_, pitcher, hmound.trans hpitcher, hpitcher⟩
  intro hnil
  rw [hpitcher, onMound?, currentPitcher?, hnil] at hmound
  cases hmound

/-- The home pitcher is relieved, and of the substitutes handed in with that the last is not
reached, since the one before him is refused. A play of another game is refused half way. Then the
pitcher comes back, to left field first. -/
def comeback : List Call :=
  [.substitute relievedGame [⟨"h9", .home, 1, .pitcher⟩, ⟨"v8", .visitor, 10, .catcher⟩,
      ⟨"v9", .visitor, 1, .pitcher⟩],
    .play returnedStarter (.ofKind .strikeout) (State.ofGame returnedStarter).situation,
    .substitute relievedGame [⟨"h1", .home, 2, .leftField⟩, ⟨"h1", .home, 2, .pitcher⟩]]

theorem shaped_follow_comeback : ∃ k b, openGame {} relievedGame = .ok k ∧
    (k.follow comeback).current? = some b ∧ (∀ side, (b.team side).Shaped) ∧
      (b.team .visitor).onMound? = some "v3" ∧ (b.team .home).onMound? = some "h1" := by
  have hopen : openGame {} relievedGame = .ok (openGame {} relievedGame).state :=
    Attempt.eq_ok_iff.mpr ⟨by decide +kernel, rfl⟩
  obtain ⟨b, hb, hsides⟩ := shaped_follow hopen comeback
  obtain ⟨hvisitors, -, v, hv, hlastV⟩ := hsides .visitor
  obtain ⟨hhosts, -, h, hh, hlastH⟩ := hsides .home
  have hlast : Game.pitcherOf .visitor (relievedGame.startingPitcher? .visitor)
        (comeback.flatMap Call.entered) = some "v3" ∧
      Game.pitcherOf .home (relievedGame.startingPitcher? .home)
        (comeback.flatMap Call.entered) = some "h1" := by decide +kernel
  refine ⟨_, b, hopen, hb, fun side => ?_, ?_, ?_⟩
  · cases side
    · exact hvisitors
    · exact hhosts
  · rw [hv, ← hlastV, hlast.1]
  · rw [hh, ← hlastH, hlast.2]

end Scorer

end Baseball
