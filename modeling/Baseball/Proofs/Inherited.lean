import Baseball.Proofs.Mound
import Baseball.Proofs.Personal
import Baseball.Proofs.Together

/-!
# Inherited runners

A run is charged when it scores, many events after the man who scores it came to bat. By then the
pitcher may have been changed, more than once, and the man may have been replaced by a pinch runner.
The game carries the name of the pitcher with the runner; the box score asks for that name, and only
for the batter does it know the pitcher itself.

Here every man carries a label instead: the play at which he batted, with the state and the box
score it was made in. The labels stay on the bases when men are replaced, and are moved as the men
are moved. A line of a pitcher counts exactly the runs whose labels name him.

## Main definitions

* `Moment` — a play, with the state and the box score it was made in
* `Moment.men`, `Moment.after`, `Moment.runs` — the labels that a play meets, leaves and brings home
* `Game.labelledRuns` — the runs of a game, each with the label of the man who scored it

## Main results

* `BoxScore.Kept.balance_labelledRuns` — pitching lines add up to what the labelled runs are worth
* `BoxScore.inherited_ofGame` — the runs and earned runs of a pitching line
-/

namespace Baseball

/-! ### Labels -/

/-- A play, with the state and the box score it was made in. -/
structure Moment where
  state : State
  box : BoxScore
  play : Play

namespace Moment

/-- The pitcher on the mound. -/
def pitcher? (m : Moment) : Option String := (m.box.team m.state.fielding).onMound?

/-- Whether a pitcher of a side was on the mound. -/
def pitchedBy (m : Moment) (side : Side) (pitcher : String) : Bool :=
  m.state.fielding == side && m.pitcher? == some pitcher

/-- The men whom a play may move, each with the play at which he batted; the batter bats at this
one, if his plate appearance ends. -/
def men (m : Moment) (labels : Base → Option Moment) : Origin → Option Moment
  | .plate => if m.play.batterEvent then some m else none
  | .on base => labels base

/-- The labels of the men on base after a play: none after three outs, and otherwise those of the
men who were sent there, the last to move if there were several. -/
def after (m : Moment) (labels : Base → Option Moment) (base : Base) : Option Moment :=
  if 3 ≤ m.state.outs + m.play.outs then none
  else Origin.all.findSome? fun o =>
    if (m.play.advance.get o).base? = some base then m.men labels o else none

/-- The runs that score on a play, with the labels of the men who score them. -/
def runs (m : Moment) (labels : Base → Option Moment) : List (Moment × Destination) :=
  Origin.all.filterMap fun o =>
    if (m.play.advance.get o).isRun then (m.men labels o).map (·, m.play.advance.get o) else none

end Moment

/-- The runs that score on some events, each with the label of the man who scores it. A substitution
leaves the labels where they are, so a pinch runner takes over the label with the base. -/
def labelledRuns (gameId : String) (s : State) (b : BoxScore) (labels : Base → Option Moment) :
    List Event → List (Moment × Destination)
  | [] => []
  | .play p :: es =>
    Moment.runs ⟨s, b, p⟩ labels ++ labelledRuns gameId (s.applyPlay gameId p).state
      (b.postPlay gameId s.situation p).state (Moment.after ⟨s, b, p⟩ labels) es
  | .noPlay subs :: es =>
    labelledRuns gameId (subs.foldl State.substitute s)
      (Attempt.forEach (BoxScore.enter gameId) b subs).state labels es

/-- The runs of a game, each with the label of the man who scored it. -/
def Game.labelledRuns (g : Game) : List (Moment × Destination) :=
  match BoxScore.ofStarters g with
  | .ok b => Baseball.labelledRuns g.id (.ofGame g) b (fun _ => none) g.events
  | .error _ => []

/-- A run that is charged as earned has the destination 4 or 6. -/
theorem Destination.isEarnedToPitcher_eq (d : Destination) :
    d.isEarnedToPitcher = (d.code == 4 || d.code == 6) := by
  rcases d with _ | (_ | _ | _) | _ | _ | _ <;> rfl

/-! ### The labels of the men on base -/

theorem rel_findSome? {ι α β : Type} {R : α → β → Prop} {f : ι → Option α} {h : ι → Option β}
    (hR : ∀ i, Option.Rel R (f i) (h i)) (l : List ι) :
    Option.Rel R (l.findSome? f) (l.findSome? h) := by
  induction l with
  | nil => exact .none
  | cons i l ih =>
    rw [List.findSome?_cons, List.findSome?_cons]
    have hi := hR i
    revert hi
    generalize f i = a
    generalize h i = b
    rintro (hab | _)
    · exact .some hab
    · exact ih

namespace State

variable {gameId : String} {s s' : State} {b : BoxScore} {p : Play} {labels : Base → Option Moment}

/-- A man and his label: he batted in this half, and the pitcher he carries was on the mound. -/
def Carries (s : State) (r : Runner) (m : Moment) : Prop :=
  m.state.half = s.half ∧ m.pitcher? = some r.pitcher

/-- **Every man on base has his label**, and nobody else has one. -/
def Labelled (s : State) (labels : Base → Option Moment) : Prop :=
  ∀ base, Option.Rel s.Carries (s.bases.get base) (labels base)

theorem labelled_ofGame (g : Game) : Labelled (.ofGame g) fun _ => none := by
  intro base
  have hempty : (State.ofGame g).bases.get base = none := Bases.get_empty base
  rw [hempty]
  exact .none

/-- The men whom a play may move have their labels: the batter's pitcher is the one on the mound. -/
theorem Labelled.men (hl : s.Labelled labels)
    (hm : (b.team s.fielding).Mans (s.side s.fielding).squad)
    (happlied : s.applyPlay gameId p = .ok s') (o : Origin) :
    Option.Rel s.Carries (s.bases.man? (s.newRunner? p) o) (Moment.men ⟨s, b, p⟩ labels o) := by
  obtain ⟨-, hbatter, -⟩ := applyPlay_eq_ok_iff.mp happlied
  cases o with
  | on base => exact hl base
  | plate =>
    rw [Bases.man?, Moment.men]
    by_cases hp : p.batterEvent
    · obtain ⟨r, hr⟩ := Option.isSome_iff_exists.mp (hbatter.trans hp)
      have hnew := hr
      rw [newRunner?, if_pos hp] at hnew
      obtain ⟨batter, -, hmap⟩ := Option.bind_eq_some_iff.mp hnew
      obtain ⟨pitcher, hpitcher, rfl⟩ := Option.map_eq_some_iff.mp hmap
      rw [hr, if_pos hp]
      exact .some ⟨rfl, hm pitcher hpitcher⟩
    · rw [newRunner?, if_neg hp, if_neg hp]
      exact .none

/-- **A play moves the labels as it moves the men.** -/
theorem Labelled.after (hl : s.Labelled labels)
    (hm : (b.team s.fielding).Mans (s.side s.fielding).squad)
    (happlied : s.applyPlay gameId p = .ok s') :
    s'.Labelled (Moment.after ⟨s, b, p⟩ labels) := by
  obtain ⟨-, -, -, rfl⟩ := applyPlay_eq_ok_iff.mp happlied
  intro base
  have hbases := bases_afterPlay s p (s.newRunner? p)
  simp only [Moment.after]
  split at hbases
  · next h3 =>
    rw [if_pos h3, hbases, Bases.get_empty]
    exact .none
  · next h3 =>
    obtain ⟨hadvance, hhalf⟩ := hbases
    have hcarries : (s.afterPlay p (s.newRunner? p)).Carries = s.Carries := by
      funext r m
      rw [Carries, Carries, hhalf]
    rw [if_neg h3, hadvance, Bases.get_advance, hcarries]
    refine rel_findSome? (fun o => ?_) _
    split
    · exact hl.men hm happlied o
    · exact .none

/-- **Substitutions leave the labels where they are.** -/
theorem Labelled.foldl_substitute (hl : s.Labelled labels) (subs : List Substitution) :
    (subs.foldl substitute s).Labelled labels := by
  intro base
  have hsame := SameCount.foldl_substitute s subs
  have hcarries {r r' : Runner} {m : Moment} (hr : r'.pitcher = r.pitcher) (hm : s.Carries r m) :
      (subs.foldl substitute s).Carries r' m := ⟨hm.1.trans hsame.half.symm, hr ▸ hm.2⟩
  have hpitchers := hsame.pitchers base
  have hbase := hl base
  revert hpitchers hbase
  generalize s.bases.get base = before
  generalize (subs.foldl substitute s).bases.get base = now
  generalize labels base = label
  rintro hpitchers (hm | _)
  · obtain ⟨r, rfl, hr⟩ := Option.map_eq_some_iff.mp hpitchers
    exact .some (hcarries hr hm)
  · rw [Option.map_eq_none_iff.mp hpitchers]
    exact .none

end State

/-! ### What the labelled runs are worth -/

namespace Account

variable {M : Type} [AddCommMonoid M] {w : String → PitchingCounts →+ M}
  {hw : ∀ x c, w x c.inPlay = w x c} {g : Game} {gameId : String} {s s' : State} {b b' : BoxScore}
  {p : Play} {labels : Base → Option Moment} {es rest : List Event}

/-- What a labelled run is worth to the pitching lines of a side: its charge to the pitcher whom the
label names. -/
def runWorth (w : String → PitchingCounts →+ M) (side : Side) (run : Moment × Destination) : M :=
  if side = run.1.state.fielding then
    run.1.pitcher?.elim 0 fun pitcher => w pitcher (Play.runCharge run.2)
  else 0

/-- To the line of one player only those runs are worth something whose labels name him. -/
theorem runWorth_ofPlayer (x : String) (f : PitchingCounts →+ M) (side : Side)
    (run : Moment × Destination) :
    runWorth (ofPlayer x f) side run =
      if run.1.pitchedBy side x then f (Play.runCharge run.2) else 0 := by
  rw [runWorth, Moment.pitchedBy]
  by_cases hside : side = run.1.state.fielding
  · rw [if_pos hside, ← hside, beq_self_eq_true, Bool.true_and]
    rcases run.1.pitcher? with _ | pitcher
    · rfl
    · rw [Option.elim_some, ofPlayer_apply]
      simp
  · rw [if_neg hside, beq_eq_false_iff_ne.mpr fun hfielding => hside hfielding.symm]
    rfl

theorem sum_map_filterMap {α β : Type} (f : α → Option β) (h : β → M) (l : List α) :
    ((l.filterMap f).map h).sum = (l.map fun a => (f a).elim 0 h).sum := by
  induction l with
  | nil => rfl
  | cons a l ih =>
    rw [List.map_cons, List.sum_cons, ← ih, List.filterMap_cons]
    cases f a with
    | none => exact (zero_add _).symm
    | some x => exact List.sum_cons

/-- The men whom the box score sees, and whom it charges, are those that the play moves with the
pitchers they carry. -/
theorem man?_charged? (hm : (b.team s.fielding).Mans (s.side s.fielding).squad)
    (happlied : s.applyPlay gameId p = .ok s') (o : Origin) :
    BoxScore.man? s.situation p o = (s.bases.man? (s.newRunner? p) o).map Runner.player ∧
      ∀ r, s.bases.man? (s.newRunner? p) o = some r →
        BoxScore.charged? s.situation (b.team s.fielding).onMound? o = some r.pitcher := by
  obtain ⟨hpitcher, -, -⟩ := State.applyPlay_eq_ok_iff.mp happlied
  obtain ⟨pitcher, hpitcher⟩ := Option.isSome_iff_exists.mp hpitcher
  cases o with
  | on base =>
    refine ⟨rfl, fun r hr => ?_⟩
    have hbase : s.bases.get base = some r := hr
    have hcharged : BoxScore.charged? s.situation (b.team s.fielding).onMound? (.on base)
        = (s.bases.get base).map Runner.pitcher := rfl
    rw [hcharged, hbase, Option.map_some]
  | plate =>
    have hbatter : s.situation.batter? = s.batter? := rfl
    rw [Bases.man?, BoxScore.man?, State.newRunner?, hpitcher, hbatter]
    cases p.batterEvent with
    | false =>
      refine ⟨rfl, fun r hr => ?_⟩
      cases hr
    | true =>
      rcases s.batter? with _ | batter
      · refine ⟨rfl, fun r hr => ?_⟩
        cases hr
      · refine ⟨rfl, fun r hr => ?_⟩
        obtain rfl : (⟨batter, pitcher⟩ : Runner) = r := Option.some.inj hr
        exact hm pitcher hpitcher

/-- The run that a man scores, if he scores, is charged to the pitcher whom his label names. -/
theorem elim_runWorth (side : Side) (hl : s.Labelled labels)
    (hm : (b.team s.fielding).Mans (s.side s.fielding).squad)
    (happlied : s.applyPlay gameId p = .ok s') (o : Origin) :
    (if (p.advance.get o).isRun then
        (Moment.men ⟨s, b, p⟩ labels o).map (·, p.advance.get o) else none).elim 0
      (runWorth w side) =
    if side = s.fielding then
      (BoxScore.man? s.situation p o).elim 0 fun _ =>
        if (p.advance.get o).isRun then
          (BoxScore.charged? s.situation (b.team s.fielding).onMound? o).elim 0 fun x =>
            w x (Play.runCharge (p.advance.get o))
        else 0
    else 0 := by
  obtain ⟨hman, hcharged⟩ := man?_charged? hm happlied o
  have hlabel := hl.men hm happlied o
  rw [hman]
  revert hcharged hlabel
  generalize s.bases.man? (s.newRunner? p) o = man
  generalize Moment.men ⟨s, b, p⟩ labels o = label
  rintro hcharged (⟨hhalf, hpitcher⟩ | _)
  · next r m =>
    have hfielding : m.state.fielding = s.fielding := congrArg Side.opponent hhalf
    rw [Option.map_some, Option.map_some, Option.elim_some, hcharged r rfl, Option.elim_some]
    cases (p.advance.get o).isRun with
    | false => exact (ite_self 0).symm
    | true =>
      have hworth : runWorth w side (m, p.advance.get o) =
          if side = m.state.fielding then
            m.pitcher?.elim 0 fun x => w x (Play.runCharge (p.advance.get o)) else 0 := rfl
      rw [if_pos rfl, if_pos rfl, Option.elim_some, hworth, hfielding, hpitcher, Option.elim_some]
  · simp only [Option.map_none, ite_self, Option.elim_none]

/-- **What a play is worth to the pitching lines of a side**: what its labelled runs are worth. -/
theorem pitchingBy_defense_eq_sum_runs (hcredit : ∀ x (p : Play), w x p.pitchingCredit = 0)
    (hl : s.Labelled labels) (hm : (b.team s.fielding).Mans (s.side s.fielding).squad)
    (happlied : s.applyPlay gameId p = .ok s') (side : Side) :
    (if side = s.fielding then
      (pitchingBy w hw).defense s.situation p (b.team s.fielding).onMound? else 0) =
    ((Moment.runs ⟨s, b, p⟩ labels).map (runWorth w side)).sum := by
  have hpitcher : ((b.team s.fielding).onMound?.elim 0 fun x => w x p.pitchingCredit) = 0 := by
    cases (b.team s.fielding).onMound? with
    | none => rfl
    | some x => exact hcredit x p
  rw [pitchingBy_defense, hpitcher, zero_add, Moment.runs, sum_map_filterMap]
  simp only [elim_runWorth side hl hm happlied]
  split
  · rfl
  · rw [List.map_const', List.sum_replicate, nsmul_zero]

end Account

namespace BoxScore

open Account

variable {M : Type} [AddCommMonoid M] {w : String → PitchingCounts →+ M} {g : Game} {s s' : State}
  {b b' : BoxScore} {labels : Base → Option Moment} {es rest : List Event} {side : Side}
  {l : PitchingLine}

/-- **Pitching lines add up to what the labelled runs are worth**, from any point of a game to its
end. -/
theorem Kept.balance_labelledRuns (hw : ∀ x c, w x c.inPlay = w x c)
    (hcredit : ∀ x (p : Play), w x p.pitchingCredit = 0) (hone : g.OnePitcher)
    (h : Kept g es s b) (hl : s.Labelled labels)
    (hrun : s.run g.id rest = .ok s') (hnoted : s.tellAll g.id (note g.id) b rest = .ok b')
    (side : Side) :
    (pitchingBy w hw).balance (b'.team side) = (pitchingBy w hw).balance (b.team side)
      + ((labelledRuns g.id s b labels rest).map (runWorth w side)).sum := by
  induction rest generalizing es s b labels with
  | nil =>
    obtain rfl : b = b' := Attempt.ok_inj.mp hnoted
    exact (add_zero _).symm
  | cons e rest ih =>
    rw [State.run, Attempt.forEach_cons] at hrun
    obtain ⟨m, happlied, hlater⟩ := Attempt.andThen_eq_ok.mp hrun
    obtain ⟨c, hnote, hnotes⟩ := Attempt.andThen_eq_ok.mp hnoted
    have hkept := h.event hnote happlied
    obtain rfl : (s.applyEvent g.id e).state = m := (Attempt.eq_ok_iff.mp happlied).2
    obtain rfl : (b.note g.id s.situation e).state = c := (Attempt.eq_ok_iff.mp hnote).2
    cases e with
    | play p =>
      have hmans := h.mans hone s.fielding
      rw [ih hkept (hl.after hmans happlied) hlater hnotes, balance_postPlay_eq hnote,
        pitchingBy_offense, ite_self, zero_add, labelledRuns, List.map_append, List.sum_append,
        ← pitchingBy_defense_eq_sum_runs hcredit hl hmans happlied, ← add_assoc]
      simp only [State.opponent_eq_half_iff]
      rfl
    | noPlay subs =>
      rw [ih hkept (hl.foldl_substitute subs) hlater hnotes, balance_forEach_enter hnote]
      rfl

/-- What a pitching line shows of a count that only runs bring is what the runs are worth whose
labels name the pitcher. -/
theorem eq_sum_labelledRuns_ofGame {f : PitchingCounts →+ M} (hinPlay : ∀ c, f c.inPlay = f c)
    (hcredit : ∀ p : Play, f p.pitchingCredit = 0) (h : ofGame g = .ok b) (hone : g.OnePitcher)
    (hl : l ∈ (b.team side).pitchers) :
    f l.counts = (g.labelledRuns.map fun run =>
      if run.1.pitchedBy side l.player then f (Play.runCharge run.2) else 0).sum := by
  obtain ⟨⟨s', hrun⟩, b₀, b₁, hopen, hnoted, hclose⟩ := ofGame_eq_ok_iff.mp h
  have hzero (x : String) (p : Play) : ofPlayer l.player f x p.pitchingCredit = 0 := by
    rw [ofPlayer_apply, hcredit, ite_self]
  have hruns : g.labelledRuns =
      Baseball.labelledRuns g.id (.ofGame g) b₀ (fun _ => none) g.events := by
    rw [Game.labelledRuns, hopen]
  have hbalance := (Kept.opened hopen).balance_labelledRuns
    (ofPlayer_inPlay hinPlay l.player) hzero hone
    (State.labelled_ofGame g) hrun hnoted side
  rw [balance_ofStarters hopen, zero_add, ← balance_close hclose, ← hruns] at hbalance
  rw [funext (runWorth_ofPlayer l.player f side)] at hbalance
  exact ((orderly_ofGame h side).sum_pitchers_ofPlayer hl f).symm.trans hbalance

/-- **Inherited runners.** In the box score of a game with one starting pitcher a side, the runs of
a pitching line are those scored, anywhere in the game, by the men who batted against that pitcher,
and the earned runs are those among them with the destinations 4 and 6. -/
theorem inherited_ofGame (h : ofGame g = .ok b) (hone : g.OnePitcher)
    (hl : l ∈ (b.team side).pitchers) :
    l.counts.r = g.labelledRuns.countP (fun run => run.1.pitchedBy side l.player) ∧
      l.counts.er = g.labelledRuns.countP fun run =>
        run.1.pitchedBy side l.player && (run.2.code == 4 || run.2.code == 6) := by
  have hr := eq_sum_labelledRuns_ofGame (f := ⟨⟨PitchingCounts.r, rfl⟩, fun _ _ => rfl⟩)
    (fun _ => rfl) (fun _ => rfl) h hone hl
  have her := eq_sum_labelledRuns_ofGame (f := ⟨⟨PitchingCounts.er, rfl⟩, fun _ _ => rfl⟩)
    (fun _ => rfl) (fun _ => rfl) h hone hl
  constructor
  · refine hr.trans (sum_map_eq_countP fun run _ => ?_)
    cases run.1.pitchedBy side l.player <;> rfl
  · refine her.trans (sum_map_eq_countP fun run _ => ?_)
    rw [← Destination.isEarnedToPitcher_eq]
    cases run.1.pitchedBy side l.player <;> rfl

/-- The starter is charged with the runner he left, and nothing else. -/
theorem inherited_relievedGame : ∃ b l, ofGame relievedGame = .ok b ∧ relievedGame.OnePitcher ∧
    l ∈ (b.team .home).pitchers ∧ l.player = "h1" ∧ l.counts.r = 1 ∧ l.counts.er = 0 := by
  have hline : ((ofGame relievedGame).toOption.bind fun b =>
      (b.team .home).pitchers.find? (·.player == "h1")).isSome := by decide +kernel
  have hone : relievedGame.OnePitcher := by decide +kernel
  obtain ⟨l, hl⟩ := Option.isSome_iff_exists.mp hline
  obtain ⟨b, hb, hfind⟩ := Option.bind_eq_some_iff.mp hl
  have hmade : ofGame relievedGame = .ok b := toOption_eq_some_iff.mp hb
  have hplayer : l.player = "h1" := by simpa using List.find?_some hfind
  have hmem := List.mem_of_find?_eq_some hfind
  obtain ⟨hr, her⟩ := inherited_ofGame hmade hone hmem
  rw [hplayer] at hr her
  exact ⟨b, l, hmade, hone, hmem, hplayer, hr.trans (by decide +kernel),
    her.trans (by decide +kernel)⟩

end BoxScore

end Baseball
