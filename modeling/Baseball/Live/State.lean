import Baseball.Game.Attempt
import Baseball.Live.Bases
import Baseball.Live.Situation
import Baseball.Live.Squad

/-!
# The state of a game

What a game has come to after some of its events: inning, half and outs, the runners, and for each
side the squad and the running counts. A play is applied in one go once the men it needs are found;
the third out ends the half.

## Main definitions

* `State` — the state, and `State.situation`, the answers it gives
* `State.Fits`, `State.HasRoom` — whether innings and outs can be counted, before and after a play
* `State.isOver` — whether the result can no longer change
* `State.applyPlay`, `State.substitute`, `State.applyEvent` — the state after an event
* `State.ofGame` — the state before the first event

## Implementation notes

A play that ends a plate appearance needs a batter. By the time he is found missing the runners have
left their bases, so the state that is left behind has none.

Innings and outs are counted in eight bits, and what is added to them is checked. `State.record`
and `State.endHalf` say what a play does to numbers of any size, and `State.complete` lets it happen
only if neither count overflows: the outs before a third one clears them, and the innings at the end
of a bottom half. An overflow stops the program, so there is no state after it; the one before the
play stands in its place. The counts of a side are 32 bits wide and are taken to be large enough.
-/

namespace Baseball

/-- One side of a game in progress. -/
@[ext]
structure SideState where
  squad : Squad := .empty
  score : Nat := 0
  hits : Nat := 0
  errors : Nat := 0
  leftOnBase : Nat := 0
  /-- Completed plate appearances. -/
  batters : Nat := 0
deriving DecidableEq, Inhabited

/-- Counts a play for the side at bat. -/
def SideState.bat (t : SideState) (play : Play) (runs : Nat) (completed : Bool) : SideState :=
  { t with
    score := t.score + runs
    hits := t.hits + play.kind.isHit.toNat
    batters := t.batters + completed.toNat }

/-- The state of a game in progress. -/
@[ext]
structure State where
  inning : Nat := 1
  half : Side := .visitor
  outs : Nat := 0
  bases : Bases := {}
  sides : BySide SideState := ⟨{}, {}⟩
deriving DecidableEq, Inhabited

/-- The largest number of innings, and of outs, that can be counted. -/
def countMax : Nat := 255

namespace State

/-- Whether the numbers of innings and outs can be counted. -/
def Fits (s : State) : Prop := s.inning ≤ countMax ∧ s.outs ≤ countMax

instance (s : State) : Decidable s.Fits := inferInstanceAs (Decidable (_ ∧ _))

/-- One side of the game. -/
def side (s : State) (side : Side) : SideState := s.sides.get side

/-- Changes one side of the game. -/
def modifySide (s : State) (side : Side) (f : SideState → SideState) : State :=
  { s with sides := s.sides.modify side f }

/-- The side at bat. -/
abbrev batting (s : State) : Side := s.half

/-- The side in the field. -/
def fielding (s : State) : Side := s.half.opponent

/-! ### Questions -/

/-- Whether the home side leads in the ninth inning or later while it bats. -/
def isWalkOff (s : State) : Bool :=
  s.half == .home && 9 ≤ s.inning && (s.side .visitor).score < (s.side .home).score

/-- Whether the result can no longer change: the home side leads in the ninth or later while it
bats, or the visitors are about to open the tenth or a later inning and the score is not level. That
nothing was played in their half is read off from there being no outs and nobody on base. -/
def isOver (s : State) : Bool :=
  match s.half with
  | .home => s.isWalkOff
  | .visitor =>
    10 ≤ s.inning && s.outs == 0 && s.bases.isEmpty
      && (s.side .home).score != (s.side .visitor).score

/-- The answers that a state gives. -/
def situation (s : State) : Situation where
  inning := s.inning
  half := s.half
  outs := s.outs
  playerAt? side slot := (s.side side).squad.playerAt? slot
  positionOf? side player := (s.side side).squad.positionOf? player
  runner? b := (s.bases.get b).map Runner.player
  responsiblePitcher? b := (s.bases.get b).map Runner.pitcher
  fielder? side p := (s.side side).squad.fielder? p
  score side := (s.side side).score
  hits side := (s.side side).hits
  errors side := (s.side side).errors
  leftOnBase side := (s.side side).leftOnBase
  batters side := (s.side side).batters
  isOver := s.isOver

/-- The player due up. -/
def batter? (s : State) : Option String := s.situation.batter?

/-- The pitcher in the field. -/
def pitcher? (s : State) : Option String := (s.side s.fielding).squad.fielder? .pitcher

/-! ### Plays -/

/-- Moves the men and counts the runs, hits, errors and outs of a play that the counts have room
for. -/
def record (s : State) (play : Play) (batter? : Option Runner) : State :=
  let s' :=
    (s.modifySide s.batting fun t =>
      t.bat play (s.bases.runs batter? play.advance) batter?.isSome).modifySide s.fielding
      fun t => { t with errors := t.errors + play.errors.length }
  { s' with
    bases := s.bases.advance batter? play.advance
    outs := s.outs + play.outs }

/-- Charges the side at bat with the runners on base. -/
def strand (s : State) : State :=
  s.modifySide s.batting fun t => { t with leftOnBase := t.leftOnBase + s.bases.count }

/-- Changes sides: bases and outs are cleared, and after the bottom half a new inning begins. -/
def endHalf (s : State) : State :=
  { s with
    outs := 0
    bases := {}
    half := s.half.opponent
    inning :=
      match s.half with
      | .visitor => s.inning
      | .home => s.inning + 1 }

/-- Closes the half after three outs, and leaves the runners stranded where the game ends during
the half. -/
def settle (before after : State) : State :=
  if 3 ≤ after.outs then after.strand.endHalf
  else if !before.isOver && after.isOver then after.strand
  else after

/-- The state after a play, given the batter if his plate appearance ends. -/
def afterPlay (s : State) (play : Play) (batter? : Option Runner) : State :=
  settle s (s.record play batter?)

/-- Whether the counts have room for a play: that of the outs for those of the play, and that of the
innings for the next one if the play ends an inning. -/
def HasRoom (s : State) (play : Play) (batter? : Option Runner) : Prop :=
  (s.record play batter?).Fits ∧ (s.afterPlay play batter?).Fits

instance (s : State) (play : Play) (batter? : Option Runner) :
    Decidable (s.HasRoom play batter?) :=
  inferInstanceAs (Decidable (_ ∧ _))

/-- Applies a play whose men were found, unless a count overflows. -/
def complete (gameId : String) (s : State) (play : Play) (batter? : Option Runner) :
    Attempt State :=
  if s.HasRoom play batter? then
    .ok (s.afterPlay play batter?)
  else
    .fail s (.overflow gameId)

/-- Applies a play. It needs a pitcher, and a batter if it ends a plate appearance. -/
def applyPlay (gameId : String) (s : State) (play : Play) : Attempt State :=
  match s.pitcher? with
  | none => .fail s (.missingOccupant gameId .pitcher)
  | some pitcher =>
    if play.batterEvent then
      match s.batter? with
      | none => .fail { s with bases := {} } (.missingOccupant gameId .batter)
      | some batter => s.complete gameId play (some ⟨batter, pitcher⟩)
    else
      s.complete gameId play none

/-! ### Substitutions -/

/-- The runners after a substitution: a pinch runner takes over from the man he displaces. -/
def basesAfter (s : State) (sub : Substitution) : Bases :=
  match (s.side sub.side).squad.displaced? sub with
  | some old => if sub.position = .pinchRunner then s.bases.rename old sub.player else s.bases
  | none => s.bases

/-- Applies a substitution. -/
def substitute (s : State) (sub : Substitution) : State :=
  { s.modifySide sub.side fun t => { t with squad := t.squad.substitute sub } with
    bases := s.basesAfter sub }

/-! ### Events -/

/-- Applies an event. -/
def applyEvent (gameId : String) (s : State) : Event → Attempt State
  | .play p => s.applyPlay gameId p
  | .noPlay subs => .ok (subs.foldl substitute s)

/-- The state before the first event of a game. -/
def ofGame (g : Game) : State :=
  { sides := .ofFn fun side => { squad := .ofStarters (g.starters.get side) } }

end State

end Baseball
