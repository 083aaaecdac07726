import Baseball.Game.Basic
import Baseball.Game.Attempt
import Baseball.Line.Batting
import Baseball.Line.Fielding
import Baseball.Line.Pitching

/-!
# One team's half of a box score

A team box lists the stints of the batters, the pitchers in order of appearance and the fielding
lines, with the team's own counts beside them. A player has one stint, however often he leaves and
comes back; each new position is added to it. He has one fielding line for each fielding position he
was entered at, and one pitching line if he was ever entered as the pitcher.

## Main definitions

* `Stint`, `TeamBox`
* `TeamBox.enter` — a starter or a substitute comes in
* `TeamBox.Entry`, `TeamBox.post` — a credit, and the box after it
* `TeamBox.slot`, `TeamBox.stintsInOrder`, `TeamBox.battingLines` — the stints by lineup slot

## Implementation notes

Stints are kept in the order in which they were entered. What is shown goes slot by slot, and within
a slot in that order.
-/

namespace Baseball

/-- One player's part in the batting order. -/
structure Stint where
  /-- The lineup slot he first came into. -/
  slot : Fin slotCount
  line : BattingLine
  /-- The positions he was entered at, each of them once. -/
  positions : List Position
deriving DecidableEq

/-- Adds a position to a stint that does not list it yet. -/
def Stint.addPosition (s : Stint) (p : Position) : Stint :=
  if p ∈ s.positions then s else { s with positions := s.positions ++ [p] }

/-- One team's half of a box score. -/
@[ext]
structure TeamBox where
  team : String
  stints : List Stint := []
  /-- Pitchers in order of appearance. -/
  pitchers : List PitchingLine := []
  /-- Fielding lines in order of appearance, one for each player and position. -/
  fielders : List FieldingLine := []
  fielding : TeamFielding
  /-- The runs of each inning in which the team batted. -/
  linescore : List Nat := []
  /-- Official at-bats, counted apart from the batting lines. -/
  atBats : Nat := 0
  /-- Earned runs charged to the team. -/
  earnedRuns : Nat := 0
  runs : Nat := 0
  hits : Nat := 0
  errors : Nat := 0
  leftOnBase : Nat := 0
  /-- The place of the pitcher on the mound among the pitchers. -/
  currentPitcher : Nat := 0
deriving DecidableEq

/-- Changes the first element that `p` accepts, if there is one. -/
def modifyFirst? {α : Type} (p : α → Bool) (f : α → α) : List α → Option (List α)
  | [] => none
  | x :: xs => if p x then some (f x :: xs) else (modifyFirst? p f xs).map (x :: ·)

theorem modifyFirst?_isSome {α : Type} {p : α → Bool} {f : α → α} {l : List α} :
    (modifyFirst? p f l).isSome ↔ ∃ x ∈ l, p x := by
  induction l with
  | nil => simp [modifyFirst?]
  | cons x l ih => by_cases h : p x <;> simp [modifyFirst?, h, ih]

namespace TeamBox

/-- The box of a team before anybody is entered. -/
def opened (team gameId : String) : TeamBox :=
  { team, fielding := { team, games := .singleton gameId } }

/-! ### Views -/

/-- The stints of a lineup slot, in the order in which they came in. -/
def slot (t : TeamBox) (s : Nat) : List Stint := t.stints.filter fun stint => stint.slot.val == s

/-- Every stint, slot by slot. -/
def stintsInOrder (t : TeamBox) : List Stint := (List.range slotCount).flatMap t.slot

/-- The batting lines, slot by slot. -/
def battingLines (t : TeamBox) : List BattingLine := t.stintsInOrder.map Stint.line

/-- The pitcher who started. -/
def startingPitcher? (t : TeamBox) : Option PitchingLine := t.pitchers.head?

/-- The pitcher on the mound. -/
def currentPitcher? (t : TeamBox) : Option PitchingLine := t.pitchers[t.currentPitcher]?

/-- Double and triple plays turned. -/
def doublePlays (t : TeamBox) : Nat := t.fielding.counts.dp + t.fielding.counts.tp

/-! ### Coming in -/

/-- Whether a player has a stint. -/
def hasStint (t : TeamBox) (player : String) : Bool :=
  t.stints.any fun s => s.line.player == player

/-- Whether a player has a fielding line at a position. -/
def hasFielding (t : TeamBox) (player : String) (p : Position) : Bool :=
  t.fielders.any fun l => l.player == player && l.position == p

/-- Gives a player his stint, or the stint he has another position. -/
def enterStint (t : TeamBox) (gameId player : String) (slot : Fin slotCount) (p : Position) :
    TeamBox :=
  match modifyFirst? (fun s : Stint => s.line.player == player) (·.addPosition p) t.stints with
  | some stints => { t with stints }
  | none =>
    let line : BattingLine := { player, team := t.team, games := .singleton gameId }
    { t with stints := t.stints ++ [{ slot, line, positions := [p] }] }

/-- Gives a player a fielding line, if the position has one and he has none there. -/
def enterFielder (t : TeamBox) (gameId player : String) (p : Position) : TeamBox :=
  if p.isFielding && !t.hasFielding player p then
    let line : FieldingLine :=
      { player, team := t.team, position := p, games := .singleton gameId }
    { t with fielders := t.fielders ++ [line] }
  else t

/-- Puts a player on the mound, with a pitching line if he has none. -/
def enterPitcher (t : TeamBox) (gameId player : String) : TeamBox :=
  match t.pitchers.findIdx? fun l => l.player == player with
  | some index => { t with currentPitcher := index }
  | none =>
    let line : PitchingLine := { player, team := t.team, games := .singleton gameId }
    { t with pitchers := t.pitchers ++ [line], currentPitcher := t.pitchers.length }

/-- A player comes in, in a slot and at a position. -/
def enter (t : TeamBox) (gameId player : String) (slot : Nat) (p : Position) :
    Except ScoringError TeamBox :=
  if h : slot < slotCount then
    let t := (t.enterStint gameId player ⟨slot, h⟩ p).enterFielder gameId player p
    .ok (if p = .pitcher then t.enterPitcher gameId player else t)
  else
    .error (.invalidSlot gameId player slot)

/-! ### Credits -/

/-- A list of runs by inning, made long enough to have an entry for an inning. -/
def extendTo (inning : Nat) (runs : List Nat) : List Nat :=
  runs ++ .replicate (max inning 1 - runs.length) 0

/-- One credit in a team box. -/
inductive Entry where
  /-- The team bats in an inning. -/
  | bats (inning : Nat)
  /-- A run in an inning. -/
  | run (inning : Nat)
  | atBat
  | earnedRun
  | batting (player : String) (counts : BattingCounts)
  | pitching (player : String) (counts : PitchingCounts)
  | fielding (player : String) (position : Position) (counts : FieldingCounts)
  | teamFielding (counts : TeamFieldingCounts)
deriving DecidableEq

/-- The box after a credit to a batter, if he has a stint. -/
def creditBatting? (t : TeamBox) (player : String) (c : BattingCounts) : Option TeamBox :=
  (modifyFirst? (fun s : Stint => s.line.player == player)
    (fun s => { s with line := s.line.credit c }) t.stints).map fun stints => { t with stints }

/-- The box after a credit to a pitcher, if he has a line. -/
def creditPitching? (t : TeamBox) (player : String) (c : PitchingCounts) : Option TeamBox :=
  (modifyFirst? (fun l : PitchingLine => l.player == player) (·.credit c) t.pitchers).map
    fun pitchers => { t with pitchers }

/-- The box after a credit to a fielder, if he has a line at the position. -/
def creditFielding? (t : TeamBox) (player : String) (p : Position) (c : FieldingCounts) :
    Option TeamBox :=
  (modifyFirst? (fun l : FieldingLine => l.player == player && l.position == p) (·.credit c)
    t.fielders).map fun fielders => { t with fielders }

/-- The box after a credit; a credit to a player who has no line for it is refused. -/
def post (gameId : String) (t : TeamBox) : Entry → Attempt TeamBox
  | .bats inning => .ok { t with linescore := extendTo inning t.linescore }
  | .run inning =>
    .ok { t with linescore := (extendTo inning t.linescore).modify (max inning 1 - 1) (· + 1) }
  | .atBat => .ok { t with atBats := t.atBats + 1 }
  | .earnedRun => .ok { t with earnedRuns := t.earnedRuns + 1 }
  | .batting player c =>
    .require (t.creditBatting? player c) t (.unknownPlayer gameId player) .ok
  | .pitching player c =>
    .require (t.creditPitching? player c) t (.unknownPlayer gameId player) .ok
  | .fielding player p c =>
    .require (t.creditFielding? player p c) t (.unknownPlayer gameId player) .ok
  | .teamFielding c => .ok { t with fielding := t.fielding.credit c }

end TeamBox

end Baseball
