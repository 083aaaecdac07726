import Baseball.BoxScore.Basic

/-!
# Lines that reports collect

Batting, pitching and fielding lines are collected alike: each belongs to a player and a team, and a
fielding line to a position as well, and lines that belong together are merged.

## Main definitions

* `LineKey` — whose a line is; keys are ordered by player, team and position
* `StatLine` — what reports need to know of a line
-/

namespace Baseball

/-- Whose a line is. -/
@[ext]
structure LineKey where
  player : String
  team : String
  /-- The position, for lines that are kept by position. -/
  position? : Option Position := none
deriving DecidableEq

namespace LineKey

/-- The number of the position of a key, 0 if it has none. -/
def post (k : LineKey) : Nat := k.position?.elim 0 Position.code

/-- Keys are ordered by player, then by team, then by position. -/
instance : Ord LineKey := ⟨compareLex (compareOn player) (compareLex (compareOn team) (compareOn post))⟩

instance : Std.TransOrd LineKey :=
  inferInstanceAs (Std.TransCmp (compareLex (compareOn player)
    (compareLex (compareOn team) (compareOn post))))

theorem eq_of_elim_code_eq :
    ∀ {p q : Option Position}, p.elim 0 Position.code = q.elim 0 Position.code → p = q
  | none, none, _ => rfl
  | none, some q, h => absurd h.symm (Nat.ne_of_gt q.one_le_code)
  | some p, none, h => absurd h (Nat.ne_of_gt p.one_le_code)
  | some _, some _, h => congrArg some (Position.code_injective h)

instance : Std.LawfulEqOrd LineKey where
  eq_of_compare {k l} h := by
    have h : (compare k.player l.player).then ((compare k.team l.team).then
        (compare k.post l.post)) = .eq := h
    simp only [Ordering.then_eq_eq, Std.LawfulEqCmp.compare_eq_iff_eq] at h
    exact LineKey.ext h.1 h.2.1 (eq_of_elim_code_eq h.2.2)

end LineKey

/-- What reports need to know of a line. -/
class StatLine (L : Type) where
  /-- Whose the line is. -/
  key : L → LineKey
  /-- Joins two lines; the result keeps the key of the first. -/
  merge : L → L → L
  /-- The numbers of the line by name; `g` is how many games it covers. -/
  numbers : L → List (String × Nat)
  /-- The lines of this kind in a box score. -/
  ofBox : BoxScore → List L

namespace StatLine

variable {L : Type} [StatLine L]

/-- The player of a line. -/
def player (l : L) : String := (key l).player

/-- The team of a line. -/
def team (l : L) : String := (key l).team

end StatLine

instance : StatLine BattingLine where
  key l := { player := l.player, team := l.team }
  merge := BattingLine.merge
  numbers l := ("g", l.gamesPlayed) :: l.counts.fields
  ofBox := BoxScore.battingLines

instance : StatLine PitchingLine where
  key l := { player := l.player, team := l.team }
  merge := PitchingLine.merge
  numbers l := ("g", l.gamesPlayed) :: l.counts.fields
  ofBox := BoxScore.pitchingLines

instance : StatLine FieldingLine where
  key l := { player := l.player, team := l.team, position? := some l.position }
  merge := FieldingLine.merge
  numbers l := ("g", l.gamesPlayed) :: ("position", l.position.code) :: l.counts.fields
  ofBox := BoxScore.fieldingLines

end Baseball
