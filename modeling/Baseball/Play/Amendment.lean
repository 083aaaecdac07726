import Baseball.Play.Basic

/-!
# Amending a play

A scorer starts from the conventional play of a kind and amends it: a runner goes elsewhere, the
play was a sacrifice, somebody made an error. Moving a man counts outs and runs batted in anew; the
amendments that state those numbers outright should therefore come after the moves.

## Main definitions

* `Play.Amendment` — one change
* `Play.amend` — the play after a change
* `Play.amendAll` — the play after several, in order
-/

namespace Baseball.Play

/-- One change to a play. -/
inductive Amendment where
  /-- The man at an origin ends up elsewhere. -/
  | advance (origin : Origin) (destination : Destination)
  /-- The scorer's notation. -/
  | text (text : String)
  /-- The number of outs, whatever the advance says. -/
  | outs (count : Nat)
  /-- The runs batted in, whatever the advance says. -/
  | rbi (count : Nat)
  /-- A sacrifice hit: no at-bat is charged. -/
  | sacrificeHit
  /-- A sacrifice fly: no at-bat is charged. -/
  | sacrificeFly
  /-- A double play on the ground: nothing is batted in. -/
  | groundedIntoDoublePlay
  /-- A double play of another sort. -/
  | doublePlay
  | triplePlay
  | wildPitch
  | passedBall
  /-- The runner who started from an origin stole a base. -/
  | stolenBase (origin : Origin)
  /-- The runner who started from an origin was caught stealing. -/
  | caughtStealing (origin : Origin)
  | error (position : Position)
  | putout (position : Position)
  | assist (position : Position)
  /-- Who handled the ball. -/
  | fieldedBy (position : Position)
deriving DecidableEq, Inhabited

/-- The play after one change. -/
def amend (p : Play) : Amendment → Play
  | .advance origin destination => recount { p with advance := p.advance.set origin destination }
  | .text text => { p with text }
  | .outs count => { p with outs := count }
  | .rbi count => { p with rbi := count }
  | .sacrificeHit => { p with sacrificeHit := true, atBat := false }
  | .sacrificeFly => { p with sacrificeFly := true, atBat := false }
  | .groundedIntoDoublePlay =>
    { p with groundedIntoDoublePlay := true, doublePlay := true, rbi := 0 }
  | .doublePlay => { p with doublePlay := true }
  | .triplePlay => { p with triplePlay := true }
  | .wildPitch => { p with wildPitch := true }
  | .passedBall => { p with passedBall := true }
  | .stolenBase origin => { p with stolenBase := p.stolenBase.set origin true }
  | .caughtStealing origin => { p with caughtStealing := p.caughtStealing.set origin true }
  | .error position => { p with errors := p.errors ++ [position] }
  | .putout position => { p with putouts := p.putouts ++ [position] }
  | .assist position => { p with assists := p.assists ++ [position] }
  | .fieldedBy position => { p with fieldedBy? := some position }

/-- The play after several changes, the first one first. -/
def amendAll (p : Play) (changes : List Amendment) : Play := changes.foldl amend p

@[simp]
theorem amendAll_nil (p : Play) : p.amendAll [] = p := rfl

@[simp]
theorem amendAll_cons (p : Play) (a : Amendment) (as : List Amendment) :
    p.amendAll (a :: as) = (p.amend a).amendAll as := rfl

theorem amendAll_append (p : Play) (as bs : List Amendment) :
    p.amendAll (as ++ bs) = (p.amendAll as).amendAll bs := List.foldl_append

end Baseball.Play
