/-!
# Kinds of plays

The basic classification of a play decides what the batter is credited with: whether his plate
appearance ends, whether it is an official at-bat, and how many bases a hit gives him.

## Main definitions

* `PlayKind` — the twenty-two kinds
* `PlayKind.name`, `PlayKind.ofName?` — their written names
* `PlayKind.hitBases`, `isHit`, `isWalk`, `endsPlateAppearance`, `isOfficialAtBat`
-/

namespace Baseball

/-- The basic classification of a play. -/
inductive PlayKind where
  | genericOut
  | strikeout
  | stolenBase
  | defensiveIndifference
  | caughtStealing
  | pickoff
  | wildPitch
  | passedBall
  | balk
  | otherAdvance
  | foulError
  | walk
  | intentionalWalk
  | hitByPitch
  | interference
  | error
  | fieldersChoice
  | single
  | double
  | triple
  | homeRun
  | other
deriving DecidableEq, Inhabited

namespace PlayKind

/-- Every kind, in the order of their declaration. -/
def all : List PlayKind :=
  [genericOut, strikeout, stolenBase, defensiveIndifference, caughtStealing, pickoff, wildPitch,
    passedBall, balk, otherAdvance, foulError, walk, intentionalWalk, hitByPitch, interference,
    error, fieldersChoice, single, double, triple, homeRun, other]

/-- The written name of a kind. -/
def name : PlayKind → String
  | genericOut => "generic_out"
  | strikeout => "strikeout"
  | stolenBase => "stolen_base"
  | defensiveIndifference => "defensive_indifference"
  | caughtStealing => "caught_stealing"
  | pickoff => "pickoff"
  | wildPitch => "wild_pitch"
  | passedBall => "passed_ball"
  | balk => "balk"
  | otherAdvance => "other_advance"
  | foulError => "foul_error"
  | walk => "walk"
  | intentionalWalk => "intentional_walk"
  | hitByPitch => "hit_by_pitch"
  | interference => "interference"
  | error => "error"
  | fieldersChoice => "fielders_choice"
  | single => "single"
  | double => "double"
  | triple => "triple"
  | homeRun => "home_run"
  | other => "other"

/-- The kind with a given name. -/
def ofName? (s : String) : Option PlayKind := all.find? (·.name == s)

/-- The bases that a hit awards, 0 for anything that is not a hit. -/
def hitBases : PlayKind → Nat
  | single => 1
  | double => 2
  | triple => 3
  | homeRun => 4
  | _ => 0

/-- Whether a play is a single, a double, a triple or a home run. -/
def isHit (k : PlayKind) : Bool := 0 < k.hitBases

/-- Whether a play is a walk, intentional or not. -/
def isWalk : PlayKind → Bool
  | walk | intentionalWalk => true
  | _ => false

/-- Whether a play ends the batter's plate appearance. -/
def endsPlateAppearance : PlayKind → Bool
  | genericOut | strikeout | walk | intentionalWalk | hitByPitch | interference | error
  | fieldersChoice | single | double | triple | homeRun => true
  | _ => false

/-- Whether a plate appearance that ends this way is an official at-bat, sacrifices apart. -/
def isOfficialAtBat : PlayKind → Bool
  | genericOut | strikeout | error | fieldersChoice | single | double | triple | homeRun => true
  | _ => false

@[simp]
theorem mem_all (k : PlayKind) : k ∈ all := by
  cases k <;> decide

@[simp]
theorem ofName?_name (k : PlayKind) : ofName? k.name = some k := by
  cases k <;> decide

theorem name_of_ofName? {s : String} {k : PlayKind} (h : ofName? s = some k) : k.name = s := by
  simpa using List.find?_some h

end PlayKind

end Baseball
