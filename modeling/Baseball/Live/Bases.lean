import Baseball.Play.Basic

/-!
# Runners

A runner carries the name of the pitcher who is charged with him, which need not be the one on the
mound any more. A play moves the runners in the order third, second, first, and the batter last; if
two men are sent to one base, the one moved later stands on it.

## Main definitions

* `Runner`, `Bases`
* `Bases.advance` — the bases after a play
* `Bases.runs` — the runners a play brings home
* `Bases.rename` — a pinch runner takes over
-/

namespace Baseball

/-- A man on base. -/
structure Runner where
  player : String
  /-- The pitcher charged with him. -/
  pitcher : String
deriving DecidableEq, Inhabited

/-- Who stands on the three bases. -/
@[ext]
structure Bases where
  first : Option Runner := none
  second : Option Runner := none
  third : Option Runner := none
deriving DecidableEq, Inhabited

namespace Bases

/-- The runner on a base. -/
def get (bs : Bases) : Base → Option Runner
  | .first => bs.first
  | .second => bs.second
  | .third => bs.third

/-- Puts a runner on a base, in place of anybody there. -/
def place (bs : Bases) (b : Base) (r : Runner) : Bases :=
  match b with
  | .first => { bs with first := some r }
  | .second => { bs with second := some r }
  | .third => { bs with third := some r }

/-- The occupants in running order. -/
def toList (bs : Bases) : List Runner := Base.all.filterMap bs.get

/-- How many bases are occupied. -/
def count (bs : Bases) : Nat := bs.toList.length

/-- No base is occupied. -/
def isEmpty (bs : Bases) : Bool := Base.all.all fun b => (bs.get b).isNone

/-- Puts a man where a destination says, if that is a base. -/
def settle (bs : Bases) (man : Option Runner) (d : Destination) : Bases :=
  match man, d.base? with
  | some r, some b => bs.place b r
  | _, _ => bs

/-- The bases after a play, given the batter if his plate appearance ends: third, second and first
base are cleared in this order, and the batter runs last. -/
def advance (bs : Bases) (batter? : Option Runner) (moves : ByOrigin Destination) : Bases :=
  (((({} : Bases).settle bs.third moves.third).settle bs.second moves.second).settle bs.first
    moves.first).settle batter? moves.plate

/-- The men whom a play may move: the batter if his plate appearance ends, and the runners. -/
def man? (bs : Bases) (batter? : Option Runner) : Origin → Option Runner
  | .plate => batter?
  | .on b => bs.get b

/-- The runs that a play brings in. -/
def runs (bs : Bases) (batter? : Option Runner) (moves : ByOrigin Destination) : Nat :=
  Origin.all.countP fun o => (bs.man? batter? o).isSome && (moves.get o).isRun

/-- A pinch runner takes over from a runner wherever that runner stands; the pitcher charged stays
the same. -/
def rename (bs : Bases) (old new : String) : Bases :=
  let swap (r : Runner) : Runner := if r.player = old then { r with player := new } else r
  { first := bs.first.map swap, second := bs.second.map swap, third := bs.third.map swap }

theorem get_place (bs : Bases) (b c : Base) (r : Runner) :
    (bs.place b r).get c = if c = b then some r else bs.get c := by
  cases b <;> cases c <;> rfl

@[simp]
theorem get_empty (b : Base) : ({} : Bases).get b = none := by
  cases b <;> rfl

theorem isEmpty_iff {bs : Bases} : bs.isEmpty ↔ bs = {} := by
  rcases bs with ⟨_ | _, _ | _, _ | _⟩ <;> simp [isEmpty, Base.all, get]

end Bases

end Baseball
