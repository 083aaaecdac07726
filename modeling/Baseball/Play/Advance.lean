/-!
# Bases and advances

A play sends each man somewhere: the batter from the plate and each runner from his base. Where he
ends up is a destination, written as a number: 0 when he is out, 1 to 3 for the base he reaches or
holds, and 4 to 6 when he scores. The three runs differ in who is charged with them.

## Main definitions

* `Base` — first, second or third
* `Origin` — where a man stands when the play starts: the plate or a base
* `ByOrigin` — one value for each origin
* `Destination` — where a man ends up, with `Destination.base?`, `isRun`, `isEarnedToPitcher` and
  `isEarnedToTeam`
-/

namespace Baseball

/-! ### Bases -/

/-- A base a runner can stand on. -/
inductive Base where
  | first
  | second
  | third
deriving DecidableEq, Inhabited

namespace Base

/-- The three bases in running order. -/
def all : List Base := [first, second, third]

/-- The number of a base. -/
def number : Base → Nat
  | first => 1
  | second => 2
  | third => 3

/-- The base with a given number. -/
def ofNumber? : Nat → Option Base
  | 1 => some first
  | 2 => some second
  | 3 => some third
  | _ => none

@[simp]
theorem ofNumber?_number (b : Base) : ofNumber? b.number = some b := by
  cases b <;> rfl

@[simp]
theorem mem_all (b : Base) : b ∈ all := by
  cases b <;> decide

end Base

/-! ### Origins -/

/-- Where a man stands when a play starts: the batter at the plate, a runner on a base. -/
inductive Origin where
  | plate
  | on (base : Base)
deriving DecidableEq, Inhabited

namespace Origin

/-- The plate and the three bases, in running order. -/
def all : List Origin := [plate, on .first, on .second, on .third]

/-- The number of an origin, 0 for the plate. -/
def number : Origin → Nat
  | plate => 0
  | on b => b.number

/-- The origin with a given number. -/
def ofNumber? : Nat → Option Origin
  | 0 => some plate
  | n => (Base.ofNumber? n).map on

@[simp]
theorem ofNumber?_number (o : Origin) : ofNumber? o.number = some o := by
  rcases o with _ | b
  · rfl
  · cases b <;> rfl

@[simp]
theorem mem_all (o : Origin) : o ∈ all := by
  rcases o with _ | b
  · decide
  · cases b <;> decide

end Origin

/-- A value for the plate and each base. -/
@[ext]
structure ByOrigin (α : Type) where
  plate : α
  first : α
  second : α
  third : α
deriving DecidableEq, Inhabited

namespace ByOrigin

variable {α β : Type}

/-- The value at an origin. -/
def get (t : ByOrigin α) : Origin → α
  | .plate => t.plate
  | .on .first => t.first
  | .on .second => t.second
  | .on .third => t.third

/-- Replaces the value at an origin. -/
def set (t : ByOrigin α) (o : Origin) (x : α) : ByOrigin α :=
  match o with
  | .plate => { t with plate := x }
  | .on .first => { t with first := x }
  | .on .second => { t with second := x }
  | .on .third => { t with third := x }

/-- The same value everywhere. -/
def replicate (x : α) : ByOrigin α := ⟨x, x, x, x⟩

/-- The values in running order. -/
def toList (t : ByOrigin α) : List α := [t.plate, t.first, t.second, t.third]

/-- The table of a list of exactly four values. -/
def ofList? : List α → Option (ByOrigin α)
  | [p, f, s, t] => some ⟨p, f, s, t⟩
  | _ => none

theorem get_set (t : ByOrigin α) (o r : Origin) (x : α) :
    (t.set o x).get r = if r = o then x else t.get r := by
  rcases o with _ | (_ | _ | _) <;> rcases r with _ | (_ | _ | _) <;> rfl

/-- Values at different origins can be set in either order. -/
theorem set_comm (t : ByOrigin α) {o r : Origin} (h : o ≠ r) (x y : α) :
    (t.set o x).set r y = (t.set r y).set o x := by
  rcases o with _ | (_ | _ | _) <;> rcases r with _ | (_ | _ | _) <;> first | rfl | exact absurd rfl h

end ByOrigin

/-! ### Destinations -/

/-- Where the batter or a runner ends up. -/
inductive Destination where
  /-- He is out. -/
  | out
  /-- He reaches or holds a base. -/
  | safe (base : Base)
  /-- He scores, and the run is earned. -/
  | scored
  /-- He scores, and nobody is charged with an earned run. -/
  | scoredUnearned
  /-- He scores; the run is earned to the pitcher but not to the team. -/
  | scoredTeamUnearned
deriving DecidableEq, Inhabited

namespace Destination

/-- The number written for a destination. -/
def code : Destination → Nat
  | out => 0
  | safe b => b.number
  | scored => 4
  | scoredUnearned => 5
  | scoredTeamUnearned => 6

/-- The destination that a number stands for. -/
def ofCode? : Nat → Option Destination
  | 0 => some out
  | 1 => some (safe .first)
  | 2 => some (safe .second)
  | 3 => some (safe .third)
  | 4 => some scored
  | 5 => some scoredUnearned
  | 6 => some scoredTeamUnearned
  | _ => none

/-- The base reached, if the man is on one. -/
def base? : Destination → Option Base
  | safe b => some b
  | _ => none

/-- Whether a run scores. -/
def isRun : Destination → Bool
  | scored | scoredUnearned | scoredTeamUnearned => true
  | _ => false

/-- Whether the run is earned against the responsible pitcher. -/
def isEarnedToPitcher : Destination → Bool
  | scored | scoredTeamUnearned => true
  | _ => false

/-- Whether the run is earned against the team. -/
def isEarnedToTeam : Destination → Bool
  | scored => true
  | _ => false

@[simp]
theorem ofCode?_code (d : Destination) : ofCode? d.code = some d := by
  rcases d with _ | (_ | _ | _) | _ | _ | _ <;> rfl

theorem code_of_ofCode? {n : Nat} {d : Destination} (h : ofCode? n = some d) : d.code = n := by
  unfold ofCode? at h
  split at h <;> cases h <;> rfl

end Destination

end Baseball
