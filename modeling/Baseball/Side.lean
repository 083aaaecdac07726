/-!
# The two sides of a game

The visitors bat in the top half of an inning and the home side in the bottom half.

## Main definitions

* `Side` — visitor or home, with `Side.opponent`
* `BySide` — one value for each side, with a getter, an update at one side, and its two laws
-/

namespace Baseball

/-- One of the two teams of a game. -/
inductive Side where
  | visitor
  | home
deriving DecidableEq, Inhabited

namespace Side

/-- Both sides, the visitors first. -/
def both : List Side := [visitor, home]

/-- The other side. -/
def opponent : Side → Side
  | visitor => home
  | home => visitor

@[simp]
theorem opponent_opponent (s : Side) : s.opponent.opponent = s := by
  cases s <;> rfl

theorem opponent_ne (s : Side) : s.opponent ≠ s := by
  cases s <;> decide

@[simp]
theorem mem_both (s : Side) : s ∈ both := by
  cases s <;> decide

end Side

/-- A value for each side. -/
@[ext]
structure BySide (α : Type) where
  visitor : α
  home : α
deriving DecidableEq, Inhabited

namespace BySide

variable {α β : Type}

/-- The value of one side. -/
def get (t : BySide α) : Side → α
  | .visitor => t.visitor
  | .home => t.home

/-- Replaces the value of one side by its image under `f`. -/
def modify (t : BySide α) (s : Side) (f : α → α) : BySide α :=
  match s with
  | .visitor => { t with visitor := f t.visitor }
  | .home => { t with home := f t.home }

/-- The table of a function of the side. -/
def ofFn (f : Side → α) : BySide α := ⟨f .visitor, f .home⟩

/-- Both values, the visitors' first. -/
def toList (t : BySide α) : List α := [t.visitor, t.home]

@[simp]
theorem get_modify_self (t : BySide α) (s : Side) (f : α → α) :
    (t.modify s f).get s = f (t.get s) := by
  cases s <;> rfl

@[simp]
theorem get_modify_opponent (t : BySide α) (s : Side) (f : α → α) :
    (t.modify s f).get s.opponent = t.get s.opponent := by
  cases s <;> rfl

theorem get_modify (t : BySide α) (s r : Side) (f : α → α) :
    (t.modify s f).get r = if r = s then f (t.get r) else t.get r := by
  cases s <;> cases r <;> rfl

@[simp]
theorem get_ofFn (f : Side → α) (s : Side) : (ofFn f).get s = f s := by
  cases s <;> rfl

end BySide

end Baseball
