/-!
# Fielding positions

A position carries the number a scorer writes for it: 1 for the pitcher up to 9 for right field, 10
for the designated hitter, and 11 and 12 for the pinch hitter and the pinch runner, who appear only
in substitutions.

## Main definitions

* `Position` — the twelve positions, with `Position.code` and its partial inverse `ofCode?`
* `Position.field` — the nine positions on the field, in scorer's order
* `Position.isFielding` — whether a position records putouts and assists
* `Position.abbreviation` — its abbreviation in a box score
-/

namespace Baseball

/-- Where a player is stationed, or the part he takes. -/
inductive Position where
  | pitcher
  | catcher
  | firstBase
  | secondBase
  | thirdBase
  | shortstop
  | leftField
  | centerField
  | rightField
  | designatedHitter
  | pinchHitter
  | pinchRunner
deriving DecidableEq, Inhabited

namespace Position

/-- The scorer's number of a position. -/
def code : Position → Nat
  | pitcher => 1
  | catcher => 2
  | firstBase => 3
  | secondBase => 4
  | thirdBase => 5
  | shortstop => 6
  | leftField => 7
  | centerField => 8
  | rightField => 9
  | designatedHitter => 10
  | pinchHitter => 11
  | pinchRunner => 12

/-- Every position, in the order of their numbers. -/
def all : List Position :=
  [pitcher, catcher, firstBase, secondBase, thirdBase, shortstop, leftField, centerField,
    rightField, designatedHitter, pinchHitter, pinchRunner]

/-- The nine positions on the field, in scorer's order. -/
def field : List Position :=
  [pitcher, catcher, firstBase, secondBase, thirdBase, shortstop, leftField, centerField,
    rightField]

/-- The position that a number stands for. -/
def ofCode? : Nat → Option Position
  | 1 => some pitcher
  | 2 => some catcher
  | 3 => some firstBase
  | 4 => some secondBase
  | 5 => some thirdBase
  | 6 => some shortstop
  | 7 => some leftField
  | 8 => some centerField
  | 9 => some rightField
  | 10 => some designatedHitter
  | 11 => some pinchHitter
  | 12 => some pinchRunner
  | _ => none

/-- Whether a position is one of the nine on the field, which record putouts and assists. -/
def isFielding (p : Position) : Bool := p.code ≤ 9

/-- The lower-case abbreviation used in box scores. -/
def abbreviation : Position → String
  | pitcher => "p"
  | catcher => "c"
  | firstBase => "1b"
  | secondBase => "2b"
  | thirdBase => "3b"
  | shortstop => "ss"
  | leftField => "lf"
  | centerField => "cf"
  | rightField => "rf"
  | designatedHitter => "dh"
  | pinchHitter => "ph"
  | pinchRunner => "pr"

/-- The place of a position in a list of all twelve, counted from 0. -/
def index (p : Position) : Fin 12 :=
  ⟨p.code - 1, by cases p <;> decide⟩

/-- Positions are ordered by their numbers. -/
instance : Ord Position := ⟨compareOn code⟩

theorem one_le_code (p : Position) : 1 ≤ p.code := by
  cases p <;> decide

theorem code_injective {p q : Position} (h : p.code = q.code) : p = q := by
  cases p <;> cases q <;> first | rfl | cases h

@[simp]
theorem code_inj {p q : Position} : p.code = q.code ↔ p = q :=
  ⟨code_injective, congrArg code⟩

@[simp]
theorem ofCode?_code (p : Position) : ofCode? p.code = some p := by
  cases p <;> rfl

theorem code_of_ofCode? {n : Nat} {p : Position} (h : ofCode? n = some p) : p.code = n := by
  unfold ofCode? at h
  split at h <;> cases h <;> rfl

@[simp]
theorem mem_all (p : Position) : p ∈ all := by
  cases p <;> decide

theorem mem_field_iff {p : Position} : p ∈ field ↔ p.isFielding := by
  cases p <;> decide

theorem index_injective {p q : Position} (h : p.index = q.index) : p = q := by
  cases p <;> cases q <;> first | rfl | cases h

@[simp]
theorem index_inj {p q : Position} : p.index = q.index ↔ p = q :=
  ⟨index_injective, congrArg index⟩

instance : Std.TransOrd Position := inferInstanceAs (Std.TransCmp (compareOn code))

instance : Std.LawfulEqOrd Position where
  eq_of_compare h := code_injective (Nat.compare_eq_eq.1 h)

end Position

end Baseball
