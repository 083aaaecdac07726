import Baseball.Line.Batting
import Baseball.Line.Fielding
import Baseball.Line.Pitching
import Baseball.Line.Record
import Mathlib.Algebra.BigOperators.Group.List.Basic
import Mathlib.Algebra.Order.Ring.Nat

/-!
# Counts as commutative monoids

Counts add up count by count, so every kind of counts is a commutative monoid, and totals over lines
are sums in it.

## Play and clerical credits

Most counts come from plays. A few are entered when a game is opened or closed: starts, finishes and
decisions. `PitchingCounts.inPlay` and `FieldingCounts.inPlay` leave these out, and both respect
sums.

## The two sides of the books

What a batter is credited with, the pitcher who faced him is charged with. `BattingCounts.charge`
turns the one into the other, and `PitchingCounts.faced` is the part of a pitcher's counts that has
a counterpart among the counts of batters. In the field, what a fielder is credited with is credited
to his team as well; `FieldingCounts.chances` and `TeamFieldingCounts.chances` are the counts in
which the two are to agree.
-/

namespace Baseball

/-! ### Batting -/

namespace BattingCounts

instance : Zero BattingCounts := ⟨{}⟩

instance : AddCommMonoid BattingCounts where
  add_assoc := BattingCounts.add_assoc
  add_comm := BattingCounts.add_comm
  zero_add a := BattingCounts.add_comm 0 a
  add_zero _ := rfl
  nsmul := nsmulRec

@[simp] theorem pa_add (a b : BattingCounts) : (a + b).pa = a.pa + b.pa := rfl

@[simp] theorem ab_add (a b : BattingCounts) : (a + b).ab = a.ab + b.ab := rfl

@[simp] theorem r_add (a b : BattingCounts) : (a + b).r = a.r + b.r := rfl

/-- What pitchers are charged with where batters are credited: the plate appearances and how they
ended, and the runs. -/
def charge (c : BattingCounts) : PitchingCounts where
  bf := c.pa
  h := c.h
  b2 := c.b2
  b3 := c.b3
  hr := c.hr
  r := c.r
  bb := c.bb
  ibb := c.ibb
  so := c.so
  hb := c.hbp
  sh := c.sh
  sf := c.sf

theorem charge_add (a b : BattingCounts) : (a + b).charge = a.charge + b.charge := rfl

end BattingCounts

/-! ### Pitching -/

namespace PitchingCounts

instance : Zero PitchingCounts := ⟨{}⟩

instance : AddCommMonoid PitchingCounts where
  add_assoc := PitchingCounts.add_assoc
  add_comm := PitchingCounts.add_comm
  zero_add a := PitchingCounts.add_comm 0 a
  add_zero _ := rfl
  nsmul := nsmulRec

@[simp] theorem er_add (a b : PitchingCounts) : (a + b).er = a.er + b.er := rfl

/-- The counts that come from plays, without starts, finishes and decisions. -/
def inPlay (c : PitchingCounts) : PitchingCounts :=
  { c with gs := 0, cg := 0, sho := 0, gf := 0, w := 0, l := 0, sv := 0 }

theorem inPlay_add (a b : PitchingCounts) : (a + b).inPlay = a.inPlay + b.inPlay := rfl

/-- The counts that batters have too. -/
def faced (c : PitchingCounts) : PitchingCounts where
  bf := c.bf
  h := c.h
  b2 := c.b2
  b3 := c.b3
  hr := c.hr
  r := c.r
  bb := c.bb
  ibb := c.ibb
  so := c.so
  hb := c.hb
  sh := c.sh
  sf := c.sf

theorem faced_add (a b : PitchingCounts) : (a + b).faced = a.faced + b.faced := rfl

end PitchingCounts

/-- A line without what was entered when its game was opened and closed. -/
def PitchingLine.inPlay (l : PitchingLine) : PitchingLine := { l with counts := l.counts.inPlay }

theorem PitchingLine.inPlay_credit {c : PitchingCounts} (hc : c.inPlay = 0) (l : PitchingLine) :
    (l.credit c).inPlay = l.inPlay := by
  have hcounts : (l.counts + c).inPlay = l.counts.inPlay := by
    rw [PitchingCounts.inPlay_add, hc, add_zero]
  rw [inPlay, credit, hcounts]
  rfl

/-! ### Fielding -/

namespace TeamFieldingCounts

instance : Zero TeamFieldingCounts := ⟨{}⟩

instance : AddCommMonoid TeamFieldingCounts where
  add_assoc := TeamFieldingCounts.add_assoc
  add_comm := TeamFieldingCounts.add_comm
  zero_add a := TeamFieldingCounts.add_comm 0 a
  add_zero _ := rfl
  nsmul := nsmulRec

/-- The counts of a team that come from what its fielders are credited with one by one: chances,
accepted or missed, and passed balls. -/
def chances : TeamFieldingCounts →+ TeamFieldingCounts where
  toFun c := { c with outs := 0, dp := 0, tp := 0 }
  map_zero' := rfl
  map_add' _ _ := rfl

end TeamFieldingCounts

namespace FieldingCounts

instance : Zero FieldingCounts := ⟨{}⟩

instance : AddCommMonoid FieldingCounts where
  add_assoc := FieldingCounts.add_assoc
  add_comm := FieldingCounts.add_comm
  zero_add a := FieldingCounts.add_comm 0 a
  add_zero _ := rfl
  nsmul := nsmulRec

/-- The counts that come from plays, without starts. -/
def inPlay (c : FieldingCounts) : FieldingCounts := { c with gs := 0 }

theorem inPlay_add (a b : FieldingCounts) : (a + b).inPlay = a.inPlay + b.inPlay := rfl

/-- The same counts of a fielder, as counts of his team. -/
def chances : FieldingCounts →+ TeamFieldingCounts where
  toFun c := { po := c.po, a := c.a, e := c.e, pb := c.pb }
  map_zero' := rfl
  map_add' _ _ := rfl

theorem chances_inPlay (c : FieldingCounts) : c.inPlay.chances = c.chances := rfl

end FieldingCounts

/-- A line without the starts that were entered when its game was opened. -/
def FieldingLine.inPlay (l : FieldingLine) : FieldingLine := { l with counts := l.counts.inPlay }

theorem FieldingLine.inPlay_credit {c : FieldingCounts} (hc : c.inPlay = 0) (l : FieldingLine) :
    (l.credit c).inPlay = l.inPlay := by
  have hcounts : (l.counts + c).inPlay = l.counts.inPlay := by
    rw [FieldingCounts.inPlay_add, hc, add_zero]
  rw [inPlay, credit, hcounts]
  rfl


/-! ### Records -/

namespace RecordCounts

instance : Zero RecordCounts := ⟨{}⟩

instance : AddCommMonoid RecordCounts where
  add_assoc := RecordCounts.add_assoc
  add_comm := RecordCounts.add_comm
  zero_add a := RecordCounts.add_comm 0 a
  add_zero _ := rfl
  nsmul := nsmulRec

variable (side : Side) (runsFor runsAgainst innings : Nat)

theorem rs_ofGame : (ofGame side runsFor runsAgainst innings).rs = runsFor := by
  cases h : Outcome.of runsFor runsAgainst <;> cases side <;> simp only [ofGame, h]

theorem ra_ofGame : (ofGame side runsFor runsAgainst innings).ra = runsAgainst := by
  cases h : Outcome.of runsFor runsAgainst <;> cases side <;> simp only [ofGame, h]

end RecordCounts

end Baseball
