import Baseball.Decimal.Rate
import Baseball.Side

/-!
# Won-lost records

Wins, losses and ties of a team, at home and on the road, with its one-run and extra-inning games
and its runs. How many games it has played follows from these.

## Main definitions

* `Outcome` — won, lost or tied
* `RecordCounts`, `TeamRecord`
* `TeamRecord.addGame` — counts one more game, from the team's point of view
* `TeamRecord.winningPercentage`, `TeamRecord.standing` — ties left out
-/

namespace Baseball

/-- How a game ended for a team. -/
inductive Outcome where
  | win
  | loss
  | tie
deriving DecidableEq

namespace Outcome

/-- The outcome for a team that scored `runsFor` and allowed `runsAgainst`. -/
def of (runsFor runsAgainst : Nat) : Outcome :=
  if runsAgainst < runsFor then win else if runsFor < runsAgainst then loss else tie

/-- The letter of an outcome. -/
def letter : Outcome → String
  | win => "W"
  | loss => "L"
  | tie => "T"

/-- How the same game ended for the other team. -/
def reverse : Outcome → Outcome
  | win => loss
  | loss => win
  | tie => tie

theorem of_swap (a b : Nat) : of b a = (of a b).reverse := by
  simp only [of]
  split <;> split <;> first | rfl | omega

end Outcome

/-- The counts of a record. -/
@[ext]
structure RecordCounts where
  /-- Home wins, losses and ties. -/
  hw : Nat := 0
  hl : Nat := 0
  ht : Nat := 0
  /-- Road wins, losses and ties. -/
  rw : Nat := 0
  rl : Nat := 0
  rt : Nat := 0
  /-- Wins and losses by one run. -/
  ow : Nat := 0
  ol : Nat := 0
  /-- Wins and losses in extra innings. -/
  xw : Nat := 0
  xl : Nat := 0
  /-- Runs scored and allowed. -/
  rs : Nat := 0
  ra : Nat := 0
deriving DecidableEq, Inhabited

namespace RecordCounts

/-- Counts add up count by count. -/
def add (c d : RecordCounts) : RecordCounts where
  hw := c.hw + d.hw
  hl := c.hl + d.hl
  ht := c.ht + d.ht
  rw := c.rw + d.rw
  rl := c.rl + d.rl
  rt := c.rt + d.rt
  ow := c.ow + d.ow
  ol := c.ol + d.ol
  xw := c.xw + d.xw
  xl := c.xl + d.xl
  rs := c.rs + d.rs
  ra := c.ra + d.ra

instance : Add RecordCounts := ⟨add⟩

/-- The counts by name. -/
def fields (c : RecordCounts) : List (String × Nat) :=
  [("hw", c.hw), ("hl", c.hl), ("ht", c.ht), ("rw", c.rw), ("rl", c.rl), ("rt", c.rt),
    ("ow", c.ow), ("ol", c.ol), ("xw", c.xw), ("xl", c.xl), ("rs", c.rs), ("ra", c.ra)]

theorem add_comm (c d : RecordCounts) : c + d = d + c :=
  RecordCounts.ext (Nat.add_comm ..) (Nat.add_comm ..) (Nat.add_comm ..) (Nat.add_comm ..)
    (Nat.add_comm ..) (Nat.add_comm ..) (Nat.add_comm ..) (Nat.add_comm ..) (Nat.add_comm ..)
    (Nat.add_comm ..) (Nat.add_comm ..) (Nat.add_comm ..)

theorem add_assoc (b c d : RecordCounts) : b + c + d = b + (c + d) :=
  RecordCounts.ext (Nat.add_assoc ..) (Nat.add_assoc ..) (Nat.add_assoc ..) (Nat.add_assoc ..)
    (Nat.add_assoc ..) (Nat.add_assoc ..) (Nat.add_assoc ..) (Nat.add_assoc ..) (Nat.add_assoc ..)
    (Nat.add_assoc ..) (Nat.add_assoc ..) (Nat.add_assoc ..)

/-- The innings of a regulation game. -/
def regulationInnings : Nat := 9

/-- The counts of one game. A win or a loss counts as close if one run decided it, and as extra if
it took more than the regulation innings. -/
def ofGame (side : Side) (runsFor runsAgainst innings : Nat) : RecordCounts :=
  let oneRun := (runsFor == runsAgainst + 1 || runsAgainst == runsFor + 1).toNat
  let extra := (decide (regulationInnings < innings)).toNat
  let runs : RecordCounts := { rs := runsFor, ra := runsAgainst }
  match Outcome.of runsFor runsAgainst, side with
  | .win, .home => { runs with hw := 1, ow := oneRun, xw := extra }
  | .win, .visitor => { runs with rw := 1, ow := oneRun, xw := extra }
  | .loss, .home => { runs with hl := 1, ol := oneRun, xl := extra }
  | .loss, .visitor => { runs with rl := 1, ol := oneRun, xl := extra }
  | .tie, .home => { runs with ht := 1 }
  | .tie, .visitor => { runs with rt := 1 }

end RecordCounts

/-- The record of one team. -/
@[ext]
structure TeamRecord where
  team : String
  counts : RecordCounts := {}
deriving DecidableEq

namespace TeamRecord

/-- Joins two records; the record keeps its own team. -/
def merge (a b : TeamRecord) : TeamRecord := { a with counts := a.counts + b.counts }

/-- Counts one more game, played on a side. -/
def addGame (a : TeamRecord) (side : Side) (runsFor runsAgainst innings : Nat) : TeamRecord :=
  { a with counts := a.counts + .ofGame side runsFor runsAgainst innings }

/-- Wins at home and on the road. -/
def wins (a : TeamRecord) : Nat := a.counts.hw + a.counts.rw

/-- Losses at home and on the road. -/
def losses (a : TeamRecord) : Nat := a.counts.hl + a.counts.rl

/-- Ties at home and on the road. -/
def ties (a : TeamRecord) : Nat := a.counts.ht + a.counts.rt

/-- Games played. -/
def gamesPlayed (a : TeamRecord) : Nat := a.wins + a.losses + a.ties

/-- Wins among decisions. -/
def winningPercentage (a : TeamRecord) : Rate := .ofCounts a.wins (a.wins + a.losses)

/-- The percentage that standings are ordered by: a team without a decision stands at .500. -/
def standing (a : TeamRecord) : Float := a.winningPercentage.value?.getD 0.5

end TeamRecord

end Baseball
