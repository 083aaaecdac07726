import Baseball.Report.Observer
import Baseball.Scorebook
import Baseball.Table.Basic

/-!
# Home runs

Every home run as it was hit, with the situation before the pitch.

## Main definitions

* `HomeRun`, `HomeRunLog` — the log is an observer
* `HomeRun.isGrandSlam`
* `HomeRunLog.filter`, `HomeRunLog.table`
-/

namespace Baseball

/-- A home run and the situation it was hit in. -/
structure HomeRun where
  gameId : String
  date : Date
  batter : String
  team : String
  pitcher : String
  opponent : String
  inning : Nat
  half : Side
  /-- How many runners were on base. -/
  runnersOn : Nat
  outs : Nat
deriving DecidableEq

/-- Whether four runs scored on it. -/
def HomeRun.isGrandSlam (h : HomeRun) : Bool := h.runnersOn == 3

/-- Home runs in the order in which they were hit. -/
structure HomeRunLog where
  homeRuns : List HomeRun := []
deriving DecidableEq

namespace HomeRunLog

/-- Logs a play if it is a home run. Batter and pitcher must be known. -/
def play (log : HomeRunLog) (g : Game) (p : Play) (s : Situation) : Attempt HomeRunLog :=
  if p.kind = .homeRun then
    .require s.batter? log (.missingOccupant g.id .batter) fun batter =>
      .require (s.fielder? s.half.opponent .pitcher) log (.missingOccupant g.id .pitcher)
        fun pitcher =>
          .ok ⟨log.homeRuns ++ [
            { gameId := g.id
              date := g.date
              batter
              team := g.team s.half
              pitcher
              opponent := g.team s.half.opponent
              inning := s.inning
              half := s.half
              runnersOn := s.runnersOn
              outs := s.outs }]⟩
  else .ok log

instance : Observer HomeRunLog where
  playMade := play

/-- The home runs that `keep` accepts. -/
def filter (log : HomeRunLog) (keep : HomeRun → Bool) : HomeRunLog := ⟨log.homeRuns.filter keep⟩

/-- How many home runs were hit. -/
def size (log : HomeRunLog) : Nat := log.homeRuns.length

/-- Whether no home run was hit. -/
def isEmpty (log : HomeRunLog) : Bool := log.homeRuns.isEmpty

/-- The letter of a half inning. -/
def halfLetter : Side → String
  | .visitor => "T"
  | .home => "B"

/-- The printed log. -/
def table (book : Scorebook) (log : HomeRunLog) : Table :=
  (({ title := "Home runs" } : Table)
    |>.withLeft "Date" 10
    |>.withLeft "Batter" 24
    |>.withLeft "Tm" 4
    |>.withLeft "Pitcher" 24
    |>.withLeft "Opp" 4
    |>.withRights ["Inn"] 5
    |>.withRights ["On", "Out"] 3).withRows <|
  log.homeRuns.map fun h =>
    [h.date.text, book.fullName h.batter, h.team, book.fullName h.pitcher, h.opponent,
      halfLetter h.half ++ h.inning.repr, h.runnersOn.repr, h.outs.repr]

end HomeRunLog

end Baseball
