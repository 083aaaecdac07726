import Baseball.Line.Record
import Baseball.Report.Tally
import Baseball.Scorebook
import Baseball.Table.Basic

/-!
# Standings

The records of the teams, ordered by winning percentage. A team without a decision stands at .500,
and teams that stand alike keep the order of their identifiers.

## Main definitions

* `Standings` — the records by team
* `Standings.rows` — the records in order, with the games each is behind
* `Standings.byLeague` — the standings of each league
* `Standings.table`, `Standings.tables`
-/

namespace Baseball

/-- Records by team. -/
@[ext]
structure Standings where
  records : Keyed String TeamRecord := ∅
deriving DecidableEq

/-- A line of the standings. -/
structure StandingsRow where
  record : TeamRecord
  /-- Twice the games behind the team at the top. -/
  halfGamesBehind : Int

namespace Standings

/-- Standings that list some teams before they have played. -/
def forTeams (teams : List String) : Standings :=
  ⟨.ofList (teams.map fun team => (team, { team }))⟩

/-- The records that `keep` accepts. -/
def filter (s : Standings) (keep : TeamRecord → Bool) : Standings :=
  ⟨s.records.filter fun _ r => keep r⟩

/-- The record of a team. -/
def record? (s : Standings) (team : String) : Option TeamRecord := s.records.get? team

/-- How many teams are listed. -/
def size (s : Standings) : Nat := s.records.size

/-- Whether no team is listed. -/
def isEmpty (s : Standings) : Bool := s.records.isEmpty

/-- Counts a game for one of its teams. -/
def addSide (b : BoxScore) (s : Standings) (side : Side) : Standings :=
  let team := (b.team side).team
  ⟨s.records.upsert team fun old =>
    (old.getD { team }).addGame side (b.team side).runs (b.team side.opponent).runs b.innings⟩

/-- Each game counts for both teams. -/
instance : GameTally Standings where
  addBox s _ b := Side.both.foldl (addSide b) s

/-! ### The order -/

/-- Half the difference of wins less losses, doubled so that it is whole. -/
def halfGamesBehind (leader team : TeamRecord) : Int :=
  ((leader.wins : Int) - team.wins) - ((leader.losses : Int) - team.losses)

/-- Whether a record may stand above another. -/
def mayLead (a b : TeamRecord) : Bool := orderKey b.standing ≤ orderKey a.standing

/-- The records, best first. -/
def ordered (s : Standings) : List TeamRecord := s.records.values.mergeSort mayLead

/-- The records in order, each with the games it is behind the first. -/
def rows (s : Standings) : List StandingsRow :=
  match s.ordered with
  | [] => []
  | leader :: rest =>
    (leader :: rest).map fun record => { record, halfGamesBehind := halfGamesBehind leader record }

/-! ### Leagues -/

/-- The league of a team, empty if the book does not know the team. -/
def league (book : Scorebook) (team : String) : String :=
  ((book.teams.get? team).map Team.league).getD ""

/-- The standings of each league, by its name. -/
def byLeague (book : Scorebook) (s : Standings) : Keyed String Standings :=
  s.records.entries.foldl
    (fun leagues (team, record) =>
      leagues.upsert (league book team) fun old =>
        ⟨(old.getD {}).records.insert team record⟩)
    ∅

/-! ### Tables -/

/-- Games behind, from twice their number; the leader and his equals have a hyphen. -/
def gamesBehindText (half : Int) : String :=
  if half = 0 then "-"
  else (if half < 0 then "-" else "") ++ (half.natAbs / 2).repr ++ "."
    ++ if half.natAbs % 2 = 1 then "5" else "0"

/-- Wins and losses with a hyphen between. -/
def pairText (wins losses : Nat) : String := wins.repr ++ "-" ++ losses.repr

/-- All teams in one table. -/
def table (book : Scorebook) (s : Standings) : Table :=
  (({ title := "Standings" } : Table).withLeft "Team" 24
    |>.withRights ["W", "L", "T"] 4
    |>.withRights ["PCT", "GB"] 5
    |>.withRights ["HOME", "ROAD", "1-RUN", "XTRA"] 7
    |>.withRights ["RS", "RA"] 5).withRows <|
  s.rows.map fun row =>
    let r := row.record
    let c := r.counts
    [book.teamName r.team, r.wins.repr, r.losses.repr, r.ties.repr,
      r.winningPercentage.text Rate.defaultPlaces, gamesBehindText row.halfGamesBehind,
      pairText c.hw c.hl, pairText c.rw c.rl, pairText c.ow c.ol, pairText c.xw c.xl, c.rs.repr,
      c.ra.repr]

/-- The table of a league, under its name if it has one. -/
def leagueTable (book : Scorebook) (name : String) (s : Standings) : Table :=
  let t := s.table book
  if name.isEmpty then t else { t with title := name ++ " standings" }

/-- One table for each league. -/
def tables (book : Scorebook) (s : Standings) : List Table :=
  (s.byLeague book).entries.map fun (name, s) => leagueTable book name s

end Standings

end Baseball
