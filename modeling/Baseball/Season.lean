import Baseball.Report.Observer
import Baseball.Scorebook

/-!
# Scanning a season

A season is a set of named reports, and perhaps a choice of games and a monitor. Scanning a scorebook
shows its games one after the other to all reports. Before each game the monitor is asked whether to
go on.

## Main definitions

* `Monitor`, `Season`
* `Season.register` — adds a report, in place of one with the same name
* `Season.scan` — goes through the games of a scorebook
* `Season.find`, `Season.take` — a report by name and kind

## Implementation notes

A scan that fails leaves the reports as the failure left them. Nothing is rolled back.
-/

namespace Baseball

/-- Decides between games whether a scan goes on. It is told how many games are done, how many there
are, and which is next, and may remember what it was told. -/
structure Monitor (μ : Type) where
  state : μ
  progress : μ → Nat → Nat → Game → Bool × μ

/-- Named reports with a choice of games and a monitor. -/
structure Season (ρ μ : Type) where
  /-- The reports in the order of registration, no two of one name. -/
  reports : List (String × ρ) := []
  /-- Which games are scanned, all if nothing is said. -/
  filter? : Option (Game → Bool) := none
  monitor? : Option (Monitor μ) := none

/-- How a scan ended that did not fail. -/
inductive ScanOutcome where
  /-- Every chosen game was scanned. -/
  | complete (games : Nat)
  /-- The monitor stopped the scan after `games` of `total` games. -/
  | incomplete (games total : Nat)
deriving DecidableEq

namespace ScanOutcome

/-- Whether every chosen game was scanned. -/
def isComplete : ScanOutcome → Bool
  | complete _ => true
  | incomplete _ _ => false

/-- How many games were scanned. -/
def games : ScanOutcome → Nat
  | complete n => n
  | incomplete n _ => n

end ScanOutcome

/-- Why a report was not handed out. -/
inductive ReportError where
  | notFound (name : String)
  | otherKind (name : String)
deriving DecidableEq

/-- The wording of an error. -/
def ReportError.message : ReportError → String
  | notFound name => "no report registered as '" ++ name ++ "'"
  | otherKind name => "report '" ++ name ++ "' has a different type"

namespace Season

variable {ρ μ α : Type}

/-- Adds a report at the end, and drops an earlier one of the same name. -/
def register (s : Season ρ μ) (name : String) (report : ρ) : Season ρ μ :=
  { s with reports := (s.reports.filter fun r => r.1 != name) ++ [(name, report)] }

/-- The names of the reports in the order of registration. -/
def names (s : Season ρ μ) : List String := s.reports.map Prod.fst

/-- Whether a game is scanned. -/
def chooses (s : Season ρ μ) (g : Game) : Bool := s.filter?.all (· g)

/-- The games of a book that are scanned. -/
def selection (s : Season ρ μ) (book : Scorebook) : List Game := book.games.filter s.chooses

/-- The season with other reports under the same names. -/
def withReports (s : Season ρ μ) (reports : List ρ) : Season ρ μ :=
  { s with reports := List.zipWith (fun (r : String × ρ) report => (r.1, report)) s.reports reports }

/-! ### Scanning -/

/-- Asks the monitor whether to go on. -/
def poll (s : Season ρ μ) (done total : Nat) (next : Game) : Bool × Season ρ μ :=
  match s.monitor? with
  | none => (true, s)
  | some m =>
    let (goOn, state) := m.progress m.state done total next
    (goOn, { s with monitor? := some { m with state } })

/-- Shows one game to all reports. -/
def scanGame [Observer ρ] (s : Season ρ μ) (g : Game) : Attempt (Season ρ μ) :=
  (watchGame g (s.reports.map Prod.snd)).map s.withReports

/-- Scans the games that are left, `done` of `total` being done. -/
def scanFrom [Observer ρ] (s : Season ρ μ) (done total : Nat) :
    List Game → Season ρ μ × Except ScoringError ScanOutcome
  | [] => (s, .ok (.complete total))
  | g :: rest =>
    match s.poll done total g with
    | (false, s) => (s, .ok (.incomplete done total))
    | (true, s) =>
      let a := s.scanGame g
      match a.error? with
      | some e => (a.state, .error e)
      | none => scanFrom a.state (done + 1) total rest

/-- Scans the chosen games of a book in order. -/
def scan [Observer ρ] (s : Season ρ μ) (book : Scorebook) :
    Season ρ μ × Except ScoringError ScanOutcome :=
  let games := s.selection book
  s.scanFrom 0 games.length games

/-! ### Reports by name -/

/-- The report of a name, seen as a certain kind. -/
def find (s : Season ρ μ) (view : ρ → Option α) (name : String) : Except ReportError α :=
  match s.reports.find? fun r => r.1 == name with
  | none => .error (.notFound name)
  | some r =>
    match view r.2 with
    | none => .error (.otherKind name)
    | some report => .ok report

/-- Hands out the report of a name and takes it off the season. -/
def take (s : Season ρ μ) (view : ρ → Option α) (name : String) :
    Except ReportError (α × Season ρ μ) :=
  (s.find view name).map fun report =>
    (report, { s with reports := s.reports.eraseP fun r => r.1 == name })

end Season

end Baseball
